import Mathlib.Data.Nat.Pairing
import Mathlib.Logic.Relation

/-!
# Fair schedules exist

A relation on states, and countably many kinds of its steps. From every state there is an infinite
run that is strongly fair to every kind: one of which a step is possible again and again is taken
(`exists_fair`). So a result about fair runs says something of every state.

The run gives the kinds turns, each of them infinitely many. On its turn, a kind of which a step
will be possible after some steps is given these steps and then that step; otherwise nothing
happens.
-/

namespace FairSchedule

open Relation (ReflTransGen)

variable {α : Type} {R : α → α → Prop} {x y : α}

/-- The sequence goes along the relation, and may rest. -/
def Goes (R : α → α → Prop) (f : ℕ → α) : Prop := ∀ n, f (n + 1) = f n ∨ R (f n) (f (n + 1))

theorem Goes.reflTransGen {f : ℕ → α} (hf : Goes R f) {n m : ℕ} (hm : n ≤ m) :
    ReflTransGen R (f n) (f m) := by
  obtain ⟨d, rfl⟩ := Nat.exists_eq_add_of_le hm
  clear hm
  induction d with
  | zero => exact .refl
  | succ d ih =>
    rcases hf (n + d) with heq | hs
    · rw [Nat.add_succ, heq]
      exact ih
    · exact ih.tail hs

/-- A state in front of a sequence. -/
def cons (x : α) (f : ℕ → α) : ℕ → α
  | 0 => x
  | n + 1 => f n

theorem Goes.cons {f : ℕ → α} (hf : Goes R f) (h : R x (f 0)) : Goes R (cons x f) := by
  intro n
  cases n with
  | zero => exact Or.inr h
  | succ n => exact hf n

/-- A path in front of a sequence. -/
theorem exists_goes (h : ReflTransGen R x y) {f : ℕ → α} (hf : Goes R f) (h₀ : f 0 = y) :
    ∃ g : ℕ → α, g 0 = x ∧ Goes R g ∧ ∃ n, ∀ m, g (n + m) = f m := by
  induction h using ReflTransGen.head_induction_on with
  | refl => exact ⟨f, h₀, hf, 0, fun m ↦ congrArg f (Nat.zero_add m)⟩
  | head hs _ ih =>
    obtain ⟨g, hg₀, hg, n, hn⟩ := ih
    refine ⟨cons _ g, rfl, hg.cons (hg₀ ▸ hs), n + 1, fun m ↦ ?_⟩
    rw [Nat.succ_add]
    exact hn m

variable (R) in
/-- The turn of a kind of steps, from the state `x`: the sequence `f`, up to its place `n + 1`. -/
structure Turn (A : α → α → Prop) (x : α) where
  f : ℕ → α
  zero : f 0 = x
  goes : Goes R f
  n : ℕ
  taken : (∃ y z, ReflTransGen R x y ∧ A y z) → A (f n) (f (n + 1))

theorem exists_turn {A : α → α → Prop} (hA : ∀ y z, A y z → R y z) (x : α) :
    Nonempty (Turn R A x) := by
  by_cases h : ∃ y z, ReflTransGen R x y ∧ A y z
  · obtain ⟨y, z, hpath, hstep⟩ := h
    -- the path, the step, and a rest
    have hrest : Goes R (cons y fun _ ↦ z) := Goes.cons (fun _ ↦ Or.inl rfl) (hA y z hstep)
    obtain ⟨f, h₀, hf, n, hn⟩ := exists_goes hpath hrest rfl
    refine ⟨⟨f, h₀, hf, n, fun _ ↦ ?_⟩⟩
    have hy := hn 0
    have hz := hn 1
    rw [Nat.add_zero] at hy
    rw [hy, hz]
    exact hstep
  · exact ⟨⟨fun _ ↦ x, rfl, fun _ ↦ Or.inl rfl, 0, fun h' ↦ absurd h' h⟩⟩

/-! ### One turn after the other -/

section Turns

variable {A : ℕ → α → α → Prop} (T : (k : ℕ) → (x : α) → Turn R (A k) x)

/-- A place in the schedule: the number of the turn, the state in which it began, and the place in
it. -/
structure Place (α : Type) where
  turn : ℕ
  start : α
  pos : ℕ

/-- The state at a place. -/
def Place.state (p : Place α) : α := (T p.turn p.start).f p.pos

/-- The next place. -/
def Place.next (p : Place α) : Place α :=
  if p.pos < (T p.turn p.start).n then { p with pos := p.pos + 1 }
  else ⟨p.turn + 1, (T p.turn p.start).f ((T p.turn p.start).n + 1), 0⟩

/-- The places of the schedule, from the state `x`. -/
def places (x : α) : ℕ → Place α
  | 0 => ⟨0, x, 0⟩
  | n + 1 => (places x n).next T

variable {T}

theorem pos_le (n : ℕ) : (places T x n).pos ≤ (T (places T x n).turn (places T x n).start).n := by
  induction n with
  | zero => exact Nat.zero_le _
  | succ n ih =>
    show ((places T x n).next T).pos ≤
      (T ((places T x n).next T).turn ((places T x n).next T).start).n
    by_cases hlt : (places T x n).pos < (T (places T x n).turn (places T x n).start).n
    · rw [Place.next, if_pos hlt]
      exact hlt
    · rw [Place.next, if_neg hlt]
      exact Nat.zero_le _

theorem goes_places : Goes R fun n ↦ (places T x n).state T := by
  intro n
  have hle := pos_le (T := T) (x := x) n
  show ((places T x n).next T).state T = (places T x n).state T ∨
    R ((places T x n).state T) (((places T x n).next T).state T)
  generalize places T x n = p at hle
  by_cases hlt : p.pos < (T p.turn p.start).n
  · rw [Place.next, if_pos hlt]
    exact (T p.turn p.start).goes p.pos
  · -- the turn is over, and the next one begins where it ends
    have hpos : p.pos = (T p.turn p.start).n := Nat.le_antisymm hle (Nat.not_lt.1 hlt)
    rw [Place.next, if_neg hlt, Place.state, Place.state, (T _ _).zero, hpos]
    exact (T p.turn p.start).goes _

/-- A turn goes on to its end. -/
theorem places_add {n k j : ℕ} {y : α} (h : places T x n = ⟨k, y, 0⟩) (hj : j ≤ (T k y).n) :
    places T x (n + j) = ⟨k, y, j⟩ := by
  induction j with
  | zero => exact h
  | succ j ih =>
    show (places T x (n + j)).next T = ⟨k, y, j + 1⟩
    rw [ih (Nat.le_of_succ_le hj), Place.next, if_pos (Nat.lt_of_succ_le hj)]

theorem places_succ {n k : ℕ} {y : α} (h : places T x n = ⟨k, y, 0⟩) :
    places T x (n + (T k y).n + 1) = ⟨k + 1, (T k y).f ((T k y).n + 1), 0⟩ := by
  show (places T x (n + (T k y).n)).next T = _
  rw [places_add h (Nat.le_refl _), Place.next, if_neg (Nat.lt_irrefl _)]

/-- Every turn comes. -/
theorem exists_places (k : ℕ) : ∃ n y, k ≤ n ∧ places T x n = ⟨k, y, 0⟩ := by
  induction k with
  | zero => exact ⟨0, x, Nat.le_refl 0, rfl⟩
  | succ k ih =>
    obtain ⟨n, y, hk, h⟩ := ih
    exact ⟨_, _, by omega, places_succ h⟩

end Turns

/-- **There are fair runs from every state.** -/
theorem exists_fair (act : ℕ → α → α → Prop) (hact : ∀ i y z, act i y z → R y z) (x : α) :
    ∃ f : ℕ → α, f 0 = x ∧ Goes R f ∧
      ∀ i n, (∀ l, n ≤ l → ∃ m, l ≤ m ∧ ∃ y, act i (f m) y) →
      ∃ m, n ≤ m ∧ act i (f m) (f (m + 1)) := by
  -- kind `i` has the turns `Nat.pair i n`
  have T : (k : ℕ) → (x : α) → Turn R (act (Nat.unpair k).1) x := fun k x ↦
    Classical.choice (exists_turn (hact _) x)
  have hgoes : Goes R fun n ↦ (places T x n).state T := goes_places
  refine ⟨fun n ↦ (places T x n).state T, (T 0 x).zero, hgoes, fun i n hen ↦ ?_⟩
  obtain ⟨m, y, hm, hplace⟩ := exists_places (T := T) (x := x) (Nat.pair i n)
  have hnm : n ≤ m := (Nat.right_le_pair i n).trans hm
  have hstate : (places T x m).state T = y := by
    rw [hplace]
    exact (T _ y).zero
  obtain ⟨l, hl, z, hz⟩ := hen m hnm
  have hkind : ∀ {a b}, act (Nat.unpair (Nat.pair i n)).1 a b ↔ act i a b := by
    intro a b
    rw [Nat.unpair_pair]
  have hpath : ReflTransGen R y ((places T x l).state T) := hstate ▸ hgoes.reflTransGen hl
  have htaken := (T (Nat.pair i n) y).taken ⟨_, z, hpath, hkind.2 hz⟩
  refine ⟨m + (T (Nat.pair i n) y).n, hnm.trans (Nat.le_add_right _ _), ?_⟩
  have hend := places_add hplace (Nat.le_refl _)
  have hnext := places_succ hplace
  show act i ((places T x _).state T) ((places T x _).state T)
  rw [hend, hnext, Place.state, Place.state, (T _ _).zero]
  exact hkind.1 htaken

end FairSchedule
