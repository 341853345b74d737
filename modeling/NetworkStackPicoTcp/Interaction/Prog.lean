import Mathlib.Data.Nat.Notation
import Mathlib.Logic.Function.Basic
import Mathlib.Tactic.TypeStar

/-!
# Programs over a shared state that issue calls

A program `Prog σ ρ α` reads and writes a shared state `σ`, issues calls `e : ε` to the world around
it and continues with an answer of type `ρ e`. It is a tree, so it is run by recursion and every run
of it is finite.

Nothing here knows what the calls do. That is the business of an *environment* (`Env`): for each
call, which answers are possible and what the rest of the world may do to the shared state before
the call returns. One program is therefore run atomically, with callbacks inside its calls, or
interleaved with another thread, by changing the environment and not the program.

A world is a pair `σ × Γ`. The program sees only `σ`; `Γ` belongs to whoever observes it (a history,
a model of a peer) and is updated by `Env.onWrite` when the program writes and by `Env.onCall` when
a call returns.

## The two questions about a run

* `Outcome V p w a w'`: the program may return `a` in the world `w'`;
* `CallAt V p w e w'`: the program may be about to issue the call `e` in the world `w'`. This one
  does not ask the run to finish, so a call that never returns is still seen.
-/

/-- A program over the shared state `σ` whose call `e` is answered in `ρ e`. -/
inductive Prog (σ : Type) {ε : Type} (ρ : ε → Type) (α : Type) : Type
  | ret (a : α) : Prog σ ρ α
  | read (k : σ → Prog σ ρ α) : Prog σ ρ α
  | write (f : σ → σ) (k : Prog σ ρ α) : Prog σ ρ α
  | call (e : ε) (k : ρ e → Prog σ ρ α) : Prog σ ρ α

/-- What surrounds a program: how the observer sees a write, and how calls may be answered. -/
structure Env (σ : Type) {ε : Type} (ρ : ε → Type) (Γ : Type) where
  /-- The observer's state after the program's own write of the second state over the first. -/
  onWrite : σ → σ → Γ → Γ
  /-- The call may return the answer in the second world. -/
  onCall : (e : ε) → σ × Γ → ρ e → σ × Γ → Prop

namespace Env

variable {σ ε Γ : Type} {ρ : ε → Type}

/-- The world after the program's own write. -/
def write (V : Env σ ρ Γ) (f : σ → σ) (w : σ × Γ) : σ × Γ :=
  (f w.1, V.onWrite w.1 (f w.1) w.2)

@[simp] theorem write_fst (V : Env σ ρ Γ) (f : σ → σ) (w : σ × Γ) : (V.write f w).1 = f w.1 := rfl

@[simp] theorem write_snd (V : Env σ ρ Γ) (f : σ → σ) (w : σ × Γ) :
    (V.write f w).2 = V.onWrite w.1 (f w.1) w.2 := rfl

end Env

namespace Prog

variable {σ ε Γ : Type} {ρ : ε → Type} {α β : Type}

/-! ### The monad -/

/-- Sequencing. -/
def bind : Prog σ ρ α → (α → Prog σ ρ β) → Prog σ ρ β
  | ret a, k => k a
  | read g, k => read fun s ↦ (g s).bind k
  | write f p, k => write f (p.bind k)
  | call e g, k => call e fun b ↦ (g b).bind k

instance : Monad (Prog σ ρ) where
  pure := ret
  bind := bind

/-- Read the shared state. -/
def get : Prog σ ρ σ := read ret

/-- Update the shared state in one step. -/
def modify (f : σ → σ) : Prog σ ρ Unit := write f (ret ())

/-- Issue a call and return its answer. -/
def perform (e : ε) : Prog σ ρ (ρ e) := call e ret

/-! ### Runs -/

/-- The program may return `a` in the world `w'`. -/
def Outcome (V : Env σ ρ Γ) : Prog σ ρ α → σ × Γ → α → σ × Γ → Prop
  | ret b, w, a, w' => a = b ∧ w' = w
  | read k, w, a, w' => Outcome V (k w.1) w a w'
  | write f k, w, a, w' => Outcome V k (V.write f w) a w'
  | call e k, w, a, w' => ∃ b w₁, V.onCall e w b w₁ ∧ Outcome V (k b) w₁ a w'

/-- The program may be about to issue `e` in the world `w'`. -/
def CallAt (V : Env σ ρ Γ) : Prog σ ρ α → σ × Γ → ε → σ × Γ → Prop
  | ret _, _, _, _ => False
  | read k, w, e, w' => CallAt V (k w.1) w e w'
  | write f k, w, e, w' => CallAt V k (V.write f w) e w'
  | call e₀ k, w, e, w' =>
    (e = e₀ ∧ w' = w) ∨ ∃ b w₁, V.onCall e₀ w b w₁ ∧ CallAt V (k b) w₁ e w'

/-! ### Weakest preconditions

`C` is what the program owes at each of its calls, `Q` what it owes when it returns. -/

/-- Every call of the program is issued in a world that satisfies `C`, and it returns only in worlds
that satisfy `Q`. -/
def wp (V : Env σ ρ Γ) (C : ε → σ × Γ → Prop) :
    Prog σ ρ α → (α → σ × Γ → Prop) → σ × Γ → Prop
  | ret a, Q, w => Q a w
  | read k, Q, w => wp V C (k w.1) Q w
  | write f k, Q, w => wp V C k Q (V.write f w)
  | call e k, Q, w => C e w ∧ ∀ b w', V.onCall e w b w' → wp V C (k b) Q w'

section Rules

variable {V : Env σ ρ Γ} {C : ε → σ × Γ → Prop} {w : σ × Γ}

@[simp] theorem wp_pure {a : α} {Q : α → σ × Γ → Prop} :
    wp V C (pure a : Prog σ ρ α) Q w ↔ Q a w := Iff.rfl

@[simp] theorem wp_get {Q : σ → σ × Γ → Prop} : wp V C get Q w ↔ Q w.1 w := Iff.rfl

@[simp] theorem wp_modify {f : σ → σ} {Q : Unit → σ × Γ → Prop} :
    wp V C (modify f) Q w ↔ Q () (V.write f w) := Iff.rfl

@[simp] theorem wp_perform {e : ε} {Q : ρ e → σ × Γ → Prop} :
    wp V C (perform e) Q w ↔ C e w ∧ ∀ b w', V.onCall e w b w' → Q b w' := Iff.rfl

@[simp] theorem wp_bind {p : Prog σ ρ α} {k : α → Prog σ ρ β} {Q : β → σ × Γ → Prop} :
    wp V C (p >>= k) Q w ↔ wp V C p (fun a w' ↦ wp V C (k a) Q w') w := by
  show wp V C (p.bind k) Q w ↔ _
  induction p generalizing w with
  | ret a => rfl
  | read g ih => exact ih w.1
  | write f p ih => exact ih
  | call e g ih =>
    simp only [bind, wp]
    exact and_congr_right fun _ ↦ forall_congr' fun b ↦ forall_congr' fun w' ↦
      imp_congr_right fun _ ↦ ih b

@[simp] theorem wp_map {p : Prog σ ρ α} {f : α → β} {Q : β → σ × Γ → Prop} :
    wp V C (f <$> p) Q w ↔ wp V C p (fun a w' ↦ Q (f a) w') w :=
  wp_bind (p := p) (k := fun a ↦ ret (f a))

/-- What a program owes can be weakened. -/
theorem wp_mono {p : Prog σ ρ α} {C' : ε → σ × Γ → Prop} {Q Q' : α → σ × Γ → Prop}
    (hC : ∀ e w, C e w → C' e w) (hQ : ∀ a w, Q a w → Q' a w) (h : wp V C p Q w) :
    wp V C' p Q' w := by
  induction p generalizing w with
  | ret a => exact hQ a w h
  | read g ih => exact ih w.1 h
  | write f p ih => exact ih h
  | call e g ih => exact ⟨hC e w h.1, fun b w' hb ↦ ih b (h.2 b w' hb)⟩

/-- Two specifications of one program hold together. -/
theorem wp_and {p : Prog σ ρ α} {C' : ε → σ × Γ → Prop} {Q Q' : α → σ × Γ → Prop}
    (h : wp V C p Q w) (h' : wp V C' p Q' w) :
    wp V (fun e w ↦ C e w ∧ C' e w) p (fun a w ↦ Q a w ∧ Q' a w) w := by
  induction p generalizing w with
  | ret a => exact ⟨h, h'⟩
  | read g ih => exact ih w.1 h h'
  | write f p ih => exact ih h h'
  | call e g ih =>
    exact ⟨⟨h.1, h'.1⟩, fun b w' hb ↦ ih b (h.2 b w' hb) (h'.2 b w' hb)⟩

/-- What every write and every call preserves holds at every call of a program and when it returns,
whatever the program is. -/
theorem wp_of_invariant {I : σ × Γ → Prop} (hwrite : ∀ f w, I w → I (V.write f w))
    (hcall : ∀ e w b w', I w → V.onCall e w b w' → I w') (p : Prog σ ρ α) (h : I w) :
    wp V (fun _ ↦ I) p (fun _ ↦ I) w := by
  induction p generalizing w with
  | ret a => exact h
  | read g ih => exact ih w.1 h
  | write f p ih => exact ih (hwrite f w h)
  | call e g ih => exact ⟨h, fun b w' hb ↦ ih b (hcall e w b w' h hb)⟩

/-- A program that owes nothing. -/
theorem wp_true {p : Prog σ ρ α} : wp V (fun _ _ ↦ True) p (fun _ _ ↦ True) w :=
  wp_of_invariant (fun _ _ _ ↦ trivial) (fun _ _ _ _ _ _ ↦ trivial) p trivial

/-- **Weakest preconditions say what all runs do**, nothing less and nothing more. -/
theorem wp_iff {p : Prog σ ρ α} {Q : α → σ × Γ → Prop} :
    wp V C p Q w ↔
      (∀ a w', Outcome V p w a w' → Q a w') ∧ ∀ e w', CallAt V p w e w' → C e w' := by
  induction p generalizing w with
  | ret a =>
    refine ⟨fun h ↦ ⟨?_, fun e w' h' ↦ h'.elim⟩, fun h ↦ h.1 a w ⟨rfl, rfl⟩⟩
    rintro b w' ⟨rfl, rfl⟩
    exact h
  | read g ih => exact ih w.1
  | write f p ih => exact ih
  | call e g ih =>
    constructor
    · rintro ⟨hc, hk⟩
      refine ⟨?_, ?_⟩
      · rintro a w' ⟨b, w₁, hb, ho⟩
        exact ((ih b).1 (hk b w₁ hb)).1 a w' ho
      · rintro e' w' (⟨rfl, rfl⟩ | ⟨b, w₁, hb, hat⟩)
        · exact hc
        · exact ((ih b).1 (hk b w₁ hb)).2 e' w' hat
    · rintro ⟨ho, hat⟩
      refine ⟨hat e w (Or.inl ⟨rfl, rfl⟩), fun b w₁ hb ↦ (ih b).2 ⟨?_, ?_⟩⟩
      · exact fun a w' h ↦ ho a w' ⟨b, w₁, hb, h⟩
      · exact fun e' w' h ↦ hat e' w' (Or.inr ⟨b, w₁, hb, h⟩)

theorem outcome_of_wp {p : Prog σ ρ α} {Q : α → σ × Γ → Prop} {a : α} {w' : σ × Γ}
    (h : wp V C p Q w) (ho : Outcome V p w a w') : Q a w' :=
  (wp_iff.1 h).1 a w' ho

theorem callAt_of_wp {p : Prog σ ρ α} {Q : α → σ × Γ → Prop} {e : ε} {w' : σ × Γ}
    (h : wp V C p Q w) (hat : CallAt V p w e w') : C e w' :=
  (wp_iff.1 h).2 e w' hat

/-- A program returns in some way unless it owes the impossible. -/
theorem exists_outcome_iff {p : Prog σ ρ α} :
    (∃ a w', Outcome V p w a w') ↔ ¬ wp V (fun _ _ ↦ True) p (fun _ _ ↦ False) w := by
  rw [wp_iff]
  constructor
  · rintro ⟨a, w', ho⟩ ⟨h, -⟩
    exact h a w' ho
  · intro h
    by_contra hne
    exact h ⟨fun a w' ho ↦ hne ⟨a, w', ho⟩, fun _ _ _ ↦ trivial⟩

/-- A program whose calls can all be answered returns. -/
theorem exists_outcome_of_wp {p : Prog σ ρ α} {Q : α → σ × Γ → Prop}
    (hC : ∀ e w, C e w → ∃ b w', V.onCall e w b w') (h : wp V C p Q w) :
    ∃ a w', Outcome V p w a w' := by
  induction p generalizing w with
  | ret a => exact ⟨a, w, rfl, rfl⟩
  | read g ih => exact ih w.1 h
  | write f p ih => exact ih h
  | call e g ih =>
    obtain ⟨b, w₁, hb⟩ := hC e w h.1
    obtain ⟨a, w', ho⟩ := ih b (h.2 b w₁ hb)
    exact ⟨a, w', b, w₁, hb, ho⟩

end Rules

/-! ### Calls in a row

Some orders of calls can be read off the text of a program, whatever the calls return and whatever
happens to the state meanwhile. -/

/-- Every call of the program is one that `P` allows after the call right before it; `none` stands
for no such call, and after a write there is none. -/
def Chained (P : Option ε → ε → Prop) : Prog σ ρ α → Option ε → Prop
  | ret _, _ => True
  | read k, last => ∀ s, Chained P (k s) last
  | write _ k, _ => Chained P k none
  | call e k, last => P last e ∧ ∀ b, Chained P (k b) (some e)

section Chain

variable {P : Option ε → ε → Prop} {p : Prog σ ρ α} {last : Option ε}

theorem chained_pure {a : α} : Chained P (pure a : Prog σ ρ α) last := trivial

theorem chained_get : Chained P (get : Prog σ ρ σ) last := fun _ ↦ trivial

theorem chained_modify {f : σ → σ} : Chained P (modify f : Prog σ ρ Unit) last := trivial

theorem chained_perform {e : ε} (he : P last e) : Chained P (perform e : Prog σ ρ (ρ e)) last :=
  ⟨he, fun _ ↦ trivial⟩

theorem chained_bind {k : α → Prog σ ρ β} (hp : Chained P p last)
    (hk : ∀ a last, Chained P (k a) last) : Chained P (p >>= k) last := by
  show Chained P (p.bind k) last
  induction p generalizing last with
  | ret a => exact hk a last
  | read g ih => exact fun s ↦ ih s (hp s)
  | write f p ih => exact ih hp
  | call e g ih => exact ⟨hp.1, fun b ↦ ih b (hp.2 b)⟩

theorem chained_map {f : α → β} (hp : Chained P p last) : Chained P (f <$> p) last :=
  chained_bind (k := fun a ↦ ret (f a)) hp fun _ _ ↦ trivial

end Chain

/-! ### Evaluation

A deterministic handler for the calls turns a program into a function, so that single runs can be
computed. -/

/-- Run a program against a handler. The handler's `none` stops the run. -/
def eval (onWrite : σ → σ → Γ → Γ) (handle : (e : ε) → σ × Γ → Option (ρ e × (σ × Γ))) :
    Prog σ ρ α → σ × Γ → Option (α × (σ × Γ))
  | ret a, w => some (a, w)
  | read k, w => eval onWrite handle (k w.1) w
  | write f k, w => eval onWrite handle k (f w.1, onWrite w.1 (f w.1) w.2)
  | call e k, w => (handle e w).bind fun r ↦ eval onWrite handle (k r.1) r.2

/-- A computed run is a run of any environment that allows what the handler does. -/
theorem outcome_of_eval {V : Env σ ρ Γ} {handle : (e : ε) → σ × Γ → Option (ρ e × (σ × Γ))}
    (hV : ∀ e w b w', handle e w = some (b, w') → V.onCall e w b w') {p : Prog σ ρ α} {w : σ × Γ}
    {a : α} {w' : σ × Γ} (h : eval V.onWrite handle p w = some (a, w')) : Outcome V p w a w' := by
  induction p generalizing w with
  | ret b =>
    obtain ⟨rfl, rfl⟩ := Prod.mk.inj (Option.some.inj h)
    exact ⟨rfl, rfl⟩
  | read g ih => exact ih w.1 h
  | write f p ih => exact ih h
  | call e g ih =>
    obtain ⟨⟨b, w₁⟩, hb, hr⟩ := Option.bind_eq_some_iff.1 h
    exact ⟨b, w₁, hV e w b w₁ hb, ih b hr⟩


/-- Run a program against a handler up to the first call that the handler does not answer. -/
def stop (onWrite : σ → σ → Γ → Γ) (handle : (e : ε) → σ × Γ → Option (ρ e × (σ × Γ))) :
    Prog σ ρ α → σ × Γ → Option (ε × (σ × Γ))
  | ret _, _ => none
  | read k, w => stop onWrite handle (k w.1) w
  | write f k, w => stop onWrite handle k (f w.1, onWrite w.1 (f w.1) w.2)
  | call e k, w =>
    match handle e w with
    | none => some (e, w)
    | some r => stop onWrite handle (k r.1) r.2

theorem callAt_of_stop {V : Env σ ρ Γ} {handle : (e : ε) → σ × Γ → Option (ρ e × (σ × Γ))}
    (hV : ∀ e w b w', handle e w = some (b, w') → V.onCall e w b w') {p : Prog σ ρ α} {w : σ × Γ}
    {e : ε} {w' : σ × Γ} (h : stop V.onWrite handle p w = some (e, w')) : CallAt V p w e w' := by
  induction p generalizing w with
  | ret b => exact absurd h (Option.some_ne_none (e, w')).symm
  | read g ih => exact ih w.1 h
  | write f p ih => exact ih h
  | call e₀ g ih =>
    rw [stop] at h
    cases hb : handle e₀ w with
    | none =>
      rw [hb] at h
      obtain ⟨rfl, rfl⟩ := Prod.mk.inj (Option.some.inj h)
      exact Or.inl ⟨rfl, rfl⟩
    | some r =>
      rw [hb] at h
      exact Or.inr ⟨r.1, r.2, hV e₀ w r.1 r.2 hb, ih r.1 h⟩

end Prog
