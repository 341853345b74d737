import Mathlib.Data.Nat.Notation
import Mathlib.Data.List.Nodup
import Mathlib.Data.List.Range
import Mathlib.Order.Interval.Finset.Nat
import Mathlib.Tactic.Common
import NetworkStackPicoTcp.Interaction.Since

/-!
# Going round a ring

A cursor goes round a ring of `n` slots, one round at a time. In a round it looks at the slot under
its head, reports it or not, and moves on. A round may stop after any slot, and it stops at the
latest when the head is back at the tail, where the round began; the next round begins where this
one stopped.

Nothing is said about when a slot is due. That may change at any time, and each look records what it
found. This is enough for three facts about all runs:

* between two reports of one slot, every other slot that was due whenever the cursor looked at it
  has been reported (`Run.fair`);
* no slot is reported twice in one round (`Run.once`);
* a slot that is due whenever the cursor looks at it is reported after fewer than `n` other reports
  and with the `n`-th look at the latest (`Run.waits`).
-/

namespace RoundRobin

open Trace (Since)

/-- What the cursor has done with the slot under its head. -/
inductive Stage
  /-- No round is under way. -/
  | idle
  | looked (due : Bool)
  | reported
  /-- The head has moved here, and the slot has not been looked at. -/
  | moved
  deriving DecidableEq

/-- Where the cursor is. -/
structure Cursor where
  stage : Stage
  head : ℕ
  /-- Where the round began. -/
  tail : ℕ

/-- What can be seen of a run. -/
inductive Event
  | look (i : ℕ) (due : Bool)
  | report (i : ℕ)
  /-- The round is over. -/
  | rest
  deriving DecidableEq

/-- The slot behind slot `i`. -/
def next (n i : ℕ) : ℕ := if i + 1 = n then 0 else i + 1

/-- The cursor can be here after these events, newest first. -/
inductive Run (n : ℕ) : Cursor → List Event → Prop
  | start {t : ℕ} (ht : t < n) : Run n ⟨.idle, t, t⟩ []
  | look {q : Cursor} {tr : List Event} (due : Bool) (h : Run n q tr)
      (hq : q.stage = .idle ∨ q.stage = .moved ∧ q.head ≠ q.tail) :
      Run n { q with stage := .looked due } (.look q.head due :: tr)
  | report {q : Cursor} {tr : List Event} (h : Run n q tr) (hq : q.stage = .looked true) :
      Run n { q with stage := .reported } (.report q.head :: tr)
  | move {q : Cursor} {tr : List Event} (h : Run n q tr)
      (hq : q.stage = .looked false ∨ q.stage = .reported) :
      Run n { q with stage := .moved, head := next n q.head } tr
  | settle {q : Cursor} {tr : List Event} (h : Run n q tr) (hq : q.stage = .moved) :
      Run n { q with tail := q.head } tr
  | rest {q : Cursor} {tr : List Event} (h : Run n q tr)
      (hq : q.stage = .idle ∨ q.stage = .moved ∧ q.head = q.tail) :
      Run n { q with stage := .idle } (.rest :: tr)

variable {n a b i j : ℕ} {q : Cursor} {tr later between earlier : List Event}

/-! ### Distances on the ring -/

/-- How many moves lead from slot `a` to slot `b`. -/
def dist (n a b : ℕ) : ℕ := if a ≤ b then b - a else b + n - a

theorem next_lt (hn : 0 < n) (ha : a < n) : next n a < n := by
  unfold next
  split_ifs <;> omega

@[simp] theorem dist_self : dist n a a = 0 := by
  rw [dist, if_pos (Nat.le_refl a), Nat.sub_self]

theorem dist_pos (ha : a < n) (hab : b ≠ a) : 0 < dist n a b := by
  unfold dist
  split_ifs <;> omega

/-- A move that does not end at `a` leads away from it. -/
theorem dist_next (ha : a < n) (hne : next n b ≠ a) :
    dist n a (next n b) = dist n a b + 1 := by
  unfold dist next at *
  split_ifs at * <;> omega

/-- A head on the way from `a` to `i` that is not at `i` does not come back to `a` before. -/
theorem next_ne_of_dist_le (ha : a < n) (hb : b < n) (hi : i < n) (hbi : b ≠ i)
    (hle : dist n a b ≤ dist n a i) : next n b ≠ a ∧ dist n a b < dist n a i := by
  unfold dist next at *
  split_ifs at * <;> omega

/-! ### One round -/

/-- The slots in the order in which a round that begins at slot `a` comes to them. -/
def round (n a : ℕ) : List ℕ := (List.range n).map fun j ↦ (a + j) % n

@[simp] theorem length_round : (round n a).length = n := by
  rw [round, List.length_map, List.length_range]

theorem round_take_succ (hj : j < n) :
    (round n a).take (j + 1) = (round n a).take j ++ [(a + j) % n] := by
  have hlen : j < (round n a).length := by rwa [length_round]
  rw [List.take_add_one, List.getElem?_eq_getElem hlen]
  simp [round]

/-- A round comes to every slot once. -/
theorem nodup_round : (round n a).Nodup := by
  refine (List.nodup_map_iff_inj_on List.nodup_range).2 fun j hj k hk heq ↦ ?_
  have hj' := List.mem_range.1 hj
  have hk' := List.mem_range.1 hk
  have hadd : a + j = a + k := Nat.mod_injOn_Ico a n (by simp [hj']) (by simp [hk']) heq
  exact Nat.add_left_cancel hadd

/-- A round has not been at the slot that it comes to next. -/
theorem notMem_round_take (hj : j < n) : (a + j) % n ∉ (round n a).take j := by
  have hnodup : ((round n a).take (j + 1)).Nodup := nodup_round.sublist (List.take_sublist _ _)
  rw [round_take_succ hj] at hnodup
  exact fun hmem ↦ List.disjoint_of_nodup_append hnodup hmem (List.mem_singleton_self _)

theorem next_add_mod (hn : 0 < n) : next n ((a + j) % n) = (a + (j + 1)) % n := by
  have hlt := Nat.mod_lt (a + j) hn
  have hsucc : (a + (j + 1)) % n = ((a + j) % n + 1) % n := by rw [Nat.mod_add_mod, Nat.add_assoc]
  rw [next, hsucc]
  split_ifs with hend
  · rw [hend, Nat.mod_self]
  · exact (Nat.mod_eq_of_lt (by omega)).symm

/-- A round is back where it began after all slots. -/
theorem add_mod_eq_self_iff (ha : a < n) (hpos : 0 < j) (hj : j ≤ n) : (a + j) % n = a ↔ j = n := by
  constructor
  · intro hback
    by_contra hne
    by_cases hlt : a + j < n
    · rw [Nat.mod_eq_of_lt hlt] at hback
      omega
    · rw [Nat.mod_eq_sub_mod (by omega), Nat.mod_eq_of_lt (by omega)] at hback
      omega
  · rintro rfl
    rw [Nat.add_mod_right, Nat.mod_eq_of_lt ha]

/-- The due slots among the first slots of a round are the first due slots. -/
theorem filter_take_round (due : ℕ → Bool) (j : ℕ) :
    ((round n a).take j).filter due =
      ((round n a).filter due).take (((round n a).take j).filter due).length :=
  List.prefix_iff_eq_take.1 ((List.take_prefix j (round n a)).filter due)

/-! ### What every run keeps -/

theorem Run.bounds (h : Run n q tr) : q.head < n ∧ q.tail < n := by
  induction h with
  | start ht => exact ⟨ht, ht⟩
  | look _ _ _ ih | report _ _ ih | rest _ _ ih => exact ih
  | move _ _ ih => exact ⟨next_lt (by omega) ih.1, ih.2⟩
  | settle _ _ ih => exact ⟨ih.1, ih.1⟩

/-- What was seen before was seen of a run. -/
theorem Run.of_append (h : Run n q (later ++ earlier)) : ∃ q₀, Run n q₀ earlier := by
  generalize htr : later ++ earlier = tr at h
  induction h generalizing later with
  | @start t ht =>
    obtain ⟨-, rfl⟩ := List.append_eq_nil_iff.1 htr
    exact ⟨_, .start ht⟩
  | @look q tr due h hq ih =>
    rcases later with - | ⟨x, later⟩
    · obtain rfl : earlier = _ := htr
      exact ⟨_, .look due h hq⟩
    · exact ih (List.cons.inj htr).2
  | @report q tr h hq ih =>
    rcases later with - | ⟨x, later⟩
    · obtain rfl : earlier = _ := htr
      exact ⟨_, .report h hq⟩
    · exact ih (List.cons.inj htr).2
  | move h hq ih => exact ih htr
  | settle h hq ih => exact ih htr
  | @rest q tr h hq ih =>
    rcases later with - | ⟨x, later⟩
    · obtain rfl : earlier = _ := htr
      exact ⟨_, .rest h hq⟩
    · exact ih (List.cons.inj htr).2

/-- A slot is reported where the head is, after a look that found it due. -/
theorem Run.report_inv (h : Run n q (.report j :: earlier)) :
    ∃ q₀, Run n q₀ earlier ∧ q₀.head = j ∧ q₀.stage = .looked true := by
  generalize htr : Event.report j :: earlier = tr at h
  induction h with
  | start | look | rest => simp at htr
  | @report q tr h hq =>
    obtain ⟨hj, rfl⟩ := List.cons.inj htr
    exact ⟨q, h, (Event.report.inj hj).symm, hq⟩
  | move _ _ ih | settle _ _ ih => exact ih htr

/-! ### Between two reports of one slot -/

/-- The head is at `j`, whose report is the last thing that happened, or on its way from `j` to `i`,
and has not passed `i`. -/
def Away (n i j : ℕ) (q : Cursor) : Prop :=
  q.stage = .reported ∧ q.head = j ∨
    0 < dist n j q.head ∧ dist n j q.head ≤ dist n j i ∧
      (q.head = i → q.stage ≠ .reported ∧ q.stage ≠ .looked false)

/-- As long as slot `i` is found due and not reported, the head cannot pass it. -/
theorem Run.away (h : Run n q tr) (hi : i < n) (hj : j < n) (hij : i ≠ j)
    (hs : Since (fun e ↦ e ≠ .report i ∧ e ≠ .look i false) (· = .report j) tr) :
    Away n i j q := by
  induction h with
  | start => exact hs.elim
  | @look q tr due h hq ih =>
    rcases hs with hs | ⟨⟨-, hlook⟩, hs⟩
    · exact absurd hs (by simp)
    · rcases ih hs with ⟨hrep, -⟩ | ⟨hpos, hle, -⟩
      · exact absurd hrep (by rcases hq with hq | ⟨hq, -⟩ <;> simp [hq])
      · refine Or.inr ⟨hpos, hle, fun hhead ↦ ⟨by simp, ?_⟩⟩
        have hhead' : q.head = i := hhead
        intro hdue
        obtain rfl : due = false := Stage.looked.inj hdue
        exact hlook (by rw [hhead'])
  | @report q tr h hq ih =>
    rcases hs with hs | ⟨⟨hrep, -⟩, hs⟩
    · exact Or.inl ⟨rfl, Event.report.inj hs⟩
    · rcases ih hs with ⟨hst, -⟩ | ⟨hpos, hle, -⟩
      · exact absurd hst (by simp [hq])
      · refine Or.inr ⟨hpos, hle, fun hhead ↦ ?_⟩
        have hhead' : q.head = i := hhead
        exact absurd (by rw [hhead']) hrep
  | @move q tr h hq ih =>
    have hlt := h.bounds.1
    rcases ih hs with ⟨-, rfl⟩ | ⟨hpos, hle, hat⟩
    · -- the first move after the report
      have hne : next n q.head ≠ q.head := by
        unfold next
        split_ifs <;> omega
      have hstep := dist_next hj hne
      have hfar := dist_pos hj hij
      refine Or.inr ⟨by simp [hstep], ?_, fun _ ↦ by simp⟩
      show dist n q.head (next n q.head) ≤ _
      rw [hstep, dist_self]
      exact hfar
    · -- a look found `i` not due, so the head is not at `i`, and it comes to `i` before `j` again
      have hne : q.head ≠ i := by
        intro hhead
        rcases hq with hq | hq
        · exact (hat hhead).2 hq
        · exact (hat hhead).1 hq
      obtain ⟨hback, hless⟩ := next_ne_of_dist_le hj hlt hi hne hle
      have hstep := dist_next hj hback
      refine Or.inr ⟨?_, ?_, fun _ ↦ by simp⟩
      · show 0 < dist n j (next n q.head)
        omega
      · show dist n j (next n q.head) ≤ _
        omega
  | @settle q tr h hq ih => exact ih hs
  | @rest q tr h hq ih =>
    rcases hs with hs | ⟨-, hs⟩
    · exact absurd hs (by simp)
    · rcases ih hs with ⟨hrep, -⟩ | ⟨hpos, hle, -⟩
      · exact absurd hrep (by rcases hq with hq | ⟨hq, -⟩ <;> simp [hq])
      · exact Or.inr ⟨hpos, hle, fun _ ↦ by simp⟩

/-- **No slot is passed over.** Between two reports of slot `j`, a slot that was due whenever the
cursor looked at it has been reported. -/
theorem Run.fair (h : Run n q (later ++ .report j :: between ++ .report j :: earlier)) (hi : i < n)
    (hij : i ≠ j) (hdue : ∀ due, .look i due ∈ between → due = true) : .report i ∈ between := by
  by_contra hnot
  rw [List.append_assoc] at h
  obtain ⟨q₁, h₁⟩ := h.of_append
  obtain ⟨q₀, h₀, rfl, hst⟩ := h₁.report_inv
  have hj := h₀.bounds.1
  have hsince : Since (fun e ↦ e ≠ .report i ∧ e ≠ .look i false) (· = .report q₀.head)
      (between ++ .report q₀.head :: earlier) := by
    refine Trace.since_iff.2 ⟨between, _, earlier, rfl, rfl, fun e he ↦ ⟨?_, ?_⟩⟩
    · rintro rfl
      exact hnot he
    · rintro rfl
      exact Bool.false_ne_true (hdue false he)
  rcases h₀.away hi hj hij hsince with ⟨hrep, -⟩ | ⟨hpos, -⟩
  · exact absurd hrep (by simp [hst])
  · exact absurd hpos (by simp)

/-! ### Within one round -/

/-- The round that has reported `j` goes on behind it. -/
def Onward (n j : ℕ) (q : Cursor) : Prop :=
  q.stage ≠ .idle ∧ (q.stage = .reported ∧ q.head = j ∨ dist n q.tail j < dist n q.tail q.head ∨
    q.stage = .moved ∧ q.head = q.tail)

theorem Run.onward (h : Run n q tr) (hs : Since (· ≠ .rest) (· = .report j) tr) : Onward n j q := by
  induction h with
  | start => exact hs.elim
  | @look q tr due h hq ih =>
    rcases hs with hs | ⟨-, hs⟩
    · exact absurd hs (by simp)
    · obtain ⟨hidle, hon⟩ := ih hs
      have hmoved := hq.resolve_left hidle
      refine ⟨by simp, Or.inr (Or.inl ?_)⟩
      rcases hon with ⟨hrep, -⟩ | hfar | ⟨-, hback⟩
      · exact absurd hrep (by simp [hmoved.1])
      · exact hfar
      · exact absurd hback hmoved.2
  | @report q tr h hq ih =>
    rcases hs with hs | ⟨-, hs⟩
    · exact ⟨by simp, Or.inl ⟨rfl, Event.report.inj hs⟩⟩
    · obtain ⟨-, hon⟩ := ih hs
      refine ⟨by simp, Or.inr (Or.inl ?_)⟩
      rcases hon with ⟨hrep, -⟩ | hfar | ⟨hmoved, -⟩
      · exact absurd hrep (by simp [hq])
      · exact hfar
      · exact absurd hmoved (by simp [hq])
  | @move q tr h hq ih =>
    obtain ⟨-, hon⟩ := ih hs
    have htail := h.bounds.2
    refine ⟨by simp, Or.inr ?_⟩
    -- the sweep ends when the head is back at the tail, and until then it gets away from it
    by_cases hback : next n q.head = q.tail
    · exact Or.inr ⟨rfl, hback⟩
    · have hstep := dist_next htail hback
      refine Or.inl ?_
      show dist n q.tail j < dist n q.tail (next n q.head)
      rcases hon with ⟨-, rfl⟩ | hfar | ⟨hmoved, -⟩
      · omega
      · omega
      · exact absurd hmoved (by rcases hq with hq | hq <;> simp [hq])
  | @settle q tr h hq ih =>
    obtain ⟨hidle, -⟩ := ih hs
    exact ⟨hidle, Or.inr (Or.inr ⟨hq, rfl⟩)⟩
  | @rest q tr h hq ih =>
    rcases hs with hs | ⟨hrest, -⟩
    · exact absurd hs (by simp)
    · exact absurd rfl hrest

/-- **No slot is reported twice in a round.** -/
theorem Run.once (h : Run n q (later ++ .report i :: between ++ .report j :: earlier))
    (hround : .rest ∉ between) : i ≠ j := by
  rintro rfl
  rw [List.append_assoc] at h
  obtain ⟨q₁, h₁⟩ := h.of_append
  obtain ⟨q₀, h₀, rfl, hst⟩ := h₁.report_inv
  have hsince : Since (· ≠ .rest) (· = .report q₀.head)
      (between ++ .report q₀.head :: earlier) := by
    refine Trace.since_iff.2 ⟨between, _, earlier, rfl, rfl, ?_⟩
    rintro e he rfl
    exact hround he
  obtain ⟨-, ⟨hrep, -⟩ | hfar | ⟨hmoved, -⟩⟩ := h₀.onward hsince
  · exact absurd hrep (by simp [hst])
  · exact absurd hfar (Nat.lt_irrefl _)
  · exact absurd hmoved (by simp [hst])

/-! ### How long a slot waits -/

/-- The cursor looks at a slot. -/
def Event.isLook : Event → Bool
  | .look .. => true
  | _ => false

/-- The cursor reports a slot. -/
def Event.isReport : Event → Bool
  | .report _ => true
  | _ => false

/-- The slot that the cursor is dealing with, or comes to next if it has done with the one under its
head. -/
def Cursor.slot (n : ℕ) (q : Cursor) : ℕ :=
  if q.stage = .looked false ∨ q.stage = .reported then next n q.head else q.head

theorem dist_lt (ha : a < n) (hb : b < n) : dist n a b < n := by
  unfold dist
  split_ifs <;> omega

/-- A move brings the head a slot closer to all slots but the one that it leaves. -/
theorem dist_next_add_one (ha : a < n) (hb : b < n) (hab : a ≠ b) :
    dist n (next n a) b + 1 = dist n a b := by
  unfold dist next
  split_ifs <;> omega

theorem Run.slot_lt (h : Run n q tr) : q.slot n < n := by
  have hlt := h.bounds.1
  unfold Cursor.slot
  split_ifs
  · exact next_lt (by omega) hlt
  · exact hlt

/-- Slot `i` still waits: the slots reported and looked at meanwhile, and those in front of it, are
slots of one round. -/
def Waits (n i : ℕ) (q : Cursor) (new : List Event) : Prop :=
  new.countP Event.isReport + dist n (q.slot n) i < n ∧
    new.countP Event.isLook + dist n (q.slot n) i + (if q.stage = .looked true then 0 else 1) ≤ n

theorem Run.waits_nil (h : Run n q tr) (hi : i < n) : Waits n i q [] := by
  have hlt := dist_lt h.slot_lt hi
  refine ⟨by simpa using hlt, ?_⟩
  show 0 + dist n (q.slot n) i + _ ≤ n
  split_ifs <;> omega

/-- **No slot waits for long.** While slot `i` is found due whenever the cursor looks at it and is
not reported, the cursor makes fewer than `n` reports, and with the `n`-th look it has come to
`i`. -/
theorem Run.waits {new : List Event} (h : Run n q (new ++ earlier)) (hi : i < n)
    (hnew : ∀ e ∈ new, e ≠ .report i ∧ e ≠ .look i false) : Waits n i q new := by
  generalize htr : new ++ earlier = tr at h
  induction h generalizing new with
  | @start t ht =>
    obtain ⟨rfl, -⟩ := List.append_eq_nil_iff.1 htr
    exact (Run.start ht).waits_nil hi
  | @look q tr due h hq ih =>
    rcases new with - | ⟨e, new⟩
    · exact (h.look due hq).waits_nil hi
    obtain ⟨rfl, htail⟩ := List.cons.inj htr
    obtain ⟨⟨-, hlook⟩, hrest⟩ := List.forall_mem_cons.1 hnew
    obtain ⟨hreports, hlooks⟩ := ih hrest htail
    have hslot : q.slot n = q.head := if_neg (by rcases hq with hq | ⟨hq, -⟩ <;> simp [hq])
    have hfresh : q.stage ≠ .looked true := by rcases hq with hq | ⟨hq, -⟩ <;> simp [hq]
    rw [hslot] at hreports hlooks
    rw [if_neg hfresh] at hlooks
    cases due with
    | true =>
      have hslot' : Cursor.slot n { q with stage := .looked true } = q.head := if_neg (by simp)
      refine ⟨?_, ?_⟩
      · rw [hslot', List.countP_cons_of_neg (by simp [Event.isReport])]
        exact hreports
      · rw [hslot', List.countP_cons_of_pos rfl, if_pos rfl]
        omega
    | false =>
      -- the slot under the head is not `i`, which is never found not due
      have hne : q.head ≠ i := fun heq ↦ hlook (by rw [heq])
      have hslot' : Cursor.slot n { q with stage := .looked false } = next n q.head :=
        if_pos (Or.inl rfl)
      have hstep := dist_next_add_one h.bounds.1 hi hne
      refine ⟨?_, ?_⟩
      · rw [hslot', List.countP_cons_of_neg (by simp [Event.isReport])]
        omega
      · rw [hslot', List.countP_cons_of_pos rfl, if_neg (by simp)]
        omega
  | @report q tr h hq ih =>
    rcases new with - | ⟨e, new⟩
    · exact (h.report hq).waits_nil hi
    obtain ⟨rfl, htail⟩ := List.cons.inj htr
    obtain ⟨⟨hreport, -⟩, hrest⟩ := List.forall_mem_cons.1 hnew
    obtain ⟨hreports, hlooks⟩ := ih hrest htail
    have hne : q.head ≠ i := fun heq ↦ hreport (by rw [heq])
    have hslot : q.slot n = q.head := if_neg (by simp [hq])
    have hslot' : Cursor.slot n { q with stage := .reported } = next n q.head := if_pos (Or.inr rfl)
    have hstep := dist_next_add_one h.bounds.1 hi hne
    rw [hslot] at hreports hlooks
    rw [if_pos hq] at hlooks
    refine ⟨?_, ?_⟩
    · rw [hslot', List.countP_cons_of_pos rfl]
      omega
    · rw [hslot', List.countP_cons_of_neg (by simp [Event.isLook]), if_neg (by simp)]
      omega
  | @move q tr h hq ih =>
    obtain ⟨hreports, hlooks⟩ := ih hnew htr
    have hslot : q.slot n = next n q.head := if_pos hq
    have hslot' : Cursor.slot n { q with stage := .moved, head := next n q.head } = next n q.head :=
      if_neg (by simp)
    rw [hslot] at hreports hlooks
    rw [if_neg (by rcases hq with hq | hq <;> simp [hq])] at hlooks
    exact ⟨by rwa [hslot'], by rwa [hslot', if_neg (by simp)]⟩
  | settle h hq ih => exact ih hnew htr
  | @rest q tr h hq ih =>
    rcases new with - | ⟨e, new⟩
    · exact (h.rest hq).waits_nil hi
    obtain ⟨rfl, htail⟩ := List.cons.inj htr
    obtain ⟨hreports, hlooks⟩ := ih (List.forall_mem_cons.1 hnew).2 htail
    have hslot : q.slot n = q.head := if_neg (by rcases hq with hq | ⟨hq, -⟩ <;> simp [hq])
    have hslot' : Cursor.slot n { q with stage := .idle } = q.head := if_neg (by simp)
    rw [hslot] at hreports hlooks
    rw [if_neg (by rcases hq with hq | ⟨hq, -⟩ <;> simp [hq])] at hlooks
    refine ⟨?_, ?_⟩
    · rw [hslot', List.countP_cons_of_neg (by simp [Event.isReport])]
      exact hreports
    · rw [hslot', List.countP_cons_of_neg (by simp [Event.isLook]), if_neg (by simp)]
      exact hlooks

end RoundRobin
