import Mathlib.Tactic.Tauto

/-!
# Looking back along a trace

A trace is a list of entries, newest first, so what happened before an entry is the tail behind it.
`Since φ ψ` says that some entry satisfies `ψ` and all newer ones satisfy `φ`; `Always P` says that
`P` holds of every entry together with what happened before it. Both are defined by recursion on the
trace, as an invariant that is proved step by step needs them, and both are characterised by
splittings of the trace, as statements about whole runs need them.
-/

namespace Trace

variable {ε : Type} {φ φ' ψ ψ' : ε → Prop} {P Q : ε → List ε → Prop} {new old : List ε} {x : ε}

/-- Some entry satisfies `ψ`, and every newer one satisfies `φ`. -/
def Since (φ ψ : ε → Prop) : List ε → Prop
  | [] => False
  | x :: old => ψ x ∨ φ x ∧ Since φ ψ old

/-- Every entry satisfies `P`, given what happened before it. -/
def Always (P : ε → List ε → Prop) : List ε → Prop
  | [] => True
  | x :: old => P x old ∧ Always P old

@[simp] theorem not_since_nil : ¬ Since φ ψ [] := id

@[simp] theorem since_cons : Since φ ψ (x :: old) ↔ ψ x ∨ φ x ∧ Since φ ψ old := Iff.rfl

@[simp] theorem always_nil : Always P [] := trivial

@[simp] theorem always_cons : Always P (x :: old) ↔ P x old ∧ Always P old := Iff.rfl

instance decidableSince [DecidablePred φ] [DecidablePred ψ] : DecidablePred (Since φ ψ)
  | [] => .isFalse not_since_nil
  | x :: old =>
    have := decidableSince old
    inferInstanceAs (Decidable (ψ x ∨ φ x ∧ Since φ ψ old))

instance decidableAlways [∀ x old, Decidable (P x old)] : DecidablePred (Always P)
  | [] => .isTrue always_nil
  | x :: old =>
    have := decidableAlways old
    inferInstanceAs (Decidable (P x old ∧ Always P old))

/-! ### Splitting a trace -/

theorem since_append :
    Since φ ψ (new ++ old) ↔ Since φ ψ new ∨ (∀ y ∈ new, φ y) ∧ Since φ ψ old := by
  induction new with
  | nil => simp
  | cons y new ih =>
    rw [List.cons_append, since_cons, since_cons, ih, List.forall_mem_cons]
    tauto

/-- The newest entry that satisfies `ψ` splits the trace. -/
theorem since_iff : Since φ ψ old ↔
    ∃ later x earlier, old = later ++ x :: earlier ∧ ψ x ∧ ∀ y ∈ later, φ y := by
  constructor
  · intro h
    induction old with
    | nil => exact h.elim
    | cons x old ih =>
      rcases h with h | ⟨hx, h⟩
      · exact ⟨[], x, old, rfl, h, by simp⟩
      · obtain ⟨later, y, earlier, rfl, hy, hlater⟩ := ih h
        exact ⟨x :: later, y, earlier, rfl, hy, List.forall_mem_cons.2 ⟨hx, hlater⟩⟩
  · rintro ⟨later, x, earlier, rfl, hx, hlater⟩
    exact since_append.2 (Or.inr ⟨hlater, Or.inl hx⟩)

theorem Since.mono (hφ : ∀ x, φ x → φ' x) (hψ : ∀ x, ψ x → ψ' x) (h : Since φ ψ old) :
    Since φ' ψ' old := by
  obtain ⟨later, x, earlier, rfl, hx, hlater⟩ := since_iff.1 h
  exact since_iff.2 ⟨later, x, earlier, rfl, hψ x hx, fun y hy ↦ hφ y (hlater y hy)⟩

theorem Always.of_append (h : Always P (new ++ old)) : Always P old := by
  induction new with
  | nil => exact h
  | cons x new ih => exact ih h.2

/-- Entries that satisfy `P` whatever happened before them may follow. -/
theorem Always.append (hnew : ∀ x ∈ new, ∀ earlier, P x earlier) (h : Always P old) :
    Always P (new ++ old) := by
  induction new with
  | nil => exact h
  | cons x new ih =>
    rw [List.forall_mem_cons] at hnew
    exact ⟨hnew.1 _, ih hnew.2⟩

/-- What holds always holds at every entry. -/
theorem Always.at (h : Always P old) {later earlier : List ε} (hold : old = later ++ x :: earlier) :
    P x earlier := by
  subst hold
  exact h.of_append.1

end Trace
