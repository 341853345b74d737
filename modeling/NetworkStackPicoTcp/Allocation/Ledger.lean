import Mathlib.Algebra.Order.Group.Int
import Mathlib.Algebra.Order.Ring.Cast
import NetworkStackPicoTcp.Allocation.QuotaTable
import NetworkStackPicoTcp.Interaction.Since

/-!
# Ledgers of an allocator

Those who use an allocator see of it only what they are told: who was given which slot, and who gave
it back. The ledger is the list of these acts, newest first. It determines who owns which slot
(`Ledger.owner`), and an allocator is correct when its ledger is legal: a slot is given only to one
who is below its quota and only when nobody owns it, and taken back only from its owner.

In a legal ledger somebody owns a slot exactly when it was given to them and not taken back since
(`Ledger.owner_eq_some_iff`).
-/

namespace Ledger

open Trace (Since Always)

variable {ι α : Type} [DecidableEq ι] [DecidableEq α]

/-- What the users of the allocator are told. -/
inductive Act (ι α : Type)
  /-- `a` is given slot `i`. -/
  | give (i : ι) (a : α)
  /-- Slot `i` is taken back from `a`. -/
  | takeBack (i : ι) (a : α)

/-- The owners after an act. -/
def Act.apply : Act ι α → (ι → Option α) → ι → Option α
  | .give i a, o => Function.update o i (some a)
  | .takeBack i _, o => Function.update o i none

/-- The owners after all acts of the ledger. -/
def owner : List (Act ι α) → ι → Option α
  | [] => fun _ ↦ none
  | x :: l => x.apply (owner l)

/-- The act is allowed while the slots have these owners. -/
def Allowed (slots : Finset ι) (quota : α → ℤ) (o : ι → Option α) : Act ι α → Prop
  | .give i a => i ∈ slots ∧ o i = none ∧ ((QuotaTable.held slots o a).card : ℤ) < quota a
  | .takeBack i a => o i = some a

/-- Every act of the ledger was allowed when it took place. -/
def Legal (slots : Finset ι) (quota : α → ℤ) : List (Act ι α) → Prop :=
  Always fun x l ↦ Allowed slots quota (owner l) x

variable {slots : Finset ι} {quota : α → ℤ} {l : List (Act ι α)} {i : ι} {a : α}

/-- Only slots of the allocator have owners. -/
theorem mem_of_owner (h : Legal slots quota l) (ho : owner l i = some a) : i ∈ slots := by
  induction l with
  | nil => exact absurd ho (by simp [owner])
  | cons x l ih =>
    obtain ⟨hx, hl⟩ := h
    cases x with
    | give j b =>
      simp only [owner, Act.apply, Function.update_apply] at ho
      split_ifs at ho with hij
      · rw [hij]
        exact hx.1
      · exact ih hl ho
    | takeBack j b =>
      simp only [owner, Act.apply, Function.update_apply] at ho
      split_ifs at ho
      exact ih hl ho

/-- **In a legal ledger `a` owns a slot exactly when it was given to `a` and not taken back
since.** -/
theorem owner_eq_some_iff (h : Legal slots quota l) :
    owner l i = some a ↔ Since (fun x ↦ x ≠ .takeBack i a) (fun x ↦ x = .give i a) l := by
  induction l with
  | nil => simp [owner]
  | cons x l ih =>
    obtain ⟨hx, hl⟩ := h
    rw [Trace.since_cons, ← ih hl]
    cases x with
    | give j b =>
      simp only [owner, Act.apply, Function.update_apply]
      by_cases hij : i = j
      · subst hij
        -- the slot had no owner before
        have hfree : owner l i = none := hx.2.1
        simp [hfree, eq_comm]
      · simp [hij, Ne.symm hij]
    | takeBack j b =>
      simp only [owner, Act.apply, Function.update_apply]
      by_cases hij : i = j
      · subst hij
        have howner : owner l i = some b := hx
        simp [howner, eq_comm]
      · simp [hij, Ne.symm hij]

/-- **Nobody exceeds its quota.** -/
theorem card_held_le (h : Legal slots quota l) :
    ((QuotaTable.held slots (owner l) a).card : ℤ) ≤ max 0 (quota a) := by
  induction l with
  | nil => simp [owner, QuotaTable.held]
  | cons x l ih =>
    obtain ⟨hx, hl⟩ := h
    cases x with
    | give j b =>
      obtain ⟨hj, hfree, hlt⟩ := hx
      by_cases hab : b = a
      · subst hab
        rw [owner, Act.apply, QuotaTable.card_held_take hj hfree]
        push_cast
        omega
      · rw [owner, Act.apply, QuotaTable.held_update_of_ne (by simp [hfree]) (by simp [hab])]
        exact ih hl
    | takeBack j b =>
      have hsub : QuotaTable.held slots (owner (.takeBack j b :: l)) a ⊆
          QuotaTable.held slots (owner l) a := by
        rw [owner, Act.apply, QuotaTable.held_free]
        exact Finset.erase_subset _ _
      have := Finset.card_le_card hsub
      have := ih hl
      omega

end Ledger
