import Mathlib.Data.List.TakeDrop
import Mathlib.Logic.Function.Basic
import Mathlib.Order.Interval.Finset.Nat

/-!
# A ring between one producer and one consumer

A ring of `size` cells that each hold an item or nothing. The producer fills the cells in order and
only when they are empty, the consumer empties them in order and only when they are full; each keeps
its own position, and they share nothing but the cells.

`RingBuffer.Holds size cell produced taken` says that the cells hold exactly the items that have
been produced and not been taken, each at its place. Both sides keep it (`Holds.push`, `Holds.pop`),
so what has been taken is always a prefix of what has been produced: nothing is lost, repeated or
reordered, across any number of rounds.
-/

namespace RingBuffer

variable {α : Type*} {size : ℕ} {cell : ℕ → Option α} {produced : List α} {taken : ℕ} {a : α}

/-- The cells hold the items that have been produced and not yet been taken. Item number `k` is at
`k % size`, and the window of `size` numbers from `taken` on goes once around the ring. -/
structure Holds (size : ℕ) (cell : ℕ → Option α) (produced : List α) (taken : ℕ) : Prop where
  taken_le : taken ≤ produced.length
  length_le : produced.length ≤ taken + size
  cell_eq : ∀ k, taken ≤ k → k < taken + size → cell (k % size) = produced[k]?

/-- Two numbers in one window are at different places. -/
theorem mod_ne_mod {j k : ℕ} (hj : taken ≤ j ∧ j < taken + size)
    (hk : taken ≤ k ∧ k < taken + size) (hne : j ≠ k) : j % size ≠ k % size := by
  intro heq
  refine hne (Nat.mod_injOn_Ico taken size ?_ ?_ heq)
  · exact Finset.mem_coe.2 (Finset.mem_Ico.2 hj)
  · exact Finset.mem_coe.2 (Finset.mem_Ico.2 hk)

/-- An empty ring. -/
theorem Holds.empty (hcell : ∀ i, cell i = none) : Holds size cell ([] : List α) 0 :=
  ⟨le_rfl, Nat.zero_le _, fun k _ _ ↦ by rw [hcell]; rfl⟩

namespace Holds

/-- The cell of the consumer is full when there is something to take. -/
theorem cell_taken (h : Holds size cell produced taken) (hpos : 0 < size) :
    cell (taken % size) = produced[taken]? :=
  h.cell_eq taken le_rfl (by omega)

/-- The producer's cell is empty only when there is room. -/
theorem lt_of_cell_eq_none (h : Holds size cell produced taken) (hpos : 0 < size)
    (hcell : cell (produced.length % size) = none) : produced.length < taken + size := by
  refine lt_of_le_of_ne h.length_le fun heq ↦ ?_
  rw [heq, Nat.add_mod_right, h.cell_taken hpos, List.getElem?_eq_none_iff] at hcell
  omega

/-- The producer fills its cell. -/
theorem push (h : Holds size cell produced taken) (hpos : 0 < size)
    (hcell : cell (produced.length % size) = none) :
    Holds size (Function.update cell (produced.length % size) (some a)) (produced ++ [a])
      taken := by
  have hroom := h.lt_of_cell_eq_none hpos hcell
  have hle := h.taken_le
  refine ⟨?_, ?_, fun k hk hk' ↦ ?_⟩
  · rw [List.length_append, List.length_singleton]
    omega
  · rw [List.length_append, List.length_singleton]
    omega
  · by_cases hlast : k = produced.length
    · rw [hlast, Function.update_self, List.getElem?_concat_length]
    · rw [Function.update_of_ne (mod_ne_mod ⟨hk, hk'⟩ ⟨hle, hroom⟩ hlast), h.cell_eq k hk hk']
      obtain hlt | hgt := lt_or_gt_of_ne hlast
      · rw [List.getElem?_append_left hlt]
      · rw [List.getElem?_eq_none hgt.le, List.getElem?_eq_none]
        rw [List.length_append, List.length_singleton]
        exact hgt

/-- The item that the consumer finds is the next one. -/
theorem next_of_cell_eq_some (h : Holds size cell produced taken) (hpos : 0 < size)
    (hcell : cell (taken % size) = some a) : produced[taken]? = some a :=
  (h.cell_taken hpos).symm.trans hcell

/-- The consumer empties its cell. -/
theorem pop (h : Holds size cell produced taken) (hpos : 0 < size)
    (hcell : cell (taken % size) = some a) :
    Holds size (Function.update cell (taken % size) none) produced (taken + 1) := by
  have hnext := h.next_of_cell_eq_some hpos hcell
  obtain ⟨hlt, -⟩ := List.getElem?_eq_some_iff.1 hnext
  have hle := h.length_le
  refine ⟨hlt, by omega, fun k hk hk' ↦ ?_⟩
  by_cases hround : k = taken + size
  · rw [hround, Nat.add_mod_right, Function.update_self, List.getElem?_eq_none hle]
  · have hwindow : taken ≤ taken ∧ taken < taken + size := ⟨le_rfl, by omega⟩
    rw [Function.update_of_ne (mod_ne_mod ⟨by omega, by omega⟩ hwindow (by omega)),
      h.cell_eq k (by omega) (by omega)]

/-- What is taken next extends the prefix. -/
theorem take_succ (h : Holds size cell produced taken) (hpos : 0 < size)
    (hcell : cell (taken % size) = some a) :
    produced.take (taken + 1) = produced.take taken ++ [a] := by
  obtain ⟨hlt, rfl⟩ := List.getElem?_eq_some_iff.1 (h.next_of_cell_eq_some hpos hcell)
  exact (List.take_concat_get' _ _ hlt).symm

end Holds

end RingBuffer
