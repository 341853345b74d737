import Mathlib.Algebra.Order.BigOperators.Group.Finset
import Mathlib.Data.Fintype.Card
import Mathlib.Algebra.Order.Group.Nat

/-!
# Tables of slots with quotas

A table is a finite set of slots and, for each slot, its owner or `none`. It is the abstract form of
an allocator that several clients share, each up to a quota of its own. Two facts make quotas
guarantees:

* the shares of all clients add up to the occupied slots (`sum_card_held`);
* so, when the quotas fit into the table, a client below its quota finds a free slot
  (`exists_free_of_lt_quota`).

The other lemmas say how a share changes when a slot changes hands.
-/

namespace QuotaTable

variable {ι α : Type*} [DecidableEq α]

/-- The slots that `a` holds. -/
def held (slots : Finset ι) (owner : ι → Option α) (a : α) : Finset ι :=
  {i ∈ slots | owner i = some a}

/-- The slots that somebody holds. -/
def occupied (slots : Finset ι) (owner : ι → Option α) : Finset ι :=
  {i ∈ slots | (owner i).isSome}

variable {slots : Finset ι} {owner : ι → Option α} {a b : α} {i : ι}

theorem mem_held : i ∈ held slots owner a ↔ i ∈ slots ∧ owner i = some a := by
  rw [held, Finset.mem_filter]

omit [DecidableEq α] in
theorem mem_occupied : i ∈ occupied slots owner ↔ i ∈ slots ∧ owner i ≠ none := by
  rw [occupied, Finset.mem_filter, Option.isSome_iff_ne_none]

/-! ### A slot changes hands -/

section Update

variable [DecidableEq ι]

/-- Taking a free slot adds it to the share of its new owner. -/
theorem held_take (hi : i ∈ slots) :
    held slots (Function.update owner i (some a)) a = insert i (held slots owner a) := by
  ext j
  rw [mem_held, Finset.mem_insert, mem_held]
  by_cases hj : j = i
  · rw [hj, Function.update_self]
    exact ⟨fun _ ↦ Or.inl rfl, fun _ ↦ ⟨hi, rfl⟩⟩
  · rw [Function.update_of_ne hj]
    exact ⟨Or.inr, fun h ↦ h.resolve_left hj⟩

/-- Giving a slot up removes it from the share of its owner. -/
theorem held_free : held slots (Function.update owner i none) a = (held slots owner a).erase i := by
  ext j
  rw [mem_held, Finset.mem_erase, mem_held]
  by_cases hj : j = i
  · rw [hj, Function.update_self]
    exact ⟨fun h ↦ absurd h.2 (by simp), fun h ↦ absurd rfl h.1⟩
  · rw [Function.update_of_ne hj]
    exact ⟨fun h ↦ ⟨hj, h⟩, fun h ↦ h.2⟩

/-- Nobody else notices. -/
theorem held_update_of_ne {o : Option α} (h : owner i ≠ some b) (ho : o ≠ some b) :
    held slots (Function.update owner i o) b = held slots owner b := by
  ext j
  rw [mem_held, mem_held]
  by_cases hj : j = i
  · rw [hj, Function.update_self]
    exact ⟨fun hb ↦ absurd hb.2 ho, fun hb ↦ absurd hb.2 h⟩
  · rw [Function.update_of_ne hj]

theorem card_held_take (hi : i ∈ slots) (hf : owner i = none) :
    (held slots (Function.update owner i (some a)) a).card = (held slots owner a).card + 1 := by
  rw [held_take hi, Finset.card_insert_of_notMem]
  rw [mem_held, hf]
  exact fun h ↦ absurd h.2 (by simp)

theorem card_held_free (hi : i ∈ slots) (ho : owner i = some a) :
    (held slots (Function.update owner i none) a).card + 1 = (held slots owner a).card := by
  rw [held_free]
  exact Finset.card_erase_add_one (mem_held.2 ⟨hi, ho⟩)

end Update

/-! ### Quotas -/

variable {clients : Finset α}

/-- The shares of all clients add up to the occupied slots. -/
theorem sum_card_held (hown : ∀ i ∈ slots, ∀ a, owner i = some a → a ∈ clients) :
    ∑ a ∈ clients, (held slots owner a).card = (occupied slots owner).card := by
  have hmaps : ∀ i ∈ occupied slots owner, owner i ∈ clients.map Function.Embedding.some := by
    intro i hi
    obtain ⟨hs, hne⟩ := mem_occupied.1 hi
    obtain ⟨a, ha⟩ := Option.ne_none_iff_exists'.1 hne
    rw [ha, Finset.mem_map]
    exact ⟨a, hown i hs a ha, rfl⟩
  rw [Finset.card_eq_sum_card_fiberwise hmaps, Finset.sum_map]
  refine Finset.sum_congr rfl fun a _ ↦ congrArg Finset.card ?_
  ext i
  rw [mem_held, Finset.mem_filter, mem_occupied]
  constructor
  · rintro ⟨hs, ha⟩
    exact ⟨⟨hs, by rw [ha]; simp⟩, ha⟩
  · rintro ⟨⟨hs, -⟩, ha⟩
    exact ⟨hs, ha⟩

/-- **A quota is a guarantee**: if all quotas fit into the table and are kept, a client below its
own quota finds a free slot. -/
theorem exists_free_of_lt_quota {quota : α → ℕ}
    (hown : ∀ i ∈ slots, ∀ a, owner i = some a → a ∈ clients)
    (hkept : ∀ a ∈ clients, (held slots owner a).card ≤ quota a)
    (hfit : ∑ a ∈ clients, quota a ≤ slots.card) (ha : a ∈ clients)
    (hlt : (held slots owner a).card < quota a) : ∃ i ∈ slots, owner i = none := by
  by_contra hfull
  have hocc : occupied slots owner = slots :=
    Finset.filter_true_of_mem fun i hi ↦ Option.isSome_iff_ne_none.2 fun hn ↦ hfull ⟨i, hi, hn⟩
  have hsum : ∑ a ∈ clients, (held slots owner a).card < ∑ a ∈ clients, quota a :=
    Finset.sum_lt_sum hkept ⟨a, ha, hlt⟩
  rw [sum_card_held hown, hocc] at hsum
  omega

end QuotaTable
