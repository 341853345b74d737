import NetworkStackPicoTcp.Invariants.Lifetime
import NetworkStackPicoTcp.Invariants.Sections

/-!
# What becomes of an acquired socket

`create` and `accept` get a picoTCP socket first and a handle for it second. Here the history is
split at the entry that hands out a socket, and the entries after it are followed: until the RPC has
reserved a slot for the socket or has closed it, it is the thread's; then the slot holds it until a
`close` of the handle, which comes after `pico_socket_close` or after picoTCP has told that it frees
the socket (`Acquired`).
-/

namespace NetworkStackPicoTcp

open Trace (Always Since)

variable {pl : Platform} {sched : Schedule} {cfg : Config} {c : ℤ} {r : RpcCall} {w w' : World}

/-- `pico_socket_close` has been called on the socket `p`. -/
def Entry.closes (p : ℕ) : Entry → Bool
  | .answer _ _ (.pico (.close q)) _ _ => q = some p
  | _ => false

/-- Slot `i` has been reserved for the socket that was handed out right before the entries, and has
been neither freed nor reserved again. -/
def HeldFor (i : ℕ) : History → Prop
  | [] => False
  | x :: later => x.reserves i ∧ (∀ y ∈ later, y.handsOut = none) ∨
      ¬ x.reserves i ∧ ¬ x.releases i ∧ HeldFor i later

/-- The socket `p` has been closed, or picoTCP has told that it frees it and a slot has been
reserved since. -/
def GivenUp (p : ℕ) (later : History) : Prop :=
  (∃ y ∈ later, y.closes p = true) ∨
    (∃ y ∈ later, y.frees (some p) = true) ∧ ∃ i, ∃ y ∈ later, y.reserves i

instance decidableHeldFor {i : ℕ} : DecidablePred (HeldFor i)
  | [] => .isFalse id
  | x :: later =>
    have := decidableHeldFor (i := i) later
    inferInstanceAs (Decidable (x.reserves i ∧ (∀ y ∈ later, y.handsOut = none) ∨
      ¬ x.reserves i ∧ ¬ x.releases i ∧ HeldFor i later))

section

variable {t : Thread} {s s' : NetworkStack} {h later : History} {i j p : ℕ} {x : Entry}

theorem HeldFor.reserves (h : HeldFor i later) : ∃ y ∈ later, y.reserves i := by
  induction later with
  | nil => exact h.elim
  | cons y later ih =>
    obtain ⟨hres, -⟩ | ⟨-, -, h⟩ := h
    · exact ⟨y, List.mem_cons_self, hres⟩
    · obtain ⟨z, hz, hres⟩ := ih h
      exact ⟨z, List.mem_cons_of_mem _ hz, hres⟩

theorem GivenUp.cons (h : GivenUp p later) : GivenUp p (x :: later) :=
  h.imp (fun ⟨y, hy, hcl⟩ ↦ ⟨y, List.mem_cons_of_mem _ hy, hcl⟩)
    fun ⟨⟨y, hy, hfree⟩, i, z, hz, hres⟩ ↦
      ⟨⟨y, List.mem_cons_of_mem _ hy, hfree⟩, i, z, List.mem_cons_of_mem _ hz, hres⟩

/-! ### The thread -/

theorem Thread.wrote_closed : (t.wrote s s').closed = t.closed := by
  unfold wrote
  split <;> rfl

/-- A write that does not reserve a slot leaves the thread its socket. -/
theorem Thread.wrote_acquired (t : Thread) (c : ℤ) (r : RpcCall) (s s' : NetworkStack) :
    (t.wrote s s').acquired = t.acquired ∨
      (t.wrote s s').acquired = none ∧ ∃ i, (Entry.own c r s s').reserves i := by
  unfold wrote
  split
  · rename_i i hi
    have hres := List.find?_some hi
    exact Or.inr ⟨rfl, i, of_decide_eq_true hres⟩
  · exact Or.inl rfl
  · exact Or.inl rfl

/-- A call that opens and accepts no socket leaves the thread its socket, or closes it. -/
theorem Thread.answered_acquired {e : Call} {b : e.Answer} (he : e.AcquiresNone) :
    (t.answered e b).acquired = t.acquired ∨
      (t.answered e b).acquired = none ∧ e = .pico (.close t.acquired) := by
  cases e with
  | pico pc =>
    cases pc with
    | socketOpen domain type => exact absurd rfl (he.ne_open domain type)
    | accept q => exact absurd rfl (he.ne_accept q)
    | close q =>
      show (if t.acquired = q then none else t.acquired) = t.acquired ∨
        (if t.acquired = q then none else t.acquired) = none ∧ _
      split_ifs with hq
      · exact Or.inr ⟨rfl, by rw [hq]⟩
      · exact Or.inl rfl
    | _ => exact Or.inl rfl
  | _ => exact Or.inl rfl

theorem Thread.answered_closed {e : Call} {b : e.Answer} :
    (t.answered e b).closed = t.closed ∨
      ∃ q, e = .pico (.close q) ∧ (t.answered e b).closed = q := by
  cases e with
  | pico pc =>
    cases pc with
    | close q => exact Or.inr ⟨q, rfl, rfl⟩
    | _ => exact Or.inl rfl
  | _ => exact Or.inl rfl

/-- Before its first picoTCP call an RPC has neither acquired nor closed a socket. -/
theorem thread_of_lastCall (hl : (thread h).lastCall = none) :
    (thread h).acquired = none ∧ (thread h).closed = none := by
  induction h with
  | nil => exact ⟨rfl, rfl⟩
  | cons x h ih =>
    rw [thread_cons] at hl ⊢
    cases x with
    | begin | reply => exact ⟨rfl, rfl⟩
    | event | notified => exact ih hl
    | own c r s s' =>
      have hl' : (thread h).lastCall = none := by
        rw [Thread.step, Thread.wrote] at hl
        split at hl <;> exact hl
      obtain ⟨hacq, hclosed⟩ := ih hl'
      refine ⟨?_, Thread.wrote_closed.trans hclosed⟩
      rcases Thread.wrote_acquired (thread h) c r s s' with hw | ⟨hw, -⟩
      · exact hw.trans hacq
      · exact hw
    | answer c r e b s =>
      cases e with
      | pico pc => exact absurd (Thread.called_lastCall.symm.trans hl) (by simp)
      | _ => exact ih hl

/-- Between RPCs the thread has no socket. -/
theorem acquired_of_idle (ho : Orderly pl h) (hc : (thread h).current = none) :
    (thread h).acquired = none := by
  induction h with
  | nil => rfl
  | cons x h ih =>
    rw [thread_cons] at hc ⊢
    cases x with
    | begin => exact absurd hc (by simp [Thread.step])
    | reply => rfl
    | event | notified => exact ih ho.2 hc
    | own =>
      have hcur := ho.1.1
      exact absurd ((Thread.wrote_current.trans hcur).symm.trans hc) (by simp)
    | answer =>
      have hcur := ho.1.1
      exact absurd ((Thread.answered_current.trans hcur).symm.trans hc) (by simp)

/-! ### Writes -/

/-- A slot is reserved for the socket of the thread, which has none then. -/
theorem Thread.MayWrite.of_reserves (hm : t.MayWrite pl c r s s')
    (hres : (Entry.own c r s s').reserves i) :
    s.firstFree = some i ∧ (t.wrote s s').acquired = none ∧
      ∃ p, t.acquired = some p ∧ s'.sockets i = (s.sockets i).reserve (some p) c := by
  have hfound : reservedBy s s' ≠ none := by
    intro hnone
    obtain ⟨hfree, hin⟩ := hres
    have hlt : i < s.numberOfSockets := by
      obtain hst | ⟨hi, -⟩ | ⟨-, hst⟩ := (hm.alters i).status
      · exact absurd (hin.symm.trans (hst.trans hfree)) (by decide)
      · exact (NetworkStack.firstFree_eq_some_iff.1 hi).2.1
      · exact absurd (hin.symm.trans hst) (by decide)
    have hnot := List.find?_eq_none.1 hnone i (List.mem_range.2 hlt)
    exact hnot (decide_eq_true ⟨hfree, hin⟩)
  have hacq : (t.wrote s s').acquired = none := by
    unfold wrote
    split
    · rfl
    · rename_i hnone _
      exact absurd hnone hfound
    · rename_i hnone _
      exact absurd hnone hfound
  obtain ⟨hfree, hin⟩ := hres
  obtain hst | ⟨p, hi, hp, -, -, hrec⟩ | ⟨-, -, hrec⟩ := (hm.alters i).lifecycle
  · exact absurd (hin.symm.trans (hst.trans hfree)) (by decide)
  · exact ⟨hi, hacq, p, hp, hrec⟩
  · rw [hrec] at hin
    exact absurd hin (by simp [SocketResources.release])

/-- A slot in use is freed after FIN, or after `pico_socket_close`. -/
theorem Thread.MayWrite.of_releases (hm : t.MayWrite pl c r s s')
    (hrel : (Entry.own c r s s').releases i) : .fin ∈ (s.sockets i).eventMask ∨
      t.closed = (s.sockets i).implementationSocket := by
  obtain ⟨-, hin, hfree⟩ := hrel
  obtain hst | ⟨p, -, -, -, -, hrec⟩ | ⟨-, hdone, -⟩ := (hm.alters i).lifecycle
  · exact absurd (hfree.symm.trans (hst.trans hin)) (by decide)
  · rw [hrec] at hfree
    exact absurd hfree (by simp [SocketResources.reserve])
  · exact hdone.imp_right And.right

/-- A slot in use stays what it is unless it is freed. -/
theorem Thread.MayWrite.of_inUse (hm : t.MayWrite pl c r s s') (hin : (s.sockets i).status = .inUse)
    (hrel : ¬ (Entry.own c r s s').releases i) : (s'.sockets i).status = .inUse ∧
      (s'.sockets i).implementationSocket = (s.sockets i).implementationSocket := by
  have ha := hm.alters i
  have hrel' : r = .close i → (s'.sockets i).status ≠ .free := fun hr hfree ↦ hrel ⟨hr, hin, hfree⟩
  generalize s'.sockets i = rec at ha hrel'
  cases ha with
  | same | store | clear | create | adopt | accepted => exact ⟨hin, rfl⟩
  | acceptPending =>
    have hf := SlotFrame.acceptPending (s.sockets i)
    exact ⟨hf.status.trans hin, hf.implementationSocket⟩
  | reserve hi =>
    exact absurd (hin.symm.trans (NetworkStack.firstFree_eq_some_iff.1 hi).1) (by decide)
  | release hr => exact absurd rfl (hrel' hr)

theorem PicoEvent.fin_mem_raised {ev : PicoEvent} : .fin ∈ ev.raised ↔ ev.frees = true := by
  simp only [PicoEvent.raised, Finset.mem_union]
  grind

/-! ### One acquisition -/

/-- What has become of the socket `p` that was handed out right before the entries `later`. -/
structure Acquired (p : ℕ) (later : History) (w : World) : Prop where
  /-- It has been given up, the thread still has it, or a slot holds it. -/
  fate : GivenUp p later ∨
    (thread w.2).acquired = some p ∧ (∀ y ∈ later, y.handsOut = none) ∨ ∃ i, HeldFor i later
  /-- The slot holds it, and does not say that picoTCP has freed it unless picoTCP has. -/
  held : ∀ i, HeldFor i later → (w.1.sockets i).status = .inUse ∧
    (w.1.sockets i).implementationSocket = some p ∧
    (.fin ∈ (w.1.sockets i).eventMask → ∃ y ∈ later, y.frees (some p) = true)
  unique : ∀ i j, HeldFor i later → HeldFor j later → i = j
  /-- The thread has this socket or one that was handed out later, -/
  only : ∀ q, (thread w.2).acquired = some q →
    q = p ∧ (∀ y ∈ later, y.handsOut = none) ∨ ∃ y ∈ later, y.handsOut = some q
  /-- and not this one when a slot holds it. -/
  spent : (∀ y ∈ later, y.handsOut = none) → ∀ i, HeldFor i later → (thread w.2).acquired = none
  /-- Other slots hold its address from before, unless it was handed out again. -/
  others : ∀ j, (w.1.sockets j).status = .inUse → (w.1.sockets j).implementationSocket = some p →
    (∀ y ∈ later, ¬ y.reserves j) ∨ HeldFor j later ∨ ∃ y ∈ later, y.handsOut = some p
  closed : (thread w.2).closed = some p → ∃ y ∈ later, y.closes p = true

namespace Acquired

/-- The entry that hands out the socket. -/
theorem start (hx : x.handsOut = some p) (hrow : x.inRow h) : Acquired p [] (s, x :: h) := by
  have hnone : ∀ i, ¬ HeldFor i [] := fun _ ↦ id
  have hthread : (thread (x :: h)).acquired = some p ∧ (thread (x :: h)).closed = none := by
    cases x with
    | answer c r e b s =>
      by_cases he : e.AcquiresNone
      · exact absurd ((he.obtainedBy_eq b).symm.trans hx) (by simp)
      · have hclosed := (thread_of_lastCall (hrow.2.2 he)).2
        cases e with
        | pico pc =>
          cases pc with
          | socketOpen | accept => exact ⟨hx, hclosed⟩
          | _ => exact absurd ⟨by simp, by simp⟩ he
        | _ => exact absurd ⟨by simp, by simp⟩ he
    | _ => exact absurd hx (by simp [Entry.handsOut])
  refine ⟨Or.inr (Or.inl ⟨hthread.1, by simp⟩), fun i hi ↦ (hnone i hi).elim,
    fun i _ hi ↦ (hnone i hi).elim, fun q hq ↦ Or.inl ⟨?_, by simp⟩, fun _ i hi ↦ (hnone i hi).elim,
    fun _ _ _ ↦ Or.inl (by simp), fun hc ↦ ?_⟩
  · exact Option.some.inj (hq.symm.trans hthread.1)
  · exact absurd (hthread.2.symm.trans hc) (by simp)

/-- An entry that is not a write. -/
theorem same (ha : Acquired p later (s, h)) (hf : SameFrame s s')
    (hfin : ∀ i, (s.sockets i).implementationSocket = some p → .fin ∈ (s'.sockets i).eventMask →
      .fin ∈ (s.sockets i).eventMask ∨ x.frees (some p) = true)
    (hres : ∀ i, ¬ x.reserves i) (hrel : ∀ i, ¬ x.releases i)
    (hacq : (thread (x :: h)).acquired = (thread h).acquired ∧ x.handsOut = none ∨
      ((thread h).acquired = some p → x.closes p = true) ∧ (thread (x :: h)).acquired = x.handsOut)
    (hclosed : (thread (x :: h)).closed = some p → (thread h).closed = some p ∨ x.closes p = true) :
    Acquired p (x :: later) (s', x :: h) := by
  have hheld : ∀ {i}, HeldFor i (x :: later) → HeldFor i later := fun {i} hi ↦
    hi.elim (fun h ↦ absurd h.1 (hres i)) fun h ↦ h.2.2
  refine ⟨?_, fun i hi ↦ ?_, fun i j hi hj ↦ ha.unique i j (hheld hi) (hheld hj), fun q hq ↦ ?_,
    fun hnone i hi ↦ ?_, fun j hin hsock ↦ ?_, fun hc ↦ ?_⟩
  · obtain hgone | ⟨hp, hnone⟩ | ⟨i, hi⟩ := ha.fate
    · exact Or.inl hgone.cons
    · obtain ⟨hsame, hout⟩ | ⟨hcl, -⟩ := hacq
      · exact Or.inr (Or.inl ⟨hsame.trans hp, List.forall_mem_cons.2 ⟨hout, hnone⟩⟩)
      · exact Or.inl (Or.inl ⟨x, List.mem_cons_self, hcl hp⟩)
    · exact Or.inr (Or.inr ⟨i, Or.inr ⟨hres i, hrel i, hi⟩⟩)
  · obtain ⟨hin, hsock, hgone⟩ := ha.held i (hheld hi)
    refine ⟨(hf.slot i).status.trans hin, (hf.slot i).implementationSocket.trans hsock,
      fun hmem ↦ ?_⟩
    obtain hmem | hfree := hfin i hsock hmem
    · obtain ⟨y, hy, hfree⟩ := hgone hmem
      exact ⟨y, List.mem_cons_of_mem _ hy, hfree⟩
    · exact ⟨x, List.mem_cons_self, hfree⟩
  · obtain ⟨hsame, hout⟩ | ⟨-, hn⟩ := hacq
    · obtain ⟨hqp, hnone⟩ | ⟨y, hy, hyq⟩ := ha.only q (hsame.symm.trans hq)
      · exact Or.inl ⟨hqp, List.forall_mem_cons.2 ⟨hout, hnone⟩⟩
      · exact Or.inr ⟨y, List.mem_cons_of_mem _ hy, hyq⟩
    · exact Or.inr ⟨x, List.mem_cons_self, hn.symm.trans hq⟩
  · rw [List.forall_mem_cons] at hnone
    obtain ⟨hsame, -⟩ | ⟨-, hn⟩ := hacq
    · exact hsame.trans (ha.spent hnone.2 i (hheld hi))
    · exact hn.trans hnone.1
  · obtain hnever | hj | ⟨y, hy, hyp⟩ := ha.others j ((hf.slot j).status.symm.trans hin)
      ((hf.slot j).implementationSocket.symm.trans hsock)
    · exact Or.inl (List.forall_mem_cons.2 ⟨hres j, hnever⟩)
    · exact Or.inr (Or.inl (Or.inr ⟨hres j, hrel j, hj⟩))
    · exact Or.inr (Or.inr ⟨y, List.mem_cons_of_mem _ hy, hyp⟩)
  · obtain hc | hc := hclosed hc
    · obtain ⟨y, hy, hcl⟩ := ha.closed hc
      exact ⟨y, List.mem_cons_of_mem _ hy, hcl⟩
    · exact ⟨x, List.mem_cons_self, hc⟩

/-- A slot that holds the socket after a write is reserved by it, or has been holding the socket. -/
theorem heldFor_own {i : ℕ} (hi : HeldFor i (.own c r s s' :: later)) :
    (Entry.own c r s s').reserves i ∧ (∀ y ∈ later, y.handsOut = none) ∨
      ¬ (Entry.own c r s s').releases i ∧ HeldFor i later :=
  hi.imp id fun h ↦ h.2

/-- A write reserves a slot for the socket, frees the slot of the socket, or leaves it where it
is. -/
theorem fate_own (ha : Acquired p later (s, h)) (hm : (thread h).MayWrite pl c r s s') :
    GivenUp p (.own c r s s' :: later) ∨ ((thread h).wrote s s').acquired = some p ∧
      (∀ y ∈ Entry.own c r s s' :: later, y.handsOut = none) ∨
      ∃ i, HeldFor i (.own c r s s' :: later) := by
  obtain hgone | ⟨hp, hnone⟩ | ⟨i, hi⟩ := ha.fate
  · exact Or.inl hgone.cons
  · obtain hsame | ⟨-, i, hres⟩ := Thread.wrote_acquired (thread h) c r s s'
    · exact Or.inr (Or.inl ⟨hsame.trans hp, List.forall_mem_cons.2 ⟨rfl, hnone⟩⟩)
    · exact Or.inr (Or.inr ⟨i, Or.inl ⟨hres, hnone⟩⟩)
  · obtain ⟨hin, hsock, hgone⟩ := ha.held i hi
    by_cases hrel : (Entry.own c r s s').releases i
    · obtain hfin | hcl := hm.of_releases hrel
      · have hgiven : GivenUp p later := Or.inr ⟨hgone hfin, i, hi.reserves⟩
        exact Or.inl hgiven.cons
      · have hgiven : GivenUp p later := Or.inl (ha.closed (hcl.trans hsock))
        exact Or.inl hgiven.cons
    · exact Or.inr (Or.inr ⟨i, Or.inr ⟨Entry.not_reserves_of_inUse hin, hrel, hi⟩⟩)

/-- A slot that a write reserves holds the socket and has no events; the others are in use and stay
as they are. -/
theorem held_own (ha : Acquired p later (s, h)) (ht : Tidy (s, h))
    (hm : (thread h).MayWrite pl c r s s')
    {i : ℕ} (hi : HeldFor i (.own c r s s' :: later)) :
    (s'.sockets i).status = .inUse ∧ (s'.sockets i).implementationSocket = some p ∧
      (.fin ∈ (s'.sockets i).eventMask →
        ∃ y ∈ Entry.own c r s s' :: later, y.frees (some p) = true) := by
  obtain ⟨hres, hnone⟩ | ⟨hrel, hi⟩ := heldFor_own hi
  · obtain ⟨-, -, q, hq, hrec⟩ := hm.of_reserves hres
    -- until the next socket is handed out, a slot is reserved for this one
    obtain rfl : q = p := by
      obtain ⟨hqp, -⟩ | ⟨y, hy, hyq⟩ := ha.only q hq
      · exact hqp
      · exact absurd ((hnone y hy).symm.trans hyq) (by simp)
    refine ⟨hres.2, by rw [hrec]; rfl, fun hmem ↦ ?_⟩
    have hempty := (ht.clean i hres.1).eventMask
    rw [hrec] at hmem
    have hmem' : .fin ∈ (s.sockets i).eventMask := hmem
    exact absurd (hempty ▸ hmem') (Finset.notMem_empty _)
  · obtain ⟨hin, hsock, hgone⟩ := ha.held i hi
    obtain ⟨hin', hsock'⟩ := hm.of_inUse hin hrel
    refine ⟨hin', hsock'.trans hsock, fun hmem ↦ ?_⟩
    obtain ⟨y, hy, hfree⟩ := hgone ((hm.alters i).eventMask_subset hmem)
    exact ⟨y, List.mem_cons_of_mem _ hy, hfree⟩

/-- A slot that has the address of the socket after a write had it before, or is reserved for this
socket or one that was handed out later. -/
theorem others_own (ha : Acquired p later (s, h)) (hm : (thread h).MayWrite pl c r s s') {j : ℕ}
    (hin : (s'.sockets j).status = .inUse) (hsock : (s'.sockets j).implementationSocket = some p) :
    (∀ y ∈ Entry.own c r s s' :: later, ¬ y.reserves j) ∨ HeldFor j (.own c r s s' :: later) ∨
      ∃ y ∈ Entry.own c r s s' :: later, y.handsOut = some p := by
  by_cases hres : (Entry.own c r s s').reserves j
  · obtain ⟨-, -, q, hq, hrec⟩ := hm.of_reserves hres
    obtain rfl : q = p :=
      Option.some.inj ((congrArg SocketResources.implementationSocket hrec).symm.trans hsock)
    obtain ⟨-, hnone⟩ | ⟨y, hy, hyp⟩ := ha.only q hq
    · exact Or.inr (Or.inl (Or.inl ⟨hres, hnone⟩))
    · exact Or.inr (Or.inr ⟨y, List.mem_cons_of_mem _ hy, hyp⟩)
  · have hin₀ : (s.sockets j).status = .inUse := by
      cases hst : (s.sockets j).status with
      | inUse => rfl
      | free => exact absurd ⟨hst, hin⟩ hres
    have hrel : ¬ (Entry.own c r s s').releases j :=
      fun h ↦ absurd (hin.symm.trans h.2.2) (by decide)
    obtain hnever | hj | ⟨y, hy, hyp⟩ :=
      ha.others j hin₀ ((hm.of_inUse hin₀ hrel).2.symm.trans hsock)
    · exact Or.inl (List.forall_mem_cons.2 ⟨hres, hnever⟩)
    · exact Or.inr (Or.inl (Or.inr ⟨hres, hrel, hj⟩))
    · exact Or.inr (Or.inr ⟨y, List.mem_cons_of_mem _ hy, hyp⟩)

/-- A write of the RPC. -/
theorem own (ha : Acquired p later (s, h)) (ht : Tidy (s, h))
    (hm : (thread h).MayWrite pl c r s s') :
    Acquired p (.own c r s s' :: later) (s', .own c r s s' :: h) := by
  refine ⟨ha.fate_own hm, fun i hi ↦ ha.held_own ht hm hi, fun i j hi hj ↦ ?_, fun q hq ↦ ?_,
    fun hnone i hi ↦ ?_, fun j hin hsock ↦ ha.others_own hm hin hsock, fun hc ↦ ?_⟩
  · obtain ⟨hres, hnone⟩ | ⟨-, hi⟩ := heldFor_own hi <;> obtain ⟨hres', hnone'⟩ | ⟨-, hj⟩ :=
      heldFor_own hj
    · exact Option.some.inj ((hm.of_reserves hres).1.symm.trans (hm.of_reserves hres').1)
    · obtain ⟨-, -, q, hq, -⟩ := hm.of_reserves hres
      exact absurd ((ha.spent hnone j hj).symm.trans hq) (by simp)
    · obtain ⟨-, -, q, hq, -⟩ := hm.of_reserves hres'
      exact absurd ((ha.spent hnone' i hi).symm.trans hq) (by simp)
    · exact ha.unique i j hi hj
  · obtain hsame | ⟨hn, -⟩ := Thread.wrote_acquired (thread h) c r s s'
    · obtain ⟨hqp, hnone⟩ | ⟨y, hy, hyq⟩ := ha.only q (hsame.symm.trans hq)
      · exact Or.inl ⟨hqp, List.forall_mem_cons.2 ⟨rfl, hnone⟩⟩
      · exact Or.inr ⟨y, List.mem_cons_of_mem _ hy, hyq⟩
    · exact absurd (hn.symm.trans hq) (by simp)
  · obtain ⟨hres, -⟩ | ⟨-, hi⟩ := heldFor_own hi
    · exact (hm.of_reserves hres).2.1
    · obtain hsame | ⟨hn, -⟩ := Thread.wrote_acquired (thread h) c r s s'
      · exact hsame.trans (ha.spent (List.forall_mem_cons.1 hnone).2 i hi)
      · exact hn
  · obtain ⟨y, hy, hcl⟩ := ha.closed (Thread.wrote_closed.symm.trans hc)
    exact ⟨y, List.mem_cons_of_mem _ hy, hcl⟩

/-- A call returns. -/
theorem answer (ha : Acquired p later (s, h)) {e : Call} {b : e.Answer}
    (hrow : (Entry.answer c r e b s).inRow h) :
    Acquired p (.answer c r e b s :: later) (s, .answer c r e b s :: h) := by
  refine ha.same (.refl _) (fun _ _ ↦ Or.inl) (fun _ ↦ id) (fun _ ↦ id) ?_ fun hc ↦ ?_
  · by_cases he : e.AcquiresNone
    · have hout : (Entry.answer c r e b s).handsOut = none := he.obtainedBy_eq b
      obtain hsame | ⟨hn, hcl⟩ := Thread.answered_acquired (t := thread h) (b := b) he
      · exact Or.inl ⟨hsame, hout⟩
      · refine Or.inr ⟨fun hp ↦ ?_, hn.trans hout.symm⟩
        rw [hp] at hcl
        subst hcl
        exact decide_eq_true rfl
    · -- the first picoTCP call of an RPC, which has no socket yet
      refine Or.inr ⟨fun hp ↦ ?_, ?_⟩
      · exact absurd ((thread_of_lastCall (hrow.2.2 he)).1.symm.trans hp) (by simp)
      · cases e with
        | pico pc =>
          cases pc with
          | socketOpen | accept => rfl
          | _ => exact absurd ⟨by simp, by simp⟩ he
        | _ => exact absurd ⟨by simp, by simp⟩ he
  · obtain hsame | ⟨q, rfl, hq⟩ := Thread.answered_closed (t := thread h) (b := b)
    · exact Or.inl (hsame.symm.trans hc)
    · exact Or.inr (decide_eq_true (hq.symm.trans hc))

theorem deed (ha : Acquired p later w) (ht : Tidy w) (hd : Deed pl w w') (ho : Orderly pl w'.2)
    (hrow : Always Entry.inRow w'.2) :
    w'.2 = w.2 ∧ Acquired p later w' ∨ ∃ x, w'.2 = x :: w.2 ∧ Acquired p (x :: later) w' := by
  cases hd with
  | @begin s h c r hf =>
    refine Or.inr ⟨_, rfl, ha.same (.refl _) (fun _ _ ↦ Or.inl) (fun _ ↦ id) (fun _ ↦ id) ?_ ?_⟩
    · refine Or.inr ⟨fun hp ↦ ?_, rfl⟩
      exact absurd ((acquired_of_idle ho.2 hf.1).symm.trans hp) (by simp)
    · exact fun hc ↦ absurd hc (by simp [Thread.step])
  | own _ hm => exact Or.inr ⟨_, rfl, ha.own ht hm⟩
  | answer => exact Or.inr ⟨_, rfl, ha.answer hrow.1⟩
  | reply _ hr =>
    refine Or.inr ⟨_, rfl, ha.same (.refl _) (fun _ _ ↦ Or.inl) (fun _ ↦ id) (fun _ ↦ id) ?_ ?_⟩
    · exact Or.inr ⟨fun hp ↦ absurd (hr.acquired.symm.trans hp) (by simp), rfl⟩
    · exact fun hc ↦ absurd hc (by simp [Thread.step])
  | event hcb =>
    obtain ⟨s', h'⟩ := w'
    have hf : SameFrame w.1 s' := sameFrame_callbackStep hcb
    obtain ⟨ev, -, hh, -⟩ := hcb.slot 0
    obtain rfl : h' = .event ev w.1 s' :: w.2 := hh
    refine Or.inr ⟨_, rfl,
      ha.same hf (fun i hp hfin ↦ ?_) (fun _ ↦ id) (fun _ ↦ id) (Or.inl ⟨rfl, rfl⟩)
      Or.inl⟩
    obtain ⟨ev', -, hh', ⟨-, hs⟩ | ⟨hl, hs⟩⟩ := hcb.slot i
    · exact Or.inl (hs ▸ hfin)
    · obtain rfl : ev = ev' := (Entry.event.inj (List.cons.inj hh').1).1
      change s'.sockets i = _ at hs
      rw [hs, SocketResources.recordEvent_eventMask, Finset.mem_union,
        PicoEvent.fin_mem_raised] at hfin
      obtain ⟨hsock, -⟩ := NetworkStack.getHandleFromImplementationSocket_eq_some_iff.1 hl
      exact hfin.imp_right fun hfree ↦ decide_eq_true ⟨hsock.symm.trans hp, hfree⟩
  | notified =>
    refine Or.inr ⟨_, rfl, ha.same NetworkStack.sameFrame_notify (fun i _ hfin ↦ Or.inl ?_)
      (fun _ ↦ id)
      (fun _ ↦ id) (Or.inl ⟨rfl, rfl⟩) Or.inl⟩
    rwa [NetworkStack.sockets_notify] at hfin
  | setState =>
    exact Or.inl ⟨rfl, ha.fate, ha.held, ha.unique, ha.only, ha.spent, ha.others, ha.closed⟩

end Acquired

/-- Everything that is said of an acquisition holds wherever a run gets to after it. -/
theorem Deeds.acquired {earlier : History} (h : Deeds pl (cfg.init, []) w) (ho : Orderly pl w.2)
    (hrow : Always Entry.inRow w.2) (hsplit : w.2 = later ++ x :: earlier)
    (hx : x.handsOut = some p) :
    Acquired p later w := by
  induction h generalizing later with
  | refl => exact absurd hsplit (by simp)
  | @tail w w' hds hd ih =>
    rcases hd.entries with hsame | ⟨z, hz⟩
    · obtain ⟨-, ha⟩ | ⟨y, hy, -⟩ :=
        (ih (hsame ▸ ho) (hsame ▸ hrow) (hsame ▸ hsplit)).deed (Deeds.tidy hds) hd ho hrow
      · exact ha
      · exact absurd (hsame.symm.trans hy) (by simp)
    · rw [hz] at hsplit
      cases later with
      | nil =>
        obtain ⟨rfl, rfl⟩ := List.cons.inj hsplit
        obtain ⟨s', h'⟩ := w'
        obtain rfl : h' = z :: w.2 := hz
        exact .start hx hrow.1
      | cons y later =>
        obtain ⟨rfl, hold⟩ := List.cons.inj hsplit
        have hrow' : Always Entry.inRow (z :: w.2) := hz ▸ hrow
        have ho' : Orderly pl (z :: w.2) := hz ▸ ho
        obtain ⟨hsame, -⟩ | ⟨y, hy, ha⟩ := (ih ho'.2 hrow'.2 hold).deed (Deeds.tidy hds) hd ho hrow
        · exact absurd (hz.symm.trans hsame) (by simp)
        · obtain ⟨rfl, -⟩ := List.cons.inj (hz.symm.trans hy)
          exact ha

/-- picoTCP frees a socket before it hands out its address again. -/
theorem freed_of_handsOut {earlier : History} (hf : Fresh (later ++ x :: earlier))
    (hx : x.handsOut = some p)
    (hagain : ∃ y ∈ later, y.handsOut = some p) : ∃ y ∈ later, y.frees (some p) = true := by
  obtain ⟨y, hy, hyp⟩ := hagain
  obtain ⟨newer, older, rfl⟩ := List.append_of_mem hy
  have hsplit : newer ++ y :: older ++ x :: earlier = newer ++ y :: (older ++ x :: earlier) := by
    simp
  have hnot : ¬ Live p (older ++ x :: earlier) := Trace.Always.at hf hsplit p hyp
  by_contra hnone
  refine hnot
    (Trace.since_iff.2 ⟨older, x, earlier, rfl, hx, fun z hz ↦ Bool.eq_false_iff.2 fun hfree ↦ ?_⟩)
  exact hnone ⟨z, List.mem_append_right _ (List.mem_cons_of_mem _ hz), hfree⟩

end

end NetworkStackPicoTcp
