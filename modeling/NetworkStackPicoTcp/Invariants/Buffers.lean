import NetworkStackPicoTcp.Invariants.Delivery

/-!
# Buffers and connections

What the operations that transfer data find in the slot of their handle.

* The dataport of a slot refers to a `buf_io` cell of the table: its own for a handle that `create`
  has made, and the listening socket's for one that `accept` has made. `Unaliased` says of a run
  that no cell has been overwritten to which another client's handle still refers; in such runs
  every slot's dataport leads to its owner's memory (`Stepped.buffers`).
* A slot is marked as connected only after a callback has told so, or if it came from `accept`
  (`Stepped.established`).
-/

namespace NetworkStackPicoTcp

open Trace (Since Always)

variable {pl : Platform} {cfg : Config} {c : ℤ} {r : RpcCall} {i j : ℕ}

section

variable {s s' : NetworkStack} {h : History} {x : Entry} {w w' : World}

/-! ### Buffers -/

/-- The slot has one of the types that a client can ask for, so it has been filled in since it was
reserved. -/
def SocketResources.filled (r : SocketResources) : Prop :=
  r.socketType = .stream ∨ r.socketType = .dgram

/-- The `buf_io` of slot `i` and the cell to which its dataport refers hold the address of its
owner's dataport, and the size is that dataport's. -/
structure BufferOf (pl : Platform) (s : NetworkStack) (i : ℕ) : Prop where
  bufIo : (s.sockets i).bufIo = pl.rpcBuf (s.sockets i).clientId
  size : (s.sockets i).buf.size = pl.rpcBufSize (s.sockets i).clientId
  cell : ∃ j < s.numberOfSockets, (s.sockets i).buf.io = some j ∧
    (s.sockets j).bufIo = pl.rpcBuf (s.sockets i).clientId

/-- Every handle in use that has been filled in has its owner's buffer. -/
def Buffers (pl : Platform) (s : NetworkStack) : Prop :=
  ∀ i < s.numberOfSockets, (s.sockets i).status = .inUse → (s.sockets i).filled → BufferOf pl s i

/-- Every other handle in use whose dataport refers to the `buf_io` of slot `j` belongs to a client
with the dataport of `c`. -/
def Unshared (pl : Platform) (c : ℤ) (s : NetworkStack) (j : ℕ) : Prop :=
  ∀ i < s.numberOfSockets, i ≠ j → (s.sockets i).status = .inUse → (s.sockets i).buf.io = some j →
    pl.rpcBuf c = pl.rpcBuf (s.sockets i).clientId

/-- An RPC changes the `buf_io` of a slot only if no other client's handle refers to it. -/
def Entry.unaliased (pl : Platform) : Entry → Prop
  | .own c _ s s' => ∀ j < s.numberOfSockets, (s'.sockets j).bufIo ≠ (s.sockets j).bufIo →
      Unshared pl c s j
  | _ => True

/-- No `buf_io` has been overwritten to which a handle of a client with another dataport refers. -/
def Unaliased (pl : Platform) (h : History) : Prop := ∀ x ∈ h, x.unaliased pl

instance (s : NetworkStack) : Decidable (Unshared pl c s j) :=
  inferInstanceAs (Decidable (∀ i < s.numberOfSockets, i ≠ j → (s.sockets i).status = .inUse →
    (s.sockets i).buf.io = some j → pl.rpcBuf c = pl.rpcBuf (s.sockets i).clientId))

instance decidableUnaliased : DecidablePred (Entry.unaliased pl)
  | .own c _ s s' => inferInstanceAs (Decidable (∀ j < s.numberOfSockets,
      (s'.sockets j).bufIo ≠ (s.sockets j).bufIo → Unshared pl c s j))
  | .begin .. | .answer .. | .event .. | .notified .. | .reply .. => .isTrue trivial

instance : Decidable (Unaliased pl h) := inferInstanceAs (Decidable (∀ x ∈ h, x.unaliased pl))

theorem Unaliased.of_append {new old : History} (h : Unaliased pl (new ++ old)) :
    Unaliased pl old :=
  fun x hx ↦ h x (List.mem_append_right _ hx)

namespace Buffers

/-- Two records of one slot agree on its buffer, its owner and its type. -/
structure SameBuffer (r r' : SocketResources) : Prop where
  status : r'.status = r.status
  clientId : r'.clientId = r.clientId
  socketType : r'.socketType = r.socketType
  bufIo : r'.bufIo = r.bufIo
  buf : r'.buf = r.buf

theorem SameBuffer.of_slotFrame {r r' : SocketResources} (h : SlotFrame r r') : SameBuffer r r' :=
  ⟨h.status, h.clientId, h.socketType, h.bufIo, h.buf⟩

/-- The buffer of a slot that stays as it is, if the cell to which it refers does. -/
theorem bufferOf_of_same (hb : BufferOf pl s i) (hn : s'.numberOfSockets = s.numberOfSockets)
    (hi : SameBuffer (s.sockets i) (s'.sockets i))
    (hcell : ∀ j < s.numberOfSockets, (s.sockets i).buf.io = some j →
      (s.sockets j).bufIo = pl.rpcBuf (s.sockets i).clientId →
      (s'.sockets j).bufIo = pl.rpcBuf (s.sockets i).clientId) : BufferOf pl s' i := by
  obtain ⟨j, hj, hio, hval⟩ := hb.cell
  refine ⟨?_, ?_, j, hn ▸ hj, ?_, ?_⟩
  · rw [hi.bufIo, hi.clientId, hb.bufIo]
  · rw [hi.buf, hi.clientId, hb.size]
  · rw [hi.buf, hio]
  · rw [hi.clientId, hcell j hj hio hval]

/-- A step that leaves all buffers alone. -/
theorem same (hb : Buffers pl s) (hn : s'.numberOfSockets = s.numberOfSockets)
    (hs : ∀ i, SameBuffer (s.sockets i) (s'.sockets i)) : Buffers pl s' := by
  intro i hi hin hfilled
  have hfilled' : (s.sockets i).filled := by
    rwa [SocketResources.filled, (hs i).socketType] at hfilled
  refine bufferOf_of_same (hb i (hn ▸ hi) ((hs i).status.symm.trans hin) hfilled') hn (hs i) ?_
  intro j _ _ hval
  rw [(hs j).bufIo, hval]

theorem frame (hb : Buffers pl s) (hf : SameFrame s s') : Buffers pl s' :=
  hb.same hf.numberOfSockets fun i ↦ .of_slotFrame (hf.slot i)

/-- An update of one slot that leaves its buffer alone. -/
theorem updateSocket (hb : Buffers pl s) {f : SocketResources → SocketResources}
    (hf : SameBuffer (s.sockets j) (f (s.sockets j))) : Buffers pl (s.updateSocket j f) := by
  refine hb.same rfl fun i ↦ ?_
  rw [NetworkStack.updateSocket_sockets]
  split_ifs with hij
  · rw [hij]
    exact hf
  · exact ⟨rfl, rfl, rfl, rfl, rfl⟩

/-- A step that changes slot `j` only, and leaves its `buf_io` alone or does not change it under
another client's handle. -/
theorem change (hb : Buffers pl s) (hn : s'.numberOfSockets = s.numberOfSockets)
    (hj : j < s.numberOfSockets) (hs : ∀ i, i ≠ j → s'.sockets i = s.sockets i)
    (hu : (s'.sockets j).bufIo ≠ (s.sockets j).bufIo → ∀ i < s.numberOfSockets, i ≠ j →
      (s.sockets i).status = .inUse → (s.sockets i).buf.io = some j →
      (s'.sockets j).bufIo = pl.rpcBuf (s.sockets i).clientId)
    (hself : (s'.sockets j).status = .inUse → (s'.sockets j).filled → BufferOf pl s' j) :
    Buffers pl s' := by
  intro i hi hin hfilled
  rcases eq_or_ne i j with rfl | hij
  · exact hself hin hfilled
  rw [hs i hij] at hin hfilled
  have hi' : i < s.numberOfSockets := hn ▸ hi
  refine bufferOf_of_same (hb i hi' hin hfilled) hn
    (by rw [hs i hij]; exact ⟨rfl, rfl, rfl, rfl, rfl⟩) fun l _ hio hval ↦ ?_
  rcases eq_or_ne l j with rfl | hlj
  · by_cases hsame : (s'.sockets l).bufIo = (s.sockets l).bufIo
    · rw [hsame, hval]
    · exact hu hsame i hi' hij hin hio
  · rw [hs l hlj, hval]

theorem own (hb : Buffers pl s) (ho : OwnStep pl c r s s')
    (hu : (Entry.own c r s s').unaliased pl) : Buffers pl s' := by
  cases ho with
  | setError | clearClose | clearRead | snapshot => exact hb.updateSocket ⟨rfl, rfl, rfl, rfl, rfl⟩
  | acceptPending => exact hb.updateSocket (.of_slotFrame (SlotFrame.acceptPending _))
  | adopt _ hi hj _ => exact hb.updateSocket ⟨rfl, hi.2.trans hj.2.symm, rfl, rfl, rfl⟩
  | advanceHead | flagSelf | setTail => exact hb.same rfl fun _ ↦ ⟨rfl, rfl, rfl, rfl, rfl⟩
  | @release i k _ ho _ =>
    refine hb.change rfl ho.1 (fun l hl ↦ NetworkStack.sockets_release_of_ne hl) (fun hne ↦ ?_)
      fun hin ↦ ?_
    · rw [NetworkStack.sockets_release_self] at hne
      exact absurd rfl hne
    · rw [NetworkStack.sockets_release_self] at hin
      exact absurd hin (by simp [SocketResources.release])
  | @create j _ type _ err _ _ hj =>
    -- the dataport is assigned on the slot's own `buf_io`
    have hself : (s.updateSocket j (SocketResources.create j type (pl.rpcBuf c) (pl.rpcBufSize c)
        err)).sockets j = (s.sockets j).create j type (pl.rpcBuf c) (pl.rpcBufSize c) err :=
      NetworkStack.updateSocket_sockets_self
    have hcell := congrArg pl.rpcBuf hj.2.symm
    refine hb.change rfl hj.1 (fun l hl ↦ NetworkStack.updateSocket_sockets_of_ne hl)
      (fun hne l hl hlj hin hio ↦ ?_) fun _ _ ↦ ?_
    · rw [hself]
      exact hu j hj.1 hne l hl hlj hin hio
    refine ⟨?_, ?_, j, hj.1, ?_, ?_⟩
    · rw [hself]
      exact hcell
    · rw [hself]
      exact congrArg pl.rpcBufSize hj.2.symm
    · rw [hself]
      rfl
    · rw [hself]
      exact hcell
  | @accepted i j _ _ _ hi hj hij ht _ hin =>
    -- the dataport is a copy and refers to the cell of the listening slot
    obtain ⟨hbuf, hsize, l, hl, hio, hval⟩ := hb i hi.1 hin (Or.inl ht)
    rw [hi.2] at hbuf hsize hval
    have hself : (s.updateSocket j (SocketResources.accepted (s.sockets i))).sockets j =
        (s.sockets i).accepted (s.sockets j) := NetworkStack.updateSocket_sockets_self
    refine hb.change rfl hj.1 (fun l hl ↦ NetworkStack.updateSocket_sockets_of_ne hl)
      (fun hne l hl hlj hin hio ↦ ?_) fun _ _ ↦ ?_
    · rw [hself]
      exact hbuf.trans (hu j hj.1 hne l hl hlj hin hio)
    have hbuf' : ((s.sockets i).accepted (s.sockets j)).bufIo =
        pl.rpcBuf ((s.sockets i).accepted (s.sockets j)).clientId :=
      hbuf.trans (congrArg pl.rpcBuf hj.2.symm)
    refine ⟨?_, ?_, l, hl, ?_, ?_⟩
    · rw [hself]
      exact hbuf'
    · rw [hself]
      exact hsize.trans (congrArg pl.rpcBufSize hj.2.symm)
    · rw [hself]
      exact hio
    · -- the cell to which the listening socket refers may be the new slot's own
      rw [hself]
      rcases eq_or_ne l j with rfl | hlj
      · rw [hself]
        exact hbuf'
      · rw [NetworkStack.updateSocket_sockets_of_ne hlj]
        exact hval.trans (congrArg pl.rpcBuf hj.2.symm)

theorem reserve (hb : Buffers pl s) {k p : ℕ} (hi : s.firstFree = some i) :
    Buffers pl (s.reserve k i (some p) c) := by
  obtain ⟨-, hlt, -⟩ := NetworkStack.firstFree_eq_some_iff.1 hi
  refine hb.change rfl hlt (fun l hl ↦ NetworkStack.sockets_reserve_of_ne hl) (fun hne ↦ ?_)
    fun _ hfilled ↦ ?_
  · rw [NetworkStack.sockets_reserve_self] at hne
    exact absurd rfl hne
  · rw [NetworkStack.sockets_reserve_self] at hfilled
    rcases hfilled with ht | ht <;> exact absurd ht (by simp [SocketResources.reserve])

theorem micro (hb : Buffers pl w.1) (hs : Micro pl w w') (hu : Unaliased pl w'.2) :
    Buffers pl w'.1 := by
  cases hs with
  | begin | answer | enter | put | reply => exact hb
  | own _ ho => exact hb.own ho (hu _ List.mem_cons_self)
  | reserve _ _ hi => exact hb.reserve hi
  | snapshot => exact hb.updateSocket ⟨rfl, rfl, rfl, rfl, rfl⟩
  | advance | flagSelf | setTail | setState => exact hb.same rfl fun _ ↦ ⟨rfl, rfl, rfl, rfl, rfl⟩
  | event hcb => exact hb.frame (sameFrame_callbackStep hcb)
  | notified => exact hb.frame NetworkStack.sameFrame_notify

end Buffers

/-- **Buffers belong to the owners of the handles**, in every world that steps lead to without
overwriting a cell to which another client's handle refers. -/
theorem Stepped.buffers (h : Stepped pl cfg w) (hu : Unaliased pl w.2) : Buffers pl w.1 := by
  induction h with
  | refl =>
    intro i _ hin
    exact absurd hin (by simp [Config.init, SocketResources.zero])
  | tail _ hs ih =>
    obtain ⟨new, hnew⟩ := hs.suffix
    exact (ih (hnew ▸ hu).of_append).micro hs hu

/-! ### Connections -/

/-- A callback records in slot `i` that a connection has been established. -/
def Entry.establishes (i : ℕ) : Entry → Prop
  | .event ev s _ => s.getHandleFromImplementationSocket ev.socket = some i ∧ ev.established = true
  | _ => False

/-- Since slot `i` was reserved, a connection has been recorded for it, or it was reserved by
`accept`. -/
def Established (i : ℕ) (h : History) : Prop :=
  Since (fun x ↦ ¬ x.reserves i) (fun x ↦ x.establishes i ∨ x.reserves i ∧ x.isOfAccept = true) h

theorem CameFromAccept.established (h : CameFromAccept i w.2) : Established i w.2 :=
  Since.mono (fun _ hx ↦ hx) (fun _ ↦ Or.inr) h

/-- Slots are marked as connected only for a reason. -/
def Connections (w : World) : Prop :=
  ∀ i, (w.1.sockets i).connected = true → Established i w.2

namespace Connections

theorem cons (hw : Connections (s, h)) (hx : ∀ i, ¬ x.reserves i)
    (hs : ∀ i, (s'.sockets i).connected = true → (s.sockets i).connected = true) :
    Connections (s', x :: h) :=
  fun i hi ↦ Or.inr ⟨hx i, hw i (hs i hi)⟩

theorem own (pl : Platform) (hw : Connections (s, h)) (ho : OwnStep pl c r s s')
    (hn : ∀ i, (s'.sockets i).connected = true →
      (s.sockets i).connected = true ∨ CameFromAccept i h) :
    Connections (s', .own c r s s' :: h) := by
  intro i hi
  refine Or.inr ⟨ho.not_reserves, ?_⟩
  rcases hn i hi with hold | hacc
  · exact hw i hold
  · exact CameFromAccept.established (w := (s, h)) hacc

theorem reserve (hw : Connections (s, h)) {k p : ℕ} (hi : s.firstFree = some i) :
    Connections (s.reserve k i (some p) c,
      .own c r (s.updateSocket i (SocketResources.reserve (some p) c)) (s.reserve k i (some p) c) ::
      .answer c r (.unlock .socketCB) () (s.updateSocket i (SocketResources.reserve (some p) c)) ::
      .own c r s (s.updateSocket i (SocketResources.reserve (some p) c)) :: h) := by
  intro j hj
  have hj' : ((s.reserve k i (some p) c).sockets j).connected = true := hj
  have hji : j ≠ i := by
    rintro rfl
    rw [NetworkStack.sockets_reserve_self] at hj'
    exact absurd hj' (by simp [SocketResources.reserve])
  rw [NetworkStack.sockets_reserve_of_ne hji] at hj'
  refine Or.inr ⟨?_, Or.inr ⟨id, Or.inr ⟨?_, hw j hj'⟩⟩⟩
  · rintro ⟨hfree, hin⟩
    exact absurd (hfree.symm.trans hin) (by decide)
  · rintro ⟨hfree, hin⟩
    rw [NetworkStack.updateSocket_sockets_of_ne hji] at hin
    exact absurd (hfree.symm.trans hin) (by decide)

theorem event (hw : Connections w) (hcb : CallbackStep w w') : Connections w' := by
  obtain ⟨ev, -, hs, hh⟩ := hcb
  intro i hi
  rw [hh]
  obtain ⟨-, heq⟩ | ⟨j, k, hj, -, heq⟩ := NetworkStack.handlePicoSocketEvent_cases hs
  · rw [heq] at hi
    exact Or.inr ⟨id, hw i hi⟩
  · rw [heq, NetworkStack.updateClient_sockets, NetworkStack.updateSocket_sockets] at hi
    split_ifs at hi with hij
    · rw [SocketResources.recordEvent_connected, Bool.or_eq_true] at hi
      rcases hi with hold | hnew
      · exact Or.inr ⟨id, hw i (hij ▸ hold)⟩
      · exact Or.inl (Or.inl ⟨hij ▸ hj, hnew⟩)
    · exact Or.inr ⟨id, hw i hi⟩

theorem micro (hw : Connections w) (hs : Micro pl w w') : Connections w' := by
  cases hs with
  | begin | answer | enter | put | reply => exact hw.cons (fun _ ↦ id) fun _ ↦ id
  | own _ ho hn => exact hw.own pl ho hn
  | reserve _ _ hi => exact hw.reserve hi
  | @snapshot s h c r k hr _ hk _ ho =>
    have hlock : Connections (s, .answer c r (.lock .stackTS) () s :: h) :=
      hw.cons (fun _ ↦ id) fun _ ↦ id
    exact hlock.own pl (.snapshot hr hk ho) (keepsConnected id)
  | advance hr _ hk => exact hw.own pl (.advanceHead hr hk) fun _ ↦ Or.inl
  | flagSelf hr _ hk => exact hw.own pl (.flagSelf hr hk) fun _ ↦ Or.inl
  | setTail hr _ hk => exact hw.own pl (.setTail hr hk) fun _ ↦ Or.inl
  | event hcb => exact hw.event hcb
  | @notified s h =>
    have hsock : s.notifyClientsAboutPendingEvents.1.sockets = s.sockets :=
      NetworkStack.sockets_notify
    exact hw.cons (fun _ ↦ id) fun i hi ↦ by rwa [hsock] at hi
  | setState => exact hw

end Connections

/-- **A slot marked as connected has been told so or came from accept**, in every world that steps
lead to. -/
theorem Stepped.established (h : Stepped pl cfg w) (hi : (w.1.sockets i).connected = true) :
    Established i w.2 := by
  have hinit : Connections (cfg.init, []) := fun _ hi ↦ absurd hi Bool.false_ne_true
  exact Micros.invariant (fun _ _ hs hw ↦ hw.micro hs) h hinit i hi

end

end NetworkStackPicoTcp
