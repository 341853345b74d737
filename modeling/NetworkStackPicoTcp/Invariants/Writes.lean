import NetworkStackPicoTcp.Invariants.Reachable
import NetworkStackPicoTcp.Model.Component

/-!
# What the code of an RPC writes

Whatever an RPC reads and whatever its calls return, each of its writes leaves the state of the
stack and the clients as they are and takes back no notification that a client is owed (`Heeds`):
only the control thread lowers `needsToBeNotified`. The same holds of the callbacks that picoTCP
runs inside a call.
-/

namespace NetworkStackPicoTcp

open Prog (Within)

variable {pl : Platform} {c : ℤ} {r : RpcCall} {s s' s'' : NetworkStack} {i k : ℕ} {α β : Type}

/-- The stack is in the state it was in, the clients are who they were, and who was to be notified
still is. -/
structure Heeds (s s' : NetworkStack) : Prop extends SameSetup s s' where
  currentState : s'.currentState = s.currentState
  flag : ∀ k, (s.clients k).needsToBeNotified = true → (s'.clients k).needsToBeNotified = true

namespace Heeds

theorem refl (s : NetworkStack) : Heeds s s := ⟨SameSetup.refl s, rfl, fun _ ↦ id⟩

theorem trans (h : Heeds s s') (h' : Heeds s' s'') : Heeds s s'' :=
  ⟨h.toSameSetup.trans h'.toSameSetup, h'.currentState.trans h.currentState,
    fun k ↦ h'.flag k ∘ h.flag k⟩

theorem updateSocket {f : SocketResources → SocketResources} : Heeds s (s.updateSocket i f) :=
  ⟨SameSetup.of_clients rfl rfl rfl, rfl, fun _ ↦ id⟩

theorem updateClient {f : Client → Client}
    (hf : ∀ cl, (f cl).clientId = cl.clientId ∧ (f cl).inUse = cl.inUse ∧
      (f cl).socketQuota = cl.socketQuota ∧ (f cl).eventNotify = cl.eventNotify)
    (hflag : ∀ cl, cl.needsToBeNotified = true → (f cl).needsToBeNotified = true) :
    Heeds s (s.updateClient k f) := by
  have hsetup : SameSetup s (s.updateClient k f) :=
    SameSetup.of_client k f rfl rfl (fun _ ↦ NetworkStack.updateClient_clients ..) (hf _)
  refine ⟨hsetup, rfl, fun l hl ↦ ?_⟩
  rw [NetworkStack.updateClient_clients]
  split_ifs with hlk
  · exact hflag _ (hlk ▸ hl)
  · exact hl

theorem flagUp : Heeds s (s.updateClient k Client.flag) :=
  updateClient (fun _ ↦ ⟨rfl, rfl, rfl, rfl⟩) fun _ _ ↦ rfl

theorem handlePicoSocketEvent {ev : PicoEvent} (h : s.handlePicoSocketEvent ev = some s') :
    Heeds s s' := by
  obtain ⟨-, rfl⟩ | ⟨i, k, -, -, rfl⟩ := NetworkStack.handlePicoSocketEvent_cases h
  · exact refl _
  · exact updateSocket.trans flagUp

end Heeds

/-- The write heeds the notifications that are owed. -/
def Heeding (f : NetworkStack → NetworkStack) : Prop := ∀ s, Heeds s (f s)

/-- The code of an RPC makes such writes only. -/
abbrev heedful (p : Rpc α) : Prop := Within Heeding (fun _ ↦ True) p

/-! ### The parts of an RPC -/

theorem heedful_request {e : Call} : heedful (request e) := Prog.within_perform trivial

theorem heedful_updateSocket {f : SocketResources → SocketResources} :
    heedful (Prog.modify fun s ↦ s.updateSocket i f) :=
  Prog.within_modify fun _ ↦ Heeds.updateSocket

theorem heedful_guarded {checks : NetworkStack → List (Option OsError)} {exit : OsError → α}
    {body : Rpc α}
    (h : heedful body) : heedful (guarded checks exit body) := by
  refine Prog.within_bind Prog.within_get fun s ↦ ?_
  cases firstError (checks s) with
  | none => exact h
  | some e => exact Prog.within_pure

theorem heedful_socketOf {handle : ℤ} : heedful (socketOf handle) := by
  refine Prog.within_bind Prog.within_get fun s ↦ ?_
  cases s.getSocketFromHandle handle with
  | none => exact ⟨trivial, fun b ↦ b.elim⟩
  | some i => exact Prog.within_pure

theorem heedful_withOpenSocket {handle : ℤ} {exit : OsError → α} {k : ℕ → PicoPtr → Rpc α}
    (h : ∀ i p, heedful (k i p)) : heedful (withOpenSocket handle exit k) := by
  refine Prog.within_bind heedful_socketOf fun i ↦ Prog.within_bind Prog.within_get fun s ↦ ?_
  split_ifs
  · exact Prog.within_pure
  · exact Prog.within_pure
  · exact h i _

theorem heedful_lockedCall {pc : PicoCall} : heedful (lockedCall i pc) :=
  Prog.within_bind heedful_request fun _ ↦ Prog.within_bind heedful_request fun _ ↦
    Prog.within_bind heedful_request fun _ ↦ Prog.within_bind heedful_updateSocket fun _ ↦
      Prog.within_bind heedful_request fun _ ↦ Prog.within_pure

theorem heedful_finish {ret : ℤ} {failure success : α} : heedful (finish ret failure success) := by
  unfold finish
  split_ifs
  · exact Prog.within_pure
  · exact Prog.within_bind heedful_request fun _ ↦ Prog.within_pure

theorem heedful_setOption {sock : PicoPtr} {option : PicoOption} {value : ℕ} :
    heedful (setOption sock option value) :=
  Prog.within_bind heedful_request fun _ ↦ Prog.within_pure

theorem heedful_setSocketOptions {sock : PicoPtr} : heedful (setSocketOptions sock) :=
  Prog.within_bind heedful_setOption fun _ ↦ Prog.within_bind heedful_setOption fun _ ↦
    Prog.within_bind heedful_setOption fun _ ↦ heedful_setOption

theorem heedful_reserveHandle {sock : PicoPtr} : heedful (reserveHandle sock c) := by
  refine Prog.within_bind Prog.within_get fun s ↦ ?_
  cases s.getClientIndexFromClientId c with
  | none => exact Prog.within_pure
  | some k =>
    show heedful (if (s.clients k).inUse = false then _ else _)
    split_ifs
    · exact Prog.within_pure
    refine Prog.within_bind heedful_request fun _ ↦ Prog.within_bind Prog.within_get fun s ↦ ?_
    split_ifs
    · exact Prog.within_bind heedful_request fun _ ↦ Prog.within_pure
    cases s.firstFree with
    | none => exact Prog.within_bind heedful_request fun _ ↦ Prog.within_pure
    | some i =>
      refine Prog.within_bind heedful_updateSocket fun _ ↦
        Prog.within_bind heedful_request fun _ ↦ ?_
      refine Prog.within_bind (Prog.within_modify fun s ↦ ?_) fun _ ↦ Prog.within_pure
      exact Heeds.updateClient (fun _ ↦ ⟨rfl, rfl, rfl, rfl⟩) fun _ ↦ id

theorem heeding_release : Heeding fun s ↦ s.release k i := fun _ ↦
  (Heeds.updateClient (f := Client.countDown) (fun _ ↦ ⟨rfl, rfl, rfl, rfl⟩) fun _ ↦ id).trans
    Heeds.updateSocket

theorem heedful_freeHandle {handle : ℤ} : heedful (freeHandle handle c) := by
  refine Prog.within_bind Prog.within_get fun s ↦ ?_
  cases s.getSocketFromHandle handle with
  | none => exact Prog.within_pure
  | some i =>
    cases s.getClientIndexFromClientId c with
    | none => exact Prog.within_pure
    | some k =>
      show heedful (if (s.clients k).inUse = false then _ else _)
      split_ifs
      · exact Prog.within_pure
      · exact Prog.within_pure
      · exact Prog.within_bind heedful_request fun _ ↦
          Prog.within_bind (Prog.within_modify heeding_release) fun _ ↦ heedful_request

theorem heedful_setParentHandle {handle parent : ℤ} : heedful (setParentHandle handle parent) := by
  refine Prog.within_bind Prog.within_get fun s ↦ ?_
  cases s.getSocketFromHandle handle with
  | none => exact Prog.within_pure
  | some i =>
    cases s.getSocketFromHandle parent with
    | none => exact Prog.within_pure
    | some p =>
      exact Prog.within_bind heedful_request fun _ ↦
        Prog.within_bind (Prog.within_modify fun _ ↦ Heeds.updateSocket) fun _ ↦ heedful_request

/-! ### The operations -/

theorem heedful_create {domain : SocketDomain} {type : SocketType} {h : ℤ} {buf : BufPtr}
    {size : ℕ} :
    heedful (picoSocketCreate domain type h c buf size) := by
  rw [picoSocketCreate.eq_def]
  cases translateSocketDomain domain with
  | none => exact Prog.within_pure
  | some picoDomain =>
    cases translateSocketType type with
    | none => exact Prog.within_pure
    | some picoType =>
      refine Prog.within_bind heedful_request fun _ ↦ Prog.within_bind heedful_request fun sock ↦ ?_
      refine Prog.within_bind heedful_request fun e ↦ ?_
      split_ifs
      · exact Prog.within_bind heedful_request fun _ ↦ Prog.within_pure
      have hstream : heedful (setStreamOption type sock) := by
        unfold setStreamOption
        split_ifs
        · exact heedful_setOption
        · exact Prog.within_pure
      refine Prog.within_bind hstream fun _ ↦ Prog.within_bind heedful_reserveHandle fun j ↦ ?_
      cases j with
      | none =>
        have hclose : heedful (closeUnreserved sock) := by
          refine Prog.within_bind heedful_request fun ret ↦ ?_
          split_ifs
          · exact Prog.within_bind heedful_request fun _ ↦ heedful_request
          · exact heedful_request
        exact Prog.within_bind hclose fun _ ↦
          Prog.within_bind heedful_request fun _ ↦ Prog.within_pure
      | some i =>
        exact Prog.within_bind heedful_updateSocket fun _ ↦
          Prog.within_bind heedful_setSocketOptions fun _ ↦
            Prog.within_bind heedful_request fun _ ↦ Prog.within_pure

theorem heedful_close {handle : ℤ} : heedful (picoSocketClose handle c) := by
  refine Prog.within_bind heedful_socketOf fun i ↦ Prog.within_bind Prog.within_get fun s ↦ ?_
  split_ifs
  · exact Prog.within_bind heedful_freeHandle fun _ ↦ Prog.within_pure
  · exact Prog.within_pure
  refine Prog.within_bind heedful_request fun _ ↦ Prog.within_bind heedful_request fun ret ↦ ?_
  refine Prog.within_bind heedful_request fun e ↦ Prog.within_bind heedful_updateSocket fun _ ↦ ?_
  refine Prog.within_bind heedful_updateSocket fun _ ↦ Prog.within_bind heedful_request fun _ ↦ ?_
  refine Prog.within_bind heedful_request fun _ ↦ ?_
  split_ifs
  · exact Prog.within_bind heedful_freeHandle fun _ ↦ Prog.within_pure
  · exact Prog.within_bind heedful_freeHandle fun _ ↦ Prog.within_pure

theorem heedful_connect {handle : ℤ} {addr : OsSocketAddr} :
    heedful (picoSocketConnect pl handle addr) := by
  refine heedful_withOpenSocket fun i sock ↦ Prog.within_bind heedful_request fun b ↦ ?_
  cases b with
  | none => exact Prog.within_pure
  | some a => exact Prog.within_bind heedful_lockedCall fun _ ↦ heedful_finish

theorem heedful_bind {handle : ℤ} {addr : OsSocketAddr} :
    heedful (picoSocketBind pl handle addr) := by
  refine heedful_withOpenSocket fun i sock ↦ Prog.within_bind heedful_request fun b ↦ ?_
  cases b with
  | none => exact Prog.within_pure
  | some a => exact Prog.within_bind heedful_lockedCall fun _ ↦ heedful_finish

theorem heedful_listen {handle backlog : ℤ} : heedful (picoSocketListen handle backlog) :=
  heedful_withOpenSocket fun _ _ ↦ Prog.within_bind heedful_lockedCall fun _ ↦ heedful_finish

theorem heedful_accept {handle h : ℤ} : heedful (picoSocketAccept c handle h) := by
  refine heedful_withOpenSocket fun i sock ↦ ?_
  refine Prog.within_bind heedful_request fun _ ↦ Prog.within_bind heedful_request fun b ↦ ?_
  refine Prog.within_bind heedful_request fun e ↦ Prog.within_bind heedful_updateSocket fun _ ↦ ?_
  refine Prog.within_bind heedful_updateSocket fun _ ↦ ?_
  split_ifs
  · exact Prog.within_bind heedful_request fun _ ↦
      Prog.within_bind heedful_request fun _ ↦ Prog.within_pure
  refine Prog.within_bind Prog.within_get fun s ↦ Prog.within_bind heedful_reserveHandle fun j ↦ ?_
  cases j with
  | none =>
    exact Prog.within_bind heedful_request fun _ ↦
      Prog.within_bind heedful_request fun _ ↦ Prog.within_pure
  | some j =>
    refine Prog.within_bind heedful_setSocketOptions fun _ ↦
      Prog.within_bind heedful_setParentHandle fun _ ↦ ?_
    refine Prog.within_bind Prog.within_get fun s ↦ ?_
    split_ifs
    · exact Prog.within_pure
    · exact Prog.within_bind (Prog.within_modify fun _ ↦ Heeds.updateSocket) fun _ ↦
        Prog.within_bind heedful_request fun _ ↦ Prog.within_pure

theorem heedful_write {handle : ℤ} {len : ℕ} : heedful (picoSocketWrite pl handle len) := by
  refine heedful_withOpenSocket fun i sock ↦ Prog.within_bind Prog.within_get fun s ↦ ?_
  split_ifs
  · exact Prog.within_pure
  · exact Prog.within_bind heedful_lockedCall fun _ ↦ heedful_finish

theorem heedful_read {handle : ℤ} {len : ℕ} : heedful (picoSocketRead pl handle len) := by
  refine heedful_withOpenSocket fun i sock ↦ Prog.within_bind Prog.within_get fun s ↦ ?_
  split_ifs
  · exact Prog.within_pure
  refine Prog.within_bind heedful_lockedCall fun b ↦ ?_
  obtain ⟨ret, err⟩ := b
  show heedful (if ret < 0 then _ else _)
  split_ifs
  · exact Prog.within_bind heedful_updateSocket fun _ ↦ Prog.within_pure
  · exact Prog.within_bind heedful_updateSocket fun _ ↦
      Prog.within_bind heedful_request fun _ ↦ Prog.within_pure
  · exact Prog.within_bind heedful_updateSocket fun _ ↦ Prog.within_pure
  · exact Prog.within_pure

theorem heedful_sendto {handle : ℤ} {len : ℕ} {addr : OsSocketAddr} :
    heedful (picoSocketSendto pl handle len addr) := by
  refine heedful_withOpenSocket fun i sock ↦ Prog.within_bind Prog.within_get fun s ↦ ?_
  split_ifs
  · exact Prog.within_pure
  refine Prog.within_bind heedful_request fun b ↦ ?_
  cases b with
  | none => exact Prog.within_pure
  | some a => exact Prog.within_bind heedful_lockedCall fun _ ↦ heedful_finish

theorem heedful_recvfrom {handle : ℤ} {len : ℕ} {addr : OsSocketAddr} :
    heedful (picoSocketRecvfrom pl handle len addr) := by
  refine heedful_withOpenSocket fun i sock ↦ Prog.within_bind Prog.within_get fun s ↦ ?_
  split_ifs
  · exact Prog.within_pure
  refine Prog.within_bind heedful_lockedCall fun b ↦ ?_
  obtain ⟨⟨ret, src, sport⟩, err⟩ := b
  show heedful (if ret < 0 then _ else _)
  split_ifs
  · exact Prog.within_bind heedful_updateSocket fun _ ↦ Prog.within_pure
  · exact Prog.within_bind heedful_updateSocket fun _ ↦
      Prog.within_bind heedful_request fun _ ↦ Prog.within_pure
  · exact Prog.within_pure

theorem heedful_sweep {maxEvents fuel offset events : ℕ} :
    heedful (sweep pl c k maxEvents fuel offset events) := by
  induction fuel generalizing offset events with
  | zero => exact ⟨trivial, fun b ↦ b.elim⟩
  | succ fuel ih =>
    have hslot : ∀ j, heedful (sweepSlot pl c j offset events) := by
      refine fun j ↦ Prog.within_bind Prog.within_get fun s ↦ ?_
      split_ifs
      · exact Prog.within_bind heedful_request fun _ ↦ Prog.within_bind Prog.within_get fun _ ↦
          Prog.within_bind heedful_updateSocket fun _ ↦ Prog.within_bind heedful_request fun _ ↦
            Prog.within_bind heedful_request fun _ ↦ Prog.within_pure
      · exact Prog.within_pure
    have hadvance : Heeding fun s ↦ s.advanceHead k := fun s ↦
      Heeds.updateClient (fun _ ↦ ⟨rfl, rfl, rfl, rfl⟩) fun _ ↦ id
    refine Prog.within_bind heedful_request fun _ ↦ Prog.within_bind Prog.within_get fun s ↦ ?_
    refine Prog.within_bind (hslot _) fun b ↦
      Prog.within_bind (Prog.within_modify hadvance) fun _ ↦ ?_
    refine Prog.within_bind Prog.within_get fun s ↦ ?_
    split_ifs
    · exact ih
    · exact Prog.within_pure

theorem heedful_getPendingEvents {size : ℕ} {pNumberOfEvents : Option ℕ} :
    heedful (rpcSocketGetPendingEvents pl c size pNumberOfEvents) := by
  refine heedful_guarded (Prog.within_bind Prog.within_get fun s ↦ ?_)
  cases s.getClientIndexFromClientId c with
  | none => exact Prog.within_pure
  | some k =>
    have htail : Heeding fun s ↦ s.updateClient k fun cl ↦ { cl with tail := cl.head } := fun _ ↦
      Heeds.updateClient (fun _ ↦ ⟨rfl, rfl, rfl, rfl⟩) fun _ ↦ id
    dsimp only
    generalize
      (if size ≤ pl.rpcBufSize c then size / pl.sizeofEvt else pl.rpcBufSize c / pl.sizeofEvt) =
        maxEvents
    refine Prog.within_bind heedful_sweep fun events ↦ Prog.within_bind Prog.within_get fun s ↦ ?_
    have hend : heedful
        (Prog.modify (fun s ↦ s.updateClient k fun cl ↦ { cl with tail := cl.head }) >>= fun _ ↦
        (pure (OsError.success, some events) : Rpc (OsError × Option ℕ))) :=
      Prog.within_bind (Prog.within_modify htail) fun _ ↦ Prog.within_pure
    split_ifs
    · exact Prog.within_bind (Prog.within_modify fun _ ↦ Heeds.flagUp) fun _ ↦ hend
    · exact hend

/-- **Every RPC heeds the notifications that are owed.** -/
theorem heedful_rpc : heedful (rpc pl c r) := by
  cases r with
  | create =>
    exact Prog.within_bind
      (heedful_guarded (Prog.within_bind heedful_create fun _ ↦ Prog.within_pure))
      fun _ ↦ Prog.within_pure
  | close => exact Prog.within_bind (heedful_guarded heedful_close) fun _ ↦ Prog.within_pure
  | connect h addr =>
    refine Prog.within_bind (heedful_guarded ?_) fun _ ↦ Prog.within_pure
    cases addr with
    | none => exact ⟨trivial, fun b ↦ b.elim⟩
    | some a => exact heedful_connect
  | bind h addr =>
    refine Prog.within_bind (heedful_guarded ?_) fun _ ↦ Prog.within_pure
    cases addr with
    | none => exact ⟨trivial, fun b ↦ b.elim⟩
    | some a => exact heedful_bind
  | listen => exact Prog.within_bind (heedful_guarded heedful_listen) fun _ ↦ Prog.within_pure
  | accept =>
    exact Prog.within_bind
      (heedful_guarded (Prog.within_bind heedful_accept fun _ ↦ Prog.within_pure))
      fun _ ↦ Prog.within_pure
  | write =>
    exact Prog.within_bind
      (heedful_guarded (Prog.within_bind heedful_write fun _ ↦ Prog.within_pure))
      fun _ ↦ Prog.within_pure
  | read =>
    exact Prog.within_bind
      (heedful_guarded (Prog.within_bind heedful_read fun _ ↦ Prog.within_pure))
      fun _ ↦ Prog.within_pure
  | sendto h pLen addr =>
    refine Prog.within_bind (heedful_guarded ?_) fun _ ↦ Prog.within_pure
    cases addr with
    | none => exact ⟨trivial, fun b ↦ b.elim⟩
    | some a => exact Prog.within_bind heedful_sendto fun _ ↦ Prog.within_pure
  | recvfrom h pLen addr =>
    refine Prog.within_bind (heedful_guarded ?_) fun _ ↦ Prog.within_pure
    cases addr with
    | none => exact ⟨trivial, fun b ↦ b.elim⟩
    | some a => exact Prog.within_bind heedful_recvfrom fun _ ↦ Prog.within_pure
  | getPendingEvents => exact Prog.within_bind heedful_getPendingEvents fun _ ↦ Prog.within_pure

end NetworkStackPicoTcp
