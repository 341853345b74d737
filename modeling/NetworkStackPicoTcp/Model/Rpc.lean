import NetworkStackPicoTcp.Model.PicoSocket

/-!
# The socket RPCs

The entry points `networkStack_rpc_socket_*` of `network_stack_core.c`. Each is a chain of checks
that may return early, in its own order, followed by an operation. The chain is the list given to
`firstError`, in source order; the operation is the body of `guarded`.

A pointer parameter is an `Option` of what it points to, `none` for `NULL`, and its final contents
are part of the result. The caller is identified by its badge.
-/

namespace NetworkStackPicoTcp

open Prog (get modify)

variable {α : Type}

/-! ### Checks -/

/-- The first check that fails decides. -/
def firstError (checks : List (Option OsError)) : Option OsError :=
  checks.findSome? id

@[simp] theorem firstError_nil : firstError [] = none := rfl

@[simp] theorem firstError_cons_none {cs : List (Option OsError)} :
    firstError (none :: cs) = firstError cs := rfl

@[simp] theorem firstError_cons_some {e : OsError} {cs : List (Option OsError)} :
    firstError (some e :: cs) = some e := rfl

theorem firstError_cons_eq_none_iff {c : Option OsError} {cs : List (Option OsError)} :
    firstError (c :: cs) = none ↔ c = none ∧ firstError cs = none := by
  cases c <;> simp

/-- `CHECK_IS_RUNNING`. -/
def checkIsRunning (s : NetworkStack) : Option OsError :=
  if s.currentState = .running then none
  else if s.currentState = .fatalError then some .aborted
  else some .notInitialized

/-- `CHECK_SOCKET` on the result of `get_socket_from_handle`. -/
def checkSocket (s : NetworkStack) (handle : ℤ) : Option OsError :=
  if s.getSocketFromHandle handle = none then some .invalidHandle else none

/-- `CHECK_SOCKET_TYPE`. -/
def checkSocketType (s : NetworkStack) (handle : ℤ) (type : SocketType) : Option OsError :=
  if (s.sockets handle.toNat).socketType ≠ type then some .networkProto else none

/-- `CHECK_SOCKET_CONNECTED`. -/
def checkSocketConnected (s : NetworkStack) (handle : ℤ) : Option OsError :=
  if (s.sockets handle.toNat).connected = false then some .networkConnNone else none

/-- `CHECK_CLIENT_ID`. -/
def checkClientId (s : NetworkStack) (handle : ℤ) (caller : ℤ) : Option OsError :=
  if (s.sockets handle.toNat).clientId ≠ caller then some .invalidHandle else none

/-- `CHECK_PTR_NOT_NULL`. -/
def checkPtr (pl : Platform) {β : Type} (ptr : Option β) : Option OsError :=
  if ptr.isNone then some pl.nullPtrError else none

/-- `CHECK_STR_IS_NUL_TERMINATED` on the address field of a non-`NULL` address. -/
def checkNulTerminated (pl : Platform) (addr : OsSocketAddr) : Option OsError :=
  if pl.isNulTerminated addr.addr = false then some pl.unterminatedError else none

/-- Return early on the first failing check, otherwise run the body. -/
def guarded (checks : NetworkStack → List (Option OsError)) (exit : OsError → α) (body : Rpc α) :
    Rpc α := do
  let s ← get
  match firstError (checks s) with
  | some e => return exit e
  | none => body

/-! ### Collecting events -/

/-- The bits that a client sees once. -/
def oneShotEvents : Finset OsSockEv := {.connEst, .write, .error}

/-- One pass through the two nested `if`s of the sweep. -/
def sweepSlot (pl : Platform) (clientId : ℤ) (i : ℕ) (offset events : ℕ) : Rpc (ℕ × ℕ) := do
  let s ← get
  if (s.sockets i).clientId = clientId ∧ (s.sockets i).eventMask ≠ ∅ then
    request (.lock .stackTS)
    let s ← get
    modify fun s ↦ s.updateSocket i (SocketResources.clear oneShotEvents)
    request (.unlock .stackTS)
    request (.putEvent offset
      ⟨(s.sockets i).eventMask, i, (s.sockets i).parentHandle, (s.sockets i).currentError⟩)
    return (offset + pl.sizeofEvt, events + 1)
  else
    return (offset, events)

/-- `head++`, wrapping at the end of the table. -/
def NetworkStack.advanceHead (s : NetworkStack) (k : ℕ) : NetworkStack :=
  s.updateClient k fun c ↦
    { c with head := if c.head + 1 = s.numberOfSockets then 0 else c.head + 1 }

/-- The `do`-`while` loop of the sweep, with a bound on its iterations. It returns the number of
events written. -/
def sweep (pl : Platform) (clientId : ℤ) (k maxEvents : ℕ) : ℕ → ℕ → ℕ → Rpc ℕ
  | 0, _, _ => Rpc.diverge
  | fuel + 1, offset, events => do
    request .preempt
    let s ← get
    let (offset, events) ← sweepSlot pl clientId (s.clients k).head offset events
    modify fun s ↦ s.advanceHead k
    let s ← get
    if (s.clients k).head ≠ (s.clients k).tail ∧ events < maxEvents then
      sweep pl clientId k maxEvents fuel offset events
    else
      return events

/-- `networkStack_rpc_socket_getPendingEvents`. -/
def rpcSocketGetPendingEvents (pl : Platform) (caller : ℤ) (maxRequestedSize : ℕ)
    (pNumberOfEvents : Option ℕ) : Rpc (OsError × Option ℕ) :=
  guarded
    (fun s ↦ [checkIsRunning s, checkPtr pl pNumberOfEvents,
      if maxRequestedSize < pl.sizeofEvt then some .bufferTooSmall else none])
    (·, pNumberOfEvents)
    do
      let s ← get
      match s.getClientIndexFromClientId caller with
      | none => return (.aborted, pNumberOfEvents)
      | some k =>
        let maxEvents :=
          if maxRequestedSize ≤ pl.rpcBufSize caller then maxRequestedSize / pl.sizeofEvt
          else pl.rpcBufSize caller / pl.sizeofEvt
        let events ← sweep pl caller k maxEvents s.numberOfSockets 0 0
        let s ← get
        if maxEvents ≤ events ∧ (s.clients k).head ≠ (s.clients k).tail then
          modify fun s ↦ s.updateClient k Client.flag
        modify fun s ↦ s.updateClient k fun c ↦ { c with tail := c.head }
        return (.success, some events)

/-! ### The entry points -/

/-- `networkStack_getState`. -/
def networkStackGetState (s : NetworkStack) : StackState := s.currentState

/-- `networkStack_rpc_socket_getStatus`. It has no checks. -/
def rpcSocketGetStatus (s : NetworkStack) : StackState := networkStackGetState s

/-- `networkStack_rpc_socket_create`. -/
def rpcSocketCreate (pl : Platform) (caller : ℤ) (domain : SocketDomain) (type : SocketType)
    (pHandle : Option ℤ) : Rpc (OsError × Option ℤ) :=
  guarded (fun s ↦ [checkIsRunning s, checkPtr pl pHandle]) (·, pHandle) do
    let (err, handle) ← picoSocketCreate domain type (pHandle.getD 0) caller (pl.rpcBuf caller)
      (pl.rpcBufSize caller)
    return (err, some handle)

/-- `networkStack_rpc_socket_close`. -/
def rpcSocketClose (caller : ℤ) (handle : ℤ) : Rpc OsError :=
  guarded (fun s ↦ [checkIsRunning s, checkSocket s handle, checkClientId s handle caller]) id
    (picoSocketClose handle caller)

/-- `networkStack_rpc_socket_connect`. -/
def rpcSocketConnect (pl : Platform) (caller : ℤ) (handle : ℤ) (dstAddr : Option OsSocketAddr) :
    Rpc OsError :=
  guarded
    (fun s ↦ [checkIsRunning s, checkSocket s handle, checkSocketType s handle .stream,
      checkClientId s handle caller, checkPtr pl dstAddr,
      dstAddr.bind (checkNulTerminated pl)])
    id
    (match dstAddr with
    | none => Rpc.nullDeref
    | some addr => picoSocketConnect pl handle addr)

/-- `networkStack_rpc_socket_bind`. -/
def rpcSocketBind (pl : Platform) (caller : ℤ) (handle : ℤ) (localAddr : Option OsSocketAddr) :
    Rpc OsError :=
  guarded
    (fun s ↦ [checkIsRunning s, checkSocket s handle, checkClientId s handle caller,
      checkPtr pl localAddr, localAddr.bind (checkNulTerminated pl)])
    id
    (match localAddr with
    | none => Rpc.nullDeref
    | some addr => picoSocketBind pl handle addr)

/-- `networkStack_rpc_socket_listen`. -/
def rpcSocketListen (caller : ℤ) (handle : ℤ) (backlog : ℤ) : Rpc OsError :=
  guarded
    (fun s ↦ [checkIsRunning s, checkSocket s handle, checkSocketType s handle .stream,
      checkClientId s handle caller])
    id
    (picoSocketListen handle backlog)

/-- `networkStack_rpc_socket_accept`. -/
def rpcSocketAccept (pl : Platform) (caller : ℤ) (handle : ℤ) (pClientHandle : Option ℤ)
    (srcAddr : Option OsSocketAddr) : Rpc (OsError × Option ℤ × Option OsSocketAddr) :=
  guarded
    (fun s ↦ [checkIsRunning s, checkSocket s handle, checkSocketType s handle .stream,
      checkClientId s handle caller, checkPtr pl pClientHandle, checkPtr pl srcAddr])
    (·, pClientHandle, srcAddr)
    do
      let (err, accepted) ← picoSocketAccept caller handle (pClientHandle.getD 0)
      return (err, some accepted, srcAddr)

/-- The length an operation works with: no more than the caller's dataport holds. -/
def clampLen (pl : Platform) (caller : ℤ) (len : ℕ) : ℕ :=
  if len > pl.rpcBufSize caller then pl.rpcBufSize caller else len

/-- `networkStack_rpc_socket_write`. -/
def rpcSocketWrite (pl : Platform) (caller : ℤ) (handle : ℤ) (pLen : Option ℕ) :
    Rpc (OsError × Option ℕ) :=
  guarded
    (fun s ↦ [checkIsRunning s, checkSocket s handle, checkSocketType s handle .stream,
      checkSocketConnected s handle, checkClientId s handle caller, checkPtr pl pLen])
    (·, pLen)
    do
      let (err, len) ← picoSocketWrite pl handle (clampLen pl caller (pLen.getD 0))
      return (err, some len)

/-- `networkStack_rpc_socket_read`. -/
def rpcSocketRead (pl : Platform) (caller : ℤ) (handle : ℤ) (pLen : Option ℕ) :
    Rpc (OsError × Option ℕ) :=
  guarded
    (fun s ↦ [checkIsRunning s, checkSocket s handle, checkSocketType s handle .stream,
      checkSocketConnected s handle, checkClientId s handle caller, checkPtr pl pLen])
    (·, pLen)
    do
      let (err, len) ← picoSocketRead pl handle (clampLen pl caller (pLen.getD 0))
      return (err, some len)

/-- `networkStack_rpc_socket_sendto`. Unlike `connect` and `bind` it does not check that the address
is terminated. -/
def rpcSocketSendto (pl : Platform) (caller : ℤ) (handle : ℤ) (pLen : Option ℕ)
    (dstAddr : Option OsSocketAddr) : Rpc (OsError × Option ℕ) :=
  guarded
    (fun s ↦ [checkIsRunning s, checkSocket s handle, checkSocketType s handle .dgram,
      checkClientId s handle caller, checkPtr pl pLen, checkPtr pl dstAddr])
    (·, pLen)
    (match dstAddr with
    | none => Rpc.nullDeref
    | some addr => do
      let (err, len) ← picoSocketSendto pl handle (clampLen pl caller (pLen.getD 0)) addr
      return (err, some len))

/-- `networkStack_rpc_socket_recvfrom`. -/
def rpcSocketRecvfrom (pl : Platform) (caller : ℤ) (handle : ℤ) (pLen : Option ℕ)
    (srcAddr : Option OsSocketAddr) : Rpc (OsError × Option ℕ × Option OsSocketAddr) :=
  guarded
    (fun s ↦ [checkIsRunning s, checkSocket s handle, checkSocketType s handle .dgram,
      checkClientId s handle caller, checkPtr pl pLen, checkPtr pl srcAddr])
    (·, pLen, srcAddr)
    (match srcAddr with
    | none => Rpc.nullDeref
    | some addr => do
      let (err, len, addr) ← picoSocketRecvfrom pl handle (clampLen pl caller (pLen.getD 0)) addr
      return (err, some len, some addr))

/-! ### All RPCs as one operation -/

/-- A call of a socket RPC, with its arguments. -/
inductive RpcCall
  | create (domain : SocketDomain) (type : SocketType) (pHandle : Option ℤ)
  | close (handle : ℤ)
  | connect (handle : ℤ) (dstAddr : Option OsSocketAddr)
  | bind (handle : ℤ) (localAddr : Option OsSocketAddr)
  | listen (handle : ℤ) (backlog : ℤ)
  | accept (handle : ℤ) (pClientHandle : Option ℤ) (srcAddr : Option OsSocketAddr)
  | write (handle : ℤ) (pLen : Option ℕ)
  | read (handle : ℤ) (pLen : Option ℕ)
  | sendto (handle : ℤ) (pLen : Option ℕ) (dstAddr : Option OsSocketAddr)
  | recvfrom (handle : ℤ) (pLen : Option ℕ) (srcAddr : Option OsSocketAddr)
  | getPendingEvents (maxRequestedSize : ℕ) (pNumberOfEvents : Option ℕ)
  deriving DecidableEq

/-- The contents of an RPC's output parameters. -/
structure Outputs where
  handle : Option ℤ := none
  len : Option ℕ := none
  srcAddr : Option OsSocketAddr := none
  numberOfEvents : Option ℕ := none
  deriving DecidableEq

/-- What an RPC returns: its code and the final contents of its output parameters. -/
structure Reply where
  err : OsError
  out : Outputs
  deriving DecidableEq

/-- The handle argument. -/
def RpcCall.handle : RpcCall → Option ℤ
  | create _ _ _ | getPendingEvents _ _ => none
  | close h | connect h _ | bind h _ | listen h _ | accept h _ _ | write h _ | read h _
  | sendto h _ _ | recvfrom h _ _ => some h

/-- What the output parameters hold when the RPC is called. -/
def RpcCall.outputs : RpcCall → Outputs
  | create _ _ pHandle => { handle := pHandle }
  | accept _ pClientHandle srcAddr => { handle := pClientHandle, srcAddr := srcAddr }
  | write _ pLen | read _ pLen | sendto _ pLen _ => { len := pLen }
  | recvfrom _ pLen srcAddr => { len := pLen, srcAddr := srcAddr }
  | getPendingEvents _ pNumberOfEvents => { numberOfEvents := pNumberOfEvents }
  | close _ | connect _ _ | bind _ _ | listen _ _ => {}

/-- Run an RPC for the client with badge `caller`. -/
def rpc (pl : Platform) (caller : ℤ) : RpcCall → Rpc Reply
  | .create domain type pHandle =>
    (fun r ↦ ⟨r.1, { handle := r.2 }⟩) <$> rpcSocketCreate pl caller domain type pHandle
  | .close h => (⟨·, {}⟩) <$> rpcSocketClose caller h
  | .connect h addr => (⟨·, {}⟩) <$> rpcSocketConnect pl caller h addr
  | .bind h addr => (⟨·, {}⟩) <$> rpcSocketBind pl caller h addr
  | .listen h backlog => (⟨·, {}⟩) <$> rpcSocketListen caller h backlog
  | .accept h pClientHandle srcAddr =>
    (fun r ↦ ⟨r.1, { handle := r.2.1, srcAddr := r.2.2 }⟩) <$>
      rpcSocketAccept pl caller h pClientHandle srcAddr
  | .write h pLen => (fun r ↦ ⟨r.1, { len := r.2 }⟩) <$> rpcSocketWrite pl caller h pLen
  | .read h pLen => (fun r ↦ ⟨r.1, { len := r.2 }⟩) <$> rpcSocketRead pl caller h pLen
  | .sendto h pLen addr =>
    (fun r ↦ ⟨r.1, { len := r.2 }⟩) <$> rpcSocketSendto pl caller h pLen addr
  | .recvfrom h pLen srcAddr =>
    (fun r ↦ ⟨r.1, { len := r.2.1, srcAddr := r.2.2 }⟩) <$>
      rpcSocketRecvfrom pl caller h pLen srcAddr
  | .getPendingEvents size pNumberOfEvents =>
    (fun r ↦ ⟨r.1, { numberOfEvents := r.2 }⟩) <$>
      rpcSocketGetPendingEvents pl caller size pNumberOfEvents

end NetworkStackPicoTcp
