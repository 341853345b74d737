import Mathlib.Data.Finset.SDiff
import NetworkStackPicoTcp.Model.Handles

/-!
# The picoTCP wrapper

The functions `network_stack_pico_socket_*` of `network_stack_pico.c`. Each returns its error code
together with the final contents of what its pointer arguments point to.

Seven operations act on one open socket in the same way: they check the FIN bit and the picoTCP
pointer (`withOpenSocket`), and their locked section calls picoTCP and stores the translated
`pico_err` in the slot (`lockedCall`). Creating, closing and accepting have bodies of their own.
-/

namespace NetworkStackPicoTcp

open Prog (get modify)

variable {α : Type}

/-- The slot behind `get_socket_from_handle`, which the wrapper follows unchecked. -/
def socketOf (handle : ℤ) : Rpc ℕ := do
  let s ← get
  match s.getSocketFromHandle handle with
  | none => Rpc.nullDeref
  | some i => return i

/-- The head of an operation on an open socket: refuse one that has seen FIN or has no picoTCP
socket, else continue with the slot and the picoTCP socket. -/
def withOpenSocket (handle : ℤ) (exit : OsError → α) (k : ℕ → PicoPtr → Rpc α) : Rpc α := do
  let i ← socketOf handle
  let s ← get
  if .fin ∈ (s.sockets i).eventMask then
    return exit .connectionClosed
  if (s.sockets i).implementationSocket = none then
    return exit .invalidHandle
  k i (s.sockets i).implementationSocket

/-- `socket->current_error = err`. -/
def SocketResources.setError (err : OsError) (r : SocketResources) : SocketResources :=
  { r with currentError := err }

/-- `socket->eventMask &= ~bits`. -/
def SocketResources.clear (bits : Finset OsSockEv) (r : SocketResources) : SocketResources :=
  { r with eventMask := r.eventMask \ bits }

/-- The locked section of an operation: call picoTCP and record the translated `pico_err`. -/
def lockedCall (i : ℕ) (pc : PicoCall) : Rpc (pc.Answer × OsError) := do
  request (.lock .stackTS)
  let ret ← request (.pico pc)
  let e ← request .picoErr
  modify fun s ↦ s.updateSocket i (SocketResources.setError (picoErr2Os e))
  request (.unlock .stackTS)
  return (ret, picoErr2Os e)

/-- The end of most operations: a negative result of picoTCP is a failure, otherwise the main loop
is woken up. -/
def finish (ret : ℤ) (failure success : α) : Rpc α := do
  if ret < 0 then
    return failure
  request .notifyMainLoop
  return success

/-! ### Create and close -/

/-- `translate_socket_domain`. -/
def translateSocketDomain : SocketDomain → Option PicoProto
  | .inet => some .ipv4
  | .other _ => none

/-- `translate_socket_type`. -/
def translateSocketType : SocketType → Option PicoProto
  | .stream => some .tcp
  | .dgram => some .udp
  | .other _ => none

/-- `helper_socket_set_option_int`; no caller looks at the result. -/
def setOption (sock : PicoPtr) (option : PicoOption) (value : ℕ) : Rpc Unit := do
  let _ ← request (.pico (.setOption sock option value))

/-- The options every stream socket gets: no Nagle delay, and the three keepalive settings. -/
def setSocketOptions (sock : PicoPtr) : Rpc Unit := do
  setOption sock .tcpNodelay 1
  setOption sock .keepcnt 5
  setOption sock .keepidle 30000
  setOption sock .keepintvl 5000

/-- What `create` writes into the slot it has reserved. -/
def SocketResources.create (i : ℕ) (type : SocketType) (buffer : BufPtr) (size : ℕ) (err : OsError)
    (r : SocketResources) : SocketResources :=
  { r with
    socketType := type
    bufIo := buffer
    buf := ⟨some i, buffer, size⟩
    currentError := err }

/-- A stream socket gets its first option before its handle. -/
def setStreamOption (type : SocketType) (sock : PicoPtr) : Rpc Unit :=
  if type = .stream then setOption sock .tcpNodelay 1 else return

/-- `create` found no handle for the picoTCP socket it has opened. A failure to close the socket is
only logged. -/
def closeUnreserved (sock : PicoPtr) : Rpc Unit := do
  let ret ← request (.pico (.close sock))
  if ret ≠ 0 then
    let _ ← request .picoErr
    request .notifyMainLoop
  else
    request .notifyMainLoop

/-- `network_stack_pico_socket_create`. -/
def picoSocketCreate (domain : SocketDomain) (type : SocketType) (pHandle : ℤ) (clientId : ℤ)
    (buffer : BufPtr) (bufferSize : ℕ) : Rpc (OsError × ℤ) := do
  match translateSocketDomain domain, translateSocketType type with
  | some picoDomain, some picoType =>
    request (.lock .stackTS)
    let sock ← request (.pico (.socketOpen picoDomain picoType))
    let e ← request .picoErr
    if sock = none then
      request (.unlock .stackTS)
      return (picoErr2Os e, pHandle)
    setStreamOption type sock
    match ← reserveHandle sock clientId with
    | none =>
      closeUnreserved sock
      request (.unlock .stackTS)
      return (.insufficientSpace, pHandle)
    | some i =>
      modify fun s ↦
        s.updateSocket i (SocketResources.create i type buffer bufferSize (picoErr2Os e))
      setSocketOptions sock
      request (.unlock .stackTS)
      return (.success, i)
  | _, _ => return (.networkProtoNoSupport, pHandle)

/-- `network_stack_pico_socket_close`. -/
def picoSocketClose (handle : ℤ) (clientId : ℤ) : Rpc OsError := do
  let i ← socketOf handle
  let s ← get
  if .fin ∈ (s.sockets i).eventMask then
    freeHandle handle clientId
    return .success
  else if (s.sockets i).implementationSocket = none then
    return .invalidHandle
  else
    request (.lock .stackTS)
    let ret ← request (.pico (.close (s.sockets i).implementationSocket))
    let e ← request .picoErr
    modify fun s ↦ s.updateSocket i (SocketResources.setError (picoErr2Os e))
    modify fun s ↦ s.updateSocket i (SocketResources.clear {.close})
    request (.unlock .stackTS)
    request .notifyMainLoop
    if ret < 0 then
      freeHandle handle clientId
      return picoErr2Os e
    freeHandle handle clientId
    return .success

/-! ### Connect, bind and listen -/

/-- `network_stack_pico_socket_connect`. -/
def picoSocketConnect (pl : Platform) (handle : ℤ) (dstAddr : OsSocketAddr) : Rpc OsError :=
  withOpenSocket handle id fun i sock ↦ do
    match ← request (.stringToIpv4 dstAddr.addr) with
    | none => return .invalidParameter
    | some addr =>
      let (ret, err) ← lockedCall i (.connect sock addr (pl.shortBe dstAddr.port))
      finish ret err .success

/-- `network_stack_pico_socket_bind`. -/
def picoSocketBind (pl : Platform) (handle : ℤ) (localAddr : OsSocketAddr) : Rpc OsError :=
  withOpenSocket handle id fun i sock ↦ do
    match ← request (.stringToIpv4 localAddr.addr) with
    | none => return .invalidParameter
    | some addr =>
      let (ret, err) ← lockedCall i (.bind sock addr (pl.shortBe localAddr.port))
      finish ret err .success

/-- `network_stack_pico_socket_listen`. -/
def picoSocketListen (handle : ℤ) (backlog : ℤ) : Rpc OsError :=
  withOpenSocket handle id fun i sock ↦ do
    let (ret, err) ← lockedCall i (.listen sock backlog)
    finish ret err .success

/-! ### Accept -/

/-- One pending connection less, if there is one. -/
def SocketResources.dropPending (r : SocketResources) : SocketResources :=
  if r.pendingConnections > 0 then { r with pendingConnections := r.pendingConnections - 1 } else r

/-- The bookkeeping of `accept` on the listening socket: one connection less is pending, and without
pending connections the bit goes. -/
def SocketResources.acceptPending (r : SocketResources) : SocketResources :=
  if r.dropPending.pendingConnections = 0 then r.dropPending.clear {.connAcpt} else r.dropPending

/-- What `accept` finally writes into the slot of the accepted socket; `parent` is the record of the
listening socket. -/
def SocketResources.accepted (parent r : SocketResources) : SocketResources :=
  { r with
    socketType := .stream
    connected := true
    bufIo := parent.bufIo
    buf := parent.buf }

/-- `network_stack_pico_socket_accept`. Its parameter `srcAddr` is never written. -/
def picoSocketAccept (caller : ℤ) (handle : ℤ) (pClientHandle : ℤ) : Rpc (OsError × ℤ) :=
  withOpenSocket handle (·, pClientHandle) fun i sock ↦ do
    request (.lock .stackTS)
    let (sIn, _, _) ← request (.pico (.accept sock))
    let e ← request .picoErr
    modify fun s ↦ s.updateSocket i (SocketResources.setError (picoErr2Os e))
    modify fun s ↦ s.updateSocket i SocketResources.acceptPending
    if sIn = none then
      request .notifyMainLoop
      request (.unlock .stackTS)
      return (picoErr2Os e, pClientHandle)
    let s ← get
    match ← reserveHandle sIn (s.sockets i).clientId with
    | none =>
      let _ ← request (.pico (.close sIn))
      request (.unlock .stackTS)
      return (.insufficientSpace, pClientHandle)
    | some j =>
      setSocketOptions sIn
      setParentHandle j handle
      let s ← get
      -- `CHECK_CLIENT_ID`, which returns with the mutex held
      if (s.sockets j).clientId ≠ caller then
        return (.invalidHandle, j)
      modify fun s ↦ s.updateSocket j (SocketResources.accepted (s.sockets i))
      request (.unlock .stackTS)
      return (.success, j)

/-! ### Transferring data -/

/-- `network_stack_pico_socket_write`. -/
def picoSocketWrite (pl : Platform) (handle : ℤ) (len : ℕ) : Rpc (OsError × ℕ) :=
  withOpenSocket handle (·, len) fun i sock ↦ do
    let s ← get
    let buf := pl.getBuf s.bufIoCells (s.sockets i).buf
    if pl.dataportFits (s.sockets i).buf len = false then
      return (pl.dataportSizeError, len)
    let (ret, err) ← lockedCall i (.write sock buf len)
    finish ret (err, 0) (.success, ret.toNat)

/-- `network_stack_pico_socket_read`. The READ bit is cleared after the mutex is released. -/
def picoSocketRead (pl : Platform) (handle : ℤ) (len : ℕ) : Rpc (OsError × ℕ) :=
  withOpenSocket handle (·, len) fun i sock ↦ do
    let s ← get
    let buf := pl.getBuf s.bufIoCells (s.sockets i).buf
    if pl.dataportFits (s.sockets i).buf len = false then
      return (pl.dataportSizeError, len)
    let (ret, err) ← lockedCall i (.read sock buf len)
    if ret < 0 then
      modify fun s ↦ s.updateSocket i (SocketResources.clear {.read})
      return (err, 0)
    else if ret = 0 then
      modify fun s ↦ s.updateSocket i (SocketResources.clear {.read})
      request .notifyMainLoop
      return (.tryAgain, 0)
    else if ret < len then
      modify fun s ↦ s.updateSocket i (SocketResources.clear {.read})
      return (.success, ret.toNat)
    else
      return (.success, ret.toNat)

/-- `network_stack_pico_socket_sendto`. -/
def picoSocketSendto (pl : Platform) (handle : ℤ) (len : ℕ) (dstAddr : OsSocketAddr) :
    Rpc (OsError × ℕ) :=
  withOpenSocket handle (·, len) fun i sock ↦ do
    let s ← get
    let buf := pl.getBuf s.bufIoCells (s.sockets i).buf
    if pl.dataportFits (s.sockets i).buf len = false then
      return (pl.dataportSizeError, len)
    match ← request (.stringToIpv4 dstAddr.addr) with
    | none => return (.invalidParameter, len)
    | some addr =>
      let (ret, err) ← lockedCall i (.sendto sock buf len addr (pl.shortBe dstAddr.port))
      finish ret (err, 0) (.success, ret.toNat)

/-- `network_stack_pico_socket_recvfrom`. Its `srcAddr` has been checked not to be `NULL`. -/
def picoSocketRecvfrom (pl : Platform) (handle : ℤ) (len : ℕ) (srcAddr : OsSocketAddr) :
    Rpc (OsError × ℕ × OsSocketAddr) :=
  withOpenSocket handle (·, len, srcAddr) fun i sock ↦ do
    let s ← get
    let buf := pl.getBuf s.bufIoCells (s.sockets i).buf
    if pl.dataportFits (s.sockets i).buf len = false then
      return (pl.dataportSizeError, len, srcAddr)
    let ((ret, src, sport), err) ← lockedCall i (.recvfrom sock buf len)
    if ret < 0 then
      modify fun s ↦ s.updateSocket i (SocketResources.clear {.read})
      return (err, 0, srcAddr)
    else if ret = 0 ∧ src = 0 ∧ sport = 0 then
      modify fun s ↦ s.updateSocket i (SocketResources.clear {.read})
      request .notifyMainLoop
      return (.tryAgain, 0, srcAddr)
    else
      return (.success, ret.toNat, ⟨pl.ipv4ToString src, pl.shortBe sport⟩)

end NetworkStackPicoTcp
