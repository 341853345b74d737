import Mathlib.Data.Finset.Lattice.Lemmas
import NetworkStackPicoTcp.Model.State

/-!
# The picoTCP callback and the notification pass

`handle_pico_socket_event` is split at the points where its source touches shared memory: the lookup
of the handle by pointer, the update of that slot's record, and the lookup of the owner's client
record, which is flagged. An event carries the arguments of the callback and what the callback reads
from the socket and from `pico_err`.
-/

namespace NetworkStackPicoTcp

/-- One invocation of the callback: its arguments and what it reads from picoTCP. -/
structure PicoEvent where
  eventMask : Finset PicoSockEv
  socket : PicoPtr
  /-- `pico_socket->state & PICO_SOCKET_STATE_TCP_LISTEN` is nonzero. -/
  listening : Bool
  /-- `TCPSTATE(pico_socket)`. -/
  tcpState : TcpState
  /-- `pico_err` while the callback runs. -/
  picoErr : PicoErr

namespace PicoEvent

variable (ev : PicoEvent)

/-- `PICO_SOCK_EV_CONN` on a listening socket: a connection can be accepted. -/
def incoming : Bool := .conn ∈ ev.eventMask ∧ ev.listening = true

/-- `PICO_SOCK_EV_CONN` on any other socket: its connection is established. -/
def established : Bool := .conn ∈ ev.eventMask ∧ ev.listening = false

/-- The event tells that picoTCP frees the socket. -/
def frees : Bool :=
  .fin ∈ ev.eventMask ∨ .err ∈ ev.eventMask ∧ ev.picoErr = .econnrefused

/-- The bits that the callback sets in the slot's `eventMask`. -/
def raised : Finset OsSockEv :=
  (if ev.incoming then {.connAcpt} else ∅) ∪ (if ev.established then {.connEst} else ∅) ∪
    (if .rd ∈ ev.eventMask then {.read} else ∅) ∪ (if .wr ∈ ev.eventMask then {.write} else ∅) ∪
    (if .close ∈ ev.eventMask then {.close} else ∅) ∪ (if ev.frees then {.fin} else ∅) ∪
    (if .err ∈ ev.eventMask then {.error} else ∅)

end PicoEvent

/-! ### The slot's record -/

namespace SocketResources

/-- A branch of the callback that sets one bit. -/
def raiseIf (c : Bool) (b : OsSockEv) (r : SocketResources) : SocketResources :=
  if c then { r with eventMask := insert b r.eventMask } else r

/-- The `PICO_SOCK_EV_CONN` branch of the callback. -/
def recordConn (ev : PicoEvent) (r : SocketResources) : SocketResources :=
  if .conn ∈ ev.eventMask then
    if ev.listening then
      { r with
        eventMask := insert .connAcpt r.eventMask
        pendingConnections := r.pendingConnections + 1 }
    else { r with eventMask := insert .connEst r.eventMask, connected := true }
  else r

/-- The `PICO_SOCK_EV_ERR` branch of the callback. A refused connection is freed by picoTCP, and the
source records that as `OS_SOCK_EV_FIN`. -/
def recordErr (ev : PicoEvent) (r : SocketResources) : SocketResources :=
  if .err ∈ ev.eventMask then
    raiseIf (ev.picoErr = .econnrefused) .fin
      { r with
        currentError := picoErr2Os ev.picoErr
        eventMask := insert .error r.eventMask }
  else r

/-- The body of the callback between its two lookups: every branch that updates the slot, in the
order of the source. -/
def recordEvent (ev : PicoEvent) (r : SocketResources) : SocketResources :=
  let r := recordConn ev r
  let r := raiseIf (.rd ∈ ev.eventMask) .read r
  let r := raiseIf (.wr ∈ ev.eventMask) .write r
  let r := raiseIf (.close ∈ ev.eventMask) .close r
  let r := raiseIf (.fin ∈ ev.eventMask) .fin r
  recordErr ev r

variable (ev : PicoEvent) (r : SocketResources)

theorem raiseIf_eq (c : Bool) (b : OsSockEv) :
    raiseIf c b r = { r with eventMask := r.eventMask ∪ if c then {b} else ∅ } := by
  cases c <;> simp [raiseIf]

theorem recordConn_eq :
    r.recordConn ev = { r with
      eventMask := r.eventMask ∪ ((if ev.incoming then {.connAcpt} else ∅) ∪
        if ev.established then {.connEst} else ∅)
      pendingConnections := r.pendingConnections + if ev.incoming then 1 else 0
      connected := r.connected || ev.established } := by
  by_cases hc : PicoSockEv.conn ∈ ev.eventMask <;> by_cases hl : ev.listening = true <;>
    simp [recordConn, PicoEvent.incoming, PicoEvent.established, hc, hl]

theorem recordErr_eq :
    r.recordErr ev = { r with
      eventMask := r.eventMask ∪ ((if .err ∈ ev.eventMask then {.error} else ∅) ∪
        if .err ∈ ev.eventMask ∧ ev.picoErr = .econnrefused then {.fin} else ∅)
      currentError := if .err ∈ ev.eventMask then picoErr2Os ev.picoErr else r.currentError } := by
  by_cases he : PicoSockEv.err ∈ ev.eventMask
  · simp only [recordErr, he, raiseIf_eq, if_true, true_and]
    congr 1
    ext b
    simp only [Finset.mem_union, Finset.mem_insert, Finset.mem_singleton]
    grind
  · simp [recordErr, he]

/-- The callback's branches on one record, in closed form: bits are only added, a connection is
counted, the established flag is set, and the error is replaced. -/
theorem recordEvent_eq :
    r.recordEvent ev = { r with
      eventMask := r.eventMask ∪ ev.raised
      pendingConnections := r.pendingConnections + if ev.incoming then 1 else 0
      connected := r.connected || ev.established
      currentError := if .err ∈ ev.eventMask then picoErr2Os ev.picoErr else r.currentError } := by
  simp only [recordEvent, recordConn_eq, raiseIf_eq, recordErr_eq]
  congr 1
  ext b
  simp only [PicoEvent.raised, PicoEvent.frees, Finset.mem_union]
  grind

section Fields

@[simp] theorem recordEvent_eventMask :
    (r.recordEvent ev).eventMask = r.eventMask ∪ ev.raised := by rw [recordEvent_eq]

@[simp] theorem recordEvent_pendingConnections :
    (r.recordEvent ev).pendingConnections =
      r.pendingConnections + if ev.incoming then 1 else 0 := by rw [recordEvent_eq]

@[simp] theorem recordEvent_connected :
    (r.recordEvent ev).connected = (r.connected || ev.established) := by rw [recordEvent_eq]

@[simp] theorem recordEvent_currentError :
    (r.recordEvent ev).currentError =
      if .err ∈ ev.eventMask then picoErr2Os ev.picoErr else r.currentError := by
  rw [recordEvent_eq]

@[simp] theorem recordEvent_status : (r.recordEvent ev).status = r.status := by
  rw [recordEvent_eq]

@[simp] theorem recordEvent_clientId : (r.recordEvent ev).clientId = r.clientId := by
  rw [recordEvent_eq]

@[simp] theorem recordEvent_parentHandle : (r.recordEvent ev).parentHandle = r.parentHandle := by
  rw [recordEvent_eq]

@[simp] theorem recordEvent_socketType : (r.recordEvent ev).socketType = r.socketType := by
  rw [recordEvent_eq]

@[simp] theorem recordEvent_bufIo : (r.recordEvent ev).bufIo = r.bufIo := by
  rw [recordEvent_eq]

@[simp] theorem recordEvent_buf : (r.recordEvent ev).buf = r.buf := by
  rw [recordEvent_eq]

@[simp] theorem recordEvent_implementationSocket :
    (r.recordEvent ev).implementationSocket = r.implementationSocket := by
  rw [recordEvent_eq]

end Fields

end SocketResources

/-! ### The callback and the notification pass -/

namespace NetworkStack

variable (s : NetworkStack)

/-- The last step of the callback: look up the owner of slot `i` and flag it. `none` when the lookup
returns `NULL`, which the callback follows without a check. -/
def flagOwner (i : ℕ) : Option NetworkStack :=
  match s.getClientFromClientId (s.sockets i).clientId with
  | none => none
  | some k => some (s.updateClient k Client.flag)

/-- `handle_pico_socket_event`; `none` when it follows a `NULL` pointer. A socket without a handle
is ignored here; that one in state `CLOSE_WAIT` is closed does nothing to the tables. -/
def handlePicoSocketEvent (ev : PicoEvent) : Option NetworkStack :=
  match s.getHandleFromImplementationSocket ev.socket with
  | none => some s
  | some i => (s.updateSocket i (SocketResources.recordEvent ev)).flagOwner i

/-- Slot `j` makes `notify_clients_about_pending_events` signal client `k`. -/
def hasPendingEvents (j k : ℕ) : Bool :=
  (s.sockets j).status = .inUse ∧ (s.sockets j).eventMask ≠ ∅ ∧
    (s.sockets j).clientId = (s.clients k).clientId

/-- Client `k` is due in this pass: it is in use and flagged, or the inner loop flags it. -/
def isDue (k : ℕ) : Bool :=
  (s.clients k).inUse ∧
    ((s.clients k).needsToBeNotified ∨ (List.range s.numberOfSockets).any fun j ↦
      s.hasPendingEvents j k)

/-- One iteration of the outer loop of `notify_clients_about_pending_events`, with the clients
signalled so far. A client without `eventNotify` is not signalled but its flag is cleared. -/
def notifyClient (st : NetworkStack × List ℕ) (k : ℕ) : NetworkStack × List ℕ :=
  if st.1.isDue k then
    (st.1.updateClient k fun c ↦ { c with needsToBeNotified := false },
      if (st.1.clients k).eventNotify then st.2 ++ [k] else st.2)
  else st

/-- `notify_clients_about_pending_events`, with the clients whose `eventNotify` is called. -/
def notifyClientsAboutPendingEvents : NetworkStack × List ℕ :=
  (List.range s.numberOfClients).foldl notifyClient (s, [])

end NetworkStack

end NetworkStackPicoTcp
