import Mathlib.Data.List.Nodup
import Mathlib.Logic.Function.Basic
import NetworkStackPicoTcp.Model.Types

/-!
# The tables of the stack

`NetworkStack` is the component's static state: the socket table, the client table, their sizes and
the state that `networkStack_getState` reads. A table is a function from indices, as the C array is
memory behind a pointer; that the code stays below the two sizes is proved, not built in.

The lookups of `network_stack_core.c` are searches over `List.range`, and a C result of `-1` or
`NULL` is `none`.
-/

namespace NetworkStackPicoTcp

/-- `NetworkStack_SocketResources_t`, one slot of the socket table. -/
structure SocketResources where
  status : SocketStatus
  parentHandle : ℤ
  eventMask : Finset OsSockEv
  currentError : OsError
  pendingConnections : ℤ
  connected : Bool
  clientId : ℤ
  socketType : SocketType
  bufIo : BufPtr
  buf : OsDataport
  implementationSocket : PicoPtr
  deriving DecidableEq

/-- `NetworkStack_Client_t`. -/
structure Client where
  needsToBeNotified : Bool
  currentSocketsInUse : ℤ
  clientId : ℤ
  inUse : Bool
  socketQuota : ℤ
  head : ℕ
  tail : ℕ
  /-- Whether `eventNotify` is a function pointer and not `NULL`. -/
  eventNotify : Bool
  deriving DecidableEq

/-- `NetworkStack_t` together with `currentState`. -/
structure NetworkStack where
  currentState : StackState
  sockets : ℕ → SocketResources
  clients : ℕ → Client
  numberOfSockets : ℕ
  numberOfClients : ℕ

/-- A slot of the zero-initialised static table. -/
def SocketResources.zero : SocketResources where
  status := .free
  parentHandle := 0
  eventMask := ∅
  currentError := .success
  pendingConnections := 0
  connected := false
  clientId := 0
  socketType := .other 0
  bufIo := 0
  buf := ⟨none, 0, 0⟩
  implementationSocket := none

/-- An entry of the zero-initialised static client table. -/
def Client.zero : Client where
  needsToBeNotified := false
  currentSocketsInUse := 0
  clientId := 0
  inUse := false
  socketQuota := 0
  head := 0
  tail := 0
  eventNotify := false

/-- Set `needsToBeNotified`. -/
def Client.flag (c : Client) : Client := { c with needsToBeNotified := true }

namespace NetworkStack

variable (s : NetworkStack)

/-! ### Updates -/

/-- Update one slot of the socket table. -/
def updateSocket (i : ℕ) (f : SocketResources → SocketResources) : NetworkStack :=
  { s with sockets := Function.update s.sockets i (f (s.sockets i)) }

/-- Update one entry of the client table. -/
def updateClient (k : ℕ) (f : Client → Client) : NetworkStack :=
  { s with clients := Function.update s.clients k (f (s.clients k)) }

section UpdateLemmas

variable {s} {i j k l : ℕ} {f : SocketResources → SocketResources} {g : Client → Client}

theorem updateSocket_sockets :
    (s.updateSocket i f).sockets j = if j = i then f (s.sockets i) else s.sockets j := by
  simp only [updateSocket, Function.update_apply]

@[simp] theorem updateSocket_sockets_self : (s.updateSocket i f).sockets i = f (s.sockets i) := by
  simp [updateSocket]

theorem updateSocket_sockets_of_ne (h : j ≠ i) : (s.updateSocket i f).sockets j = s.sockets j := by
  simp [updateSocket, h]

@[simp] theorem updateSocket_clients : (s.updateSocket i f).clients = s.clients := rfl

@[simp] theorem updateSocket_numberOfSockets :
    (s.updateSocket i f).numberOfSockets = s.numberOfSockets := rfl

@[simp] theorem updateSocket_numberOfClients :
    (s.updateSocket i f).numberOfClients = s.numberOfClients := rfl

@[simp] theorem updateSocket_currentState :
    (s.updateSocket i f).currentState = s.currentState := rfl

theorem updateClient_clients :
    (s.updateClient k g).clients l = if l = k then g (s.clients k) else s.clients l := by
  simp only [updateClient, Function.update_apply]

@[simp] theorem updateClient_clients_self : (s.updateClient k g).clients k = g (s.clients k) := by
  simp [updateClient]

theorem updateClient_clients_of_ne (h : l ≠ k) : (s.updateClient k g).clients l = s.clients l := by
  simp [updateClient, h]

@[simp] theorem updateClient_sockets : (s.updateClient k g).sockets = s.sockets := rfl

@[simp] theorem updateClient_numberOfSockets :
    (s.updateClient k g).numberOfSockets = s.numberOfSockets := rfl

@[simp] theorem updateClient_numberOfClients :
    (s.updateClient k g).numberOfClients = s.numberOfClients := rfl

@[simp] theorem updateClient_currentState :
    (s.updateClient k g).currentState = s.currentState := rfl

end UpdateLemmas

/-! ### Lookups -/

/-- `get_socket_from_handle`: the index of the slot, unless the handle is out of range. -/
def getSocketFromHandle (handle : ℤ) : Option ℕ :=
  if handle < 0 ∨ (s.numberOfSockets : ℤ) ≤ handle then none else some handle.toNat

/-- `get_handle_from_implementation_socket`: the first slot that holds the pointer. -/
def getHandleFromImplementationSocket (implSock : PicoPtr) : Option ℕ :=
  (List.range s.numberOfSockets).find? fun i ↦ (s.sockets i).implementationSocket = implSock

/-- `get_client_index_from_clientId`. -/
def getClientIndexFromClientId (clientId : ℤ) : Option ℕ :=
  if clientId < 0 then none
  else (List.range s.numberOfClients).find? fun k ↦
    clientId = (s.clients k).clientId ∧ (s.clients k).inUse

/-- `get_client_from_clientId`: the index of the client record, or `none` for `NULL`. -/
def getClientFromClientId (clientId : ℤ) : Option ℕ :=
  match s.getClientIndexFromClientId clientId with
  | none => none
  | some k => if (s.clients k).inUse then some k else none

/-- The slot that the loop of `reserve_handle` takes: the first free one. -/
def firstFree : Option ℕ :=
  (List.range s.numberOfSockets).find? fun i ↦ (s.sockets i).status = .free

/-- The contents of the `buf_io` cells, for `OS_Dataport_getBuf`. -/
def bufIoCells : ℕ → BufPtr := fun i ↦ (s.sockets i).bufIo

section LookupLemmas

variable {s} {handle clientId : ℤ} {i k : ℕ} {p : PicoPtr}

theorem getSocketFromHandle_eq_some_iff :
    s.getSocketFromHandle handle = some i ↔ handle = i ∧ i < s.numberOfSockets := by
  unfold getSocketFromHandle
  split <;> simp <;> omega

theorem getHandleFromImplementationSocket_eq_some_iff :
    s.getHandleFromImplementationSocket p = some i ↔
      (s.sockets i).implementationSocket = p ∧ i < s.numberOfSockets ∧
        ∀ j < i, (s.sockets j).implementationSocket ≠ p := by
  simp [getHandleFromImplementationSocket, List.find?_range_eq_some]

theorem getHandleFromImplementationSocket_eq_none_iff :
    s.getHandleFromImplementationSocket p = none ↔
      ∀ j < s.numberOfSockets, (s.sockets j).implementationSocket ≠ p := by
  simp [getHandleFromImplementationSocket]

theorem firstFree_eq_some_iff :
    s.firstFree = some i ↔
      (s.sockets i).status = .free ∧ i < s.numberOfSockets ∧
        ∀ j < i, (s.sockets j).status ≠ .free := by
  simp [firstFree, List.find?_range_eq_some]

theorem firstFree_eq_none_iff :
    s.firstFree = none ↔ ∀ j < s.numberOfSockets, (s.sockets j).status ≠ .free := by
  simp [firstFree]

theorem getClientIndexFromClientId_eq_some_iff :
    s.getClientIndexFromClientId clientId = some k ↔
      0 ≤ clientId ∧ (clientId = (s.clients k).clientId ∧ (s.clients k).inUse) ∧
        k < s.numberOfClients ∧
        ∀ l < k, ¬(clientId = (s.clients l).clientId ∧ (s.clients l).inUse) := by
  unfold getClientIndexFromClientId
  split
  · have : ¬ 0 ≤ clientId := by omega
    simp [this]
  · have : 0 ≤ clientId := by omega
    simp only [List.find?_range_eq_some, this, Bool.not_eq_true', decide_eq_true_eq,
      decide_eq_false_iff_not, List.mem_range, true_and]

@[simp] theorem updateSocket_getClientIndexFromClientId {f : SocketResources → SocketResources} :
    (s.updateSocket i f).getClientIndexFromClientId clientId =
      s.getClientIndexFromClientId clientId := rfl

/-- The second check of `get_client_from_clientId` never fails. -/
theorem getClientFromClientId_eq_index :
    s.getClientFromClientId clientId = s.getClientIndexFromClientId clientId := by
  unfold getClientFromClientId
  cases h : s.getClientIndexFromClientId clientId with
  | none => rfl
  | some k => simp [(getClientIndexFromClientId_eq_some_iff.1 h).2.1.2]

end LookupLemmas

/-! ### Ownership -/

/-- `k` is the entry of the client with the id `clientId`. -/
def IsClientAt (clientId : ℤ) (k : ℕ) : Prop :=
  s.getClientIndexFromClientId clientId = some k

/-- `clientId` is the id of an in-use client: the badge of a caller. -/
def IsClient (clientId : ℤ) : Prop :=
  ∃ k, s.IsClientAt clientId k

/-- Slot `i` is in the table and carries the id `clientId`. -/
def Owns (clientId : ℤ) (i : ℕ) : Prop :=
  i < s.numberOfSockets ∧ (s.sockets i).clientId = clientId

end NetworkStack

end NetworkStackPicoTcp
