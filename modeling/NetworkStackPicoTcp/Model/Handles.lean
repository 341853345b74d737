import NetworkStackPicoTcp.Model.Calls

/-!
# Reserving, freeing and re-parenting handles

`reserve_handle`, `free_handle` and `set_parent_handle` of `network_stack_core.c`. A handle of `-1`
is `none`.
-/

namespace NetworkStackPicoTcp

open Prog (get modify)

/-- What `reserve_handle` writes into the slot it takes. The event mask and the buffer are not among
the fields it sets. -/
def SocketResources.reserve (implSock : PicoPtr) (clientId : ℤ) (r : SocketResources) :
    SocketResources :=
  { r with
    status := .inUse
    implementationSocket := implSock
    parentHandle := -1
    currentError := .success
    clientId := clientId
    pendingConnections := 0
    socketType := .other 0
    connected := false }

/-- What `free_handle` writes into the slot. -/
def SocketResources.release (r : SocketResources) : SocketResources :=
  { r with
    status := .free
    implementationSocket := none
    parentHandle := -1
    clientId := -1
    pendingConnections := 0
    eventMask := ∅
    currentError := .success
    socketType := .other 0
    connected := false }

/-- `currentSocketsInUse++`. -/
def Client.countUp (c : Client) : Client :=
  { c with currentSocketsInUse := c.currentSocketsInUse + 1 }

/-- `currentSocketsInUse--`. -/
def Client.countDown (c : Client) : Client :=
  { c with currentSocketsInUse := c.currentSocketsInUse - 1 }

namespace NetworkStack

variable (s : NetworkStack)

/-- The locked section of `free_handle`. -/
def release (k i : ℕ) : NetworkStack :=
  (s.updateClient k Client.countDown).updateSocket i SocketResources.release

/-- The locked section of `set_parent_handle`. -/
def adopt (i parent : ℕ) : NetworkStack :=
  s.updateSocket i fun r ↦
    { r with parentHandle := parent, clientId := (s.sockets parent).clientId }

end NetworkStack

/-- `reserve_handle`. -/
def reserveHandle (implSock : PicoPtr) (clientId : ℤ) : Rpc (Option ℕ) := do
  let s ← get
  match s.getClientIndexFromClientId clientId with
  | none => return none
  | some k =>
    if (s.clients k).inUse = false then
      return none
    request (.lock .socketCB)
    let s ← get
    if (s.clients k).socketQuota ≤ (s.clients k).currentSocketsInUse then
      request (.unlock .socketCB)
      return none
    match s.firstFree with
    | none =>
      request (.unlock .socketCB)
      return none
    | some i =>
      modify fun s ↦ s.updateSocket i (SocketResources.reserve implSock clientId)
      request (.unlock .socketCB)
      -- the source counts after the unlock
      modify fun s ↦ s.updateClient k Client.countUp
      return some i

/-- `free_handle`. -/
def freeHandle (handle : ℤ) (clientId : ℤ) : Rpc Unit := do
  let s ← get
  match s.getSocketFromHandle handle, s.getClientIndexFromClientId clientId with
  | some i, some k =>
    if (s.clients k).inUse = false then
      return
    if (s.sockets i).clientId ≠ clientId then
      return
    request (.lock .socketCB)
    modify fun s ↦ s.release k i
    request (.unlock .socketCB)
  | _, _ => return

/-- `set_parent_handle`. -/
def setParentHandle (handle : ℤ) (parentHandle : ℤ) : Rpc Unit := do
  let s ← get
  match s.getSocketFromHandle handle, s.getSocketFromHandle parentHandle with
  | some i, some p =>
    request (.lock .socketCB)
    modify fun s ↦ s.adopt i p
    request (.unlock .socketCB)
  | _, _ => return

end NetworkStackPicoTcp
