import NetworkStackPicoTcp.Model.System

/-!
# Start-up

`run` with the functions under it, from the first state to the main loop: `initializeNetworkStack`
in `NetworkStack_PicoTcp.c`, `NetworkStack_init` in `network_stack_core.c` and `pico_nic_initialize`
in `network_stack_pico_nic.c`. What they ask of picoTCP and of the NIC driver are the calls of a
program over `StartupState`.

Meanwhile clients already call: the RPCs `configIpAddr` and the socket RPCs run in other threads,
each in one step, at any call of `run`. The two calls `preempt` mark places where `run` makes no
call and another thread may run all the same.
-/

namespace NetworkStackPicoTcp

/-- An IPv4 address as text. -/
abbrev IpString := List UInt8

/-- `OS_NetworkStack_AddressConfig_t`. -/
structure AddressConfig where
  devAddr : IpString
  gatewayAddr : IpString
  subnetMask : IpString
  deriving DecidableEq

/-- A pointer to an address configuration that is not `NULL`. -/
inductive ConfigPtr
  /-- `&ipAddrConfig`, the static record that `configIpAddr` writes. -/
  | shared
  /-- The constant of a build with a hard-coded address. -/
  | const (c : AddressConfig)
  deriving DecidableEq

/-- What the CAmkES assembly, its configuration and the build determine, and the check of
`inet_pton`. -/
structure Assembly where
  /-- The values of `networkStack_rpc_enumerate_badge`; `networkStack_rpc_num_badges` is their
  number. -/
  badges : List ℕ
  /-- `ARRAY_ELEMENTS(networkStack_config.clients)`. -/
  configuredClients : ℕ
  /-- `networkStack_config.clients[i].socket_quota`. -/
  socketQuota : ℕ → ℤ
  /-- `OS_NETWORK_MAXIMUM_SOCKET_NO`. -/
  maximumSocketNo : ℕ
  maximumSocketNo_pos : 0 < maximumSocketNo
  /-- `isValidIp4Address`. -/
  isValidIp4Address : IpString → Bool
  /-- The address of a build with `NetworkStack_PicoTcp_USE_HARDCODED_IPADDR`. -/
  hardcoded : Option AddressConfig

/-- `MAX_CLIENTS_NUM`. -/
def maxClientsNum : ℕ := 8

/-- The static data that start-up works on. -/
structure StartupState where
  /-- `instance` and `currentState`. -/
  tables : NetworkStack
  /-- The static array `clients` of `initializeNetworkStack`. -/
  clients : ℕ → Client
  ipAddrConfig : AddressConfig
  pIpAddrConfig : Option ConfigPtr
  /-- Whether `instance.camkes_cfg` is not `NULL`. -/
  camkesCfg : Bool
  /-- `instance.cfg`. -/
  cfg : Option ConfigPtr
  /-- Whether `os_nic` holds the functions of the device and is not zeroed. -/
  osNic : Bool

/-- The static data before `run`. -/
def StartupState.init : StartupState where
  tables := ⟨.uninitialized, fun _ ↦ SocketResources.zero, fun _ ↦ Client.zero, 0, 0⟩
  clients _ := Client.zero
  ipAddrConfig := ⟨[], [], []⟩
  pIpAddrConfig := none
  camkesCfg := false
  cfg := none
  osNic := false

/-- Set `currentState`. -/
def StartupState.setState (st : StackState) (s : StartupState) : StartupState :=
  { s with tables := { s.tables with currentState := st } }

/-- What a pointer to a configuration points to. -/
def StartupState.deref (s : StartupState) : ConfigPtr → AddressConfig
  | .shared => s.ipAddrConfig
  | .const c => c

/-- What start-up asks of the world around it. -/
inductive StartupCall
  /-- `seL4_Yield`. -/
  | yield
  /-- `pico_stack_init`, behind `network_stack.stack_init`. -/
  | stackInit
  /-- `nic_dev_get_mac_address`. -/
  | getMacAddress
  /-- `pico_device_init`. -/
  | deviceInit
  /-- `pico_string_to_ipv4`. -/
  | stringToIpv4 (text : IpString)
  /-- `pico_ipv4_link_add`. -/
  | linkAdd (addr netmask : UInt32)
  /-- `pico_ipv4_route_add` of a default route. -/
  | routeAdd (gateway : UInt32)
  /-- Another thread may run here. -/
  | preempt
  /-- The endless loop of `NetworkStack_run`. -/
  | mainLoop
  /-- The wait for a configuration outlasts its bound. -/
  | stillWaiting
  deriving DecidableEq

/-- What a call returns; `pico_string_to_ipv4` also stores the address. -/
@[reducible] def StartupCall.Answer : StartupCall → Type
  | stackInit | deviceInit | linkAdd _ _ | routeAdd _ => ℤ
  | getMacAddress => OsError
  | stringToIpv4 _ => ℤ × UInt32
  | yield | preempt => Unit
  | mainLoop | stillWaiting => Empty

/-- The call reports success. -/
def StartupCall.succeeded : (e : StartupCall) → e.Answer → Bool
  | stackInit, ret | deviceInit, ret | linkAdd _ _, ret | routeAdd _, ret => decide (ret = 0)
  | getMacAddress, err => decide (err = .success)
  | stringToIpv4 _, r => decide (r.1 = 0)
  | yield, _ | preempt, _ => true

namespace Startup

open Prog (get modify)

/-- The code of the control thread before its main loop. -/
abbrev Code : Type → Type := Prog StartupState StartupCall.Answer

/-- Issue a call. -/
abbrev issue (e : StartupCall) : Code e.Answer := Prog.perform e

/-! ### The configuration RPC -/

/-- The three addresses of a configuration are valid. -/
def IsValid (asm : Assembly) (c : AddressConfig) : Prop :=
  asm.isValidIp4Address c.devAddr = true ∧ asm.isValidIp4Address c.gatewayAddr = true ∧
    asm.isValidIp4Address c.subnetMask = true

instance (asm : Assembly) (c : AddressConfig) : Decidable (IsValid asm c) :=
  inferInstanceAs (Decidable (_ ∧ _ ∧ _))

/-- `if_config_rpc_configIpAddr`, with the static data after it. -/
def configIpAddr (asm : Assembly) (c : AddressConfig) (s : StartupState) :
    OsError × StartupState :=
  if asm.hardcoded ≠ none then (.operationDenied, s)
  else if s.tables.currentState ≠ .uninitialized then (.invalidState, s)
  else if ¬ IsValid asm c then (.invalidParameter, s)
  else (.success, { s with ipAddrConfig := c, pIpAddrConfig := some .shared })

/-! ### The NIC -/

/-- `nic_destroy`. -/
def nicDestroy : Code Unit := modify fun s ↦ { s with osNic := false }

/-- A step of `pico_nic_initialize`: go on with what the call has stored, or take the device back
and fail. -/
def nicStep (e : StartupCall) (k : e.Answer → Code OsError) : Code OsError := do
  let b ← issue e
  if e.succeeded b then k b
  else
    nicDestroy
    return .generic

/-- `pico_nic_initialize`. The configuration is read through the pointer, a field at a time. -/
def picoNicInitialize (config : ConfigPtr) : Code OsError := do
  modify fun s ↦ { s with osNic := true }
  nicStep .getMacAddress fun _ ↦ nicStep .deviceInit fun _ ↦ do
    let s ← get
    nicStep (.stringToIpv4 (s.deref config).devAddr) fun ipAddr ↦ do
      let s ← get
      nicStep (.stringToIpv4 (s.deref config).subnetMask) fun netmaskAddr ↦ do
        let s ← get
        nicStep (.stringToIpv4 (s.deref config).gatewayAddr) fun gatewayAddr ↦
          nicStep (.linkAdd ipAddr.2 netmaskAddr.2) fun _ ↦
            nicStep (.routeAdd gatewayAddr.2) fun _ ↦ return .success

/-! ### The core -/

/-- `NetworkStack_init`. It does not look at what `stack_init` returns. -/
def networkStackInit (asm : Assembly) (config : Option ConfigPtr) : Code OsError := do
  match config with
  | none => return .invalidParameter
  | some ptr =>
    modify fun s ↦ { s with
      camkesCfg := true
      cfg := some ptr
      tables := { s.tables with
        sockets := fun _ ↦ SocketResources.zero
        clients := s.clients
        numberOfSockets := asm.maximumSocketNo
        numberOfClients := maxClientsNum } }
    let _ ← issue .stackInit
    let err ← picoNicInitialize ptr
    if err ≠ .success then
      return .generic
    return .success

/-- `NetworkStack_run`, up to its endless loop. -/
def networkStackRun : Code OsError := do
  let s ← get
  if s.camkesCfg = false ∨ s.cfg = none then
    return .notInitialized
  Prog.call .mainLoop Empty.elim

/-! ### The component -/

/-- The badge is in the range that the connected clients are expected to have. -/
def InRange (asm : Assembly) (badge : ℕ) : Prop :=
  minBadgeId ≤ badge ∧ badge < minBadgeId + asm.badges.length

instance (asm : Assembly) (badge : ℕ) : Decidable (InRange asm badge) :=
  inferInstanceAs (Decidable (_ ∧ _))

/-- The entry that the loop over the badges writes at index `i`. -/
def client (asm : Assembly) (i : ℕ) : Client where
  needsToBeNotified := false
  currentSocketsInUse := 0
  clientId := minBadgeId + i
  inUse := true
  socketQuota := asm.socketQuota i
  head := 0
  tail := 0
  eventNotify := true

/-- The loop over the badges, from index `i` on. -/
def fillClients (asm : Assembly) : List ℕ → ℕ → Code OsError
  | [], _ => return .success
  | badge :: badges, i => do
    if ¬ InRange asm badge then
      return .outOfBounds
    modify fun s ↦ { s with clients := Function.update s.clients i (client asm i) }
    fillClients asm badges (i + 1)

/-- `initializeNetworkStack`. -/
def initializeNetworkStack (asm : Assembly) : Code OsError := do
  if maxClientsNum < asm.badges.length then
    return .outOfBounds
  if asm.configuredClients < asm.badges.length then
    return .outOfBounds
  let err ← fillClients asm asm.badges 0
  if err ≠ .success then
    return err
  let s ← get
  networkStackInit asm s.pIpAddrConfig

/-- `networkStack_setState`, for one of the four states. -/
def networkStackSetState (st : StackState) : Code Unit :=
  modify (StartupState.setState st)

/-- The loop at the head of `run`, with a bound on its iterations. -/
def awaitConfig : ℕ → Code Unit
  | 0 => Prog.call .stillWaiting Empty.elim
  | fuel + 1 => do
    let s ← get
    if s.pIpAddrConfig = none then
      issue .yield
      awaitConfig fuel
    else return

/-- A build with a hard-coded address points to it. -/
def useHardcoded (asm : Assembly) : Code Unit :=
  match asm.hardcoded with
  | none => return
  | some c => modify fun s ↦ { s with pIpAddrConfig := some (.const c) }

/-- `run`. -/
def run (asm : Assembly) (fuel : ℕ) : Code ℤ := do
  networkStackSetState .uninitialized
  useHardcoded asm
  issue .preempt
  awaitConfig fuel
  let ret ← initializeNetworkStack asm
  if ret ≠ .success then
    networkStackSetState .fatalError
    return -1
  networkStackSetState .initialized
  issue .preempt
  networkStackSetState .running
  let ret ← networkStackRun
  networkStackSetState .fatalError
  if ret ≠ .success then
    return -1
  return 0

/-! ### Runs of start-up -/

/-- One thing that happens during start-up. -/
inductive Entry
  /-- `run` writes to the static data. -/
  | wrote (s s' : StartupState)
  /-- A call of `run` returns. -/
  | answer (e : StartupCall) (b : e.Answer)
  /-- A client calls `configIpAddr`, with this result and in this state. -/
  | config (c : AddressConfig) (err : OsError) (s : StartupState)
  /-- A client's socket RPC runs, with this reply, and does what the history says. -/
  | rpc (caller : ℤ) (r : RpcCall) (a : Reply) (done : NetworkStackPicoTcp.History)

/-- What has happened so far, newest first. -/
abbrev History := List Entry

/-- The static data and the history. -/
abbrev World := StartupState × History

/-- One call of a client. -/
inductive ClientStep (pl : Platform) (asm : Assembly) : World → World → Prop
  | config (c : AddressConfig) {s : StartupState} {h : History} :
      ClientStep pl asm (s, h)
        ((configIpAddr asm c s).2, .config c (configIpAddr asm c s).1 s :: h)
  | rpc {s : StartupState} {h : History} {caller : ℤ} {r : RpcCall} {a : Reply} {t : NetworkStack}
      {done : NetworkStackPicoTcp.History}
      (ho : Prog.Outcome (rpcEnv .free caller r) (NetworkStackPicoTcp.rpc pl caller r)
        (s.tables, [])
        a (t, done)) :
      ClientStep pl asm (s, h) ({ s with tables := t }, .rpc caller r a done :: h)

/-- Any number of calls of clients. -/
def Clients (pl : Platform) (asm : Assembly) : World → World → Prop :=
  Relation.ReflTransGen (ClientStep pl asm)

/-- The environment of `run`: its calls may return anything, and clients may call after each. -/
def env (pl : Platform) (asm : Assembly) : Env StartupState StartupCall.Answer History where
  onWrite s s' h := .wrote s s' :: h
  onCall e w b w' := Clients pl asm (w.1, .answer e b :: w.2) w'

/-- The static data and the empty history. -/
def World.init : World := (StartupState.init, [])

/-! ### Computing single runs -/

/-- A client calls `configIpAddr`. -/
def callConfig (asm : Assembly) (c : AddressConfig) (w : World) : World :=
  ((configIpAddr asm c w.1).2, .config c (configIpAddr asm c w.1).1 w.1 :: w.2)

/-- The given calls of `configIpAddr`, one after the other. -/
def callConfigs (asm : Assembly) (cs : List AddressConfig) (w : World) : World :=
  cs.foldl (fun w c ↦ callConfig asm c w) w

/-- Answer the calls of `run`, with calls of `configIpAddr` after each. -/
def answering (asm : Assembly) (reply : (e : StartupCall) → Option e.Answer)
    (meanwhile : StartupCall → List AddressConfig) (e : StartupCall) (w : World) :
    Option (e.Answer × World) :=
  (reply e).map fun b ↦ (b, callConfigs asm (meanwhile e) (w.1, .answer e b :: w.2))

variable {pl : Platform} {asm : Assembly} {reply : (e : StartupCall) → Option e.Answer}
  {meanwhile : StartupCall → List AddressConfig} {e : StartupCall} {w w' : World}

theorem clients_callConfigs (cs : List AddressConfig) :
    Clients pl asm w (callConfigs asm cs w) := by
  induction cs generalizing w with
  | nil => exact .refl
  | cons c cs ih => exact .head (.config c) ih

theorem onCall_answering {b : e.Answer} (h : answering asm reply meanwhile e w = some (b, w')) :
    (env pl asm).onCall e w b w' := by
  obtain ⟨b', -, heq⟩ := Option.map_eq_some_iff.1 h
  obtain ⟨rfl, rfl⟩ := Prod.mk.inj heq
  exact clients_callConfigs _

/-- Start up until a call is not answered. -/
def start (asm : Assembly) (reply : (e : StartupCall) → Option e.Answer)
    (meanwhile : StartupCall → List AddressConfig) : Option (StartupCall × World) :=
  Prog.stop (fun s s' h ↦ .wrote s s' :: h) (answering asm reply meanwhile) (run asm 1) World.init

theorem callAt_of_start (pl : Platform) (h : start asm reply meanwhile = some (e, w)) :
    Prog.CallAt (env pl asm) (run asm 1) World.init e w :=
  Prog.callAt_of_stop (V := env pl asm) (fun _ _ _ _ ↦ onCall_answering) h

/-- The world in which start-up is left. -/
def started (asm : Assembly) (reply : (e : StartupCall) → Option e.Answer)
    (meanwhile : StartupCall → List AddressConfig) : World :=
  ((start asm reply meanwhile).map Prod.snd).getD World.init

/-- Two clients with badges 101 and 102 and two sockets; every text but the empty one is an
address. -/
def sampleAssembly : Assembly where
  badges := [101, 102]
  configuredClients := 2
  socketQuota _ := 3
  maximumSocketNo := 2
  maximumSocketNo_pos := by decide
  isValidIp4Address text := !text.isEmpty
  hardcoded := none

/-- Every step but `pico_stack_init` succeeds; an address is its first character. -/
def smooth (stackInit : ℤ) : (e : StartupCall) → Option e.Answer
  | .stackInit => some stackInit
  | .deviceInit => some (0 : ℤ)
  | .linkAdd _ _ => some (0 : ℤ)
  | .routeAdd _ => some (0 : ℤ)
  | .getMacAddress => some OsError.success
  | .stringToIpv4 text => some ((0, (text.headD 0).toUInt32) : ℤ × UInt32)
  | .yield | .preempt => some ()
  | .mainLoop | .stillWaiting => none

end Startup

end NetworkStackPicoTcp
