import Mathlib.Logic.Relation
import NetworkStackPicoTcp.Model.Callback
import NetworkStackPicoTcp.Model.Rpc

/-!
# Runs of the component

Two threads work on the tables: the RPC thread, which serves one RPC at a time, and the control
thread, whose main loop holds `stackTS` for each of its iterations. picoTCP runs callbacks inside an
iteration, and inside the picoTCP calls that an RPC makes under the same mutex.

A `Schedule` says at which points of an RPC the control thread may run main-loop iterations: before
the RPC gets `stackTS`, after it has released it, and between two iterations of the
`getPendingEvents` sweep. With `Schedule.atomic` RPCs and iterations are atomic towards each other.
picoTCP is unconstrained: any answers, and any callbacks for any sockets that are not `NULL`. What a
result assumes of picoTCP is said about the history.

The history records, newest first, everything that happens: each write of an RPC, each answered
call, each callback, and each notification pass.
-/

namespace NetworkStackPicoTcp

/-- One thing that happened, with the tables before and after it. -/
inductive Entry
  /-- The client `caller` issues an RPC. -/
  | begin (caller : ℤ) (r : RpcCall) (s : NetworkStack)
  /-- The RPC writes to the tables. -/
  | own (caller : ℤ) (r : RpcCall) (s s' : NetworkStack)
  /-- A call of the RPC returns. -/
  | answer (caller : ℤ) (r : RpcCall) (e : Call) (b : e.Answer) (s : NetworkStack)
  /-- A callback runs. -/
  | event (ev : PicoEvent) (s s' : NetworkStack)
  /-- The notification pass of a main-loop iteration runs. -/
  | notified (s s' : NetworkStack)
  /-- The RPC returns. -/
  | reply (caller : ℤ) (r : RpcCall) (a : Reply) (s : NetworkStack)

/-- What has happened so far, newest first. -/
abbrev History := List Entry

/-- The tables and the history. -/
abbrev World := NetworkStack × History

/-- The points of an RPC at which the control thread may run. -/
structure Schedule where
  /-- While the RPC waits for `stackTS`. -/
  beforeLock : Bool
  /-- After the RPC has released `stackTS`. -/
  afterUnlock : Bool
  /-- Between two iterations of the sweep. -/
  inSweep : Bool
  deriving DecidableEq

/-- The control thread runs only between RPCs. -/
def Schedule.atomic : Schedule := ⟨false, false, false⟩

/-- The control thread may run whenever the RPC does not hold `stackTS`. -/
def Schedule.free : Schedule := ⟨true, true, true⟩

/-- The control thread may run while this call is under way. -/
def Schedule.preempts (sched : Schedule) : Call → Bool
  | .lock .stackTS => sched.beforeLock
  | .unlock .stackTS => sched.afterUnlock
  | .preempt => sched.inSweep
  | _ => false

/-- One callback for a picoTCP socket that is not `NULL`. -/
def CallbackStep (w w' : World) : Prop :=
  ∃ ev : PicoEvent, ev.socket ≠ none ∧ w.1.handlePicoSocketEvent ev = some w'.1 ∧
    w'.2 = .event ev w.1 w'.1 :: w.2

/-- Any number of callbacks. -/
def Callbacks : World → World → Prop := Relation.ReflTransGen CallbackStep

/-- One iteration of `NetworkStack_run`: the stack's tick with its callbacks, then the notification
pass. -/
def MainLoopIteration (w w' : World) : Prop :=
  ∃ w₁, Callbacks w w₁ ∧
    w' = (w₁.1.notifyClientsAboutPendingEvents.1,
      .notified w₁.1 w₁.1.notifyClientsAboutPendingEvents.1 :: w₁.2)

/-- Any number of main-loop iterations. -/
def MainLoop : World → World → Prop := Relation.ReflTransGen MainLoopIteration

/-- What happens to the tables while a call is under way. -/
def Interference (sched : Schedule) (e : Call) (w w' : World) : Prop :=
  match e with
  | .pico _ => Callbacks w w'
  | e => if sched.preempts e then MainLoop w w' else w' = w

/-- It is possible that nothing happens. -/
theorem interference_refl (sched : Schedule) (e : Call) (w : World) : Interference sched e w w := by
  unfold Interference
  split
  · exact .refl
  · split_ifs
    · exact .refl
    · rfl

/-- The environment of one RPC of one client. -/
def rpcEnv (sched : Schedule) (caller : ℤ) (r : RpcCall) :
    Env NetworkStack Call.Answer History where
  onWrite s s' h := .own caller r s s' :: h
  onCall e w b w' :=
    ∃ w₁, Interference sched e w w₁ ∧ w' = (w₁.1, .answer caller r e b w₁.1 :: w₁.2)

@[simp] theorem rpcEnv_onWrite {sched : Schedule} {caller : ℤ} {r : RpcCall} {s s' : NetworkStack}
    {h : History} : (rpcEnv sched caller r).onWrite s s' h = .own caller r s s' :: h := rfl

/-- One step of the component between RPCs. -/
inductive Step (pl : Platform) (sched : Schedule) : World → World → Prop
  /-- A client issues an RPC and gets its reply. -/
  | rpc {s s' : NetworkStack} {h h' : History} {caller : ℤ} {r : RpcCall} {a : Reply}
      (hc : s.IsClient caller)
      (ho : Prog.Outcome (rpcEnv sched caller r) (rpc pl caller r) (s, .begin caller r s :: h) a
        (s', h')) :
      Step pl sched (s, h) (s', .reply caller r a s' :: h')
  /-- The control thread runs an iteration of its main loop. -/
  | mainLoop {w w' : World} (h : MainLoopIteration w w') : Step pl sched w w'
  /-- `run` sets the state of the stack. -/
  | setState {s : NetworkStack} {h : History} (st : StackState) :
      Step pl sched (s, h) ({ s with currentState := st }, h)

/-! ### The initial tables -/

/-- The smallest badge, `MIN_BADGE_ID`. -/
def minBadgeId : ℤ := 101

/-- What `initializeNetworkStack` builds the tables from. Badges and quotas are listed by client
index, entries past the badges stay unused. -/
structure Config where
  badges : List ℤ
  quota : ℕ → ℤ
  numberOfClients : ℕ
  numberOfSockets : ℕ
  badges_nodup : badges.Nodup
  minBadgeId_le : ∀ b ∈ badges, minBadgeId ≤ b
  length_le : badges.length ≤ numberOfClients
  numberOfSockets_pos : 0 < numberOfSockets

/-- The client entry built for the badge at index `k`. -/
def Config.client (cfg : Config) (k : ℕ) : Client :=
  match cfg.badges[k]? with
  | none => Client.zero
  | some badge =>
    { Client.zero with
      inUse := true
      clientId := badge
      socketQuota := cfg.quota k
      eventNotify := true }

/-- The tables when the stack starts to run. -/
def Config.init (cfg : Config) : NetworkStack where
  currentState := .running
  sockets _ := SocketResources.zero
  clients := cfg.client
  numberOfSockets := cfg.numberOfSockets
  numberOfClients := cfg.numberOfClients

/-- The world can be reached from the initial tables. -/
def Reachable (pl : Platform) (sched : Schedule) (cfg : Config) (w : World) : Prop :=
  Relation.ReflTransGen (Step pl sched) (cfg.init, []) w

end NetworkStackPicoTcp
