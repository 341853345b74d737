import NetworkStackPicoTcp.Interaction.Since
import NetworkStackPicoTcp.Interaction.Threads
import NetworkStackPicoTcp.Model.Simulate

/-!
# The threads of the component

`System` takes an iteration of the main loop as one step. Here three threads run statement by
statement: the RPC thread, which serves the socket RPCs, the control thread with the loop of
`NetworkStack_run`, and the thread of the component `Ticker`. They share the tables, the two
mutexes, and `event_tick_or_data`, the notification that the main loop waits for and that
`internal_notify_main_loop`, the ticker and the NIC driver emit.

A mutex is free or owned by a thread, and taking it waits until it is free. A notification is a
flag: emitting it sets the flag, and waiting for it waits until it is set and clears it, so
emissions that nobody has waited for are one. picoTCP's global `pico_err` is shared as well.

The RPC thread runs `rpc`. The code of the control thread is written down once more, with a write
for each assignment of the source, since none of it is protected against what the RPC thread does
without `stackTS`. One thing remains a single step: a lookup that loops over a table, and the locked
sections of `reserve_handle`, `free_handle` and `set_parent_handle`.
-/

namespace NetworkStackPicoTcp

/-- The threads. -/
inductive ThreadId
  | rpc
  | control
  | ticker
  deriving DecidableEq, Repr

namespace Component

open Prog (get modify)

/-! ### What the threads share besides the tables -/

/-- One thing that happens. -/
inductive Entry
  /-- The RPC thread takes up an RPC. -/
  | begin (caller : ℤ) (r : RpcCall)
  /-- A call of the RPC returns. -/
  | answer (caller : ℤ) (r : RpcCall) (e : Call) (b : e.Answer)
  /-- The RPC returns. -/
  | reply (caller : ℤ) (r : RpcCall) (a : Reply)
  /-- `wait_network_event` returns. -/
  | woken
  /-- picoTCP's tick begins. -/
  | ticked
  /-- The `eventNotify` of a client is called. -/
  | signalled (k : ℕ)

/-- The mutexes and notifications, and what has happened so far, newest first. -/
structure Shared where
  owner : Mutex → Option ThreadId
  /-- `event_tick_or_data`. -/
  event : Bool
  /-- `timeServer_notify`. -/
  timer : Bool
  /-- What the ticker's `timeServer_rpc_periodic` has returned. -/
  armed : Option ℤ
  picoErr : PicoErr
  log : List Entry

/-- The tables and what is shared besides. -/
abbrev World := NetworkStack × Shared

namespace Shared

/-- Nothing has happened. -/
def init : Shared where
  owner _ := none
  event := false
  timer := false
  armed := none
  picoErr := .noerr
  log := []

variable (γ : Shared)

/-- Something happens. -/
def record (x : Entry) : Shared := { γ with log := x :: γ.log }

/-- A thread takes a mutex. -/
def take (t : ThreadId) (m : Mutex) : Shared :=
  { γ with owner := Function.update γ.owner m (some t) }

/-- A mutex is released. -/
def release (m : Mutex) : Shared := { γ with owner := Function.update γ.owner m none }

/-- `event_tick_or_data` is emitted. -/
def emit : Shared := { γ with event := true }

@[simp] theorem record_owner {x : Entry} : (γ.record x).owner = γ.owner := rfl

@[simp] theorem record_log {x : Entry} : (γ.record x).log = x :: γ.log := rfl

@[simp] theorem release_event {m : Mutex} : (γ.release m).event = γ.event := rfl

@[simp] theorem emit_log : γ.emit.log = γ.log := rfl

end Shared

/-- Callbacks that picoTCP runs inside a call. -/
def Nested : NetworkStack → NetworkStack → Prop :=
  Relation.ReflTransGen fun s s' ↦
    ∃ ev : PicoEvent, ev.socket ≠ none ∧ s.handlePicoSocketEvent ev = some s'

/-- A picoTCP call that is to return a socket has returned `NULL`. -/
def noSocket : (pc : PicoCall) → pc.Answer → Bool
  | .socketOpen _ _, p => p.isNone
  | .accept _, a => a.1.isNone
  | _, _ => false

/-- A call of the wrapper, made by thread `t`, can return this answer in the second world. picoTCP
sets `pico_err` as it likes, but to an error when it returns `NULL` instead of a socket. -/
def CanReturn (t : ThreadId) : (e : Call) → e.Answer → World → World → Prop
  | .lock m, _, w, w' => w.2.owner m = none ∧ w' = (w.1, w.2.take t m)
  | .unlock m, _, w, w' => w' = (w.1, w.2.release m)
  | .pico pc, b, w, w' => Nested w.1 w'.1 ∧
    ∃ err, (noSocket pc b = true → err ≠ .noerr) ∧ w'.2 = { w.2 with picoErr := err }
  | .picoErr, b, w, w' => b = w.2.picoErr ∧ w' = w
  | .notifyMainLoop, _, w, w' => w' = (w.1, w.2.emit)
  | _, _, w, w' => w' = w

/-! ### The RPC thread -/

/-- The environment of an RPC. -/
def rpcEnv (caller : ℤ) (r : RpcCall) : Env NetworkStack Call.Answer Shared where
  onWrite _ _ γ := γ
  onCall e w b w' :=
    ∃ w₁, CanReturn .rpc e b w w₁ ∧ w' = (w₁.1, w₁.2.record (.answer caller r e b))

/-! ### The control thread -/

/-- What the control thread asks of the world around it. -/
inductive LoopCall
  /-- `wait_network_event`. -/
  | waitNetworkEvent
  /-- picoTCP's tick begins. -/
  | stackTick
  /-- In its tick, picoTCP gets to a callback. -/
  | callback (ev : PicoEvent)
  /-- The `eventNotify` of a client. -/
  | eventNotify (k : ℕ)
  /-- A call that the wrapper makes in the RPC thread as well. -/
  | wrapper (e : Call)

/-- What a call returns. -/
@[reducible] def LoopCall.Answer : LoopCall → Type
  | waitNetworkEvent | stackTick | callback _ | eventNotify _ => Unit
  | wrapper e => e.Answer

/-- The code of the control thread. -/
abbrev Loop : Type → Type := Prog NetworkStack LoopCall.Answer

/-- Issue a call. -/
abbrev ask (e : LoopCall) : Loop e.Answer := Prog.perform e

/-- `socket->eventMask |= bit`. -/
def raise (i : ℕ) (bit : OsSockEv) : Loop Unit :=
  modify fun s ↦ s.updateSocket i (SocketResources.raiseIf true bit)

/-- A branch of the callback that sets one bit. -/
def raiseIf (c : Bool) (i : ℕ) (bit : OsSockEv) : Loop Unit :=
  if c = true then raise i bit else return

/-- The `PICO_SOCK_EV_CONN` branch of the callback. -/
def recordConn (ev : PicoEvent) (i : ℕ) : Loop Unit :=
  if .conn ∈ ev.eventMask then
    if ev.listening = true then do
      raise i .connAcpt
      modify fun s ↦ s.updateSocket i fun r ↦
        { r with pendingConnections := r.pendingConnections + 1 }
    else do
      raise i .connEst
      modify fun s ↦ s.updateSocket i fun r ↦ { r with connected := true }
  else return

/-- The `PICO_SOCK_EV_ERR` branch of the callback. It reads `pico_err` twice. -/
def recordErr (ev : PicoEvent) (i : ℕ) : Loop Unit :=
  if .err ∈ ev.eventMask then do
    let e ← ask (.wrapper .picoErr)
    modify fun s ↦ s.updateSocket i (SocketResources.setError (picoErr2Os e))
    raise i .error
    let e ← ask (.wrapper .picoErr)
    raiseIf (e = .econnrefused) i .fin
  else return

/-- The end of the callback: look up the owner and flag it, without a check of the lookup. -/
def flagOwner (i : ℕ) : Loop Unit := do
  let s ← get
  match s.getClientFromClientId (s.sockets i).clientId with
  | none => Prog.call (.wrapper .nullDeref) Empty.elim
  | some k => modify fun s ↦ s.updateClient k Client.flag

/-- The callback's branch for a socket without a handle. -/
def closeOrphan (ev : PicoEvent) : Loop Unit :=
  if ev.tcpState = .closeWait then do
    let _ ← ask (.wrapper (.pico (.close ev.socket)))
  else return

/-- `handle_pico_socket_event`. -/
def handlePicoSocketEvent (ev : PicoEvent) : Loop Unit := do
  let s ← get
  match s.getHandleFromImplementationSocket ev.socket with
  | none => closeOrphan ev
  | some i =>
    recordConn ev i
    raiseIf (.rd ∈ ev.eventMask) i .read
    raiseIf (.wr ∈ ev.eventMask) i .write
    raiseIf (.close ∈ ev.eventMask) i .close
    raiseIf (.fin ∈ ev.eventMask) i .fin
    recordErr ev i
    flagOwner i

/-- The callbacks of a tick. -/
def callbacks : List PicoEvent → Loop Unit
  | [] => return
  | ev :: evs => do
    ask (.callback ev)
    handlePicoSocketEvent ev
    callbacks evs

/-- The inner loop of `notify_clients_about_pending_events`, over the given slots. -/
def scanSockets (k : ℕ) : List ℕ → Loop Unit
  | [] => return
  | j :: js => do
    let s ← get
    if s.hasPendingEvents j k = true then
      modify fun s ↦ s.updateClient k Client.flag
    scanSockets k js

/-- An iteration of the outer loop of `notify_clients_about_pending_events` for a client in use. -/
def notifyUsed (k : ℕ) : Loop Unit := do
  let s ← get
  if (s.clients k).needsToBeNotified = false then
    scanSockets k (List.range s.numberOfSockets)
  let s ← get
  if (s.clients k).needsToBeNotified = true then
    if (s.clients k).eventNotify = true then
      ask (.eventNotify k)
    modify fun s ↦ s.updateClient k fun c ↦ { c with needsToBeNotified := false }

/-- The outer loop of `notify_clients_about_pending_events`, over the given clients. -/
def notifyClients : List ℕ → Loop Unit
  | [] => return
  | k :: ks => do
    let s ← get
    if (s.clients k).inUse = true then
      notifyUsed k
    notifyClients ks

/-- `notify_clients_about_pending_events`. -/
def notifyClientsAboutPendingEvents : Loop Unit := do
  let s ← get
  notifyClients (List.range s.numberOfClients)

/-- What an iteration of the main loop does between the lock and the unlock: the tick, in which
picoTCP runs callbacks, and the notifications. -/
def work (evs : List PicoEvent) : Loop Unit := do
  ask .stackTick
  callbacks evs
  notifyClientsAboutPendingEvents

/-- An iteration of the loop of `NetworkStack_run`. -/
def iteration (evs : List PicoEvent) : Loop Unit := do
  ask .waitNetworkEvent
  ask (.wrapper (.lock .stackTS))
  work evs
  ask (.wrapper (.unlock .stackTS))

/-- The environment of an iteration. -/
def loopEnv : Env NetworkStack LoopCall.Answer Shared where
  onWrite _ _ γ := γ
  onCall e w b w' :=
    match e, b with
    | .waitNetworkEvent, _ =>
      w.2.event = true ∧ w' = (w.1, { w.2 with event := false }.record .woken)
    | .stackTick, _ => w' = (w.1, w.2.record .ticked)
    | .callback ev, _ => w' = (w.1, { w.2 with picoErr := ev.picoErr })
    | .eventNotify k, _ => w' = (w.1, w.2.record (.signalled k))
    | .wrapper e, b => CanReturn .control e b w w'

/-! ### The ticker -/

/-- What the ticker asks of the world around it. -/
inductive TickerCall
  /-- `timeServer_rpc_periodic`. -/
  | periodic
  /-- `timeServer_notify_wait`. -/
  | notifyWait
  /-- `event_tick_emit`. -/
  | emit

/-- What a call returns. -/
@[reducible] def TickerCall.Answer : TickerCall → Type
  | periodic => ℤ
  | notifyWait | emit => Unit

/-- Issue a call. -/
abbrev tick (e : TickerCall) : Prog NetworkStack TickerCall.Answer e.Answer := Prog.perform e

/-- The two parts of the ticker's `run`. -/
inductive TickerJob
  /-- Up to its loop. -/
  | setUp
  /-- A round of its loop. -/
  | round

/-- The ticker's `run`. -/
def tickerRun : TickerJob → Prog NetworkStack TickerCall.Answer ℤ
  | .setUp => do
    let ret ← tick .periodic
    if ret ≠ 0 then
      return -1
    return 0
  | .round => do
    tick .notifyWait
    tick .emit
    return 0

/-- The environment of the ticker. -/
def tickerEnv : Env NetworkStack TickerCall.Answer Shared where
  onWrite _ _ γ := γ
  onCall e w b w' :=
    match e, b with
    | .periodic, b => w' = (w.1, { w.2 with armed := some b })
    | .notifyWait, _ => w.2.timer = true ∧ w' = (w.1, { w.2 with timer := false })
    | .emit, _ => w' = (w.1, w.2.emit)

/-! ### The system -/

/-- The component with its threads. An RPC comes from a client; the ticker's loop runs once the
timer is set up. -/
def system (pl : Platform) : Threads ThreadId NetworkStack Shared where
  Job
    | .rpc => ℤ × RpcCall
    | .control => List PicoEvent
    | .ticker => TickerJob
  Call
    | .rpc => Call
    | .control => LoopCall
    | .ticker => TickerCall
  Answer
    | .rpc => Call.Answer
    | .control => LoopCall.Answer
    | .ticker => TickerCall.Answer
  Result
    | .rpc => Reply
    | .control => Unit
    | .ticker => ℤ
  code
    | .rpc => fun j ↦ rpc pl j.1 j.2
    | .control => iteration
    | .ticker => tickerRun
  env
    | .rpc => fun j ↦ rpcEnv j.1 j.2
    | .control => fun _ ↦ loopEnv
    | .ticker => fun _ ↦ tickerEnv
  mayStart
    | .rpc => fun j w ↦ w.1.IsClient j.1
    | .control => fun evs _ ↦ ∀ ev ∈ evs, ev.socket ≠ none
    | .ticker => fun j w ↦ match j with
      | .setUp => w.2.armed = none
      | .round => w.2.armed = some 0
  onStart
    | .rpc => fun j w ↦ w.2.record (.begin j.1 j.2)
    | .control => fun _ w ↦ w.2
    | .ticker => fun _ w ↦ w.2
  onReturn
    | .rpc => fun j a w ↦ w.2.record (.reply j.1 j.2 a)
    | .control => fun _ _ w ↦ w.2
    | .ticker => fun _ _ w ↦ w.2
  -- the timer fires, or the NIC driver or the poll of the NIC in picoTCP's tick emits
  outside w w' := w' = (w.1, { w.2 with timer := true }) ∨ w' = (w.1, w.2.emit)

/-- A configuration of the component. -/
abbrev Config (pl : Platform) := (system pl).Config

/-- The configurations that the component reaches from its initial tables, whatever its clients,
picoTCP, the driver and the scheduler do. -/
def Reachable (pl : Platform) (cfg : NetworkStackPicoTcp.Config) (x : Config pl) : Prop :=
  (system pl).Reachable (cfg.init, Shared.init) x

/-! ### Computing single runs -/

/-- What a call does when nothing else happens during it. -/
def after (t : ThreadId) : Call → World → World
  | .lock m, w => (w.1, w.2.take t m)
  | .unlock m, w => (w.1, w.2.release m)
  | .notifyMainLoop, w => (w.1, w.2.emit)
  | _, w => w

/-- The call can return this answer at once. -/
def returns : (e : Call) → e.Answer → World → Bool
  | .lock m, _, w => (w.2.owner m).isNone
  | .pico pc, b, w => !noSocket pc b || decide (w.2.picoErr ≠ .noerr)
  | .picoErr, b, w => decide (b = w.2.picoErr)
  | _, _, _ => true

theorem canReturn_after {t : ThreadId} {e : Call} {b : e.Answer} {w : World}
    (h : returns e b w = true) :
    CanReturn t e b w (after t e w) := by
  cases e with
  | lock m => exact ⟨Option.isNone_iff_eq_none.1 h, rfl⟩
  | pico pc =>
    refine ⟨.refl, w.2.picoErr, fun hno ↦ ?_, rfl⟩
    simpa [returns, hno] using h
  | picoErr => exact ⟨of_decide_eq_true h, rfl⟩
  | nullDeref | diverge => exact b.elim
  | _ => rfl

/-- The RPC with these answers, as long as the RPC thread runs alone. -/
def serve (pl : Platform) (c : ℤ) (r : RpcCall) (reply : (e : Call) → Option e.Answer) (w : World) :
    Option (Reply × World) :=
  Prog.eval (fun _ _ γ ↦ γ)
    (fun e w ↦ (reply e).bind fun b ↦
      if returns e b w = true then
        some (b, (after .rpc e w).1, (after .rpc e w).2.record (.answer c r e b))
      else none)
    (rpc pl c r) (w.1, w.2.record (.begin c r))

theorem outcome_of_serve {pl : Platform} {c : ℤ} {r : RpcCall}
    {reply : (e : Call) → Option e.Answer} {a : Reply}
    {w w' : World} (h : serve pl c r reply w = some (a, w')) :
    Prog.Outcome (rpcEnv c r) (rpc pl c r) (w.1, w.2.record (.begin c r)) a w' := by
  refine Prog.outcome_of_eval (V := rpcEnv c r) (fun e w₀ b w₁ hb ↦ ?_) h
  obtain ⟨b', -, hb'⟩ := Option.bind_eq_some_iff.1 hb
  split_ifs at hb' with hret
  obtain ⟨rfl, rfl⟩ := Prod.mk.inj (Option.some.inj hb')
  exact ⟨_, canReturn_after hret, rfl⟩

/-- The configuration after an RPC, if it returns. -/
def served (pl : Platform) (c : ℤ) (r : RpcCall) (reply : (e : Call) → Option e.Answer)
    (x : Config pl) :
    Config pl :=
  match serve pl c r reply x.world with
  | none => x
  | some (a, w) => x.set (w.1, w.2.record (.reply c r a)) .rpc none

theorem reachable_served {pl : Platform} {cfg : NetworkStackPicoTcp.Config} {c : ℤ} {r : RpcCall}
    {reply : (e : Call) → Option e.Answer} {x : Config pl} (h : Reachable pl cfg x)
    (hidle : x.task .rpc = none)
    (hc : x.world.1.IsClient c) : Reachable pl cfg (served pl c r reply x) := by
  unfold served
  cases hs : serve pl c r reply x.world with
  | none => exact h
  | some b =>
    obtain ⟨a, w⟩ := b
    have hmay : (system pl).mayStart .rpc (c, r) x.world := hc
    have hstart : Reachable pl cfg (x.set (x.world.1, x.world.2.record (.begin c r)) .rpc
        (some ⟨(c, r), rpc pl c r⟩)) := h.tail (.start hidle hmay)
    have hruns := Threads.runs_of_outcome (S := system pl) (t := ThreadId.rpc) (j := (c, r))
      (x := x.set (x.world.1, x.world.2.record (.begin c r)) .rpc (some ⟨(c, r), rpc pl c r⟩))
      Threads.Config.set_task_self (outcome_of_serve hs)
    rw [Threads.Config.set_set] at hruns
    exact hstart.trans (Relation.ReflTransGen.mono (fun _ _ ↦ .run) _ _ hruns)

/-- What a call of the control thread does when nothing else happens during it. -/
def loopAfter : LoopCall → World → World
  | .waitNetworkEvent, w => (w.1, { w.2 with event := false }.record .woken)
  | .stackTick, w => (w.1, w.2.record .ticked)
  | .callback ev, w => (w.1, { w.2 with picoErr := ev.picoErr })
  | .eventNotify k, w => (w.1, w.2.record (.signalled k))
  | .wrapper e, w => after .control e w

/-- The call of the control thread can return this answer at once. -/
def loopReturns : (e : LoopCall) → e.Answer → World → Bool
  | .waitNetworkEvent, _, w => w.2.event
  | .wrapper e, b, w => returns e b w
  | _, _, _ => true

theorem onCall_loopAfter {e : LoopCall} {b : e.Answer} {w : World} (h : loopReturns e b w = true) :
    loopEnv.onCall e w b (loopAfter e w) := by
  cases e with
  | waitNetworkEvent => exact ⟨h, rfl⟩
  | wrapper e => exact canReturn_after h
  | _ => rfl

/-- The code of the control thread with these answers of picoTCP, as long as that thread runs
alone. -/
def loopAlone {α : Type} (reply : (e : Call) → Option e.Answer) (p : Loop α)
    (w : World) : Option (α × World) :=
  Prog.eval (fun _ _ γ ↦ γ)
    (fun e w ↦
      (loopReply e).bind fun b ↦ if loopReturns e b w = true then some (b, loopAfter e w) else none)
        p w
where
  loopReply : (e : LoopCall) → Option e.Answer
    | .waitNetworkEvent | .stackTick | .callback _ | .eventNotify _ => some ()
    | .wrapper e => reply e

theorem outcome_of_loopAlone {α : Type} {reply : (e : Call) → Option e.Answer} {p : Loop α}
    {w w' : World} {a : α}
    (h : loopAlone reply p w = some (a, w')) : Prog.Outcome loopEnv p w a w' := by
  refine Prog.outcome_of_eval (V := loopEnv) (fun e w₀ b w₁ hb ↦ ?_) h
  obtain ⟨b', -, hb'⟩ := Option.bind_eq_some_iff.1 hb
  split_ifs at hb' with hret
  obtain ⟨rfl, rfl⟩ := Prod.mk.inj (Option.some.inj hb')
  exact onCall_loopAfter hret

/-- Nothing has happened yet. -/
def sampleIdle : Config samplePlatform := Threads.Config.idle _ ((sampleConfig 2).init, Shared.init)

/-- The RPC that opens a stream socket. -/
def sampleCreate : RpcCall := .create .inet .stream (some 0)

/-- Client 101 has opened a socket, and picoTCP has given it the socket 7. -/
def sampleOpened : Config samplePlatform :=
  served samplePlatform 101 sampleCreate (obliging (some 7) none) sampleIdle

theorem reachable_sampleOpened : Reachable samplePlatform (sampleConfig 2) sampleOpened :=
  reachable_served .refl rfl ⟨0, rfl⟩

end Component

end NetworkStackPicoTcp
