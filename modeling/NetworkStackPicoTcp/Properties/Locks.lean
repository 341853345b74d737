import NetworkStackPicoTcp.Invariants.Conduct
import NetworkStackPicoTcp.Invariants.ControlThread
import NetworkStackPicoTcp.Properties.Events

/-!
# The discipline of the two mutexes

Neither thread takes a mutex that it holds, both take `stackTS` before `socketCB` when they nest
them, and both hold none when they are done. picoTCP is called, and `pico_err` is read, under
`stackTS`; so callbacks run under it too, and their own calls of picoTCP are made under it. Early
returns do not break this: the one macro that could return from inside a locked section,
`CHECK_CLIENT_ID` in `accept`, never does.
-/

namespace NetworkStackPicoTcp

open Component (LoopCall handlePicoSocketEvent iteration notifyClientsAboutPendingEvents
  within_callbacks within_handlePicoSocketEvent within_notifyClients)
open Prog (Within wp)

variable {pl : Platform} {sched : Schedule} {cfg : Config} {c : ℤ} {s : NetworkStack} {h : History}
  {held : List Mutex} {w : NetworkStack × List Mutex}

/-! ### The calls of the two threads -/

/-- A thread that holds these mutexes may issue the call: it does not hold a mutex that it takes,
nor `socketCB` when it takes `stackTS`; it holds one that it releases; and it holds `stackTS` when
it calls picoTCP or reads `pico_err`. -/
def LockSafe (held : List Mutex) : Call → Prop
  | .lock m => m ∉ held ∧ (m = .stackTS → .socketCB ∉ held)
  | .unlock m => m ∈ held
  | .pico _ | .picoErr => .stackTS ∈ held
  | _ => True

theorem lockSafe_of_allows {t : Thread} {r : RpcCall} {e : Call} (h : t.Allows r s e) :
    LockSafe t.held e := by
  cases e with
  | lock m =>
    refine ⟨fun hm ↦ (h m hm).false, ?_⟩
    rintro rfl hm
    exact absurd (h _ hm) (by decide)
  | unlock m => exact List.mem_of_mem_head? h
  | pico pc => exact h.1
  | picoErr => exact h
  | _ => trivial

/-- The control thread, holding these mutexes, may issue the call: picoTCP's tick and the callbacks
in it run under `stackTS`, and the wait for an event is made without a mutex. -/
def LoopSafe (held : List Mutex) : LoopCall → Prop
  | .waitNetworkEvent => held = []
  | .stackTick | .callback _ => .stackTS ∈ held
  | .eventNotify _ => True
  | .wrapper e => LockSafe held e

/-- The mutexes that the control thread holds after a call, the one taken last first. -/
def heldAfter : LoopCall → List Mutex → List Mutex
  | .wrapper (.lock m), held => m :: held
  | .wrapper (.unlock m), held => held.erase m
  | _, held => held

/-- The calls of the control thread return anything and do anything to the tables, and the observer
keeps account of its mutexes. -/
def accountEnv : Env NetworkStack LoopCall.Answer (List Mutex) where
  onWrite _ _ held := held
  onCall e w _ w' := w'.2 = heldAfter e w.2

theorem loopSafe_of_inside {e : LoopCall} (he : e.inside = true) (hheld : .stackTS ∈ held) :
    LoopSafe held e := by
  cases e with
  | waitNetworkEvent => exact absurd he Bool.false_ne_true
  | stackTick | callback => exact hheld
  | eventNotify => trivial
  | wrapper e =>
    cases e with
    | pico | picoErr => exact hheld
    | nullDeref => trivial
    | _ => exact absurd he Bool.false_ne_true

theorem heldAfter_of_inside {e : LoopCall} (he : e.inside = true) : heldAfter e held = held := by
  cases e with
  | wrapper e => cases e <;> first | rfl | exact absurd he Bool.false_ne_true
  | _ => rfl

/-- Code that makes only such calls takes no mutex, and its calls are safe under `stackTS`. -/
theorem wp_inside {α : Type} {W : (NetworkStack → NetworkStack) → Prop} {p : Component.Loop α}
    (hp : Within W LoopCall.Working p) (hheld : .stackTS ∈ held) (hw : w.2 = held) :
    wp accountEnv (fun e w' ↦ w'.2 = held ∧ LoopSafe w'.2 e) p (fun _ w' ↦ w'.2 = held) w := by
  refine Prog.wp_mono (fun e w' h ↦ ⟨h.2, ?_⟩) (fun _ _ ↦ id)
    (Prog.wp_of_within (I := fun w ↦ w.2 = held) (fun _ _ _ ↦ id) (fun e w₁ _ w₂ he h₁ h₂ ↦ ?_)
      hp hw)
  · rw [h.2]
    exact loopSafe_of_inside h.1.1 hheld
  · rw [h₂, h₁, heldAfter_of_inside he.1]

/-- **An iteration of the main loop keeps the order**, and ends without a mutex. -/
theorem wp_iteration {evs : List PicoEvent} (hw : w.2 = []) :
    wp accountEnv (fun e w' ↦ LoopSafe w'.2 e) (iteration evs) (fun _ w' ↦ w'.2 = []) w := by
  simp only [iteration, Component.work, notifyClientsAboutPendingEvents, Prog.wp_bind,
    Prog.wp_perform, Prog.wp_get]
  refine ⟨hw, fun _ w₁ h₁ ↦ ⟨?_, fun _ w₂ h₂ ↦ ?_⟩⟩
  · rw [h₁, hw]
    exact ⟨List.not_mem_nil, fun _ ↦ List.not_mem_nil⟩
  have hlocked : w₂.2 = [.stackTS] := by
    rw [h₂, h₁, hw]
    rfl
  refine ⟨hlocked ▸ List.mem_cons_self, fun _ w₃ h₃ ↦ ?_⟩
  refine Prog.wp_mono (fun _ _ ↦ And.right) (fun _ w₄ h₄ ↦ ?_)
    (wp_inside within_callbacks List.mem_cons_self (h₃.trans hlocked))
  refine Prog.wp_mono (fun _ _ ↦ And.right) (fun _ w₅ h₅ ↦ ⟨?_, fun _ w₆ h₆ ↦ ?_⟩)
    (wp_inside within_notifyClients List.mem_cons_self h₄)
  · rw [h₅]
    exact List.mem_cons_self
  · rw [h₆, h₅]
    rfl

/-! ### Every path -/

/-- **Locks are taken and released in order**, on every path of every RPC, of the callbacks that
picoTCP runs inside the calls of the RPC, and of every iteration of the main loop. A callback holds
throughout what the caller of picoTCP holds, and so does one that runs inside a call of a callback.
An RPC that has reserved a handle succeeds; that is how `accept` would fail `CHECK_CLIENT_ID` in its
locked section otherwise. -/
theorem locks_in_order (hw : Reachable pl sched cfg (s, h)) (hc : s.IsClient c) (r : RpcCall) :
    (thread (.begin c r s :: h)).held = [] ∧
    (∀ e w, Prog.CallAt (rpcEnv sched c r) (rpc pl c r) (s, .begin c r s :: h) e w →
      LockSafe (thread w.2).held e ∧ ∀ pc, e = .pico pc → ∀ ev t e' w',
        Prog.CallAt accountEnv (handlePicoSocketEvent ev) (t, (thread w.2).held) e' w' →
          w'.2 = (thread w.2).held ∧ LoopSafe w'.2 e') ∧
    (∀ a w, Prog.Outcome (rpcEnv sched c r) (rpc pl c r) (s, .begin c r s :: h) a w →
      (thread w.2).held = [] ∧ ∀ j, (thread w.2).reserved = some j → a.err = .success) ∧
    ∀ evs : List PicoEvent,
      (∀ e w, Prog.CallAt accountEnv (iteration evs) (s, []) e w → LoopSafe w.2 e) ∧
      ∀ a w, Prog.Outcome accountEnv (iteration evs) (s, []) a w → w.2 = [] := by
  refine ⟨?_, fun e w hat ↦ ?_, fun a w hout ↦ ?_, fun evs ↦ ⟨fun e w hat ↦ ?_, fun a w hout ↦ ?_⟩⟩
  · rw [thread_cons, Thread.step, (reachable_orderly hw).2]
  · have hsafe := lockSafe_of_allows (allows_of_reachable hw hc hat).1
    refine ⟨hsafe, ?_⟩
    rintro pc rfl ev t e' w' hat'
    exact Prog.callAt_of_wp
      (wp_inside (W := Component.Framed) within_handlePicoSocketEvent hsafe rfl) hat'
  · have hret := (leaves_of_reachable hw hc hout).2
    exact ⟨hret.held, fun j hj ↦ (hret.reserved j hj).2.1⟩
  · exact Prog.callAt_of_wp (C := fun e w ↦ LoopSafe w.2 e) (wp_iteration rfl) hat
  · exact Prog.outcome_of_wp (Q := fun _ w ↦ w.2 = []) (wp_iteration rfl) hout

/-- Client 101's `accept` has reserved slot 1, and holds nothing when it returns. -/
theorem locks_in_order_sampleAccepted :
    ∃ a, Prog.Outcome (rpcEnv .free 101 (.accept 0 (some 0) (some ⟨.replicate 16 0, 0⟩)))
      (rpc samplePlatform 101 (.accept 0 (some 0) (some ⟨.replicate 16 0, 0⟩)))
      ((iterate [incoming 7, announce 9 {.rd}] sampleListening).1,
        .begin 101 (.accept 0 (some 0) (some ⟨.replicate 16 0, 0⟩))
          (iterate [incoming 7, announce 9 {.rd}] sampleListening).1 ::
        (iterate [incoming 7, announce 9 {.rd}] sampleListening).2)
      a (sampleAccepted.1, sampleAccepted.2.tail) ∧
    (thread sampleAccepted.2.tail).held = [] ∧ a.err = .success := by
  have hw : Reachable samplePlatform .free (sampleConfig 5)
      (iterate [incoming 7, announce 9 {.rd}] sampleListening) :=
    reachable_iterate (reachable_sampleListening .free) (by simp [incoming, announce])
  have hc : (iterate [incoming 7, announce 9 {.rd}] sampleListening).1.IsClient 101 := ⟨0, rfl⟩
  have hdone : (serve samplePlatform 101 (.accept 0 (some 0) (some ⟨.replicate 16 0, 0⟩))
      (obliging none (some 9)) (fun _ w ↦ w)
      (iterate [incoming 7, announce 9 {.rd}] sampleListening)).isSome = true := rfl
  obtain ⟨a, ho⟩ := outcome_served (interference_refl .free) hdone
  obtain ⟨hheld, hres⟩ := (locks_in_order hw hc _).2.2.1 a _ ho
  exact ⟨a, ho, hheld, hres 1 rfl⟩

end NetworkStackPicoTcp
