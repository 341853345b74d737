import NetworkStackPicoTcp.Invariants.ControlThread
import NetworkStackPicoTcp.Invariants.Writes

/-!
# What no thread changes

The sizes of the tables, who the clients are and the state of the stack are what start-up has left
(`Component.kept_of_reachable`). The RPC thread heeds more than that (`Heeds`), and so do the
callbacks that picoTCP runs inside a call.
-/

namespace NetworkStackPicoTcp

open Prog (Within)

/-- The clients are who they were, and the stack is in the state it was in. -/
structure Kept (s s' : NetworkStack) : Prop extends SameSetup s s' where
  currentState : s'.currentState = s.currentState

namespace Kept

variable {s s' s'' : NetworkStack}

theorem refl (s : NetworkStack) : Kept s s := ⟨SameSetup.refl s, rfl⟩

theorem trans (h : Kept s s') (h' : Kept s' s'') : Kept s s'' :=
  ⟨h.toSameSetup.trans h'.toSameSetup, h'.currentState.trans h.currentState⟩

theorem of_heeds (h : Heeds s s') : Kept s s' := ⟨h.toSameSetup, h.currentState⟩

theorem of_sameFrame (h : SameFrame s s') : Kept s s' where
  numberOfSockets := h.numberOfSockets
  numberOfClients := h.numberOfClients
  clientId k := by rw [h.client k]
  inUse k := by rw [h.client k]
  socketQuota k := by rw [h.client k]
  eventNotify k := by rw [h.client k]
  currentState := h.currentState

end Kept

namespace Component

variable {pl : Platform} {cfg : NetworkStackPicoTcp.Config} {x : Config pl} {w w' : World}
  {evs : List PicoEvent}

theorem heeds_nested {s s' : NetworkStack} (h : Nested s s') : Heeds s s' := by
  induction h with
  | refl => exact Heeds.refl s
  | tail _ hcb ih =>
    obtain ⟨ev, -, hev⟩ := hcb
    exact ih.trans (Heeds.handlePicoSocketEvent hev)

/-- What a call of the wrapper does: only a mutex, `pico_err` and the event may change, and the
event is not taken away. -/
theorem heeds_canReturn {t : ThreadId} {e : Call} {b : e.Answer} (h : CanReturn t e b w w') :
    Heeds w.1 w'.1 ∧ w'.2.log = w.2.log ∧ w'.2.timer = w.2.timer ∧ w'.2.armed = w.2.armed ∧
      (w.2.event = true → w'.2.event = true) := by
  cases e with
  | lock m =>
    obtain ⟨-, rfl⟩ := h
    exact ⟨Heeds.refl _, rfl, rfl, rfl, id⟩
  | pico pc =>
    obtain ⟨hn, err, -, herr⟩ := h
    rw [herr]
    exact ⟨heeds_nested hn, rfl, rfl, rfl, id⟩
  | picoErr =>
    obtain ⟨-, rfl⟩ := h
    exact ⟨Heeds.refl _, rfl, rfl, rfl, id⟩
  | notifyMainLoop =>
    obtain rfl := h
    exact ⟨Heeds.refl _, rfl, rfl, rfl, fun _ ↦ rfl⟩
  | unlock | stringToIpv4 | putEvent | preempt =>
    obtain rfl := h
    exact ⟨Heeds.refl _, rfl, rfl, rfl, id⟩
  | nullDeref | diverge => exact b.elim

/-- The writes of an iteration keep to the frame. -/
theorem within_iteration : Within Framed (fun _ ↦ True) (iteration evs) := by
  have hworking : ∀ {p : Loop Unit}, Within Framed LoopCall.Working p →
      Within Framed (fun _ ↦ True) p :=
    fun hp ↦ Prog.within_mono (fun _ ↦ id) (fun _ _ ↦ trivial) hp
  refine Prog.within_bind (Prog.within_perform trivial) fun _ ↦ ?_
  refine Prog.within_bind (Prog.within_perform trivial) fun _ ↦ Prog.within_bind ?_ fun _ ↦ ?_
  · refine Prog.within_bind (Prog.within_perform trivial) fun _ ↦ ?_
    refine Prog.within_bind (hworking within_callbacks) fun _ ↦ ?_
    exact Prog.within_bind Prog.within_get fun s ↦ hworking within_notifyClients
  · exact Prog.within_perform trivial

/-- **What start-up has left stays.** -/
theorem kept_of_reachable (h : Reachable pl cfg x) : Kept cfg.init x.world.1 := by
  refine Threads.invariant_of_reachable (S := system pl) (I := fun s ↦ Kept cfg.init s)
    (W := fun _ f ↦ ∀ s, Kept s (f s)) ?_ (fun _ f s hf hs ↦ hs.trans (hf s)) ?_ ?_ (Kept.refl _) h
  · intro t j
    cases t with
    | rpc => exact Prog.within_mono (fun _ hf s ↦ Kept.of_heeds (hf s)) (fun _ ↦ id) heedful_rpc
    | control =>
      exact Prog.within_mono (fun _ hf s ↦ Kept.of_sameFrame (hf s).1) (fun _ ↦ id) within_iteration
    | ticker => exact Prog.within_mono (fun _ ↦ False.elim) (fun _ ↦ id) within_tickerRun
  · intro t j e w b w' hw hcall
    cases t with
    | rpc =>
      obtain ⟨w₁, hret, rfl⟩ := hcall
      exact hw.trans (Kept.of_heeds (heeds_canReturn hret).1)
    | control =>
      cases e with
      | wrapper e => exact hw.trans (Kept.of_heeds (heeds_canReturn hcall).1)
      | waitNetworkEvent =>
        obtain ⟨-, rfl⟩ := hcall
        exact hw
      | stackTick | callback | eventNotify =>
        obtain rfl := hcall
        exact hw
    | ticker =>
      cases e with
      | notifyWait =>
        obtain ⟨-, rfl⟩ := hcall
        exact hw
      | periodic | emit =>
        obtain rfl := hcall
        exact hw
  · rintro w w' hw (rfl | rfl)
    · exact hw
    · exact hw

end Component

end NetworkStackPicoTcp
