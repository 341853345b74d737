import NetworkStackPicoTcp.Invariants.Lifetime
import NetworkStackPicoTcp.Properties.HandleTable

/-!
# Events reach the right handle

The callback finds the handle of a picoTCP socket by its address. A slot keeps the address of a
socket that picoTCP has freed until its client calls `close`, and in the meantime picoTCP may use
the address again. If the new socket gets a handle behind that slot, its events go to the slot of
the old one, which may be another client's (`misrouted_sampleReused`). They reach the right handle
in all runs in which no handle is reserved so (`events_routed`).
-/

namespace NetworkStackPicoTcp

variable {pl : Platform} {sched : Schedule} {cfg : Config} {i p : ℕ}

/-- **Events reach the right handle** in every world of a run in which picoTCP hands out fresh
sockets and no handle has been reserved behind a slot that held the same address: the lookup finds
the handle that is in use for a live socket, and a callback for the socket records its event in that
slot and flags the slot's owner, and changes no other slot and no other client. -/
theorem events_routed {w : World} (hw : Visited pl sched cfg w) (hf : Fresh w.2)
    (hu : Unshadowed w.2) (hi : i < w.1.numberOfSockets) (hin : (w.1.sockets i).status = .inUse)
    (hp : (w.1.sockets i).implementationSocket = some p) (ha : Alive i p w.2) :
    w.1.getHandleFromImplementationSocket (some p) = some i ∧
    ∀ ev : PicoEvent, ev.socket = some p → ∃ k s', w.1.IsClientAt (w.1.sockets i).clientId k ∧
      w.1.handlePicoSocketEvent ev = some s' ∧
      s'.sockets i = (w.1.sockets i).recordEvent ev ∧ (∀ j, j ≠ i → s'.sockets j = w.1.sockets j) ∧
      s'.clients k = (w.1.clients k).flag ∧ ∀ l, l ≠ k → s'.clients l = w.1.clients l := by
  have hst := visited_stepped hw
  have hfirst := (hst.routes hf hu).first i hi p hp ha
  have hfound : w.1.getHandleFromImplementationSocket (some p) = some i :=
    NetworkStack.getHandleFromImplementationSocket_eq_some_iff.2 ⟨hp, hi, hfirst⟩
  refine ⟨hfound, fun ev hev ↦ ?_⟩
  obtain ⟨k, hk⟩ := hst.accounting.owner_isClient i hi hin
  refine ⟨k, (w.1.updateSocket i (SocketResources.recordEvent ev)).updateClient k Client.flag, hk,
    ?_, ?_, fun j hj ↦ ?_, ?_, fun l hl ↦ ?_⟩
  · have hk' : w.1.getClientIndexFromClientId (w.1.sockets i).clientId = some k := hk
    rw [NetworkStack.handlePicoSocketEvent_eq, hev, hfound]
    simp only [hk', Option.map_some]
  · rw [NetworkStack.updateClient_sockets, NetworkStack.updateSocket_sockets_self]
  · rw [NetworkStack.updateClient_sockets, NetworkStack.updateSocket_sockets_of_ne hj]
  · rw [NetworkStack.updateClient_clients_self, NetworkStack.updateSocket_clients]
  · rw [NetworkStack.updateClient_clients_of_ne hl, NetworkStack.updateSocket_clients]

/-- The socket of client 101 is found. -/
theorem events_routed_sampleCreated :
    sampleCreated.1.getHandleFromImplementationSocket (some 7) = some 0 :=
  (events_routed (.reachable (reachable_sampleCreated .free)) (by decide) (by decide) (by decide)
    (by decide) rfl (by decide)).1

/-- picoTCP has freed the socket 7 of client 101, which has not yet closed its handle 0, and client
102 has created a socket, for which picoTCP has used the address 7 again. -/
def sampleReused : World :=
  served samplePlatform 102 (.create .inet .stream (some 0)) (obliging (some 7) none) (fun _ w ↦ w)
    (iterate [announce 7 {.fin}] sampleCreated)

theorem reachable_sampleReused (sched : Schedule) :
    Reachable samplePlatform sched (sampleConfig 5) sampleReused := by
  have hw : Reachable samplePlatform sched (sampleConfig 5)
      (iterate [announce 7 {.fin}] sampleCreated) :=
    reachable_iterate (reachable_sampleCreated sched) (by simp [announce])
  have hc : (iterate [announce 7 {.fin}] sampleCreated).1.IsClient 102 := ⟨1, rfl⟩
  exact reachable_served hw (interference_refl sched) hc rfl

/-- The events of client 102's live socket are recorded in the slot of client 101. -/
theorem misrouted_sampleReused :
    ¬ ∀ (pl : Platform) (sched : Schedule) (cfg : Config) (w : World) (i p : ℕ),
      Visited pl sched cfg w → Fresh w.2 → i < w.1.numberOfSockets →
      (w.1.sockets i).status = .inUse → (w.1.sockets i).implementationSocket = some p →
      Alive i p w.2 → w.1.getHandleFromImplementationSocket (some p) = some i := by
  intro hall
  have hfound := hall samplePlatform .atomic (sampleConfig 5) sampleReused 1 7
    (.reachable (reachable_sampleReused .atomic)) (by decide) (by decide) (by decide) rfl
      (by decide)
  have hother : sampleReused.1.getHandleFromImplementationSocket (some 7) = some 0 := rfl
  exact absurd (hother.symm.trans hfound) (by decide)

end NetworkStackPicoTcp
