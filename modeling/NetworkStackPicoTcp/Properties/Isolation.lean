import NetworkStackPicoTcp.Invariants.Effects
import NetworkStackPicoTcp.Properties.HandleTable

/-!
# Clients are isolated from each other

While the stack is not running, or on a handle that is not the caller's, one of the checks in front
of an RPC fails, and it changes nothing. Past the checks, the records of other clients only change
as callbacks and notification passes change them.
-/

namespace NetworkStackPicoTcp

variable {pl : Platform} {sched : Schedule} {cfg : Config} {c : ℤ} {r : RpcCall} {α β : Type}

/-! ### RPCs that are turned away -/

/-- The stack is not running, or the RPC is on a handle that is out of range, free, or another
client's. -/
def TurnedAway (s : NetworkStack) (c : ℤ) (r : RpcCall) : Prop :=
  s.currentState ≠ .running ∨ ∃ handle, r.handle = some handle ∧
    (handle < 0 ∨ (s.numberOfSockets : ℤ) ≤ handle ∨
      (s.sockets handle.toNat).status = .free ∨
      (s.sockets handle.toNat).status = .inUse ∧ (s.sockets handle.toNat).clientId ≠ c)

theorem Accounting.exists_error_of_turnedAway {s : NetworkStack} (ha : Accounting s) (pl : Platform)
    (hc : s.IsClient c) (h : TurnedAway s c r) :
    ∃ e, firstError (r.checks pl c s) = some e := by
  cases hf : firstError (r.checks pl c s) with
  | some e => exact ⟨e, rfl⟩
  | none =>
    exfalso
    obtain hstate | ⟨handle, hr, hbad⟩ := h
    · exact hstate (running_of_checks hf)
    · obtain ⟨i, rfl, hadm⟩ := admitted_of_checks pl r hf hr
      obtain ⟨k, hk⟩ := hc
      have ho := hadm.owns
      have hin := ha.inUse_of_owns ho hk
      have hlt := ho.1
      rw [Int.toNat_natCast, hin] at hbad
      rcases hbad with hbad | hbad | hbad | hbad
      · omega
      · omega
      · simp at hbad
      · exact hbad.2 ho.2

/-- **Clients are isolated.** An RPC of client `c` that is turned away returns an error, and that is
all it does: it issues no call, and the tables and its output parameters are as before. Whatever an
RPC does, and whatever picoTCP answers, the slots of other clients and their records end up as the
callbacks and notification passes during the RPC leave them. -/
theorem clients_isolated {s : NetworkStack} {h : History} (hw : Reachable pl sched cfg (s, h))
    (hc : s.IsClient c) (r : RpcCall) :
    (TurnedAway s c r → ∃ err, err ≠ .success ∧
      (∀ a w', Prog.Outcome (rpcEnv sched c r) (rpc pl c r) (s, .begin c r s :: h) a w' ↔
        a = ⟨err, r.outputs⟩ ∧ w' = (s, .begin c r s :: h)) ∧
      ∀ e w', ¬ Prog.CallAt (rpcEnv sched c r) (rpc pl c r) (s, .begin c r s :: h) e w') ∧
    ∀ a s' h', Prog.Outcome (rpcEnv sched c r) (rpc pl c r) (s, .begin c r s :: h) a (s', h') →
      ∃ new, h' = new ++ .begin c r s :: h ∧
        (∀ j, (s.sockets j).status = .inUse → (s.sockets j).clientId ≠ c →
          s'.sockets j = replaySlot j new (s.sockets j)) ∧
        ∀ l, (s.clients l).clientId ≠ c → s'.clients l = replayClient l new (s.clients l) := by
  obtain ⟨hst, -⟩ := reachable_stepped hw
  refine ⟨fun hbad ↦ ?_, fun a s' h' ho ↦ ?_⟩
  · obtain ⟨err, herr⟩ := hst.accounting.exists_error_of_turnedAway pl hc hbad
    obtain ⟨body, hbody⟩ := rpc_eq_guarded pl c r
    rw [hbody]
    exact ⟨err, firstError_ne_success (checks_ne_success pl c r s) herr,
      outcome_guarded_of_error herr⟩
  · have hrep := replied_of_reachable hw hc ho
    obtain ⟨new, hnew⟩ := hrep.micros.replays (c := c)
    obtain ⟨new', hnew', hwr⟩ := outcome_writesBy pl ho
    obtain rfl : new' = new := List.append_cancel_right (hnew'.symm.trans hnew.entries)
    refine ⟨new', hnew', fun j hst hj ↦ hnew.slot hwr j hst hj, fun l hl ↦ hnew.client hwr l ?_⟩
    exact fun hk ↦ hl hk.clientId

/-- Client 102 cannot close client 101's socket. -/
theorem clients_isolated_sampleCreated :
    ∃ err, err ≠ .success ∧ ∀ a w',
      Prog.Outcome (rpcEnv .free 102 (.close 0)) (rpc samplePlatform 102 (.close 0))
          (sampleCreated.1, .begin 102 (.close 0) sampleCreated.1 :: sampleCreated.2) a w' ↔
        a = ⟨err, {}⟩ ∧ w' = (sampleCreated.1,
          .begin 102 (.close 0) sampleCreated.1 :: sampleCreated.2) := by
  have hbad : TurnedAway sampleCreated.1 102 (.close 0) :=
    Or.inr ⟨0, rfl, Or.inr (Or.inr (Or.inr (by decide)))⟩
  have hc : sampleCreated.1.IsClient 102 := ⟨1, rfl⟩
  obtain ⟨err, hne, hrun, -⟩ :=
    (clients_isolated (reachable_sampleCreated .free) hc (.close 0)).1 hbad
  exact ⟨err, hne, hrun⟩

end NetworkStackPicoTcp
