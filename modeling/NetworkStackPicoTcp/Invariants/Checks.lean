import NetworkStackPicoTcp.Invariants.Walk

/-!
# Checks

Every RPC is a chain of checks in front of a body (`rpc_eq_guarded`). A failing check makes it
return an error and do nothing else, and past the checks the operation is admitted to the slot of
its handle (`admitted_of_checks`).
-/

namespace NetworkStackPicoTcp

open Prog (wp)

variable {pl : Platform} {sched : Schedule} {c : ℤ} {r : RpcCall} {w : World} {α β : Type}

/-! ### Single checks -/

/-- A checked RPC returns early with an error, or runs its body in tables that pass its checks. -/
theorem wp_guarded {C : Call → World → Prop} {checks : NetworkStack → List (Option OsError)}
    {exit : OsError → α} {body : Rpc α} {Q : α → World → Prop}
    (hexit : ∀ e, firstError (checks w.1) = some e → Q (exit e) w)
    (h : firstError (checks w.1) = none → wp (rpcEnv sched c r) C body Q w) :
    wp (rpcEnv sched c r) C (guarded checks exit body) Q w := by
  simp only [guarded, Prog.wp_bind, Prog.wp_get]
  split
  · exact hexit _ ‹_›
  · exact h ‹_›

/-- A checked RPC whose checks pass is its body. -/
theorem wp_guarded_of_pass {C : Call → World → Prop} {checks : NetworkStack → List (Option OsError)}
    {exit : OsError → α} {body : Rpc α} {Q : α → World → Prop}
    (h : firstError (checks w.1) = none) :
    wp (rpcEnv sched c r) C (guarded checks exit body) Q w ↔ wp (rpcEnv sched c r) C body Q w := by
  simp only [guarded, Prog.wp_bind, Prog.wp_get, h]

theorem owns_of_checks {s : NetworkStack} {handle : ℤ} (hs : checkSocket s handle = none)
    (hc : checkClientId s handle c = none) : ∃ i : ℕ, handle = i ∧ s.Owns c i := by
  obtain ⟨i, hi⟩ : ∃ i, s.getSocketFromHandle handle = some i := by
    by_contra hne
    have hnone := Option.eq_none_iff_forall_ne_some.2 (not_exists.1 hne)
    simp [checkSocket, hnone] at hs
  obtain ⟨rfl, hlt⟩ := NetworkStack.getSocketFromHandle_eq_some_iff.1 hi
  refine ⟨i, rfl, hlt, ?_⟩
  by_contra hne
  simp [checkClientId, hne] at hc

theorem socketType_of_check {s : NetworkStack} {i : ℕ} {type : SocketType}
    (h : checkSocketType s i type = none) : (s.sockets i).socketType = type := by
  by_contra hne
  simp [checkSocketType, hne] at h

theorem connected_of_check {s : NetworkStack} {i : ℕ} (h : checkSocketConnected s i = none) :
    (s.sockets i).connected = true := by
  by_contra hne
  simp [checkSocketConnected, hne] at h

theorem ptr_of_checks (pl : Platform) (ptr : Option β) {checks : List (Option OsError)}
    (h : firstError checks = none) (hmem : checkPtr pl ptr ∈ checks) : ∃ x, ptr = some x := by
  have hcheck : checkPtr pl ptr = none := List.findSome?_eq_none_iff.1 h _ hmem
  cases ptr with
  | none => exact absurd hcheck (by simp [checkPtr])
  | some x => exact ⟨x, rfl⟩

/-! Every failing check returns an error, never success. -/

section Checks

variable {s : NetworkStack} {handle : ℤ} {type : SocketType}

@[simp] theorem checkIsRunning_ne_success : checkIsRunning s ≠ some .success := by
  unfold checkIsRunning
  split_ifs <;> simp

@[simp] theorem checkSocket_ne_success : checkSocket s handle ≠ some .success := by
  unfold checkSocket
  split_ifs <;> simp

@[simp] theorem checkSocketType_ne_success : checkSocketType s handle type ≠ some .success := by
  unfold checkSocketType
  split_ifs <;> simp

@[simp] theorem checkSocketConnected_ne_success :
    checkSocketConnected s handle ≠ some .success := by
  unfold checkSocketConnected
  split_ifs <;> simp

@[simp] theorem checkClientId_ne_success : checkClientId s handle c ≠ some .success := by
  unfold checkClientId
  split_ifs <;> simp

@[simp] theorem checkPtr_ne_success {ptr : Option β} : checkPtr pl ptr ≠ some .success := by
  unfold checkPtr
  split_ifs
  · simp [pl.nullPtrError_ne]
  · simp

@[simp] theorem checkNulTerminated_ne_success {addr : Option OsSocketAddr} :
    addr.bind (checkNulTerminated pl) ≠ some .success := by
  cases addr with
  | none => simp
  | some addr =>
    simp only [Option.bind_some, checkNulTerminated]
    split_ifs
    · simp [pl.unterminatedError_ne]
    · simp

theorem firstError_ne_success {cs : List (Option OsError)} (h : ∀ x ∈ cs, x ≠ some .success)
    {e : OsError} (he : firstError cs = some e) : e ≠ .success := by
  rintro rfl
  obtain ⟨x, hx, hid⟩ := List.exists_of_findSome?_eq_some he
  exact h x hx hid

end Checks

/-! ### The checks in front of an RPC -/

/-- The chain of checks of each RPC, in the order of the source. -/
def RpcCall.checks (pl : Platform) (c : ℤ) : RpcCall → NetworkStack → List (Option OsError)
  | .create _ _ pHandle, s => [checkIsRunning s, checkPtr pl pHandle]
  | .close h, s => [checkIsRunning s, checkSocket s h, checkClientId s h c]
  | .connect h addr, s => [checkIsRunning s, checkSocket s h, checkSocketType s h .stream,
      checkClientId s h c, checkPtr pl addr, addr.bind (checkNulTerminated pl)]
  | .bind h addr, s => [checkIsRunning s, checkSocket s h, checkClientId s h c, checkPtr pl addr,
      addr.bind (checkNulTerminated pl)]
  | .listen h _, s => [checkIsRunning s, checkSocket s h, checkSocketType s h .stream,
      checkClientId s h c]
  | .accept h pClientHandle srcAddr, s => [checkIsRunning s, checkSocket s h,
      checkSocketType s h .stream, checkClientId s h c, checkPtr pl pClientHandle,
      checkPtr pl srcAddr]
  | .write h pLen, s => [checkIsRunning s, checkSocket s h, checkSocketType s h .stream,
      checkSocketConnected s h, checkClientId s h c, checkPtr pl pLen]
  | .read h pLen, s => [checkIsRunning s, checkSocket s h, checkSocketType s h .stream,
      checkSocketConnected s h, checkClientId s h c, checkPtr pl pLen]
  | .sendto h pLen addr, s => [checkIsRunning s, checkSocket s h, checkSocketType s h .dgram,
      checkClientId s h c, checkPtr pl pLen, checkPtr pl addr]
  | .recvfrom h pLen addr, s => [checkIsRunning s, checkSocket s h, checkSocketType s h .dgram,
      checkClientId s h c, checkPtr pl pLen, checkPtr pl addr]
  | .getPendingEvents size pNumberOfEvents, s => [checkIsRunning s, checkPtr pl pNumberOfEvents,
      if size < pl.sizeofEvt then some .bufferTooSmall else none]

theorem map_guarded {checks : NetworkStack → List (Option OsError)} {exit : OsError → α}
    {body : Rpc α} {f : α → β} :
    f <$> guarded checks exit body = guarded checks (fun e ↦ f (exit e)) (f <$> body) := by
  refine congrArg Prog.read (funext fun s ↦ ?_)
  dsimp only [Prog.bind]
  cases firstError (checks s) <;> rfl

/-- **Every RPC is checks before a body**, and an RPC that returns early leaves its output
parameters as they were. -/
theorem rpc_eq_guarded (pl : Platform) (c : ℤ) (r : RpcCall) :
    ∃ body, rpc pl c r = guarded (r.checks pl c) (fun e ↦ ⟨e, r.outputs⟩) body := by
  cases r <;> exact ⟨_, map_guarded⟩

/-- An RPC whose checks fail has one run: it returns the error and does nothing. -/
theorem outcome_guarded_of_error {V : Env NetworkStack Call.Answer History}
    {checks : NetworkStack → List (Option OsError)} {exit : OsError → α} {body : Rpc α} {w : World}
    {e : OsError} (he : firstError (checks w.1) = some e) :
    (∀ a w', Prog.Outcome V (guarded checks exit body) w a w' ↔ a = exit e ∧ w' = w) ∧
      ∀ e' w', ¬ Prog.CallAt V (guarded checks exit body) w e' w' := by
  refine ⟨fun a w' ↦ ?_, fun e' w' h ↦ ?_⟩
  · simp only [guarded, bind, Prog.get, Prog.bind, Prog.Outcome, he]
    rfl
  · simp only [guarded, bind, Prog.get, Prog.bind, Prog.CallAt, he] at h
    exact h

/-- A failing check is an error. -/
theorem checks_ne_success (pl : Platform) (c : ℤ) (r : RpcCall) (s : NetworkStack) :
    ∀ x ∈ r.checks pl c s, x ≠ some .success := by
  cases r <;> simp [RpcCall.checks]

/-- A handle that passes `CHECK_SOCKET` and `CHECK_CLIENT_ID` is an in-use slot of the caller. -/
theorem handle_of_checks {s : NetworkStack} {handle : ℤ} (h : firstError (r.checks pl c s) = none)
    (hr : r.handle = some handle) :
    checkIsRunning s = none ∧ checkSocket s handle = none ∧ checkClientId s handle c = none := by
  cases r <;> simp only [RpcCall.handle, Option.some.injEq, reduceCtorEq] at hr <;>
    simp only [RpcCall.checks, firstError_cons_eq_none_iff, hr] at h <;> simp only [h, and_self]

theorem running_of_checks {s : NetworkStack} (h : firstError (r.checks pl c s) = none) :
    s.currentState = .running := by
  have hrun : checkIsRunning s = none := by
    cases r <;> simp only [RpcCall.checks, firstError_cons_eq_none_iff] at h <;> exact h.1
  by_contra hne
  unfold checkIsRunning at hrun
  rw [if_neg hne] at hrun
  split_ifs at hrun

/-- Past its checks, an RPC on a handle is admitted to a slot. -/
theorem admitted_of_checks (pl : Platform) (r : RpcCall) {s : NetworkStack} {handle : ℤ}
    (h : firstError (r.checks pl c s) = none) (hr : r.handle = some handle) :
    ∃ i : ℕ, handle = i ∧ Admitted c r s i := by
  obtain ⟨-, hs, hid⟩ := handle_of_checks h hr
  obtain ⟨i, rfl, ho⟩ := owns_of_checks hs hid
  refine ⟨i, rfl, hr, ho, fun t ht ↦ ?_, fun hconn ↦ ?_⟩
  · refine socketType_of_check ?_
    cases r <;> simp only [RpcCall.requiredType, Option.some.injEq, reduceCtorEq] at ht <;>
      simp only [RpcCall.handle, Option.some.injEq] at hr <;>
      simp only [RpcCall.checks, firstError_cons_eq_none_iff, hr, ht] at h <;> simp only [h]
  · refine connected_of_check ?_
    cases r <;> simp only [RpcCall.needsConnection, Bool.false_eq_true] at hconn <;>
      simp only [RpcCall.handle, Option.some.injEq] at hr <;>
      simp only [RpcCall.checks, firstError_cons_eq_none_iff, hr] at h <;> simp only [h]

end NetworkStackPicoTcp
