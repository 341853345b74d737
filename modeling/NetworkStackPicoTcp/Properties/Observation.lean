import NetworkStackPicoTcp.Properties.Isolation

/-!
# What a client can learn about foreign handles

An RPC on a handle that is not the caller's is turned away by one of its checks, and which check
that is decides the code. `close` and `bind` look at the owner of a slot before anything else in it,
so they always answer alike. The other operations check the type of the socket before its owner, and
`write` and `read` also whether it is connected, so their code tells about a record that is not the
caller's (`foreign_codes_agree_iff`).
-/

namespace NetworkStackPicoTcp

variable {pl : Platform} {sched : Schedule} {cfg : Config} {c : ℤ} {r : RpcCall}
  {s s' : NetworkStack} {h h' : History} {handle : ℤ}

/-- Two tables agree on everything that belongs to client `c`, and on the state of the stack. -/
structure AgreeFor (c : ℤ) (s s' : NetworkStack) : Prop where
  currentState : s'.currentState = s.currentState
  client : ∀ k, s.IsClientAt c k → s'.clients k = s.clients k
  owns : ∀ i, s'.Owns c i ↔ s.Owns c i
  socket : ∀ i, s.Owns c i → s'.sockets i = s.sockets i

/-- The handle is out of range, or the client does not own its slot. -/
def Foreign (s : NetworkStack) (c : ℤ) (handle : ℤ) : Prop :=
  ∀ i : ℕ, handle = i → ¬ s.Owns c i

/-- The two tables agree on what the RPC looks at before the owner: the stack is not running, or the
handle is out of range, or the slots both have or both lack the type that the RPC asks for, and if
they have it and the RPC asks for a connection, then both are connected or none is. -/
def RpcCall.Indifferent (r : RpcCall) (s s' : NetworkStack) (handle : ℤ) : Prop :=
  s.currentState = .running → 0 ≤ handle → handle < s.numberOfSockets →
    ∀ t, r.requiredType = some t →
      ((s.sockets handle.toNat).socketType = t ↔ (s'.sockets handle.toNat).socketType = t) ∧
        ((s.sockets handle.toNat).socketType = t → r.needsConnection = true →
          (s.sockets handle.toNat).connected = (s'.sockets handle.toNat).connected)

/-! ### The code for a foreign handle -/

theorem checkSocket_eq_none_iff :
    checkSocket s handle = none ↔ 0 ≤ handle ∧ handle < s.numberOfSockets := by
  unfold checkSocket NetworkStack.getSocketFromHandle
  by_cases hout : handle < 0 ∨ (s.numberOfSockets : ℤ) ≤ handle
  · simp only [if_pos hout, if_true, reduceCtorEq, false_iff]
    omega
  · simp only [if_neg hout, reduceCtorEq, if_false, true_iff]
    omega

theorem Foreign.checkClientId (hf : Foreign s c handle) (hs : checkSocket s handle = none) :
    checkClientId s handle c = some .invalidHandle := by
  obtain ⟨hle, hlt⟩ := checkSocket_eq_none_iff.1 hs
  refine if_pos fun howner ↦ hf handle.toNat (by omega) ⟨by omega, howner⟩

/-- The checks that an RPC on a foreign handle can fail, in their order. The last one always
fails. -/
def foreignChecks (r : RpcCall) (s : NetworkStack) (handle : ℤ) : List (Option OsError) :=
  [checkIsRunning s, checkSocket s handle, r.requiredType.bind (checkSocketType s handle),
    if r.needsConnection then checkSocketConnected s handle else none, some .invalidHandle]

theorem firstError_cons {x : Option OsError} {cs : List (Option OsError)} :
    firstError (x :: cs) = x.or (firstError cs) := by
  cases x <;> rfl

/-- No other check decides about an RPC on a foreign handle. -/
theorem firstError_checks_of_foreign (pl : Platform) (hr : r.handle = some handle)
    (hf : Foreign s c handle) :
    firstError (r.checks pl c s) = firstError (foreignChecks r s handle) := by
  have hskip : ∀ cs cs' : List (Option OsError),
      (checkSocket s handle = none → firstError cs = firstError cs') →
      firstError (checkIsRunning s :: checkSocket s handle :: cs) =
        firstError (checkIsRunning s :: checkSocket s handle :: cs') := by
    intro cs cs' hcs
    cases checkIsRunning s with
    | some e => rfl
    | none =>
      cases hs : checkSocket s handle with
      | some e => rfl
      | none => exact hcs hs
  cases r <;> simp only [RpcCall.handle, Option.some.injEq, reduceCtorEq] at hr <;> subst hr <;>
    refine hskip _ _ fun hs ↦ ?_ <;>
    simp only [RpcCall.requiredType, RpcCall.needsConnection, hf.checkClientId hs, Option.bind_some,
      Option.bind_none, if_true, Bool.false_eq_true, if_false, firstError_cons, firstError_nil,
      Option.some_or, Option.none_or]

theorem checkIsRunning_eq_none_iff : checkIsRunning s = none ↔ s.currentState = .running := by
  unfold checkIsRunning
  split_ifs with hrun <;> simp [hrun]

/-- Past the first two checks, the code tells the type, and then whether the socket is connected. -/
theorem firstError_foreignChecks (hrun : s.currentState = .running)
    (hs : checkSocket s handle = none) {t : SocketType} (ht : r.requiredType = some t) :
    firstError (foreignChecks r s handle) =
      if (s.sockets handle.toNat).socketType = t then
        if r.needsConnection = true ∧ (s.sockets handle.toNat).connected = false then
          some .networkConnNone
        else some .invalidHandle
      else some .networkProto := by
  rw [foreignChecks, checkIsRunning_eq_none_iff.2 hrun, hs, ht]
  simp only [firstError_cons, firstError_nil, Option.bind_some, checkSocketType,
    checkSocketConnected, ne_eq, ite_not]
  split_ifs with htype hneeds hconn hboth hboth <;> simp_all

theorem firstError_foreignChecks_eq_iff (hstate : s'.currentState = s.currentState)
    (hn : s'.numberOfSockets = s.numberOfSockets) :
    firstError (foreignChecks r s handle) = firstError (foreignChecks r s' handle) ↔
      r.Indifferent s s' handle := by
  have hrun' : checkIsRunning s' = checkIsRunning s := by
    rw [checkIsRunning, checkIsRunning, hstate]
  have hs' : checkSocket s' handle = checkSocket s handle := by
    rw [checkSocket, checkSocket, NetworkStack.getSocketFromHandle,
      NetworkStack.getSocketFromHandle, hn]
  by_cases hrun : s.currentState = .running
  swap
  · obtain ⟨e, he⟩ := Option.ne_none_iff_exists'.1 (mt checkIsRunning_eq_none_iff.1 hrun)
    simp only [foreignChecks, hrun', he, firstError_cons_some, true_iff]
    exact fun h ↦ absurd h hrun
  by_cases hs : checkSocket s handle = none
  swap
  · obtain ⟨e, he⟩ := Option.ne_none_iff_exists'.1 hs
    simp only [foreignChecks, hrun', hs', checkIsRunning_eq_none_iff.2 hrun, he,
      firstError_cons_none, firstError_cons_some, true_iff]
    exact fun _ hle hlt ↦ absurd (checkSocket_eq_none_iff.2 ⟨hle, hlt⟩) hs
  obtain ⟨hle, hlt⟩ := checkSocket_eq_none_iff.1 hs
  have hind : r.Indifferent s s' handle ↔ ∀ t, r.requiredType = some t → _ :=
    ⟨fun h ↦ h hrun hle hlt, fun h _ _ _ ↦ h⟩
  rw [hind]
  cases ht : r.requiredType with
  | none =>
    have hneeds : r.needsConnection = false := by
      cases r <;> first | rfl | exact absurd ht (by simp [RpcCall.requiredType])
    simp [foreignChecks, hrun', hs', hs, checkIsRunning_eq_none_iff.2 hrun, ht, hneeds]
  | some t =>
    rw [firstError_foreignChecks hrun hs ht,
      firstError_foreignChecks (hstate.trans hrun) (hs'.trans hs) ht]
    simp only [Option.some.injEq, forall_eq']
    by_cases h₁ : (s.sockets handle.toNat).socketType = t <;>
      by_cases h₂ : (s'.sockets handle.toNat).socketType = t <;>
      cases hneeds : r.needsConnection <;>
      cases h₃ : (s.sockets handle.toNat).connected <;>
      cases h₄ : (s'.sockets handle.toNat).connected <;> simp [h₁, h₂]

/-! ### Two runs -/

/-- The RPC returns this code, whatever picoTCP and the main loop do. -/
def AnswersWith (pl : Platform) (sched : Schedule) (c : ℤ) (r : RpcCall) (w : World)
    (err : OsError) : Prop :=
  (∃ a w', Prog.Outcome (rpcEnv sched c r) (rpc pl c r) (w.1, .begin c r w.1 :: w.2) a w') ∧
    ∀ a w', Prog.Outcome (rpcEnv sched c r) (rpc pl c r) (w.1, .begin c r w.1 :: w.2) a w' →
      a.err = err

theorem answersWith_of_firstError {w : World} {err : OsError}
    (he : firstError (r.checks pl c w.1) = some err) : AnswersWith pl sched c r w err := by
  obtain ⟨body, hbody⟩ := rpc_eq_guarded pl c r
  have hrun : ∀ a w', Prog.Outcome (rpcEnv sched c r) (rpc pl c r)
      (w.1, .begin c r w.1 :: w.2) a w' ↔
        a = ⟨err, r.outputs⟩ ∧ w' = (w.1, .begin c r w.1 :: w.2) := by
    have hstart : firstError (r.checks pl c (w.1, Entry.begin c r w.1 :: w.2).1) = some err := he
    rw [hbody]
    exact (outcome_guarded_of_error hstart).1
  refine ⟨⟨_, _, (hrun _ _).2 ⟨rfl, rfl⟩⟩, fun a w' ho ↦ ?_⟩
  rw [((hrun a w').1 ho).1]

/-- **What a code tells about a foreign handle.** In two reachable states that agree on everything
that belongs to client `c`, an RPC of `c` on a handle that is not its own is always answered with
one code in each; the two codes are the same if and only if the states agree on the type of the
foreign socket, where the RPC asks for one, and on whether it is connected, where it asks for
that. -/
theorem foreign_codes_agree_iff (hw : Reachable pl sched cfg (s, h))
    (hw' : Reachable pl sched cfg (s', h')) (hagree : AgreeFor c s s')
    (hr : r.handle = some handle) (hf : Foreign s c handle) :
    ∃ err err', AnswersWith pl sched c r (s, h) err ∧ AnswersWith pl sched c r (s', h') err' ∧
      (err = err' ↔ r.Indifferent s s' handle) := by
  have hsome : ∀ t : NetworkStack, ∃ e, firstError (foreignChecks r t handle) = some e := by
    intro t
    refine Option.ne_none_iff_exists'.1 fun hnone ↦ ?_
    have hlast := List.findSome?_eq_none_iff.1 hnone (some .invalidHandle) (by simp [foreignChecks])
    exact absurd hlast (by simp)
  have hf' : Foreign s' c handle := fun i hi ho ↦ hf i hi ((hagree.owns i).1 ho)
  have hn : s'.numberOfSockets = s.numberOfSockets := by
    have h₁ := (reachable_stepped hw).1.sameSetup.numberOfSockets
    have h₂ := (reachable_stepped hw').1.sameSetup.numberOfSockets
    exact h₂.trans h₁.symm
  obtain ⟨err, herr⟩ := hsome s
  obtain ⟨err', herr'⟩ := hsome s'
  refine ⟨err, err', ?_, ?_, ?_⟩
  · exact answersWith_of_firstError ((firstError_checks_of_foreign pl hr hf).trans herr)
  · exact answersWith_of_firstError ((firstError_checks_of_foreign pl hr hf').trans herr')
  · rw [← firstError_foreignChecks_eq_iff hagree.currentState hn, herr, herr', Option.some.injEq]

theorem not_owns_sampleCreated (i : ℕ) : ¬ sampleCreated.1.Owns 102 i := by
  have hall : ∀ i < 6, (sampleCreated.1.sockets i).clientId ≠ 102 := by decide
  exact fun ho ↦ hall i ho.1 ho.2

/-- No slot is client 102's, neither at the start nor when client 101 has created a socket. -/
theorem agreeFor_sampleCreated : AgreeFor 102 (sampleConfig 5).init sampleCreated.1 ∧
    Foreign (sampleConfig 5).init 102 0 := by
  have hnone : ∀ i, ¬ (sampleConfig 5).init.Owns 102 i := fun i ho ↦
    absurd ho.2 (by simp [Config.init, SocketResources.zero])
  refine ⟨⟨rfl, fun k hk ↦ ?_, fun i ↦ ?_, fun i hi ↦ absurd hi (hnone i)⟩, fun i _ ↦ hnone i⟩
  · have hone : (sampleConfig 5).init.IsClientAt 102 1 := rfl
    obtain rfl := Option.some.inj (hone.symm.trans hk)
    decide
  · exact iff_of_false (not_owns_sampleCreated i) (hnone i)

/-- Client 102 closes handle 0, once while it is free and once while it is client 101's. -/
theorem foreign_codes_agree_iff_sampleCreated :
    ∃ err, AnswersWith samplePlatform .free 102 (.close 0) ((sampleConfig 5).init, []) err ∧
      AnswersWith samplePlatform .free 102 (.close 0) sampleCreated err := by
  obtain ⟨err, err', h₁, h₂, hiff⟩ := foreign_codes_agree_iff (r := .close 0) .refl
    (reachable_sampleCreated .free) agreeFor_sampleCreated.1 rfl agreeFor_sampleCreated.2
  have hind : RpcCall.Indifferent (.close 0) (sampleConfig 5).init sampleCreated.1 0 :=
    fun _ _ _ t ht ↦ absurd ht (by simp [RpcCall.requiredType])
  obtain rfl := hiff.2 hind
  exact ⟨err, h₁, h₂⟩

/-- Whether client 101's socket is connected is nothing of client 102's. -/
theorem agreeFor_sampleConnected : AgreeFor 102 sampleCreated.1 sampleConnected.1 ∧
    Foreign sampleCreated.1 102 0 := by
  have hnone : ∀ i, ¬ sampleConnected.1.Owns 102 i := by
    have hall : ∀ i < 6, (sampleConnected.1.sockets i).clientId ≠ 102 := by decide
    exact fun i ho ↦ hall i ho.1 ho.2
  refine ⟨⟨rfl, fun k hk ↦ ?_, fun i ↦ ?_, fun i hi ↦ absurd hi (not_owns_sampleCreated i)⟩,
    fun i _ ↦ not_owns_sampleCreated i⟩
  · have hone : sampleCreated.1.IsClientAt 102 1 := rfl
    obtain rfl := Option.some.inj (hone.symm.trans hk)
    decide
  · exact iff_of_false (hnone i) (not_owns_sampleCreated i)

/-- If it writes to handle 0, it learns whether client 101's stream socket is connected. -/
theorem foreign_codes_differ_sampleConnected :
    ¬ ∀ (pl : Platform) (sched : Schedule) (cfg : Config) (w w' : World) (c : ℤ) (r : RpcCall)
      (handle : ℤ) (err err' : OsError), Reachable pl sched cfg w → Reachable pl sched cfg w' →
      AgreeFor c w.1 w'.1 → w.1.IsClient c → r.handle = some handle → Foreign w.1 c handle →
      AnswersWith pl sched c r w err → AnswersWith pl sched c r w' err' → err = err' := by
  intro hall
  have hc : sampleCreated.1.IsClient 102 := ⟨1, rfl⟩
  have heq := hall samplePlatform .free (sampleConfig 5) sampleCreated sampleConnected 102
    (.write 0 (some 1)) 0 .networkConnNone .invalidHandle (reachable_sampleCreated .free)
    (reachable_sampleConnected .free) agreeFor_sampleConnected.1 hc rfl
    agreeFor_sampleConnected.2 (answersWith_of_firstError (by decide))
    (answersWith_of_firstError (by decide))
  exact absurd heq (by decide)

end NetworkStackPicoTcp
