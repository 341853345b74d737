import NetworkStackPicoTcp.Properties.Configuration

/-!
# `RUNNING` means initialised

Whatever the badges, the configuration and the results of the steps, `run` enters its main loop only
after every check and every step that it looks at, with a well-formed client table; otherwise it
ends in `FATAL_ERROR`, and no socket RPC has done anything. `NetworkStack_init` does not look at the
result of `pico_stack_init`: when that fails and all else succeeds, the stack runs on what it has
left.
-/

namespace NetworkStackPicoTcp

namespace Startup

variable {pl : Platform} {asm : Assembly} {fuel : ℕ} {w : World}

/-! ### The client table -/

/-- The table has one entry for every badge, and nothing has been counted. -/
structure WellFormed (asm : Assembly) (s : NetworkStack) : Prop where
  distinct : ∀ k < s.numberOfClients, ∀ l < s.numberOfClients, (s.clients k).inUse = true →
    (s.clients l).inUse = true → (s.clients k).clientId = (s.clients l).clientId → k = l
  badge : ∀ b ∈ asm.badges, ∃! k, k < s.numberOfClients ∧ (s.clients k).inUse = true ∧
    (s.clients k).clientId = b
  counters : ∀ k < s.numberOfClients, (s.clients k).head = 0 ∧ (s.clients k).tail = 0 ∧
    (s.clients k).currentSocketsInUse = 0

theorem inUse_clientTable_iff {n k : ℕ} : (clientTable asm n k).inUse = true ↔ k < n := by
  unfold clientTable
  split_ifs with hk
  · exact iff_of_true rfl hk
  · exact iff_of_false (by decide) hk

theorem clientId_clientTable {n k : ℕ} (hk : k < n) :
    (clientTable asm n k).clientId = minBadgeId + k := by
  rw [clientTable, if_pos hk]
  rfl

theorem wellFormed_readyTables (hfit : ClientsFit asm) :
    WellFormed asm (readyTables asm .running) := by
  have hsame : ∀ {k l : ℕ}, (clientTable asm asm.badges.length k).inUse = true →
      (clientTable asm asm.badges.length l).inUse = true →
      (clientTable asm asm.badges.length k).clientId =
        (clientTable asm asm.badges.length l).clientId → k = l := by
    intro k l hk hl heq
    rw [clientId_clientTable (inUse_clientTable_iff.1 hk),
      clientId_clientTable (inUse_clientTable_iff.1 hl)] at heq
    omega
  refine ⟨fun k _ l _ hk hl heq ↦ hsame hk hl heq, fun b hb ↦ ?_, fun k _ ↦ ?_⟩
  · obtain ⟨hmin, hmax⟩ := hfit.inRange b hb
    have hlt : (b - minBadgeId).toNat < asm.badges.length := by omega
    have hid : (clientTable asm asm.badges.length (b - minBadgeId).toNat).clientId = b := by
      rw [clientId_clientTable hlt]
      omega
    have hin : (clientTable asm asm.badges.length (b - minBadgeId).toNat).inUse = true :=
      inUse_clientTable_iff.2 hlt
    refine ⟨(b - minBadgeId).toNat, ⟨hlt.trans_le hfit.supported, hin, hid⟩, ?_⟩
    rintro k ⟨-, hk, hkid⟩
    exact hsame hk hin (hkid.trans hid.symm)
  · show (clientTable asm asm.badges.length k).head = 0 ∧ (clientTable asm _ k).tail = 0 ∧
      (clientTable asm _ k).currentSocketsInUse = 0
    unfold clientTable
    split_ifs <;> exact ⟨rfl, rfl, rfl⟩

/-- The client ids differ. -/
theorem nodup_clientIds (asm : Assembly) :
    ((List.range asm.badges.length).map fun i : ℕ ↦ minBadgeId + (i : ℤ)).Nodup :=
  List.nodup_range.map fun i j hij ↦ by simp at hij; omega

theorem minBadgeId_le_clientIds (asm : Assembly) :
    ∀ b ∈ (List.range asm.badges.length).map fun i : ℕ ↦ minBadgeId + (i : ℤ), minBadgeId ≤ b := by
  intro b hb
  obtain ⟨i, -, rfl⟩ := List.mem_map.1 hb
  omega

theorem length_clientIds_le (hfit : ClientsFit asm) :
    ((List.range asm.badges.length).map fun i : ℕ ↦ minBadgeId + (i : ℤ)).length ≤
      maxClientsNum := by
  simpa using hfit.supported

/-- The configuration of the running component that start-up makes from the assembly. -/
def config (asm : Assembly) (hfit : ClientsFit asm) : Config where
  badges := (List.range asm.badges.length).map fun i : ℕ ↦ minBadgeId + i
  quota := asm.socketQuota
  numberOfClients := maxClientsNum
  numberOfSockets := asm.maximumSocketNo
  badges_nodup := nodup_clientIds asm
  minBadgeId_le := minBadgeId_le_clientIds asm
  length_le := length_clientIds_le hfit
  numberOfSockets_pos := asm.maximumSocketNo_pos

/-- **Start-up leaves the tables from which the component runs.** -/
theorem readyTables_running (hfit : ClientsFit asm) :
    readyTables asm .running = (config asm hfit).init := by
  have hclients : clientTable asm asm.badges.length = (config asm hfit).client := by
    funext k
    unfold clientTable Config.client
    split_ifs with hk
    · rw [show (config asm hfit).badges[k]? = some (minBadgeId + (k : ℤ)) by
        simp [config, hk]]
      rfl
    · rw [show (config asm hfit).badges[k]? = none by simp [config]; omega]
  rw [readyTables, hclients]
  rfl

/-! ### The ends of start-up -/

/-- The checks have passed, and every step of the initialisation has succeeded. -/
structure Initialised (asm : Assembly) (L : List InitStep) : Prop where
  clients : ClientsFit asm
  stackInit : ⟨.stackInit, (0 : ℤ)⟩ ∈ L
  macAddress : ⟨.getMacAddress, OsError.success⟩ ∈ L
  deviceInit : ⟨.deviceInit, (0 : ℤ)⟩ ∈ L
  addresses : ∃ devAddr subnetMask gatewayAddr : IpString, ∃ ipAddr netmask gateway : UInt32,
    ⟨.stringToIpv4 devAddr, ((0, ipAddr) : ℤ × UInt32)⟩ ∈ L ∧
    ⟨.stringToIpv4 subnetMask, ((0, netmask) : ℤ × UInt32)⟩ ∈ L ∧
    ⟨.stringToIpv4 gatewayAddr, ((0, gateway) : ℤ × UInt32)⟩ ∈ L ∧
    ⟨.linkAdd ipAddr netmask, (0 : ℤ)⟩ ∈ L ∧ ⟨.routeAdd gateway, (0 : ℤ)⟩ ∈ L

/-- The stack has never been running, and no socket RPC has got past its state check or will. -/
structure Refused (pl : Platform) (w : World) : Prop where
  state : w.1.tables.currentState = .fatalError
  never : ∀ s s', .wrote s s' ∈ w.2 → s'.tables.currentState ≠ .running
  served : ∀ caller r a done, .rpc caller r a done ∈ w.2 → a.err ≠ .success ∧ done = []
  later : ∀ caller r a t done, Prog.Outcome (rpcEnv .free caller r)
    (NetworkStackPicoTcp.rpc pl caller r) (w.1.tables, []) a (t, done) →
      a.err ≠ .success ∧ t = w.1.tables ∧ done = []

/-- If the stack is running it is initialised, and otherwise it has failed for good. -/
def RunningMeansInitialised (pl : Platform) (asm : Assembly) (w : World) : Prop :=
  (w.1.tables.currentState = .running → Initialised asm (steps w.2) ∧ WellFormed asm w.1.tables) ∧
    (w.1.tables.currentState ≠ .running → Refused pl w)

/-- Start-up ends: the stack is running, or `run` has returned. -/
def Ends (pl : Platform) (asm : Assembly) (fuel : ℕ) (w : World) : Prop :=
  (∃ e, Prog.CallAt (env pl asm) (run asm fuel) World.init e w ∧
    w.1.tables.currentState = .running) ∨
  ∃ a, Prog.Outcome (env pl asm) (run asm fuel) World.init a w

theorem ready_of_callAt {e : StartupCall}
    (hat : Prog.CallAt (env pl asm) (run asm fuel) World.init e w)
    (hrun : w.1.tables.currentState = .running) : Ready asm w := by
  have howes := Prog.callAt_of_wp (wp_run pl asm fuel) hat
  unfold Owes at howes
  split_ifs at howes
  · exact howes
  · exact absurd hrun howes

theorem GaveUp.refused (h : GaveUp asm w) : Refused pl w where
  state := h.state
  never _ _ hmem := h.lawful _ hmem
  served _ _ _ _ hmem := h.lawful _ hmem
  later _ _ _ _ _ ho := outcome_rpc_of_not_running (by rw [h.state]; decide) ho

section Completed

variable {r : ℤ} {gate mask dev : Conversion} {L : List InitStep} {K : List Conversion}

theorem Completed.not_stepFailed (h : Completed asm r gate mask dev L K) : ¬ StepFailed L := by
  rintro ⟨x, hx, hstack, hfail⟩
  rw [h.steps_eq] at hx
  simp only [List.mem_cons, List.not_mem_nil, or_false] at hx
  rcases hx with rfl | rfl | rfl | rfl | rfl | rfl | rfl | rfl
  iterate 7 exact absurd hfail (by simp [StartupCall.succeeded])
  exact hstack rfl

theorem Completed.stackInit_iff (h : Completed asm r gate mask dev L K) :
    ⟨.stackInit, (0 : ℤ)⟩ ∈ L ↔ r = 0 := by
  rw [h.steps_eq]
  simp [eq_comm]

theorem Completed.initialised_iff (h : Completed asm r gate mask dev L K) (hfit : ClientsFit asm) :
    Initialised asm L ↔ r = 0 := by
  refine ⟨fun hinit ↦ h.stackInit_iff.1 hinit.stackInit, fun hr ↦ ?_⟩
  refine ⟨hfit, h.stackInit_iff.2 hr, ?_, ?_, dev.text, mask.text, gate.text, dev.value,
    mask.value, gate.value, ?_⟩
  all_goals
    rw [h.steps_eq]
    simp

end Completed

/-- **`RUNNING` means initialised** exactly when `pico_stack_init` has succeeded, or a check or
another step has failed. -/
theorem running_means_initialised_iff (hend : Ends pl asm fuel w) :
    RunningMeansInitialised pl asm w ↔
      ⟨.stackInit, (0 : ℤ)⟩ ∈ steps w.2 ∨ ¬ ClientsFit asm ∨ StepFailed (steps w.2) := by
  obtain ⟨e, hat, hrun⟩ | ⟨a, hout⟩ := hend
  · obtain ⟨htables, hfit, -, r, gate, mask, dev, hdone⟩ := ready_of_callAt hat hrun
    have hwell : WellFormed asm w.1.tables := htables ▸ wellFormed_readyTables hfit
    have hright : (⟨.stackInit, (0 : ℤ)⟩ ∈ steps w.2 ∨ ¬ ClientsFit asm ∨ StepFailed (steps w.2)) ↔
        r = 0 := by
      rw [hdone.stackInit_iff]
      simp [hfit, hdone.not_stepFailed]
    rw [hright, ← hdone.initialised_iff hfit]
    exact ⟨fun h ↦ (h.1 hrun).1, fun h ↦ ⟨fun _ ↦ ⟨h, hwell⟩, fun hne ↦ absurd hrun hne⟩⟩
  · obtain ⟨-, hgave⟩ := Prog.outcome_of_wp (wp_run pl asm fuel) hout
    refine iff_of_true ⟨fun hrun ↦ ?_, fun _ ↦ hgave.refused⟩ (Or.inr hgave.cause)
    rw [hgave.state] at hrun
    exact StackState.noConfusion hrun

/-- With `pico_stack_init` failed, the stack runs nevertheless. -/
theorem not_running_means_initialised :
    ∃ w, Ends samplePlatform sampleAssembly 1 w ∧ w.1.tables.currentState = .running ∧
      ⟨.stackInit, (-1 : ℤ)⟩ ∈ steps w.2 ∧
      ¬ RunningMeansInitialised samplePlatform sampleAssembly w := by
  have hstart : start sampleAssembly (smooth (-1)) sampleQuietCalls =
      some (.mainLoop, started sampleAssembly (smooth (-1)) sampleQuietCalls) := rfl
  have hat := callAt_of_start samplePlatform hstart
  have hsteps : (steps (started sampleAssembly (smooth (-1)) sampleQuietCalls).2).getLast? =
      some ⟨.stackInit, (-1 : ℤ)⟩ := rfl
  refine ⟨_, Or.inl ⟨_, hat, rfl⟩, rfl, List.mem_of_getLast? hsteps, fun h ↦ ?_⟩
  have hinit : (⟨.stackInit, (0 : ℤ)⟩ : InitStep) ∈ [⟨.routeAdd 11, (0 : ℤ)⟩,
      ⟨.linkAdd 10 12, (0 : ℤ)⟩, ⟨.stringToIpv4 [11], ((0, 11) : ℤ × UInt32)⟩,
      ⟨.stringToIpv4 [12], ((0, 12) : ℤ × UInt32)⟩, ⟨.stringToIpv4 [10], ((0, 10) : ℤ × UInt32)⟩,
      ⟨.deviceInit, (0 : ℤ)⟩, ⟨.getMacAddress, OsError.success⟩, ⟨.stackInit, (-1 : ℤ)⟩] :=
    (h.1 rfl).1.stackInit
  simp at hinit

/-- With `pico_stack_init` done, it is initialised. -/
theorem running_means_initialised_iff_smooth :
    RunningMeansInitialised samplePlatform sampleAssembly
      (started sampleAssembly (smooth 0) sampleQuietCalls) := by
  have hstart : start sampleAssembly (smooth 0) sampleQuietCalls =
      some (.mainLoop, started sampleAssembly (smooth 0) sampleQuietCalls) := rfl
  have hsteps : (steps (started sampleAssembly (smooth 0) sampleQuietCalls).2).getLast? =
      some ⟨.stackInit, (0 : ℤ)⟩ := rfl
  exact (running_means_initialised_iff (Or.inl ⟨_, callAt_of_start samplePlatform hstart, rfl⟩)).2
    (Or.inl (List.mem_of_getLast? hsteps))

end Startup

end NetworkStackPicoTcp
