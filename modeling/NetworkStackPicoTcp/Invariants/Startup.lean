import NetworkStackPicoTcp.Invariants.Checks
import NetworkStackPicoTcp.Model.Startup

/-!
# What start-up has done when it ends

Start-up ends in one of two ways: `run` enters its main loop, or it gives up and returns. `wp_run`
says what holds at either end, for all results of the calls and all calls of clients meanwhile.

The proof follows the code with one assertion, `Stage`: apart from the configuration, the static
data is known, and so are the initialisation steps and the conversions of addresses in the history.
A client cannot change any of this (`ClientStep.stage`): a socket RPC is turned away while the stack
is not running, and `configIpAddr` only writes the configuration.
-/

namespace NetworkStackPicoTcp

namespace Startup

open Prog (wp)

variable {pl : Platform} {asm : Assembly} {w w' : World} {s₀ : StartupState}

/-! ### Reading the history -/

/-- The configurations that `configIpAddr` has accepted, newest first. The newest one is what the
shared record holds. -/
def accepted : History → List AddressConfig
  | [] => []
  | .config c err _ :: h => if err = .success then c :: accepted h else accepted h
  | _ :: h => accepted h

/-- A conversion of an address. -/
structure Conversion where
  /-- The configurations accepted until then, newest first. -/
  source : List AddressConfig
  text : IpString
  value : UInt32
  deriving DecidableEq

/-- What a call adds to the conversions. -/
def recordConversion : (e : StartupCall) → e.Answer → List AddressConfig → List Conversion →
    List Conversion
  | .stringToIpv4 text, r, source, K => ⟨source, text, r.2⟩ :: K
  | _, _, _, K => K

/-- The conversions of addresses, newest first. -/
def conversions : History → List Conversion
  | [] => []
  | .answer e b :: h => recordConversion e b (accepted h) (conversions h)
  | _ :: h => conversions h

/-- A step of the initialisation, with its result. -/
abbrev InitStep := Σ e : StartupCall, e.Answer

/-- What a call adds to the steps of the initialisation. -/
def recordStep : (e : StartupCall) → e.Answer → List InitStep → List InitStep
  | .yield, _, L | .preempt, _, L => L
  | e, b, L => ⟨e, b⟩ :: L

/-- The steps of the initialisation, newest first. -/
def steps : History → List InitStep
  | [] => []
  | .answer e b :: h => recordStep e b (steps h)
  | _ :: h => steps h

/-- Entries of a history in which the stack has not been running: no write has set the state, every
`configIpAddr` has returned what it returns in its state, and every socket RPC has failed without
doing anything. -/
def Entry.Lawful (asm : Assembly) : Entry → Prop
  | .wrote _ s' => s'.tables.currentState ≠ .running
  | .answer _ _ => True
  | .config c err s => err = (configIpAddr asm c s).1
  | .rpc _ _ a done => a.err ≠ .success ∧ done = []

/-- The pointer that `pIpAddrConfig` becomes. -/
def configPtr (asm : Assembly) : ConfigPtr :=
  match asm.hardcoded with
  | none => .shared
  | some c => .const c

/-- The configuration behind the pointer, from the configurations accepted so far. -/
def current (asm : Assembly) (source : List AddressConfig) : Option AddressConfig :=
  match asm.hardcoded with
  | none => source.head?
  | some c => some c

/-- There is a configuration, and it is the current one. -/
structure Loaded (asm : Assembly) (w : World) : Prop where
  ptr : w.1.pIpAddrConfig = some (configPtr asm)
  contents : current asm (accepted w.2) = some (w.1.deref (configPtr asm))

/-- Up to the configuration the static data is `s₀`; the steps and the conversions so far are `L`
and `K`. -/
structure Stage (asm : Assembly) (s₀ : StartupState) (L : List InitStep) (K : List Conversion)
    (w : World) : Prop where
  state : ∃ c p, w.1 = { s₀ with ipAddrConfig := c, pIpAddrConfig := p }
  ptr : w.1.pIpAddrConfig = none ∨ Loaded asm w
  lawful : ∀ x ∈ w.2, x.Lawful asm
  steps_eq : steps w.2 = L
  conversions_eq : conversions w.2 = K

/-! ### Clients -/

section Clients

variable {L : List InitStep} {K : List Conversion}

theorem Stage.tables (h : Stage asm s₀ L K w) : w.1.tables = s₀.tables := by
  obtain ⟨c, p, hw⟩ := h.state
  rw [hw]

/-- A socket RPC that finds the stack not running is turned away. -/
theorem outcome_rpc_of_not_running {s t : NetworkStack} {caller : ℤ} {r : RpcCall} {a : Reply}
    {done : NetworkStackPicoTcp.History} {sched : Schedule} (hs : s.currentState ≠ .running)
    (ho : Prog.Outcome (rpcEnv sched caller r) (NetworkStackPicoTcp.rpc pl caller r) (s, []) a
      (t, done)) : a.err ≠ .success ∧ t = s ∧ done = [] := by
  cases hf : firstError (r.checks pl caller s) with
  | none => exact absurd (running_of_checks hf) hs
  | some e =>
    obtain ⟨body, hbody⟩ := rpc_eq_guarded pl caller r
    rw [hbody] at ho
    obtain ⟨rfl, hw⟩ := ((outcome_guarded_of_error hf).1 _ _).1 ho
    obtain ⟨rfl, rfl⟩ := Prod.mk.inj hw
    exact ⟨firstError_ne_success (checks_ne_success pl caller r _) hf, rfl, rfl⟩

/-- What `configIpAddr` does. -/
theorem configIpAddr_cases (asm : Assembly) (c : AddressConfig) (s : StartupState) :
    ((configIpAddr asm c s).1 ≠ .success ∧ (configIpAddr asm c s).2 = s) ∨
      asm.hardcoded = none ∧ configIpAddr asm c s =
        (.success, { s with ipAddrConfig := c, pIpAddrConfig := some .shared }) := by
  unfold configIpAddr
  split_ifs with h₁ h₂ h₃
  · exact Or.inl ⟨by simp, rfl⟩
  · exact Or.inl ⟨by simp, rfl⟩
  · exact Or.inr ⟨not_not.1 h₁, rfl⟩
  · exact Or.inl ⟨by simp, rfl⟩

/-- Without a hard-coded address, `configIpAddr` accepts valid addresses until the stack is
initialised. -/
theorem configIpAddr_eq_success_iff (hn : asm.hardcoded = none) {c : AddressConfig}
    {s : StartupState} :
    (configIpAddr asm c s).1 = .success ↔
      s.tables.currentState = .uninitialized ∧ IsValid asm c := by
  unfold configIpAddr
  split_ifs with h₁ h₂ h₃ <;> simp_all

/-- **Clients cannot change what start-up has done.** -/
theorem ClientStep.stage (hstep : ClientStep pl asm w w') (h : Stage asm s₀ L K w)
    (hs : s₀.tables.currentState ≠ .running) :
    Stage asm s₀ L K w' ∧ (Loaded asm w → Loaded asm w') := by
  have hlaw : ∀ {x : Entry}, x.Lawful asm → ∀ y ∈ x :: w.2, y.Lawful asm := fun hx ↦
    List.forall_mem_cons.2 ⟨hx, h.lawful⟩
  cases hstep with
  | @config c s hist =>
    obtain ⟨herr, hsame⟩ | ⟨hnone, hnew⟩ := configIpAddr_cases asm c s
    · have hacc : accepted (.config c (configIpAddr asm c s).1 s :: hist) = accepted hist :=
        if_neg herr
      have hloaded : Loaded asm (s, hist) →
          Loaded asm (s, .config c (configIpAddr asm c s).1 s :: hist) :=
        fun hl ↦ ⟨hl.ptr, by rw [hacc]; exact hl.contents⟩
      rw [hsame]
      exact ⟨⟨h.state, h.ptr.imp id hloaded, hlaw rfl, h.steps_eq, h.conversions_eq⟩, hloaded⟩
    · obtain ⟨c', p, hst⟩ := h.state
      obtain rfl : s = { s₀ with ipAddrConfig := c', pIpAddrConfig := p } := hst
      have hloaded : Loaded asm ((configIpAddr asm c
            { s₀ with ipAddrConfig := c', pIpAddrConfig := p }).2,
          .config c (configIpAddr asm c { s₀ with ipAddrConfig := c', pIpAddrConfig := p }).1
            { s₀ with ipAddrConfig := c', pIpAddrConfig := p } :: hist) := by
        rw [hnew]
        refine ⟨?_, ?_⟩
        · rw [configPtr, hnone]
        · rw [configPtr, current, hnone]
          rfl
      refine ⟨⟨?_, Or.inr hloaded, hlaw rfl, h.steps_eq, h.conversions_eq⟩, fun _ ↦ hloaded⟩
      rw [hnew]
      exact ⟨c, some .shared, rfl⟩
  | @rpc s hist caller r a t done ho =>
    obtain ⟨herr, rfl, rfl⟩ := outcome_rpc_of_not_running (h.tables ▸ hs) ho
    have hloaded : Loaded asm (s, hist) → Loaded asm (s, .rpc caller r a [] :: hist) :=
      fun hl ↦ ⟨hl.ptr, hl.contents⟩
    exact ⟨⟨h.state, h.ptr.imp id hloaded, hlaw ⟨herr, rfl⟩, h.steps_eq, h.conversions_eq⟩,
      hloaded⟩

theorem Clients.stage (hrun : Clients pl asm w w') (h : Stage asm s₀ L K w)
    (hs : s₀.tables.currentState ≠ .running) :
    Stage asm s₀ L K w' ∧ (Loaded asm w → Loaded asm w') := by
  induction hrun with
  | refl => exact ⟨h, id⟩
  | tail _ hstep ih =>
    obtain ⟨hst, hl⟩ := hstep.stage ih.1 hs
    exact ⟨hst, hl ∘ ih.2⟩

end Clients

/-! ### The ends of start-up -/

/-- The checks of `initializeNetworkStack` on the number of clients and on their badges. -/
structure ClientsFit (asm : Assembly) : Prop where
  supported : asm.badges.length ≤ maxClientsNum
  configured : asm.badges.length ≤ asm.configuredClients
  inRange : ∀ b ∈ asm.badges, InRange asm b

/-- The client table after the loop over the badges has filled the first `n` entries. -/
def clientTable (asm : Assembly) (n : ℕ) (i : ℕ) : Client :=
  if i < n then client asm i else Client.zero

/-- The tables that `NetworkStack_init` has handed over. -/
def readyTables (asm : Assembly) (st : StackState) : NetworkStack where
  currentState := st
  sockets _ := SocketResources.zero
  clients := clientTable asm asm.badges.length
  numberOfSockets := asm.maximumSocketNo
  numberOfClients := maxClientsNum

/-- The conversion is of a field of the configuration that was current. -/
def Conversion.Reads (asm : Assembly) (field : AddressConfig → IpString) (x : Conversion) : Prop :=
  ∃ c, current asm x.source = some c ∧ x.text = field c

/-- The steps and the conversions of an initialisation in which `pico_stack_init` has returned `r`
and every other step has succeeded. -/
structure Completed (asm : Assembly) (r : ℤ) (gate mask dev : Conversion) (L : List InitStep)
    (K : List Conversion) : Prop where
  gateway : gate.Reads asm AddressConfig.gatewayAddr
  netmask : mask.Reads asm AddressConfig.subnetMask
  device : dev.Reads asm AddressConfig.devAddr
  conversions_eq : K = [gate, mask, dev]
  steps_eq : L = [⟨.routeAdd gate.value, (0 : ℤ)⟩, ⟨.linkAdd dev.value mask.value, (0 : ℤ)⟩,
    ⟨.stringToIpv4 gate.text, ((0, gate.value) : ℤ × UInt32)⟩,
    ⟨.stringToIpv4 mask.text, ((0, mask.value) : ℤ × UInt32)⟩,
    ⟨.stringToIpv4 dev.text, ((0, dev.value) : ℤ × UInt32)⟩,
    ⟨.deviceInit, (0 : ℤ)⟩, ⟨.getMacAddress, OsError.success⟩, ⟨.stackInit, r⟩]

/-- `run` enters its main loop: the checks have passed, and so has every step that is looked at. -/
def Ready (asm : Assembly) (w : World) : Prop :=
  w.1.tables = readyTables asm .running ∧ ClientsFit asm ∧
    (∃ s h, w.2 = .wrote s w.1 :: h ∧ ∀ x ∈ h, x.Lawful asm) ∧
    ∃ r gate mask dev, Completed asm r gate mask dev (steps w.2) (conversions w.2)

/-- A step other than `pico_stack_init` has failed. -/
def StepFailed (L : List InitStep) : Prop :=
  ∃ x ∈ L, x.1 ≠ .stackInit ∧ x.1.succeeded x.2 = false

/-- `run` has given up. -/
structure GaveUp (asm : Assembly) (w : World) : Prop where
  state : w.1.tables.currentState = .fatalError
  lawful : ∀ x ∈ w.2, x.Lawful asm
  cause : ¬ ClientsFit asm ∨ StepFailed (steps w.2)

/-- What holds when `run` issues a call: the main loop is the only one that finds the stack
running. -/
def Owes (asm : Assembly) (e : StartupCall) (w : World) : Prop :=
  if e = .mainLoop then Ready asm w else w.1.tables.currentState ≠ .running

/-! ### The rules -/

section Rules

variable {L : List InitStep} {K : List Conversion} {C : StartupCall → World → Prop} {α : Type}

theorem wp_issue {e : StartupCall} {Q : e.Answer → World → Prop} (h : Stage asm s₀ L K w)
    (hs : s₀.tables.currentState ≠ .running) (hC : C e w)
    (hk : ∀ b w', Stage asm s₀ (recordStep e b L) (recordConversion e b (accepted w.2) K) w' →
      (Loaded asm w → Loaded asm w') → Q b w') :
    wp (env pl asm) C (issue e) Q w := by
  refine Prog.wp_perform.2 ⟨hC, fun b w' hrun ↦ ?_⟩
  have hloaded : Loaded asm w → Loaded asm (w.1, .answer e b :: w.2) :=
    fun hl ↦ ⟨hl.ptr, hl.contents⟩
  have hafter : Stage asm s₀ (recordStep e b L) (recordConversion e b (accepted w.2) K)
      (w.1, .answer e b :: w.2) := by
    refine ⟨h.state, h.ptr.imp id hloaded, List.forall_mem_cons.2 ⟨trivial, h.lawful⟩, ?_, ?_⟩
    · show recordStep e b (steps w.2) = _
      rw [h.steps_eq]
    · show recordConversion e b (accepted w.2) (conversions w.2) = _
      rw [h.conversions_eq]
  obtain ⟨hst, hl⟩ := Clients.stage hrun hafter hs
  exact hk b w' hst (hl ∘ hloaded)

/-- A write to another part of the static data than the configuration. -/
theorem Stage.write (pl : Platform) {f : StartupState → StartupState} (h : Stage asm s₀ L K w)
    (hf : ∀ c p, f { s₀ with ipAddrConfig := c, pIpAddrConfig := p } =
      { f s₀ with ipAddrConfig := c, pIpAddrConfig := p })
    (hs : (f s₀).tables.currentState ≠ .running) :
    Stage asm (f s₀) L K ((env pl asm).write f w) ∧
      (Loaded asm w → Loaded asm ((env pl asm).write f w)) := by
  obtain ⟨c, p, hw⟩ := h.state
  have hnew : f w.1 = { f s₀ with ipAddrConfig := c, pIpAddrConfig := p } := by rw [hw, hf]
  have hp : (f w.1).pIpAddrConfig = w.1.pIpAddrConfig := by rw [hnew, hw]
  have hderef : (f w.1).deref (configPtr asm) = w.1.deref (configPtr asm) := by
    rw [hnew, hw]
    cases configPtr asm <;> rfl
  have hloaded : Loaded asm w → Loaded asm ((env pl asm).write f w) :=
    fun hl ↦ ⟨hp.trans hl.ptr, hl.contents.trans (congrArg some hderef.symm)⟩
  refine ⟨⟨⟨c, p, hnew⟩, h.ptr.imp hp.trans hloaded, List.forall_mem_cons.2 ⟨?_, h.lawful⟩,
    h.steps_eq, h.conversions_eq⟩, hloaded⟩
  show (f w.1).tables.currentState ≠ .running
  rw [hnew]
  exact hs

end Rules

/-! ### The functions -/

section Functions

variable {L : List InitStep} {K : List Conversion}

/-- A check or a step has failed, and the stack has not been running. -/
def Doomed (asm : Assembly) (w : World) : Prop :=
  ∃ s₁ L K, Stage asm s₁ L K w ∧ s₁.tables.currentState ≠ .running ∧
    (¬ ClientsFit asm ∨ StepFailed L)

theorem wp_nicStep {e : StartupCall} {k : e.Answer → Code OsError} {Q : OsError → World → Prop}
    (h : Stage asm s₀ L K w) (hl : Loaded asm w) (hs : s₀.tables.currentState ≠ .running)
    (hstack : e ≠ .stackInit) (hmain : e ≠ .mainLoop)
    (hrec : ∀ b, recordStep e b L = ⟨e, b⟩ :: L) (hfail : ∀ w', Doomed asm w' → Q .generic w')
    (hk : ∀ b w', e.succeeded b = true →
      Stage asm s₀ (⟨e, b⟩ :: L) (recordConversion e b (accepted w.2) K) w' → Loaded asm w' →
      wp (env pl asm) (Owes asm) (k b) Q w') :
    wp (env pl asm) (Owes asm) (nicStep e k) Q w := by
  have howes : Owes asm e w := by
    rw [Owes, if_neg hmain, h.tables]
    exact hs
  refine Prog.wp_bind.2 (wp_issue h hs howes fun b w' hst hl' ↦ ?_)
  rw [hrec] at hst
  split_ifs with hb
  · exact hk b w' hb hst (hl' hl)
  · refine hfail _ ⟨_, _, _, (hst.write pl (fun _ _ ↦ rfl) hs).1, hs, Or.inr ⟨⟨e, b⟩, ?_⟩⟩
    exact ⟨List.mem_cons_self, hstack, Bool.eq_false_iff.2 hb⟩

/-- The NIC is up, or a step has failed. -/
theorem wp_picoNicInitialize {r : ℤ} {Q : OsError → World → Prop}
    (h : Stage asm s₀ [⟨.stackInit, r⟩] [] w) (hl : Loaded asm w)
    (hs : s₀.tables.currentState ≠ .running) (hfail : ∀ w', Doomed asm w' → Q .generic w')
    (hdone : ∀ w' gate mask dev L K, Stage asm { s₀ with osNic := true } L K w' →
      Completed asm r gate mask dev L K → Q .success w') :
    wp (env pl asm) (Owes asm) (picoNicInitialize (configPtr asm)) Q w := by
  refine Prog.wp_bind.2 (Prog.wp_modify.2 ?_)
  obtain ⟨hst, hl₀⟩ := h.write pl (f := fun s ↦ { s with osNic := true })
    (fun _ _ ↦ rfl) hs
  refine wp_nicStep hst (hl₀ hl) hs (by decide) (by decide) (fun _ ↦ rfl) hfail
    fun err w₁ hmac h₁ hl₁ ↦ ?_
  refine wp_nicStep h₁ hl₁ hs (by decide) (by decide) (fun _ ↦ rfl) hfail
    fun ret w₂ hdev h₂ hl₂ ↦ ?_
  refine wp_nicStep h₂ hl₂ hs (by simp) (by simp) (fun _ ↦ rfl) hfail
    fun ipAddr w₃ hip h₃ hl₃ ↦ ?_
  refine wp_nicStep h₃ hl₃ hs (by simp) (by simp) (fun _ ↦ rfl) hfail
    fun netmask w₄ hmask h₄ hl₄ ↦ ?_
  refine wp_nicStep h₄ hl₄ hs (by simp) (by simp) (fun _ ↦ rfl) hfail
    fun gateway w₅ hgate h₅ hl₅ ↦ ?_
  refine wp_nicStep h₅ hl₅ hs (by simp) (by simp) (fun _ ↦ rfl) hfail
    fun link w₆ hlink h₆ hl₆ ↦ ?_
  refine wp_nicStep h₆ hl₆ hs (by simp) (by simp) (fun _ ↦ rfl) hfail
    fun route w₇ hroute h₇ hl₇ ↦ ?_
  refine hdone w₇ ⟨accepted w₄.2, (w₄.1.deref (configPtr asm)).gatewayAddr, gateway.2⟩
    ⟨accepted w₃.2, (w₃.1.deref (configPtr asm)).subnetMask, netmask.2⟩
    ⟨accepted w₂.2, (w₂.1.deref (configPtr asm)).devAddr, ipAddr.2⟩ _ _ h₇ ?_
  refine ⟨⟨_, hl₄.contents, rfl⟩, ⟨_, hl₃.contents, rfl⟩, ⟨_, hl₂.contents, rfl⟩, rfl, ?_⟩
  obtain rfl : err = .success := of_decide_eq_true hmac
  obtain rfl : ret = 0 := of_decide_eq_true hdev
  obtain rfl : link = 0 := of_decide_eq_true hlink
  obtain rfl : route = 0 := of_decide_eq_true hroute
  obtain ⟨ip0, ip⟩ := ipAddr
  obtain rfl : ip0 = 0 := of_decide_eq_true hip
  obtain ⟨mask0, mask⟩ := netmask
  obtain rfl : mask0 = 0 := of_decide_eq_true hmask
  obtain ⟨gate0, gate⟩ := gateway
  obtain rfl : gate0 = 0 := of_decide_eq_true hgate
  rfl

/-- The state that `NetworkStack_init` leaves, apart from the device. -/
def handedOver (asm : Assembly) (s : StartupState) : StartupState :=
  { s with
    camkesCfg := true
    cfg := some (configPtr asm)
    tables := { s.tables with
      sockets := fun _ ↦ SocketResources.zero
      clients := s.clients
      numberOfSockets := asm.maximumSocketNo
      numberOfClients := maxClientsNum } }

theorem wp_networkStackInit {Q : OsError → World → Prop} (h : Stage asm s₀ [] [] w)
    (hl : Loaded asm w) (hs : s₀.tables.currentState ≠ .running)
    (hfail : ∀ w', Doomed asm w' → Q .generic w')
    (hdone : ∀ w' r gate mask dev L K,
      Stage asm { handedOver asm s₀ with osNic := true } L K w' →
      Completed asm r gate mask dev L K → Q .success w') :
    wp (env pl asm) (Owes asm) (networkStackInit asm (some (configPtr asm))) Q w := by
  refine Prog.wp_bind.2 (Prog.wp_modify.2 ?_)
  obtain ⟨hst, hl₀⟩ := h.write pl (f := handedOver asm) (fun _ _ ↦ rfl) hs
  have howes : Owes asm .stackInit ((env pl asm).write (handedOver asm) w) := by
    show _ ≠ StackState.running
    rw [hst.tables]
    exact hs
  refine Prog.wp_bind.2 (wp_issue hst hs howes fun r w₁ h₁ hl₁ ↦ ?_)
  refine Prog.wp_bind.2 (wp_picoNicInitialize h₁ (hl₁ (hl₀ hl)) hs (fun w' hw' ↦ ?_)
    fun w' gate mask dev L K h₂ hc ↦ ?_)
  · exact hfail w' hw'
  · exact hdone w' r gate mask dev L K h₂ hc

theorem clientTable_succ (asm : Assembly) (n : ℕ) :
    Function.update (clientTable asm n) n (client asm n) = clientTable asm (n + 1) := by
  funext i
  rw [Function.update_apply]
  unfold clientTable
  split_ifs <;> first | omega | simp_all

/-- The loop over the badges, with the first `i` done. -/
theorem wp_fillClients {Q : OsError → World → Prop} (badges : List ℕ) {i : ℕ}
    (hsub : ∀ b ∈ badges, b ∈ asm.badges)
    (h : Stage asm { s₀ with clients := clientTable asm i } L K w) (hl : Loaded asm w)
    (hs : s₀.tables.currentState ≠ .running) (hfail : ∀ w', Doomed asm w' → Q .outOfBounds w')
    (hdone : ∀ w', (∀ b ∈ badges, InRange asm b) →
      Stage asm { s₀ with clients := clientTable asm (i + badges.length) } L K w' →
      Loaded asm w' → Q .success w') :
    wp (env pl asm) (Owes asm) (fillClients asm badges i) Q w := by
  induction badges generalizing i w with
  | nil => exact hdone w (List.forall_mem_nil _) h hl
  | cons b badges ih =>
    rw [List.forall_mem_cons] at hsub
    show wp _ _ (if ¬ InRange asm b then _ else _) Q w
    split_ifs with hb
    · refine Prog.wp_bind.2 (Prog.wp_modify.2 ?_)
      obtain ⟨hst, hl'⟩ := h.write pl
        (f := fun s ↦ { s with clients := Function.update s.clients i (client asm i) })
        (fun _ _ ↦ rfl) hs
      simp only [clientTable_succ] at hst
      refine ih hsub.2 hst (hl' hl) fun w' hin hst' hl'' ↦ ?_
      refine hdone w' (List.forall_mem_cons.2 ⟨hb, hin⟩) ?_ hl''
      rw [List.length_cons, ← Nat.add_assoc, Nat.add_right_comm]
      exact hst'
    · exact hfail w ⟨_, L, K, h, hs, Or.inl fun hfit ↦ hb (hfit.inRange b hsub.1)⟩

/-- The state that `initializeNetworkStack` leaves when it succeeds. -/
def initialized (asm : Assembly) (s : StartupState) : StartupState :=
  { handedOver asm { s with clients := clientTable asm asm.badges.length } with osNic := true }

theorem wp_initializeNetworkStack {Q : OsError → World → Prop} (h : Stage asm s₀ [] [] w)
    (hl : Loaded asm w) (hclients : s₀.clients = clientTable asm 0)
    (hs : s₀.tables.currentState ≠ .running) (hfail : ∀ w' e, e ≠ .success → Doomed asm w' → Q e w')
    (hdone : ∀ w' r gate mask dev L K, ClientsFit asm → Stage asm (initialized asm s₀) L K w' →
      Completed asm r gate mask dev L K → Q .success w') :
    wp (env pl asm) (Owes asm) (initializeNetworkStack asm) Q w := by
  have hdoomed : ¬ ClientsFit asm → Doomed asm w := fun hne ↦ ⟨s₀, [], [], h, hs, Or.inl hne⟩
  unfold initializeNetworkStack
  split_ifs with hmax hconf
  · exact hfail w _ (by decide) (hdoomed fun hfit ↦ absurd hfit.supported (by omega))
  · exact hfail w _ (by decide) (hdoomed fun hfit ↦ absurd hfit.configured (by omega))
  have hzero : Stage asm { s₀ with clients := clientTable asm 0 } [] [] w := by
    rw [← hclients]
    exact h
  refine Prog.wp_bind.2 (wp_fillClients asm.badges (fun _ hb ↦ hb) hzero hl hs
    (fun w' hw' ↦ hfail w' _ (by decide) hw') fun w₁ hin h₁ hl₁ ↦ ?_)
  rw [Nat.zero_add] at h₁
  refine Prog.wp_bind.2 (Prog.wp_get.2 ?_)
  rw [hl₁.ptr]
  exact wp_networkStackInit h₁ hl₁ hs (fun w' hw' ↦ hfail w' _ (by decide) hw')
    fun w' r gate mask dev L K h₂ hc ↦
      hdone w' r gate mask dev L K ⟨by omega, by omega, hin⟩ h₂ hc

theorem wp_awaitConfig (fuel : ℕ) {Q : Unit → World → Prop} (h : Stage asm s₀ [] [] w)
    (hs : s₀.tables.currentState ≠ .running)
    (hdone : ∀ w', Stage asm s₀ [] [] w' → Loaded asm w' → Q () w') :
    wp (env pl asm) (Owes asm) (awaitConfig fuel) Q w := by
  induction fuel generalizing w with
  | zero =>
    refine ⟨?_, fun b ↦ b.elim⟩
    show w.1.tables.currentState ≠ .running
    rw [h.tables]
    exact hs
  | succ fuel ih =>
    refine Prog.wp_bind.2 (Prog.wp_get.2 ?_)
    split_ifs with hp
    · have howes : Owes asm .yield w := by
        show w.1.tables.currentState ≠ .running
        rw [h.tables]
        exact hs
      exact Prog.wp_bind.2 (wp_issue h hs howes fun _ w' h' _ ↦ ih h')
    · exact hdone w h (h.ptr.resolve_left hp)

/-- `run` sets the state `FATAL_ERROR` when it gives up. -/
theorem Doomed.gaveUp (h : Doomed asm w) :
    GaveUp asm ((env pl asm).write (StartupState.setState .fatalError) w) := by
  obtain ⟨s₁, L, K, hst, -, hcause⟩ := h
  refine ⟨rfl, List.forall_mem_cons.2 ⟨?_, hst.lawful⟩, hcause.imp id fun hfail ↦ ?_⟩
  · show StackState.fatalError ≠ .running
    decide
  · show StepFailed (steps w.2)
    rw [hst.steps_eq]
    exact hfail

end Functions

theorem stage_init (asm : Assembly) : Stage asm StartupState.init [] [] World.init :=
  ⟨⟨_, _, rfl⟩, Or.inl rfl, List.forall_mem_nil _, rfl, rfl⟩

theorem wp_useHardcoded {Q : Unit → World → Prop} (h : Stage asm s₀ [] [] w)
    (hs : s₀.tables.currentState ≠ .running) (hdone : ∀ w', Stage asm s₀ [] [] w' → Q () w') :
    wp (env pl asm) (Owes asm) (useHardcoded asm) Q w := by
  unfold useHardcoded
  split
  · exact hdone w h
  · rename_i c hc
    obtain ⟨c', p, hw⟩ := h.state
    refine hdone _ ⟨⟨c', some (.const c), ?_⟩, Or.inr ⟨?_, ?_⟩, ?_, h.steps_eq, h.conversions_eq⟩
    · rw [Env.write_fst, hw]
    · rw [Env.write_fst, configPtr, hc]
    · rw [current, configPtr, hc]
      rfl
    · refine List.forall_mem_cons.2 ⟨?_, h.lawful⟩
      show w.1.tables.currentState ≠ .running
      rw [h.tables]
      exact hs

/-- **Start-up ends ready or gives up.** The main loop is the only call that finds the stack
running. -/
theorem wp_run (pl : Platform) (asm : Assembly) (fuel : ℕ) :
    wp (env pl asm) (Owes asm) (run asm fuel) (fun a w' ↦ a = -1 ∧ GaveUp asm w')
      World.init := by
  have hs : StackState.uninitialized ≠ .running := by decide
  have hinit : StackState.initialized ≠ .running := by decide
  have howes : ∀ {s₁ : StartupState} {L : List InitStep} {K : List Conversion} {w : World},
      Stage asm s₁ L K w → s₁.tables.currentState ≠ .running → Owes asm .preempt w := by
    intro s₁ L K w h hs₁
    show w.1.tables.currentState ≠ .running
    rw [h.tables]
    exact hs₁
  refine Prog.wp_bind.2 (Prog.wp_modify.2 ?_)
  obtain ⟨h₀, -⟩ := (stage_init asm).write pl
    (f := StartupState.setState .uninitialized) (fun _ _ ↦ rfl) hs
  refine Prog.wp_bind.2 (wp_useHardcoded h₀ hs fun w₁ h₁ ↦ ?_)
  refine Prog.wp_bind.2 (wp_issue h₁ hs (howes h₁ hs) fun _ w₂ h₂ _ ↦ ?_)
  refine Prog.wp_bind.2 (wp_awaitConfig fuel h₂ hs fun w₃ h₃ hl₃ ↦ ?_)
  refine Prog.wp_bind.2 (wp_initializeNetworkStack h₃ hl₃ rfl hs (fun w₄ e he hw₄ ↦ ?_)
    fun w₄ r gate mask dev L K hfit h₄ hc ↦ ?_)
  · rw [if_pos he]
    exact ⟨rfl, hw₄.gaveUp⟩
  rw [if_neg (by decide)]
  refine Prog.wp_bind.2 (Prog.wp_modify.2 ?_)
  obtain ⟨h₅, -⟩ := h₄.write pl
    (f := StartupState.setState .initialized) (fun _ _ ↦ rfl) hinit
  refine Prog.wp_bind.2 (wp_issue h₅ hinit (howes h₅ hinit) fun _ w₆ h₆ _ ↦ ?_)
  refine Prog.wp_bind.2 (Prog.wp_modify.2 ?_)
  obtain ⟨c, p, hw₆⟩ := h₆.state
  refine Prog.wp_bind.2 (Prog.wp_bind.2 (Prog.wp_get.2 ?_))
  have hset : ¬ ((StartupState.setState .running w₆.1).camkesCfg = false ∨
      (StartupState.setState .running w₆.1).cfg = none) := by
    rw [hw₆]
    exact fun h ↦ h.elim Bool.noConfusion (Option.some_ne_none _)
  rw [Env.write_fst, if_neg hset]
  refine ⟨⟨?_, hfit, ⟨w₆.1, w₆.2, rfl, h₆.lawful⟩, r, gate, mask, dev, ?_⟩, fun b ↦ b.elim⟩
  · rw [Env.write_fst, hw₆]
    rfl
  · show Completed asm r gate mask dev (steps w₆.2) (conversions w₆.2)
    rw [h₆.steps_eq, h₆.conversions_eq]
    exact hc

end Startup

end NetworkStackPicoTcp
