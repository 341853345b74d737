import NetworkStackPicoTcp.Invariants.Startup
import NetworkStackPicoTcp.Model.Simulate

/-!
# The installed addresses

`pico_nic_initialize` reads the shared configuration through a pointer, one field at a time, while
`configIpAddr` still accepts a new one: its guard is the state of the stack, which changes only
after the initialisation. The addresses are therefore those of the last accepted call exactly when
no valid call comes in after the first of them has been converted.
-/

namespace NetworkStackPicoTcp

namespace Startup

variable {pl : Platform} {asm : Assembly} {h : History}

/-- The calls of `configIpAddr` that come after the conversion of the device address and before the
state `INITIALIZED`. -/
def meanwhile : History → List AddressConfig
  | [] => []
  | .config c _ s :: h =>
    if conversions h ≠ [] ∧ s.tables.currentState = .uninitialized then c :: meanwhile h
    else meanwhile h
  | _ :: h => meanwhile h

/-- The device address, the subnet mask and the gateway that have been installed are those of one
call of `configIpAddr`, and it is the last one that returned `OS_SUCCESS`. -/
def OneConfiguration (h : History) : Prop :=
  ∃ c earlier ipAddr netmask gateway, accepted h = c :: earlier ∧
    conversions h = [⟨c :: earlier, c.gatewayAddr, gateway⟩, ⟨c :: earlier, c.subnetMask, netmask⟩,
      ⟨c :: earlier, c.devAddr, ipAddr⟩] ∧
    ⟨.linkAdd ipAddr netmask, (0 : ℤ)⟩ ∈ steps h ∧ ⟨.routeAdd gateway, (0 : ℤ)⟩ ∈ steps h

/-! ### Sources of conversions -/

theorem accepted_suffix_cons (x : Entry) (h : History) : accepted h <:+ accepted (x :: h) := by
  cases x with
  | config c err s =>
    show _ <:+ if err = .success then _ else _
    split_ifs
    · exact List.suffix_cons _ _
    · exact List.suffix_rfl
  | _ => exact List.suffix_rfl

theorem recordConversion_cases (e : StartupCall) (b : e.Answer) (source : List AddressConfig)
    (K : List Conversion) :
    recordConversion e b source K = K ∨
      ∃ text value, recordConversion e b source K = ⟨source, text, value⟩ :: K := by
  cases e with
  | stringToIpv4 text => exact Or.inr ⟨text, b.2, rfl⟩
  | _ => exact Or.inl rfl

/-- What a conversion has seen has been accepted since. -/
theorem source_suffix {x : Conversion} (hx : x ∈ conversions h) : x.source <:+ accepted h := by
  induction h with
  | nil => exact absurd hx List.not_mem_nil
  | cons y h ih =>
    cases y with
    | answer e b =>
      show _ <:+ accepted h
      obtain heq | ⟨text, value, heq⟩ := recordConversion_cases e b (accepted h) (conversions h)
      · exact ih (heq ▸ hx)
      · have hmem : x ∈ (⟨accepted h, text, value⟩ :: conversions h : List Conversion) := heq ▸ hx
        obtain rfl | hold := List.mem_cons.1 hmem
        · exact List.suffix_rfl
        · exact ih hold
    | _ => exact (ih hx).trans (accepted_suffix_cons _ h)

/-- A later conversion has seen at least what an earlier one has. -/
theorem pairwise_source (h : History) :
    (conversions h).Pairwise fun later earlier ↦ earlier.source <:+ later.source := by
  induction h with
  | nil => exact .nil
  | cons y h ih =>
    cases y with
    | answer e b =>
      show (recordConversion e b (accepted h) (conversions h)).Pairwise _
      obtain heq | ⟨text, value, heq⟩ := recordConversion_cases e b (accepted h) (conversions h)
      · rwa [heq]
      · rw [heq]
        exact .cons (fun x hx ↦ source_suffix hx) ih
    | _ => exact ih

theorem meanwhile_eq_nil (hK : conversions h = []) : meanwhile h = [] := by
  induction h with
  | nil => rfl
  | cons y h ih =>
    cases y with
    | config c err s =>
      show (if conversions h ≠ [] ∧ _ then _ else _) = _
      rw [if_neg fun hne ↦ hne.1 hK]
      exact ih hK
    | answer e b =>
      refine ih ?_
      obtain heq | ⟨text, value, heq⟩ := recordConversion_cases e b (accepted h) (conversions h)
      · exact heq.symm.trans hK
      · exact absurd (heq.symm.trans hK) (List.cons_ne_nil _ _)
    | _ => exact ih hK

/-- The calls accepted since the first conversion are the valid ones among those that have come in
meanwhile. -/
theorem accepted_eq (hn : asm.hardcoded = none)
    (hconf : ∀ c err s, .config c err s ∈ h → err = (configIpAddr asm c s).1) {K : List Conversion}
    {first : Conversion} (hK : conversions h = K ++ [first]) :
    accepted h = (meanwhile h).filter (fun c ↦ decide (IsValid asm c)) ++ first.source := by
  induction h generalizing K with
  | nil => exact absurd hK.symm (by simp [conversions])
  | cons y h ih =>
    have hconf' : ∀ c err s, .config c err s ∈ h → err = (configIpAddr asm c s).1 :=
      fun c err s hmem ↦ hconf c err s (List.mem_cons_of_mem _ hmem)
    cases y with
    | config c err s =>
      have hne : conversions h ≠ [] := by
        rw [show conversions h = K ++ [first] from hK]
        simp
      have hiff : err = .success ↔ s.tables.currentState = .uninitialized ∧ IsValid asm c := by
        rw [hconf c err s List.mem_cons_self]
        exact configIpAddr_eq_success_iff hn
      have hrest := ih hconf' hK
      show (if err = .success then _ else _) =
        (if _ then _ else _ : List AddressConfig).filter _ ++ _
      by_cases hs : s.tables.currentState = .uninitialized
      · have hwindow : conversions h ≠ [] ∧ s.tables.currentState = .uninitialized := ⟨hne, hs⟩
        rw [if_pos hwindow]
        by_cases hv : IsValid asm c
        · have herr : err = .success := hiff.2 ⟨hs, hv⟩
          rw [if_pos herr, List.filter_cons_of_pos (by simpa using hv),
            List.cons_append, hrest]
        · have herr : ¬ err = .success := fun he ↦ hv (hiff.1 he).2
          rw [if_neg herr, List.filter_cons_of_neg (by simpa using hv), hrest]
      · have herr : ¬ err = .success := fun he ↦ hs (hiff.1 he).1
        have hwindow : ¬ (conversions h ≠ [] ∧ s.tables.currentState = .uninitialized) :=
          fun hc ↦ hs hc.2
        rw [if_neg herr, if_neg hwindow, hrest]
    | answer e b =>
      show accepted h = (meanwhile h).filter _ ++ _
      have hK' : recordConversion e b (accepted h) (conversions h) = K ++ [first] := hK
      obtain heq | ⟨text, value, heq⟩ := recordConversion_cases e b (accepted h) (conversions h)
      · exact ih hconf' (heq.symm.trans hK')
      · rw [heq] at hK'
        cases K with
        | nil =>
          obtain ⟨rfl, hnil⟩ := List.cons.inj hK'
          rw [meanwhile_eq_nil hnil]
          rfl
        | cons k K => exact ih hconf' (List.cons.inj hK').2
    | _ => exact ih hconf' hK

/-- **The installed addresses are those of one configuration**, the last one that was accepted,
exactly when no valid call of `configIpAddr` comes between the conversion of the device address and
the state `INITIALIZED`. -/
theorem one_configuration_iff (hn : asm.hardcoded = none) {fuel : ℕ} {e : StartupCall} {w : World}
    (hat : Prog.CallAt (env pl asm) (run asm fuel) World.init e w)
    (hrun : w.1.tables.currentState = .running) :
    OneConfiguration w.2 ↔ ∀ c ∈ meanwhile w.2, ¬ IsValid asm c := by
  have howes := Prog.callAt_of_wp (wp_run pl asm fuel) hat
  unfold Owes at howes
  split_ifs at howes with hmain
  swap
  · exact absurd hrun howes
  obtain ⟨-, -, ⟨s, h, hw, hlaw⟩, r, gate, mask, dev, hdone⟩ := howes
  have hconf : ∀ c err s, .config c err s ∈ w.2 → err = (configIpAddr asm c s).1 := by
    intro c err s' hmem
    rw [hw] at hmem
    exact hlaw _ (List.mem_of_ne_of_mem Entry.noConfusion hmem)
  have hacc := accepted_eq (K := [gate, mask]) hn hconf hdone.conversions_eq
  have hchain := pairwise_source w.2
  have hlast : gate.source <:+ accepted w.2 :=
    source_suffix (hdone.conversions_eq ▸ List.mem_cons_self)
  rw [hdone.conversions_eq] at hchain
  simp only [List.pairwise_cons, List.mem_cons, List.not_mem_nil, or_false, forall_eq_or_imp,
    forall_eq] at hchain
  constructor
  · rintro ⟨c, earlier, ipAddr, netmask, gateway, haccw, hK, -, -⟩ c' hc' hv
    rw [hdone.conversions_eq] at hK
    have hdev : dev.source = c :: earlier := by simp_all
    have hlen := congrArg List.length hacc
    rw [haccw, hdev, List.length_append, List.length_cons] at hlen
    have hmem : c' ∈ (meanwhile w.2).filter fun c ↦ decide (IsValid asm c) :=
      List.mem_filter.2 ⟨hc', decide_eq_true hv⟩
    have hpos := List.length_pos_of_mem hmem
    omega
  · intro hquiet
    have hnil : (meanwhile w.2).filter (fun c ↦ decide (IsValid asm c)) = [] :=
      List.filter_eq_nil_iff.2 fun c hc ↦ by simpa using hquiet c hc
    rw [hnil, List.nil_append] at hacc
    -- Nothing has been accepted since the first conversion, so the later ones have seen the same.
    have hmask : mask.source = accepted w.2 :=
      (hchain.1.1.trans hlast).eq_of_length_le (hacc ▸ hchain.2.1.length_le)
    have hgate : gate.source = accepted w.2 :=
      hlast.eq_of_length_le (hacc ▸ hchain.1.2.length_le)
    obtain ⟨c, hc, hdevText⟩ := hdone.device
    obtain ⟨c₁, hc₁, hmaskText⟩ := hdone.netmask
    obtain ⟨c₂, hc₂, hgateText⟩ := hdone.gateway
    simp only [current, hn] at hc hc₁ hc₂
    rw [← hacc] at hc
    rw [hmask, hc] at hc₁
    rw [hgate, hc] at hc₂
    obtain rfl := Option.some.inj hc₁
    obtain rfl := Option.some.inj hc₂
    obtain ⟨earlier, hcons⟩ := List.head?_eq_some_iff.1 hc
    refine ⟨c, earlier, dev.value, mask.value, gate.value, hcons, ?_, ?_, ?_⟩
    · have hgate' : gate = ⟨accepted w.2, c.gatewayAddr, gate.value⟩ := by rw [← hgate, ← hgateText]
      have hmask' : mask = ⟨accepted w.2, c.subnetMask, mask.value⟩ := by rw [← hmask, ← hmaskText]
      have hdev' : dev = ⟨accepted w.2, c.devAddr, dev.value⟩ := by rw [hacc, ← hdevText]
      rw [hdone.conversions_eq, ← hcons, ← hgate', ← hmask', ← hdev']
    · rw [hdone.steps_eq]
      simp
    · rw [hdone.steps_eq]
      simp

/-! ### Two configurations at once -/

/-- Addresses of one network. -/
def sampleHome : AddressConfig := ⟨[10], [11], [12]⟩

/-- Addresses of another network. -/
def sampleAway : AddressConfig := ⟨[20], [21], [22]⟩

/-- A client configures the home network before `run` looks, and another one the away network while
the device address is being converted. -/
def sampleCalls : StartupCall → List AddressConfig
  | .preempt => [sampleHome]
  | .stringToIpv4 [10] => [sampleAway]
  | _ => []

/-- A client configures the home network before `run` looks, and again with an empty address. -/
def sampleQuietCalls : StartupCall → List AddressConfig
  | .preempt => [sampleHome]
  | .stringToIpv4 [10] => [⟨[], [], []⟩]
  | _ => []

/-- The stack runs with the device address of one configuration and the subnet mask and the gateway
of another. -/
theorem not_one_configuration :
    ∃ w, Prog.CallAt (env samplePlatform sampleAssembly) (run sampleAssembly 1) World.init .mainLoop
      w ∧ w.1.tables.currentState = .running ∧ accepted w.2 = [sampleAway, sampleHome] ∧
      (conversions w.2).map Conversion.text = [[21], [22], [10]] ∧ ¬ OneConfiguration w.2 := by
  have hstart : start sampleAssembly (smooth 0) sampleCalls =
      some (.mainLoop, started sampleAssembly (smooth 0) sampleCalls) := rfl
  refine ⟨_, callAt_of_start samplePlatform hstart, rfl, rfl, rfl, ?_⟩
  rintro ⟨c, earlier, ipAddr, netmask, gateway, -, hK, -⟩
  have hsource : (conversions (started sampleAssembly (smooth 0) sampleCalls).2).map
      Conversion.source = [[sampleAway, sampleHome], [sampleAway, sampleHome], [sampleHome]] := rfl
  rw [hK] at hsource
  simp only [List.map_cons, List.map_nil, List.cons.injEq] at hsource
  exact absurd (hsource.1.2.symm.trans hsource.2.2.1.2) (by simp)

/-- With an invalid call meanwhile, the addresses are those of the one valid configuration. -/
theorem one_configuration_iff_sampleQuietCalls :
    OneConfiguration (started sampleAssembly (smooth 0) sampleQuietCalls).2 := by
  have hstart : start sampleAssembly (smooth 0) sampleQuietCalls =
      some (.mainLoop, started sampleAssembly (smooth 0) sampleQuietCalls) := rfl
  have hmean : meanwhile (started sampleAssembly (smooth 0) sampleQuietCalls).2 = [⟨[], [], []⟩] :=
    rfl
  refine (one_configuration_iff rfl (callAt_of_start samplePlatform hstart) rfl).2 ?_
  rw [hmean]
  decide

end Startup

end NetworkStackPicoTcp
