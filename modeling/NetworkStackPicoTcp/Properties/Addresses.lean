import NetworkStackPicoTcp.Invariants.Operations
import NetworkStackPicoTcp.Properties.HandleTable

/-!
# Addresses from clients

`connect`, `bind` and `sendto` take a textual address of 16 bytes from the client, and picoTCP's
parser reads it up to its NUL. `connect` and `bind` check that there is one before anything else
happens to the address. `sendto` has no such check, so an address without a NUL is refused only if
something else stops the call before the parse (`address_validated_iff`).
-/

namespace NetworkStackPicoTcp

open Prog (wp)

variable {pl : Platform} {sched : Schedule} {cfg : Config} {c : ℤ} {r : RpcCall} {w : World}
  {α : Type}

/-! ### Validation before parsing -/

/-- The address that the RPC takes from the client. -/
def RpcCall.address : RpcCall → Option OsSocketAddr
  | .connect _ addr | .bind _ addr | .sendto _ _ addr => addr
  | .create _ _ _ | .close _ | .listen _ _ | .accept _ _ _ | .write _ _ | .read _ _
  | .recvfrom _ _ _
  | .getPendingEvents _ _ => none

/-- The address `a` that the RPC takes is validated before it is parsed. -/
structure AddressValidated (pl : Platform) (sched : Schedule) (c : ℤ) (r : RpcCall) (w : World)
    (a : OsSocketAddr) : Prop where
  /-- Nothing is parsed but the address, and that only if one of its bytes is NUL. -/
  parsed : ∀ x w', Prog.CallAt (rpcEnv sched c r) (rpc pl c r) w (.stringToIpv4 x) w' →
    x = a.addr ∧ 0 ∈ x
  /-- Without a NUL there is no call of picoTCP … -/
  quiet : 0 ∉ a.addr → ∀ pc w', ¬ Prog.CallAt (rpcEnv sched c r) (rpc pl c r) w (.pico pc) w'
  /-- … the RPC returns … -/
  returns : 0 ∉ a.addr → ∃ reply w', Prog.Outcome (rpcEnv sched c r) (rpc pl c r) w reply w'
  /-- … with an error, and no slot has changed. -/
  refuses : 0 ∉ a.addr → ∀ reply w', Prog.Outcome (rpcEnv sched c r) (rpc pl c r) w reply w' →
    reply.err ≠ .success ∧ w'.1.sockets = w.1.sockets

/-- A `sendto` that gets as far as its parse: its checks, the head of the operation and
`CHECK_DATAPORT_SIZE` let it pass. -/
def RpcCall.SendtoParses (pl : Platform) (c : ℤ) (r : RpcCall) (s : NetworkStack) : Prop :=
  match r with
  | .sendto handle pLen _ =>
    firstError (r.checks pl c s) = none ∧ .fin ∉ (s.sockets handle.toNat).eventMask ∧
      (s.sockets handle.toNat).implementationSocket ≠ none ∧
      pl.dataportFits (s.sockets handle.toNat).buf (clampLen pl c (pLen.getD 0)) = true
  | _ => False

/-! ### Which address is parsed -/

/-- The call parses no address but `a`. -/
def ParsesOnly (a : AddrField) (e : Call) (_ : World) : Prop := ∀ x, e = .stringToIpv4 x → x = a

theorem parsesOnly_of_ne {a : AddrField} {e : Call} (he : ∀ x, e ≠ .stringToIpv4 x) :
    ParsesOnly a e w := fun x hx ↦ absurd hx (he x)

theorem wp_request_parsesOnly {a : AddrField} {e : Call} (he : ∀ x, e ≠ .stringToIpv4 x) :
    wp (rpcEnv sched c r) (ParsesOnly a) (request e) (fun _ _ ↦ True) w :=
  ⟨parsesOnly_of_ne he, fun _ _ _ ↦ trivial⟩

/-- What follows the parse: the picoTCP call, and the end of the operation. -/
theorem wp_afterParse {a : AddrField} {i : ℕ} {pc : PicoCall} {k : pc.Answer × OsError → Rpc α}
    (hk : ∀ b w', wp (rpcEnv sched c r) (ParsesOnly a) (k b) (fun _ _ ↦ True) w') :
    wp (rpcEnv sched c r) (ParsesOnly a) (lockedCall i pc >>= k) (fun _ _ ↦ True) w := by
  simp only [lockedCall, Prog.wp_bind, Prog.wp_perform, Prog.wp_modify, Prog.wp_pure]
  refine ⟨parsesOnly_of_ne (by simp), fun _ _ _ ↦ ⟨parsesOnly_of_ne (by simp), fun _ _ _ ↦ ?_⟩⟩
  refine ⟨parsesOnly_of_ne (by simp), fun _ _ _ ↦ ⟨parsesOnly_of_ne (by simp), fun _ _ _ ↦ ?_⟩⟩
  exact hk _ _

theorem wp_finish_parsesOnly {a : AddrField} {ret : ℤ} {failure success : α} :
    wp (rpcEnv sched c r) (ParsesOnly a) (finish ret failure success) (fun _ _ ↦ True) w := by
  unfold finish
  split_ifs
  · trivial
  · exact Prog.wp_bind.2 (wp_request_parsesOnly (by simp))

/-- An RPC that takes an address parses nothing else. -/
theorem wp_rpc_parsesOnly {a : OsSocketAddr} (ha : r.address = some a) :
    wp (rpcEnv sched c r) (ParsesOnly a.addr) (rpc pl c r) (fun _ _ ↦ True) w := by
  have hself : ∀ w', ParsesOnly a.addr (.stringToIpv4 a.addr) w' :=
    fun _ x hx ↦ (Call.stringToIpv4.inj hx).symm
  cases r with
  | connect handle addr =>
    obtain rfl : addr = some a := ha
    refine Prog.wp_map.2 (wp_guarded (fun _ _ ↦ trivial) fun hch ↦ ?_)
    obtain ⟨i, rfl, hadm⟩ := admitted_of_checks pl (.connect handle (some a)) hch rfl
    refine wp_withOpenSocket hadm.owns.1 (fun _ _ ↦ trivial) fun _ _ ↦ ?_
    refine Prog.wp_bind.2 ⟨hself _, fun b w' _ ↦ ?_⟩
    cases b with
    | none => trivial
    | some addr => exact wp_afterParse fun _ _ ↦ wp_finish_parsesOnly
  | bind handle addr =>
    obtain rfl : addr = some a := ha
    refine Prog.wp_map.2 (wp_guarded (fun _ _ ↦ trivial) fun hch ↦ ?_)
    obtain ⟨i, rfl, hadm⟩ := admitted_of_checks pl (.bind handle (some a)) hch rfl
    refine wp_withOpenSocket hadm.owns.1 (fun _ _ ↦ trivial) fun _ _ ↦ ?_
    refine Prog.wp_bind.2 ⟨hself _, fun b w' _ ↦ ?_⟩
    cases b with
    | none => trivial
    | some addr => exact wp_afterParse fun _ _ ↦ wp_finish_parsesOnly
  | sendto handle pLen addr =>
    obtain rfl : addr = some a := ha
    refine Prog.wp_map.2 (wp_guarded (fun _ _ ↦ trivial) fun hch ↦ ?_)
    obtain ⟨i, rfl, hadm⟩ := admitted_of_checks pl (.sendto handle pLen (some a)) hch rfl
    refine Prog.wp_bind.2 (wp_withOpenSocket hadm.owns.1 (fun _ _ ↦ trivial) fun _ _ ↦ ?_)
    refine Prog.wp_bind.2 (Prog.wp_get.2 ?_)
    split_ifs
    · trivial
    refine Prog.wp_bind.2 ⟨hself _, fun b w' _ ↦ ?_⟩
    cases b with
    | none => trivial
    | some addr => exact wp_afterParse fun _ _ ↦ wp_finish_parsesOnly
  | _ => exact absurd ha (Option.some_ne_none a).symm

/-! ### What stops a call before the parse -/

/-- An address without a NUL fails the check of `connect` and `bind`. -/
theorem firstError_checks_ne_none (hnul : ∀ a, pl.isNulTerminated a = true ↔ 0 ∈ a)
    {a : OsSocketAddr} (h₀ : 0 ∉ a.addr) {checks : List (Option OsError)}
    (hmem : (some a).bind (checkNulTerminated pl) ∈ checks) : firstError checks ≠ none := by
  intro hnone
  have hpass : checkNulTerminated pl a = none := List.findSome?_eq_none_iff.1 hnone _ hmem
  have hfalse : pl.isNulTerminated a.addr = false :=
    Bool.eq_false_iff.2 fun htrue ↦ h₀ ((hnul a.addr).1 htrue)
  simp [checkNulTerminated, hfalse] at hpass

/-- An RPC with an address without a NUL that does not get as far as the parse of `sendto` returns
an error at once. -/
theorem wp_rpc_refused (hnul : ∀ a, pl.isNulTerminated a = true ↔ 0 ∈ a) {a : OsSocketAddr}
    (ha : r.address = some a) (h₀ : 0 ∉ a.addr) (hr : ¬ r.SendtoParses pl c w.1) :
    wp (rpcEnv sched c r) (fun _ _ ↦ False) (rpc pl c r)
      (fun reply w' ↦ reply.err ≠ .success ∧ w' = w) w := by
  have hexit : ∀ e, firstError (r.checks pl c w.1) = some e → e ≠ .success := fun e he ↦
    firstError_ne_success (checks_ne_success pl c r w.1) he
  cases r with
  | connect handle addr =>
    obtain rfl : addr = some a := ha
    refine Prog.wp_map.2 (wp_guarded (fun e he ↦ ⟨hexit e he, rfl⟩) fun hch ↦ ?_)
    exact absurd hch (firstError_checks_ne_none hnul h₀ (by simp))
  | bind handle addr =>
    obtain rfl : addr = some a := ha
    refine Prog.wp_map.2 (wp_guarded (fun e he ↦ ⟨hexit e he, rfl⟩) fun hch ↦ ?_)
    exact absurd hch (firstError_checks_ne_none hnul h₀ (by simp))
  | sendto handle pLen addr =>
    obtain rfl : addr = some a := ha
    refine Prog.wp_map.2 (wp_guarded (fun e he ↦ ⟨hexit e he, rfl⟩) fun hch ↦ ?_)
    obtain ⟨i, rfl, hadm⟩ := admitted_of_checks pl (.sendto handle pLen (some a)) hch rfl
    refine Prog.wp_bind.2
      (wp_withOpenSocket_fits hadm.owns.1 (fun e he ↦ ⟨he, rfl⟩) fun hfin himpl hfits ↦ ?_)
    exact absurd ⟨hch, hfin, himpl, Bool.not_eq_false _ ▸ hfits⟩ hr
  | _ => exact absurd ha (Option.some_ne_none a).symm

/-- A `sendto` that gets as far as its parse calls the parser on its address, whatever is in it. -/
theorem callAt_of_sendtoParses {a : OsSocketAddr} (ha : r.address = some a)
    (hr : r.SendtoParses pl c w.1) :
    Prog.CallAt (rpcEnv sched c r) (rpc pl c r) w (.stringToIpv4 a.addr) w := by
  cases r with
  | sendto handle pLen addr =>
    obtain rfl : addr = some a := ha
    obtain ⟨hch, hfin, himpl, hfits⟩ := hr
    obtain ⟨i, rfl, hadm⟩ := admitted_of_checks pl (.sendto handle pLen (some a)) hch rfl
    have hfits' : ¬ pl.dataportFits (w.1.sockets i).buf (clampLen pl c (pLen.getD 0)) = false :=
      Bool.not_eq_false _ ▸ hfits
    by_contra hnot
    have hrun : wp (rpcEnv sched c (.sendto i pLen (some a)))
        (fun e w' ↦ ¬ (e = .stringToIpv4 a.addr ∧ w' = w)) (rpc pl c (.sendto i pLen (some a)))
        (fun _ _ ↦ True) w := by
      refine Prog.wp_iff.2 ⟨fun _ _ _ ↦ trivial, ?_⟩
      rintro e w' hat ⟨rfl, rfl⟩
      exact hnot hat
    have hbody := (wp_guarded_of_pass hch).1 (Prog.wp_map.1 hrun)
    have hopen := (wp_withOpenSocket_of_pass hadm.owns.1 hfin himpl).1 (Prog.wp_bind.1 hbody)
    have hparse := Prog.wp_get.1 (Prog.wp_bind.1 hopen)
    rw [if_neg hfits'] at hparse
    exact (Prog.wp_bind.1 hparse).1 ⟨rfl, rfl⟩
  | _ => exact hr.elim

/-- **When client-supplied addresses are validated before they are parsed**: exactly if one of the
16 bytes is NUL or the call is not a `sendto` that gets as far as its parse. -/
theorem address_validated_iff (hnul : ∀ a, pl.isNulTerminated a = true ↔ 0 ∈ a) {a : OsSocketAddr}
    (ha : r.address = some a) :
    AddressValidated pl sched c r w a ↔ 0 ∈ a.addr ∨ ¬ r.SendtoParses pl c w.1 := by
  have hself : ∀ x w', Prog.CallAt (rpcEnv sched c r) (rpc pl c r) w (.stringToIpv4 x) w' →
      x = a.addr :=
    fun x w' hat ↦ Prog.callAt_of_wp (wp_rpc_parsesOnly ha) hat x rfl
  constructor
  · intro hv
    by_contra hneg
    obtain ⟨h₀, hr⟩ := not_or.1 hneg
    exact h₀ (hv.parsed a.addr w (callAt_of_sendtoParses ha (not_not.1 hr))).2
  · intro hcond
    by_cases h₀ : 0 ∈ a.addr
    · refine ⟨fun x w' hat ↦ ?_, fun h ↦ absurd h₀ h, fun h ↦ absurd h₀ h, fun h ↦ absurd h₀ h⟩
      obtain rfl := hself x w' hat
      exact ⟨rfl, h₀⟩
    · have hrun : wp (rpcEnv sched c r) _ _ _ w := wp_rpc_refused hnul ha h₀ (hcond.resolve_left h₀)
      refine ⟨fun x w' hat ↦ (Prog.callAt_of_wp hrun hat).elim,
        fun _ pc w' hat ↦ Prog.callAt_of_wp hrun hat,
        fun _ ↦ Prog.exists_outcome_of_wp (fun _ _ hcall ↦ hcall.elim) hrun,
        fun _ reply w' ho ↦ ?_⟩
      obtain ⟨herr, rfl⟩ := Prog.outcome_of_wp hrun ho
      exact ⟨herr, rfl⟩

/-! ### Two addresses -/

/-- Client 101 has created a datagram socket. -/
def sampleDatagram : World :=
  served samplePlatform 101 (.create .inet .dgram (some 0)) (obliging (some 7) none) (fun _ w ↦ w)
    ((sampleConfig 5).init, [])

theorem reachable_sampleDatagram (sched : Schedule) :
    Reachable samplePlatform sched (sampleConfig 5) sampleDatagram :=
  reachable_served .refl (interference_refl sched) ⟨0, rfl⟩ rfl

/-- The 16 bytes of `255.255.255.2551`, none of which is NUL. -/
def sampleUnterminated : OsSocketAddr :=
  ⟨#v[50, 53, 53, 46, 50, 53, 53, 46, 50, 53, 53, 46, 50, 53, 53, 49], 80⟩

theorem samplePlatform_isNulTerminated (a : AddrField) :
    samplePlatform.isNulTerminated a = true ↔ 0 ∈ a := by
  simp [samplePlatform]

/-- `bind` refuses the address without a NUL. -/
theorem address_validated_iff_sampleUnterminated :
    AddressValidated samplePlatform .free 101 (.bind 0 (some sampleUnterminated))
      (sampleDatagram.1,
        .begin 101 (.bind 0 (some sampleUnterminated)) sampleDatagram.1 :: sampleDatagram.2)
      sampleUnterminated :=
  (address_validated_iff samplePlatform_isNulTerminated rfl).2 (Or.inr id)

/-- `sendto` parses it. -/
theorem not_address_validated :
    ¬ ∀ (pl : Platform) (sched : Schedule) (cfg : Config) (s : NetworkStack) (h : History) (c : ℤ)
      (r : RpcCall) (a : OsSocketAddr), (∀ a, pl.isNulTerminated a = true ↔ 0 ∈ a) →
      Reachable pl sched cfg (s, h) → s.IsClient c → r.address = some a →
      AddressValidated pl sched c r (s, .begin c r s :: h) a := by
  intro hall
  let r : RpcCall := .sendto 0 (some 4) (some sampleUnterminated)
  let begun : World := (sampleDatagram.1, .begin 101 r sampleDatagram.1 :: sampleDatagram.2)
  have hparses : r.SendtoParses samplePlatform 101 begun.1 := ⟨rfl, by decide, by decide, rfl⟩
  have hat : Prog.CallAt (rpcEnv .free 101 r) (rpc samplePlatform 101 r) begun
      (.stringToIpv4 sampleUnterminated.addr) begun :=
    callAt_of_sendtoParses rfl hparses
  have hv := hall samplePlatform .free (sampleConfig 5) sampleDatagram.1 sampleDatagram.2 101 r
    sampleUnterminated samplePlatform_isNulTerminated (reachable_sampleDatagram .free) ⟨0, rfl⟩ rfl
  have hnul := (samplePlatform_isNulTerminated _).2 (hv.parsed _ _ hat).2
  exact absurd hnul (by decide)

end NetworkStackPicoTcp
