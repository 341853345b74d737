import NetworkStackPicoTcp.Invariants.Undisturbed
import NetworkStackPicoTcp.Properties.Addresses

/-!
# Addresses of peers

picoTCP reports the peer of an accepted connection and the sender of a datagram in binary, with the
port in network order; a client gets the address as text and the port in host order, and passes both
back that way. `recvfrom` converts in one direction, `connect` and `sendto` in the other, and a peer
reported by the first can be answered to. `accept` converts the address for a message in the log
only, and leaves the structure of its client as it was (`peer_reported_iff`).
-/

namespace NetworkStackPicoTcp

open Prog (wp)

variable {pl : Platform} {sched : Schedule} {cfg : Config} {c : ℤ} {r : RpcCall} {w : World}
  {α : Type}

/-! ### Reporting and answering -/

/-- The peer that picoTCP reports with a connection or a datagram. -/
def PicoCall.peer : (pc : PicoCall) → pc.Answer → Option (UInt32 × UInt16)
  | .accept _, ret => ret.1.map fun _ ↦ ret.2
  | .recvfrom _ _ _, ret => if 0 ≤ ret.1 then some ret.2 else none
  | _, _ => none

/-- Where a picoTCP call connects or sends to. -/
def PicoCall.destination : PicoCall → Option (UInt32 × UInt16)
  | .connect _ addr port | .sendto _ _ _ addr port => some (addr, port)
  | _ => none

/-- An address and a port of picoTCP in the structure of a client. -/
def Platform.socketAddr (pl : Platform) (addr : UInt32) (port : UInt16) : OsSocketAddr :=
  ⟨pl.ipv4ToString addr, pl.shortBe port⟩

/-- `pico_string_to_ipv4` has inverted `pico_ipv4_to_string` whenever it was called. -/
def ParserInverts (pl : Platform) (h : History) : Prop :=
  ∀ c r addr b s, Entry.answer c r (.stringToIpv4 (pl.ipv4ToString addr)) b s ∈ h → b = some addr

/-- The client answers with `r'` to the peer that `r` has reported. -/
def RpcCall.answeredBy (r r' : RpcCall) : Bool :=
  match r, r' with
  | .recvfrom _ _ _, .sendto _ _ _ | .accept _ _ _, .connect _ _ => true
  | _, _ => false

/-- A `connect` or `sendto` that gets as far as its parse. -/
def RpcCall.Proceeds (pl : Platform) (c : ℤ) (r : RpcCall) (s : NetworkStack) : Prop :=
  match r with
  | .connect handle _ =>
    firstError (r.checks pl c s) = none ∧ .fin ∉ (s.sockets handle.toNat).eventMask ∧
      (s.sockets handle.toNat).implementationSocket ≠ none
  | r => r.SendtoParses pl c s

/-- Since `w` the RPC has called picoTCP with this address and port. -/
def HasCalled (c : ℤ) (r : RpcCall) (addr : UInt32) (port : UInt16) (w w' : World) : Prop :=
  ∃ (new : History) (pc : PicoCall) (b : pc.Answer) (s : NetworkStack), w'.2 = new ++ w.2 ∧
    .answer c r (.pico pc) b s ∈ new ∧ pc.destination = some (addr, port)

/-- The RPC addresses this peer, provided that the parser inverts the formatter. -/
structure Addresses (pl : Platform) (sched : Schedule) (c : ℤ) (r : RpcCall) (w : World)
    (addr : UInt32) (port : UInt16) : Prop where
  /-- It calls picoTCP with no other address or port … -/
  noOther : ∀ pc w', Prog.CallAt (rpcEnv sched c r) (rpc pl c r) w (.pico pc) w' →
    ParserInverts pl w'.2 → pc.destination = some (addr, port)
  /-- … and does call it, if it gets that far. -/
  calls : r.Proceeds pl c w.1 →
    ∀ reply w', Prog.Outcome (rpcEnv sched c r) (rpc pl c r) w reply w' →
    ParserInverts pl w'.2 → HasCalled c r addr port w w'

/-- The RPC has reported this peer to its client, which can answer to it. -/
structure PeerReported (pl : Platform) (sched : Schedule) (r : RpcCall) (reply : Reply)
    (addr : UInt32)
    (port : UInt16) : Prop where
  reported : reply.out.srcAddr = some (pl.socketAddr addr port)
  answered : ∀ c' r' w', r.answeredBy r' = true → r'.address = reply.out.srcAddr →
    Addresses pl sched c' r' w' addr port

/-! ### Answering -/

section Answering

variable {addr : UInt32} {port : UInt16} {w' : World}

theorem ParserInverts.of_subset {h h' : History} (hinv : ParserInverts pl h') (hsub : h ⊆ h') :
    ParserInverts pl h :=
  fun c r addr b s hmem ↦ hinv c r addr b s (hsub hmem)

/-- The RPC has called picoTCP with this address and port, provided that the parser inverts the
formatter. -/
def Aimed (pl : Platform) (c : ℤ) (r : RpcCall) (addr : UInt32) (port : UInt16)
    (w w' : World) : Prop :=
  ParserInverts pl w'.2 → HasCalled c r addr port w w'

theorem Aimed.cons (h : Aimed pl c r addr port w w') (x : Entry) (s : NetworkStack) :
    Aimed pl c r addr port w (s, x :: w'.2) := by
  intro hinv
  obtain ⟨new, pc, b, s₁, hnew, hmem, hdst⟩ := h (hinv.of_subset (List.subset_cons_self x w'.2))
  exact ⟨x :: new, pc, b, s₁, congrArg (x :: ·) hnew, List.mem_cons_of_mem x hmem, hdst⟩

/-- The call is not one of picoTCP, or has this address and port. -/
def AimsAt (pl : Platform) (addr : UInt32) (port : UInt16) (e : Call) (w : World) : Prop :=
  ∀ pc, e = .pico pc → ParserInverts pl w.2 → pc.destination = some (addr, port)

theorem aimsAt_of_ne {e : Call} (he : ∀ pc, e ≠ .pico pc) : AimsAt pl addr port e w' :=
  fun pc hpc ↦ absurd hpc (he pc)

theorem wp_finish_aims {ret : ℤ} {failure success : α} (h : Aimed pl c r addr port w w') :
    wp (rpcEnv sched c r) (AimsAt pl addr port) (finish ret failure success)
      (fun _ w' ↦ Aimed pl c r addr port w w') w' := by
  unfold finish
  split_ifs
  · exact h
  · refine Prog.wp_bind.2 ⟨aimsAt_of_ne (by simp), ?_⟩
    rintro ⟨⟩ _ ⟨_, hquiet, rfl⟩
    obtain rfl := quiet_notifyMainLoop sched _ _ hquiet
    exact h.cons _ _

/-- Once the parser has failed to invert the formatter, nothing is owed any more. -/
theorem wp_of_not_parserInverts (p : Rpc α) {w₀ : World} (h : ¬ ParserInverts pl w'.2) :
    wp (rpcEnv sched c r) (AimsAt pl addr port) p (fun _ w' ↦ Aimed pl c r addr port w₀ w') w' := by
  have hrun := Prog.wp_of_invariant (V := rpcEnv sched c r) (I := fun w' ↦ ¬ ParserInverts pl w'.2)
    (fun f w hw hinv ↦ hw (hinv.of_subset (List.subset_cons_self _ w.2))) ?_ p h
  · exact Prog.wp_mono (fun _ _ hnot _ _ hinv ↦ absurd hinv hnot)
      (fun _ _ hnot hinv ↦ absurd hinv hnot) hrun
  · rintro e w b _ hw ⟨w₁, hint, rfl⟩ hinv
    obtain ⟨new, hnew, -⟩ := keepsSlots_interference hint
    refine hw (hinv.of_subset ?_)
    show w.2 ⊆ _ :: w₁.2
    rw [hnew]
    exact List.subset_append_right (_ :: new) w.2

/-- After the parse of a formatted address, the address is known. -/
theorem wp_parsed {k : Option UInt32 → Rpc α}
    (h : wp (rpcEnv sched c r) (AimsAt pl addr port) (k (some addr))
      (fun _ w' ↦ Aimed pl c r addr port w w')
      (w.1, .answer c r (.stringToIpv4 (pl.ipv4ToString addr)) (some addr) w.1 :: w.2)) :
    wp (rpcEnv sched c r) (AimsAt pl addr port)
      (request (.stringToIpv4 (pl.ipv4ToString addr)) >>= k)
      (fun _ w' ↦ Aimed pl c r addr port w w') w := by
  refine Prog.wp_bind.2 ⟨aimsAt_of_ne (by simp), ?_⟩
  rintro b _ ⟨w₀, hquiet, rfl⟩
  obtain rfl := quiet_stringToIpv4 _ sched _ _ hquiet
  by_cases hb : b = some addr
  · rw [hb]
    exact h
  · exact wp_of_not_parserInverts _ fun hinv ↦ hb (hinv _ _ _ _ _ List.mem_cons_self)

/-- The picoTCP call of an operation that has parsed its address, and the end of the operation. -/
theorem wp_lockedCall_aims {i : ℕ} {pc : PicoCall} {k : pc.Answer × OsError → Rpc α} {x : Entry}
    (hdst : pc.destination = some (addr, port))
    (hk : ∀ b w', Aimed pl c r addr port w w' → wp (rpcEnv sched c r) (AimsAt pl addr port) (k b)
      (fun _ w' ↦ Aimed pl c r addr port w w') w') :
    wp (rpcEnv sched c r) (AimsAt pl addr port) (lockedCall i pc >>= k)
      (fun _ w' ↦ Aimed pl c r addr port w w') (w.1, x :: w.2) := by
  refine Prog.wp_bind.2 (wp_lockedCall_made (fun e w₁ he _ pc' hpc _ ↦ ?_)
    fun b w₁ new hm _ ↦ hk b w₁ fun _ ↦ ?_)
  · rw [he pc' hpc, hdst]
  · obtain ⟨s₁, hmade⟩ := hm.made
    exact ⟨new ++ [x], pc, b.1, s₁, by rw [hm.entries, List.append_assoc]; rfl,
      List.mem_append_left _ hmade, hdst⟩

/-- **A client can answer to the structure of a peer**: `connect` and `sendto` with it address that
peer. -/
theorem addresses_of_address (hbe : ∀ x, pl.shortBe (pl.shortBe x) = x) {r₁ : RpcCall}
    (hans : r₁.answeredBy r = true) (ha : r.address = some (pl.socketAddr addr port)) :
    Addresses pl sched c r w addr port := by
  have hport : pl.shortBe (pl.socketAddr addr port).port = port := hbe port
  suffices hrun : wp (rpcEnv sched c r) (AimsAt pl addr port) (rpc pl c r)
      (fun _ w' ↦ r.Proceeds pl c w.1 → Aimed pl c r addr port w w') w from
    ⟨fun pc w' hat ↦ Prog.callAt_of_wp hrun hat pc rfl,
      fun hp _ w' ho ↦ Prog.outcome_of_wp hrun ho hp⟩
  cases r with
  | connect handle a =>
    obtain rfl : a = some (pl.socketAddr addr port) := ha
    refine Prog.wp_map.2 (wp_guarded (fun e he hp ↦ ?_) fun hch ↦ ?_)
    · exact absurd (he.symm.trans hp.1) (Option.some_ne_none e)
    obtain ⟨i, rfl, hadm⟩ := admitted_of_checks pl (.connect handle (some _)) hch rfl
    refine wp_withOpenSocket_cases hadm.owns.1 (fun hnot _ hp ↦ absurd hp.2 hnot) ?_
    refine Prog.wp_mono (fun _ _ h ↦ h) (fun _ _ h _ ↦ h)
      (wp_parsed (wp_lockedCall_aims ?_ fun b w' h ↦ ?_))
    · rw [hport]
      rfl
    · exact wp_finish_aims h
  | sendto handle pLen a =>
    obtain rfl : a = some (pl.socketAddr addr port) := ha
    refine Prog.wp_map.2 (wp_guarded (fun e he hp ↦ ?_) fun hch ↦ ?_)
    · exact absurd (he.symm.trans hp.1) (Option.some_ne_none e)
    obtain ⟨i, rfl, hadm⟩ := admitted_of_checks pl (.sendto handle pLen (some _)) hch rfl
    refine Prog.wp_bind.2 (wp_withOpenSocket_cases hadm.owns.1 (fun hnot _ hp ↦
      absurd ⟨hp.2.1, hp.2.2.1⟩ hnot) ?_)
    refine Prog.wp_bind.2 (Prog.wp_get.2 ?_)
    split_ifs with hfits
    · exact fun hp ↦ absurd (hp.2.2.2.symm.trans hfits) Bool.noConfusion
    refine Prog.wp_mono (fun _ _ h ↦ h) (fun _ _ h _ ↦ h)
      (wp_parsed (wp_lockedCall_aims ?_ fun b w' h ↦ ?_))
    · rw [hport]
      rfl
    · exact wp_finish_aims h
  | _ => cases r₁ <;> exact absurd hans Bool.noConfusion

end Answering

/-! ### Reporting -/

section Reporting

variable {addr : UInt32} {port : UInt16} {w' : World} {pc : PicoCall} {ret : pc.Answer}
  {new : History} {err : OsError} {a : OsSocketAddr}

/-- If the operation has succeeded and picoTCP has reported a peer since `base`, the structure is
that of the peer. -/
def Reports (pl : Platform) (c : ℤ) (r : RpcCall) (base : World) (err : OsError) (a : OsSocketAddr)
    (w' : World) : Prop :=
  err = .success → ∀ (pc : PicoCall) (ret : pc.Answer) (s₁ : NetworkStack) (new : History)
    (addr : UInt32) (port : UInt16), w'.2 = new ++ base.2 → .answer c r (.pico pc) ret s₁ ∈ new →
    pc.peer ret = some (addr, port) → a = pl.socketAddr addr port

theorem reports_of_ne (h : err ≠ .success) : Reports pl c r w err a w' := fun hok ↦ absurd hok h

theorem reports_of_made (hm : Made c r pc w ret w' new)
    (h : ∀ addr port, pc.peer ret = some (addr, port) → a = pl.socketAddr addr port) :
    Reports pl c r w err a w' := by
  intro _ pc' ret' s₁ new' addr port hnew hmem hpeer
  obtain ⟨rfl, rfl, hret⟩ := hm.unique hnew hmem
  obtain rfl : ret' = ret := hret
  exact h addr port hpeer

theorem wp_picoSocketRecvfrom_reports {i len : ℕ} (hi : i < w.1.numberOfSockets) :
    wp (rpcEnv sched c r) (fun _ _ ↦ True) (picoSocketRecvfrom pl i len a)
      (fun b w' ↦ Reports pl c r w b.1 b.2.2 w') w := by
  refine wp_withOpenSocket_fits hi (fun e he ↦ reports_of_ne he) fun _ _ _ ↦ ?_
  refine Prog.wp_bind.2 (wp_lockedCall_made (fun _ _ _ _ ↦ trivial) fun b w₁ new hm _ ↦ ?_)
  show wp _ _ (if _ then _ else _) _ _
  split_ifs with hneg hnone
  · -- picoTCP has failed, and so has reported no peer
    refine reports_of_made (hm.cons rfl _) fun addr port hpeer ↦ ?_
    exact absurd (hpeer.symm.trans (if_neg (not_le.2 hneg))) (Option.some_ne_none _)
  · refine Prog.wp_bind.2 (Prog.wp_modify.2 (Prog.wp_bind.2 ⟨trivial, fun _ _ _ ↦ ?_⟩))
    exact reports_of_ne (by simp)
  · refine reports_of_made hm fun addr port hpeer ↦ ?_
    obtain ⟨rfl, rfl⟩ := Prod.mk.inj (Option.some.inj ((if_pos (not_lt.1 hneg)).symm.trans hpeer))
    rfl

/-- `accept` returns the structure of its client as it was. -/
theorem wp_accept_srcAddr (pl : Platform) {handle : ℤ} {pClientHandle : Option ℤ}
    {srcAddr : Option OsSocketAddr} :
    wp (rpcEnv sched c r) (fun _ _ ↦ True) (rpc pl c (.accept handle pClientHandle srcAddr))
      (fun reply _ ↦ reply.out.srcAddr = srcAddr) w := by
  refine Prog.wp_map.2 (wp_guarded (fun _ _ ↦ rfl) fun _ ↦ Prog.wp_bind.2 ?_)
  exact Prog.wp_mono (fun _ _ h ↦ h) (fun _ _ _ ↦ rfl) Prog.wp_true

/-- `recvfrom` returns the sender. -/
theorem wp_recvfrom_srcAddr (pl : Platform) {handle : ℤ} {pLen : Option ℕ} :
    wp (rpcEnv sched c r) (fun _ _ ↦ True) (rpc pl c (.recvfrom handle pLen (some a)))
      (fun reply w' ↦ ∃ b, reply.out.srcAddr = some b ∧ Reports pl c r w reply.err b w') w := by
  refine Prog.wp_map.2 (wp_guarded (fun e he ↦ ⟨a, rfl, reports_of_ne ?_⟩) fun hch ↦ ?_)
  · exact firstError_ne_success (checks_ne_success pl c (.recvfrom handle pLen (some a)) w.1) he
  obtain ⟨i, rfl, hadm⟩ := admitted_of_checks pl (.recvfrom handle pLen (some a)) hch rfl
  refine Prog.wp_bind.2 ?_
  exact Prog.wp_mono (fun _ _ h ↦ h) (fun b _ hb ↦ ⟨b.2.2, rfl, hb⟩)
    (wp_picoSocketRecvfrom_reports hadm.owns.1)

end Reporting

/-- **When a reported peer is the peer's, and can be answered to**: for a successful `accept` or
`recvfrom` with a structure for it, exactly if it is a `recvfrom`, or the structure already was that
of the peer. -/
theorem peer_reported_iff (hbe : ∀ x, pl.shortBe (pl.shortBe x) = x) {s : NetworkStack}
    {h : History} {reply : Reply} {w' : World} {pc : PicoCall} {ret : pc.Answer} {s₁ : NetworkStack}
    {new : History}
    {addr : UInt32} {port : UInt16} {a : OsSocketAddr} (ha : r.outputs.srcAddr = some a)
    (ho : Prog.Outcome (rpcEnv sched c r) (rpc pl c r) (s, .begin c r s :: h) reply w')
    (hok : reply.err = .success) (hnew : w'.2 = new ++ .begin c r s :: h)
    (hcall : .answer c r (.pico pc) ret s₁ ∈ new) (hpeer : pc.peer ret = some (addr, port)) :
    PeerReported pl sched r reply addr port ↔ r.isAccept = false ∨ a = pl.socketAddr addr port := by
  have hanswered (hout : reply.out.srcAddr = some (pl.socketAddr addr port)) :
      PeerReported pl sched r reply addr port :=
    ⟨hout, fun c' r' w' hans hsrc ↦ addresses_of_address hbe hans (hsrc.trans hout)⟩
  cases r with
  | accept handle pClientHandle srcAddr =>
    have hsrc : reply.out.srcAddr = srcAddr := Prog.outcome_of_wp (wp_accept_srcAddr pl) ho
    have hout : reply.out.srcAddr = some a := hsrc.trans ha
    constructor
    · exact fun hp ↦ Or.inr (Option.some.inj (hout.symm.trans hp.reported))
    · intro hcond
      exact hanswered (hcond.resolve_left Bool.noConfusion ▸ hout)
  | recvfrom handle pLen srcAddr =>
    obtain rfl : srcAddr = some a := ha
    obtain ⟨b, hout, hreports⟩ := Prog.outcome_of_wp (wp_recvfrom_srcAddr pl) ho
    have hb : b = pl.socketAddr addr port := hreports hok pc ret s₁ new addr port hnew hcall hpeer
    exact iff_of_true (hanswered (hb ▸ hout)) (Or.inl rfl)
  | _ => exact absurd ha (Option.some_ne_none a).symm

/-! ### A sender and a peer -/

/-- The decimal digits of a byte. -/
def decimal (b : ℕ) : List UInt8 :=
  (if b < 10 then [b] else if b < 100 then [b / 10, b % 10] else [b / 100, b / 10 % 10, b % 10]).map
    fun d ↦ UInt8.ofNat (48 + d)

/-- Dotted decimal, with NULs up to the end of the field. The first byte of the address in memory
comes first. -/
def dotted (addr : UInt32) : AddrField :=
  let octet k := decimal (addr.toNat / 256 ^ k % 256)
  let text := octet 0 ++ 46 :: octet 1 ++ 46 :: octet 2 ++ 46 :: octet 3
  Vector.ofFn fun i ↦ text.getD i 0

/-- The sample component with picoTCP's text format. -/
def dottedPlatform : Platform := { samplePlatform with ipv4ToString := dotted }

theorem dottedPlatform_shortBe (x : UInt16) :
    dottedPlatform.shortBe (dottedPlatform.shortBe x) = x := by
  have hswap : ∀ b : BitVec 16,
      (b <<< 8 ||| b >>> 8) <<< 8 ||| (b <<< 8 ||| b >>> 8) >>> 8 = b := by
    intro b
    ext i hi
    simp only [BitVec.getElem_or, BitVec.getElem_shiftLeft, BitVec.getElem_ushiftRight,
      BitVec.getLsbD_or,
      BitVec.getLsbD_shiftLeft, BitVec.getLsbD_ushiftRight]
    by_cases h : i < 8 <;> grind
  exact UInt16.toBitVec_inj.1 (hswap x.toBitVec)

/-- Client 101 has created a socket. -/
def sampleOpened (type : SocketType) : World :=
  served dottedPlatform 101 (.create .inet type (some 0)) (obliging (some 7) none) (fun _ w ↦ w)
    ((sampleConfig 5).init, [])

/-- picoTCP reports `127.0.0.1`, port 80. -/
def reporting : (e : Call) → Option e.Answer
  | .pico (.accept _) => some (some 9, 0x0100007F, 0x5000)
  | .pico (.recvfrom _ _ len) => some (len, 0x0100007F, 0x5000)
  | e => obliging none none e

/-- The structure of the client, before it is told a peer. -/
def sampleBlank : OsSocketAddr := ⟨.replicate 16 0, 0⟩

/-- The client receives a datagram. -/
def sampleReceived : World :=
  served dottedPlatform 101 (.recvfrom 0 (some 10) (some sampleBlank)) reporting (fun _ w ↦ w)
    (sampleOpened .dgram)

/-- The client accepts a connection. -/
def samplePeerAccepted : World :=
  served dottedPlatform 101 (.accept 0 (some 0) (some sampleBlank)) reporting (fun _ w ↦ w)
    (sampleOpened .stream)

theorem exists_sampleReceived :
    ∃ a h', Prog.Outcome (rpcEnv .free 101 (.recvfrom 0 (some 10) (some sampleBlank)))
    (rpc dottedPlatform 101 (.recvfrom 0 (some 10) (some sampleBlank)))
    ((sampleOpened .dgram).1,
      .begin 101 (.recvfrom 0 (some 10) (some sampleBlank)) (sampleOpened .dgram).1 ::
      (sampleOpened .dgram).2) a (sampleReceived.1, h') ∧
    sampleReceived.2 = .reply 101 (.recvfrom 0 (some 10) (some sampleBlank)) a sampleReceived.1 ::
    h' := by
  have hserve : serve dottedPlatform 101 (.recvfrom 0 (some 10) (some sampleBlank)) reporting
      (fun _ w ↦ w) (sampleOpened .dgram) = some sampleReceived := rfl
  exact outcome_of_serve (interference_refl .free) hserve

theorem exists_samplePeerAccepted :
    ∃ a h', Prog.Outcome (rpcEnv .free 101 (.accept 0 (some 0) (some sampleBlank)))
    (rpc dottedPlatform 101 (.accept 0 (some 0) (some sampleBlank)))
    ((sampleOpened .stream).1,
      .begin 101 (.accept 0 (some 0) (some sampleBlank)) (sampleOpened .stream).1 ::
      (sampleOpened .stream).2) a (samplePeerAccepted.1, h') ∧
    samplePeerAccepted.2 = .reply 101 (.accept 0 (some 0) (some sampleBlank)) a
      samplePeerAccepted.1 :: h' := by
  have hserve : serve dottedPlatform 101 (.accept 0 (some 0) (some sampleBlank)) reporting
      (fun _ w ↦ w) (sampleOpened .stream) = some samplePeerAccepted := rfl
  exact outcome_of_serve (interference_refl .free) hserve

/-- The client is told the sender, and can answer. -/
theorem peer_reported_iff_sampleReceived : ∃ reply, reply.err = .success ∧
    PeerReported dottedPlatform .free (.recvfrom 0 (some 10) (some sampleBlank)) reply 0x0100007F
      0x5000 := by
  obtain ⟨a, h', ho, hh⟩ := exists_sampleReceived
  obtain ⟨ha, rfl⟩ := List.cons.inj hh
  have hok : a.err = .success := by
    obtain ⟨-, -, rfl, -⟩ := Entry.reply.inj ha
    rfl
  have hnew : sampleReceived.2.tail = sampleReceived.2.tail.take 5 ++ .begin 101
    (.recvfrom 0 (some 10) (some sampleBlank)) (sampleOpened .dgram).1 :: (sampleOpened .dgram).2 :=
      rfl
  have hcall : .answer 101 (.recvfrom 0 (some 10) (some sampleBlank))
      (.pico (.recvfrom (some 7) (101 * 4096) 10)) ((10 : ℤ), 0x0100007F, 0x5000)
        (sampleOpened .dgram).1 ∈
      sampleReceived.2.tail.take 5 := List.mem_of_getElem? (i := 3) rfl
  exact ⟨a, hok, (peer_reported_iff dottedPlatform_shortBe rfl ho hok hnew hcall rfl).2
    (Or.inl rfl)⟩

/-- The client accepts a connection, and is told nothing about it. -/
theorem not_peer_reported :
    ¬ ∀ (pl : Platform) (sched : Schedule) (cfg : Config) (s : NetworkStack) (h : History) (c : ℤ)
      (r : RpcCall) (reply : Reply) (w' : World) (pc : PicoCall) (ret : pc.Answer)
      (s₁ : NetworkStack) (new : History) (addr : UInt32) (port : UInt16) (a : OsSocketAddr),
      (∀ x, pl.shortBe (pl.shortBe x) = x) → Reachable pl sched cfg (s, h) → s.IsClient c →
      r.outputs.srcAddr = some a →
      Prog.Outcome (rpcEnv sched c r) (rpc pl c r) (s, .begin c r s :: h) reply w' →
      reply.err = .success → w'.2 = new ++ .begin c r s :: h → .answer c r (.pico pc) ret s₁ ∈ new →
      pc.peer ret = some (addr, port) → PeerReported pl sched r reply addr port := by
  intro hall
  obtain ⟨a, h', ho, hh⟩ := exists_samplePeerAccepted
  obtain ⟨ha, rfl⟩ := List.cons.inj hh
  have hreply : a = ⟨.success, { handle := some 1, srcAddr := some sampleBlank }⟩ := by
    obtain ⟨-, -, rfl, -⟩ := Entry.reply.inj ha
    rfl
  have hreach : Reachable dottedPlatform .free (sampleConfig 5) (sampleOpened .stream) :=
    reachable_served .refl (interference_refl .free) ⟨0, rfl⟩ rfl
  have hnew : samplePeerAccepted.2.tail = samplePeerAccepted.2.tail.take 18 ++ .begin 101
    (.accept 0 (some 0) (some sampleBlank)) (sampleOpened .stream).1 :: (sampleOpened .stream).2 :=
      rfl
  have hcall : .answer 101 (.accept 0 (some 0) (some sampleBlank)) (.pico (.accept (some 7)))
      (some 9, 0x0100007F, 0x5000) (sampleOpened .stream).1 ∈ samplePeerAccepted.2.tail.take 18 :=
    List.mem_of_getElem? (i := 16) rfl
  have hp := hall dottedPlatform .free (sampleConfig 5) _ _ 101 _ a _ _ _ _ _ 0x0100007F 0x5000
    sampleBlank
    dottedPlatform_shortBe hreach ⟨0, rfl⟩ rfl ho (by rw [hreply]) hnew hcall rfl
  have hblank : some sampleBlank = some (dottedPlatform.socketAddr 0x0100007F 0x5000) := by
    rw [← hp.reported, hreply]
  exact absurd (congrArg OsSocketAddr.port (Option.some.inj hblank)) (by decide)

end NetworkStackPicoTcp
