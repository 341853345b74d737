import NetworkStackPicoTcp.Invariants.Undisturbed
import NetworkStackPicoTcp.Properties.Confinement
import NetworkStackPicoTcp.Properties.Races

/-!
# When READ is taken back

`read` and `recvfrom` clear the READ bit, and report `OS_ERROR_TRY_AGAIN`, when they find that
picoTCP has nothing left for the socket. They do not see the queue. `read` infers that it is empty
from a count of zero or one that is less than the length it asked for, `recvfrom` from a count of
zero together with the address and port `0`. Both inferences are wrong for one kind of call: a
`read` of no bytes, and no bytes of a datagram whose sender is `0.0.0.0:0` (`drained_iff`).
-/

namespace NetworkStackPicoTcp

open Prog (wp)

variable {pl : Platform} {sched : Schedule} {cfg : Config} {c : ℤ} {r : RpcCall}

/-! ### What picoTCP has queued -/

/-- A datagram that picoTCP holds for a socket. -/
structure Datagram where
  size : ℕ
  addr : UInt32
  port : UInt16
  deriving DecidableEq

/-- What picoTCP holds for a socket. -/
inductive Queue
  /-- So many bytes of a stream. -/
  | bytes (q : ℕ)
  /-- Datagrams, the oldest first. -/
  | datagrams (ds : List Datagram)
  deriving DecidableEq

/-- Received data is queued. -/
def Queue.Holds : Queue → Prop
  | bytes q => 0 < q
  | datagrams ds => ds ≠ []

instance : DecidablePred Queue.Holds
  | .bytes q => inferInstanceAs (Decidable (0 < q))
  | .datagrams ds => inferInstanceAs (Decidable (ds ≠ []))

/-- picoTCP answers a receive call, with the queue before and after it. A stream gives what it has,
up to the requested length. A datagram is given with its sender, in whole or in part, and what was
not given may be kept for the next call or dropped. -/
inductive Receives : (pc : PicoCall) → pc.Answer → Queue → Queue → Prop
  | read {sock : PicoPtr} {buf : BufPtr} {len q : ℕ} :
    Receives (.read sock buf len) ((min len q : ℕ) : ℤ) (.bytes q) (.bytes (q - min len q))
  | none {sock : PicoPtr} {buf : BufPtr} {len : ℕ} :
    Receives (.recvfrom sock buf len) (0, 0, 0) (.datagrams []) (.datagrams [])
  | datagram {sock : PicoPtr} {buf : BufPtr} {len n : ℕ} {d : Datagram} {ds rest : List Datagram}
    (hlen : n ≤ len) (hsize : n ≤ d.size)
    (hrest : rest = ds ∨ rest = { d with size := d.size - n } :: ds) :
    Receives (.recvfrom sock buf len) ((n : ℤ), d.addr, d.port) (.datagrams (d :: ds))
      (.datagrams rest)

/-- What the RPC tells and leaves behind agrees with the queue. -/
structure Drained (i : ℕ) (s s' : NetworkStack) (reply : Reply) (q q' : Queue) : Prop where
  /-- While data is queued, a READ bit stays. -/
  kept : q'.Holds → .read ∈ (s.sockets i).eventMask → .read ∈ (s'.sockets i).eventMask
  /-- The client is told to try again only if nothing was queued. -/
  tryAgain : reply.err = .tryAgain → ¬ q.Holds

/-- What the RPC takes for an empty queue whatever is queued: a `read` of no bytes, and no bytes
from the sender `0.0.0.0:0`. -/
def LooksEmpty (pl : Platform) (c : ℤ) (r : RpcCall) : (pc : PicoCall) → pc.Answer → Prop
  | .read _ _ _, _ => min (r.outputs.len.getD 0) (pl.rpcBufSize c) = 0
  | .recvfrom _ _ _, ret => ret.1 = 0 ∧ ret.2.1 = 0 ∧ ret.2.2 = 0
  | _, _ => False

/-! ### What a receive call does -/

/-- picoTCP has returned no error. -/
def Succeeds : (pc : PicoCall) → pc.Answer → Prop
  | .read _ _ _, ret => 0 ≤ ret
  | .recvfrom _ _ _, ret => 0 ≤ ret.1
  | _, _ => False

/-- The result that makes the RPC tell the client to try again. -/
def TellsEmpty : (pc : PicoCall) → pc.Answer → Prop
  | .read _ _ _, ret => ret = 0
  | .recvfrom _ _ _, ret => ret.1 = 0 ∧ ret.2.1 = 0 ∧ ret.2.2 = 0
  | _, _ => False

/-- What the receive call of an operation on slot `i`, which began in `base`, has been asked, and
what has become of its answer. -/
structure Received (len i : ℕ) (base : World) (err : OsError) (w' : World) (pc : PicoCall)
    (ret : pc.Answer) : Prop where
  length : ∃ buf, pc.transfer = some (buf, len)
  mask : .read ∈ (w'.1.sockets i).eventMask ↔ .read ∈ (base.1.sockets i).eventMask ∧
    KeepsRead pc ret
  err : Succeeds pc ret → (err = .tryAgain ↔ TellsEmpty pc ret)

/-- If no callback has run since `base`, the picoTCP call made since then was a receive call like
that. -/
def Receipt (c : ℤ) (r : RpcCall) (len i : ℕ) (base : World) (err : OsError) (w' : World) : Prop :=
  ∀ (pc : PicoCall) (ret : pc.Answer) (s₁ : NetworkStack) (new : History), w'.2 = new ++ base.2 →
    .answer c r (.pico pc) ret s₁ ∈ new → NoCallbacks new → Received len i base err w' pc ret

section Receive

variable {w w₁ w' : World} {i len : ℕ} {err : OsError} {pc : PicoCall} {ret : pc.Answer}
  {new : History}

/-- An operation that has done nothing has called nobody. -/
theorem receipt_self : Receipt c r len i w err w := by
  intro pc ret s₁ new hnew hmem
  have hnil : new = [] := List.append_cancel_right (hnew.symm.trans (List.nil_append w.2).symm)
  rw [hnil] at hmem
  exact absurd hmem List.not_mem_nil

theorem receipt_of_made (hm : Made c r pc w ret w' new)
    (h : NoCallbacks new → Received len i w err w' pc ret) : Receipt c r len i w err w' := by
  intro pc' ret' s₁ new' hnew hmem hno
  obtain ⟨rfl, rfl, hret⟩ := hm.unique hnew hmem
  obtain rfl : ret' = ret := hret
  exact h hno

/-- The RPC drops READ after its call. -/
theorem read_notMem_clear {s : NetworkStack} :
    .read ∉ ((s.updateSocket i (SocketResources.clear {.read})).sockets i).eventMask := by
  simp [SocketResources.clear]

theorem wp_picoSocketRead_receipt (pl : Platform) (hi : i < w.1.numberOfSockets) :
    wp (rpcEnv sched c r) (fun _ _ ↦ True) (picoSocketRead pl i len)
      (fun a w' ↦ Receipt c r len i w a.1 w') w := by
  refine wp_withOpenSocket_fits hi (fun _ _ ↦ receipt_self) fun _ _ _ ↦ ?_
  refine Prog.wp_bind.2 (wp_lockedCall_made (fun _ _ _ _ ↦ trivial) fun a w₁ new hm hmask ↦ ?_)
  show wp _ _ (if _ then _ else _) _ _
  split_ifs with hneg hzero hshort
  · refine receipt_of_made (hm.cons rfl _) fun _ ↦ ⟨⟨_, rfl⟩, ?_, fun hsucc ↦ ?_⟩
    · exact iff_of_false read_notMem_clear fun h ↦ not_lt.2 hneg.le h.2.1
    · exact absurd hneg (not_lt.2 hsucc)
  · refine Prog.wp_bind.2 (Prog.wp_modify.2 (Prog.wp_bind.2 ⟨trivial, ?_⟩))
    rintro ⟨⟩ _ ⟨_, hquiet, rfl⟩
    obtain rfl := quiet_notifyMainLoop sched _ _ hquiet
    refine receipt_of_made ((hm.cons rfl _).cons rfl _) fun _ ↦ ⟨⟨_, rfl⟩, ?_, fun _ ↦ ?_⟩
    · exact iff_of_false read_notMem_clear fun h ↦ h.2.1.ne' hzero
    · exact iff_of_true rfl hzero
  · refine receipt_of_made (hm.cons rfl _) fun _ ↦ ⟨⟨_, rfl⟩, ?_, fun _ ↦ ?_⟩
    · exact iff_of_false read_notMem_clear fun h ↦ not_le.2 hshort h.2.2
    · exact iff_of_false (by simp) hzero
  · refine receipt_of_made hm fun hno ↦ ⟨⟨_, rfl⟩, ?_, fun _ ↦ ?_⟩
    · rw [hmask hno, and_iff_left]
      exact ⟨lt_of_le_of_ne (not_lt.1 hneg) (Ne.symm hzero), not_lt.1 hshort⟩
    · exact iff_of_false (by simp) hzero

theorem wp_picoSocketRecvfrom_receipt (pl : Platform) {srcAddr : OsSocketAddr}
    (hi : i < w.1.numberOfSockets) :
    wp (rpcEnv sched c r) (fun _ _ ↦ True) (picoSocketRecvfrom pl i len srcAddr)
      (fun a w' ↦ Receipt c r len i w a.1 w') w := by
  refine wp_withOpenSocket_fits hi (fun _ _ ↦ receipt_self) fun _ _ _ ↦ ?_
  refine Prog.wp_bind.2 (wp_lockedCall_made (fun _ _ _ _ ↦ trivial) fun a w₁ new hm hmask ↦ ?_)
  show wp _ _ (if _ then _ else _) _ _
  split_ifs with hneg hnone
  · refine receipt_of_made (hm.cons rfl _) fun _ ↦ ⟨⟨_, rfl⟩, ?_, fun hsucc ↦ ?_⟩
    · exact iff_of_false read_notMem_clear fun h ↦ not_le.2 hneg h.2.1
    · exact absurd hneg (not_lt.2 hsucc)
  · refine Prog.wp_bind.2 (Prog.wp_modify.2 (Prog.wp_bind.2 ⟨trivial, ?_⟩))
    rintro ⟨⟩ _ ⟨_, hquiet, rfl⟩
    obtain rfl := quiet_notifyMainLoop sched _ _ hquiet
    refine receipt_of_made ((hm.cons rfl _).cons rfl _) fun _ ↦ ⟨⟨_, rfl⟩, ?_, fun _ ↦ ?_⟩
    · exact iff_of_false read_notMem_clear fun h ↦ h.2.2 hnone
    · exact iff_of_true rfl hnone
  · refine receipt_of_made hm fun hno ↦ ⟨⟨_, rfl⟩, ?_, fun _ ↦ ?_⟩
    · rw [hmask hno, and_iff_left]
      exact ⟨not_lt.1 hneg, hnone⟩
    · exact iff_of_false (by simp) hnone

end Receive

/-- **A receive call of any RPC**, when no callback runs. -/
theorem wp_rpc_receipt (pl : Platform) {w : World} {i : ℕ} (hr : r.receives = true)
    (hi : r.handle = some (i : ℤ)) :
    wp (rpcEnv sched c r) (fun _ _ ↦ True) (rpc pl c r)
      (fun reply w' ↦ Receipt c r (clampLen pl c (r.outputs.len.getD 0)) i w reply.err w') w := by
  cases r with
  | read handle pLen =>
    obtain rfl := Option.some.inj hi
    refine Prog.wp_map.2 (wp_guarded (fun _ _ ↦ receipt_self) fun hch ↦ ?_)
    obtain ⟨j, hj, ha⟩ := admitted_of_checks pl (.read i pLen) hch rfl
    obtain rfl := Int.ofNat_inj.1 hj
    exact Prog.wp_bind.2 (wp_picoSocketRead_receipt pl ha.owns.1)
  | recvfrom handle pLen srcAddr =>
    obtain rfl := Option.some.inj hi
    refine Prog.wp_map.2 (wp_guarded (fun _ _ ↦ receipt_self) fun hch ↦ ?_)
    obtain ⟨j, hj, ha⟩ := admitted_of_checks pl (.recvfrom i pLen srcAddr) hch rfl
    obtain rfl := Int.ofNat_inj.1 hj
    obtain ⟨addr, rfl⟩ := ptr_of_checks pl srcAddr hch (by simp)
    exact Prog.wp_bind.2 (wp_picoSocketRecvfrom_receipt pl ha.owns.1)
  | _ => exact absurd hr Bool.noConfusion

/-! ### The queue -/

section Queue

variable {pc : PicoCall} {ret : pc.Answer} {q q' : Queue}

/-- picoTCP reports no error. -/
theorem Receives.succeeds (h : Receives pc ret q q') : Succeeds pc ret := by
  cases h with
  | read => exact Int.natCast_nonneg _
  | none => exact le_rfl
  | datagram => exact Int.natCast_nonneg _

/-- While something is queued and the answer does not look like that of an empty queue, READ is left
alone and no one is told to try again. -/
theorem Receives.keeps (h : Receives pc ret q q')
    (hlen : ∃ buf, pc.transfer = some (buf, clampLen pl c (r.outputs.len.getD 0)))
    (hlook : ¬ (q.Holds ∧ LooksEmpty pl c r pc ret)) :
    (q'.Holds → KeepsRead pc ret) ∧ (TellsEmpty pc ret → ¬ q.Holds) := by
  obtain ⟨buf, hbuf⟩ := hlen
  cases h with
  | @read sock buf' len q =>
    obtain ⟨rfl, rfl⟩ := Prod.mk.inj (Option.some.inj hbuf)
    have hpos : 0 < q → 0 < clampLen pl c (r.outputs.len.getD 0) := by
      rw [clampLen_eq_min]
      exact fun hq ↦ Nat.pos_of_ne_zero fun hzero ↦ hlook ⟨hq, hzero⟩
    generalize clampLen pl c (r.outputs.len.getD 0) = len at hpos
    refine ⟨fun (hq' : 0 < q - min len q) ↦ ⟨?_, ?_⟩, fun htell (hq : 0 < q) ↦ ?_⟩
    · exact Int.natCast_pos.2 (lt_min (hpos (by omega)) (by omega))
    · exact Int.ofNat_le.2 (le_min le_rfl (by omega))
    · exact absurd (Int.natCast_eq_zero.1 htell) (lt_min (hpos hq) hq).ne'
  | none => exact ⟨fun hq' ↦ absurd rfl hq', fun _ hq ↦ hq rfl⟩
  | @datagram sock buf' len n d ds rest hlen hsize hrest =>
    have hnot : ¬ ((n : ℤ) = 0 ∧ d.addr = 0 ∧ d.port = 0) :=
      fun h ↦ hlook ⟨List.cons_ne_nil d ds, h⟩
    exact ⟨fun _ ↦ ⟨Int.natCast_nonneg n, hnot⟩, fun htell ↦ absurd htell hnot⟩

/-- An answer that looks like that of an empty queue makes the RPC tell the client to try again. -/
theorem Receives.tellsEmpty (h : Receives pc ret q q')
    (hlen : ∃ buf, pc.transfer = some (buf, clampLen pl c (r.outputs.len.getD 0)))
    (hlook : LooksEmpty pl c r pc ret) : TellsEmpty pc ret := by
  obtain ⟨buf, hbuf⟩ := hlen
  cases h with
  | @read sock buf' len q =>
    obtain ⟨rfl, rfl⟩ := Prod.mk.inj (Option.some.inj hbuf)
    have hzero : clampLen pl c (r.outputs.len.getD 0) = 0 := (clampLen_eq_min _).trans hlook
    rw [hzero]
    exact Int.natCast_eq_zero.2 (Nat.zero_min q)
  | none | datagram => exact hlook

end Queue

/-- **When READ is cleared only from a drained queue**: for a `read` or `recvfrom` during which no
callback runs, exactly if nothing was queued or the answer of picoTCP does not look like that of an
empty queue. -/
theorem drained_iff {s : NetworkStack} {h : History} {i : ℕ} {reply : Reply} {w' : World}
    {pc : PicoCall} {ret : pc.Answer} {s₁ : NetworkStack} {new : History} {q q' : Queue}
    (hr : r.receives = true) (hi : r.handle = some (i : ℤ))
    (ho : Prog.Outcome (rpcEnv sched c r) (rpc pl c r) (s, .begin c r s :: h) reply w')
    (hnew : w'.2 = new ++ .begin c r s :: h) (hcall : .answer c r (.pico pc) ret s₁ ∈ new)
    (hno : NoCallbacks new) (hq : Receives pc ret q q') :
    Drained i s w'.1 reply q q' ↔ ¬ (q.Holds ∧ LooksEmpty pl c r pc ret) := by
  have hrec := Prog.outcome_of_wp (wp_rpc_receipt pl hr hi) ho pc ret s₁ new hnew hcall hno
  have herr := hrec.err hq.succeeds
  constructor
  · rintro hd ⟨hholds, hlook⟩
    exact hd.tryAgain (herr.2 (hq.tellsEmpty hrec.length hlook)) hholds
  · intro hlook
    obtain ⟨hkeep, htell⟩ := hq.keeps hrec.length hlook
    exact ⟨fun hq' hread ↦ hrec.mask.2 ⟨hread, hkeep hq'⟩, fun htry ↦ htell (herr.1 htry)⟩

/-! ### Two reads -/

/-- Client 101's socket is connected, and has data to read. -/
def sampleReadable : World := iterate [announce 7 {.rd}] sampleConnected

theorem reachable_sampleReadable (sched : Schedule) :
    Reachable samplePlatform sched (sampleConfig 5) sampleReadable :=
  reachable_iterate (reachable_sampleConnected sched) (by simp [announce])

/-- Client 101 asks for `len` bytes and picoTCP gives them. -/
def sampleGiven (len : ℕ) : World :=
  served samplePlatform 101 (.read 0 (some len)) (obliging none none) (fun _ w ↦ w) sampleReadable

/-- What has happened during that `read`. -/
def sampleGivenNew (len : ℕ) : History :=
  (sampleGiven len).2.tail.take ((sampleGiven len).2.tail.length - (sampleReadable.2.length + 1))

theorem outcome_sampleGiven (len : ℕ) (hrun : (serve samplePlatform 101 (.read 0 (some len))
      (obliging none none) (fun _ w ↦ w) sampleReadable).isSome = true) :
    ∃ a, Prog.Outcome (rpcEnv .free 101 (.read 0 (some len)))
      (rpc samplePlatform 101 (.read 0 (some len)))
      (sampleReadable.1, .begin 101 (.read 0 (some len)) sampleReadable.1 :: sampleReadable.2) a
      ((sampleGiven len).1, (sampleGiven len).2.tail) :=
  outcome_served (interference_refl .free) hrun

/-- Of five bytes the client takes four, and the last one is still announced. -/
theorem drained_iff_sampleGiven : .read ∈ ((sampleGiven 4).1.sockets 0).eventMask := by
  obtain ⟨a, ho⟩ := outcome_sampleGiven 4 rfl
  have hnew : (sampleGiven 4).2.tail = sampleGivenNew 4 ++
    .begin 101 (.read 0 (some 4)) sampleReadable.1 :: sampleReadable.2 := rfl
  have hcall : .answer 101 (.read 0 (some 4)) (.pico (.read (some 7) (101 * 4096) 4)) (4 : ℤ)
      sampleReadable.1 ∈ sampleGivenNew 4 := List.mem_of_getElem? (i := 3) rfl
  have hiff := drained_iff (i := 0) rfl rfl ho hnew hcall (by decide) (Receives.read (q := 5))
  exact (hiff.2 fun h ↦ absurd (show min 4 4096 = 0 from h.2) (by decide)).kept (by decide)
    (by decide)

/-- Of five bytes the client takes none, and is not told of them again. -/
theorem not_drained :
    ¬ ∀ (pl : Platform) (sched : Schedule) (cfg : Config) (s : NetworkStack) (h : History) (c : ℤ)
      (r : RpcCall) (i : ℕ) (reply : Reply) (w' : World) (pc : PicoCall) (ret : pc.Answer)
      (s₁ : NetworkStack) (new : History) (q q' : Queue), Reachable pl sched cfg (s, h) →
      s.IsClient c → (s.sockets i).status = .inUse → .fin ∉ (s.sockets i).eventMask →
      r.receives = true → r.handle = some (i : ℤ) →
      Prog.Outcome (rpcEnv sched c r) (rpc pl c r) (s, .begin c r s :: h) reply w' →
      w'.2 = new ++ .begin c r s :: h → .answer c r (.pico pc) ret s₁ ∈ new → NoCallbacks new →
      Receives pc ret q q' → Drained i s w'.1 reply q q' := by
  intro hall
  obtain ⟨a, ho⟩ := outcome_sampleGiven 0 rfl
  have hnew : (sampleGiven 0).2.tail = sampleGivenNew 0 ++
    .begin 101 (.read 0 (some 0)) sampleReadable.1 :: sampleReadable.2 := rfl
  have hcall : .answer 101 (.read 0 (some 0)) (.pico (.read (some 7) (101 * 4096) 0)) (0 : ℤ)
      sampleReadable.1 ∈ sampleGivenNew 0 := List.mem_of_getElem? (i := 5) rfl
  have hd := hall samplePlatform .free (sampleConfig 5) sampleReadable.1 sampleReadable.2 101
    (.read 0 (some 0)) 0 a _ _ _ _ _ (.bytes 5) (.bytes 5) (reachable_sampleReadable .free)
      ⟨0, rfl⟩ rfl
    (by decide) rfl rfl ho hnew hcall (by decide) Receives.read
  have hread : .read ∈ ((sampleGiven 0).1.sockets 0).eventMask := hd.kept (by decide) (by decide)
  exact absurd hread (by decide)

end NetworkStackPicoTcp
