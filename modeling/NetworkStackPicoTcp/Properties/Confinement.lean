import NetworkStackPicoTcp.Invariants.Buffers
import NetworkStackPicoTcp.Properties.Events

/-!
# Calls are authorised and stay in the caller's memory

With RPCs and main-loop iterations atomic towards each other, every picoTCP call that an operation
makes on the socket of its handle is authorised (`calls_confined`). That its buffer is the caller's
own holds as long as no `buf_io` is overwritten to which another client's handle refers. An accepted
socket refers to the `buf_io` of its listening socket, and when that handle has been closed and its
slot is reserved by another client, the accepted socket transfers to and from that client's memory
(`not_confined_sampleAliased`).
-/

namespace NetworkStackPicoTcp

open Prog (wp)

variable {pl : Platform} {sched : Schedule} {cfg : Config} {c : ℤ} {r : RpcCall} {α : Type}

/-- The picoTCP call of an operation on slot `i` is one that client `c` may make, and stays in its
memory. -/
structure Authorised (pl : Platform) (c : ℤ) (r : RpcCall) (pc : PicoCall) (w : World) (i : ℕ) :
    Prop where
  handle : r.handle = some (i : ℤ)
  socket : pc.socket = (w.1.sockets i).implementationSocket
  inUse : (w.1.sockets i).status = .inUse
  owner : (w.1.sockets i).clientId = c
  fin : .fin ∉ (w.1.sockets i).eventMask
  type : ∀ t, r.requiredType = some t → (w.1.sockets i).socketType = t
  connection : r.needsConnection = true → Established i w.2
  transfer : ∀ buf len, pc.transfer = some (buf, len) →
    buf = pl.rpcBuf c ∧ len = min (r.outputs.len.getD 0) (pl.rpcBufSize c)

/-! ### Atomic RPCs -/

/-- Since `base` the control thread has not run, unless picoTCP has been called. -/
def Uninterrupted (base w : World) : Prop :=
  ∃ new, w.2 = new ++ base.2 ∧
    ((∃ x ∈ new, x.asksPico = true) ∨ ∀ x ∈ new, x.isControl = false)

theorem Uninterrupted.cons {base w : World} {s : NetworkStack} {x : Entry}
    (h : Uninterrupted base w)
    (hx : x.isControl = false) : Uninterrupted base (s, x :: w.2) := by
  obtain ⟨new, hnew, hold⟩ := h
  refine ⟨x :: new, congrArg (x :: ·) hnew, ?_⟩
  rcases hold with ⟨y, hy, hask⟩ | hno
  · exact Or.inl ⟨y, List.mem_cons_of_mem _ hy, hask⟩
  · exact Or.inr (List.forall_mem_cons.2 ⟨hx, hno⟩)

/-- If RPCs and iterations of the main loop are atomic, callbacks run only inside picoTCP calls. -/
theorem wp_uninterrupted (p : Rpc α) (base : World) :
    wp (rpcEnv .atomic c r) (fun _ ↦ Uninterrupted base) p (fun _ ↦ Uninterrupted base) base := by
  refine Prog.wp_of_invariant (fun f w h ↦ h.cons rfl) ?_ p ⟨[], rfl, Or.inr (by simp)⟩
  rintro e w b _ h ⟨w₁, hint, rfl⟩
  cases e with
  | pico pc =>
    have hel : Elsewhere samplePlatform w w₁ := elsewhere_interference hint
    obtain ⟨new, hnew, -⟩ := hel.control
    obtain ⟨old, hold, -⟩ := h
    refine ⟨.answer c r (.pico pc) b w₁.1 :: (new ++ old), ?_, Or.inl ⟨_, List.mem_cons_self, rfl⟩⟩
    show _ :: w₁.2 = _
    rw [hnew, hold, List.cons_append, List.append_assoc]
  | lock m | unlock m =>
    cases m with
    | stackTS | socketCB =>
      obtain rfl : w₁ = w := hint
      exact h.cons rfl
  | _ =>
    obtain rfl : w₁ = w := hint
    exact h.cons rfl

/-- At the first picoTCP call of an atomic RPC, no callback has run since the RPC began. -/
theorem Waits.undisturbed {base w : World} (hw : Waits pl base w) (hu : Uninterrupted base w) :
    ∃ new, w.2 = new ++ base.2 ∧ ∀ x ∈ new, x.isControl = false := by
  obtain ⟨new, hnew, hask⟩ := hw.unasked
  obtain ⟨new', hnew', hold⟩ := hu
  obtain rfl : new = new' := List.append_cancel_right (hnew.symm.trans hnew')
  refine ⟨new, hnew, hold.resolve_left ?_⟩
  rintro ⟨x, hx, hpico⟩
  exact Bool.false_ne_true ((hask x hx).symm.trans hpico)

/-! ### Authorised calls -/

theorem clampLen_eq_min (len : ℕ) : clampLen pl c len = min len (pl.rpcBufSize c) := by
  unfold clampLen
  split_ifs <;> omega

/-- An operation that transfers data requires one of the two types. -/
theorem requiredType_of_transfer {pc : PicoCall} {buf : BufPtr} {len : ℕ} (hr : r.issues pc = true)
    (ht : pc.transfer = some (buf, len)) :
    r.requiredType = some .stream ∨ r.requiredType = some .dgram := by
  cases pc with
  | write | read | sendto | recvfrom =>
    cases r with
    | write | read => exact Or.inl rfl
    | sendto | recvfrom => exact Or.inr rfl
    | _ => exact absurd hr Bool.false_ne_true
  | _ => exact absurd ht (by simp [PicoCall.transfer])

/-- The length that a transfer works with fits into the dataport of its handle. -/
theorem BufferOf.dataportFits {s : NetworkStack} {i : ℕ} (hb : BufferOf pl s i)
    (ho : (s.sockets i).clientId = c) (len : ℕ) :
    pl.dataportFits (s.sockets i).buf (clampLen pl c len) = true := by
  refine pl.dataportFits_of_le ?_
  rw [clampLen_eq_min, hb.size, ho]
  exact Nat.min_le_right _ _

/-- The call of an operation on its handle is authorised, if the RPC began in tables whose buffers
are in order. -/
theorem authorised {s : NetworkStack} {h : History} {pc : PicoCall} {w : World}
    (hget : ∀ cells d j, d.io = some j → pl.getBuf cells d = cells j)
    (hw : Reachable pl .atomic cfg (s, h)) (hb : Buffers pl s) (hc : s.IsClient c)
    (hat : Prog.CallAt (rpcEnv .atomic c r) (rpc pl c r) (s, .begin c r s :: h) (.pico pc) w)
    (hr : r.issues pc = true) : ∃ i, Authorised pl c r pc w i := by
  obtain ⟨hst, hp⟩ := reachable_stepped hw
  obtain ⟨hwaits, i, hadm, hop⟩ := (issued_of_reachable hw hc hat).entered pc rfl hr
  have hslot := hwaits.frame.slot i
  have hin : (s.sockets i).status = .inUse := by
    obtain ⟨k, hk⟩ := hc
    exact hst.accounting.inUse_of_owns hadm.owns hk
  have hstw : Stepped pl cfg w := (hst.tail (.begin r hc hp)).trans hwaits.micros
  refine ⟨i, hadm.handle, ?_, hslot.status.trans hin, hslot.clientId.trans hadm.owns.2, ?_,
    fun t ht ↦ hslot.socketType.trans (hadm.type t ht), fun hconn ↦ ?_, fun buf len ht ↦ ?_⟩
  · rw [hop.socket, hslot.implementationSocket]
  · -- nothing has been recorded since the check
    have hrun := wp_uninterrupted (c := c) (r := r) (rpc pl c r) (s, .begin c r s :: h)
    have hquiet : Uninterrupted (s, .begin c r s :: h) w := (Prog.wp_iff.1 hrun).2 _ _ hat
    obtain ⟨new, hnew, hctl⟩ := hwaits.undisturbed hquiet
    rw [hwaits.replay hin hnew, mem_replaySlot_eventMask]
    rintro (hfin | ⟨ev, t, t', hm, -⟩)
    · exact hop.fin hfin
    · exact Bool.false_ne_true (hctl _ hm).symm
  · exact hstw.established (hslot.connected (hadm.connected hconn))
  · -- a slot of one of the two types has been filled in, so its buffer is the owner's
    obtain ⟨hbuf, hlen, -⟩ := hop.transfer buf len ht
    have hfilled : (s.sockets i).filled := by
      rcases requiredType_of_transfer hr ht with htype | htype
      · exact Or.inl (hadm.type _ htype)
      · exact Or.inr (hadm.type _ htype)
    obtain ⟨-, -, j, -, hio, hcell⟩ := hb i hadm.owns.1 hin hfilled
    refine ⟨?_, ?_⟩
    · rw [hbuf, hget _ _ j hio, ← hadm.owns.2]
      exact hcell
    · rw [hlen, clampLen_eq_min]

/-- **Calls are authorised and stay in the caller's memory.** Take a run in which RPCs and
iterations of the main loop are atomic, and no `buf_io` has been overwritten to which a handle of a
client with another dataport refers. Let `OS_Dataport_getBuf` return what the `buf_io` that a
dataport was assigned from holds. Then for every RPC of every client:
* its picoTCP call on the socket of its handle is authorised, and its other calls open a socket, set
  an option, or close a socket that it has just been given and has found no handle for;
* `CHECK_DATAPORT_SIZE` does not reject;
* if picoTCP returns no more than the length it is passed, the length reported on success exceeds
  neither the length requested nor the size of the caller's dataport. -/
theorem calls_confined {s : NetworkStack} {h : History}
    (hget : ∀ cells d j, d.io = some j → pl.getBuf cells d = cells j)
    (hw : Reachable pl .atomic cfg (s, h)) (hu : Unaliased pl h) (hc : s.IsClient c) (r : RpcCall) :
    (∀ pc w, Prog.CallAt (rpcEnv .atomic c r) (rpc pl c r) (s, .begin c r s :: h) (.pico pc) w →
      (r.issues pc = true → ∃ i, Authorised pl c r pc w i) ∧
      (r.issues pc = false → pc.isSetup = true ∨ r.acquires = true ∧ pc = .close (obtained w.2))) ∧
    (∀ i, s.Owns c i → (s.sockets i).filled → ∀ len,
      pl.dataportFits (s.sockets i).buf (clampLen pl c len) = true) ∧
    ∀ a w, Prog.Outcome (rpcEnv .atomic c r) (rpc pl c r) (s, .begin c r s :: h) a w →
      AnswersBounded w.2 → a.err = .success →
      a.out.len.getD 0 ≤ r.outputs.len.getD 0 ∧ a.out.len.getD 0 ≤ pl.rpcBufSize c := by
  obtain ⟨hst, -⟩ := reachable_stepped hw
  have hb : Buffers pl s := hst.buffers hu
  refine ⟨fun pc w hat ↦ ⟨authorised hget hw hb hc hat, ?_⟩, fun i ho hfilled len ↦ ?_,
    fun a w ho hbound hsucc ↦ ?_⟩
  · exact (issued_of_reachable hw hc hat).other pc rfl
  · obtain ⟨k, hk⟩ := hc
    exact (hb i ho.1 (hst.accounting.inUse_of_owns ho hk) hfilled).dataportFits ho.2 len
  · have hle := (replied_of_reachable hw hc ho).length hbound hsucc
    rw [clampLen_eq_min] at hle
    exact ⟨hle.trans (Nat.min_le_left _ _), hle.trans (Nat.min_le_right _ _)⟩

/-- A write of client 101 on its connected socket. -/
theorem calls_confined_sampleConnected :
    ∃ w i,
      Authorised samplePlatform 101 (.write 0 (some 10)) (.write (some 7) (101 * 4096) 10) w i ∧
        samplePlatform.dataportFits (sampleConnected.1.sockets 0).buf
          (clampLen samplePlatform 101 10) = true := by
  have hc : sampleConnected.1.IsClient 101 := ⟨0, rfl⟩
  obtain ⟨hcalls, hfits, -⟩ := calls_confined (fun cells d j hio ↦ by simp [samplePlatform, hio])
    (reachable_sampleConnected .atomic) (by decide) hc (.write 0 (some 10))
  have hat : ∃ w, Prog.CallAt (rpcEnv .atomic 101 (.write 0 (some 10)))
      (rpc samplePlatform 101 (.write 0 (some 10)))
      (sampleConnected.1, .begin 101 (.write 0 (some 10)) sampleConnected.1 :: sampleConnected.2)
      (.pico (.write (some 7) (101 * 4096) 10)) w :=
    ⟨_, Or.inr ⟨(), _, ⟨_, interference_refl _ _ _, rfl⟩, Or.inl ⟨rfl, rfl⟩⟩⟩
  obtain ⟨w, hat⟩ := hat
  obtain ⟨i, hauth⟩ := (hcalls _ w hat).1 rfl
  exact ⟨w, i, hauth, hfits 0 ⟨by decide, rfl⟩ (Or.inl rfl) 10⟩

/-! ### An accepted socket whose listener is gone -/

/-- Client 101 accepted a connection and closed the listening handle, and client 102 got its
slot. -/
def sampleAliased : World :=
  served samplePlatform 102 (.create .inet .stream (some 0)) (obliging (some 8) none) (fun _ w ↦ w)
    (served samplePlatform 101 (.close 0) (obliging none none) (fun _ w ↦ w) sampleAccepted)

theorem reachable_sampleAliased (sched : Schedule) :
    Reachable samplePlatform sched (sampleConfig 5) sampleAliased := by
  have haccepted : sampleAccepted.1.IsClient 101 := ⟨0, rfl⟩
  have hclosed : Reachable samplePlatform sched (sampleConfig 5)
      (served samplePlatform 101 (.close 0) (obliging none none) (fun _ w ↦ w) sampleAccepted) :=
    reachable_served (reachable_sampleAccepted sched) (interference_refl sched) haccepted rfl
  have hc : (served samplePlatform 101 (.close 0) (obliging none none) (fun _ w ↦ w)
      sampleAccepted).1.IsClient 102 := ⟨1, rfl⟩
  exact reachable_served hclosed (interference_refl sched) hc rfl

/-- Client 101's write on the accepted socket sends what is in client 102's dataport. -/
theorem not_confined_sampleAliased :
    ¬ ∀ (pl : Platform) (cfg : Config) (s : NetworkStack) (h : History) (c : ℤ) (r : RpcCall)
      (pc : PicoCall) (w : World) (buf : BufPtr) (len : ℕ),
      (∀ cells d j, d.io = some j → pl.getBuf cells d = cells j) →
      Reachable pl .atomic cfg (s, h) → s.IsClient c →
      Prog.CallAt (rpcEnv .atomic c r) (rpc pl c r) (s, .begin c r s :: h) (.pico pc) w →
      r.issues pc = true → pc.transfer = some (buf, len) → buf = pl.rpcBuf c := by
  intro hall
  have hc : sampleAliased.1.IsClient 101 := ⟨0, rfl⟩
  have hat : ∃ w, Prog.CallAt (rpcEnv .atomic 101 (.write 1 (some 10)))
      (rpc samplePlatform 101 (.write 1 (some 10)))
      (sampleAliased.1, .begin 101 (.write 1 (some 10)) sampleAliased.1 :: sampleAliased.2)
      (.pico (.write (some 9) (102 * 4096) 10)) w :=
    ⟨_, Or.inr ⟨(), _, ⟨_, interference_refl _ _ _, rfl⟩, Or.inl ⟨rfl, rfl⟩⟩⟩
  obtain ⟨w, hat⟩ := hat
  have hbuf := hall samplePlatform (sampleConfig 5) _ _ 101 (.write 1 (some 10)) _ w _ _
    (fun cells d j hio ↦ by simp [samplePlatform, hio]) (reachable_sampleAliased .atomic) hc hat
      rfl rfl
  exact absurd hbuf (by decide)

end NetworkStackPicoTcp
