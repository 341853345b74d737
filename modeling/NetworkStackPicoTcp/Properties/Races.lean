import NetworkStackPicoTcp.Invariants.Effects
import NetworkStackPicoTcp.Properties.HandleTable

/-!
# Windows between the two threads

An operation checks the FIN bit of its handle before it gets `stackTS`, and clears READ after it has
released it. In both windows the main loop may run. This module says for each window exactly which
callbacks in it do harm.

* A callback that records FIN while the operation waits for the mutex is not noticed: the operation
  goes on to use a socket that picoTCP has freed (`fin_not_set_iff`).
* A callback that raises READ after the receive call is forgotten when the operation then clears the
  bit (`read_kept_iff`).
-/

namespace NetworkStackPicoTcp

open Prog (wp)

variable {pl : Platform} {sched : Schedule} {cfg : Config} {c : ℤ} {r : RpcCall}

/-! ### Between the check and the lock -/

/-- **When a freed socket is used.** Whenever an RPC makes its picoTCP call on the socket of its
handle, the handle has no FIN recorded exactly if no callback since the RPC began has recorded one
in it. -/
theorem fin_not_set_iff {s : NetworkStack} {h : History} {pc : PicoCall} {w : World}
    (hw : Reachable pl sched cfg (s, h)) (hc : s.IsClient c)
    (hat : Prog.CallAt (rpcEnv sched c r) (rpc pl c r) (s, .begin c r s :: h) (.pico pc) w)
    (hpc : r.issues pc = true) :
    ∃ (i : ℕ) (new : History), r.handle = some (i : ℤ) ∧ w.2 = new ++ .begin c r s :: h ∧
      pc.socket = (w.1.sockets i).implementationSocket ∧
      (.fin ∉ (w.1.sockets i).eventMask ↔ ¬ Raised new i .fin) := by
  obtain ⟨hrests, i, hadm, hop⟩ := (issued_of_reachable hw hc hat).entered pc rfl hpc
  obtain ⟨new, hnew, -⟩ := hrests.entries
  obtain ⟨k, hk⟩ := hc
  have hin : (s.sockets i).status = .inUse :=
    (reachable_stepped hw).1.accounting.inUse_of_owns hadm.owns hk
  refine ⟨i, new, hadm.handle, hnew, ?_, not_congr ?_⟩
  · rw [hop.socket, (hrests.frame.slot i).implementationSocket]
  · rw [hrests.replay hin hnew, mem_replaySlot_eventMask]
    exact or_iff_right hop.fin

/-- Client 101 closes its socket, and nothing happens while it waits for the mutex. -/
theorem fin_not_set_iff_sampleCreated :
    ∃ (i : ℕ) (new : History), (RpcCall.close 0).handle = some (i : ℤ) ∧
      Entry.answer 101 (.close 0) (.lock .stackTS) () sampleCreated.1 ::
          .begin 101 (.close 0) sampleCreated.1 :: sampleCreated.2 =
        new ++ .begin 101 (.close 0) sampleCreated.1 :: sampleCreated.2 ∧
      (PicoCall.close (some 7)).socket = (sampleCreated.1.sockets i).implementationSocket ∧
      (.fin ∉ (sampleCreated.1.sockets i).eventMask ↔ ¬ Raised new i .fin) := by
  let begun : World := (sampleCreated.1, .begin 101 (.close 0) sampleCreated.1 :: sampleCreated.2)
  let locked : World := (begun.1, .answer 101 (.close 0) (.lock .stackTS) () begun.1 :: begun.2)
  have hat : Prog.CallAt (rpcEnv .free 101 (.close 0)) (rpc samplePlatform 101 (.close 0)) begun
      (.pico (.close (some 7))) locked :=
    Or.inr ⟨(), locked, ⟨begun, interference_refl _ _ begun, rfl⟩, Or.inl ⟨rfl, rfl⟩⟩
  exact fin_not_set_iff (w := locked) (reachable_sampleCreated .free) ⟨0, rfl⟩ hat rfl

/-- FIN is recorded for the socket while `close` waits for the mutex, and `close` then passes the
freed socket to picoTCP. -/
theorem fin_set_sampleCreated :
    ¬ ∀ (pl : Platform) (sched : Schedule) (cfg : Config) (s : NetworkStack) (h : History) (c : ℤ)
      (r : RpcCall) (pc : PicoCall) (w : World), Reachable pl sched cfg (s, h) → s.IsClient c →
      Prog.CallAt (rpcEnv sched c r) (rpc pl c r) (s, .begin c r s :: h) (.pico pc) w →
      r.issues pc = true →
      ∀ i : ℕ, r.handle = some (i : ℤ) → .fin ∉ (w.1.sockets i).eventMask := by
  intro hall
  let begun : World := (sampleCreated.1, .begin 101 (.close 0) sampleCreated.1 :: sampleCreated.2)
  let freed : World := iterate [announce 7 {.fin}] begun
  let locked : World := (freed.1, .answer 101 (.close 0) (.lock .stackTS) () freed.1 :: freed.2)
  have hint : MainLoop begun freed := .single (mainLoopIteration_iterate (by simp [announce]))
  have hat : Prog.CallAt (rpcEnv .free 101 (.close 0)) (rpc samplePlatform 101 (.close 0)) begun
      (.pico (.close (some 7))) locked :=
    Or.inr ⟨(), locked, ⟨freed, hint, rfl⟩, Or.inl ⟨rfl, rfl⟩⟩
  have hfin := hall samplePlatform .free _ _ _ 101 (.close 0) (.close (some 7)) locked
    (reachable_sampleCreated .free) ⟨0, rfl⟩ hat rfl 0 rfl
  exact hfin (by decide)

/-! ### After the unlock -/

/-- The entry is the answer of the picoTCP call that an operation makes on its socket. -/
def Entry.isOperation : Entry → Bool
  | .answer _ r (.pico pc) _ _ => r.issues pc
  | _ => false

/-- The operation on slot `i` that began in `w` has made its picoTCP call, which returned `ret`;
`late` is what has happened since, and no bit raised in it has been lost. -/
structure Called (c : ℤ) (r : RpcCall) (i : ℕ) (pc : PicoCall) (w : World) (ret : pc.Answer)
    (w' : World) (late : History) : Prop where
  entries : ∃ s₁ early, w'.2 = late ++ .answer c r (.pico pc) ret s₁ :: (early ++ w.2) ∧
    ∀ x ∈ early, x.isOperation = false
  after : ∀ x ∈ late, x.isOperation = false
  kept : ∀ b, Raised late i b → b ∈ (w'.1.sockets i).eventMask

theorem isOperation_of_isControl {x : Entry} (h : x.isControl = true) : x.isOperation = false := by
  cases x <;> simp_all [Entry.isControl, Entry.isOperation]

/-- The locked section of an operation. Its own write does not touch the mask, so what the main loop
raises after the unlock is there when the section is left. -/
theorem wp_lockedCall {i : ℕ} {pc : PicoCall} {w : World} {Q : pc.Answer × OsError → World → Prop}
    (hin : (w.1.sockets i).status = .inUse)
    (h : ∀ a w' late, Called c r i pc w a.1 w' late → Q a w') :
    wp (rpcEnv sched c r) (fun _ _ ↦ True) (lockedCall i pc) Q w := by
  simp only [lockedCall, Prog.wp_bind, Prog.wp_modify, Prog.wp_pure]
  -- the control thread runs before the lock, inside picoTCP and after the unlock
  refine ⟨trivial, ?_⟩
  rintro ⟨⟩ _ ⟨w₁, hint₁, rfl⟩
  refine ⟨trivial, ?_⟩
  rintro ret _ ⟨w₂, hint₂, rfl⟩
  refine ⟨trivial, ?_⟩
  rintro e _ ⟨_, hquiet, rfl⟩
  obtain rfl := quiet_picoErr sched _ _ hquiet
  refine ⟨trivial, ?_⟩
  rintro ⟨⟩ _ ⟨w₃, hint₃, rfl⟩
  have hel₁ : Elsewhere samplePlatform _ w₁ := elsewhere_interference hint₁
  have hel₂ : Elsewhere samplePlatform _ w₂ := elsewhere_interference hint₂
  have hel₃ : Elsewhere samplePlatform _ w₃ := elsewhere_interference hint₃
  obtain ⟨new₁, hn₁, hc₁⟩ := hel₁.control
  obtain ⟨new₂, hn₂, hc₂⟩ := hel₂.control
  obtain ⟨new₃, hn₃, hc₃⟩ := hel₃.control
  have hin₂ : ((w₂.1.updateSocket i (SocketResources.setError (picoErr2Os e))).sockets i).status =
      .inUse := by
    rw [NetworkStack.updateSocket_sockets_self]
    exact ((hel₁.frame.trans hel₂.frame).slot i).status.trans hin
  refine h (ret, picoErr2Os e) _ (.answer c r (.unlock .stackTS) () w₃.1 :: new₃ ++
    [.own c r w₂.1 (w₂.1.updateSocket i (SocketResources.setError (picoErr2Os e))),
      .answer c r .picoErr e w₂.1])
        ⟨⟨w₂.1, new₂ ++ .answer c r (.lock .stackTS) () w₁.1 :: new₁, ?_, ?_⟩,
    ?_, fun b hb ↦ ?_⟩
  · show _ :: w₃.2 = _
    rw [hn₃, hn₂, hn₁]
    simp
  · intro x hx
    simp only [List.mem_append, List.mem_cons] at hx
    rcases hx with hx | rfl | hx
    · exact isOperation_of_isControl (hc₂ x hx)
    · rfl
    · exact isOperation_of_isControl (hc₁ x hx)
  · intro x hx
    simp only [List.mem_append, List.mem_cons, List.not_mem_nil, or_false] at hx
    rcases hx with (rfl | hx) | rfl | rfl
    · rfl
    · exact isOperation_of_isControl (hc₃ x hx)
    · rfl
    · rfl
  · show b ∈ (w₃.1.sockets i).eventMask
    rw [hel₃.replay hin₂ hn₃, mem_replaySlot_eventMask]
    right
    obtain ⟨ev, t, t', hm, hl, hb⟩ := hb
    simp only [List.mem_append, List.mem_cons, List.not_mem_nil, or_false, reduceCtorEq,
      false_or] at hm
    exact ⟨ev, t, t', hm, hl, hb⟩

/-- With this result of picoTCP the operation leaves the READ bit alone: the buffer has been filled,
or a datagram has been received. -/
def KeepsRead : (pc : PicoCall) → pc.Answer → Prop
  | .read _ _ len, ret => 0 < ret ∧ (len : ℤ) ≤ ret
  | .recvfrom _ _ _, ret => 0 ≤ ret.1 ∧ ¬ (ret.1 = 0 ∧ ret.2.1 = 0 ∧ ret.2.2 = 0)
  | _, _ => True

/-- Of the operation that began in `w` and has returned in `w'`: a READ bit raised after its picoTCP
call is still set exactly if the result of the call was one with which the operation leaves the bit
alone. -/
def ReadKept (c : ℤ) (r : RpcCall) (i : ℕ) (w w' : World) : Prop :=
  ∀ (late early : History) (pc : PicoCall) (ret : pc.Answer) (s₁ : NetworkStack),
    r.issues pc = true →
    w'.2 = late ++ .answer c r (.pico pc) ret s₁ :: (early ++ w.2) →
    ((Raised late i .read → .read ∈ (w'.1.sockets i).eventMask) ↔
      (Raised late i .read → KeepsRead pc ret))

section Receive

variable {i : ℕ} {w w₁ w' : World} {pc : PicoCall} {ret : pc.Answer} {late : History}

/-- An operation that has made no picoTCP call has nothing to keep. -/
theorem readKept_of_forall {new : History} (hnew : w'.2 = new ++ w.2)
    (h : ∀ x ∈ new, x.isOperation = false) : ReadKept c r i w w' := by
  intro late early pc ret s₁ hpc heq
  exfalso
  have hlist : new = late ++ .answer c r (.pico pc) ret s₁ :: early := by
    refine List.append_cancel_right (hnew.symm.trans (heq.trans ?_))
    simp
  have hop := h (.answer c r (.pico pc) ret s₁) (by simp [hlist])
  simp [Entry.isOperation, hpc] at hop

/-- After its locked section an operation either leaves the mask alone or drops READ. -/
theorem readKept_of_called (tail : History) (hcall : Called c r i pc w ret w₁ late)
    (htail : w'.2 = tail ++ w₁.2)
    (hop : ∀ x ∈ tail, x.isOperation = false) (hctl : ∀ ev s s', Entry.event ev s s' ∉ tail)
    (hkeep : KeepsRead pc ret → w'.1.sockets i = w₁.1.sockets i)
    (hdrop : ¬ KeepsRead pc ret → .read ∉ (w'.1.sockets i).eventMask) : ReadKept c r i w w' := by
  intro late' early' pc' ret' s' hpc' heq
  obtain ⟨⟨s₁, early, hent, hearly⟩, hlate, hkept⟩ := hcall
  -- the operation calls picoTCP once, so the two ways to split the history are one
  have hsplit : (tail ++ late ++ .answer c r (.pico pc) ret s₁ :: early) ++ w.2 =
      (late' ++ .answer c r (.pico pc') ret' s' :: early') ++ w.2 := by
    rw [htail, hent] at heq
    simpa using heq
  have hlist := List.append_cancel_right hsplit
  have hne : ∀ l : History, (∀ x ∈ l, x.isOperation = false) →
      .answer c r (.pico pc') ret' s' ∉ l := by
    intro l hl hm
    have hx := hl _ hm
    simp [Entry.isOperation, hpc'] at hx
  have hafter : ∀ x ∈ tail ++ late, x.isOperation = false := by
    intro x hx
    rcases List.mem_append.1 hx with hx | hx
    · exact hop x hx
    · exact hlate x hx
  obtain ⟨rfl, hans, -⟩ := (List.append_cons_inj_of_notMem (hne _ hafter) (hne _ hearly)).1 hlist
  obtain ⟨-, -, hpc₁, hret, -⟩ := Entry.answer.inj hans
  obtain rfl := Call.pico.inj hpc₁
  obtain rfl := eq_of_heq hret
  rw [raised_append, or_iff_right (not_raised_of_forall hctl)]
  by_cases hk : KeepsRead pc ret
  · rw [hkeep hk]
    exact ⟨fun _ _ ↦ hk, fun _ ↦ hkept .read⟩
  · exact ⟨fun h hr ↦ absurd (h hr) (hdrop hk), fun h hr ↦ absurd (h hr) hk⟩

/-- The operation has not called picoTCP. -/
theorem readKept_self : ReadKept c r i w w := readKept_of_forall (List.nil_append _).symm (by simp)

/-- The operation drops READ after its locked section, and may then wake up the main loop. -/
theorem readKept_clear (tail : History) (hcall : Called c r i pc w ret w₁ late)
    (hk : ¬ KeepsRead pc ret) (htail : w'.2 = tail ++ w₁.2)
    (hop : ∀ x ∈ tail, x.isOperation = false) (hctl : ∀ ev s s', Entry.event ev s s' ∉ tail)
    (hs : w'.1 = w₁.1.updateSocket i (SocketResources.clear {.read})) : ReadKept c r i w w' := by
  refine readKept_of_called tail hcall htail hop hctl (fun h ↦ absurd h hk) fun _ ↦ ?_
  simp [hs, SocketResources.clear]

theorem wp_picoSocketRead {len : ℕ} (hi : i < w.1.numberOfSockets)
    (hin : (w.1.sockets i).status = .inUse) :
    wp (rpcEnv sched c r) (fun _ _ ↦ True) (picoSocketRead pl i len)
      (fun _ w' ↦ ReadKept c r i w w') w := by
  refine wp_withOpenSocket_fits hi (fun _ _ ↦ readKept_self) fun _ _ _ ↦ ?_
  simp only [Prog.wp_bind]
  refine wp_lockedCall hin fun a w₁ late hcall ↦ ?_
  split_ifs with hneg hzero hshort
  · exact readKept_clear [_] hcall (fun hk ↦ not_lt.2 hneg.le hk.1) rfl
      (by simp [Entry.isOperation]) (by simp) rfl
  · simp only [Prog.wp_bind, Prog.wp_modify]
    refine ⟨trivial, ?_⟩
    rintro ⟨⟩ _ ⟨_, hquiet, rfl⟩
    obtain rfl := quiet_notifyMainLoop sched _ _ hquiet
    exact readKept_clear [_, _] hcall (fun hk ↦ hk.1.ne' hzero) rfl
      (by simp [Entry.isOperation]) (by simp) rfl
  · exact readKept_clear [_] hcall (fun hk ↦ not_le.2 hshort hk.2) rfl
      (by simp [Entry.isOperation]) (by simp) rfl
  · refine readKept_of_called [] hcall rfl (by simp) (by simp) (fun _ ↦ rfl) fun hk ↦ ?_
    exact absurd ⟨lt_of_le_of_ne (not_lt.1 hneg) (Ne.symm hzero), not_lt.1 hshort⟩ hk

theorem wp_picoSocketRecvfrom {len : ℕ} {srcAddr : OsSocketAddr} (hi : i < w.1.numberOfSockets)
    (hin : (w.1.sockets i).status = .inUse) :
    wp (rpcEnv sched c r) (fun _ _ ↦ True) (picoSocketRecvfrom pl i len srcAddr)
      (fun _ w' ↦ ReadKept c r i w w') w := by
  refine wp_withOpenSocket_fits hi (fun _ _ ↦ readKept_self) fun _ _ _ ↦ ?_
  simp only [Prog.wp_bind]
  refine wp_lockedCall hin fun a w₁ late hcall ↦ ?_
  split_ifs with hneg hnone
  · exact readKept_clear [_] hcall (fun hk ↦ not_le.2 hneg hk.1) rfl
      (by simp [Entry.isOperation]) (by simp) rfl
  · simp only [Prog.wp_bind, Prog.wp_modify]
    refine ⟨trivial, ?_⟩
    rintro ⟨⟩ _ ⟨_, hquiet, rfl⟩
    obtain rfl := quiet_notifyMainLoop sched _ _ hquiet
    exact readKept_clear [_, _] hcall (fun hk ↦ hk.2 hnone) rfl (by simp [Entry.isOperation])
      (by simp) rfl
  · refine readKept_of_called [] hcall rfl (by simp) (by simp) (fun _ ↦ rfl) fun hk ↦ ?_
    exact absurd ⟨not_lt.1 hneg, hnone⟩ hk

end Receive

/-- `pico_socket_read` returns `ret`. -/
def reading (ret : ℤ) : (e : Call) → Option e.Answer
  | .pico (.read _ _ _) => some ret
  | e => obliging none none e

/-- **When a READ wake-up survives.** Take any run of a `read` or `recvfrom` that has called
picoTCP. A READ bit raised after that call is still set when the RPC returns, exactly if no such bit
was raised or the result of the call makes the RPC leave the bit alone. -/
theorem read_kept_iff {s : NetworkStack} {h : History} {i : ℕ} {a : Reply} {w' : World}
    {pc : PicoCall} {ret : pc.Answer} {s₁ : NetworkStack} {late early : History}
    (hw : Reachable pl sched cfg (s, h)) (hc : s.IsClient c) (hr : r.receives = true)
    (hi : r.handle = some (i : ℤ))
    (ho : Prog.Outcome (rpcEnv sched c r) (rpc pl c r) (s, .begin c r s :: h) a w')
    (hpc : r.issues pc = true)
    (hcall : w'.2 = late ++ .answer c r (.pico pc) ret s₁ :: (early ++ .begin c r s :: h)) :
    (Raised late i .read → .read ∈ (w'.1.sockets i).eventMask) ↔
      (Raised late i .read → KeepsRead pc ret) := by
  suffices hkept : ReadKept c r i (s, .begin c r s :: h) w' from
    hkept late early pc ret s₁ hpc hcall
  have hin : s.Owns c i → (s.sockets i).status = .inUse := by
    intro howns
    obtain ⟨k, hk⟩ := hc
    exact (reachable_stepped hw).1.accounting.inUse_of_owns howns hk
  refine Prog.outcome_of_wp (C := fun _ _ ↦ True) (Q := fun _ w' ↦ ReadKept c r i _ w') ?_ ho
  cases r with
  | read handle pLen =>
    obtain rfl := Option.some.inj hi
    simp only [rpc, rpcSocketRead, Prog.wp_map]
    refine wp_guarded (fun _ _ ↦ readKept_self) fun hch ↦ ?_
    obtain ⟨j, hj, ha⟩ := admitted_of_checks pl (.read i pLen) hch rfl
    obtain rfl := Int.ofNat_inj.1 hj
    simp only [Prog.wp_bind, Prog.wp_pure]
    exact wp_picoSocketRead ha.owns.1 (hin ha.owns)
  | recvfrom handle pLen srcAddr =>
    obtain rfl := Option.some.inj hi
    simp only [rpc, rpcSocketRecvfrom, Prog.wp_map]
    refine wp_guarded (fun _ _ ↦ readKept_self) fun hch ↦ ?_
    obtain ⟨j, hj, ha⟩ := admitted_of_checks pl (.recvfrom i pLen srcAddr) hch rfl
    obtain rfl := Int.ofNat_inj.1 hj
    obtain ⟨addr, rfl⟩ := ptr_of_checks pl srcAddr hch (by simp)
    simp only [Prog.wp_bind, Prog.wp_pure]
    exact wp_picoSocketRecvfrom ha.owns.1 (hin ha.owns)
  | _ => simp [RpcCall.receives] at hr

/-- Client 101 reads from its connected socket, `pico_socket_read` returns `ret`, and right after
the release of the mutex picoTCP announces new data. -/
def sampleRead (ret : ℤ) : World :=
  served samplePlatform 101 (.read 0 (some 10)) (reading ret) (afterUnlock 7 {.rd}) sampleConnected

theorem outcome_sampleRead (ret : ℤ) (hrun : (serve samplePlatform 101 (.read 0 (some 10))
      (reading ret) (afterUnlock 7 {.rd}) sampleConnected).isSome = true) :
    ∃ a, Prog.Outcome (rpcEnv .free 101 (.read 0 (some 10)))
      (rpc samplePlatform 101 (.read 0 (some 10)))
      (sampleConnected.1, .begin 101 (.read 0 (some 10)) sampleConnected.1 :: sampleConnected.2) a
      ((sampleRead ret).1, (sampleRead ret).2.tail) := by
  have hint := interference_afterUnlock 7 {.rd}
  exact outcome_served hint hrun

/-- The buffer was filled, so the announced data is not forgotten. -/
theorem read_kept_iff_sampleConnected :
    Raised (List.take 5 (sampleRead 10).2.tail) 0 .read ∧
      .read ∈ ((sampleRead 10).1.sockets 0).eventMask := by
  obtain ⟨a, ho⟩ := outcome_sampleRead 10 rfl
  have hc : sampleConnected.1.IsClient 101 := ⟨0, rfl⟩
  have hcall : (sampleRead 10).2.tail = List.take 5 (sampleRead 10).2.tail ++
      .answer 101 (.read 0 (some 10)) (.pico (.read (some 7) (101 * 4096) 10)) (10 : ℤ)
        sampleConnected.1 ::
      ([.answer 101 (.read 0 (some 10)) (.lock .stackTS) () sampleConnected.1] ++
        .begin 101 (.read 0 (some 10)) sampleConnected.1 :: sampleConnected.2) := rfl
  have hraised : Raised (List.take 5 (sampleRead 10).2.tail) 0 .read := by
    have hm : ∃ s s', (List.take 5 (sampleRead 10).2.tail)[2]? =
        some (.event (announce 7 {.rd}) s s') ∧
        s.getHandleFromImplementationSocket (some 7) = some 0 := ⟨_, _, rfl, rfl⟩
    obtain ⟨s, s', hm, hl⟩ := hm
    exact ⟨_, s, s', List.mem_of_getElem? hm, hl, by decide⟩
  have hiff := read_kept_iff (s := sampleConnected.1) (h := sampleConnected.2)
    (reachable_sampleConnected .free) hc rfl rfl ho rfl hcall
  exact ⟨hraised, hiff.2 (fun _ ↦ ⟨by decide, by decide⟩) hraised⟩

/-- `pico_socket_read` had nothing to return, and the bit raised right afterwards is dropped. -/
theorem read_lost_sampleConnected :
    ¬ ∀ (pl : Platform) (sched : Schedule) (cfg : Config) (s : NetworkStack) (h : History) (c : ℤ)
      (r : RpcCall) (i : ℕ) (a : Reply) (w' : World) (pc : PicoCall) (ret : pc.Answer)
      (s₁ : NetworkStack) (late early : History), Reachable pl sched cfg (s, h) → s.IsClient c →
      r.receives = true → r.handle = some (i : ℤ) →
      Prog.Outcome (rpcEnv sched c r) (rpc pl c r) (s, .begin c r s :: h) a w' →
      r.issues pc = true →
      w'.2 = late ++ .answer c r (.pico pc) ret s₁ :: (early ++ .begin c r s :: h) →
      Raised late i .read → .read ∈ (w'.1.sockets i).eventMask := by
  intro hall
  obtain ⟨a, ho⟩ := outcome_sampleRead 0 rfl
  have hc : sampleConnected.1.IsClient 101 := ⟨0, rfl⟩
  have hcall : (sampleRead 0).2.tail = List.take 7 (sampleRead 0).2.tail ++
      .answer 101 (.read 0 (some 10)) (.pico (.read (some 7) (101 * 4096) 10)) (0 : ℤ)
        sampleConnected.1 ::
      ([.answer 101 (.read 0 (some 10)) (.lock .stackTS) () sampleConnected.1] ++
        .begin 101 (.read 0 (some 10)) sampleConnected.1 :: sampleConnected.2) := rfl
  have hraised : Raised (List.take 7 (sampleRead 0).2.tail) 0 .read := by
    have hm : ∃ s s', (List.take 7 (sampleRead 0).2.tail)[4]? =
        some (.event (announce 7 {.rd}) s s') ∧
        s.getHandleFromImplementationSocket (some 7) = some 0 := ⟨_, _, rfl, rfl⟩
    obtain ⟨s, s', hm, hl⟩ := hm
    exact ⟨_, s, s', List.mem_of_getElem? hm, hl, by decide⟩
  have hkept := hall samplePlatform .free _ sampleConnected.1 sampleConnected.2 101 _ 0 a _ _ _
    _ _ _
    (reachable_sampleConnected .free) hc rfl rfl ho rfl hcall hraised
  revert hkept
  decide

end NetworkStackPicoTcp
