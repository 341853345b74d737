import NetworkStackPicoTcp.Properties.Fairness

/-!
# How long a client waits for an event

Each successful call of `getPendingEvents` looks at one slot at least, whatever the size of the
buffer, and the looks go round the table. So a slot that has an event for its client all the time is
told to it with the `numberOfSockets`-th such call at the latest, and after fewer than
`numberOfSockets` records of other slots (`wait_bounded`).
-/

namespace NetworkStackPicoTcp

open Prog (wp)
open RoundRobin (Run)

variable {pl : Platform} {sched : Schedule} {cfg : Config} {c c' : ℤ} {r : RpcCall} {i k n : ℕ}
  {x : Entry} {w w' : World} {new old h : History} {α : Type}

/-- A call of `getPendingEvents` by client `c` returns `OS_SUCCESS`. -/
def Entry.collects (c : ℤ) : Entry → Bool
  | .reply c' r a _ => r.isSweep && decide (c' = c) && decide (a.err = .success)
  | _ => false

/-- How many slots the sweeps of client `c` have looked at. -/
def looks (c : ℤ) (h : History) : ℕ := (scanned c h).countP RoundRobin.Event.isLook

theorem scanned_append : scanned c (new ++ old) = scanned c new ++ scanned c old :=
  List.filterMap_append ..

@[simp] theorem looks_append : looks c (new ++ old) = looks c new + looks c old := by
  rw [looks, scanned_append, List.countP_append]
  rfl

/-- The reports of the cursor are the records of its client. -/
theorem countP_reports (c : ℤ) (h : History) :
    (scanned c h).countP RoundRobin.Event.isReport = (taken h).countP fun rec ↦
      decide (rec.1 = c) := by
  rw [scanned, taken, List.countP_filterMap, List.countP_filterMap]
  refine congrFun (congrArg List.countP (funext fun x ↦ ?_)) h
  cases x with
  | answer c' r e b s =>
    cases e with
    | lock m =>
      cases m with
      | stackTS =>
        rw [Entry.scan, Entry.taken]
        by_cases hr : r.isSweep = true
        · by_cases hc : c' = c
          · rw [if_pos ⟨hr, hc⟩, if_pos hr]
            exact (decide_eq_true hc).symm
          · rw [if_neg fun h ↦ hc h.2, if_pos hr]
            exact (decide_eq_false hc).symm
        · rw [if_neg fun h ↦ hr h.1, if_neg hr]
          rfl
      | socketCB => rfl
    | preempt =>
      rw [Entry.scan]
      split_ifs <;> rfl
    | _ => rfl
  | _ => rfl

/-! ### A successful call looks at a slot -/

/-- The control thread returns from no RPC. -/
theorem not_isReply_of_isControl (h : x.isControl = true) : x.isReply = false := by
  cases x <;> first | rfl | exact absurd h Bool.false_ne_true

/-- Since `h` no RPC has returned, and the sweeps of client `c` have looked at `n` slots or more. -/
def Looked (n : ℕ) (c : ℤ) (h : History) (w : World) : Prop :=
  ∃ new, w.2 = new ++ h ∧ (∀ x ∈ new, x.isReply = false) ∧ n ≤ looks c new

namespace Looked

theorem refl (c : ℤ) (w : World) : Looked 0 c w.2 w := ⟨[], rfl, by simp, Nat.zero_le _⟩

theorem grow (hw : Looked n c h w) (hnew : w'.2 = new ++ w.2) (hx : ∀ x ∈ new, x.isReply = false) :
    Looked n c h w' := by
  obtain ⟨old, hold, hold', hn⟩ := hw
  refine ⟨new ++ old, by rw [hnew, hold, List.append_assoc], ?_, by rw [looks_append]; omega⟩
  exact List.forall_mem_append.2 ⟨hx, hold'⟩

theorem cons {s : NetworkStack} (hw : Looked n c h w) (hx : x.isReply = false) :
    Looked n c h (s, x :: w.2) := by
  have hnew : (s, x :: w.2).2 = [x] ++ w.2 := rfl
  exact hw.grow hnew (List.forall_mem_singleton.2 hx)

theorem interference {e : Call} (hw : Looked n c h w) (hint : Interference sched e w w') :
    Looked n c h w' := by
  have hel : Elsewhere samplePlatform w w' := elsewhere_interference hint
  obtain ⟨new, hnew, hctl⟩ := hel.control
  exact hw.grow hnew fun x hx ↦ not_isReply_of_isControl (hctl x hx)

/-- No code of an RPC takes a look back. -/
theorem wp_keeps (p : Rpc α) (hw : Looked n c h w) :
    wp (rpcEnv sched c' r) (fun _ _ ↦ True) p (fun _ ↦ Looked n c h) w := by
  have hkeep : wp (rpcEnv sched c' r) (fun _ ↦ Looked n c h) p (fun _ ↦ Looked n c h) w := by
    refine Prog.wp_of_invariant ?_ ?_ p hw
    · intro f w hw
      exact hw.cons rfl
    · rintro e w b _ hw ⟨w₁, hint, rfl⟩
      exact (hw.interference hint).cons rfl
  exact Prog.wp_mono (fun _ _ _ ↦ trivial) (fun _ _ h ↦ h) hkeep

end Looked

/-- The sweep begins with a look. -/
theorem wp_sweep_looked {fuel maxEvents offset events : ℕ} (hr : r.isSweep = true) :
    wp (rpcEnv sched c r) (fun _ _ ↦ True) (sweep pl c k maxEvents fuel offset events)
      (fun _ ↦ Looked 1 c w.2) w := by
  cases fuel with
  | zero => exact ⟨trivial, fun b ↦ b.elim⟩
  | succ fuel =>
    refine Prog.wp_bind.2 ⟨trivial, ?_⟩
    rintro ⟨⟩ _ ⟨w₁, hint, rfl⟩
    obtain ⟨new, hnew, hquiet, -⟩ := (Looked.refl c w).interference hint
    refine Looked.wp_keeps _ ⟨.answer c r .preempt () w₁.1 :: new, by rw [hnew]; rfl, ?_, ?_⟩
    · exact List.forall_mem_cons.2 ⟨rfl, hquiet⟩
    · have hscan : (Entry.answer c r .preempt () w₁.1).scan c = some (.look _ _) := if_pos ⟨hr, rfl⟩
      rw [looks, scanned_cons_some hscan, List.countP_cons_of_pos rfl]
      omega

/-- An RPC returns once, and a call of `getPendingEvents` that returns `OS_SUCCESS` has looked at a
slot. -/
theorem looked_of_outcome {a : Reply} (ho : Prog.Outcome (rpcEnv sched c r) (rpc pl c r) w a w') :
    Looked (if r.isSweep = true ∧ a.err = .success then 1 else 0) c w.2 w' := by
  split_ifs with hsuccess
  · obtain ⟨hr, ha⟩ := hsuccess
    cases r with
    | getPendingEvents size pNumberOfEvents =>
      have hwp : wp (rpcEnv sched c (.getPendingEvents size pNumberOfEvents)) (fun _ _ ↦ True)
          (rpcSocketGetPendingEvents pl c size pNumberOfEvents)
          (fun a w' ↦ a.1 = .success → Looked 1 c w.2 w') w := by
        refine wp_guarded (fun e he hsuccess ↦ absurd hsuccess ?_) fun _ ↦ ?_
        · exact firstError_ne_success
            (checks_ne_success pl c (.getPendingEvents size pNumberOfEvents) w.1) he
        · rw [Prog.wp_bind, Prog.wp_get]
          split
          · exact fun h ↦ OsError.noConfusion h
          · refine Prog.wp_bind.2 (Prog.wp_mono (fun _ _ _ ↦ trivial) (fun events w₁ hw₁ ↦ ?_)
              (wp_sweep_looked rfl))
            exact Prog.wp_mono (fun _ _ _ ↦ trivial) (fun _ _ h _ ↦ h) (Looked.wp_keeps _ hw₁)
      exact Prog.outcome_of_wp (Q := fun a w' ↦ a.err = .success → Looked 1 c w.2 w')
        (Prog.wp_map.2 hwp) ho ha
    | _ => exact absurd hr (by simp [RpcCall.isSweep])
  · exact Prog.outcome_of_wp (Q := fun _ ↦ Looked 0 c w.2) (Looked.wp_keeps _ (Looked.refl c w)) ho

/-- In a step of the component, a client has no more successful calls than looks. -/
theorem Step.collects_le (hs : Step pl sched w w') (c : ℤ) :
    ∃ new, w'.2 = new ++ w.2 ∧ new.countP (Entry.collects c) ≤ looks c new := by
  have hquiet : ∀ new : History, (∀ x ∈ new, x.isReply = false) →
      new.countP (Entry.collects c) = 0 := by
    intro new hnew
    refine List.countP_eq_zero.2 fun x hx ↦ ?_
    have hx' := hnew x hx
    cases x with
    | reply => exact absurd hx'.symm Bool.false_ne_true
    | _ => exact Bool.false_ne_true
  cases hs with
  | @rpc s s' h h' c' r a hc ho =>
    obtain ⟨new, hnew, hnone, hlooks⟩ := looked_of_outcome ho
    have hgrown : h' = new ++ .begin c' r s :: h := hnew
    refine ⟨.reply c' r a s' :: (new ++ [.begin c' r s]), by simp [hgrown], ?_⟩
    have hbegin : looks c [.begin c' r s] = 0 := rfl
    have hreply : looks c (.reply c' r a s' :: (new ++ [.begin c' r s])) = looks c new := by
      rw [looks, scanned_cons_some rfl, List.countP_cons_of_neg (by simp [RoundRobin.Event.isLook])]
      show looks c (new ++ [.begin c' r s]) = _
      rw [looks_append, hbegin, Nat.add_zero]
    have hcount : (new ++ [Entry.begin c' r s]).countP (Entry.collects c) = 0 := by
      refine hquiet _ (List.forall_mem_append.2 ⟨hnone, by simp [Entry.isReply]⟩)
    rw [hreply, List.countP_cons, hcount]
    by_cases hx : Entry.collects c (.reply c' r a s') = true
    · obtain ⟨⟨hr, rfl⟩, ha⟩ : (r.isSweep = true ∧ c' = c) ∧ a.err = .success := by
        simpa [Entry.collects] using hx
      rw [if_pos ⟨hr, ha⟩] at hlooks
      rw [if_pos hx]
      exact hlooks
    · rw [if_neg hx]
      exact Nat.zero_le _
  | mainLoop hi =>
    have hel : Elsewhere pl w w' := elsewhere_mainLoopIteration hi
    obtain ⟨new, hnew, hctl⟩ := hel.control
    have hnone := hquiet new fun x hx ↦ not_isReply_of_isControl (hctl x hx)
    exact ⟨new, hnew, hnone.trans_le (Nat.zero_le _)⟩
  | setState => exact ⟨[], rfl, Nat.le_refl 0⟩

/-- In a run, a client has no more successful calls than looks. -/
theorem collects_le (hs : Relation.ReflTransGen (Step pl sched) w w') (c : ℤ) :
    ∃ new, w'.2 = new ++ w.2 ∧ new.countP (Entry.collects c) ≤ looks c new := by
  induction hs with
  | refl => exact ⟨[], rfl, Nat.le_refl 0⟩
  | tail _ hs ih =>
    obtain ⟨new, hnew, hle⟩ := ih
    obtain ⟨newer, hnewer, hle'⟩ := hs.collects_le c
    refine ⟨newer ++ new, by rw [hnewer, hnew, List.append_assoc], ?_⟩
    rw [List.countP_append, looks_append]
    omega

/-! ### The wait is bounded -/

/-- Between RPCs, all records taken have been written. -/
theorem taken_eq_written (hw : Reachable pl sched cfg w) : taken w.2 = written w.2 := by
  obtain ⟨hst, hp⟩ := reachable_stepped hw
  have hwt : taken w.2 = unwritten w.2 ++ written w.2 := hst.writesTaken
  rwa [unwritten_eq_nil fun evt h ↦ SweepPhase.noConfusion (hp.symm.trans h)] at hwt

/-- **The wait is bounded.** Go on from any reachable world with any steps. While slot `i` has an
event for its client all the time and is not told to it, fewer than `numberOfSockets` of the
client's calls of `getPendingEvents` succeed, and fewer than `numberOfSockets` records are written
for it. -/
theorem wait_bounded (hw : Reachable pl sched cfg w)
    (hs : Relation.ReflTransGen (Step pl sched) w w')
    (hc : w.1.IsClient c) (hi : i < w.1.numberOfSockets) (hnew : w'.2 = new ++ w.2)
    (hdue : ∀ y ∈ new, ∀ s ∈ y.tables, s.reportable c i = true)
    (hnot : ∀ evt, (c, evt) ∈ written new → evt.socketHandle ≠ i) :
    new.countP (Entry.collects c) < w.1.numberOfSockets ∧
      (written new).countP (fun rec ↦ decide (rec.1 = c)) < w.1.numberOfSockets := by
  have hw' : Reachable pl sched cfg w' := Relation.ReflTransGen.trans hw hs
  obtain ⟨hst, hp⟩ := reachable_stepped hw'
  have hsetup := (reachable_stepped hw).1.sameSetup
  have hn : w'.1.numberOfSockets = w.1.numberOfSockets :=
    hst.sameSetup.numberOfSockets.trans hsetup.numberOfSockets.symm
  obtain ⟨k, hk⟩ := hc
  have hk' : w'.1.IsClientAt c k := (hst.sameSetup.isClientAt c k).2 ((hsetup.isClientAt c k).1 hk)
  have hrun : Run w.1.numberOfSockets (cursor c k w') (scanned c new ++ scanned c w.2) := by
    have hscans : Run w'.1.numberOfSockets (cursor c k w') (scanned c w'.2) := hst.scans hk'
    rwa [hn, hnew, scanned_append] at hscans
  -- what has been written since is what has been taken since
  have htaken : taken new = written new := by
    have hall := taken_eq_written hw'
    rw [hnew, taken, written, List.filterMap_append, List.filterMap_append] at hall
    exact List.append_cancel_right (hall.trans (congrArg _ (taken_eq_written hw).symm))
  have hwaits : RoundRobin.Waits w.1.numberOfSockets i (cursor c k w') (scanned c new) := by
    refine hrun.waits hi fun e he ↦ ?_
    obtain ⟨y, hy, hscan⟩ := List.mem_filterMap.1 he
    constructor
    · rintro rfl
      obtain ⟨evt, hrep, hevt⟩ := reports_of_scan hscan
      exact hnot evt (htaken ▸ List.mem_filterMap.2 ⟨y, hy, hrep⟩) hevt
    · rintro rfl
      obtain ⟨s, hs, hfound⟩ := reportable_of_scan hscan
      exact Bool.false_ne_true (hfound.symm.trans (hdue y hy s hs))
  obtain ⟨hreports, hlooks⟩ := hwaits
  constructor
  · obtain ⟨new', hnew', hle⟩ := collects_le hs c
    obtain rfl : new' = new := List.append_cancel_right (hnew'.symm.trans hnew)
    have hidle : (cursor c k w').stage ≠ .looked true := by
      rw [cursor_of_rest hp]
      exact fun h ↦ RoundRobin.Stage.noConfusion h
    rw [if_neg hidle] at hlooks
    have hlt : looks c new' < w.1.numberOfSockets := by
      unfold looks
      omega
    exact hle.trans_lt hlt
  · rw [countP_reports, htaken] at hreports
    omega

/-- Client 101 has two sockets with received data. -/
def sampleTwoReady : World :=
  iterate [announce 7 {.rd}, announce 8 {.rd}]
    (served samplePlatform 101 (.create .inet .stream (some 0)) (obliging (some 8) none)
      (fun _ w ↦ w)
      sampleCreated)

theorem reachable_sampleTwoReady (sched : Schedule) :
    Reachable samplePlatform sched (sampleConfig 5) sampleTwoReady := by
  have hevs : ∀ ev ∈ [announce 7 {.rd}, announce 8 {.rd}], ev.socket ≠ none := by simp [announce]
  exact reachable_iterate
    (reachable_served (reachable_sampleCreated sched) (interference_refl sched) ⟨0, rfl⟩ rfl) hevs

/-- It collects its events through a buffer for one record. -/
def sampleToldFirst : World :=
  served samplePlatform 101 (.getPendingEvents 16 (some 0)) (obliging none none) (fun _ w ↦ w)
    sampleTwoReady

/-- After one call slot 1 still waits, as it may for four more. -/
theorem wait_bounded_sampleToldFirst :
    (sampleToldFirst.2.take 10).countP (Entry.collects 101) < 6 ∧
      (written (sampleToldFirst.2.take 10)).countP (fun rec ↦ decide (rec.1 = 101)) < 6 := by
  have hc : sampleTwoReady.1.IsClient 101 := ⟨0, rfl⟩
  have hcalls : Relation.ReflTransGen (Step samplePlatform .free) sampleTwoReady
      sampleToldFirst := by
    have hserved : (serve samplePlatform 101 (.getPendingEvents 16 (some 0)) (obliging none none)
      (fun _ w ↦ w) sampleTwoReady).isSome = true := rfl
    obtain ⟨w, hw⟩ := Option.isSome_iff_exists.1 hserved
    rw [sampleToldFirst, served, hw]
    exact .single (step_serve (interference_refl .free) hc hw)
  have hdue : ∀ y ∈ sampleToldFirst.2.take 10, ∀ s ∈ y.tables, s.reportable 101 1 = true := by
    decide
  have hnot : ∀ rec ∈ written (sampleToldFirst.2.take 10), rec.2.socketHandle ≠ 1 := by decide
  exact wait_bounded (reachable_sampleTwoReady .free) hcalls hc (by decide) rfl hdue
    fun evt hevt ↦ hnot _ hevt

end NetworkStackPicoTcp
