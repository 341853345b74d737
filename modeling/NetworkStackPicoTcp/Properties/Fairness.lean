import NetworkStackPicoTcp.Invariants.Scan
import NetworkStackPicoTcp.Properties.Events

/-!
# No socket starves

A client collects its events through a buffer that may hold a single record, in any number of calls,
and while it does so callbacks and other RPCs change the table. Still every slot gets its turn
(`sockets_not_starved`).
-/

namespace NetworkStackPicoTcp

open RoundRobin (Run)

variable {pl : Platform} {sched : Schedule} {cfg : Config} {c : ℤ} {i j : ℕ} {x : Entry}

/-- The tables that an entry shows. -/
def Entry.tables : Entry → List NetworkStack
  | .begin _ _ s | .answer _ _ _ _ s | .reply _ _ _ s => [s]
  | .own _ _ s s' | .event _ s s' | .notified s s' => [s, s']

/-- An RPC returns. -/
def Entry.isReply : Entry → Bool
  | .reply .. => true
  | _ => false

/-! ### What the cursor's events stand for -/

theorem scan_of_reports {evt : OsSocketEvt} (h : x.reports c i evt) :
    x.scan c = some (.report i) := by
  obtain ⟨r, s, rfl, hr, rfl, -⟩ := reports_inv h
  exact if_pos ⟨hr, rfl⟩

/-- The four kinds of entries, as the sweeps of a client see them. -/
theorem scan_cases (c : ℤ) (x : Entry) :
    x.scan c = none ∨ x.scan c = some .rest ∧ x.isReply = true ∨
      (∃ s ∈ x.tables, x.scan c = some (.look (s.headOf c) (s.reportable c (s.headOf c)))) ∨
      ∃ i evt, x.scan c = some (.report i) ∧ x.reports c i evt := by
  cases x with
  | answer c' r e b s =>
    by_cases hr : r.isSweep = true ∧ c' = c
    · obtain ⟨hr, rfl⟩ := hr
      cases e with
      | preempt => exact Or.inr (Or.inr (Or.inl ⟨s, List.mem_singleton.2 rfl, if_pos ⟨hr, rfl⟩⟩))
      | lock m =>
        cases m with
        | stackTS => exact Or.inr (Or.inr (Or.inr ⟨_, _, if_pos ⟨hr, rfl⟩, if_pos hr, rfl⟩))
        | socketCB => exact Or.inl rfl
      | _ => exact Or.inl rfl
    · left
      cases e with
      | preempt => exact if_neg hr
      | lock m =>
        cases m with
        | stackTS => exact if_neg hr
        | socketCB => rfl
      | _ => rfl
  | reply => exact Or.inr (Or.inl ⟨rfl, rfl⟩)
  | _ => exact Or.inl rfl

theorem reports_of_scan (h : x.scan c = some (.report i)) : ∃ evt, x.reports c i evt := by
  rcases scan_cases c x with hx | ⟨hx, -⟩ | ⟨s, -, hx⟩ | ⟨i', evt, hx, hrep⟩
  · exact absurd (hx.symm.trans h) (by simp)
  · exact absurd (hx.symm.trans h) (by simp)
  · exact absurd (hx.symm.trans h) (by simp)
  · obtain rfl := RoundRobin.Event.report.inj (Option.some.inj (hx.symm.trans h))
    exact ⟨evt, hrep⟩

/-- A look finds what the tables show. -/
theorem reportable_of_scan {due : Bool} (h : x.scan c = some (.look i due)) :
    ∃ s ∈ x.tables, s.reportable c i = due := by
  rcases scan_cases c x with hx | ⟨hx, -⟩ | ⟨s, hs, hx⟩ | ⟨i', evt, hx, -⟩
  · exact absurd (hx.symm.trans h) (by simp)
  · exact absurd (hx.symm.trans h) (by simp)
  · obtain ⟨rfl, hdue⟩ := RoundRobin.Event.look.inj (Option.some.inj (hx.symm.trans h))
    exact ⟨s, hs, hdue⟩
  · exact absurd (hx.symm.trans h) (by simp)

theorem isReply_of_scan (h : x.scan c = some .rest) : x.isReply = true := by
  rcases scan_cases c x with hx | ⟨-, hx⟩ | ⟨s, -, hx⟩ | ⟨i', evt, hx, -⟩
  · exact absurd (hx.symm.trans h) (by simp)
  · exact hx
  · exact absurd (hx.symm.trans h) (by simp)
  · exact absurd (hx.symm.trans h) (by simp)

/-! ### Fairness -/

/-- **No socket starves.** In every world that a run passes through, take any two records that
sweeps of a client have taken, of slots `j` and `j'`.
* If `j' = j`, every other slot that has been the client's and has had an event all the time between
  the two records has been reported between them.
* If no RPC has returned between them, so that they are of one call, then `j'` is not `j`. -/
theorem sockets_not_starved {w : World} (hw : Visited pl sched cfg w) (hc : w.1.IsClient c)
    {later between earlier : History} {x x' : Entry} {j j' : ℕ} {evt evt' : OsSocketEvt}
    (hsplit : w.2 = later ++ x' :: between ++ x :: earlier) (hx : x.reports c j evt)
    (hx' : x'.reports c j' evt') :
    (j' = j → ∀ i < w.1.numberOfSockets, i ≠ j →
      (∀ y ∈ between, ∀ s ∈ y.tables, s.reportable c i = true) →
      ∃ y ∈ between, ∃ evt, y.reports c i evt) ∧
    ((∀ y ∈ between, y.isReply = false) → j' ≠ j) := by
  obtain ⟨k, hk⟩ := hc
  have hscans : Run w.1.numberOfSockets (cursor c k w) (scanned c w.2) :=
    (visited_stepped hw).scans hk
  have htrace : scanned c w.2 = scanned c later ++ .report j' :: scanned c between ++
      .report j :: scanned c earlier := by
    rw [hsplit, scanned, List.filterMap_append, List.filterMap_append,
      List.filterMap_cons_some (scan_of_reports hx'), List.filterMap_cons_some (scan_of_reports hx)]
    rfl
  rw [htrace] at hscans
  refine ⟨?_, fun hcall ↦ ?_⟩
  · rintro rfl i hi hij hdue
    have hreport : .report i ∈ scanned c between := by
      refine hscans.fair hi hij fun due hlook ↦ ?_
      obtain ⟨y, hy, hscan⟩ := List.mem_filterMap.1 hlook
      obtain ⟨s, hs, hfound⟩ := reportable_of_scan hscan
      exact hfound.symm.trans (hdue y hy s hs)
    obtain ⟨y, hy, hscan⟩ := List.mem_filterMap.1 hreport
    exact ⟨y, hy, reports_of_scan hscan⟩
  · refine hscans.once fun hrest ↦ ?_
    obtain ⟨y, hy, hscan⟩ := List.mem_filterMap.1 hrest
    exact Bool.false_ne_true ((hcall y hy).symm.trans (isReply_of_scan hscan))

/-- Client 101 has two sockets with received data, and collects its events through a buffer for one
record, three times. -/
def samplePolled : World :=
  let poll :=
    served samplePlatform 101 (.getPendingEvents 16 (some 0)) (obliging none none) fun _ w ↦ w
  poll (poll (poll (iterate [announce 7 {.rd}, announce 8 {.rd}]
    (served samplePlatform 101 (.create .inet .stream (some 0)) (obliging (some 8) none)
      (fun _ w ↦ w) sampleCreated))))

theorem reachable_samplePolled (sched : Schedule) :
    Reachable samplePlatform sched (sampleConfig 5) samplePolled := by
  have hpoll : ∀ {w : World}, Reachable samplePlatform sched (sampleConfig 5) w → w.1.IsClient 101 →
      (serve samplePlatform 101 (.getPendingEvents 16 (some 0)) (obliging none none) (fun _ w ↦ w)
        w).isSome = true →
      Reachable samplePlatform sched (sampleConfig 5) (served samplePlatform 101
        (.getPendingEvents 16 (some 0)) (obliging none none) (fun _ w ↦ w) w) :=
    fun hw hc h ↦ reachable_served hw (interference_refl sched) hc h
  have hcreated : Reachable samplePlatform sched (sampleConfig 5)
      (served samplePlatform 101 (.create .inet .stream (some 0)) (obliging (some 8) none)
        (fun _ w ↦ w) sampleCreated) :=
    reachable_served (reachable_sampleCreated sched) (interference_refl sched) ⟨0, rfl⟩ rfl
  have hevs : ∀ ev ∈ [announce 7 {.rd}, announce 8 {.rd}], ev.socket ≠ none := by simp [announce]
  have hdata := reachable_iterate hcreated hevs
  exact hpoll (hpoll (hpoll hdata ⟨0, rfl⟩ rfl) ⟨0, rfl⟩ rfl) ⟨0, rfl⟩ rfl

/-- Slot 0 is reported twice, so slot 1 is reported in between. -/
theorem sockets_not_starved_samplePolled :
    ∃ y ∈ (samplePolled.2.drop 8).take 27, ∃ evt, y.reports 101 1 evt := by
  have hc : samplePolled.1.IsClient 101 := ⟨0, rfl⟩
  have hsplit : ∃ s s', samplePolled.2 = samplePolled.2.take 7 ++
      .answer 101 (.getPendingEvents 16 (some 0)) (.lock .stackTS) () s' ::
        (samplePolled.2.drop 8).take 27 ++
      .answer 101 (.getPendingEvents 16 (some 0)) (.lock .stackTS) () s :: samplePolled.2.drop 36 ∧
      s.headOf 101 = 0 ∧ s'.headOf 101 = 0 := by
    refine ⟨_, _, rfl, ?_, ?_⟩ <;> rfl
  obtain ⟨s, s', hsplit, hs, hs'⟩ := hsplit
  have hrep : ∀ t : NetworkStack, t.headOf 101 = 0 →
      Entry.reports 101 0 (t.eventRecord (t.headOf 101))
        (.answer 101 (.getPendingEvents 16 (some 0)) (.lock .stackTS) () t) :=
    fun t ht ↦ ⟨rfl, congrArg Int.ofNat ht⟩
  have hdue : ∀ y ∈ (samplePolled.2.drop 8).take 27, ∀ t ∈ y.tables, t.reportable 101 1 = true := by
    decide
  obtain ⟨hfair, -⟩ := sockets_not_starved (.reachable (reachable_samplePolled .free)) hc hsplit
    (hrep s hs) (hrep s' hs')
  exact hfair rfl 1 (by decide) (by decide) hdue

end NetworkStackPicoTcp
