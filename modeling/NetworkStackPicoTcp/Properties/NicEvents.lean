import NetworkStackPicoTcp.Invariants.Nic

/-!
# Frames of an event-based driver

The loop over `nic_dev_read` leaves on three error codes. Any other error falls through to
`pico_stack_recv`, with whatever the length holds then, so the poll delivers exactly the frames that
were read only as long as the driver returns no other error.
-/

namespace NetworkStackPicoTcp

namespace Nic

variable {drv : Driver} {size : ℕ} {w : World}

/-- The event-based poll delivers the frames that have been read, and nothing else: one delivery for
each successful read, in order and with its length, within the loop score of each poll. -/
structure EventLaw (h : History) : Prop where
  delivered : portFrames h = ((reads h).filter fun r ↦ decide (r.status = .success)).map DevRead.len
  polls : PollsAccounted h
  current : deliveredNow h ≤ currentScore h
  detection : DetectionLaw h

/-- A sequence of polls leads to the world. The last poll may have ended in `exit`. -/
def Polled (drv : Driver) (size : ℕ) (w : World) : Prop :=
  Reachable drv size w ∨ ∃ w₀ loopScore, Reachable drv size w₀ ∧
    Prog.CallAt (env drv) (nicPollData size loopScore) (w₀.1, .begin loopScore :: w₀.2) .exit w

theorem keeps_of_polled (hw : Polled drv size w) : ∃ score, Keeps (currentScore w.2) score w := by
  obtain hw | ⟨w₀, loopScore, hw₀, hat⟩ := hw
  · exact reachable_keeps hw
  · obtain ⟨score₀, hk⟩ := reachable_keeps hw₀
    have hbegin : Keeps loopScore loopScore (w₀.1, .begin loopScore :: w₀.2) :=
      ⟨hk.balanced, hk.detection, hk.polls, rfl, Nat.zero_add _⟩
    obtain ⟨score, hexit⟩ := Prog.callAt_of_wp (wp_nicPollData hbegin) hat rfl
    rw [hexit.current]
    exact ⟨score, hexit⟩

/-- Every successful read passes. -/
theorem filter_passes_filter_success (l : List DevRead) :
    (l.filter fun r ↦ decide (Passes r)).filter (fun r ↦ decide (r.status = .success)) =
      l.filter fun r ↦ decide (r.status = .success) := by
  rw [List.filter_filter]
  refine List.filter_congr fun r _ ↦ ?_
  by_cases hr : r.status = .success
  · have hpass : Passes r := by simp [Passes, hr]
    simp [hr, hpass]
  · simp [hr]

/-- **The event-based poll is exact** as long as every read returns success or one of the three
errors that the loop looks for. -/
theorem event_law_iff (hw : Polled drv size w) :
    EventLaw w.2 ↔ ∀ r ∈ reads w.2, r.status = .success ∨ r.status = .notImplemented ∨
      r.status = .notInitialized ∨ r.status = .noData := by
  obtain ⟨score, hk⟩ := keeps_of_polled hw
  have hlisted : (∀ r ∈ reads w.2, Listed r) ↔ ∀ r ∈ reads w.2, r.status = .success ∨
      r.status = .notImplemented ∨ r.status = .notInitialized ∨ r.status = .noData := by
    refine forall₂_congr fun r _ ↦ ?_
    unfold Listed Passes
    tauto
  rw [← hlisted]
  constructor
  · intro hlaw r hr hpass
    have hlen := congrArg List.length (hlaw.delivered.symm.trans hk.balanced)
    rw [List.length_map, List.length_map, ← filter_passes_filter_success,
      List.length_filter_eq_length_iff] at hlen
    exact of_decide_eq_true (hlen r (List.mem_filter.2 ⟨hr, decide_eq_true hpass⟩))
  · intro hall
    refine ⟨?_, hk.polls, by have := hk.score_eq; omega, hk.detection hall⟩
    rw [hk.balanced, ← filter_passes_filter_success]
    refine congrArg _ (List.filter_eq_self.2 fun r hr ↦ ?_).symm
    obtain ⟨hmem, hpass⟩ := List.mem_filter.1 hr
    exact decide_eq_true (hall r hmem (of_decide_eq_true hpass))

/-- A read that timed out is delivered as a frame of 77 bytes, and ends the detection. -/
def sampleTimedOut : World :=
  polled 4 1 ⟨.timeout, 77, 0⟩ (fun _ w ↦ w) (State.init, [])

theorem reachable_sampleTimedOut : Reachable .any 4 sampleTimedOut :=
  reachable_polled .refl (fun _ _ ↦ .refl) rfl

theorem not_event_law :
    ∃ w, Reachable .any 4 w ∧ reads w.2 = [⟨.timeout, 77, 0⟩] ∧ portFrames w.2 = [77] ∧
      w.1.isDetectionDone = true ∧ ¬ EventLaw w.2 := by
  refine ⟨_, reachable_sampleTimedOut, rfl, rfl, rfl, fun hlaw ↦ ?_⟩
  exact absurd hlaw.delivered (List.cons_ne_nil _ _)

/-- A frame of 60 bytes is read in each of two polls. -/
theorem event_law_iff_two_frames :
    EventLaw (polled 4 1 ⟨.success, 60, 0⟩ (fun _ w ↦ w)
      (polled 4 1 ⟨.success, 60, 1⟩ (fun _ w ↦ w) (State.init, []))).2 := by
  have hfirst : Reachable .any 4 (polled 4 1 ⟨.success, 60, 1⟩ (fun _ w ↦ w) (State.init, [])) :=
    reachable_polled .refl (fun _ _ ↦ .refl) rfl
  have hsecond : Reachable .any 4 (polled 4 1 ⟨.success, 60, 0⟩ (fun _ w ↦ w)
      (polled 4 1 ⟨.success, 60, 1⟩ (fun _ w ↦ w) (State.init, []))) :=
    reachable_polled hfirst (fun _ _ ↦ .refl) rfl
  have hreads : reads (polled 4 1 ⟨.success, 60, 0⟩ (fun _ w ↦ w)
      (polled 4 1 ⟨.success, 60, 1⟩ (fun _ w ↦ w) (State.init, []))).2 =
      [⟨.success, 60, 0⟩, ⟨.success, 60, 1⟩] := rfl
  refine (event_law_iff (Or.inl hsecond)).2 ?_
  rw [hreads]
  decide

end Nic

end NetworkStackPicoTcp
