import NetworkStackPicoTcp.Interaction.RingBuffer
import NetworkStackPicoTcp.Invariants.Nic

/-!
# The ring of a legacy driver

The driver and the poll share the `len` fields of the slots and nothing else: the driver fills slots
in order and only when they are empty, the poll empties them in order and only when they are full.
`Fifo` says that the ring holds what `RingBuffer.Holds` says of a producer and a consumer, for the
frames that the driver has written and those that picoTCP has got. The legacy interface is only ever
selected by a poll that has delivered nothing before, so these are all the frames.
-/

namespace NetworkStackPicoTcp

namespace Nic

open Prog (wp)

variable {size : ℕ} {w w' : World}

/-! ### The driver's side -/

/-- The frames that the driver has written, oldest first. -/
def written : History → List RxBuffer
  | [] => []
  | .driver _ b :: h => written h ++ [b]
  | _ :: h => written h

/-- The driver fills the slots in order, a slot only when its `len` is 0, and sets a `len` that is
not 0. -/
def fifoDriver (size : ℕ) : Driver := fun w i b ↦
  i = (written w.2).length % size ∧ (w.1.ring i).len = 0 ∧ b.len ≠ 0

/-- The frame that a slot holds. -/
def cells (s : State) (i : ℕ) : Option RxBuffer :=
  if (s.ring i).len = 0 then none else some (s.ring i)

theorem cells_writeSlot {s : State} {i : ℕ} {b : RxBuffer} (hb : b.len ≠ 0) :
    cells (s.writeSlot i b) = Function.update (cells s) i (some b) := by
  funext j
  by_cases hj : j = i
  · subst hj
    simp [cells, State.writeSlot, hb]
  · simp [cells, State.writeSlot, hj]

theorem cells_release (s : State) :
    cells s.release = Function.update (cells s) s.pos none := by
  funext j
  by_cases hj : j = s.pos
  · subst hj
    simp [cells, State.release, State.writeSlot]
  · simp [cells, State.release, State.writeSlot, hj]

/-! ### The invariant -/

/-- The ring holds the frames that have been written and not been delivered, and the reading
position is where the next one is. Before the detection, and with the legacy interface, nothing else
has been delivered. -/
structure Fifo (size : ℕ) (w : World) : Prop where
  legacy : w.1.isLegacyInterface = true → portFrames w.2 = []
  undetected : w.1.isDetectionDone = false → portFrames w.2 = []
  holds : RingBuffer.Holds size (cells w.1) (written w.2) (ringFrames w.2).length
  taken : ringFrames w.2 = (written w.2).take (ringFrames w.2).length
  pos_eq : w.1.pos = (ringFrames w.2).length % size

theorem fifo_init (size : ℕ) : Fifo size (State.init, []) :=
  ⟨fun _ ↦ rfl, fun _ ↦ rfl, RingBuffer.Holds.empty fun _ ↦ rfl, rfl, (Nat.zero_mod size).symm⟩

/-- The driver keeps the invariant, and leaves full slots alone. -/
theorem Fifo.driver (hpos : 0 < size) (hf : Fifo size w)
    (hsteps : DriverSteps (fifoDriver size) w w') :
    Fifo size w' ∧ ∀ i, (w.1.ring i).len ≠ 0 → w'.1.ring i = w.1.ring i := by
  induction hsteps with
  | refl => exact ⟨hf, fun _ _ ↦ rfl⟩
  | @tail w₁ w₂ _ hstep ih =>
    obtain ⟨hf₁, hsame⟩ := ih
    obtain ⟨i, b, ⟨hi, hempty, hb⟩, rfl⟩ := hstep
    refine ⟨⟨hf₁.legacy, hf₁.undetected, ?_, ?_, hf₁.pos_eq⟩, fun j hj ↦ ?_⟩
    · show RingBuffer.Holds size (cells (w₁.1.writeSlot i b)) (written w₁.2 ++ [b]) _
      rw [cells_writeSlot hb, hi]
      refine hf₁.holds.push hpos ?_
      rw [← hi, cells, if_pos hempty]
    · show ringFrames w₁.2 = (written w₁.2 ++ [b]).take (ringFrames w₁.2).length
      rw [List.take_append_of_le_length hf₁.holds.taken_le]
      exact hf₁.taken
    · have hne : j ≠ i := by
        rintro rfl
        rw [hsame j hj] at hempty
        exact hj hempty
      rw [← hsame j hj]
      exact Function.update_of_ne hne _ _

/-- After a call that delivers nothing. -/
theorem Fifo.quiet (hf : Fifo size w) (e : NicCall) (b : e.Answer)
    (he : ∀ frame len, e ≠ .stackRecv frame len) : Fifo size (answered e b w) := by
  cases e with
  | stackRecv frame len => exact absurd rfl (he frame len)
  | _ => exact ⟨hf.legacy, hf.undetected, hf.holds, hf.taken, hf.pos_eq⟩

/-- The next frame is delivered from the ring, its slot is released, and the reading position moves
on. -/
theorem Fifo.deliverSlot (hpos : 0 < size) (hf : Fifo size w) (hfull : (w.1.ring w.1.pos).len ≠ 0)
    (hsteps : DriverSteps (fifoDriver size) w w') :
    Fifo size ((env (fifoDriver size)).write (State.advance size)
      ((env (fifoDriver size)).write State.release
        (answered (.stackRecv (.slot w.1.pos) (w.1.ring w.1.pos).len) () w'))) := by
  obtain ⟨hf', hsame⟩ := hf.driver hpos hsteps
  have hring := hsame w.1.pos hfull
  have hp : w'.1.pos = w.1.pos := hsteps.pos
  have hcell : cells w'.1 ((ringFrames w'.2).length % size) = some (w.1.ring w.1.pos) := by
    rw [← hf'.pos_eq, cells, hp, hring, if_neg hfull]
  have hframes : ringFrames (.answer (.stackRecv (.slot w.1.pos) (w.1.ring w.1.pos).len) () w'.1 ::
      w'.2) = ringFrames w'.2 ++ [w.1.ring w.1.pos] := by
    show ringFrames w'.2 ++ [⟨_, (w'.1.ring w.1.pos).data⟩] = _
    rw [hring]
  have hlen : (ringFrames w'.2 ++ [w.1.ring w.1.pos]).length = (ringFrames w'.2).length + 1 := by
    simp
  refine ⟨hf'.legacy, hf'.undetected, ?_, ?_, ?_⟩
  · show RingBuffer.Holds size (cells w'.1.release) (written w'.2) (ringFrames (_ :: w'.2)).length
    rw [hframes, hlen, cells_release, hf'.pos_eq]
    exact hf'.holds.pop hpos hcell
  · show ringFrames (_ :: w'.2) = (written w'.2).take (ringFrames (_ :: w'.2)).length
    rw [hframes, hlen, hf'.holds.take_succ hpos hcell, ← hf'.taken]
  · show (w'.1.pos + 1) % size = (ringFrames (_ :: w'.2)).length % size
    rw [hframes, hlen, hf'.pos_eq, Nat.mod_add_mod]

/-- After the delivery of a frame from the start of the dataport. -/
theorem Fifo.deliverPort (hf : Fifo size w) (hmode : w.1.isLegacyInterface = false) (len : ℕ) :
    Fifo size ((env (fifoDriver size)).write State.detected
      (answered (.stackRecv .port len) () w)) :=
  ⟨fun hl ↦ absurd (hmode.symm.trans hl) (by decide), fun hd ↦ Bool.noConfusion hd, hf.holds,
    hf.taken, hf.pos_eq⟩

/-! ### The loops -/

theorem wp_eventLoop_fifo (hpos : 0 < size) (score framesRemaining : ℕ) (hf : Fifo size w)
    (hmode : w.1.isLegacyInterface = false) :
    wp (env (fifoDriver size)) (fun _ ↦ Fifo size) (eventLoop score framesRemaining)
      (fun _ ↦ Fifo size) w := by
  induction score generalizing framesRemaining w with
  | zero => exact hf
  | succ score ih =>
    show wp _ _ (if framesRemaining = 0 then _ else _) _ _
    split_ifs
    · exact hf
    refine Prog.wp_bind.2 (wp_ask hf fun r w₁ hsteps ↦ ?_)
    obtain ⟨hf₁, -⟩ := hf.driver hpos hsteps
    have hread : Fifo size (answered .devRead r w₁) := hf₁.quiet .devRead r (by simp)
    split_ifs
    · refine Prog.wp_bind.2 (Prog.wp_get.2 ?_)
      split_ifs with hdone
      · exact ⟨hread, fun b ↦ b.elim⟩
      · have hnone := hread.undetected (Bool.eq_false_iff.2 hdone)
        exact ⟨fun _ ↦ hnone, fun hd ↦ Bool.noConfusion hd, hread.holds, hread.taken, hread.pos_eq⟩
    · exact hread
    · exact hread
    · refine Prog.wp_bind.2 (wp_ask hread fun _ w₂ hsteps₂ ↦ ?_)
      obtain ⟨hf₂, -⟩ := hread.driver hpos hsteps₂
      have hmode₁ : w₁.1.isLegacyInterface = false := hsteps.isLegacyInterface.trans hmode
      have hmode₂ : w₂.1.isLegacyInterface = false := hsteps₂.isLegacyInterface.trans hmode₁
      refine Prog.wp_bind.2
        (Prog.wp_modify.2 (ih r.framesRemaining (hf₂.deliverPort hmode₂ r.len) ?_))
      exact hmode₂

/-- A loop over the ring that leaves some of its score has seen the next slot empty. -/
def StoppedEmpty (score : ℕ) (w : World) : Prop := 0 < score → (w.1.ring w.1.pos).len = 0

theorem wp_ringLoop_fifo (hpos : 0 < size) (score : ℕ) (hf : Fifo size w) :
    wp (env (fifoDriver size)) (fun _ ↦ Fifo size) (ringLoop size score)
      (fun a w' ↦ Fifo size w' ∧ StoppedEmpty a w') w := by
  induction score generalizing w with
  | zero =>
    refine Prog.wp_bind.2 (wp_ask hf fun _ w₁ hsteps ↦ ⟨?_, fun h ↦ absurd h (Nat.lt_irrefl 0)⟩)
    exact (hf.driver hpos hsteps).1.quiet .preempt () (by simp)
  | succ score ih =>
    refine Prog.wp_bind.2 (wp_ask hf fun _ w₁ hsteps ↦ ?_)
    have hf₁ : Fifo size (answered .preempt () w₁) :=
      (hf.driver hpos hsteps).1.quiet .preempt () (by simp)
    refine Prog.wp_bind.2 (Prog.wp_get.2 ?_)
    split_ifs with hempty
    · exact ⟨hf₁, fun _ ↦ hempty⟩
    · refine Prog.wp_bind.2 (wp_ask hf₁ fun _ w₂ hsteps₂ ↦ ?_)
      refine Prog.wp_bind.2 (Prog.wp_modify.2 (Prog.wp_bind.2 (Prog.wp_modify.2 (ih ?_))))
      exact hf₁.deliverSlot hpos hempty hsteps₂

theorem wp_nicPollData_fifo (hpos : 0 < size) (loopScore : ℕ) (hf : Fifo size w) :
    wp (env (fifoDriver size)) (fun _ ↦ Fifo size) (nicPollData size loopScore)
      (fun a w' ↦ Fifo size w' ∧ (w'.1.isLegacyInterface = true → StoppedEmpty a w')) w := by
  have hrest : ∀ {score : ℕ} {w : World}, Fifo size w →
      wp (env (fifoDriver size)) (fun _ ↦ Fifo size)
        (do
          let s ← Prog.get
          if s.isLegacyInterface = true then pollRing size score else pure score)
        (fun a w' ↦ Fifo size w' ∧ (w'.1.isLegacyInterface = true → StoppedEmpty a w')) w := by
    intro score w hf
    refine Prog.wp_bind.2 (Prog.wp_get.2 ?_)
    split_ifs with hmode
    · unfold pollRing
      split_ifs with hscore
      · exact Prog.wp_mono (fun _ _ h ↦ h) (fun _ _ h ↦ ⟨h.1, fun _ ↦ h.2⟩)
          (wp_ringLoop_fifo hpos score hf)
      · exact ⟨hf, fun _ h ↦ absurd h hscore⟩
    · exact ⟨hf, fun hl ↦ absurd hl hmode⟩
  refine Prog.wp_bind.2 (Prog.wp_get.2 (Prog.wp_bind.2 ?_))
  split_ifs with hmode
  · refine Prog.wp_bind.2 (Prog.wp_mono (fun _ _ h ↦ h) (fun a w₁ hf₁ ↦ ?_)
      (wp_eventLoop_fifo hpos loopScore 1 hf hmode))
    obtain ⟨score, framesRemaining⟩ := a
    show wp _ _ (if score = 0 ∧ framesRemaining ≠ 0 then _ else _) _ _
    split_ifs
    · refine Prog.wp_bind.2 (wp_ask hf₁ fun _ w₂ hsteps ↦ ?_)
      exact hrest ((hf₁.driver hpos hsteps).1.quiet .notifyMainLoop () (by simp))
    · exact hrest hf₁
  · exact hrest hf

theorem reachable_fifo (hpos : 0 < size) (hw : Reachable (fifoDriver size) size w) :
    Fifo size w := by
  induction hw with
  | refl => exact fifo_init size
  | tail _ hstep ih =>
    cases hstep with
    | driver hd => exact (ih.driver hpos (Relation.ReflTransGen.single hd)).1
    | @poll s s' h h' loopScore score ho =>
      have hbegin : Fifo size (s, .begin loopScore :: h) :=
        ⟨ih.legacy, ih.undetected, ih.holds, ih.taken, ih.pos_eq⟩
      obtain ⟨hend, -⟩ := Prog.outcome_of_wp (wp_nicPollData_fifo hpos loopScore hbegin) ho
      exact ⟨hend.legacy, hend.undetected, hend.holds, hend.taken, hend.pos_eq⟩

/-! ### Lossless delivery -/

/-- What has been delivered is the first part of what the driver has written, and the reading
position is behind it. -/
structure Lossless (size : ℕ) (w : World) : Prop where
  portFrames_eq : portFrames w.2 = []
  isPrefix : ringFrames w.2 <+: written w.2
  pos_eq : w.1.pos = (ringFrames w.2).length % size

theorem Fifo.lossless (hf : Fifo size w) (hmode : w.1.isLegacyInterface = true) : Lossless size w :=
  ⟨hf.legacy hmode, List.prefix_iff_eq_take.2 hf.taken, hf.pos_eq⟩

/-- **The ring of a legacy driver is a lossless FIFO.** With the legacy interface selected, at every
call of a poll and between polls, the frames that picoTCP has got are a prefix of those that the
driver has written. Each poll returns its loop score less what it has delivered, and leaves some of
it only when the next slot is empty. -/
theorem legacy_ring_lossless (hpos : 0 < size) (hw : Reachable (fifoDriver size) size w)
    (loopScore : ℕ) :
    (w.1.isLegacyInterface = true → Lossless size w) ∧
    (∀ e w', Prog.CallAt (env (fifoDriver size)) (nicPollData size loopScore)
        (w.1, .begin loopScore :: w.2) e w' →
      w'.1.isLegacyInterface = true → Lossless size w') ∧
    ∀ score w', Prog.Outcome (env (fifoDriver size)) (nicPollData size loopScore)
        (w.1, .begin loopScore :: w.2) score w' →
      w'.1.isLegacyInterface = true →
        Lossless size w' ∧ deliveredNow w'.2 + score = loopScore ∧
        (0 < score → (w'.1.ring w'.1.pos).len = 0) := by
  have hf := reachable_fifo hpos hw
  obtain ⟨score₀, hk⟩ := reachable_keeps hw
  have hbegin : Fifo size (w.1, .begin loopScore :: w.2) :=
    ⟨hf.legacy, hf.undetected, hf.holds, hf.taken, hf.pos_eq⟩
  have hkeeps : Keeps loopScore loopScore (w.1, .begin loopScore :: w.2) :=
    ⟨hk.balanced, hk.detection, hk.polls, rfl, Nat.zero_add _⟩
  have hpoll := wp_nicPollData_fifo hpos loopScore hbegin
  refine ⟨hf.lossless, fun e w' hat hmode ↦ ?_, fun score w' ho hmode ↦ ?_⟩
  · have hf' : Fifo size w' := Prog.callAt_of_wp (C := fun _ ↦ Fifo size) hpoll hat
    exact hf'.lossless hmode
  · obtain ⟨hf', hempty⟩ := Prog.outcome_of_wp hpoll ho
    exact ⟨hf'.lossless hmode, (Prog.outcome_of_wp (wp_nicPollData hkeeps) ho).score_eq,
      hempty hmode⟩

/-- The driver fills its next slot, if that is empty. -/
def driverFill (size : ℕ) (b : RxBuffer) (w : World) : World :=
  if (w.1.ring ((written w.2).length % size)).len = 0 ∧ b.len ≠ 0 then
    driverWrite ((written w.2).length % size) b w
  else w

theorem driverSteps_driverFill (size : ℕ) (b : RxBuffer) (w : World) :
    DriverSteps (fifoDriver size) w (driverFill size b w) := by
  unfold driverFill
  split_ifs with h
  · exact .single ⟨_, b, ⟨rfl, h.1, h.2⟩, rfl⟩
  · exact .refl

/-- The driver fills a ring of two slots. A poll with a loop score of 3 finds out about the legacy
interface, and the driver refills the ring while the poll empties it. -/
def sampleRefilled : World :=
  polled 2 3 ⟨.notImplemented, 0, 0⟩
    (fun e w ↦ if e = .preempt then driverFill 2 ⟨62, [3]⟩ w else w)
    (driverFill 2 ⟨61, [2]⟩ (driverFill 2 ⟨60, [1]⟩ (State.init, [])))

theorem reachable_sampleRefilled : Reachable (fifoDriver 2) 2 sampleRefilled := by
  have hfull : Reachable (fifoDriver 2) 2
      (driverFill 2 ⟨61, [2]⟩ (driverFill 2 ⟨60, [1]⟩ (State.init, []))) := by
    have hfirst := driverSteps_driverFill 2 ⟨60, [1]⟩ (State.init, [])
    have hsecond := driverSteps_driverFill 2 ⟨61, [2]⟩ (driverFill 2 ⟨60, [1]⟩ (State.init, []))
    exact Relation.ReflTransGen.mono (fun _ _ ↦ Step.driver) _ _ (hfirst.trans hsecond)
  refine reachable_polled hfull (fun e w ↦ ?_) rfl
  split_ifs
  · exact driverSteps_driverFill 2 ⟨62, [3]⟩ w
  · exact .refl

/-- Three of five frames have been delivered, and the next one is in slot 1. -/
theorem legacy_ring_lossless_sampleRefilled :
    Lossless 2 sampleRefilled ∧ ringFrames sampleRefilled.2 = [⟨60, [1]⟩, ⟨61, [2]⟩, ⟨62, [3]⟩] ∧
      (written sampleRefilled.2).length = 5 ∧ sampleRefilled.1.pos = 1 :=
  ⟨(legacy_ring_lossless (by decide) reachable_sampleRefilled 0).1 rfl, rfl, rfl, rfl⟩

end Nic

end NetworkStackPicoTcp
