import NetworkStackPicoTcp.Model.Nic

/-!
# What a poll of the NIC does

The reads, the deliveries and the looks at the ring are read off the history, and each loop of
`nic_poll_data` has a rule that says what it adds to them. What the driver writes meanwhile adds
nothing (`DriverSteps.congr`).
-/

namespace NetworkStackPicoTcp

namespace Nic

open Prog (wp)

variable {drv : Driver} {w w' : World} {size : ℕ} {h : History}

/-! ### Reading the history -/

/-- The answers of `nic_dev_read`, newest first. -/
def reads : History → List DevRead
  | [] => []
  | .answer .devRead r _ :: h => r :: reads h
  | _ :: h => reads h

/-- The lengths of the frames that have been delivered from the start of the dataport, newest
first. -/
def portFrames : History → List ℕ
  | [] => []
  | .answer (.stackRecv .port len) _ _ :: h => len :: portFrames h
  | _ :: h => portFrames h

/-- The frames that have been delivered from the ring, oldest first. -/
def ringFrames : History → List RxBuffer
  | [] => []
  | .answer (.stackRecv (.slot i) len) _ s :: h => ringFrames h ++ [⟨len, (s.ring i).data⟩]
  | _ :: h => ringFrames h

/-- How many frames the current poll has delivered. -/
def deliveredNow : History → ℕ
  | [] => 0
  | .begin _ :: _ => 0
  | .answer (.stackRecv _ _) _ _ :: h => deliveredNow h + 1
  | _ :: h => deliveredNow h

/-- The loop score of the current poll. -/
def currentScore : History → ℕ
  | [] => 0
  | .begin loopScore :: _ => loopScore
  | _ :: h => currentScore h

/-- The answers of `nic_dev_read` in the current poll, newest first. -/
def readsNow : History → List DevRead
  | [] => []
  | .begin _ :: _ => []
  | .answer .devRead r _ :: h => r :: readsNow h
  | _ :: h => readsNow h

/-- The `len` fields that the current poll has seen at the heads of the loop over the ring. -/
def looksNow : History → List ℕ
  | [] => []
  | .begin _ :: _ => []
  | .answer .preempt _ s :: h => (s.ring s.pos).len :: looksNow h
  | _ :: h => looksNow h

/-- The current poll has notified the main loop. -/
def notifiedNow : History → Bool
  | [] => false
  | .begin _ :: _ => false
  | .answer .notifyMainLoop _ _ :: _ => true
  | _ :: h => notifiedNow h

/-! ### The driver -/

theorem DriverSteps.congr {β : Type*} (f : History → β) (hf : ∀ i b h, f (.driver i b :: h) = f h)
    (hsteps : DriverSteps drv w w') : f w'.2 = f w.2 := by
  induction hsteps with
  | refl => rfl
  | tail _ hstep ih =>
    obtain ⟨i, b, -, rfl⟩ := hstep
    exact (hf i b _).trans ih

/-- The driver writes to the ring only. -/
theorem DriverSteps.state (hsteps : DriverSteps drv w w') : ∃ ring, w'.1 = { w.1 with ring } := by
  induction hsteps with
  | refl => exact ⟨w.1.ring, rfl⟩
  | tail _ hstep ih =>
    obtain ⟨ring, hring⟩ := ih
    obtain ⟨i, b, -, rfl⟩ := hstep
    refine ⟨Function.update ring i b, ?_⟩
    rw [hring]
    rfl

theorem DriverSteps.isLegacyInterface (hsteps : DriverSteps drv w w') :
    w'.1.isLegacyInterface = w.1.isLegacyInterface := by
  obtain ⟨ring, hring⟩ := hsteps.state
  rw [hring]

theorem DriverSteps.pos (hsteps : DriverSteps drv w w') : w'.1.pos = w.1.pos := by
  obtain ⟨ring, hring⟩ := hsteps.state
  rw [hring]

/-- The world after the answer of a call. -/
abbrev answered (e : NicCall) (b : e.Answer) (w : World) : World := (w.1, .answer e b w.1 :: w.2)

theorem wp_ask {C : NicCall → World → Prop} {e : NicCall} {Q : e.Answer → World → Prop}
    (hC : C e w) (hk : ∀ b w₁, DriverSteps drv w w₁ → Q b (answered e b w₁)) :
    wp (env drv) C (ask e) Q w := by
  refine Prog.wp_perform.2 ⟨hC, ?_⟩
  rintro b w' ⟨w₁, hsteps, rfl⟩
  exact hk b w₁ hsteps

/-! ### Deliveries are accounted for -/

/-- The status lets the loop over `nic_dev_read` go on to deliver a frame. -/
def Passes (r : DevRead) : Prop :=
  r.status ≠ .notImplemented ∧ r.status ≠ .notInitialized ∧ r.status ≠ .noData

instance : DecidablePred Passes := fun _ ↦ inferInstanceAs (Decidable (_ ∧ _ ∧ _))

/-- The status is success or an error that ends the loop. -/
def Listed (r : DevRead) : Prop := Passes r → r.status = .success

instance : DecidablePred Listed := fun _ ↦ inferInstanceAs (Decidable (_ → _))

/-- A frame has been delivered from the start of the dataport for every read that has passed, with
the length that the read has stored. -/
def Balanced (h : History) : Prop :=
  portFrames h = ((reads h).filter fun r ↦ decide (Passes r)).map DevRead.len

/-- Every write that marks the detection as done comes after a read that has succeeded, or that has
found the legacy interface. -/
def DetectionLaw : History → Prop
  | [] => True
  | .wrote s s' :: h =>
    (s.isDetectionDone = false → s'.isDetectionDone = true →
      ∃ r, (reads h).head? = some r ∧ (r.status = .success ∨ r.status = .notImplemented)) ∧
    DetectionLaw h
  | _ :: h => DetectionLaw h

/-- Every poll that has returned has delivered as much as its loop score has gone down. -/
def PollsAccounted : History → Prop
  | [] => True
  | .returned loopScore score :: h =>
    (currentScore h = loopScore ∧ deliveredNow h + score = loopScore) ∧ PollsAccounted h
  | _ :: h => PollsAccounted h

/-- The laws of deliveries, with the loop score that the current poll has left of `total`. -/
structure Keeps (total score : ℕ) (w : World) : Prop where
  balanced : Balanced w.2
  detection : (∀ r ∈ reads w.2, Listed r) → DetectionLaw w.2
  polls : PollsAccounted w.2
  current : currentScore w.2 = total
  score_eq : deliveredNow w.2 + score = total

theorem Keeps.driver {total score : ℕ} (hk : Keeps total score w) (hsteps : DriverSteps drv w w') :
    Keeps total score w' where
  balanced := by
    rw [hsteps.congr Balanced fun _ _ _ ↦ rfl]
    exact hk.balanced
  detection := by
    rw [hsteps.congr reads fun _ _ _ ↦ rfl, hsteps.congr DetectionLaw fun _ _ _ ↦ rfl]
    exact hk.detection
  polls := by
    rw [hsteps.congr PollsAccounted fun _ _ _ ↦ rfl]
    exact hk.polls
  current := by
    rw [hsteps.congr currentScore fun _ _ _ ↦ rfl]
    exact hk.current
  score_eq := by
    rw [hsteps.congr deliveredNow fun _ _ _ ↦ rfl]
    exact hk.score_eq

/-- When the poll ends in `exit`, the laws hold too. -/
def KeepsAtExit (total : ℕ) (e : NicCall) (w : World) : Prop :=
  e = .exit → ∃ score, Keeps total score w

/-- After a read that ends the loop. -/
theorem Keeps.read {total score : ℕ} (hk : Keeps total score w) {r : DevRead} (hr : ¬ Passes r) :
    Keeps total score (answered .devRead r w) where
  balanced := by
    show portFrames w.2 = _
    rw [reads, List.filter_cons_of_neg (by simpa using hr)]
    exact hk.balanced
  detection hall := hk.detection fun r' hr' ↦ hall r' (List.mem_cons_of_mem _ hr')
  polls := hk.polls
  current := hk.current
  score_eq := hk.score_eq

/-- After a write that marks the detection as done only for a good reason. -/
theorem Keeps.wrote {total score : ℕ} (hk : Keeps total score w) (f : State → State)
    (hf : (∀ r ∈ reads w.2, Listed r) → ∃ r, (reads w.2).head? = some r ∧
      (r.status = .success ∨ r.status = .notImplemented)) :
    Keeps total score ((env drv).write f w) where
  balanced := hk.balanced
  detection hall := ⟨fun _ _ ↦ hf hall, hk.detection hall⟩
  polls := hk.polls
  current := hk.current
  score_eq := hk.score_eq

/-- After a read that has passed, and the delivery of its frame. -/
theorem Keeps.deliver {total score : ℕ} (hk : Keeps total (score + 1) w) {r : DevRead}
    (hr : Passes r) (hsteps : DriverSteps drv (answered .devRead r w) w') :
    Keeps total score (answered (.stackRecv .port r.len) () w') where
  balanced := by
    show r.len :: portFrames w'.2 = ((reads w'.2).filter _).map _
    rw [hsteps.congr portFrames fun _ _ _ ↦ rfl, hsteps.congr reads fun _ _ _ ↦ rfl]
    show r.len :: portFrames w.2 = ((r :: reads w.2).filter _).map _
    rw [List.filter_cons_of_pos (by simpa using hr), List.map_cons, hk.balanced]
  detection hall := by
    show DetectionLaw w'.2
    rw [hsteps.congr DetectionLaw fun _ _ _ ↦ rfl]
    refine hk.detection fun r' hr' ↦ hall r' ?_
    show r' ∈ reads w'.2
    rw [hsteps.congr reads fun _ _ _ ↦ rfl]
    exact List.mem_cons_of_mem _ hr'
  polls := by
    show PollsAccounted w'.2
    rw [hsteps.congr PollsAccounted fun _ _ _ ↦ rfl]
    exact hk.polls
  current := by
    show currentScore w'.2 = total
    rw [hsteps.congr currentScore fun _ _ _ ↦ rfl]
    exact hk.current
  score_eq := by
    show deliveredNow w'.2 + 1 + score = total
    rw [hsteps.congr deliveredNow fun _ _ _ ↦ rfl]
    have hscore : deliveredNow w.2 + (score + 1) = total := hk.score_eq
    show deliveredNow w.2 + 1 + score = total
    omega

theorem wp_eventLoop {total : ℕ} (score framesRemaining : ℕ) (hk : Keeps total score w) :
    wp (env drv) (KeepsAtExit total) (eventLoop score framesRemaining)
      (fun a w' ↦ Keeps total a.1 w') w := by
  induction score generalizing framesRemaining w with
  | zero => exact hk
  | succ score ih =>
    show wp _ _ (if framesRemaining = 0 then _ else _) _ _
    split_ifs
    · exact hk
    refine Prog.wp_bind.2 (wp_ask (fun h ↦ NicCall.noConfusion h) fun r w₁ hsteps ↦ ?_)
    have hk₁ := hk.driver hsteps
    have hhead : (reads (answered .devRead r w₁).2).head? = some r := rfl
    split_ifs with himpl hinit hdata
    · have hk₂ : Keeps total (score + 1) (answered .devRead r w₁) :=
        hk₁.read fun hr ↦ hr.1 himpl
      refine Prog.wp_bind.2 (Prog.wp_get.2 ?_)
      split_ifs
      · exact ⟨fun _ ↦ ⟨_, hk₂⟩, fun b ↦ b.elim⟩
      · exact hk₂.wrote State.fallBack fun _ ↦ ⟨r, hhead, Or.inr himpl⟩
    · exact hk₁.read fun hr ↦ hr.2.1 hinit
    · exact hk₁.read fun hr ↦ hr.2.2 hdata
    · have hpass : Passes r := ⟨himpl, hinit, hdata⟩
      refine Prog.wp_bind.2 (wp_ask (fun h ↦ NicCall.noConfusion h) fun _ w₂ hsteps₂ ↦ ?_)
      refine Prog.wp_bind.2 (Prog.wp_modify.2 (ih r.framesRemaining ?_))
      refine (hk₁.deliver hpass hsteps₂).wrote State.detected fun hall ↦ ?_
      have hreads : reads (answered (.stackRecv .port r.len) () w₂).2 = r :: reads w₁.2 :=
        hsteps₂.congr reads fun _ _ _ ↦ rfl
      rw [hreads] at hall ⊢
      exact ⟨r, rfl, Or.inl (hall r List.mem_cons_self hpass)⟩

/-- After a call that is neither a read nor a delivery. -/
theorem Keeps.preempt {total score : ℕ} (hk : Keeps total score w) :
    Keeps total score (answered .preempt () w) :=
  ⟨hk.balanced, hk.detection, hk.polls, hk.current, hk.score_eq⟩

theorem Keeps.notifyMainLoop {total score : ℕ} (hk : Keeps total score w) :
    Keeps total score (answered .notifyMainLoop () w) :=
  ⟨hk.balanced, hk.detection, hk.polls, hk.current, hk.score_eq⟩

/-- After the delivery of a frame from the ring. -/
theorem Keeps.deliverSlot {total score : ℕ} (hk : Keeps total (score + 1) w) (i len : ℕ) :
    Keeps total score (answered (.stackRecv (.slot i) len) () w) where
  balanced := hk.balanced
  detection := hk.detection
  polls := hk.polls
  current := hk.current
  score_eq := by
    have hscore : deliveredNow w.2 + (score + 1) = total := hk.score_eq
    show deliveredNow w.2 + 1 + score = total
    omega

/-- After a write that leaves the flags alone. -/
theorem Keeps.wroteRing {total score : ℕ} (hk : Keeps total score w) {f : State → State}
    (hf : (f w.1).isDetectionDone = w.1.isDetectionDone) :
    Keeps total score ((env drv).write f w) where
  balanced := hk.balanced
  detection hall :=
    ⟨fun hfalse htrue ↦ absurd (hf.symm.trans htrue) (by rw [hfalse]; decide), hk.detection hall⟩
  polls := hk.polls
  current := hk.current
  score_eq := hk.score_eq

theorem wp_ringLoop {total : ℕ} (score : ℕ) (hk : Keeps total score w) :
    wp (env drv) (KeepsAtExit total) (ringLoop size score) (fun a w' ↦ Keeps total a w') w := by
  induction score generalizing w with
  | zero =>
    refine Prog.wp_bind.2 (wp_ask (fun h ↦ NicCall.noConfusion h) fun _ w₁ hsteps ↦ ?_)
    exact (hk.driver hsteps).preempt
  | succ score ih =>
    refine Prog.wp_bind.2 (wp_ask (fun h ↦ NicCall.noConfusion h) fun _ w₁ hsteps ↦ ?_)
    have hk₁ := (hk.driver hsteps).preempt
    refine Prog.wp_bind.2 (Prog.wp_get.2 ?_)
    split_ifs
    · exact hk₁
    refine Prog.wp_bind.2 (wp_ask (fun h ↦ NicCall.noConfusion h) fun _ w₂ hsteps₂ ↦ ?_)
    have hk₂ := (hk₁.driver hsteps₂).deliverSlot w₁.1.pos (w₁.1.ring w₁.1.pos).len
    refine Prog.wp_bind.2 (Prog.wp_modify.2 (Prog.wp_bind.2 (Prog.wp_modify.2 (ih ?_))))
    have hk₃ : Keeps total score ((env drv).write State.release _) := hk₂.wroteRing rfl
    exact hk₃.wroteRing rfl

theorem wp_nicPollData {loopScore : ℕ} (hk : Keeps loopScore loopScore w) :
    wp (env drv) (KeepsAtExit loopScore) (nicPollData size loopScore)
      (fun a w' ↦ Keeps loopScore a w') w := by
  have hring : ∀ {score : ℕ} {w : World}, Keeps loopScore score w →
      wp (env drv) (KeepsAtExit loopScore) (pollRing size score)
        (fun a w' ↦ Keeps loopScore a w') w := by
    intro score w hk
    unfold pollRing
    split_ifs
    · exact wp_ringLoop score hk
    · exact hk
  have hrest : ∀ {score : ℕ} {w : World}, Keeps loopScore score w →
      wp (env drv) (KeepsAtExit loopScore)
        (do
          let s ← Prog.get
          if s.isLegacyInterface = true then pollRing size score else pure score)
        (fun a w' ↦ Keeps loopScore a w') w := by
    intro score w hk
    refine Prog.wp_bind.2 (Prog.wp_get.2 ?_)
    split_ifs
    · exact hring hk
    · exact hk
  refine Prog.wp_bind.2 (Prog.wp_get.2 (Prog.wp_bind.2 ?_))
  split_ifs
  · refine Prog.wp_bind.2 (Prog.wp_mono (fun _ _ h ↦ h) (fun a w₁ hk₁ ↦ ?_)
      (wp_eventLoop loopScore 1 hk))
    obtain ⟨score, framesRemaining⟩ := a
    show wp _ _ (if score = 0 ∧ framesRemaining ≠ 0 then _ else _) _ _
    split_ifs
    · refine Prog.wp_bind.2 (wp_ask (fun h ↦ NicCall.noConfusion h) fun _ w₂ hsteps ↦ ?_)
      exact hrest (hk₁.driver hsteps).notifyMainLoop
    · exact hrest hk₁
  · exact hrest hk

/-- Between polls the laws hold, and the last poll has kept within its score. -/
theorem reachable_keeps (hw : Reachable drv size w) :
    ∃ score, Keeps (currentScore w.2) score w := by
  induction hw with
  | refl => exact ⟨0, rfl, fun _ ↦ trivial, trivial, rfl, rfl⟩
  | tail _ hstep ih =>
    obtain ⟨score₀, hk⟩ := ih
    cases hstep with
    | driver hd =>
      have hsteps := Relation.ReflTransGen.single hd
      have hcurrent := DriverSteps.congr currentScore (fun _ _ _ ↦ rfl) hsteps
      exact ⟨score₀, hcurrent ▸ hk.driver hsteps⟩
    | @poll s s' h h' loopScore score ho =>
      have hbegin : Keeps loopScore loopScore (s, .begin loopScore :: h) :=
        ⟨hk.balanced, hk.detection, hk.polls, rfl, Nat.zero_add _⟩
      have hend := Prog.outcome_of_wp (wp_nicPollData hbegin) ho
      have hcurrent : currentScore (.returned loopScore score :: h') = loopScore := hend.current
      rw [hcurrent]
      exact ⟨score, hend.balanced, hend.detection, ⟨⟨hend.current, hend.score_eq⟩, hend.polls⟩,
        hend.current, hend.score_eq⟩

end Nic

end NetworkStackPicoTcp
