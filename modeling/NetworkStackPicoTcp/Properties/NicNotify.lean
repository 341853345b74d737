import NetworkStackPicoTcp.Invariants.Nic

/-!
# Frames that are left behind

A poll that has used up its loop score should wake the main loop when the driver still has a frame.
The event-based part does so on the `framesRemaining` of the last read, the part for the ring never
does. So a frame is left behind silently when the ring is found full at every look, and when the
read that uses up the score is an error that says 0 where the last successful one did not.
-/

namespace NetworkStackPicoTcp

namespace Nic

open Prog (wp)

variable {drv : Driver} {size total : ℕ} {w w' : World} {h : History} {R : List DevRead}

/-- The `framesRemaining` of the last successful `nic_dev_read`. -/
def lastReported : History → Option ℕ
  | [] => none
  | .answer .devRead r _ :: h =>
    if r.status = .success then some r.framesRemaining else lastReported h
  | _ :: h => lastReported h

/-- The driver still holds a frame, as far as the poll can know: the slot at the reading position is
full, or the last successful read has reported more. -/
def HoldsFrame (s : State) (h : History) : Prop :=
  if s.isLegacyInterface = true then (s.ring s.pos).len ≠ 0
  else ∃ n, lastReported h = some n ∧ n ≠ 0

/-- What the driver does during a poll with this loop score lets no frame be left behind. With the
legacy interface, some look at the ring finds the next slot empty, or it is empty when there is no
score to begin with. With the event-based one, the read that uses up the score is not an error that
passes and says that no frame is left where the last successful read has said otherwise. -/
def NothingLeft (loopScore : ℕ) (s : State) (h : History) : Prop :=
  if s.isLegacyInterface = true ∨ ∃ r ∈ readsNow h, r.status = .notImplemented then
    if loopScore = 0 then (s.ring s.pos).len = 0 else ∃ len ∈ looksNow h, len = 0
  else ¬ ((readsNow h).length = loopScore ∧ (∃ r, (readsNow h).head? = some r ∧ Passes r ∧
    r.status ≠ .success ∧ r.framesRemaining = 0) ∧ ∃ n, lastReported h = some n ∧ n ≠ 0)

/-- The last read of the poll, if it succeeded, is the last successful one. -/
theorem lastReported_of_head {r : DevRead} (hr : (readsNow h).head? = some r)
    (hs : r.status = .success) : lastReported h = some r.framesRemaining := by
  induction h with
  | nil => exact absurd hr (by simp [readsNow])
  | cons x h ih =>
    cases x with
    | begin loopScore => exact absurd hr (by simp [readsNow])
    | answer e b s =>
      cases e with
      | devRead =>
        obtain rfl : b = r := Option.some.inj hr
        exact if_pos hs
      | _ => exact ih hr
    | _ => exact ih hr

/-! ### The loop over the reads -/

/-- The last `framesRemaining` of the poll, which starts at 1. -/
def framesNow (h : History) : ℕ := ((readsNow h).head?.map DevRead.framesRemaining).getD 1

/-- At the head of the loop over `nic_dev_read`. -/
structure Reading (total score : ℕ) (w : World) : Prop where
  eventBased : w.1.isLegacyInterface = false
  notified : notifiedNow w.2 = false
  looks : looksNow w.2 = []
  passes : ∀ r ∈ readsNow w.2, Passes r
  score_eq : (readsNow w.2).length + score = total

theorem Reading.driver {score : ℕ} (hr : Reading total score w) (hsteps : DriverSteps drv w w') :
    Reading total score w' := by
  have hreads : readsNow w'.2 = readsNow w.2 := hsteps.congr readsNow fun _ _ _ ↦ rfl
  refine ⟨hsteps.isLegacyInterface.trans hr.eventBased, ?_, ?_, ?_, ?_⟩
  · rw [hsteps.congr notifiedNow fun _ _ _ ↦ rfl]
    exact hr.notified
  · rw [hsteps.congr looksNow fun _ _ _ ↦ rfl]
    exact hr.looks
  · rw [hreads]
    exact hr.passes
  · rw [hreads]
    exact hr.score_eq

/-- After the loop: the score has been used up by reads that passed, or the last read has ended the
loop. -/
structure HasRead (total : ℕ) (a : ℕ × ℕ) (w : World) : Prop where
  notified : notifiedNow w.2 = false
  looks : looksNow w.2 = []
  cases : (Reading total a.1 w ∧ a.2 = framesNow w.2) ∨
    (0 < a.1 ∧ 0 < total ∧
      ∃ r rest, readsNow w.2 = r :: rest ∧ ¬ Passes r ∧ (∀ r ∈ rest, Passes r) ∧
      (w.1.isLegacyInterface = true ↔ r.status = .notImplemented))

/-- After a read that ends the loop. -/
theorem Reading.hasRead {score : ℕ} {a : ℕ × ℕ} {r : DevRead} {s : State}
    (hr : Reading total score w) (ha : 0 < a.1) (htotal : 0 < total) (hpass : ¬ Passes r)
    (hmode : s.isLegacyInterface = true ↔ r.status = .notImplemented) {h : History}
    (hh : notifiedNow h = false ∧ looksNow h = [] ∧ readsNow h = r :: readsNow w.2) :
    HasRead total a (s, h) :=
  ⟨hh.1, hh.2.1, Or.inr ⟨ha, htotal, r, readsNow w.2, hh.2.2, hpass, hr.passes, hmode⟩⟩

theorem wp_eventLoop_notify (score : ℕ) {framesRemaining : ℕ} (hr : Reading total score w)
    (hframes : framesRemaining = framesNow w.2) :
    wp (env drv) (fun _ _ ↦ True) (eventLoop score framesRemaining) (HasRead total) w := by
  induction score generalizing framesRemaining w with
  | zero => exact ⟨hr.notified, hr.looks, Or.inl ⟨hr, hframes⟩⟩
  | succ score ih =>
    show wp _ _ (if framesRemaining = 0 then _ else _) _ _
    split_ifs
    · exact ⟨hr.notified, hr.looks, Or.inl ⟨hr, hframes⟩⟩
    refine Prog.wp_bind.2 (wp_ask trivial fun r w₁ hsteps ↦ ?_)
    have hr₁ := hr.driver hsteps
    have hscore : 0 < score + 1 := Nat.succ_pos score
    have htotal : 0 < total := by have := hr.score_eq; omega
    split_ifs with himpl hinit hdata
    · refine Prog.wp_bind.2 (Prog.wp_get.2 ?_)
      split_ifs
      · exact ⟨trivial, fun b ↦ b.elim⟩
      · exact hr₁.hasRead hscore htotal (fun hp ↦ hp.1 himpl) (iff_of_true rfl himpl)
          ⟨hr₁.notified, hr₁.looks, rfl⟩
    · exact hr₁.hasRead hscore htotal (fun hp ↦ hp.2.1 hinit)
        (iff_of_false (by rw [hr₁.eventBased]; decide) himpl) ⟨hr₁.notified, hr₁.looks, rfl⟩
    · exact hr₁.hasRead hscore htotal (fun hp ↦ hp.2.2 hdata)
        (iff_of_false (by rw [hr₁.eventBased]; decide) himpl) ⟨hr₁.notified, hr₁.looks, rfl⟩
    · have hpass : Passes r := ⟨himpl, hinit, hdata⟩
      refine Prog.wp_bind.2 (wp_ask trivial fun _ w₂ hsteps₂ ↦ ?_)
      have hreads : readsNow w₂.2 = r :: readsNow w₁.2 := hsteps₂.congr readsNow fun _ _ _ ↦ rfl
      have hnotified : notifiedNow w₂.2 = false :=
        (hsteps₂.congr notifiedNow fun _ _ _ ↦ rfl).trans hr₁.notified
      have hlooks : looksNow w₂.2 = [] := (hsteps₂.congr looksNow fun _ _ _ ↦ rfl).trans hr₁.looks
      have hmode : w₂.1.isLegacyInterface = false :=
        hsteps₂.isLegacyInterface.trans hr₁.eventBased
      refine Prog.wp_bind.2 (Prog.wp_modify.2 (ih ⟨hmode, hnotified, hlooks, ?_, ?_⟩ ?_))
      · show ∀ r ∈ readsNow w₂.2, Passes r
        rw [hreads]
        exact List.forall_mem_cons.2 ⟨hpass, hr₁.passes⟩
      · show (readsNow w₂.2).length + score = total
        rw [hreads, List.length_cons]
        have := hr₁.score_eq
        omega
      · show r.framesRemaining = ((readsNow w₂.2).head?.map DevRead.framesRemaining).getD 1
        rw [hreads]
        rfl

/-! ### The loop over the ring -/

/-- In the part of the poll for the ring, with the reads `R` before it. -/
structure Looking (R : List DevRead) (w : World) : Prop where
  legacy : w.1.isLegacyInterface = true
  notified : notifiedNow w.2 = false
  reads_eq : readsNow w.2 = R

theorem Looking.driver (hl : Looking R w) (hsteps : DriverSteps drv w w') : Looking R w' where
  legacy := hsteps.isLegacyInterface.trans hl.legacy
  notified := (hsteps.congr notifiedNow fun _ _ _ ↦ rfl).trans hl.notified
  reads_eq := (hsteps.congr readsNow fun _ _ _ ↦ rfl).trans hl.reads_eq

/-- A poll uses up its score and leaves a full slot exactly when it has found the ring full at every
look. -/
theorem wp_ringLoop_notify (score : ℕ) (hl : Looking R w) (hfull : ∀ len ∈ looksNow w.2, len ≠ 0) :
    wp (env drv) (fun _ _ ↦ True) (ringLoop size score)
      (fun a w' ↦ Looking R w' ∧ ((a = 0 ∧ (w'.1.ring w'.1.pos).len ≠ 0) ↔
        ∀ len ∈ looksNow w'.2, len ≠ 0)) w := by
  induction score generalizing w with
  | zero =>
    refine Prog.wp_bind.2 (wp_ask trivial fun _ w₁ hsteps ↦ ?_)
    have hlooks : looksNow w₁.2 = looksNow w.2 := hsteps.congr looksNow fun _ _ _ ↦ rfl
    have hl₁ := hl.driver hsteps
    refine ⟨⟨hl₁.legacy, hl₁.notified, hl₁.reads_eq⟩, ?_⟩
    show _ ↔ ∀ len ∈ (w₁.1.ring w₁.1.pos).len :: looksNow w₁.2, len ≠ 0
    rw [List.forall_mem_cons, hlooks]
    exact ⟨fun h ↦ ⟨h.2, hfull⟩, fun h ↦ ⟨rfl, h.1⟩⟩
  | succ score ih =>
    refine Prog.wp_bind.2 (wp_ask trivial fun _ w₁ hsteps ↦ ?_)
    have hlooks : looksNow w₁.2 = looksNow w.2 := hsteps.congr looksNow fun _ _ _ ↦ rfl
    have hl₁ := hl.driver hsteps
    refine Prog.wp_bind.2 (Prog.wp_get.2 ?_)
    split_ifs with hempty
    · refine ⟨⟨hl₁.legacy, hl₁.notified, hl₁.reads_eq⟩, ?_⟩
      exact iff_of_false (fun h ↦ h.2 hempty) fun h ↦ h _ List.mem_cons_self hempty
    · refine Prog.wp_bind.2 (wp_ask trivial fun _ w₂ hsteps₂ ↦ ?_)
      refine Prog.wp_bind.2 (Prog.wp_modify.2 (Prog.wp_bind.2 (Prog.wp_modify.2 (ih ?_ ?_))))
      · have hlook : Looking R (answered .preempt () w₁) := ⟨hl₁.legacy, hl₁.notified, hl₁.reads_eq⟩
        have hl₂ := hlook.driver hsteps₂
        exact ⟨hl₂.legacy, hl₂.notified, hl₂.reads_eq⟩
      · have hlooks₂ : looksNow w₂.2 = (w₁.1.ring w₁.1.pos).len :: looksNow w₁.2 :=
          hsteps₂.congr looksNow fun _ _ _ ↦ rfl
        show ∀ len ∈ looksNow w₂.2, len ≠ 0
        rw [hlooks₂, hlooks]
        exact List.forall_mem_cons.2 ⟨hempty, hfull⟩

/-- The part of the poll for the ring. -/
theorem wp_pollRing_notify (score : ℕ) (hl : Looking R w) (hlooks : looksNow w.2 = []) :
    wp (env drv) (fun _ _ ↦ True) (pollRing size score)
      (fun a w' ↦ Looking R w' ∧ ((a = 0 ∧ (w'.1.ring w'.1.pos).len ≠ 0) ↔
        if score = 0 then (w.1.ring w.1.pos).len ≠ 0 else ∀ len ∈ looksNow w'.2, len ≠ 0)) w := by
  have hfull : ∀ len ∈ looksNow w.2, len ≠ 0 := by
    rw [hlooks]
    exact List.forall_mem_nil _
  unfold pollRing
  split_ifs with hpos hzero hzero
  · omega
  · exact wp_ringLoop_notify score hl hfull
  · exact ⟨hl, fun h ↦ h.2, fun h ↦ ⟨hzero, h⟩⟩
  · omega

/-! ### The poll -/

/-- The poll wakes the main loop when it leaves a frame behind. -/
def NotifiesOfRest (score : ℕ) (w : World) : Prop :=
  score = 0 → HoldsFrame w.1 w.2 → notifiedNow w.2 = true

/-- A poll that ends in the part for the ring does not notify. -/
theorem Looking.notifies_iff {s : State} {score : ℕ} (hl : Looking R w)
    (hmode : s.isLegacyInterface = true ∨ ∃ r ∈ R, r.status = .notImplemented)
    (hfull : (score = 0 ∧ (w.1.ring w.1.pos).len ≠ 0) ↔
      if total = 0 then (s.ring s.pos).len ≠ 0 else ∀ len ∈ looksNow w.2, len ≠ 0) :
    NotifiesOfRest score w ↔ NothingLeft total s w.2 := by
  have hleft : NotifiesOfRest score w ↔ ¬ (score = 0 ∧ (w.1.ring w.1.pos).len ≠ 0) := by
    unfold NotifiesOfRest HoldsFrame
    rw [if_pos hl.legacy, hl.notified]
    simp
  rw [hleft, hfull, NothingLeft, hl.reads_eq, if_pos hmode]
  split_ifs
  · exact not_not
  · simp

/-- Nothing has selected the legacy interface. -/
theorem Reading.not_legacy {s : State} {score : ℕ} (hr : Reading total score w)
    (hs : s.isLegacyInterface = false) :
    ¬ (s.isLegacyInterface = true ∨ ∃ r ∈ readsNow w.2, r.status = .notImplemented) := by
  rintro (hl | ⟨r, hr', himpl⟩)
  · exact absurd (hs.symm.trans hl) (by decide)
  · exact (hr.passes r hr').1 himpl

/-- A poll that ends in the event-based part with all its reads passed. -/
theorem Reading.notifies_iff {s : State} {a : ℕ × ℕ} (hr : Reading total a.1 w)
    (hframes : a.2 = framesNow w.2) (hs : s.isLegacyInterface = false)
    (hquiet : ¬ (a.1 = 0 ∧ a.2 ≠ 0)) : NotifiesOfRest a.1 w ↔ NothingLeft total s w.2 := by
  unfold NotifiesOfRest HoldsFrame NothingLeft
  rw [if_neg (hr.not_legacy hs), if_neg (by rw [hr.eventBased]; decide), hr.notified]
  have hscore := hr.score_eq
  constructor
  · rintro hnot ⟨hlen, -, hlast⟩
    exact Bool.noConfusion (hnot (by omega) hlast)
  · intro hnot hzero hlast
    refine absurd ⟨by omega, ?_, hlast⟩ hnot
    have hnone : framesNow w.2 = 0 := by
      by_contra hne
      exact hquiet ⟨hzero, hframes ▸ hne⟩
    cases hreads : readsNow w.2 with
    | nil => rw [framesNow, hreads] at hnone; exact absurd hnone (by decide)
    | cons r rest =>
      rw [framesNow, hreads] at hnone
      refine ⟨r, rfl, hr.passes r (hreads ▸ List.mem_cons_self), fun hsucc ↦ ?_, hnone⟩
      obtain ⟨n, hn, hne⟩ := hlast
      rw [lastReported_of_head (by rw [hreads]; rfl) hsucc] at hn
      exact hne (Option.some.inj hn ▸ hnone)

/-- With the notification, no read can have said that no frame is left. -/
theorem Reading.nothingLeft {s : State} {score : ℕ} (hr : Reading total score w)
    (hs : s.isLegacyInterface = false) (hframes : framesNow w.2 ≠ 0) : NothingLeft total s w.2 := by
  unfold NothingLeft
  rw [if_neg (hr.not_legacy hs)]
  rintro ⟨-, ⟨r, hhead, -, -, hzero⟩, -⟩
  rw [framesNow, hhead] at hframes
  exact hframes hzero

theorem wp_nicPollData_notify (s : State) (h : History) (total : ℕ) :
    wp (env drv) (fun _ _ ↦ True) (nicPollData size total)
      (fun a w' ↦ NotifiesOfRest a w' ↔ NothingLeft total s w'.2) (s, .begin total :: h) := by
  refine Prog.wp_bind.2 (Prog.wp_get.2 (Prog.wp_bind.2 ?_))
  split_ifs with hs
  · have hbegin : Reading total total (s, .begin total :: h) :=
      ⟨hs, rfl, rfl, List.forall_mem_nil _, Nat.zero_add _⟩
    refine Prog.wp_bind.2 (Prog.wp_mono (fun _ _ h ↦ h) (fun a w₁ hread ↦ ?_)
      (wp_eventLoop_notify total hbegin rfl))
    obtain ⟨score, frames⟩ := a
    show wp _ _ (if score = 0 ∧ frames ≠ 0 then _ else _) _ _
    obtain ⟨hr, hframes⟩ | ⟨hscore, htotal, r, rest, hreads, hbreak, hrest, hlegacy⟩ := hread.cases
    · split_ifs with hnotify
      · refine Prog.wp_bind.2 (wp_ask trivial fun _ w₂ hsteps ↦ Prog.wp_bind.2 (Prog.wp_get.2 ?_))
        have hr₂ := hr.driver hsteps
        have hmode : w₂.1.isLegacyInterface ≠ true := by rw [hr₂.eventBased]; decide
        rw [if_neg hmode]
        have hframes₂ : framesNow w₂.2 = frames :=
          (hsteps.congr framesNow fun _ _ _ ↦ rfl).trans hframes.symm
        exact iff_of_true (fun _ _ ↦ rfl)
          (hr₂.nothingLeft (w := w₂) hs (by rw [hframes₂]; exact hnotify.2))
      · refine Prog.wp_bind.2 (Prog.wp_get.2 ?_)
        have hmode : w₁.1.isLegacyInterface ≠ true := by rw [hr.eventBased]; decide
        rw [if_neg hmode]
        exact hr.notifies_iff hframes hs hnotify
    · rw [if_neg fun hnotify ↦ absurd hnotify.1 (by omega)]
      refine Prog.wp_bind.2 (Prog.wp_get.2 ?_)
      split_ifs with hmode
      · have himpl := hlegacy.1 hmode
        have hl : Looking (r :: rest) w₁ := ⟨hmode, hread.notified, hreads⟩
        refine Prog.wp_mono (fun _ _ h ↦ h) (fun a w₂ hw₂ ↦ ?_)
          (wp_pollRing_notify score hl hread.looks)
        refine hw₂.1.notifies_iff (Or.inr ⟨r, List.mem_cons_self, himpl⟩) ?_
        rw [hw₂.2, if_neg (by omega), if_neg (by omega)]
      · refine iff_of_true (fun hzero ↦ absurd hzero (by omega)) ?_
        have hnone : ¬ (s.isLegacyInterface = true ∨
            ∃ r ∈ readsNow w₁.2, r.status = .notImplemented) := by
          rintro (hl | ⟨r', hr', himpl⟩)
          · exact absurd (hs.symm.trans hl) (by decide)
          · rw [hreads] at hr'
            obtain rfl | hr' := List.mem_cons.1 hr'
            · exact hmode (hlegacy.2 himpl)
            · exact (hrest r' hr').1 himpl
        unfold NothingLeft
        rw [if_neg hnone, hreads]
        rintro ⟨-, ⟨r', hr', hpass, -⟩, -⟩
        obtain rfl := Option.some.inj hr'
        exact hbreak hpass
  · refine Prog.wp_bind.2 (Prog.wp_get.2 ?_)
    have hmode : s.isLegacyInterface = true := by simpa using hs
    rw [if_pos hmode]
    have hl : Looking [] (s, .begin total :: h) := ⟨hmode, rfl, rfl⟩
    refine Prog.wp_mono (fun _ _ h ↦ h) (fun a w₂ hw₂ ↦ ?_) (wp_pollRing_notify total hl rfl)
    exact hw₂.1.notifies_iff (Or.inl hmode) hw₂.2

/-- **A frame is left behind silently** only when the driver has made the poll miss it: for any
driver, mode and loop score, from any state. -/
theorem notifies_of_rest_iff {loopScore score : ℕ}
    (ho : Prog.Outcome (env drv) (nicPollData size loopScore) (w.1, .begin loopScore :: w.2) score
      w') :
    (score = 0 → HoldsFrame w'.1 w'.2 → notifiedNow w'.2 = true) ↔
      NothingLeft loopScore w.1 w'.2 :=
  Prog.outcome_of_wp (wp_nicPollData_notify w.1 w.2 loopScore) ho

/-- The driver has filled a ring of two slots. -/
def sampleFull : World := driverWrite 1 ⟨61, [2]⟩ (driverWrite 0 ⟨60, [1]⟩ (State.init, []))

/-- With a loop score of 1 the poll delivers one of the two frames, and does not notify. -/
theorem not_notifies_of_rest :
    ∃ w score w', Reachable .any 2 w ∧ Prog.Outcome (env .any) (nicPollData 2 1)
      (w.1, .begin 1 :: w.2) score w' ∧ score = 0 ∧ HoldsFrame w'.1 w'.2 ∧
      ¬ (score = 0 → HoldsFrame w'.1 w'.2 → notifiedNow w'.2 = true) := by
  have hw : Reachable .any 2 sampleFull :=
    .tail (.tail .refl (.driver ⟨0, ⟨60, [1]⟩, trivial, rfl⟩))
      (.driver ⟨1, ⟨61, [2]⟩, trivial, rfl⟩)
  have hquiet : ∀ (e : NicCall) (w : World), DriverSteps .any w w := fun _ _ ↦ .refl
  have hpoll : poll 2 1 ⟨.notImplemented, 0, 0⟩ (fun _ w ↦ w) sampleFull =
      some (polled 2 1 ⟨.notImplemented, 0, 0⟩ (fun _ w ↦ w) sampleFull) := rfl
  obtain ⟨score, h', ho, hh⟩ := outcome_of_poll hquiet hpoll
  have hscore : score = 0 := by
    have hret : (polled 2 1 ⟨.notImplemented, 0, 0⟩ (fun _ w ↦ w) sampleFull).2.head? =
      some (.returned 1 0) := rfl
    rw [hh] at hret
    exact (Entry.returned.inj (Option.some.inj hret)).2
  have hnot : notifiedNow h' = false := by
    have hrun :
        notifiedNow (polled 2 1 ⟨.notImplemented, 0, 0⟩ (fun _ w ↦ w) sampleFull).2 = false := rfl
    rwa [hh] at hrun
  have hholds : HoldsFrame (polled 2 1 ⟨.notImplemented, 0, 0⟩ (fun _ w ↦ w) sampleFull).1 h' := by
    have hmode : (polled 2 1 ⟨.notImplemented, 0, 0⟩ (fun _ w ↦ w) sampleFull).1.isLegacyInterface =
      true := rfl
    rw [HoldsFrame, if_pos hmode]
    decide
  refine ⟨_, score, _, hw, ho, hscore, hholds, fun hnotifies ↦ ?_⟩
  exact Bool.noConfusion (hnot.symm.trans (hnotifies hscore hholds))

/-- A read that uses up the score and reports three more frames makes the poll notify. -/
theorem notifies_of_rest_iff_more_frames :
    ∃ score w', Prog.Outcome (env .any) (nicPollData 2 1) (State.init, [.begin 1]) score w' ∧
      lastReported w'.2 = some 3 ∧
      (score = 0 → HoldsFrame w'.1 w'.2 → notifiedNow w'.2 = true) := by
  have hquiet : ∀ (e : NicCall) (w : World), DriverSteps .any w w := fun _ _ ↦ .refl
  have hpoll : poll 2 1 ⟨.success, 60, 3⟩ (fun _ w ↦ w) (State.init, []) =
      some (polled 2 1 ⟨.success, 60, 3⟩ (fun _ w ↦ w) (State.init, [])) := rfl
  obtain ⟨score, h', ho, hh⟩ := outcome_of_poll hquiet hpoll
  have hreads : readsNow h' = [⟨.success, 60, 3⟩] := by
    have hrun : readsNow (polled 2 1 ⟨.success, 60, 3⟩ (fun _ w ↦ w) (State.init, [])).2 =
      [⟨.success, 60, 3⟩] := rfl
    rwa [hh] at hrun
  refine ⟨score, _, ho, lastReported_of_head (by rw [hreads]; rfl) rfl, ?_⟩
  refine (notifies_of_rest_iff (w := (State.init, [])) ho).2 ?_
  have hmode : ¬ ((State.init).isLegacyInterface = true ∨
      ∃ r ∈ readsNow h', r.status = .notImplemented) := by
    rw [hreads]
    decide
  rw [NothingLeft, if_neg hmode, hreads]
  rintro ⟨-, ⟨r, hr, -, hne, -⟩, -⟩
  obtain rfl := Option.some.inj hr
  exact hne rfl

end Nic

end NetworkStackPicoTcp
