import Mathlib.Tactic.SplitIfs
import NetworkStackPicoTcp.Model.NicSend

/-!
# Frames are sent once

However often the driver asks to try again, and whatever errors it returns, the frames that it has
sent are the frames that `nic_send_frame` has reported as sent, in the order of the queue and each
once, and a frame that is given up is too large or has been rejected (`frames_sent_once`).
-/

namespace NetworkStackPicoTcp

namespace NicSend

open Prog (wp)

variable {port : Port} {f : Frame} {queue : List Frame} {mem : Memory} {w w' : World}
  {x x' : List Frame × World} {ret : ℤ} {h : History}

/-! ### Reading the history -/

/-- The first `n` bytes of the memory. -/
def payload (n : ℕ) (mem : Memory) : Frame := (List.range n).map mem

/-- The frames that picoTCP has put in its queue, the first one first. -/
def queued : History → List Frame
  | [] => []
  | .queued f :: h => queued h ++ [f]
  | _ :: h => queued h

/-- The frames that have left the queue, the first one first, with what the function returned for
each. -/
def gone : History → List (Frame × ℤ)
  | [] => []
  | .returned f ret true :: h => gone h ++ [(f, ret)]
  | _ :: h => gone h

/-- The frames that the driver has sent, the first one first, as it has seen them. -/
def sent : History → List Frame
  | [] => []
  | .answer (.devWrite len) b mem :: h =>
    if b.1 = .success then sent h ++ [payload len mem] else sent h
  | _ :: h => sent h

/-- The frames that the driver has rejected. It is not that it could not send them now. -/
def rejected : History → List Frame
  | [] => []
  | .answer (.devWrite len) b mem :: h =>
    if b.1 = .success ∨ b.1 = .tryAgain then rejected h else payload len mem :: rejected h
  | _ :: h => rejected h

/-! ### One call -/

theorem sizeT_natCast {n : ℕ} (port : Port) (hn : n < 2 ^ 31) : port.sizeT n = n := by
  have hport := port.size_add_lt
  have hlt : (n : ℤ) < 2 ^ port.sizeTBits := by
    have hnat : n < 2 ^ port.sizeTBits := by omega
    exact_mod_cast hnat
  rw [Port.sizeT, Int.emod_eq_of_lt (Int.natCast_nonneg n) hlt, Int.toNat_natCast]

/-- The driver sees the frame. -/
theorem payload_memcpy (f : Frame) (mem : Memory) :
    payload f.length (memcpy f.memory f.length mem) = f := by
  refine List.ext_getElem (by simp [payload]) fun i hi hi' ↦ ?_
  simp [payload, memcpy, Frame.memory, hi']

/-- What a call for the frame `f` does from the world `w`: it refuses a frame that is too large, and
otherwise the driver sees the frame and its answer decides. -/
def Sends (port : Port) (f : Frame) (w : World) (ret : ℤ) (w' : World) : Prop :=
  (port.size < f.length ∧ ret = -1 ∧ w' = w) ∨
    f.length ≤ port.size ∧ w'.1 = memcpy f.memory f.length w.1 ∧
      ∃ b : OsError × ℕ, ret =
        (if b.1 = .success then (f.length : ℤ) else if b.1 = .tryAgain then 0 else -1) ∧
        ∃ report, w'.2 = report ++ .answer (.devWrite f.length) b w'.1 :: .wrote w.1 w'.1 :: w.2 ∧
          (report = [] ∨ ∃ len wrLen m, report = [.answer (.mismatch len wrLen) () m])

theorem sends_of_outcome (hf : f.length < 2 ^ 31)
    (ho : Prog.Outcome env (nicSendFrame port f.memory f.length) w ret w') :
    Sends port f w ret w' := by
  have hwp : wp env (fun _ _ ↦ True) (nicSendFrame port f.memory f.length) (Sends port f w) w := by
    unfold nicSendFrame
    generalize hn : port.sizeT (f.length : ℤ) = n
    obtain rfl : f.length = n := (sizeT_natCast port hf).symm.trans hn
    split_ifs with hsize
    · exact Or.inl ⟨hsize, rfl, rfl⟩
    · refine Prog.wp_bind.2 (Prog.wp_modify.2 (Prog.wp_bind.2 ⟨trivial, ?_⟩))
      rintro ⟨err, wrLen⟩ _ rfl
      have hfits : f.length ≤ port.size := Nat.le_of_not_lt hsize
      show wp _ _ (if err ≠ .success then _ else _) _ _
      split_ifs with herr hagain hlen
      · subst hagain
        exact Or.inr ⟨hfits, rfl, (.tryAgain, wrLen), rfl, [], rfl, Or.inl rfl⟩
      · exact Or.inr ⟨hfits, rfl, (err, wrLen), by rw [if_neg herr, if_neg hagain], [], rfl,
          Or.inl rfl⟩
      · obtain rfl : err = .success := not_not.1 herr
        refine Prog.wp_bind.2 ⟨trivial, ?_⟩
        rintro ⟨⟩ _ rfl
        exact Or.inr ⟨hfits, rfl, (.success, wrLen), rfl, [_], rfl, Or.inr ⟨_, _, _, rfl⟩⟩
      · obtain rfl : err = .success := not_not.1 herr
        exact Or.inr ⟨hfits, rfl, (.success, wrLen), rfl, [], rfl, Or.inl rfl⟩
  exact Prog.outcome_of_wp hwp ho

/-! ### Whole runs -/

/-- The queue, what has left it and what the driver has done agree; `mem` is the memory at first. -/
structure Orderly (port : Port) (mem : Memory) (x : List Frame × World) : Prop where
  queue_eq : queued x.2.2 = (gone x.2.2).map Prod.fst ++ x.1
  sent_eq : (sent x.2.2).filter (fun f ↦ f ≠ []) =
    ((gone x.2.2).filter fun fr ↦ 0 < fr.2).map Prod.fst
  given_up : ∀ fr ∈ gone x.2.2, fr.2 ≤ 0 → port.size < fr.1.length ∨ fr.1 ∈ rejected x.2.2
  length_lt : ∀ f ∈ x.1, f.length < 2 ^ 31
  memory_eq : ∀ i, port.size ≤ i → x.2.1 i = mem i

/-- What a call adds to the history, as far as it is read. -/
structure Adds (port : Port) (f : Frame) (w : World) (ret : ℤ) (w' : World) : Prop where
  queued_eq : queued w'.2 = queued w.2
  gone_eq : gone w'.2 = gone w.2
  sent_eq : (sent w'.2).filter (fun f ↦ f ≠ []) =
    (sent w.2).filter (fun f ↦ f ≠ []) ++ if 0 < ret then [f] else []
  failed : ret < 0 → port.size < f.length ∨ f ∈ rejected w'.2
  rejected_mono : ∀ g ∈ rejected w.2, g ∈ rejected w'.2
  memory_eq : ∀ i, port.size ≤ i → w'.1 i = w.1 i

theorem Sends.adds (hs : Sends port f w ret w') : Adds port f w ret w' := by
  obtain ⟨hsize, rfl, rfl⟩ | ⟨hfits, hmem, ⟨err, wrLen⟩, hret, report, hhist, hreport⟩ := hs
  · exact ⟨rfl, rfl, by simp, fun _ ↦ Or.inl hsize, fun _ ↦ id, fun _ _ ↦ rfl⟩
  · have hpayload : payload f.length w'.1 = f := by rw [hmem, payload_memcpy]
    -- the report of a mismatch is not read
    have hread : ∀ {β : Type} (g : History → β),
        (∀ len wrLen m h, g (.answer (.mismatch len wrLen) () m :: h) = g h) →
        g w'.2 = g (.answer (.devWrite f.length) (err, wrLen) w'.1 :: .wrote w.1 w'.1 :: w.2) := by
      intro β g hg
      rw [hhist]
      rcases hreport with rfl | ⟨len, wrLen, m, rfl⟩
      · rfl
      · exact hg ..
    have hsent := hread sent fun _ _ _ _ ↦ rfl
    have hrejected := hread rejected fun _ _ _ _ ↦ rfl
    simp only [sent, rejected, hpayload] at hsent hrejected
    dsimp only at hret
    refine ⟨(hread queued fun _ _ _ _ ↦ rfl), (hread gone fun _ _ _ _ ↦ rfl), ?_, fun hneg ↦ ?_,
      fun g hg ↦ ?_,
      fun i hi ↦ by rw [hmem, memcpy, if_neg (by omega)]⟩
    · rw [hsent]
      split_ifs at hret ⊢ with hok hpos hpos
      · have hne : f ≠ [] := by
          rintro rfl
          simp [hret] at hpos
        rw [List.filter_append, List.filter_cons_of_pos (by simpa using hne), List.filter_nil]
      · obtain rfl : f = [] := List.length_eq_zero_iff.1 (by omega)
        simp
      all_goals first | omega | simp
    · rw [hrejected]
      split_ifs at hret with hok hagain
      · omega
      · omega
      · rw [if_neg (not_or.2 ⟨hok, hagain⟩)]
        exact Or.inr List.mem_cons_self
    · rw [hrejected]
      split_ifs
      · exact hg
      · exact List.mem_cons_of_mem _ hg

/-- One step of picoTCP. -/
theorem Orderly.step (hx : Orderly port mem x) (hs : Step port x x') : Orderly port mem x' := by
  cases hs with
  | @enqueue queue w f hf =>
    refine ⟨?_, hx.sent_eq, hx.given_up, ?_, hx.memory_eq⟩
    · show queued w.2 ++ [f] = _
      rw [hx.queue_eq, List.append_assoc]
      rfl
    · exact List.forall_mem_append.2 ⟨hx.length_lt, List.forall_mem_singleton.2 hf⟩
  | @send f queue w w' ret leaves ho hsent hretry =>
    obtain ⟨hf, hrest⟩ := List.forall_mem_cons.1 hx.length_lt
    have hadds := (sends_of_outcome hf ho).adds
    have hqueue : queued w'.2 = (gone w'.2).map Prod.fst ++ f :: queue := by
      rw [hadds.queued_eq, hadds.gone_eq]
      exact hx.queue_eq
    have hgone : gone w'.2 = gone w.2 := hadds.gone_eq
    have hdone : (sent w'.2).filter (fun f ↦ f ≠ []) =
        ((gone w.2).filter fun fr ↦ 0 < fr.2).map Prod.fst ++ if 0 < ret then [f] else [] := by
      rw [← hx.sent_eq]
      exact hadds.sent_eq
    have hgiven : ∀ fr ∈ gone w'.2, fr.2 ≤ 0 → port.size < fr.1.length ∨ fr.1 ∈ rejected w'.2 := by
      rw [hadds.gone_eq]
      exact fun fr hfr hret ↦ (hx.given_up fr hfr hret).imp id (hadds.rejected_mono _)
    have hmem : ∀ i, port.size ≤ i → w'.1 i = mem i :=
      fun i hi ↦ (hadds.memory_eq i hi).trans (hx.memory_eq i hi)
    cases leaves with
    | true =>
      refine ⟨?_, ?_, ?_, hrest, hmem⟩
      · show queued w'.2 = (gone w'.2 ++ [(f, ret)]).map Prod.fst ++ queue
        rw [hqueue, List.map_append, List.append_assoc]
        rfl
      · show (sent w'.2).filter _ = ((gone w'.2 ++ [(f, ret)]).filter _).map Prod.fst
        rw [hdone, hgone, List.filter_append, List.map_append]
        refine congrArg _ ?_
        split_ifs with hpos
        · rw [List.filter_cons_of_pos (by simpa using hpos)]
          rfl
        · rw [List.filter_cons_of_neg (by simpa using hpos)]
          rfl
      · show ∀ fr ∈ gone w'.2 ++ [(f, ret)], _
        refine List.forall_mem_append.2 ⟨hgiven, List.forall_mem_singleton.2 fun hle ↦ ?_⟩
        have hne : ret ≠ 0 := fun h ↦ Bool.noConfusion (hretry h)
        exact hadds.failed (by omega)
    | false =>
      have hle : ¬ 0 < ret := fun h ↦ Bool.noConfusion (hsent h)
      refine ⟨hqueue, ?_, hgiven, hx.length_lt, hmem⟩
      show (sent w'.2).filter _ = ((gone w'.2).filter _).map Prod.fst
      rw [hdone, hgone, if_neg hle, List.append_nil]

/-- **Frames are sent once.** However long picoTCP sends frames and whatever the driver answers: the
frames that have left the queue are the first ones queued; those among them for which
`nic_send_frame` returned a positive number are the frames that the driver has sent, in this order,
apart from empty ones; each of the others is larger than the dataport, or the driver has rejected
it; and nothing is written behind the dataport. -/
theorem frames_sent_once (hx : Reachable port mem x) : Orderly port mem x := by
  induction hx with
  | refl => exact ⟨rfl, rfl, by simp [gone], by simp, fun _ _ ↦ rfl⟩
  | tail _ hs ih => exact ih.step hs

/-- A dataport of four bytes. -/
def samplePort : Port := ⟨4, 32, by decide⟩

/-- The driver is busy at first and then sends the frame [1, 2]. The frame behind it is too
large. -/
def sampleSent : World :=
  called samplePort (.success, 5) [1, 2, 3, 4, 5] true (called samplePort (.success, 2) [1, 2] true
    (called samplePort (.tryAgain, 0) [1, 2] false
      (fun _ ↦ 0, [.queued [1, 2, 3, 4, 5], .queued [1, 2]])))

theorem reachable_sampleSent : Reachable samplePort (fun _ ↦ 0) ([], sampleSent) := by
  have hqueued : Reachable samplePort (fun _ ↦ 0)
      ([[1, 2], [1, 2, 3, 4, 5]], fun _ ↦ 0, [.queued [1, 2, 3, 4, 5], .queued [1, 2]]) :=
    (Relation.ReflTransGen.refl.tail (.enqueue [1, 2] (by decide))).tail
      (.enqueue [1, 2, 3, 4, 5] (by decide))
  have hbusy := hqueued.tail (step_called (.tryAgain, 0) 0 false rfl (by decide) fun _ ↦ rfl)
  have hsent := hbusy.tail (step_called (.success, 2) 2 true rfl (fun _ ↦ rfl) (by decide))
  exact hsent.tail (step_called (.success, 5) (-1) true rfl (fun _ ↦ rfl) (by decide))

theorem frames_sent_once_sampleSent :
    gone sampleSent.2 = [([1, 2], 2), ([1, 2, 3, 4, 5], -1)] ∧ sent sampleSent.2 = [[1, 2]] ∧
      Orderly samplePort (fun _ ↦ 0) ([], sampleSent) :=
  ⟨rfl, rfl, frames_sent_once reachable_sampleSent⟩

end NicSend

end NetworkStackPicoTcp
