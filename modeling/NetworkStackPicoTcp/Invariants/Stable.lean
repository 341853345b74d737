import NetworkStackPicoTcp.Invariants.Sections

/-!
# Stable predicates

A predicate on worlds is stable for an RPC if callbacks and notification passes preserve it, and so
do the answers to some of the RPC's calls (`Stable`). Whatever happens while such a call is under
way, the predicate holds again when it returns (`Stable.request`), and so it does after each helper
of `create` and `accept` that issues no other calls.
-/

namespace NetworkStackPicoTcp

open Prog (wp)

variable {sched : Schedule} {c : ℤ} {r : RpcCall} {w w' : World} {P P' : Call → Prop}
  {I J : World → Prop}

/-- The call hands out no socket and does not read `pico_err`. -/
structure Call.Harmless (e : Call) : Prop extends e.AcquiresNone where
  ne_picoErr : e ≠ .picoErr

theorem Call.harmless_lock (m : Mutex) : (Call.lock m).Harmless := ⟨⟨by simp, by simp⟩, by simp⟩

theorem Call.harmless_unlock (m : Mutex) : (Call.unlock m).Harmless := ⟨⟨by simp, by simp⟩, by simp⟩

/-- Callbacks and notification passes preserve `I`, and so do the calls of the RPC with `P`. -/
structure Stable (c : ℤ) (r : RpcCall) (P : Call → Prop) (I : World → Prop) : Prop where
  event : ∀ w w', CallbackStep w w' → I w → I w'
  notified : ∀ s h, I (s, h) → I (s.notifyClientsAboutPendingEvents.1,
    .notified s s.notifyClientsAboutPendingEvents.1 :: h)
  answer : ∀ (e : Call) (b : e.Answer) s h, P e → I (s, h) → I (s, .answer c r e b s :: h)

namespace Stable

theorem mono (hI : Stable c r P I) (hP : ∀ e, P' e → P e) : Stable c r P' I :=
  ⟨hI.event, hI.notified, fun e b s h he ↦ hI.answer e b s h (hP e he)⟩

theorem and (hI : Stable c r P I) (hJ : Stable c r P J) : Stable c r P fun w ↦ I w ∧ J w :=
  ⟨fun w w' hs h ↦ ⟨hI.event w w' hs h.1, hJ.event w w' hs h.2⟩,
    fun s h hw ↦ ⟨hI.notified s h hw.1, hJ.notified s h hw.2⟩,
    fun e b s h he hw ↦ ⟨hI.answer e b s h he hw.1, hJ.answer e b s h he hw.2⟩⟩

theorem callbacks (hI : Stable c r P I) (hcb : Callbacks w w') (hw : I w) : I w' := by
  induction hcb with
  | refl => exact hw
  | tail _ hs ih => exact hI.event _ _ hs ih

theorem mainLoop (hI : Stable c r P I) (hl : MainLoop w w') (hw : I w) : I w' := by
  induction hl with
  | refl => exact hw
  | tail _ hs ih =>
    obtain ⟨w₁, hcb, rfl⟩ := hs
    exact hI.notified _ _ (hI.callbacks hcb ih)

theorem interference {e : Call} (hI : Stable c r P I) (hint : Interference sched e w w')
    (hw : I w) :
    I w' := by
  unfold Interference at hint
  split at hint
  · exact hI.callbacks hint hw
  · split_ifs at hint
    · exact hI.mainLoop hint hw
    · rwa [hint]

/-! ### Programs -/

theorem onCall {e : Call} {b : e.Answer} (hI : Stable c r P I) (he : P e) (hw : I w)
    (hcall : (rpcEnv sched c r).onCall e w b w') : I w' := by
  obtain ⟨w₁, hint, rfl⟩ := hcall
  exact hI.answer e b _ _ he (hI.interference hint hw)

theorem request {e : Call} {Q : e.Answer → World → Prop} (hI : Stable c r P I) (he : P e) (hw : I w)
    (hQ : ∀ b w', I w' → Q b w') : wp (rpcEnv sched c r) (fun _ _ ↦ True) (request e) Q w :=
  ⟨trivial, fun b w' hcall ↦ hQ b w' (hI.onCall he hw hcall)⟩

variable {p : PicoPtr} {Q : Unit → World → Prop}

theorem setOption {o : PicoOption} {v : ℕ} (hI : Stable c r Call.Harmless I) (hw : I w)
    (hQ : ∀ w', I w' → Q () w') : wp (rpcEnv sched c r) (fun _ _ ↦ True) (setOption p o v) Q w :=
  Prog.wp_bind.2 (hI.request ⟨⟨by simp, by simp⟩, by simp⟩ hw fun _ w₁ h₁ ↦ hQ w₁ h₁)

theorem setSocketOptions (hI : Stable c r Call.Harmless I) (hw : I w) (hQ : ∀ w', I w' → Q () w') :
    wp (rpcEnv sched c r) (fun _ _ ↦ True) (setSocketOptions p) Q w := by
  refine Prog.wp_bind.2 (hI.setOption hw fun w₁ h₁ ↦ ?_)
  refine Prog.wp_bind.2 (hI.setOption h₁ fun w₂ h₂ ↦ ?_)
  refine Prog.wp_bind.2 (hI.setOption h₂ fun w₃ h₃ ↦ ?_)
  exact hI.setOption h₃ hQ

theorem setStreamOption {type : SocketType} (hI : Stable c r Call.Harmless I) (hw : I w)
    (hQ : ∀ w', I w' → Q () w') :
    wp (rpcEnv sched c r) (fun _ _ ↦ True) (setStreamOption type p) Q w := by
  unfold NetworkStackPicoTcp.setStreamOption
  split_ifs
  · exact hI.setOption hw hQ
  · exact hQ w hw

theorem closeUnreserved (hI : Stable c r Call.AcquiresNone I) (hw : I w)
    (hQ : ∀ w', I w' → Q () w') :
    wp (rpcEnv sched c r) (fun _ _ ↦ True) (closeUnreserved p) Q w := by
  refine Prog.wp_bind.2 (hI.request ⟨by simp, by simp⟩ hw fun ret w₁ h₁ ↦ ?_)
  split_ifs
  · refine Prog.wp_bind.2 (hI.request ⟨by simp, by simp⟩ h₁ fun _ w₂ h₂ ↦ ?_)
    exact hI.request ⟨by simp, by simp⟩ h₂ fun _ w₃ h₃ ↦ hQ w₃ h₃
  · exact hI.request ⟨by simp, by simp⟩ h₁ fun _ w₂ h₂ ↦ hQ w₂ h₂

/-! ### Instances -/

/-- What callbacks and notification passes leave in the history alone. -/
theorem of_history {α : Type} {f : History → α} {p : α → Prop}
    (hevent : ∀ ev s s' h, f (.event ev s s' :: h) = f h)
    (hnotified : ∀ s s' h, f (.notified s s' :: h) = f h)
    (hanswer : ∀ (e : Call) (b : e.Answer) s h, P e → f (.answer c r e b s :: h) = f h) :
    Stable c r P fun w ↦ p (f w.2) := by
  refine ⟨fun w w' hs hw ↦ ?_, fun s h hw ↦ ?_, fun e b s h he hw ↦ ?_⟩
  · obtain ⟨ev, -, -, hh⟩ := hs
    rw [hh, hevent]
    exact hw
  · show p (f (.notified _ _ :: h))
    rw [hnotified]
    exact hw
  · show p (f (.answer c r e b s :: h))
    rw [hanswer e b s h he]
    exact hw

/-- The slot that the RPC has reserved. -/
theorem reserved {p : Option ℕ → Prop} : Stable c r P fun w ↦ p (thread w.2).reserved :=
  of_history (f := fun h ↦ (thread h).reserved) (fun _ _ _ _ ↦ rfl) (fun _ _ _ ↦ rfl)
    fun _ _ _ _ _ ↦ Thread.answered_reserved

/-- Masks, errors, pending counts and flags change, but nothing else in the tables does. -/
theorem sameFrame {s : NetworkStack} : Stable c r P fun w ↦ SameFrame s w.1 :=
  ⟨fun _ _ hs hw ↦ hw.trans (sameFrame_callbackStep hs),
    fun _ _ hw ↦ hw.trans NetworkStack.sameFrame_notify, fun _ _ _ _ _ hw ↦ hw⟩

end Stable

end NetworkStackPicoTcp
