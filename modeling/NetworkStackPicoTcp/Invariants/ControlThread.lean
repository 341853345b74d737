import NetworkStackPicoTcp.Invariants.Replies

/-!
# The control thread, the ticker, and what the threads owe each other

An iteration of the main loop takes `stackTS`, and within it every write keeps to the frame on which
the RPC thread relies. The control thread is awake from the moment its wait returns until picoTCP's
tick begins, so a tick that has begun has been given everything that was handed over before
(`Component.followsLoop_iteration`).

`Component.contract` has the terms of all threads together. What an RPC leaves behind, what its
reply tells, and that the main loop will be woken for what it has handed over, is what holds while
the RPC thread is idle (`Component.RpcIdle`).
-/

namespace NetworkStackPicoTcp

namespace Component

open Prog (Within)
open Trace (Always)

variable {pl : Platform} {cfg : NetworkStackPicoTcp.Config} {c : ℤ} {r : RpcCall} {s : NetworkStack}
  {w w' : World} {i k : ℕ} {bit : OsSockEv} {ev : PicoEvent} {evs : List PicoEvent}

/-! ### The statements under `stackTS` -/

/-- The write keeps to the frame and takes no event back. -/
def Framed (f : NetworkStack → NetworkStack) : Prop :=
  ∀ s, SameFrame s (f s) ∧ ∀ j, (s.sockets j).eventMask ⊆ ((f s).sockets j).eventMask

/-- The call is one that the control thread makes under `stackTS` only. -/
def LoopCall.inside : LoopCall → Bool
  | .stackTick | .callback _ | .eventNotify _ | .wrapper (.pico _) | .wrapper .picoErr
  | .wrapper .nullDeref => true
  | _ => false

/-- The call is one of a tick that has begun, or of the notifications after it. -/
def LoopCall.Working (e : LoopCall) : Prop := e.inside = true ∧ e ≠ .stackTick

theorem framed_updateSocket {f : SocketResources → SocketResources} (hf : ∀ r, SlotFrame r (f r))
    (hmask : ∀ r, r.eventMask ⊆ (f r).eventMask) : Framed fun s ↦ s.updateSocket i f := by
  refine fun s ↦ ⟨SameFrame.updateSocket (hf _), fun j ↦ ?_⟩
  rw [NetworkStack.updateSocket_sockets]
  split_ifs with hj
  · rw [hj]
    exact hmask _
  · exact Finset.Subset.refl _

theorem framed_updateClient (b : Bool) :
    Framed fun s ↦ s.updateClient k fun cl ↦ { cl with needsToBeNotified := b } :=
  fun _ ↦ ⟨SameFrame.updateClient k b, fun _ ↦ Finset.Subset.refl _⟩

theorem within_raise : Within Framed LoopCall.Working (raise i bit) := by
  refine Prog.within_modify (framed_updateSocket (fun _ ↦ ?_) fun _ ↦ Finset.subset_insert _ _)
  exact ⟨rfl, rfl, rfl, rfl, rfl, rfl, rfl, id⟩

theorem within_raiseIf {b : Bool} : Within Framed LoopCall.Working (raiseIf b i bit) := by
  unfold raiseIf
  split_ifs
  · exact within_raise
  · exact Prog.within_pure

theorem within_recordConn : Within Framed LoopCall.Working (recordConn ev i) := by
  unfold recordConn
  split_ifs
  · refine Prog.within_bind within_raise fun _ ↦
      Prog.within_modify (framed_updateSocket (fun _ ↦ ?_) fun _ ↦ ?_)
    · exact ⟨rfl, rfl, rfl, rfl, rfl, rfl, rfl, id⟩
    · exact Finset.Subset.refl _
  · refine Prog.within_bind within_raise fun _ ↦
      Prog.within_modify (framed_updateSocket (fun _ ↦ ?_) fun _ ↦ ?_)
    · exact ⟨rfl, rfl, rfl, rfl, rfl, rfl, rfl, fun _ ↦ rfl⟩
    · exact Finset.Subset.refl _
  · exact Prog.within_pure

theorem within_recordErr : Within Framed LoopCall.Working (recordErr ev i) := by
  unfold recordErr
  split_ifs
  · refine Prog.within_bind (Prog.within_perform ⟨rfl, by simp⟩) fun e ↦ ?_
    refine Prog.within_bind (Prog.within_modify ?_) fun _ ↦ ?_
    · exact framed_updateSocket (SlotFrame.setError _) fun _ ↦ Finset.Subset.refl _
    · refine Prog.within_bind within_raise fun _ ↦ ?_
      exact Prog.within_bind (Prog.within_perform ⟨rfl, by simp⟩) fun e ↦ within_raiseIf
  · exact Prog.within_pure

theorem within_flagOwner : Within Framed LoopCall.Working (flagOwner i) := by
  refine Prog.within_bind Prog.within_get fun s ↦ ?_
  cases s.getClientFromClientId (s.sockets i).clientId with
  | none => exact ⟨⟨rfl, by simp⟩, fun b ↦ b.elim⟩
  | some k => exact Prog.within_modify (framed_updateClient true)

theorem within_handlePicoSocketEvent :
    Within Framed LoopCall.Working (handlePicoSocketEvent ev) := by
  refine Prog.within_bind Prog.within_get fun s ↦ ?_
  cases s.getHandleFromImplementationSocket ev.socket with
  | none =>
    show Within Framed LoopCall.Working (closeOrphan ev)
    unfold closeOrphan
    split_ifs
    · exact Prog.within_bind (Prog.within_perform ⟨rfl, by simp⟩) fun _ ↦ Prog.within_pure
    · exact Prog.within_pure
  | some i =>
    refine Prog.within_bind within_recordConn fun _ ↦ ?_
    refine Prog.within_bind within_raiseIf fun _ ↦ Prog.within_bind within_raiseIf fun _ ↦ ?_
    refine Prog.within_bind within_raiseIf fun _ ↦ Prog.within_bind within_raiseIf fun _ ↦ ?_
    exact Prog.within_bind within_recordErr fun _ ↦ within_flagOwner

theorem within_callbacks : Within Framed LoopCall.Working (callbacks evs) := by
  induction evs with
  | nil => exact Prog.within_pure
  | cons ev evs ih =>
    refine Prog.within_bind (Prog.within_perform ⟨rfl, by simp⟩) fun _ ↦ ?_
    exact Prog.within_bind within_handlePicoSocketEvent fun _ ↦ ih

section Notify

variable {W : (NetworkStack → NetworkStack) → Prop} {E : LoopCall → Prop}

theorem within_scanSockets {js : List ℕ} (hraise : W fun s ↦ s.updateClient k Client.flag) :
    Within W E (scanSockets k js) := by
  induction js with
  | nil => exact Prog.within_pure
  | cons j js ih =>
    refine Prog.within_bind Prog.within_get fun s ↦ ?_
    split_ifs
    · exact Prog.within_bind (Prog.within_modify hraise) fun _ ↦ ih
    · exact ih

/-- What is done for one client: its flag goes up, it is signalled, and its flag goes down. -/
theorem within_notifyUsed (hraise : W fun s ↦ s.updateClient k Client.flag)
    (hlower : W fun s ↦ s.updateClient k fun c ↦ { c with needsToBeNotified := false })
    (hsignal : E (.eventNotify k)) : Within W E (notifyUsed k) := by
  have hend : Within W E (Prog.get >>= fun s ↦
      if (s.clients k).needsToBeNotified = true then do
        if (s.clients k).eventNotify = true then
          ask (.eventNotify k)
        Prog.modify fun s ↦ s.updateClient k fun c ↦ { c with needsToBeNotified := false }
      else pure ()) := by
    refine Prog.within_bind Prog.within_get fun s ↦ ?_
    split_ifs
    · exact Prog.within_bind (Prog.within_perform hsignal) fun _ ↦ Prog.within_modify hlower
    · exact Prog.within_modify hlower
    · exact Prog.within_pure
  refine Prog.within_bind Prog.within_get fun s ↦ ?_
  split_ifs
  · exact Prog.within_bind (within_scanSockets hraise) fun _ ↦ hend
  · exact hend

end Notify

theorem within_notifyClients {ks : List ℕ} : Within Framed LoopCall.Working (notifyClients ks) := by
  induction ks with
  | nil => exact Prog.within_pure
  | cons k ks ih =>
    refine Prog.within_bind Prog.within_get fun s ↦ ?_
    split_ifs
    · exact Prog.within_bind
        (within_notifyUsed (framed_updateClient true) (framed_updateClient false)
        ⟨rfl, by simp⟩) fun _ ↦ ih
    · exact ih

/-! ### An iteration -/

/-- What the control thread owes at a call. Only following a `NULL` pointer is not ruled out. -/
structure LoopOwed (e : LoopCall) (w : World) : Prop where
  wait : e = .waitNetworkEvent → ∀ m, w.2.owner m ≠ some .control
  asleep : e = .waitNetworkEvent → ¬ Awake w.2.log
  lock : ∀ m, e = .wrapper (.lock m) → ∀ m, w.2.owner m ≠ some .control
  unlock : ∀ m, e = .wrapper (.unlock m) → w.2.owner m = some .control
  inside : e.inside = true → w.2.owner .stackTS = some .control
  known : e = .waitNetworkEvent ∨ e.inside = true ∨
    ∃ m, e = .wrapper (.lock m) ∨ e = .wrapper (.unlock m)

/-- The control thread is between two iterations. -/
structure LoopIdle (w : World) : Prop where
  free : ∀ m, w.2.owner m ≠ some .control
  asleep : ¬ Awake w.2.log

/-- The control thread holds `stackTS` and its tick has begun. -/
structure Inside (w : World) : Prop where
  owner : ∀ m, w.2.owner m = some .control ↔ m = .stackTS
  asleep : ¬ Awake w.2.log

/-- The control thread leaves the others alone. -/
theorem guarantee_control
    (howner : ∀ m u, u ≠ .control → (w'.2.owner m = some u ↔ w.2.owner m = some u))
    (hframe : SameFrame w.1 w'.1)
    (hlog : ∃ new, w'.2.log = new ++ w.2.log ∧ ∀ x ∈ new, x.ofControl = true)
    (hann : Announced w.2 → Announced w'.2)
    (herr : w.2.owner .stackTS = some .rpc → w'.2.picoErr = w.2.picoErr)
    (harmed : w'.2.armed = w.2.armed) :
    (terms .control).guarantee w w' :=
  fun u hu ↦ ⟨fun m ↦ howner m u hu, fun _ ↦ hframe, fun _ ↦ hlog, fun _ ↦ hann, fun _ ↦ herr,
    fun h ↦ absurd h hu, fun _ ↦ harmed⟩

/-- Entries of the control thread other than the beginning of a tick leave it announced what is
announced. -/
theorem announced_record {γ : Shared} {x : Entry} (hx : x.ofControl = true) (htick : x ≠ .ticked)
    (h : Announced γ) : Announced (γ.record x) := by
  intro hp
  rcases pressing_cons.1 hp with ho | ⟨-, hp⟩
  · cases x with
    | answer => exact absurd hx Bool.false_ne_true
    | _ => exact ho.elim
  · exact (h hp).imp_right fun ha ↦ awake_cons.2 (Or.inr ⟨htick, ha⟩)

namespace Inside

theorem stable (h : Inside w) (hr : Others .control w w') : Inside w' :=
  ⟨fun m ↦ (hr.owner m).trans (h.owner m), fun ha ↦ h.asleep ((hr.awake rfl).1 ha)⟩

/-- A write within the frame. -/
theorem write {f : NetworkStack → NetworkStack} (h : Inside w) (hf : Framed f) :
    (terms .control).guarantee w (loopEnv.write f w) ∧ Inside (loopEnv.write f w) :=
  ⟨guarantee_control (fun _ _ _ ↦ Iff.rfl) (hf w.1).1 ⟨[], rfl, by simp⟩ id (fun _ ↦ rfl) rfl,
    h.owner, h.asleep⟩

/-- While the control thread holds `stackTS`, the RPC thread does not. -/
theorem not_rpc (h : Inside w) : w.2.owner .stackTS ≠ some .rpc := by
  rw [(h.owner _).2 rfl]
  simp

/-- A call of a tick that has begun, or of the notifications after it. -/
theorem call {e : LoopCall} (h : Inside w) (he : e.Working) :
    LoopOwed e w ∧ ∀ b w', loopEnv.onCall e w b w' → (terms .control).guarantee w w' ∧
      Inside w' := by
  obtain ⟨hin, htick⟩ := he
  refine ⟨?_, fun b w' hb ↦ ?_⟩
  · refine ⟨?_, ?_, ?_, ?_, fun _ ↦ (h.owner _).2 rfl, Or.inr (Or.inl hin)⟩
    · rintro rfl
      exact absurd hin Bool.false_ne_true
    · rintro rfl
      exact absurd hin Bool.false_ne_true
    · rintro m rfl
      exact absurd hin Bool.false_ne_true
    · rintro m rfl
      exact absurd hin Bool.false_ne_true
  · -- a call under `stackTS` may move the tables within the frame, set `pico_err`, add an entry
    have hquiet : ∀ s' err, SameFrame w.1 s' →
        (terms .control).guarantee w (s', { w.2 with picoErr := err }) ∧
          Inside (s', { w.2 with picoErr := err }) := fun s' err hf ↦
      ⟨guarantee_control (fun _ _ _ ↦ Iff.rfl) hf ⟨[], rfl, by simp⟩ id
        (fun ho ↦ absurd ho h.not_rpc) rfl,
        h.owner, h.asleep⟩
    cases e with
    | waitNetworkEvent => exact absurd hin Bool.false_ne_true
    | stackTick => exact absurd rfl htick
    | callback ev =>
      obtain rfl := hb
      exact hquiet w.1 _ (SameFrame.refl _)
    | eventNotify k =>
      obtain rfl := hb
      refine ⟨guarantee_control (fun _ _ _ ↦ Iff.rfl) (SameFrame.refl _) ⟨[.signalled k], rfl, ?_⟩
        (announced_record rfl fun hx ↦ Entry.noConfusion hx) (fun _ ↦ rfl) rfl, h.owner, ?_⟩
      · simp [Entry.ofControl]
      · exact fun ha ↦ (awake_cons.1 ha).elim (fun hx ↦ Entry.noConfusion hx) fun ha ↦ h.asleep ha.2
    | wrapper e =>
      cases e with
      | pico pc =>
        obtain ⟨hn, err, -, herr⟩ := hb
        obtain ⟨s', γ'⟩ := w'
        obtain rfl : γ' = { w.2 with picoErr := err } := herr
        exact hquiet s' err (sameFrame_nested hn)
      | picoErr =>
        obtain ⟨-, rfl⟩ := hb
        exact hquiet w'.1 w'.2.picoErr (SameFrame.refl _)
      | nullDeref => exact b.elim
      | _ => exact absurd hin Bool.false_ne_true

end Inside

/-- **An iteration of the main loop among the other threads.** -/
theorem followsLoop_iteration (h : LoopIdle w) :
    Prog.rg loopEnv (terms .control) LoopOwed (iteration evs) (fun _ ↦ LoopIdle) w := by
  have hfree : ∀ {w'}, Others .control w w' → ∀ m, w'.2.owner m ≠ some .control := fun hr m ho ↦
    h.free m ((hr.owner m).1 ho)
  -- the wait
  refine Prog.rg_perform_bind.2 fun w₁ hr₁ ↦
    ⟨⟨fun _ ↦ hfree hr₁, fun _ ha ↦ h.asleep ((hr₁.awake rfl).1 ha),
    by simp, by simp, by simp [LoopCall.inside], Or.inl rfl⟩, ?_⟩
  rintro _ _ ⟨-, rfl⟩
  refine ⟨guarantee_control (fun _ _ _ ↦ Iff.rfl) (SameFrame.refl _)
    ⟨[.woken], rfl, by simp [Entry.ofControl]⟩
    (fun _ _ ↦ Or.inr (Or.inl rfl)) (fun _ ↦ rfl) rfl, ?_⟩
  -- the lock
  refine Prog.rg_perform_bind.2 fun w₂ hr₂ ↦ ?_
  have hfree₂ : ∀ m, w₂.2.owner m ≠ some .control := fun m ho ↦ hfree hr₁ m ((hr₂.owner m).1 ho)
  refine ⟨⟨by simp, by simp, fun _ _ ↦ hfree₂, by simp, by simp [LoopCall.inside],
    Or.inr (Or.inr ⟨_, Or.inl rfl⟩)⟩, ?_⟩
  rintro _ _ ⟨hnone, rfl⟩
  have howner : ∀ m u, u ≠ .control →
      ((w₂.2.take .control .stackTS).owner m = some u ↔ w₂.2.owner m = some u) := by
    intro m u hu
    simp only [Shared.take, Function.update_apply]
    split_ifs with hm
    · rw [hm, hnone]
      simp [Ne.symm hu]
    · rfl
  refine ⟨guarantee_control howner (SameFrame.refl _) ⟨[], rfl, by simp⟩ id (fun _ ↦ rfl) rfl, ?_⟩
  -- the tick begins
  refine Prog.rg_bind.2 (Prog.rg_perform_bind.2 fun w₃ hr₃ ↦ ?_)
  have howner₃ : ∀ m, w₃.2.owner m = some .control ↔ m = .stackTS := by
    intro m
    rw [hr₃.owner m]
    simp only [Shared.take, Function.update_apply]
    split_ifs with hm
    · simp [hm]
    · simp [hm, hfree₂ m]
  refine ⟨⟨by simp, by simp, by simp, by simp, fun _ ↦ (howner₃ _).2 rfl, Or.inr (Or.inl rfl)⟩, ?_⟩
  rintro _ _ rfl
  refine ⟨guarantee_control (fun _ _ _ ↦ Iff.rfl) (SameFrame.refl _)
    ⟨[.ticked], rfl, by simp [Entry.ofControl]⟩
    (fun _ hp ↦ ?_) (fun _ ↦ rfl) rfl, ?_⟩
  · exact (pressing_cons.1 hp).elim False.elim fun hp ↦ absurd rfl hp.1
  have hinside : Inside (w₃.1, w₃.2.record .ticked) :=
    ⟨howner₃,
      fun ha ↦ (awake_cons.1 ha).elim (fun hx ↦ Entry.noConfusion hx) fun ha ↦ absurd rfl ha.1⟩
  -- the callbacks and the notifications
  have hwork : Within Framed LoopCall.Working
      (callbacks evs >>= fun _ ↦ notifyClientsAboutPendingEvents) :=
    Prog.within_bind within_callbacks fun _ ↦
      Prog.within_bind Prog.within_get fun _ ↦ within_notifyClients
  refine Prog.rg_mono (fun _ _ ↦ id) (fun _ w₄ h₄ ↦ ?_)
    (Prog.rg_of_within (fun _ _ hr hi ↦ hi.stable hr) (fun _ _ hf hi ↦ hi.write hf)
      (fun _ _ he hi ↦ hi.call he) hwork hinside)
  -- the unlock
  refine fun w₅ hr₅ ↦ ?_
  have h₅ := h₄.stable hr₅
  refine ⟨⟨by simp, by simp, by simp, fun m hm ↦ ?_, by simp [LoopCall.inside],
    Or.inr (Or.inr ⟨_, Or.inr rfl⟩)⟩, ?_⟩
  · obtain rfl := Call.unlock.inj (LoopCall.wrapper.inj hm)
    exact (h₅.owner _).2 rfl
  rintro _ _ rfl
  have hrelease : ∀ m u, u ≠ .control →
      ((w₅.2.release .stackTS).owner m = some u ↔ w₅.2.owner m = some u) := by
    intro m u hu
    simp only [Shared.release, Function.update_apply]
    split_ifs with hm
    · rw [hm, (h₅.owner _).2 rfl]
      simp [Ne.symm hu]
    · rfl
  refine ⟨guarantee_control hrelease (SameFrame.refl _) ⟨[], rfl, by simp⟩ id (fun _ ↦ rfl) rfl, ?_⟩
  refine fun w₆ hr₆ ↦ ⟨fun m ho ↦ ?_, fun ha ↦ h₅.asleep ((hr₆.awake rfl).1 ha)⟩
  have := (hr₆.owner m).1 ho
  simp only [Shared.release, Function.update_apply] at this
  split_ifs at this with hm
  exact hm ((h₅.owner m).1 this)

/-! ### The contract -/

/-- What the RPC thread has told is true of its time, if `l` is what happened before. -/
def Truthful (pl : Platform) : Entry → List Entry → Prop
  | .reply c r a, l =>
    (∀ i : ℕ, r.handle = some (i : ℤ) → Ledger.owner (acts l) i = some c → pl.PlainErrors →
      a.err ≠ .invalidHandle) ∧
    ∀ h, r.handle = some h → (∀ i : ℕ, h = i → Ledger.owner (acts l) i ≠ some c) →
      ∃ earlier, Refused r (.begin c r :: earlier) a l
  | _, _ => True

/-- The RPC thread is between two RPCs. -/
structure RpcIdle (pl : Platform) (cfg : NetworkStackPicoTcp.Config) (w : World) : Prop where
  books : Books cfg (Ledger.owner (acts w.2.log)) w.1
  rest : AtRest w.1
  free : ∀ m, w.2.owner m ≠ some .rpc
  announced : Announced w.2
  legal : Ledger.Legal (Finset.range cfg.numberOfSockets) cfg.quotaOf (acts w.2.log)
  truthful : Always (Truthful pl) w.2.log

theorem truthful_of_not_isReply {x : Entry} {l : List Entry} (h : x.isReply = false) :
    Truthful pl x l := by
  cases x with
  | reply => exact absurd h.symm Bool.false_ne_true
  | _ => trivial

namespace RpcIdle

theorem stable (h : RpcIdle pl cfg w) (hr : Others .rpc w w') : RpcIdle pl cfg w' := by
  obtain ⟨new, hnew, hc⟩ := hr.log rfl
  have hno : ∀ x ∈ new, x.isReply = false := fun x hx ↦ isReply_of_ofControl (hc x hx)
  have hacts : acts w'.2.log = acts w.2.log := by rw [hnew, acts_append hno]
  refine ⟨?_, h.rest.frame (hr.tables rfl), fun m ho ↦ h.free m ((hr.owner m).1 ho),
    hr.announced rfl h.announced, ?_, ?_⟩
  · rw [hacts]
    exact h.books.frame (hr.tables rfl)
  · rw [hacts]
    exact h.legal
  · rw [hnew]
    exact Always.append (fun x hx _ ↦ truthful_of_not_isReply (hno x hx)) h.truthful

/-- An RPC is taken up. -/
theorem begin (h : RpcIdle pl cfg w) :
    At w.1 ∅ True (w.2.record (.begin c r)).log (w.1, w.2.record (.begin c r)) := by
  refine ⟨SameFrame.refl _, fun m ↦ ⟨fun ho ↦ absurd ho (h.free m), by simp⟩, fun _ hp ↦ ?_, [],
    rfl, by simp⟩
  rcases pressing_cons.1 hp with ho | ⟨-, hp⟩
  · exact ho.elim
  · exact (h.announced hp).imp_right fun ha ↦
      awake_cons.2 (Or.inr ⟨fun hx ↦ Entry.noConfusion hx, ha⟩)

/-- **What is true between two RPCs stays true when an RPC has been answered.** -/
theorem reply {a : Reply} (h : RpcIdle pl cfg w)
    (ha : Answered pl cfg (Ledger.owner (acts w.2.log)) c r (w.2.record (.begin c r)).log a w') :
    RpcIdle pl cfg (w'.1, w'.2.record (.reply c r a)) := by
  obtain ⟨s, hat, hb, hrest⟩ := ha.settled
  have hacts : acts w'.2.log = acts w.2.log := hat.acts_eq
  have hlog : acts (w'.2.record (.reply c r a)).log = (actOf c r a).toList ++ acts w.2.log := by
    rw [← hacts]
    exact acts_cons
  have howner : Ledger.owner (acts (w'.2.record (.reply c r a)).log) =
      told (Ledger.owner (acts w.2.log)) (actOf c r a) := by
    rw [hlog]
    cases actOf c r a <;> rfl
  refine ⟨?_, hrest.frame hat.frame, fun m ho ↦ ?_, fun hp ↦ ?_, ?_, ?_⟩
  · rw [howner]
    exact hb.frame hat.frame
  · exact absurd ((hat.owner m).1 ho) (Finset.notMem_empty m)
  · rcases pressing_cons.1 hp with ho | ⟨-, hp⟩
    · exact ho.elim
    · exact (hat.announced trivial hp).imp_right fun ha ↦
        awake_cons.2 (Or.inr ⟨fun hx ↦ Entry.noConfusion hx, ha⟩)
  · rw [hlog]
    cases hact : actOf c r a with
    | none => exact h.legal
    | some x => exact ⟨ha.allowed x hact, h.legal⟩
  · obtain ⟨new, hnew, hno⟩ := hat.log
    refine ⟨⟨fun i hi ho ↦ ha.owned i hi ?_,
      fun handle hh hne ↦ ⟨w.2.log, ha.refused handle hh fun i hi ↦ ?_⟩⟩, ?_⟩
    · rwa [hacts] at ho
    · rw [← hacts]
      exact hne i hi
    · show Always (Truthful pl) w'.2.log
      rw [hnew]
      exact Always.append (fun x hx _ ↦ truthful_of_not_isReply (hno x hx)) ⟨trivial, h.truthful⟩

theorem init : RpcIdle pl cfg (cfg.init, Shared.init) where
  books := by
    refine ⟨Config.accounting_init, SameSetup.refl _, rfl, funext fun i ↦ ?_⟩
    exact if_neg (by simp [Config.init, SocketResources.zero])
  rest k := ⟨Config.ringInv_init.rest rfl k, Config.ringInv_init.head_lt k⟩
  free _ := by simp [Shared.init]
  announced hun := hun.elim
  legal := trivial
  truthful := trivial

end RpcIdle

/-- What holds while the thread is idle. -/
def Idle (pl : Platform) (cfg : NetworkStackPicoTcp.Config) : ThreadId → World → Prop
  | .rpc => RpcIdle pl cfg
  | .control => LoopIdle
  | .ticker => fun _ ↦ True

/-- What a thread owes at a call. -/
def CallOwed (pl : Platform) : (t : ThreadId) → (system pl).Job t → (system pl).Call t →
    World → Prop
  | .rpc => fun _ ↦ Owed
  | .control => fun _ ↦ LoopOwed
  | .ticker => fun _ _ _ ↦ True

theorem idle_stable {t : ThreadId} (hr : Others t w w') (h : Idle pl cfg t w) :
    Idle pl cfg t w' := by
  cases t with
  | rpc => exact RpcIdle.stable h hr
  | control =>
    exact ⟨fun m ho ↦ h.free m ((hr.owner m).1 ho), fun ha ↦ h.asleep ((hr.awake rfl).1 ha)⟩
  | ticker => trivial

/-- Nobody minds what happens outside. -/
theorem others_outside {t : ThreadId} (h : (system pl).outside w w') : Others t w w' := by
  rcases h with rfl | rfl
  · exact ⟨fun _ ↦ Iff.rfl, fun _ ↦ SameFrame.refl _, fun _ ↦ ⟨[], rfl, by simp⟩, fun _ ↦ id,
      fun _ _ ↦ rfl,
      fun _ ↦ Iff.rfl, fun _ ↦ rfl⟩
  · exact ⟨fun _ ↦ Iff.rfl, fun _ ↦ SameFrame.refl _, fun _ ↦ ⟨[], rfl, by simp⟩,
      fun _ _ _ ↦ Or.inl rfl,
      fun _ _ ↦ rfl, fun _ ↦ Iff.rfl, fun _ ↦ rfl⟩

theorem guarantee_refl (t : ThreadId) (w : World) : (terms t).guarantee w w :=
  fun u _ ↦ Others.refl u w

/-- An entry about an RPC is nothing to the others. -/
theorem guarantee_record {x : Entry} (hx : x.ofControl = false) :
    (terms .rpc).guarantee w (w.1, w.2.record x) := by
  refine guarantee_rpc (fun _ _ _ ↦ Iff.rfl) ?_ rfl
  rw [Shared.record_log, awake_cons]
  cases x with
  | woken | ticked | signalled => exact absurd hx.symm Bool.false_ne_true
  | _ =>
    exact ⟨fun h ↦ h.elim (fun h ↦ Entry.noConfusion h) And.right,
      fun h ↦ Or.inr ⟨fun h ↦ Entry.noConfusion h, h⟩⟩

theorem guarantee_start {t : ThreadId} {j : (system pl).Job t} :
    (terms t).guarantee w (w.1, (system pl).onStart t j w) := by
  cases t with
  | rpc => exact guarantee_record rfl
  | _ => exact guarantee_refl _ w

theorem within_tickerRun {j : TickerJob} : Within (fun _ ↦ False) (fun _ ↦ True) (tickerRun j) := by
  cases j with
  | setUp =>
    refine Prog.within_bind (Prog.within_perform trivial) fun b ↦ ?_
    split_ifs
    · exact Prog.within_pure
    · exact Prog.within_pure
  | round =>
    refine Prog.within_bind (Prog.within_perform trivial) fun _ ↦ ?_
    exact Prog.within_bind (Prog.within_perform trivial) fun _ ↦ Prog.within_pure

/-- The ticker takes no mutex, writes nothing and only ever wakes the main loop. -/
theorem keeps_ticker {j : TickerJob} :
    Prog.rg tickerEnv (terms .ticker) (fun _ _ ↦ True) (tickerRun j) (fun _ _ ↦ True) w := by
  refine Prog.rg_of_within (I := fun _ ↦ True) (fun _ _ _ ↦ id) (fun _ _ hf ↦ hf.elim)
    (fun e w₁ _ _ ↦ ⟨trivial, fun b w₂ hb ↦ ⟨?_, trivial⟩⟩) within_tickerRun trivial
  have hquiet : ∀ γ : Shared, γ.owner = w₁.2.owner → γ.log = w₁.2.log → γ.picoErr = w₁.2.picoErr →
      (w₁.2.event = true → γ.event = true) → (terms .ticker).guarantee w₁ (w₁.1, γ) := by
    refine fun γ ho hl he hev u hu ↦
      ⟨fun m ↦ ?_, fun _ ↦ SameFrame.refl _, fun _ ↦ ⟨[], hl, by simp⟩,
      fun _ ha hun ↦ ?_, fun _ _ ↦ he, fun _ ↦ ?_, fun h ↦ absurd h hu⟩
    · rw [ho]
    · rw [hl] at hun ⊢
      exact (ha hun).imp_left hev
    · rw [hl]
  cases e with
  | periodic =>
    obtain rfl := hb
    exact hquiet _ rfl rfl rfl id
  | notifyWait =>
    obtain ⟨-, rfl⟩ := hb
    exact hquiet _ rfl rfl rfl id
  | emit =>
    obtain rfl := hb
    exact hquiet _ rfl rfl rfl fun _ ↦ rfl

/-- **Every job keeps to the terms of its thread.** -/
theorem keeps {t : ThreadId} {j : (system pl).Job t} (hj : (system pl).mayStart t j w)
    (h : Idle pl cfg t w) :
    Prog.rg ((system pl).env t j) (terms t) (CallOwed pl t j) ((system pl).code t j)
      (fun a w' ↦ (terms t).guarantee w' (w'.1, (system pl).onReturn t j a w') ∧
        Idle pl cfg t (w'.1, (system pl).onReturn t j a w'))
      (w.1, (system pl).onStart t j w) := by
  cases t with
  | rpc =>
    obtain ⟨c, r⟩ := j
    obtain ⟨k, hk⟩ : w.1.IsClient c := hj
    have hidle : RpcIdle pl cfg w := h
    have hrange : ∀ i c, Ledger.owner (acts w.2.log) i = some c → i < cfg.numberOfSockets :=
      fun i c ho ↦ Finset.mem_range.1 (Ledger.mem_of_owner hidle.legal ho)
    have hrpc : follows c r (rpc pl c r) (Answered pl cfg (Ledger.owner (acts w.2.log)) c r
        (w.2.record (.begin c r)).log) (w.1, w.2.record (.begin c r)) :=
      follows_rpc (w := (w.1, w.2.record (.begin c r))) hidle.begin hidle.books hidle.rest hrange hk
    exact Prog.rg_mono (fun _ _ ↦ id) (fun a w' ha ↦ ⟨guarantee_record rfl, hidle.reply ha⟩) hrpc
  | control =>
    exact Prog.rg_mono (fun _ _ ↦ id) (fun _ w' hi ↦ ⟨guarantee_refl _ w', hi⟩)
      (followsLoop_iteration h)
  | ticker =>
    exact Prog.rg_mono (fun _ _ ↦ id) (fun _ w' _ ↦ ⟨guarantee_refl _ w', trivial⟩) keeps_ticker

/-- **What the threads owe to each other.** -/
def contract (pl : Platform) (cfg : NetworkStackPicoTcp.Config) : (system pl).Contract where
  terms := terms
  owes := CallOwed pl
  idle := Idle pl cfg
  idle_stable := idle_stable
  compatible htu hg := hg _ htu.symm
  outside := others_outside
  start _ _ := guarantee_start
  keeps := keeps

/-- **The contract holds in every configuration of every run.** -/
theorem Reachable.holds {x : Config pl} (h : Reachable pl cfg x) : (contract pl cfg).Holds x := by
  refine Threads.Contract.holds_of_reachable (fun t ↦ ?_) h
  cases t with
  | rpc => exact RpcIdle.init
  | control => exact ⟨fun _ ↦ by simp [Shared.init], id⟩
  | ticker => trivial

end Component

end NetworkStackPicoTcp
