import NetworkStackPicoTcp.Allocation.Ledger
import NetworkStackPicoTcp.Invariants.Thread
import NetworkStackPicoTcp.Model.Component

/-!
# The terms between the threads

What the three threads of the component rely on and guarantee (`Component.Others`):

* every thread keeps the mutexes that it owns;
* the RPC thread relies on the tables moving only within the frame (`SameFrame`), on no entry of the
  log being about an RPC, on wake-ups not getting lost (`Announced`), and on `pico_err` staying as
  it is while it owns `stackTS`;
* the control thread relies on nobody waking up or ticking in its place.

`Component.At` is what the RPC thread knows of the world between two of its statements, and the
rules below follow its calls and writes.
-/

namespace NetworkStackPicoTcp

/-- The calls that touch nothing shared. -/
def Call.isLocal : Call → Bool
  | .stringToIpv4 _ | .putEvent _ _ | .preempt => true
  | _ => false

namespace Component

open Trace (Since)

/-! ### What the log tells -/

/-- The call leaves picoTCP with something to do in its tick: it has accepted a `connect`, `bind`,
`listen`, `write` or `sendto`, or is to close a socket. Opening, accepting, reading and setting an
option do not count. -/
def handsOver : (e : Call) → e.Answer → Bool
  | .pico (.connect _ _ _), ret => decide (0 ≤ ret)
  | .pico (.bind _ _ _), ret => decide (0 ≤ ret)
  | .pico (.listen _ _), ret => decide (0 ≤ ret)
  | .pico (.write _ _ _), ret => decide (0 ≤ ret)
  | .pico (.sendto _ _ _ _ _), ret => decide (0 ≤ ret)
  | .pico (.close _), _ => true
  | _, _ => false

/-- The RPC does not wake the main loop for what this call hands over: an `accept` that finds no
handle for a connection closes its socket without a word. -/
def silent (r : RpcCall) : Call → Bool
  | .pico (.close _) => r.isAccept
  | _ => false

/-- The call hands something over that the RPC has to announce. -/
def presses (r : RpcCall) (e : Call) (b : e.Answer) : Bool := !silent r e && handsOver e b

/-- The entry leaves picoTCP with something to do. -/
def Entry.handsOver : Entry → Prop
  | .answer _ _ e b => Component.handsOver e b = true
  | _ => False

/-- The entry leaves picoTCP with something to do that is to be announced. -/
def Entry.presses : Entry → Prop
  | .answer _ r e b => Component.presses r e b = true
  | _ => False

/-- picoTCP has been left with something to do since its last tick began. -/
def Unserved (log : List Entry) : Prop := Since (fun x ↦ x ≠ .ticked) Entry.handsOver log

/-- picoTCP has been left with something to do since its last tick began, and not only by
`accept`. -/
def Pressing (log : List Entry) : Prop := Since (fun x ↦ x ≠ .ticked) Entry.presses log

/-- The main loop has been woken, and its tick has not yet begun. -/
def Awake (log : List Entry) : Prop := Since (fun x ↦ x ≠ .ticked) (fun x ↦ x = .woken) log

/-- If there is something to do that is to be announced, the main loop is awake or will be woken. -/
def Announced (γ : Shared) : Prop := Pressing γ.log → γ.event = true ∨ Awake γ.log

/-- The entry is one of the control thread. -/
def Entry.ofControl : Entry → Bool
  | .woken | .ticked | .signalled _ => true
  | _ => false

/-- The entry is the reply of an RPC. -/
def Entry.isReply : Entry → Bool
  | .reply .. => true
  | _ => false

/-- The entry is the answer of a call. -/
def Entry.isAnswer : Entry → Bool
  | .answer .. => true
  | _ => false

/-- What the reply of an RPC tells the client about its handles. A `close` that gets past its checks
gives the handle back, whatever code it returns. -/
def actOf (c : ℤ) (r : RpcCall) (a : Reply) : Option (Ledger.Act ℕ ℤ) :=
  match r with
  | .create _ _ _ | .accept _ _ _ =>
    if a.err = .success then a.out.handle.map fun h ↦ .give h.toNat c else none
  | .close h =>
    if a.err = .notInitialized ∨ a.err = .aborted ∨ a.err = .invalidHandle then none
    else some (.takeBack h.toNat c)
  | _ => none

/-- What an entry tells a client about its handles. -/
def Entry.act : Entry → Option (Ledger.Act ℕ ℤ)
  | .reply c r a => actOf c r a
  | _ => none

/-- What the clients have been told about their handles, newest first. -/
def acts (log : List Entry) : List (Ledger.Act ℕ ℤ) := log.filterMap Entry.act

section Log

variable {x : Entry} {log new : List Entry}

theorem pressing_cons : Pressing (x :: log) ↔ x.presses ∨ x ≠ .ticked ∧ Pressing log := Iff.rfl

theorem awake_cons : Awake (x :: log) ↔ x = .woken ∨ x ≠ .ticked ∧ Awake log := Iff.rfl

theorem act_of_not_isReply (h : x.isReply = false) : x.act = none := by
  cases x with
  | reply => exact absurd h.symm Bool.false_ne_true
  | _ => rfl

theorem acts_append (h : ∀ x ∈ new, x.isReply = false) : acts (new ++ log) = acts log := by
  rw [acts, List.filterMap_append, List.filterMap_eq_nil_iff.2, List.nil_append, acts]
  exact fun x hx ↦ act_of_not_isReply (h x hx)

theorem acts_cons : acts (x :: log) = x.act.toList ++ acts log := by
  cases h : x.act with
  | none => exact List.filterMap_cons_none h
  | some a => exact List.filterMap_cons_some h

theorem isReply_of_ofControl (h : x.ofControl = true) : x.isReply = false := by
  cases x with
  | woken | ticked | signalled => rfl
  | _ => exact absurd h Bool.false_ne_true

end Log

/-! ### The terms -/

/-- What thread `u` relies on while the others run. -/
structure Others (u : ThreadId) (w w' : World) : Prop where
  owner : ∀ m, w'.2.owner m = some u ↔ w.2.owner m = some u
  tables : u = .rpc → SameFrame w.1 w'.1
  log : u = .rpc → ∃ new, w'.2.log = new ++ w.2.log ∧ ∀ x ∈ new, x.ofControl = true
  announced : u = .rpc → Announced w.2 → Announced w'.2
  picoErr : u = .rpc → w.2.owner .stackTS = some .rpc → w'.2.picoErr = w.2.picoErr
  awake : u = .control → (Awake w'.2.log ↔ Awake w.2.log)
  armed : u = .ticker → w'.2.armed = w.2.armed

theorem Others.refl (u : ThreadId) (w : World) : Others u w w :=
  ⟨fun _ ↦ Iff.rfl, fun _ ↦ SameFrame.refl _, fun _ ↦ ⟨[], rfl, by simp⟩, fun _ ↦ id, fun _ _ ↦ rfl,
    fun _ ↦ Iff.rfl, fun _ ↦ rfl⟩

theorem Others.trans {u : ThreadId} {w w' w'' : World} (h : Others u w w') (h' : Others u w' w'') :
    Others u w w'' where
  owner m := (h'.owner m).trans (h.owner m)
  tables hu := (h.tables hu).trans (h'.tables hu)
  log hu := by
    obtain ⟨new, hnew, hc⟩ := h.log hu
    obtain ⟨new', hnew', hc'⟩ := h'.log hu
    refine ⟨new' ++ new, by rw [hnew', hnew, List.append_assoc], fun x hx ↦ ?_⟩
    exact (List.mem_append.1 hx).elim (hc' x) (hc x)
  announced hu := h'.announced hu ∘ h.announced hu
  picoErr hu ho := by
    subst hu
    rw [h'.picoErr rfl ((h.owner .stackTS).2 ho), h.picoErr rfl ho]
  awake hu := (h'.awake hu).trans (h.awake hu)
  armed hu := (h'.armed hu).trans (h.armed hu)

/-- The terms of a thread: it leaves to each of the others what that one relies on. -/
def terms (t : ThreadId) : Prog.Terms World where
  rely := Others t
  guarantee w w' := ∀ u, u ≠ t → Others u w w'
  rely_refl := Others.refl t
  rely_trans := Others.trans

/-! ### The RPC thread between two statements -/

/-- What the RPC thread owes at a call. -/
structure Owed (e : Call) (w : World) : Prop where
  safe : e ≠ .nullDeref ∧ e ≠ .diverge
  lock : ∀ m, e = .lock m → ∀ m', w.2.owner m' = some .rpc → m'.rank < m.rank
  unlock : ∀ m, e = .unlock m → w.2.owner m = some .rpc
  pico : (∃ pc, e = .pico pc) ∨ e = .picoErr → w.2.owner .stackTS = some .rpc

/-- The RPC thread holds the mutexes `H`, its last write left the tables `s`, the log had come to
`l` when the RPC began, and if `ann` holds there is nothing to announce. -/
structure At (s : NetworkStack) (H : Finset Mutex) (ann : Prop) (l : List Entry)
    (w : World) : Prop where
  frame : SameFrame s w.1
  owner : ∀ m, w.2.owner m = some .rpc ↔ m ∈ H
  announced : ann → Announced w.2
  log : ∃ new, w.2.log = new ++ l ∧ ∀ x ∈ new, x.isReply = false

variable {pl : Platform} {c : ℤ} {r : RpcCall} {s : NetworkStack} {H : Finset Mutex}
  {ann ann' : Prop} {l : List Entry} {w w' : World} {α β : Type}

namespace At

theorem stable (h : At s H ann l w) (hr : Others .rpc w w') : At s H ann l w' where
  frame := h.frame.trans (hr.tables rfl)
  owner m := (hr.owner m).trans (h.owner m)
  announced := hr.announced rfl ∘ h.announced
  log := by
    obtain ⟨new, hnew, hn⟩ := h.log
    obtain ⟨new', hnew', hc⟩ := hr.log rfl
    refine ⟨new' ++ new, by rw [hnew', hnew, List.append_assoc], fun x hx ↦ ?_⟩
    exact (List.mem_append.1 hx).elim (fun hx ↦ isReply_of_ofControl (hc x hx)) (hn x)

theorem weaken (h : At s H ann l w) (hann : ann' → ann) : At s H ann' l w :=
  ⟨h.frame, h.owner, h.announced ∘ hann, h.log⟩

/-- There was nothing to announce. -/
theorem announce (h : At s H ann l w) (ha : ann) : At s H True l w := h.weaken fun _ ↦ ha

/-- The RPC thread writes within the frame. -/
theorem frameWrite (h : At s H ann l w) {s' : NetworkStack} (hf : SameFrame w.1 s') :
    At s H ann l (s', w.2) :=
  ⟨h.frame.trans hf, h.owner, h.announced, h.log⟩

theorem acts_eq (h : At s H ann l w) : acts w.2.log = acts l := by
  obtain ⟨new, hnew, hn⟩ := h.log
  rw [hnew, acts_append hn]

end At

/-- Followed among the other threads, the code of the RPC returns in worlds that satisfy `Q`. -/
abbrev follows (c : ℤ) (r : RpcCall) (p : Rpc α) (Q : α → World → Prop) (w : World) : Prop :=
  Prog.rg (rpcEnv c r) (terms .rpc) Owed p Q w

/-- The RPC thread leaves the others alone as long as it keeps off their mutexes and does not wake
up or tick. -/
theorem guarantee_rpc (howner : ∀ m u, u ≠ .rpc → (w'.2.owner m = some u ↔ w.2.owner m = some u))
    (hawake : Awake w'.2.log ↔ Awake w.2.log) (harmed : w'.2.armed = w.2.armed) :
    (terms .rpc).guarantee w w' :=
  fun u hu ↦ ⟨fun m ↦ howner m u hu, fun h ↦ absurd h hu, fun h ↦ absurd h hu, fun h ↦ absurd h hu,
    fun h ↦ absurd h hu, fun _ ↦ hawake, fun _ ↦ harmed⟩

/-- The answer of a call of the RPC is recorded. -/
theorem announced_answer {γ : Shared} {e : Call} {b : e.Answer} (h : Announced γ)
    (hno : presses r e b = false) : Announced (γ.record (.answer c r e b)) := by
  intro hp
  rcases pressing_cons.1 hp with ho | ⟨-, hp⟩
  · exact absurd (hno.symm.trans ho) Bool.false_ne_true
  · exact (h hp).imp_right fun ha ↦ awake_cons.2 (Or.inr ⟨fun hx ↦ Entry.noConfusion hx, ha⟩)

theorem awake_answer {γ : Shared} {e : Call} {b : e.Answer} :
    Awake (γ.record (.answer c r e b)).log ↔ Awake γ.log := by
  rw [Shared.record_log, awake_cons]
  exact ⟨fun h ↦ h.elim (fun hx ↦ Entry.noConfusion hx) And.right,
    fun h ↦ Or.inr ⟨fun hx ↦ Entry.noConfusion hx, h⟩⟩

/-! ### Rules for calls -/

section Rules

variable {Q : β → World → Prop}

/-- A call in front of a program. -/
theorem follows_call {e : Call} {k : e.Answer → Rpc β} (hw : At s H ann l w)
    (howed : ∀ w₁, At s H ann l w₁ → Owed e w₁)
    (hnext : ∀ b w₁ w₂, At s H ann l w₁ → CanReturn .rpc e b w₁ w₂ →
      (∀ m u, u ≠ .rpc → (w₂.2.owner m = some u ↔ w₁.2.owner m = some u)) ∧
        w₂.2.log = w₁.2.log ∧ w₂.2.armed = w₁.2.armed ∧
        follows c r (k b) Q (w₂.1, w₂.2.record (.answer c r e b))) :
    follows c r (request e >>= k) Q w := by
  refine Prog.rg_perform_bind.2 fun w₁ hr ↦ ⟨howed w₁ (hw.stable hr), ?_⟩
  rintro b _ ⟨w₂, hret, rfl⟩
  obtain ⟨howner, hlog, harmed, hfollows⟩ := hnext b w₁ w₂ (hw.stable hr) hret
  refine ⟨guarantee_rpc howner ?_ harmed, hfollows⟩
  rw [awake_answer, hlog]

/-- The log grows by an answer. -/
theorem log_answer {γ : Shared} {e : Call} {b : e.Answer}
    (h : ∃ new, γ.log = new ++ l ∧ ∀ x ∈ new, x.isReply = false) :
    ∃ new, (γ.record (.answer c r e b)).log = new ++ l ∧ ∀ x ∈ new, x.isReply = false := by
  obtain ⟨new, hnew, hn⟩ := h
  refine ⟨.answer c r e b :: new, by rw [Shared.record_log, hnew, List.cons_append], ?_⟩
  exact List.forall_mem_cons.2 ⟨rfl, hn⟩

/-- Taking a mutex. -/
theorem follows_lock {m : Mutex} {k : Unit → Rpc β} (hw : At s H ann l w)
    (horder : ∀ m' ∈ H, m'.rank < m.rank)
    (h : ∀ w', At s (insert m H) ann l w' → follows c r (k ()) Q w') :
    follows c r (request (.lock m) >>= k) Q w := by
  refine follows_call hw (fun w₁ h₁ ↦ ⟨by simp, ?_, by simp, by simp⟩) ?_
  · rintro m₁ hm₁ m' hm'
    obtain rfl := Call.lock.inj hm₁
    exact horder m' ((h₁.owner m').1 hm')
  · rintro b w₁ w₂ h₁ ⟨hfree, rfl⟩
    refine ⟨fun m' u hu ↦ ?_, rfl, rfl, h _ ⟨h₁.frame, fun m' ↦ ?_, fun ha ↦ ?_, ?_⟩⟩
    · simp only [Shared.take, Function.update_apply]
      split_ifs with hm
      · rw [hm, hfree]
        simp [Ne.symm hu]
      · rfl
    · simp only [Shared.record_owner, Shared.take, Function.update_apply, Finset.mem_insert]
      split_ifs with hm
      · simp [hm]
      · simp [hm, h₁.owner m']
    · exact announced_answer (h₁.announced ha) rfl
    · exact log_answer h₁.log

/-- Releasing a mutex. -/
theorem follows_unlock {m : Mutex} {k : Unit → Rpc β} (hw : At s (insert m H) ann l w) (hm : m ∉ H)
    (h : ∀ w', At s H ann l w' → follows c r (k ()) Q w') :
    follows c r (request (.unlock m) >>= k) Q w := by
  have hmem : m ∈ insert m H := Finset.mem_insert_self m H
  refine follows_call hw (fun w₁ h₁ ↦ ⟨by simp, by simp, ?_, by simp⟩) ?_
  · rintro m₁ hm₁
    obtain rfl := Call.unlock.inj hm₁
    exact (h₁.owner m).2 hmem
  · rintro b w₁ _ h₁ rfl
    have howner := (h₁.owner m).2 hmem
    refine ⟨fun m' u hu ↦ ?_, rfl, rfl, h _ ⟨h₁.frame, fun m' ↦ ?_, fun ha ↦ ?_, ?_⟩⟩
    · simp only [Shared.release, Function.update_apply]
      split_ifs with hm'
      · rw [hm', howner]
        simp [Ne.symm hu]
      · rfl
    · simp only [Shared.record_owner, Shared.release, Function.update_apply]
      split_ifs with hm'
      · simp [hm', hm]
      · rw [h₁.owner m', Finset.mem_insert, or_iff_right hm']
    · exact announced_answer (h₁.announced ha) rfl
    · exact log_answer h₁.log

/-- Callbacks that picoTCP runs inside a call keep to the frame. -/
theorem sameFrame_nested {s s' : NetworkStack} (h : Nested s s') : SameFrame s s' := by
  induction h with
  | refl => exact SameFrame.refl s
  | tail _ hcb ih =>
    obtain ⟨ev, -, hev⟩ := hcb
    exact ih.trans (NetworkStack.sameFrame_handlePicoSocketEvent hev)

/-- Calling picoTCP. -/
theorem follows_pico {pc : PicoCall} {k : pc.Answer → Rpc β} (hw : At s H ann l w)
    (hm : Mutex.stackTS ∈ H)
    (h : ∀ b w', At s H (ann ∧ presses r (.pico pc) b = false) l w' →
      (noSocket pc b = true → w'.2.picoErr ≠ .noerr) → follows c r (k b) Q w') :
    follows c r (request (.pico pc) >>= k) Q w := by
  refine follows_call hw (fun w₁ h₁ ↦ ⟨by simp, by simp, by simp, fun _ ↦ (h₁.owner _).2 hm⟩) ?_
  rintro b w₁ ⟨s₂, γ₂⟩ h₁ ⟨hn, err, herr, rfl⟩
  refine ⟨fun _ _ _ ↦ Iff.rfl, rfl, rfl,
    h b _ ⟨h₁.frame.trans (sameFrame_nested hn), h₁.owner, ?_, ?_⟩ herr⟩
  · exact fun ha ↦ announced_answer (h₁.announced ha.1) ha.2
  · exact log_answer h₁.log

/-- Reading `pico_err`, which nobody else touches meanwhile. -/
theorem follows_picoErr {P : PicoErr → Prop} {k : PicoErr → Rpc β} (hw : At s H ann l w)
    (hm : Mutex.stackTS ∈ H) (hp : P w.2.picoErr)
    (h : ∀ e w', P e → At s H ann l w' → follows c r (k e) Q w') :
    follows c r (request .picoErr >>= k) Q w := by
  refine Prog.rg_perform_bind.2 fun w₁ hr ↦ ?_
  have h₁ := hw.stable hr
  refine ⟨⟨by simp, by simp, by simp, fun _ ↦ (h₁.owner _).2 hm⟩, ?_⟩
  rintro b _ ⟨_, ⟨rfl, rfl⟩, rfl⟩
  refine ⟨guarantee_rpc (fun _ _ _ ↦ Iff.rfl) awake_answer rfl, h _ _ ?_ ⟨h₁.frame, h₁.owner,
    fun ha ↦ announced_answer (h₁.announced ha) rfl, log_answer h₁.log⟩⟩
  rw [hr.picoErr rfl ((hw.owner _).2 hm)]
  exact hp

/-- Waking the main loop. -/
theorem follows_notifyMainLoop {k : Unit → Rpc β} (hw : At s H ann l w)
    (h : ∀ w', At s H True l w' → follows c r (k ()) Q w') :
    follows c r (request .notifyMainLoop >>= k) Q w := by
  refine follows_call hw (fun w₁ h₁ ↦ ⟨by simp, by simp, by simp, by simp⟩) ?_
  rintro b w₁ _ h₁ rfl
  have hlog : ∃ new, w₁.2.emit.log = new ++ l ∧ ∀ x ∈ new, x.isReply = false := h₁.log
  exact ⟨fun _ _ _ ↦ Iff.rfl, rfl, rfl,
    h _ ⟨h₁.frame, h₁.owner, fun _ _ ↦ Or.inl rfl, log_answer hlog⟩⟩

/-- A call that touches nothing shared. -/
theorem follows_local {e : Call} {k : e.Answer → Rpc β} (he : e.isLocal = true)
    (hw : At s H ann l w)
    (h : ∀ b w', At s H ann l w' → follows c r (k b) Q w') : follows c r (request e >>= k) Q w := by
  refine follows_call hw (fun w₁ _ ↦ ?_) ?_
  · cases e <;>
      first | exact absurd he Bool.false_ne_true | exact ⟨by simp, by simp, by simp, by simp⟩
  · intro b w₁ w₂ h₁ hret
    have hsame : w₂ = w₁ := by
      cases e <;> first | exact absurd he Bool.false_ne_true | exact hret
    subst hsame
    refine ⟨fun _ _ _ ↦ Iff.rfl, rfl, rfl,
      h b _ ⟨h₁.frame, h₁.owner, fun ha ↦ ?_, log_answer h₁.log⟩⟩
    refine announced_answer (h₁.announced ha) ?_
    cases e <;> first | exact absurd he Bool.false_ne_true | rfl

/-! ### Rules for reads and writes -/

/-- A read in front of a program. -/
theorem follows_get {k : NetworkStack → Rpc β} (hw : At s H ann l w)
    (h : ∀ w', At s H ann l w' → follows c r (k w'.1) Q w') :
    follows c r (Prog.get >>= k) Q w :=
  Prog.rg_get_bind.2 fun w' hr ↦ h w' (hw.stable hr)

/-- A write in front of a program. -/
theorem follows_modify {f : NetworkStack → NetworkStack} {k : Unit → Rpc β} (hw : At s H ann l w)
    (h : ∀ w', At s H ann l w' → follows c r (k ()) Q (f w'.1, w'.2)) :
    follows c r (Prog.modify f >>= k) Q w :=
  Prog.rg_modify_bind.2 fun w' hr ↦
    ⟨guarantee_rpc (fun _ _ _ ↦ Iff.rfl) Iff.rfl rfl, h w' (hw.stable hr)⟩

/-- A write within the frame. -/
theorem follows_frame {f : NetworkStack → NetworkStack} {k : Unit → Rpc β} (hw : At s H ann l w)
    (hf : ∀ t, SameFrame t (f t)) (h : ∀ w', At s H ann l w' → follows c r (k ()) Q w') :
    follows c r (Prog.modify f >>= k) Q w :=
  follows_modify hw fun w' h' ↦ h _ (h'.frameWrite (hf w'.1))

/-- Returning. -/
theorem follows_pure {a : β} (hw : At s H ann l w) (h : ∀ w', At s H ann l w' → Q a w') :
    follows c r (pure a) Q w :=
  fun w' hr ↦ h w' (hw.stable hr)

end Rules

end Component

end NetworkStackPicoTcp
