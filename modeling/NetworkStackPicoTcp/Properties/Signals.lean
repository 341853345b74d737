import NetworkStackPicoTcp.Invariants.Setup

/-!
# Signals among the threads

The notification pass reads the socket table while the RPC thread changes it, and takes no mutex
that would stop it. Still a client is signalled, and once only, by every pass during which it has
something to be told (`Component.signalled_once`): until the pass has signalled the client, its
`needsToBeNotified` is set or some slot of it has pending events. Which of the two it is may change
as often as it likes.
-/

namespace NetworkStackPicoTcp

namespace Component

open Relation (ReflTransGen)

variable {pl : Platform} {cfg : NetworkStackPicoTcp.Config} {x y z : Config pl} {w w' : World}
  {k l i n : ℕ} {evs : List PicoEvent} {js ks : List ℕ}

/-! ### The pass within its iteration -/

/-- What is left of an iteration when its callbacks are done. -/
def notifyAndUnlock : Loop Unit := do
  notifyClientsAboutPendingEvents
  ask (.wrapper (.unlock .stackTS))

/-- An iteration up to its notification pass. -/
def tickUnderLock (evs : List PicoEvent) : Loop Unit := do
  ask .waitNetworkEvent
  ask (.wrapper (.lock .stackTS))
  ask .stackTick
  callbacks evs

theorem iteration_eq : iteration evs = tickUnderLock evs >>= fun _ ↦ notifyAndUnlock := by
  have hbind := Prog.bind_bind (callbacks evs) (fun _ ↦ notifyClientsAboutPendingEvents)
    fun _ ↦ ask (.wrapper (.unlock .stackTS))
  exact congrArg
    (fun p : Loop Unit ↦ ask .waitNetworkEvent >>= fun _ ↦ ask (.wrapper (.lock .stackTS)) >>=
    fun _ ↦ ask .stackTick >>= fun _ ↦ p) hbind

/-! ### Counting signals -/

/-- The entry is a signal to client `k`. -/
def Entry.signals (k : ℕ) : Entry → Bool
  | .signalled l => decide (l = k)
  | _ => false

/-- How often client `k` has been signalled. -/
def signals (k : ℕ) (log : List Entry) : ℕ := log.countP (Entry.signals k)

theorem signals_record_of_ne {e : Entry} (he : e.signals k = false) :
    signals k (w.2.record e).log = signals k w.2.log := by
  rw [Shared.record_log, signals, List.countP_cons_of_neg (by simp [he]), signals]

theorem signals_record_self :
    signals k (w.2.record (.signalled k)).log = signals k w.2.log + 1 := by
  rw [Shared.record_log, signals, List.countP_cons_of_pos (by simp [Entry.signals]), signals]

/-! ### What is relied on -/

/-- Client `k`, signalled `n` times before the pass, has something to be told: its flag is set, slot
`i` has events for it, or it has been signalled since. -/
def Wants (k i n : ℕ) (w : World) : Prop :=
  (w.1.clients k).needsToBeNotified = true ∨ w.1.hasPendingEvents i k = true ∨ n < signals k w.2.log

/-- The control thread relies on the others not to take the flag back and to signal nobody, and on
there being something to tell. -/
def passTerms (k i n : ℕ) : Prog.Terms World where
  rely w w' :=
    Heeds w.1 w'.1 ∧ signals k w'.2.log = signals k w.2.log ∧ (Wants k i n w → Wants k i n w')
  guarantee _ _ := True
  rely_refl w := ⟨Heeds.refl w.1, rfl, id⟩
  rely_trans h h' := ⟨h.1.trans h'.1, h'.2.1.trans h.2.1, h'.2.2 ∘ h.2.2⟩

/-- Client `k` can be signalled, and the pass has not got to it. -/
structure Before (k i n : ℕ) (w : World) : Prop where
  inUse : (w.1.clients k).inUse = true
  eventNotify : (w.1.clients k).eventNotify = true
  lt : i < w.1.numberOfSockets
  signals : signals k w.2.log = n
  wants : (w.1.clients k).needsToBeNotified = true ∨ w.1.hasPendingEvents i k = true

/-- The code of the pass, followed among the other threads. -/
abbrev notifies (k i n : ℕ) {α : Type} (p : Loop α) (Q : World → Prop) (w : World) : Prop :=
  Prog.rg loopEnv (passTerms k i n) (fun _ _ ↦ True) p (fun _ ↦ Q) w

theorem Before.stable (h : Before k i n w) (hr : (passTerms k i n).rely w w') :
    Before k i n w' := by
  obtain ⟨hheeds, hsig, hwants⟩ := hr
  refine ⟨(hheeds.inUse k).trans h.inUse, (hheeds.eventNotify k).trans h.eventNotify,
    hheeds.numberOfSockets ▸ h.lt, hsig.trans h.signals, ?_⟩
  rcases hwants (h.wants.imp_right Or.inl) with hflag | hpending | hlt
  · exact Or.inl hflag
  · exact Or.inr hpending
  · rw [hsig, h.signals] at hlt
    exact absurd hlt (lt_irrefl n)

/-- A write to the flag of another client. -/
theorem Before.updateClient {f : Client → Client} (h : Before k i n w) (hl : k ≠ l) {γ : Shared}
    (hsig : Component.signals k γ.log = Component.signals k w.2.log) :
    Before k i n (w.1.updateClient l f, γ) := by
  have hsame : (w.1.updateClient l f).clients k = w.1.clients k := by
    rw [NetworkStack.updateClient_clients, if_neg hl]
  refine ⟨by rw [hsame, h.inUse], by rw [hsame, h.eventNotify], h.lt, hsig.trans h.signals, ?_⟩
  have hpending : (w.1.updateClient l f).hasPendingEvents i k = w.1.hasPendingEvents i k := by
    simp only [NetworkStack.hasPendingEvents, hsame, NetworkStack.updateClient_sockets]
  rw [hsame, hpending]
  exact h.wants

/-- Raising the flag of a client. -/
theorem Before.flagUp (h : Before k i n w) :
    Before k i n (w.1.updateClient k Client.flag, w.2) ∧
      ((w.1.updateClient k Client.flag).clients k).needsToBeNotified = true := by
  have hsame : (w.1.updateClient k Client.flag).clients k = (w.1.clients k).flag := by
    rw [NetworkStack.updateClient_clients, if_pos rfl]
  have hflag : ((w.1.updateClient k Client.flag).clients k).needsToBeNotified = true := by
    rw [hsame]
    rfl
  exact ⟨⟨by rw [hsame]; exact h.inUse, by rw [hsame]; exact h.eventNotify, h.lt, h.signals,
    Or.inl hflag⟩, hflag⟩

/-! ### The loops of the pass -/

/-- The inner loop leaves the flag set if it was, or if it passes slot `i`. -/
theorem notifies_scanSockets (h : Before k i n w) :
    notifies k i n (scanSockets k js)
      (fun w' ↦ Before k i n w' ∧
        ((w.1.clients k).needsToBeNotified = true ∨ i ∈ js →
          (w'.1.clients k).needsToBeNotified = true)) w := by
  induction js generalizing w with
  | nil =>
    refine fun w₁ hr ↦ ⟨h.stable hr, fun hset ↦ ?_⟩
    exact hr.1.flag k (hset.resolve_right List.not_mem_nil)
  | cons j js ih =>
    refine Prog.rg_get_bind.2 fun w₁ hr ↦ ?_
    have h₁ := h.stable hr
    split_ifs with hj
    · refine Prog.rg_modify_bind.2 fun w₂ hr₂ ↦ ⟨trivial, ?_⟩
      obtain ⟨h₂, hflag⟩ := (h₁.stable hr₂).flagUp
      exact Prog.rg_mono (fun _ _ ↦ id) (fun _ w' hw' ↦ ⟨hw'.1, fun _ ↦ hw'.2 (Or.inl hflag)⟩)
        (ih h₂)
    · refine Prog.rg_mono (fun _ _ ↦ id) (fun _ w' hw' ↦ ⟨hw'.1, fun hset ↦ hw'.2 ?_⟩) (ih h₁)
      rcases hset with hset | hmem
      · exact Or.inl (hr.1.flag k hset)
      · rcases List.mem_cons.1 hmem with rfl | hmem
        · exact Or.inl (h₁.wants.resolve_right hj)
        · exact Or.inr hmem

/-- What is done for client `k` signals it. -/
theorem notifies_notifyUsed (h : Before k i n w) :
    notifies k i n (notifyUsed k) (fun w' ↦ signals k w'.2.log = n + 1) w := by
  -- the second half, with the flag set
  have hend : ∀ w₁, Before k i n w₁ → (w₁.1.clients k).needsToBeNotified = true →
      notifies k i n (Prog.get >>= fun s ↦
        if (s.clients k).needsToBeNotified = true then do
          if (s.clients k).eventNotify = true then
            ask (.eventNotify k)
          Prog.modify fun s ↦ s.updateClient k fun c ↦ { c with needsToBeNotified := false }
        else pure ()) (fun w' ↦ signals k w'.2.log = n + 1) w₁ := by
    refine fun w₁ h₁ hflag ↦ Prog.rg_get_bind.2 fun w₂ hr₂ ↦ ?_
    have h₂ := h₁.stable hr₂
    rw [if_pos (hr₂.1.flag k hflag), if_pos h₂.eventNotify]
    refine Prog.rg_perform_bind.2 fun w₃ hr₃ ↦ ⟨trivial, ?_⟩
    rintro b _ rfl
    have hsig : signals k (w₃.2.record (.signalled k)).log = n + 1 := by
      rw [signals_record_self, (h₂.stable hr₃).signals]
    refine ⟨trivial, fun w₄ hr₄ ↦ ⟨trivial, fun w₅ hr₅ ↦ ?_⟩⟩
    exact hr₅.2.1.trans (hr₄.2.1.trans hsig)
  refine Prog.rg_get_bind.2 fun w₁ hr₁ ↦ ?_
  have h₁ := h.stable hr₁
  split_ifs with hflag
  · refine Prog.rg_seq (notifies_scanSockets h₁) fun _ w₂ hw₂ ↦ hend w₂ hw₂.1 (hw₂.2 (Or.inr ?_))
    exact List.mem_range.2 h₁.lt
  · exact hend w₁ h₁ (Bool.eq_true_of_not_eq_false hflag)

/-- What is done for another client keeps what does not depend on that client's flag. -/
theorem notifies_notifyUsed_of_ne {I : World → Prop}
    (hI : ∀ w w', (passTerms k i n).rely w w' → I w → I w')
    (hwrite : ∀ w f, I w → I (w.1.updateClient l f, w.2))
    (hsignal : ∀ w, I w → I (w.1, w.2.record (.signalled l))) (h : I w) :
    notifies k i n (notifyUsed l) I w := by
  refine Prog.rg_of_within (W := fun f ↦ ∃ g, f = fun s ↦ s.updateClient l g)
    (E := fun e ↦ e = .eventNotify l)
    hI ?_ ?_ (within_notifyUsed ⟨_, rfl⟩ ⟨_, rfl⟩ rfl) h
  · rintro _ w₁ ⟨g, rfl⟩ h₁
    exact ⟨trivial, hwrite w₁ g h₁⟩
  · rintro _ w₁ rfl h₁
    refine ⟨trivial, ?_⟩
    rintro b _ rfl
    exact ⟨trivial, hsignal w₁ h₁⟩

theorem signalled_ne (hl : k ≠ l) : (Entry.signalled l).signals k = false :=
  decide_eq_false fun h ↦ hl h.symm

/-- The clients after client `k` leave it at one signal. -/
theorem notifies_after (hk : k ∉ ks) (h : signals k w.2.log = n + 1) :
    notifies k i n (notifyClients ks) (fun w' ↦ signals k w'.2.log = n + 1) w := by
  induction ks generalizing w with
  | nil => exact fun w' hr ↦ hr.2.1.trans h
  | cons l ks ih =>
    rw [List.mem_cons, not_or] at hk
    obtain ⟨hl, hks⟩ := hk
    refine Prog.rg_get_bind.2 fun w₁ hr₁ ↦ ?_
    have h₁ : signals k w₁.2.log = n + 1 := hr₁.2.1.trans h
    split_ifs
    · refine Prog.rg_seq
        (notifies_notifyUsed_of_ne (fun w w' hr hw ↦ hr.2.1.trans hw) (fun _ _ ↦ id)
        (fun w₂ hw ↦ ?_) h₁) fun _ w₂ h₂ ↦ ih hks h₂
      exact (signals_record_of_ne (w := w₂) (signalled_ne hl)).trans hw
    · exact ih hks h₁

/-- **The outer loop signals client `k` once**, by induction on the clients that it has still to
pass. -/
theorem notifies_notifyClients (hnodup : ks.Nodup) (hk : k ∈ ks) (h : Before k i n w) :
    notifies k i n (notifyClients ks) (fun w' ↦ signals k w'.2.log = n + 1) w := by
  induction ks generalizing w with
  | nil => exact absurd hk List.not_mem_nil
  | cons l ks ih =>
    obtain ⟨hl, hnodup⟩ := List.nodup_cons.1 hnodup
    refine Prog.rg_get_bind.2 fun w₁ hr₁ ↦ ?_
    have h₁ := h.stable hr₁
    by_cases hkl : k = l
    · subst hkl
      rw [if_pos h₁.inUse]
      exact Prog.rg_seq (notifies_notifyUsed h₁) fun _ w₂ h₂ ↦ notifies_after hl h₂
    have hks := (List.mem_cons.1 hk).resolve_left hkl
    split_ifs
    · refine Prog.rg_seq (notifies_notifyUsed_of_ne (fun _ _ hr hw ↦ hw.stable hr)
        (fun _ _ hw ↦ hw.updateClient hkl rfl) (fun w₂ hw ↦ ?_) h₁) fun _ w₂ h₂ ↦ ih hnodup hks h₂
      exact ⟨hw.inUse, hw.eventNotify, hw.lt,
        (signals_record_of_ne (w := w₂) (signalled_ne hkl)).trans hw.signals, hw.wants⟩
    · exact ih hnodup hks h₁

theorem notifies_notifyAndUnlock (hk : k < w.1.numberOfClients) (h : Before k i n w) :
    notifies k i n notifyAndUnlock (fun w' ↦ signals k w'.2.log = n + 1) w := by
  refine Prog.rg_bind.2 (Prog.rg_get_bind.2 fun w₁ hr₁ ↦ ?_)
  have hmem : k ∈ List.range w₁.1.numberOfClients := List.mem_range.2 (hr₁.1.numberOfClients ▸ hk)
  refine Prog.rg_mono (fun _ _ ↦ id) (fun _ w₂ h₂ w₃ hr₃ ↦ ⟨trivial, ?_⟩)
    (notifies_notifyClients List.nodup_range hmem (h.stable hr₁))
  rintro _ _ rfl
  exact ⟨trivial, fun w₄ hr₄ ↦ hr₄.2.1.trans (hr₃.2.1.trans h₂)⟩

/-! ### The other threads -/

/-- **The other threads heed the notifications that are owed, and signal nobody.** -/
theorem heeds_stepBut (h : Reachable pl cfg x) (hs : (system pl).StepBut .control x y) :
    Heeds x.world.1 y.world.1 ∧ signals k y.world.2.log = signals k x.world.2.log := by
  cases hs with
  | @run u _ _ hu hr =>
    cases u with
    | control => exact absurd rfl hu
    | rpc =>
      cases hr with
      | «return» => exact ⟨Heeds.refl _, signals_record_of_ne (w := x.world) rfl⟩
      | next ht hn =>
        have hwithin := Threads.within_of_reachable (S := system pl) (t := ThreadId.rpc)
          (fun j ↦ heedful_rpc) h ht
        cases hn with
        | read => exact ⟨Heeds.refl _, rfl⟩
        | write => exact ⟨hwithin.1 _, rfl⟩
        | call hb =>
          obtain ⟨w₁, hret, rfl⟩ := hb
          obtain ⟨hheeds, hlog, -⟩ := heeds_canReturn hret
          refine ⟨hheeds, (signals_record_of_ne (w := w₁) rfl).trans ?_⟩
          rw [hlog]
    | ticker =>
      cases hr with
      | «return» => exact ⟨Heeds.refl _, rfl⟩
      | next ht hn =>
        have hwithin := Threads.within_of_reachable (S := system pl) (t := ThreadId.ticker)
          (fun j ↦ within_tickerRun) h ht
        cases hn with
        | read => exact ⟨Heeds.refl _, rfl⟩
        | write => exact hwithin.1.elim
        | @call e _ _ _ b hb =>
          cases e with
          | notifyWait =>
            obtain ⟨-, rfl⟩ := hb
            exact ⟨Heeds.refl _, rfl⟩
          | periodic | emit =>
            obtain rfl := hb
            exact ⟨Heeds.refl _, rfl⟩
  | @start u _ j hu =>
    cases u with
    | control => exact absurd rfl hu
    | rpc => exact ⟨Heeds.refl _, signals_record_of_ne (w := x.world) rfl⟩
    | ticker => exact ⟨Heeds.refl _, rfl⟩
  | outside ho =>
    rcases ho with rfl | rfl
    · exact ⟨Heeds.refl _, rfl⟩
    · exact ⟨Heeds.refl _, rfl⟩

/-! ### The whole pass -/

/-- **A client that has something to be told is signalled once**, whatever the other threads do
during the pass. -/
theorem signalled_once (h : Reachable pl cfg x) (ht : x.task .control = some ⟨evs, notifyAndUnlock⟩)
    (hk : k < x.world.1.numberOfClients) (hin : (x.world.1.clients k).inUse = true)
    (hnotify : (x.world.1.clients k).eventNotify = true) (hi : i < x.world.1.numberOfSockets)
    (hx : (x.world.1.clients k).needsToBeNotified = true ∨ x.world.1.hasPendingEvents i k = true)
    (hrun : ReflTransGen
      ((system pl).Goes .control fun z ↦ Wants k i (signals k x.world.2.log) z.world) x y)
    (hret : y.task .control = some ⟨evs, .ret ()⟩) :
    signals k y.world.2.log = signals k x.world.2.log + 1 := by
  refine Threads.post_of_goes (S := system pl) (t := ThreadId.control) (T := passTerms k i _) h
    (fun y z hy hb hz ↦ ?_) ht (notifies_notifyAndUnlock hk ⟨hin, hnotify, hi, rfl, hx⟩) hrun hret
  obtain ⟨hheeds, hsig⟩ := heeds_stepBut hy hb
  exact ⟨hheeds, hsig, fun _ ↦ hz⟩

/-- picoTCP announces data for the socket 7. -/
def sampleEvents : List PicoEvent := [announce 7 {.rd}]

/-- The main loop is to be woken after client 101 has opened a socket. -/
def sampleWoken : Config samplePlatform :=
  ⟨(sampleOpened.world.1, sampleOpened.world.2.emit), sampleOpened.task⟩

/-- Its callbacks are done. -/
def sampleTicked : World :=
  ((loopAlone (obliging none none) (tickUnderLock sampleEvents) sampleWoken.world).map
    Prod.snd).getD
    sampleWoken.world

/-- The pass is over. -/
def sampleNotified : World :=
  ((loopAlone (obliging none none) notifyAndUnlock sampleTicked).map Prod.snd).getD sampleTicked

/-- The main loop gets to its notification pass. -/
def samplePass : Config samplePlatform :=
  sampleWoken.set sampleTicked .control (some ⟨sampleEvents, notifyAndUnlock⟩)

theorem reachable_samplePass : Reachable samplePlatform (sampleConfig 2) samplePass := by
  have hwoken : Reachable samplePlatform (sampleConfig 2) sampleWoken :=
    reachable_sampleOpened.tail (.outside (Or.inr rfl))
  have hmay : (system samplePlatform).mayStart .control sampleEvents sampleWoken.world := by
    intro ev hev
    obtain rfl := List.mem_singleton.1 hev
    exact Option.some_ne_none 7
  have hstart := hwoken.tail (.start (t := ThreadId.control) (j := sampleEvents) rfl hmay)
  have htask : (system samplePlatform).code .control sampleEvents =
      tickUnderLock sampleEvents >>= fun _ ↦ notifyAndUnlock := iteration_eq
  rw [htask] at hstart
  have hrun : loopAlone (obliging none none) (tickUnderLock sampleEvents) sampleWoken.world =
      some ((), sampleTicked) := rfl
  have ho := outcome_of_loopAlone hrun
  have hruns := Threads.runs_of_outcome_bind (S := system samplePlatform) (t := ThreadId.control)
    (x := sampleWoken.set sampleWoken.world .control
      (some ⟨sampleEvents, tickUnderLock sampleEvents >>= fun _ ↦ notifyAndUnlock⟩))
    (j := sampleEvents) (k := fun _ ↦ notifyAndUnlock) Threads.Config.set_task_self ho
  rw [Threads.Config.set_set] at hruns
  exact hstart.trans (ReflTransGen.mono (fun _ _ h ↦ .run h.1) _ _ hruns)

theorem signalled_once_sample :
    (sampleTicked.1.clients 0).needsToBeNotified = true ∧
      signals 0 sampleNotified.2.log = signals 0 sampleTicked.2.log + 1 := by
  have hrun : loopAlone (obliging none none) notifyAndUnlock sampleTicked =
      some ((), sampleNotified) := rfl
  have ho := outcome_of_loopAlone hrun
  have hruns := Threads.runs_of_outcome_bind (S := system samplePlatform) (t := ThreadId.control)
    (x := samplePass) (j := sampleEvents) (p := notifyAndUnlock) (k := Prog.ret)
    (Threads.Config.set_task_self.trans (congrArg _ (congrArg _ (Prog.bind_ret _).symm))) ho
  refine ⟨rfl, signalled_once (i := 0) reachable_samplePass Threads.Config.set_task_self (by decide)
    rfl rfl (by decide)
    (Or.inl rfl) (ReflTransGen.mono (fun _ _ h ↦ .own h.1 h.2) _ _ hruns)
      Threads.Config.set_task_self⟩

end Component

end NetworkStackPicoTcp
