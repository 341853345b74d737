import NetworkStackPicoTcp.Invariants.Setup

/-!
# What a step of the component does

Every statement of a thread, whatever it is, does one of a few things to the notifications and to
the log (`Component.Effect`). So what is a reason for picoTCP to tick stays one until a tick begins
(`Component.due_of_step`), the timer is set up once (`Component.armed_of_step`), and no step but one
of the RPC thread takes an event back (`Component.pending_of_stepBut`).
-/

namespace NetworkStackPicoTcp

namespace Component

open Prog (Within)

variable {pl : Platform} {cfg : NetworkStackPicoTcp.Config} {x y : Config pl} {w w' : World}
  {i k : ℕ}

/-! ### What a step does -/

/-- What a step does to the notifications and to the log. -/
structure Effect (x y : Config pl) : Prop where
  log : y.world.2.log = x.world.2.log ∨
    ∃ e, y.world.2.log = e :: x.world.2.log ∧ (e.isReply = true → y.task .rpc = none)
  ticked : y.world.2.log = .ticked :: x.world.2.log → (system pl).Runs .control x y
  event : x.world.2.event = true → y.world.2.event = true ∨ y.world.2.log = .woken :: x.world.2.log
  timer : x.world.2.timer = true → y.world.2.timer = true ∨ (system pl).Runs .ticker x y
  armed : y.world.2.armed = x.world.2.armed ∨ ∃ j k, x.task .ticker = some ⟨j, .call .periodic k⟩

/-- The wake-ups that are pending stay pending, and nothing is recorded. -/
structure Quiet (γ γ' : Shared) : Prop where
  log : γ'.log = γ.log
  event : γ.event = true → γ'.event = true
  timer : γ'.timer = γ.timer
  armed : γ'.armed = γ.armed

theorem Quiet.refl (γ : Shared) : Quiet γ γ := ⟨rfl, id, rfl, rfl⟩

theorem quiet_canReturn {t : ThreadId} {e : Call} {b : e.Answer} (h : CanReturn t e b w w') :
    Quiet w.2 w'.2 := by
  obtain ⟨-, hlog, htimer, harmed, hevent⟩ := heeds_canReturn h
  exact ⟨hlog, hevent, htimer, harmed⟩

/-- A step that takes no notification. -/
theorem Effect.of_quiet (hq : Quiet x.world.2 y.world.2) : Effect x y where
  log := Or.inl hq.log
  ticked htick := absurd (hq.log.symm.trans htick).symm (List.cons_ne_self _ _)
  event hev := Or.inl (hq.event hev)
  timer ht := Or.inl (hq.timer.trans ht)
  armed := Or.inl hq.armed

/-- A step that takes no notification and leaves an entry. -/
theorem Effect.record {γ : Shared} {e : Entry} (hq : Quiet x.world.2 γ) (he : e ≠ .ticked)
    (hy : y.world.2 = γ.record e) (hr : e.isReply = true → y.task .rpc = none) : Effect x y where
  log := Or.inr ⟨e, by rw [hy, Shared.record_log, hq.log], hr⟩
  ticked htick := by
    rw [hy, Shared.record_log] at htick
    exact absurd (List.cons.inj htick).1 he
  event hev := Or.inl (by rw [hy]; exact hq.event hev)
  timer ht := Or.inl (by rw [hy]; exact hq.timer.trans ht)
  armed := Or.inl (by rw [hy]; exact hq.armed)

theorem effect_of_step (hs : (system pl).Step x y) : Effect x y := by
  cases hs with
  | @run t _ _ hr =>
    have hrun := hr
    cases hr with
    | next ht hn =>
      cases hn with
      | read => exact .of_quiet (.refl _)
      | write => cases t <;> exact .of_quiet (.refl _)
      | @call e k _ w' b hb =>
        cases t with
        | rpc =>
          obtain ⟨w₁, hret, rfl⟩ := hb
          exact .record (quiet_canReturn hret) (fun h ↦ Entry.noConfusion h) rfl fun h ↦
            absurd h Bool.false_ne_true
        | control =>
          cases e with
          | waitNetworkEvent =>
            obtain ⟨-, rfl⟩ := hb
            exact ⟨Or.inr ⟨.woken, rfl, fun h ↦ absurd h Bool.false_ne_true⟩, fun _ ↦ hrun,
              fun _ ↦ Or.inr rfl, Or.inl, Or.inl rfl⟩
          | stackTick =>
            obtain rfl := hb
            exact ⟨Or.inr ⟨.ticked, rfl, fun h ↦ absurd h Bool.false_ne_true⟩, fun _ ↦ hrun, Or.inl,
              Or.inl, Or.inl rfl⟩
          | callback ev =>
            obtain rfl := hb
            exact .of_quiet ⟨rfl, id, rfl, rfl⟩
          | eventNotify k =>
            obtain rfl := hb
            exact .record (.refl _) (fun h ↦ Entry.noConfusion h) rfl fun h ↦
              absurd h Bool.false_ne_true
          | wrapper e => exact .of_quiet (quiet_canReturn hb)
        | ticker =>
          cases e with
          | periodic =>
            obtain rfl := hb
            exact ⟨Or.inl rfl, fun h ↦ absurd h.symm (List.cons_ne_self _ _), Or.inl, Or.inl,
              Or.inr ⟨_, _, ht⟩⟩
          | notifyWait =>
            obtain ⟨-, rfl⟩ := hb
            exact ⟨Or.inl rfl, fun h ↦ absurd h.symm (List.cons_ne_self _ _), Or.inl,
              fun _ ↦ Or.inr hrun, Or.inl rfl⟩
          | emit =>
            obtain rfl := hb
            exact .of_quiet ⟨rfl, fun _ ↦ rfl, rfl, rfl⟩
    | «return» =>
      cases t with
      | rpc =>
        exact .record (.refl _) (fun h ↦ Entry.noConfusion h) rfl fun _ ↦
          Threads.Config.set_task_self
      | _ => exact .of_quiet (.refl _)
  | @start t =>
    cases t with
    | rpc =>
      exact .record (.refl _) (fun h ↦ Entry.noConfusion h) rfl fun h ↦ absurd h Bool.false_ne_true
    | _ => exact .of_quiet (.refl _)
  | outside ho =>
    rcases ho with rfl | rfl
    · exact ⟨Or.inl rfl, fun h ↦ absurd h.symm (List.cons_ne_self _ _), Or.inl, fun _ ↦ Or.inl rfl,
        Or.inl rfl⟩
    · exact .of_quiet ⟨rfl, fun _ ↦ rfl, rfl, rfl⟩

/-! ### Reasons to tick -/

/-- The main loop is to be woken or awake, or picoTCP has been left with something to do that is to
be announced. -/
def Due (w : World) : Prop := w.2.event = true ∨ Awake w.2.log ∨ Pressing w.2.log

/-- Until a tick begins, the main loop stays awake. -/
theorem awake_of_step (hs : (system pl).Step x y) (h : Awake x.world.2.log) :
    Awake y.world.2.log ∨ y.world.2.log = .ticked :: x.world.2.log := by
  rcases (effect_of_step hs).log with heq | ⟨e, he, -⟩
  · exact Or.inl (heq ▸ h)
  · by_cases htick : e = .ticked
    · exact Or.inr (htick ▸ he)
    · exact Or.inl (he ▸ awake_cons.2 (Or.inr ⟨htick, h⟩))

/-- Until a tick begins, there is a reason to tick. -/
theorem due_of_step (hs : (system pl).Step x y) (h : Due x.world) :
    Due y.world ∨ y.world.2.log = .ticked :: x.world.2.log := by
  rcases h with hev | hawake | hp
  · rcases (effect_of_step hs).event hev with hev | hwoken
    · exact Or.inl (Or.inl hev)
    · exact Or.inl (Or.inr (Or.inl (hwoken ▸ Or.inl rfl)))
  · exact (awake_of_step hs hawake).imp_left fun ha ↦ Or.inr (Or.inl ha)
  · rcases (effect_of_step hs).log with heq | ⟨e, he, -⟩
    · exact Or.inl (Or.inr (Or.inr (heq ▸ hp)))
    · by_cases htick : e = .ticked
      · exact Or.inr (htick ▸ he)
      · exact Or.inl (Or.inr (Or.inr (he ▸ pressing_cons.2 (Or.inr ⟨htick, hp⟩))))

/-! ### The timer -/

/-- What is left of the ticker's code sets up the timer only if nobody has. -/
theorem ticker_calls (h : Reachable pl cfg x) {task : (system pl).Task .ticker}
    (ht : x.task .ticker = some task) :
    task.rest = tickerRun .setUp ∧ x.world.2.armed = none ∨
      Within (fun _ ↦ False) (fun e ↦ e ≠ .periodic) task.rest := by
  induction h generalizing task with
  | refl => exact absurd ht (Option.some_ne_none _).symm
  | @tail x y hx hs ih =>
    have hbut : (system pl).StepBut .ticker x y → task.rest = tickerRun .setUp ∧
        y.world.2.armed = none ∨
          Within (fun _ ↦ False) (fun e ↦ e ≠ .periodic) task.rest := by
      intro hb
      have hx : Reachable pl cfg x := hx
      have hrely : Others .ticker x.world y.world := hx.holds.rely_stepBut hb
      rw [hrely.armed rfl]
      exact ih (hb.task_eq ▸ ht)
    cases hs with
    | @run t _ _ hr =>
      by_cases hticker : t = .ticker
      · subst hticker
        cases hr with
        | next h₀ hn =>
          rw [Threads.Config.set_task_self] at ht
          obtain rfl := Option.some.inj ht
          refine Or.inr ?_
          rcases ih h₀ with ⟨hcode, -⟩ | hwithin
          · -- the call that sets up the timer is the first one
            obtain rfl := hcode
            cases hn with
            | @call _ _ _ _ b =>
              show Within _ _ (if (b : ℤ) ≠ 0 then pure (-1 : ℤ) else pure (0 : ℤ))
              split_ifs
              · exact Prog.within_pure
              · exact Prog.within_pure
          · exact Prog.within_next hwithin hn
        | «return» =>
          rw [Threads.Config.set_task_self] at ht
          exact absurd ht (Option.some_ne_none _).symm
      · exact hbut (.run hticker hr)
    | @start t _ j hidle hj =>
      by_cases hticker : t = .ticker
      · subst hticker
        rw [Threads.Config.set_task_self] at ht
        obtain rfl := Option.some.inj ht
        cases j with
        | setUp => exact Or.inl ⟨rfl, hj⟩
        | round =>
          refine Or.inr (Prog.within_bind (Prog.within_perform fun h ↦ TickerCall.noConfusion h)
            fun _ ↦ ?_)
          exact Prog.within_bind (Prog.within_perform fun h ↦ TickerCall.noConfusion h) fun _ ↦
            Prog.within_pure
      · exact hbut (.start hticker hidle hj)
    | outside ho => exact hbut (.outside ho)

/-- The timer is set up once. -/
theorem armed_of_step (h : Reachable pl cfg x) (hs : (system pl).Step x y) {a : ℤ}
    (ha : x.world.2.armed = some a) :
    y.world.2.armed = some a := by
  rcases (effect_of_step hs).armed with heq | ⟨j, k, ht⟩
  · rw [heq, ha]
  · rcases ticker_calls h ht with ⟨-, hnone⟩ | hwithin
    · exact absurd (ha.symm.trans hnone) (Option.some_ne_none _)
    · exact absurd rfl hwithin.1

/-! ### Pending events -/

/-- Events stay pending where they are not taken back. -/
theorem pending_of_sameFrame {s s' : NetworkStack} (hf : SameFrame s s')
    (hmask : (s.sockets i).eventMask ⊆ (s'.sockets i).eventMask)
    (h : s.hasPendingEvents i k = true) :
    s'.hasPendingEvents i k = true := by
  simp only [NetworkStack.hasPendingEvents, decide_eq_true_eq] at h ⊢
  refine ⟨(hf.slot i).status.trans h.1, fun hempty ↦ h.2.1 (Finset.subset_empty.1 (hempty ▸ hmask)),
    ?_⟩
  rw [(hf.slot i).clientId, hf.client_clientId, h.2.2]

theorem pending_nested {s s' : NetworkStack} (hn : Nested s s')
    (h : s.hasPendingEvents i k = true) :
    s'.hasPendingEvents i k = true := by
  induction hn with
  | refl => exact h
  | tail _ hcb ih =>
    obtain ⟨ev, hne, hev⟩ := hcb
    refine pending_of_sameFrame (sameFrame_nested (.single ⟨ev, hne, hev⟩)) ?_ ih
    obtain ⟨-, rfl⟩ | ⟨i, k, -, -, rfl⟩ := NetworkStack.handlePicoSocketEvent_cases hev
    · exact Finset.Subset.refl _
    · rw [NetworkStack.updateClient_sockets, NetworkStack.updateSocket_sockets]
      split_ifs with hi
      · rw [hi, SocketResources.recordEvent_eventMask]
        exact Finset.subset_union_left
      · exact Finset.Subset.refl _

/-- **Only the RPC thread takes events back.** -/
theorem pending_of_stepBut (hx : Reachable pl cfg x) (hs : (system pl).StepBut .rpc x y)
    (h : x.world.1.hasPendingEvents i k = true) : y.world.1.hasPendingEvents i k = true := by
  cases hs with
  | @run u _ _ hu hr =>
    cases hr with
    | «return» => exact h
    | next ht hn =>
      cases u with
      | rpc => exact absurd rfl hu
      | control =>
        have hwithin := Threads.within_of_reachable (S := system pl) (t := ThreadId.control)
          (fun j ↦ within_iteration) hx ht
        cases hn with
        | read => exact h
        | write => exact pending_of_sameFrame (hwithin.1 _).1 ((hwithin.1 _).2 i) h
        | @call e _ _ _ b hb =>
          cases e with
          | waitNetworkEvent =>
            obtain ⟨-, rfl⟩ := hb
            exact h
          | stackTick | callback | eventNotify =>
            obtain rfl := hb
            exact h
          | wrapper e =>
            cases e with
            | pico => exact pending_nested hb.1 h
            | lock | picoErr =>
              obtain ⟨-, rfl⟩ := hb
              exact h
            | unlock | notifyMainLoop | stringToIpv4 | putEvent | preempt =>
              obtain rfl := hb
              exact h
            | nullDeref | diverge => exact b.elim
      | ticker =>
        have hwithin := Threads.within_of_reachable (S := system pl) (t := ThreadId.ticker)
          (fun j ↦ within_tickerRun) hx ht
        cases hn with
        | read => exact h
        | write => exact hwithin.1.elim
        | @call e _ _ _ b hb =>
          cases e with
          | notifyWait =>
            obtain ⟨-, rfl⟩ := hb
            exact h
          | periodic | emit =>
            obtain rfl := hb
            exact h
  | start => exact h
  | outside ho =>
    rcases ho with rfl | rfl
    · exact h
    · exact h

end Component

end NetworkStackPicoTcp
