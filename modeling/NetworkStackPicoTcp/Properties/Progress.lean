import NetworkStackPicoTcp.Invariants.ControlThread

/-!
# The component comes to rest

The three threads share two mutexes and a notification. Whatever they have done so far, the RPC
thread and the control thread can bring what they are at to its end by themselves, without the
ticker, the driver or a new RPC (`Component.can_come_to_rest`): the RPC is answered, and the main
loop has come back to its wait with nothing left to serve that an RPC has to announce. So no order
of the threads' statements leads to a deadlock or to work that is forgotten. The only other outcome
is that picoTCP's tick runs a callback that follows a `NULL` pointer.

What no RPC announces is the close of a connection that `accept` has found no handle for: the main
loop may sleep on after it (`Component.asleep_sampleCrowded`).
-/

namespace NetworkStackPicoTcp

namespace Component

open Relation (ReflTransGen)

variable {pl : Platform} {cfg : NetworkStackPicoTcp.Config} {x x' : Config pl}

/-! ### Mutexes belong to the two threads -/

/-- A call of a thread gives no mutex to another thread. -/
theorem owner_of_canReturn {t u : ThreadId} {e : Call} {b : e.Answer} {w w' : World}
    (h : CanReturn t e b w w') (hu : u ≠ t) {m : Mutex} (ho : w'.2.owner m = some u) :
    w.2.owner m = some u := by
  cases e with
  | lock m' =>
    obtain ⟨-, rfl⟩ := h
    simp only [Shared.take, Function.update_apply] at ho
    split_ifs at ho with hm
    · exact absurd (Option.some.inj ho).symm hu
    · exact ho
  | unlock m' =>
    obtain rfl := h
    simp only [Shared.release, Function.update_apply] at ho
    split_ifs at ho
    exact ho
  | pico pc =>
    obtain ⟨-, err, -, herr⟩ := h
    rw [herr] at ho
    exact ho
  | picoErr =>
    obtain ⟨-, rfl⟩ := h
    exact ho
  | notifyMainLoop | stringToIpv4 | putEvent | preempt =>
    obtain rfl := h
    exact ho
  | nullDeref | diverge => exact b.elim

theorem ticker_owns_nothing (h : Reachable pl cfg x) (m : Mutex) :
    x.world.2.owner m ≠ some .ticker := by
  induction h with
  | refl => simp [Threads.Config.idle, Shared.init]
  | @tail y z _ hs ih =>
    intro ho
    cases hs with
    | @run t _ _ hr =>
      cases hr with
      | next htask hn =>
        cases hn with
        | read => exact ih ho
        | write => cases t <;> exact ih ho
        | @call e k _ w' b hb =>
          cases t with
          | rpc =>
            obtain ⟨w₁, hret, rfl⟩ := hb
            exact ih (owner_of_canReturn hret (by simp) ho)
          | control =>
            cases e with
            | wrapper e => exact ih (owner_of_canReturn hb (by simp) ho)
            | waitNetworkEvent =>
              obtain ⟨-, rfl⟩ := hb
              exact ih ho
            | stackTick | callback | eventNotify =>
              obtain rfl := hb
              exact ih ho
          | ticker =>
            cases e with
            | notifyWait =>
              obtain ⟨-, rfl⟩ := hb
              exact ih ho
            | periodic | emit =>
              obtain rfl := hb
              exact ih ho
      | «return» => cases t <;> exact ih ho
    | @start t => cases t <;> exact ih ho
    | outside hout =>
      rcases hout with rfl | rfl
      · exact ih ho
      · exact ih ho

/-! ### When a thread is blocked -/

/-- The control thread is about to follow a `NULL` pointer. -/
def Crashed (x : Config pl) : Prop :=
  ∃ evs k, x.task .control = some ⟨evs, .call (.wrapper .nullDeref) k⟩

/-- The control thread is at its wait. -/
def Waiting (x : Config pl) : Prop :=
  ∃ evs k, x.task .control = some ⟨evs, .call .waitNetworkEvent k⟩

/-- The RPC is answered, and the main loop waits for an event with nothing left to serve but what
was not to be announced. -/
structure Rest (x : Config pl) : Prop where
  rpc : x.task .rpc = none
  waiting : Waiting x
  event : x.world.2.event = false
  served : ¬ Pressing x.world.2.log

/-- What the two threads do by themselves: their next statements, and the loop of the control thread
going round. -/
inductive Own : Config pl → Config pl → Prop
  | rpc {x x' : Config pl} (h : (system pl).Runs .rpc x x') : Own x x'
  | control {x x' : Config pl} (h : (system pl).Runs .control x x') : Own x x'
  | again {x : Config pl} (h : x.task .control = none) :
    Own x (x.set x.world .control (some ⟨[], iteration []⟩))

theorem Own.step (h : Own x x') : (system pl).Step x x' := by
  cases h with
  | rpc h => exact .run h
  | control h => exact .run h
  | again h => exact .start (j := []) h fun _ hev ↦ absurd hev List.not_mem_nil

theorem Reachable.own (h : Reachable pl cfg x) (hs : ReflTransGen Own x x') : Reachable pl cfg x' :=
  h.trans (ReflTransGen.mono (fun _ _ ↦ Own.step) _ _ hs)

/-- A call returns unless it waits for a mutex, or stands for a failure. -/
theorem exists_canReturn {t : ThreadId} {e : Call} {w : World}
    (hsafe : e ≠ .nullDeref ∧ e ≠ .diverge)
    (hlock : ∀ m, e = .lock m → w.2.owner m = none) : ∃ b w', CanReturn t e b w w' := by
  cases e with
  | lock m => exact ⟨(), _, hlock m rfl, rfl⟩
  | unlock m => exact ⟨(), _, rfl⟩
  | pico pc =>
    have hret : ∀ b : pc.Answer, ∃ w', CanReturn t (.pico pc) b w w' := fun b ↦
      ⟨(w.1, { w.2 with picoErr := .einval }), ReflTransGen.refl, .einval, fun _ ↦ by simp, rfl⟩
    have hanswer : Nonempty pc.Answer := by cases pc <;> exact ⟨default⟩
    obtain ⟨b⟩ := hanswer
    exact ⟨b, hret b⟩
  | picoErr => exact ⟨w.2.picoErr, w, rfl, rfl⟩
  | notifyMainLoop => exact ⟨(), _, rfl⟩
  | stringToIpv4 a => exact ⟨none, w, rfl⟩
  | putEvent | preempt => exact ⟨(), w, rfl⟩
  | nullDeref => exact absurd rfl hsafe.1
  | diverge => exact absurd rfl hsafe.2

/-- The RPC thread is blocked only by the control thread. -/
theorem rpc_runs (h : Reachable pl cfg x) (hfree : ∀ m, x.world.2.owner m ≠ some .control)
    {task : (system pl).Task .rpc} (ht : x.task .rpc = some task) :
    ∃ x', (system pl).Runs .rpc x x' := by
  refine Threads.exists_runs ht fun e k hk ↦ ?_
  obtain ⟨j, p⟩ := task
  obtain rfl : p = .call e k := hk
  have howed : Owed e x.world := h.holds.owes ht
  have hlock : ∀ m, e = .lock m → x.world.2.owner m = none := by
    intro m hm
    cases ho : x.world.2.owner m with
    | none => rfl
    | some u =>
      cases u with
      | rpc => exact absurd (howed.lock m hm m ho) (lt_irrefl _)
      | control => exact absurd ho (hfree m)
      | ticker => exact absurd ho (ticker_owns_nothing h m)
  obtain ⟨b, w', hret⟩ := exists_canReturn (t := .rpc) howed.safe hlock
  exact ⟨b, _, w', hret, rfl⟩

/-- The control thread is blocked only by the RPC thread, and by its own wait and crash. -/
theorem control_runs (h : Reachable pl cfg x) {task : (system pl).Task .control}
    (ht : x.task .control = some task) (hwait : Waiting x → x.world.2.event = true)
    (hlock : (∀ m, x.world.2.owner m ≠ some .control) → ∀ m, x.world.2.owner m ≠ some .rpc) :
    Crashed x ∨ ∃ x', (system pl).Runs .control x x' := by
  by_cases hcrash : Crashed x
  · exact Or.inl hcrash
  refine Or.inr (Threads.exists_runs ht fun e k hk ↦ ?_)
  obtain ⟨j, p⟩ := task
  obtain rfl : p = .call e k := hk
  have howed : LoopOwed e x.world := h.holds.owes ht
  cases e with
  | waitNetworkEvent => exact ⟨(), _, hwait ⟨j, k, ht⟩, rfl⟩
  | stackTick => exact ⟨(), _, rfl⟩
  | callback ev => exact ⟨(), _, rfl⟩
  | eventNotify k => exact ⟨(), _, rfl⟩
  | wrapper e =>
    refine exists_canReturn ⟨?_, ?_⟩ fun m hm ↦ ?_
    · rintro rfl
      exact hcrash ⟨j, k, ht⟩
    · rintro rfl
      obtain hk | hk | ⟨m, hk | hk⟩ := howed.known
      · exact LoopCall.noConfusion hk
      · exact absurd hk Bool.false_ne_true
      · exact Call.noConfusion (LoopCall.wrapper.inj hk)
      · exact Call.noConfusion (LoopCall.wrapper.inj hk)
    · have hown := howed.lock m (by rw [hm])
      cases ho : x.world.2.owner m with
      | none => rfl
      | some u =>
        cases u with
        | rpc => exact absurd ho (hlock hown m)
        | control => exact absurd ho (hown m)
        | ticker => exact absurd ho (ticker_owns_nothing h m)

/-! ### Coming to rest -/

/-- The control thread sleeps: it is between two iterations, or at its wait. -/
def Asleep (x : Config pl) : Prop := x.task .control = none ∨ Waiting x

theorem not_awake (h : Reachable pl cfg x) (ha : Asleep x) : ¬ Awake x.world.2.log := by
  rcases ha with ha | ⟨evs, k, ha⟩
  · exact (h.holds.idle ha : LoopIdle x.world).asleep
  · exact (h.holds.owes ha : LoopOwed _ x.world).asleep rfl

/-- The main loop never wakes itself. -/
theorem event_of_call {e : LoopCall} {b : e.Answer} {w w' : World} (howed : LoopOwed e w)
    (hb : loopEnv.onCall e w b w') (hev : w'.2.event = true) :
    w.2.event = true ∧ e ≠ .waitNetworkEvent := by
  cases e with
  | waitNetworkEvent =>
    obtain ⟨-, rfl⟩ := hb
    exact absurd hev Bool.false_ne_true
  | stackTick | callback | eventNotify =>
    obtain rfl := hb
    exact ⟨hev, by simp⟩
  | wrapper e =>
    refine ⟨?_, by simp⟩
    cases e with
    | lock m =>
      obtain ⟨-, rfl⟩ := hb
      exact hev
    | pico pc =>
      obtain ⟨-, err, -, herr⟩ := hb
      rwa [herr] at hev
    | picoErr =>
      obtain ⟨-, rfl⟩ := hb
      exact hev
    | unlock | stringToIpv4 | putEvent | preempt =>
      obtain rfl := hb
      exact hev
    | nullDeref | diverge => exact b.elim
    | notifyMainLoop =>
      -- this call is not among those of an iteration
      obtain hk | hk | ⟨m, hk | hk⟩ := howed.known
      · exact LoopCall.noConfusion hk
      · exact absurd hk Bool.false_ne_true
      · exact Call.noConfusion (LoopCall.wrapper.inj hk)
      · exact Call.noConfusion (LoopCall.wrapper.inj hk)

/-- An event that the main loop has waited for is gone. -/
theorem event_of_runs (h : Reachable pl cfg x) (hs : (system pl).Runs .control x x')
    (hev : Waiting x ∨ x.world.2.event = false) : x'.world.2.event = false := by
  refine Bool.eq_false_of_not_eq_true fun htrue ↦ ?_
  -- then the event was there before, and the control thread was not at its wait
  have hbefore : x.world.2.event = true ∧ ¬ Waiting x := by
    cases hs with
    | «return» ht =>
      refine ⟨htrue, fun ⟨j, k, hw⟩ ↦ ?_⟩
      cases (Threads.Task.mk.inj (Option.some.inj (ht.symm.trans hw))).2
    | next ht hn =>
      cases hn with
      | read =>
        refine ⟨htrue, fun ⟨j, k, hw⟩ ↦ ?_⟩
        cases (Threads.Task.mk.inj (Option.some.inj (ht.symm.trans hw))).2
      | write =>
        refine ⟨htrue, fun ⟨j, k, hw⟩ ↦ ?_⟩
        cases (Threads.Task.mk.inj (Option.some.inj (ht.symm.trans hw))).2
      | call hb =>
        obtain ⟨hold, hne⟩ := event_of_call (h.holds.owes ht) hb htrue
        refine ⟨hold, fun ⟨j, k, hw⟩ ↦ hne ?_⟩
        exact (Prog.call.inj (Threads.Task.mk.inj (Option.some.inj (ht.symm.trans hw))).2).1
  rcases hev with hw | hno
  · exact hbefore.2 hw
  · exact Bool.false_ne_true (hno.symm.trans hbefore.1)

theorem runs_control_own (hs : ReflTransGen ((system pl).Runs .control) x x') :
    ReflTransGen Own x x' :=
  ReflTransGen.mono (fun _ _ ↦ Own.control) _ _ hs

/-- The control thread lets go of its mutexes. -/
theorem control_lets_go (h : Reachable pl cfg x) :
    ∃ x', ReflTransGen Own x x' ∧ (Crashed x' ∨ ∀ m, x'.world.2.owner m ≠ some .control) := by
  have hrun : ∀ (y : Config pl) (task : (system pl).Task .control), Reachable pl cfg y →
      y.task .control = some task → (Crashed y ∨ ∀ m, y.world.2.owner m ≠ some .control) ∨
        ∃ y', (system pl).Runs .control y y' := by
    intro y task hy ht
    by_cases hfree : ∀ m, y.world.2.owner m ≠ some .control
    · exact Or.inl (Or.inr hfree)
    · -- it holds a mutex, so it is neither at its wait nor at a lock
      refine (control_runs hy ht (fun hw ↦ ?_) fun hno ↦ absurd hno hfree).imp_left Or.inl
      obtain ⟨evs, k, hw⟩ := hw
      exact absurd ((hy.holds.owes hw : LoopOwed _ y.world).wait rfl) hfree
  obtain ⟨x', hs, h', hend⟩ := Threads.exists_runs_until (I := Reachable pl cfg)
    (fun y z hy hr ↦ hy.own (.single (.control hr))) hrun h
  refine ⟨x', runs_control_own hs, ?_⟩
  rcases hend with hnone | hend
  · exact Or.inr (h'.holds.idle hnone : LoopIdle x'.world).free
  · exact hend

/-- While the control thread holds no mutex, the RPC thread gets to the end of its RPC. -/
theorem rpc_returns (h : Reachable pl cfg x) (hfree : ∀ m, x.world.2.owner m ≠ some .control) :
    ∃ x', ReflTransGen Own x x' ∧ x'.task .rpc = none := by
  have hkeep :
      ∀ y z : Config pl, (Reachable pl cfg y ∧ ∀ m, y.world.2.owner m ≠ some ThreadId.control) →
        (system pl).Runs .rpc y z → Reachable pl cfg z ∧
        ∀ m, z.world.2.owner m ≠ some ThreadId.control := by
    rintro y z ⟨hy, hno⟩ hr
    have hrely : Others .control y.world z.world := hy.holds.rely hr (by simp)
    exact ⟨hy.own (.single (.rpc hr)), fun m ho ↦ hno m ((hrely.owner m).1 ho)⟩
  obtain ⟨x', hs, -, hend⟩ := Threads.exists_runs_until (P := fun _ ↦ False) hkeep
    (fun y task hy ht ↦ Or.inr (rpc_runs hy.1 hy.2 ht)) ⟨h, hfree⟩
  exact ⟨x', ReflTransGen.mono (fun _ _ ↦ Own.rpc) _ _ hs, hend.elim id False.elim⟩

/-- Between two RPCs the control thread runs until its iteration is over, or it waits for an event
that is not there. -/
theorem control_settles (h : Reachable pl cfg x) (hrpc : x.task .rpc = none) :
    ∃ x', ReflTransGen Own x x' ∧ Reachable pl cfg x' ∧ x'.task .rpc = none ∧
      (Waiting x ∨ x.world.2.event = false → Waiting x' ∨ x'.world.2.event = false) ∧
      (x'.task .control = none ∨ Crashed x' ∨ Waiting x' ∧ x'.world.2.event = false) := by
  have hrun : ∀ (y : Config pl) (task : (system pl).Task .control),
      (Reachable pl cfg y ∧ y.task .rpc = none ∧
        (Waiting x ∨ x.world.2.event = false → Waiting y ∨ y.world.2.event = false)) →
      y.task .control = some task →
      (Crashed y ∨ Waiting y ∧ y.world.2.event = false) ∨ ∃ y', (system pl).Runs .control y y' := by
    rintro y task ⟨hy, hrpc, -⟩ ht
    by_cases hsleep : Waiting y ∧ y.world.2.event = false
    · exact Or.inl (Or.inr hsleep)
    · refine (control_runs hy ht (fun hw ↦ ?_) fun _ ↦ ?_).imp_left Or.inl
      · exact Bool.eq_true_of_not_eq_false fun hno ↦ hsleep ⟨hw, hno⟩
      · exact (hy.holds.idle hrpc : RpcIdle pl cfg y.world).free
  obtain ⟨x', hs, ⟨h', hrpc', hev⟩, hend⟩ := Threads.exists_runs_until
    (fun y z hy hr ↦
      ⟨hy.1.own (.single (.control hr)), (hr.task_of_ne (u := .rpc) (by simp)).trans hy.2.1,
      fun hx ↦ Or.inr (event_of_runs hy.1 hr (hy.2.2 hx))⟩) hrun ⟨h, hrpc, id⟩
  exact ⟨x', runs_control_own hs, h', hrpc', hev, hend⟩

/-- **No work is forgotten**: between two RPCs, while the main loop sleeps, there is an event for it
if picoTCP has been left with something to do, and not only by `accept`. -/
theorem event_of_pressing (h : Reachable pl cfg x) (hrpc : x.task .rpc = none) (ha : Asleep x)
    (hp : Pressing x.world.2.log) : x.world.2.event = true :=
  ((h.holds.idle hrpc : RpcIdle pl cfg x.world).announced hp).resolve_right (not_awake h ha)

/-- Client 101 has then bound its socket, which leaves picoTCP with something to do. -/
def sampleBound : Config samplePlatform :=
  served samplePlatform 101 (.bind 0 (some ⟨.replicate 16 0, 0⟩)) (obliging none none) sampleOpened

theorem event_of_pressing_bind :
    Pressing sampleBound.world.2.log ∧ sampleBound.world.2.event = true := by
  have hreach : Reachable samplePlatform (sampleConfig 2) sampleBound :=
    reachable_served reachable_sampleOpened rfl ⟨0, rfl⟩
  have hno : ∀ {c r e b}, Entry.answer c r e b ≠ .ticked := fun h ↦ Entry.noConfusion h
  -- the reply, the wake-up, the unlock and the read of `pico_err` are newer than picoTCP's answer
  have hp : Pressing sampleBound.world.2.log :=
    Or.inr ⟨fun h ↦ Entry.noConfusion h, Or.inr ⟨hno, Or.inr ⟨hno, Or.inr ⟨hno, Or.inl rfl⟩⟩⟩⟩
  exact ⟨hp, event_of_pressing hreach rfl (Or.inl rfl) hp⟩

/-- The only slot of the table holds a socket, on which client 101 accepts the connection 9. -/
def sampleCrowded : Config samplePlatform :=
  served samplePlatform 101 (.accept 0 (some 0) (some ⟨.replicate 16 0, 0⟩))
    (obliging none (some 9))
    (served samplePlatform 101 sampleCreate (obliging (some 7) none)
      (Threads.Config.idle _ ((sampleConfig 0).init, Shared.init)))

/-- `accept` has told picoTCP to close the connection, and the main loop sleeps on. -/
theorem asleep_sampleCrowded :
    Reachable samplePlatform (sampleConfig 0) sampleCrowded ∧ sampleCrowded.task .rpc = none ∧
      Asleep sampleCrowded ∧
      Unserved sampleCrowded.world.2.log ∧ sampleCrowded.world.2.event = false := by
  have hopened : Reachable samplePlatform (sampleConfig 0)
      (served samplePlatform 101 sampleCreate (obliging (some 7) none)
        (Threads.Config.idle _ ((sampleConfig 0).init, Shared.init))) := reachable_served .refl rfl
          ⟨0, rfl⟩
  have hno : ∀ {c r e b}, Entry.answer c r e b ≠ .ticked := fun h ↦ Entry.noConfusion h
  -- the reply and the unlock are newer than picoTCP's answer
  exact ⟨reachable_served hopened rfl ⟨0, rfl⟩, rfl, Or.inl rfl,
    Or.inr ⟨fun h ↦ Entry.noConfusion h, Or.inr ⟨hno, Or.inl rfl⟩⟩, rfl⟩

/-- The loop of the control thread goes round. -/
theorem own_again (h : x.task .control = none) :
    ∃ x', Own x x' ∧ Waiting x' ∧ x'.task .rpc = x.task .rpc ∧ x'.world = x.world :=
  ⟨_, .again h, ⟨[], _, Threads.Config.set_task_self.trans rfl⟩,
    Threads.Config.set_task_of_ne (by simp), rfl⟩

/-- **The component comes to rest.** From every configuration that it reaches, the RPC thread and
the control thread get by themselves to one in which the RPC is answered, the main loop waits, and
picoTCP has nothing left to do but what was not to be announced; or else a callback follows a `NULL`
pointer. -/
theorem can_come_to_rest (h : Reachable pl cfg x) :
    ∃ x', ReflTransGen Own x x' ∧ (Crashed x' ∨ Rest x') := by
  have hrest : ∀ {y}, Reachable pl cfg y → y.task .rpc = none → Waiting y →
      y.world.2.event = false → Rest y := by
    intro y hy hrpc hw hev
    refine ⟨hrpc, hw, hev, fun hp ↦ ?_⟩
    have hevent := ((hy.holds.idle hrpc : RpcIdle pl cfg y.world).announced hp).resolve_right
      (not_awake hy (Or.inr hw))
    exact Bool.false_ne_true (hev.symm.trans hevent)
  obtain ⟨x₁, hs₁, hcrash | hfree⟩ := control_lets_go h
  · exact ⟨x₁, hs₁, Or.inl hcrash⟩
  obtain ⟨x₂, hs₂, hrpc₂⟩ := rpc_returns (h.own hs₁) hfree
  have hs₂ := hs₁.trans hs₂
  obtain ⟨x₃, hs₃, h₃, hrpc₃, -, hend₃⟩ := control_settles (h.own hs₂) hrpc₂
  have hs₃ := hs₂.trans hs₃
  obtain hnone | hcrash | ⟨hw, hev⟩ := hend₃
  · -- one more round uses up the event, and the next one finds none
    obtain ⟨x₄, hown₄, hw₄, hrpc₄, -⟩ := own_again hnone
    have hs₄ := hs₃.tail hown₄
    obtain ⟨x₅, hs₅, h₅, hrpc₅, hev₅, hend₅⟩ := control_settles (h.own hs₄) (hrpc₄.trans hrpc₃)
    have hs₅ := hs₄.trans hs₅
    obtain hnone | hcrash | ⟨hw, hev⟩ := hend₅
    · have hev : x₅.world.2.event = false := by
        refine (hev₅ (Or.inl hw₄)).resolve_left fun ⟨evs, k, hw⟩ ↦ ?_
        exact Option.some_ne_none _ (hw.symm.trans hnone)
      obtain ⟨x₆, hown₆, hw₆, hrpc₆, hworld₆⟩ := own_again hnone
      have hs₆ := hs₅.tail hown₆
      exact ⟨x₆, hs₆, Or.inr (hrest (h.own hs₆) (hrpc₆.trans hrpc₅) hw₆ (hworld₆ ▸ hev))⟩
    · exact ⟨x₅, hs₅, Or.inl hcrash⟩
    · exact ⟨x₅, hs₅, Or.inr (hrest h₅ hrpc₅ hw hev)⟩
  · exact ⟨x₃, hs₃, Or.inl hcrash⟩
  · exact ⟨x₃, hs₃, Or.inr (hrest h₃ hrpc₃ hw hev)⟩

/-- The RPC of client 101 has been taken up, and nothing else has happened. -/
def sampleTaken : Config samplePlatform :=
  sampleIdle.set ((sampleConfig 2).init, Shared.init.record (.begin 101 sampleCreate)) .rpc
    (some ⟨(101, sampleCreate), rpc samplePlatform 101 sampleCreate⟩)

theorem reachable_sampleTaken : Reachable samplePlatform (sampleConfig 2) sampleTaken := by
  have hmay : (system samplePlatform).mayStart .rpc (101, sampleCreate) sampleIdle.world := ⟨0, rfl⟩
  exact .single (.start (x := sampleIdle) rfl hmay)

theorem can_come_to_rest_create : ∃ x', ReflTransGen Own sampleTaken x' ∧ (Crashed x' ∨ Rest x') :=
  can_come_to_rest reachable_sampleTaken

/-! ### One at a time in picoTCP -/

/-- The next statement of the thread uses picoTCP or reads its `pico_err`. -/
def InStack (x : Config pl) : ThreadId → Prop
  | .rpc => ∃ j e k, x.task .rpc = some ⟨j, .call e k⟩ ∧ ((∃ pc, e = .pico pc) ∨ e = .picoErr)
  | .control => ∃ evs e k, x.task .control = some ⟨evs, .call e k⟩ ∧ e.inside = true
  | .ticker => False

theorem owner_of_inStack (h : Reachable pl cfg x) {t : ThreadId} (ht : InStack x t) :
    x.world.2.owner .stackTS = some t := by
  cases t with
  | rpc =>
    obtain ⟨j, e, k, htask, he⟩ := ht
    exact (h.holds.owes htask : Owed e x.world).pico he
  | control =>
    obtain ⟨evs, e, k, htask, he⟩ := ht
    exact (h.holds.owes htask : LoopOwed e x.world).inside he
  | ticker => exact ht.elim

/-- Only one thread at a time uses picoTCP, which is not thread-safe. -/
theorem stack_exclusive (h : Reachable pl cfg x) {t u : ThreadId} (ht : InStack x t)
    (hu : InStack x u) : t = u :=
  Option.some.inj ((owner_of_inStack h ht).symm.trans (owner_of_inStack h hu))

/-- **The RPC thread is safe among the others**, in whatever order the statements of the threads
run: it never follows a `NULL` pointer or loops for ever, takes a mutex only above those that it
holds, releases only what it holds, and uses picoTCP only while no other thread does. -/
theorem rpc_safe (h : Reachable pl cfg x) {j : ℤ × RpcCall} {e : Call} {k : e.Answer → Rpc Reply}
    (ht : x.task .rpc = some ⟨j, .call e k⟩) :
    Owed e x.world ∧ ((∃ pc, e = .pico pc) ∨ e = .picoErr → ∀ t, InStack x t → t = .rpc) :=
  ⟨h.holds.owes ht, fun he _ hu ↦ stack_exclusive h hu ⟨j, e, k, ht, he⟩⟩

/-- The RPC comes to open its picoTCP socket. -/
theorem rpc_safe_create :
    ∃ (x : Config samplePlatform) (j : ℤ × RpcCall) (e : Call) (k : e.Answer → Rpc Reply),
      x.task .rpc = some ⟨j, .call e k⟩ ∧ Owed e x.world ∧
        ((∃ pc, e = .pico pc) ∨ e = .picoErr → ∀ t, InStack x t → t = .rpc) := by
  have hat : ∃ w, Prog.CallAt (rpcEnv 101 sampleCreate) (rpc samplePlatform 101 sampleCreate)
      sampleTaken.world
        (.pico (.socketOpen .ipv4 .tcp)) w :=
    ⟨_, Or.inr ⟨(), _, ⟨_, ⟨rfl, rfl⟩, rfl⟩, Or.inl ⟨rfl, rfl⟩⟩⟩
  obtain ⟨w, hat⟩ := hat
  obtain ⟨k, hruns⟩ := Threads.runs_of_callAt (S := system samplePlatform) (t := ThreadId.rpc)
    (j := (101, sampleCreate)) (x := sampleTaken) Threads.Config.set_task_self hat
  have hreach := reachable_sampleTaken.trans (ReflTransGen.mono (fun _ _ ↦ .run) _ _ hruns)
  have htask :
      (sampleTaken.set w .rpc
        (some ⟨(101, sampleCreate), .call (.pico (.socketOpen .ipv4 .tcp)) k⟩)).task
        .rpc = some ⟨(101, sampleCreate), .call (.pico (.socketOpen .ipv4 .tcp)) k⟩ :=
    Threads.Config.set_task_self
  exact ⟨_, _, _, k, htask, rpc_safe hreach htask⟩

end Component

end NetworkStackPicoTcp
