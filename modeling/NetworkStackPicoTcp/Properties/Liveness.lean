import NetworkStackPicoTcp.Interaction.Fair
import NetworkStackPicoTcp.Invariants.Steps
import NetworkStackPicoTcp.Properties.Progress
import NetworkStackPicoTcp.Properties.Signals

/-!
# What happens in the end

Infinite runs of the three threads under a fair scheduler. A mutex that is free again and again is
not refused to a thread for ever, a thread that can run does, and the loops of the control thread
and of the ticker go round (`Component.Fair`). Then

* every RPC is answered (`Component.rpc_answered`);
* once the main loop is to be woken, or picoTCP has been left with something to do that is to be
  announced, a tick of picoTCP follows (`Component.tick_follows`);
* while the timer fires, the ticker wakes the main loop and picoTCP ticks again and again
  (`Component.ticks_forever`), and a client that leaves something pending is signalled again and
  again (`Component.signalled_forever`).

The one exception is the same everywhere: that a callback follows a `NULL` pointer, after which the
control thread does nothing any more.
-/

namespace NetworkStackPicoTcp

namespace Component

open Relation (ReflTransGen)

variable {pl : Platform} {cfg : NetworkStackPicoTcp.Config} {x y : Config pl} {w w' : World}

/-! ### Fair runs of the component -/

/-- Between two RPCs, a main loop that waits while there is a reason to tick is to be woken. -/
theorem event_of_due (h : Reachable pl cfg x) (hrpc : x.task .rpc = none) (hwait : Waiting x)
    (hdue : Due x.world) :
    x.world.2.event = true := by
  rcases hdue with hev | hawake | hp
  · exact hev
  · exact absurd hawake (not_awake h (Or.inr hwait))
  · have hidle : RpcIdle pl cfg x.world := h.holds.idle hrpc
    exact (hidle.announced hp).resolve_right (not_awake h (Or.inr hwait))

/-- An infinite run of the component. -/
abbrev Run (pl : Platform) (cfg : NetworkStackPicoTcp.Config) :=
  (system pl).Run (cfg.init, Shared.init)

/-- What is asked of the scheduler. -/
structure Fair (ρ : Run pl cfg) : Prop where
  rpc : ρ.StronglyFair .rpc
  control : ρ.StronglyFair .control
  ticker : ρ.WeaklyFair .ticker
  /-- The main loop goes round. -/
  again : ∀ n, ∃ m, n ≤ m ∧ (ρ.config m).task .control ≠ none
  /-- The loop of the ticker goes round, once the timer is set up. -/
  round : ∀ n, (ρ.config n).world.2.armed = some 0 → ∃ m, n ≤ m ∧ (ρ.config m).task .ticker ≠ none

variable {ρ : Run pl cfg} {n : ℕ}

/-! ### Fair runs exist -/

/-- The timer stays set up. -/
theorem armed_stays {a : ℤ} (ha : (ρ.config n).world.2.armed = some a) {m : ℕ} (hm : n ≤ m) :
    (ρ.config m).world.2.armed = some a :=
  ρ.stable (P := fun x ↦ x.world.2.armed = some a) (fun m _ hs ↦ armed_of_step (ρ.reachable m) hs)
    ha hm

/-- A step that is not the beginning of an RPC. -/
inductive Unasked : Config pl → Config pl → Prop
  | rpc {x y : Config pl} (h : (system pl).Runs .rpc x y) : Unasked x y
  | other {x y : Config pl} (h : (system pl).StepBut .rpc x y) : Unasked x y

theorem Unasked.step (h : Unasked x y) : (system pl).Step x y := by
  cases h with
  | rpc h => exact .run h
  | other h => exact h.step

/-- What is given turns: the threads, the two loops, and the timer. -/
def kinds (pl : Platform) : ℕ → Config pl → Config pl → Prop
  | 0 => (system pl).Runs .rpc
  | 1 => (system pl).Runs .control
  | 2 => (system pl).Runs .ticker
  | 3 => fun x y ↦ x.task .control = none ∧ y = x.set x.world .control (some ⟨[], iteration []⟩)
  | 4 => fun x y ↦ (x.task .ticker = none ∧ x.world.2.armed = some 0) ∧
      y = x.set x.world .ticker (some ⟨.round, tickerRun .round⟩)
  | _ => fun x y ↦ y = ⟨(x.world.1, { x.world.2 with timer := true }), x.task⟩

theorem unasked_of_kinds (i : ℕ) (x y : Config pl) (h : kinds pl i x y) : Unasked x y := by
  unfold kinds at h
  split at h
  · exact .rpc h
  · exact .other (.run (by simp) h)
  · exact .other (.run (by simp) h)
  · obtain ⟨hidle, rfl⟩ := h
    refine .other (.start (S := system pl) (u := ThreadId.control) (j := []) (by simp) hidle ?_)
    exact fun _ hev ↦ absurd hev List.not_mem_nil
  · obtain ⟨⟨hidle, harmed⟩, rfl⟩ := h
    exact .other
      (.start (S := system pl) (u := ThreadId.ticker) (j := TickerJob.round) (by simp) hidle harmed)
  · obtain rfl := h
    exact .other (.outside (Or.inl rfl))

/-- **Every configuration lies on a fair run**, in which the timer fires again and again and no new
RPC comes. -/
theorem exists_fair_run (h : Reachable pl cfg x) :
    ∃ (ρ : Run pl cfg) (n : ℕ), Fair ρ ∧ ρ.config n = x ∧
      (∀ l, ∃ m, l ≤ m ∧ (ρ.config m).world.2.timer = true) ∧
      ∀ m, n ≤ m → ρ.config (m + 1) = ρ.config m ∨ Unasked (ρ.config m) (ρ.config (m + 1)) := by
  obtain ⟨f, h₀, hgoes, hfair⟩ := FairSchedule.exists_fair (kinds pl) unasked_of_kinds x
  have hsteps : FairSchedule.Goes (system pl).Step f := fun m ↦ (hgoes m).imp_right Unasked.step
  obtain ⟨ρ, n, hn⟩ := Threads.Reachable.exists_run h h₀ hsteps
  -- turns come in the run as they come in the sequence
  have hturn : ∀ i l, (∀ l', l ≤ l' → ∃ m, l' ≤ m ∧ ∃ y, kinds pl i (ρ.config m) y) →
      ∃ m, l ≤ m ∧ kinds pl i (ρ.config m) (ρ.config (m + 1)) := by
    intro i l hen
    obtain ⟨m, hm, hact⟩ := hfair i l fun l' hl' ↦ by
      obtain ⟨m, hm, y, hy⟩ := hen (n + l') (by omega)
      obtain ⟨d, rfl⟩ := Nat.exists_eq_add_of_le hm
      rw [Nat.add_assoc, hn] at hy
      exact ⟨l' + d, Nat.le_add_right _ _, y, hy⟩
    refine ⟨n + m, by omega, ?_⟩
    rw [Nat.add_assoc, hn, hn]
    exact hact
  refine ⟨ρ, n, ⟨?_, ?_, ?_, ?_, ?_⟩, (hn 0).trans h₀, fun l ↦ ?_, fun m hm ↦ ?_⟩
  · exact hturn 0
  · exact hturn 1
  · exact fun l hen ↦ hturn 2 l fun l' hl' ↦ ⟨l', le_rfl, hen l' hl'⟩
  · intro l
    by_contra! hidle
    obtain ⟨m, hm, -, hstart⟩ := hturn 3 l fun l' hl' ↦ ⟨l', le_rfl, _, hidle l' hl', rfl⟩
    have hsome := hidle (m + 1) (by omega)
    rw [hstart, Threads.Config.set_task_self] at hsome
    exact Option.some_ne_none _ hsome
  · intro l harmed
    by_contra! hidle
    obtain ⟨m, hm, -, hstart⟩ :=
      hturn 4 l fun l' hl' ↦ ⟨l', le_rfl, _, ⟨hidle l' hl', armed_stays harmed hl'⟩, rfl⟩
    have hsome := hidle (m + 1) (by omega)
    rw [hstart, Threads.Config.set_task_self] at hsome
    exact Option.some_ne_none _ hsome
  · obtain ⟨m, hm, hfired⟩ := hturn 5 l fun l' _ ↦ ⟨l', le_rfl, _, rfl⟩
    refine ⟨m + 1, by omega, ?_⟩
    rw [hfired]
  · obtain ⟨d, rfl⟩ := Nat.exists_eq_add_of_le hm
    rw [Nat.add_assoc, hn, hn]
    exact hgoes d

/-! ### The RPC thread -/

/-- An RPC that is never answered is let run again and again, since the control thread lets go of
its mutexes. -/
theorem rpc_moves (hrpc : ρ.StronglyFair .rpc) (hcontrol : ρ.WeaklyFair .control)
    (hno : ∀ m, n ≤ m → ¬ Crashed (ρ.config m))
    (hbusy : ∀ m, n ≤ m → (ρ.config m).task .rpc ≠ none) :
    ∃ m, n ≤ m ∧ ρ.Moves .rpc m := by
  refine hrpc n fun l hl ↦ ?_
  by_contra hblocked
  -- from `l` on the control thread owns a mutex
  have howns : ∀ m, l ≤ m → ∃ mutex, (ρ.config m).world.2.owner mutex = some .control := by
    intro m hm
    by_contra hfree
    obtain ⟨task, ht⟩ := Option.ne_none_iff_exists'.1 (hbusy m (hl.trans hm))
    exact hblocked ⟨m, hm, rpc_runs (ρ.reachable m) (not_exists.1 hfree) ht⟩
  -- so it is neither idle nor waiting, and can run
  have hmoves : ∀ k, l ≤ k → ∃ m, k ≤ m ∧ ρ.Moves .control m := by
    refine fun k hk ↦ hcontrol k fun m hm ↦ ?_
    have hreach : Reachable pl cfg (ρ.config m) := ρ.reachable m
    obtain ⟨mutex, hmutex⟩ := howns m (hk.trans hm)
    cases ht : (ρ.config m).task .control with
    | none => exact absurd hmutex ((hreach.holds.idle ht : LoopIdle (ρ.config m).world).free mutex)
    | some task =>
      refine (control_runs hreach ht (fun ⟨evs, k, hw⟩ ↦ ?_) fun hfree ↦
        absurd hmutex (hfree mutex)).resolve_left
        (hno m (hl.trans (hk.trans hm)))
      exact absurd hmutex ((hreach.holds.owes hw : LoopOwed _ (ρ.config m).world).wait rfl mutex)
  obtain ⟨m, hm, hidle⟩ := Threads.Run.exists_idle hmoves
  obtain ⟨mutex, hmutex⟩ := howns m hm
  have hreach : Reachable pl cfg (ρ.config m) := ρ.reachable m
  exact (hreach.holds.idle hidle : LoopIdle (ρ.config m).world).free mutex hmutex

/-- An RPC returns, unless a callback crashes. -/
theorem rpc_returns_in_run (hrpc : ρ.StronglyFair .rpc) (hcontrol : ρ.WeaklyFair .control)
    (hno : ∀ m, n ≤ m → ¬ Crashed (ρ.config m)) {task : (system pl).Task .rpc}
    (ht : (ρ.config n).task .rpc = some task) : ∃ m a, n ≤ m ∧ ρ.Returns .rpc task.job a m := by
  by_contra hnever
  have hbusy : ∀ m, n ≤ m → (ρ.config m).task .rpc ≠ none := by
    intro m hm hnone
    obtain ⟨p, hp⟩ :=
      Threads.Run.task_of_not_returns ht (fun l a hl hret ↦ hnever ⟨l, a, hl, hret⟩) hm
    exact Option.some_ne_none _ (hp.symm.trans hnone)
  refine hnever (Threads.Run.exists_returns (fun l hl ↦ ?_) ht)
  exact rpc_moves hrpc hcontrol (fun m hm ↦ hno m (hl.trans hm)) fun m hm ↦ hbusy m (hl.trans hm)

/-- There is no RPC under way again and again. -/
theorem rpc_idle_in_run (hrpc : ρ.StronglyFair .rpc) (hcontrol : ρ.WeaklyFair .control)
    (hno : ∀ m, n ≤ m → ¬ Crashed (ρ.config m)) : ∃ m, n ≤ m ∧ (ρ.config m).task .rpc = none := by
  cases ht : (ρ.config n).task .rpc with
  | none => exact ⟨n, le_rfl, ht⟩
  | some task =>
    obtain ⟨m, a, hm, hret⟩ := rpc_returns_in_run hrpc hcontrol hno ht
    exact ⟨m + 1, hm.trans (Nat.le_succ m), by rw [hret.2, Threads.Config.set_task_self]⟩

/-- **Every RPC is answered**, if the RPC thread is not refused a mutex for ever and the control
thread goes on while it can. -/
theorem rpc_answered (hrpc : ρ.StronglyFair .rpc) (hcontrol : ρ.WeaklyFair .control) {c : ℤ}
    {r : RpcCall} {p : Rpc Reply} (ht : (ρ.config n).task .rpc = some ⟨(c, r), p⟩) :
    (∃ m, n ≤ m ∧ Crashed (ρ.config m)) ∨
      ∃ m a, n ≤ m ∧ (ρ.config m).task .rpc = some ⟨(c, r), .ret a⟩ ∧
        (ρ.config (m + 1)).world.2.log = .reply c r a :: (ρ.config m).world.2.log := by
  by_cases hcrash : ∃ m, n ≤ m ∧ Crashed (ρ.config m)
  · exact Or.inl hcrash
  · obtain ⟨m, a, hm, hret, hnext⟩ := rpc_returns_in_run hrpc hcontrol
      (fun m hm hc ↦ hcrash ⟨m, hm, hc⟩) ht
    exact Or.inr ⟨m, a, hm, hret, by rw [hnext]; rfl⟩

theorem rpc_answered_create :
    ∃ (ρ : Run samplePlatform (sampleConfig 2)) (n : ℕ), ρ.config n = sampleTaken ∧
    ((∃ m, n ≤ m ∧ Crashed (ρ.config m)) ∨
      ∃ m a, n ≤ m ∧ (ρ.config m).task .rpc = some ⟨(101, sampleCreate), .ret a⟩ ∧
        (ρ.config (m + 1)).world.2.log =
          .reply 101 sampleCreate a :: (ρ.config m).world.2.log) := by
  obtain ⟨ρ, n, hfair, hn, -⟩ := exists_fair_run reachable_sampleTaken
  have ht : (ρ.config n).task .rpc =
      some ⟨(101, sampleCreate), rpc samplePlatform 101 sampleCreate⟩ := by
    rw [hn]
    rfl
  exact ⟨ρ, n, hn, rpc_answered hfair.rpc hfair.control.weaklyFair ht⟩

/-! ### The control thread -/

/-- While there is a reason to tick, the control thread is let run. -/
theorem control_moves (hfair : Fair ρ) (hno : ∀ m, n ≤ m → ¬ Crashed (ρ.config m))
    (hdue : Due (ρ.config n).world) :
    ∃ m, n ≤ m ∧ ρ.Moves .control m := by
  by_contra hnever
  have hnever : ∀ m, n ≤ m → ¬ ρ.Moves .control m := fun m hm hmove ↦ hnever ⟨m, hm, hmove⟩
  -- without a tick, the reason stays
  have hdue : ∀ m, n ≤ m → Due (ρ.config m).world := fun m hm ↦
    ρ.stable (P := fun x ↦ Due x.world)
      (fun m hm hs hd ↦
        (due_of_step hs hd).resolve_right fun htick ↦
          hnever m hm ((effect_of_step hs).ticked htick))
      hdue hm
  obtain ⟨k, hk, hsome⟩ := hfair.again n
  obtain ⟨task, ht⟩ := Option.ne_none_iff_exists'.1 hsome
  obtain ⟨m, hm, hmove⟩ := hfair.control k fun l hl ↦ by
    -- the control thread can run when no RPC is under way
    obtain ⟨m, hm, hidle⟩ := rpc_idle_in_run hfair.rpc hfair.control.weaklyFair
      fun m hm ↦ hno m (hk.trans (hl.trans hm))
    have hreach : Reachable pl cfg (ρ.config m) := ρ.reachable m
    have htm := Threads.Run.task_of_not_moves ht (fun i hi ↦ hnever i (hk.trans hi)) (hl.trans hm)
    refine ⟨m, hm, (control_runs hreach htm (fun hwait ↦ ?_) fun _ ↦ ?_).resolve_left
      (hno m (hk.trans (hl.trans hm)))⟩
    · exact event_of_due hreach hidle hwait (hdue m (hk.trans (hl.trans hm)))
    · exact (hreach.holds.idle hidle : RpcIdle pl cfg (ρ.config m).world).free
  exact hnever m (hk.trans hm) hmove

/-- An iteration begins with the wait, from which the main loop awakes. -/
theorem awake_of_moves {m : ℕ} {evs : List PicoEvent}
    (ht : (ρ.config m).task .control = some ⟨evs, iteration evs⟩)
    (hmove : ρ.Moves .control m) : Awake (ρ.config (m + 1)).world.2.log := by
  obtain ⟨_, _, ⟨-, rfl⟩, hy⟩ := hmove.of_call ht
  rw [hy]
  exact Or.inl rfl

/-- A tick of picoTCP begins at time `n`. -/
def TicksAt (ρ : Run pl cfg) (n : ℕ) : Prop :=
  (ρ.config (n + 1)).world.2.log = .ticked :: (ρ.config n).world.2.log

/-- A reason to tick does not stay for ever, unless a callback crashes. -/
theorem exists_tick (hfair : Fair ρ) (hno : ∀ m, n ≤ m → ¬ Crashed (ρ.config m))
    (hdue : Due (ρ.config n).world) :
    ∃ m, n ≤ m ∧ TicksAt ρ m := by
  by_contra! hnever
  -- the reason stays, so the control thread runs again and again
  have hmoves : ∀ l, n ≤ l → ∃ m, l ≤ m ∧ ρ.Moves .control m := fun l hl ↦
    control_moves hfair (fun m hm ↦ hno m (hl.trans hm)) (ρ.stable (P := fun x ↦ Due x.world)
      (fun m hm hs hd ↦ (due_of_step hs hd).resolve_right (hnever m hm)) hdue hl)
  -- it gets to its wait, and awakes
  obtain ⟨k, hk, hidle⟩ := Threads.Run.exists_idle hmoves
  obtain ⟨l, hl, evs, -, ht⟩ := Threads.Run.exists_start hidle (hfair.again k)
  obtain ⟨m, hm, hmove, htm, -⟩ := Threads.Run.exists_moves (P := fun _ ↦ True) ht
    (fun _ _ ↦ trivial)
    (hmoves (l + 1) (by omega))
  have hawake := awake_of_moves htm hmove
  -- without a tick it is then never idle again
  obtain ⟨i, hi, hidle⟩ := Threads.Run.exists_idle fun i (hi : m + 1 ≤ i) ↦ hmoves i (by omega)
  have hawake : Awake (ρ.config i).world.2.log := ρ.stable (P := fun x ↦ Awake x.world.2.log)
    (fun j hj hs ha ↦ (awake_of_step hs ha).resolve_right (hnever j (by omega))) hawake hi
  exact not_awake (ρ.reachable i) (Or.inl hidle) hawake

/-- **A tick follows a reason to tick.** -/
theorem tick_follows (hfair : Fair ρ) (hdue : Due (ρ.config n).world) :
    (∃ m, n ≤ m ∧ Crashed (ρ.config m)) ∨ ∃ m, n ≤ m ∧ TicksAt ρ m := by
  by_cases hcrash : ∃ m, n ≤ m ∧ Crashed (ρ.config m)
  · exact Or.inl hcrash
  · exact Or.inr (exists_tick hfair (fun m hm hc ↦ hcrash ⟨m, hm, hc⟩) hdue)

/-- The RPC that binds the socket of client 101 has woken the main loop. -/
theorem tick_follows_bind :
    ∃ (ρ : Run samplePlatform (sampleConfig 2)) (n : ℕ), ρ.config n = sampleBound ∧
    ((∃ m, n ≤ m ∧ Crashed (ρ.config m)) ∨ ∃ m, n ≤ m ∧ TicksAt ρ m) := by
  have hreach : Reachable samplePlatform (sampleConfig 2) sampleBound :=
    reachable_served reachable_sampleOpened rfl ⟨0, rfl⟩
  obtain ⟨ρ, n, hfair, hn, -⟩ := exists_fair_run hreach
  have hdue : Due (ρ.config n).world := by
    rw [hn]
    exact Or.inl rfl
  exact ⟨ρ, n, hn, tick_follows hfair hdue⟩

/-! ### The ticker -/

/-- While the timer fires, the ticker is let run. -/
theorem ticker_moves (hfair : ρ.WeaklyFair .ticker)
    (hround : ∃ m, n ≤ m ∧ (ρ.config m).task .ticker ≠ none)
    (hfires : ∀ l, ∃ m, l ≤ m ∧ (ρ.config m).world.2.timer = true) :
    ∃ m, n ≤ m ∧ ρ.Moves .ticker m := by
  by_contra! hnever
  obtain ⟨k, hk, hsome⟩ := hround
  obtain ⟨task, ht⟩ := Option.ne_none_iff_exists'.1 hsome
  obtain ⟨l, hl, htimer⟩ := hfires k
  -- the timer has fired for good, so nothing blocks the ticker
  obtain ⟨m, hm, hmove⟩ := hfair l fun m hm ↦ by
    have htm := Threads.Run.task_of_not_moves ht (fun i hi ↦ hnever i (hk.trans hi)) (hl.trans hm)
    have htimer : (ρ.config m).world.2.timer = true := ρ.stable
      (P := fun x ↦ x.world.2.timer = true)
      (fun i hi hs hon ↦
        ((effect_of_step hs).timer hon).resolve_right (hnever i (hk.trans (hl.trans hi)))) htimer hm
    refine Threads.exists_runs htm fun e _ _ ↦ ?_
    cases e with
    | periodic => exact ⟨(0 : ℤ), _, rfl⟩
    | notifyWait => exact ⟨(), _, htimer, rfl⟩
    | emit => exact ⟨(), _, rfl⟩
  exact hnever m (hk.trans (hl.trans hm)) hmove

/-- The ticker calls `event_tick_emit` at time `n`. -/
def EmitsAt (ρ : Run pl cfg) (n : ℕ) : Prop :=
  (∃ j k, (ρ.config n).task .ticker = some ⟨j, .call .emit k⟩) ∧ ρ.Moves .ticker n

/-- That wakes the main loop. -/
theorem EmitsAt.event (h : EmitsAt ρ n) : (ρ.config (n + 1)).world.2.event = true := by
  obtain ⟨⟨j, k, ht⟩, hmove⟩ := h
  obtain ⟨_, _, rfl, hy⟩ := hmove.of_call ht
  rw [hy]
  rfl

/-- While the timer fires, the ticker wakes the main loop. -/
theorem exists_emits (hfair : Fair ρ) (harmed : (ρ.config n).world.2.armed = some 0)
    (hfires : ∀ l, ∃ m, l ≤ m ∧ (ρ.config m).world.2.timer = true) : ∃ m, n ≤ m ∧ EmitsAt ρ m := by
  have hmoves : ∀ l, n ≤ l → ∃ m, l ≤ m ∧ ρ.Moves .ticker m := fun l hl ↦
    ticker_moves hfair.ticker (hfair.round l (armed_stays harmed hl)) hfires
  -- a new round of its loop
  obtain ⟨k, hk, hidle⟩ := Threads.Run.exists_idle hmoves
  obtain ⟨l, hl, j, hj, ht⟩ :=
    Threads.Run.exists_start hidle (hfair.round k (armed_stays harmed hk))
  cases j with
  | setUp =>
    exact absurd (hj.symm.trans (armed_stays harmed (hk.trans hl))) (Option.some_ne_none _).symm
  | round =>
    -- it comes to `event_tick_emit`
    obtain ⟨m, hm, ⟨_, htm⟩, -⟩ := Threads.Run.exists_goes (P := fun _ ↦ True)
      (p := tick .notifyWait)
      (k := fun _ ↦ tick .emit >>= fun _ ↦ pure (0 : ℤ)) (fun i hi ↦ hmoves i (by omega))
        (fun _ _ ↦ trivial) ht
    obtain ⟨i, hi, hmove, hti, -⟩ := Threads.Run.exists_moves (P := fun _ ↦ True) htm
      (fun _ _ ↦ trivial)
      (hmoves m (by omega))
    exact ⟨i, by omega, ⟨_, _, hti⟩, hmove⟩

/-- **While the timer fires, the ticker wakes the main loop and picoTCP ticks, again and again.** -/
theorem ticks_forever (hfair : Fair ρ) (harmed : (ρ.config n).world.2.armed = some 0)
    (hfires : ∀ l, ∃ m, l ≤ m ∧ (ρ.config m).world.2.timer = true) :
    (∀ l, ∃ m, l ≤ m ∧ EmitsAt ρ m ∧ (ρ.config (m + 1)).world.2.event = true) ∧
      ((∃ m, Crashed (ρ.config m)) ∨ ∀ l, ∃ m, l ≤ m ∧ TicksAt ρ m) := by
  have hemits : ∀ l, ∃ m, l ≤ m ∧ EmitsAt ρ m := by
    intro l
    obtain ⟨m, hm, hemit⟩ := exists_emits hfair (armed_stays harmed (le_max_left n l)) hfires
    exact ⟨m, (le_max_right n l).trans hm, hemit⟩
  refine ⟨fun l ↦ ?_, ?_⟩
  · obtain ⟨m, hm, hemit⟩ := hemits l
    exact ⟨m, hm, hemit, hemit.event⟩
  · by_contra! hnever
    obtain ⟨hno, l, hnever⟩ := hnever
    obtain ⟨k, hk, hemit⟩ := hemits l
    obtain ⟨m, hm, htick⟩ := exists_tick hfair (fun m _ ↦ hno m) (Or.inl hemit.event)
    exact hnever m (by omega) htick

/-- Data has been announced for the socket of client 101, and the timer is set up. -/
def sampleArmed : Config samplePlatform :=
  samplePass.set (samplePass.world.1, { samplePass.world.2 with armed := some 0 }) .ticker none

theorem reachable_sampleArmed : Reachable samplePlatform (sampleConfig 2) sampleArmed := by
  have hmay : (system samplePlatform).mayStart .ticker .setUp samplePass.world := rfl
  have hstart :=
    reachable_samplePass.tail (.start (t := ThreadId.ticker) (j := TickerJob.setUp) rfl hmay)
  have ho : Prog.Outcome tickerEnv (tickerRun .setUp) samplePass.world 0 sampleArmed.world :=
    ⟨(0 : ℤ), _, rfl, rfl, rfl⟩
  have hruns := Threads.runs_of_outcome (S := system samplePlatform) (t := ThreadId.ticker)
    (x := samplePass.set samplePass.world .ticker (some ⟨.setUp, tickerRun .setUp⟩))
    (j := TickerJob.setUp)
    Threads.Config.set_task_self ho
  rw [Threads.Config.set_set] at hruns
  exact hstart.trans (ReflTransGen.mono (fun _ _ ↦ .run) _ _ hruns)

theorem ticks_forever_sampleArmed :
    ∃ (ρ : Run samplePlatform (sampleConfig 2)) (n : ℕ), ρ.config n = sampleArmed ∧
    (∀ l, ∃ m, l ≤ m ∧ EmitsAt ρ m ∧ (ρ.config (m + 1)).world.2.event = true) ∧
      ((∃ m, Crashed (ρ.config m)) ∨ ∀ l, ∃ m, l ≤ m ∧ TicksAt ρ m) := by
  obtain ⟨ρ, n, hfair, hn, hfires, -⟩ := exists_fair_run reachable_sampleArmed
  have harmed : (ρ.config n).world.2.armed = some 0 := by
    rw [hn]
    rfl
  exact ⟨ρ, n, hn, ticks_forever hfair harmed hfires⟩

/-! ### The clients -/

/-- Signals are not forgotten. -/
theorem signals_mono {k m : ℕ} (hm : n ≤ m) :
    signals k (ρ.config n).world.2.log ≤ signals k (ρ.config m).world.2.log := by
  refine ρ.stable (P := fun x ↦ signals k (ρ.config n).world.2.log ≤ signals k x.world.2.log)
    (fun i _ hs hle ↦ hle.trans ?_) le_rfl hm
  rcases (effect_of_step hs).log with heq | ⟨e, he, -⟩
  · rw [heq]
  · rw [he, signals, signals, List.countP_cons]
    exact Nat.le_add_right _ _

/-- Without an RPC, events stay pending. -/
theorem pending_of_unasked {k i : ℕ} (hx : Reachable pl cfg x) (hidle : x.task .rpc = none)
    (hpending : x.world.1.hasPendingEvents i k = true) (hs : y = x ∨ Unasked x y) :
    y.task .rpc = none ∧ y.world.1.hasPendingEvents i k = true := by
  rcases hs with rfl | hs
  · exact ⟨hidle, hpending⟩
  · cases hs with
    | rpc hr => exact absurd hidle hr.task_ne_none
    | other hb => exact ⟨hb.task_eq.trans hidle, pending_of_stepBut hx hb hpending⟩

/-- An iteration signals a client that has something to be told all the time. -/
theorem signalled_again {k i l : ℕ} (hmoves : ∀ l, n ≤ l → ∃ m, l ≤ m ∧ ρ.Moves .control m)
    (hagain : ∀ l, ∃ m, l ≤ m ∧ (ρ.config m).task .control ≠ none)
    (hk : k < cfg.init.numberOfClients)
    (hin : (cfg.init.clients k).inUse = true) (hnotify : (cfg.init.clients k).eventNotify = true)
    (hi : i < cfg.init.numberOfSockets)
    (hdue : ∀ m, n ≤ m → ((ρ.config m).world.1.clients k).needsToBeNotified = true ∨
      (ρ.config m).world.1.hasPendingEvents i k = true) (hl : n ≤ l) :
    ∃ m, l ≤ m ∧ signals k (ρ.config l).world.2.log < signals k (ρ.config m).world.2.log := by
  -- an iteration, its notification pass, and the end of it
  obtain ⟨a, ha, hidle⟩ := Threads.Run.exists_idle fun b hb ↦ hmoves b (hl.trans hb)
  obtain ⟨b, hb, evs, -, ht⟩ := Threads.Run.exists_start hidle (hagain a)
  have hcode : (system pl).code .control evs = tickUnderLock evs >>= fun _ ↦ notifyAndUnlock :=
    iteration_eq
  rw [hcode] at ht
  obtain ⟨d, hd, ⟨_, htd⟩, -⟩ := Threads.Run.exists_goes (P := fun _ ↦ True)
    (fun b hb ↦ hmoves b (by omega))
    (fun _ _ ↦ trivial) ht
  have hend : (ρ.config d).task .control = some ⟨evs, notifyAndUnlock >>= Prog.ret⟩ :=
    htd.trans (congrArg _ (congrArg _ (Prog.bind_ret _).symm))
  obtain ⟨m, hm, ⟨_, htm⟩, hgoes⟩ := Threads.Run.exists_goes
    (P := fun z ↦ Wants k i (signals k (ρ.config d).world.2.log) z.world)
    (fun b hb ↦ hmoves b (by omega))
    (fun b hb ↦ (hdue b (by omega)).imp_right Or.inl) hend
  have hreach : Reachable pl cfg (ρ.config d) := ρ.reachable d
  have hkept := kept_of_reachable hreach
  have hsignals : signals k (ρ.config m).world.2.log = signals k (ρ.config d).world.2.log + 1 := by
    refine Threads.post_of_goes (S := system pl) (t := ThreadId.control) (T := passTerms k i _)
      hreach
      (fun y z hy hb hz ↦ ?_) htd (notifies_notifyAndUnlock (hkept.numberOfClients ▸ hk)
        ⟨(hkept.inUse k).trans hin, (hkept.eventNotify k).trans hnotify,
          hkept.numberOfSockets ▸ hi, rfl,
          hdue d (by omega)⟩) hgoes htm
    obtain ⟨hheeds, hsig⟩ := heeds_stepBut hy hb
    exact ⟨hheeds, hsig, fun _ ↦ hz⟩
  refine ⟨m, by omega, ?_⟩
  calc signals k (ρ.config l).world.2.log
      ≤ signals k (ρ.config d).world.2.log := signals_mono (by omega)
    _ < signals k (ρ.config m).world.2.log := by omega

/-- **While the timer fires, a client that leaves something pending is signalled again and
again.** -/
theorem signalled_forever {k i : ℕ} (hfair : Fair ρ) (harmed : (ρ.config n).world.2.armed = some 0)
    (hfires : ∀ l, ∃ m, l ≤ m ∧ (ρ.config m).world.2.timer = true)
    (hk : k < cfg.init.numberOfClients)
    (hin : (cfg.init.clients k).inUse = true) (hnotify : (cfg.init.clients k).eventNotify = true)
    (hi : i < cfg.init.numberOfSockets)
    (hdue : ∀ m, n ≤ m → ((ρ.config m).world.1.clients k).needsToBeNotified = true ∨
      (ρ.config m).world.1.hasPendingEvents i k = true) :
    (∃ m, Crashed (ρ.config m)) ∨ ∀ a, ∃ m, a ≤ signals k (ρ.config m).world.2.log := by
  by_cases hcrash : ∃ m, Crashed (ρ.config m)
  · exact Or.inl hcrash
  have hmoves : ∀ l, n ≤ l → ∃ m, l ≤ m ∧ ρ.Moves .control m := by
    intro l hl
    obtain ⟨b, hb, hemit⟩ := exists_emits hfair (armed_stays harmed hl) hfires
    obtain ⟨m, hm, hmove⟩ := control_moves hfair (fun m _ hc ↦ hcrash ⟨m, hc⟩) (Or.inl hemit.event)
    exact ⟨m, by omega, hmove⟩
  refine Or.inr fun a ↦ ?_
  suffices h : ∃ m, n ≤ m ∧ a ≤ signals k (ρ.config m).world.2.log by
    obtain ⟨m, -, hm⟩ := h
    exact ⟨m, hm⟩
  induction a with
  | zero => exact ⟨n, le_rfl, Nat.zero_le _⟩
  | succ a ih =>
    obtain ⟨l, hl, hle⟩ := ih
    obtain ⟨m, hm, hlt⟩ := signalled_again hmoves hfair.again hk hin hnotify hi hdue hl
    exact ⟨m, hl.trans hm, by omega⟩

/-- Client 101 never asks for the event. -/
theorem signalled_forever_sampleArmed :
    ∃ (ρ : Run samplePlatform (sampleConfig 2)) (n : ℕ), ρ.config n = sampleArmed ∧
    ((∃ m, Crashed (ρ.config m)) ∨ ∀ a, ∃ m, a ≤ signals 0 (ρ.config m).world.2.log) := by
  obtain ⟨ρ, n, hfair, hn, hfires, hunasked⟩ := exists_fair_run reachable_sampleArmed
  have harmed : (ρ.config n).world.2.armed = some 0 := by
    rw [hn]
    rfl
  have hidle : (ρ.config n).task .rpc = none := by
    rw [hn]
    rfl
  have hpending : (ρ.config n).world.1.hasPendingEvents 0 0 = true := by
    rw [hn]
    rfl
  have hstays : ∀ m, n ≤ m → (ρ.config m).task .rpc = none ∧
      (ρ.config m).world.1.hasPendingEvents 0 0 = true := by
    intro m hm
    induction m, hm using Nat.le_induction with
    | base => exact ⟨hidle, hpending⟩
    | succ m hm ih => exact pending_of_unasked (ρ.reachable m) ih.1 ih.2 (hunasked m hm)
  exact ⟨ρ, n, hn, signalled_forever (i := 0) hfair harmed hfires (by decide) rfl rfl (by decide)
    fun m hm ↦ Or.inr (hstays m hm).2⟩

end Component

end NetworkStackPicoTcp
