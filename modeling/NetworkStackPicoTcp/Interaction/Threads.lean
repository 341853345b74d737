import Mathlib.Logic.Relation
import NetworkStackPicoTcp.Interaction.Rely

/-!
# Threads over a shared state

A system of threads, each of which runs one job after another. A job is a `Prog`, and the threads
take turns statement by statement, in any order. Each thread has calls of its own, and an
environment for each of its jobs says when a call can return and what it does to the world; a call
that cannot return yet blocks its thread.

`Threads.Contract` is how one reasons about such a system one thread at a time: each thread has
terms, the guarantee of each allows what the others rely on, and every job keeps to the terms of its
thread. Then what the contract promises holds in every configuration that a run reaches
(`Contract.holds_of_reachable`).

Since programs are finite, a thread that is never blocked while an invariant of its own steps holds
comes to the end of its job (`exists_runs_until`).
-/

/-- Threads, named by `τ`, over the worlds `σ × Γ`. -/
structure Threads (τ σ Γ : Type) where
  Job : τ → Type
  Call : τ → Type
  Answer : (t : τ) → Call t → Type
  Result : τ → Type
  code : (t : τ) → Job t → Prog σ (Answer t) (Result t)
  env : (t : τ) → Job t → Env σ (Answer t) Γ
  /-- The job can be taken up in this world. -/
  mayStart : (t : τ) → Job t → σ × Γ → Prop
  /-- The observer's state when a job is taken up. -/
  onStart : (t : τ) → Job t → σ × Γ → Γ
  /-- The observer's state when a job is done. -/
  onReturn : (t : τ) → Job t → Result t → σ × Γ → Γ
  /-- What happens outside the system. -/
  outside : σ × Γ → σ × Γ → Prop

namespace Prog

variable {σ ε Γ α : Type} {ρ : ε → Type}

/-- The next statement of a program. -/
inductive Next (V : Env σ ρ Γ) : Prog σ ρ α → σ × Γ → Prog σ ρ α → σ × Γ → Prop
  | read {k : σ → Prog σ ρ α} {w : σ × Γ} : Next V (.read k) w (k w.1) w
  | write {f : σ → σ} {k : Prog σ ρ α} {w : σ × Γ} : Next V (.write f k) w k (V.write f w)
  | call {e : ε} {k : ρ e → Prog σ ρ α} {w w' : σ × Γ} {b : ρ e} (h : V.onCall e w b w') :
    Next V (.call e k) w (k b) w'

variable {V : Env σ ρ Γ} {T : Terms (σ × Γ)} {C : ε → σ × Γ → Prop} {p p' : Prog σ ρ α}
  {Q : α → σ × Γ → Prop} {w w' : σ × Γ}

/-- The next statement keeps to the guarantee, and the rest is followed as before. -/
theorem rg_next (h : rg V T C p Q w) (hn : Next V p w p' w') :
    (w' = w ∨ T.guarantee w w') ∧ rg V T C p' Q w' := by
  cases hn with
  | read => exact ⟨Or.inl rfl, h w (T.rely_refl w)⟩
  | write => exact ⟨Or.inr (h w (T.rely_refl w)).1, (h w (T.rely_refl w)).2⟩
  | call hb =>
    obtain ⟨hg, hk⟩ := (h w (T.rely_refl w)).2 _ _ hb
    exact ⟨Or.inr hg, hk⟩

theorem bind_ret (p : Prog σ ρ α) : p >>= ret = p := by
  show p.bind ret = p
  induction p with
  | ret a => rfl
  | read k ih => exact congrArg read (funext ih)
  | write f k ih => exact congrArg (write f) ih
  | call e k ih => exact congrArg (call e) (funext ih)

theorem bind_bind {β γ : Type} (p : Prog σ ρ α) (f : α → Prog σ ρ β) (g : β → Prog σ ρ γ) :
    p >>= f >>= g = p >>= fun a ↦ f a >>= g := by
  show (p.bind f).bind g = p.bind fun a ↦ (f a).bind g
  induction p with
  | ret a => rfl
  | read k ih => exact congrArg read (funext ih)
  | write f k ih => exact congrArg (write f) ih
  | call e k ih => exact congrArg (call e) (funext ih)

/-- **A simulation of environments is one of programs**: if whatever one observer sees another can
see in his way, then so it is for whole runs, which write the same, issue the same calls and get the
same answers. -/
theorem outcome_simulates {Δ : Type} {U : Env σ ρ Δ} {R : Γ → Δ → Prop} {s s' : σ} {γ γ' : Γ}
    {δ : Δ} {a : α}
    (hwrite : ∀ {s s' γ δ}, R γ δ → R (V.onWrite s s' γ) (U.onWrite s s' δ))
    (hcall : ∀ {e s γ b s' γ' δ}, V.onCall e (s, γ) b (s', γ') → R γ δ →
      ∃ δ', U.onCall e (s, δ) b (s', δ') ∧ R γ' δ')
    (h : Outcome V p (s, γ) a (s', γ')) (hR : R γ δ) :
    ∃ δ', Outcome U p (s, δ) a (s', δ') ∧ R γ' δ' := by
  induction p generalizing s γ δ with
  | ret b =>
    obtain ⟨rfl, heq⟩ := h
    obtain ⟨rfl, rfl⟩ := Prod.mk.inj heq
    exact ⟨δ, ⟨rfl, rfl⟩, hR⟩
  | read k ih => exact ih _ h hR
  | write f k ih => exact ih h (hwrite hR)
  | call e k ih =>
    obtain ⟨b, ⟨s₁, γ₁⟩, hb, h⟩ := h
    obtain ⟨δ₁, hδ, hR₁⟩ := hcall hb hR
    obtain ⟨δ', ho, hR'⟩ := ih b h hR₁
    exact ⟨δ', ⟨b, (s₁, δ₁), hδ, ho⟩, hR'⟩

/-- What is left of a program has no other writes and calls than the program. -/
theorem within_next {W : (σ → σ) → Prop} {E : ε → Prop} (h : Within W E p) (hn : Next V p w p' w') :
    Within W E p' := by
  cases hn with
  | read => exact h _
  | write => exact h.2
  | call => exact h.2 _

end Prog

namespace Threads

variable {τ σ Γ : Type}

/-- A job under way, with what is left of its code. -/
structure Task (S : Threads τ σ Γ) (t : τ) where
  job : S.Job t
  rest : Prog σ (S.Answer t) (S.Result t)

/-- A configuration: the world, and the task of each thread that is not idle. -/
structure Config (S : Threads τ σ Γ) where
  world : σ × Γ
  task : (t : τ) → Option (S.Task t)

variable [DecidableEq τ] {S : Threads τ σ Γ}

/-- All threads are idle. -/
def Config.idle (S : Threads τ σ Γ) (w : σ × Γ) : S.Config := ⟨w, fun _ ↦ none⟩

/-- A thread changes the world and its task. -/
def Config.set (x : S.Config) (w : σ × Γ) (t : τ) (task : Option (S.Task t)) : S.Config :=
  ⟨w, Function.update x.task t task⟩

@[simp] theorem Config.set_task_self {x : S.Config} {w : σ × Γ} {t : τ} {task : Option (S.Task t)} :
    (x.set w t task).task t = task := by
  simp [Config.set]

theorem Config.set_task_ne_none {x : S.Config} {w : σ × Γ} {t : τ} {task : S.Task t} :
    (x.set w t (some task)).task t ≠ none := by
  simp

theorem Config.set_task_of_ne {x : S.Config} {w : σ × Γ} {t u : τ} {task : Option (S.Task t)}
    (hu : u ≠ t) :
    (x.set w t task).task u = x.task u := by
  simp [Config.set, hu]

@[simp] theorem Config.set_world {x : S.Config} {w : σ × Γ} {t : τ} {task : Option (S.Task t)} :
    (x.set w t task).world = w := rfl

@[simp] theorem Config.set_set {x : S.Config} {w w' : σ × Γ} {t : τ}
    {task task' : Option (S.Task t)} :
    (x.set w t task).set w' t task' = x.set w' t task' := by
  simp [Config.set]

/-- A thread that is not idle executes its next statement, or returns. -/
inductive Runs (S : Threads τ σ Γ) (t : τ) : S.Config → S.Config → Prop
  | next {x : S.Config} {j : S.Job t} {p p' : Prog σ (S.Answer t) (S.Result t)} {w : σ × Γ}
      (h : x.task t = some ⟨j, p⟩) (hn : Prog.Next (S.env t j) p x.world p' w) :
      Runs S t x (x.set w t (some ⟨j, p'⟩))
  | return {x : S.Config} {j : S.Job t} {a : S.Result t} (h : x.task t = some ⟨j, .ret a⟩) :
      Runs S t x (x.set (x.world.1, S.onReturn t j a x.world) t none)

/-- One step of the system. -/
inductive Step (S : Threads τ σ Γ) : S.Config → S.Config → Prop
  | run {t : τ} {x x' : S.Config} (h : S.Runs t x x') : Step S x x'
  | start {t : τ} {x : S.Config} {j : S.Job t} (hidle : x.task t = none)
      (h : S.mayStart t j x.world) :
      Step S x (x.set (x.world.1, S.onStart t j x.world) t (some ⟨j, S.code t j⟩))
  | outside {x : S.Config} {w : σ × Γ} (h : S.outside x.world w) : Step S x ⟨w, x.task⟩

/-- The configurations that a run from the world `w` reaches, in which all threads are idle. -/
def Reachable (S : Threads τ σ Γ) (w : σ × Γ) (x : S.Config) : Prop :=
  Relation.ReflTransGen S.Step (Config.idle S w) x

section Runs

variable {t : τ} {x : S.Config} {task : S.Task t}

/-- A thread is not blocked if its next call can return. -/
theorem exists_runs (ht : x.task t = some task)
    (hcall : ∀ e k, task.rest = .call e k → ∃ b w', (S.env t task.job).onCall e x.world b w') :
    ∃ x', S.Runs t x x' := by
  obtain ⟨j, p⟩ := task
  cases p with
  | ret a => exact ⟨_, .return ht⟩
  | read k => exact ⟨_, .next ht .read⟩
  | write f k => exact ⟨_, .next ht .write⟩
  | call e k =>
    obtain ⟨b, w', hb⟩ := hcall e k rfl
    exact ⟨_, .next ht (.call hb)⟩

theorem Runs.task_ne_none {x' : S.Config} (h : S.Runs t x x') : x.task t ≠ none := by
  cases h with
  | next h => exact h.symm ▸ Option.some_ne_none _
  | «return» h => exact h.symm ▸ Option.some_ne_none _

/-- What a thread does when it runs. -/
theorem Runs.of_task {x' : S.Config} {j : S.Job t} {p : Prog σ (S.Answer t) (S.Result t)}
    (h : S.Runs t x x')
    (ht : x.task t = some ⟨j, p⟩) :
    (∃ p' w, Prog.Next (S.env t j) p x.world p' w ∧ x' = x.set w t (some ⟨j, p'⟩)) ∨
      ∃ a, p = .ret a ∧ x' = x.set (x.world.1, S.onReturn t j a x.world) t none := by
  cases h with
  | next h hn =>
    obtain ⟨rfl, rfl⟩ := Task.mk.inj (Option.some.inj (ht.symm.trans h))
    exact Or.inl ⟨_, _, hn, rfl⟩
  | «return» h =>
    obtain ⟨rfl, rfl⟩ := Task.mk.inj (Option.some.inj (ht.symm.trans h))
    exact Or.inr ⟨_, rfl, rfl⟩

/-- A thread that is at a call gets an answer. -/
theorem Runs.of_call {x' : S.Config} {j : S.Job t} {e : S.Call t}
    {k : S.Answer t e → Prog σ (S.Answer t) (S.Result t)} (h : S.Runs t x x')
    (ht : x.task t = some ⟨j, .call e k⟩) :
    ∃ b w, (S.env t j).onCall e x.world b w ∧ x' = x.set w t (some ⟨j, k b⟩) := by
  obtain ⟨p', w, hn, rfl⟩ | ⟨a, ⟨⟩, -⟩ := h.of_task ht
  cases hn with
  | call hb => exact ⟨_, _, hb, rfl⟩

/-- What a thread is left with after its next statement. -/
theorem Runs.task_eq {x' : S.Config} (h : S.Runs t x x') (ht : x.task t = some task) :
    (∃ p w, Prog.Next (S.env t task.job) task.rest x.world p w ∧ x'.task t = some ⟨task.job, p⟩) ∨
      (∃ a, task.rest = .ret a) ∧ x'.task t = none := by
  obtain ⟨p, w, hn, rfl⟩ | ⟨a, ha, rfl⟩ := h.of_task ht
  · exact Or.inl ⟨p, w, hn, Config.set_task_self⟩
  · exact Or.inr ⟨⟨a, ha⟩, Config.set_task_self⟩

/-- A thread that runs leaves the tasks of the others alone. -/
theorem Runs.task_of_ne {u : τ} {x' : S.Config} (h : S.Runs t x x') (hu : u ≠ t) :
    x'.task u = x.task u := by
  cases h with
  | next => exact Config.set_task_of_ne hu
  | «return» => exact Config.set_task_of_ne hu

/-- A thread that runs alone does what the first part of its code does alone. -/
theorem runs_of_outcome_bind {α : Type} {j : S.Job t} {p : Prog σ (S.Answer t) α}
    {k : α → Prog σ (S.Answer t) (S.Result t)} {a : α} {w : σ × Γ}
    (ht : x.task t = some ⟨j, p >>= k⟩)
    (h : Prog.Outcome (S.env t j) p x.world a w) :
    Relation.ReflTransGen (fun y z ↦ S.Runs t y z ∧ z.task t ≠ none) x
      (x.set w t (some ⟨j, k a⟩)) := by
  induction p generalizing x with
  | ret b =>
    obtain ⟨rfl, rfl⟩ := h
    have hx : x.set x.world t (some ⟨j, k a⟩) = x := by
      have hk : x.task t = some ⟨j, k a⟩ := ht
      simp [Config.set, ← hk]
    rw [hx]
  | read g ih =>
    have hr := ih _ (x := x.set x.world t (some ⟨j, g x.world.1 >>= k⟩)) Config.set_task_self h
    simpa using hr.head ⟨.next ht .read, Config.set_task_ne_none⟩
  | write f g ih =>
    have hr := ih (x := x.set _ t (some ⟨j, g >>= k⟩)) Config.set_task_self h
    simpa using hr.head ⟨.next ht .write, Config.set_task_ne_none⟩
  | call e g ih =>
    obtain ⟨b, w₁, hb, h⟩ := h
    have hr := ih b (x := x.set w₁ t (some ⟨j, g b >>= k⟩)) Config.set_task_self h
    simpa using hr.head ⟨.next ht (.call hb), Config.set_task_ne_none⟩

/-- A thread that runs alone does what its program does alone. -/
theorem runs_of_outcome {j : S.Job t} {p : Prog σ (S.Answer t) (S.Result t)} {a : S.Result t}
    {w : σ × Γ} (ht : x.task t = some ⟨j, p⟩) (h : Prog.Outcome (S.env t j) p x.world a w) :
    Relation.ReflTransGen (S.Runs t) x (x.set (w.1, S.onReturn t j a w) t none) := by
  rw [← Prog.bind_ret p] at ht
  have hr := Relation.ReflTransGen.mono (fun _ _ ↦ And.left) _ _ (runs_of_outcome_bind ht h)
  simpa using hr.tail (.return Config.set_task_self)

/-- A thread that runs alone gets to each of its calls. -/
theorem runs_of_callAt {j : S.Job t} {p : Prog σ (S.Answer t) (S.Result t)} {e : S.Call t}
    {w : σ × Γ} (ht : x.task t = some ⟨j, p⟩) (h : Prog.CallAt (S.env t j) p x.world e w) :
    ∃ k, Relation.ReflTransGen (S.Runs t) x (x.set w t (some ⟨j, .call e k⟩)) := by
  induction p generalizing x with
  | ret b => exact h.elim
  | read k ih =>
    obtain ⟨k', hr⟩ := ih _ (x := x.set x.world t (some ⟨j, k x.world.1⟩)) Config.set_task_self h
    exact ⟨k', by simpa using hr.head (.next ht .read)⟩
  | write f k ih =>
    obtain ⟨k', hr⟩ := ih (x := x.set _ t (some ⟨j, k⟩)) Config.set_task_self h
    exact ⟨k', by simpa using hr.head (.next ht .write)⟩
  | call e' k ih =>
    obtain ⟨rfl, rfl⟩ | ⟨b, w₁, hb, h⟩ := h
    · refine ⟨k, ?_⟩
      have hx : x.set x.world t (some ⟨j, .call e k⟩) = x := by
        simp [Config.set, ← ht]
      rw [hx]
    · obtain ⟨k', hr⟩ := ih b (x := x.set w₁ t (some ⟨j, k b⟩)) Config.set_task_self h
      exact ⟨k', by simpa using hr.head (.next ht (.call hb))⟩

/-- **A thread that is not blocked comes to the end of its job**, by induction on what is left of
its code. -/
theorem exists_runs_until {I P : S.Config → Prop} (hI : ∀ x x', I x → S.Runs t x x' → I x')
    (hrun : ∀ x task, I x → x.task t = some task → P x ∨ ∃ x', S.Runs t x x') (h : I x) :
    ∃ x', Relation.ReflTransGen (S.Runs t) x x' ∧ I x' ∧ (x'.task t = none ∨ P x') := by
  cases htask : x.task t with
  | none => exact ⟨x, .refl, h, Or.inl htask⟩
  | some task =>
    obtain ⟨j, p⟩ := task
    -- one step, and what is left is a part of the code
    have hstep : ∀ {x : S.Config} {p}, I x → x.task t = some ⟨j, p⟩ →
        (∀ p' x', (∃ w w', Prog.Next (S.env t j) p w p' w') → I x' → x'.task t = some ⟨j, p'⟩ →
          ∃ x'', Relation.ReflTransGen (S.Runs t) x' x'' ∧ I x'' ∧ (x''.task t = none ∨ P x'')) →
        ∃ x', Relation.ReflTransGen (S.Runs t) x x' ∧ I x' ∧ (x'.task t = none ∨ P x') := by
      intro x p h ht hrest
      rcases hrun x _ h ht with hp | ⟨x', hx'⟩
      · exact ⟨x, .refl, h, Or.inr hp⟩
      · have h' := hI x x' h hx'
        rcases hx'.task_eq ht with ⟨p', w, hn, ht'⟩ | ⟨-, ht'⟩
        · obtain ⟨x'', hruns, hx''⟩ := hrest p' x' ⟨_, _, hn⟩ h' ht'
          exact ⟨x'', .head hx' hruns, hx''⟩
        · exact ⟨x', .single hx', h', Or.inl ht'⟩
    induction p generalizing x with
    | ret a =>
      refine hstep h htask fun p' x' hn ↦ ?_
      obtain ⟨_, _, hn⟩ := hn
      cases hn
    | read k ih =>
      refine hstep h htask fun p' x' hn h' ht' ↦ ?_
      obtain ⟨w, _, hn⟩ := hn
      cases hn
      exact ih _ h' ht'
    | write f k ih =>
      refine hstep h htask fun p' x' hn h' ht' ↦ ?_
      obtain ⟨_, _, hn⟩ := hn
      cases hn
      exact ih h' ht'
    | call e k ih =>
      refine hstep h htask fun p' x' hn h' ht' ↦ ?_
      obtain ⟨_, _, hn⟩ := hn
      cases hn
      exact ih _ h' ht'

end Runs

/-! ### One job after the other -/

/-- A whole job of a thread, which no other thread disturbs, or something outside the system. -/
inductive SerialStep (S : Threads τ σ Γ) : σ × Γ → σ × Γ → Prop
  | job {t : τ} {j : S.Job t} {w w' : σ × Γ} {a : S.Result t} (hj : S.mayStart t j w)
      (h : Prog.Outcome (S.env t j) (S.code t j) (w.1, S.onStart t j w) a w') :
      SerialStep S w (w'.1, S.onReturn t j a w')
  | outside {w w' : σ × Γ} (h : S.outside w w') : SerialStep S w w'

/-- The threads can take their turns one job at a time. -/
theorem reachable_of_serial {w w' : σ × Γ} (h : Relation.ReflTransGen S.SerialStep w w') :
    S.Reachable w (Config.idle S w') := by
  induction h with
  | refl => exact .refl
  | @tail w₁ _ _ hs ih =>
    cases hs with
    | @job t j _ w₂ a hj ho =>
      have hstart := Relation.ReflTransGen.tail ih (.start (t := t) (j := j) rfl hj)
      have hruns := runs_of_outcome (x := (Config.idle S w₁).set (w₁.1, S.onStart t j w₁) t
        (some ⟨j, S.code t j⟩)) Config.set_task_self ho
      rw [Config.set_set] at hruns
      have hidle : (Config.idle S w₁).set (w₂.1, S.onReturn t j a w₂) t none =
          Config.idle S (w₂.1, S.onReturn t j a w₂) := by
        simp [Config.set, Config.idle]
      rw [hidle] at hruns
      exact hstart.trans (Relation.ReflTransGen.mono (fun _ _ ↦ .run) _ _ hruns)
    | outside ho => exact ih.tail (.outside ho)

/-! ### One thread among the others -/

section Among

variable {t : τ} {x x' : S.Config} {w : σ × Γ}

/-- A step of another thread, or outside the system. -/
inductive StepBut (S : Threads τ σ Γ) (t : τ) : S.Config → S.Config → Prop
  | run {u : τ} {x x' : S.Config} (hu : u ≠ t) (h : S.Runs u x x') : StepBut S t x x'
  | start {u : τ} {x : S.Config} {j : S.Job u} (hu : u ≠ t) (hidle : x.task u = none)
      (h : S.mayStart u j x.world) :
      StepBut S t x (x.set (x.world.1, S.onStart u j x.world) u (some ⟨j, S.code u j⟩))
  | outside {x : S.Config} {w : σ × Γ} (h : S.outside x.world w) : StepBut S t x ⟨w, x.task⟩

theorem StepBut.step (h : S.StepBut t x x') : S.Step x x' := by
  cases h with
  | run _ hr => exact .run hr
  | start _ hidle hj => exact .start hidle hj
  | outside ho => exact .outside ho

theorem StepBut.task_eq (h : S.StepBut t x x') : x'.task t = x.task t := by
  cases h with
  | run hu hr => exact hr.task_of_ne (Ne.symm hu)
  | start hu => exact Config.set_task_of_ne (Ne.symm hu)
  | outside => rfl

/-- The job of a thread goes on, or another step leads to a configuration that satisfies `P`. -/
inductive Goes (S : Threads τ σ Γ) (t : τ) (P : S.Config → Prop) : S.Config → S.Config → Prop
  | own {x x' : S.Config} (h : S.Runs t x x') (hne : x'.task t ≠ none) : Goes S t P x x'
  | other {x x' : S.Config} (h : S.StepBut t x x') (hp : P x') : Goes S t P x x'

theorem Goes.step {P : S.Config → Prop} (h : S.Goes t P x x') : S.Step x x' := by
  cases h with
  | own h => exact .run h
  | other h => exact h.step

/-- What is known of the text of a thread's jobs stays known of what is left of them. -/
theorem Step.within {W : (σ → σ) → Prop} {E : S.Call t → Prop}
    (hcode : ∀ j, Prog.Within W E (S.code t j))
    (hs : S.Step x x') (h : ∀ task, x.task t = some task → Prog.Within W E task.rest)
    {task : S.Task t}
    (ht : x'.task t = some task) : Prog.Within W E task.rest := by
  cases hs with
  | @run u _ _ hr =>
    by_cases hu : u = t
    · subst hu
      cases hr with
      | next h₀ hn =>
        rw [Config.set_task_self] at ht
        obtain rfl := Option.some.inj ht
        exact Prog.within_next (h _ h₀) hn
      | «return» =>
        rw [Config.set_task_self] at ht
        exact absurd ht (Option.some_ne_none _).symm
    · rw [hr.task_of_ne (Ne.symm hu)] at ht
      exact h task ht
  | @start u _ j =>
    by_cases hu : u = t
    · subst hu
      rw [Config.set_task_self] at ht
      obtain rfl := Option.some.inj ht
      exact hcode j
    · rw [Config.set_task_of_ne (Ne.symm hu)] at ht
      exact h task ht
  | outside => exact h task ht

theorem within_of_reachable {W : (σ → σ) → Prop} {E : S.Call t → Prop}
    (hcode : ∀ j, Prog.Within W E (S.code t j)) (h : S.Reachable w x) {task : S.Task t}
    (ht : x.task t = some task) : Prog.Within W E task.rest := by
  induction h generalizing task with
  | refl => exact absurd ht (Option.some_ne_none _).symm
  | tail _ hs ih => exact hs.within hcode (fun _ ↦ ih) ht

/-- **What the statements of all threads keep** is an invariant of the state they share. -/
theorem invariant_of_reachable {I : σ → Prop} {W : τ → (σ → σ) → Prop}
    (hcode : ∀ u j, Prog.Within (W u) (fun _ ↦ True) (S.code u j))
    (hwrite : ∀ u f s, W u f → I s → I (f s))
    (hcall : ∀ u j e w b w', I w.1 → (S.env u j).onCall e w b w' → I w'.1)
    (houtside : ∀ w w', I w.1 → S.outside w w' → I w'.1) (h₀ : I w.1) (h : S.Reachable w x) :
    I x.world.1 := by
  induction h with
  | refl => exact h₀
  | tail hx hs ih =>
    cases hs with
    | @run u _ _ hr =>
      cases hr with
      | next ht hn =>
        have hrest := within_of_reachable (hcode u) hx ht
        cases hn with
        | read => exact ih
        | write => exact hwrite u _ _ hrest.1 ih
        | call hb => exact hcall u _ _ _ _ _ ih hb
      | «return» => exact ih
    | start => exact ih
    | outside ho => exact houtside _ _ ih ho

variable {T : Prog.Terms (σ × Γ)} {j : S.Job t} {C : S.Call t → σ × Γ → Prop}
  {p : Prog σ (S.Answer t) (S.Result t)} {Q : S.Result t → σ × Γ → Prop} {P : S.Config → Prop}

/-- **A job is followed along a run** in which the others keep to its rely. -/
theorem exists_rest {w₀ : σ × Γ} (hx : S.Reachable w₀ x)
    (hrely : ∀ y z, S.Reachable w₀ y → S.StepBut t y z → P z → T.rely y.world z.world)
    (ht : x.task t = some ⟨j, p⟩) (h : Prog.rg (S.env t j) T C p Q x.world)
    (hrun : Relation.ReflTransGen (S.Goes t P) x x') :
    S.Reachable w₀ x' ∧ ∃ p', x'.task t = some ⟨j, p'⟩ ∧ Prog.rg (S.env t j) T C p' Q x'.world := by
  induction hrun with
  | refl => exact ⟨hx, p, ht, h⟩
  | tail _ hs ih =>
    obtain ⟨hy, p', hty, h'⟩ := ih
    refine ⟨hy.tail hs.step, ?_⟩
    cases hs with
    | own hr hne =>
      obtain ⟨_, _, hn, rfl⟩ | ⟨_, _, rfl⟩ := hr.of_task hty
      · exact ⟨_, Config.set_task_self, (Prog.rg_next h' hn).2⟩
      · exact absurd Config.set_task_self hne
    | other hb hp => exact ⟨p', hb.task_eq.trans hty, Prog.rg_stable h' (hrely _ _ hy hb hp)⟩

/-- A job that comes to its end has done what it owes. -/
theorem post_of_goes {w₀ : σ × Γ} {a : S.Result t} (hx : S.Reachable w₀ x)
    (hrely : ∀ y z, S.Reachable w₀ y → S.StepBut t y z → P z → T.rely y.world z.world)
    (ht : x.task t = some ⟨j, p⟩) (h : Prog.rg (S.env t j) T C p Q x.world)
    (hrun : Relation.ReflTransGen (S.Goes t P) x x') (hret : x'.task t = some ⟨j, .ret a⟩) :
    Q a x'.world := by
  obtain ⟨-, p', ht', h'⟩ := exists_rest hx hrely ht h hrun
  obtain ⟨-, rfl⟩ := Task.mk.inj (Option.some.inj (hret.symm.trans ht'))
  exact h' x'.world (T.rely_refl _)

end Among

/-! ### Reasoning thread by thread -/

/-- What the threads of a system owe to each other. -/
structure Contract (S : Threads τ σ Γ) where
  terms : τ → Prog.Terms (σ × Γ)
  /-- What a call of a job owes. -/
  owes : (t : τ) → S.Job t → S.Call t → σ × Γ → Prop
  /-- What holds while the thread is idle. -/
  idle : τ → σ × Γ → Prop
  idle_stable : ∀ {t w w'}, (terms t).rely w w' → idle t w → idle t w'
  compatible : ∀ {t u w w'}, t ≠ u → (terms t).guarantee w w' → (terms u).rely w w'
  outside : ∀ {t w w'}, S.outside w w' → (terms t).rely w w'
  start : ∀ {t j w}, S.mayStart t j w → idle t w → (terms t).guarantee w (w.1, S.onStart t j w)
  keeps : ∀ {t j w}, S.mayStart t j w → idle t w →
    Prog.rg (S.env t j) (terms t) (owes t j) (S.code t j)
      (fun a w' ↦ (terms t).guarantee w' (w'.1, S.onReturn t j a w') ∧
        idle t (w'.1, S.onReturn t j a w'))
      (w.1, S.onStart t j w)

namespace Contract

variable (K : S.Contract)

/-- What the contract says of a thread. -/
def HoldsOf (t : τ) (w : σ × Γ) : Option (S.Task t) → Prop
  | none => K.idle t w
  | some task =>
    Prog.rg (S.env t task.job) (K.terms t) (K.owes t task.job) task.rest
      (fun a w' ↦ (K.terms t).guarantee w' (w'.1, S.onReturn t task.job a w') ∧
        K.idle t (w'.1, S.onReturn t task.job a w'))
      w

/-- What the contract says of a configuration. -/
def Holds (x : S.Config) : Prop := ∀ t, K.HoldsOf t x.world (x.task t)

variable {K} {x x' : S.Config}

omit [DecidableEq τ] in
theorem HoldsOf.stable {t : τ} {w w' : σ × Γ} {task : Option (S.Task t)} (h : K.HoldsOf t w task)
    (hr : (K.terms t).rely w w') : K.HoldsOf t w' task := by
  cases task with
  | none => exact K.idle_stable hr h
  | some task => exact Prog.rg_stable h hr

/-- A thread that keeps to its guarantee leaves the others what they rely on. -/
theorem Holds.set {t : τ} {w : σ × Γ} {task : Option (S.Task t)} (h : K.Holds x)
    (hg : w = x.world ∨ (K.terms t).guarantee x.world w) (ht : K.HoldsOf t w task) :
    K.Holds (x.set w t task) := by
  intro u
  by_cases hu : u = t
  · subst hu
    show K.HoldsOf u w ((x.set w u task).task u)
    rw [Config.set_task_self]
    exact ht
  · show K.HoldsOf u w ((x.set w t task).task u)
    rw [Config.set_task_of_ne hu]
    rcases hg with rfl | hg
    · exact h u
    · exact (h u).stable (K.compatible (Ne.symm hu) hg)

theorem Holds.runs {t : τ} (h : K.Holds x) (hs : S.Runs t x x') :
    K.Holds x' ∧ (x'.world = x.world ∨ (K.terms t).guarantee x.world x'.world) := by
  cases hs with
  | next htask hn =>
    have ht := h t
    rw [htask] at ht
    obtain ⟨hg, hrest⟩ := Prog.rg_next ht hn
    exact ⟨h.set hg hrest, hg⟩
  | «return» htask =>
    have ht := h t
    rw [htask] at ht
    obtain ⟨hg, hidle⟩ := ht x.world ((K.terms t).rely_refl x.world)
    exact ⟨h.set (Or.inr hg) hidle, Or.inr hg⟩

/-- What the others rely on when a thread runs. -/
theorem Holds.rely {t u : τ} (h : K.Holds x) (hs : S.Runs t x x') (hu : u ≠ t) :
    (K.terms u).rely x.world x'.world := by
  rcases (h.runs hs).2 with hw | hg
  · rw [hw]
    exact (K.terms u).rely_refl _
  · exact K.compatible hu.symm hg

theorem Holds.rely_stepBut {t : τ} (h : K.Holds x) (hs : S.StepBut t x x') :
    (K.terms t).rely x.world x'.world := by
  cases hs with
  | run hu hr => exact h.rely hr hu.symm
  | @start u _ _ hu hidle hj =>
    have hi := h u
    rw [hidle] at hi
    exact K.compatible hu (K.start hj hi)
  | outside ho => exact K.outside ho

/-- Every step keeps the contract. -/
theorem Holds.step (h : K.Holds x) (hs : S.Step x x') : K.Holds x' := by
  cases hs with
  | run hs => exact (h.runs hs).1
  | @start t _ j hidle hj =>
    have ht := h t
    rw [hidle] at ht
    exact h.set (Or.inr (K.start hj ht)) (K.keeps hj ht)
  | outside ho => exact fun t ↦ (h t).stable (K.outside ho)

/-- **The contract holds in every configuration of every run.** -/
theorem holds_of_reachable {w : σ × Γ} (hw : ∀ t, K.idle t w) (h : S.Reachable w x) :
    K.Holds x := by
  induction h with
  | refl => exact hw
  | tail _ hs ih => exact ih.step hs

omit [DecidableEq τ] in
/-- What holds while a thread is idle. -/
theorem Holds.idle {t : τ} (h : K.Holds x) (ht : x.task t = none) : K.idle t x.world := by
  have := h t
  rwa [ht] at this

omit [DecidableEq τ] in
/-- What a thread owes at its next call. -/
theorem Holds.owes {t : τ} {j : S.Job t} {e : S.Call t}
    {k : S.Answer t e → Prog σ (S.Answer t) (S.Result t)} (h : K.Holds x)
    (ht : x.task t = some ⟨j, .call e k⟩) : K.owes t j e x.world := by
  have hrg := h t
  rw [ht] at hrg
  exact (hrg x.world ((K.terms t).rely_refl x.world)).1

end Contract

end Threads
