import Mathlib.Order.Lattice
import NetworkStackPicoTcp.Interaction.FairSchedules
import NetworkStackPicoTcp.Interaction.Threads

/-!
# Fair runs

Infinite runs of a system of threads, for what a system does in the end. A run may rest between two
steps, so a system in which nothing more happens has runs too.

A scheduler is weakly fair to a thread if it lets a thread run that could run all the time, and
strongly fair if it does so for one that could run again and again. Since programs are finite, a
thread that runs again and again comes to every later part of its code (`Run.exists_goes`), and to
the end of its job. That is all that is used of a program, so what blocks a thread, and for how
long, is left to the system.
-/

namespace Threads

open Relation (ReflTransGen)

variable {τ σ Γ : Type} [DecidableEq τ] {S : Threads τ σ Γ}

/-- The thread can run. -/
def Enabled (S : Threads τ σ Γ) (t : τ) (x : S.Config) : Prop := ∃ x', S.Runs t x x'

/-- An infinite run from the world `w`. -/
structure Run (S : Threads τ σ Γ) (w : σ × Γ) where
  config : ℕ → S.Config
  zero : config 0 = Config.idle S w
  step : ∀ n, config (n + 1) = config n ∨ S.Step (config n) (config (n + 1))

namespace Run

variable {w : σ × Γ} (ρ : S.Run w) {t : τ} {n m : ℕ}

theorem reachable (n : ℕ) : S.Reachable w (ρ.config n) := by
  induction n with
  | zero => exact ρ.zero ▸ .refl
  | succ n ih =>
    rcases ρ.step n with heq | hs
    · exact heq ▸ ih
    · exact ih.tail hs

/-- What every step keeps. -/
theorem stable {P : S.Config → Prop}
    (hP : ∀ m, n ≤ m → S.Step (ρ.config m) (ρ.config (m + 1)) → P (ρ.config m) →
    P (ρ.config (m + 1))) (h : P (ρ.config n)) (hm : n ≤ m) : P (ρ.config m) := by
  induction m, hm using Nat.le_induction with
  | base => exact h
  | succ m hm ih =>
    rcases ρ.step m with heq | hs
    · exact heq ▸ ih
    · exact hP m hm hs ih

/-- The thread runs at time `n`. -/
def Moves (t : τ) (n : ℕ) : Prop := S.Runs t (ρ.config n) (ρ.config (n + 1))

/-- A thread that can run from some time on, runs. -/
def WeaklyFair (t : τ) : Prop :=
  ∀ n, (∀ m, n ≤ m → S.Enabled t (ρ.config m)) → ∃ m, n ≤ m ∧ ρ.Moves t m

/-- A thread that can run again and again, runs. -/
def StronglyFair (t : τ) : Prop :=
  ∀ n, (∀ l, n ≤ l → ∃ m, l ≤ m ∧ S.Enabled t (ρ.config m)) → ∃ m, n ≤ m ∧ ρ.Moves t m

variable {ρ}

/-! ### Following a thread -/

/-- While a thread does not run, the others do. -/
theorem stepBut_of_not_moves {task : S.Task t} (ht : (ρ.config n).task t = some task)
    (hno : ¬ ρ.Moves t n) :
    ρ.config (n + 1) = ρ.config n ∨ S.StepBut t (ρ.config n) (ρ.config (n + 1)) := by
  refine (ρ.step n).imp_right fun hs ↦ ?_
  rw [Moves] at hno
  generalize ρ.config (n + 1) = y at hs hno
  cases hs with
  | @run u _ _ hr =>
    refine .run ?_ hr
    rintro rfl
    exact hno hr
  | @start u _ _ hidle hj =>
    refine .start ?_ hidle hj
    rintro rfl
    exact Option.some_ne_none _ (ht.symm.trans hidle)
  | outside ho => exact .outside ho

/-- A thread keeps its task until it runs. -/
theorem task_succ {task : S.Task t} (ht : (ρ.config n).task t = some task) (hno : ¬ ρ.Moves t n) :
    (ρ.config (n + 1)).task t = some task := by
  rcases stepBut_of_not_moves ht hno with heq | hs
  · rw [heq, ht]
  · rw [hs.task_eq, ht]

/-- A thread that does not run any more keeps its task for good. -/
theorem task_of_not_moves {task : S.Task t} (ht : (ρ.config n).task t = some task)
    (hno : ∀ m, n ≤ m → ¬ ρ.Moves t m) (hm : n ≤ m) : (ρ.config m).task t = some task := by
  induction m, hm using Nat.le_induction with
  | base => exact ht
  | succ m hm ih => exact task_succ ih (hno m hm)

/-- The next time that a thread runs. -/
theorem exists_moves {P : S.Config → Prop} {task : S.Task t} (ht : (ρ.config n).task t = some task)
    (hP : ∀ l, n ≤ l → P (ρ.config l)) (hmoves : ∃ m, n ≤ m ∧ ρ.Moves t m) :
    ∃ m, n ≤ m ∧ ρ.Moves t m ∧ (ρ.config m).task t = some task ∧
      ReflTransGen (S.Goes t P) (ρ.config n) (ρ.config m) := by
  obtain ⟨m, hm, hmove⟩ := hmoves
  obtain ⟨d, rfl⟩ := Nat.exists_eq_add_of_le hm
  clear hm
  induction d generalizing n with
  | zero => exact ⟨n, le_rfl, hmove, ht, .refl⟩
  | succ d ih =>
    by_cases hn : ρ.Moves t n
    · exact ⟨n, le_rfl, hn, ht, .refl⟩
    · have ht' := task_succ ht hn
      rw [show n + (d + 1) = n + 1 + d by omega] at hmove
      obtain ⟨m, hm, hmove, htm, hgoes⟩ := ih ht' (fun l hl ↦ hP l (by omega)) hmove
      refine ⟨m, by omega, hmove, htm, ?_⟩
      rcases stepBut_of_not_moves ht hn with heq | hs
      · exact heq ▸ hgoes
      · exact hgoes.head (.other hs (hP (n + 1) (by omega)))

/-- **A thread that runs again and again comes to every later part of its code**, by induction on
the part before it. -/
theorem exists_goes {α : Type} {P : S.Config → Prop} {j : S.Job t} {p : Prog σ (S.Answer t) α}
    {k : α → Prog σ (S.Answer t) (S.Result t)} (hmoves : ∀ l, n ≤ l → ∃ m, l ≤ m ∧ ρ.Moves t m)
    (hP : ∀ l, n ≤ l → P (ρ.config l)) (ht : (ρ.config n).task t = some ⟨j, p >>= k⟩) :
    ∃ m, n ≤ m ∧ (∃ a, (ρ.config m).task t = some ⟨j, k a⟩) ∧
      ReflTransGen (S.Goes t P) (ρ.config n) (ρ.config m) := by
  -- the next statement, and what is left is a part of the code
  have hstep : ∀ {n} {p : Prog σ (S.Answer t) α}, (∀ l, n ≤ l → ∃ m, l ≤ m ∧ ρ.Moves t m) →
      (∀ l, n ≤ l → P (ρ.config l)) → (ρ.config n).task t = some ⟨j, p >>= k⟩ →
      (∀ a, p >>= k ≠ .ret a) →
      (∀ p' n', n ≤ n' → (∃ w w', Prog.Next (S.env t j) (p >>= k) w p' w') →
        (ρ.config n').task t = some ⟨j, p'⟩ →
        ∃ m, n' ≤ m ∧ (∃ a, (ρ.config m).task t = some ⟨j, k a⟩) ∧
          ReflTransGen (S.Goes t P) (ρ.config n') (ρ.config m)) →
      ∃ m, n ≤ m ∧ (∃ a, (ρ.config m).task t = some ⟨j, k a⟩) ∧
        ReflTransGen (S.Goes t P) (ρ.config n) (ρ.config m) := by
    intro n p hmoves hP ht hret hrest
    obtain ⟨l, hl, hmove, htl, hgoes⟩ := exists_moves ht hP (hmoves n le_rfl)
    rcases hmove.task_eq htl with ⟨p', w, hn, ht'⟩ | ⟨⟨a, ha⟩, -⟩
    · obtain ⟨m, hm, hend, hgoes'⟩ := hrest p' (l + 1) (by omega) ⟨_, w, hn⟩ ht'
      have hown : S.Goes t P (ρ.config l) (ρ.config (l + 1)) :=
        .own hmove (by rw [ht']; exact Option.some_ne_none _)
      exact ⟨m, by omega, hend, hgoes.trans (.head hown hgoes')⟩
    · exact absurd ha (hret a)
  induction p generalizing n with
  | ret a => exact ⟨n, le_rfl, ⟨a, ht⟩, .refl⟩
  | read g ih =>
    refine hstep hmoves hP ht (by rintro _ ⟨⟩) fun p' n' hn' hn ht' ↦ ?_
    obtain ⟨w, _, hn⟩ := hn
    cases hn
    exact ih _ (fun l hl ↦ hmoves l (hn'.trans hl)) (fun l hl ↦ hP l (hn'.trans hl)) ht'
  | write f g ih =>
    refine hstep hmoves hP ht (by rintro _ ⟨⟩) fun p' n' hn' hn ht' ↦ ?_
    obtain ⟨_, _, hn⟩ := hn
    cases hn
    exact ih (fun l hl ↦ hmoves l (hn'.trans hl)) (fun l hl ↦ hP l (hn'.trans hl)) ht'
  | call e g ih =>
    refine hstep hmoves hP ht (by rintro _ ⟨⟩) fun p' n' hn' hn ht' ↦ ?_
    obtain ⟨_, _, hn⟩ := hn
    cases hn
    exact ih _ (fun l hl ↦ hmoves l (hn'.trans hl)) (fun l hl ↦ hP l (hn'.trans hl)) ht'

/-- At time `n` the thread returns from its job. -/
def Returns (ρ : S.Run w) (t : τ) (j : S.Job t) (a : S.Result t) (n : ℕ) : Prop :=
  (ρ.config n).task t = some ⟨j, .ret a⟩ ∧
    ρ.config (n + 1) = (ρ.config n).set ((ρ.config n).world.1, S.onReturn t j a (ρ.config n).world)
      t none

/-- A thread stays with its job until it returns. -/
theorem returns_or_task {j : S.Job t} {p : Prog σ (S.Answer t) (S.Result t)}
    (ht : (ρ.config n).task t = some ⟨j, p⟩) :
    (∃ a, ρ.Returns t j a n) ∨ ∃ p', (ρ.config (n + 1)).task t = some ⟨j, p'⟩ := by
  by_cases hmove : ρ.Moves t n
  · obtain ⟨p', w, -, hy⟩ | ⟨a, rfl, hy⟩ := hmove.of_task ht
    · exact Or.inr ⟨p', by rw [hy, Config.set_task_self]⟩
    · exact Or.inl ⟨a, ht, hy⟩
  · exact Or.inr ⟨p, task_succ ht hmove⟩

/-- A thread that never returns from its job stays with it for good. -/
theorem task_of_not_returns {j : S.Job t} {p : Prog σ (S.Answer t) (S.Result t)}
    (ht : (ρ.config n).task t = some ⟨j, p⟩) (hno : ∀ l a, n ≤ l → ¬ ρ.Returns t j a l)
    (hm : n ≤ m) :
    ∃ p', (ρ.config m).task t = some ⟨j, p'⟩ := by
  induction m, hm using Nat.le_induction with
  | base => exact ⟨p, ht⟩
  | succ m hm ih =>
    obtain ⟨p', ht'⟩ := ih
    exact (returns_or_task ht').resolve_left fun ⟨a, hret⟩ ↦ hno m a hm hret

/-- A thread that runs again and again returns from its job. -/
theorem exists_returns {j : S.Job t} {p : Prog σ (S.Answer t) (S.Result t)}
    (hmoves : ∀ l, n ≤ l → ∃ m, l ≤ m ∧ ρ.Moves t m) (ht : (ρ.config n).task t = some ⟨j, p⟩) :
    ∃ m a, n ≤ m ∧ ρ.Returns t j a m := by
  rw [← Prog.bind_ret p] at ht
  obtain ⟨l, hl, ⟨a, hta⟩, -⟩ := exists_goes (P := fun _ ↦ True) hmoves (fun _ _ ↦ trivial) ht
  obtain ⟨m, hm, hmove, htm, -⟩ :=
    exists_moves (P := fun _ ↦ True) hta (fun _ _ ↦ trivial) (hmoves l hl)
  rcases returns_or_task htm with ⟨b, hret⟩ | ⟨p', ht'⟩
  · exact ⟨m, b, hl.trans hm, hret⟩
  · rcases hmove.task_eq htm with ⟨_, _, hn, -⟩ | ⟨-, hnone⟩
    · cases hn
    · exact absurd (ht'.symm.trans hnone) (Option.some_ne_none _)

/-- A thread that runs again and again is idle again and again. -/
theorem exists_idle (hmoves : ∀ l, n ≤ l → ∃ m, l ≤ m ∧ ρ.Moves t m) :
    ∃ m, n ≤ m ∧ (ρ.config m).task t = none := by
  cases ht : (ρ.config n).task t with
  | none => exact ⟨n, le_rfl, ht⟩
  | some task =>
    obtain ⟨m, a, hm, hret⟩ := exists_returns hmoves ht
    exact ⟨m + 1, by omega, by rw [hret.2, Config.set_task_self]⟩

/-- An idle thread that has a task later takes up a job. -/
theorem exists_start (hidle : (ρ.config n).task t = none)
    (hlater : ∃ m, n ≤ m ∧ (ρ.config m).task t ≠ none) :
    ∃ m, n ≤ m ∧
      ∃ j, S.mayStart t j (ρ.config m).world ∧
      (ρ.config (m + 1)).task t = some ⟨j, S.code t j⟩ := by
  obtain ⟨m, hm, hsome⟩ := hlater
  induction m, hm using Nat.le_induction with
  | base => exact absurd hidle hsome
  | succ m hm ih =>
    by_cases hm' : (ρ.config m).task t = none
    · refine ⟨m, hm, ?_⟩
      rcases ρ.step m with heq | hs
      · exact absurd (heq ▸ hm') hsome
      generalize ρ.config (m + 1) = y at hs hsome
      cases hs with
      | @run u _ _ hr =>
        by_cases hu : t = u
        · subst hu
          exact absurd hm' hr.task_ne_none
        · exact absurd ((hr.task_of_ne hu).trans hm') hsome
      | @start u _ j hnone hj =>
        by_cases hu : t = u
        · subst hu
          exact ⟨j, hj, Config.set_task_self⟩
        · exact absurd ((Config.set_task_of_ne hu).trans hm') hsome
      | outside => exact absurd hm' hsome
    · exact ih hm'

theorem StronglyFair.weaklyFair (h : ρ.StronglyFair t) : ρ.WeaklyFair t :=
  fun n hen ↦ h n fun l hl ↦ ⟨l, le_rfl, hen l hl⟩

end Run

/-- A sequence of steps from a configuration that a run can reach is the rest of a run. -/
theorem Reachable.exists_run {w : σ × Γ} {x : S.Config} (h : S.Reachable w x) {f : ℕ → S.Config}
    (h₀ : f 0 = x)
    (hf : FairSchedule.Goes S.Step f) : ∃ (ρ : S.Run w) (n : ℕ), ∀ m, ρ.config (n + m) = f m := by
  obtain ⟨g, hg₀, hg, n, hn⟩ := FairSchedule.exists_goes h hf h₀
  exact ⟨⟨g, hg₀, hg⟩, n, hn⟩

end Threads
