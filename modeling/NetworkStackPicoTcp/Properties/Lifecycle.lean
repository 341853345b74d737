import NetworkStackPicoTcp.Invariants.Setup
import NetworkStackPicoTcp.Properties.Initialisation

/-!
# The life of the stack

What `getStatus` tells only ever rises, from `UNINITIALIZED` over `INITIALIZED` to `RUNNING`, or to
`FATAL_ERROR`, and what clients are told by their other calls fits it (`Life`), also after `run` has
given up. A stack that runs has the tables from which the threads of the component start, and it
runs from then on (`life_of_the_stack`).
-/

namespace NetworkStackPicoTcp

open Prog (Within wp)

/-- How far the stack has got. -/
def StackState.rank : StackState → ℕ
  | .uninitialized => 0
  | .initialized => 1
  | .running => 2
  | .fatalError => 3

namespace Startup

variable {pl : Platform} {asm : Assembly} {st st' : StackState} {w w' : World} {h : History}
  {x : Entry} {fuel : ℕ} {α : Type}

/-- The error with which `CHECK_IS_RUNNING` turns a call away. -/
def turnedAway (st : StackState) : OsError := if st = .fatalError then .aborted else .notInitialized

/-- The entry fits a stack in this state: `configIpAddr` is accepted only in `UNINITIALIZED`, and
the socket RPCs are turned away and do nothing. -/
def Entry.Fits (st : StackState) : Entry → Prop
  | .wrote _ s' => rpcSocketGetStatus s'.tables = st
  | .answer _ _ => True
  | .config _ err s => rpcSocketGetStatus s.tables = st ∧ (err = .success → st = .uninitialized)
  | .rpc _ r a done => a = ⟨turnedAway st, r.outputs⟩ ∧ done = []

/-- The history is the life of a stack that has got to this state. -/
inductive Life : StackState → History → Prop
  | nil : Life .uninitialized []
  | cons {st st' : StackState} {x : Entry} {h : History} (hlife : Life st h)
    (hle : st.rank ≤ st'.rank) (hx : x.Fits st') : Life st' (x :: h)

/-- The stack is in this state, and this is what its life has been. -/
def At (st : StackState) (w : World) : Prop := rpcSocketGetStatus w.1.tables = st ∧ Life st w.2

/-- The write leaves the state of the stack alone. -/
def Stays (f : StartupState → StartupState) : Prop :=
  ∀ s, (f s).tables.currentState = s.tables.currentState

/-! ### Clients -/

theorem firstError_checks_of_not_running (pl : Platform) (c : ℤ) (r : RpcCall) {s : NetworkStack}
    (hs : s.currentState ≠ .running) :
    firstError (r.checks pl c s) = some (turnedAway s.currentState) := by
  have hrun : checkIsRunning s = some (turnedAway s.currentState) := by
    unfold checkIsRunning turnedAway
    rw [if_neg hs]
    split_ifs <;> rfl
  cases r <;> rw [RpcCall.checks, hrun, firstError_cons_some]

/-- A client's call leaves the state alone and is answered as the state has it. -/
theorem At.client (hw : At st w) (hst : st ≠ .running) (hstep : ClientStep pl asm w w') :
    At st w' := by
  obtain ⟨hstate, hlife⟩ := hw
  cases hstep with
  | @config c s h =>
    have hs : s.tables.currentState = st := hstate
    rcases configIpAddr_cases asm c s with ⟨hne, heq⟩ | ⟨hn, heq⟩
    · refine ⟨?_, .cons hlife le_rfl ⟨hstate, fun h ↦ absurd h hne⟩⟩
      show (configIpAddr asm c s).2.tables.currentState = st
      rw [heq, hs]
    · have huninit : st = .uninitialized := by
        by_contra hne
        have hdenied : (configIpAddr asm c s).1 = .invalidState := by
          rw [configIpAddr, if_neg (by simp [hn]), if_pos (by rwa [hs])]
        rw [heq] at hdenied
        exact OsError.noConfusion hdenied
      refine ⟨?_, .cons hlife le_rfl ⟨hstate, fun _ ↦ huninit⟩⟩
      show (configIpAddr asm c s).2.tables.currentState = st
      rw [heq]
      exact hs
  | @rpc s h caller r a t done ho =>
    have hs : s.tables.currentState = st := hstate
    have hf := firstError_checks_of_not_running pl caller r (hs.trans_ne hst)
    obtain ⟨body, hbody⟩ := rpc_eq_guarded pl caller r
    rw [hbody] at ho
    obtain ⟨rfl, hw⟩ := ((outcome_guarded_of_error hf).1 _ _).1 ho
    obtain ⟨rfl, rfl⟩ := Prod.mk.inj hw
    exact ⟨hs, .cons hlife le_rfl ⟨by rw [hs], rfl⟩⟩

theorem At.clients (hw : At st w) (hst : st ≠ .running) (h : Clients pl asm w w') : At st w' := by
  induction h with
  | refl => exact hw
  | tail _ hstep ih => exact ih.client hst hstep

/-! ### The functions -/

/-- While `run` does not set the state, the life goes on in it. -/
theorem wp_stays {p : Code α} (hp : Within Stays (fun _ ↦ True) p) (hst : st ≠ .running)
    (hw : At st w) :
    wp (env pl asm) (fun _ ↦ At st) p (fun _ ↦ At st) w := by
  refine Prog.wp_mono (fun _ _ h ↦ h.2) (fun _ _ ↦ id)
    (Prog.wp_of_within (fun f w hf hw ↦ ?_) (fun e w b w' _ hw hcall ↦ ?_) hp hw)
  · have hstate : (f w.1).tables.currentState = st := (hf w.1).trans hw.1
    exact ⟨hstate, .cons hw.2 le_rfl hstate⟩
  · have hanswered : At st (w.1, .answer e b :: w.2) := ⟨hw.1, .cons hw.2 le_rfl trivial⟩
    exact hanswered.clients hst hcall

/-- `run` sets the state. -/
theorem At.setState (hw : At st w) (hle : st.rank ≤ st'.rank) :
    At st' ((env pl asm).write (StartupState.setState st') w) :=
  ⟨rfl, .cons hw.2 hle rfl⟩

theorem within_useHardcoded : Within Stays (fun _ ↦ True) (useHardcoded asm) := by
  unfold useHardcoded
  split
  · exact Prog.within_pure
  · exact Prog.within_modify fun _ ↦ rfl

theorem within_awaitConfig (fuel : ℕ) : Within Stays (fun _ ↦ True) (awaitConfig fuel) := by
  induction fuel with
  | zero => exact ⟨trivial, fun b ↦ b.elim⟩
  | succ fuel ih =>
    refine Prog.within_bind Prog.within_get fun s ↦ ?_
    split_ifs
    · exact Prog.within_bind (Prog.within_perform trivial) fun _ ↦ ih
    · exact Prog.within_pure

theorem within_nicStep {e : StartupCall} {k : e.Answer → Code OsError}
    (hk : ∀ b, Within Stays (fun _ ↦ True) (k b)) : Within Stays (fun _ ↦ True) (nicStep e k) := by
  refine Prog.within_bind (Prog.within_perform trivial) fun b ↦ ?_
  split_ifs
  · exact hk b
  · exact Prog.within_bind (Prog.within_modify fun _ ↦ rfl) fun _ ↦ Prog.within_pure

theorem within_picoNicInitialize (config : ConfigPtr) :
    Within Stays (fun _ ↦ True) (picoNicInitialize config) := by
  refine Prog.within_bind (Prog.within_modify fun _ ↦ rfl) fun _ ↦ ?_
  refine within_nicStep fun _ ↦ within_nicStep fun _ ↦ Prog.within_bind Prog.within_get fun _ ↦ ?_
  refine within_nicStep fun _ ↦ Prog.within_bind Prog.within_get fun _ ↦ ?_
  refine within_nicStep fun _ ↦ Prog.within_bind Prog.within_get fun _ ↦ ?_
  exact within_nicStep fun _ ↦ within_nicStep fun _ ↦ within_nicStep fun _ ↦ Prog.within_pure

theorem within_networkStackInit (config : Option ConfigPtr) :
    Within Stays (fun _ ↦ True) (networkStackInit asm config) := by
  cases config with
  | none => exact Prog.within_pure
  | some ptr =>
    refine Prog.within_bind (Prog.within_modify fun _ ↦ rfl) fun _ ↦ ?_
    refine Prog.within_bind (Prog.within_perform trivial) fun _ ↦ ?_
    refine Prog.within_bind (within_picoNicInitialize ptr) fun err ↦ ?_
    split_ifs
    · exact Prog.within_pure
    · exact Prog.within_pure

theorem within_fillClients (badges : List ℕ) (i : ℕ) :
    Within Stays (fun _ ↦ True) (fillClients asm badges i) := by
  induction badges generalizing i with
  | nil => exact Prog.within_pure
  | cons badge badges ih =>
    unfold fillClients
    split_ifs
    · exact Prog.within_bind (Prog.within_modify fun _ ↦ rfl) fun _ ↦ ih _
    · exact Prog.within_pure

theorem within_initializeNetworkStack :
    Within Stays (fun _ ↦ True) (initializeNetworkStack asm) := by
  unfold initializeNetworkStack
  split_ifs
  · exact Prog.within_pure
  · exact Prog.within_pure
  · refine Prog.within_bind (within_fillClients _ _) fun err ↦ ?_
    split_ifs
    · exact Prog.within_pure
    · exact Prog.within_bind Prog.within_get fun s ↦ within_networkStackInit _

/-- The stack is in some state that is its life's. -/
def Lives (w : World) : Prop := At w.1.tables.currentState w

theorem At.lives (hw : At st w) : Lives w := by
  have hst : w.1.tables.currentState = st := hw.1
  rw [Lives, hst]
  exact hw

/-- A part of `run` that does not set the state, and what comes behind it. -/
theorem wp_stays_bind {β : Type} {p : Code α} {k : α → Code β} {Q : β → World → Prop}
    (hp : Within Stays (fun _ ↦ True) p) (hst : st ≠ .running) (hw : At st w)
    (hk : ∀ a w', At st w' → wp (env pl asm) (fun _ ↦ Lives) (k a) Q w') :
    wp (env pl asm) (fun _ ↦ Lives) (p >>= k) Q w :=
  Prog.wp_bind.2 (Prog.wp_mono (fun _ _ ↦ At.lives) hk (wp_stays hp hst hw))

/-- Whatever `run` asks for and however it ends, the history is the life of the stack. -/
theorem wp_life (pl : Platform) (asm : Assembly) (fuel : ℕ) :
    wp (env pl asm) (fun _ ↦ Lives) (run asm fuel) (fun _ ↦ Lives) World.init := by
  have huninit : StackState.uninitialized ≠ .running := by decide
  have hinitialized : StackState.initialized ≠ .running := by decide
  have hbegin : At .uninitialized World.init := ⟨rfl, .nil⟩
  have hpreempt : Within Stays (fun _ ↦ True) (issue .preempt) := Prog.within_perform trivial
  refine Prog.wp_bind.2 (Prog.wp_modify.2 ?_)
  refine wp_stays_bind within_useHardcoded huninit (hbegin.setState le_rfl) fun _ w₁ h₁ ↦ ?_
  refine wp_stays_bind hpreempt huninit h₁ fun _ w₂ h₂ ↦ ?_
  refine wp_stays_bind (within_awaitConfig fuel) huninit h₂ fun _ w₃ h₃ ↦ ?_
  refine wp_stays_bind within_initializeNetworkStack huninit h₃ fun ret w₄ h₄ ↦ ?_
  split_ifs
  · exact Prog.wp_bind.2 (Prog.wp_modify.2 (h₄.setState (by decide)).lives)
  · refine Prog.wp_bind.2 (Prog.wp_modify.2 ?_)
    have h₅ : At .initialized ((env pl asm).write (StartupState.setState .initialized) w₄) :=
      h₄.setState (by decide)
    refine wp_stays_bind hpreempt hinitialized h₅ fun _ w₆ h₆ ↦ Prog.wp_bind.2 (Prog.wp_modify.2 ?_)
    have h₇ : At .running ((env pl asm).write (StartupState.setState .running) w₆) :=
      h₆.setState (by decide)
    refine Prog.wp_bind.2 (Prog.wp_bind.2 (Prog.wp_get.2 ?_))
    split_ifs
    · exact Prog.wp_bind.2 (Prog.wp_modify.2 (h₇.setState (by decide)).lives)
    · exact ⟨h₇.lives, fun b ↦ b.elim⟩

/-- **The life of the stack**, at every call of `run` and, with clients calling on, after it has
returned. -/
theorem life_of_the_stack
    (hw : (∃ e, Prog.CallAt (env pl asm) (run asm fuel) World.init e w) ∨
      ∃ a w₀, Prog.Outcome (env pl asm) (run asm fuel) World.init a w₀ ∧ Clients pl asm w₀ w) :
    Life (rpcSocketGetStatus w.1.tables) w.2 ∧
      (rpcSocketGetStatus w.1.tables = .running →
        ∃ hfit : ClientsFit asm, w.1.tables = (config asm hfit).init ∧
          ∀ x, Component.Reachable pl (config asm hfit) x →
          rpcSocketGetStatus x.world.1 = .running) := by
  rcases hw with ⟨e, hat⟩ | ⟨a, w₀, hout, hclients⟩
  · have hlives : Lives w := Prog.callAt_of_wp (C := fun _ ↦ Lives) (wp_life pl asm fuel) hat
    refine ⟨hlives.2, fun hrun ↦ ?_⟩
    obtain ⟨htables, hfit, -⟩ := ready_of_callAt hat hrun
    exact ⟨hfit, htables.trans (readyTables_running hfit),
      fun x hx ↦ (Component.kept_of_reachable hx).currentState⟩
  · -- `run` returns only in `FATAL_ERROR`, and no client changes that
    have hlives : Lives w₀ := Prog.outcome_of_wp (Q := fun _ ↦ Lives) (wp_life pl asm fuel) hout
    obtain ⟨-, hgave⟩ := Prog.outcome_of_wp (wp_run pl asm fuel) hout
    have hat : At .fatalError w :=
      At.clients ⟨hgave.state, hgave.state ▸ hlives.2⟩ (by decide) hclients
    have hstate : rpcSocketGetStatus w.1.tables = .fatalError := hat.1
    rw [hstate]
    exact ⟨hat.2, fun hrun ↦ StackState.noConfusion hrun⟩

/-- The NIC does not tell its MAC address. -/
def nameless : (e : StartupCall) → Option e.Answer
  | .getMacAddress => some OsError.generic
  | e => smooth 0 e

/-- Start-up has failed. -/
def sampleFailed : World :=
  ((Prog.eval (fun s s' h ↦ .wrote s s' :: h) (answering sampleAssembly nameless sampleQuietCalls)
    (run sampleAssembly 1) World.init).map Prod.snd).getD World.init

/-- If all steps succeed, the stack comes to run, and runs on. If the NIC fails, the stack gives up,
and a `listen` of client 101 is aborted. -/
theorem life_of_the_stack_sampleFailed :
    (Life .running (started sampleAssembly (smooth 0) sampleQuietCalls).2 ∧
      ∃ hfit : ClientsFit sampleAssembly,
        ∀ x, Component.Reachable samplePlatform (config sampleAssembly hfit) x →
          rpcSocketGetStatus x.world.1 = .running) ∧
      Life .fatalError (.rpc 101 (.listen 0 5) ⟨.aborted, {}⟩ [] :: sampleFailed.2) := by
  have hlistened : Clients samplePlatform sampleAssembly sampleFailed
      (sampleFailed.1, .rpc 101 (.listen 0 5) ⟨.aborted, {}⟩ [] :: sampleFailed.2) :=
    .single (.rpc (t := sampleFailed.1.tables) ⟨rfl, rfl⟩)
  have heval : Prog.eval (fun s s' h ↦ .wrote s s' :: h)
      (answering sampleAssembly nameless sampleQuietCalls)
        (run sampleAssembly 1) World.init = some (-1, sampleFailed) := rfl
  have hout : Prog.Outcome (env samplePlatform sampleAssembly) (run sampleAssembly 1) World.init
      (-1) sampleFailed :=
    Prog.outcome_of_eval (fun _ _ _ _ ↦ onCall_answering) heval
  refine ⟨?_, (life_of_the_stack (Or.inr ⟨_, _, hout, hlistened⟩)).1⟩
  have hstart : start sampleAssembly (smooth 0) sampleQuietCalls =
      some (.mainLoop, started sampleAssembly (smooth 0) sampleQuietCalls) := rfl
  obtain ⟨hlife, hruns⟩ := life_of_the_stack (Or.inl ⟨_, callAt_of_start samplePlatform hstart⟩)
  obtain ⟨hfit, -, hon⟩ := hruns rfl
  exact ⟨hlife, hfit, hon⟩

end Startup

end NetworkStackPicoTcp
