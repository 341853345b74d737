import NetworkStackPicoTcp.Model.Component

/-!
# The steps of the component are its threads' jobs

`System` takes an RPC and an iteration of the main loop as one step each, and computes a callback
and a notification pass as functions of the tables. The threads of `Component` execute the same code
statement by statement. When they take their turns one job at a time, what they do is what those
steps say (`Component.serial_refines`): they make the same tables, issue the same calls to picoTCP
with the same answers, give the same replies and signal the same clients, in the same order. So what
is proved of the runs of `System` with `Schedule.atomic` is true of such runs of the threads.
-/

namespace NetworkStackPicoTcp

namespace NetworkStack

variable {s : NetworkStack} {i k : ℕ}

theorem updateSocket_eq_self {f : SocketResources → SocketResources}
    (h : f (s.sockets i) = s.sockets i) :
    s.updateSocket i f = s := by
  rw [updateSocket, h, Function.update_eq_self]

theorem updateClient_eq_self {f : Client → Client} (h : f (s.clients k) = s.clients k) :
    s.updateClient k f = s := by
  rw [updateClient, h, Function.update_eq_self]

/-- Two updates of one slot are one. -/
theorem updateSocket_updateSocket {f g : SocketResources → SocketResources} :
    (s.updateSocket i f).updateSocket i g = s.updateSocket i fun r ↦ g (f r) := by
  simp [updateSocket]

/-- Two updates of one client are one. -/
theorem updateClient_updateClient {f g : Client → Client} :
    (s.updateClient k f).updateClient k g = s.updateClient k fun c ↦ g (f c) := by
  simp [updateClient]

end NetworkStack

namespace Component

open Relation (ReflTransGen)

variable {pl : Platform} {cfg : NetworkStackPicoTcp.Config} {s : NetworkStack} {γ : Shared}
  {w w' : World}
  {i j k : ℕ} {js ks : List ℕ} {ev : PicoEvent} {evs : List PicoEvent} {bit : OsSockEv}

/-- What the code of the control thread does when it runs alone. -/
abbrev does {α : Type} (p : Loop α) (Q : World → Prop) (w : World) : Prop :=
  Prog.wp loopEnv (fun _ _ ↦ True) p (fun _ ↦ Q) w

/-! ### The callback -/

/-- Statements that update one slot. -/
abbrev updates (i : ℕ) (p : Loop Unit) (f : SocketResources → SocketResources) : Prop :=
  ∀ w, does p (fun w' ↦ w' = (w.1.updateSocket i f, w.2)) w

theorem does_raiseIf {b : Bool} : updates i (raiseIf b i bit) (SocketResources.raiseIf b bit) := by
  intro w
  cases b with
  | true => rfl
  | false => exact Prod.ext (NetworkStack.updateSocket_eq_self rfl).symm rfl

theorem does_recordConn : updates i (recordConn ev i) (SocketResources.recordConn ev) := by
  intro w
  unfold recordConn
  split_ifs with hc hl
  · simp only [does, Prog.wp_bind, raise, Prog.wp_modify]
    refine Prod.ext ?_ rfl
    simp only [Env.write_fst, NetworkStack.updateSocket_updateSocket]
    refine congrArg _ (funext fun r ↦ ?_)
    rw [SocketResources.recordConn, if_pos hc, if_pos hl]
    rfl
  · simp only [does, Prog.wp_bind, raise, Prog.wp_modify]
    refine Prod.ext ?_ rfl
    simp only [Env.write_fst, NetworkStack.updateSocket_updateSocket]
    refine congrArg _ (funext fun r ↦ ?_)
    rw [SocketResources.recordConn, if_pos hc, if_neg hl]
    rfl
  · refine Prod.ext (NetworkStack.updateSocket_eq_self ?_).symm rfl
    rw [SocketResources.recordConn, if_neg hc]

/-- The two reads of `pico_err` agree when nothing happens between them. -/
theorem does_recordErr (herr : w.2.picoErr = ev.picoErr) :
    does (recordErr ev i)
      (fun w' ↦ w' = (w.1.updateSocket i (SocketResources.recordErr ev), w.2)) w := by
  unfold recordErr
  split_ifs with he
  · simp only [does, Prog.wp_bind, Prog.wp_perform, raise, Prog.wp_modify]
    refine ⟨trivial, ?_⟩
    rintro e _ ⟨rfl, rfl⟩
    refine ⟨trivial, ?_⟩
    rintro e _ ⟨rfl, rfl⟩
    refine Prog.wp_mono (fun _ _ ↦ id) (fun _ w' hw' ↦ ?_) (does_raiseIf _)
    subst hw'
    refine Prod.ext ?_ rfl
    simp only [Env.write_fst, NetworkStack.updateSocket_updateSocket]
    refine congrArg _ (funext fun r ↦ ?_)
    rw [SocketResources.recordErr, if_pos he, ← herr]
    rfl
  · refine Prod.ext (NetworkStack.updateSocket_eq_self ?_).symm rfl
    rw [SocketResources.recordErr, if_neg he]

theorem does_flagOwner :
    does (flagOwner i) (fun w' ↦ w.1.flagOwner i = some w'.1 ∧ w'.2 = w.2) w := by
  simp only [does, flagOwner, Prog.wp_bind, Prog.wp_get, NetworkStack.flagOwner]
  cases w.1.getClientFromClientId (w.1.sockets i).clientId with
  | none => exact ⟨trivial, fun b ↦ b.elim⟩
  | some k => exact ⟨rfl, rfl⟩

/-- **The callback, statement by statement, is the function of the tables.** Where it closes a
socket without a handle, picoTCP may run further callbacks. -/
theorem does_handlePicoSocketEvent (herr : w.2.picoErr = ev.picoErr) :
    does (handlePicoSocketEvent ev)
      (fun w' ↦ (∃ s₁, w.1.handlePicoSocketEvent ev = some s₁ ∧ Nested s₁ w'.1) ∧
      w'.2.log = w.2.log) w := by
  simp only [does, handlePicoSocketEvent, Prog.wp_bind, Prog.wp_get,
    NetworkStack.handlePicoSocketEvent]
  cases w.1.getHandleFromImplementationSocket ev.socket with
  | none =>
    show does (closeOrphan ev) _ w
    unfold closeOrphan
    split_ifs
    · refine ⟨trivial, fun b w' hb ↦ ?_⟩
      obtain ⟨hn, err, -, hγ⟩ := hb
      exact ⟨⟨w.1, rfl, hn⟩, by rw [hγ]⟩
    · exact ⟨⟨w.1, rfl, .refl⟩, rfl⟩
  | some i =>
    have hthen :
        ∀ {p : Loop Unit} {f : SocketResources → SocketResources} {w : World} {Q : World → Prop},
          updates i p f → Q (w.1.updateSocket i f, w.2) → does p Q w := by
      refine fun hp hQ ↦ Prog.wp_mono (fun _ _ ↦ id) (fun _ w' hw' ↦ ?_) (hp _)
      obtain rfl : w' = _ := hw'
      exact hQ
    simp only [Prog.wp_bind]
    refine hthen does_recordConn
      (hthen does_raiseIf (hthen does_raiseIf (hthen does_raiseIf (hthen does_raiseIf ?_))))
    refine Prog.wp_mono (fun _ _ ↦ id) (fun _ w₁ hw₁ ↦ ?_) (does_recordErr herr)
    refine Prog.wp_mono (fun _ _ ↦ id) (fun _ w₂ hw₂ ↦ ?_) does_flagOwner
    subst hw₁
    refine ⟨⟨w₂.1, ?_, .refl⟩, by rw [hw₂.2]⟩
    rw [← hw₂.1]
    simp only [NetworkStack.updateSocket_updateSocket]
    rfl

theorem does_callbacks (hne : ∀ ev ∈ evs, ev.socket ≠ none) :
    does (callbacks evs) (fun w' ↦ Nested w.1 w'.1 ∧ w'.2.log = w.2.log) w := by
  induction evs generalizing w with
  | nil => exact ⟨.refl, rfl⟩
  | cons ev evs ih =>
    obtain ⟨hev, hevs⟩ := List.forall_mem_cons.1 hne
    simp only [does, callbacks, Prog.wp_bind, Prog.wp_perform]
    refine ⟨trivial, ?_⟩
    rintro b _ rfl
    refine Prog.wp_mono (fun _ _ ↦ id) (fun _ w₁ hw₁ ↦ ?_) (does_handlePicoSocketEvent rfl)
    obtain ⟨⟨s₁, hs₁, hn₁⟩, hlog₁⟩ := hw₁
    refine Prog.wp_mono (fun _ _ ↦ id) (fun _ w₂ hw₂ ↦ ?_) (ih hevs)
    exact ⟨(ReflTransGen.head ⟨ev, hev, hs₁⟩ hn₁).trans hw₂.1, hw₂.2.trans hlog₁⟩

/-! ### What is seen from outside -/

/-- What the clients see, and picoTCP of the RPCs. The `pico_socket_close` that a callback makes for
a socket without a handle is not recorded. -/
inductive Seen
  | answer (caller : ℤ) (r : RpcCall) (e : Call) (b : e.Answer)
  | reply (caller : ℤ) (r : RpcCall) (a : Reply)
  | signalled (k : ℕ)

/-- What is seen of an entry of the log. -/
def Entry.seen : Entry → List Seen
  | .answer c r e b => [.answer c r e b]
  | .reply c r a => [.reply c r a]
  | .signalled k => [.signalled k]
  | _ => []

/-- What is seen of an entry of the history of `System`, newest first. -/
def seenOfStep : NetworkStackPicoTcp.Entry → List Seen
  | .answer c r e b _ => [.answer c r e b]
  | .reply c r a _ => [.reply c r a]
  | .notified s _ => (s.notifyClientsAboutPendingEvents.2.map .signalled).reverse
  | _ => []

/-- What is seen of a log. -/
def seen (log : List Entry) : List Seen := log.flatMap Entry.seen

/-- What is seen of a history. -/
def seenOfRun (h : History) : List Seen := h.flatMap seenOfStep

@[simp] theorem seen_cons {x : Entry} {log : List Entry} : seen (x :: log) = x.seen ++ seen log :=
  List.flatMap_cons

@[simp] theorem seenOfRun_cons {x : NetworkStackPicoTcp.Entry} {h : History} :
    seenOfRun (x :: h) = seenOfStep x ++ seenOfRun h :=
  List.flatMap_cons

/-- Nothing is seen of a callback. -/
theorem callbacks_of_nested {s s' : NetworkStack} (hn : Nested s s') (h : History) :
    ∃ h', Callbacks (s, h) (s', h') ∧ seenOfRun h' = seenOfRun h := by
  induction hn with
  | refl => exact ⟨h, .refl, rfl⟩
  | tail _ hcb ih =>
    obtain ⟨h₁, hcbs, hseen⟩ := ih
    obtain ⟨ev, hne, hev⟩ := hcb
    exact ⟨.event ev _ _ :: h₁, hcbs.tail ⟨ev, hne, hev, rfl⟩, hseen⟩

/-! ### The notification pass -/

/-- The pass has come to `st`, with `l` seen before it. -/
def Sync (l : List Seen) (st : NetworkStack × List ℕ) (w : World) : Prop :=
  w.1 = st.1 ∧ seen w.2.log = (st.2.map Seen.signalled).reverse ++ l

theorem does_scanSockets :
    does (scanSockets k js) (fun w' ↦ w' = (if (js.any fun j ↦ w.1.hasPendingEvents j k) = true then
      w.1.updateClient k Client.flag else w.1, w.2)) w := by
  induction js generalizing w with
  | nil => rfl
  | cons j js ih =>
    simp only [does, scanSockets, Prog.wp_bind, Prog.wp_get, List.any_cons, Bool.or_eq_true]
    by_cases hj : w.1.hasPendingEvents j k = true
    · rw [if_pos hj]
      refine Prog.wp_mono (fun _ _ ↦ id) (fun _ w' hw' ↦ ?_) ih
      obtain rfl : w' = _ := hw'
      have htwice : (w.1.updateClient k Client.flag).updateClient k Client.flag =
          w.1.updateClient k Client.flag := NetworkStack.updateClient_updateClient
      rw [if_pos (Or.inl hj), Env.write_fst, htwice, ite_self]
      rfl
    · rw [if_neg hj]
      simp only [hj, Bool.false_eq_true, false_or]
      exact ih

/-- When a client in use is due. -/
theorem isDue_of_inUse (hin : (s.clients k).inUse = true) :
    s.isDue k = ((s.clients k).needsToBeNotified ||
      (List.range s.numberOfSockets).any fun j ↦ s.hasPendingEvents j k) := by
  rw [Bool.eq_iff_iff]
  simp [NetworkStack.isDue, hin]

/-- The second half of what is done for a client: if the first half has left its flag up, it is told
and its flag taken down. -/
theorem does_lower {l : List Seen} {st : NetworkStack × List ℕ}
    (hseen : seen w.2.log = (st.2.map Seen.signalled).reverse ++ l)
    (hdue : st.1.isDue k = true → w.1 = st.1.updateClient k Client.flag)
    (hnot : st.1.isDue k = false → w.1 = st.1 ∧ (st.1.clients k).needsToBeNotified = false) :
    does (Prog.get >>= fun s ↦
        if (s.clients k).needsToBeNotified = true then do
          if (s.clients k).eventNotify = true then
            ask (.eventNotify k)
          Prog.modify fun s ↦ s.updateClient k fun c ↦ { c with needsToBeNotified := false }
        else pure ())
      (Sync l (NetworkStack.notifyClient st k)) w := by
  simp only [does, Prog.wp_bind, Prog.wp_get, NetworkStack.notifyClient]
  cases hd : st.1.isDue k with
  | false =>
    obtain ⟨hw, hflag⟩ := hnot hd
    rw [hw, if_neg (by simp [hflag]), if_neg Bool.false_ne_true]
    exact ⟨hw, hseen⟩
  | true =>
    obtain ⟨s', γ⟩ := w
    obtain rfl : s' = st.1.updateClient k Client.flag := hdue hd
    rw [if_pos (by simp [Client.flag]), if_pos rfl]
    have hlower : (st.1.updateClient k Client.flag).updateClient k
        (fun c ↦ { c with needsToBeNotified := false }) =
        st.1.updateClient k fun c ↦ { c with needsToBeNotified := false } :=
      NetworkStack.updateClient_updateClient
    have hnotify : ((st.1.updateClient k Client.flag).clients k).eventNotify =
        (st.1.clients k).eventNotify := by
      simp [Client.flag]
    simp only [hnotify]
    split_ifs
    · refine ⟨trivial, ?_⟩
      rintro b _ rfl
      refine ⟨hlower, ?_⟩
      show seen (.signalled k :: γ.log) = _
      rw [seen_cons, hseen]
      simp [Entry.seen]
    · exact ⟨hlower, hseen⟩

/-- What is done for a client in use is an iteration of the pass. -/
theorem does_notifyUsed {l : List Seen} {st : NetworkStack × List ℕ} (h : Sync l st w)
    (hin : (st.1.clients k).inUse = true) :
    does (notifyUsed k) (Sync l (NetworkStack.notifyClient st k)) w := by
  obtain ⟨hw, hseen⟩ := h
  have hdue := isDue_of_inUse hin
  simp only [does, notifyUsed, Prog.wp_bind, Prog.wp_get, hw]
  split_ifs with hflag
  · rw [hflag, Bool.false_or, ← hw] at hdue
    refine Prog.wp_bind.2 (Prog.wp_mono (fun _ _ ↦ id) (fun _ w₁ hw₁ ↦ ?_) does_scanSockets)
    rw [← hw, ← hdue, hw] at hw₁
    obtain rfl : w₁ = _ := hw₁
    exact does_lower hseen (fun hd ↦ if_pos hd) fun hd ↦ ⟨if_neg (by simp [hd]), hflag⟩
  · have hup := Bool.eq_true_of_not_eq_false hflag
    rw [hup, Bool.true_or] at hdue
    refine does_lower hseen (fun _ ↦ hw.trans (NetworkStack.updateClient_eq_self ?_).symm)
      fun hd ↦ absurd (hdue.symm.trans hd) (by simp)
    rw [Client.flag, ← hup]

theorem does_notifyClients {l : List Seen} {st : NetworkStack × List ℕ} (h : Sync l st w) :
    does (notifyClients ks) (Sync l (ks.foldl NetworkStack.notifyClient st)) w := by
  induction ks generalizing w st with
  | nil => exact h
  | cons k ks ih =>
    simp only [does, notifyClients, Prog.wp_bind, Prog.wp_get, h.1, List.foldl_cons]
    split_ifs with hin
    · exact Prog.wp_bind.2
        (Prog.wp_mono (fun _ _ ↦ id) (fun _ _ h₁ ↦ ih h₁) (does_notifyUsed h hin))
    · have hnot : NetworkStack.notifyClient st k = st := by
        rw [NetworkStack.notifyClient, if_neg]
        simp [NetworkStack.isDue, hin]
      rw [hnot]
      exact ih h

/-! ### Whole jobs -/

/-- **An iteration of the main loop, statement by statement, is the step of `System`.** -/
theorem mainLoopIteration_of_outcome {u : Unit} (hne : ∀ ev ∈ evs, ev.socket ≠ none)
    (ho : Prog.Outcome loopEnv (iteration evs) w u w') (h : History) :
    ∃ h', MainLoopIteration (w.1, h) (w'.1, h') ∧
      (seen w.2.log = seenOfRun h → seen w'.2.log = seenOfRun h') := by
  refine Prog.outcome_of_wp (Q := fun _ w' ↦ ∃ h', MainLoopIteration (w.1, h) (w'.1, h') ∧
      (seen w.2.log = seenOfRun h → seen w'.2.log = seenOfRun h')) (C := fun _ _ ↦ True) ?_ ho
  simp only [iteration, work, notifyClientsAboutPendingEvents, Prog.wp_bind, Prog.wp_perform,
    Prog.wp_get]
  refine ⟨trivial, ?_⟩
  rintro _ _ ⟨-, rfl⟩
  refine ⟨trivial, ?_⟩
  rintro _ _ ⟨-, rfl⟩
  refine ⟨trivial, ?_⟩
  rintro _ _ rfl
  refine Prog.wp_mono (fun _ _ ↦ id) (fun _ w₁ hw₁ ↦ ?_) (does_callbacks hne)
  obtain ⟨hnested, hlog⟩ := hw₁
  obtain ⟨h₁, hcbs, hseen₁⟩ := callbacks_of_nested hnested h
  have hsync : Sync (seen w₁.2.log) (w₁.1, []) w₁ := ⟨rfl, rfl⟩
  refine Prog.wp_mono (fun _ _ ↦ id) (fun _ w₂ hw₂ ↦ ⟨trivial, ?_⟩) (does_notifyClients hsync)
  rintro _ _ rfl
  obtain ⟨hs₂, hseen₂⟩ : w₂.1 = w₁.1.notifyClientsAboutPendingEvents.1 ∧
    seen w₂.2.log = (w₁.1.notifyClientsAboutPendingEvents.2.map Seen.signalled).reverse ++ seen
      w₁.2.log := hw₂
  refine ⟨.notified w₁.1 w₁.1.notifyClientsAboutPendingEvents.1 :: h₁, ⟨(w₁.1, h₁), hcbs, ?_⟩,
    fun heq ↦ ?_⟩
  · rw [hs₂]
  · show seen w₂.2.log = _
    rw [hseen₂, hlog, seenOfRun_cons, hseen₁, ← heq]
    rfl

/-- **An RPC that nobody disturbs is the step of `System`.** -/
theorem rpc_of_outcome {c : ℤ} {r : RpcCall} {a : Reply}
    (ho : Prog.Outcome (rpcEnv c r) (rpc pl c r) w a w')
    {h : History} (heq : seen w.2.log = seenOfRun h) :
    ∃ h', Prog.Outcome (NetworkStackPicoTcp.rpcEnv .atomic c r) (rpc pl c r) (w.1, h) a (w'.1, h') ∧
      seen w'.2.log = seenOfRun h' := by
  refine Prog.outcome_simulates (R := fun (γ : Shared) h ↦ seen γ.log = seenOfRun h) (fun hR ↦ hR)
    ?_ ho heq
  rintro e s γ b s' γ' δ ⟨⟨s₁, γ₁⟩, hret, heq₁⟩ hR
  obtain ⟨rfl, rfl⟩ := Prod.mk.inj heq₁
  -- what happens to the tables during the call
  obtain ⟨δ₁, hint, hlog⟩ : ∃ δ₁, Interference .atomic e (s, δ) (s', δ₁) ∧
      seen γ₁.log = seenOfRun δ₁ := by
    cases e with
    | pico pc =>
      obtain ⟨hn, err, -, hγ⟩ := hret
      obtain ⟨δ₁, hcbs, hseen⟩ := callbacks_of_nested hn δ
      refine ⟨δ₁, hcbs, ?_⟩
      obtain rfl : γ₁ = { γ with picoErr := err } := hγ
      exact hR.trans hseen.symm
    | lock m =>
      obtain ⟨-, hw⟩ := hret
      obtain ⟨rfl, rfl⟩ := Prod.mk.inj hw
      exact ⟨δ, interference_refl _ _ _, hR⟩
    | picoErr =>
      obtain ⟨-, hw⟩ := hret
      obtain ⟨rfl, rfl⟩ := Prod.mk.inj hw
      exact ⟨δ, interference_refl _ _ _, hR⟩
    | unlock | notifyMainLoop | stringToIpv4 | putEvent | preempt =>
      obtain ⟨rfl, rfl⟩ := Prod.mk.inj hret
      exact ⟨δ, interference_refl _ _ _, hR⟩
    | nullDeref | diverge => exact b.elim
  refine ⟨.answer c r e b s' :: δ₁, ⟨_, hint, rfl⟩, ?_⟩
  show seen (.answer c r e b :: γ₁.log) = _
  rw [seen_cons, hlog, seenOfRun_cons]
  rfl

/-- The ticker leaves the tables alone, and nothing is seen of it. -/
theorem quiet_of_outcome {j : TickerJob} {a : ℤ}
    (ho : Prog.Outcome tickerEnv (tickerRun j) w a w') :
    w'.1 = w.1 ∧ w'.2.log = w.2.log := by
  refine Prog.outcome_of_wp (Q := fun _ w' ↦ w'.1 = w.1 ∧ w'.2.log = w.2.log) (C := fun _ _ ↦ True)
    ?_ ho
  cases j with
  | setUp =>
    simp only [tickerRun, Prog.wp_bind, Prog.wp_perform]
    refine ⟨trivial, ?_⟩
    rintro ret _ rfl
    split_ifs
    · exact ⟨rfl, rfl⟩
    · exact ⟨rfl, rfl⟩
  | round =>
    simp only [tickerRun, Prog.wp_bind, Prog.wp_perform]
    refine ⟨trivial, ?_⟩
    rintro _ _ ⟨-, rfl⟩
    refine ⟨trivial, ?_⟩
    rintro _ _ rfl
    exact ⟨rfl, rfl⟩

theorem exists_history (h : ReflTransGen (system pl).SerialStep (cfg.init, Shared.init) w) :
    ∃ hist, NetworkStackPicoTcp.Reachable pl .atomic cfg (w.1, hist) ∧
      seen w.2.log = seenOfRun hist := by
  induction h with
  | refl => exact ⟨[], .refl, rfl⟩
  | @tail w₁ w₂ _ hs ih =>
    obtain ⟨hist, hreach, heq⟩ := ih
    cases hs with
    | @job t j _ w₂ a hj ho =>
      cases t with
      | rpc =>
        obtain ⟨c, r⟩ := j
        obtain ⟨h', ho', heq'⟩ := rpc_of_outcome (h := .begin c r w₁.1 :: hist) ho heq
        refine ⟨.reply c r a w₂.1 :: h', hreach.tail (.rpc hj ho'), ?_⟩
        show seen (.reply c r a :: w₂.2.log) = _
        rw [seen_cons, heq', seenOfRun_cons]
        rfl
      | control =>
        obtain ⟨h', hstep, heq'⟩ := mainLoopIteration_of_outcome (w := w₁) hj ho hist
        exact ⟨h', hreach.tail (.mainLoop hstep), heq' heq⟩
      | ticker =>
        obtain ⟨htables, hlog⟩ := quiet_of_outcome ho
        refine ⟨hist, ?_, (congrArg seen hlog).trans heq⟩
        show NetworkStackPicoTcp.Reachable pl .atomic cfg (w₂.1, hist)
        rw [htables]
        exact hreach
    | outside ho =>
      rcases ho with rfl | rfl
      · exact ⟨hist, hreach, heq⟩
      · exact ⟨hist, hreach, heq⟩

/-- **Runs of the threads that take their turns one job at a time are runs of `System`**: they leave
the same tables, and the same is seen of them. -/
theorem serial_refines (h : ReflTransGen (system pl).SerialStep (cfg.init, Shared.init) w) :
    Reachable pl cfg (Threads.Config.idle (system pl) w) ∧
      ∃ hist, NetworkStackPicoTcp.Reachable pl .atomic cfg (w.1, hist) ∧
      seen w.2.log = seenOfRun hist :=
  ⟨Threads.reachable_of_serial h, exists_history h⟩

/-- Client 101 has opened a socket, and nothing else has happened. -/
theorem serial_sampleOpened :
    ReflTransGen (system samplePlatform).SerialStep ((sampleConfig 2).init, Shared.init)
      sampleOpened.world := by
  have hmay : (system samplePlatform).mayStart .rpc (101, sampleCreate) sampleIdle.world := ⟨0, rfl⟩
  have hserve : ∃ a w, serve samplePlatform 101 sampleCreate (obliging (some 7) none)
      sampleIdle.world = some (a, w) ∧
        sampleOpened.world = (w.1, w.2.record (.reply 101 sampleCreate a)) := ⟨_, _, rfl, rfl⟩
  obtain ⟨a, w, hserve, hworld⟩ := hserve
  have hjob : (system samplePlatform).SerialStep sampleIdle.world
      (w.1, w.2.record (.reply 101 sampleCreate a)) :=
    Threads.SerialStep.job (S := system samplePlatform) (t := ThreadId.rpc)
      (j := (101, sampleCreate)) (a := a)
      hmay (outcome_of_serve hserve)
  rw [hworld]
  exact .single hjob

theorem serial_refines_create :
    Reachable samplePlatform (sampleConfig 2)
      (Threads.Config.idle (system samplePlatform) sampleOpened.world) ∧
      ∃ hist, NetworkStackPicoTcp.Reachable samplePlatform .atomic (sampleConfig 2)
        (sampleOpened.world.1, hist) ∧
        seen sampleOpened.world.2.log = seenOfRun hist :=
  serial_refines serial_sampleOpened

end Component

end NetworkStackPicoTcp
