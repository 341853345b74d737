import NetworkStackPicoTcp.Invariants.Reachable
import NetworkStackPicoTcp.Invariants.Thread

/-!
# Every RPC is orderly

The operations and the RPCs, walked through for what each entry owes to the ones before it
(`conducts_rpc`). With it, the history of every world that a run passes through is orderly
(`visited_orderly`).
-/

namespace NetworkStackPicoTcp

open Prog (wp)

variable {pl : Platform} {sched : Schedule} {c : ℤ} {r : RpcCall} {w w' : World} {α : Type}

/-! ### Operations on an open socket -/

/-- The thread holds nothing. -/
structure Thread.Idle (t : Thread) : Prop where
  held : t.held = []
  justRead : t.justRead = none
  acquired : t.acquired = none
  reserved : t.reserved = none

/-- The thread is in the middle of this RPC, has been orderly and holds nothing. -/
structure Rested (pl : Platform) (c : ℤ) (r : RpcCall)
    (w : World) : Prop extends OnDuty pl c r w where
  idle : (thread w.2).Idle

/-- Calls of picoTCP that neither hand out nor close a socket. -/
def PicoCall.isPlain : PicoCall → Bool
  | socketOpen _ _ | accept _ | close _ => false
  | _ => true

theorem Thread.called_of_isPlain {t : Thread} {pc : PicoCall} {b : pc.Answer}
    (h : pc.isPlain = true) :
    t.called pc b = { t with justRead := none, lastCall := some ⟨pc, b⟩ } := by
  cases pc <;> first | rfl | exact absurd h Bool.false_ne_true

/-- Calls that have nothing to do with mutexes or picoTCP. -/
def Call.isAside : Call → Bool
  | .lock _ | .unlock _ | .pico _ | .picoErr => false
  | _ => true

theorem Thread.answered_of_isAside {t : Thread} {e : Call} {b : e.Answer} (h : e.isAside = true) :
    t.answered e b = t.interrupted := by
  cases e <;> first | rfl | exact absurd h Bool.false_ne_true

theorem Thread.allows_of_isAside {t : Thread} {s : NetworkStack} {e : Call} (h : e.isAside = true) :
    t.Allows r s e := by
  cases e <;> trivial

/-- A call that has nothing to do with mutexes or picoTCP leaves the thread as it was. -/
theorem conducts_aside {e : Call} {Q : e.Answer → World → Prop} (he : e.isAside = true)
    (hd : Rested pl c r w)
    (h : ∀ b w', Rested pl c r w' → SameFrame w.1 w'.1 → Q b w') :
    conducts pl sched c r (request e) Q w := by
  refine conducts_request hd.toOnDuty (Thread.allows_of_isAside he) fun b w₁ h₁ ↦ ?_
  refine h b w₁ ⟨h₁.toOnDuty, ?_⟩ h₁.frame
  rw [h₁.thread, Thread.answered_of_isAside he]
  exact ⟨hd.idle.held, rfl, hd.idle.acquired, hd.idle.reserved⟩

/-- The thread after the locked section of an operation has called picoTCP and stored `pico_err`. -/
def Thread.afterCall (t : Thread) (pc : PicoCall) (ret : pc.Answer) (e : PicoErr) : Thread :=
  { ({ t with held := [.stackTS] } : Thread).called pc ret with lastRead := some (e, ⟨pc, ret⟩) }

@[simp] theorem Thread.called_lastCall {t : Thread} {pc : PicoCall} {b : pc.Answer} :
    (t.called pc b).lastCall = some ⟨pc, b⟩ := by
  cases pc <;> rfl

@[simp] theorem Thread.called_justRead {t : Thread} {pc : PicoCall} {b : pc.Answer} :
    (t.called pc b).justRead = none := by
  cases pc <;> rfl

@[simp] theorem Thread.called_reserved {t : Thread} {pc : PicoCall} {b : pc.Answer} :
    (t.called pc b).reserved = t.reserved := by
  cases pc <;> rfl

/-- A thread at rest takes `stackTS`. -/
theorem conducts_lock {Q : Unit → World → Prop} (hd : Rested pl c r w)
    (h : ∀ w', Resumes pl c r (.lock .stackTS) () w w' →
      thread w'.2 = { thread w.2 with held := [.stackTS] } → Q () w') :
    conducts pl sched c r (request (.lock .stackTS)) Q w := by
  refine conducts_request hd.toOnDuty (fun m hm ↦ ?_) fun _ w₁ h₁ ↦ h w₁ h₁ ?_
  · simp [hd.idle.held] at hm
  · rw [h₁.thread, Thread.answered, hd.idle.held, ← hd.idle.justRead]

/-- The locked sections all begin in this way: take `stackTS`, call picoTCP, read `pico_err` and
store it in the slot of the handle. -/
theorem conducts_callAndStore {i : ℕ} {pc : PicoCall} {K : pc.Answer → PicoErr → World → Prop}
    (hd : Rested pl c r w) (hr : r.handle = some (i : ℤ)) (hissues : r.issues pc = true)
    (hsock : pc.socket = (w.1.sockets i).implementationSocket)
    (h : ∀ ret e w₃ w', w' = (rpcEnv sched c r).write
        (fun s ↦ s.updateSocket i (SocketResources.setError (picoErr2Os e))) w₃ →
      OnDuty pl c r w' → SameFrame w.1 w'.1 → thread w'.2 = (thread w.2).afterCall pc ret e →
      K ret e w₃) :
    conducts pl sched c r (request (.lock .stackTS)) (fun _ w₁ ↦
      conducts pl sched c r (request (.pico pc)) (fun ret w₂ ↦
        conducts pl sched c r (request .picoErr) (fun e w₃ ↦ K ret e w₃) w₂) w₁) w := by
  refine conducts_lock hd fun w₁ h₁ ht₁ ↦ ?_
  have hsock₁ := hsock.trans (h₁.frame.slot i).implementationSocket.symm
  refine conducts_request h₁.toOnDuty ⟨by rw [ht₁]; exact List.mem_cons_self,
    fun _ ↦ ⟨i, hr, hsock₁⟩⟩ fun ret w₂ h₂ ↦ ?_
  have ht₂ : thread w₂.2 = ({ thread w.2 with held := [.stackTS] } : Thread).called pc ret := by
    rw [h₂.thread, ht₁]
    rfl
  refine conducts_request_quiet quiet_picoErr h₂.toOnDuty
    (by rw [ht₂, Thread.Allows, Thread.called_held]; exact List.mem_cons_self) fun e w₃ h₃ hs₃ ↦ ?_
  have ht₃ : thread w₃.2 = { (thread w.2).afterCall pc ret e with justRead := some e } := by
    rw [h₃.thread, ht₂]
    simp [Thread.answered, Thread.afterCall]
  have hsock₃ := hsock₁.trans (h₂.frame.slot i).implementationSocket.symm
  have hd₄ := h₃.toOnDuty.store sched (by rw [ht₃])
    ⟨hr, by rw [ht₃]; exact rfl, hissues, by rw [hsock₃, hs₃], rfl⟩
  refine h ret e w₃ _ rfl hd₄ ?_ ?_
  · rw [Env.write_fst, hs₃]
    exact (h₁.frame.trans h₂.frame).trans (SameFrame.updateSocket (SlotFrame.setError _ _))
  · rw [Env.write_snd, rpcEnv_onWrite, thread_cons, Thread.step,
      Thread.wrote_of_stored (Thread.reservedBy_updateSocket id) (by rw [ht₃]), ht₃]
    simp [Thread.interrupted, Thread.afterCall]

/-- The locked section of an operation. -/
theorem conducts_lockedCall {i : ℕ} {pc : PicoCall} {Q : pc.Answer × OsError → World → Prop}
    (hd : Rested pl c r w) (hpc : pc.isPlain = true) (hr : r.handle = some (i : ℤ))
    (hissues : r.issues pc = true) (hsock : pc.socket = (w.1.sockets i).implementationSocket)
    (h : ∀ a w', Rested pl c r w' → Q a w') :
    conducts pl sched c r (lockedCall i pc) Q w := by
  simp only [conducts, lockedCall, Prog.wp_bind, Prog.wp_modify, Prog.wp_pure]
  refine conducts_callAndStore hd hr hissues hsock fun ret e w₃ w₁ hw₁ hd₁ _ ht₁ ↦ ?_
  rw [← hw₁]
  rw [Thread.afterCall, Thread.called_of_isPlain hpc] at ht₁
  refine conducts_request hd₁ (by rw [ht₁]; exact rfl) fun _ w₂ h₂ ↦ h _ w₂ ⟨h₂.toOnDuty, ?_⟩
  rw [h₂.thread, ht₁]
  exact ⟨rfl, rfl, hd.idle.acquired, hd.idle.reserved⟩

theorem conducts_finish {ret : ℤ} {failure success : α} (hd : Rested pl c r w) :
    conducts pl sched c r (finish ret failure success) (fun _ w' ↦ Rested pl c r w') w := by
  unfold finish conducts
  split_ifs
  · exact hd
  · simp only [Prog.wp_bind, Prog.wp_pure]
    exact conducts_aside rfl hd fun _ _ h _ ↦ h

/-- An RPC that drops bits of a mask. -/
theorem Rested.clear (sched : Schedule) {i : ℕ} {bits : Finset OsSockEv} (hd : Rested pl c r w)
    (hb : bits = {.close} ∨ bits = {.read} ∨ bits = oneShotEvents) :
    Rested pl c r ((rpcEnv sched c r).write
      (fun s ↦ s.updateSocket i (SocketResources.clear bits)) w) := by
  refine ⟨hd.toOnDuty.write sched _ hd.idle.justRead (.clear hb), ?_⟩
  rw [thread_write (Thread.reservedBy_updateSocket id) hd.idle.justRead]
  exact ⟨hd.idle.held, hd.idle.justRead, hd.idle.acquired, hd.idle.reserved⟩

section OpenSocket

variable {i : ℕ} {addr : OsSocketAddr} {len : ℕ}

theorem conducts_connect {dstAddr : Option OsSocketAddr} (hd : Rested pl c (.connect i dstAddr) w)
    (hi : i < w.1.numberOfSockets) :
    conducts pl sched c (.connect i dstAddr) (picoSocketConnect pl i addr)
      (fun _ w' ↦ Rested pl c (.connect i dstAddr) w') w := by
  refine wp_withOpenSocket hi (fun _ _ ↦ hd) fun _ _ ↦ ?_
  simp only [Prog.wp_bind]
  refine conducts_aside rfl hd fun a w₁ hd₁ hf₁ ↦ ?_
  cases a with
  | none => exact hd₁
  | some a =>
    simp only [Prog.wp_bind]
    exact conducts_lockedCall hd₁ rfl rfl rfl (hf₁.slot i).implementationSocket.symm
      fun _ _ hd₂ ↦ conducts_finish hd₂

theorem conducts_bind {localAddr : Option OsSocketAddr} (hd : Rested pl c (.bind i localAddr) w)
    (hi : i < w.1.numberOfSockets) :
    conducts pl sched c (.bind i localAddr) (picoSocketBind pl i addr)
      (fun _ w' ↦ Rested pl c (.bind i localAddr) w') w := by
  refine wp_withOpenSocket hi (fun _ _ ↦ hd) fun _ _ ↦ ?_
  simp only [Prog.wp_bind]
  refine conducts_aside rfl hd fun a w₁ hd₁ hf₁ ↦ ?_
  cases a with
  | none => exact hd₁
  | some a =>
    simp only [Prog.wp_bind]
    exact conducts_lockedCall hd₁ rfl rfl rfl (hf₁.slot i).implementationSocket.symm
      fun _ _ hd₂ ↦ conducts_finish hd₂

theorem conducts_listen {backlog : ℤ} (hd : Rested pl c (.listen i backlog) w)
    (hi : i < w.1.numberOfSockets) :
    conducts pl sched c (.listen i backlog) (picoSocketListen i backlog)
      (fun _ w' ↦ Rested pl c (.listen i backlog) w') w := by
  refine wp_withOpenSocket hi (fun _ _ ↦ hd) fun _ _ ↦ ?_
  simp only [Prog.wp_bind]
  exact conducts_lockedCall hd rfl rfl rfl rfl fun _ _ hd₁ ↦ conducts_finish hd₁

theorem conducts_write {pLen : Option ℕ} (hd : Rested pl c (.write i pLen) w)
    (hi : i < w.1.numberOfSockets) :
    conducts pl sched c (.write i pLen) (picoSocketWrite pl i len)
      (fun _ w' ↦ Rested pl c (.write i pLen) w') w := by
  refine wp_withOpenSocket_fits hi (fun _ _ ↦ hd) fun _ _ _ ↦ ?_
  simp only [Prog.wp_bind]
  exact conducts_lockedCall hd rfl rfl rfl rfl fun _ _ hd₁ ↦ conducts_finish hd₁

theorem conducts_sendto {pLen : Option ℕ} {dstAddr : Option OsSocketAddr}
    (hd : Rested pl c (.sendto i pLen dstAddr) w) (hi : i < w.1.numberOfSockets) :
    conducts pl sched c (.sendto i pLen dstAddr) (picoSocketSendto pl i len addr)
      (fun _ w' ↦ Rested pl c (.sendto i pLen dstAddr) w') w := by
  refine wp_withOpenSocket_fits hi (fun _ _ ↦ hd) fun _ _ _ ↦ ?_
  simp only [Prog.wp_bind]
  refine conducts_aside rfl hd fun a w₁ hd₁ hf₁ ↦ ?_
  cases a with
  | none => exact hd₁
  | some a =>
    simp only [Prog.wp_bind]
    exact conducts_lockedCall hd₁ rfl rfl rfl (hf₁.slot i).implementationSocket.symm
      fun _ _ hd₂ ↦ conducts_finish hd₂

theorem conducts_read {pLen : Option ℕ} (hd : Rested pl c (.read i pLen) w)
    (hi : i < w.1.numberOfSockets) :
    conducts pl sched c (.read i pLen) (picoSocketRead pl i len)
      (fun _ w' ↦ Rested pl c (.read i pLen) w') w := by
  refine wp_withOpenSocket_fits hi (fun _ _ ↦ hd) fun _ _ _ ↦ ?_
  simp only [Prog.wp_bind]
  refine conducts_lockedCall hd rfl rfl rfl rfl fun _ w₁ hd₁ ↦ ?_
  have hd₂ := hd₁.clear sched (i := i) (Or.inr (Or.inl rfl))
  split_ifs
  · exact hd₂
  · simp only [Prog.wp_bind, Prog.wp_modify, Prog.wp_pure]
    exact conducts_aside rfl hd₂ fun _ _ hd₃ _ ↦ hd₃
  · exact hd₂
  · exact hd₁

theorem conducts_recvfrom {pLen : Option ℕ} {srcAddr : Option OsSocketAddr}
    (hd : Rested pl c (.recvfrom i pLen srcAddr) w) (hi : i < w.1.numberOfSockets) :
    conducts pl sched c (.recvfrom i pLen srcAddr) (picoSocketRecvfrom pl i len addr)
      (fun _ w' ↦ Rested pl c (.recvfrom i pLen srcAddr) w') w := by
  refine wp_withOpenSocket_fits hi (fun _ _ ↦ hd) fun _ _ _ ↦ ?_
  simp only [Prog.wp_bind]
  refine conducts_lockedCall hd rfl rfl rfl rfl fun _ w₁ hd₁ ↦ ?_
  have hd₂ := hd₁.clear sched (i := i) (Or.inr (Or.inl rfl))
  split_ifs
  · exact hd₂
  · simp only [Prog.wp_bind, Prog.wp_modify, Prog.wp_pure]
    exact conducts_aside rfl hd₂ fun _ _ hd₃ _ ↦ hd₃
  · exact hd₁

end OpenSocket

/-! ### Close -/

theorem conducts_close {i : ℕ} (hd : Rested pl c (.close i) w) (hi : i < w.1.numberOfSockets) :
    conducts pl sched c (.close i) (picoSocketClose i c)
      (fun _ w' ↦ OnDuty pl c (.close i) w' ∧ (thread w'.2).held = [] ∧
        (thread w'.2).acquired = none ∧ (thread w'.2).reserved = none) w := by
  have hi' : w.1.getSocketFromHandle i = some i :=
    NetworkStack.getSocketFromHandle_eq_some_iff.2 ⟨rfl, hi⟩
  simp only [conducts, picoSocketClose, socketOf, Prog.wp_bind, Prog.wp_get, hi', Prog.wp_pure]
  split_ifs with hfin himpl
  · simp only [Prog.wp_bind, Prog.wp_pure]
    exact conducts_freeHandle hd.toOnDuty hd.idle.held (Or.inl hfin) fun w' hd' hheld hacq hres ↦
      ⟨hd', hheld, hacq.trans hd.idle.acquired, hres.trans hd.idle.reserved⟩
  · exact ⟨hd.toOnDuty, hd.idle.held, hd.idle.acquired, hd.idle.reserved⟩
  · simp only [Prog.wp_bind, Prog.wp_modify]
    have hsock : (PicoCall.close (w.1.sockets i).implementationSocket).socket =
        (w.1.sockets i).implementationSocket := rfl
    refine conducts_callAndStore hd rfl rfl hsock fun ret e w₀ w₁ hw₁ hd₁ hf₁ ht₁ ↦ ?_
    rw [← hw₁]
    have ht₁' : thread w₁.2 = { thread w.2 with
        justRead := none
        held := [.stackTS]
        lastCall := some ⟨.close (w.1.sockets i).implementationSocket, ret⟩
        lastRead := some (e, ⟨.close (w.1.sockets i).implementationSocket, ret⟩)
        acquired := none
        closed := (w.1.sockets i).implementationSocket } := by
      rw [ht₁, Thread.afterCall, Thread.called]
      simp [hd.idle.acquired]
    have hd₂ := hd₁.write sched
      (fun s ↦ s.updateSocket i (SocketResources.clear {.close})) (by rw [ht₁'])
        (.clear (Or.inl rfl))
    have ht₂ : thread ((rpcEnv sched c (.close i)).write
        (fun s ↦ s.updateSocket i (SocketResources.clear {.close})) w₁).2 =
        { thread w₁.2 with uncounted := none } :=
      thread_write (Thread.reservedBy_updateSocket id) (by rw [ht₁'])
    refine conducts_request hd₂ (by rw [ht₂, ht₁']; exact rfl) fun _ w₃ h₃ ↦ ?_
    have hf₂ : SameFrame w.1 (w₁.1.updateSocket i (SocketResources.clear {.close})) :=
      hf₁.trans (SameFrame.updateSocket (SlotFrame.clear _ _))
    have hf₃ : SameFrame w.1 w₃.1 := hf₂.trans h₃.frame
    have ht₃ : thread w₃.2 =
        { thread w₁.2 with held := [], justRead := none, uncounted := none } := by
      rw [h₃.thread, ht₂, ht₁']
      rfl
    refine conducts_request h₃.toOnDuty (Thread.allows_of_isAside rfl) fun _ w₄ h₄ ↦ ?_
    have ht₄ : thread w₄.2 =
        { thread w₁.2 with held := [], justRead := none, uncounted := none } := by
      rw [h₄.thread, ht₃]
      rfl
    have himpl₄ := ((hf₃.trans h₄.frame).slot i).implementationSocket
    have hfree : ∀ err : OsError, conducts pl sched c (.close i)
        (do freeHandle i c; return err) (fun _ w' ↦ OnDuty pl c (.close i) w' ∧
          (thread w'.2).held = [] ∧ (thread w'.2).acquired = none ∧
          (thread w'.2).reserved = none) w₄ := by
      intro err
      simp only [conducts, Prog.wp_bind, Prog.wp_pure]
      refine conducts_freeHandle h₄.toOnDuty (by rw [ht₄]) (Or.inr ⟨?_, ?_⟩)
        fun w' hd' hheld hacq hres ↦ ⟨hd', hheld, hacq.trans ?_, hres.trans ?_⟩
      · rw [himpl₄]
        exact himpl
      · rw [himpl₄, ht₄, ht₁']
      · rw [ht₄, ht₁']
      · rw [ht₄, ht₁']
        exact hd.idle.reserved
    split_ifs
    · exact hfree (picoErr2Os e)
    · exact hfree .success

/-! ### Create and accept -/

/-- What a `create` or `accept` leaves behind when it returns `a`, where its output parameter held
`h`. -/
structure Settled (pl : Platform) (c : ℤ) (r : RpcCall) (h : ℤ) (a : OsError × ℤ) (w : World) : Prop
    extends OnDuty pl c r w where
  held : (thread w.2).held = []
  acquired : (thread w.2).acquired = none
  reserved : ∀ j, (thread w.2).reserved = some j → a = (.success, (j : ℤ))
  unreserved : (thread w.2).reserved = none → a.2 = h

/-- The thread holds `stackTS` and may have a socket. -/
theorem Thread.allows_pico {t : Thread} {s : NetworkStack} {pc : PicoCall}
    (hheld : t.held = [.stackTS])
    (hr : r.issues pc = false) : t.Allows r s (.pico pc) :=
  ⟨by rw [hheld]; exact List.mem_cons_self, fun h ↦ absurd h (by simp [hr])⟩

theorem conducts_setOption {p : PicoPtr} {o : PicoOption} {v : ℕ} {Q : Unit → World → Prop}
    (hd : OnDuty pl c r w) (hheld : (thread w.2).held = [.stackTS])
    (h : ∀ w' call, OnDuty pl c r w' → SameFrame w.1 w'.1 →
      thread w'.2 = { thread w.2 with justRead := none, lastCall := call } → Q () w') :
    conducts pl sched c r (setOption p o v) Q w := by
  simp only [conducts, setOption, Prog.wp_bind, Prog.wp_pure]
  refine conducts_request hd (Thread.allows_pico hheld (RpcCall.issues_of_isSetup rfl))
    fun b w₁ h₁ ↦ ?_
  exact h w₁ _ h₁.toOnDuty h₁.frame (by rw [h₁.thread]; rfl)

theorem conducts_setSocketOptions {p : PicoPtr} {Q : Unit → World → Prop} (hd : OnDuty pl c r w)
    (hheld : (thread w.2).held = [.stackTS])
    (h : ∀ w' call, OnDuty pl c r w' → SameFrame w.1 w'.1 →
      thread w'.2 = { thread w.2 with justRead := none, lastCall := call } → Q () w') :
    conducts pl sched c r (setSocketOptions p) Q w := by
  simp only [conducts, setSocketOptions, Prog.wp_bind]
  refine conducts_setOption hd hheld fun w₁ call₁ hd₁ hf₁ ht₁ ↦ ?_
  refine conducts_setOption hd₁ (by rw [ht₁]; exact hheld) fun w₂ call₂ hd₂ hf₂ ht₂ ↦ ?_
  refine conducts_setOption hd₂ (by rw [ht₂, ht₁]; exact hheld) fun w₃ call₃ hd₃ hf₃ ht₃ ↦ ?_
  refine conducts_setOption hd₃ (by rw [ht₃, ht₂, ht₁]; exact hheld) fun w₄ call₄ hd₄ hf₄ ht₄ ↦ ?_
  refine h w₄ call₄ hd₄ (((hf₁.trans hf₂).trans hf₃).trans hf₄) ?_
  rw [ht₄, ht₃, ht₂, ht₁]

theorem conducts_setStreamOption {type : SocketType} {p : PicoPtr} {Q : Unit → World → Prop}
    (hd : OnDuty pl c r w) (hheld : (thread w.2).held = [.stackTS])
    (h : ∀ w', OnDuty pl c r w' → (thread w'.2).held = [.stackTS] →
      (thread w'.2).acquired = (thread w.2).acquired →
      (thread w'.2).reserved = (thread w.2).reserved →
      (thread w'.2).lastRead = (thread w.2).lastRead → Q () w') :
    conducts pl sched c r (setStreamOption type p) Q w := by
  unfold setStreamOption
  split_ifs
  · refine conducts_setOption hd hheld fun w₁ call hd₁ _ ht₁ ↦ ?_
    exact h w₁ hd₁ (by rw [ht₁]; exact hheld) (by rw [ht₁]) (by rw [ht₁]) (by rw [ht₁])
  · exact h w hd hheld rfl rfl rfl

theorem conducts_closeUnreserved {p : ℕ} {Q : Unit → World → Prop} (hd : OnDuty pl c r w)
    (hheld : (thread w.2).held = [.stackTS]) (hp : (thread w.2).acquired = some p)
    (hn : (thread w.2).reserved = none) (hr : r.issues (.close (some p)) = false)
    (h : ∀ w', OnDuty pl c r w' → (thread w'.2).held = [.stackTS] →
      (thread w'.2).acquired = none → (thread w'.2).reserved = none → Q () w') :
    conducts pl sched c r (closeUnreserved (some p)) Q w := by
  simp only [conducts, closeUnreserved, Prog.wp_bind]
  refine conducts_request hd (Thread.allows_pico hheld hr) fun ret w₁ h₁ ↦ ?_
  have hacq₁ : (thread w₁.2).acquired = none := by
    rw [h₁.thread]
    simp [Thread.answered, Thread.called, hp]
  have hheld₁ : (thread w₁.2).held = [.stackTS] := by
    rw [h₁.thread, Thread.answered, Thread.called_held, hheld]
  have hn₁ : (thread w₁.2).reserved = none := by
    rw [h₁.thread, Thread.answered_reserved, hn]
  split_ifs
  · simp only [Prog.wp_bind]
    refine conducts_request h₁.toOnDuty (by rw [Thread.Allows, hheld₁]; exact List.mem_cons_self)
      fun e w₂ h₂ ↦ ?_
    refine conducts_request h₂.toOnDuty (Thread.allows_of_isAside rfl) fun _ w₃ h₃ ↦ ?_
    refine h w₃ h₃.toOnDuty ?_ ?_ ?_ <;> rw [h₃.thread, h₂.thread] <;>
      simp [Thread.answered, hheld₁, hacq₁, hn₁]
  · refine conducts_request h₁.toOnDuty (Thread.allows_of_isAside rfl) fun _ w₂ h₂ ↦ ?_
    refine h w₂ h₂.toOnDuty ?_ ?_ ?_ <;> rw [h₂.thread] <;>
      simp [Thread.answered, hheld₁, hacq₁, hn₁]

/-- A `create` or `accept` releases the mutex and returns. -/
theorem conducts_leave {h : ℤ} {a : OsError × ℤ} (hd : OnDuty pl c r w)
    (hheld : (thread w.2).held = [.stackTS]) (hacq : (thread w.2).acquired = none)
    (hres : ∀ j, (thread w.2).reserved = some j → a = (.success, (j : ℤ)))
    (hun : (thread w.2).reserved = none → a.2 = h) :
    conducts pl sched c r (request (.unlock .stackTS)) (fun _ w' ↦ Settled pl c r h a w') w := by
  refine conducts_request hd (by rw [Thread.Allows, hheld]; rfl) fun _ w₁ h₁ ↦ ?_
  have hres₁ : (thread w₁.2).reserved = (thread w.2).reserved := by
    rw [h₁.thread, Thread.answered_reserved]
  refine ⟨h₁.toOnDuty, ?_, ?_, fun j hj ↦ hres j (hres₁.symm.trans hj),
    fun hj ↦ hun (hres₁.symm.trans hj)⟩
  · rw [h₁.thread, Thread.answered, hheld]
    rfl
  · rw [h₁.thread]
    exact hacq

/-- It has reserved nothing and leaves its output parameter alone. -/
theorem conducts_leave_unreserved {h : ℤ} {err : OsError} (hd : OnDuty pl c r w)
    (hheld : (thread w.2).held = [.stackTS]) (hacq : (thread w.2).acquired = none)
    (hn : (thread w.2).reserved = none) :
    conducts pl sched c r (request (.unlock .stackTS))
      (fun _ w' ↦ Settled pl c r h (err, h) w') w :=
  conducts_leave hd hheld hacq (fun j hj ↦ absurd (hn.symm.trans hj) (by simp)) fun _ ↦ rfl

/-- The new slot is filled in with the `pico_err` of the call that opened its socket. -/
theorem conducts_fillCreated {domain : SocketDomain} {type : SocketType} {pHandle : Option ℤ}
    {pd pt : PicoProto}
    {j p : ℕ} {e : PicoErr} {h : ℤ} (hd : OnDuty pl c (.create domain type pHandle) w)
    (hheld : (thread w.2).held = [.stackTS]) (hacq : (thread w.2).acquired = none)
    (hres : (thread w.2).reserved = some j) (hj : (thread w.2).justRead = none)
    (hread : (thread w.2).lastRead = some (e, ⟨.socketOpen pd pt, some p⟩)) :
    conducts pl sched c (.create domain type pHandle)
      (do
        Prog.modify fun s ↦ s.updateSocket j
          (SocketResources.create j type (pl.rpcBuf c) (pl.rpcBufSize c) (picoErr2Os e))
        setSocketOptions (some p)
        request (.unlock .stackTS)
        return (OsError.success, (j : ℤ)))
      (Settled pl c (.create domain type pHandle) h) w := by
  simp only [conducts, Prog.wp_bind, Prog.wp_modify, Prog.wp_pure]
  have hd₁ := hd.write sched (fun s ↦ s.updateSocket j
    (SocketResources.create j type (pl.rpcBuf c) (pl.rpcBufSize c) (picoErr2Os e))) hj
    (.create rfl hres hread (by simp))
  have ht₁ : thread ((rpcEnv sched c (.create domain type pHandle)).write (fun s ↦
      s.updateSocket j (SocketResources.create j type (pl.rpcBuf c) (pl.rpcBufSize c)
        (picoErr2Os e))) w).2 = { thread w.2 with uncounted := none } :=
    thread_write (Thread.reservedBy_updateSocket id) hj
  refine conducts_setSocketOptions hd₁ (by rw [ht₁]; exact hheld) fun w₂ call hd₂ _ ht₂ ↦ ?_
  rw [ht₁] at ht₂
  refine conducts_leave hd₂ (by rw [ht₂]; exact hheld) (by rw [ht₂]; exact hacq) (fun l hl ↦ ?_)
    fun hl ↦ ?_
  · rw [ht₂] at hl
    rw [Option.some.inj (hres.symm.trans hl)]
  · rw [ht₂] at hl
    exact absurd (hres.symm.trans hl) (by simp)

theorem conducts_create {domain : SocketDomain} {type : SocketType} {pHandle : Option ℤ} {h : ℤ}
    (hd : Rested pl c (.create domain type pHandle) w) :
    conducts pl sched c (.create domain type pHandle)
      (picoSocketCreate domain type h c (pl.rpcBuf c) (pl.rpcBufSize c))
      (Settled pl c (.create domain type pHandle) h) w := by
  unfold picoSocketCreate
  split
  · rename_i pd pt _ _
    simp only [conducts, Prog.wp_bind]
    refine conducts_lock hd fun w₁ h₁ ht₁ ↦ ?_
    refine conducts_request h₁.toOnDuty (Thread.allows_pico (by rw [ht₁]) rfl) fun sock w₂ h₂ ↦ ?_
    refine conducts_request h₂.toOnDuty (by
      rw [Thread.Allows, h₂.thread, Thread.answered, Thread.called_held, ht₁]
      exact List.mem_cons_self) fun e w₃ h₃ ↦ ?_
    have hheld₃ : (thread w₃.2).held = [.stackTS] := by
      rw [h₃.thread, h₂.thread, ht₁]
      rfl
    have hacq₃ : (thread w₃.2).acquired = sock := by
      rw [h₃.thread, h₂.thread]
      rfl
    have hn₃ : (thread w₃.2).reserved = none := by
      rw [h₃.thread, h₂.thread, ht₁]
      exact hd.idle.reserved
    have hread₃ : (thread w₃.2).lastRead = some (e, ⟨.socketOpen pd pt, sock⟩) := by
      rw [h₃.thread, h₂.thread]
      rfl
    cases sock with
    | none =>
      simp only [if_true, Prog.wp_bind, Prog.wp_pure]
      exact conducts_leave_unreserved h₃.toOnDuty hheld₃ hacq₃ hn₃
    | some p =>
      simp only [reduceCtorEq, if_false, Prog.wp_bind]
      refine conducts_setStreamOption h₃.toOnDuty hheld₃ fun w₄ hd₄ hheld₄ hacq₄ hn₄ hread₄ ↦ ?_
      refine conducts_reserveHandle hd₄ hheld₄ (hacq₄.trans hacq₃) (hn₄.trans hn₃)
        (Or.inl ⟨_, _, _, rfl⟩) (fun w₅ hd₅ _ ht₅ ↦ ?_) fun j k w₅ hd₅ _ _ _ ht₅ ↦ ?_
      · -- no handle for the new socket, which is closed again
        have hheld₅ := (congrArg Thread.held ht₅).trans hheld₄
        have hacq₅ := (congrArg Thread.acquired ht₅).trans (hacq₄.trans hacq₃)
        have hn₅ := (congrArg Thread.reserved ht₅).trans (hn₄.trans hn₃)
        simp only [Prog.wp_bind, Prog.wp_pure]
        exact conducts_closeUnreserved hd₅ hheld₅ hacq₅ hn₅ rfl fun w₆ hd₆ hheld₆ hacq₆ hn₆ ↦
          conducts_leave_unreserved hd₆ hheld₆ hacq₆ hn₆
      · exact conducts_fillCreated hd₅ (by rw [ht₅]; exact hheld₄) (by rw [ht₅]; rfl)
          (by rw [ht₅]; rfl)
          (by rw [ht₅]; rfl) (by rw [ht₅]; exact hread₄.trans hread₃)
  · have hn := hd.idle.reserved
    exact ⟨hd.toOnDuty, hd.idle.held, hd.idle.acquired,
      fun j hj ↦ absurd (hn.symm.trans hj) (by simp), fun _ ↦ rfl⟩

/-- After the locked section of `accept` has called picoTCP and counted one pending connection
less. -/
theorem Thread.afterAccept {t : Thread} (ht : t.Idle) {q : PicoPtr} {b : PicoPtr × UInt32 × UInt16}
    {e : PicoErr} : { t.afterCall (.accept q) b e with uncounted := none } =
      { t with
        held := [.stackTS]
        lastCall := some ⟨.accept q, b⟩
        lastRead := some (e, ⟨.accept q, b⟩)
        acquired := b.1
        uncounted := none } := by
  rw [Thread.afterCall, Thread.called]
  simp [ht.justRead]

/-- The new slot belongs to the caller also after it has been linked to the listening one. -/
theorem conducts_fillAccepted {i j : ℕ} {pClientHandle : Option ℤ} {srcAddr : Option OsSocketAddr}
    {p : PicoPtr} {h : ℤ} (hd : OnDuty pl c (.accept i pClientHandle srcAddr) w)
    (hheld : (thread w.2).held = [.stackTS]) (hacq : (thread w.2).acquired = none)
    (hres : (thread w.2).reserved = some j) (hi : w.1.Owns c i) (hj : j < w.1.numberOfSockets) :
    conducts pl sched c (.accept i pClientHandle srcAddr) (fillAccepted c i i j p)
      (Settled pl c (.accept i pClientHandle srcAddr) h) w := by
  simp only [conducts, fillAccepted, Prog.wp_bind, Prog.wp_get]
  refine conducts_setSocketOptions hd hheld fun w₁ call hd₁ hf₁ ht₁ ↦ ?_
  have hres₁ : (thread w₁.2).reserved = some j := by
    rw [ht₁]
    exact hres
  have hi₁ := hf₁.owns hi
  refine conducts_setParentHandle hd₁ (by rw [ht₁]; exact hheld) hres₁ hi₁.1
    (hf₁.numberOfSockets ▸ hj) fun w₂ hd₂ hs₂ ht₂ ↦ ?_
  have hown₂ : (w₂.1.sockets j).clientId = c := by
    rw [hs₂, NetworkStack.adopt, NetworkStack.updateSocket_sockets_self]
    exact hi₁.2
  have hres₂ : (thread w₂.2).reserved = some j := by
    rw [ht₂]
    exact hres₁
  have hj₂ : (thread w₂.2).justRead = none := by rw [ht₂]
  simp only [Prog.wp_bind, Prog.wp_modify, Prog.wp_pure, hown₂, ne_eq, not_true_eq_false, if_false]
  have hd₃ := hd₂.write sched (fun s ↦ s.updateSocket j (SocketResources.accepted (s.sockets i)))
    hj₂ (.accepted rfl hres₂)
  have ht₃ : thread ((rpcEnv sched c (.accept i pClientHandle srcAddr)).write (fun s ↦
      s.updateSocket j (SocketResources.accepted (s.sockets i))) w₂).2 =
      { thread w₁.2 with justRead := none, uncounted := none } := by
    rw [thread_write (Thread.reservedBy_updateSocket id) hj₂, ht₂]
  refine conducts_leave hd₃ ?_ ?_ (fun l hl ↦ ?_) fun hl ↦ ?_
  · rw [ht₃, ht₁]
    exact hheld
  · rw [ht₃, ht₁]
    exact hacq
  · rw [ht₃] at hl
    rw [Option.some.inj (hres₁.symm.trans hl)]
  · rw [ht₃] at hl
    exact absurd (hres₁.symm.trans hl) (by simp)

theorem conducts_accept {i : ℕ} {pClientHandle : Option ℤ} {srcAddr : Option OsSocketAddr} {h : ℤ}
    (hd : Rested pl c (.accept i pClientHandle srcAddr) w) (ho : w.1.Owns c i)
    (hu : (w.1.sockets i).implementationSocket ≠ none → (w.1.sockets i).status = .inUse) :
    conducts pl sched c (.accept i pClientHandle srcAddr) (picoSocketAccept c i h)
      (Settled pl c (.accept i pClientHandle srcAddr) h) w := by
  have hn := hd.idle.reserved
  refine wp_withOpenSocket ho.1 (fun e he ↦ ⟨hd.toOnDuty, hd.idle.held, hd.idle.acquired,
    fun j hj ↦ absurd (hn.symm.trans hj) (by simp), fun _ ↦ rfl⟩) fun hfin himpl ↦ ?_
  replace hu := hu himpl
  simp only [Prog.wp_bind, Prog.wp_modify]
  have hsock : (PicoCall.accept (w.1.sockets i).implementationSocket).socket =
      (w.1.sockets i).implementationSocket := rfl
  refine conducts_callAndStore hd rfl rfl hsock fun a e w₀ w₁ hw₁ hd₁ hf₁ ht₁ ↦ ?_
  rw [← hw₁]
  have hj₁ : (thread w₁.2).justRead = none := by
    rw [ht₁]
    rfl
  have hd₂ := hd₁.write sched (fun s ↦ s.updateSocket i SocketResources.acceptPending) hj₁
    (.acceptPending rfl (by rw [ht₁]; exact rfl) (hf₁.slot i).implementationSocket)
  have hf₂ : SameFrame w.1 (w₁.1.updateSocket i SocketResources.acceptPending) :=
    hf₁.trans (SameFrame.updateSocket (SlotFrame.acceptPending _))
  have ht₂ : thread ((rpcEnv sched c (.accept i pClientHandle srcAddr)).write
      (fun s ↦ s.updateSocket i SocketResources.acceptPending) w₁).2 = { thread w.2 with
        held := [.stackTS]
        lastCall := some ⟨.accept (w.1.sockets i).implementationSocket, a⟩
        lastRead := some (e, ⟨.accept (w.1.sockets i).implementationSocket, a⟩)
        acquired := a.1
        uncounted := none } := by
    rw [thread_write Thread.reservedBy_acceptPending hj₁, ht₁, Thread.afterAccept hd.idle]
  -- from here on only the frame of the tables matters
  set w₂ := (rpcEnv sched c (.accept i pClientHandle srcAddr)).write
    (fun s ↦ s.updateSocket i SocketResources.acceptPending) w₁
  change SameFrame w.1 w₂.1 at hf₂
  clear_value w₂
  have ho₂ := hf₂.owns ho
  split_ifs with hnone
  · simp only [Prog.wp_bind, Prog.wp_pure]
    refine conducts_request hd₂ (Thread.allows_of_isAside rfl) fun _ w₃ h₃ ↦ ?_
    have ht₃ := h₃.thread
    rw [ht₂] at ht₃
    exact conducts_leave_unreserved h₃.toOnDuty (by rw [ht₃]; rfl) (by rw [ht₃]; exact hnone)
      (by rw [ht₃]; exact hn)
  · obtain ⟨p, hp⟩ := Option.ne_none_iff_exists'.1 hnone
    simp only [hp, Prog.wp_bind, Prog.wp_get]
    rw [ho₂.2]
    refine conducts_reserveHandle hd₂ (by rw [ht₂]) (by rw [ht₂]; exact hp) (by rw [ht₂]; exact hn)
      (Or.inr ⟨i, _, _, _, a, rfl, by rw [ht₂], hp, (hf₂.slot i).implementationSocket,
        (hf₂.slot i).status.trans hu⟩) (fun w₃ hd₃ _ ht₃ ↦ ?_) fun j k w₃ hd₃ hj _ hs₃ ht₃ ↦ ?_
    · -- no handle for the accepted socket, which is closed again
      rw [ht₂] at ht₃
      have hheld₃ : (thread w₃.2).held = [.stackTS] := congrArg Thread.held ht₃
      have hacq₃ : (thread w₃.2).acquired = some p := (congrArg Thread.acquired ht₃).trans hp
      have hn₃ : (thread w₃.2).reserved = none := (congrArg Thread.reserved ht₃).trans hn
      simp only [Prog.wp_bind, Prog.wp_pure]
      refine conducts_request hd₃ (Thread.allows_pico hheld₃ rfl) fun ret w₄ h₄ ↦ ?_
      refine conducts_leave_unreserved h₄.toOnDuty ?_ ?_ ?_
      · rw [h₄.thread, Thread.answered, Thread.called_held, hheld₃]
      · rw [h₄.thread, Thread.answered, Thread.called]
        simp [hacq₃, hp]
      · rw [h₄.thread, Thread.answered_reserved, hn₃]
    · -- the listening slot `i` is in use, and so it is not the new slot `j`
      have hji : j ≠ i := NetworkStack.ne_of_firstFree hj ((hf₂.slot i).status.trans hu)
      have hlt : j < w₂.1.numberOfSockets := (NetworkStack.firstFree_eq_some_iff.1 hj).2.1
      have ho₃ : w₃.1.Owns c i := by
        rw [hs₃]
        exact NetworkStack.owns_reserve_of_ne hji.symm ho₂
      have hlt₃ : j < w₃.1.numberOfSockets := by
        rw [hs₃]
        exact hlt
      exact conducts_fillAccepted hd₃ (by rw [ht₃, ht₂]; rfl) (by rw [ht₃]; rfl) (by rw [ht₃]; rfl)
        ho₃ hlt₃

/-! ### The sweep -/

theorem conducts_sweepSlot {i offset events : ℕ} {Q : ℕ × ℕ → World → Prop} (hd : Rested pl c r w)
    (h : ∀ a w', Rested pl c r w' → Q a w') :
    conducts pl sched c r (sweepSlot pl c i offset events) Q w := by
  simp only [conducts, sweepSlot, Prog.wp_bind, Prog.wp_get]
  split_ifs
  swap
  · exact h _ w hd
  simp only [Prog.wp_bind, Prog.wp_get, Prog.wp_modify, Prog.wp_pure]
  refine conducts_lock hd fun w₁ h₁ ht₁ ↦ ?_
  have hj₁ : (thread w₁.2).justRead = none := by
    rw [ht₁]
    exact hd.idle.justRead
  have hd₂ := h₁.toOnDuty.write sched
    (fun s ↦ s.updateSocket i (SocketResources.clear oneShotEvents)) hj₁
      (.clear (Or.inr (Or.inr rfl)))
  have ht₂ : thread ((rpcEnv sched c r).write
      (fun s ↦ s.updateSocket i (SocketResources.clear oneShotEvents)) w₁).2 =
      { thread w.2 with held := [.stackTS], uncounted := none } := by
    rw [thread_write (Thread.reservedBy_updateSocket id) hj₁, ht₁]
  refine conducts_request hd₂ (by rw [ht₂]; exact rfl) fun _ w₃ h₃ ↦ ?_
  have hd₃ : Rested pl c r w₃ := by
    refine ⟨h₃.toOnDuty, ?_⟩
    rw [h₃.thread, ht₂]
    exact ⟨rfl, rfl, hd.idle.acquired, hd.idle.reserved⟩
  exact conducts_aside rfl hd₃ fun _ w₄ hd₄ _ ↦ h _ w₄ hd₄

/-- A write to the client records that is not the count. -/
theorem Rested.updateClient (sched : Schedule) {k : ℕ} {f : Client → Client} (hd : Rested pl c r w)
    (hf : (thread w.2).Writes pl c r w.1 (w.1.updateClient k f)) :
    Rested pl c r ((rpcEnv sched c r).write (fun s ↦ s.updateClient k f) w) := by
  refine ⟨hd.toOnDuty.write sched _ hd.idle.justRead hf, ?_⟩
  rw [thread_write Thread.reservedBy_updateClient hd.idle.justRead]
  exact ⟨hd.idle.held, hd.idle.justRead, hd.idle.acquired, hd.idle.reserved⟩

/-- The sweep ends where it began, or with as many events as there is room for. -/
theorem conducts_sweep {k maxEvents fuel offset events : ℕ} (hd : Rested pl c r w) :
    conducts pl sched c r (sweep pl c k maxEvents fuel offset events)
      (fun n w' ↦ Rested pl c r w' ∧
        ((w'.1.clients k).head ≠ (w'.1.clients k).tail → maxEvents ≤ n)) w := by
  induction fuel generalizing w offset events with
  | zero => exact Rpc.wp_diverge.2 ⟨trivial, hd.orderly⟩
  | succ fuel ih =>
    simp only [conducts, sweep, Prog.wp_bind, Prog.wp_get, Prog.wp_modify]
    refine conducts_aside rfl hd fun _ w₁ hd₁ _ ↦ ?_
    refine conducts_sweepSlot hd₁ fun a w₂ hd₂ ↦ ?_
    have hd₃ := hd₂.updateClient sched (k := k) .advanceHead
    split_ifs with hgo
    · exact ih hd₃
    · refine ⟨hd₃, fun hne ↦ ?_⟩
      by_contra hlt
      exact hgo ⟨hne, not_le.1 hlt⟩

theorem conducts_getPendingEvents {size : ℕ} {pNumberOfEvents : Option ℕ} (hd : Rested pl c r w) :
    conducts pl sched c r (rpcSocketGetPendingEvents pl c size pNumberOfEvents)
      (fun _ w' ↦ Rested pl c r w') w := by
  unfold rpcSocketGetPendingEvents
  refine wp_guarded (fun _ _ ↦ hd) fun _ ↦ ?_
  simp only [Prog.wp_bind, Prog.wp_get]
  cases hk : w.1.getClientIndexFromClientId c with
  | none => exact hd
  | some k =>
    simp only [Prog.wp_bind]
    generalize (if size ≤ pl.rpcBufSize c then size / pl.sizeofEvt
      else pl.rpcBufSize c / pl.sizeofEvt) = maxEvents
    refine Prog.wp_mono (fun _ _ h ↦ h) (fun events w₁ h₁ ↦ ?_) (conducts_sweep hd)
    obtain ⟨hd₁, hfull⟩ := h₁
    simp only [Prog.wp_get]
    split_ifs with hcut
    · simp only [Prog.wp_bind, Prog.wp_modify, Prog.wp_pure]
      have hd₂ := hd₁.updateClient sched (k := k) .flagSelf
      refine hd₂.updateClient sched (.setTail fun _ ↦ ?_)
      rw [Env.write_fst, NetworkStack.updateClient_clients_self]
      rfl
    · simp only [Prog.wp_bind, Prog.wp_modify, Prog.wp_pure]
      exact hd₁.updateClient sched (.setTail fun hne ↦ absurd ⟨hfull hne, hne⟩ hcut)

/-! ### All RPCs -/

theorem Rested.returns {a : Reply} (hd : Rested pl c r w) (hacq : r.acquires = false) :
    (thread w.2).Returns r a := by
  have hn := hd.idle.reserved
  exact ⟨hd.idle.held, hd.idle.acquired, fun j hj ↦ absurd (hn.symm.trans hj) (by simp),
    fun h ↦ absurd h (by simp [hacq])⟩

theorem Settled.returns {h : ℤ} {a : OsError × ℤ} {b : Reply} (hs : Settled pl c r h a w)
    (hacq : r.acquires = true) (herr : b.err = a.1) (hhandle : b.out.handle = some a.2)
    (hout : a.2 = h → b.out = r.outputs) : (thread w.2).Returns r b := by
  refine ⟨hs.held, hs.acquired, fun j hj ↦ ?_, fun _ hn ↦ hout (hs.unreserved hn)⟩
  obtain rfl := hs.reserved j hj
  exact ⟨hacq, herr, hhandle⟩

/-- What a run leaves behind when it returns `a`. -/
def Leaves (pl : Platform) (c : ℤ) (r : RpcCall) (a : Reply) (w : World) : Prop :=
  OnDuty pl c r w ∧ (thread w.2).Returns r a

theorem conducts_plain {p : Rpc α} {f : α → Reply} (hacq : r.acquires = false)
    (h : conducts pl sched c r p (fun _ w' ↦ Rested pl c r w') w) :
    conducts pl sched c r (f <$> p) (Leaves pl c r) w := by
  simp only [conducts, Prog.wp_map]
  exact Prog.wp_mono (fun _ _ h ↦ h) (fun _ _ hd ↦ ⟨hd.toOnDuty, hd.returns hacq⟩) h

/-- **Every RPC is orderly**: from a world in which the caller's slots with a picoTCP socket are in
use, every call is allowed, and when the RPC returns it holds nothing. -/
theorem conducts_rpc (hd : Rested pl c r w)
    (hown : ∀ i : ℕ, r.handle = some (i : ℤ) → w.1.Owns c i →
      (w.1.sockets i).implementationSocket ≠ none → (w.1.sockets i).status = .inUse) :
    conducts pl sched c r (rpc pl c r) (Leaves pl c r) w := by
  cases r with
  | create domain type pHandle =>
    simp only [conducts, rpc, rpcSocketCreate, Prog.wp_map]
    have hn := hd.idle.reserved
    refine wp_guarded (fun e _ ↦ ⟨hd.toOnDuty, hd.idle.held, hd.idle.acquired,
      fun j hj ↦ absurd (hn.symm.trans hj) (by simp), fun _ _ ↦ rfl⟩) fun hch ↦ ?_
    obtain ⟨h, rfl⟩ := ptr_of_checks pl pHandle hch (by simp)
    simp only [Prog.wp_bind, Prog.wp_pure]
    refine Prog.wp_mono (fun _ _ h ↦ h) (fun a w' hs ↦ ⟨hs.toOnDuty, ?_⟩) (conducts_create hd)
    refine hs.returns rfl rfl rfl fun heq ↦ ?_
    rw [heq]
    rfl
  | close handle =>
    simp only [conducts, rpc, rpcSocketClose, Prog.wp_map]
    refine wp_guarded (fun _ _ ↦ ⟨hd.toOnDuty, hd.returns rfl⟩) fun hch ↦ ?_
    obtain ⟨i, rfl, ha⟩ := admitted_of_checks pl (.close handle) hch rfl
    refine Prog.wp_mono (fun _ _ h ↦ h) (fun a w' hs ↦ ?_) (conducts_close hd ha.owns.1)
    obtain ⟨hd', hheld, hacq, hn⟩ := hs
    exact ⟨hd', hheld, hacq, fun j hj ↦ absurd (hn.symm.trans hj) (by simp),
      fun h ↦ absurd h Bool.false_ne_true⟩
  | connect handle addr =>
    refine conducts_plain rfl (wp_guarded (fun _ _ ↦ hd) fun hch ↦ ?_)
    obtain ⟨i, rfl, ha⟩ := admitted_of_checks pl (.connect handle addr) hch rfl
    obtain ⟨addr, rfl⟩ := ptr_of_checks pl addr hch (by simp)
    exact conducts_connect hd ha.owns.1
  | bind handle addr =>
    refine conducts_plain rfl (wp_guarded (fun _ _ ↦ hd) fun hch ↦ ?_)
    obtain ⟨i, rfl, ha⟩ := admitted_of_checks pl (.bind handle addr) hch rfl
    obtain ⟨addr, rfl⟩ := ptr_of_checks pl addr hch (by simp)
    exact conducts_bind hd ha.owns.1
  | listen handle backlog =>
    refine conducts_plain rfl (wp_guarded (fun _ _ ↦ hd) fun hch ↦ ?_)
    obtain ⟨i, rfl, ha⟩ := admitted_of_checks pl (.listen handle backlog) hch rfl
    exact conducts_listen hd ha.owns.1
  | accept handle pClientHandle srcAddr =>
    simp only [conducts, rpc, rpcSocketAccept, Prog.wp_map]
    have hn := hd.idle.reserved
    refine wp_guarded (fun e _ ↦ ⟨hd.toOnDuty, hd.idle.held, hd.idle.acquired,
      fun j hj ↦ absurd (hn.symm.trans hj) (by simp), fun _ _ ↦ rfl⟩) fun hch ↦ ?_
    obtain ⟨i, rfl, ha⟩ := admitted_of_checks pl (.accept handle pClientHandle srcAddr) hch rfl
    obtain ⟨h, rfl⟩ := ptr_of_checks pl pClientHandle hch (by simp)
    simp only [Prog.wp_bind, Prog.wp_pure]
    refine Prog.wp_mono (fun _ _ h ↦ h) (fun a w' hs ↦ ⟨hs.toOnDuty, ?_⟩)
      (conducts_accept hd ha.owns (hown i rfl ha.owns))
    refine hs.returns rfl rfl rfl fun heq ↦ ?_
    rw [heq]
    rfl
  | write handle pLen =>
    refine conducts_plain rfl (wp_guarded (fun _ _ ↦ hd) fun hch ↦ ?_)
    obtain ⟨i, rfl, ha⟩ := admitted_of_checks pl (.write handle pLen) hch rfl
    simp only [Prog.wp_bind, Prog.wp_pure]
    exact conducts_write hd ha.owns.1
  | read handle pLen =>
    refine conducts_plain rfl (wp_guarded (fun _ _ ↦ hd) fun hch ↦ ?_)
    obtain ⟨i, rfl, ha⟩ := admitted_of_checks pl (.read handle pLen) hch rfl
    simp only [Prog.wp_bind, Prog.wp_pure]
    exact conducts_read hd ha.owns.1
  | sendto handle pLen addr =>
    refine conducts_plain rfl (wp_guarded (fun _ _ ↦ hd) fun hch ↦ ?_)
    obtain ⟨i, rfl, ha⟩ := admitted_of_checks pl (.sendto handle pLen addr) hch rfl
    obtain ⟨addr, rfl⟩ := ptr_of_checks pl addr hch (by simp)
    simp only [Prog.wp_bind, Prog.wp_pure]
    exact conducts_sendto hd ha.owns.1
  | recvfrom handle pLen addr =>
    refine conducts_plain rfl (wp_guarded (fun _ _ ↦ hd) fun hch ↦ ?_)
    obtain ⟨i, rfl, ha⟩ := admitted_of_checks pl (.recvfrom handle pLen addr) hch rfl
    obtain ⟨addr, rfl⟩ := ptr_of_checks pl addr hch (by simp)
    simp only [Prog.wp_bind, Prog.wp_pure]
    exact conducts_recvfrom hd ha.owns.1
  | getPendingEvents size pNumberOfEvents =>
    exact conducts_plain rfl (conducts_getPendingEvents hd)

/-! ### Whole runs -/

section

variable {cfg : Config} {s : NetworkStack} {h : History}

theorem rested_begin (ho : Orderly pl h) (ht : thread h = {}) :
    Rested pl c r (s, .begin c r s :: h) := by
  refine ⟨⟨⟨⟨by rw [ht], by rw [ht]⟩, ho⟩, rfl⟩, ?_⟩
  rw [thread_cons, Thread.step, ht]
  exact ⟨rfl, rfl, rfl, rfl⟩

/-- Callbacks and notification passes keep the history orderly and an idle thread idle. -/
theorem Elsewhere.orderly (h : Elsewhere pl w w') (ho : Orderly pl w.2) : Orderly pl w'.2 := by
  obtain ⟨new, hnew, hc⟩ := h.control
  rw [hnew]
  exact orderly_control hc ho

theorem Elsewhere.thread_eq (h : Elsewhere pl w w') (ht : thread w.2 = {}) : thread w'.2 = {} := by
  obtain ⟨new, hnew, hc⟩ := h.control
  rw [hnew]
  have hthread : thread (new ++ w.2) = _ ∨ _ := thread_control hc
  rcases hthread with h' | h' <;> rw [h', ht]
  rfl

/-- An RPC that begins between two RPCs is orderly. -/
theorem conducts_of_stepped (hw : Stepped pl cfg (s, h)) (hc : s.IsClient c) (ho : Orderly pl h)
    (ht : thread h = {}) :
    conducts pl sched c r (rpc pl c r) (Leaves pl c r) (s, .begin c r s :: h) := by
  obtain ⟨k, hk⟩ := hc
  exact conducts_rpc (rested_begin ho ht) fun i _ hi _ ↦ hw.accounting.inUse_of_owns hi hk

/-- **Every run is orderly**, and between RPCs the thread is idle. -/
theorem reachable_orderly {w : World} (h : Reachable pl sched cfg w) :
    Orderly pl w.2 ∧ thread w.2 = {} := by
  induction h with
  | refl => exact ⟨trivial, rfl⟩
  | @tail w w' hw hs ih =>
    obtain ⟨ho, ht⟩ := ih
    cases hs with
    | @rpc s s' h h' c r a hc hout =>
      have hst := (reachable_stepped hw).1
      obtain ⟨hd, hret⟩ := Prog.outcome_of_wp (conducts_of_stepped hst hc ho ht) hout
      refine ⟨⟨⟨hd.current, hret⟩, hd.orderly⟩, ?_⟩
      have hheld : (thread h').held = [] := hret.held
      rw [thread_cons, Thread.step, hheld]
    | mainLoop hi =>
      have hel : Elsewhere pl _ _ := elsewhere_mainLoopIteration hi
      exact ⟨hel.orderly ho, hel.thread_eq ht⟩
    | setState => exact ⟨ho, ht⟩

/-- What holds at a call of an RPC that begins in a reachable world. -/
theorem allows_of_reachable {e : Call} {w : World} (hw : Reachable pl sched cfg (s, h))
    (hc : s.IsClient c)
    (hat : Prog.CallAt (rpcEnv sched c r) (rpc pl c r) (s, .begin c r s :: h) e w) :
    (thread w.2).Allows r w.1 e ∧ Orderly pl w.2 := by
  obtain ⟨ho, ht⟩ := reachable_orderly hw
  exact Prog.callAt_of_wp (conducts_of_stepped (reachable_stepped hw).1 hc ho ht) hat

/-- What an RPC that begins in a reachable world leaves behind. -/
theorem leaves_of_reachable {a : Reply} {w : World} (hw : Reachable pl sched cfg (s, h))
    (hc : s.IsClient c)
    (hout : Prog.Outcome (rpcEnv sched c r) (rpc pl c r) (s, .begin c r s :: h) a w) :
    Leaves pl c r a w := by
  obtain ⟨ho, ht⟩ := reachable_orderly hw
  exact Prog.outcome_of_wp (conducts_of_stepped (reachable_stepped hw).1 hc ho ht) hout

theorem visited_orderly {w : World} (h : Visited pl sched cfg w) : Orderly pl w.2 := by
  induction h with
  | reachable h => exact (reachable_orderly h).1
  | call hw hc hat => exact (allows_of_reachable hw hc hat).2
  | callback _ h ih => exact (elsewhere_callbackStep h).orderly ih
  | mainLoop _ h ih => exact (elsewhere_mainLoopIteration h).orderly ih

end

end NetworkStackPicoTcp
