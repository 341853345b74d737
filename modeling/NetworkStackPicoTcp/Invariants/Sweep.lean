import NetworkStackPicoTcp.Invariants.Walk

/-!
# Walking through the sweep

The loop of `getPendingEvents` starts with the client's head at its tail and moves the head one step
in each iteration, around the table, until it is back at the tail or the buffer is full. `toGo`
counts the steps that are left, so the loop ends within one round.
-/

namespace NetworkStackPicoTcp

open Prog (wp)

variable {pl : Platform} {sched : Schedule} {c : ℤ} {r : RpcCall} {base w : World} {α : Type}

/-! ### Collecting events -/

namespace NetworkStack

variable {s : NetworkStack} {k l : ℕ} {f : Client → Client}

/-- The index of a client depends on the ids and the `inUse` flags only. -/
theorem isClientAt_updateClient (hid : ∀ cl, (f cl).clientId = cl.clientId)
    (huse : ∀ cl, (f cl).inUse = cl.inUse) :
    (s.updateClient l f).IsClientAt c k ↔ s.IsClientAt c k := by
  have hc : ∀ j, ((s.updateClient l f).clients j).clientId = (s.clients j).clientId ∧
      ((s.updateClient l f).clients j).inUse = (s.clients j).inUse := by
    intro j
    rw [updateClient_clients]
    split_ifs with hj
    · rw [hj]; exact ⟨hid _, huse _⟩
    · exact ⟨rfl, rfl⟩
  simp only [IsClientAt, getClientIndexFromClientId, fun j ↦ (hc j).1, fun j ↦ (hc j).2,
    updateClient_numberOfClients]

theorem isClientAt_advanceHead : (s.advanceHead l).IsClientAt c k ↔ s.IsClientAt c k :=
  isClientAt_updateClient (fun _ ↦ rfl) fun _ ↦ rfl

/-- How many steps the head of client `k` is from its tail: a whole round when they are equal. -/
def toGo (s : NetworkStack) (k : ℕ) : ℕ :=
  if (s.clients k).head < (s.clients k).tail then (s.clients k).tail - (s.clients k).head
  else (s.clients k).tail + s.numberOfSockets - (s.clients k).head

@[simp] theorem advanceHead_head :
    ((s.advanceHead k).clients k).head =
      if (s.clients k).head + 1 = s.numberOfSockets then 0 else (s.clients k).head + 1 := by
  simp [advanceHead]

@[simp] theorem advanceHead_tail : ((s.advanceHead k).clients k).tail = (s.clients k).tail := by
  simp [advanceHead]

@[simp] theorem advanceHead_numberOfSockets :
    (s.advanceHead k).numberOfSockets = s.numberOfSockets := rfl

theorem advanceHead_head_lt (h : (s.clients k).head < s.numberOfSockets) :
    ((s.advanceHead k).clients k).head < s.numberOfSockets := by
  rw [advanceHead_head]
  split_ifs <;> omega

/-- Moving the head brings it a step closer to the tail, unless it has arrived. -/
theorem toGo_advanceHead (hh : (s.clients k).head < s.numberOfSockets)
    (ht : (s.clients k).tail < s.numberOfSockets)
    (hne : ((s.advanceHead k).clients k).head ≠ ((s.advanceHead k).clients k).tail) :
    (s.advanceHead k).toGo k + 1 = s.toGo k := by
  simp only [toGo, advanceHead_tail, advanceHead_numberOfSockets]
  rw [advanceHead_tail] at hne
  rw [advanceHead_head] at hne ⊢
  split_ifs at hne ⊢ <;> omega

end NetworkStack

section GetPendingEvents

variable {k maxEvents : ℕ}

/-- One pass through the body of the sweep, for a slot that has just been examined. -/
theorem walks_sweepSlot {offset events : ℕ} {Q : ℕ × ℕ → World → Prop} (hr : r.isSweep = true)
    (hw : Micros pl base w) (hs : issuer w.2 = c) (hk : w.1.IsClientAt c k)
    (hp : phase w.2 = .examining (w.1.reportable c (w.1.clients k).head))
    (h : ∀ a w', Micros pl base w' → SameFrame w.1 w'.1 → issuer w'.2 = c →
      (phase w'.2 = .examining false ∨ phase w'.2 = .written) → Q a w') :
    walks pl sched c r base (sweepSlot pl c (w.1.clients k).head offset events) Q w := by
  simp only [walks, sweepSlot, Prog.wp_bind, Prog.wp_get]
  split_ifs with hslot
  · have hrep : w.1.reportable c (w.1.clients k).head = true := by
      simpa [NetworkStack.reportable] using hslot
    simp only [Prog.wp_bind, Prog.wp_get, Prog.wp_modify, Prog.wp_pure]
    refine ⟨issued_of_movesSweep rfl hw, ?_⟩
    rintro ⟨⟩ _ ⟨⟨s₁, h₁⟩, hint, rfl⟩
    have hel : Elsewhere pl w (s₁, h₁) := elsewhere_interference hint
    have hk₁ : s₁.IsClientAt c k := hel.frame.isClientAt hk
    have hhead : (w.1.clients k).head = (s₁.clients k).head := (hel.frame.client_head k).symm
    have hid : (s₁.sockets (s₁.clients k).head).clientId = c := by
      rw [← hhead, (hel.frame.slot _).clientId]
      exact hslot.1
    have hp₁ : phase h₁ = .examining true := by rw [hel.phase, hp, hrep]
    -- the lock and the snapshot are one step
    have hs₁ : issuer h₁ = c := hel.issuer.trans hs
    have hw₂ := (hw.trans hel.micros).tail (.snapshot hr hs₁ hk₁ hp₁ hid)
    have hf₂ := hel.frame.trans
      (SameFrame.updateSocket (i := (s₁.clients k).head) (SlotFrame.clear oneShotEvents _))
    rw [hhead]
    refine walks_request (by simp [Call.ordinary, Call.movesSweep]) hw₂ fun _ w₃ h₃ ↦ ?_
    have hp₃ : phase w₃.2 = .taken (s₁.eventRecord (s₁.clients k).head) := by
      rw [h₃.phase, ← NetworkStack.headOf_eq hk₁]
      simp [phase, phaseBy, phaseByWrite, hr]
    have hw₃ := hw₂.trans h₃.micros
    refine ⟨issued_of_movesSweep rfl hw₃, ?_⟩
    rintro ⟨⟩ _ ⟨w₄, hint₄, rfl⟩
    obtain rfl := quiet_putEvent _ _ sched _ _ hint₄
    have hs₃ : issuer w₄.2 = c := h₃.issuer.trans hs₁
    refine h _ _ (hw₃.tail (.put hr hs₃ offset hp₃)) (hf₂.trans h₃.frame) hs₃ (Or.inr ?_)
    simp [phase, phaseBy, hr]
  · have hrep : w.1.reportable c (w.1.clients k).head = false := by
      simpa [NetworkStack.reportable] using hslot
    exact h _ w hw (SameFrame.refl _) hs (Or.inl (by rw [hp, hrep]))

/-- The heads and tails of all clients, while client `k` sweeps. -/
structure Ring (s : NetworkStack) (k : ℕ) : Prop where
  head_lt : (s.clients k).head < s.numberOfSockets
  tail_lt : (s.clients k).tail < s.numberOfSockets
  others : ∀ l, l ≠ k → (s.clients l).head = (s.clients l).tail

theorem Ring.frame {s s' : NetworkStack} (h : Ring s k) (hf : SameFrame s s') : Ring s' k where
  head_lt := by rw [hf.client_head, hf.numberOfSockets]; exact h.head_lt
  tail_lt := by rw [hf.client_tail, hf.numberOfSockets]; exact h.tail_lt
  others l hl := by rw [hf.client_head, hf.client_tail]; exact h.others l hl

theorem Ring.advanceHead {s : NetworkStack} (h : Ring s k) : Ring (s.advanceHead k) k where
  head_lt := NetworkStack.advanceHead_head_lt h.head_lt
  tail_lt := by
    rw [NetworkStack.advanceHead_tail]
    exact h.tail_lt
  others l hl := by
    rw [NetworkStack.advanceHead, NetworkStack.updateClient_clients_of_ne hl]
    exact h.others l hl

theorem toGo_frame {s s' : NetworkStack} (hf : SameFrame s s') : s'.toGo k = s.toGo k := by
  simp only [NetworkStack.toGo, hf.client_head, hf.client_tail, hf.numberOfSockets]

/-- The sweep, by induction on the bound of its loop: the head has never more steps to go than the
bound allows, so the bound is never reached. -/
theorem walks_sweep {fuel offset events : ℕ} (hr : r.isSweep = true) (hw : Micros pl base w)
    (hs : issuer w.2 = c) (hk : w.1.IsClientAt c k) (hring : Ring w.1 k) (hgo : w.1.toGo k ≤ fuel)
    (hp : phase w.2 = .rest ∨
      phase w.2 = .advanced ∧ (w.1.clients k).head ≠ (w.1.clients k).tail) :
    walks pl sched c r base (sweep pl c k maxEvents fuel offset events)
      (fun _ w' ↦ Micros pl base w' ∧ issuer w'.2 = c ∧ w'.1.IsClientAt c k ∧ Ring w'.1 k ∧
        phase w'.2 = .advanced) w := by
  induction fuel generalizing offset events w with
  | zero =>
    -- the bound of the loop is never reached
    have hlt := hring.head_lt
    unfold NetworkStack.toGo at hgo
    split_ifs at hgo <;> omega
  | succ fuel ih =>
    simp only [walks, sweep, Prog.wp_bind, Prog.wp_get]
    refine ⟨issued_of_movesSweep rfl hw, ?_⟩
    rintro ⟨⟩ _ ⟨⟨s₁, h₁⟩, hint, rfl⟩
    have hel : Elsewhere pl w (s₁, h₁) := elsewhere_interference hint
    have hk₁ : s₁.IsClientAt c k := hel.frame.isClientAt hk
    have hp₁ : phase h₁ = .rest ∨
        phase h₁ = .advanced ∧ (s₁.clients k).head ≠ (s₁.clients k).tail := by
      rw [hel.phase, hel.frame.client_head, hel.frame.client_tail]
      exact hp
    have hs₁ : issuer h₁ = c := hel.issuer.trans hs
    have hw₁ := (hw.trans hel.micros).tail (.enter hr hs₁ hk₁ hp₁)
    refine walks_sweepSlot hr hw₁ hs₁ hk₁ ?_ fun a w₂ hw₂ hf₂ hs₂ hp₂ ↦ ?_
    · rw [← NetworkStack.headOf_eq hk₁]
      simp [phase, phaseBy, hr]
    · have hf := hel.frame.trans hf₂
      have hk₂ := hf₂.isClientAt hk₁
      have hring₂ := hring.frame hf
      have hw₃ := hw₂.tail (.advance hr hs₂ hk₂ hp₂)
      have hk₃ := NetworkStack.isClientAt_advanceHead (l := k).2 hk₂
      have hp₃ : phase (.own c r w₂.1 (w₂.1.advanceHead k) :: w₂.2) = .advanced := by
        rcases hp₂ with hp₂ | hp₂ <;> simp [phase, hr, hp₂, phaseByWrite]
      simp only [Prog.wp_modify]
      split_ifs with hcont
      · refine ih hw₃ hs₂ hk₃ hring₂.advanceHead ?_ (Or.inr ⟨hp₃, hcont.1⟩)
        have hstep := NetworkStack.toGo_advanceHead hring₂.head_lt hring₂.tail_lt hcont.1
        rw [toGo_frame hf] at hstep
        exact Nat.le_of_succ_le_succ (hstep.trans_le hgo)
      · exact ⟨hw₃, hs₂, hk₃, hring₂.advanceHead, hp₃⟩

/-- All clients' heads are at their tails, inside the table. -/
def AtRest (s : NetworkStack) : Prop :=
  ∀ k, (s.clients k).head = (s.clients k).tail ∧ (s.clients k).head < s.numberOfSockets

theorem walks_getPendingEvents {size : ℕ} {pNumberOfEvents : Option ℕ} (hk : w.1.IsClientAt c k)
    (hs : issuer w.2 = c)
    (hrest : AtRest w.1) (hp : phase w.2 = .rest) :
    walks pl sched c (.getPendingEvents size pNumberOfEvents) w
      (rpcSocketGetPendingEvents pl c size pNumberOfEvents)
      (fun _ w' ↦ Micros pl w w' ∧ (phase w'.2 = .rest ∨
        phase w'.2 = .advanced ∧ ∀ l, (w'.1.clients l).head = (w'.1.clients l).tail)) w := by
  have hk' : w.1.getClientIndexFromClientId c = some k := hk
  have hring : Ring w.1 k :=
    ⟨(hrest k).2, (hrest k).1 ▸ (hrest k).2, fun l _ ↦ (hrest l).1⟩
  have hgo : w.1.toGo k ≤ w.1.numberOfSockets := by
    rw [NetworkStack.toGo, (hrest k).1, if_neg (lt_irrefl _)]
    omega
  simp only [walks, rpcSocketGetPendingEvents, guarded, Prog.wp_bind, Prog.wp_get]
  split
  · exact ⟨.refl, Or.inl hp⟩
  · simp only [Prog.wp_bind, Prog.wp_get, hk']
    generalize (if size ≤ pl.rpcBufSize c then size / pl.sizeofEvt
      else pl.rpcBufSize c / pl.sizeofEvt) = maxEvents
    refine Prog.wp_mono (fun _ _ h ↦ h) ?_ (walks_sweep rfl .refl hs hk hring hgo (Or.inl hp))
    rintro events w₁ ⟨hw₁, hs₁, hk₁, hring₁, hp₁⟩
    -- the tail meets the head
    have hend : ∀ w₂ : World, Micros pl w w₂ → issuer w₂.2 = c → w₂.1.IsClientAt c k → Ring w₂.1 k →
        phase w₂.2 = .advanced →
        Micros pl w ((rpcEnv sched c (.getPendingEvents size pNumberOfEvents)).write
          (fun s ↦ s.updateClient k fun cl ↦ { cl with tail := cl.head }) w₂) ∧
        (phase ((rpcEnv sched c (.getPendingEvents size pNumberOfEvents)).write
          (fun s ↦ s.updateClient k fun cl ↦ { cl with tail := cl.head }) w₂).2 = .rest ∨
        phase ((rpcEnv sched c (.getPendingEvents size pNumberOfEvents)).write
          (fun s ↦ s.updateClient k fun cl ↦ { cl with tail := cl.head }) w₂).2 = .advanced ∧
        ∀ l, ((w₂.1.updateClient k fun cl ↦ { cl with tail := cl.head }).clients l).head =
          ((w₂.1.updateClient k fun cl ↦ { cl with tail := cl.head }).clients l).tail) := by
      intro w₂ hw₂ hs₂ hk₂ hring₂ hp₂
      refine ⟨hw₂.tail (.setTail rfl hs₂ hk₂ hp₂), Or.inr ⟨?_, fun l ↦ ?_⟩⟩
      · simp [phase, RpcCall.isSweep, hp₂, phaseByWrite]
      · rw [NetworkStack.updateClient_clients]
        split_ifs with hl
        · rfl
        · exact hring₂.others l hl
    split_ifs
    · have hw₂ := hw₁.tail (.flagSelf (r := .getPendingEvents size pNumberOfEvents) rfl hs₁ hk₁ hp₁)
      refine hend _ hw₂ hs₁ ?_ ?_ ?_
      · exact (NetworkStack.isClientAt_updateClient (l := k) (f := Client.flag) (fun _ ↦ rfl)
          fun _ ↦ rfl).2 hk₁
      · exact hring₁.frame (SameFrame.updateClient k true)
      · simp [phase, RpcCall.isSweep, hp₁, phaseByWrite]
    · exact hend _ hw₁ hs₁ hk₁ hring₁ hp₁

end GetPendingEvents

end NetworkStackPicoTcp
