import NetworkStackPicoTcp.Invariants.Deeds
import NetworkStackPicoTcp.Properties.Events

/-!
# Clients with pending events are signalled

The notification pass signals the clients that are flagged or own a slot with a pending event, each
of them once, and clears their flags (`NetworkStack.notify_eq`). The flag is set by callbacks and by
sweeps that are cut short, and nothing but the pass clears it, so no cause for a signal gets lost
(`Alerted`).
-/

namespace NetworkStackPicoTcp

open Trace (Since)

variable {pl : Platform} {sched : Schedule} {cfg : Config} {c : ℤ} {r : RpcCall} {w w' : World}
  {k : ℕ}

/-! ### The pass -/

namespace NetworkStack

variable (s : NetworkStack)

/-- `needsToBeNotified = false`, for a client in use. -/
def clearFlag (cl : Client) : Client :=
  if cl.inUse = true then { cl with needsToBeNotified := false } else cl

/-- The tables when the outer loop has passed the first `n` clients. -/
def afterPass (n : ℕ) : NetworkStack :=
  { s with clients := fun k ↦ if k < n then clearFlag (s.clients k) else s.clients k }

theorem isDue_iff : s.isDue k = true ↔ (s.clients k).inUse = true ∧
    ((s.clients k).needsToBeNotified = true ∨ ∃ i < s.numberOfSockets,
      (s.sockets i).status = .inUse ∧ (s.sockets i).eventMask ≠ ∅ ∧
        (s.sockets i).clientId = (s.clients k).clientId) := by
  simp [isDue, hasPendingEvents]

theorem afterPass_succ (n : ℕ) :
    s.afterPass (n + 1) = (s.afterPass n).updateClient n clearFlag := by
  have hcl : (s.afterPass (n + 1)).clients =
      ((s.afterPass n).updateClient n clearFlag).clients := by
    funext k
    rw [updateClient_clients]
    show (if k < n + 1 then _ else _) = if k = n then clearFlag (if n < n then _ else _) else
      if k < n then _ else _
    rw [if_neg (lt_irrefl n)]
    rcases lt_trichotomy k n with hk | rfl | hk
    · rw [if_pos (by omega), if_neg (by omega), if_pos hk]
    · rw [if_pos (by omega), if_pos rfl]
    · rw [if_neg (by omega), if_neg (by omega), if_neg (by omega)]
  exact congrArg (fun cls ↦ ({ s with clients := cls } : NetworkStack)) hcl

/-- One iteration of the outer loop. -/
theorem notifyClient_afterPass (n : ℕ) (signalled : List ℕ) :
    notifyClient (s.afterPass n, signalled) n = (s.afterPass (n + 1),
      if s.isDue n = true ∧ (s.clients n).eventNotify = true then signalled ++ [n] else
        signalled) := by
  have hself : (s.afterPass n).clients n = s.clients n := if_neg (lt_irrefl n)
  have hdue : (s.afterPass n).isDue n = s.isDue n := by
    rw [Bool.eq_iff_iff, isDue_iff, isDue_iff, hself]
    rfl
  rw [notifyClient, hdue, hself, afterPass_succ]
  cases h : s.isDue n with
  | true =>
    have huse := (s.isDue_iff.1 h).1
    have hclear : clearFlag (s.clients n) = { s.clients n with needsToBeNotified := false } :=
      if_pos huse
    simp [updateClient, hself, hclear]
  | false =>
    -- a client that is not due has no flag to clear
    have hclear : clearFlag (s.clients n) = s.clients n := by
      unfold clearFlag
      split_ifs with huse
      · have hflag : (s.clients n).needsToBeNotified = false := by
          by_contra hflag
          have hd := s.isDue_iff.2 ⟨huse, Or.inl (by simpa using hflag)⟩
          exact Bool.false_ne_true (h.symm.trans hd)
        rw [← hflag]
      · rfl
    have hsame : (s.afterPass n).updateClient n clearFlag = s.afterPass n := by
      rw [updateClient, hself, hclear, ← hself, Function.update_eq_self]
    simp [hsame]

theorem foldl_notifyClient (n : ℕ) : (List.range n).foldl notifyClient (s, []) = (s.afterPass n,
    (List.range n).filter fun k ↦ s.isDue k = true ∧ (s.clients k).eventNotify = true) := by
  induction n with
  | zero =>
    have hzero : s.afterPass 0 = s := by simp [afterPass]
    simp [hzero]
  | succ n ih =>
    rw [List.range_succ, List.foldl_append, ih, List.foldl_cons, List.foldl_nil,
      notifyClient_afterPass, List.filter_append, List.filter_singleton]
    by_cases h : s.isDue n = true ∧ (s.clients n).eventNotify = true
    · simp [h]
    · simp [h]

/-- **What the pass does**: it signals the clients that are due, in their order, and clears the
flags. -/
theorem notify_eq : s.notifyClientsAboutPendingEvents = (s.afterPass s.numberOfClients,
    (List.range s.numberOfClients).filter fun k ↦
      s.isDue k = true ∧ (s.clients k).eventNotify = true) :=
  s.foldl_notifyClient s.numberOfClients

end NetworkStack

/-! ### Causes for a signal -/

/-- A notification pass runs. -/
def Entry.isNotified : Entry → Bool
  | .notified .. => true
  | _ => false

/-- The entry gives client `k` a cause to be signalled: a callback finds one of its slots, or a
sweep of this client is cut short, as its tail does not come back to where it was. -/
def Entry.alerts (k : ℕ) : Entry → Prop
  | .event ev s _ => ∃ i, s.getHandleFromImplementationSocket ev.socket = some i ∧
      s.IsClientAt (s.sockets i).clientId k
  | .own c r s s' => r.isSweep = true ∧ s.IsClientAt c k ∧ (s'.clients k).tail ≠ (s.clients k).tail
  | _ => False

/-- Client `k` has been given a cause to be signalled since the last notification pass. -/
def Alerted (k : ℕ) (h : History) : Prop := Since (fun x ↦ x.isNotified = false) (Entry.alerts k) h

/-- Client `k` is in use and flagged. -/
def NetworkStack.Flagged (s : NetworkStack) (k : ℕ) : Prop :=
  k < s.numberOfClients ∧ (s.clients k).inUse = true ∧ (s.clients k).needsToBeNotified = true

section

variable {s s' : NetworkStack} {h : History} {t : Thread} {c' : ℤ}

theorem NetworkStack.IsClientAt.inUse (hk : s.IsClientAt c k) :
    k < s.numberOfClients ∧ (s.clients k).inUse = true := by
  obtain ⟨-, ⟨-, huse⟩, hlt, -⟩ := NetworkStack.getClientIndexFromClientId_eq_some_iff.1 hk
  exact ⟨hlt, huse⟩

/-- An update of a client record that keeps the client in use and flagged. -/
theorem NetworkStack.Flagged.updateClient (hk : s.Flagged k) {l : ℕ} {f : Client → Client}
    (hf : ∀ cl, (f cl).inUse = cl.inUse ∧
      (cl.needsToBeNotified = true → (f cl).needsToBeNotified = true)) :
    (s.updateClient l f).Flagged k := by
  obtain ⟨hlt, huse, hflag⟩ := hk
  rcases eq_or_ne k l with rfl | hkl
  · refine ⟨hlt, ?_, ?_⟩ <;> rw [NetworkStack.updateClient_clients_self]
    · exact (hf _).1.trans huse
    · exact (hf _).2 hflag
  · refine ⟨hlt, ?_, ?_⟩ <;> rw [NetworkStack.updateClient_clients_of_ne hkl]
    · exact huse
    · exact hflag

/-- No write of an RPC clears a flag. -/
theorem Thread.MayWrite.flagged (hw : t.MayWrite pl c r s s') (hk : s.Flagged k) :
    s'.Flagged k := by
  unfold Thread.MayWrite at hw
  split at hw
  · obtain ⟨i, pc, b, hs⟩ := hw
    rw [hs.eq]
    exact hk
  · cases hw with
    | clear | acceptPending | reserve | create | adopt | accepted => exact hk
    | countUp | advanceHead | setTail => exact hk.updateClient fun _ ↦ ⟨rfl, id⟩
    | flagSelf => exact hk.updateClient fun _ ↦ ⟨rfl, fun _ ↦ rfl⟩
    | @release i l =>
      have hdown : (s.updateClient l Client.countDown).Flagged k :=
        hk.updateClient fun _ ↦ ⟨rfl, id⟩
      exact hdown

/-- A sweep that moves the tail of its client has flagged it. -/
theorem Thread.MayWrite.flagged_of_tail (hw : t.MayWrite pl c r s s') (hk : s.IsClientAt c' k)
    (htail : (s'.clients k).tail ≠ (s.clients k).tail) : s'.Flagged k := by
  have hone : ∀ {l : ℕ} {f : Client → Client}, (∀ cl, (f cl).tail = cl.tail) →
      ((s.updateClient l f).clients k).tail = (s.clients k).tail := by
    intro l f hf
    rw [NetworkStack.updateClient_clients]
    split_ifs with hkl
    · rw [hkl, hf]
    · rfl
  unfold Thread.MayWrite at hw
  split at hw
  · obtain ⟨i, pc, b, hs⟩ := hw
    rw [hs.eq] at htail
    exact absurd rfl htail
  · cases hw with
    | clear | acceptPending | reserve | create | adopt | accepted => exact absurd rfl htail
    | countUp | advanceHead | flagSelf | release => exact (htail (hone fun _ ↦ rfl)).elim
    | @setTail l hflag =>
      rcases eq_or_ne k l with rfl | hkl
      · rw [NetworkStack.updateClient_clients_self] at htail
        obtain ⟨hlt, huse⟩ := hk.inUse
        have hset : s.Flagged k := ⟨hlt, huse, hflag htail⟩
        exact hset.updateClient fun _ ↦ ⟨rfl, id⟩
      · rw [NetworkStack.updateClient_clients_of_ne hkl] at htail
        exact absurd rfl htail

/-- **A cause for a signal is remembered** until the next notification pass. -/
theorem Deed.flagged (hd : Deed pl w w') (hw : Alerted k w.2 → w.1.Flagged k)
    (ha : Alerted k w'.2) : w'.1.Flagged k := by
  cases hd with
  | begin | answer | reply =>
    rcases ha with ha | ⟨-, ha⟩
    · exact ha.elim
    · exact hw ha
  | own _ hmay =>
    rcases ha with ⟨-, hk, htail⟩ | ⟨-, ha⟩
    · exact hmay.flagged_of_tail hk htail
    · exact hmay.flagged (hw ha)
  | event h =>
    obtain ⟨ev, -, hs, hh⟩ := h
    rw [hh] at ha
    obtain ⟨hnone, hs'⟩ | ⟨i, l, hi, hl, hs'⟩ := NetworkStack.handlePicoSocketEvent_cases hs
    · rw [hs']
      rcases ha with ⟨i, hi, -⟩ | ⟨-, ha⟩
      · exact absurd (hnone.symm.trans hi) (by simp)
      · exact hw ha
    · rw [hs']
      rcases ha with ⟨j, hj, hk⟩ | ⟨-, ha⟩
      · obtain rfl := Option.some.inj (hi.symm.trans hj)
        obtain rfl := Option.some.inj (hl.symm.trans hk)
        obtain ⟨hlt, huse⟩ := hl.inUse
        refine ⟨hlt, ?_, ?_⟩ <;> rw [NetworkStack.updateClient_clients_self]
        · exact huse
        · rfl
      · have hrec : (w.1.updateSocket i (SocketResources.recordEvent ev)).Flagged k := hw ha
        exact hrec.updateClient fun _ ↦ ⟨rfl, fun _ ↦ rfl⟩
  | notified =>
    rcases ha with ha | ⟨hn, -⟩
    · exact ha.elim
    · exact absurd hn (by simp [Entry.isNotified])
  | setState => exact hw ha

theorem Deeds.flagged (h : Deeds pl (cfg.init, []) w) (ha : Alerted k w.2) : w.1.Flagged k := by
  induction h with
  | refl => exact ha.elim
  | tail _ hd ih => exact hd.flagged ih ha

end

/-! ### Iterations of the main loop -/

/-- A client that is due and can be signalled is signalled once, and no other client is. -/
theorem NetworkStack.count_notify {s s' : NetworkStack} {signalled : List ℕ}
    (hpass : s.notifyClientsAboutPendingEvents = (s', signalled)) (k : ℕ) :
    (k < s.numberOfClients ∧ s.isDue k = true ∧ (s.clients k).eventNotify = true →
      signalled.count k = 1) ∧
    (¬ (k < s.numberOfClients ∧ s.isDue k = true ∧ (s.clients k).eventNotify = true) →
      signalled.count k = 0) := by
  have hsig : signalled = (List.range s.numberOfClients).filter fun k ↦
      s.isDue k = true ∧ (s.clients k).eventNotify = true :=
    (congrArg Prod.snd (hpass.symm.trans s.notify_eq))
  have hmem : k ∈ signalled ↔
      k < s.numberOfClients ∧ s.isDue k = true ∧ (s.clients k).eventNotify = true := by
    rw [hsig, List.mem_filter, List.mem_range, decide_eq_true_iff]
  refine ⟨fun h ↦ List.count_eq_one_of_mem ?_ (hmem.2 h),
    fun h ↦ List.count_eq_zero_of_not_mem fun hk ↦ h (hmem.1 hk)⟩
  rw [hsig]
  exact List.nodup_range.filter _

/-- **Clients with pending events are signalled.** In an iteration of the main loop, whatever
callbacks it runs, a client that can be signalled and is flagged when the notification pass begins,
or owns a slot in use whose mask is not empty, is signalled exactly once, and no other client is.
The pass clears the flags of the clients in use and changes nothing else. So a client that has been
given a cause to be signalled since the last pass, by a callback or by a sweep that was cut short,
is signalled in this one. -/
theorem clients_signalled {w₁ : World} (hw : Visited pl sched cfg w) (hcb : Callbacks w w₁)
    {s' : NetworkStack} {signalled : List ℕ}
    (hpass : w₁.1.notifyClientsAboutPendingEvents = (s', signalled)) :
    MainLoopIteration w (s', .notified w₁.1 s' :: w₁.2) ∧
    (∀ k, k < s'.numberOfClients ∧ (s'.clients k).inUse = true ∧ (s'.clients k).eventNotify = true ∧
        ((w₁.1.clients k).needsToBeNotified = true ∨ ∃ i < s'.numberOfSockets,
          (s'.sockets i).status = .inUse ∧ (s'.sockets i).eventMask ≠ ∅ ∧
            (s'.sockets i).clientId = (s'.clients k).clientId) →
      signalled.count k = 1) ∧
    (∀ k, ¬ (k < s'.numberOfClients ∧ (s'.clients k).inUse = true ∧
        (s'.clients k).eventNotify = true ∧
        ((w₁.1.clients k).needsToBeNotified = true ∨ ∃ i < s'.numberOfSockets,
          (s'.sockets i).status = .inUse ∧ (s'.sockets i).eventMask ≠ ∅ ∧
            (s'.sockets i).clientId = (s'.clients k).clientId)) →
      signalled.count k = 0) ∧
    (∀ k < s'.numberOfClients, (s'.clients k).inUse = true →
      (s'.clients k).needsToBeNotified = false) ∧
    s' = w₁.1.afterPass w₁.1.numberOfClients ∧
    ∀ k, Alerted k w₁.2 → signalled.count k = 1 := by
  have hs' : s' = w₁.1.afterPass w₁.1.numberOfClients :=
    congrArg Prod.fst (hpass.symm.trans w₁.1.notify_eq)
  have hframe : SameFrame w₁.1 s' := by
    have hf : SameFrame w₁.1 w₁.1.notifyClientsAboutPendingEvents.1 := NetworkStack.sameFrame_notify
    rwa [hpass] at hf
  have hset := SameSetup.of_sameFrame hframe
  have hsock : s'.sockets = w₁.1.sockets := by rw [hs']; rfl
  have hdue : ∀ k, (k < s'.numberOfClients ∧ (s'.clients k).inUse = true ∧
      (s'.clients k).eventNotify = true ∧
      ((w₁.1.clients k).needsToBeNotified = true ∨ ∃ i < s'.numberOfSockets,
        (s'.sockets i).status = .inUse ∧ (s'.sockets i).eventMask ≠ ∅ ∧
          (s'.sockets i).clientId = (s'.clients k).clientId)) ↔
      k < w₁.1.numberOfClients ∧ w₁.1.isDue k = true ∧ (w₁.1.clients k).eventNotify = true := by
    intro k
    rw [NetworkStack.isDue_iff, hset.numberOfClients, hset.numberOfSockets, hset.inUse,
      hset.eventNotify, hset.clientId, hsock]
    tauto
  refine ⟨⟨w₁, hcb, by rw [hpass]⟩, fun k hk ↦ ?_, fun k hk ↦ ?_, fun k hk huse ↦ ?_, hs',
    fun k ha ↦ ?_⟩
  · exact (NetworkStack.count_notify hpass k).1 ((hdue k).1 hk)
  · exact (NetworkStack.count_notify hpass k).2 fun h ↦ hk ((hdue k).2 h)
  · rw [hset.numberOfClients] at hk
    rw [hset.inUse] at huse
    have hcl : s'.clients k = NetworkStack.clearFlag (w₁.1.clients k) := by
      rw [hs']
      exact if_pos hk
    rw [hcl, NetworkStack.clearFlag, if_pos huse]
  · -- a cause since the last pass has left the client flagged, and every client can be signalled
    have hw₁ : Stepped pl cfg w₁ :=
      (visited_stepped hw).trans (elsewhere_callbacks hcb).micros
    have ho₁ : Orderly pl w₁.2 := (elsewhere_callbacks hcb).orderly (visited_orderly hw)
    obtain ⟨hlt, huse, hflag⟩ := Deeds.flagged (Micros.deeds hw₁ ho₁) ha
    refine (NetworkStack.count_notify hpass k).1 ⟨hlt, w₁.1.isDue_iff.2 ⟨huse, Or.inl hflag⟩, ?_⟩
    rw [hw₁.sameSetup.inUse, Config.init_clients] at huse
    rw [hw₁.sameSetup.eventNotify, Config.init_clients,
      Config.client_of_lt (Config.lt_of_inUse huse)]

/-- A connection comes in for client 101, who is signalled. -/
theorem clients_signalled_sampleListening :
    Alerted 0 (fire sampleListening (incoming 7)).2 ∧
      (fire sampleListening (incoming 7)).1.notifyClientsAboutPendingEvents.2.count 0 = 1 := by
  have halert : Alerted 0 (fire sampleListening (incoming 7)).2 := Or.inl ⟨0, rfl, rfl⟩
  have hcb : Callbacks sampleListening ([incoming 7].foldl fire sampleListening) :=
    callbacks_foldl_fire (by simp [incoming])
  obtain ⟨-, -, -, -, -, hsig⟩ :=
    clients_signalled (.reachable (reachable_sampleListening .free)) hcb rfl
  exact ⟨halert, hsig 0 halert⟩

end NetworkStackPicoTcp
