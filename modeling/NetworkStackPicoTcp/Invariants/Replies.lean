import NetworkStackPicoTcp.Invariants.RpcThread

/-!
# Replies of the RPC thread

Whole RPCs among the other threads. `close`, `create` and `accept` move the books, the loop of
`getPendingEvents` the heads and tails; every RPC returns with the books in order again, and with
what its reply says about the caller's handles already done (`Component.Answered`).
-/

namespace NetworkStackPicoTcp

theorem picoErr2Os_ne_notInitialized {e : PicoErr} : picoErr2Os e ≠ .notInitialized := by
  cases e <;> simp [picoErr2Os]

theorem picoErr2Os_ne_aborted {e : PicoErr} : picoErr2Os e ≠ .aborted := by
  cases e <;> simp [picoErr2Os]

namespace AtRest

variable {s : NetworkStack} {k i p : ℕ} {c : ℤ}

theorem reserve (h : AtRest s) : AtRest (s.reserve k i (some p) c) := by
  intro l
  obtain ⟨hh, ht⟩ := NetworkStack.head_tail_reserve (s := s) (c := c) (k := k) (i := i) (p := p) l
  rw [hh, ht]
  exact h l

theorem release (h : AtRest s) : AtRest (s.release k i) := by
  intro l
  rw [NetworkStack.clients_release]
  split_ifs with hl
  · exact h k
  · exact h l

end AtRest

namespace Component

variable {pl : Platform} {cfg : NetworkStackPicoTcp.Config} {c : ℤ} {r : RpcCall} {o : ℕ → Option ℤ}
  {s s' : NetworkStack} {H : Finset Mutex} {ann : Prop} {l : List Entry} {w : World} {α β : Type}
  {i j k : ℕ}

/-- The RPC thread holds no mutex and owes no announcement, the books are in order while the slots
have the owners `o`, and no sweep is under way. -/
def Settled (cfg : NetworkStackPicoTcp.Config) (o : ℕ → Option ℤ) (l : List Entry)
    (w : World) : Prop :=
  ∃ s, At s ∅ True l w ∧ Books cfg o s ∧ AtRest s

theorem Settled.stable {w' : World} (h : Settled cfg o l w) (hr : Others .rpc w w') :
    Settled cfg o l w' := by
  obtain ⟨s, hat, hb, hrest⟩ := h
  exact ⟨s, hat.stable hr, hb, hrest⟩

/-! ### Close -/

/-- `close` gives the slot back, whatever it returns. -/
theorem follows_close {i : ℕ} (hw : At s ∅ True l w) (ho : s.Owns c i) (hk : s.IsClientAt c k)
    (himpl : (s.sockets i).implementationSocket ≠ none) :
    follows c r (picoSocketClose i c)
      (fun e w' ↦ At (s.release k i) ∅ True l w' ∧
        ¬(e = .notInitialized ∨ e = .aborted ∨ e = .invalidHandle)) w := by
  have hpico :
      ∀ e, ¬(picoErr2Os e = .notInitialized ∨ picoErr2Os e = .aborted ∨
        picoErr2Os e = .invalidHandle) :=
    fun e he ↦ he.elim picoErr2Os_ne_notInitialized fun he ↦
      he.elim picoErr2Os_ne_aborted picoErr2Os_ne_invalidHandle
  have hfree : ∀ {e : OsError} {w' : World},
      ¬(e = .notInitialized ∨ e = .aborted ∨ e = .invalidHandle) → At s ∅ True l w' →
      follows c r (freeHandle i c >>= fun _ ↦ pure e)
        (fun e w' ↦ At (s.release k i) ∅ True l w' ∧
          ¬(e = .notInitialized ∨ e = .aborted ∨ e = .invalidHandle)) w' := by
    intro e w' he h'
    refine Prog.rg_bind.2 (follows_freeHandle h' ho hk fun w₁ h₁ ↦ ?_)
    exact follows_pure h₁ fun w₂ h₂ ↦ ⟨h₂, he⟩
  refine Prog.rg_bind.2 (follows_socketOf hw ho.1 fun w₁ h₁ ↦ follows_get h₁ fun w₂ h₂ ↦ ?_)
  rw [(h₂.frame.slot i).implementationSocket, if_neg himpl]
  split_ifs
  · exact hfree (by simp) h₂
  · have hm : Mutex.stackTS ∈ insert Mutex.stackTS ∅ := Finset.mem_insert_self _ _
    refine follows_lock h₂ (by simp) fun w₃ h₃ ↦ follows_pico h₃ hm fun ret w₄ h₄ _ ↦ ?_
    refine follows_picoErr (P := fun _ ↦ True) h₄ hm trivial fun e w₅ _ h₅ ↦ ?_
    refine follows_frame h₅ (fun t ↦ SameFrame.updateSocket (SlotFrame.setError _ _)) fun w₆ h₆ ↦ ?_
    refine follows_frame h₆ (fun t ↦ SameFrame.updateSocket (SlotFrame.clear _ _)) fun w₇ h₇ ↦ ?_
    refine follows_unlock h₇ (by simp) fun w₈ h₈ ↦ follows_notifyMainLoop h₈ fun w₉ h₉ ↦ ?_
    split_ifs
    · exact hfree (hpico e) h₉
    · exact hfree (by simp) h₉

/-! ### Create and accept -/

/-- A `create` or an `accept` is over. Either it has failed and the books are as they were, or it
returns the slot that it has taken for the caller. -/
def Acquired (cfg : NetworkStackPicoTcp.Config) (o : ℕ → Option ℤ) (c : ℤ) (l : List Entry)
    (a : OsError × ℤ)
    (w : World) : Prop :=
  a.1 ≠ .success ∧ a.1 ≠ .invalidHandle ∧ Settled cfg o l w ∨
    ∃ i : ℕ, a = (.success, (i : ℤ)) ∧
      Ledger.Allowed (Finset.range cfg.numberOfSockets) cfg.quotaOf o (.give i c) ∧
      Settled cfg (Function.update o i (some c)) l w

theorem Acquired.stable {a : OsError × ℤ} {w' : World} (h : Acquired cfg o c l a w)
    (hr : Others .rpc w w') :
    Acquired cfg o c l a w' := by
  rcases h with ⟨hne, hinv, hs⟩ | ⟨i, ha, hal, hs⟩
  · exact Or.inl ⟨hne, hinv, hs.stable hr⟩
  · exact Or.inr ⟨i, ha, hal, hs.stable hr⟩

theorem follows_setOption {p : PicoPtr} {option : PicoOption} {value : ℕ} {Q : Unit → World → Prop}
    (hw : At s H ann l w) (hm : Mutex.stackTS ∈ H) (h : ∀ w', At s H ann l w' → Q () w') :
    follows c r (setOption p option value) Q w :=
  follows_pico hw hm fun _ _ h₁ _ ↦ follows_pure (h₁.weaken fun ha ↦ ⟨ha, rfl⟩) h

theorem follows_setSocketOptions {p : PicoPtr} {Q : Unit → World → Prop}
    (hw : At s H ann l w) (hm : Mutex.stackTS ∈ H) (h : ∀ w', At s H ann l w' → Q () w') :
    follows c r (setSocketOptions p) Q w := by
  refine Prog.rg_bind.2 (follows_setOption hw hm fun w₁ h₁ ↦ ?_)
  refine Prog.rg_bind.2 (follows_setOption h₁ hm fun w₂ h₂ ↦ ?_)
  refine Prog.rg_bind.2 (follows_setOption h₂ hm fun w₃ h₃ ↦ ?_)
  exact follows_setOption h₃ hm h

theorem follows_setStreamOption {type : SocketType} {p : PicoPtr} {Q : Unit → World → Prop}
    (hw : At s H ann l w) (hm : Mutex.stackTS ∈ H) (h : ∀ w', At s H ann l w' → Q () w') :
    follows c r (setStreamOption type p) Q w := by
  unfold setStreamOption
  split_ifs
  · exact follows_setOption hw hm h
  · exact follows_pure hw h

theorem follows_closeUnreserved {p : PicoPtr} {Q : Unit → World → Prop} (hw : At s H True l w)
    (hm : Mutex.stackTS ∈ H) (h : ∀ w', At s H True l w' → Q () w') :
    follows c r (closeUnreserved p) Q w := by
  refine follows_pico hw hm fun ret w₁ h₁ _ ↦ ?_
  split_ifs
  · refine follows_picoErr (P := fun _ ↦ True) h₁ hm trivial fun e w₂ _ h₂ ↦ ?_
    exact follows_notifyMainLoop (k := pure) h₂ fun w₃ h₃ ↦ follows_pure h₃ h
  · exact follows_notifyMainLoop (k := pure) h₁ fun w₂ h₂ ↦ follows_pure h₂ h

theorem follows_create {domain : SocketDomain} {type : SocketType} {h : ℤ} {buf : BufPtr} {size : ℕ}
    (hw : At s ∅ True l w) (hb : Books cfg o s) (hrest : AtRest s) (hk : s.IsClientAt c k) :
    follows c r (picoSocketCreate domain type h c buf size) (Acquired cfg o c l) w := by
  unfold picoSocketCreate
  split
  · have hm : Mutex.stackTS ∈ insert Mutex.stackTS ∅ := Finset.mem_insert_self _ _
    refine follows_lock hw (by simp) fun w₁ h₁ ↦ follows_pico h₁ hm fun sock w₂ h₂ hnull ↦ ?_
    replace h₂ := h₂.announce ⟨trivial, rfl⟩
    refine follows_picoErr (P := fun e ↦ sock = none → e ≠ .noerr) h₂ hm ?_ fun e w₃ herr h₃ ↦ ?_
    · exact fun hs ↦ hnull (by rw [hs]; rfl)
    cases sock with
    | none =>
      -- `pico_socket_open` has failed, and `pico_err` says why
      rw [if_pos rfl]
      refine follows_unlock h₃ (by simp) fun w₄ h₄ ↦ ?_
      exact follows_pure h₄ fun w₅ h₅ ↦ Or.inl ⟨fun he ↦ herr rfl (picoErr2Os_eq_success_iff.1 he),
        picoErr2Os_ne_invalidHandle, s, h₅, hb, hrest⟩
    | some p =>
      rw [if_neg (Option.some_ne_none p)]
      refine Prog.rg_bind.2 (follows_setStreamOption h₃ hm fun w₄ h₄ ↦ ?_)
      refine Prog.rg_bind.2
        (follows_reserveHandle h₄ hk (by simp) (fun w₅ h₅ ↦ ?_) fun i w₅ hi hq h₅ ↦ ?_)
      · -- no handle for the new socket, which is closed again
        refine Prog.rg_bind.2
          (follows_closeUnreserved h₅ hm fun w₆ h₆ ↦ follows_unlock h₆ (by simp) fun w₇ h₇ ↦ ?_)
        exact follows_pure h₇ fun w₈ h₈ ↦ Or.inl ⟨by simp, by simp, s, h₈, hb, hrest⟩
      · refine follows_write h₅ SameFrame.respected_create fun w₆ h₆ ↦ ?_
        refine Prog.rg_bind.2
          (follows_setSocketOptions h₆ hm fun w₇ h₇ ↦ follows_unlock h₇ (by simp) fun w₈ h₈ ↦ ?_)
        refine follows_pure h₈ fun w₉ h₉ ↦
          Or.inr ⟨i, rfl, hb.allowed_give hk hi hq, _, h₉, ?_, hrest.reserve⟩
        exact (hb.reserve hk hi hq).updateSocket rfl rfl rfl
  · exact follows_pure hw fun w₁ h₁ ↦ Or.inl ⟨by simp, by simp, s, h₁, hb, hrest⟩

/-- The end of `accept`: the slot `j`, reserved for the owner of the listening slot `i`, is filled
in. -/
theorem follows_fillAccepted {p : PicoPtr} {Q : OsError × ℤ → World → Prop}
    (hw : At s (insert .stackTS ∅) True l w) (hi : s.Owns c i) (hj : s.Owns c j)
    (h : ∀ w', At
      ((s.adopt j i).updateSocket j (SocketResources.accepted ((s.adopt j i).sockets i))) ∅ True
        l w' →
      Q (.success, j) w') :
    follows c r (fillAccepted c i i j p) Q w := by
  have hm : Mutex.stackTS ∈ insert Mutex.stackTS ∅ := Finset.mem_insert_self _ _
  refine Prog.rg_bind.2 (follows_setSocketOptions hw hm fun w₁ h₁ ↦ ?_)
  refine Prog.rg_bind.2
    (follows_setParentHandle h₁ hj.1 hi.1 fun w₂ h₂ ↦ follows_get h₂ fun w₃ h₃ ↦ ?_)
  have hid : (w₃.1.sockets j).clientId = c :=
    (h₃.frame.slot j).clientId.trans (NetworkStack.owns_adopt_self hj.1 hi.2).2
  rw [if_neg (not_not.2 hid)]
  refine follows_write h₃ SameFrame.respected_accepted fun w₄ h₄ ↦
    follows_unlock h₄ (by simp) fun w₅ h₅ ↦ ?_
  exact follows_pure h₅ h

theorem follows_accept {h : ℤ} (hw : At s ∅ True l w) (hb : Books cfg o s) (hrest : AtRest s)
    (ho : s.Owns c i) (hk : s.IsClientAt c k) (hr : r.isAccept = true) :
    follows c r (picoSocketAccept c i h) (Acquired cfg o c l) w := by
  have hm : Mutex.stackTS ∈ insert Mutex.stackTS ∅ := Finset.mem_insert_self _ _
  refine follows_withOpenSocket hw ho.1 (hb.implementationSocket_ne ho hk)
    (fun w' h' ↦ Or.inl ⟨by simp, by simp, s, h', hb, hrest⟩) fun w₁ h₁ ↦ ?_
  refine follows_lock h₁ (by simp) fun w₂ h₂ ↦ follows_pico h₂ hm fun ret w₃ h₃ hnull ↦ ?_
  replace h₃ := h₃.announce ⟨trivial, rfl⟩
  obtain ⟨sock, src, port⟩ := ret
  refine follows_picoErr (P := fun e ↦ sock = none → e ≠ .noerr) h₃ hm ?_ fun e w₄ herr h₄ ↦ ?_
  · exact fun hs ↦ hnull (by rw [hs]; rfl)
  refine follows_frame h₄ (fun t ↦ SameFrame.updateSocket (SlotFrame.setError _ _)) fun w₅ h₅ ↦ ?_
  refine follows_frame h₅ (fun t ↦ SameFrame.updateSocket (SlotFrame.acceptPending _))
    fun w₆ h₆ ↦ ?_
  cases sock with
  | none =>
    rw [if_pos rfl]
    refine follows_notifyMainLoop h₆ fun w₇ h₇ ↦ follows_unlock h₇ (by simp) fun w₈ h₈ ↦ ?_
    exact follows_pure h₈ fun w₉ h₉ ↦ Or.inl ⟨fun he ↦ herr rfl (picoErr2Os_eq_success_iff.1 he),
      picoErr2Os_ne_invalidHandle, s, h₉, hb, hrest⟩
  | some p =>
    rw [if_neg (Option.some_ne_none p)]
    refine follows_get h₆ fun w₇ h₇ ↦ ?_
    rw [(h₇.frame.slot i).clientId, ho.2]
    refine Prog.rg_bind.2
      (follows_reserveHandle h₇ hk (by simp) (fun w₈ h₈ ↦ ?_) fun j w₈ hj hq h₈ ↦ ?_)
    · -- no handle for the accepted socket, which is closed again
      refine follows_pico h₈ hm fun _ w₉ h₉ _ ↦ follows_unlock h₉ (by simp) fun w₁₀ h₁₀ ↦ ?_
      refine follows_pure (h₁₀.announce ⟨trivial, by simp [presses, silent, hr]⟩) fun w₁₁ h₁₁ ↦ ?_
      exact Or.inl ⟨by simp, by simp, s, h₁₁, hb, hrest⟩
    · have hin := hb.accounting.inUse_of_owns ho hk
      have hji : j ≠ i := NetworkStack.ne_of_firstFree hj hin
      have hi' : (s.reserve k j (some p) c).Owns c i :=
        NetworkStack.owns_reserve_of_ne hji.symm ho
      have hj' := NetworkStack.owns_reserve_self (c := c) (k := k) (p := some p)
        (NetworkStack.firstFree_eq_some_iff.1 hj).2.1
      refine follows_fillAccepted h₈ hi' hj' fun w₉ h₉ ↦ ?_
      refine Or.inr ⟨j, rfl, hb.allowed_give hk hj hq, _, h₉, ?_, hrest.reserve⟩
      refine Books.updateSocket ?_ rfl rfl rfl
      exact (hb.reserve hk hj hq).updateSocket rfl (hi'.2.trans hj'.2.symm) rfl

/-! ### Collecting events -/

section GetPendingEvents

variable {maxEvents offset events : ℕ}

theorem follows_sweepSlot {Q : ℕ × ℕ → World → Prop} (hw : At s ∅ True l w)
    (h : ∀ a w', At s ∅ True l w' → Q a w') :
    follows c r (sweepSlot pl c i offset events) Q w := by
  refine follows_get hw fun w₁ h₁ ↦ ?_
  split_ifs
  · refine follows_lock h₁ (by simp) fun w₂ h₂ ↦ follows_get h₂ fun w₃ h₃ ↦ ?_
    refine follows_frame h₃ (fun t ↦ SameFrame.updateSocket (SlotFrame.clear _ _)) fun w₄ h₄ ↦ ?_
    refine follows_unlock h₄ (by simp) fun w₅ h₅ ↦ follows_local rfl h₅ fun _ w₆ h₆ ↦ ?_
    exact follows_pure h₆ fun w₇ h₇ ↦ h _ w₇ h₇
  · exact follows_pure h₁ fun w₂ h₂ ↦ h _ w₂ h₂

/-- Heads and tails are not in the books. -/
theorem Books.updateClient {f : Client → Client} (h : Books cfg o s)
    (hf : ∀ cl, (f cl).clientId = cl.clientId ∧ (f cl).inUse = cl.inUse ∧
      (f cl).socketQuota = cl.socketQuota ∧ (f cl).eventNotify = cl.eventNotify ∧
      (f cl).currentSocketsInUse = cl.currentSocketsInUse) : Books cfg o (s.updateClient k f) :=
  h.of_sameBooks
    (.of_updateClient (fun cl ↦ (hf cl).1) (fun cl ↦ (hf cl).2.1) (fun cl ↦ (hf cl).2.2.2.2)
      fun cl ↦ (hf cl).2.2.1)
    (.updateClient ⟨(hf _).1, (hf _).2.1, (hf _).2.2.1, (hf _).2.2.2.1⟩) rfl

/-- The sweep, by induction on the bound of its loop: whoever runs meanwhile, the head has never
more steps to go than the bound allows. -/
theorem follows_sweep {fuel : ℕ} {Q : ℕ → World → Prop} (hw : At s ∅ True l w) (hb : Books cfg o s)
    (hring : Ring s k) (hothers : ∀ l, l ≠ k → (s.clients l).head < s.numberOfSockets)
    (hgo : s.toGo k ≤ fuel)
    (h : ∀ n s' w', At s' ∅ True l w' → Books cfg o s' → Ring s' k →
      (∀ l, l ≠ k → (s'.clients l).head < s'.numberOfSockets) → Q n w') :
    follows c r (sweep pl c k maxEvents fuel offset events) Q w := by
  induction fuel generalizing offset events s w with
  | zero =>
    have hlt := hring.head_lt
    unfold NetworkStack.toGo at hgo
    split_ifs at hgo <;> omega
  | succ fuel ih =>
    refine follows_local rfl hw fun _ w₁ h₁ ↦ follows_get h₁ fun w₂ h₂ ↦ ?_
    refine Prog.rg_bind.2 (follows_sweepSlot h₂ fun a w₃ h₃ ↦ ?_)
    refine follows_write h₃ SameFrame.respected_advanceHead fun w₄ h₄ ↦
      follows_get h₄ fun w₅ h₅ ↦ ?_
    have hb' : Books cfg o (s.advanceHead k) := hb.updateClient fun _ ↦ ⟨rfl, rfl, rfl, rfl, rfl⟩
    have hothers' : ∀ l, l ≠ k →
        ((s.advanceHead k).clients l).head < (s.advanceHead k).numberOfSockets := by
      intro l hl
      rw [NetworkStack.advanceHead, NetworkStack.updateClient_clients_of_ne hl]
      exact hothers l hl
    rw [h₅.frame.client_head, h₅.frame.client_tail]
    split_ifs with hcont
    · refine ih h₅ hb' hring.advanceHead hothers' ?_
      have hstep := NetworkStack.toGo_advanceHead hring.head_lt hring.tail_lt hcont.1
      omega
    · exact follows_pure h₅ fun w₆ h₆ ↦ h _ _ w₆ h₆ hb' hring.advanceHead hothers'

/-- The body of `getPendingEvents`. -/
theorem follows_collect {size : ℕ} {pNumberOfEvents : Option ℕ} (hw : At s ∅ True l w)
    (hb : Books cfg o s)
    (hrest : AtRest s) (hk : s.IsClientAt c k) :
    follows c r
      (do
        let s ← Prog.get
        match s.getClientIndexFromClientId c with
        | none => return (.aborted, pNumberOfEvents)
        | some k =>
          let maxEvents :=
            if size ≤ pl.rpcBufSize c then size / pl.sizeofEvt else pl.rpcBufSize c / pl.sizeofEvt
          let events ← sweep pl c k maxEvents s.numberOfSockets 0 0
          let s ← Prog.get
          if maxEvents ≤ events ∧ (s.clients k).head ≠ (s.clients k).tail then
            Prog.modify fun s ↦ s.updateClient k Client.flag
          Prog.modify fun s ↦ s.updateClient k fun c ↦ { c with tail := c.head }
          return (.success, some events) : Rpc (OsError × Option ℕ))
      (fun _ ↦ Settled cfg o l) w := by
  have hk' : s.getClientIndexFromClientId c = some k := hk
  have hring : Ring s k := ⟨(hrest k).2, (hrest k).1 ▸ (hrest k).2, fun l _ ↦ (hrest l).1⟩
  have hgo : s.toGo k ≤ s.numberOfSockets := by
    rw [NetworkStack.toGo, (hrest k).1, if_neg (lt_irrefl _)]
    omega
  refine follows_get hw fun w₁ h₁ ↦ ?_
  rw [h₁.frame.getClientIndexFromClientId, hk', h₁.frame.numberOfSockets]
  dsimp only
  generalize (if size ≤ pl.rpcBufSize c then size / pl.sizeofEvt
    else pl.rpcBufSize c / pl.sizeofEvt) = maxEvents
  refine Prog.rg_bind.2 (follows_sweep h₁ hb hring (fun l _ ↦ (hrest l).2) hgo
    fun n s' w₂ h₂ hb₂ hring₂ hothers₂ ↦ ?_)
  -- the tail meets the head
  have hend : ∀ {w₃ : World}, At s' ∅ True l w₃ →
      follows c r
        (Prog.modify (fun s ↦ s.updateClient k fun c ↦ { c with tail := c.head }) >>= fun _ ↦
        pure (OsError.success, some n)) (fun _ ↦ Settled cfg o l) w₃ := by
    intro w₃ h₃
    refine follows_write h₃ SameFrame.respected_setTail fun w₄ h₄ ↦ follows_pure h₄ fun w₅ h₅ ↦ ?_
    refine ⟨_, h₅, hb₂.updateClient fun _ ↦ ⟨rfl, rfl, rfl, rfl, rfl⟩, fun l ↦ ?_⟩
    rw [NetworkStack.updateClient_clients]
    split_ifs with hl
    · exact ⟨rfl, hring₂.head_lt⟩
    · exact ⟨hring₂.others l hl, hothers₂ l hl⟩
  refine follows_get h₂ fun w₃ h₃ ↦ ?_
  split_ifs
  · exact follows_frame h₃ (fun t ↦ SameFrame.updateClient k true) fun w₄ h₄ ↦ hend h₄
  · exact hend h₃

end GetPendingEvents

/-! ### Checks -/

/-- The owners after what the reply tells. -/
def told (o : ℕ → Option ℤ) : Option (Ledger.Act ℕ ℤ) → ℕ → Option ℤ
  | none => o
  | some x => x.apply o

/-- An RPC on a handle that is not the caller's is refused: it has not asked anything of anybody,
and its output parameters are as they were. -/
structure Refused (r : RpcCall) (l : List Entry) (a : Reply) (log : List Entry) : Prop where
  err : a.err = .invalidHandle ∨ a.err = .networkProto ∨ a.err = .networkConnNone
  outputs : a.out = r.outputs
  unasked : ∃ new, log = new ++ l ∧ ∀ x ∈ new, x.isAnswer = false

/-- What is true when an RPC of `c` returns the reply `a`, if the slots had the owners `o` and the
log was `l` when it began. -/
structure Answered (pl : Platform) (cfg : NetworkStackPicoTcp.Config) (o : ℕ → Option ℤ) (c : ℤ)
    (r : RpcCall) (l : List Entry) (a : Reply) (w : World) : Prop where
  settled : Settled cfg (told o (actOf c r a)) l w
  allowed : ∀ x, actOf c r a = some x →
    Ledger.Allowed (Finset.range cfg.numberOfSockets) cfg.quotaOf o x
  owned : ∀ i : ℕ, r.handle = some (i : ℤ) → o i = some c → pl.PlainErrors → a.err ≠ .invalidHandle
  refused : ∀ h, r.handle = some h → (∀ i : ℕ, h = i → o i ≠ some c) → Refused r l a w.2.log

section Checks

variable {e : OsError} {handle : ℤ}

/-- An RPC that returns early neither gives nor takes back a slot. -/
theorem actOf_of_checks (hrun : s.currentState = .running)
    (he : firstError (r.checks pl c s) = some e) :
    actOf c r ⟨e, r.outputs⟩ = none := by
  have hne : e ≠ .success := firstError_ne_success (checks_ne_success pl c r s) he
  cases r with
  | create | accept => exact if_neg hne
  | close h =>
    refine if_pos (Or.inr (Or.inr ?_))
    -- the stack runs, so a check of the handle has failed
    have hmem := List.exists_of_findSome?_eq_some he
    simp only [RpcCall.checks, List.mem_cons, List.not_mem_nil, or_false, id, checkIsRunning, hrun,
      if_true,
      exists_eq_right, reduceCtorEq, false_or, checkSocket, checkClientId] at hmem
    split_ifs at hmem <;> simp_all
  | _ => rfl

/-- The owner of a slot is not told that the handle is bad. -/
theorem checks_ne_invalidHandle (hpl : pl.PlainErrors) (hrun : s.currentState = .running)
    (hr : r.handle = some (i : ℤ)) (ho : s.Owns c i) :
    ∀ x ∈ r.checks pl c s, x ≠ some .invalidHandle := by
  have hrunning : checkIsRunning s = none := if_pos hrun
  have hsock : checkSocket s i = none := by
    have : s.getSocketFromHandle i = some i :=
      NetworkStack.getSocketFromHandle_eq_some_iff.2 ⟨rfl, ho.1⟩
    simp [checkSocket, this]
  have hid : checkClientId s i c = none := by simp [checkClientId, ho.2]
  have htype : ∀ t, checkSocketType s i t ≠ some .invalidHandle := by
    intro t
    unfold checkSocketType
    split_ifs <;> simp
  have hconn : checkSocketConnected s i ≠ some .invalidHandle := by
    unfold checkSocketConnected
    split_ifs <;> simp
  have hptr : ∀ {γ : Type} (p : Option γ), checkPtr pl p ≠ some .invalidHandle := by
    intro _ p
    unfold checkPtr
    split_ifs <;> simp [hpl.nullPtr]
  have hnul : ∀ a : Option OsSocketAddr, a.bind (checkNulTerminated pl) ≠ some .invalidHandle := by
    intro a
    cases a with
    | none => simp
    | some a =>
      simp only [Option.bind_some, checkNulTerminated]
      split_ifs <;> simp [hpl.unterminated]
  cases r <;> simp only [RpcCall.handle, Option.some.injEq, reduceCtorEq] at hr <;>
    simp [RpcCall.checks, hr, hrunning, hsock, hid, htype, hconn, hptr, hnul]

/-- An RPC on a handle that is not the caller's does not get past its checks. -/
theorem refused_of_checks (pl : Platform) (hrun : s.currentState = .running)
    (hr : r.handle = some handle)
    (hno : ∀ i : ℕ, handle = i → ¬ s.Owns c i) :
    ∃ e, firstError (r.checks pl c s) = some e ∧
      (e = .invalidHandle ∨ e = .networkProto ∨ e = .networkConnNone) := by
  have hrunning : checkIsRunning s = none := if_pos hrun
  have hid : checkSocket s handle = none → checkClientId s handle c = some .invalidHandle := by
    intro hs
    by_contra hne
    have hnone : checkClientId s handle c = none := by
      unfold checkClientId at hne ⊢
      split_ifs at hne ⊢ <;> simp_all
    obtain ⟨i, rfl, ho⟩ := owns_of_checks hs hnone
    exact hno i rfl ho
  have hsock : checkSocket s handle = none ∨ checkSocket s handle = some .invalidHandle := by
    unfold checkSocket
    split_ifs <;> simp
  have htype : ∀ t, checkSocketType s handle t = none ∨
      checkSocketType s handle t = some .networkProto := by
    intro t
    unfold checkSocketType
    split_ifs <;> simp
  have hconn : checkSocketConnected s handle = none ∨
      checkSocketConnected s handle = some .networkConnNone := by
    unfold checkSocketConnected
    split_ifs <;> simp
  rcases hsock with hs | hs
  · have hc := hid hs
    cases r <;> simp only [RpcCall.handle, Option.some.injEq, reduceCtorEq] at hr <;> subst hr <;>
      simp only [RpcCall.checks, hrunning, hs, hc, firstError_cons_none, firstError_cons_some] <;>
      first
      | exact ⟨_, rfl, Or.inl rfl⟩
      | (rcases htype .stream with ht | ht <;> rcases hconn with hn | hn <;> simp [ht, hn])
      | (rcases htype .dgram with ht | ht <;> simp [ht])
  · cases r <;> simp only [RpcCall.handle, Option.some.injEq, reduceCtorEq] at hr <;> subst hr <;>
      exact ⟨_, by
        simp only [RpcCall.checks, hrunning, hs, firstError_cons_none, firstError_cons_some],
        Or.inl rfl⟩

end Checks

/-! ### All RPCs -/

section Rpcs

variable (hw : At w.1 ∅ True w.2.log w) (hb : Books cfg o w.1) (hrest : AtRest w.1)
  (hrange : ∀ i c, o i = some c → i < cfg.numberOfSockets)

include hw hb hrest hrange

/-- An RPC returns early, or runs its body in tables that pass its checks. -/
theorem follows_checked {body : Rpc Reply} (hk : w.1.IsClientAt c k)
    (h : ∀ w', At w'.1 ∅ True w.2.log w' → Books cfg o w'.1 → AtRest w'.1 → w'.1.IsClientAt c k →
      firstError (r.checks pl c w'.1) = none →
      follows c r body (Answered pl cfg o c r w.2.log) w') :
    follows c r (guarded (r.checks pl c) (fun e ↦ ⟨e, r.outputs⟩) body)
      (Answered pl cfg o c r w.2.log) w := by
  refine Prog.rg_get_bind.2 fun w₁ hr₁ ↦ ?_
  have h₁ : At w₁.1 ∅ True w.2.log w₁ := by
    obtain ⟨-, ho, ha, hl⟩ := hw.stable hr₁
    exact ⟨SameFrame.refl _, ho, ha, hl⟩
  have hf := hr₁.tables rfl
  have hb₁ := hb.frame hf
  have hk₁ := hf.isClientAt hk
  split
  · rename_i e he
    refine fun w₂ hr₂ ↦ ⟨?_, fun x hx ↦ ?_, fun i hi ho hpl hinv ↦ ?_, fun handle hh hno ↦ ?_⟩
    · rw [actOf_of_checks hb₁.running he]
      exact ⟨w₁.1, h₁.stable hr₂, hb₁, hrest.frame hf⟩
    · rw [actOf_of_checks hb₁.running he] at hx
      exact absurd hx (by simp)
    · have hlt : i < w₁.1.numberOfSockets := by
        rw [hb₁.setup.numberOfSockets]
        exact hrange i c ho
      have ho' := (hb₁.owner_eq_some_iff hk₁ hlt).1 ho
      obtain ⟨x, hx, hid⟩ := List.exists_of_findSome?_eq_some he
      refine checks_ne_invalidHandle hpl hb₁.running hi ho' x hx ?_
      rw [← hinv]
      exact hid
    · have hno' : ∀ i : ℕ, handle = i → ¬ w₁.1.Owns c i := fun i hi ho ↦
        hno i hi ((hb₁.owner_eq_some_iff hk₁ ho.1).2 ho)
      obtain ⟨e', he', herr⟩ := refused_of_checks pl hb₁.running hh hno'
      obtain rfl := Option.some.inj (he.symm.trans he')
      obtain ⟨new, hnew, hc⟩ := (hr₁.trans hr₂).log rfl
      refine ⟨herr, rfl, new, hnew, fun x hx ↦ ?_⟩
      have := hc x hx
      cases x with
      | answer => exact absurd this Bool.false_ne_true
      | _ => rfl
  · exact h w₁ h₁ hb₁ (hrest.frame hf) hk₁ ‹_›

omit hw hb hrest hrange

/-- An operation on a slot of the caller that neither gives nor takes back one. -/
theorem Done.answered {a : Reply} {w' : World} (hd : Done pl s l a.err w')
    (hact : actOf c r a = none)
    (hb : Books cfg o s) (hrest : AtRest s) (hi : r.handle = some (i : ℤ)) (ho : o i = some c) :
    Answered pl cfg o c r l a w' where
  settled := by
    rw [hact]
    exact ⟨s, hd.at, hb, hrest⟩
  allowed x hx := absurd (hact.symm.trans hx) (by simp)
  owned _ _ _ := hd.plain
  refused h hh hno := by
    obtain rfl := Option.some.inj (hi.symm.trans hh)
    exact absurd ho (hno i rfl)

/-- What a `create` or an `accept` returns is told by its reply. -/
theorem Acquired.answered {a : OsError × ℤ} {reply : Reply} {w' : World}
    (ha : Acquired cfg o c l a w')
    (hact : actOf c r reply = if a.1 = .success then some (.give a.2.toNat c) else none)
    (herr : reply.err = a.1) (hown : ∀ h, r.handle = some h → ∃ i : ℕ, h = i ∧ o i = some c) :
    Answered pl cfg o c r l reply w' := by
  have hrefused : ∀ h, r.handle = some h → (∀ i : ℕ, h = i → o i ≠ some c) →
      Refused r l reply w'.2.log := by
    intro h hh hno
    obtain ⟨i, hi, ho⟩ := hown h hh
    exact absurd ho (hno i hi)
  rcases ha with ⟨hne, hinv, hs⟩ | ⟨j, rfl, hal, hs⟩
  · rw [if_neg hne] at hact
    refine ⟨by rwa [hact], fun x hx ↦ absurd (hact.symm.trans hx) (by simp), fun _ _ _ _ ↦ ?_,
      hrefused⟩
    rw [herr]
    exact hinv
  · rw [if_pos rfl, Int.toNat_natCast] at hact
    refine ⟨by rwa [hact], fun x hx ↦ ?_, fun _ _ _ _ ↦ ?_, hrefused⟩
    · obtain rfl := Option.some.inj (hact.symm.trans hx)
      exact hal
    · rw [herr]
      simp

/-- An operation on a slot of the caller, told by the code and whatever else of its result. -/
theorem follows_operation {p : Rpc α} {f : α → Reply} (hact : ∀ a, actOf c r (f a) = none)
    (hb : Books cfg o s) (hrest : AtRest s) (hi : r.handle = some (i : ℤ)) (ho : o i = some c)
    (h : follows c r p (fun a ↦ Done pl s l (f a).err) w) :
    follows c r (f <$> p) (Answered pl cfg o c r l) w := by
  refine Prog.rg_map.2 (Prog.rg_mono (fun _ _ ↦ id) (fun a w₁ hd ↦ ?_) h)
  intro w₂ hr
  exact Done.answered ⟨hd.at.stable hr, hd.plain⟩ (hact a) hb hrest hi ho

include hw hb hrest hrange

/-- **Every RPC among the other threads**: it never follows a `NULL` pointer and never loops for
ever, it takes and releases the mutexes in order, and it returns with the books in order and its
reply true. -/
theorem follows_rpc (hk : w.1.IsClientAt c k) :
    follows c r (rpc pl c r) (Answered pl cfg o c r w.2.log) w := by
  -- past the checks, the slot of the handle is the caller's and holds a picoTCP socket
  have hopen : ∀ {w' : World} {handle : ℤ}, Books cfg o w'.1 → w'.1.IsClientAt c k →
      firstError (r.checks pl c w'.1) = none → r.handle = some handle →
      ∃ i : ℕ, handle = i ∧ w'.1.Owns c i ∧ o i = some c ∧
      (w'.1.sockets i).implementationSocket ≠ none := by
    intro w' handle hb' hk' hch hh
    obtain ⟨i, rfl, ha⟩ := admitted_of_checks pl r hch hh
    exact ⟨i, rfl, ha.owns, (hb'.owner_eq_some_iff hk' ha.owns.1).2 ha.owns,
      hb'.implementationSocket_ne ha.owns hk'⟩
  cases r with
  | create domain type pHandle =>
    rw [rpc, rpcSocketCreate, map_guarded]
    refine follows_checked hw hb hrest hrange hk fun w₁ h₁ hb₁ hrest₁ hk₁ _ ↦ ?_
    refine Prog.rg_map.2
      (Prog.rg_seq (follows_create h₁ hb₁ hrest₁ hk₁) fun a w₂ ha w₃ hr₃ w₄ hr₄ ↦ ?_)
    exact (ha.stable (hr₃.trans hr₄)).answered rfl rfl fun _ hh ↦
      absurd hh (by simp [RpcCall.handle])
  | close handle =>
    rw [rpc, rpcSocketClose, map_guarded]
    refine follows_checked hw hb hrest hrange hk fun w₁ h₁ hb₁ hrest₁ hk₁ hch ↦ ?_
    obtain ⟨i, rfl, hown, ho, himpl⟩ := hopen hb₁ hk₁ hch rfl
    refine Prog.rg_map.2 (Prog.rg_mono (fun _ _ ↦ id) (fun e w₂ he w₃ hr₃ ↦ ?_)
      (follows_close h₁ hown hk₁ himpl))
    have hact : actOf c (.close i) ⟨e, {}⟩ = some (.takeBack i c) := if_neg he.2
    refine ⟨?_, fun x hx ↦ ?_, fun _ _ _ _ hinv ↦ he.2 (Or.inr (Or.inr hinv)), fun h hh hno ↦ ?_⟩
    · rw [hact]
      exact ⟨_, he.1.stable hr₃, hb₁.release hown hk₁, hrest₁.release⟩
    · obtain rfl := Option.some.inj (hact.symm.trans hx)
      exact ho
    · obtain rfl := Option.some.inj hh
      exact absurd ho (hno i rfl)
  | connect handle addr =>
    rw [rpc, rpcSocketConnect.eq_def, map_guarded]
    refine follows_checked hw hb hrest hrange hk fun w₁ h₁ hb₁ hrest₁ hk₁ hch ↦ ?_
    obtain ⟨i, rfl, hown, ho, himpl⟩ := hopen hb₁ hk₁ hch rfl
    obtain ⟨addr, rfl⟩ := ptr_of_checks pl addr hch (by simp [RpcCall.checks])
    exact follows_operation (fun _ ↦ rfl) hb₁ hrest₁ rfl ho (follows_connect h₁ hown.1 himpl)
  | bind handle addr =>
    rw [rpc, rpcSocketBind.eq_def, map_guarded]
    refine follows_checked hw hb hrest hrange hk fun w₁ h₁ hb₁ hrest₁ hk₁ hch ↦ ?_
    obtain ⟨i, rfl, hown, ho, himpl⟩ := hopen hb₁ hk₁ hch rfl
    obtain ⟨addr, rfl⟩ := ptr_of_checks pl addr hch (by simp [RpcCall.checks])
    exact follows_operation (fun _ ↦ rfl) hb₁ hrest₁ rfl ho (follows_bind h₁ hown.1 himpl)
  | listen handle backlog =>
    rw [rpc, rpcSocketListen, map_guarded]
    refine follows_checked hw hb hrest hrange hk fun w₁ h₁ hb₁ hrest₁ hk₁ hch ↦ ?_
    obtain ⟨i, rfl, hown, ho, himpl⟩ := hopen hb₁ hk₁ hch rfl
    exact follows_operation (fun _ ↦ rfl) hb₁ hrest₁ rfl ho (follows_listen h₁ hown.1 himpl)
  | accept handle pClientHandle srcAddr =>
    rw [rpc, rpcSocketAccept, map_guarded]
    refine follows_checked hw hb hrest hrange hk fun w₁ h₁ hb₁ hrest₁ hk₁ hch ↦ ?_
    obtain ⟨i, rfl, hown, ho, -⟩ := hopen hb₁ hk₁ hch rfl
    refine Prog.rg_map.2 (Prog.rg_seq (follows_accept h₁ hb₁ hrest₁ hown hk₁ rfl)
      fun a w₂ ha w₃ hr₃ w₄ hr₄ ↦ ?_)
    exact (ha.stable (hr₃.trans hr₄)).answered rfl rfl fun _ hh ↦ ⟨i, (Option.some.inj hh).symm, ho⟩
  | write handle pLen =>
    rw [rpc, rpcSocketWrite, map_guarded]
    refine follows_checked hw hb hrest hrange hk fun w₁ h₁ hb₁ hrest₁ hk₁ hch ↦ ?_
    obtain ⟨i, rfl, hown, ho, himpl⟩ := hopen hb₁ hk₁ hch rfl
    refine follows_operation (fun _ ↦ rfl) hb₁ hrest₁ rfl ho ?_
    exact Prog.rg_seq (follows_picoWrite h₁ hown.1 himpl) fun a w₂ hd w₃ hr ↦
      ⟨hd.at.stable hr, hd.plain⟩
  | read handle pLen =>
    rw [rpc, rpcSocketRead, map_guarded]
    refine follows_checked hw hb hrest hrange hk fun w₁ h₁ hb₁ hrest₁ hk₁ hch ↦ ?_
    obtain ⟨i, rfl, hown, ho, himpl⟩ := hopen hb₁ hk₁ hch rfl
    refine follows_operation (fun _ ↦ rfl) hb₁ hrest₁ rfl ho ?_
    exact Prog.rg_seq (follows_read h₁ hown.1 himpl) fun a w₂ hd w₃ hr ↦ ⟨hd.at.stable hr, hd.plain⟩
  | sendto handle pLen addr =>
    rw [rpc, rpcSocketSendto.eq_def, map_guarded]
    refine follows_checked hw hb hrest hrange hk fun w₁ h₁ hb₁ hrest₁ hk₁ hch ↦ ?_
    obtain ⟨i, rfl, hown, ho, himpl⟩ := hopen hb₁ hk₁ hch rfl
    obtain ⟨addr, rfl⟩ := ptr_of_checks pl addr hch (by simp [RpcCall.checks])
    refine follows_operation (fun _ ↦ rfl) hb₁ hrest₁ rfl ho ?_
    exact Prog.rg_seq (follows_sendto h₁ hown.1 himpl) fun a w₂ hd w₃ hr ↦
      ⟨hd.at.stable hr, hd.plain⟩
  | recvfrom handle pLen addr =>
    rw [rpc, rpcSocketRecvfrom.eq_def, map_guarded]
    refine follows_checked hw hb hrest hrange hk fun w₁ h₁ hb₁ hrest₁ hk₁ hch ↦ ?_
    obtain ⟨i, rfl, hown, ho, himpl⟩ := hopen hb₁ hk₁ hch rfl
    obtain ⟨addr, rfl⟩ := ptr_of_checks pl addr hch (by simp [RpcCall.checks])
    refine follows_operation (fun _ ↦ rfl) hb₁ hrest₁ rfl ho ?_
    exact Prog.rg_seq (follows_recvfrom h₁ hown.1 himpl) fun a w₂ hd w₃ hr ↦
      ⟨hd.at.stable hr, hd.plain⟩
  | getPendingEvents size pNumberOfEvents =>
    rw [rpc, rpcSocketGetPendingEvents, map_guarded]
    refine follows_checked hw hb hrest hrange hk fun w₁ h₁ hb₁ hrest₁ hk₁ _ ↦ ?_
    refine Prog.rg_map.2 (Prog.rg_mono (fun _ _ ↦ id) (fun a w₂ hs w₃ hr₃ ↦ ?_)
      (follows_collect h₁ hb₁ hrest₁ hk₁))
    obtain ⟨s, hat, hbs, hrs⟩ := hs
    exact ⟨⟨s, hat.stable hr₃, hbs, hrs⟩, fun _ hx ↦ absurd hx (by simp [actOf]),
      fun _ hh ↦ absurd hh (by simp [RpcCall.handle]),
      fun _ hh ↦ absurd hh (by simp [RpcCall.handle])⟩

end Rpcs

end Component

end NetworkStackPicoTcp
