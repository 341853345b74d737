import NetworkStackPicoTcp.Invariants.Walk

/-!
# Walking through the picoTCP wrapper

The operations of `network_stack_pico.c`, each from the tables that the checks of its RPC have
passed. Besides being made of steps, a transfer reports no more than the length it was given
(`ReportsWithin`), and an operation that acquires a picoTCP socket either succeeds or found the
handle table without room (`Reserves`).
-/

namespace NetworkStackPicoTcp

open Prog (wp)

variable {pl : Platform} {sched : Schedule} {c : ℤ} {r : RpcCall} {base w : World} {α : Type}

/-! ### The operations on an open socket -/

theorem walks_setSocketOptions {p : PicoPtr} {Q : Unit → World → Prop}
    (hw : Micros pl base w) (h : ∀ w', Rests pl w w' → obtained w'.2 = obtained w.2 → Q () w') :
    walks pl sched c r base (setSocketOptions p) Q w := by
  have hord : ∀ o v, (Call.pico (.setOption p o v)).ordinary r = true := fun _ _ ↦ rfl
  simp only [walks, setSocketOptions, setOption, Prog.wp_bind, Prog.wp_pure]
  refine walks_request (hord _ _) hw fun _ w₁ h₁ ↦ ?_
  have hw₁ := hw.trans h₁.micros
  refine walks_request (hord _ _) hw₁ fun _ w₂ h₂ ↦ ?_
  have hw₂ := hw₁.trans h₂.micros
  refine walks_request (hord _ _) hw₂ fun _ w₃ h₃ ↦ ?_
  refine walks_request (hord _ _) (hw₂.trans h₃.micros) fun _ w₄ h₄ ↦ ?_
  refine h w₄ (((h₁.toRests.trans h₂.toRests).trans h₃.toRests).trans h₄.toRests) ?_
  exact h₄.obtained.trans (h₃.obtained.trans (h₂.obtained.trans h₁.obtained))

theorem not_sweep_of_admitted {i : ℕ} {s : NetworkStack} (h : Admitted c r s i) :
    r.isSweep = false := by
  cases r <;> first | rfl | exact absurd h.handle (by simp [RpcCall.handle])

/-- picoTCP has been called since `w`, and its `pico_err` is stored in the slot of the handle. -/
structure CallStored (pl : Platform) (c : ℤ) (r : RpcCall) (base w : World) (pc : PicoCall)
    (ret : pc.Answer) (w' : World) : Prop where
  micros : Micros pl base w'
  frame : SameFrame base.1 w'.1
  obtained : obtained w'.2 = obtainedBy (.pico pc) ret (obtained w.2)
  pending : pending w'.2 = pendingBy (.pico pc) ret (pending w.2)
  answered : ∃ s, .answer c r (.pico pc) ret s ∈ w'.2

/-- The locked sections, entered after the checks, all begin in this way: take `stackTS`, call
picoTCP, read `pico_err` and store it in the slot of the handle. -/
theorem walks_callAndStore {i : ℕ} {pc : PicoCall} {K : pc.Answer → PicoErr → World → Prop}
    (ha : Admitted c r base.1 i) (hop : Operates pl c r base.1 i pc) (hw : Waits pl base w)
    (hr : r.issues pc = true)
    (h : ∀ ret e w₃ w', w' = (rpcEnv sched c r).write
        (fun s ↦ s.updateSocket i (SocketResources.setError (picoErr2Os e))) w₃ →
      CallStored pl c r base w pc ret w' → K ret e w₃) :
    walks pl sched c r base (request (.lock .stackTS)) (fun _ w₁ ↦
      walks pl sched c r base (request (.pico pc)) (fun ret w₂ ↦
        walks pl sched c r base (request .picoErr) (fun e w₃ ↦ K ret e w₃) w₂) w₁) w := by
  have hg := not_sweep_of_admitted ha
  refine walks_request (by simp [Call.ordinary, hg]) hw.micros fun _ w₁ h₁ ↦ ?_
  have hw₁ := hw.returns h₁ (by simp)
  refine walks_call (issued_operation hw₁ hr ha hop) (Or.inl hg) fun ret w₂ h₂ ↦ ?_
  have hw₂ := hw₁.toRests.trans h₂.toRests
  refine walks_request (by simp [Call.ordinary, hg]) hw₂.micros fun e w₃ h₃ ↦ ?_
  have hw₃ := hw₂.trans h₃.toRests
  have hw₄ := micros_write sched
    (fun s ↦ s.updateSocket i (SocketResources.setError (picoErr2Os e))) hg hw₃.micros
    (.setError _ ha.handle (hw₃.frame.owns ha.owns)) (keepsConnected id)
  refine h ret e w₃ _ rfl ⟨hw₄, ?_, ?_, ?_, w₂.1, ?_⟩
  · exact hw₃.frame.trans (SameFrame.updateSocket (SlotFrame.setError _ _))
  · exact h₃.obtained.trans (h₂.obtained.trans (congrArg _ h₁.obtained))
  · exact h₃.pending.trans (h₂.pending.trans (congrArg _ h₁.pending))
  · obtain ⟨new₃, hn₃, -⟩ := h₃.entries
    rw [Env.write_snd, hn₃]
    simp [h₂.answered]

/-- The locked section of an operation. -/
theorem walks_lockedCall {i : ℕ} {pc : PicoCall} {Q : pc.Answer × OsError → World → Prop}
    (ha : Admitted c r base.1 i) (hop : Operates pl c r base.1 i pc) (hw : Waits pl base w)
    (hr : r.issues pc = true)
    (h : ∀ a w', Micros pl base w' → SameFrame base.1 w'.1 →
      (∃ s, Entry.answer c r (.pico pc) a.1 s ∈ w'.2) → Q a w') :
    walks pl sched c r base (lockedCall i pc) Q w := by
  simp only [walks, lockedCall, Prog.wp_bind, Prog.wp_modify, Prog.wp_pure]
  refine walks_callAndStore ha hop hw hr fun ret e w₃ w₄ hw₄ hs ↦ ?_
  rw [← hw₄]
  refine walks_request (by simp [Call.ordinary, not_sweep_of_admitted ha]) hs.micros
    fun _ w₅ h₅ ↦ ?_
  refine h _ w₅ (hs.micros.trans h₅.micros) (hs.frame.trans h₅.frame) ?_
  obtain ⟨s, hans⟩ := hs.answered
  obtain ⟨new₅, hn₅, -⟩ := h₅.entries
  exact ⟨s, by rw [hn₅]; exact List.mem_append_right _ hans⟩

/-- The head of an operation on an open socket reads the tables and may return early. -/
theorem wp_withOpenSocket {C : Call → World → Prop} {i : ℕ} {exit : OsError → α}
    {k : ℕ → PicoPtr → Rpc α} {Q : α → World → Prop} (hi : i < w.1.numberOfSockets)
    (hexit : ∀ e, e ≠ .success → Q (exit e) w)
    (h : .fin ∉ (w.1.sockets i).eventMask → (w.1.sockets i).implementationSocket ≠ none →
      wp (rpcEnv sched c r) C (k i (w.1.sockets i).implementationSocket) Q w) :
    wp (rpcEnv sched c r) C (withOpenSocket i exit k) Q w := by
  have hi' : w.1.getSocketFromHandle i = some i :=
    NetworkStack.getSocketFromHandle_eq_some_iff.2 ⟨rfl, hi⟩
  simp only [withOpenSocket, socketOf, Prog.wp_bind, Prog.wp_get, hi', Prog.wp_pure]
  split_ifs with hfin himpl
  · exact hexit _ (by simp)
  · exact hexit _ (by simp)
  · exact h hfin himpl

/-- The head of an operation that transfers data also refuses a length that does not fit the
socket's dataport. -/
theorem wp_withOpenSocket_fits {C : Call → World → Prop} {i len : ℕ} {exit : OsError → α}
    {k : NetworkStack → ℕ → PicoPtr → Rpc α} {Q : α → World → Prop} (hi : i < w.1.numberOfSockets)
    (hexit : ∀ e, e ≠ .success → Q (exit e) w)
    (h : .fin ∉ (w.1.sockets i).eventMask → (w.1.sockets i).implementationSocket ≠ none →
      ¬ pl.dataportFits (w.1.sockets i).buf len = false →
      wp (rpcEnv sched c r) C (k w.1 i (w.1.sockets i).implementationSocket) Q w) :
    wp (rpcEnv sched c r) C
      (withOpenSocket i exit fun i sock ↦ Prog.get >>= fun s ↦
        if pl.dataportFits (s.sockets i).buf len = false then pure (exit pl.dataportSizeError)
        else k s i sock)
      Q w := by
  refine wp_withOpenSocket hi hexit fun hfin himpl ↦ Prog.wp_bind.2 (Prog.wp_get.2 ?_)
  split_ifs with hfit
  · exact hexit _ pl.dataportSizeError_ne
  · exact h hfin himpl hfit

/-- The head of an operation on an open socket that refuses nothing is what follows it. -/
theorem wp_withOpenSocket_of_pass {C : Call → World → Prop} {i : ℕ} {exit : OsError → α}
    {k : ℕ → PicoPtr → Rpc α} {Q : α → World → Prop} (hi : i < w.1.numberOfSockets)
    (hfin : .fin ∉ (w.1.sockets i).eventMask)
    (himpl : (w.1.sockets i).implementationSocket ≠ none) :
    wp (rpcEnv sched c r) C (withOpenSocket i exit k) Q w ↔
      wp (rpcEnv sched c r) C (k i (w.1.sockets i).implementationSocket) Q w := by
  have hi' : w.1.getSocketFromHandle i = some i :=
    NetworkStack.getSocketFromHandle_eq_some_iff.2 ⟨rfl, hi⟩
  simp only [withOpenSocket, socketOf, Prog.wp_bind, Prog.wp_get, hi', Prog.wp_pure, if_neg hfin,
    if_neg himpl]

/-- The head of an operation on an open socket either refuses or passes. -/
theorem wp_withOpenSocket_cases {C : Call → World → Prop} {i : ℕ} {exit : OsError → α}
    {k : ℕ → PicoPtr → Rpc α} {Q : α → World → Prop} (hi : i < w.1.numberOfSockets)
    (hexit : ¬ (.fin ∉ (w.1.sockets i).eventMask ∧ (w.1.sockets i).implementationSocket ≠ none) →
      ∀ e, Q (exit e) w)
    (h : wp (rpcEnv sched c r) C (k i (w.1.sockets i).implementationSocket) Q w) :
    wp (rpcEnv sched c r) C (withOpenSocket i exit k) Q w := by
  by_cases hpass : .fin ∉ (w.1.sockets i).eventMask ∧ (w.1.sockets i).implementationSocket ≠ none
  · exact (wp_withOpenSocket_of_pass hi hpass.1 hpass.2).2 h
  · exact wp_withOpenSocket hi (fun e _ ↦ hexit hpass e) fun _ _ ↦ h

theorem walks_finish {ret : ℤ} {failure success : α} {Q : α → World → Prop}
    (hg : r.isSweep = false) (hw : Micros pl base w) (hf : Q failure w)
    (hs : ∀ w', Micros pl base w' → w.2 ⊆ w'.2 → Q success w') :
    walks pl sched c r base (finish ret failure success) Q w := by
  unfold finish walks
  split_ifs
  · exact hf
  · simp only [Prog.wp_bind]
    refine walks_request_quiet quiet_notifyMainLoop (by simp [Call.ordinary, hg]) hw
      fun _ w₁ h₁ _ ↦ ?_
    obtain ⟨new, hn, -⟩ := h₁.entries
    exact hs w₁ (hw.trans h₁.micros) (by rw [hn]; exact List.subset_append_right _ _)

/-! ### Connect, bind, listen and the transfers -/

section OpenSocket

variable {i : ℕ} {addr : OsSocketAddr}

theorem walks_connect {dstAddr : Option OsSocketAddr}
    (ha : Admitted c (.connect i dstAddr) w.1 i) :
    walks pl sched c (.connect i dstAddr) w (picoSocketConnect pl i addr)
      (fun _ w' ↦ Micros pl w w') w := by
  refine wp_withOpenSocket ha.owns.1 (fun _ _ ↦ .refl) fun hfin himpl ↦ ?_
  simp only [Prog.wp_bind]
  refine walks_request_quiet (quiet_stringToIpv4 _) rfl .refl fun a w₁ h₁ _ ↦ ?_
  cases a with
  | none => exact h₁.micros
  | some a =>
    simp only [Prog.wp_bind]
    refine walks_lockedCall ha ⟨hfin, rfl, himpl, by simp [PicoCall.transfer]⟩
      ((Waits.refl w).returns h₁ (by simp)) rfl fun _ w₂ hw₂ _ _ ↦ ?_
    exact walks_finish rfl hw₂ hw₂ fun _ hw₃ _ ↦ hw₃

theorem walks_bind {localAddr : Option OsSocketAddr} (ha : Admitted c (.bind i localAddr) w.1 i) :
    walks pl sched c (.bind i localAddr) w (picoSocketBind pl i addr)
      (fun _ w' ↦ Micros pl w w') w := by
  refine wp_withOpenSocket ha.owns.1 (fun _ _ ↦ .refl) fun hfin himpl ↦ ?_
  simp only [Prog.wp_bind]
  refine walks_request_quiet (quiet_stringToIpv4 _) rfl .refl fun a w₁ h₁ _ ↦ ?_
  cases a with
  | none => exact h₁.micros
  | some a =>
    simp only [Prog.wp_bind]
    refine walks_lockedCall ha ⟨hfin, rfl, himpl, by simp [PicoCall.transfer]⟩
      ((Waits.refl w).returns h₁ (by simp)) rfl fun _ w₂ hw₂ _ _ ↦ ?_
    exact walks_finish rfl hw₂ hw₂ fun _ hw₃ _ ↦ hw₃

theorem walks_listen {backlog : ℤ} (ha : Admitted c (.listen i backlog) w.1 i) :
    walks pl sched c (.listen i backlog) w (picoSocketListen i backlog)
      (fun _ w' ↦ Micros pl w w') w := by
  refine wp_withOpenSocket ha.owns.1 (fun _ _ ↦ .refl) fun hfin himpl ↦ ?_
  simp only [Prog.wp_bind]
  refine walks_lockedCall ha ⟨hfin, rfl, himpl, by simp [PicoCall.transfer]⟩ (Waits.refl w) rfl
    fun _ w₁ hw₁ _ _ ↦ ?_
  exact walks_finish rfl hw₁ hw₁ fun _ hw₂ _ ↦ hw₂

/-- The reply reports no more than `len` bytes, if picoTCP never returns more than it was passed. -/
def ReportsWithin (len : ℕ) (a : OsError × ℕ) (w : World) : Prop :=
  AnswersBounded w.2 → a.1 = .success → a.2 ≤ len

/-- The buffer and the length that a transfer passes to picoTCP. -/
theorem operates_transfer {s : NetworkStack} {len : ℕ} {pc : PicoCall}
    (hfin : .fin ∉ (s.sockets i).eventMask) (himpl : (s.sockets i).implementationSocket ≠ none)
    (hlen : len = clampLen pl c (r.outputs.len.getD 0))
    (hfit : ¬ pl.dataportFits (s.sockets i).buf len = false)
    (hsock : pc.socket = (s.sockets i).implementationSocket)
    (hpc : pc.transfer = some (pl.getBuf s.bufIoCells (s.sockets i).buf, len)) :
    Operates pl c r s i pc := by
  refine ⟨hfin, hsock, himpl, fun buf l h ↦ ?_⟩
  obtain ⟨rfl, rfl⟩ := Prod.mk.inj (Option.some.inj (hpc.symm.trans h))
  exact ⟨rfl, hlen, Bool.eq_true_of_not_eq_false hfit⟩

theorem walks_write {pLen : Option ℕ} {len : ℕ} (ha : Admitted c (.write i pLen) w.1 i)
    (hlen : len = clampLen pl c (pLen.getD 0)) :
    walks pl sched c (.write i pLen) w (picoSocketWrite pl i len)
      (fun a w' ↦ Micros pl w w' ∧ ReportsWithin len a w') w := by
  refine wp_withOpenSocket_fits ha.owns.1 (fun e he ↦ ⟨.refl, fun _ h ↦ absurd h he⟩)
    fun hfin himpl hfit ↦ ?_
  simp only [Prog.wp_bind]
  refine walks_lockedCall ha (operates_transfer hfin himpl hlen hfit rfl rfl) (Waits.refl w)
    rfl fun a w₁ hw₁ _ hans ↦ ?_
  obtain ⟨s, hans⟩ := hans
  refine walks_finish rfl hw₁ ⟨hw₁, fun _ _ ↦ Nat.zero_le _⟩ fun w₂ hw₂ hsub ↦ ⟨hw₂, fun hb _ ↦ ?_⟩
  have hle : a.1 ≤ (len : ℤ) := hb _ _ _ _ _ (hsub hans)
  exact Int.toNat_le.2 hle

theorem walks_sendto {pLen : Option ℕ} {dstAddr : Option OsSocketAddr} {len : ℕ}
    (ha : Admitted c (.sendto i pLen dstAddr) w.1 i)
    (hlen : len = clampLen pl c (pLen.getD 0)) :
    walks pl sched c (.sendto i pLen dstAddr) w (picoSocketSendto pl i len addr)
      (fun a w' ↦ Micros pl w w' ∧ ReportsWithin len a w') w := by
  refine wp_withOpenSocket_fits ha.owns.1 (fun e he ↦ ⟨.refl, fun _ h ↦ absurd h he⟩)
    fun hfin himpl hfit ↦ ?_
  simp only [Prog.wp_bind]
  refine walks_request_quiet (quiet_stringToIpv4 _) rfl .refl fun a w₁ h₁ hs₁ ↦ ?_
  cases a with
  | none => exact ⟨h₁.micros, fun _ h ↦ absurd h (by simp)⟩
  | some a =>
    simp only [Prog.wp_bind]
    refine walks_lockedCall ha (operates_transfer hfin himpl hlen hfit rfl rfl)
      ((Waits.refl w).returns h₁ (by simp)) rfl fun a w₂ hw₂ _ hans ↦ ?_
    obtain ⟨s, hans⟩ := hans
    refine walks_finish rfl hw₂ ⟨hw₂, fun _ _ ↦ Nat.zero_le _⟩ fun w₃ hw₃ hsub ↦
      ⟨hw₃, fun hb _ ↦ ?_⟩
    have hle : a.1 ≤ (len : ℤ) := hb _ _ _ _ _ (hsub hans)
    exact Int.toNat_le.2 hle

/-- Dropping the READ bit after the locked section is a step. -/
theorem micros_clearRead (sched : Schedule) (hw : Micros pl base w)
    (hr : (∃ pLen, r = .read i pLen) ∨ ∃ pLen addr, r = .recvfrom i pLen addr)
    (ho : w.1.Owns c i) :
    Micros pl base ((rpcEnv sched c r).write
      (fun s ↦ s.updateSocket i (SocketResources.clear {.read})) w) := by
  refine micros_write sched _ ?_ hw (.clearRead hr ho) (keepsConnected id)
  obtain ⟨_, rfl⟩ | ⟨_, _, rfl⟩ := hr <;> rfl

theorem walks_read {pLen : Option ℕ} {len : ℕ} (ha : Admitted c (.read i pLen) w.1 i)
    (hlen : len = clampLen pl c (pLen.getD 0)) :
    walks pl sched c (.read i pLen) w (picoSocketRead pl i len)
      (fun a w' ↦ Micros pl w w' ∧ ReportsWithin len a w') w := by
  refine wp_withOpenSocket_fits ha.owns.1 (fun e he ↦ ⟨.refl, fun _ h ↦ absurd h he⟩)
    fun hfin himpl hfit ↦ ?_
  simp only [Prog.wp_bind]
  refine walks_lockedCall ha (operates_transfer hfin himpl hlen hfit rfl rfl) (Waits.refl w)
    rfl fun a w₁ hw₁ hf hans ↦ ?_
  obtain ⟨s, hans⟩ := hans
  have hw₂ := micros_clearRead (r := .read i pLen) sched hw₁ (Or.inl ⟨pLen, rfl⟩) (hf.owns ha.owns)
  split_ifs
  · exact ⟨hw₂, fun _ _ ↦ Nat.zero_le _⟩
  · simp only [Prog.wp_bind, Prog.wp_modify]
    exact walks_request_quiet quiet_notifyMainLoop rfl hw₂ fun _ _ h₃ _ ↦
      ⟨hw₂.trans h₃.micros, fun _ _ ↦ Nat.zero_le _⟩
  · refine ⟨hw₂, fun hb _ ↦ ?_⟩
    have hle : a.1 ≤ (len : ℤ) := hb _ _ _ _ _ (List.mem_cons_of_mem _ hans)
    exact Int.toNat_le.2 hle
  · refine ⟨hw₁, fun hb _ ↦ ?_⟩
    have hle : a.1 ≤ (len : ℤ) := hb _ _ _ _ _ hans
    exact Int.toNat_le.2 hle

theorem walks_recvfrom {pLen : Option ℕ} {srcAddr : Option OsSocketAddr} {len : ℕ}
    (ha : Admitted c (.recvfrom i pLen srcAddr) w.1 i)
    (hlen : len = clampLen pl c (pLen.getD 0)) :
    walks pl sched c (.recvfrom i pLen srcAddr) w (picoSocketRecvfrom pl i len addr)
      (fun a w' ↦ Micros pl w w' ∧ ReportsWithin len (a.1, a.2.1) w') w := by
  refine wp_withOpenSocket_fits ha.owns.1 (fun e he ↦ ⟨.refl, fun _ h ↦ absurd h he⟩)
    fun hfin himpl hfit ↦ ?_
  simp only [Prog.wp_bind]
  refine walks_lockedCall ha (operates_transfer hfin himpl hlen hfit rfl rfl) (Waits.refl w)
    rfl fun a w₁ hw₁ hf hans ↦ ?_
  obtain ⟨s, hans⟩ := hans
  have hw₂ := micros_clearRead (r := .recvfrom i pLen srcAddr) sched hw₁
    (Or.inr ⟨pLen, srcAddr, rfl⟩) (hf.owns ha.owns)
  split_ifs
  · exact ⟨hw₂, fun _ _ ↦ Nat.zero_le _⟩
  · simp only [Prog.wp_bind, Prog.wp_modify]
    exact walks_request_quiet quiet_notifyMainLoop rfl hw₂ fun _ _ h₃ _ ↦
      ⟨hw₂.trans h₃.micros, fun _ _ ↦ Nat.zero_le _⟩
  · refine ⟨hw₁, fun hb _ ↦ ?_⟩
    have hle : a.1.1 ≤ (len : ℤ) := hb _ _ _ _ _ hans
    exact Int.toNat_le.2 hle

end OpenSocket

/-! ### Close -/

theorem walks_close {i k : ℕ} (ha : Admitted c (.close i) w.1 i) (hk : w.1.IsClientAt c k) :
    walks pl sched c (.close i) w (picoSocketClose i c) (fun _ w' ↦ Micros pl w w') w := by
  have ho := ha.owns
  have hi : w.1.getSocketFromHandle i = some i :=
    NetworkStack.getSocketFromHandle_eq_some_iff.2 ⟨rfl, ho.1⟩
  simp only [walks, picoSocketClose, socketOf, Prog.wp_bind, Prog.wp_get, hi, Prog.wp_pure]
  split_ifs with hfin himpl
  · simp only [Prog.wp_bind, Prog.wp_pure]
    exact walks_freeHandle .refl ho hk fun _ hw' _ ↦ hw'
  · exact .refl
  · simp only [Prog.wp_bind, Prog.wp_modify]
    refine walks_callAndStore ha ⟨hfin, rfl, himpl, by simp [PicoCall.transfer]⟩ (Waits.refl w) rfl
      fun ret e w₃ w₄ hw₄ hs ↦ ?_
    rw [← hw₄]
    have hw₅ := micros_write (r := .close i) sched
      (fun s ↦ s.updateSocket i (SocketResources.clear {.close})) rfl hs.micros
      (.clearClose rfl (hs.frame.owns ho)) (keepsConnected id)
    have hf₅ := hs.frame.trans (SameFrame.updateSocket (i := i) (SlotFrame.clear {.close} _))
    refine walks_request rfl hw₅ fun _ w₆ h₆ ↦ ?_
    have hw₆ := hw₅.trans h₆.micros
    refine walks_request rfl hw₆ fun _ w₇ h₇ ↦ ?_
    have hw₇ := hw₆.trans h₇.micros
    have hf₇ := (hf₅.trans h₆.frame).trans h₇.frame
    split_ifs <;> simp only [Prog.wp_bind, Prog.wp_pure] <;>
      exact walks_freeHandle hw₇ (hf₇.owns ho) (hf₇.isClientAt hk) fun _ hw' _ ↦ hw'

/-! ### Create and accept -/

namespace NetworkStack

variable {s s' : NetworkStack} {k i j : ℕ} {p : PicoPtr}

/-- The slot that was reserved belongs to the client it was reserved for. -/
theorem owns_reserve_self (hi : i < s.numberOfSockets) : (s.reserve k i p c).Owns c i :=
  ⟨hi, by simp [reserve, SocketResources.reserve]⟩

/-- Reserving a free slot leaves the ownership of the slots in use alone. -/
theorem owns_reserve_of_ne (hji : j ≠ i) (ho : s.Owns c j) {c' : ℤ} :
    (s.reserve k i p c').Owns c j :=
  ⟨ho.1, by simp [reserve, updateSocket_sockets_of_ne hji, ho.2]⟩

/-- The accepted socket belongs to the owner of the listener. -/
theorem owns_adopt_self (hj : j < s.numberOfSockets) (hi : (s.sockets i).clientId = c) :
    (s.adopt j i).Owns c j :=
  ⟨hj, by simp [adopt, hi]⟩

theorem owns_adopt_of_ne {l : ℕ} (hl : l ≠ j) (ho : s.Owns c l) : (s.adopt j i).Owns c l :=
  ⟨ho.1, by simp [adopt, updateSocket_sockets_of_ne hl, ho.2]⟩

theorem ne_of_firstFree (hf : s.firstFree = some j) (hi : (s.sockets i).status = .inUse) :
    j ≠ i := by
  rintro rfl
  rw [firstFree_eq_some_iff, hi] at hf
  exact absurd hf.1 (by simp)

/-- Whether the table refuses a client depends on the frame only. -/
theorem refuses_iff (h : SameFrame s s') : s'.Refuses k ↔ s.Refuses k := by
  rw [Refuses, Refuses, h.client_socketQuota, h.client_currentSocketsInUse, h.firstFree]

end NetworkStack

/-- Either the RPC was given no picoTCP socket, or it succeeds, or the handle table had no room. -/
def Reserves (s : NetworkStack) (k : ℕ) (err : OsError) (w : World) : Prop :=
  obtained w.2 = none ∨ err = .success ∨ s.Refuses k

theorem walks_setStreamOption {type : SocketType} {p : PicoPtr} {Q : Unit → World → Prop}
    (hw : Micros pl base w) (h : ∀ w', Rests pl w w' → obtained w'.2 = obtained w.2 →
      pending w'.2 = pending w.2 → Q () w') :
    walks pl sched c r base (setStreamOption type p) Q w := by
  unfold setStreamOption
  split_ifs
  · simp only [walks, setOption, Prog.wp_bind, Prog.wp_pure]
    exact walks_request rfl hw fun _ w₁ h₁ ↦ h w₁ h₁.toRests h₁.obtained h₁.pending
  · exact h w (Rests.refl w) rfl rfl

theorem walks_closeUnreserved {p : PicoPtr} {Q : Unit → World → Prop}
    (hg : r.isSweep = false) (hacq : r.acquires = true) (hr : r.issues (.close p) = false)
    (hp : obtained w.2 = p) (hw : Micros pl base w) (h : ∀ w', Micros pl base w' → Q () w') :
    walks pl sched c r base (closeUnreserved p) Q w := by
  simp only [walks, closeUnreserved, Prog.wp_bind]
  refine walks_call (issued_close hacq hr hp hw) (Or.inl hg) fun ret w₁ h₁ ↦ ?_
  have hw₁ := hw.trans h₁.micros
  split_ifs
  · simp only [Prog.wp_bind]
    refine walks_request (by simp [Call.ordinary, hg]) hw₁ fun _ w₂ h₂ ↦ ?_
    have hw₂ := hw₁.trans h₂.micros
    exact walks_request (by simp [Call.ordinary, hg]) hw₂ fun _ w₃ h₃ ↦
      h w₃ (hw₂.trans h₃.micros)
  · exact walks_request (by simp [Call.ordinary, hg]) hw₁ fun _ w₂ h₂ ↦ h w₂ (hw₁.trans h₂.micros)

theorem walks_create {k : ℕ} {domain : SocketDomain} {type : SocketType} {pHandle : Option ℤ}
    {h : ℤ} (hk : w.1.IsClientAt c k) (hob : obtained w.2 = none) :
    walks pl sched c (.create domain type pHandle) w
      (picoSocketCreate domain type h c (pl.rpcBuf c) (pl.rpcBufSize c))
      (fun a w' ↦ Micros pl w w' ∧ Reserves w.1 k a.1 w') w := by
  unfold picoSocketCreate
  split
  · rename_i pd pt _ hpt
    simp only [walks, Prog.wp_bind]
    refine walks_request rfl .refl fun _ w₁ h₁ ↦ ?_
    refine walks_request rfl h₁.micros fun sock w₂ h₂ ↦ ?_
    have h₂' := h₁.toRests.trans h₂.toRests
    refine walks_request rfl h₂'.micros fun e w₃ h₃ ↦ ?_
    have h₃' := h₂'.trans h₃.toRests
    have hob₃ : obtained w₃.2 = sock := h₃.obtained.trans h₂.obtained
    have hpend₃ : pending w₃.2 = sock := h₃.pending.trans h₂.pending
    cases sock with
    | none =>
      -- `pico_socket_open` has failed
      simp only [if_true, Prog.wp_bind, Prog.wp_pure]
      exact walks_request rfl h₃'.micros fun _ w₄ h₄ ↦
        ⟨h₃'.micros.trans h₄.micros, Or.inl (h₄.obtained.trans hob₃)⟩
    | some p =>
      simp only [reduceCtorEq, if_false, Prog.wp_bind]
      refine walks_setStreamOption h₃'.micros fun w₄ h₄ hob₄ hpend₄ ↦ ?_
      have h₄' := h₃'.trans h₄
      refine walks_reserveHandle h₄'.micros (Or.inl ⟨_, _, _, rfl⟩) (h₄'.frame.isClientAt hk)
        (hpend₄.trans hpend₃) (fun w₅ hw₅ _ hob₅ hfull ↦ ?_) (fun j w₅ hw₅ hs₅ hj _ ↦ ?_)
      · -- no handle for the new socket, which is closed again
        have hfull' := (NetworkStack.refuses_iff h₄'.frame).1 hfull
        simp only [Prog.wp_bind, Prog.wp_pure]
        have hob := hob₅.trans (hob₄.trans hob₃)
        refine walks_closeUnreserved rfl rfl rfl hob hw₅ fun w₆ hw₆ ↦ ?_
        exact walks_request rfl hw₆ fun _ w₇ h₇ ↦ ⟨hw₆.trans h₇.micros, Or.inr (Or.inr hfull')⟩
      · have hown : w₅.1.Owns c j := by
          rw [hs₅]
          exact NetworkStack.owns_reserve_self (NetworkStack.firstFree_eq_some_iff.1 hj).2.1
        have hw₆ := micros_write (r := .create domain type pHandle) sched
          (fun s ↦ s.updateSocket j
            (SocketResources.create j type (pl.rpcBuf c) (pl.rpcBufSize c) (picoErr2Os e))) rfl hw₅
          (.create _ rfl (by rw [hpt]; simp) hown) (keepsConnected id)
        simp only [Prog.wp_bind, Prog.wp_modify, Prog.wp_pure]
        refine walks_setSocketOptions hw₆ fun w₇ h₇ _ ↦ ?_
        have hw₇ := hw₆.trans h₇.micros
        exact walks_request rfl hw₇ fun _ w₈ h₈ ↦ ⟨hw₇.trans h₈.micros, Or.inr (Or.inl rfl)⟩
  · exact ⟨.refl, Or.inl hob⟩

/-- The end of `accept`: what it does with the slot `j` that it has reserved for the socket `p`. -/
abbrev fillAccepted (caller handle : ℤ) (i j : ℕ) (p : PicoPtr) : Rpc (OsError × ℤ) := do
  setSocketOptions p
  setParentHandle j handle
  let s ← Prog.get
  if (s.sockets j).clientId ≠ caller then
    return (.invalidHandle, j)
  Prog.modify fun s ↦ s.updateSocket j (SocketResources.accepted (s.sockets i))
  request (.unlock .stackTS)
  return (.success, j)

/-- The caller owns the new slot also after it has been linked to the listening one. -/
theorem walks_fillAccepted {i j : ℕ} {pClientHandle : Option ℤ} {srcAddr : Option OsSocketAddr}
    {p : PicoPtr} (hw : Micros pl base w) (hi : w.1.Owns c i) (hj : w.1.Owns c j) (hji : j ≠ i)
    (hu : (w.1.sockets i).status = .inUse) (ht : (w.1.sockets i).socketType = .stream)
    (hacc : CameFromAccept j w.2) :
    walks pl sched c (.accept i pClientHandle srcAddr) base (fillAccepted c i i j p)
      (fun a w' ↦ Micros pl base w' ∧ a.1 = .success) w := by
  simp only [walks, fillAccepted, Prog.wp_bind, Prog.wp_get]
  refine walks_setSocketOptions hw fun w₁ h₁ _ ↦ ?_
  have hi₁ := h₁.frame.owns hi
  have hj₁ := h₁.frame.owns hj
  refine walks_setParentHandle (hw.trans h₁.micros) hi₁ hj₁ hji (hacc.rests h₁)
    fun w₂ hw₂ hs₂ hacc₂ ↦ ?_
  have hj₂ : w₂.1.Owns c j := by
    rw [hs₂]
    exact NetworkStack.owns_adopt_self hj₁.1 hi₁.2
  have hi₂ : w₂.1.Owns c i := by
    rw [hs₂]
    exact NetworkStack.owns_adopt_of_ne hji.symm hi₁
  have hsame : w₂.1.sockets i = w₁.1.sockets i := by
    rw [hs₂, NetworkStack.adopt, NetworkStack.updateSocket_sockets_of_ne hji.symm]
  simp only [Prog.wp_bind, Prog.wp_modify, Prog.wp_pure, hj₂.2, ne_eq, not_true_eq_false, if_false]
  have hw₃ := micros_write (r := .accept i pClientHandle srcAddr) sched
    (fun s ↦ s.updateSocket j (SocketResources.accepted (s.sockets i))) rfl hw₂
    (.accepted rfl hi₂ hj₂ hji (by rw [hsame, (h₁.frame.slot i).socketType, ht])
      (by rw [hs₂, NetworkStack.adopt, NetworkStack.updateSocket_sockets_self])
      (by rw [hsame, (h₁.frame.slot i).status, hu]))
    fun l hl ↦ (eq_or_ne l j).elim (fun hlj ↦ Or.inr (hlj ▸ hacc₂)) fun hlj ↦ Or.inl (by
      rwa [NetworkStack.updateSocket_sockets_of_ne hlj] at hl)
  exact walks_request rfl hw₃ fun _ w₄ h₄ ↦ ⟨hw₃.trans h₄.micros, trivial⟩

theorem walks_accept {i k : ℕ} {pClientHandle : Option ℤ} {srcAddr : Option OsSocketAddr} {h : ℤ}
    (ha : Admitted c (.accept i pClientHandle srcAddr) w.1 i)
    (hu : (w.1.sockets i).status = .inUse) (hk : w.1.IsClientAt c k) (hob : obtained w.2 = none) :
    walks pl sched c (.accept i pClientHandle srcAddr) w (picoSocketAccept c i h)
      (fun a w' ↦ Micros pl w w' ∧ Reserves w.1 k a.1 w') w := by
  have ho := ha.owns
  refine wp_withOpenSocket ho.1 (fun e he ↦ ⟨.refl, Or.inl hob⟩) fun hfin himpl ↦ ?_
  simp only [Prog.wp_bind, Prog.wp_modify]
  refine walks_callAndStore ha ⟨hfin, rfl, himpl, by simp [PicoCall.transfer]⟩ (Waits.refl w) rfl
    fun a e w₃ w₄ hw₄ hs ↦ ?_
  rw [← hw₄]
  have hw₅ := micros_write (r := .accept i pClientHandle srcAddr) sched
    (fun s ↦ s.updateSocket i SocketResources.acceptPending) rfl hs.micros
    (.acceptPending rfl (hs.frame.owns ho))
    (keepsConnected fun h ↦ (SocketResources.connected_acceptPending _).symm.trans h)
  have hf₅ := hs.frame.trans (SameFrame.updateSocket (i := i) (SlotFrame.acceptPending _))
  -- from here on only the frame of the tables matters
  set w₅ := (rpcEnv sched c (.accept i pClientHandle srcAddr)).write
    (fun s ↦ s.updateSocket i SocketResources.acceptPending) w₄
  have hob₅ : obtained w₅.2 = a.1 := hs.obtained
  have hpend₅ : pending w₅.2 = a.1 := hs.pending
  change SameFrame w.1 w₅.1 at hf₅
  clear_value w₅
  have ho₅ := hf₅.owns ho
  split_ifs with hnone
  · simp only [Prog.wp_bind, Prog.wp_pure]
    refine walks_request rfl hw₅ fun _ w₆ h₆ ↦ ?_
    have hw₆ := hw₅.trans h₆.micros
    refine walks_request rfl hw₆ fun _ w₇ h₇ ↦ ⟨hw₆.trans h₇.micros, Or.inl ?_⟩
    exact h₇.obtained.trans (h₆.obtained.trans (hob₅.trans hnone))
  · obtain ⟨p, hp⟩ := Option.ne_none_iff_exists'.1 hnone
    simp only [hp, Prog.wp_bind, Prog.wp_get]
    rw [ho₅.2]
    refine walks_reserveHandle hw₅ (Or.inr ⟨i, _, _, rfl, ho₅⟩) (hf₅.isClientAt hk)
      (hpend₅.trans hp) (fun w₆ hw₆ _ hob₆ hfull ↦ ?_) (fun j w₆ hw₆ hs₆ hj hacc₆ ↦ ?_)
    · -- no handle for the accepted socket, which is closed again
      have hfull' := (NetworkStack.refuses_iff hf₅).1 hfull
      simp only [Prog.wp_bind, Prog.wp_pure]
      refine walks_call (issued_close rfl rfl (hob₆.trans hob₅) hw₆) (Or.inl rfl)
        fun _ w₇ h₇ ↦ ?_
      have hw₇ := hw₆.trans h₇.micros
      exact walks_request rfl hw₇ fun _ w₈ h₈ ↦ ⟨hw₇.trans h₈.micros, Or.inr (Or.inr hfull')⟩
    · -- the new slot `j` was free, the listening slot `i` is in use and stays as it is
      have hji : j ≠ i := NetworkStack.ne_of_firstFree hj ((hf₅.slot i).status.trans hu)
      have hj₆ : w₆.1.Owns c j := by
        rw [hs₆]
        exact NetworkStack.owns_reserve_self (NetworkStack.firstFree_eq_some_iff.1 hj).2.1
      have hi₆ : w₆.1.Owns c i := by
        rw [hs₆]
        exact NetworkStack.owns_reserve_of_ne hji.symm ho₅
      have hu₆ : (w₆.1.sockets i).status = .inUse := by
        rw [hs₆, NetworkStack.reserve, NetworkStack.updateClient_sockets,
          NetworkStack.updateSocket_sockets_of_ne hji.symm, (hf₅.slot i).status, hu]
      have ht₆ : (w₆.1.sockets i).socketType = .stream := by
        rw [hs₆, NetworkStack.reserve, NetworkStack.updateClient_sockets,
          NetworkStack.updateSocket_sockets_of_ne hji.symm, (hf₅.slot i).socketType]
        exact ha.type _ rfl
      exact Prog.wp_mono (fun _ _ h ↦ h) (fun _ _ h ↦ ⟨h.1, Or.inr (Or.inl h.2)⟩)
        (walks_fillAccepted hw₆ hi₆ hj₆ hji hu₆ ht₆ (hacc₆ rfl))

end NetworkStackPicoTcp
