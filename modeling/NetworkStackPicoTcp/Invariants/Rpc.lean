import NetworkStackPicoTcp.Invariants.Checks
import NetworkStackPicoTcp.Invariants.Operations
import NetworkStackPicoTcp.Invariants.Sweep

/-!
# Every RPC is made of steps

The chains of checks in front of the operations, and with them whole RPCs: `walks_rpc` says what
every RPC owes at each of its calls, and what its reply tells about what it has done (`Replied`).
-/

namespace NetworkStackPicoTcp

open Prog (wp)

variable {pl : Platform} {sched : Schedule} {c : ℤ} {r : RpcCall} {base w : World} {α : Type}

/-! ### All RPCs -/

/-- What the reply of an RPC that began in `base` tells. -/
structure Replied (pl : Platform) (c : ℤ) (r : RpcCall) (base : World) (a : Reply) (w : World) :
    Prop where
  micros : Micros pl base w
  reserves : r.acquires = true → ∀ k, base.1.IsClientAt c k → Reserves base.1 k a.err w
  length : AnswersBounded w.2 → a.err = .success →
    a.out.len.getD 0 ≤ clampLen pl c (r.outputs.len.getD 0)
  rest : phase w.2 = .rest ∨
    phase w.2 = .advanced ∧ ∀ l, (w.1.clients l).head = (w.1.clients l).tail

/-- Only a sweep has phases. -/
theorem wp_phase (pl : Platform) (hg : r.isSweep = false) (p : Rpc α) :
    wp (rpcEnv sched c r) (fun _ w' ↦ phase w'.2 = phase w.2) p
      (fun _ w' ↦ phase w'.2 = phase w.2) w := by
  refine Prog.wp_of_invariant (I := fun w' ↦ phase w'.2 = phase w.2) (fun f w₁ h ↦ ?_) ?_ p rfl
  · simp [phase, hg, h]
  · rintro e w₁ b _ h ⟨w₂, hint, rfl⟩
    have hel : Elsewhere pl w₁ w₂ := elsewhere_interference hint
    simp [phase, hg, hel.phase, h]

/-- What is left to show of an RPC that is not a sweep. -/
theorem walks_replied (hg : r.isSweep = false) (hp : phase w.2 = .rest) {p : Rpc Reply}
    (h : walks pl sched c r w p (fun a w' ↦ Micros pl w w' ∧
      (r.acquires = true → ∀ k, w.1.IsClientAt c k → Reserves w.1 k a.err w') ∧
      (AnswersBounded w'.2 → a.err = .success →
        a.out.len.getD 0 ≤ clampLen pl c (r.outputs.len.getD 0))) w) :
    walks pl sched c r w p (Replied pl c r w) w :=
  Prog.wp_mono (fun _ _ hc ↦ hc.1)
    (fun _ _ hq ↦ ⟨hq.1.1, hq.1.2.1, hq.1.2.2, Or.inl (hq.2.trans hp)⟩)
    (Prog.wp_and h (wp_phase pl hg p))

/-- An RPC that acquires nothing and reports no length. -/
theorem walks_plain (hg : r.isSweep = false) (hp : phase w.2 = .rest)
    (hacq : r.acquires = false) {p : Rpc α} {f : α → Reply} (hf : ∀ a, (f a).out.len = none)
    (h : walks pl sched c r w p (fun _ w' ↦ Micros pl w w') w) :
    walks pl sched c r w (f <$> p) (Replied pl c r w) w := by
  refine walks_replied hg hp ?_
  simp only [walks, Prog.wp_map]
  refine Prog.wp_mono (fun _ _ h ↦ h)
    (fun a w' hw ↦ ⟨hw, fun h ↦ absurd h (by simp [hacq]), fun _ _ ↦ ?_⟩) h
  rw [hf a]
  exact Nat.zero_le _

/-- An RPC that acquires nothing and reports the length that its operation reports. -/
theorem walks_transfer (hg : r.isSweep = false) (hp : phase w.2 = .rest)
    (hacq : r.acquires = false) {p : Rpc α} {f : α → Reply}
    (h : walks pl sched c r w p (fun a w' ↦ Micros pl w w' ∧
      (AnswersBounded w'.2 → (f a).err = .success →
        (f a).out.len.getD 0 ≤ clampLen pl c (r.outputs.len.getD 0))) w) :
    walks pl sched c r w (f <$> p) (Replied pl c r w) w := by
  refine walks_replied hg hp ?_
  simp only [walks, Prog.wp_map]
  exact Prog.wp_mono (fun _ _ h ↦ h)
    (fun a w' hw ↦ ⟨hw.1, fun h ↦ absurd h (by simp [hacq]), hw.2⟩) h

/-- **Every RPC is made of steps**: from a world at rest in which the caller is a client and its
slots are in use, every call is issued as `Issued` says and the reply tells what `Replied` says. -/
theorem walks_rpc {k : ℕ} (hk : w.1.IsClientAt c k)
    (hu : ∀ i, w.1.Owns c i → (w.1.sockets i).status = .inUse) (hrest : AtRest w.1)
    (hp : phase w.2 = .rest) (hs : issuer w.2 = c) (hob : obtained w.2 = none) :
    walks pl sched c r w (rpc pl c r) (Replied pl c r w) w := by
  have hreserves : ∀ {err : OsError} {w' : World}, Reserves w.1 k err w' →
      ∀ l, w.1.IsClientAt c l → Reserves w.1 l err w' := by
    intro err w' h l hl
    rwa [Option.some.inj (hl.symm.trans hk)]
  cases r with
  | create domain type pHandle =>
    refine walks_replied rfl hp ?_
    simp only [walks, rpc, rpcSocketCreate, Prog.wp_map]
    refine wp_guarded (fun _ _ ↦ ⟨.refl, fun _ _ _ ↦ Or.inl hob, fun _ _ ↦ Nat.zero_le _⟩)
      fun _ ↦ ?_
    simp only [Prog.wp_bind, Prog.wp_pure]
    exact Prog.wp_mono (fun _ _ h ↦ h)
      (fun _ _ h ↦ ⟨h.1, fun _ ↦ hreserves h.2, fun _ _ ↦ Nat.zero_le _⟩) (walks_create hk hob)
  | close handle =>
    refine walks_plain rfl hp rfl (fun _ ↦ rfl) (wp_guarded (fun _ _ ↦ .refl) fun hch ↦ ?_)
    obtain ⟨i, rfl, ha⟩ := admitted_of_checks pl (.close handle) hch rfl
    exact walks_close ha hk
  | connect handle addr =>
    refine walks_plain rfl hp rfl (fun _ ↦ rfl) (wp_guarded (fun _ _ ↦ .refl) fun hch ↦ ?_)
    obtain ⟨i, rfl, ha⟩ := admitted_of_checks pl (.connect handle addr) hch rfl
    obtain ⟨addr, rfl⟩ := ptr_of_checks pl addr hch (by simp)
    exact walks_connect ha
  | bind handle addr =>
    refine walks_plain rfl hp rfl (fun _ ↦ rfl) (wp_guarded (fun _ _ ↦ .refl) fun hch ↦ ?_)
    obtain ⟨i, rfl, ha⟩ := admitted_of_checks pl (.bind handle addr) hch rfl
    obtain ⟨addr, rfl⟩ := ptr_of_checks pl addr hch (by simp)
    exact walks_bind ha
  | listen handle backlog =>
    refine walks_plain rfl hp rfl (fun _ ↦ rfl) (wp_guarded (fun _ _ ↦ .refl) fun hch ↦ ?_)
    obtain ⟨i, rfl, ha⟩ := admitted_of_checks pl (.listen handle backlog) hch rfl
    exact walks_listen ha
  | accept handle pClientHandle srcAddr =>
    refine walks_replied rfl hp ?_
    simp only [walks, rpc, rpcSocketAccept, Prog.wp_map]
    refine wp_guarded (fun _ _ ↦ ⟨.refl, fun _ _ _ ↦ Or.inl hob, fun _ _ ↦ Nat.zero_le _⟩)
      fun hch ↦ ?_
    obtain ⟨i, rfl, ha⟩ := admitted_of_checks pl (.accept handle pClientHandle srcAddr) hch rfl
    simp only [Prog.wp_bind, Prog.wp_pure]
    exact Prog.wp_mono (fun _ _ h ↦ h)
      (fun _ _ h ↦ ⟨h.1, fun _ ↦ hreserves h.2, fun _ _ ↦ Nat.zero_le _⟩)
      (walks_accept ha (hu i ha.owns) hk hob)
  | write handle pLen =>
    refine walks_transfer rfl hp rfl (wp_guarded (fun e he ↦ ?_) fun hch ↦ ?_)
    · exact ⟨.refl, fun _ h ↦ absurd h (firstError_ne_success (by simp) he)⟩
    · obtain ⟨i, rfl, ha⟩ := admitted_of_checks pl (.write handle pLen) hch rfl
      simp only [Prog.wp_bind, Prog.wp_pure]
      exact walks_write ha rfl
  | read handle pLen =>
    refine walks_transfer rfl hp rfl (wp_guarded (fun e he ↦ ?_) fun hch ↦ ?_)
    · exact ⟨.refl, fun _ h ↦ absurd h (firstError_ne_success (by simp) he)⟩
    · obtain ⟨i, rfl, ha⟩ := admitted_of_checks pl (.read handle pLen) hch rfl
      simp only [Prog.wp_bind, Prog.wp_pure]
      exact walks_read ha rfl
  | sendto handle pLen addr =>
    refine walks_transfer rfl hp rfl (wp_guarded (fun e he ↦ ?_) fun hch ↦ ?_)
    · exact ⟨.refl, fun _ h ↦ absurd h (firstError_ne_success (by simp) he)⟩
    · obtain ⟨i, rfl, ha⟩ := admitted_of_checks pl (.sendto handle pLen addr) hch rfl
      obtain ⟨addr, rfl⟩ := ptr_of_checks pl addr hch (by simp)
      simp only [Prog.wp_bind, Prog.wp_pure]
      exact walks_sendto ha rfl
  | recvfrom handle pLen addr =>
    refine walks_transfer rfl hp rfl (wp_guarded (fun e he ↦ ?_) fun hch ↦ ?_)
    · exact ⟨.refl, fun _ h ↦ absurd h (firstError_ne_success (by simp) he)⟩
    · obtain ⟨i, rfl, ha⟩ := admitted_of_checks pl (.recvfrom handle pLen addr) hch rfl
      obtain ⟨addr, rfl⟩ := ptr_of_checks pl addr hch (by simp)
      simp only [Prog.wp_bind, Prog.wp_pure]
      exact walks_recvfrom ha rfl
  | getPendingEvents size pNumberOfEvents =>
    simp only [walks, rpc, Prog.wp_map]
    refine Prog.wp_mono (fun _ _ h ↦ h)
      (fun _ _ h ↦ ⟨h.1, fun h ↦ ?_, fun _ _ ↦ Nat.zero_le _, h.2⟩)
      (walks_getPendingEvents hk hs hrest hp)
    simp [RpcCall.acquires] at h

end NetworkStackPicoTcp
