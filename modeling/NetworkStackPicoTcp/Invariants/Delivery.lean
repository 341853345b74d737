import NetworkStackPicoTcp.Interaction.Since
import NetworkStackPicoTcp.Invariants.Effects

/-!
# What an event mask remembers

The mask of a slot is written by the callback, by the sweep, and by `accept`, `read`, `recvfrom` and
`close`. Read off the history it is simple: a bit is set exactly if it was raised for the slot and,
since then, neither consumed nor swept away with the handle (`Stepped.remembers`).
-/

namespace NetworkStackPicoTcp

open Trace (Since Always)

variable {pl : Platform} {sched : Schedule} {cfg : Config} {c : ℤ} {r : RpcCall}

/-! ### What an entry does to a bit of a slot -/

namespace Entry

/-- A callback raises the bit on the socket of slot `i`. -/
def raises (i : ℕ) (b : OsSockEv) : Entry → Prop
  | .event ev s _ => i < s.numberOfSockets ∧ (s.sockets i).status = .inUse ∧
      (s.sockets i).implementationSocket = ev.socket ∧ b ∈ ev.raised
  | _ => False

/-- The record that a sweep takes, with its client: a sweep gets `stackTS` only to take one. -/
def taken : Entry → Option (ℤ × OsSocketEvt)
  | .answer c r (.lock .stackTS) _ s =>
    if r.isSweep then some (c, s.eventRecord (s.headOf c)) else none
  | _ => none

/-- A sweep of client `c` takes this record of slot `i`. -/
def reports (c : ℤ) (i : ℕ) (evt : OsSocketEvt) (x : Entry) : Prop :=
  x.taken = some (c, evt) ∧ evt.socketHandle = i

/-- The bit of slot `i` is consumed: a one-shot bit by a record, CONN_ACPT by an `accept` that
brings the pending connections to zero, READ by a `read` or `recvfrom` that clears it, CLOSE by
`close`. -/
def consumes (i : ℕ) (b : OsSockEv) : Entry → Prop
  | .answer c r (.lock .stackTS) _ s => r.isSweep = true ∧ s.headOf c = i ∧ b ∈ oneShotEvents
  | .own _ r s s' => b ∈ (s.sockets i).eventMask ∧ b ∉ (s'.sockets i).eventMask ∧
      r.handle = some (i : ℤ) ∧
      (r.isAccept = true ∧ b = .connAcpt ∧ (s'.sockets i).pendingConnections = 0 ∨
        r.receives = true ∧ b = .read ∨ r = .close i ∧ b = .close)
  | _ => False

/-- Slot `i` is freed by a `close`. -/
def releases (i : ℕ) : Entry → Prop
  | .own _ r s s' => r = .close i ∧ (s.sockets i).status = .inUse ∧ (s'.sockets i).status = .free
  | _ => False

/-- picoTCP tells that it frees the socket `p`. -/
def frees (p : PicoPtr) : Entry → Bool
  | .event ev _ _ => ev.socket = p ∧ ev.frees = true
  | _ => false

/-- The bit stays on slot `i`. -/
def keeps (i : ℕ) (b : OsSockEv) (x : Entry) : Prop :=
  ¬ x.consumes i b ∧ ¬ x.releases i ∧ ¬ x.reserves i

/-- The callback runs while the handles in use have pairwise different picoTCP sockets. -/
def distinctSockets : Entry → Prop
  | .event _ s _ => ∀ i < s.numberOfSockets, ∀ j < s.numberOfSockets,
      (s.sockets i).status = .inUse → (s.sockets j).status = .inUse →
      (s.sockets i).implementationSocket = (s.sockets j).implementationSocket → i = j
  | _ => True

instance decidableReleases {i : ℕ} : DecidablePred (releases i)
  | .own _ r s s' => inferInstanceAs (Decidable (r = .close i ∧ (s.sockets i).status = .inUse ∧
      (s'.sockets i).status = .free))
  | .begin .. | .answer .. | .event .. | .notified .. | .reply .. => .isFalse id

instance decidableConsumes {i : ℕ} {b : OsSockEv} : DecidablePred (consumes i b)
  | .answer c r (.lock .stackTS) _ s =>
    inferInstanceAs (Decidable (r.isSweep = true ∧ s.headOf c = i ∧ b ∈ oneShotEvents))
  | .own _ r s s' => inferInstanceAs (Decidable (b ∈ (s.sockets i).eventMask ∧
      b ∉ (s'.sockets i).eventMask ∧ r.handle = some (i : ℤ) ∧
      (r.isAccept = true ∧ b = .connAcpt ∧ (s'.sockets i).pendingConnections = 0 ∨
        r.receives = true ∧ b = .read ∨ r = .close i ∧ b = .close)))
  | .answer _ _ (.lock .socketCB) .. | .answer _ _ (.unlock _) .. | .answer _ _ (.pico _) ..
  | .answer _ _ .picoErr .. | .answer _ _ .notifyMainLoop .. | .answer _ _ (.stringToIpv4 _) ..
  | .answer _ _ (.putEvent _ _) .. | .answer _ _ .preempt .. | .answer _ _ .nullDeref ..
  | .answer _ _ .diverge .. => .isFalse id
  | .begin .. | .event .. | .notified .. | .reply .. => .isFalse id

instance decidableDistinctSockets : DecidablePred distinctSockets
  | .event _ s _ => inferInstanceAs (Decidable (∀ i < s.numberOfSockets,
      ∀ j < s.numberOfSockets, (s.sockets i).status = .inUse → (s.sockets j).status = .inUse →
      (s.sockets i).implementationSocket = (s.sockets j).implementationSocket → i = j))
  | .begin .. | .answer .. | .own .. | .notified .. | .reply .. => .isTrue trivial

end Entry

/-- Whenever a callback ran, the handles in use had pairwise different picoTCP sockets. -/
def DistinctSockets (h : History) : Prop := ∀ x ∈ h, x.distinctSockets

instance {h : History} : Decidable (DistinctSockets h) :=
  inferInstanceAs (Decidable (∀ x ∈ h, x.distinctSockets))

/-! ### The writes of an RPC -/

namespace SocketResources

variable (rec : SocketResources)

theorem dropPending_eventMask : rec.dropPending.eventMask = rec.eventMask := by
  unfold dropPending
  split_ifs <;> rfl

theorem acceptPending_currentError : rec.acceptPending.currentError = rec.currentError := by
  unfold acceptPending dropPending
  split_ifs <;> rfl

theorem acceptPending_pendingConnections :
    rec.acceptPending.pendingConnections = rec.dropPending.pendingConnections := by
  unfold acceptPending
  split_ifs <;> rfl

/-- `accept` drops CONN_ACPT exactly if it leaves no connection pending. -/
theorem acceptPending_eventMask : rec.acceptPending.eventMask =
    if rec.acceptPending.pendingConnections = 0 then rec.eventMask \ {.connAcpt}
    else rec.eventMask := by
  rw [acceptPending_pendingConnections, acceptPending]
  split_ifs with h
  · show rec.dropPending.eventMask \ {.connAcpt} = _
    rw [dropPending_eventMask]
  · exact rec.dropPending_eventMask

end SocketResources

section

variable {s s' : NetworkStack} {i j : ℕ} {b : OsSockEv}

/-- No write of an RPC raises a bit. -/
theorem OwnStep.eventMask_subset (h : OwnStep pl c r s s') (i : ℕ) :
    (s'.sockets i).eventMask ⊆ (s.sockets i).eventMask := by
  have hone : ∀ {j : ℕ} {f : SocketResources → SocketResources},
      (f (s.sockets j)).eventMask ⊆ (s.sockets j).eventMask →
      ((s.updateSocket j f).sockets i).eventMask ⊆ (s.sockets i).eventMask := by
    intro j f hf
    rw [NetworkStack.updateSocket_sockets]
    split_ifs with hij
    · rw [hij]
      exact hf
    · exact subset_rfl
  cases h with
  | setError | create | accepted | adopt => exact hone subset_rfl
  | clearClose | clearRead | snapshot => exact hone Finset.sdiff_subset
  | acceptPending =>
    refine hone ?_
    rw [SocketResources.acceptPending_eventMask]
    split_ifs
    · exact Finset.sdiff_subset
    · exact subset_rfl
  | @release j k =>
    rcases eq_or_ne i j with rfl | hij
    · rw [NetworkStack.sockets_release_self]
      exact Finset.empty_subset _
    · rw [NetworkStack.sockets_release_of_ne hij]
  | advanceHead | flagSelf | setTail => exact subset_rfl

/-- A write of an RPC either frees the slot or keeps its frame. -/
theorem OwnStep.status_eq (h : OwnStep pl c r s s') (i : ℕ) :
    (s'.sockets i).status = (s.sockets i).status ∨
      r = .close i ∧ s'.sockets i = (s.sockets i).release := by
  have hone : ∀ {j : ℕ} {f : SocketResources → SocketResources},
      (f (s.sockets j)).status = (s.sockets j).status →
      ((s.updateSocket j f).sockets i).status = (s.sockets i).status := by
    intro j f hf
    rw [NetworkStack.updateSocket_sockets]
    split_ifs with hij
    · rw [hij]
      exact hf
    · rfl
  cases h with
  | setError | create | accepted | adopt | clearClose | clearRead | snapshot =>
    exact Or.inl (hone rfl)
  | acceptPending => exact Or.inl (hone (SlotFrame.acceptPending _).status)
  | @release j k hr =>
    rcases eq_or_ne i j with rfl | hij
    · exact Or.inr ⟨hr, NetworkStack.sockets_release_self⟩
    · exact Or.inl (by rw [NetworkStack.sockets_release_of_ne hij])
  | advanceHead | flagSelf | setTail => exact Or.inl rfl

/-- Only `reserve_handle` reserves a slot. -/
theorem OwnStep.not_reserves (ho : OwnStep pl c r s s') : ¬ (Entry.own c r s s').reserves i := by
  rintro ⟨hfree, hin⟩
  rcases ho.status_eq i with hst | ⟨-, hrel⟩
  · rw [hst, hfree] at hin
    exact absurd hin (by decide)
  · rw [hrel] at hin
    exact absurd hin (by simp [SocketResources.release])

/-- A bit that a write takes away was consumed, or the handle was closed. -/
theorem OwnStep.gone (h : OwnStep pl c r s s') (hr : r.isSweep = false) (ha : Accounting s)
    (hb : b ∈ (s.sockets i).eventMask) (hb' : b ∉ (s'.sockets i).eventMask) :
    (Entry.own c r s s').consumes i b ∨ (Entry.own c r s s').releases i := by
  -- only the slot that is updated can lose a bit
  have hat : ∀ {j : ℕ} {f : SocketResources → SocketResources}, s' = s.updateSocket j f →
      i = j ∧ b ∉ (f (s.sockets j)).eventMask := by
    rintro j f rfl
    rw [NetworkStack.updateSocket_sockets] at hb'
    split_ifs at hb' with hij
    · exact ⟨hij, hb'⟩
    · exact absurd hb hb'
  have hcleared : ∀ {j : ℕ} {b₀ : OsSockEv}, s' = s.updateSocket j (SocketResources.clear {b₀}) →
      i = j ∧ b = b₀ := by
    intro j b₀ hs
    obtain ⟨rfl, hnot⟩ := hat hs
    refine ⟨rfl, ?_⟩
    by_contra hne
    exact hnot (Finset.mem_sdiff.2 ⟨hb, by simpa using hne⟩)
  cases h with
  | setError | create | accepted | adopt =>
    obtain ⟨rfl, hnot⟩ := hat rfl
    exact absurd hb hnot
  | clearClose hc =>
    obtain ⟨rfl, rfl⟩ := hcleared rfl
    exact Or.inl ⟨hb, hb', by rw [hc, RpcCall.handle], Or.inr (Or.inr ⟨hc, rfl⟩)⟩
  | clearRead hc =>
    obtain ⟨rfl, rfl⟩ := hcleared rfl
    obtain ⟨pLen, rfl⟩ | ⟨pLen, addr, rfl⟩ := hc
    · exact Or.inl ⟨hb, hb', rfl, Or.inr (Or.inl ⟨rfl, rfl⟩)⟩
    · exact Or.inl ⟨hb, hb', rfl, Or.inr (Or.inl ⟨rfl, rfl⟩)⟩
  | @acceptPending j pClientHandle srcAddr hc =>
    obtain ⟨rfl, hnot⟩ := hat rfl
    rw [SocketResources.acceptPending_eventMask] at hnot
    -- the bit goes with the last pending connection
    split_ifs at hnot with hzero
    · have hbit : b = .connAcpt := by
        by_contra hne
        exact hnot (Finset.mem_sdiff.2 ⟨hb, by simpa using hne⟩)
      refine Or.inl ⟨hb, hb', by rw [hc, RpcCall.handle],
        Or.inl ⟨by rw [hc, RpcCall.isAccept], hbit, ?_⟩⟩
      rw [NetworkStack.updateSocket_sockets_self]
      exact hzero
    · exact absurd hb hnot
  | @release j k hc ho hk =>
    rcases eq_or_ne i j with rfl | hij
    · refine Or.inr ⟨hc, ha.inUse_of_owns ho hk, ?_⟩
      rw [NetworkStack.sockets_release_self]
      rfl
    · rw [NetworkStack.sockets_release_of_ne hij] at hb'
      exact absurd hb hb'
  | snapshot hs | advanceHead hs | flagSelf hs | setTail hs => exact absurd hs (by simp [hr])

/-- **What a write does to a bit**, as the history sees it. -/
theorem OwnStep.mem_eventMask_iff (h : OwnStep pl c r s s') (hr : r.isSweep = false)
    (ha : Accounting s) :
    b ∈ (s'.sockets i).eventMask ↔
      b ∈ (s.sockets i).eventMask ∧ (Entry.own c r s s').keeps i b := by
  constructor
  · intro hb
    refine ⟨h.eventMask_subset i hb, fun hcons ↦ hcons.2.1 hb, ?_, ?_⟩
    · rintro ⟨-, hin, hfree⟩
      rcases h.status_eq i with hst | ⟨-, hrel⟩
      · rw [hst, hin] at hfree
        exact absurd hfree (by decide)
      · rw [hrel] at hb
        exact absurd hb (Finset.notMem_empty b)
    · rintro ⟨hfree, hin⟩
      rcases h.status_eq i with hst | ⟨-, hrel⟩
      · rw [hst, hfree] at hin
        exact absurd hin (by decide)
      · rw [hrel] at hin
        exact absurd hin (by simp [SocketResources.release])
  · rintro ⟨hb, hcons, hrel, -⟩
    by_contra hb'
    rcases h.gone hr ha hb hb' with hgone | hgone
    · exact hcons hgone
    · exact hrel hgone

end

/-! ### The mask and the history -/

/-- The bit was raised for slot `i` and has stayed since. -/
def Outstanding (i : ℕ) (b : OsSockEv) (h : History) : Prop :=
  Since (Entry.keeps i b) (Entry.raises i b) h

section

variable {s s' : NetworkStack} {h : History} {i : ℕ} {b : OsSockEv} {x : Entry} {w w' : World}

theorem outstanding_cons_of_not_raises (hx : ¬ x.raises i b) :
    Outstanding i b (x :: h) ↔ Outstanding i b h ∧ x.keeps i b := by
  rw [Outstanding, Trace.since_cons, or_iff_right hx, and_comm]
  rfl

/-- An entry that has nothing to do with the bit. -/
theorem outstanding_cons_of_neutral (hx : ¬ x.raises i b) (hk : x.keeps i b) :
    Outstanding i b (x :: h) ↔ Outstanding i b h := by
  rw [outstanding_cons_of_not_raises hx, and_iff_left hk]

/-- Calls other than the lock of a sweep have nothing to do with a bit. -/
theorem outstanding_answer {e : Call} {a : e.Answer} (hm : r.isSweep = false ∨ e ≠ .lock .stackTS) :
    Outstanding i b (.answer c r e a s :: h) ↔ Outstanding i b h := by
  refine outstanding_cons_of_neutral id ⟨?_, id, id⟩
  rcases hm with hm | hm
  · intro hc
    cases e with
    | lock m =>
      cases m with
      | stackTS => exact absurd hc.1 (by simp [hm])
      | socketCB => exact hc
    | _ => exact hc
  · intro hc
    cases e with
    | lock m =>
      cases m with
      | stackTS => exact hm rfl
      | socketCB => exact hc
    | _ => exact hc

/-- The writes of a sweep are not what consumes a bit. -/
theorem outstanding_own_of_sweep (hr : r.isSweep = true)
    (hst : (s'.sockets i).status = (s.sockets i).status) :
    Outstanding i b (.own c r s s' :: h) ↔ Outstanding i b h := by
  refine outstanding_cons_of_neutral id ⟨?_, ?_, ?_⟩
  · rintro ⟨-, -, hhandle, -⟩
    exact absurd hhandle (by simp [RpcCall.handle_of_isSweep hr])
  · rintro ⟨rfl, -⟩
    exact absurd hr Bool.false_ne_true
  · rintro ⟨hfree, hin⟩
    rw [hst, hfree] at hin
    exact absurd hin (by decide)

/-- A write that leaves the bit set and the slot taken, by an RPC other than `close`. -/
theorem keeps_own (hb : b ∈ (s'.sockets i).eventMask) (hr : r ≠ .close i)
    (hst : (s'.sockets i).status = (s.sockets i).status) : (Entry.own c r s s').keeps i b := by
  refine ⟨fun hcons ↦ hcons.2.1 hb, fun hrel ↦ hr hrel.1, ?_⟩
  rintro ⟨hfree, hin⟩
  rw [hst, hfree] at hin
  exact absurd hin (by decide)

end

/-- The masks are what the history says, and the slots that are free have none. -/
structure Remembers (w : World) : Prop where
  clean : ∀ i < w.1.numberOfSockets, (w.1.sockets i).status = .free → (w.1.sockets i).eventMask = ∅
  mask : ∀ i < w.1.numberOfSockets, ∀ b,
    b ∈ (w.1.sockets i).eventMask ↔ Outstanding i b w.2

namespace Remembers

variable {s s' : NetworkStack} {h : History} {w w' : World}

/-- An entry that goes with unchanged masks. -/
theorem same (hrem : Remembers (s, h)) {h' : History} (hn : s'.numberOfSockets = s.numberOfSockets)
    (hst : ∀ i, (s'.sockets i).status = (s.sockets i).status)
    (hmask : ∀ i, (s'.sockets i).eventMask = (s.sockets i).eventMask)
    (hout : ∀ i b, Outstanding i b h' ↔ Outstanding i b h) : Remembers (s', h') := by
  refine ⟨fun i hi hfree ↦ ?_, fun i hi b ↦ ?_⟩
  · show (s'.sockets i).eventMask = ∅
    rw [hmask]
    exact hrem.clean i (hn ▸ hi) ((hst i).symm.trans hfree)
  · show b ∈ (s'.sockets i).eventMask ↔ _
    rw [hmask, hout]
    exact hrem.mask i (hn ▸ hi) b

theorem own (hrem : Remembers (s, h)) (ha : Accounting s) (hr : r.isSweep = false)
    (ho : OwnStep pl c r s s') : Remembers (s', .own c r s s' :: h) := by
  have hn : s'.numberOfSockets = s.numberOfSockets := (TableStep.own ho).sameSetup.numberOfSockets
  refine ⟨fun i hi hfree ↦ ?_, fun i hi b ↦ ?_⟩
  · show (s'.sockets i).eventMask = ∅
    rcases ho.status_eq i with hst | ⟨-, hrel⟩
    · have hempty := hrem.clean i (hn ▸ hi) (hst.symm.trans hfree)
      exact Finset.subset_empty.1 (hempty ▸ ho.eventMask_subset i)
    · rw [hrel]
      rfl
  · show b ∈ (s'.sockets i).eventMask ↔ _
    rw [outstanding_cons_of_not_raises id, ho.mem_eventMask_iff hr ha, hrem.mask i (hn ▸ hi) b]

/-- A slot that is reserved was free, so nothing was outstanding on it. -/
theorem reserve (hrem : Remembers (s, h)) {k j p : ℕ} (hr : r.Acquires s c)
    (hj : s.firstFree = some j) :
    Remembers (s.reserve k j (some p) c,
      .own c r (s.updateSocket j (SocketResources.reserve (some p) c)) (s.reserve k j (some p) c) ::
      .answer c r (.unlock .socketCB) () (s.updateSocket j (SocketResources.reserve (some p) c)) ::
      .own c r s (s.updateSocket j (SocketResources.reserve (some p) c)) :: h) := by
  obtain ⟨hfree, hjn, -⟩ := NetworkStack.firstFree_eq_some_iff.1 hj
  have hclose : ∀ i : ℕ, r ≠ .close i := by
    rintro i rfl
    obtain ⟨_, _, _, hc⟩ | ⟨_, _, _, hc, -⟩ := hr <;> exact absurd hc (by simp)
  set s₁ := s.updateSocket j (SocketResources.reserve (some p) c)
  have hout : ∀ (i : ℕ) (b : OsSockEv),
      Outstanding i b (.own c r s₁ (s.reserve k j (some p) c) ::
        .answer c r (.unlock .socketCB) () s₁ :: .own c r s s₁ :: h) ↔
      (Outstanding i b h ∧ (Entry.own c r s s₁).keeps i b) ∧
        (Entry.own c r s₁ (s.reserve k j (some p) c)).keeps i b := by
    intro i b
    rw [outstanding_cons_of_not_raises id, outstanding_answer (Or.inr (by simp)),
      outstanding_cons_of_not_raises id]
  refine ⟨fun i hi hst ↦ ?_, fun i hi b ↦ ?_⟩
  · show ((s.reserve k j (some p) c).sockets i).eventMask = ∅
    rcases eq_or_ne i j with rfl | hij
    · rw [NetworkStack.sockets_reserve_self]
      exact hrem.clean i hjn hfree
    · rw [NetworkStack.sockets_reserve_of_ne hij] at hst ⊢
      exact hrem.clean i hi hst
  · rw [hout]
    show b ∈ ((s.reserve k j (some p) c).sockets i).eventMask ↔ _
    rcases eq_or_ne i j with rfl | hij
    · rw [NetworkStack.sockets_reserve_self]
      have hempty : b ∉ (s.sockets i).eventMask := by
        rw [hrem.clean i hjn hfree]
        exact Finset.notMem_empty b
      refine ⟨fun hb ↦ absurd hb hempty, ?_⟩
      rintro ⟨⟨hb, -⟩, -⟩
      exact absurd ((hrem.mask i hjn b).2 hb) hempty
    · rw [NetworkStack.sockets_reserve_of_ne hij]
      have hsame : s₁.sockets i = s.sockets i := NetworkStack.updateSocket_sockets_of_ne hij
      have hsame' : (s.reserve k j (some p) c).sockets i = s.sockets i :=
        NetworkStack.sockets_reserve_of_ne hij
      rw [← hrem.mask i hi b]
      refine ⟨fun hb ↦ ⟨⟨hb, keeps_own (by rwa [hsame]) (hclose i) (by rw [hsame])⟩, ?_⟩,
        fun hb ↦ hb.1.1⟩
      exact keeps_own (by rwa [hsame']) (hclose i) (by rw [hsame, hsame'])

/-- A snapshot consumes the one-shot bits of the slot it is taken of. -/
theorem snapshot (hrem : Remembers (s, h)) {k : ℕ} (hr : r.isSweep = true) (hk : s.IsClientAt c k) :
    Remembers (s.updateSocket (s.clients k).head (SocketResources.clear oneShotEvents),
      .own c r s (s.updateSocket (s.clients k).head (SocketResources.clear oneShotEvents)) ::
      .answer c r (.lock .stackTS) () s :: h) := by
  have hframe : ∀ i, SlotFrame (s.sockets i)
      ((s.updateSocket (s.clients k).head (SocketResources.clear oneShotEvents)).sockets i) :=
    (SameFrame.updateSocket (SlotFrame.clear oneShotEvents _)).slot
  have hout : ∀ (i : ℕ) (b : OsSockEv), Outstanding i b
      (.own c r s (s.updateSocket (s.clients k).head (SocketResources.clear oneShotEvents)) ::
        .answer c r (.lock .stackTS) () s :: h) ↔
      Outstanding i b h ∧ ¬ ((s.clients k).head = i ∧ b ∈ oneShotEvents) := by
    intro i b
    rw [outstanding_own_of_sweep hr (hframe i).status, outstanding_cons_of_not_raises id]
    refine and_congr_right fun _ ↦ ⟨?_, fun hnot ↦ ⟨?_, id, id⟩⟩
    · rintro ⟨hcons, -, -⟩ ⟨hhead, hb⟩
      exact hcons ⟨hr, (NetworkStack.headOf_eq hk).trans hhead, hb⟩
    · rintro ⟨-, hhead, hb⟩
      exact hnot ⟨(NetworkStack.headOf_eq hk).symm.trans hhead, hb⟩
  refine ⟨fun i hi hst ↦ ?_, fun i hi b ↦ ?_⟩
  · have hclean := hrem.clean i hi ((hframe i).status.symm.trans hst)
    show ((s.updateSocket _ _).sockets i).eventMask = ∅
    rw [NetworkStack.updateSocket_sockets]
    split_ifs with hij
    · rw [← hij]
      show (s.sockets i).eventMask \ oneShotEvents = ∅
      rw [hclean, Finset.empty_sdiff]
    · exact hclean
  · rw [hout, ← hrem.mask i hi b]
    show b ∈ ((s.updateSocket _ _).sockets i).eventMask ↔ _
    rw [NetworkStack.updateSocket_sockets]
    split_ifs with hij
    · rw [← hij]
      show b ∈ (s.sockets i).eventMask \ oneShotEvents ↔ _
      rw [Finset.mem_sdiff]
      simp
    · exact (and_iff_left fun hhead ↦ hij hhead.1.symm).symm

/-- A callback raises its bits on the one slot in use that holds the socket. -/
theorem event (hrem : Remembers w) (ha : Accounting w.1) (hcb : CallbackStep w w')
    (hd : DistinctSockets w'.2) : Remembers w' := by
  have hf := sameFrame_callbackStep hcb
  obtain ⟨ev, hne, hs, hh⟩ := hcb
  have hdist := hd (.event ev w.1 w'.1) (by rw [hh]; exact List.mem_cons_self)
  have hn := hf.numberOfSockets
  -- the bits of the callback go to the slot in use that holds its socket
  have hmask : ∀ i < w.1.numberOfSockets, ∀ b, b ∈ (w'.1.sockets i).eventMask ↔
      b ∈ (w.1.sockets i).eventMask ∨ (Entry.event ev w.1 w'.1).raises i b := by
    intro i hi b
    obtain ⟨hnone, heq⟩ | ⟨j, k, hj, hk, heq⟩ := NetworkStack.handlePicoSocketEvent_cases hs
    · rw [heq, or_iff_left]
      rintro ⟨-, -, himpl, -⟩
      exact NetworkStack.getHandleFromImplementationSocket_eq_none_iff.1 hnone i hi himpl
    · obtain ⟨himpl, hjn, -⟩ := NetworkStack.getHandleFromImplementationSocket_eq_some_iff.1 hj
      have hin : (w.1.sockets j).status = .inUse := by
        rw [ha.inUse_iff j hjn, himpl]
        exact hne
      rw [heq, NetworkStack.updateClient_sockets, NetworkStack.updateSocket_sockets]
      split_ifs with hij
      · rw [← hij, SocketResources.recordEvent_eventMask, Finset.mem_union]
        refine or_congr_right ⟨fun hb ↦ ⟨hi, hij ▸ hin, hij ▸ himpl, hb⟩, fun hb ↦ hb.2.2.2⟩
      · rw [or_iff_left]
        rintro ⟨-, hin', himpl', -⟩
        exact hij (hdist i hi j hjn hin' hin (himpl'.trans himpl.symm))
  refine ⟨fun i hi hst ↦ ?_, fun i hi b ↦ ?_⟩
  · rw [hn] at hi
    have hfree := (hf.slot i).status.symm.trans hst
    refine Finset.eq_empty_of_forall_notMem fun b hb ↦ ?_
    rcases (hmask i hi b).1 hb with hb | ⟨-, hin, -⟩
    · rw [hrem.clean i hi hfree] at hb
      exact Finset.notMem_empty b hb
    · rw [hfree] at hin
      exact absurd hin (by decide)
  · rw [hn] at hi
    rw [hmask i hi b, hrem.mask i hi b, hh, or_comm]
    exact or_congr_right (and_iff_right ⟨id, id, id⟩).symm

theorem micro (hrem : Remembers w) (ha : Accounting w.1) (hs : Micro pl w w')
    (hd : DistinctSockets w'.2) : Remembers w' := by
  cases hs with
  | begin | put | enter | reply =>
    exact hrem.same rfl (fun _ ↦ rfl) (fun _ ↦ rfl) fun _ _ ↦
      outstanding_cons_of_neutral id ⟨id, id, id⟩
  | answer e b hm =>
    refine hrem.same rfl (fun _ ↦ rfl) (fun _ ↦ rfl) fun _ _ ↦ outstanding_answer ?_
    refine hm.imp_right fun hm he ↦ ?_
    rw [he] at hm
    exact absurd hm (by decide)
  | own hr ho => exact hrem.own ha hr ho
  | reserve hr _ hj _ _ => exact hrem.reserve hr hj
  | snapshot hr _ hk _ _ => exact hrem.snapshot hr hk
  | advance hr | flagSelf hr | setTail hr =>
    exact hrem.same rfl (fun _ ↦ rfl) (fun _ ↦ rfl) fun _ _ ↦ outstanding_own_of_sweep hr rfl
  | event hcb => exact hrem.event ha hcb hd
  | @notified s h =>
    have hsock : s.notifyClientsAboutPendingEvents.1.sockets = s.sockets :=
      NetworkStack.sockets_notify
    refine hrem.same NetworkStack.sameFrame_notify.numberOfSockets (fun _ ↦ by rw [hsock])
      (fun _ ↦ by rw [hsock]) fun _ _ ↦ outstanding_cons_of_neutral id ⟨id, id, id⟩
  | setState st => exact hrem.same rfl (fun _ ↦ rfl) (fun _ ↦ rfl) fun _ _ ↦ Iff.rfl

theorem init (cfg : Config) : Remembers (cfg.init, []) :=
  ⟨fun _ _ _ ↦ rfl, fun _ _ b ↦ ⟨fun hb ↦ absurd hb (Finset.notMem_empty b), False.elim⟩⟩

end Remembers

/-- The history only grows. -/
theorem Micro.suffix {w w' : World} (h : Micro pl w w') : ∃ new, w'.2 = new ++ w.2 := by
  obtain ⟨new, hnew⟩ := h.replays (c := 0)
  exact ⟨new, hnew.entries⟩

theorem DistinctSockets.of_append {new old : History} (h : DistinctSockets (new ++ old)) :
    DistinctSockets old :=
  fun x hx ↦ h x (List.mem_append_right _ hx)

/-- **A bit is set exactly if it was raised and has stayed since**, in every world that steps lead
to. -/
theorem Stepped.remembers {w : World} (h : Stepped pl cfg w) (hd : DistinctSockets w.2) :
    Remembers w := by
  induction h with
  | refl => exact Remembers.init cfg
  | tail hsteps hs ih =>
    obtain ⟨new, hnew⟩ := hs.suffix
    have ha := Stepped.accounting hsteps
    exact (ih (hnew ▸ hd).of_append).micro ha hs hd

/-! ### Handles that stay in use -/

/-- Slot `i` is in use at this entry: a callback finds it so, or a write leaves it so. -/
def Entry.occupied (i : ℕ) : Entry → Prop
  | .event _ s _ => (s.sockets i).status = .inUse
  | .own _ _ _ s' => (s'.sockets i).status = .inUse
  | _ => False

/-- Slot `i` was in use and has not been freed since. -/
def Occupied (i : ℕ) (h : History) : Prop :=
  Since (fun x ↦ ¬ x.releases i) (Entry.occupied i) h

/-- A handle stays in use until it is closed, so it is not reserved before. -/
structure Stays (i : ℕ) (w : World) : Prop where
  inUse : Occupied i w.2 → (w.1.sockets i).status = .inUse
  reserved : Always (fun x earlier ↦ x.reserves i → ¬ Occupied i earlier) w.2

namespace Stays

variable {i : ℕ} {s s' : NetworkStack} {h : History} {x : Entry} {w w' : World}

/-- An entry that is no write. -/
theorem cons (hst : Stays i (s, h)) (ho : ¬ x.occupied i) (hr : ¬ x.reserves i)
    (hs : (s'.sockets i).status = (s.sockets i).status) : Stays i (s', x :: h) := by
  refine ⟨fun hocc ↦ ?_, fun hres ↦ absurd hres hr, hst.reserved⟩
  rcases hocc with hocc | ⟨-, hocc⟩
  · exact absurd hocc ho
  · exact hs.trans (hst.inUse hocc)

theorem own (pl : Platform) (hst : Stays i (s, h)) (ho : OwnStep pl c r s s') :
    Stays i (s', .own c r s s' :: h) := by
  refine ⟨fun hocc ↦ ?_, ?_, hst.reserved⟩
  · rcases hocc with hocc | ⟨hrel, hocc⟩
    · exact hocc
    · have hin : (s.sockets i).status = .inUse := hst.inUse hocc
      rcases ho.status_eq i with hsame | ⟨hc, hfree⟩
      · exact hsame.trans hin
      · exact absurd ⟨hc, hin, by rw [hfree]; rfl⟩ hrel
  · rintro ⟨hfree, hin⟩ hocc
    have hin' : (s.sockets i).status = .inUse := hst.inUse hocc
    rw [hfree] at hin'
    exact absurd hin' (by decide)

theorem reserve (hst : Stays i (s, h)) {k j p : ℕ} (hj : s.firstFree = some j) :
    Stays i (s.reserve k j (some p) c,
      .own c r (s.updateSocket j (SocketResources.reserve (some p) c)) (s.reserve k j (some p) c) ::
      .answer c r (.unlock .socketCB) () (s.updateSocket j (SocketResources.reserve (some p) c)) ::
      .own c r s (s.updateSocket j (SocketResources.reserve (some p) c)) :: h) := by
  have hfree := (NetworkStack.firstFree_eq_some_iff.1 hj).1
  have hkept : (s.sockets i).status = .inUse →
      ((s.updateSocket j (SocketResources.reserve (some p) c)).sockets i).status = .inUse := by
    intro hin
    rw [NetworkStack.updateSocket_sockets]
    split_ifs
    · rfl
    · exact hin
  refine ⟨fun hocc ↦ ?_, ?_, fun hres ↦ hres.elim, ?_, hst.reserved⟩
  · rcases hocc with hocc | ⟨-, hocc | ⟨-, hocc | ⟨-, hocc⟩⟩⟩
    · exact hocc
    · exact hocc.elim
    · exact hocc
    · exact hkept (hst.inUse hocc)
  · rintro ⟨hfree', hin'⟩
    exact absurd (hfree'.symm.trans hin') (by decide)
  · rintro ⟨hfree', -⟩ hocc
    have hin : (s.sockets i).status = .inUse := hst.inUse hocc
    exact absurd (hfree'.symm.trans hin) (by decide)

theorem micro (hst : Stays i w) (hs : Micro pl w w') : Stays i w' := by
  cases hs with
  | begin | answer | enter | put | reply => exact hst.cons id id rfl
  | own _ ho => exact hst.own pl ho
  | reserve _ _ hj => exact hst.reserve hj
  | snapshot hr _ hk _ ho => exact (hst.cons id id rfl).own pl (.snapshot hr hk ho)
  | advance hr _ hk => exact hst.own pl (.advanceHead hr hk)
  | flagSelf hr _ hk => exact hst.own pl (.flagSelf hr hk)
  | setTail hr _ hk => exact hst.own pl (.setTail hr hk)
  | event hcb =>
    have hf := sameFrame_callbackStep hcb
    obtain ⟨ev, -, -, hh⟩ := hcb
    refine ⟨fun hocc ↦ ?_, ?_⟩
    · rw [hh] at hocc
      rcases hocc with hocc | ⟨-, hocc⟩
      · exact (hf.slot i).status.trans hocc
      · exact (hf.slot i).status.trans (hst.inUse hocc)
    · rw [hh]
      exact ⟨fun hres ↦ hres.elim, hst.reserved⟩
  | notified => exact hst.cons id id (NetworkStack.sameFrame_notify.slot i).status
  | setState => exact ⟨hst.inUse, hst.reserved⟩

end Stays

theorem Stepped.stays {w : World} (h : Stepped pl cfg w) (i : ℕ) : Stays i w :=
  Micros.invariant (fun _ _ hs hi ↦ hi.micro hs) h ⟨False.elim, Trace.always_nil⟩

/-- A handle that is in use and not closed is not reserved again. -/
theorem Stays.not_reserves {i : ℕ} {w : World} (h : Stays i w) {later earlier : History} {x : Entry}
    (hw : ∃ newest, w.2 = newest ++ later ++ x :: earlier) (hx : x.occupied i)
    (hrel : ∀ y ∈ later, ¬ y.releases i) : ∀ y ∈ later, ¬ y.reserves i := by
  intro y hy hres
  obtain ⟨newer, older, rfl⟩ := List.append_of_mem hy
  obtain ⟨newest, hw⟩ := hw
  have hat : w.2 = (newest ++ newer) ++ y :: (older ++ x :: earlier) := by simp [hw]
  refine h.reserved.at hat hres (Trace.since_iff.2 ⟨older, x, earlier, rfl, hx, fun z hz ↦ ?_⟩)
  exact hrel z (by simp [hz])

end NetworkStackPicoTcp
