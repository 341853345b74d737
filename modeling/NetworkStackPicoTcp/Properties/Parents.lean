import NetworkStackPicoTcp.Invariants.Deeds
import NetworkStackPicoTcp.Properties.Events

/-!
# Parent handles

`accept` links the new slot to the listening one, and closing the listening socket leaves the link.
So a slot's parent handle is right as long as no socket is closed that still has accepted sockets
(`parents_kept`). After that it names a free slot, or whatever socket the slot is reserved for next,
also one of another client (`parent_lost_sampleInherited`).
-/

namespace NetworkStackPicoTcp

open Trace (Always)

variable {pl : Platform} {sched : Schedule} {cfg : Config} {c : ℤ} {r : RpcCall} {w w' : World}

/-! ### Listening and accepted sockets -/

/-- The entry reserves slot `j` in an `accept` on slot `p`, for a socket that picoTCP has accepted
on the socket `q` that slot `p` holds. -/
def Entry.accepts (j p : ℕ) (q : PicoPtr) (earlier : History) : Entry → Prop
  | .own _ (.accept l _ _) s s' => l = p ∧ (s.sockets j).status = .free ∧
      (s'.sockets j).status = .inUse ∧ (s.sockets p).status = .inUse ∧
      (s.sockets p).implementationSocket = q ∧
      ∃ b, (thread earlier).lastCall = some ⟨.accept q, b⟩ ∧
        b.1 = (s'.sockets j).implementationSocket
  | _ => False

/-- Slot `j` was last reserved for a socket accepted on the socket `q` of slot `p`, and slot `p` has
not been freed since. -/
def AcceptedOn (j p : ℕ) (q : PicoPtr) : History → Prop
  | [] => False
  | x :: earlier => x.accepts j p q earlier ∨
      ¬ x.reserves j ∧ ¬ x.releases p ∧ AcceptedOn j p q earlier

/-- Slot `p` is still the listening socket from which the socket of slot `j` was accepted, and has
the same owner. -/
structure ParentOf (w : World) (j p : ℕ) : Prop where
  lt : p < w.1.numberOfSockets
  inUse : (w.1.sockets p).status = .inUse
  clientId : (w.1.sockets p).clientId = (w.1.sockets j).clientId
  accepted : AcceptedOn j p (w.1.sockets p).implementationSocket w.2

/-- If the entry frees a slot, it is not the parent of any slot in use. -/
def Entry.leavesNoOrphan : Entry → Prop
  | .own c r s s' => ∀ p < s.numberOfSockets, (Entry.own c r s s').releases p →
      ∀ j < s.numberOfSockets, (s.sockets j).status = .inUse → (s.sockets j).parentHandle ≠ p
  | _ => True

instance decidableLeavesNoOrphan : DecidablePred Entry.leavesNoOrphan
  | .own c r s s' => inferInstanceAs (Decidable (∀ p < s.numberOfSockets,
      (Entry.own c r s s').releases p → ∀ j < s.numberOfSockets, (s.sockets j).status = .inUse →
        (s.sockets j).parentHandle ≠ p))
  | .begin .. | .answer .. | .event .. | .notified .. | .reply .. => .isTrue trivial

/-- The links between slots: every parent handle is right, and the RPC under way has reserved a slot
that is nobody's parent, for a socket accepted on the slot that it was called for. -/
structure Family (w : World) : Prop where
  linked : ∀ j p : ℕ, (w.1.sockets j).status = .inUse → (w.1.sockets j).parentHandle = p →
    ParentOf w j p
  childless : ∀ j : ℕ, (thread w.2).reserved = some j → ∀ k, (w.1.sockets k).status = .inUse →
    (w.1.sockets k).parentHandle ≠ j
  listening : ∀ j l : ℕ, (thread w.2).reserved = some j → ∀ c pClientHandle srcAddr,
    (thread w.2).current = some (c, .accept l pClientHandle srcAddr) →
    j ≠ l ∧ (w.1.sockets l).status = .inUse ∧
      AcceptedOn j l (w.1.sockets l).implementationSocket w.2

section

variable {t : Thread} {s s' : NetworkStack} {h : History} {i j p : ℕ} {rec : SocketResources}
  {x : Entry}

/-- A slot in use that the RPC has not reserved keeps its owner and its picoTCP socket, unless it is
freed. -/
theorem Thread.Alters.kept (ha : t.Alters pl c r s i rec) (hin : (s.sockets i).status = .inUse)
    (hres : t.reserved ≠ some i) (hrel : ¬ (r = .close i ∧ rec.status = .free)) :
    rec.status = .inUse ∧ rec.clientId = (s.sockets i).clientId ∧
      rec.implementationSocket = (s.sockets i).implementationSocket := by
  cases ha with
  | same | store | clear => exact ⟨hin, rfl, rfl⟩
  | acceptPending =>
    have hf := SlotFrame.acceptPending (s.sockets i)
    exact ⟨hf.status.trans hin, hf.clientId, hf.implementationSocket⟩
  | reserve hi =>
    have hfree := (NetworkStack.firstFree_eq_some_iff.1 hi).1
    exact absurd (hfree.symm.trans hin) (by decide)
  | create _ hi | adopt _ hi | accepted _ hi => exact absurd hi hres
  | release hr => exact absurd ⟨hr, rfl⟩ hrel

/-- A write sets the parent handle of a slot in use only to link the slot that the RPC has
reserved. -/
theorem Thread.Alters.parentHandle (ha : t.Alters pl c r s i rec) (hin : rec.status = .inUse)
    (hp : rec.parentHandle = (p : ℤ)) :
    (s.sockets i).status = .inUse ∧ (s.sockets i).parentHandle = p ∧
        rec.clientId = (s.sockets i).clientId ∨
      t.reserved = some i ∧ rec.clientId = (s.sockets p).clientId ∧
        ∃ pClientHandle srcAddr, r = .accept p pClientHandle srcAddr := by
  cases ha with
  | same | store | clear | create | accepted => exact Or.inl ⟨hin, hp, rfl⟩
  | acceptPending =>
    have hf := SlotFrame.acceptPending (s.sockets i)
    exact Or.inl ⟨hf.status.symm.trans hin, hf.parentHandle.symm.trans hp, hf.clientId⟩
  | reserve =>
    have hneg : (-1 : ℤ) = p := hp
    omega
  | @adopt l pClientHandle srcAddr hr hi =>
    obtain rfl : l = p := Int.ofNat_inj.1 hp
    exact Or.inr ⟨hi, rfl, pClientHandle, srcAddr, hr⟩
  | release => exact absurd hin (by simp [SocketResources.release])

theorem AcceptedOn.cons {q : PicoPtr} (ha : AcceptedOn j p q h) (hj : ¬ x.reserves j)
    (hp : ¬ x.releases p) : AcceptedOn j p q (x :: h) := Or.inr ⟨hj, hp, ha⟩

namespace Family

/-- An entry that is no write. -/
theorem frame (hfam : Family (s, h)) (hf : SameFrame s s') (hres : ∀ i, ¬ x.reserves i)
    (hrel : ∀ i, ¬ x.releases i)
    (ht : ∀ j, (thread (x :: h)).reserved = some j → (thread h).reserved = some j ∧
      (thread (x :: h)).current = (thread h).current) : Family (s', x :: h) := by
  refine ⟨fun j p hin hp ↦ ?_, fun j hj k hin hp ↦ ?_, fun j l hj c a b hcur ↦ ?_⟩
  · have hpar := hfam.linked j p ((hf.slot j).status.symm.trans hin)
      ((hf.slot j).parentHandle.symm.trans hp)
    refine ⟨hf.numberOfSockets ▸ hpar.lt, (hf.slot p).status.trans hpar.inUse,
      (hf.slot p).clientId.trans (hpar.clientId.trans (hf.slot j).clientId.symm), ?_⟩
    show AcceptedOn j p (s'.sockets p).implementationSocket (x :: h)
    rw [(hf.slot p).implementationSocket]
    exact hpar.accepted.cons (hres j) (hrel p)
  · exact hfam.childless j (ht j hj).1 k ((hf.slot k).status.symm.trans hin)
      ((hf.slot k).parentHandle.symm.trans hp)
  · obtain ⟨hj, hsame⟩ := ht j hj
    obtain ⟨hne, hin, hacc⟩ := hfam.listening j l hj c a b (hsame.symm.trans hcur)
    refine ⟨hne, (hf.slot l).status.trans hin, ?_⟩
    show AcceptedOn j l (s'.sockets l).implementationSocket (x :: h)
    rw [(hf.slot l).implementationSocket]
    exact hacc.cons (hres j) (hrel l)

/-- A slot that the thread reserves with this write. -/
theorem accepts_of_alters {l : ℕ} {pClientHandle : Option ℤ} {srcAddr : Option OsSocketAddr}
    (ha : (thread h).Alters pl c (.accept l pClientHandle srcAddr) s j (s'.sockets j))
    (hfree : (s.sockets j).status = .free) (hin : (s'.sockets j).status = .inUse) :
    (thread h).reserved = none ∧ (s.sockets l).status = .inUse ∧
      (Entry.own c (.accept l pClientHandle srcAddr) s s').accepts j l
        (s.sockets l).implementationSocket h := by
  obtain hst | ⟨p, -, -, hn, hfrom, hrec⟩ | ⟨hr, -⟩ := ha.lifecycle
  · exact absurd (hin.symm.trans (hst.trans hfree)) (by decide)
  · obtain ⟨_, _, _, hr⟩ | ⟨l', _, _, q, b, hr, hlast, hb, hq, hl⟩ := hfrom
    · exact absurd hr (by simp)
    · obtain ⟨hll, -, -⟩ := RpcCall.accept.inj hr
      obtain rfl : l = l' := Int.ofNat_inj.1 hll
      refine ⟨hn, hl, rfl, hfree, hin, hl, rfl, b, by rw [hlast, hq], ?_⟩
      rw [hb, hrec]
      rfl
  · exact absurd hr (by simp)

theorem own (hfam : Family (s, h)) (ht : Tidy (s, h)) (hc : (thread h).current = some (c, r))
    (hw : (thread h).MayWrite pl c r s s') (ho : (Entry.own c r s s').leavesNoOrphan) :
    Family (s', .own c r s s' :: h) := by
  have hstays : ∀ {k p : ℕ}, (s.sockets k).status = .inUse → (s.sockets k).parentHandle = p →
      ¬ (Entry.own c r s s').releases p := fun hin hp hrel ↦
    ho _ (hfam.linked _ _ hin hp).lt hrel _ (ht.inTable _ hin) hin hp
  refine ⟨fun j p hin hp ↦ ?_, fun j hj k hin hp ↦ ?_, fun j l hj c' a b hcur ↦ ?_⟩
  · obtain ⟨hin₀, hp₀, hid⟩ | ⟨hres, hid, a, b, rfl⟩ := (hw.alters j).parentHandle hin hp
    · -- an old link: the parent is neither closed nor the slot that the RPC has reserved
      have hpar := hfam.linked j p hin₀ hp₀
      have hrel := hstays hin₀ hp₀
      obtain ⟨hpin, hpid, himpl⟩ := (hw.alters p).kept hpar.inUse
        (fun hres ↦ hfam.childless p hres j hin₀ hp₀) fun h ↦ hrel ⟨h.1, hpar.inUse, h.2⟩
      refine ⟨hw.numberOfSockets ▸ hpar.lt, hpin, hpid.trans (hpar.clientId.trans hid.symm), ?_⟩
      show AcceptedOn j p (s'.sockets p).implementationSocket _
      rw [himpl]
      exact hpar.accepted.cons (Entry.not_reserves_of_inUse hin₀) hrel
    · -- the link is new
      obtain ⟨hne, hpin₀, hacc⟩ := hfam.listening j p hres c a b hc
      have hrel : ¬ (RpcCall.accept p a b = .close p ∧ (s'.sockets p).status = .free) := by simp
      obtain ⟨hpin, hpid, himpl⟩ := (hw.alters p).kept hpin₀
        (fun hp' ↦ hne (Option.some.inj (hres.symm.trans hp'))) hrel
      refine ⟨hw.numberOfSockets ▸ ht.inTable p hpin₀, hpin, hpid.trans hid.symm, ?_⟩
      show AcceptedOn j p (s'.sockets p).implementationSocket _
      rw [himpl]
      exact hacc.cons (Entry.not_reserves_of_inUse (ht.reserved j hres).1) fun h ↦ hrel ⟨h.1, h.2.2⟩
  · obtain ⟨hin₀, hp₀, -⟩ | ⟨hres, -, a, b, rfl⟩ := (hw.alters k).parentHandle hin hp
    · rcases Thread.reserved_of_wrote hj with hj | ⟨hfree, -⟩
      · exact hfam.childless j hj k hin₀ hp₀
      · exact absurd (hfree.symm.trans (hfam.linked k j hin₀ hp₀).inUse) (by decide)
    · obtain ⟨hne, hlin, -⟩ := hfam.listening k j hres c a b hc
      rcases Thread.reserved_of_wrote hj with hj | ⟨hfree, -⟩
      · exact hne (Option.some.inj (hres.symm.trans hj))
      · exact absurd (hfree.symm.trans hlin) (by decide)
  · have hcur₀ : (thread h).current = some (c', .accept l a b) :=
      Thread.wrote_current.symm.trans hcur
    obtain ⟨rfl, rfl⟩ := Prod.mk.inj (Option.some.inj (hc.symm.trans hcur₀))
    have hrel : ¬ (RpcCall.accept l a b = .close l ∧ (s'.sockets l).status = .free) := by simp
    rcases Thread.reserved_of_wrote hj with hj | ⟨hfree, hin⟩
    · obtain ⟨hne, hlin₀, hacc⟩ := hfam.listening j l hj c a b hc
      obtain ⟨hlin, -, himpl⟩ := (hw.alters l).kept hlin₀
        (fun hl ↦ hne (Option.some.inj (hj.symm.trans hl))) hrel
      refine ⟨hne, hlin, ?_⟩
      show AcceptedOn j l (s'.sockets l).implementationSocket _
      rw [himpl]
      exact hacc.cons (Entry.not_reserves_of_inUse (ht.reserved j hj).1) fun h ↦ hrel ⟨h.1, h.2.2⟩
    · obtain ⟨hn, hlin₀, hacc⟩ := accepts_of_alters (hw.alters j) hfree hin
      obtain ⟨hlin, -, himpl⟩ := (hw.alters l).kept hlin₀ (by rw [hn]; simp) hrel
      refine ⟨?_, hlin, ?_⟩
      · rintro rfl
        exact absurd (hfree.symm.trans hlin₀) (by decide)
      · show AcceptedOn j l (s'.sockets l).implementationSocket _
        rw [himpl]
        exact Or.inl hacc

theorem deed (hfam : Family w) (ht : Tidy w) (hd : Deed pl w w')
    (ho : ∀ x ∈ w'.2, x.leavesNoOrphan) : Family w' := by
  cases hd with
  | own hc hw => exact hfam.own ht hc hw (ho _ List.mem_cons_self)
  | begin | reply =>
    exact hfam.frame (SameFrame.refl _) (fun _ ↦ id) (fun _ ↦ id) fun j hj ↦
      absurd hj (by simp [Thread.step])
  | answer e b =>
    refine hfam.frame (SameFrame.refl _) (fun _ ↦ id) (fun _ ↦ id) fun j hj ↦ ?_
    rw [thread_cons, Thread.step, Thread.answered_reserved] at hj
    exact ⟨hj, by rw [thread_cons, Thread.step, Thread.answered_current]⟩
  | event hcb =>
    have hf := sameFrame_callbackStep hcb
    obtain ⟨ev, -, -, hh⟩ := hcb
    have hnext : Family (w'.1, .event ev w.1 w'.1 :: w.2) :=
      hfam.frame hf (fun _ ↦ id) (fun _ ↦ id) fun _ hj ↦ ⟨hj, rfl⟩
    rwa [← hh] at hnext
  | notified =>
    exact hfam.frame NetworkStack.sameFrame_notify (fun _ ↦ id) (fun _ ↦ id) fun _ hj ↦ ⟨hj, rfl⟩
  | setState =>
    refine ⟨fun j p hin hp ↦ ?_, hfam.childless, hfam.listening⟩
    have hpar := hfam.linked j p hin hp
    exact ⟨hpar.lt, hpar.inUse, hpar.clientId, hpar.accepted⟩

end Family

theorem Deeds.family (hw : Deeds pl (cfg.init, []) w) (ho : ∀ x ∈ w.2, x.leavesNoOrphan) :
    Family w := by
  have h₀ : Family (cfg.init, []) := by
    refine ⟨fun j p hin ↦ ?_, fun j hj ↦ ?_, fun j l hj ↦ ?_⟩
    · exact absurd hin (by simp [Config.init, SocketResources.zero])
    · exact absurd hj (by simp [thread])
    · exact absurd hj (by simp [thread])
  refine Deeds.invariant hw h₀ fun w₁ w₂ new ht hd hnew hfam ↦ ?_
  exact hfam.deed ht hd fun x hx ↦ ho x (hnew ▸ List.mem_append_right _ hx)

/-! ### The parent handles that clients are told -/

/-- The parent handle in a record is the caller's, and is still the socket that the reported one was
accepted from, in the tables `s` that the record is taken of. -/
def Entry.tellsParent (x : Entry) (earlier : History) : Prop :=
  ∀ c i evt, x.reports c i evt → ∀ p : ℕ, evt.parentSocketHandle = p →
    ∃ r s, x = .answer c r (.lock .stackTS) () s ∧ evt = s.eventRecord i ∧
    (s.sockets p).clientId = c ∧
      ParentOf (s, earlier) i p

theorem tellsParent_of_taken (hx : x.taken = none) (earlier : History) : x.tellsParent earlier :=
  fun _ _ _ hrep ↦ absurd hrep (not_reports_of_taken hx)

theorem Micro.tellsParent (hs : Micro pl w w') (hfam : Family w) (ha : Accounting w.1)
    (hring : RingInv w) (ht : Always Entry.tellsParent w.2) : Always Entry.tellsParent w'.2 := by
  cases hs with
  | begin | own | enter | put | advance | flagSelf | setTail | notified | reply =>
    exact ⟨tellsParent_of_taken rfl _, ht⟩
  | answer e b hm => exact ⟨tellsParent_of_taken (taken_answer hm) _, ht⟩
  | reserve =>
    exact ⟨tellsParent_of_taken rfl _, tellsParent_of_taken rfl _, tellsParent_of_taken rfl _, ht⟩
  | @snapshot s h c r k hr _ hk _ ho =>
    refine ⟨tellsParent_of_taken rfl _, ?_, ht⟩
    intro c' i evt hrep p hp
    obtain ⟨_, _, hx, -, rfl, rfl⟩ := reports_inv hrep
    obtain ⟨rfl, -, -, -, rfl⟩ := Entry.answer.inj hx
    -- the slot that is reported belongs to the caller, so it is in use
    have hown : s.Owns c (s.headOf c) := by
      rw [NetworkStack.headOf_eq hk]
      exact ⟨hring.head_lt k, ho⟩
    have hpar := hfam.linked _ p (ha.inUse_of_owns hown hk) hp
    exact ⟨r, s, rfl, rfl, hpar.clientId.trans hown.2, hpar⟩
  | event hcb =>
    obtain ⟨ev, -, -, hh⟩ := hcb
    rw [hh]
    exact ⟨tellsParent_of_taken rfl _, ht⟩
  | setState => exact ht

theorem Stepped.tellsParent (hw : Stepped pl cfg w) (hord : Orderly pl w.2)
    (ho : ∀ x ∈ w.2, x.leavesNoOrphan) : Always Entry.tellsParent w.2 := by
  induction hw with
  | refl => exact Trace.always_nil
  | tail hsteps hs ih =>
    obtain ⟨new, hnew⟩ := hs.suffix
    have hord' := (hnew ▸ hord).of_append
    rw [hnew] at ho
    have ho' := fun x hx ↦ ho x (List.mem_append_right _ hx)
    exact hs.tellsParent (Deeds.family (Micros.deeds hsteps hord') ho') (Stepped.accounting hsteps)
      (Stepped.ringInv hsteps) (ih hord' ho')

end

/-- **Parent handles are right** in every world of a run in which no socket is closed that is the
parent of one in use: the parent of a slot in use is still the listening socket from which its
socket was accepted, and has the same owner. So is every parent handle that a client is told in a
record, when the record is taken. -/
theorem parents_kept (hw : Visited pl sched cfg w) (ho : ∀ x ∈ w.2, x.leavesNoOrphan) :
    (∀ j, (w.1.sockets j).status = .inUse → 0 ≤ (w.1.sockets j).parentHandle →
      ∃ p : ℕ, (w.1.sockets j).parentHandle = p ∧ ParentOf w j p) ∧
    ∀ (c : ℤ) (i : ℕ) (evt : OsSocketEvt) (later earlier : History) (x : Entry),
      w.2 = later ++ x :: earlier → x.reports c i evt → 0 ≤ evt.parentSocketHandle →
      ∃ (p : ℕ) (r : RpcCall) (s : NetworkStack), x = .answer c r (.lock .stackTS) () s ∧
        evt = s.eventRecord i ∧ evt.parentSocketHandle = p ∧ (s.sockets p).clientId = c ∧
        ParentOf (s, earlier) i p := by
  refine ⟨fun j hin hp ↦ ?_, fun c i evt later earlier x hsplit hx hp ↦ ?_⟩
  · obtain ⟨p, hp⟩ := Int.eq_ofNat_of_zero_le hp
    exact ⟨p, hp, (Deeds.family hw.deeds ho).linked j p hin hp⟩
  · obtain ⟨p, hp⟩ := Int.eq_ofNat_of_zero_le hp
    have htells := (visited_stepped hw).tellsParent (visited_orderly hw) ho
    obtain ⟨r, s, hx, hevt, hid, hpar⟩ := htells.at hsplit c i evt hx p hp
    exact ⟨p, r, s, hx, hevt, hp, hid, hpar⟩

/-- The socket that client 101 has accepted knows its listening socket. -/
theorem parents_kept_sampleAccepted : ParentOf sampleAccepted 1 0 := by
  obtain ⟨hlinked, -⟩ := parents_kept (.reachable (reachable_sampleAccepted .free)) (by decide)
  obtain ⟨p, hp, hpar⟩ := hlinked 1 rfl (by decide)
  obtain rfl : 0 = p := Int.ofNat_inj.1 hp
  exact hpar

/-- Client 101 has closed its listening socket, and client 102 has created one, which got the same
handle. The accepted socket of client 101 is still open, and has data. -/
def sampleInherited : World :=
  iterate [announce 9 {.rd}] (served samplePlatform 102 (.create .inet .stream (some 0))
    (obliging (some 8) none) (fun _ w ↦ w)
    (served samplePlatform 101 (.close 0) (obliging none none) (fun _ w ↦ w) sampleAccepted))

theorem reachable_sampleInherited (sched : Schedule) :
    Reachable samplePlatform sched (sampleConfig 5) sampleInherited := by
  have hc : sampleAccepted.1.IsClient 101 := ⟨0, rfl⟩
  have hclosed : Reachable samplePlatform sched (sampleConfig 5)
      (served samplePlatform 101 (.close 0) (obliging none none) (fun _ w ↦ w) sampleAccepted) :=
    reachable_served (reachable_sampleAccepted sched) (interference_refl sched) hc rfl
  have hc' : (served samplePlatform 101 (.close 0) (obliging none none) (fun _ w ↦ w)
      sampleAccepted).1.IsClient 102 := ⟨1, rfl⟩
  exact reachable_iterate (reachable_served hclosed (interference_refl sched) hc' rfl)
    (by simp [announce])

/-- The parent handle of client 101's socket is now a socket of client 102. -/
theorem parent_lost_sampleInherited :
    ¬ ∀ (pl : Platform) (sched : Schedule) (cfg : Config) (w : World) (j : ℕ),
      Visited pl sched cfg w → (w.1.sockets j).status = .inUse →
      0 ≤ (w.1.sockets j).parentHandle →
      ∃ p : ℕ, (w.1.sockets j).parentHandle = p ∧ ParentOf w j p := by
  intro hall
  obtain ⟨p, hp, hpar⟩ := hall samplePlatform .free (sampleConfig 5) sampleInherited 1
    (.reachable (reachable_sampleInherited .free)) rfl (by decide)
  obtain rfl : 0 = p := Int.ofNat_inj.1 hp
  have hid : (102 : ℤ) = 101 := hpar.clientId
  exact absurd hid (by decide)

end NetworkStackPicoTcp
