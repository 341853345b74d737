import NetworkStackPicoTcp.Invariants.Conduct
import NetworkStackPicoTcp.Invariants.Delivery

/-!
# Orderly runs, entry by entry

`Micro` says which writes follow each other, and an orderly history says what the thread has done
before each of them. Here the two are put together: a `Deed` adds one entry to the history, and a
write comes with what the thread owes to it. Everything about slots that depends on what an RPC has
done before is an invariant of `Deed` (`Visited.deeds`, `Deeds.invariant`).

`Thread.Alters` is what a write makes of one slot, and `CallbackStep.slot` what a callback makes of
it.
-/

namespace NetworkStackPicoTcp

variable {pl : Platform} {sched : Schedule} {cfg : Config} {c : ℤ} {r : RpcCall} {w w' : World}

/-! ### Deeds -/

/-- One more entry of an orderly history, and what happens to the tables. -/
inductive Deed (pl : Platform) : World → World → Prop
  | begin {s : NetworkStack} {h : History} {c : ℤ} {r : RpcCall}
      (hf : (Entry.begin c r s).follows pl (thread h)) : Deed pl (s, h) (s, .begin c r s :: h)
  | own {s s' : NetworkStack} {h : History} {c : ℤ} {r : RpcCall}
      (hc : (thread h).current = some (c, r)) (hw : (thread h).MayWrite pl c r s s') :
      Deed pl (s, h) (s', .own c r s s' :: h)
  | answer {s : NetworkStack} {h : History} {c : ℤ} {r : RpcCall} (e : Call) (b : e.Answer)
      (hc : (thread h).current = some (c, r)) (ha : (thread h).Allows r s e) :
      Deed pl (s, h) (s, .answer c r e b s :: h)
  | reply {s : NetworkStack} {h : History} {c : ℤ} {r : RpcCall} {a : Reply}
      (hc : (thread h).current = some (c, r)) (hr : (thread h).Returns r a) :
      Deed pl (s, h) (s, .reply c r a s :: h)
  | event {w w' : World} (h : CallbackStep w w') : Deed pl w w'
  | notified {s : NetworkStack} {h : History} :
      Deed pl (s, h) (s.notifyClientsAboutPendingEvents.1,
        .notified s s.notifyClientsAboutPendingEvents.1 :: h)
  | setState {s : NetworkStack} {h : History} (st : StackState) :
      Deed pl (s, h) ({ s with currentState := st }, h)

/-- Any number of deeds. -/
abbrev Deeds (pl : Platform) : World → World → Prop := Relation.ReflTransGen (Deed pl)

/-- A step whose entries are in order is made of deeds. -/
theorem Micro.deeds (hs : Micro pl w w') (ho : Orderly pl w'.2) : Deeds pl w w' := by
  cases hs with
  | begin => exact .single (.begin ho.1)
  | own | advance | flagSelf | setTail => exact .single (.own ho.1.1 ho.1.2)
  | answer | enter | put => exact .single (.answer _ _ ho.1.1 ho.1.2)
  | reserve =>
    have hown : Deed pl _ _ := .own ho.2.2.1.1 ho.2.2.1.2
    have hanswer : Deed pl _ _ := .answer (.unlock .socketCB) () ho.2.1.1 ho.2.1.2
    exact .tail (.tail (.single hown) hanswer) (.own ho.1.1 ho.1.2)
  | snapshot => exact .tail (.single (.answer _ _ ho.2.1.1 ho.2.1.2)) (.own ho.1.1 ho.1.2)
  | event h => exact .single (.event h)
  | notified => exact .single .notified
  | reply => exact .single (.reply ho.1.1 ho.1.2)
  | setState st => exact .single (.setState st)

theorem Micros.deeds (h : Micros pl w w') (ho : Orderly pl w'.2) : Deeds pl w w' := by
  induction h with
  | refl => exact .refl
  | tail _ hs ih =>
    obtain ⟨new, hnew⟩ := hs.suffix
    exact (ih (hnew ▸ ho).of_append).trans (hs.deeds ho)

/-- **Every world that a run passes through is reached by deeds.** -/
theorem Visited.deeds (hw : Visited pl sched cfg w) : Deeds pl (cfg.init, []) w :=
  Micros.deeds (visited_stepped hw) (visited_orderly hw)

/-- The history grows by at most one entry. -/
theorem Deed.entries (h : Deed pl w w') : w'.2 = w.2 ∨ ∃ x, w'.2 = x :: w.2 := by
  cases h with
  | event h =>
    obtain ⟨ev, -, -, hh⟩ := h
    exact Or.inr ⟨_, hh⟩
  | setState => exact Or.inl rfl
  | _ => exact Or.inr ⟨_, rfl⟩

theorem Deed.suffix (h : Deed pl w w') : ∃ new, w'.2 = new ++ w.2 := by
  rcases h.entries with h | ⟨x, h⟩
  · exact ⟨[], h⟩
  · exact ⟨[x], h⟩

theorem Deeds.suffix (h : Deeds pl w w') : ∃ new, w'.2 = new ++ w.2 := by
  induction h with
  | refl => exact ⟨[], rfl⟩
  | tail _ hd ih =>
    obtain ⟨new, hnew⟩ := ih
    obtain ⟨x, hx⟩ := hd.suffix
    exact ⟨x ++ new, by rw [hx, hnew, List.append_assoc]⟩

/-- A run of a program whose history is orderly is made of deeds. -/
theorem deeds_of_outcome {α : Type} {p : Rpc α} {a : α}
    (hout : Prog.Outcome (rpcEnv sched c r) p w a w')
    (ho : Orderly pl w'.2) : Deeds pl w w' := by
  induction p generalizing w with
  | ret b =>
    obtain ⟨-, rfl⟩ := hout
    exact .refl
  | read g ih => exact ih w.1 hout
  | write f p ih =>
    have hds : Deeds pl ((rpcEnv sched c r).write f w) w' := ih hout
    obtain ⟨new, hnew⟩ := Deeds.suffix hds
    have hown : Orderly pl (.own c r w.1 (f w.1) :: w.2) := (hnew ▸ ho).of_append
    exact .head (.own hown.1.1 hown.1.2) hds
  | call e g ih =>
    obtain ⟨b, _, ⟨w₁, hint, rfl⟩, hout⟩ := hout
    have hds := ih b hout
    obtain ⟨new, hnew⟩ := Deeds.suffix hds
    have hanswer : Orderly pl (.answer c r e b w₁.1 :: w₁.2) := (hnew ▸ ho).of_append
    have hel : Elsewhere pl w w₁ := elsewhere_interference hint
    have hcalled : Deeds pl w w₁ := hel.micros.deeds hanswer.2
    exact hcalled.trans (.head (.answer e b hanswer.1.1 hanswer.1.2) hds)

/-- What an RPC that begins in a reachable world leaves behind, whoever calls. -/
theorem leaves_of_caller {s : NetworkStack} {h : History} {a : Reply}
    (hw : Reachable pl sched cfg (s, h))
    (hout : Prog.Outcome (rpcEnv sched c r) (rpc pl c r) (s, .begin c r s :: h) a w) :
    Leaves pl c r a w ∧ Deeds pl (cfg.init, []) w := by
  obtain ⟨ho, ht⟩ := reachable_orderly hw
  have hacc : Accounting s := (reachable_stepped hw).1.accounting
  have hleave : Leaves pl c r a w := Prog.outcome_of_wp
    (conducts_rpc (rested_begin ho ht) fun i _ hi himpl ↦ (hacc.inUse_iff i hi.1).2 himpl) hout
  have hvisited : Visited pl sched cfg (s, h) := .reachable hw
  have hbegin : Deed pl (s, h) (s, .begin c r s :: h) := .begin ⟨by rw [ht], by rw [ht]⟩
  exact ⟨hleave, (hvisited.deeds.tail hbegin).trans (deeds_of_outcome hout hleave.1.orderly)⟩

/-! ### What happens to one slot -/

/-- The thread may reserve a handle for the socket `p` that it was handed: its RPC is a `create`, or
an `accept` on a slot whose socket `p` was accepted on. -/
def Thread.MayReserve (t : Thread) (r : RpcCall) (s : NetworkStack) (p : ℕ) : Prop :=
  (∃ domain type pHandle, r = .create domain type pHandle) ∨
    ∃ (l : ℕ) (pClientHandle : Option ℤ) (srcAddr : Option OsSocketAddr) (q : PicoPtr)
      (b : PicoPtr × UInt32 × UInt16), r = .accept l pClientHandle srcAddr ∧
      t.lastCall = some ⟨.accept q, b⟩ ∧ b.1 = some p ∧
      (s.sockets l).implementationSocket = q ∧ (s.sockets l).status = .inUse

/-- What a write makes of slot `i`. -/
inductive Thread.Alters (pl : Platform) (t : Thread) (c : ℤ) (r : RpcCall) (s : NetworkStack)
    (i : ℕ) :
    SocketResources → Prop
  | same : Alters pl t c r s i (s.sockets i)
  | store {e : PicoErr} {pc : PicoCall} {b : pc.Answer} (hj : t.justRead = some e)
      (hr : r.handle = some (i : ℤ)) (hl : t.lastRead = some (e, ⟨pc, b⟩))
      (hissues : r.issues pc = true) (hsock : pc.socket = (s.sockets i).implementationSocket) :
      Alters pl t c r s i ((s.sockets i).setError (picoErr2Os e))
  | clear {bits : Finset OsSockEv}
      (hb : bits = {.close} ∨ bits = {.read} ∨ bits = oneShotEvents) :
      Alters pl t c r s i ((s.sockets i).clear bits)
  | acceptPending {q p : PicoPtr} (hr : r.handle = some (i : ℤ)) (hu : t.uncounted = some (q, p))
      (hq : (s.sockets i).implementationSocket = q) :
      Alters pl t c r s i (s.sockets i).acceptPending
  | reserve {p : ℕ} (hi : s.firstFree = some i) (hp : t.acquired = some p) (hn : t.reserved = none)
      (hfrom : t.MayReserve r s p) : Alters pl t c r s i ((s.sockets i).reserve (some p) c)
  | create {domain : SocketDomain} {type : SocketType} {pHandle : Option ℤ} {pd pt : PicoProto}
      {p : PicoPtr} {e : PicoErr} (hr : r = .create domain type pHandle) (hi : t.reserved = some i)
      (hl : t.lastRead = some (e, ⟨.socketOpen pd pt, p⟩)) (hp : p ≠ none) :
      Alters pl t c r s i
        ((s.sockets i).create i type (pl.rpcBuf c) (pl.rpcBufSize c) (picoErr2Os e))
  | adopt {l : ℕ} {pClientHandle : Option ℤ} {srcAddr : Option OsSocketAddr}
      (hr : r = .accept l pClientHandle srcAddr) (hi : t.reserved = some i) :
      Alters pl t c r s i
        { s.sockets i with parentHandle := l, clientId := (s.sockets l).clientId }
  | accepted {l : ℕ} {pClientHandle : Option ℤ} {srcAddr : Option OsSocketAddr}
      (hr : r = .accept l pClientHandle srcAddr) (hi : t.reserved = some i) :
      Alters pl t c r s i (SocketResources.accepted (s.sockets l) (s.sockets i))
  | release (hr : r = .close i) (hdone : .fin ∈ (s.sockets i).eventMask ∨
      (s.sockets i).implementationSocket ≠ none ∧ t.closed = (s.sockets i).implementationSocket) :
      Alters pl t c r s i (s.sockets i).release

section

variable {t : Thread} {s s' : NetworkStack} {i : ℕ}

theorem Thread.MayReserve.acquires {p : ℕ} (h : t.MayReserve r s p) : r.acquires = true := by
  obtain ⟨_, _, _, rfl⟩ | ⟨_, _, _, _, _, rfl, -⟩ := h <;> rfl

theorem Thread.Alters.of_updateSocket {j : ℕ} {f : SocketResources → SocketResources}
    (h : i = j → t.Alters pl c r s i (f (s.sockets i))) :
    t.Alters pl c r s i ((s.updateSocket j f).sockets i) := by
  rw [NetworkStack.updateSocket_sockets]
  split_ifs with hij
  · subst hij
    exact h rfl
  · exact .same

theorem Thread.MayWrite.alters (h : t.MayWrite pl c r s s') (i : ℕ) :
    t.Alters pl c r s i (s'.sockets i) := by
  unfold Thread.MayWrite at h
  split at h
  · rename_i e hj
    obtain ⟨l, pc, b, hs⟩ := h
    rw [hs.eq]
    refine .of_updateSocket fun hil ↦ ?_
    subst hil
    exact .store hj hs.handle hs.lastRead hs.issues hs.socket
  · cases h with
    | clear hb => exact .of_updateSocket fun _ ↦ .clear hb
    | acceptPending hr hu hq =>
      refine .of_updateSocket fun hil ↦ ?_
      subst hil
      exact .acceptPending hr hu hq
    | reserve hi hp hn hfrom =>
      refine .of_updateSocket fun hil ↦ ?_
      subst hil
      exact .reserve hi hp hn hfrom
    | countUp | advanceHead | flagSelf | setTail => exact .same
    | create hr hj he hp =>
      refine .of_updateSocket fun hil ↦ ?_
      subst hil
      exact .create hr hj he hp
    | adopt hr hj =>
      refine .of_updateSocket fun hil ↦ ?_
      subst hil
      exact .adopt hr hj
    | @accepted l j _ _ hr hj =>
      refine .of_updateSocket (f := SocketResources.accepted (s.sockets l)) fun hil ↦ ?_
      subst hil
      exact .accepted hr hj
    | @release l k hr hdone =>
      rcases eq_or_ne i l with rfl | hil
      · rw [NetworkStack.sockets_release_self]
        exact .release hr hdone
      · rw [NetworkStack.sockets_release_of_ne hil]
        exact .same

theorem Thread.MayWrite.numberOfSockets (h : t.MayWrite pl c r s s') :
    s'.numberOfSockets = s.numberOfSockets := by
  unfold Thread.MayWrite at h
  split at h
  · obtain ⟨l, pc, b, hs⟩ := h
    rw [hs.eq]
    rfl
  · cases h <;> rfl

end

/-- A callback records its event in the slot that it finds, and leaves the other slots alone. -/
theorem CallbackStep.slot (h : CallbackStep w w') (i : ℕ) :
    ∃ ev : PicoEvent, ev.socket ≠ none ∧ w'.2 = .event ev w.1 w'.1 :: w.2 ∧
      (w.1.getHandleFromImplementationSocket ev.socket ≠ some i ∧
          w'.1.sockets i = w.1.sockets i ∨
        w.1.getHandleFromImplementationSocket ev.socket = some i ∧
          w'.1.sockets i = (w.1.sockets i).recordEvent ev) := by
  obtain ⟨ev, hne, hs, hh⟩ := h
  refine ⟨ev, hne, hh, ?_⟩
  obtain ⟨hn, hs'⟩ | ⟨j, k, hj, -, hs'⟩ := NetworkStack.handlePicoSocketEvent_cases hs
  · left
    rw [hn, hs']
    exact ⟨by simp, rfl⟩
  · rw [hj, hs', NetworkStack.updateClient_sockets, NetworkStack.updateSocket_sockets]
    by_cases hij : i = j
    · right
      rw [if_pos hij, hij]
      exact ⟨rfl, rfl⟩
    · left
      rw [if_neg hij]
      exact ⟨fun h ↦ hij (Option.some.inj h).symm, rfl⟩

/-! ### Free slots and slots in use -/

/-- Nothing is left in the slot of a socket that it has held. -/
structure SocketResources.Clean (rec : SocketResources) : Prop where
  eventMask : rec.eventMask = ∅
  implementationSocket : rec.implementationSocket = none
  pendingConnections : rec.pendingConnections = 0
  connected : rec.connected = false

/-- Free slots are clean, slots in use are in the table, and so is the slot that the RPC has
reserved. -/
structure Tidy (w : World) : Prop where
  clean : ∀ i, (w.1.sockets i).status = .free → (w.1.sockets i).Clean
  inTable : ∀ i, (w.1.sockets i).status = .inUse → i < w.1.numberOfSockets
  reserved : ∀ j, (thread w.2).reserved = some j → (w.1.sockets j).status = .inUse ∧
    ∃ c r, (thread w.2).current = some (c, r) ∧ r.acquires = true

section

variable {t : Thread} {s s' : NetworkStack} {h : History} {i j : ℕ} {rec : SocketResources}

theorem SocketResources.Clean.clear (hc : rec.Clean) (bits : Finset OsSockEv) :
    (rec.clear bits).Clean :=
  ⟨by simp [SocketResources.clear, hc.eventMask], hc.implementationSocket, hc.pendingConnections,
    hc.connected⟩

theorem SocketResources.Clean.acceptPending (hc : rec.Clean) : rec.acceptPending.Clean := by
  have hdrop : rec.dropPending = rec := if_neg (by simp [hc.pendingConnections])
  rw [SocketResources.acceptPending, hdrop, if_pos hc.pendingConnections]
  exact hc.clear _

theorem Thread.reserved_of_wrote (hj : (t.wrote s s').reserved = some j) :
    t.reserved = some j ∨ (s.sockets j).status = .free ∧ (s'.sockets j).status = .inUse := by
  unfold Thread.wrote at hj
  split at hj
  · rename_i l hl
    obtain rfl := Option.some.inj hj
    have hl' := List.find?_some hl
    exact Or.inr (of_decide_eq_true hl')
  · exact Or.inl hj
  · exact Or.inl hj

/-- A slot in use is not reserved. -/
theorem Entry.not_reserves_of_inUse (hin : (s.sockets j).status = .inUse) :
    ¬ (Entry.own c r s s').reserves j := fun hres ↦
  absurd (hres.1.symm.trans hin) (by decide)

/-- A write leaves the status of a slot alone, reserves the first free slot for the socket of the
thread, or releases the slot of a `close`. -/
theorem Thread.Alters.lifecycle (ha : t.Alters pl c r s i rec) :
    rec.status = (s.sockets i).status ∨
      (∃ p, s.firstFree = some i ∧ t.acquired = some p ∧ t.reserved = none ∧ t.MayReserve r s p ∧
        rec = (s.sockets i).reserve (some p) c) ∨
      r = .close i ∧ (.fin ∈ (s.sockets i).eventMask ∨ (s.sockets i).implementationSocket ≠ none ∧
        t.closed = (s.sockets i).implementationSocket) ∧ rec = (s.sockets i).release := by
  cases ha with
  | same | store | clear | create | adopt | accepted => exact Or.inl rfl
  | acceptPending => exact Or.inl (SlotFrame.acceptPending _).status
  | reserve hi hp hn hfrom => exact Or.inr (Or.inl ⟨_, hi, hp, hn, hfrom, rfl⟩)
  | release hr hdone => exact Or.inr (Or.inr ⟨hr, hdone, rfl⟩)

/-- A slot that a write reserves has no error. -/
theorem Thread.Alters.currentError_of_free (ha : t.Alters pl c r s i rec)
    (hfree : (s.sockets i).status = .free) (hin : rec.status = .inUse) :
    rec.currentError = .success := by
  obtain hst | ⟨p, -, -, -, -, rfl⟩ | ⟨-, -, rfl⟩ := ha.lifecycle
  · exact absurd (hin.symm.trans (hst.trans hfree)) (by decide)
  · rfl
  · exact absurd hin (by simp [SocketResources.release])

/-- No write raises a bit. -/
theorem Thread.Alters.eventMask_subset (ha : t.Alters pl c r s i rec) :
    rec.eventMask ⊆ (s.sockets i).eventMask := by
  cases ha with
  | clear => exact Finset.sdiff_subset
  | acceptPending =>
    rw [SocketResources.acceptPending_eventMask]
    split_ifs
    · exact Finset.sdiff_subset
    · exact Finset.Subset.refl _
  | release => exact Finset.empty_subset _
  | same | store | reserve | create | adopt | accepted => exact Finset.Subset.refl _

/-- A write leaves a free slot clean. -/
theorem Thread.Alters.clean (ha : t.Alters pl c r s i rec)
    (hc : (s.sockets i).status = .free → (s.sockets i).Clean)
    (hres : t.reserved = some i → (s.sockets i).status = .inUse) (hf : rec.status = .free) :
    rec.Clean := by
  have hne : t.reserved = some i → (s.sockets i).status = .free → rec.Clean := fun hi hf ↦
    absurd ((hres hi).symm.trans hf) (by decide)
  cases ha with
  | same | store => exact ⟨(hc hf).1, (hc hf).2, (hc hf).3, (hc hf).4⟩
  | clear => exact (hc hf).clear _
  | acceptPending => exact (hc ((SlotFrame.acceptPending _).status.symm.trans hf)).acceptPending
  | reserve => exact absurd hf (by simp [SocketResources.reserve])
  | create _ hi | adopt _ hi | accepted _ hi => exact hne hi hf
  | release => exact ⟨rfl, rfl, rfl, rfl⟩

/-- A write takes no slot but the first free one, and gives up none but that of a `close`. -/
theorem Thread.Alters.status (ha : t.Alters pl c r s i rec) :
    rec.status = (s.sockets i).status ∨
      s.firstFree = some i ∧ r.acquires = true ∧ rec.status = .inUse ∨
      r = .close i ∧ rec.status = .free := by
  obtain hst | ⟨p, hi, -, -, hfrom, rfl⟩ | ⟨hr, -, rfl⟩ := ha.lifecycle
  · exact Or.inl hst
  · exact Or.inr (Or.inl ⟨hi, hfrom.acquires, rfl⟩)
  · exact Or.inr (Or.inr ⟨hr, rfl⟩)

theorem Tidy.own (ht : Tidy (s, h)) (hc : (thread h).current = some (c, r))
    (hw : (thread h).MayWrite pl c r s s') : Tidy (s', .own c r s s' :: h) := by
  refine ⟨fun i ↦ (hw.alters i).clean (ht.clean i) fun hi ↦ (ht.reserved i hi).1, fun i hi ↦ ?_,
    fun j hj ↦ ?_⟩
  · show i < s'.numberOfSockets
    rw [hw.numberOfSockets]
    obtain hst | ⟨hfree, -⟩ | ⟨-, hst⟩ := (hw.alters i).status
    · exact ht.inTable i (hst.symm.trans hi)
    · exact (NetworkStack.firstFree_eq_some_iff.1 hfree).2.1
    · exact absurd (hst.symm.trans hi) (by decide)
  · have hcur : ((thread h).wrote s s').current = some (c, r) := Thread.wrote_current.trans hc
    rcases Thread.reserved_of_wrote hj with hj | ⟨hfree, hin⟩
    · obtain ⟨hin, c', r', hc', hacq⟩ := ht.reserved j hj
      obtain ⟨rfl, rfl⟩ := Prod.mk.inj (Option.some.inj (hc.symm.trans hc'))
      refine ⟨?_, c, r, hcur, hacq⟩
      obtain hst | ⟨-, -, hst⟩ | ⟨rfl, -⟩ := (hw.alters j).status
      · exact hst.trans hin
      · exact hst
      · exact absurd hacq Bool.false_ne_true
    · refine ⟨hin, c, r, hcur, ?_⟩
      obtain hst | ⟨-, hacq, -⟩ | ⟨-, hst⟩ := (hw.alters j).status
      · exact absurd (hfree.symm.trans (hst.symm.trans hin)) (by decide)
      · exact hacq
      · exact absurd (hst.symm.trans hin) (by decide)

theorem Tidy.deed (ht : Tidy w) (hd : Deed pl w w') : Tidy w' := by
  cases hd with
  | begin => exact ⟨ht.clean, ht.inTable, fun j hj ↦ absurd hj (by simp [Thread.step])⟩
  | own hc hw => exact ht.own hc hw
  | answer e b =>
    refine ⟨ht.clean, ht.inTable, fun j hj ↦ ?_⟩
    rw [thread_cons, Thread.step, Thread.answered_reserved] at hj
    rw [thread_cons, Thread.step, Thread.answered_current]
    exact ht.reserved j hj
  | reply => exact ⟨ht.clean, ht.inTable, fun j hj ↦ absurd hj (by simp [Thread.step])⟩
  | event h =>
    have hf := sameFrame_callbackStep h
    refine ⟨fun i hi ↦ ?_, fun i hi ↦ ?_, fun j hj ↦ ?_⟩
    · have hfree := (hf.slot i).status.symm.trans hi
      obtain ⟨ev, hne, -, ⟨-, hsame⟩ | ⟨hl, -⟩⟩ := h.slot i
      · rw [hsame]
        exact ht.clean i hfree
      · -- the lookup finds no free slot
        obtain ⟨hsock, -⟩ := NetworkStack.getHandleFromImplementationSocket_eq_some_iff.1 hl
        exact absurd (hsock.symm.trans (ht.clean i hfree).implementationSocket) hne
    · rw [hf.numberOfSockets]
      exact ht.inTable i ((hf.slot i).status.symm.trans hi)
    · obtain ⟨ev, -, hh, -⟩ := h.slot j
      rw [hh, thread_cons] at hj ⊢
      obtain ⟨hin, hcur⟩ := ht.reserved j hj
      exact ⟨(hf.slot j).status.trans hin, hcur⟩
  | notified =>
    refine ⟨fun i hi ↦ ?_, fun i hi ↦ ?_, fun j hj ↦ ?_⟩
    · rw [NetworkStack.sockets_notify] at hi ⊢
      exact ht.clean i hi
    · rw [NetworkStack.sockets_notify] at hi
      rw [NetworkStack.sameFrame_notify.numberOfSockets]
      exact ht.inTable i hi
    · rw [NetworkStack.sockets_notify]
      exact ht.reserved j hj
  | setState => exact ⟨ht.clean, ht.inTable, ht.reserved⟩

theorem tidy_init : Tidy (cfg.init, []) :=
  ⟨fun _ _ ↦ ⟨rfl, rfl, rfl, rfl⟩,
    fun i hi ↦ absurd hi (by simp [Config.init, SocketResources.zero]),
    fun j hj ↦ absurd hj (by simp [thread])⟩

theorem Deeds.tidy (h : Deeds pl (cfg.init, []) w) : Tidy w := by
  induction h with
  | refl => exact tidy_init
  | tail _ hd ih => exact ih.deed hd

/-- What holds at first and is preserved by each deed on the way to `w` holds of `w`. The history of
`w` continues the history after each of them. -/
theorem Deeds.invariant {I : World → Prop} (h : Deeds pl (cfg.init, []) w) (h₀ : I (cfg.init, []))
    (hstep : ∀ w₁ w₂ new, Tidy w₁ → Deed pl w₁ w₂ → w.2 = new ++ w₂.2 → I w₁ → I w₂) : I w := by
  have hway : ∀ w₁, Deeds pl (cfg.init, []) w₁ → Deeds pl w₁ w → I w₁ := by
    intro w₁ hds
    induction hds with
    | refl => exact fun _ ↦ h₀
    | tail hds hd ih =>
      intro hrest
      obtain ⟨new, hnew⟩ := Deeds.suffix hrest
      exact hstep _ _ new (Deeds.tidy hds) hd hnew (ih (.head hd hrest))
  exact hway w h .refl

end

end NetworkStackPicoTcp
