import NetworkStackPicoTcp.Invariants.Lifetime
import NetworkStackPicoTcp.Invariants.Sections
import NetworkStackPicoTcp.Properties.Events

/-!
# Pending connections

`pendingConnections` counts the connections that wait on a listening socket, and CONN_ACPT tells
whether there are any. picoTCP keeps the connections themselves. The callback counts each as it
comes, and `accept` counts one less for each call of `pico_socket_accept`, whatever comes of it. As
a call that returns nothing has found nothing waiting, the count never falls below the number of
connections that wait (`pending_bounds_waiting`).
-/

namespace NetworkStackPicoTcp

open Trace (Since Always)

variable {pl : Platform} {sched : Schedule} {cfg : Config} {c : ℤ} {r : RpcCall} {w w' : World}

/-! ### The connections that wait in picoTCP -/

namespace Entry

/-- The listening socket on which a callback announces a connection. -/
def announces : Entry → PicoPtr
  | .event ev _ _ => if ev.incoming then ev.socket else none
  | _ => none

/-- The listening socket of a `pico_socket_accept`, and what it returns. -/
def acceptCall : Entry → Option (PicoPtr × PicoPtr)
  | .answer _ _ (.pico (.accept q)) b _ => some (q, b.1)
  | _ => none

/-- A client issues a `listen`. -/
def listens : Entry → Bool
  | .begin _ (.listen _ _) _ => true
  | _ => false

end Entry

/-- No `listen` has been issued since picoTCP handed out its socket `p`. -/
def Unlistened (p : ℕ) (h : History) : Prop :=
  Since (fun x ↦ x.listens = false) (fun x ↦ x.handsOut = some p) h

instance {p : ℕ} {h : History} : Decidable (Unlistened p h) :=
  inferInstanceAs (Decidable (Since _ _ h))

/-- How the numbers of connections that wait on the sockets of picoTCP may change: a connection is
announced when it starts to wait, `pico_socket_accept` takes one that waits and returns nothing only
if there is none, and none waits on a socket that does not listen yet. Connections may also
vanish. -/
structure Entry.Accounts (waiting : History → ℕ → ℕ) (x : Entry) (earlier : History) : Prop where
  arrive : ∀ p, waiting (x :: earlier) p ≤ waiting earlier p + if x.announces = some p then 1 else 0
  take : ∀ p q, x.acceptCall = some (some p, some q) →
    waiting (x :: earlier) p ≤ waiting earlier p - 1
  none : ∀ p, x.acceptCall = some (some p, none) → waiting earlier p = 0
  unlistened : ∀ p, Unlistened p (x :: earlier) → waiting (x :: earlier) p = 0

section

variable {waiting : History → ℕ → ℕ} {x : Entry} {h : History} {p : ℕ}

theorem Entry.Accounts.le (hx : x.Accounts waiting h) (hn : x.announces ≠ some p) :
    waiting (x :: h) p ≤ waiting h p := by
  have harrive := hx.arrive p
  rwa [if_neg hn, add_zero] at harrive

theorem waiting_of_unlistened (ha : Always (Entry.Accounts waiting) h) (hu : Unlistened p h) :
    waiting h p = 0 := by
  cases h with
  | nil => exact hu.elim
  | cons x h => exact ha.1.unlistened p hu

end

/-- The socket that an RPC has just been handed does not listen. -/
theorem unlistened_of_acquired {h : History} {p : ℕ} (ht : (thread h).acquired = some p) :
    Unlistened p h := by
  induction h with
  | nil => exact absurd ht (by simp [thread])
  | cons x h ih =>
    rw [thread_cons] at ht
    cases x with
    | begin | reply => exact absurd ht (by simp [Thread.step])
    | own =>
      refine Or.inr ⟨rfl, ih ?_⟩
      rw [Thread.step, Thread.wrote] at ht
      split at ht
      · exact absurd ht (by simp)
      · exact ht
      · exact ht
    | event | notified => exact Or.inr ⟨rfl, ih ht⟩
    | answer c r e b s =>
      cases e with
      | pico pc =>
        cases pc with
        | socketOpen | accept => exact Or.inl ht
        | close q =>
          refine Or.inr ⟨rfl, ih ?_⟩
          have ht' : (if (thread h).acquired = q then none else (thread h).acquired) = some p := ht
          split_ifs at ht'
          exact ht'
        | _ => exact Or.inr ⟨rfl, ih ht⟩
      | _ => exact Or.inr ⟨rfl, ih ht⟩

/-! ### What a write makes of the count -/

/-- The count of a slot, its bit and its picoTCP socket are as before. -/
structure SocketResources.SameCount (rec rec' : SocketResources) : Prop where
  pending : rec'.pendingConnections = rec.pendingConnections
  bit : .connAcpt ∈ rec'.eventMask ↔ .connAcpt ∈ rec.eventMask
  socket : rec'.implementationSocket = rec.implementationSocket

theorem SocketResources.SameCount.refl (rec : SocketResources) : rec.SameCount rec :=
  ⟨rfl, Iff.rfl, rfl⟩

theorem SocketResources.sameCount_clear {bits : Finset OsSockEv} (rec : SocketResources)
    (hb : .connAcpt ∉ bits) : rec.SameCount (rec.clear bits) := by
  refine ⟨rfl, ?_, rfl⟩
  show .connAcpt ∈ rec.eventMask \ bits ↔ _
  rw [Finset.mem_sdiff]
  exact and_iff_left hb

/-- The bit of a slot tells whether connections are pending. -/
structure SocketResources.Exact (rec : SocketResources) : Prop where
  nonneg : 0 ≤ rec.pendingConnections
  bit : .connAcpt ∈ rec.eventMask ↔ 0 < rec.pendingConnections

namespace SocketResources

variable {rec rec' : SocketResources}

theorem Exact.sameCount (h : rec.Exact) (hs : rec.SameCount rec') : rec'.Exact := by
  refine ⟨?_, ?_⟩
  · rw [hs.pending]
    exact h.nonneg
  · rw [hs.pending, hs.bit]
    exact h.bit

theorem Clean.exact (hc : rec.Clean) : rec.Exact := by
  refine ⟨hc.pendingConnections.ge, ?_⟩
  rw [hc.eventMask, hc.pendingConnections]
  simp

theorem acceptPending_pending (rec : SocketResources) : rec.acceptPending.pendingConnections =
    if 0 < rec.pendingConnections then rec.pendingConnections - 1 else rec.pendingConnections := by
  rw [acceptPending_pendingConnections, dropPending]
  split_ifs <;> rfl

theorem Exact.acceptPending (h : rec.Exact) : rec.acceptPending.Exact := by
  have hnonneg : 0 ≤ rec.acceptPending.pendingConnections := by
    have hrec := h.nonneg
    rw [acceptPending_pending]
    split_ifs <;> omega
  refine ⟨hnonneg, ?_⟩
  rw [acceptPending_eventMask]
  split_ifs with hzero
  · simp [hzero]
  · have hle : rec.acceptPending.pendingConnections ≤ rec.pendingConnections := by
      rw [acceptPending_pending]
      split_ifs <;> omega
    rw [h.bit]
    omega

theorem Exact.recordEvent (h : rec.Exact) (ev : PicoEvent) : (rec.recordEvent ev).Exact := by
  have hnonneg := h.nonneg
  have hmem : .connAcpt ∈ ev.raised ↔ ev.incoming = true := by
    simp only [PicoEvent.raised, Finset.mem_union]
    grind
  refine ⟨?_, ?_⟩
  · rw [recordEvent_pendingConnections]
    split_ifs <;> omega
  · rw [recordEvent_pendingConnections, recordEvent_eventMask, Finset.mem_union, h.bit, hmem]
    split_ifs with hin <;> simp [hin]
    omega

end SocketResources

/-- What a write makes of the count of slot `i`. -/
inductive Thread.Counts (t : Thread) (c : ℤ) (s s' : NetworkStack) (i : ℕ) : Prop
  | same (h : (s.sockets i).SameCount (s'.sockets i))
  | acceptPending {p : PicoPtr} (hu : t.uncounted = some ((s.sockets i).implementationSocket, p))
      (hnew : (t.wrote s s').uncounted = none) (h : s'.sockets i = (s.sockets i).acceptPending)
  | reserve {p : ℕ} (hi : s.firstFree = some i) (hp : t.acquired = some p)
      (h : s'.sockets i = (s.sockets i).reserve (some p) c)
  | release (h : s'.sockets i = (s.sockets i).release)

section

variable {t : Thread} {s s' : NetworkStack} {i j : ℕ}

/-- An update of a slot that leaves its count alone. -/
theorem Thread.counts_updateSocket {f : SocketResources → SocketResources}
    (hf : ∀ rec : SocketResources, rec.SameCount (f rec)) :
    t.Counts c s (s.updateSocket j f) i := by
  refine .same ?_
  rw [NetworkStack.updateSocket_sockets]
  split_ifs with hij
  · rw [hij]
    exact hf _
  · exact .refl _

theorem Thread.MayWrite.counts (h : t.MayWrite pl c r s s') (i : ℕ) : t.Counts c s s' i := by
  unfold Thread.MayWrite at h
  split at h
  · obtain ⟨l, pc, b, hs⟩ := h
    rw [hs.eq]
    exact counts_updateSocket fun _ ↦ ⟨rfl, Iff.rfl, rfl⟩
  · rename_i hj
    cases h with
    | clear hb =>
      refine counts_updateSocket fun rec ↦ rec.sameCount_clear ?_
      rcases hb with rfl | rfl | rfl <;> decide
    | @acceptPending l q p _ hu hq =>
      by_cases hil : i = l
      · subst hil
        refine .acceptPending (hu.trans (by rw [hq])) ?_ NetworkStack.updateSocket_sockets_self
        exact congrArg Thread.uncounted (wrote_of_other reservedBy_acceptPending hj)
      · refine .same ?_
        rw [NetworkStack.updateSocket_sockets_of_ne hil]
        exact .refl _
    | @reserve l p hl hp =>
      by_cases hil : i = l
      · subst hil
        exact .reserve hl hp NetworkStack.updateSocket_sockets_self
      · refine .same ?_
        rw [NetworkStack.updateSocket_sockets_of_ne hil]
        exact .refl _
    | @release l k =>
      by_cases hil : i = l
      · subst hil
        exact .release NetworkStack.sockets_release_self
      · refine .same ?_
        rw [NetworkStack.sockets_release_of_ne hil]
        exact .refl _
    | create | adopt | accepted => exact counts_updateSocket fun _ ↦ ⟨rfl, Iff.rfl, rfl⟩
    | countUp | advanceHead | flagSelf | setTail => exact .same (.refl _)

/-- A write starts no count. -/
theorem Thread.uncounted_of_wrote {q p : PicoPtr} (h : (t.wrote s s').uncounted = some (q, p)) :
    t.uncounted = some (q, p) := by
  rw [wrote] at h
  split at h
  · exact h
  · exact h
  · exact absurd h (by simp)

end

/-! ### Runs -/

/-- A write leaves the bit exact. -/
theorem Thread.Counts.exact {t : Thread} {s s' : NetworkStack} {i : ℕ} (hc : t.Counts c s s' i)
    (h : (s.sockets i).Exact) (hclean : (s.sockets i).status = .free → (s.sockets i).Clean) :
    (s'.sockets i).Exact := by
  cases hc with
  | same hs => exact h.sameCount hs
  | acceptPending _ _ hs =>
    rw [hs]
    exact h.acceptPending
  | reserve hi _ hs =>
    have hfree := hclean (NetworkStack.firstFree_eq_some_iff.1 hi).1
    rw [hs]
    refine ⟨le_rfl, ?_⟩
    show .connAcpt ∈ (s.sockets i).eventMask ↔ (0 : ℤ) < 0
    rw [hfree.eventMask]
    simp
  | release hs =>
    rw [hs]
    exact SocketResources.Clean.exact ⟨rfl, rfl, rfl, rfl⟩

/-- CONN_ACPT is set in exactly those slots that have connections pending. -/
theorem Deeds.exact (h : Deeds pl (cfg.init, []) w) (i : ℕ) : (w.1.sockets i).Exact := by
  induction h with
  | refl => exact SocketResources.Clean.exact ⟨rfl, rfl, rfl, rfl⟩
  | tail hds hd ih =>
    cases hd with
    | own _ hm => exact (hm.counts i).exact ih ((Deeds.tidy hds).clean i)
    | event hcb =>
      obtain ⟨ev, -, -, ⟨-, hs⟩ | ⟨-, hs⟩⟩ := hcb.slot i
      · rw [hs]
        exact ih
      · rw [hs]
        exact ih.recordEvent ev
    | notified =>
      rw [NetworkStack.sockets_notify]
      exact ih
    | begin | answer | reply | setState => exact ih

/-- Slot `i` counts all connections that wait on its socket; after `pico_socket_accept`, one
more. -/
structure Covers (waiting : History → ℕ → ℕ) (i : ℕ) (w : World) : Prop where
  bound : ∀ p, (w.1.sockets i).implementationSocket = some p →
    (waiting w.2 p : ℤ) ≤ (w.1.sockets i).pendingConnections
  uncounted : ∀ p b, (w.1.sockets i).implementationSocket = some p →
    (thread w.2).uncounted = some (some p, b) → interruptedAt w.2 = false →
    waiting w.2 p = 0 ∨ (waiting w.2 p : ℤ) + 1 ≤ (w.1.sockets i).pendingConnections

/-- The lookup by address finds the one slot in use that holds the socket. -/
theorem Tidy.lookup {ev : PicoEvent} {s' : NetworkStack} {i : ℕ} (ht : Tidy w)
    (hd : (Entry.event ev w.1 s').distinctSockets) (hne : ev.socket ≠ none)
    (hi : (w.1.sockets i).implementationSocket = ev.socket) :
    w.1.getHandleFromImplementationSocket ev.socket = some i := by
  have hin : ∀ j, (w.1.sockets j).implementationSocket = ev.socket →
      (w.1.sockets j).status = .inUse := by
    intro j hj
    cases hst : (w.1.sockets j).status with
    | inUse => rfl
    | free => exact absurd (hj.symm.trans (ht.clean j hst).implementationSocket) hne
  have hlt := ht.inTable i (hin i hi)
  refine NetworkStack.getHandleFromImplementationSocket_eq_some_iff.2 ⟨hi, hlt, fun j hj hsock ↦ ?_⟩
  have hij : j = i := hd j (hj.trans hlt) i hlt (hin j hsock) (hin i hi) (hsock.trans hi.symm)
  exact hj.ne hij

namespace Covers

variable {waiting : History → ℕ → ℕ} {s s' : NetworkStack} {h : History} {x : Entry} {i : ℕ}

/-- An entry that leaves the count alone. -/
theorem same (hw : Covers waiting i (s, h)) (hs : (s.sockets i).SameCount (s'.sockets i))
    (hx : ∀ p, (s.sockets i).implementationSocket = some p → waiting (x :: h) p ≤ waiting h p)
    (hu : ∀ p b, (s.sockets i).implementationSocket = some p →
      (thread (x :: h)).uncounted = some (some p, b) → interruptedAt (x :: h) = false →
      waiting (x :: h) p = 0 ∨ (waiting (x :: h) p : ℤ) + 1 ≤ (s.sockets i).pendingConnections) :
    Covers waiting i (s', x :: h) := by
  refine ⟨fun p hp ↦ ?_, fun p b hp ht hint ↦ ?_⟩
  · have hp₀ : (s.sockets i).implementationSocket = some p := hs.socket.symm.trans hp
    have hbound : (waiting h p : ℤ) ≤ (s.sockets i).pendingConnections := hw.bound p hp₀
    have hle := hx p hp₀
    show (waiting (x :: h) p : ℤ) ≤ (s'.sockets i).pendingConnections
    rw [hs.pending]
    omega
  · have hcount := hu p b (hs.socket.symm.trans hp) ht hint
    show _ ∨ _ ≤ (s'.sockets i).pendingConnections
    rw [hs.pending]
    exact hcount

/-- The thread writes without having been interrupted. -/
theorem own (hw : Covers waiting i (s, h))
    (ha : Always (Entry.Accounts waiting) (.own c r s s' :: h))
    (hint : interruptedAt h = false) (hm : (thread h).MayWrite pl c r s s') :
    Covers waiting i (s', .own c r s s' :: h) := by
  have hle : ∀ p, waiting (.own c r s s' :: h) p ≤ waiting h p :=
    fun p ↦ ha.1.le (by simp [Entry.announces])
  have hcount : ∀ p b, (s.sockets i).implementationSocket = some p →
      (thread h).uncounted = some (some p, b) →
      waiting h p = 0 ∨ (waiting h p : ℤ) + 1 ≤ (s.sockets i).pendingConnections := fun p b hp hu ↦
    hw.uncounted p b hp hu hint
  cases hm.counts i with
  | same hs =>
    refine hw.same hs (fun p _ ↦ hle p) fun p b hp hu _ ↦ ?_
    have hlep := hle p
    have hcountp := hcount p b hp (Thread.uncounted_of_wrote hu)
    omega
  | @acceptPending b hu hnew hs =>
    refine ⟨fun p hp ↦ ?_, fun p b' _ hu' _ ↦ absurd (hnew.symm.trans hu') (by simp)⟩
    have hp₀ : (s.sockets i).implementationSocket = some p := by
      rw [← (SlotFrame.acceptPending (s.sockets i)).implementationSocket, ← hs]
      exact hp
    have hbound : (waiting h p : ℤ) ≤ (s.sockets i).pendingConnections := hw.bound p hp₀
    have hlep := hle p
    have hcountp := hcount p b hp₀ (hp₀ ▸ hu)
    show (waiting (.own c r s s' :: h) p : ℤ) ≤ (s'.sockets i).pendingConnections
    rw [hs, SocketResources.acceptPending_pending]
    split_ifs <;> omega
  | @reserve q hi hq hs =>
    have hnone : waiting h q = 0 := waiting_of_unlistened ha.2 (unlistened_of_acquired hq)
    have hzero : ∀ p, (s'.sockets i).implementationSocket = some p →
        waiting (.own c r s s' :: h) p = 0 := by
      intro p hp
      rw [hs] at hp
      obtain rfl : q = p := Option.some.inj hp
      exact Nat.le_zero.1 ((hle q).trans_eq hnone)
    refine ⟨fun p hp ↦ ?_, fun p b hp _ _ ↦ Or.inl (hzero p hp)⟩
    show (waiting (.own c r s s' :: h) p : ℤ) ≤ (s'.sockets i).pendingConnections
    rw [hzero p hp, hs]
    exact le_rfl
  | release hs =>
    have hnone : (s'.sockets i).implementationSocket = none := by
      rw [hs]
      rfl
    exact ⟨fun p hp ↦ absurd (hnone.symm.trans hp) (by simp),
      fun p b hp ↦ absurd (hnone.symm.trans hp) (by simp)⟩

/-- A call returns. Only `pico_socket_accept` leaves a connection to be counted, and only the read
of `pico_err` comes before it is counted. -/
theorem answer (hw : Covers waiting i (s, h)) {e : Call} {b : e.Answer}
    (ha : Always (Entry.Accounts waiting) (.answer c r e b s :: h))
    (hrow : (Entry.answer c r e b s).inRow h) : Covers waiting i (s, .answer c r e b s :: h) := by
  have hle : ∀ p, waiting (.answer c r e b s :: h) p ≤ waiting h p :=
    fun p ↦ ha.1.le (by simp [Entry.announces])
  refine hw.same (.refl _) (fun p _ ↦ hle p) fun p b' hp hu _ ↦ ?_
  have hlep := hle p
  have hbound : (waiting h p : ℤ) ≤ (s.sockets i).pendingConnections := hw.bound p hp
  by_cases he : e = .picoErr
  · subst he
    obtain ⟨pc, hlast⟩ := hrow.1 rfl
    have hint : interruptedAt h = false := by
      cases h with
      | nil => rfl
      | cons x h => cases x <;> first | rfl | exact absurd hlast (by simp [lastAnswered])
    have hcount : waiting h p = 0 ∨ (waiting h p : ℤ) + 1 ≤ (s.sockets i).pendingConnections :=
      hw.uncounted p b' hp hu hint
    omega
  · by_cases hacc : ∃ q, e = .pico (.accept q)
    · obtain ⟨q, rfl⟩ := hacc
      obtain ⟨hq, -⟩ := Prod.mk.inj (Option.some.inj hu)
      subst hq
      rcases hb : b.1 with _ | p'
      · have hzero := ha.1.none p (congrArg (fun a ↦ some (some p, a)) hb)
        omega
      · have htake := ha.1.take p p' (congrArg (fun a ↦ some (some p, a)) hb)
        omega
    · rw [thread_cons, Thread.step,
        Thread.answered_uncounted fun q h ↦ hacc ⟨q, h⟩, hrow.2.1 he] at hu
      exact absurd hu (by simp)

/-- A callback counts the connection that it announces, in the slot of its socket. -/
theorem event (hw : Covers waiting i w) (ht : Tidy w) (hcb : CallbackStep w w')
    (ha : Always (Entry.Accounts waiting) w'.2) (hd : ∀ x ∈ w'.2, x.distinctSockets) :
    Covers waiting i w' := by
  obtain ⟨s', h'⟩ := w'
  obtain ⟨ev, hne, hh, hslot⟩ := hcb.slot i
  obtain rfl : h' = .event ev w.1 s' :: w.2 := hh
  dsimp only at ha hd hslot
  refine ⟨fun p hp ↦ ?_, fun p b _ _ hint ↦ absurd hint Bool.noConfusion⟩
  show (waiting (.event ev w.1 s' :: w.2) p : ℤ) ≤ (s'.sockets i).pendingConnections
  have harrive := ha.1.arrive p
  obtain ⟨hl, hs⟩ | ⟨hl, hs⟩ := hslot
  · have hp₀ : (w.1.sockets i).implementationSocket = some p := hs ▸ hp
    have hbound := hw.bound p hp₀
    -- the lookup would have found the slot
    have hquiet : (Entry.event ev w.1 s').announces ≠ some p := by
      intro hann
      rw [Entry.announces] at hann
      split_ifs at hann
      exact hl (ht.lookup (hd _ List.mem_cons_self) hne (hp₀.trans hann.symm))
    rw [if_neg hquiet] at harrive
    rw [hs]
    omega
  · have hp₀ : (w.1.sockets i).implementationSocket = some p := by
      rw [← SocketResources.recordEvent_implementationSocket ev, ← hs]
      exact hp
    have hbound := hw.bound p hp₀
    rw [hs, SocketResources.recordEvent_pendingConnections]
    by_cases hin : ev.incoming = true
    · rw [if_pos hin]
      split_ifs at harrive <;> omega
    · rw [Entry.announces, if_neg hin, if_neg (by simp)] at harrive
      rw [if_neg hin]
      omega

theorem deed (hw : Covers waiting i w) (ht : Tidy w) (hd : Deed pl w w')
    (ha : Always (Entry.Accounts waiting) w'.2) (hrow : Always Entry.inRow w'.2)
    (hdist : ∀ x ∈ w'.2, x.distinctSockets) : Covers waiting i w' := by
  cases hd with
  | begin | reply =>
    exact hw.same (.refl _) (fun p _ ↦ ha.1.le (by simp [Entry.announces])) fun p b _ hu ↦
      absurd hu (by simp [Thread.step])
  | own _ hm => exact hw.own ha hrow.1 hm
  | answer => exact hw.answer ha hrow.1
  | event hcb => exact hw.event ht hcb ha hdist
  | notified =>
    refine hw.same ?_ (fun p _ ↦ ha.1.le (by simp [Entry.announces])) fun p b _ _ hint ↦
      absurd hint Bool.noConfusion
    rw [NetworkStack.sockets_notify]
    exact .refl _
  | setState => exact ⟨hw.bound, hw.uncounted⟩

end Covers

theorem Deeds.covers {waiting : History → ℕ → ℕ} (h : Deeds pl (cfg.init, []) w)
    (ha : Always (Entry.Accounts waiting) w.2) (hrow : Always Entry.inRow w.2)
    (hd : DistinctSockets w.2)
    (i : ℕ) : Covers waiting i w := by
  have h₀ : Covers waiting i (cfg.init, []) :=
    ⟨fun p hp ↦ absurd hp (by simp [Config.init, SocketResources.zero]),
      fun p b hp ↦ absurd hp (by simp [Config.init, SocketResources.zero])⟩
  refine Deeds.invariant h h₀ fun w₁ w₂ new ht hs hnew hw ↦ ?_
  rw [hnew] at ha hrow hd
  exact hw.deed ht hs ha.of_append hrow.of_append hd.of_append

/-- **A connection that waits is indicated.** Under what picoTCP promises about acceptable
connections, and when handles in use have different picoTCP sockets, the pending connections of a
slot are never negative, CONN_ACPT is set exactly if there are any, and they are no fewer than the
connections that wait. -/
theorem pending_bounds_waiting {waiting : History → ℕ → ℕ} (hw : Visited pl sched cfg w)
    (hd : DistinctSockets w.2) (ha : Always (Entry.Accounts waiting) w.2) (i : ℕ) :
    0 ≤ (w.1.sockets i).pendingConnections ∧
      (.connAcpt ∈ (w.1.sockets i).eventMask ↔ 0 < (w.1.sockets i).pendingConnections) ∧
      ∀ p, (w.1.sockets i).implementationSocket = some p →
        (waiting w.2 p : ℤ) ≤ (w.1.sockets i).pendingConnections ∧
        (0 < waiting w.2 p → .connAcpt ∈ (w.1.sockets i).eventMask) := by
  have hexact := Deeds.exact hw.deeds i
  have hcovers := Deeds.covers hw.deeds ha hw.inRow hd i
  refine ⟨hexact.nonneg, hexact.bit, fun p hp ↦ ?_⟩
  have hbound := hcovers.bound p hp
  refine ⟨hbound, fun hpos ↦ hexact.bit.2 ?_⟩
  omega

/-- The connections that have been announced for the socket `p` and not been accepted, once it
listens. -/
def announced : History → ℕ → ℕ
  | [], _ => 0
  | x :: h, p =>
    if Unlistened p (x :: h) then 0
    else if x.announces = some p then announced h p + 1
    else if x.acceptCall.map Prod.fst = some (some p) then announced h p - 1
    else announced h p

/-- A picoTCP whose connections stay until they are accepted, and that returns one if there is one,
keeps its promise. -/
theorem accounts_announced {h : History}
    (hn : Always (fun x earlier ↦ ∀ a ∈ x.acceptCall, a.2 = none →
    ∀ p ∈ a.1, announced earlier p = 0) h) : Always (Entry.Accounts announced) h := by
  induction h with
  | nil => exact Trace.always_nil
  | cons x h ih =>
    refine ⟨⟨fun p ↦ ?_, fun p q hx ↦ ?_, fun p hx ↦ hn.1 _ hx rfl p rfl, fun p hu ↦ if_pos hu⟩,
      ih hn.2⟩
    · rw [announced]
      split_ifs <;> omega
    · have hquiet : x.announces ≠ some p := by
        cases x with
        | event => exact absurd hx (by simp [Entry.acceptCall])
        | _ => simp [Entry.announces]
      have htakes : x.acceptCall.map Prod.fst = some (some p) := by
        rw [hx]
        rfl
      rw [announced, if_neg hquiet, if_pos htakes]
      split_ifs
      · exact Nat.zero_le _
      · exact le_rfl

/-- Client 101 accepted on its listening socket when no connection had come in, and then one
came. -/
def sampleWaiting : World :=
  iterate [incoming 7] (served samplePlatform 101 (.accept 0 (some 0) (some ⟨.replicate 16 0, 0⟩))
    (obliging none none) (fun _ w ↦ w) sampleListening)

/-- The connection is indicated. -/
theorem pending_bounds_waiting_sampleWaiting :
    .connAcpt ∈ (sampleWaiting.1.sockets 0).eventMask := by
  have hc : sampleListening.1.IsClient 101 := ⟨0, rfl⟩
  have hw : Reachable samplePlatform .free (sampleConfig 5) sampleWaiting :=
    reachable_iterate
      (reachable_served (reachable_sampleListening .free) (interference_refl .free) hc rfl)
      (by simp [incoming])
  have ha : Always (Entry.Accounts announced) sampleWaiting.2 := accounts_announced (by decide)
  have hcounts := pending_bounds_waiting (.reachable hw) (by decide) ha 0
  exact (hcounts.2.2 7 rfl).2 (by decide)

end NetworkStackPicoTcp
