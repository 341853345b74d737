import NetworkStackPicoTcp.Invariants.Delivery

/-!
# The lifetimes of picoTCP sockets

picoTCP hands out the address of a socket, and frees the socket when it has announced so. Then it
may hand out the same address for another one, while a slot of the table still holds it for the
socket that is gone. So an address says little, and what matters is told by the history: whether the
socket that a slot was reserved for has been freed since (`Alive`).

The lookup by address finds the first slot. A slot whose socket is alive is found as long as no
handle has been reserved behind a slot that held the same address (`Stepped.routes`).
-/

namespace NetworkStackPicoTcp

open Trace (Since Always)

variable {pl : Platform} {cfg : Config} {c : ℤ} {r : RpcCall} {i p : ℕ}

/-! ### Sockets in the history -/

/-- The picoTCP socket that the entry hands out, if it hands out one. -/
def Entry.handsOut : Entry → PicoPtr
  | .answer _ _ e b _ => obtainedBy e b none
  | _ => none

/-- A picoTCP socket at address `p` has been handed out and not been freed since. -/
def Live (p : ℕ) (h : History) : Prop :=
  Since (fun x ↦ x.frees (some p) = false) (fun x ↦ x.handsOut = some p) h

/-- The picoTCP socket at address `p` that slot `i` was last reserved for was live then, and has not
been freed since. -/
def Alive (i p : ℕ) : History → Prop
  | [] => False
  | x :: earlier => x.reserves i ∧ Live p earlier ∨
      ¬ x.reserves i ∧ x.frees (some p) = false ∧ Alive i p earlier

/-- picoTCP does not hand out the address of a live socket. -/
def Fresh (h : History) : Prop :=
  Always (fun x earlier ↦ ∀ p ∈ x.handsOut, ¬ Live p earlier) h

/-- If the entry reserves a slot for a live socket, then no slot below it holds the same address. -/
def Entry.unshadowed : Entry → History → Prop
  | .own _ _ s s', earlier => ∀ i < s.numberOfSockets, (s.sockets i).status = .free →
      (s'.sockets i).status = .inUse → ∀ p ∈ (s'.sockets i).implementationSocket, Live p earlier →
      ∀ j < i, (s.sockets j).implementationSocket ≠ some p
  | _, _ => True

/-- No slot has been reserved for a live socket behind a slot that held the same address. -/
def Unshadowed (h : History) : Prop := Always Entry.unshadowed h

instance {h : History} : Decidable (Live p h) :=
  inferInstanceAs (Decidable (Since _ _ h))

instance {h : History} : Decidable (Fresh h) :=
  inferInstanceAs (Decidable (Always (fun x earlier ↦ ∀ p ∈ x.handsOut, ¬ Live p earlier) h))

instance decidableUnshadowed (x : Entry) (earlier : History) : Decidable (x.unshadowed earlier) :=
  match x with
  | .own _ _ s s' => inferInstanceAs (Decidable (∀ i < s.numberOfSockets,
      (s.sockets i).status = .free → (s'.sockets i).status = .inUse →
      ∀ p ∈ (s'.sockets i).implementationSocket, Live p earlier →
      ∀ j < i, (s.sockets j).implementationSocket ≠ some p))
  | .begin .. | .answer .. | .event .. | .notified .. | .reply .. => .isTrue trivial

instance {h : History} : Decidable (Unshadowed h) :=
  inferInstanceAs (Decidable (Always Entry.unshadowed h))

instance decidableReserves : DecidablePred (Entry.reserves i)
  | .own _ _ s s' => inferInstanceAs
      (Decidable ((s.sockets i).status = .free ∧ (s'.sockets i).status = .inUse))
  | .begin .. | .answer .. | .event .. | .notified .. | .reply .. => .isFalse id

instance decidableAlive : DecidablePred (Alive i p)
  | [] => .isFalse id
  | x :: earlier =>
    have := decidableAlive earlier
    inferInstanceAs (Decidable (x.reserves i ∧ Live p earlier ∨
      ¬ x.reserves i ∧ x.frees (some p) = false ∧ Alive i p earlier))

section

variable {x : Entry} {h : History} {s s' : NetworkStack} {w w' : World}

theorem alive_of_cons (hx : ¬ x.reserves i) (ha : Alive i p (x :: h)) : Alive i p h := by
  rcases ha with ⟨hres, -⟩ | ⟨-, -, ha⟩
  · exact absurd hres hx
  · exact ha

theorem live_of_reserves (hx : x.reserves i) (hl : Live p h) : Live p (x :: h) := by
  cases x with
  | own => exact Or.inr ⟨rfl, hl⟩
  | _ => exact hx.elim

/-- The address of a slot's live socket is that of a live socket. -/
theorem Alive.live (ha : Alive i p h) : Live p h := by
  induction h with
  | nil => exact ha.elim
  | cons x h ih =>
    rcases ha with ⟨hres, hl⟩ | ⟨-, hfree, ha⟩
    · exact live_of_reserves hres hl
    · exact Or.inr ⟨hfree, ih ha⟩

/-- Apart from `reserve_handle`, no write puts an address into a slot. -/
theorem OwnStep.implementationSocket_of (ho : OwnStep pl c r s s')
    (hp : (s'.sockets i).implementationSocket = some p) :
    (s.sockets i).implementationSocket = some p := by
  rcases sameBooks_of_ownStep ho with hsame | ⟨j, k, -, -, rfl⟩
  · rw [← hsame.implementationSocket i]
    exact hp
  · rcases eq_or_ne i j with rfl | hij
    · rw [NetworkStack.sockets_release_self] at hp
      exact absurd hp (by simp [SocketResources.release])
    · rwa [NetworkStack.sockets_release_of_ne hij] at hp

/-- A pending socket has just been handed out, or it was pending before. -/
theorem pendingBy_eq_some {e : Call} {b : e.Answer} {q : PicoPtr} (h : pendingBy e b q = some p) :
    obtainedBy e b none = some p ∨ q = some p := by
  cases e with
  | pico pc =>
    cases pc with
    | socketOpen | accept => exact Or.inl h
    | _ => exact Or.inr h
  | unlock m =>
    cases m with
    | stackTS => exact Or.inr h
    | socketCB => exact absurd h (by simp [pendingBy])
  | _ => exact Or.inr h

/-! ### The first slot with an address -/

/-- A slot whose socket is alive is the first with its address, and the socket for which a handle is
about to be reserved is in no slot yet. -/
structure Routes (w : World) : Prop where
  first : ∀ i < w.1.numberOfSockets, ∀ p, (w.1.sockets i).implementationSocket = some p →
    Alive i p w.2 → ∀ j < i, (w.1.sockets j).implementationSocket ≠ some p
  unheld : ∀ p, pending w.2 = some p → ∀ i < w.1.numberOfSockets,
    (w.1.sockets i).implementationSocket = some p → ¬ Alive i p w.2

namespace Routes

/-- A step that reserves no slot, and hands out fresh sockets only. -/
theorem same (hw : Routes w) (hn : w'.1.numberOfSockets = w.1.numberOfSockets)
    (hsock : ∀ i p, (w'.1.sockets i).implementationSocket = some p →
      (w.1.sockets i).implementationSocket = some p)
    (halive : ∀ i p, Alive i p w'.2 → Alive i p w.2)
    (hpend : ∀ p, pending w'.2 = some p →
      pending w.2 = some p ∨ ¬ Live p w.2) : Routes w' := by
  refine ⟨fun i hi p hp ha j hj hpj ↦ ?_, fun p hp i hi hsi ha ↦ ?_⟩
  · exact hw.first i (hn ▸ hi) p (hsock i p hp) (halive i p ha) j hj (hsock j p hpj)
  · rcases hpend p hp with hp | hdead
    · exact hw.unheld p hp i (hn ▸ hi) (hsock i p hsi) (halive i p ha)
    · exact hdead (halive i p ha).live

/-- An entry that is no call and reserves no slot. -/
theorem cons (hw : Routes (s, h)) (hn : s'.numberOfSockets = s.numberOfSockets)
    (hsock : ∀ i p, (s'.sockets i).implementationSocket = some p →
      (s.sockets i).implementationSocket = some p)
    (hx : ∀ i, ¬ x.reserves i)
    (hpend : ∀ p, pending (x :: h) = some p →
      pending h = some p) : Routes (s', x :: h) :=
  hw.same hn hsock (fun i _ ↦ alive_of_cons (hx i)) fun p hp ↦ Or.inl (hpend p hp)

theorem answer (hw : Routes (s, h)) {e : Call} {b : e.Answer}
    (hf : Fresh (.answer c r e b s :: h)) : Routes (s, .answer c r e b s :: h) := by
  refine hw.same rfl (fun _ _ hp ↦ hp) (fun i p ↦ alive_of_cons id) fun p hp ↦ ?_
  rcases pendingBy_eq_some hp with hnew | hold
  · exact Or.inr (hf.1 p hnew)
  · exact Or.inl hold

theorem own (pl : Platform) (hw : Routes (s, h)) (ho : OwnStep pl c r s s') :
    Routes (s', .own c r s s' :: h) :=
  hw.cons (TableStep.own ho).sameSetup.numberOfSockets (fun _ _ ↦ ho.implementationSocket_of)
    (fun _ ↦ ho.not_reserves) fun _ ↦ id

theorem frame (hw : Routes (s, h)) (hf : SameFrame s s') (hx : ∀ i, ¬ x.reserves i)
    (hpend : pending (x :: h) = pending h) : Routes (s', x :: h) :=
  hw.cons hf.numberOfSockets (fun i _ hp ↦ (hf.slot i).implementationSocket.symm.trans hp) hx
    fun _ hp ↦ hpend.symm.trans hp

/-- The first free slot is reserved for the pending socket. -/
theorem reserve {k p : ℕ} (hw : Routes (s, h)) (hi : s.firstFree = some i)
    (hp : pending h = some p)
    (hu : (Entry.own c r s
      (s.updateSocket i (SocketResources.reserve (some p) c))).unshadowed h) :
    Routes (s.reserve k i (some p) c,
      .own c r (s.updateSocket i (SocketResources.reserve (some p) c)) (s.reserve k i (some p) c) ::
      .answer c r (.unlock .socketCB) () (s.updateSocket i (SocketResources.reserve (some p) c)) ::
      .own c r s (s.updateSocket i (SocketResources.reserve (some p) c)) :: h) := by
  obtain ⟨hfree, hlt, -⟩ := NetworkStack.firstFree_eq_some_iff.1 hi
  have hself : ((s.updateSocket i (SocketResources.reserve (some p) c)).sockets i) =
      (s.sockets i).reserve (some p) c := NetworkStack.updateSocket_sockets_self
  -- of the three entries only the oldest reserves a slot, and that is `i`
  have hcount : ∀ j, ¬ (Entry.own c r (s.updateSocket i (SocketResources.reserve (some p) c))
      (s.reserve k i (some p) c)).reserves j := by
    rintro j ⟨hfree', hin'⟩
    exact absurd (hfree'.symm.trans hin') (by decide)
  have hres : ∀ j, j ≠ i →
      ¬ (Entry.own c r s (s.updateSocket i (SocketResources.reserve (some p) c))).reserves j := by
    rintro j hj ⟨hfree', hin'⟩
    rw [NetworkStack.updateSocket_sockets_of_ne hj] at hin'
    exact absurd (hfree'.symm.trans hin') (by decide)
  refine ⟨fun j hj q hq ha l hl ↦ ?_, fun q hq ↦ ?_⟩
  · have ha₁ : Alive j q
        (.own c r s (s.updateSocket i (SocketResources.reserve (some p) c)) :: h) :=
      alive_of_cons id (alive_of_cons (hcount j) ha)
    rcases eq_or_ne j i with rfl | hji
    · -- the new slot: nothing below it holds the address
      have hq' : some p = some q := by
        rw [NetworkStack.sockets_reserve_self] at hq
        exact hq
      obtain rfl := Option.some.inj hq'
      have hlive : Live p h := by
        rcases ha₁ with ⟨-, hlive⟩ | ⟨hno, -⟩
        · exact hlive
        · exact absurd ⟨hfree, by rw [hself]; rfl⟩ hno
      rw [NetworkStack.sockets_reserve_of_ne (Nat.ne_of_lt hl)]
      exact hu j hlt hfree (by rw [hself]; rfl) p (by rw [hself]; rfl) hlive l hl
    · -- another slot: its socket is not the one that was pending
      rw [NetworkStack.sockets_reserve_of_ne hji] at hq
      have ha₀ := alive_of_cons (hres j hji) ha₁
      rcases eq_or_ne l i with rfl | hli
      · rw [NetworkStack.sockets_reserve_self]
        intro hpq
        have hpq' : some p = some q := hpq
        exact hw.unheld q (hp.trans hpq') j hj hq ha₀
      · rw [NetworkStack.sockets_reserve_of_ne hli]
        exact hw.first j hj q hq ha₀ l hl
  · exact absurd hq (by simp [pending, pendingBy])

theorem micro (hw : Routes w) (hs : Micro pl w w') (hf : Fresh w'.2) (hu : Unshadowed w'.2) :
    Routes w' := by
  cases hs with
  | begin =>
    exact hw.cons rfl (fun _ _ hp ↦ hp) (fun _ ↦ id) fun _ hp ↦ absurd hp (by simp [pending])
  | reply => exact hw.frame (SameFrame.refl _) (fun _ ↦ id) rfl
  | own _ ho => exact hw.own pl ho
  | reserve _ _ hi _ hp => exact hw.reserve hi hp hu.2.2.1
  | answer | enter | put => exact hw.answer hf
  | snapshot hr _ hk _ ho => exact (hw.answer hf.2).own pl (.snapshot hr hk ho)
  | advance hr _ hk => exact hw.own pl (.advanceHead hr hk)
  | flagSelf hr _ hk => exact hw.own pl (.flagSelf hr hk)
  | setTail hr _ hk => exact hw.own pl (.setTail hr hk)
  | event hcb =>
    have hframe := sameFrame_callbackStep hcb
    obtain ⟨ev, -, -, hh⟩ := hcb
    have hnext : Routes (w'.1, .event ev w.1 w'.1 :: w.2) := hw.frame hframe (fun _ ↦ id) rfl
    rwa [← hh] at hnext
  | notified => exact hw.frame NetworkStack.sameFrame_notify (fun _ ↦ id) rfl
  | setState => exact ⟨hw.first, hw.unheld⟩

end Routes

/-- **A slot whose socket is alive is the first with its address**, in every world that steps lead
to, if picoTCP hands out fresh sockets and no slot has been reserved behind one with the same
address. -/
theorem Stepped.routes (h : Stepped pl cfg w) (hf : Fresh w.2) (hu : Unshadowed w.2) :
    Routes w := by
  induction h with
  | refl => exact ⟨fun _ _ _ _ ha ↦ ha.elim, fun _ hp ↦ absurd hp (by simp [pending])⟩
  | tail _ hs ih =>
    obtain ⟨new, hnew⟩ := hs.suffix
    exact (ih (hnew ▸ hf).of_append (hnew ▸ hu).of_append).micro hs hf hu

end

end NetworkStackPicoTcp
