import NetworkStackPicoTcp.Allocation.QuotaTable
import NetworkStackPicoTcp.Invariants.Rpc

/-!
# The handle table as a table with quotas

The socket table refines a `QuotaTable`: the owner of a slot in use is the client whose id it
carries. `Accounting` ties the two together, and it is an invariant of every step. It is what an RPC
needs to rely on when it begins, so with it every run is a run of `Micro` (`reachable_micros`), and
everything an RPC passes through is reached by steps as well (`visited_micros`).
-/

namespace NetworkStackPicoTcp

namespace NetworkStack

/-- The owner of a slot in use. -/
def owner (s : NetworkStack) (i : ℕ) : Option ℤ :=
  if (s.sockets i).status = .inUse then some (s.sockets i).clientId else none

/-- The slots that a client holds. -/
def held (s : NetworkStack) (c : ℤ) : Finset ℕ :=
  QuotaTable.held (Finset.range s.numberOfSockets) s.owner c

theorem owner_eq_some_iff {s : NetworkStack} {i : ℕ} {c : ℤ} :
    s.owner i = some c ↔ (s.sockets i).status = .inUse ∧ (s.sockets i).clientId = c := by
  unfold owner
  split_ifs with h <;> simp [h]

theorem mem_held {s : NetworkStack} {i : ℕ} {c : ℤ} :
    i ∈ s.held c ↔ i < s.numberOfSockets ∧ (s.sockets i).status = .inUse ∧
      (s.sockets i).clientId = c := by
  rw [held, QuotaTable.mem_held, Finset.mem_range, owner_eq_some_iff]

end NetworkStack

/-- **The books of the handle table.** A slot is in use exactly when it holds a picoTCP socket; then
it belongs to a client, and otherwise to nobody; the counters count the slots held and keep to the
quotas. -/
structure Accounting (s : NetworkStack) : Prop where
  inUse_iff : ∀ i < s.numberOfSockets,
    ((s.sockets i).status = .inUse ↔ (s.sockets i).implementationSocket ≠ none)
  owner_isClient : ∀ i < s.numberOfSockets, (s.sockets i).status = .inUse →
    s.IsClient (s.sockets i).clientId
  free_not_client : ∀ i < s.numberOfSockets, (s.sockets i).status = .free →
    ¬ s.IsClient (s.sockets i).clientId
  counter : ∀ c k, s.IsClientAt c k → (s.clients k).currentSocketsInUse = (s.held c).card
  quota : ∀ c k, s.IsClientAt c k →
    (s.clients k).currentSocketsInUse ≤ max 0 (s.clients k).socketQuota

/-! ### Steps that leave the books alone -/

/-- The tables agree on everything the books are about. -/
structure SameBooks (s s' : NetworkStack) : Prop where
  numberOfSockets : s'.numberOfSockets = s.numberOfSockets
  isClientAt : ∀ c k, s'.IsClientAt c k ↔ s.IsClientAt c k
  status : ∀ i, (s'.sockets i).status = (s.sockets i).status
  clientId : ∀ i, (s'.sockets i).clientId = (s.sockets i).clientId
  implementationSocket : ∀ i,
    (s'.sockets i).implementationSocket = (s.sockets i).implementationSocket
  counter : ∀ k, (s'.clients k).currentSocketsInUse = (s.clients k).currentSocketsInUse
  quota : ∀ k, (s'.clients k).socketQuota = (s.clients k).socketQuota

namespace SameBooks

variable {s s' : NetworkStack}

theorem isClient (h : SameBooks s s') (c : ℤ) : s'.IsClient c ↔ s.IsClient c :=
  exists_congr fun k ↦ h.isClientAt c k

theorem held (h : SameBooks s s') (c : ℤ) : s'.held c = s.held c := by
  ext i
  rw [NetworkStack.mem_held, NetworkStack.mem_held, h.numberOfSockets, h.status, h.clientId]

theorem of_sameFrame (h : SameFrame s s') : SameBooks s s' where
  numberOfSockets := h.numberOfSockets
  isClientAt c k := by rw [NetworkStack.IsClientAt, h.getClientIndexFromClientId]; rfl
  status i := (h.slot i).status
  clientId i := (h.slot i).clientId
  implementationSocket i := (h.slot i).implementationSocket
  counter := h.client_currentSocketsInUse
  quota := h.client_socketQuota

/-- An update of one slot that keeps its status, its owner and its picoTCP socket. -/
theorem of_updateSocket {i : ℕ} {f : SocketResources → SocketResources}
    (hs : (f (s.sockets i)).status = (s.sockets i).status)
    (hc : (f (s.sockets i)).clientId = (s.sockets i).clientId)
    (hp : (f (s.sockets i)).implementationSocket = (s.sockets i).implementationSocket) :
    SameBooks s (s.updateSocket i f) := by
  refine ⟨rfl, fun _ _ ↦ Iff.rfl, fun j ↦ ?_, fun j ↦ ?_, fun j ↦ ?_, fun _ ↦ rfl, fun _ ↦ rfl⟩ <;>
    rw [NetworkStack.updateSocket_sockets] <;> split_ifs with hj
  · rw [hj, hs]
  · rfl
  · rw [hj, hc]
  · rfl
  · rw [hj, hp]
  · rfl

/-- An update of one client that keeps its identity, its counter and its quota. -/
theorem of_updateClient {k : ℕ} {f : Client → Client} (hid : ∀ cl, (f cl).clientId = cl.clientId)
    (huse : ∀ cl, (f cl).inUse = cl.inUse)
    (hcount : ∀ cl, (f cl).currentSocketsInUse = cl.currentSocketsInUse)
    (hquota : ∀ cl, (f cl).socketQuota = cl.socketQuota) : SameBooks s (s.updateClient k f) := by
  refine ⟨rfl, fun _ _ ↦ NetworkStack.isClientAt_updateClient hid huse, fun _ ↦ rfl, fun _ ↦ rfl,
    fun _ ↦ rfl, fun l ↦ ?_, fun l ↦ ?_⟩ <;>
    rw [NetworkStack.updateClient_clients] <;> split_ifs with hl
  · rw [hl, hcount]
  · rfl
  · rw [hl, hquota]
  · rfl

end SameBooks

theorem Accounting.of_sameBooks {s s' : NetworkStack} (ha : Accounting s) (h : SameBooks s s') :
    Accounting s' where
  inUse_iff i hi := by
    rw [h.status, h.implementationSocket]
    exact ha.inUse_iff i (h.numberOfSockets ▸ hi)
  owner_isClient i hi := by
    rw [h.status, h.clientId, h.isClient]
    exact ha.owner_isClient i (h.numberOfSockets ▸ hi)
  free_not_client i hi := by
    rw [h.status, h.clientId, h.isClient]
    exact ha.free_not_client i (h.numberOfSockets ▸ hi)
  counter c k hk := by
    rw [h.counter, h.held]
    exact ha.counter c k ((h.isClientAt c k).1 hk)
  quota c k hk := by
    rw [h.counter, h.quota]
    exact ha.quota c k ((h.isClientAt c k).1 hk)

/-- Of all the updates of an RPC, only a release touches the books. -/
theorem sameBooks_of_ownStep {pl : Platform} {c : ℤ} {r : RpcCall} {s s' : NetworkStack}
    (h : OwnStep pl c r s s') :
    SameBooks s s' ∨ ∃ i k, s.Owns c i ∧ s.IsClientAt c k ∧ s' = s.release k i := by
  cases h with
  | release _ ho hk => exact Or.inr ⟨_, _, ho, hk, rfl⟩
  | setError _ _ _ | clearClose _ _ | clearRead _ _ | snapshot _ _ _ | create _ _ _ _
  | accepted _ _ _ _ _ _ => exact Or.inl (SameBooks.of_updateSocket rfl rfl rfl)
  | acceptPending _ _ =>
    have hf := SlotFrame.acceptPending
    exact Or.inl (SameBooks.of_updateSocket (hf _).status (hf _).clientId
      (hf _).implementationSocket)
  | adopt _ hi hj _ => exact Or.inl (SameBooks.of_updateSocket rfl (hi.2.trans hj.2.symm) rfl)
  | advanceHead _ _ | flagSelf _ _ | setTail _ _ =>
    exact Or.inl (SameBooks.of_updateClient (fun _ ↦ rfl) (fun _ ↦ rfl) (fun _ ↦ rfl) fun _ ↦ rfl)

/-! ### Taking and giving up a slot -/

namespace NetworkStack

variable {s : NetworkStack} {c c' : ℤ} {k k' i : ℕ} {p : ℕ}

theorem IsClientAt.clientId (h : s.IsClientAt c k) : (s.clients k).clientId = c :=
  (getClientIndexFromClientId_eq_some_iff.1 h).2.1.1.symm

theorem IsClientAt.nonneg (h : s.IsClientAt c k) : 0 ≤ c :=
  (getClientIndexFromClientId_eq_some_iff.1 h).1

/-- The id that `free_handle` leaves in a slot is nobody's. -/
theorem not_isClient_neg_one : ¬ s.IsClient (-1) := by
  rintro ⟨k, hk⟩
  exact absurd hk.nonneg (by omega)

theorem isClientAt_release : (s.release k i).IsClientAt c k' ↔ s.IsClientAt c k' :=
  isClientAt_updateClient (fun _ ↦ rfl) fun _ ↦ rfl

theorem isClientAt_reserve {q : PicoPtr} :
    (s.reserve k i q c').IsClientAt c k' ↔ s.IsClientAt c k' :=
  isClientAt_updateClient (fun _ ↦ rfl) fun _ ↦ rfl

theorem sockets_release_self : (s.release k i).sockets i = (s.sockets i).release := by
  simp [release]

theorem sockets_release_of_ne {j : ℕ} (hj : j ≠ i) : (s.release k i).sockets j = s.sockets j := by
  rw [release, updateSocket_sockets_of_ne hj, updateClient_sockets]

theorem sockets_reserve_self {q : PicoPtr} :
    (s.reserve k i q c).sockets i = (s.sockets i).reserve q c := by
  simp [reserve]

theorem sockets_reserve_of_ne {j : ℕ} {q : PicoPtr} (hj : j ≠ i) :
    (s.reserve k i q c).sockets j = s.sockets j := by
  rw [reserve, updateClient_sockets, updateSocket_sockets_of_ne hj]

theorem clients_release :
    (s.release k i).clients k' = if k' = k then (s.clients k).countDown else s.clients k' :=
  updateClient_clients

theorem clients_reserve {q : PicoPtr} :
    (s.reserve k i q c).clients k' = if k' = k then (s.clients k).countUp else s.clients k' :=
  updateClient_clients

/-- `free_handle` gives up the slot in the abstract table. -/
theorem owner_release : (s.release k i).owner = Function.update s.owner i none := by
  funext j
  by_cases hj : j = i
  · rw [hj, Function.update_self, owner, sockets_release_self]
    exact if_neg (by simp [SocketResources.release])
  · rw [Function.update_of_ne hj, owner, owner, sockets_release_of_ne hj]

/-- `reserve_handle` takes the slot in the abstract table. -/
theorem owner_reserve {q : PicoPtr} :
    (s.reserve k i q c).owner = Function.update s.owner i (some c) := by
  funext j
  by_cases hj : j = i
  · rw [hj, Function.update_self, owner_eq_some_iff, sockets_reserve_self]
    exact ⟨rfl, rfl⟩
  · rw [Function.update_of_ne hj, owner, owner, sockets_reserve_of_ne hj]

theorem held_release : (s.release k i).held c =
    QuotaTable.held (Finset.range s.numberOfSockets) (Function.update s.owner i none) c := by
  rw [held, owner_release]
  rfl

theorem held_reserve {q : PicoPtr} : (s.reserve k i q c').held c =
    QuotaTable.held (Finset.range s.numberOfSockets) (Function.update s.owner i (some c')) c := by
  rw [held, owner_reserve]
  rfl

end NetworkStack

section

variable {s : NetworkStack} {c : ℤ} {k i p : ℕ}

/-- Slots that carry a client's id are in use. -/
theorem Accounting.inUse_of_owns (ha : Accounting s) (ho : s.Owns c i) (hk : s.IsClientAt c k) :
    (s.sockets i).status = .inUse := by
  cases hst : (s.sockets i).status with
  | inUse => rfl
  | free =>
    have hno := ha.free_not_client i ho.1 hst
    rw [ho.2] at hno
    exact absurd ⟨k, hk⟩ hno

/-- Releasing a slot keeps the books. -/
theorem Accounting.release (ha : Accounting s) (ho : s.Owns c i) (hk : s.IsClientAt c k) :
    Accounting (s.release k i) := by
  have hin := ha.inUse_of_owns ho hk
  have hmem : i ∈ Finset.range s.numberOfSockets := Finset.mem_range.2 ho.1
  have howner : s.owner i = some c := NetworkStack.owner_eq_some_iff.2 ⟨hin, ho.2⟩
  have hclient : ∀ c', (s.release k i).IsClient c' ↔ s.IsClient c' := fun c' ↦
    exists_congr fun _ ↦ NetworkStack.isClientAt_release
  -- one slot less, one count less; nothing else about the client moves
  have hcount : ∀ c' k', s.IsClientAt c' k' →
      ((s.release k i).clients k').currentSocketsInUse = ((s.release k i).held c').card ∧
        ((s.release k i).clients k').currentSocketsInUse ≤ (s.clients k').currentSocketsInUse ∧
        ((s.release k i).clients k').socketQuota = (s.clients k').socketQuota := by
    intro c' k' hk'
    have hc' := ha.counter c' k' hk'
    rw [NetworkStack.clients_release, NetworkStack.held_release]
    split_ifs with hkk
    · obtain rfl : c' = c := by rw [← hk'.clientId, ← hk.clientId, hkk]
      have hcard := QuotaTable.card_held_free hmem howner
      rw [NetworkStack.held, ← hcard] at hc'
      rw [hkk] at hc'
      refine ⟨?_, ?_, by rw [hkk]; rfl⟩
      · simp only [Client.countDown, hc']
        omega
      · rw [hkk]
        simp only [Client.countDown]
        omega
    · have hne : some c ≠ some c' := by
        intro hcc
        obtain rfl := Option.some.inj hcc
        exact hkk (Option.some.inj (hk'.symm.trans hk))
      rw [QuotaTable.held_update_of_ne (howner ▸ hne) (by simp)]
      exact ⟨hc', le_refl _, rfl⟩
  refine ⟨fun j hj ↦ ?_, fun j hj hst ↦ ?_, fun j hj hst ↦ ?_, fun c' k' hk' ↦ ?_,
    fun c' k' hk' ↦ ?_⟩
  · by_cases hji : j = i
    · rw [hji, NetworkStack.sockets_release_self]
      simp [SocketResources.release]
    · rw [NetworkStack.sockets_release_of_ne hji]
      exact ha.inUse_iff j hj
  · by_cases hji : j = i
    · rw [hji, NetworkStack.sockets_release_self] at hst
      exact absurd hst (by simp [SocketResources.release])
    · rw [NetworkStack.sockets_release_of_ne hji] at hst ⊢
      exact (hclient _).2 (ha.owner_isClient j hj hst)
  · by_cases hji : j = i
    · rw [hji, NetworkStack.sockets_release_self]
      exact NetworkStack.not_isClient_neg_one
    · rw [NetworkStack.sockets_release_of_ne hji] at hst ⊢
      exact fun h ↦ ha.free_not_client j hj hst ((hclient _).1 h)
  · exact (hcount c' k' (NetworkStack.isClientAt_release.1 hk')).1
  · have hk'' := NetworkStack.isClientAt_release.1 hk'
    obtain ⟨-, hle, hq⟩ := hcount c' k' hk''
    rw [hq]
    exact hle.trans (ha.quota c' k' hk'')

/-- Reserving the first free slot within the quota keeps the books. -/
theorem Accounting.reserve (ha : Accounting s) (hk : s.IsClientAt c k) (hi : s.firstFree = some i)
    (hq : (s.clients k).currentSocketsInUse < (s.clients k).socketQuota) :
    Accounting (s.reserve k i (some p) c) := by
  obtain ⟨hfree, hlt, -⟩ := NetworkStack.firstFree_eq_some_iff.1 hi
  have hmem : i ∈ Finset.range s.numberOfSockets := Finset.mem_range.2 hlt
  have howner : s.owner i = none := if_neg (by rw [hfree]; simp)
  have hclient : ∀ c', (s.reserve k i (some p) c).IsClient c' ↔ s.IsClient c' := fun c' ↦
    exists_congr fun _ ↦ NetworkStack.isClientAt_reserve
  -- one slot more, one count more, within the quota
  have hcount : ∀ c' k', s.IsClientAt c' k' →
      ((s.reserve k i (some p) c).clients k').currentSocketsInUse =
          ((s.reserve k i (some p) c).held c').card ∧
        ((s.reserve k i (some p) c).clients k').currentSocketsInUse ≤
          max 0 ((s.reserve k i (some p) c).clients k').socketQuota := by
    intro c' k' hk'
    have hc' := ha.counter c' k' hk'
    rw [NetworkStack.clients_reserve, NetworkStack.held_reserve]
    split_ifs with hkk
    · obtain rfl : c' = c := by rw [← hk'.clientId, ← hk.clientId, hkk]
      rw [QuotaTable.card_held_take hmem howner]
      rw [NetworkStack.held, hkk] at hc'
      refine ⟨?_, ?_⟩
      · simp only [Client.countUp, hc']
        omega
      · simp only [Client.countUp]
        omega
    · have hne : some c ≠ some c' := by
        intro hcc
        obtain rfl := Option.some.inj hcc
        exact hkk (Option.some.inj (hk'.symm.trans hk))
      rw [QuotaTable.held_update_of_ne (by rw [howner]; simp) hne]
      exact ⟨hc', ha.quota c' k' hk'⟩
  refine ⟨fun j hj ↦ ?_, fun j hj hst ↦ ?_, fun j hj hst ↦ ?_, fun c' k' hk' ↦ ?_,
    fun c' k' hk' ↦ ?_⟩
  · by_cases hji : j = i
    · rw [hji, NetworkStack.sockets_reserve_self]
      simp [SocketResources.reserve]
    · rw [NetworkStack.sockets_reserve_of_ne hji]
      exact ha.inUse_iff j hj
  · by_cases hji : j = i
    · rw [hji, NetworkStack.sockets_reserve_self]
      exact (hclient _).2 ⟨k, hk⟩
    · rw [NetworkStack.sockets_reserve_of_ne hji] at hst ⊢
      exact (hclient _).2 (ha.owner_isClient j hj hst)
  · by_cases hji : j = i
    · rw [hji, NetworkStack.sockets_reserve_self] at hst
      exact absurd hst (by simp [SocketResources.reserve])
    · rw [NetworkStack.sockets_reserve_of_ne hji] at hst ⊢
      exact fun h ↦ ha.free_not_client j hj hst ((hclient _).1 h)
  · exact (hcount c' k' (NetworkStack.isClientAt_reserve.1 hk')).1
  · exact (hcount c' k' (NetworkStack.isClientAt_reserve.1 hk')).2

end

/-! ### Every step keeps the books -/

theorem Accounting.tableStep {pl : Platform} {s s' : NetworkStack} (ha : Accounting s)
    (h : TableStep pl s s') : Accounting s' := by
  cases h with
  | frame h => exact ha.of_sameBooks (SameBooks.of_sameFrame h)
  | own hown =>
    obtain h | ⟨i, k, ho, hk, rfl⟩ := sameBooks_of_ownStep hown
    · exact ha.of_sameBooks h
    · exact ha.release ho hk
  | reserve hk hi hq => exact ha.reserve hk hi hq
  | setState st => exact ⟨ha.inUse_iff, ha.owner_isClient, ha.free_not_client, ha.counter, ha.quota⟩

theorem Micros.accounting {pl : Platform} {w w' : World} (h : Micros pl w w')
    (ha : Accounting w.1) : Accounting w'.1 :=
  h.invariant (I := fun w ↦ Accounting w.1) (fun _ _ hs ha ↦ ha.tableStep hs.tableStep) ha

end NetworkStackPicoTcp
