import Mathlib.Algebra.BigOperators.Ring.Finset
import NetworkStackPicoTcp.Invariants.Reachable
import NetworkStackPicoTcp.Model.Simulate

/-!
# The handle table keeps its books

What the accounting invariant says about runs: the counters are right and within the quotas, a slot
is in use exactly when it holds a picoTCP socket, its owner is then a client, and so the callback
never follows a `NULL` client pointer. All of this holds in every world that a run passes through,
for every schedule.
-/

namespace NetworkStackPicoTcp

variable {pl : Platform} {sched : Schedule} {cfg : Config}

/-- The callback finds the owner of the slot it updates. -/
theorem Accounting.handlePicoSocketEvent_ne_none {s : NetworkStack} (ha : Accounting s)
    {ev : PicoEvent} (hev : ev.socket ≠ none) : s.handlePicoSocketEvent ev ≠ none := by
  have howner : ∀ i, s.getHandleFromImplementationSocket ev.socket = some i →
      s.IsClient (s.sockets i).clientId := by
    intro i hi
    obtain ⟨hp, hlt, -⟩ := NetworkStack.getHandleFromImplementationSocket_eq_some_iff.1 hi
    refine ha.owner_isClient i hlt ((ha.inUse_iff i hlt).2 ?_)
    rw [hp]
    exact hev
  obtain ⟨s', hs'⟩ := NetworkStack.handlePicoSocketEvent_isSome howner
  rw [hs']
  exact Option.some_ne_none s'

/-- The slots of an in-use client, counted the way the source describes them. -/
theorem NetworkStack.held_eq_filter (s : NetworkStack) (c : ℤ) :
    s.held c = (Finset.range s.numberOfSockets).filter fun i ↦
      (s.sockets i).status = .inUse ∧ (s.sockets i).clientId = c := by
  ext i
  rw [mem_held, Finset.mem_filter, Finset.mem_range]

/-- **Accounting and ownership**, wherever a run has got to: every in-use client's counter counts
its slots and lies between zero and its quota; a slot is in use exactly when it holds a picoTCP
socket, and then it belongs to an in-use client; and no callback for a socket that is not `NULL`
dereferences a `NULL` client. -/
theorem accounting_of_visited {w : World} (h : Visited pl sched cfg w) :
    (∀ k < w.1.numberOfClients, (w.1.clients k).inUse = true →
      (w.1.clients k).currentSocketsInUse =
          ((Finset.range w.1.numberOfSockets).filter fun i ↦ (w.1.sockets i).status = .inUse ∧
            (w.1.sockets i).clientId = (w.1.clients k).clientId).card ∧
        0 ≤ (w.1.clients k).currentSocketsInUse ∧
        (w.1.clients k).currentSocketsInUse ≤ max 0 (w.1.clients k).socketQuota) ∧
    (∀ i < w.1.numberOfSockets,
      ((w.1.sockets i).status = .inUse ↔ (w.1.sockets i).implementationSocket ≠ none) ∧
      ((w.1.sockets i).status = .inUse → ∃ k < w.1.numberOfClients,
        (w.1.clients k).inUse = true ∧ (w.1.clients k).clientId = (w.1.sockets i).clientId)) ∧
    ∀ ev : PicoEvent, ev.socket ≠ none → w.1.handlePicoSocketEvent ev ≠ none := by
  have hw := visited_stepped h
  have ha := hw.accounting
  refine ⟨fun k _ huse ↦ ?_, fun i hi ↦ ⟨ha.inUse_iff i hi, fun hst ↦ ?_⟩,
    fun ev hev ↦ ha.handlePicoSocketEvent_ne_none hev⟩
  · have hk := hw.isClientAt huse
    have hcount := ha.counter _ k hk
    rw [← NetworkStack.held_eq_filter]
    refine ⟨hcount, ?_, ha.quota _ k hk⟩
    rw [hcount]
    exact Int.natCast_nonneg _
  · obtain ⟨k, hk⟩ := ha.owner_isClient i hi hst
    obtain ⟨-, ⟨hid, huse⟩, hlt, -⟩ := NetworkStack.getClientIndexFromClientId_eq_some_iff.1 hk
    exact ⟨k, hlt, huse, hid.symm⟩

/-- Client 101 has created a stream socket. -/
def sampleCreated : World :=
  served samplePlatform 101 (.create .inet .stream (some 0)) (obliging (some 7) none) (fun _ w ↦ w)
    ((sampleConfig 5).init, [])

theorem reachable_sampleCreated (sched : Schedule) :
    Reachable samplePlatform sched (sampleConfig 5) sampleCreated :=
  reachable_served .refl (interference_refl sched) ⟨0, rfl⟩ rfl

/-- Client 101's socket is connected. -/
def sampleConnected : World := iterate [announce 7 {.conn}] sampleCreated

theorem reachable_sampleConnected (sched : Schedule) :
    Reachable samplePlatform sched (sampleConfig 5) sampleConnected :=
  reachable_iterate (reachable_sampleCreated sched) (by simp [announce])

theorem accounting_of_visited_sampleCreated :
    (sampleCreated.1.clients 0).currentSocketsInUse = 1 ∧
      (sampleCreated.1.clients 0).currentSocketsInUse ≤
        max 0 (sampleCreated.1.clients 0).socketQuota := by
  obtain ⟨hcount, -, -⟩ := accounting_of_visited (.reachable (reachable_sampleCreated .free))
  obtain ⟨h, -, hle⟩ := hcount 0 (by decide) (by decide)
  exact ⟨h.trans (by decide), hle⟩

/-! ### Quotas are guarantees -/

/-- `reserve_handle` for the client at index `k`, as a function of the tables. -/
def NetworkStack.reserveResult (s : NetworkStack) (k : ℕ) (p : PicoPtr) (c : ℤ) :
    Option ℕ × NetworkStack :=
  if (s.clients k).socketQuota ≤ (s.clients k).currentSocketsInUse then (none, s)
  else match s.firstFree with
    | none => (none, s)
    | some i => (some i, s.reserve k i p c)

section

variable {c caller : ℤ} {r : RpcCall} {k i : ℕ} {p : PicoPtr}

/-- The program `reserve_handle` has one run, which computes `reserveResult`. -/
theorem wp_reserveHandle {w : World} (sched : Schedule) (caller : ℤ) (r : RpcCall) (p : PicoPtr)
    (hk : w.1.IsClientAt c k) :
    ∃ h', ∀ Q : Option ℕ → World → Prop,
      Prog.wp (rpcEnv sched caller r) (fun _ _ ↦ True) (reserveHandle p c) Q w ↔
        Q (w.1.reserveResult k p c).1 ((w.1.reserveResult k p c).2, h') := by
  have hk' : w.1.getClientIndexFromClientId c = some k := hk
  have huse : (w.1.clients k).inUse = true :=
    (NetworkStack.getClientIndexFromClientId_eq_some_iff.1 hk').2.1.2
  simp only [reserveHandle, NetworkStack.reserveResult, Prog.wp_bind, Prog.wp_get, hk', huse,
    Bool.true_eq_false, if_false, wp_request_quiet quiet_lock_socketCB, true_and]
  set locked : History := .answer caller r (.lock .socketCB) () w.1 :: w.2
  split_ifs with hq
  · refine ⟨.answer caller r (.unlock .socketCB) () w.1 :: locked, fun Q ↦ ?_⟩
    simp only [Prog.wp_bind, wp_request_quiet quiet_unlock_socketCB, Prog.wp_pure, true_and]
    exact ⟨fun h ↦ h () (), fun h _ _ ↦ h⟩
  · cases w.1.firstFree with
    | none =>
      refine ⟨.answer caller r (.unlock .socketCB) () w.1 :: locked, fun Q ↦ ?_⟩
      simp only [Prog.wp_bind, wp_request_quiet quiet_unlock_socketCB, Prog.wp_pure, true_and]
      exact ⟨fun h ↦ h () (), fun h _ _ ↦ h⟩
    | some i =>
      let s₁ := w.1.updateSocket i (SocketResources.reserve p c)
      refine ⟨.own caller r s₁ (w.1.reserve k i p c) ::
        .answer caller r (.unlock .socketCB) () s₁ :: .own caller r w.1 s₁ :: locked, fun Q ↦ ?_⟩
      simp only [Prog.wp_bind, Prog.wp_modify, wp_request_quiet quiet_unlock_socketCB, Prog.wp_pure,
        true_and]
      exact ⟨fun h ↦ h () (), fun h _ _ ↦ h⟩

/-- `reserve_handle` returns. -/
theorem exists_outcome_reserveHandle {w : World} (hk : w.1.IsClientAt c k) :
    ∃ a w', Prog.Outcome (rpcEnv sched caller r) (reserveHandle p c) w a w' := by
  obtain ⟨h', hwp⟩ := wp_reserveHandle sched caller r p hk
  rw [Prog.exists_outcome_iff, hwp]
  exact id

theorem outcome_reserveHandle {w w' : World} {a : Option ℕ} (hk : w.1.IsClientAt c k)
    (ho : Prog.Outcome (rpcEnv sched caller r) (reserveHandle p c) w a w') :
    a = (w.1.reserveResult k p c).1 ∧ w'.1 = (w.1.reserveResult k p c).2 := by
  obtain ⟨h', hwp⟩ := wp_reserveHandle sched caller r p hk
  exact Prog.outcome_of_wp ((hwp fun a w' ↦ a = (w.1.reserveResult k p c).1 ∧
    w'.1 = (w.1.reserveResult k p c).2).2 ⟨rfl, rfl⟩) ho

/-- What `reserve_handle` returns and changes. -/
theorem NetworkStack.reserveResult_cases (s : NetworkStack) (k : ℕ) (p : PicoPtr) (c : ℤ) :
    (s.Refuses k ∧ s.reserveResult k p c = (none, s)) ∨
      ∃ i, (s.clients k).currentSocketsInUse < (s.clients k).socketQuota ∧ s.firstFree = some i ∧
        s.reserveResult k p c = (some i, s.reserve k i p c) := by
  unfold reserveResult
  split_ifs with hq
  · exact Or.inl ⟨Or.inl hq, rfl⟩
  · cases hf : s.firstFree with
    | none => exact Or.inl ⟨Or.inr hf, rfl⟩
    | some i => exact Or.inr ⟨i, not_le.1 hq, rfl, rfl⟩

/-- The index of the client that owns slot `i`. -/
def NetworkStack.ownerIndex (s : NetworkStack) (i : ℕ) : Option ℕ :=
  (s.owner i).bind s.getClientIndexFromClientId

/-- The slots of a client are the slots of its index. -/
theorem NetworkStack.held_ownerIndex {s : NetworkStack} {l : ℕ}
    (hl : s.IsClientAt (s.clients l).clientId l) :
    QuotaTable.held (Finset.range s.numberOfSockets) s.ownerIndex l =
      s.held (s.clients l).clientId := by
  ext i
  rw [QuotaTable.mem_held, NetworkStack.held, QuotaTable.mem_held, ownerIndex,
    Option.bind_eq_some_iff]
  refine and_congr_right fun _ ↦ ⟨?_, fun ho ↦ ⟨_, ho, hl⟩⟩
  rintro ⟨c, hc, hcl⟩
  rw [hc, ← NetworkStack.IsClientAt.clientId hcl]

theorem NetworkStack.inUse_of_ownerIndex {s : NetworkStack} {i l : ℕ}
    (h : s.ownerIndex i = some l) :
    l < s.numberOfClients ∧ (s.clients l).inUse = true := by
  obtain ⟨c, -, hcl⟩ := Option.bind_eq_some_iff.1 h
  obtain ⟨-, ⟨-, hin⟩, hln, -⟩ := NetworkStack.getClientIndexFromClientId_eq_some_iff.1 hcl
  exact ⟨hln, hin⟩

theorem Accounting.free_of_ownerIndex {s : NetworkStack} (ha : Accounting s) {i : ℕ}
    (hi : i < s.numberOfSockets) (hnone : s.ownerIndex i = none) :
    (s.sockets i).status = .free := by
  cases hst : (s.sockets i).status with
  | free => rfl
  | inUse =>
    obtain ⟨l, hl⟩ := ha.owner_isClient i hi hst
    have hbind : s.ownerIndex i = some l :=
      Option.bind_eq_some_iff.2 ⟨_, NetworkStack.owner_eq_some_iff.2 ⟨hst, rfl⟩, hl⟩
    rw [hnone] at hbind
    exact absurd hbind (by simp)

/-- If the quotas fit into the table, a client below its quota finds a free slot. -/
theorem Accounting.exists_free {s : NetworkStack} (ha : Accounting s)
    (hat : ∀ k, (s.clients k).inUse = true → s.IsClientAt (s.clients k).clientId k)
    (hnonneg : ∀ k < s.numberOfClients, (s.clients k).inUse = true → 0 ≤ (s.clients k).socketQuota)
    (hfit : ∑ k ∈ (Finset.range s.numberOfClients).filter fun k ↦ (s.clients k).inUse = true,
      (s.clients k).socketQuota ≤ s.numberOfSockets)
    (hk : k < s.numberOfClients) (huse : (s.clients k).inUse = true)
    (hlt : (s.clients k).currentSocketsInUse < (s.clients k).socketQuota) :
    ∃ i < s.numberOfSockets, (s.sockets i).status = .free := by
  set clients := (Finset.range s.numberOfClients).filter fun k ↦ (s.clients k).inUse = true
  have hmem : ∀ {l}, l ∈ clients ↔ l < s.numberOfClients ∧ (s.clients l).inUse = true := by
    intro l
    rw [Finset.mem_filter, Finset.mem_range]
  have hcard : ∀ l, (s.clients l).inUse = true → (s.clients l).currentSocketsInUse =
      (QuotaTable.held (Finset.range s.numberOfSockets) s.ownerIndex l).card := by
    intro l hl
    rw [NetworkStack.held_ownerIndex (hat l hl)]
    exact ha.counter _ l (hat l hl)
  have hkept : ∀ l ∈ clients,
      (QuotaTable.held (Finset.range s.numberOfSockets) s.ownerIndex l).card ≤
        (s.clients l).socketQuota.toNat := by
    intro l hl
    obtain ⟨hln, hin⟩ := hmem.1 hl
    have hle := ha.quota _ l (hat l hin)
    have h0 := hnonneg l hln hin
    rw [hcard l hin] at hle
    omega
  -- the library counts in `ℕ`, the quotas are `int`s
  have hsum : ∑ l ∈ clients, (s.clients l).socketQuota.toNat ≤
      (Finset.range s.numberOfSockets).card := by
    have hcast : ((∑ l ∈ clients, (s.clients l).socketQuota.toNat : ℕ) : ℤ) =
        ∑ l ∈ clients, (s.clients l).socketQuota := by
      rw [Nat.cast_sum]
      refine Finset.sum_congr rfl fun l hl ↦ Int.toNat_of_nonneg ?_
      exact hnonneg l (hmem.1 hl).1 (hmem.1 hl).2
    rw [Finset.card_range]
    exact_mod_cast hcast.trans_le hfit
  have hbelow : (QuotaTable.held (Finset.range s.numberOfSockets) s.ownerIndex k).card <
      (s.clients k).socketQuota.toNat := by
    have hc := hcard k huse
    omega
  obtain ⟨i, hi, hnone⟩ := QuotaTable.exists_free_of_lt_quota
    (fun _ _ _ hl ↦ hmem.2 (NetworkStack.inUse_of_ownerIndex hl)) hkept hsum (hmem.2 ⟨hk, huse⟩)
      hbelow
  exact ⟨i, Finset.mem_range.1 hi, ha.free_of_ownerIndex (Finset.mem_range.1 hi) hnone⟩

/-- **Quotas are guarantees.** In every reachable state and for every in-use client,
`reserve_handle` returns; it fails exactly when the quota is used up or no slot is free, and then
changes nothing; otherwise it returns the lowest free slot and changes only that slot and the
client's counter. And if the quotas are not negative and fit into the table, an RPC of a client
below its quota that is given a picoTCP socket, by `pico_socket_open` or `pico_socket_accept`,
succeeds. -/
theorem quotas_guaranteed {s : NetworkStack} {h : History} (hw : Reachable pl sched cfg (s, h))
    (hk : k < s.numberOfClients) (huse : (s.clients k).inUse = true) :
    (∀ (p : PicoPtr) (caller : ℤ) (r : RpcCall),
      (∃ a w', Prog.Outcome (rpcEnv sched caller r) (reserveHandle p (s.clients k).clientId) (s, h)
        a w') ∧
      ∀ a s' h', Prog.Outcome (rpcEnv sched caller r) (reserveHandle p (s.clients k).clientId)
          (s, h) a (s', h') →
        (a = none ↔ (s.clients k).socketQuota ≤ (s.clients k).currentSocketsInUse ∨
          ∀ j < s.numberOfSockets, (s.sockets j).status ≠ .free) ∧
        (a = none → s' = s) ∧
        ∀ i, a = some i →
          (i < s.numberOfSockets ∧ (s.sockets i).status = .free ∧
            ∀ j < i, (s.sockets j).status ≠ .free) ∧
          (∀ j, j ≠ i → s'.sockets j = s.sockets j) ∧
          (∀ l, l ≠ k → s'.clients l = s.clients l) ∧
          s'.clients k = { s.clients k with
            currentSocketsInUse := (s.clients k).currentSocketsInUse + 1 } ∧
          s'.currentState = s.currentState ∧ s'.numberOfSockets = s.numberOfSockets ∧
          s'.numberOfClients = s.numberOfClients) ∧
    ((∀ l < s.numberOfClients, (s.clients l).inUse = true → 0 ≤ (s.clients l).socketQuota) →
      ∑ l ∈ (Finset.range s.numberOfClients).filter (fun l ↦ (s.clients l).inUse = true),
        (s.clients l).socketQuota ≤ s.numberOfSockets →
      (s.clients k).currentSocketsInUse < (s.clients k).socketQuota →
      ∀ (r : RpcCall) (a : Reply) (w' : World), r.acquires = true →
        Prog.Outcome (rpcEnv sched (s.clients k).clientId r) (rpc pl (s.clients k).clientId r)
          (s, .begin (s.clients k).clientId r s :: h) a w' →
        obtained w'.2 ≠ none → a.err = .success) := by
  obtain ⟨hst, -⟩ := reachable_stepped hw
  have hat : s.IsClientAt (s.clients k).clientId k := hst.isClientAt huse
  refine ⟨fun p caller r ↦ ⟨exists_outcome_reserveHandle hat, fun a s' h' ho ↦ ?_⟩,
    fun hnonneg hfit hlt r a w' hr ho hob ↦ ?_⟩
  · obtain ⟨ha, hs'⟩ := outcome_reserveHandle hat ho
    change a = (s.reserveResult k p _).1 at ha
    change s' = (s.reserveResult k p _).2 at hs'
    obtain ⟨href, hres⟩ | ⟨i, hq, hf, hres⟩ := s.reserveResult_cases k p (s.clients k).clientId <;>
      rw [hres] at ha hs'
    · rw [ha, hs']
      refine ⟨⟨fun _ ↦ ?_, fun _ ↦ rfl⟩, fun _ ↦ rfl, fun i hi ↦ by simp at hi⟩
      exact href.imp_right NetworkStack.firstFree_eq_none_iff.1
    · rw [ha, hs']
      obtain ⟨hfree, hlt, hlow⟩ := NetworkStack.firstFree_eq_some_iff.1 hf
      refine ⟨⟨fun h ↦ by simp at h, fun h ↦ ?_⟩, fun h ↦ by simp at h, fun j hj ↦ ?_⟩
      · rcases h with h | h
        · omega
        · exact absurd hfree (h i hlt)
      · obtain rfl := Option.some.inj hj
        refine ⟨⟨hlt, hfree, hlow⟩, fun j hj ↦ NetworkStack.sockets_reserve_of_ne hj,
          fun l hl ↦ ?_, ?_, rfl, rfl, rfl⟩
        · rw [NetworkStack.clients_reserve, if_neg hl]
        · rw [NetworkStack.clients_reserve, if_pos rfl]
          rfl
  · have hrep := replied_of_reachable hw ⟨k, hat⟩ ho
    obtain hnone | hsucc | hfull := hrep.reserves hr k hat
    · exact absurd hnone hob
    · exact hsucc
    · obtain ⟨i, hi, hfree⟩ := hst.accounting.exists_free (fun l hl ↦ hst.isClientAt hl)
        hnonneg hfit
        hk huse hlt
      rcases hfull with hfull | hfull
      · exact absurd hlt (not_lt.2 hfull)
      · exact absurd hfree (NetworkStack.firstFree_eq_none_iff.1 hfull i hi)

/-- Client 102 may still reserve slot 1: it is the first free one. -/
theorem quotas_guaranteed_sampleCreated :
    (∃ a w', Prog.Outcome (rpcEnv .free 102 (.create .inet .dgram (some 0)))
      (reserveHandle (some 8) 102) sampleCreated a w') ∧
    (sampleCreated.1.clients 1).currentSocketsInUse < (sampleCreated.1.clients 1).socketQuota ∧
    ∀ (a : Reply) (w' : World),
      Prog.Outcome (rpcEnv .free 102 (.create .inet .dgram (some 0)))
        (rpc samplePlatform 102 (.create .inet .dgram (some 0)))
        (sampleCreated.1, .begin 102 (.create .inet .dgram (some 0)) sampleCreated.1 ::
          sampleCreated.2) a w' → obtained w'.2 ≠ none → a.err = .success := by
  have hlt : (sampleCreated.1.clients 1).currentSocketsInUse <
      (sampleCreated.1.clients 1).socketQuota := by decide
  obtain ⟨hspec, hquota⟩ := quotas_guaranteed (k := 1)
    (reachable_sampleCreated .free) (by decide) (by decide)
  refine ⟨(hspec (some 8) 102 (.create .inet .dgram (some 0))).1, hlt, fun a w' ho ↦ ?_⟩
  exact hquota (by decide) (by decide) hlt _ a w' rfl ho

end

end NetworkStackPicoTcp
