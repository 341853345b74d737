import NetworkStackPicoTcp.Invariants.Accounting

/-!
# Every run is made of steps

A run between RPCs is made of steps of `Micro`, because in every reachable world the books are in
order and the sweeps are at rest, which is what `walks_rpc` asks for. The same holds of every world
that an RPC passes through on its way, and of every world in which picoTCP runs a callback
(`Visited`).
-/

namespace NetworkStackPicoTcp

variable {pl : Platform} {sched : Schedule} {cfg : Config}

/-! ### Heads and tails -/

/-- The heads are inside the table, and between RPCs each is at its tail. -/
structure RingInv (w : World) : Prop where
  head_lt : ∀ k, (w.1.clients k).head < w.1.numberOfSockets
  rest : phase w.2 = .rest → ∀ k, (w.1.clients k).head = (w.1.clients k).tail

/-- An RPC that can reserve a handle is no sweep. -/
theorem RpcCall.Acquires.isSweep {c : ℤ} {r : RpcCall} {s : NetworkStack} (h : r.Acquires s c) :
    r.isSweep = false := by
  obtain ⟨_, _, _, rfl⟩ | ⟨_, _, _, rfl, -⟩ := h <;> rfl

/-- Reserving a handle leaves the sweeps alone. -/
theorem NetworkStack.head_tail_reserve {s : NetworkStack} {c : ℤ} {k i p : ℕ} (l : ℕ) :
    ((s.reserve k i (some p) c).clients l).head = (s.clients l).head ∧
      ((s.reserve k i (some p) c).clients l).tail = (s.clients l).tail := by
  rw [NetworkStack.clients_reserve]
  split_ifs with hl
  · rw [hl]
    exact ⟨rfl, rfl⟩
  · exact ⟨rfl, rfl⟩

/-- Only the sweep moves heads and tails. -/
theorem OwnStep.head_tail {c : ℤ} {r : RpcCall} {s s' : NetworkStack} (h : OwnStep pl c r s s')
    (hr : r.isSweep = false) (l : ℕ) : (s'.clients l).head = (s.clients l).head ∧
      (s'.clients l).tail = (s.clients l).tail ∧ s'.numberOfSockets = s.numberOfSockets := by
  cases h with
  | setError | clearClose | clearRead | acceptPending | adopt | create | accepted =>
    exact ⟨rfl, rfl, rfl⟩
  | @release i k hrel _ _ =>
    rw [NetworkStack.clients_release]
    refine ⟨?_, ?_, rfl⟩ <;> split_ifs with hl
    · rw [hl]; rfl
    · rfl
    · rw [hl]; rfl
    · rfl
  | snapshot hs | advanceHead hs | flagSelf hs | setTail hs => simp [hr] at hs

theorem RingInv.of_frame {w w' : World} (h : RingInv w) (hf : SameFrame w.1 w'.1)
    (hp : phase w'.2 = .rest → phase w.2 = .rest) : RingInv w' := by
  refine ⟨fun k ↦ ?_, fun hr k ↦ ?_⟩
  · rw [hf.client_head, hf.numberOfSockets]
    exact h.head_lt k
  · rw [hf.client_head, hf.client_tail]
    exact h.rest (hp hr) k

theorem RingInv.micro {w w' : World} (h : RingInv w) (hs : Micro pl w w') : RingInv w' := by
  cases hs with
  | begin r _ hp => exact h.of_frame (SameFrame.refl _) fun _ ↦ hp
  | own hr ho =>
    refine ⟨fun k ↦ ?_, fun hp k ↦ ?_⟩
    · rw [(ho.head_tail hr k).1, (ho.head_tail hr k).2.2]
      exact h.head_lt k
    · rw [(ho.head_tail hr k).1, (ho.head_tail hr k).2.1]
      exact h.rest (by simpa [phase, hr] using hp) k
  | @reserve s _ c r k i p hr _ _ _ _ =>
    have hsweep := hr.isSweep
    have hcl :=
      fun l ↦ NetworkStack.head_tail_reserve (s := s) (c := c) (k := k) (i := i) (p := p) l
    refine ⟨fun l ↦ ?_, fun hp l ↦ ?_⟩
    · rw [(hcl l).1]
      exact h.head_lt l
    · rw [(hcl l).1, (hcl l).2]
      exact h.rest (by simpa [phase, hsweep] using hp) l
  | answer e b hm =>
    -- an answer that moves no sweep leaves the phase as it is
    refine h.of_frame (SameFrame.refl _) fun hp ↦ ?_
    rcases hm with hm | hm
    · simpa [phase, hm] using hp
    · simpa [phase, phaseBy_of_not_movesSweep hm] using hp
  | enter hr _ _ =>
    exact h.of_frame (SameFrame.refl _) fun hp ↦ by simp [phase, hr, phaseBy] at hp
  | put hr _ _ => exact h.of_frame (SameFrame.refl _) fun hp ↦ by simp [phase, hr, phaseBy] at hp
  | snapshot hr _ _ _ =>
    exact ⟨h.head_lt, fun hp ↦ by simp [phase, hr, phaseBy, phaseByWrite] at hp⟩
  | @advance s _ _ _ k hr _ _ hph =>
    refine ⟨fun l ↦ ?_, fun hp ↦ ?_⟩
    · by_cases hl : l = k
      · rw [hl]
        exact NetworkStack.advanceHead_head_lt (h.head_lt k)
      · rw [NetworkStack.advanceHead, NetworkStack.updateClient_clients_of_ne hl]
        exact h.head_lt l
    · rcases hph with hph | hph <;> simp [phase, hr, hph, phaseByWrite] at hp
  | @flagSelf _ _ _ _ k hr _ _ hph =>
    exact h.of_frame (SameFrame.updateClient k true)
      fun hp ↦ by simp [phase, hr, hph, phaseByWrite] at hp
  | setTail hr _ _ hph =>
    refine ⟨fun l ↦ ?_, fun hp ↦ by simp [phase, hr, hph, phaseByWrite] at hp⟩
    rw [NetworkStack.updateClient_clients]
    split_ifs with hl
    · rw [← hl]
      exact h.head_lt l
    · exact h.head_lt l
  | event hcb =>
    have hel : Elsewhere pl _ _ := elsewhere_callbackStep hcb
    exact h.of_frame hel.frame fun hp ↦ hel.phase.symm.trans hp
  | notified => exact h.of_frame NetworkStack.sameFrame_notify id
  | reply a hp =>
    refine ⟨h.head_lt, fun _ ↦ ?_⟩
    rcases hp with hp | ⟨-, hp⟩
    · exact h.rest hp
    · exact hp
  | setState st => exact ⟨h.head_lt, h.rest⟩

/-! ### The initial tables -/

theorem Config.init_clients : cfg.init.clients = cfg.client := rfl

theorem Config.client_of_lt {k : ℕ} (hk : k < cfg.badges.length) :
    cfg.client k = { Client.zero with
      inUse := true
      clientId := cfg.badges[k]
      socketQuota := cfg.quota k
      eventNotify := true } := by
  rw [Config.client, List.getElem?_eq_getElem hk]

theorem Config.client_of_le {k : ℕ} (hk : cfg.badges.length ≤ k) : cfg.client k = Client.zero := by
  rw [Config.client, List.getElem?_eq_none hk]

theorem Config.lt_of_inUse {k : ℕ} (h : (cfg.client k).inUse = true) : k < cfg.badges.length := by
  by_contra hk
  rw [Config.client_of_le (not_lt.1 hk)] at h
  exact absurd h (by simp [Client.zero])

/-- The in-use clients are found under their badges. -/
theorem Config.isClientAt_init {c : ℤ} {k : ℕ} :
    cfg.init.IsClientAt c k ↔ ∃ hk : k < cfg.badges.length, cfg.badges[k] = c := by
  rw [NetworkStack.IsClientAt, NetworkStack.getClientIndexFromClientId_eq_some_iff]
  constructor
  · rintro ⟨-, ⟨hid, huse⟩, -, -⟩
    have hk := Config.lt_of_inUse huse
    refine ⟨hk, ?_⟩
    rw [hid, Config.init_clients, Config.client_of_lt hk]
  · rintro ⟨hk, rfl⟩
    have hmin := cfg.minBadgeId_le _ (List.getElem_mem hk)
    refine ⟨?_, ⟨?_, ?_⟩, hk.trans_le cfg.length_le, ?_⟩
    · unfold minBadgeId at hmin
      omega
    · rw [Config.init_clients, Config.client_of_lt hk]
    · rw [Config.init_clients, Config.client_of_lt hk]
    · rintro l hl ⟨hid, huse⟩
      have hlt := Config.lt_of_inUse huse
      rw [Config.init_clients, Config.client_of_lt hlt] at hid
      exact absurd ((cfg.badges_nodup.getElem_inj_iff).1 hid) (by omega)

theorem Config.not_isClient_zero : ¬ cfg.init.IsClient 0 := by
  rintro ⟨k, hk⟩
  obtain ⟨hlt, hz⟩ := Config.isClientAt_init.1 hk
  have hmin := cfg.minBadgeId_le _ (List.getElem_mem hlt)
  unfold minBadgeId at hmin
  omega

theorem Config.accounting_init : Accounting cfg.init where
  inUse_iff i _ := by simp [Config.init, SocketResources.zero]
  owner_isClient i _ h := by simp [Config.init, SocketResources.zero] at h
  free_not_client i _ _ := Config.not_isClient_zero
  counter c k hk := by
    have hheld : cfg.init.held c = ∅ := by
      ext i
      simp [NetworkStack.mem_held, Config.init, SocketResources.zero]
    obtain ⟨hlt, -⟩ := Config.isClientAt_init.1 hk
    rw [hheld, Config.init_clients, Config.client_of_lt hlt]
    rfl
  quota c k hk := by
    obtain ⟨hlt, -⟩ := Config.isClientAt_init.1 hk
    rw [Config.init_clients, Config.client_of_lt hlt]
    exact le_max_left _ _

theorem Config.ringInv_init : RingInv (cfg.init, []) := by
  have hzero : ∀ k, (cfg.client k).head = 0 ∧ (cfg.client k).tail = 0 := by
    intro k
    unfold Config.client
    split <;> exact ⟨rfl, rfl⟩
  refine ⟨fun k ↦ ?_, fun _ k ↦ ?_⟩
  · rw [Config.init_clients, (hzero k).1]
    exact cfg.numberOfSockets_pos
  · rw [Config.init_clients, (hzero k).1, (hzero k).2]

/-! ### What never changes -/

/-- The sizes of the tables, and what a client was set up with. -/
structure SameSetup (s s' : NetworkStack) : Prop where
  numberOfSockets : s'.numberOfSockets = s.numberOfSockets
  numberOfClients : s'.numberOfClients = s.numberOfClients
  clientId : ∀ k, (s'.clients k).clientId = (s.clients k).clientId
  inUse : ∀ k, (s'.clients k).inUse = (s.clients k).inUse
  socketQuota : ∀ k, (s'.clients k).socketQuota = (s.clients k).socketQuota
  eventNotify : ∀ k, (s'.clients k).eventNotify = (s.clients k).eventNotify

namespace SameSetup

variable {s s' s'' : NetworkStack}

theorem refl (s : NetworkStack) : SameSetup s s :=
  ⟨rfl, rfl, fun _ ↦ rfl, fun _ ↦ rfl, fun _ ↦ rfl, fun _ ↦ rfl⟩

theorem trans (h : SameSetup s s') (h' : SameSetup s' s'') : SameSetup s s'' where
  numberOfSockets := h'.numberOfSockets.trans h.numberOfSockets
  numberOfClients := h'.numberOfClients.trans h.numberOfClients
  clientId k := (h'.clientId k).trans (h.clientId k)
  inUse k := (h'.inUse k).trans (h.inUse k)
  socketQuota k := (h'.socketQuota k).trans (h.socketQuota k)
  eventNotify k := (h'.eventNotify k).trans (h.eventNotify k)

/-- An update of the socket table, or of the state of the stack. -/
theorem of_clients (hs : s'.numberOfSockets = s.numberOfSockets)
    (hc : s'.numberOfClients = s.numberOfClients) (h : s'.clients = s.clients) : SameSetup s s' :=
  ⟨hs, hc, fun _ ↦ by rw [h], fun _ ↦ by rw [h], fun _ ↦ by rw [h], fun _ ↦ by rw [h]⟩

/-- An update of a client's counter, flag, head or tail. -/
theorem of_client (l : ℕ) (f : Client → Client) (hs : s'.numberOfSockets = s.numberOfSockets)
    (hc : s'.numberOfClients = s.numberOfClients)
    (h : ∀ k, s'.clients k = if k = l then f (s.clients l) else s.clients k)
    (hf : (f (s.clients l)).clientId = (s.clients l).clientId ∧
      (f (s.clients l)).inUse = (s.clients l).inUse ∧
      (f (s.clients l)).socketQuota = (s.clients l).socketQuota ∧
      (f (s.clients l)).eventNotify = (s.clients l).eventNotify) : SameSetup s s' := by
  have hk : ∀ k, (s'.clients k).clientId = (s.clients k).clientId ∧
      (s'.clients k).inUse = (s.clients k).inUse ∧
      (s'.clients k).socketQuota = (s.clients k).socketQuota ∧
      (s'.clients k).eventNotify = (s.clients k).eventNotify := by
    intro k
    rw [h]
    split_ifs with hk
    · rw [hk]; exact hf
    · exact ⟨rfl, rfl, rfl, rfl⟩
  exact ⟨hs, hc, fun k ↦ (hk k).1, fun k ↦ (hk k).2.1, fun k ↦ (hk k).2.2.1, fun k ↦ (hk k).2.2.2⟩

theorem updateClient {l : ℕ} {f : Client → Client}
    (hf : (f (s.clients l)).clientId = (s.clients l).clientId ∧
      (f (s.clients l)).inUse = (s.clients l).inUse ∧
      (f (s.clients l)).socketQuota = (s.clients l).socketQuota ∧
      (f (s.clients l)).eventNotify = (s.clients l).eventNotify) :
    SameSetup s (s.updateClient l f) :=
  of_client l f rfl rfl (fun _ ↦ NetworkStack.updateClient_clients) hf

theorem of_sameFrame (h : SameFrame s s') : SameSetup s s' where
  numberOfSockets := h.numberOfSockets
  numberOfClients := h.numberOfClients
  clientId := h.client_clientId
  inUse := h.client_inUse
  socketQuota := h.client_socketQuota
  eventNotify k := by rw [h.client k]

theorem isClientAt (h : SameSetup s s') (c : ℤ) (k : ℕ) : s'.IsClientAt c k ↔ s.IsClientAt c k := by
  simp only [NetworkStack.IsClientAt, NetworkStack.getClientIndexFromClientId, h.numberOfClients,
    h.clientId, h.inUse]

end SameSetup

theorem TableStep.sameSetup {s s' : NetworkStack} (h : TableStep pl s s') : SameSetup s s' := by
  cases h with
  | frame h => exact SameSetup.of_sameFrame h
  | own ho =>
    cases ho with
    | setError | clearClose | clearRead | acceptPending | adopt | create | accepted | snapshot =>
      exact SameSetup.of_clients rfl rfl rfl
    | release =>
      exact SameSetup.of_client _ Client.countDown rfl rfl (fun _ ↦ NetworkStack.clients_release)
        ⟨rfl, rfl, rfl, rfl⟩
    | advanceHead | flagSelf | setTail =>
      exact SameSetup.updateClient ⟨rfl, rfl, rfl, rfl⟩
  | reserve =>
    exact SameSetup.of_client _ Client.countUp rfl rfl (fun _ ↦ NetworkStack.clients_reserve)
      ⟨rfl, rfl, rfl, rfl⟩
  | setState => exact SameSetup.of_clients rfl rfl rfl

theorem Micros.sameSetup {w w' : World} (h : Micros pl w w') : SameSetup w.1 w'.1 :=
  h.invariant (I := fun v ↦ SameSetup w.1 v.1) (fun _ _ hs hi ↦ hi.trans hs.tableStep.sameSetup)
    (SameSetup.refl w.1)

/-! ### Runs -/

/-- Steps lead from the initial tables to this world. -/
def Stepped (pl : Platform) (cfg : Config) (w : World) : Prop :=
  Micros pl (cfg.init, []) w

theorem Stepped.accounting {w : World} (h : Stepped pl cfg w) : Accounting w.1 :=
  Micros.accounting h Config.accounting_init

theorem Stepped.ringInv {w : World} (h : Stepped pl cfg w) : RingInv w :=
  Micros.invariant (fun _ _ hs hi ↦ hi.micro hs) h Config.ringInv_init

theorem Stepped.sameSetup {w : World} (h : Stepped pl cfg w) : SameSetup cfg.init w.1 :=
  Micros.sameSetup h

/-- An in-use client is found under its id. -/
theorem Stepped.isClientAt {w : World} (h : Stepped pl cfg w) {k : ℕ}
    (huse : (w.1.clients k).inUse = true) : w.1.IsClientAt (w.1.clients k).clientId k := by
  rw [h.sameSetup.inUse, Config.init_clients] at huse
  have hk := Config.lt_of_inUse huse
  rw [h.sameSetup.isClientAt, Config.isClientAt_init, h.sameSetup.clientId, Config.init_clients,
    Config.client_of_lt hk]
  exact ⟨hk, rfl⟩

/-- What an RPC relies on when it begins holds in every reached world that is at rest. -/
theorem Stepped.walks_rpc {s : NetworkStack} {h : History} (hw : Stepped pl cfg (s, h))
    (hp : phase h = .rest) {c : ℤ} (hc : s.IsClient c) (r : RpcCall) :
    walks pl sched c r (s, .begin c r s :: h) (rpc pl c r)
      (Replied pl c r (s, .begin c r s :: h)) (s, .begin c r s :: h) := by
  obtain ⟨k, hk⟩ := hc
  exact NetworkStackPicoTcp.walks_rpc hk (fun i ho ↦ hw.accounting.inUse_of_owns ho hk)
    (fun l ↦ ⟨hw.ringInv.rest hp l, hw.ringInv.head_lt l⟩) rfl rfl rfl

/-- Every call can be answered, but for the two that stand for a failure. -/
theorem exists_answer {c : ℤ} {r : RpcCall} {e : Call} (hnull : e ≠ .nullDeref)
    (hdiv : e ≠ .diverge)
    (w : World) : ∃ b w', (rpcEnv sched c r).onCall e w b w' := by
  have hanswer : Nonempty e.Answer := by
    cases e with
    | nullDeref => exact absurd rfl hnull
    | diverge => exact absurd rfl hdiv
    | pico pc => cases pc <;> exact ⟨default⟩
    | picoErr => exact ⟨.noerr⟩
    | _ => exact ⟨default⟩
  obtain ⟨b⟩ := hanswer
  exact ⟨b, _, w, interference_refl sched e w, rfl⟩

/-- **Every RPC of a client returns.** -/
theorem Stepped.exists_outcome_rpc {s : NetworkStack} {h : History} (hw : Stepped pl cfg (s, h))
    (hp : phase h = .rest) {c : ℤ} (hc : s.IsClient c) (r : RpcCall) :
    ∃ a w', Prog.Outcome (rpcEnv sched c r) (rpc pl c r) (s, .begin c r s :: h) a w' :=
  Prog.exists_outcome_of_wp (fun _ w hissued ↦ exists_answer hissued.safe.1 hissued.safe.2 w)
    (hw.walks_rpc hp hc r)

/-- **Every run is made of steps**, and every RPC returns with the sweeps at rest. -/
theorem reachable_stepped {w : World} (h : Reachable pl sched cfg w) :
    Stepped pl cfg w ∧ phase w.2 = .rest := by
  induction h with
  | refl => exact ⟨.refl, rfl⟩
  | @tail w w' _ hs ih =>
    obtain ⟨hw, hp⟩ := ih
    cases hs with
    | @rpc s s' h h' c r a hc ho =>
      have hrep := Prog.outcome_of_wp (hw.walks_rpc hp hc r) ho
      exact ⟨((hw.tail (.begin r hc hp)).trans hrep.micros).tail (.reply a hrep.rest), rfl⟩
    | mainLoop hi =>
      have hel : Elsewhere pl _ _ := elsewhere_mainLoopIteration hi
      exact ⟨hw.trans hel.micros, hel.phase.trans hp⟩
    | setState st => exact ⟨hw.tail (.setState st), hp⟩

/-- The worlds that a run passes through: between RPCs, whenever an RPC issues a call, and before
and after each callback and each iteration of the main loop. The release of `socketCB` in
`reserve_handle` is left out; no other thread can run then. -/
inductive Visited (pl : Platform) (sched : Schedule) (cfg : Config) : World → Prop
  | reachable {w : World} (h : Reachable pl sched cfg w) : Visited pl sched cfg w
  | call {s : NetworkStack} {h : History} {c : ℤ} {r : RpcCall} {e : Call} {w : World}
      (hw : Reachable pl sched cfg (s, h)) (hc : s.IsClient c)
      (hat : Prog.CallAt (rpcEnv sched c r) (rpc pl c r) (s, .begin c r s :: h) e w)
      (he : e ≠ .unlock .socketCB) : Visited pl sched cfg w
  | callback {w w' : World} (hw : Visited pl sched cfg w) (h : CallbackStep w w') :
      Visited pl sched cfg w'
  | mainLoop {w w' : World} (hw : Visited pl sched cfg w) (h : MainLoopIteration w w') :
      Visited pl sched cfg w'

/-- What holds at a call of an RPC that begins in a reachable world. -/
theorem issued_of_reachable {s : NetworkStack} {h : History} {c : ℤ} {r : RpcCall} {e : Call}
    {w : World} (hw : Reachable pl sched cfg (s, h)) (hc : s.IsClient c)
    (hat : Prog.CallAt (rpcEnv sched c r) (rpc pl c r) (s, .begin c r s :: h) e w) :
    Issued pl c r (s, .begin c r s :: h) e w := by
  obtain ⟨hst, hp⟩ := reachable_stepped hw
  exact Prog.callAt_of_wp (hst.walks_rpc hp hc r) hat

/-- What the reply of an RPC that begins in a reachable world tells. -/
theorem replied_of_reachable {s : NetworkStack} {h : History} {c : ℤ} {r : RpcCall} {a : Reply}
    {w : World} (hw : Reachable pl sched cfg (s, h)) (hc : s.IsClient c)
    (ho : Prog.Outcome (rpcEnv sched c r) (rpc pl c r) (s, .begin c r s :: h) a w) :
    Replied pl c r (s, .begin c r s :: h) a w := by
  obtain ⟨hst, hp⟩ := reachable_stepped hw
  exact Prog.outcome_of_wp (hst.walks_rpc hp hc r) ho

theorem visited_stepped {w : World} (h : Visited pl sched cfg w) : Stepped pl cfg w := by
  induction h with
  | reachable h => exact (reachable_stepped h).1
  | call hw hc hat he =>
    obtain ⟨hst, hp⟩ := reachable_stepped hw
    exact (hst.tail (.begin _ hc hp)).trans ((issued_of_reachable hw hc hat).micros he)
  | callback _ h ih => exact ih.tail (.event h)
  | mainLoop _ h ih => exact ih.trans (elsewhere_mainLoopIteration h).micros

end NetworkStackPicoTcp
