import NetworkStackPicoTcp.Invariants.Reachable

/-!
# Who changes what

An RPC writes only to the slots and the client record of its caller (`OwnStep.sockets_eq`,
`OwnStep.clients_eq`). Everything else that happens to a slot is a callback for its picoTCP socket,
and everything else that happens to a client record is a callback for one of its sockets or a
notification pass. So a record that is not the caller's can be computed from the entries of the
history (`replaySlot`, `replayClient`).
-/

namespace NetworkStackPicoTcp

variable {pl : Platform} {sched : Schedule} {c : ℤ} {r : RpcCall}

/-! ### The writes of an RPC -/

section

variable {s s' : NetworkStack} {j l : ℕ}

/-- The writes of an RPC leave the slots of other clients alone. -/
theorem OwnStep.sockets_eq (h : OwnStep pl c r s s') (hj : (s.sockets j).clientId ≠ c) :
    s'.sockets j = s.sockets j := by
  have hne : ∀ {i}, (s.sockets i).clientId = c → j ≠ i := by
    rintro i hi rfl
    exact hj hi
  cases h with
  | setError _ _ ho | clearClose _ ho | clearRead _ ho | acceptPending _ ho | create _ _ _ ho
  | accepted _ _ ho | adopt _ _ ho =>
    exact NetworkStack.updateSocket_sockets_of_ne (hne ho.2)
  | snapshot _ _ ho => exact NetworkStack.updateSocket_sockets_of_ne (hne ho)
  | release _ ho _ => exact NetworkStack.sockets_release_of_ne (hne ho.2)
  | advanceHead | flagSelf | setTail => rfl

/-- The writes of an RPC leave the records of other clients alone. -/
theorem OwnStep.clients_eq (h : OwnStep pl c r s s') (hl : ¬ s.IsClientAt c l) :
    s'.clients l = s.clients l := by
  have hne : ∀ {k}, s.IsClientAt c k → l ≠ k := by
    rintro k hk rfl
    exact hl hk
  cases h with
  | setError | clearClose | clearRead | acceptPending | create | accepted | adopt | snapshot => rfl
  | release _ _ hk => rw [NetworkStack.clients_release, if_neg (hne hk)]
  | advanceHead _ hk | flagSelf _ hk | setTail _ hk =>
    exact NetworkStack.updateClient_clients_of_ne (hne hk)

end

/-! ### What the history says about a record -/

/-- What happens to slot `j` outside the RPCs: callbacks whose lookup finds it are recorded in
it. -/
def Entry.onSlot (j : ℕ) : Entry → SocketResources → SocketResources
  | .event ev s _, rec =>
    if s.getHandleFromImplementationSocket ev.socket = some j then rec.recordEvent ev else rec
  | _, rec => rec

/-- What happens to client record `l` outside the RPCs: it is flagged when a callback finds a slot
of this client, and a notification pass sets its flag. -/
def Entry.onClient (l : ℕ) : Entry → Client → Client
  | .event ev s _, cl =>
    match s.getHandleFromImplementationSocket ev.socket with
    | none => cl
    | some i => if s.getClientIndexFromClientId (s.sockets i).clientId = some l then cl.flag else cl
  | .notified _ s', cl => { cl with needsToBeNotified := (s'.clients l).needsToBeNotified }
  | _, cl => cl

/-- The entries, oldest last, applied to a record of slot `j`. -/
def replaySlot (j : ℕ) (new : History) (rec : SocketResources) : SocketResources :=
  new.foldr (Entry.onSlot j) rec

/-- The entries, oldest last, applied to client record `l`. -/
def replayClient (l : ℕ) (new : History) (cl : Client) : Client :=
  new.foldr (Entry.onClient l) cl

/-- All writes among the entries are by client `c`. -/
def WritesBy (c : ℤ) (new : History) : Prop :=
  ∀ c' r s s', Entry.own c' r s s' ∈ new → c' = c

theorem replaySlot_append {j : ℕ} {new old : History} {rec : SocketResources} :
    replaySlot j (new ++ old) rec = replaySlot j new (replaySlot j old rec) :=
  List.foldr_append

theorem replayClient_append {l : ℕ} {new old : History} {cl : Client} :
    replayClient l (new ++ old) cl = replayClient l new (replayClient l old cl) :=
  List.foldr_append

theorem WritesBy.of_append {new old : History} (h : WritesBy c (new ++ old)) :
    WritesBy c new ∧ WritesBy c old :=
  ⟨fun c' r s s' hm ↦ h c' r s s' (List.mem_append_left _ hm),
    fun c' r s s' hm ↦ h c' r s s' (List.mem_append_right _ hm)⟩

/-- A replay keeps the frame of a slot. -/
theorem slotFrame_replaySlot (j : ℕ) (new : History) (rec : SocketResources) :
    SlotFrame rec (replaySlot j new rec) := by
  induction new with
  | nil => exact SlotFrame.refl rec
  | cons x new ih =>
    refine ih.trans ?_
    show SlotFrame _ (x.onSlot j (replaySlot j new rec))
    cases x with
    | event ev s s' =>
      rw [Entry.onSlot]
      split_ifs
      · exact SlotFrame.recordEvent ev _
      · exact SlotFrame.refl _
    | _ => exact SlotFrame.refl _

/-- What `new` entries say about the step that added them, for records that are not of client
`c`. -/
structure Replays (c : ℤ) (w w' : World) (new : History) : Prop where
  entries : w'.2 = new ++ w.2
  slot : WritesBy c new → ∀ j, (w.1.sockets j).status = .inUse → (w.1.sockets j).clientId ≠ c →
    w'.1.sockets j = replaySlot j new (w.1.sockets j)
  client : WritesBy c new → ∀ l, ¬ w.1.IsClientAt c l →
    w'.1.clients l = replayClient l new (w.1.clients l)

namespace Replays

variable {s s' : NetworkStack} {h : History} {w w' w'' : World}

/-- A write by an RPC, with a call before it or not. -/
theorem own {c' : ℤ} {r : RpcCall} {new h' : History} (hnew : h' = new ++ h)
    (hown : .own c' r s s' ∈ new) (hslot : ∀ j rec, replaySlot j new rec = rec)
    (hclient : ∀ l cl, replayClient l new cl = cl) (ho : OwnStep pl c' r s s') :
    Replays c (s, h) (s', h') new := by
  refine ⟨hnew, fun hw j _ hj ↦ ?_, fun hw l hl ↦ ?_⟩
  · rw [hslot]
    refine ho.sockets_eq ?_
    rwa [hw c' r s s' hown]
  · rw [hclient]
    refine ho.clients_eq ?_
    rwa [hw c' r s s' hown]

theorem single (pl : Platform) {c' : ℤ} {r : RpcCall} (ho : OwnStep pl c' r s s') :
    Replays c (s, h) (s', .own c' r s s' :: h) [.own c' r s s'] :=
  own rfl List.mem_cons_self (fun _ _ ↦ rfl) (fun _ _ ↦ rfl) ho

theorem event (he : CallbackStep w w') : ∃ new, Replays c w w' new := by
  obtain ⟨ev, -, hs, hh⟩ := he
  refine ⟨[.event ev w.1 w'.1], hh, fun _ j _ _ ↦ ?_, fun _ l _ ↦ ?_⟩
  · show _ = if _ then _ else _
    obtain ⟨hn, hs'⟩ | ⟨i, k, hi, hk, hs'⟩ := NetworkStack.handlePicoSocketEvent_cases hs
    · rw [hs', hn, if_neg (by simp)]
      rfl
    · rw [hs', hi, NetworkStack.updateClient_sockets, NetworkStack.updateSocket_sockets]
      by_cases hij : j = i
      · rw [if_pos hij, if_pos (by rw [hij]), hij]
        rfl
      · rw [if_neg hij, if_neg fun h ↦ hij (Option.some.inj h).symm]
        rfl
  · show _ = Entry.onClient l (.event ev w.1 w'.1) (w.1.clients l)
    rw [Entry.onClient]
    obtain ⟨hn, hs'⟩ | ⟨i, k, hi, hk, hs'⟩ := NetworkStack.handlePicoSocketEvent_cases hs
    · rw [hs', hn]
    · rw [hs', hi]
      have hk' : w.1.getClientIndexFromClientId (w.1.sockets i).clientId = some k := hk
      show _ = if _ then _ else _
      rw [hk', NetworkStack.updateClient_clients]
      by_cases hlk : l = k
      · rw [if_pos hlk, if_pos (by rw [hlk]), hlk]
        rfl
      · rw [if_neg hlk, if_neg fun h ↦ hlk (Option.some.inj h).symm]
        rfl

theorem trans {new new' : History} (h : Replays c w w' new) (h' : Replays c w' w'' new')
    (hset : SameSetup w.1 w'.1) : Replays c w w'' (new' ++ new) := by
  refine ⟨by rw [h'.entries, h.entries, List.append_assoc], fun hw j hst hj ↦ ?_, fun hw l hl ↦ ?_⟩
  · obtain ⟨hnew', hnew⟩ := hw.of_append
    have hj' := h.slot hnew j hst hj
    have hf := slotFrame_replaySlot j new (w.1.sockets j)
    rw [← hj'] at hf
    rw [h'.slot hnew' j (hf.status.trans hst) (hf.clientId ▸ hj), hj', replaySlot_append]
  · obtain ⟨hnew', hnew⟩ := hw.of_append
    rw [h'.client hnew' l (by rwa [hset.isClientAt]), h.client hnew l hl, replayClient_append]

end Replays

theorem Micro.replays {w w' : World} (h : Micro pl w w') : ∃ new, Replays c w w' new := by
  cases h with
  | begin | answer | enter | put | reply =>
    exact ⟨[_], rfl, fun _ _ _ _ ↦ rfl, fun _ _ _ ↦ rfl⟩
  | own _ ho => exact ⟨_, Replays.single pl ho⟩
  | @reserve s h c' r k i p _ hk hi _ _ =>
    refine ⟨[_, _, _], rfl, fun hw j hst _ ↦ ?_, fun hw l hl ↦ ?_⟩
    · have hji := NetworkStack.ne_of_firstFree hi hst
      exact NetworkStack.sockets_reserve_of_ne hji.symm
    · have hc : c' = c := hw c' r _ _ List.mem_cons_self
      have hlk : l ≠ k := by
        rintro rfl
        exact hl (hc ▸ hk)
      exact (NetworkStack.clients_reserve).trans (if_neg hlk)
  | snapshot hr _ hk _ ho =>
    have hown : OwnStep pl _ _ _ _ := .snapshot hr hk ho
    exact ⟨[_, _], Replays.own rfl List.mem_cons_self (fun _ _ ↦ rfl) (fun _ _ ↦ rfl) hown⟩
  | advance hr _ hk _ => exact ⟨_, Replays.single pl (.advanceHead hr hk)⟩
  | flagSelf hr _ hk _ => exact ⟨_, Replays.single pl (.flagSelf hr hk)⟩
  | setTail hr _ hk _ => exact ⟨_, Replays.single pl (.setTail hr hk)⟩
  | event he => exact Replays.event he
  | notified =>
    refine ⟨[_], rfl, fun _ j _ _ ↦ ?_, fun _ l _ ↦ NetworkStack.sameFrame_notify.client l⟩
    exact congrFun NetworkStack.sockets_notify j
  | setState => exact ⟨[], rfl, fun _ _ _ _ ↦ rfl, fun _ _ _ ↦ rfl⟩

/-- **Records that are not the caller's can be replayed from the history**, over any number of
steps. -/
theorem Micros.replays {w w' : World} (h : Micros pl w w') : ∃ new, Replays c w w' new := by
  induction h with
  | refl => exact ⟨[], rfl, fun _ _ _ _ ↦ rfl, fun _ _ _ ↦ rfl⟩
  | tail hsteps hs ih =>
    obtain ⟨new, hnew⟩ := ih
    obtain ⟨new', hnew'⟩ := hs.replays (c := c)
    exact ⟨new' ++ new, hnew.trans hnew' (Micros.sameSetup hsteps)⟩

/-! ### The writes of one RPC -/

theorem writesBy_nil : WritesBy c [] := fun _ _ _ _ h ↦ absurd h (List.not_mem_nil)

theorem writesBy_of_noWrites {new : History} (h : NoWrites new) : WritesBy c new :=
  fun c' r s s' hm ↦ absurd hm (h c' r s s')

theorem WritesBy.append {new old : History} (hn : WritesBy c new) (ho : WritesBy c old) :
    WritesBy c (new ++ old) := by
  intro c' r s s' hm
  rcases List.mem_append.1 hm with hm | hm
  · exact hn c' r s s' hm
  · exact ho c' r s s' hm

/-- While an RPC of client `c` runs, all writes are by `c`. -/
theorem outcome_writesBy (pl : Platform) {α : Type} {p : Rpc α} {w w' : World} {a : α}
    (ho : Prog.Outcome (rpcEnv sched c r) p w a w') :
    ∃ new, w'.2 = new ++ w.2 ∧ WritesBy c new := by
  have hwp : Prog.wp (rpcEnv sched c r) (fun _ w' ↦ ∃ new, w'.2 = new ++ w.2 ∧ WritesBy c new) p
      (fun _ w' ↦ ∃ new, w'.2 = new ++ w.2 ∧ WritesBy c new) w := by
    refine Prog.wp_of_invariant (fun f w₁ h ↦ ?_) (fun e w₁ b w₂ h hc ↦ ?_) p
      ⟨[], rfl, writesBy_nil⟩
    · obtain ⟨new, hnew, hw⟩ := h
      refine ⟨.own c r w₁.1 (f w₁.1) :: new, by rw [Env.write_snd, hnew]; rfl, ?_⟩
      intro c' r' s s' hm
      rcases List.mem_cons.1 hm with hm | hm
      · exact (Entry.own.inj hm).1
      · exact hw c' r' s s' hm
    · obtain ⟨new, hnew, hw⟩ := h
      obtain ⟨w₃, hint, rfl⟩ := hc
      have hel : Elsewhere pl w₁ w₃ := elsewhere_interference hint
      obtain ⟨new', hnew', hn'⟩ := hel.entries
      refine ⟨.answer c r e b w₃.1 :: new' ++ new, ?_, ?_⟩
      · show _ :: w₃.2 = _
        rw [hnew', hnew]
        simp
      · refine WritesBy.append ?_ hw
        intro c' r' s s' hm
        rcases List.mem_cons.1 hm with hm | hm
        · exact absurd hm (by simp)
        · exact absurd hm (hn' c' r' s s')
  exact Prog.outcome_of_wp hwp ho

/-! ### Bits raised while an RPC does not write -/

/-- Among the entries is a callback that finds slot `j` and raises the bit. -/
def Raised (new : History) (j : ℕ) (b : OsSockEv) : Prop :=
  ∃ ev s s', Entry.event ev s s' ∈ new ∧
    s.getHandleFromImplementationSocket ev.socket = some j ∧ b ∈ ev.raised

section

variable {new old : History} {j : ℕ} {b : OsSockEv}

theorem raised_append : Raised (new ++ old) j b ↔ Raised new j b ∨ Raised old j b := by
  constructor
  · rintro ⟨ev, s, s', hm, hl, hb⟩
    rcases List.mem_append.1 hm with hm | hm
    · exact Or.inl ⟨ev, s, s', hm, hl, hb⟩
    · exact Or.inr ⟨ev, s, s', hm, hl, hb⟩
  · rintro (⟨ev, s, s', hm, hl, hb⟩ | ⟨ev, s, s', hm, hl, hb⟩)
    · exact ⟨ev, s, s', List.mem_append_left _ hm, hl, hb⟩
    · exact ⟨ev, s, s', List.mem_append_right _ hm, hl, hb⟩

theorem not_raised_of_forall (h : ∀ ev s s', Entry.event ev s s' ∉ new) : ¬ Raised new j b := by
  rintro ⟨ev, s, s', hm, -, -⟩
  exact h ev s s' hm

/-- A replay adds the raised bits to the mask. -/
theorem mem_replaySlot_eventMask {rec : SocketResources} :
    b ∈ (replaySlot j new rec).eventMask ↔ b ∈ rec.eventMask ∨ Raised new j b := by
  induction new with
  | nil =>
    rw [or_iff_left (not_raised_of_forall (by simp))]
    rfl
  | cons x new ih =>
    rw [← List.singleton_append, raised_append, or_left_comm, ← ih]
    show b ∈ (x.onSlot j (replaySlot j new rec)).eventMask ↔ _
    cases x with
    | event ev s s' =>
      have hone : Raised [.event ev s s'] j b ↔
          s.getHandleFromImplementationSocket ev.socket = some j ∧ b ∈ ev.raised := by
        constructor
        · rintro ⟨ev', t, t', hm, hl, hb⟩
          obtain ⟨rfl, rfl, rfl⟩ := Entry.event.inj (List.mem_singleton.1 hm)
          exact ⟨hl, hb⟩
        · rintro ⟨hl, hb⟩
          exact ⟨ev, s, s', List.mem_singleton_self _, hl, hb⟩
      rw [Entry.onSlot, hone]
      split_ifs with hl
      · rw [SocketResources.recordEvent_eventMask, Finset.mem_union]
        tauto
      · tauto
    | _ => exact (or_iff_right (not_raised_of_forall (by simp))).symm

end

/-- While the RPC does not write, the slots in use can be replayed, whoever owns them. -/
theorem Rests.replay {w w' : World} (h : Rests pl w w') {j : ℕ}
    (hst : (w.1.sockets j).status = .inUse) {new : History} (hnew : w'.2 = new ++ w.2) :
    w'.1.sockets j = replaySlot j new (w.1.sockets j) := by
  -- nobody has written, so also not a client other than the owner
  obtain ⟨new₁, h₁⟩ := h.micros.replays (c := (w.1.sockets j).clientId + 1)
  obtain ⟨new₂, h₂, hn⟩ := h.entries
  obtain rfl : new₁ = new := List.append_cancel_right (h₁.entries.symm.trans hnew)
  obtain rfl : new₂ = new₁ := List.append_cancel_right (h₂.symm.trans hnew)
  exact h₁.slot (writesBy_of_noWrites hn) j hst (by omega)

end NetworkStackPicoTcp
