import NetworkStackPicoTcp.Interaction.RoundRobin
import NetworkStackPicoTcp.Invariants.Records

/-!
# The sweeps of a client go round the table

The fields `head` and `tail` of a client, together with the phase of the sweep under way, are a
cursor that goes round the socket table, and what the history tells about the sweeps of the client
is a run of that cursor (`Stepped.scans`). A round is one call of `getPendingEvents`.
-/

namespace NetworkStackPicoTcp

open RoundRobin (Run)

variable {pl : Platform} {cfg : Config} {c c' : ℤ} {r : RpcCall} {k k' : ℕ}

/-- The phases of a sweep as stages of the cursor. A record that is not yet written has been
reported. -/
def SweepPhase.stage : SweepPhase → RoundRobin.Stage
  | .rest => .idle
  | .examining reportable => .looked reportable
  | .taken _ | .written => .reported
  | .advanced => .moved

/-- Where the sweeps of client `c`, at index `k`, stand. -/
def cursor (c : ℤ) (k : ℕ) (w : World) : RoundRobin.Cursor where
  stage := if issuer w.2 = c then (phase w.2).stage else .idle
  head := (w.1.clients k).head
  tail := (w.1.clients k).tail

/-- What an entry tells about the sweeps of client `c`. The end of any RPC ends a round. -/
def Entry.scan (c : ℤ) : Entry → Option RoundRobin.Event
  | .answer c' r .preempt _ s =>
    if r.isSweep = true ∧ c' = c then some (.look (s.headOf c) (s.reportable c (s.headOf c)))
    else none
  | .answer c' r (.lock .stackTS) _ s =>
    if r.isSweep = true ∧ c' = c then some (.report (s.headOf c)) else none
  | .reply .. => some .rest
  | _ => none

/-- What the history tells about the sweeps of client `c`. -/
def scanned (c : ℤ) (h : History) : List RoundRobin.Event := h.filterMap (Entry.scan c)

section

variable {s s' : NetworkStack} {h h' : History} {x : Entry} {w w' : World}

theorem scanned_cons_none (hx : x.scan c = none) : scanned c (x :: h) = scanned c h :=
  List.filterMap_cons_none hx

theorem scanned_cons_some {e : RoundRobin.Event} (hx : x.scan c = some e) :
    scanned c (x :: h) = e :: scanned c h :=
  List.filterMap_cons_some hx

/-- Calls that do not move a sweep tell nothing about one. -/
theorem scan_answer {e : Call} {a : e.Answer} (hm : r.isSweep = false ∨ e.movesSweep = false) :
    (Entry.answer c' r e a s).scan c = none := by
  have hr : e.movesSweep = true → ¬ (r.isSweep = true ∧ c' = c) := by
    rintro he ⟨hr, -⟩
    rcases hm with hm | hm
    · exact Bool.false_ne_true (hm.symm.trans hr)
    · exact Bool.false_ne_true (hm.symm.trans he)
  cases e with
  | preempt => exact if_neg (hr rfl)
  | lock m =>
    cases m with
    | stackTS => exact if_neg (hr rfl)
    | socketCB => rfl
  | _ => rfl

/-- While another client's RPC is under way, the cursor is idle. -/
theorem cursor_of_issuer_ne (hi : issuer w.2 ≠ c) :
    cursor c k w = ⟨.idle, (w.1.clients k).head, (w.1.clients k).tail⟩ := by
  rw [cursor, if_neg hi]

theorem cursor_of_issuer (hi : issuer w.2 = c) :
    cursor c k w = ⟨(phase w.2).stage, (w.1.clients k).head, (w.1.clients k).tail⟩ := by
  rw [cursor, if_pos hi]

theorem cursor_of_rest (hp : phase w.2 = .rest) :
    cursor c k w = ⟨.idle, (w.1.clients k).head, (w.1.clients k).tail⟩ := by
  rw [cursor, hp, SweepPhase.stage, ite_self]

/-- What the history tells about the sweeps of client `c` is a run of the cursor. -/
def Scans (c : ℤ) (k : ℕ) (w : World) : Prop :=
  Run w.1.numberOfSockets (cursor c k w) (scanned c w.2)

namespace Scans

/-- A step that has nothing to do with the sweeps of the client. -/
theorem same (hw : Scans c k w) (hn : w'.1.numberOfSockets = w.1.numberOfSockets)
    (hq : cursor c k w' = cursor c k w) (hs : scanned c w'.2 = scanned c w.2) : Scans c k w' := by
  unfold Scans
  rw [hn, hq, hs]
  exact hw

/-- A step that leaves the heads, the tails and the sweep under way alone. -/
theorem frame (hw : Scans c k w) (hn : w'.1.numberOfSockets = w.1.numberOfSockets)
    (hhead : (w'.1.clients k).head = (w.1.clients k).head)
    (htail : (w'.1.clients k).tail = (w.1.clients k).tail) (hp : phase w'.2 = phase w.2)
    (hi : issuer w'.2 = issuer w.2) (hs : scanned c w'.2 = scanned c w.2) : Scans c k w' :=
  hw.same hn (by rw [cursor, cursor, hp, hi, hhead, htail]) hs

/-- A step of another client's sweep. -/
theorem foreign (hw : Scans c k w) (hi : issuer w.2 ≠ c) (hi' : issuer w'.2 = issuer w.2)
    (hn : w'.1.numberOfSockets = w.1.numberOfSockets) (hcl : w'.1.clients k = w.1.clients k)
    (hs : scanned c w'.2 = scanned c w.2) : Scans c k w' := by
  refine hw.same hn ?_ hs
  rw [cursor_of_issuer_ne hi, cursor_of_issuer_ne (hi'.trans_ne hi), hcl]

theorem reserve (hw : Scans c k (s, h)) (hr : r.isSweep = false) {i p : ℕ} :
    Scans c k (s.reserve k' i (some p) c',
      .own c' r (s.updateSocket i (SocketResources.reserve (some p) c'))
        (s.reserve k' i (some p) c') ::
      .answer c' r (.unlock .socketCB) ()
        (s.updateSocket i (SocketResources.reserve (some p) c')) ::
      .own c' r s (s.updateSocket i (SocketResources.reserve (some p) c')) :: h) := by
  have hcl := NetworkStack.head_tail_reserve (s := s) (c := c') (k := k') (i := i) (p := p) k
  refine hw.frame rfl hcl.1 hcl.2 ?_ rfl rfl
  rw [phase_own hr, phase_answer (Or.inl hr), phase_own hr]

/-- The sweep of the client looks at the slot at its head. -/
theorem enter (hw : Scans c k (s, h)) (hr : r.isSweep = true) (hi : issuer h = c')
    (hk : s.IsClientAt c k)
    (hp : phase h = .rest ∨ phase h = .advanced ∧ (s.clients k').head ≠ (s.clients k').tail)
    (hkk : c' = c → k' = k) : Scans c k (s, .answer c' r .preempt () s :: h) := by
  by_cases hc : c' = c
  · obtain rfl := hc
    obtain rfl := hkk rfl
    have hscan : (Entry.answer c' r .preempt () s).scan c' =
        some (.look (s.clients k').head (s.reportable c' (s.clients k').head)) := by
      rw [Entry.scan, if_pos ⟨hr, rfl⟩, NetworkStack.headOf_eq hk]
    have hphase : phase (.answer c' r .preempt () s :: h) =
        .examining (s.reportable c' (s.clients k').head) := by
      rw [phase, if_pos hr, phaseBy, NetworkStack.headOf_eq hk]
    have hrun := Run.look (s.reportable c' (s.clients k').head) hw ?_
    · rw [Scans, scanned_cons_some hscan, cursor_of_issuer hi, hphase]
      exact hrun
    · rw [cursor_of_issuer hi]
      rcases hp with hp | ⟨hp, hne⟩
      · exact Or.inl (congrArg SweepPhase.stage hp)
      · exact Or.inr ⟨congrArg SweepPhase.stage hp, hne⟩
  · refine hw.foreign (hi.trans_ne hc) rfl rfl rfl (scanned_cons_none ?_)
    exact if_neg fun h ↦ hc h.2

/-- The sweep of the client takes a record of the slot at its head. -/
theorem snapshot (hw : Scans c k (s, h)) (hr : r.isSweep = true) (hi : issuer h = c')
    (hk : s.IsClientAt c k) (hp : phase h = .examining true) {i : ℕ} {bits : Finset OsSockEv} :
    Scans c k (s.updateSocket i (SocketResources.clear bits),
      .own c' r s (s.updateSocket i (SocketResources.clear bits)) ::
      .answer c' r (.lock .stackTS) () s :: h) := by
  by_cases hc : c' = c
  · obtain rfl := hc
    have hscan : (Entry.answer c' r (.lock .stackTS) () s).scan c' =
        some (.report (s.clients k).head) := by
      rw [Entry.scan, if_pos ⟨hr, rfl⟩, NetworkStack.headOf_eq hk]
    have hphase : phase (.own c' r s (s.updateSocket i (SocketResources.clear bits)) ::
        .answer c' r (.lock .stackTS) () s :: h) = .taken (s.eventRecord (s.headOf c')) := by
      rw [phase, if_pos hr, phase, if_pos hr, phaseBy, phaseByWrite]
    have hrun := Run.report hw ?_
    · rw [Scans, scanned_cons_none rfl, scanned_cons_some hscan, cursor_of_issuer hi, hphase]
      exact hrun
    · rw [cursor_of_issuer hi]
      exact congrArg SweepPhase.stage hp
  · refine hw.foreign (hi.trans_ne hc) rfl rfl rfl ?_
    rw [scanned_cons_none rfl]
    exact scanned_cons_none (if_neg fun h ↦ hc h.2)

theorem put (hw : Scans c k (s, h)) (hr : r.isSweep = true) {offset : ℕ} {evt : OsSocketEvt}
    (hp : phase h = .taken evt) : Scans c k (s, .answer c' r (.putEvent offset evt) () s :: h) := by
  refine hw.same rfl ?_ rfl
  have hphase : phase (.answer c' r (.putEvent offset evt) () s :: h) = .written := by
    rw [phase, if_pos hr, phaseBy]
  rw [cursor, cursor, hphase, hp]
  rfl

/-- The sweep of the client moves on. -/
theorem advance (hw : Scans c k (s, h)) (hr : r.isSweep = true) (hi : issuer h = c')
    (hp : phase h = .examining false ∨ phase h = .written) (hkk : c' = c ↔ k' = k) :
    Scans c k (s.advanceHead k', .own c' r s (s.advanceHead k') :: h) := by
  by_cases hc : c' = c
  · obtain rfl := hkk.1 hc
    obtain rfl := hc
    have hphase : phase (.own c' r s (s.advanceHead k') :: h) = .advanced := by
      rw [phase, if_pos hr]
      rcases hp with hp | hp <;> rw [hp, phaseByWrite] <;> exact fun _ h ↦ SweepPhase.noConfusion h
    have hrun := Run.move hw ?_
    · have hq : cursor c' k' (s.advanceHead k', .own c' r s (s.advanceHead k') :: h) =
          ⟨.moved, RoundRobin.next s.numberOfSockets (s.clients k').head, (s.clients k').tail⟩ := by
        rw [cursor_of_issuer hi, hphase, NetworkStack.advanceHead,
          NetworkStack.updateClient_clients_self]
        rfl
      rw [Scans, scanned_cons_none rfl, hq]
      exact hrun
    · rw [cursor_of_issuer hi]
      rcases hp with hp | hp
      · exact Or.inl (congrArg SweepPhase.stage hp)
      · exact Or.inr (congrArg SweepPhase.stage hp)
  · have hne : k ≠ k' := fun h ↦ hc (hkk.2 h.symm)
    have hcl : (s.advanceHead k').clients k = s.clients k :=
      NetworkStack.updateClient_clients_of_ne hne
    exact hw.foreign (hi.trans_ne hc) rfl rfl hcl rfl

/-- The tail of the client meets its head. -/
theorem setTail (hw : Scans c k (s, h)) (hr : r.isSweep = true) (hi : issuer h = c')
    (hp : phase h = .advanced) (hkk : c' = c ↔ k' = k) :
    Scans c k (s.updateClient k' fun cl ↦ { cl with tail := cl.head },
      .own c' r s (s.updateClient k' fun cl ↦ { cl with tail := cl.head }) :: h) := by
  by_cases hc : c' = c
  · obtain rfl := hkk.1 hc
    obtain rfl := hc
    have hrun := Run.settle hw ?_
    · have hq : cursor c' k' (s.updateClient k' fun cl ↦ { cl with tail := cl.head },
          .own c' r s (s.updateClient k' fun cl ↦ { cl with tail := cl.head }) :: h) =
          ⟨.moved, (s.clients k').head, (s.clients k').head⟩ := by
        rw [cursor_of_issuer hi, phase, if_pos hr, hp, NetworkStack.updateClient_clients_self]
        rfl
      rw [Scans, scanned_cons_none rfl, hq]
      rw [cursor_of_issuer hi, hp] at hrun
      exact hrun
    · rw [cursor_of_issuer hi]
      exact congrArg SweepPhase.stage hp
  · have hne : k ≠ k' := fun h ↦ hc (hkk.2 h.symm)
    have hcl : (s.updateClient k' fun cl ↦ { cl with tail := cl.head }).clients k = s.clients k :=
      NetworkStack.updateClient_clients_of_ne hne
    exact hw.foreign (hi.trans_ne hc) rfl rfl hcl rfl

/-- An RPC ends. -/
theorem reply (hw : Scans c k (s, h)) {a : Reply}
    (hp : phase h = .rest ∨ phase h = .advanced ∧ ∀ l, (s.clients l).head = (s.clients l).tail) :
    Scans c k (s, .reply c' r a s :: h) := by
  have hq : (cursor c k (s, h)).stage = .idle ∨
      (cursor c k (s, h)).stage = .moved ∧ (s.clients k).head = (s.clients k).tail := by
    by_cases hi : issuer h = c
    · rw [cursor_of_issuer hi]
      rcases hp with hp | ⟨hp, hall⟩
      · exact Or.inl (congrArg SweepPhase.stage hp)
      · exact Or.inr ⟨congrArg SweepPhase.stage hp, hall k⟩
    · rw [cursor_of_issuer_ne hi]
      exact Or.inl rfl
  rw [Scans, scanned_cons_some rfl, cursor_of_rest rfl]
  exact Run.rest hw hq

end Scans

theorem Micro.scans (hs : Micro pl w w') (hk : w.1.IsClientAt c k) (hw : Scans c k w) :
    Scans c k w' := by
  -- a sweep of the same client works on the same client record
  have hsame : ∀ {s : NetworkStack} {c' k'}, s.IsClientAt c k → s.IsClientAt c' k' →
      (c' = c ↔ k' = k) := by
    intro s c' k' hk hk'
    constructor
    · rintro rfl
      exact Option.some.inj (hk'.symm.trans hk)
    · rintro rfl
      exact hk'.clientId.symm.trans hk.clientId
  cases hs with
  | @begin s h _ r _ hp =>
    have hq : cursor c k (s, h) = _ := cursor_of_rest hp
    exact hw.same rfl ((cursor_of_rest rfl).trans hq.symm) rfl
  | own hr ho =>
    obtain ⟨hhead, htail, hn⟩ := ho.head_tail hr k
    exact hw.frame hn hhead htail (phase_own hr) rfl rfl
  | reserve hr => exact hw.reserve hr.isSweep
  | answer e b hm =>
    exact hw.frame rfl rfl rfl (phase_answer hm) rfl (scanned_cons_none (scan_answer hm))
  | enter hr hi hk' hp => exact hw.enter hr hi hk hp (hsame hk hk').1
  | snapshot hr hi _ hp _ => exact hw.snapshot hr hi hk hp
  | put hr _ _ hp => exact hw.put hr hp
  | advance hr hi hk' hp => exact hw.advance hr hi hp (hsame hk hk')
  | @flagSelf s h c' r k' hr _ hk' hp =>
    have hf : SameFrame s (s.updateClient k' Client.flag) := SameFrame.updateClient k' true
    refine hw.frame rfl (hf.client_head k) (hf.client_tail k) ?_ rfl rfl
    rw [phase, if_pos hr, hp, phaseByWrite]
    exact fun _ h ↦ SweepPhase.noConfusion h
  | setTail hr hi hk' hp => exact hw.setTail hr hi hp (hsame hk hk')
  | event hcb =>
    have hel : Elsewhere pl w w' := elsewhere_callbackStep hcb
    obtain ⟨ev, -, -, hh⟩ := hcb
    refine hw.frame hel.frame.numberOfSockets (hel.frame.client_head k) (hel.frame.client_tail k)
      hel.phase hel.issuer ?_
    rw [hh]
    exact scanned_cons_none rfl
  | @notified s h =>
    have hf : SameFrame s s.notifyClientsAboutPendingEvents.1 := NetworkStack.sameFrame_notify
    exact hw.frame hf.numberOfSockets (hf.client_head k) (hf.client_tail k) rfl rfl rfl
  | reply a hp => exact hw.reply hp
  | setState => exact hw.frame rfl rfl rfl rfl rfl rfl

/-- **The sweeps of a client are a run of its cursor**, in every world that steps lead to. -/
theorem Stepped.scans (h : Stepped pl cfg w) (hk : w.1.IsClientAt c k) : Scans c k w := by
  induction h with
  | refl =>
    have hstart : cursor c k (cfg.init, []) =
        ⟨.idle, (cfg.client k).head, (cfg.client k).head⟩ := by
      rw [cursor_of_rest rfl, ← Config.ringInv_init.rest rfl k]
      rfl
    rw [Scans, hstart]
    exact Run.start (Config.ringInv_init.head_lt k)
  | tail hsteps hs ih =>
    have hk' := (hs.tableStep.sameSetup.isClientAt c k).1 hk
    exact hs.scans hk' (ih hk')

end

end NetworkStackPicoTcp
