import NetworkStackPicoTcp.Invariants.Records
import NetworkStackPicoTcp.Properties.HandleTable

/-!
# Events are delivered

Over whole runs, with callbacks and sweeps in any order: a one-shot event is told exactly once per
raise, a level event is told until it is consumed, and nothing is told that was not raised
(`events_delivered`). What reaches an accepted socket before it has a handle is not remembered
(`read_set_iff`).
-/

namespace NetworkStackPicoTcp

open Trace (Since Always)

variable {pl : Platform} {sched : Schedule} {cfg : Config} {c : ℤ} {r : RpcCall}

section

variable {x y e : Entry} {i : ℕ} {b : OsSockEv} {evt : OsSocketEvt} {w : World}
  {newer older earlier later : History}

/-- A record consumes the one-shot bits of its slot. -/
theorem consumes_of_reports (h : x.reports c i evt) (hb : b ∈ oneShotEvents) : x.consumes i b := by
  obtain ⟨r, s, rfl, hr, hi, -⟩ := reports_inv h
  exact ⟨hr, hi, hb⟩

/-- Nothing but a record consumes a one-shot bit. -/
theorem reports_of_consumes (h : x.consumes i b) (hb : b ∈ oneShotEvents) :
    ∃ c evt, x.reports c i evt := by
  cases x with
  | answer c r e a s =>
    cases e with
    | lock m =>
      cases m with
      | stackTS =>
        obtain ⟨hr, rfl, -⟩ := h
        exact ⟨c, s.eventRecord (s.headOf c), by rw [Entry.taken, if_pos hr], rfl⟩
      | socketCB => exact h.elim
    | _ => exact h.elim
  | own c r s s' =>
    obtain ⟨-, -, -, ⟨-, rfl, -⟩ | ⟨-, rfl⟩ | ⟨-, rfl⟩⟩ := h <;> exact absurd hb (by decide)
  | _ => exact h.elim

theorem occupied_of_raises (h : x.raises i b) : x.occupied i := by
  cases x with
  | event ev s s' => exact h.2.1
  | _ => exact h.elim

/-- A raised bit that is not consumed while its handle stays in use is outstanding. -/
theorem outstanding_of_raises (hst : Stays i w) (hw : ∃ newest, w.2 = newest ++ newer ++ e :: older)
    (he : e.raises i b) (hrel : ∀ y ∈ newer, ¬ y.releases i)
    (hcons : ∀ y ∈ newer, ¬ y.consumes i b) : Outstanding i b (newer ++ e :: older) := by
  refine Trace.since_iff.2 ⟨newer, e, older, rfl, he, fun y hy ↦ ?_⟩
  exact ⟨hcons y hy, hrel y hy, hst.not_reserves hw (occupied_of_raises he) hrel y hy⟩

end

/-- **Events are delivered.** In every world that a run passes through, provided that handles in use
have different picoTCP sockets whenever a callback runs:
* the clients have been given all records taken, in their order, but perhaps the newest;
and for every record taken of a slot,
* a one-shot bit is in it if it was raised while the handle was in use and this is the next record,
  and it is not in it if there has been a record since it was last raised;
* any other bit is in it if it was raised and has not been consumed, while the handle stayed in use;
* every bit in it was raised since the handle was reserved. -/
theorem events_delivered {w : World} (hw : Visited pl sched cfg w) (hd : DistinctSockets w.2) :
    (taken w.2 = written w.2 ∨ ∃ rec, taken w.2 = rec :: written w.2) ∧
    ∀ (c : ℤ) (i : ℕ) (evt : OsSocketEvt) (later earlier : History) (x : Entry),
      w.2 = later ++ x :: earlier → x.reports c i evt →
      (∀ b ∈ oneShotEvents, ∀ newer e older, earlier = newer ++ e :: older → e.raises i b →
        (∀ y ∈ newer, ¬ y.releases i) → (∀ y ∈ newer, ∀ c' evt', ¬ y.reports c' i evt') →
        b ∈ evt.eventMask) ∧
      (∀ b ∈ oneShotEvents, b ∈ evt.eventMask → ∀ newer y older c' evt',
        earlier = newer ++ y :: older → y.reports c' i evt' → ∃ e ∈ newer, e.raises i b) ∧
      (∀ b ∉ oneShotEvents, ∀ newer e older, earlier = newer ++ e :: older → e.raises i b →
        (∀ y ∈ newer, ¬ y.releases i ∧ ¬ y.consumes i b) → b ∈ evt.eventMask) ∧
      ∀ b ∈ evt.eventMask, ∃ newer e older, earlier = newer ++ e :: older ∧ e.raises i b ∧
        ∀ y ∈ newer, ¬ y.reserves i := by
  have hst := visited_stepped hw
  refine ⟨?_, fun c i evt later earlier x hsplit hx ↦ ?_⟩
  · have hwt : taken w.2 = unwritten w.2 ++ written w.2 := hst.writesTaken
    unfold unwritten at hwt
    split at hwt
    · exact Or.inr ⟨_, hwt⟩
    · exact Or.inl hwt
  have htells : ∀ b, b ∈ evt.eventMask ↔ Outstanding i b earlier :=
    (hst.tellsOutstanding hd).at hsplit c i evt hx
  -- where an entry before the record stands in the whole history
  have hwhole : ∀ {newer older e}, earlier = newer ++ e :: older →
      ∃ newest, w.2 = newest ++ newer ++ e :: older := by
    rintro newer older e rfl
    exact ⟨later ++ [x], by simp [hsplit]⟩
  refine ⟨fun b hb newer e older hearlier he hrel hnext ↦ ?_,
    fun b hb hmem newer y older c' evt' hearlier hy ↦ ?_,
    fun b _ newer e older hearlier he hkept ↦ ?_, fun b hmem ↦ ?_⟩
  · rw [htells, hearlier]
    -- only a record takes a one-shot bit
    refine outstanding_of_raises (hst.stays i) (hwhole hearlier) he hrel fun y hy hcons ↦ ?_
    obtain ⟨c', evt', hrep⟩ := reports_of_consumes hcons hb
    exact hnext y hy c' evt' hrep
  · rw [htells, hearlier, Outstanding, Trace.since_append] at hmem
    -- raised after the earlier record, by it, or before it
    rcases hmem with hraised | ⟨-, hraised | ⟨hkeeps, -⟩⟩
    · obtain ⟨n, e, o, rfl, he, -⟩ := Trace.since_iff.1 hraised
      exact ⟨e, by simp, he⟩
    · obtain ⟨r, s, rfl, -⟩ := taken_eq_some hy.1
      exact hraised.elim
    · exact absurd (consumes_of_reports hy hb) hkeeps.1
  · rw [htells, hearlier]
    exact outstanding_of_raises (hst.stays i) (hwhole hearlier) he (fun y hy ↦ (hkept y hy).1)
      fun y hy ↦ (hkept y hy).2
  · obtain ⟨newer, e, older, rfl, he, hkeeps⟩ := Trace.since_iff.1 ((htells b).1 hmem)
    exact ⟨newer, e, older, rfl, he, fun y hy ↦ (hkeeps y hy).2.2⟩

/-- Client 101 has collected its events after its socket was connected. -/
def sampleSwept : World :=
  served samplePlatform 101 (.getPendingEvents 64 (some 0)) (obliging none none) (fun _ w ↦ w)
    sampleConnected

theorem events_delivered_sampleSwept :
    .connEst ∈ (sampleConnected.1.eventRecord 0).eventMask := by
  have hc : sampleConnected.1.IsClient 101 := ⟨0, rfl⟩
  have hw : Reachable samplePlatform .free (sampleConfig 5) sampleSwept :=
    reachable_served (reachable_sampleConnected .free) (interference_refl .free) hc rfl
  have hsplit : sampleSwept.2 = sampleSwept.2.take 16 ++
      .answer 101 (.getPendingEvents 64 (some 0)) (.lock .stackTS) () sampleConnected.1 ::
        sampleSwept.2.drop 17 := rfl
  obtain ⟨-, hrec⟩ := events_delivered (.reachable hw) (by decide)
  obtain ⟨hnext, -⟩ := hrec 101 0 (sampleConnected.1.eventRecord 0) _ _ _ hsplit ⟨rfl, rfl⟩
  have hraise : sampleSwept.2.drop 17 = (sampleSwept.2.drop 17).take 3 ++
      .event (announce 7 {.conn}) sampleCreated.1 (fire sampleCreated (announce 7 {.conn})).1 ::
        sampleCreated.2 := rfl
  have hnone : ∀ y ∈ (sampleSwept.2.drop 17).take 3, y.taken = none := by decide
  refine hnext .connEst (by decide) _ _ _ hraise ⟨by decide, by decide, by decide, by decide⟩
    (by decide) fun y hy c' evt' hrep ↦ ?_
  exact absurd (hrep.1.symm.trans (hnone y hy)) (by simp)

/-! ### Data that arrives before accept -/

/-- **What a handle knows of received data.** From when a handle was reserved, by `accept` or
`create`, and as long as no receive operation has cleared the bit and the handle has not been
closed, READ is set exactly if a callback has announced data on the handle's socket since. -/
theorem read_set_iff {w : World} {i : ℕ} {x : Entry} {later earlier : History}
    (hw : Visited pl sched cfg w) (hd : DistinctSockets w.2) (hi : i < w.1.numberOfSockets)
    (hsplit : w.2 = later ++ x :: earlier) (hx : x.reserves i)
    (hopen : ∀ y ∈ later, ¬ y.releases i) (hread : ∀ y ∈ later, ¬ y.consumes i .read) :
    .read ∈ (w.1.sockets i).eventMask ↔ ∃ e ∈ later, e.raises i .read := by
  have hst := visited_stepped hw
  have hocc : x.occupied i := by
    cases x with
    | own c r s s' => exact hx.2
    | _ => exact hx.elim
  have hkeeps : ∀ y ∈ later, y.keeps i .read := by
    intro y hy
    refine ⟨hread y hy, hopen y hy, ?_⟩
    exact (hst.stays i).not_reserves ⟨[], hsplit⟩ hocc hopen y hy
  rw [(hst.remembers hd).mask i hi, hsplit, Outstanding, Trace.since_append]
  constructor
  · rintro (hraised | ⟨-, hraised | ⟨hkept, -⟩⟩)
    · obtain ⟨n, e, o, rfl, he, -⟩ := Trace.since_iff.1 hraised
      exact ⟨e, by simp, he⟩
    · cases x with
      | own => exact hraised.elim
      | _ => exact hx.elim
    · exact absurd hx hkept.2.2
  · rintro ⟨e, he, hraises⟩
    obtain ⟨newer, older, rfl⟩ := List.append_of_mem he
    refine Or.inl (Trace.since_iff.2 ⟨newer, e, older, rfl, hraises, fun y hy ↦ ?_⟩)
    exact hkeeps y (by simp [hy])

/-- Client 101's socket is bound. -/
def sampleBound : World :=
  served samplePlatform 101 (.bind 0 (some ⟨.replicate 16 0, 80⟩)) (obliging none none)
    (fun _ w ↦ w) sampleCreated

/-- Client 101's socket is listening. -/
def sampleListening : World :=
  served samplePlatform 101 (.listen 0 2) (obliging none none) (fun _ w ↦ w) sampleBound

theorem reachable_sampleListening (sched : Schedule) :
    Reachable samplePlatform sched (sampleConfig 5) sampleListening := by
  have hcreated : sampleCreated.1.IsClient 101 := ⟨0, rfl⟩
  have hbound : Reachable samplePlatform sched (sampleConfig 5) sampleBound :=
    reachable_served (reachable_sampleCreated sched) (interference_refl sched) hcreated rfl
  have hc : sampleBound.1.IsClient 101 := ⟨0, rfl⟩
  exact reachable_served hbound (interference_refl sched) hc rfl

/-- A connection for client 101's listening socket came in as picoTCP socket 9, data was announced
for it, and then the client accepted it. -/
def sampleAccepted : World :=
  served samplePlatform 101 (.accept 0 (some 0) (some ⟨.replicate 16 0, 0⟩))
    (obliging none (some 9)) (fun _ w ↦ w) (iterate [incoming 7, announce 9 {.rd}] sampleListening)

theorem reachable_sampleAccepted (sched : Schedule) :
    Reachable samplePlatform sched (sampleConfig 5) sampleAccepted := by
  have hw : Reachable samplePlatform sched (sampleConfig 5)
      (iterate [incoming 7, announce 9 {.rd}] sampleListening) :=
    reachable_iterate (reachable_sampleListening sched) (by simp [incoming, announce])
  have hc : (iterate [incoming 7, announce 9 {.rd}] sampleListening).1.IsClient 101 := ⟨0, rfl⟩
  exact reachable_served hw (interference_refl sched) hc rfl

/-- Data announced after the accept is known. -/
theorem read_set_iff_sampleAccepted :
    .read ∈ ((iterate [announce 9 {.rd}] sampleAccepted).1.sockets 1).eventMask := by
  have hw : Reachable samplePlatform .free (sampleConfig 5)
      (iterate [announce 9 {.rd}] sampleAccepted) :=
    reachable_iterate (reachable_sampleAccepted .free) (by simp [announce])
  have hsplit : ∃ s s', (iterate [announce 9 {.rd}] sampleAccepted).2 =
      (iterate [announce 9 {.rd}] sampleAccepted).2.take 14 ++
        .own 101 (.accept 0 (some 0) (some ⟨.replicate 16 0, 0⟩)) s s' ::
          (iterate [announce 9 {.rd}] sampleAccepted).2.drop 15 ∧
      (s.sockets 1).status = .free ∧ (s'.sockets 1).status = .inUse := ⟨_, _, rfl, rfl, rfl⟩
  obtain ⟨s, s', hsplit, hres⟩ := hsplit
  have hiff := read_set_iff (i := 1) (.reachable hw) (by decide) (by decide) hsplit hres (by decide)
    (by decide)
  have hraise : ∃ t t', Entry.event (announce 9 {.rd}) t t' ∈
      (iterate [announce 9 {.rd}] sampleAccepted).2.take 14 ∧
      1 < t.numberOfSockets ∧ (t.sockets 1).status = .inUse ∧
      (t.sockets 1).implementationSocket = some 9 :=
    ⟨_, _, .tail _ (.head _), by decide, rfl, rfl⟩
  obtain ⟨t, t', hmem, hlt, hin, himpl⟩ := hraise
  exact hiff.2 ⟨_, hmem, hlt, hin, himpl, by decide⟩

/-- Data announced before the accept is not. -/
theorem read_not_set_sampleAccepted :
    ¬ ∀ (pl : Platform) (sched : Schedule) (cfg : Config) (w : World) (i : ℕ) (c handle : ℤ)
      (pClientHandle : Option ℤ) (srcAddr : Option OsSocketAddr) (s s' : NetworkStack)
      (later earlier : History), Visited pl sched cfg w → DistinctSockets w.2 →
      w.2 = later ++ .own c (.accept handle pClientHandle srcAddr) s s' :: earlier →
      (Entry.own c (.accept handle pClientHandle srcAddr) s s').reserves i →
      (∀ y ∈ later, ¬ y.releases i) → (∀ y ∈ later, ¬ y.consumes i .read) →
      (∃ newer ev t t' older, w.2 = newer ++ .event ev t t' :: older ∧
        ev.socket = (w.1.sockets i).implementationSocket ∧ .rd ∈ ev.eventMask ∧
        ∀ y ∈ newer, y.frees ev.socket = false) →
      .read ∈ (w.1.sockets i).eventMask := by
  intro hall
  have hsplit : ∃ s s', sampleAccepted.2 = sampleAccepted.2.take 12 ++
      .own 101 (.accept 0 (some 0) (some ⟨.replicate 16 0, 0⟩)) s s' :: sampleAccepted.2.drop 13 ∧
      (s.sockets 1).status = .free ∧ (s'.sockets 1).status = .inUse := ⟨_, _, rfl, rfl, rfl⟩
  obtain ⟨s, s', hsplit, hres⟩ := hsplit
  have hdata : ∃ t t', sampleAccepted.2 = sampleAccepted.2.take 21 ++
      .event (announce 9 {.rd}) t t' :: sampleAccepted.2.drop 22 := ⟨_, _, rfl⟩
  obtain ⟨t, t', hdata⟩ := hdata
  have hread := hall samplePlatform .free (sampleConfig 5) sampleAccepted 1 101 0 _ _ s s' _ _
    (.reachable (reachable_sampleAccepted .free)) (by decide) hsplit hres (by decide) (by decide)
    ⟨_, _, t, t', _, hdata, rfl, by decide, by decide⟩
  revert hread
  decide

end NetworkStackPicoTcp
