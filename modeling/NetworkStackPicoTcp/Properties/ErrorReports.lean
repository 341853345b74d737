import NetworkStackPicoTcp.Invariants.Lifetime
import NetworkStackPicoTcp.Invariants.Sections
import NetworkStackPicoTcp.Properties.Events

/-!
# Error reports

A slot has one `currentError`. The callback stores the cause of an error there, and so does every
operation with the `pico_err` that it finds after its picoTCP call, whether the call has failed or
not, while the bit of the event stays set until the next sweep. So a record with that bit tells its
cause as long as the operations on the handle find nothing else in `pico_err` while the bit is set,
and callbacks for an error find the slot of their socket, and no other (`errors_told`).
-/

namespace NetworkStackPicoTcp

open Trace (Always)

variable {pl : Platform} {sched : Schedule} {cfg : Config} {c : ℤ} {r : RpcCall} {w w' : World}

/-! ### What is copied to a slot -/

/-- The `pico_err` that `create` copies to the slot that it has reserved: what it has read after
`pico_socket_open`, once the slot has it. -/
def Thread.fillsIn (t : Thread) (i : ℕ) (rec : SocketResources) : RpcCall → Option PicoErr
  | .create _ _ _ =>
    if t.reserved = some i then
      (t.lastRead.map Prod.fst).filter fun e ↦ rec.currentError = picoErr2Os e
    else none
  | _ => none

/-- The `pico_err` that the entry copies to slot `i`: a callback for an error copies it to the slot
that it finds, an operation to the slot of its handle, and `create` to the slot that it has
reserved. -/
def Entry.copied (i : ℕ) (x : Entry) (earlier : History) : Option PicoErr :=
  match x with
  | .event ev s _ =>
    if .err ∈ ev.eventMask ∧ s.getHandleFromImplementationSocket ev.socket = some i then
      some ev.picoErr
    else none
  | .own _ r _ s' =>
    if r.handle = some (i : ℤ) then (thread earlier).justRead
    else (thread earlier).fillsIn i (s'.sockets i) r
  | _ => none

/-- The error that the entry raises on the picoTCP socket that slot `i` was reserved for. -/
def Entry.raisedError (i : ℕ) (x : Entry) (earlier : History) : Option PicoErr :=
  match x with
  | .event ev s _ =>
    if .err ∈ ev.eventMask ∧ (s.sockets i).status = .inUse ∧
        (s.sockets i).implementationSocket = ev.socket ∧ ∃ p ∈ ev.socket, Alive i p earlier then
      some ev.picoErr
    else none
  | _ => none

/-- The error that was raised last on the picoTCP socket that slot `i` was reserved for, since it
was. -/
def lastError (i : ℕ) : History → Option PicoErr
  | [] => none
  | x :: earlier =>
    if x.reserves i then none else (x.raisedError i earlier).or (lastError i earlier)

/-- What the last error that was raised on the socket of slot `i` means to the client. -/
def cause (i : ℕ) (h : History) : Option OsError := (lastError i h).map picoErr2Os

/-- A callback for an error that finds slot `i` is for the last error on the slot's socket, or one
of the same meaning. While the slot has the ERROR bit, no other error is raised on its socket behind
its back, and every operation on its handle that looks at `pico_err` finds one of the same meaning
there. -/
def Entry.keepsCause (i : ℕ) (x : Entry) (earlier : History) : Prop :=
  match x with
  | .event ev s _ => .err ∈ ev.eventMask →
      if s.getHandleFromImplementationSocket ev.socket = some i then
        cause i (x :: earlier) = some (picoErr2Os ev.picoErr)
      else .error ∈ (s.sockets i).eventMask → cause i (x :: earlier) = cause i earlier
  | .answer _ r .picoErr e s => r.handle = some (i : ℤ) → .error ∈ (s.sockets i).eventMask →
      cause i earlier = some (picoErr2Os e)
  | _ => True

/-- The error of slot `i` with the ERROR bit is the last one on its socket, and so is what an
operation on its handle has just read. -/
structure Caused (i : ℕ) (w : World) : Prop where
  stored : .error ∈ (w.1.sockets i).eventMask → cause i w.2 = some (w.1.sockets i).currentError
  read : ∀ c r e, (thread w.2).current = some (c, r) → (thread w.2).justRead = some e →
    r.handle = some (i : ℤ) → .error ∈ (w.1.sockets i).eventMask →
    cause i w.2 = some (picoErr2Os e)

section

variable {t : Thread} {s s' : NetworkStack} {h : History} {i : ℕ} {e : PicoErr}
  {rec : SocketResources} {x : Entry}

theorem cause_cons (hx : ¬ x.reserves i) (hn : x.raisedError i h = none) :
    cause i (x :: h) = cause i h := by
  rw [cause, lastError, if_neg hx, hn, Option.none_or, ← cause]

theorem Thread.fillsIn_eq_some (he : t.fillsIn i rec r = some e) :
    rec.currentError = picoErr2Os e := by
  cases r with
  | create =>
    rw [Thread.fillsIn] at he
    split_ifs at he
    exact of_decide_eq_true (Option.filter_eq_some_iff.1 he).2
  | _ => exact absurd he (by simp [Thread.fillsIn])

/-- What is copied is stored. -/
theorem currentError_of_copied (hw : (thread h).MayWrite pl c r s s')
    (he : (Entry.own c r s s').copied i h = some e) :
    (s'.sockets i).currentError = picoErr2Os e := by
  by_cases hr : r.handle = some (i : ℤ)
  · have hj : (thread h).justRead = some e := by rwa [Entry.copied, if_pos hr] at he
    rw [Thread.MayWrite, hj] at hw
    obtain ⟨l, pc, b, hs⟩ := hw
    obtain rfl : i = l := Int.ofNat_inj.1 (Option.some.inj (hr.symm.trans hs.handle))
    rw [hs.eq, NetworkStack.updateSocket_sockets_self]
    rfl
  · rw [Entry.copied, if_neg hr] at he
    exact Thread.fillsIn_eq_some he

/-- Nothing else is stored, but that a slot without events is reset when it is reserved or freed. -/
theorem Thread.Alters.currentError (ha : (thread h).Alters pl c r s i (s'.sockets i))
    (hclean : (s.sockets i).status = .free → (s.sockets i).Clean)
    (hn : (Entry.own c r s s').copied i h = none) :
    (s'.sockets i).currentError = (s.sockets i).currentError ∨
      (s'.sockets i).currentError = .success ∧ (s'.sockets i).eventMask = ∅ := by
  rw [Entry.copied] at hn
  generalize s'.sockets i = rec at ha hn
  cases ha with
  | same | clear | adopt | accepted => exact Or.inl rfl
  | store hj hr =>
    rw [if_pos hr, hj] at hn
    exact absurd hn (by simp)
  | acceptPending => exact Or.inl (s.sockets i).acceptPending_currentError
  | reserve hi =>
    exact Or.inr ⟨rfl, (hclean (NetworkStack.firstFree_eq_some_iff.1 hi).1).eventMask⟩
  | create hr hi hl =>
    subst hr
    rw [if_neg (by simp [RpcCall.handle]), Thread.fillsIn, if_pos hi, hl] at hn
    exact absurd hn (by simp [SocketResources.create])
  | release => exact Or.inr ⟨rfl, rfl⟩

theorem PicoEvent.error_mem_raised {ev : PicoEvent} : .error ∈ ev.raised ↔ .err ∈ ev.eventMask := by
  simp only [PicoEvent.raised, Finset.mem_union]
  grind

/-- An operation stores what it has just read after its picoTCP call, and `create` what it has read
after `pico_socket_open`. -/
theorem Entry.justRead_or_reserved_of_copied (hx : (Entry.own c r s s').copied i h = some e) :
    r.handle = some (i : ℤ) ∧ (thread h).justRead = some e ∨
      (∃ domain type pHandle, r = .create domain type pHandle) ∧ (thread h).reserved = some i := by
  rw [Entry.copied] at hx
  split_ifs at hx with hr
  · exact Or.inl ⟨hr, hx⟩
  · right
    cases r with
    | create domain type pHandle =>
      rw [Thread.fillsIn] at hx
      split_ifs at hx with hi
      exact ⟨⟨_, _, _, rfl⟩, hi⟩
    | _ => exact absurd hx (by simp [Thread.fillsIn])

namespace Caused

/-- An entry that raises no error and writes nothing. -/
theorem frame (hw : Caused i (s, h)) (hs : s'.sockets = s.sockets) (hx : ¬ x.reserves i)
    (hn : x.raisedError i h = none) (hj : (thread (x :: h)).justRead = none) :
    Caused i (s', x :: h) := by
  refine ⟨fun hi ↦ ?_, fun _ _ _ _ hj' ↦ absurd (hj.symm.trans hj') (by simp)⟩
  rw [cause_cons hx hn]
  rw [hs] at hi ⊢
  exact hw.stored hi

theorem answer {call : Call} {b : call.Answer} (hw : Caused i (s, h))
    (hc : (thread h).current = some (c, r)) (hk : (Entry.answer c r call b s).keepsCause i h) :
    Caused i (s, .answer c r call b s :: h) := by
  refine ⟨fun hi ↦ (cause_cons id rfl).trans (hw.stored hi), fun c' r' e hc' hj hr hi ↦ ?_⟩
  obtain ⟨c₁, r₁, s₁, older, hnew⟩ := justRead_eq_some hj
  obtain ⟨hanswer, rfl⟩ := List.cons.inj hnew
  obtain ⟨rfl, rfl, rfl, hb, rfl⟩ := Entry.answer.inj hanswer
  obtain rfl := eq_of_heq hb
  have hcur : (thread h).current = some (c', r') := by
    rwa [thread_cons, Thread.step, Thread.answered_current] at hc'
  obtain ⟨rfl, rfl⟩ := Prod.mk.inj (Option.some.inj (hc.symm.trans hcur))
  exact (cause_cons id rfl).trans (hk hr hi)

theorem own (hw : Caused i (s, h)) (hds : Deeds pl (cfg.init, []) (s, h))
    (hc : (thread h).current = some (c, r)) (hm : (thread h).MayWrite pl c r s s')
    (hfill : (Entry.own c r s s').fillsAtOnce h) : Caused i (s', .own c r s s' :: h) := by
  refine ⟨fun hi ↦ ?_, fun _ _ _ _ hj ↦ ?_⟩
  · have ht := Deeds.tidy hds
    have hi₀ : .error ∈ (s.sockets i).eventMask := (hm.alters i).eventMask_subset hi
    have hempty : (s.sockets i).eventMask ≠ ∅ := Finset.ne_empty_of_mem hi₀
    have hres : ¬ (Entry.own c r s s').reserves i := fun hres ↦ hempty (ht.clean i hres.1).eventMask
    rw [cause_cons hres rfl]
    show cause i h = some (s'.sockets i).currentError
    cases hx : (Entry.own c r s s').copied i h with
    | none =>
      obtain hsame | ⟨-, hclear⟩ := (hm.alters i).currentError (ht.clean i) hx
      · rw [hsame]
        exact hw.stored hi₀
      · exact absurd (hclear ▸ hi) (Finset.notMem_empty _)
    | some e =>
      rw [currentError_of_copied hm hx]
      obtain ⟨hr, hj⟩ | ⟨⟨domain, type, pHandle, rfl⟩, hreserved⟩ :=
        Entry.justRead_or_reserved_of_copied hx
      · exact hw.read c r e hc hj hr hi₀
      · -- the slot that `create` fills in has no bits
        obtain ⟨j, hj⟩ | ⟨-, hcalm⟩ := hfill
        · exact absurd ((hm.unreserved hj).symm.trans hreserved) (by simp)
        · exact absurd (Deeds.eventMask_of_calm hds hreserved hcalm) hempty
  · exact absurd (Thread.wrote_justRead.symm.trans hj) (by simp)

theorem event (hw : Caused i w) (hcb : CallbackStep w w') (hk : Always (Entry.keepsCause i) w'.2) :
    Caused i w' := by
  obtain ⟨ev, -, hh, hslot⟩ := hcb.slot i
  rw [hh] at hk
  refine ⟨fun hi ↦ ?_, fun _ _ _ _ hj ↦ ?_⟩
  · have hraised : .err ∉ ev.eventMask → cause i w'.2 = cause i w.2 := fun he ↦ by
      rw [hh]
      exact cause_cons id (if_neg fun h ↦ he h.1)
    have hkeep : .err ∈ ev.eventMask → _ := hk.1
    obtain ⟨hl, hs⟩ | ⟨hl, hs⟩ := hslot <;> rw [hs] at hi ⊢
    · by_cases he : .err ∈ ev.eventMask
      · have hcause := hkeep he
        rw [if_neg hl] at hcause
        rw [hh, hcause hi]
        exact hw.stored hi
      · rw [hraised he]
        exact hw.stored hi
    · rw [SocketResources.recordEvent_currentError]
      split_ifs with he
      · have hcause := hkeep he
        rw [if_pos hl] at hcause
        rw [hh, hcause]
      · rw [hraised he]
        rw [SocketResources.recordEvent_eventMask, Finset.mem_union] at hi
        exact hw.stored (hi.resolve_right fun h ↦ he (PicoEvent.error_mem_raised.1 h))
  · rw [hh] at hj
    exact absurd hj (by simp [Thread.step, Thread.interrupted])

theorem deed (hw : Caused i w) (hds : Deeds pl (cfg.init, []) w) (hd : Deed pl w w')
    (hk : Always (Entry.keepsCause i) w'.2) (hfill : Always Entry.fillsAtOnce w'.2) :
    Caused i w' := by
  cases hd with
  | own hc hm => exact hw.own hds hc hm hfill.1
  | answer _ _ hc => exact hw.answer hc hk.1
  | begin | reply => exact hw.frame rfl id rfl rfl
  | event hcb => exact hw.event hcb hk
  | notified => exact hw.frame NetworkStack.sockets_notify id rfl rfl
  | setState => exact ⟨hw.stored, hw.read⟩

end Caused

/-! ### What clients are told -/

/-- The error in a record of slot `i` with the ERROR bit is the last one on the socket. -/
def Entry.tellsCause (i : ℕ) (x : Entry) (earlier : History) : Prop :=
  ∀ c evt, x.reports c i evt → .error ∈ evt.eventMask → cause i earlier = some evt.currentError

theorem tellsCause_of_taken (hx : x.taken = none) (earlier : History) : x.tellsCause i earlier :=
  fun _ _ hrep ↦ absurd hrep (not_reports_of_taken hx)

theorem Deed.tellsCause (hd : Deed pl w w') (hw : Caused i w)
    (ht : Always (Entry.tellsCause i) w.2) :
    Always (Entry.tellsCause i) w'.2 := by
  cases hd with
  | begin | own | reply | notified => exact ⟨tellsCause_of_taken rfl _, ht⟩
  | @answer s h c r e b =>
    refine ⟨?_, ht⟩
    intro c' evt hrep hmask
    obtain ⟨_, _, hx, -, rfl, rfl⟩ := reports_inv hrep
    obtain ⟨-, -, -, -, rfl⟩ := Entry.answer.inj hx
    exact hw.stored hmask
  | event hcb =>
    obtain ⟨ev, -, -, hh⟩ := hcb
    rw [hh]
    exact ⟨tellsCause_of_taken rfl _, ht⟩
  | setState => exact ht

theorem Deeds.caused (h : Deeds pl (cfg.init, []) w) (hk : Always (Entry.keepsCause i) w.2)
    (hfill : Always Entry.fillsAtOnce w.2) : Caused i w ∧ Always (Entry.tellsCause i) w.2 := by
  have h₀ : Caused i (cfg.init, []) :=
    ⟨fun hi ↦ absurd hi (by simp [Config.init, SocketResources.zero]), fun _ _ _ hc ↦
      absurd hc (by simp [thread])⟩
  induction h with
  | refl => exact ⟨h₀, Trace.always_nil⟩
  | tail hds hd ih =>
    obtain ⟨new, hnew⟩ := hd.suffix
    obtain ⟨hw, ht⟩ := ih (hnew ▸ hk).of_append (hnew ▸ hfill).of_append
    exact ⟨hw.deed hds hd hk hfill, hd.tellsCause hw ht⟩

end

/-- **Error reports carry their cause** in every run in which each callback for an error finds the
slot of its socket and no other, and the operations on the handle find no other error in `pico_err`
while the slot has the ERROR bit: a record with that bit tells the cause of the last error event on
the socket that it reports. -/
theorem errors_told {i : ℕ} {evt : OsSocketEvt} {later earlier : History} {x : Entry}
    (hw : Visited pl sched cfg w) (hkeeps : Always (Entry.keepsCause i) w.2)
    (hsplit : w.2 = later ++ x :: earlier) (hx : x.reports c i evt)
    (herr : .error ∈ evt.eventMask) : cause i earlier = some evt.currentError :=
  (Deeds.caused hw.deeds hkeeps hw.fillsAtOnce).2.at hsplit c evt hx herr

/-! ### Examples -/

instance decidableKeepsCause (i : ℕ) (x : Entry) (earlier : History) :
    Decidable (x.keepsCause i earlier) :=
  match x with
  | .event ev s s' => inferInstanceAs (Decidable (.err ∈ ev.eventMask →
      if s.getHandleFromImplementationSocket ev.socket = some i then
        cause i (.event ev s s' :: earlier) = some (picoErr2Os ev.picoErr)
      else .error ∈ (s.sockets i).eventMask →
        cause i (.event ev s s' :: earlier) = cause i earlier))
  | .answer _ r .picoErr e s => inferInstanceAs (Decidable (r.handle = some (i : ℤ) →
      .error ∈ (s.sockets i).eventMask → cause i earlier = some (picoErr2Os e)))
  | .answer _ _ (.lock _) .. | .answer _ _ (.unlock _) .. | .answer _ _ (.pico _) ..
  | .answer _ _ .notifyMainLoop .. | .answer _ _ (.stringToIpv4 _) ..
  | .answer _ _ (.putEvent _ _) .. | .answer _ _ .preempt .. | .answer _ _ .nullDeref ..
  | .answer _ _ .diverge .. => .isTrue trivial
  | .begin .. | .own .. | .notified .. | .reply .. => .isTrue trivial

/-- The connection of the picoTCP socket 7 has timed out. -/
def timedOut : PicoEvent := ⟨{.err}, some 7, false, .other, .etimedout⟩

/-- The connection of client 101's socket has timed out. -/
def sampleTimedOut : World := iterate [timedOut] sampleCreated

/-- Client 101 collects its events. -/
def collected (w : World) : World :=
  served samplePlatform 101 (.getPendingEvents 64 (some 0)) (obliging none none) (fun _ w ↦ w) w

theorem reachable_sampleTimedOut (sched : Schedule) :
    Reachable samplePlatform sched (sampleConfig 5) sampleTimedOut :=
  reachable_iterate (reachable_sampleCreated sched) (by simp [timedOut])

/-- Then the client binds the socket, and `pico_socket_bind` succeeds. -/
def sampleForgotten : World :=
  served samplePlatform 101 (.bind 0 (some ⟨.replicate 16 0, 80⟩)) (obliging none none)
    (fun _ w ↦ w)
    sampleTimedOut

theorem reachable_collected {w : World} (hw : Reachable samplePlatform sched (sampleConfig 5) w)
    (hc : w.1.IsClient 101) (hdone : (serve samplePlatform 101 (.getPendingEvents 64 (some 0))
      (obliging none none) (fun _ w ↦ w) w).isSome = true) :
    Reachable samplePlatform sched (sampleConfig 5) (collected w) :=
  reachable_served hw (interference_refl sched) hc hdone

/-- `pico_socket_bind` returns `ret` and leaves `pico_err` at `e`. -/
def binding (ret : ℤ) (e : PicoErr) : (c : Call) → Option c.Answer
  | .pico (.bind _ _ _) => some ret
  | .picoErr => some e
  | c => obliging none none c

/-- Then the client binds the socket, and `pico_socket_bind` fails for the same reason. -/
def sampleStillTimedOut : World :=
  served samplePlatform 101 (.bind 0 (some ⟨.replicate 16 0, 80⟩)) (binding (-1) .etimedout)
    (fun _ w ↦ w)
    sampleTimedOut

/-- A client that collects the event after that is told the cause. -/
theorem errors_told_sampleStillTimedOut :
    (sampleStillTimedOut.1.eventRecord 0).currentError = picoErr2Os .etimedout := by
  have hc : sampleTimedOut.1.IsClient 101 := ⟨0, rfl⟩
  have hw : Reachable samplePlatform .free (sampleConfig 5) sampleStillTimedOut :=
    reachable_served (reachable_sampleTimedOut .free) (interference_refl .free) hc rfl
  have hc' : sampleStillTimedOut.1.IsClient 101 := ⟨0, rfl⟩
  have hsplit : (collected sampleStillTimedOut).2 = (collected sampleStillTimedOut).2.take 16 ++
      .answer 101 (.getPendingEvents 64 (some 0)) (.lock .stackTS) () sampleStillTimedOut.1 ::
        (collected sampleStillTimedOut).2.drop 17 := rfl
  have htold := errors_told (i := 0) (.reachable (reachable_collected hw hc' rfl)) (by decide)
    hsplit
    ⟨rfl, rfl⟩ (by decide)
  have hcause : cause 0 ((collected sampleStillTimedOut).2.drop 17) =
      some (picoErr2Os .etimedout) := by
    decide
  exact Option.some.inj (htold.symm.trans hcause)

/-- A client that uses the socket first is told that there was no error. -/
theorem error_lost_sampleForgotten :
    ¬ ∀ (pl : Platform) (sched : Schedule) (cfg : Config) (w : World) (c : ℤ) (i : ℕ)
      (evt : OsSocketEvt) (x : Entry) (later earlier : History), Visited pl sched cfg w →
      w.2 = later ++ x :: earlier → x.reports c i evt → .error ∈ evt.eventMask →
      cause i earlier = some evt.currentError := by
  intro hall
  have hc : sampleTimedOut.1.IsClient 101 := ⟨0, rfl⟩
  have hw : Reachable samplePlatform .free (sampleConfig 5) sampleForgotten :=
    reachable_served (reachable_sampleTimedOut .free) (interference_refl .free) hc rfl
  have hc' : sampleForgotten.1.IsClient 101 := ⟨0, rfl⟩
  have hsplit : (collected sampleForgotten).2 = (collected sampleForgotten).2.take 16 ++
      .answer 101 (.getPendingEvents 64 (some 0)) (.lock .stackTS) () sampleForgotten.1 ::
        (collected sampleForgotten).2.drop 17 := rfl
  have htold := hall samplePlatform .free (sampleConfig 5) (collected sampleForgotten) 101 0
    (sampleForgotten.1.eventRecord 0) _ _ _ (.reachable (reachable_collected hw hc' rfl)) hsplit
    ⟨rfl, rfl⟩ (by decide)
  exact absurd htold (by decide)

end NetworkStackPicoTcp
