import NetworkStackPicoTcp.Properties.ErrorReports

/-!
# Where the error of a socket comes from

If `pico_err` behaves like `errno`, a successful call leaves there what an earlier call has put
there, perhaps a call on another client's socket; and the wrapper copies `pico_err` to the slot
after every call. So a socket's error is its own as long as every operation whose call succeeds
finds a `pico_err` that is clear or was set on the same socket (`errors_own`).
-/

namespace NetworkStackPicoTcp

open Trace (Always)

variable {pl : Platform} {sched : Schedule} {cfg : Config} {c : ℤ} {r : RpcCall} {w w' : World}
  {err : History → PicoErr}

/-! ### `pico_err` as `errno` -/

/-- The picoTCP call fails: its result is negative, or `NULL` where it is a socket. -/
def PicoCall.fails : (pc : PicoCall) → pc.Answer → Bool
  | .socketOpen _ _, p => p = none
  | .accept _, b => b.1 = none
  | .recvfrom _ _ _, b => b.1 < 0
  | .setOption _ _ _, ret => (ret : ℤ) < 0
  | .close _, ret => (ret : ℤ) < 0
  | .connect _ _ _, ret => (ret : ℤ) < 0
  | .bind _ _ _, ret => (ret : ℤ) < 0
  | .listen _ _, ret => (ret : ℤ) < 0
  | .write _ _ _, ret => (ret : ℤ) < 0
  | .read _ _ _, ret => (ret : ℤ) < 0
  | .sendto _ _ _ _ _, ret => (ret : ℤ) < 0

namespace Entry

/-- A failing picoTCP call and an error event set `pico_err`. -/
def setsErr : Entry → Bool
  | .answer _ _ (.pico pc) b _ => pc.fails b
  | .event ev _ _ => .err ∈ ev.eventMask
  | _ => false

/-- A picoTCP call on the socket of slot `i` fails, or an error event is raised on it. The call is
that of an operation on the handle, or one on the picoTCP socket that the slot was reserved for. -/
def failsOn (i : ℕ) (x : Entry) (earlier : History) : Prop :=
  match x with
  | .answer _ r (.pico pc) b s => pc.fails b = true ∧
      (r.issues pc = true ∧ r.handle = some (i : ℤ) ∨
        ∃ p ∈ pc.socket, (s.sockets i).implementationSocket = some p ∧ Alive i p earlier)
  | .event ev s _ => .err ∈ ev.eventMask ∧ (s.sockets i).implementationSocket = ev.socket ∧
      ∃ p ∈ ev.socket, Alive i p earlier
  | _ => False

/-- What the entry shows of `pico_err`: an RPC reads it, or the callback for an error does. -/
def shownErr : Entry → Option PicoErr
  | .answer _ _ .picoErr e _ => some e
  | .event ev _ _ => if .err ∈ ev.eventMask then some ev.picoErr else none
  | _ => none

/-- `err` tells the value of `pico_err` after each history, and behaves like `errno` with this
entry: only a failing call and an error event change it, and it is what is read. -/
def errno (err : History → PicoErr) (x : Entry) (earlier : History) : Prop :=
  (x.setsErr = false → err (x :: earlier) = err earlier) ∧
    ∀ e ∈ x.shownErr, err (x :: earlier) = e

end Entry

/-- In this history `pico_err` behaves like `errno`: it is clear at first, a failing call or an
error event sets it to its cause, and nothing else changes it. -/
structure Errno (err : History → PicoErr) (h : History) : Prop where
  clear : err [] = .noerr
  always : Always (Entry.errno err) h

/-- What has set `pico_err` last was a failing call or an error event on the socket of slot `i`,
since the slot was reserved. -/
def SetBy (i : ℕ) : History → Prop
  | [] => False
  | x :: earlier => x.failsOn i earlier ∨ x.setsErr = false ∧ ¬ x.reserves i ∧ SetBy i earlier

/-- A call on the socket of slot `i` that failed, or an error event on it, since the slot was
reserved, was of the cause `o`. -/
def Produced (err : History → PicoErr) (i : ℕ) (o : OsError) : History → Prop
  | [] => False
  | x :: earlier => x.failsOn i earlier ∧ picoErr2Os (err (x :: earlier)) = o ∨
      ¬ x.reserves i ∧ Produced err i o earlier

/-- A callback for an error finds a slot that was reserved for its socket. When an operation on a
handle copies `pico_err`, its call has failed, or `pico_err` is clear or was set last on the socket
of the handle; and what `create` copies is clear. -/
def Entry.findsOwn : Entry → History → Prop
  | .event ev s _, earlier => .err ∈ ev.eventMask →
      ∀ i ∈ s.getHandleFromImplementationSocket ev.socket, ∃ p ∈ ev.socket, Alive i p earlier
  | .own c r s s', earlier => ∀ i < s.numberOfSockets, ∀ e ∈ (Entry.own c r s s').copied i earlier,
      e = .noerr ∨ r.handle = some (i : ℤ) ∧
        ((∃ x ∈ (thread earlier).lastRead, x.2.1.fails x.2.2 = true) ∨ SetBy i earlier)
  | _, _ => True

section

variable {t : Thread} {s s' : NetworkStack} {h : History} {i : ℕ} {e : PicoErr} {o : OsError}
  {x : Entry}

theorem Produced.cons (hp : Produced err i o h) (hx : ¬ x.reserves i) : Produced err i o (x :: h) :=
  Or.inr ⟨hx, hp⟩

theorem Produced.head (hx : x.failsOn i h) : Produced err i (picoErr2Os (err (x :: h))) (x :: h) :=
  Or.inl ⟨hx, rfl⟩

/-- A `pico_err` that was set last on the socket is an error of the socket. -/
theorem SetBy.produced (hs : SetBy i h) (herr : Always (Entry.errno err) h) :
    Produced err i (picoErr2Os (err h)) h := by
  induction h with
  | nil => exact hs.elim
  | cons x h ih =>
    rcases hs with hx | ⟨hset, hres, hs⟩
    · exact .head hx
    · rw [herr.1.1 hset]
      exact (ih hs herr.2).cons hres

/-- What has just been read is the `pico_err` of now. -/
theorem err_of_justRead (herr : Always (Entry.errno err) h) (hj : (thread h).justRead = some e) :
    err h = e := by
  obtain ⟨c, r, s, older, rfl⟩ := justRead_eq_some hj
  exact herr.1.2 e rfl

/-- What an operation reads after a call of its own that failed has been set on the socket of its
handle. -/
theorem setBy_of_fails {pc : PicoCall} {b : pc.Answer} (hrow : Always Entry.inRow h)
    (hord : Orderly pl h) (hc : (thread h).current = some (c, r))
    (hj : (thread h).justRead = some e)
    (hst : (thread h).Stores r s s' e i pc b) (hfail : pc.fails b = true) :
    SetBy i h := by
  obtain ⟨c₁, r₁, s₁, older, rfl⟩ := justRead_eq_some hj
  obtain ⟨pc', hlast⟩ := hrow.1.1 rfl
  cases older with
  | nil => exact absurd hlast (by simp [lastAnswered])
  | cons x older =>
    cases x with
    | answer c₂ r₂ e₂ b₂ s₂ =>
      obtain rfl : e₂ = .pico pc' := Option.some.inj hlast
      have hread : some (e, (⟨pc', b₂⟩ : (pc : PicoCall) × pc.Answer)) = some (e, ⟨pc, b⟩) := by
        have hcall : (thread (.answer c₂ r₂ (.pico pc') b₂ s₂ :: older)).lastCall =
            some ⟨pc', b₂⟩ :=
          Thread.called_lastCall
        rw [← hst.lastRead, thread_cons, Thread.step, Thread.answered, hcall]
        rfl
      obtain ⟨rfl, hb⟩ := Sigma.mk.inj (Prod.mk.inj (Option.some.inj hread)).2
      obtain rfl := eq_of_heq hb
      -- the call was made by this RPC
      have hsame : (thread older).current = some (c, r) := by
        rw [← hc, thread_cons, Thread.step, Thread.answered_current, thread_cons, Thread.step,
          Thread.answered_current]
      obtain ⟨rfl, rfl⟩ := Prod.mk.inj (Option.some.inj (hord.2.1.1.symm.trans hsame))
      exact Or.inr ⟨rfl, id, Or.inl ⟨hfail, Or.inl ⟨hst.issues, hst.handle⟩⟩⟩
    | _ => exact absurd hlast (by simp [lastAnswered])

/-- The error of every slot in use is clear, or an error of its own. -/
def OwnErrors (err : History → PicoErr) (w : World) : Prop :=
  ∀ i, (w.1.sockets i).status = .inUse → (w.1.sockets i).currentError = .success ∨
    Produced err i (w.1.sockets i).currentError w.2

namespace OwnErrors

/-- An entry that stores nothing. -/
theorem frame (hw : OwnErrors err (s, h)) (hs : s'.sockets = s.sockets) (hx : ∀ i, ¬ x.reserves i) :
    OwnErrors err (s', x :: h) := by
  intro i hin
  rw [hs] at hin ⊢
  exact (hw i hin).imp_right fun hp ↦ hp.cons (hx i)

theorem event (hw : OwnErrors err w) (hcb : CallbackStep w w')
    (herr : Always (Entry.errno err) w'.2)
    (hfinds : Always Entry.findsOwn w'.2) : OwnErrors err w' := by
  intro i hin
  have hin₀ := ((sameFrame_callbackStep hcb).slot i).status.symm.trans hin
  obtain ⟨ev, -, hh, ⟨-, hs⟩ | ⟨hl, hs⟩⟩ := hcb.slot i <;>
    rw [hh] at herr hfinds ⊢ <;> rw [hs]
  · exact (hw i hin₀).imp_right fun hp ↦ hp.cons id
  · rw [SocketResources.recordEvent_currentError]
    split_ifs with he
    · right
      rw [← herr.1.2 ev.picoErr (if_pos he)]
      have hsock := (NetworkStack.getHandleFromImplementationSocket_eq_some_iff.1 hl).1
      exact .head ⟨he, hsock, hfinds.1 he i hl⟩
    · exact (hw i hin₀).imp_right fun hp ↦ hp.cons id

/-- A write stores nothing in a slot in use but an error of its own. -/
theorem own (hw : OwnErrors err (s, h)) (ht : Tidy (s, h))
    (hrow : Always Entry.inRow h) (hord : Orderly pl h) (herr : Always (Entry.errno err) h)
    (hc : (thread h).current = some (c, r)) (hm : (thread h).MayWrite pl c r s s')
    (hfinds : (Entry.own c r s s').findsOwn h) : OwnErrors err (s', .own c r s s' :: h) := by
  intro i hin
  cases hst : (s.sockets i).status with
  | free => exact Or.inl ((hm.alters i).currentError_of_free hst hin)
  | inUse =>
    have hres : ¬ (Entry.own c r s s').reserves i := Entry.not_reserves_of_inUse hst
    cases hx : (Entry.own c r s s').copied i h with
    | none =>
      obtain hsame | ⟨hclear, -⟩ := (hm.alters i).currentError (ht.clean i) hx
      · show (s'.sockets i).currentError = .success ∨ Produced err i (s'.sockets i).currentError _
        rw [hsame]
        exact (hw i hst).imp_right fun hp ↦ hp.cons hres
      · exact Or.inl hclear
    | some e =>
      show (s'.sockets i).currentError = .success ∨ Produced err i (s'.sockets i).currentError _
      rw [currentError_of_copied hm hx]
      obtain rfl | ⟨hr, hown⟩ := hfinds i (ht.inTable i hst) e hx
      · exact Or.inl rfl
      · right
        have hj : (thread h).justRead = some e := by rwa [Entry.copied, if_pos hr] at hx
        rw [Thread.MayWrite, hj] at hm
        obtain ⟨l, pc, b, hstores⟩ := hm
        obtain rfl : l = i := Int.ofNat_inj.1 (Option.some.inj (hstores.handle.symm.trans hr))
        have hset : SetBy l h := by
          obtain ⟨x, hlast, hfail⟩ | hset := hown
          · obtain rfl := Option.some.inj (hstores.lastRead.symm.trans hlast)
            exact setBy_of_fails hrow hord hc hj hstores hfail
          · exact hset
        rw [← err_of_justRead herr hj]
        exact (hset.produced herr).cons hres

theorem deed (hw : OwnErrors err w) (ht : Tidy w)
    (hd : Deed pl w w') (hrow : Always Entry.inRow w'.2) (hord : Orderly pl w'.2)
    (herr : Always (Entry.errno err) w'.2) (hfinds : Always Entry.findsOwn w'.2) :
    OwnErrors err w' := by
  cases hd with
  | own hc hm => exact hw.own ht hrow.2 hord.2 herr.2 hc hm hfinds.1
  | begin | answer | reply => exact hw.frame rfl fun _ ↦ id
  | event hcb => exact hw.event hcb herr hfinds
  | notified => exact hw.frame NetworkStack.sockets_notify fun _ ↦ id
  | setState => exact hw

end OwnErrors

theorem Deeds.ownErrors (h : Deeds pl (cfg.init, []) w) (hrow : Always Entry.inRow w.2)
    (hord : Orderly pl w.2) (herr : Always (Entry.errno err) w.2)
    (hfinds : Always Entry.findsOwn w.2) : OwnErrors err w := by
  have h₀ : OwnErrors err (cfg.init, []) :=
    fun i hin ↦ absurd hin (by simp [Config.init, SocketResources.zero])
  refine Deeds.invariant h h₀ fun w₁ w₂ new ht hd hnew hw ↦ ?_
  rw [hnew] at hrow hord herr hfinds
  exact hw.deed ht hd hrow.of_append hord.of_append herr.of_append hfinds.of_append

end

/-- **A socket's error is its own** in every world of a run in which every callback for an error
finds a slot that was reserved for its socket, each operation whose picoTCP call has succeeded finds
a `pico_err` that is clear or was set last on the socket of its handle, since that was reserved, and
each `create` one that is clear: the error of a slot in use is `OS_SUCCESS`, or the cause of a
failed call or an error event on its socket, since its handle was reserved. -/
theorem errors_own {i : ℕ} (hw : Visited pl sched cfg w) (herr : Errno err w.2)
    (hfinds : Always Entry.findsOwn w.2) (hin : (w.1.sockets i).status = .inUse) :
    (w.1.sockets i).currentError = .success ∨ Produced err i (w.1.sockets i).currentError w.2 :=
  Deeds.ownErrors hw.deeds hw.inRow (visited_orderly hw) herr.always hfinds i hin

/-! ### Examples -/

section Decidable

instance decidableFailsOn (i : ℕ) (x : Entry) (earlier : History) :
    Decidable (x.failsOn i earlier) :=
  match x with
  | .answer _ r (.pico pc) b s => inferInstanceAs (Decidable (pc.fails b = true ∧
      (r.issues pc = true ∧ r.handle = some (i : ℤ) ∨
        ∃ p ∈ pc.socket, (s.sockets i).implementationSocket = some p ∧ Alive i p earlier)))
  | .event ev s _ => inferInstanceAs (Decidable (.err ∈ ev.eventMask ∧
      (s.sockets i).implementationSocket = ev.socket ∧ ∃ p ∈ ev.socket, Alive i p earlier))
  | .answer _ _ (.lock _) .. | .answer _ _ (.unlock _) .. | .answer _ _ .picoErr ..
  | .answer _ _ .notifyMainLoop .. | .answer _ _ (.stringToIpv4 _) ..
  | .answer _ _ (.putEvent _ _) .. | .answer _ _ .preempt .. | .answer _ _ .nullDeref ..
  | .answer _ _ .diverge .. => .isFalse id
  | .begin .. | .own .. | .notified .. | .reply .. => .isFalse id

instance decidableSetBy (i : ℕ) : DecidablePred (SetBy i)
  | [] => .isFalse id
  | x :: earlier =>
    have := decidableSetBy i earlier
    inferInstanceAs (Decidable (x.failsOn i earlier ∨ x.setsErr = false ∧ ¬ x.reserves i ∧
      SetBy i earlier))

instance decidableProduced (err : History → PicoErr) (i : ℕ) (o : OsError) :
    DecidablePred (Produced err i o)
  | [] => .isFalse id
  | x :: earlier =>
    have := decidableProduced err i o earlier
    inferInstanceAs (Decidable (x.failsOn i earlier ∧ picoErr2Os (err (x :: earlier)) = o ∨
      ¬ x.reserves i ∧ Produced err i o earlier))

instance decidableErrno (err : History → PicoErr) (x : Entry) (earlier : History) :
    Decidable (x.errno err earlier) :=
  inferInstanceAs (Decidable ((x.setsErr = false → err (x :: earlier) = err earlier) ∧
    ∀ e ∈ x.shownErr, err (x :: earlier) = e))

instance decidableFindsOwn (x : Entry) (earlier : History) : Decidable (x.findsOwn earlier) :=
  match x with
  | .event ev s _ => inferInstanceAs (Decidable (.err ∈ ev.eventMask →
      ∀ i ∈ s.getHandleFromImplementationSocket ev.socket, ∃ p ∈ ev.socket, Alive i p earlier))
  | .own c r s s' => inferInstanceAs (Decidable (∀ i < s.numberOfSockets,
      ∀ e ∈ (Entry.own c r s s').copied i earlier, e = .noerr ∨ r.handle = some (i : ℤ) ∧
        ((∃ x ∈ (thread earlier).lastRead, x.2.1.fails x.2.2 = true) ∨ SetBy i earlier)))
  | .begin .. | .answer .. | .notified .. | .reply .. => .isTrue trivial

end Decidable

/-- Calls fail because an address is in use, and error events tell their cause. -/
def sampleErr : History → PicoErr
  | [] => .noerr
  | x :: earlier => if x.setsErr then x.shownErr.getD .eaddrinuse else sampleErr earlier

/-- The error of client 101's socket is that of the event on its socket. -/
theorem errors_own_sampleTimedOut :
    Produced sampleErr 0 (sampleTimedOut.1.sockets 0).currentError sampleTimedOut.2 := by
  have herr : Errno sampleErr sampleTimedOut.2 := ⟨by decide, by decide⟩
  have hown :=
    errors_own (i := 0) (.reachable (reachable_sampleTimedOut .free)) herr (by decide) rfl
  exact hown.resolve_left (by decide)

/-- Client 102 has created a socket too. -/
def sampleNeighbour : World :=
  served samplePlatform 102 (.create .inet .stream (some 0)) (obliging (some 8) none) (fun _ w ↦ w)
    sampleCreated

/-- Its `bind` has failed: the address is in use. -/
def sampleInUse : World :=
  served samplePlatform 102 (.bind 1 (some ⟨.replicate 16 0, 80⟩)) (binding (-1) .eaddrinuse)
    (fun _ w ↦ w) sampleNeighbour

/-- And then client 101's `bind` has succeeded. -/
def sampleBlamed : World :=
  served samplePlatform 101 (.bind 0 (some ⟨.replicate 16 0, 81⟩)) (binding 0 .eaddrinuse)
    (fun _ w ↦ w) sampleInUse

theorem reachable_sampleBlamed (sched : Schedule) :
    Reachable samplePlatform sched (sampleConfig 5) sampleBlamed := by
  have h₁ : Reachable samplePlatform sched (sampleConfig 5) sampleNeighbour :=
    reachable_served (reachable_sampleCreated sched) (interference_refl sched) ⟨1, rfl⟩ rfl
  have h₂ : Reachable samplePlatform sched (sampleConfig 5) sampleInUse :=
    reachable_served h₁ (interference_refl sched) ⟨1, rfl⟩ rfl
  exact reachable_served h₂ (interference_refl sched) ⟨0, rfl⟩ rfl

/-- Now client 101's socket has the error of client 102's. -/
theorem error_borrowed_sampleBlamed :
    ¬ ∀ (pl : Platform) (sched : Schedule) (cfg : Config) (err : History → PicoErr) (w : World)
      (i : ℕ), Visited pl sched cfg w → Errno err w.2 → (w.1.sockets i).status = .inUse →
      (w.1.sockets i).currentError = .success ∨
        Produced err i (w.1.sockets i).currentError w.2 := by
  intro hall
  have herr : Errno sampleErr sampleBlamed.2 := ⟨by decide, by decide⟩
  have hown := hall samplePlatform .free (sampleConfig 5) sampleErr sampleBlamed 0
    (.reachable (reachable_sampleBlamed .free)) herr rfl
  exact absurd hown (by decide)

end NetworkStackPicoTcp
