import NetworkStackPicoTcp.Invariants.Stable
import NetworkStackPicoTcp.Properties.Routing

/-!
# Recycled handles

A free slot keeps nothing of the socket that it has held, so `create` and `accept` fill in a slot as
if it had never been used (`RpcCall.asNew`). What picoTCP tells of the new socket while they set its
options is recorded in the slot too (`Fills`), unless a slot below it still holds the address: the
callback finds that one instead (`handles_recycled_iff`).
-/

namespace NetworkStackPicoTcp

open Prog (wp)

variable {pl : Platform} {sched : Schedule} {cfg : Config} {c : ℤ} {r : RpcCall} {w w' : World}
  {s : NetworkStack} {h : History} {j p : ℕ} {rec : SocketResources} {I : World → Prop}

/-- The events that picoTCP has announced for the socket `p` since slot `j` was reserved, newest
first. -/
def told (j p : ℕ) : History → List PicoEvent
  | [] => []
  | .event ev _ _ :: h => if ev.socket = some p then ev :: told j p h else told j p h
  | .own _ _ s s' :: h =>
    if (s.sockets j).status = .free ∧ (s'.sockets j).status = .inUse then [] else told j p h
  | .begin .. :: h | .answer .. :: h | .notified .. :: h | .reply .. :: h => told j p h

/-- The record of a handle `j` for the socket `p` that a `create` or an `accept` on `parent` fills
in, where it has read the `pico_err` `e` after its call. The slot has never been used before. -/
def RpcCall.asNew (pl : Platform) (c : ℤ) (e : PicoErr) (parent : SocketResources) (j p : ℕ) :
    RpcCall → SocketResources
  | .create _ type _ => (SocketResources.zero.reserve (some p) c).create j type (pl.rpcBuf c)
      (pl.rpcBufSize c) (picoErr2Os e)
  | .accept l _ _ => SocketResources.accepted parent
      { SocketResources.zero.reserve (some p) c with
        parentHandle := l, clientId := parent.clientId }
  | _ => .zero

/-! ### What the RPC has been handed -/

theorem stable_obtained {q : PicoPtr} : Stable c r Call.AcquiresNone fun w ↦ obtained w.2 = q :=
  Stable.of_history (f := obtained) (p := (· = q)) (fun _ _ _ _ ↦ rfl) (fun _ _ _ ↦ rfl)
    fun e b s h hacq ↦ by
    cases e with
    | pico pc =>
      cases pc with
      | accept q => exact absurd rfl (hacq.ne_accept q)
      | socketOpen domain type => exact absurd rfl (hacq.ne_open domain type)
      | _ => rfl
    | _ => rfl

theorem stable_lastRead {e : Option PicoErr} :
    Stable c r (· ≠ .picoErr) fun w ↦ (thread w.2).lastRead.map Prod.fst = e :=
  Stable.of_history (f := fun h ↦ (thread h).lastRead.map Prod.fst) (p := (· = e))
    (fun _ _ _ _ ↦ rfl)
    (fun _ _ _ ↦ rfl) fun e b s h he ↦ by
    cases e with
    | pico pc => cases pc <;> rfl
    | picoErr => exact absurd rfl he
    | _ => rfl

/-- The RPC has been handed the socket `p`, and the last `pico_err` that it has read is `e`. -/
def Handed (p : ℕ) (e : PicoErr) (w : World) : Prop :=
  obtained w.2 = some p ∧ (thread w.2).lastRead.map Prod.fst = some e

theorem Handed.stable {e : PicoErr} : Stable c r Call.Harmless (Handed p e) :=
  (stable_obtained.mono fun _ he ↦ he.toAcquiresNone).and
    (stable_lastRead.mono fun _ he ↦ he.ne_picoErr)

theorem Handed.write {e : PicoErr} (sched : Schedule) (hw : Handed p e w)
    (f : NetworkStack → NetworkStack) :
    Handed p e ((rpcEnv sched c r).write f w) := by
  refine ⟨hw.1, ?_⟩
  show (((thread w.2).wrote w.1 (f w.1)).lastRead).map Prod.fst = some e
  unfold Thread.wrote
  split <;> exact hw.2

/-! ### Before a slot has been reserved -/

/-- Since `s` only masks, errors, pending counts and flags have changed, nothing in free slots, and
no slot has been reserved. -/
structure Ready (s : NetworkStack) (w : World) : Prop where
  frame : SameFrame s w.1
  free : ∀ i, (s.sockets i).status = .free → w.1.sockets i = s.sockets i
  reserved : (thread w.2).reserved = none

/-- No callback finds a free slot. -/
theorem Ready.stable {P : Call → Prop}
    (hs : ∀ i, (s.sockets i).status = .free → (s.sockets i).Clean) :
    Stable c r P (Ready s) := by
  have hres : Stable c r P fun w ↦ (thread w.2).reserved = none := Stable.reserved (p := (· = none))
  refine ⟨fun w w' hcb hw ↦ ?_, fun t h hw ↦ ?_, fun e b t h he hw ↦ ?_⟩
  · refine ⟨hw.frame.trans (sameFrame_callbackStep hcb), fun i hi ↦ ?_,
      hres.event w w' hcb hw.reserved⟩
    obtain ⟨ev, hne, -, ⟨-, hsame⟩ | ⟨hl, -⟩⟩ := hcb.slot i
    · exact hsame.trans (hw.free i hi)
    · have hsock := (NetworkStack.getHandleFromImplementationSocket_eq_some_iff.1 hl).1
      rw [hw.free i hi, (hs i hi).implementationSocket] at hsock
      exact absurd hsock.symm hne
  · refine ⟨hw.frame.trans NetworkStack.sameFrame_notify, fun i hi ↦ ?_, hw.reserved⟩
    show t.notifyClientsAboutPendingEvents.1.sockets i = _
    rw [NetworkStack.sockets_notify]
    exact hw.free i hi
  · exact ⟨hw.frame, hw.free, hres.answer e b t h he hw.reserved⟩

/-- A write to a slot in use. -/
theorem Ready.write {i : ℕ} {f : SocketResources → SocketResources} (sched : Schedule)
    (hw : Ready s w)
    (hf : SlotFrame (w.1.sockets i) (f (w.1.sockets i))) (hin : (s.sockets i).status = .inUse) :
    Ready s ((rpcEnv sched c r).write (fun s ↦ s.updateSocket i f) w) := by
  refine ⟨hw.frame.trans (.updateSocket hf), fun l hl ↦ ?_, ?_⟩
  · have hli : l ≠ i := by
      rintro rfl
      exact absurd (hl.symm.trans hin) (by decide)
    exact (NetworkStack.updateSocket_sockets_of_ne hli).trans (hw.free l hl)
  · by_contra hne
    obtain ⟨l, hl⟩ := Option.ne_none_iff_exists'.1 hne
    obtain hl | ⟨hfree, hin'⟩ := Thread.reserved_of_wrote hl
    · exact absurd (hw.reserved.symm.trans hl) (by simp)
    · have hstatus := ((SameFrame.updateSocket hf).slot l).status
      exact absurd (hfree.symm.trans (hstatus.symm.trans hin')) (by decide)

/-! ### After it has been reserved -/

theorem foldr_recordEvent_implementationSocket {evs : List PicoEvent} :
    (evs.foldr SocketResources.recordEvent rec).implementationSocket =
      rec.implementationSocket := by
  induction evs with
  | nil => rfl
  | cons ev evs ih => rw [List.foldr_cons, SocketResources.recordEvent_implementationSocket, ih]

/-- Slot `j` has been reserved for the socket `p`, and the RPC has filled in `rec`. What picoTCP has
told of the socket is recorded in the slot, unless a slot below it held the same address in `s`. -/
structure Fills (s : NetworkStack) (j p : ℕ) (rec : SocketResources) (w : World) : Prop where
  firstFree : s.firstFree = some j
  numberOfSockets : w.1.numberOfSockets = s.numberOfSockets
  others : ∀ i, i ≠ j → SlotFrame (s.sockets i) (w.1.sockets i)
  socket : rec.implementationSocket = some p
  routed : (∀ i < j, (s.sockets i).implementationSocket ≠ some p) →
    w.1.sockets j = (told j p w.2).foldr SocketResources.recordEvent rec
  shadowed : (∃ i < j, (s.sockets i).implementationSocket = some p) → w.1.sockets j = rec

namespace Fills

theorem free (hw : Fills s j p rec w) : (s.sockets j).status = .free :=
  (NetworkStack.firstFree_eq_some_iff.1 hw.firstFree).1

theorem lt (hw : Fills s j p rec w) : j < s.numberOfSockets :=
  (NetworkStack.firstFree_eq_some_iff.1 hw.firstFree).2.1

theorem implementationSocket (hw : Fills s j p rec w) :
    (w.1.sockets j).implementationSocket = some p := by
  by_cases hlow : ∃ i < j, (s.sockets i).implementationSocket = some p
  · rw [hw.shadowed hlow, hw.socket]
  · rw [hw.routed fun i hi hp ↦ hlow ⟨i, hi, hp⟩, foldr_recordEvent_implementationSocket, hw.socket]

theorem event (hcb : CallbackStep w w') (hw : Fills s j p rec w) : Fills s j p rec w' := by
  have hf := sameFrame_callbackStep hcb
  have hlow : ∀ i < j, (w.1.sockets i).implementationSocket = (s.sockets i).implementationSocket :=
    fun i hi ↦ (hw.others i (Nat.ne_of_lt hi)).implementationSocket
  refine ⟨hw.firstFree, hf.numberOfSockets.trans hw.numberOfSockets,
    fun i hi ↦ (hw.others i hi).trans (hf.slot i),
    hw.socket, fun hnone ↦ ?_, fun ⟨i, hi, hp⟩ ↦ ?_⟩
  · have hfound : w.1.getHandleFromImplementationSocket (some p) = some j :=
      NetworkStack.getHandleFromImplementationSocket_eq_some_iff.2
        ⟨hw.implementationSocket, hw.numberOfSockets ▸ hw.lt, fun i hi ↦ hlow i hi ▸ hnone i hi⟩
    obtain ⟨ev, -, hh, ⟨hl, hsame⟩ | ⟨hl, hrec⟩⟩ := hcb.slot j
    · have hother : ev.socket ≠ some p := fun hev ↦ hl (hev ▸ hfound)
      rw [hsame, hh, told, if_neg hother]
      exact hw.routed hnone
    · have hsock := (NetworkStack.getHandleFromImplementationSocket_eq_some_iff.1 hl).1
      rw [hrec, hh, told, if_pos (hsock.symm.trans hw.implementationSocket), List.foldr_cons,
        hw.routed hnone]
  · obtain ⟨ev, -, -, ⟨-, hsame⟩ | ⟨hl, -⟩⟩ := hcb.slot j
    · exact hsame.trans (hw.shadowed ⟨i, hi, hp⟩)
    · obtain ⟨hsock, -, hfirst⟩ := NetworkStack.getHandleFromImplementationSocket_eq_some_iff.1 hl
      exact absurd ((hlow i hi).trans (hp.trans (hw.implementationSocket.symm.trans hsock)))
        (hfirst i hi)

theorem stable {P : Call → Prop} : Stable c r P (Fills s j p rec) := by
  refine ⟨fun w w' hcb hw ↦ hw.event hcb, fun t h hw ↦ ?_, fun e b t h he hw ↦
    ⟨hw.firstFree, hw.numberOfSockets, hw.others, hw.socket, hw.routed, hw.shadowed⟩⟩
  have hf : SameFrame t t.notifyClientsAboutPendingEvents.1 := NetworkStack.sameFrame_notify
  have hsame : t.notifyClientsAboutPendingEvents.1.sockets = t.sockets :=
    NetworkStack.sockets_notify
  refine ⟨hw.firstFree, hf.numberOfSockets.trans hw.numberOfSockets,
    fun i hi ↦ (hw.others i hi).trans (hf.slot i),
    hw.socket, fun hnone ↦ ?_, fun hlow ↦ ?_⟩
  · exact (congrFun hsame j).trans (hw.routed hnone)
  · exact (congrFun hsame j).trans (hw.shadowed hlow)

/-- A write of the RPC to the slot that it has reserved. -/
theorem write {f : SocketResources → SocketResources} {g : NetworkStack → NetworkStack}
    (sched : Schedule) (hw : Fills s j p rec w) (hg : g w.1 = w.1.updateSocket j f)
    (hstatus : ∀ rec : SocketResources, (f rec).status = rec.status)
    (hsock : (f rec).implementationSocket = rec.implementationSocket)
    (hfold : f ((told j p w.2).foldr SocketResources.recordEvent rec) =
      (told j p w.2).foldr SocketResources.recordEvent (f rec)) :
    Fills s j p (f rec) ((rpcEnv sched c r).write g w) ∧
      told j p ((rpcEnv sched c r).write g w).2 = told j p w.2 := by
  have hself : (g w.1).sockets j = f (w.1.sockets j) := by
    rw [hg, NetworkStack.updateSocket_sockets_self]
  have htold : told j p ((rpcEnv sched c r).write g w).2 = told j p w.2 := by
    refine if_neg fun ⟨hfree, hin⟩ ↦ ?_
    rw [hself, hstatus] at hin
    exact absurd (hfree.symm.trans hin) (by decide)
  refine ⟨⟨hw.firstFree, ?_, fun i hi ↦ ?_, hsock.trans hw.socket, fun hnone ↦ ?_, fun hlow ↦ ?_⟩,
    htold⟩
  · show (g w.1).numberOfSockets = _
    rw [hg]
    exact hw.numberOfSockets
  · show SlotFrame _ ((g w.1).sockets i)
    rw [hg, NetworkStack.updateSocket_sockets_of_ne hi]
    exact hw.others i hi
  · rw [htold, ← hfold, ← hw.routed hnone]
    exact hself
  · rw [← hw.shadowed hlow]
    exact hself

/-- A write of the RPC to a client. -/
theorem updateClient {k : ℕ} {f : Client → Client} (sched : Schedule) (hw : Fills s j p rec w) :
    Fills s j p rec ((rpcEnv sched c r).write (fun s ↦ s.updateClient k f) w) ∧
      told j p ((rpcEnv sched c r).write (fun s ↦ s.updateClient k f) w).2 = told j p w.2 := by
  have htold : told j p ((rpcEnv sched c r).write (fun s ↦ s.updateClient k f) w).2 =
      told j p w.2 :=
    if_neg fun ⟨hfree, hin⟩ ↦ absurd (hfree.symm.trans hin) (by decide)
  refine ⟨⟨hw.firstFree, hw.numberOfSockets, hw.others, hw.socket, fun hnone ↦ ?_, hw.shadowed⟩,
    htold⟩
  rw [htold]
  exact hw.routed hnone

end Fills

/-- `reserve_handle` takes a free slot. -/
theorem Ready.reserve {d : ℤ} (sched : Schedule) (hw : Ready s w) (hj : w.1.firstFree = some j) :
    Fills s j p ((s.sockets j).reserve (some p) d) ((rpcEnv sched c r).write
      (fun s ↦ s.updateSocket j (SocketResources.reserve (some p) d)) w) ∧
    told j p ((rpcEnv sched c r).write
      (fun s ↦ s.updateSocket j (SocketResources.reserve (some p) d)) w).2 = [] := by
  have hfree := (NetworkStack.firstFree_eq_some_iff.1 hj).1
  have hself : (w.1.updateSocket j (SocketResources.reserve (some p) d)).sockets j =
      (s.sockets j).reserve (some p) d := by
    rw [NetworkStack.updateSocket_sockets_self,
      hw.free j ((hw.frame.slot j).status.symm.trans hfree)]
  have htold : told j p ((rpcEnv sched c r).write
      (fun s ↦ s.updateSocket j (SocketResources.reserve (some p) d)) w).2 = [] :=
    if_pos ⟨hfree, congrArg SocketResources.status hself⟩
  refine ⟨⟨hw.frame.firstFree.symm.trans hj, hw.frame.numberOfSockets, fun i hi ↦ ?_, rfl,
    fun _ ↦ ?_,
    fun _ ↦ hself⟩, htold⟩
  · show SlotFrame _ ((w.1.updateSocket j (SocketResources.reserve (some p) d)).sockets i)
    rw [NetworkStack.updateSocket_sockets_of_ne hi]
    exact hw.frame.slot i
  · rw [htold]
    exact hself

/-- The RPC has reserved slot `j` for the socket `p` that it was handed, and has filled in `rec`. -/
def Filling (s : NetworkStack) (j p : ℕ) (e : PicoErr) (rec : SocketResources) (w : World) : Prop :=
  Handed p e w ∧ Fills s j p rec w ∧ (thread w.2).reserved = some j

theorem Filling.stable {e : PicoErr} : Stable c r Call.Harmless (Filling s j p e rec) :=
  Handed.stable.and (Fills.stable.and (Stable.reserved (p := (· = some j))))

theorem Thread.wrote_reserved {t : Thread} {s s' : NetworkStack}
    (h : Thread.reservedBy s s' = none) :
    (t.wrote s s').reserved = t.reserved := by
  rw [Thread.wrote, h]
  cases t.justRead <;> rfl

theorem Filling.write {e : PicoErr} {f : SocketResources → SocketResources}
    {g : NetworkStack → NetworkStack} (sched : Schedule) (hw : Filling s j p e rec w)
    (hg : g w.1 = w.1.updateSocket j f)
    (hstatus : ∀ rec : SocketResources, (f rec).status = rec.status)
    (hsock : (f rec).implementationSocket = rec.implementationSocket)
    (hfold : f ((told j p w.2).foldr SocketResources.recordEvent rec) =
      (told j p w.2).foldr SocketResources.recordEvent (f rec)) :
    Filling s j p e (f rec) ((rpcEnv sched c r).write g w) := by
  refine ⟨hw.1.write sched g, (hw.2.1.write sched hg hstatus hsock hfold).1, ?_⟩
  have hnone : Thread.reservedBy w.1 (g w.1) = none := by
    rw [hg]
    exact Thread.reservedBy_updateSocket fun hin ↦ (hstatus _).symm.trans hin
  exact (Thread.wrote_reserved hnone).trans hw.2.2

/-- `reserve_handle` changes nothing, or reserves a slot, in which nothing has been recorded yet. -/
theorem recycles_reserveHandle {e : PicoErr} {d : ℤ} (hw : Ready s w) (hh : Handed p e w) :
    wp (rpcEnv sched c r) (fun _ _ ↦ True) (reserveHandle (some p) d) (fun i w' ↦
      i = none ∧ Ready s w' ∨ ∃ j, i = some j ∧
        Filling s j p e ((s.sockets j).reserve (some p) d) w' ∧ told j p w'.2 = []) w := by
  refine Prog.wp_bind.2 (Prog.wp_get.2 ?_)
  split
  · exact Or.inl ⟨rfl, hw⟩
  split_ifs
  · exact Or.inl ⟨rfl, hw⟩
  refine Prog.wp_bind.2 ((wp_request_quiet quiet_lock_socketCB).2 ⟨trivial, fun _ ↦ ?_⟩)
  have hw₁ : Ready s (w.1, .answer c r (.lock .socketCB) () w.1 :: w.2) :=
    ⟨hw.frame, hw.free, hw.reserved⟩
  have hunlock : wp (rpcEnv sched c r) (fun _ _ ↦ True)
      (do request (.unlock .socketCB); return none)
        (fun (i : Option ℕ) w' ↦ i = none ∧ Ready s w' ∨ ∃ j, i = some j ∧
          Filling s j p e ((s.sockets j).reserve (some p) d) w' ∧ told j p w'.2 = [])
        (w.1, .answer c r (.lock .socketCB) () w.1 :: w.2) :=
    Prog.wp_bind.2 ((wp_request_quiet quiet_unlock_socketCB).2 ⟨trivial, fun _ ↦
      Or.inl ⟨rfl, hw.frame, hw.free, hw.reserved⟩⟩)
  refine Prog.wp_bind.2 (Prog.wp_get.2 ?_)
  split_ifs
  · exact hunlock
  split
  · exact hunlock
  rename_i j hj
  refine Prog.wp_bind.2 (Prog.wp_modify.2 (Prog.wp_bind.2 ?_))
  refine (wp_request_quiet quiet_unlock_socketCB).2 ⟨trivial, fun b ↦ ?_⟩
  refine Prog.wp_bind.2 (Prog.wp_modify.2 (Or.inr ⟨j, rfl, ?_⟩))
  obtain ⟨hfills, htold⟩ := hw₁.reserve (c := c) (r := r) (p := p) (d := d) sched hj
  have hh₁ : Handed p e (w.1, .answer c r (.lock .socketCB) () w.1 :: w.2) :=
    Handed.stable.answer _ _ _ _ (Call.harmless_lock _) hh
  have hres :
      (thread ((rpcEnv sched c r).write
        (fun s ↦ s.updateSocket j (SocketResources.reserve (some p) d))
        (w.1, .answer c r (.lock .socketCB) () w.1 :: w.2)).2).reserved = some j := by
    rw [Env.write_snd, rpcEnv_onWrite, thread_cons, Thread.step, Thread.wrote,
      Thread.reservedBy_reserve hj]
  have h₂ : Filling s j p e ((s.sockets j).reserve (some p) d) ((rpcEnv sched c r).write
      (fun s ↦ s.updateSocket j (SocketResources.reserve (some p) d))
      (w.1, .answer c r (.lock .socketCB) () w.1 :: w.2)) := ⟨hh₁.write sched _, hfills, hres⟩
  have h₃ := Filling.stable.answer (c := c) (r := r) (.unlock .socketCB) b _ _
    (Call.harmless_unlock _) h₂
  obtain ⟨hfills₄, htold₄⟩ := h₃.2.1.updateClient (c := c) (r := r) sched
  exact ⟨⟨h₃.1.write sched _, hfills₄, (Thread.wrote_reserved Thread.reservedBy_updateClient).trans
    h₃.2.2⟩,
    htold₄.trans htold⟩

/-! ### Create and accept -/

/-- picoTCP is called, and its `pico_err` is read. -/
theorem Ready.ask {pc : PicoCall} {Q : pc.Answer → PicoErr → World → Prop}
    (hs : ∀ i, (s.sockets i).status = .free → (s.sockets i).Clean) (hw : Ready s w)
    (hQ : ∀ b e w' old, Ready s w' → obtained w'.2 = obtainedBy (.pico pc) b old →
      (thread w'.2).lastRead.map Prod.fst = some e → Q b e w') :
    wp (rpcEnv sched c r) (fun _ _ ↦ True) (request (.pico pc)) (fun b w₁ ↦
      wp (rpcEnv sched c r) (fun _ _ ↦ True) (request .picoErr) (fun e w₂ ↦ Q b e w₂) w₁) w := by
  have hready : Stable c r (fun _ ↦ True) (Ready s) := Ready.stable hs
  refine ⟨trivial, ?_⟩
  rintro b _ ⟨w₁, hint, rfl⟩
  have hw₁ := hready.answer (.pico pc) b _ _ trivial (hready.interference hint hw)
  refine (wp_request_quiet (C := fun _ _ ↦ True) quiet_picoErr).2 ⟨trivial, fun e ↦ ?_⟩
  refine hQ b e _ (obtained w₁.2) (hready.answer .picoErr e _ _ trivial hw₁) rfl ?_
  show (((thread w₁.2).called pc b).lastCall.map (e, ·)).map Prod.fst = some e
  rw [Thread.called_lastCall]
  rfl

/-- A `create` or `accept` on `parent` was handed no socket, or has filled in its slot as if it had
never been used. -/
def Recycles (pl : Platform) (s : NetworkStack) (c : ℤ) (r : RpcCall) (parent : SocketResources)
    (w : World) :
    Prop :=
  obtained w.2 = none ∨ ∃ j p e, Filling s j p e (r.asNew pl c e parent j p) w

variable {parent : SocketResources}

/-- What is left in a free slot is overwritten. -/
theorem asNew_create {domain : SocketDomain} {type : SocketType} {pHandle : Option ℤ} {e : PicoErr}
    (hrec : rec.Clean) : ((rec.reserve (some p) c).create j type (pl.rpcBuf c) (pl.rpcBufSize c)
      (picoErr2Os e)) = (RpcCall.create domain type pHandle).asNew pl c e parent j p := by
  simp [RpcCall.asNew, SocketResources.create, SocketResources.reserve, SocketResources.zero,
    hrec.eventMask]

theorem asNew_accept {l : ℤ} {pClientHandle : Option ℤ} {srcAddr : Option OsSocketAddr}
    {e : PicoErr} {parent' : SocketResources} (hrec : rec.Clean) (hf : SlotFrame parent parent') :
    SocketResources.accepted parent'
      { rec.reserve (some p) c with parentHandle := l, clientId := parent.clientId } =
    (RpcCall.accept l pClientHandle srcAddr).asNew pl c e parent j p := by
  simp [RpcCall.asNew, SocketResources.accepted, SocketResources.reserve, SocketResources.zero,
    hrec.eventMask, hf.bufIo, hf.buf]

/-- The other writes of `accept` to its new slot do not disturb what callbacks record. -/
theorem recordEvent_adopt {l d : ℤ} (ev : PicoEvent) (rec : SocketResources) :
    ({ rec with parentHandle := l, clientId := d } : SocketResources).recordEvent ev =
      { rec.recordEvent ev with parentHandle := l, clientId := d } := by
  simp only [SocketResources.recordEvent_eq]

theorem recordEvent_accepted (ev : PicoEvent) (rec : SocketResources) :
    (SocketResources.accepted parent rec).recordEvent ev =
      SocketResources.accepted parent (rec.recordEvent ev) := by
  simp [SocketResources.recordEvent_eq, SocketResources.accepted]

theorem recycles_create {domain : SocketDomain} {type : SocketType} {pHandle : Option ℤ}
    {handle : ℤ} (hs : ∀ i, (s.sockets i).status = .free → (s.sockets i).Clean) (hw : Ready s w) :
    wp (rpcEnv sched c r) (fun _ _ ↦ True)
      (picoSocketCreate domain type handle c (pl.rpcBuf c) (pl.rpcBufSize c))
      (fun a w' ↦ a.1 = .success → Recycles pl s c (.create domain type pHandle) parent w') w := by
  have hready : Stable c r (fun _ ↦ True) (Ready s) := Ready.stable hs
  unfold picoSocketCreate
  split
  swap
  · exact fun hsuccess ↦ absurd hsuccess (by simp)
  refine Prog.wp_bind.2 (hready.request trivial hw fun _ w₁ h₁ ↦ ?_)
  simp only [Prog.wp_bind]
  refine h₁.ask hs fun sock e w₃ old h₃ hob hread ↦ ?_
  cases sock with
  | none =>
    have hnone : Stable c r Call.AcquiresNone fun w ↦ obtained w.2 = none := stable_obtained
    exact Prog.wp_bind.2 (hnone.request ⟨by simp, by simp⟩ hob fun _ w₄ h₄ _ ↦ Or.inl h₄)
  | some p =>
    have hboth : Stable c r Call.Harmless fun w ↦ Ready s w ∧ Handed p e w :=
      (Ready.stable hs).and Handed.stable
    rw [if_neg (by simp)]
    refine Prog.wp_bind.2 (hboth.setStreamOption ⟨h₃, hob, hread⟩ fun w₄ h₄ ↦ ?_)
    refine Prog.wp_bind.2 (Prog.wp_mono (fun _ _ h ↦ h) (fun i w₅ h₅ ↦ ?_)
      (recycles_reserveHandle h₄.1 h₄.2))
    obtain ⟨rfl, h₅⟩ | ⟨j, rfl, h₅, htold⟩ := h₅
    · refine Prog.wp_bind.2 ((Ready.stable hs).closeUnreserved h₅ fun w₆ h₆ ↦ ?_)
      exact Prog.wp_bind.2
        (hready.request trivial h₆ fun _ _ _ hsuccess ↦ absurd hsuccess (by simp))
    · refine Prog.wp_bind.2 (Prog.wp_modify.2 ?_)
      have h₆ : Filling s j p e ((RpcCall.create domain type pHandle).asNew pl c e parent j p)
          ((rpcEnv sched c r).write
            (fun s ↦ s.updateSocket j (SocketResources.create j type (pl.rpcBuf c)
            (pl.rpcBufSize c) (picoErr2Os e))) w₅) :=
        asNew_create (hs j h₅.2.1.free) ▸ h₅.write sched rfl (fun _ ↦ rfl) rfl (by rw [htold]; rfl)
      refine Prog.wp_bind.2 (Filling.stable.setSocketOptions h₆ fun w₇ h₇ ↦ ?_)
      exact Prog.wp_bind.2 (Filling.stable.request (Call.harmless_unlock _) h₇ fun _ w₈ h₈ _ ↦
        Or.inr ⟨j, p, e, h₈⟩)

/-- `set_parent_handle` links the new slot to the listening one. -/
theorem Filling.setParentHandle {i : ℕ} {e : PicoErr} {Q : Unit → World → Prop}
    (hw : Filling s j p e rec w) (hi : i < s.numberOfSockets) (hji : j ≠ i)
    (hQ : ∀ w',
      Filling s j p e { rec with parentHandle := i, clientId := (s.sockets i).clientId } w' →
      Q () w') : wp (rpcEnv sched c r) (fun _ _ ↦ True) (setParentHandle j i) Q w := by
  have hn : w.1.numberOfSockets = s.numberOfSockets := hw.2.1.numberOfSockets
  have hj₀ : w.1.getSocketFromHandle j = some j :=
    NetworkStack.getSocketFromHandle_eq_some_iff.2 ⟨rfl, hn ▸ hw.2.1.lt⟩
  have hi₀ : w.1.getSocketFromHandle i = some i :=
    NetworkStack.getSocketFromHandle_eq_some_iff.2 ⟨rfl, hn ▸ hi⟩
  simp only [NetworkStackPicoTcp.setParentHandle, Prog.wp_bind, Prog.wp_get, hi₀, hj₀]
  refine (wp_request_quiet quiet_lock_socketCB).2 ⟨trivial, fun b ↦ Prog.wp_modify.2 ?_⟩
  have h₁ :=
    Filling.stable.answer (c := c) (r := r) (.lock .socketCB) b _ _ (Call.harmless_lock _) hw
  have hparent : (w.1.sockets i).clientId = (s.sockets i).clientId :=
    (hw.2.1.others i hji.symm).clientId
  have h₂ : Filling s j p e { rec with parentHandle := i, clientId := (s.sockets i).clientId }
      ((rpcEnv sched c r).write (fun s ↦ s.adopt j i)
        (w.1, .answer c r (.lock .socketCB) b w.1 :: w.2)) :=
    h₁.write (f := fun rec ↦ { rec with parentHandle := i, clientId := (s.sockets i).clientId })
      sched
      (by rw [← hparent]; rfl) (fun _ ↦ rfl) rfl
        (List.foldr_hom _ fun ev rec ↦ recordEvent_adopt ev rec).symm
  exact (wp_request_quiet quiet_unlock_socketCB).2 ⟨trivial, fun b' ↦ hQ _
    (Filling.stable.answer (.unlock .socketCB) b' _ _ (Call.harmless_unlock _) h₂)⟩

theorem recycles_accept {i : ℕ} {pClientHandle : Option ℤ} {srcAddr : Option OsSocketAddr}
    {handle : ℤ} (hs : ∀ i, (s.sockets i).status = .free → (s.sockets i).Clean) (hw : Ready s w)
    (ho : s.Owns c i) :
    wp (rpcEnv sched c r) (fun _ _ ↦ True) (picoSocketAccept c i handle)
      (fun a w' ↦ a.1 = .success →
      Recycles pl s c (.accept i pClientHandle srcAddr) (s.sockets i) w') w := by
  have hready : Stable c r (fun _ ↦ True) (Ready s) := Ready.stable hs
  refine wp_withOpenSocket (hw.frame.owns ho).1 (fun _ hne hsuccess ↦ absurd hsuccess hne)
    fun _ himpl ↦ ?_
  have hin : (s.sockets i).status = .inUse := by
    cases hst : (s.sockets i).status with
    | inUse => rfl
    | free =>
      rw [(hw.frame.slot i).implementationSocket] at himpl
      exact absurd (hs i hst).implementationSocket himpl
  refine Prog.wp_bind.2 (hready.request trivial hw fun _ w₁ h₁ ↦ ?_)
  simp only [Prog.wp_bind, Prog.wp_modify]
  refine h₁.ask hs fun b e w₃ old h₃ hob hread ↦ ?_
  obtain ⟨sIn, orig, port⟩ := b
  have h₅ := (h₃.write (c := c) (r := r) (f := SocketResources.setError (picoErr2Os e)) sched
    (.setError _ _)
    hin).write (c := c) (r := r) (f := SocketResources.acceptPending) sched (.acceptPending _) hin
  cases sIn with
  | none =>
    have hnone : Stable c r Call.AcquiresNone fun w ↦ obtained w.2 = none := stable_obtained
    refine Prog.wp_bind.2 (hnone.request ⟨by simp, by simp⟩ hob fun _ w₆ h₆ ↦ ?_)
    exact Prog.wp_bind.2 (hnone.request ⟨by simp, by simp⟩ h₆ fun _ w₇ h₇ _ ↦ Or.inl h₇)
  | some p =>
    have hh₃ : Handed p e w₃ := ⟨hob, hread⟩
    have hh₅ := (hh₃.write (c := c) (r := r) sched fun s ↦ s.updateSocket i
      (SocketResources.setError (picoErr2Os e))).write (c := c) (r := r) sched
      fun s ↦ s.updateSocket i SocketResources.acceptPending
    rw [if_neg (by simp)]
    refine Prog.wp_bind.2 (Prog.wp_get.2 (Prog.wp_bind.2 ?_))
    rw [(h₅.frame.owns ho).2]
    refine Prog.wp_mono (fun _ _ h ↦ h) (fun _ w₆ h₆ ↦ ?_) (recycles_reserveHandle h₅ hh₅)
    obtain ⟨rfl, h₆⟩ | ⟨j, rfl, h₆, -⟩ := h₆
    · refine Prog.wp_bind.2 (hready.request trivial h₆ fun _ w₇ h₇ ↦ ?_)
      exact Prog.wp_bind.2
        (hready.request trivial h₇ fun _ _ _ hsuccess ↦ absurd hsuccess (by simp))
    · have hji : j ≠ i := by
        rintro rfl
        exact absurd (h₆.2.1.free.symm.trans hin) (by decide)
      refine Prog.wp_bind.2 (Filling.stable.setSocketOptions h₆ fun w₇ h₇ ↦ ?_)
      refine Prog.wp_bind.2 (h₇.setParentHandle ho.1 hji fun w₈ h₈ ↦ ?_)
      refine Prog.wp_bind.2 (Prog.wp_get.2 ?_)
      split_ifs
      · exact fun hsuccess ↦ absurd hsuccess (by simp)
      · have h₉ : Filling s j p e
            ((RpcCall.accept i pClientHandle srcAddr).asNew pl c e (s.sockets i) j p)
            ((rpcEnv sched c r).write
              (fun s ↦ s.updateSocket j (SocketResources.accepted (s.sockets i))) w₈) :=
          asNew_accept (hs j h₆.2.1.free) (h₈.2.1.others i hji.symm) ▸ h₈.write sched rfl
            (fun _ ↦ rfl) rfl
            (List.foldr_hom _ fun ev rec ↦ recordEvent_accepted ev rec).symm
        refine Prog.wp_bind.2 (Prog.wp_modify.2 (Prog.wp_bind.2 ?_))
        exact Filling.stable.request (Call.harmless_unlock _) h₉ fun _ w₁₀ h₁₀ _ ↦
          Or.inr ⟨j, p, e, h₁₀⟩

/-- The record of the listening socket of an `accept`. -/
def RpcCall.listener (s : NetworkStack) : RpcCall → SocketResources
  | .accept l _ _ => s.sockets l.toNat
  | _ => .zero

theorem recycles_rpc (pl : Platform) (hs : ∀ i, (s.sockets i).status = .free → (s.sockets i).Clean)
    (hr : r.acquires = true) : wp (rpcEnv sched c r) (fun _ _ ↦ True) (rpc pl c r)
      (fun a w' ↦ a.err = .success → Recycles pl s c r (r.listener s) w')
        (s, .begin c r s :: h) := by
  have hw : Ready s (s, .begin c r s :: h) := ⟨.refl _, fun _ _ ↦ rfl, rfl⟩
  have hexit : ∀ e, firstError (r.checks pl c s) = some e → e ≠ .success := fun e he ↦
    firstError_ne_success (checks_ne_success pl c r s) he
  cases r with
  | create domain type pHandle =>
    simp only [rpc, rpcSocketCreate, Prog.wp_map]
    exact wp_guarded (fun e he hsuccess ↦ absurd hsuccess (hexit e he)) fun _ ↦
      Prog.wp_bind.2 (recycles_create hs hw)
  | accept handle pClientHandle srcAddr =>
    simp only [rpc, rpcSocketAccept, Prog.wp_map]
    refine wp_guarded (fun e he hsuccess ↦ absurd hsuccess (hexit e he)) fun hch ↦ ?_
    obtain ⟨i, rfl, ha⟩ := admitted_of_checks pl (.accept handle pClientHandle srcAddr) hch rfl
    exact Prog.wp_bind.2 (recycles_accept hs hw ha.owns)
  | _ => exact absurd hr Bool.noConfusion

/-! ### What callbacks record -/

/-- A callback with nothing to record. -/
theorem recordEvent_of_raised {ev : PicoEvent} (hev : ev.raised = ∅) :
    rec.recordEvent ev = rec := by
  have hnot : ∀ b, b ∉ ev.raised := fun b hb ↦ absurd (hev ▸ hb) (Finset.notMem_empty b)
  have hincoming : ev.incoming = false := by
    by_contra hin
    exact hnot .connAcpt (by simp [PicoEvent.raised, hin])
  have hestablished : ev.established = false := by
    by_contra hest
    exact hnot .connEst (by simp [PicoEvent.raised, hest])
  have herr : .err ∉ ev.eventMask := fun herr ↦ hnot .error (by simp [PicoEvent.raised, herr])
  simp [SocketResources.recordEvent_eq, hev, hincoming, hestablished, herr]

theorem foldr_recordEvent_of_raised {evs : List PicoEvent} (hevs : ∀ ev ∈ evs, ev.raised = ∅) :
    evs.foldr SocketResources.recordEvent rec = rec := by
  induction evs with
  | nil => rfl
  | cons ev evs ih =>
    rw [List.forall_mem_cons] at hevs
    rw [List.foldr_cons, ih hevs.2, recordEvent_of_raised hevs.1]

theorem raised_subset_foldr {evs : List PicoEvent} {ev : PicoEvent} (hev : ev ∈ evs) :
    ev.raised ⊆ (evs.foldr SocketResources.recordEvent rec).eventMask := by
  induction evs with
  | nil => exact absurd hev List.not_mem_nil
  | cons ev' evs ih =>
    rw [List.foldr_cons, SocketResources.recordEvent_eventMask]
    obtain rfl | hev := List.mem_cons.1 hev
    · exact Finset.subset_union_right
    · exact (ih hev).trans Finset.subset_union_left

theorem eventMask_asNew {e : PicoErr} : (r.asNew pl c e parent j p).eventMask = ∅ := by
  cases r <;> rfl

/-- The slot has what callbacks have told recorded in it exactly if no slot below it was found
instead, or there was nothing to record. -/
theorem Fills.eq_iff (hw : Fills s j p rec w) (hrec : rec.eventMask = ∅) :
    w.1.sockets j = (told j p w.2).foldr SocketResources.recordEvent rec ↔
      (∀ i < j, (s.sockets i).implementationSocket ≠ some p) ∨
      ∀ ev ∈ told j p w.2, ev.raised = ∅ := by
  by_cases hlow : ∃ i < j, (s.sockets i).implementationSocket = some p
  · rw [hw.shadowed hlow]
    constructor
    · refine fun heq ↦ Or.inr fun ev hev ↦ Finset.subset_empty.1 ?_
      rw [← hrec, heq]
      exact raised_subset_foldr hev
    · rintro (hnone | hevs)
      · obtain ⟨i, hi, hp⟩ := hlow
        exact absurd hp (hnone i hi)
      · exact (foldr_recordEvent_of_raised hevs).symm
  · have hnone : ∀ i < j, (s.sockets i).implementationSocket ≠ some p :=
      fun i hi hp ↦ hlow ⟨i, hi, hp⟩
    exact iff_of_true (hw.routed hnone) (Or.inl hnone)

/-- **A recycled handle is as good as new.** Between RPCs nothing is left in free slots, and no
client owns them. After a `create` or `accept` that was handed a socket and succeeds, the slot that
was the first free one is as if it had never been used, with the events recorded that picoTCP has
told of the socket since it was reserved, exactly if no slot below it held the same address before,
or none of the events raises anything. -/
theorem handles_recycled_iff (hw : Reachable pl sched cfg (s, h)) :
    (∀ i < s.numberOfSockets, (s.sockets i).status = .free →
      (s.sockets i).Clean ∧ ¬ s.IsClient (s.sockets i).clientId) ∧
    ∀ c r a s' h' p, r.acquires = true →
      Prog.Outcome (rpcEnv sched c r) (rpc pl c r) (s, .begin c r s :: h) a (s', h') →
      a.err = .success →
      obtained h' = some p →
      ∃ j e, s.firstFree = some j ∧ a.out.handle = some (j : ℤ) ∧
        (thread h').lastRead.map Prod.fst = some e ∧
        (s'.sockets j = (told j p h').foldr SocketResources.recordEvent
          (r.asNew pl c e (r.listener s) j p) ↔
          (∀ i < j, (s.sockets i).implementationSocket ≠ some p) ∨
          ∀ ev ∈ told j p h', ev.raised = ∅) := by
  have hvisited : Visited pl sched cfg (s, h) := .reachable hw
  have htidy : Tidy (s, h) := Deeds.tidy hvisited.deeds
  refine ⟨fun i hi hfree ↦
    ⟨htidy.clean i hfree, (reachable_stepped hw).1.accounting.free_not_client i hi hfree⟩,
    fun c r a s' h' p hr hout hsuccess hob ↦ ?_⟩
  have hleave := (leaves_of_caller hw hout).1.2
  obtain hnone | ⟨j, q, e, ⟨hob', hread⟩, hfills, hres⟩ :=
    Prog.outcome_of_wp (recycles_rpc pl htidy.clean hr) hout hsuccess
  · exact absurd (hnone.symm.trans hob) (by simp)
  · obtain rfl : q = p := Option.some.inj (hob'.symm.trans hob)
    exact ⟨j, e, hfills.firstFree, (hleave.reserved j hres).2.2, hread,
      hfills.eq_iff eventMask_asNew⟩

/-- picoTCP tells that data has come in for its socket 7 while one of the socket's options is
set. -/
def whileOptions (e : Call) (w : World) : World :=
  if e = .pico (.setOption (some 7) .keepcnt 5) then fire w (announce 7 {.rd}) else w

theorem interference_whileOptions (sched : Schedule) (e : Call) (w : World) :
    Interference sched e w (whileOptions e w) := by
  unfold whileOptions
  split_ifs with he
  · rw [he]
    have hcb : Callbacks w ([announce 7 {.rd}].foldl fire w) :=
      callbacks_foldl_fire (by simp [announce])
    exact hcb
  · exact interference_refl sched e w

/-- Client 101 has created a socket, for which picoTCP has used the address 5. -/
def sampleOther : World :=
  served samplePlatform 101 (.create .inet .stream (some 0)) (obliging (some 5) none) (fun _ w ↦ w)
    ((sampleConfig 5).init, [])

theorem reachable_sampleOther (sched : Schedule) :
    Reachable samplePlatform sched (sampleConfig 5) sampleOther :=
  reachable_served .refl (interference_refl sched) ⟨0, rfl⟩ rfl

/-- Then client 102 has created one, with the address 7. -/
def sampleFilled : World :=
  served samplePlatform 102 (.create .inet .stream (some 0)) (obliging (some 7) none) whileOptions
    sampleOther

/-- Such a `create` succeeds. -/
theorem outcome_create_whileOptions (w : World) (s : NetworkStack) (new : History) (a : Reply)
    (hserve : serve samplePlatform 102 (.create .inet .stream (some 0)) (obliging (some 7) none)
      whileOptions w = some (s, .reply 102 (.create .inet .stream (some 0)) a s ::
        (new ++ .begin 102 (.create .inet .stream (some 0)) w.1 :: w.2))) :
    Prog.Outcome (rpcEnv .atomic 102 (.create .inet .stream (some 0)))
      (rpc samplePlatform 102 (.create .inet .stream (some 0)))
      (w.1, .begin 102 (.create .inet .stream (some 0)) w.1 :: w.2) a
      (s, new ++ .begin 102 (.create .inet .stream (some 0)) w.1 :: w.2) := by
  obtain ⟨a', h', hout, hh⟩ := outcome_of_serve (interference_whileOptions .atomic) hserve
  obtain ⟨hreply, rfl⟩ := List.cons.inj hh
  obtain ⟨-, -, rfl, -⟩ := Entry.reply.inj hreply
  exact hout

/-- The data for client 102's socket is known. -/
theorem handles_recycled_iff_sampleFilled :
    sampleFilled.1.sockets 1 = [announce 7 {.rd}].foldr SocketResources.recordEvent
      ((RpcCall.create .inet .stream (some 0)).asNew samplePlatform 102 .noerr .zero 1 7) := by
  have hout := outcome_create_whileOptions sampleOther sampleFilled.1 (sampleFilled.2.tail.take 15)
    ⟨.success, { handle := some 1 }⟩ rfl
  obtain ⟨j, e, hj, -, hread, hiff⟩ :=
    (handles_recycled_iff (reachable_sampleOther .atomic)).2 _ _ _ _ _ 7 rfl hout rfl rfl
  obtain rfl : 1 = j := Option.some.inj hj
  obtain rfl : .noerr = e := Option.some.inj hread
  exact hiff.2 (Or.inl (by decide))

/-- Client 102's socket has the address of a socket of client 101 that picoTCP has freed. -/
def sampleShadowed : World :=
  served samplePlatform 102 (.create .inet .stream (some 0)) (obliging (some 7) none) whileOptions
    (iterate [announce 7 {.fin}] sampleCreated)

/-- What picoTCP and the rest of the system have done: the calls that have returned, with their
answers, and the callbacks. -/
def Entry.behaviour : Entry → Option (((e : Call) × e.Answer) ⊕ PicoEvent)
  | .answer _ _ e b _ => some (.inl ⟨e, b⟩)
  | .event ev _ _ => some (.inr ev)
  | _ => none

/-- What has been done during such a `create`, newest first. -/
def createBehaviour : List (((e : Call) × e.Answer) ⊕ PicoEvent) :=
  [.inl ⟨.unlock .stackTS, ()⟩, .inl ⟨.pico (.setOption (some 7) .keepintvl 5000), (0 : ℤ)⟩,
    .inl ⟨.pico (.setOption (some 7) .keepidle 30000), (0 : ℤ)⟩,
    .inl ⟨.pico (.setOption (some 7) .keepcnt 5), (0 : ℤ)⟩, .inr (announce 7 {.rd}),
    .inl ⟨.pico (.setOption (some 7) .tcpNodelay 1), (0 : ℤ)⟩, .inl ⟨.unlock .socketCB, ()⟩,
    .inl ⟨.lock .socketCB, ()⟩, .inl ⟨.pico (.setOption (some 7) .tcpNodelay 1), (0 : ℤ)⟩,
    .inl ⟨.picoErr, .noerr⟩, .inl ⟨.pico (.socketOpen .ipv4 .tcp), (some 7 : PicoPtr)⟩,
    .inl ⟨.lock .stackTS, ()⟩]

/-- The same `create` with the same behaviour of picoTCP fills in the same slot in two ways. -/
theorem record_differs_sampleShadowed :
    ¬ ∀ (pl : Platform) (cfg : Config), ∃ F : ℤ → RpcCall → SocketResources → ℕ →
        List (((e : Call) × e.Answer) ⊕ PicoEvent) → SocketResources,
      ∀ (s s' : NetworkStack) (h new : History) (c : ℤ) (r : RpcCall) (a : Reply) (j : ℕ),
        Reachable pl .atomic cfg (s, h) → s.IsClient c → r.acquires = true →
        Prog.Outcome (rpcEnv .atomic c r) (rpc pl c r) (s, .begin c r s :: h) a
          (s', new ++ .begin c r s :: h) → a.err = .success → a.out.handle = some (j : ℤ) →
        obtained (new ++ .begin c r s :: h) ≠ none →
        s'.sockets j = F c r (r.listener s) j (new.filterMap Entry.behaviour) := by
  intro hall
  obtain ⟨F, hF⟩ := hall samplePlatform (sampleConfig 5)
  have hw : Reachable samplePlatform .atomic (sampleConfig 5)
      (iterate [announce 7 {.fin}] sampleCreated) :=
    reachable_iterate (reachable_sampleCreated .atomic) (by simp [announce])
  have hc : sampleOther.1.IsClient 102 := ⟨1, rfl⟩
  have hc' : (iterate [announce 7 {.fin}] sampleCreated).1.IsClient 102 := ⟨1, rfl⟩
  have hout := outcome_create_whileOptions sampleOther sampleFilled.1 (sampleFilled.2.tail.take 15)
    ⟨.success, { handle := some 1 }⟩ rfl
  have hout' := outcome_create_whileOptions (iterate [announce 7 {.fin}] sampleCreated)
    sampleShadowed.1
    (sampleShadowed.2.tail.take 15) ⟨.success, { handle := some 1 }⟩ rfl
  have hrec : sampleFilled.1.sockets 1 =
      F 102 (.create .inet .stream (some 0)) .zero 1 createBehaviour :=
    hF _ _ _ _ _ _ _ 1 (reachable_sampleOther .atomic) hc rfl hout rfl rfl (by decide)
  have hrec' : sampleShadowed.1.sockets 1 =
      F 102 (.create .inet .stream (some 0)) .zero 1 createBehaviour :=
    hF _ _ _ _ _ _ _ 1 hw hc' rfl hout' rfl rfl (by decide)
  exact absurd (congrArg SocketResources.eventMask (hrec.trans hrec'.symm)) (by decide)

end NetworkStackPicoTcp
