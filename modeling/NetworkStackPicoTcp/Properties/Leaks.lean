import NetworkStackPicoTcp.Invariants.Acquisitions
import NetworkStackPicoTcp.Invariants.Stable
import NetworkStackPicoTcp.Properties.Events
import NetworkStackPicoTcp.Properties.Routing

/-!
# No socket is leaked

Every picoTCP socket that an RPC was handed is held by the handle that was reserved for it, or has
been closed, or picoTCP has told that it frees it. A `create` or `accept` that fails has closed the
socket it may have got and leaves every handle and every quota as they were (`Spares`); `accept` has
updated the error and the pending connections of its listening socket by then. A `close` always
frees its handle.
-/

namespace NetworkStackPicoTcp

open Prog (wp)
open Trace (Always)

variable {pl : Platform} {sched : Schedule} {cfg : Config} {c : ℤ} {r : RpcCall} {base w w' : World}
  {α : Type}

/-! ### Programs that have not reserved a slot -/

/-- The entry is not a write of the RPC, or stores an error in the slot of its handle, or counts one
pending connection less there. -/
def Entry.sparing (r : RpcCall) : Entry → Prop
  | .own _ _ s s' => ∃ i : ℕ, r.handle = some (i : ℤ) ∧
      ((∃ err, s' = s.updateSocket i (SocketResources.setError err)) ∨
        s' = s.updateSocket i SocketResources.acceptPending)
  | _ => True

/-- Since `base` nothing but masks, errors, pending counts and flags has changed, and the RPC has
written to no slot but that of its handle. -/
structure Spares (r : RpcCall) (base w : World) : Prop where
  frame : SameFrame base.1 w.1
  entries : ∃ new, w.2 = new ++ base.2 ∧ ∀ x ∈ new, x.sparing r

theorem Entry.sparing.not_reserves {x : Entry} {i : ℕ} (hx : x.sparing r) : ¬ x.reserves i := by
  cases x with
  | own c' r' s s' =>
    rintro ⟨hfree, hin⟩
    obtain ⟨j, -, ⟨err, rfl⟩ | rfl⟩ := hx
    · have hf := (SameFrame.updateSocket (s := s) (i := j) (SlotFrame.setError err _)).slot i
      exact absurd (hfree.symm.trans (hf.status.symm.trans hin)) (by decide)
    · have hf := (SameFrame.updateSocket (s := s) (i := j) (SlotFrame.acceptPending _)).slot i
      exact absurd (hfree.symm.trans (hf.status.symm.trans hin)) (by decide)
  | _ => exact id

namespace Spares

theorem refl (w : World) : Spares r w w := ⟨.refl _, [], rfl, by simp⟩

theorem cons {s : NetworkStack} {h : History} {x : Entry} (hw : Spares r base w)
    (hf : SameFrame w.1 s)
    (hh : h = x :: w.2) (hx : x.sparing r) : Spares r base (s, h) := by
  obtain ⟨new, hnew, hsp⟩ := hw.entries
  refine ⟨hw.frame.trans hf, x :: new, ?_, List.forall_mem_cons.2 ⟨hx, hsp⟩⟩
  exact hh.trans (congrArg (x :: ·) hnew)

theorem stable {P : Call → Prop} : Stable c r P (Spares r base) := by
  refine ⟨fun w w' hs hw ↦ ?_, fun s h hw ↦ hw.cons NetworkStack.sameFrame_notify rfl trivial,
    fun e b s h _ hw ↦ hw.cons (.refl _) rfl trivial⟩
  obtain ⟨ev, -, -, hh⟩ := id hs
  exact hw.cons (sameFrame_callbackStep hs) hh trivial

theorem write {f : NetworkStack → NetworkStack} (sched : Schedule) (h : Spares r base w)
    (hf : SameFrame w.1 (f w.1)) (hs : (Entry.own c r w.1 (f w.1)).sparing r) :
    Spares r base ((rpcEnv sched c r).write f w) := h.cons hf rfl hs

end Spares

/-- If the program has reserved no slot when it returns, it spares everything. -/
abbrev spares (sched : Schedule) (c : ℤ) (r : RpcCall) (base : World) (p : Rpc α)
    (w : World) : Prop :=
  wp (rpcEnv sched c r) (fun _ _ ↦ True) p
    (fun _ w' ↦ (thread w'.2).reserved = none → Spares r base w') w

/-- What has been reserved stays reserved until the RPC returns. -/
theorem wp_reserved {p : Rpc α} (h : (thread w.2).reserved ≠ none) :
    wp (rpcEnv sched c r) (fun _ _ ↦ True) p (fun _ w' ↦ (thread w'.2).reserved ≠ none) w := by
  have hstable : Stable c r (fun _ ↦ True) fun w ↦ (thread w.2).reserved ≠ none :=
    Stable.reserved (p := (· ≠ none))
  refine Prog.wp_mono (fun _ _ _ ↦ trivial) (fun _ _ h ↦ h)
    (Prog.wp_of_invariant (I := fun w ↦ (thread w.2).reserved ≠ none) (fun f w hw ↦ ?_)
      (fun e w b w' hw hcall ↦ hstable.onCall trivial hw hcall) p h)
  show ((thread w.2).wrote w.1 (f w.1)).reserved ≠ none
  unfold Thread.wrote
  split
  · simp
  · exact hw
  · exact hw

/-- `reserve_handle` either changes nothing or has reserved a slot. -/
theorem spares_reserveHandle {p : PicoPtr} {d : ℤ} (h : Spares r base w) :
    wp (rpcEnv sched c r) (fun _ _ ↦ True) (reserveHandle p d)
      (fun j w' ↦ j = none ∧ Spares r base w' ∨ (thread w'.2).reserved ≠ none) w := by
  have hstable : Stable c r (fun _ ↦ True) (Spares r base) := Spares.stable
  refine Prog.wp_bind.2 (Prog.wp_get.2 ?_)
  split
  · exact Or.inl ⟨rfl, h⟩
  split_ifs
  · exact Or.inl ⟨rfl, h⟩
  refine Prog.wp_bind.2 (hstable.request trivial h fun _ w₁ h₁ ↦ Prog.wp_bind.2 (Prog.wp_get.2 ?_))
  split_ifs
  · exact Prog.wp_bind.2 (hstable.request trivial h₁ fun _ w₂ h₂ ↦ Or.inl ⟨rfl, h₂⟩)
  split
  · exact Prog.wp_bind.2 (hstable.request trivial h₁ fun _ w₂ h₂ ↦ Or.inl ⟨rfl, h₂⟩)
  · rename_i i hi
    refine Prog.wp_bind.2 (Prog.wp_modify.2 (Prog.wp_mono (fun _ _ h ↦ h) (fun _ _ h ↦ Or.inr h)
      (wp_reserved ?_)))
    show ((thread w₁.2).wrote w₁.1
      (w₁.1.updateSocket i (SocketResources.reserve p d))).reserved ≠ none
    rw [Thread.wrote, Thread.reservedBy_reserve hi]
    simp

theorem spares_create {domain : SocketDomain} {type : SocketType} {pHandle : ℤ} {buffer : BufPtr}
    {size : ℕ} (h : Spares r base w) :
    spares sched c r base (picoSocketCreate domain type pHandle c buffer size) w := by
  have hstable : Stable c r (fun _ ↦ True) (Spares r base) := Spares.stable
  unfold picoSocketCreate
  split
  swap
  · exact fun _ ↦ h
  refine Prog.wp_bind.2 (hstable.request trivial h fun _ w₁ h₁ ↦ ?_)
  refine Prog.wp_bind.2 (hstable.request trivial h₁ fun sock w₂ h₂ ↦ ?_)
  refine Prog.wp_bind.2 (hstable.request trivial h₂ fun e w₃ h₃ ↦ ?_)
  split_ifs
  · exact Prog.wp_bind.2 (hstable.request trivial h₃ fun _ w₄ h₄ ↦ fun _ ↦ h₄)
  refine Prog.wp_bind.2 (Spares.stable.setStreamOption h₃ fun w₄ h₄ ↦ ?_)
  refine Prog.wp_bind.2 (Prog.wp_mono (fun _ _ h ↦ h) (fun j w₅ h₅ ↦ ?_) (spares_reserveHandle h₄))
  obtain ⟨rfl, h₅⟩ | hres := h₅
  · refine Prog.wp_bind.2 (Spares.stable.closeUnreserved h₅ fun w₆ h₆ ↦ ?_)
    exact Prog.wp_bind.2 (hstable.request trivial h₆ fun _ w₇ h₇ ↦ fun _ ↦ h₇)
  · exact Prog.wp_mono (fun _ _ h ↦ h) (fun _ _ h hn ↦ absurd hn h) (wp_reserved hres)

theorem spares_accept {handle pClientHandle : ℤ} (h : Spares r base w)
    (hr : r.handle = some handle) :
    spares sched c r base (picoSocketAccept c handle pClientHandle) w := by
  have hstable : Stable c r (fun _ ↦ True) (Spares r base) := Spares.stable
  refine Prog.wp_bind.2 (Prog.wp_bind.2 (Prog.wp_get.2 ?_))
  split
  · exact ⟨trivial, fun b ↦ b.elim⟩
  rename_i i hi
  obtain ⟨rfl, -⟩ := NetworkStack.getSocketFromHandle_eq_some_iff.1 hi
  refine Prog.wp_bind.2 (Prog.wp_get.2 ?_)
  split_ifs
  · exact fun _ ↦ h
  · exact fun _ ↦ h
  refine Prog.wp_bind.2 (hstable.request trivial h fun _ w₁ h₁ ↦ ?_)
  refine Prog.wp_bind.2 (hstable.request trivial h₁ fun sock w₂ h₂ ↦ ?_)
  refine Prog.wp_bind.2 (hstable.request trivial h₂ fun e w₃ h₃ ↦ ?_)
  have h₄ : Spares r base ((rpcEnv sched c r).write
      (fun s ↦ s.updateSocket i (SocketResources.setError (picoErr2Os e))) w₃) :=
    h₃.write sched (.updateSocket (.setError _ _)) ⟨i, hr, Or.inl ⟨_, rfl⟩⟩
  have h₅ := h₄.write (c := c) (f := fun s ↦ s.updateSocket i SocketResources.acceptPending) sched
    (.updateSocket (.acceptPending _)) ⟨i, hr, Or.inr rfl⟩
  refine Prog.wp_bind.2 (Prog.wp_modify.2 (Prog.wp_bind.2 (Prog.wp_modify.2 ?_)))
  split_ifs
  · refine Prog.wp_bind.2 (hstable.request trivial h₅ fun _ w₆ h₆ ↦ ?_)
    exact Prog.wp_bind.2 (hstable.request trivial h₆ fun _ w₇ h₇ ↦ fun _ ↦ h₇)
  refine Prog.wp_bind.2 (Prog.wp_get.2 (Prog.wp_bind.2 ?_))
  refine Prog.wp_mono (fun _ _ h ↦ h) (fun j w₆ h₆ ↦ ?_) (spares_reserveHandle h₅)
  obtain ⟨rfl, h₆⟩ | hres := h₆
  · refine Prog.wp_bind.2 (hstable.request trivial h₆ fun _ w₇ h₇ ↦ ?_)
    exact Prog.wp_bind.2 (hstable.request trivial h₇ fun _ w₈ h₈ ↦ fun _ ↦ h₈)
  · exact Prog.wp_mono (fun _ _ h ↦ h) (fun _ _ h hn ↦ absurd hn h) (wp_reserved hres)

/-- **A `create` or `accept` that reserves no slot spares everything.** -/
theorem spares_rpc (pl : Platform) (hr : r.acquires = true) (h : Spares r base w) :
    spares sched c r base (rpc pl c r) w := by
  cases r with
  | create domain type pHandle =>
    simp only [spares, rpc, rpcSocketCreate, Prog.wp_map]
    exact wp_guarded (fun _ _ _ ↦ h) fun _ ↦ Prog.wp_bind.2 (spares_create h)
  | accept handle pClientHandle srcAddr =>
    simp only [spares, rpc, rpcSocketAccept, Prog.wp_map]
    exact wp_guarded (fun _ _ _ ↦ h) fun _ ↦ Prog.wp_bind.2 (spares_accept h rfl)
  | _ => exact absurd hr Bool.noConfusion

/-! ### Closing a handle -/

section Close

variable {s : NetworkStack} {i k : ℕ}

/-- Slot `i` is free, and the client at `k` uses one socket less than in `s`. -/
structure FreedSince (s s' : NetworkStack) (k i : ℕ) : Prop where
  status : (s'.sockets i).status = .free
  count : (s'.clients k).currentSocketsInUse = (s.clients k).currentSocketsInUse - 1

theorem frees_freeHandle (hf : SameFrame s w.1) (ho : s.Owns c i)
    (hk : s.IsClientAt c k) : wp (rpcEnv sched c r) (fun _ _ ↦ True) (freeHandle i c)
      (fun _ w' ↦ FreedSince s w'.1 k i) w := by
  have ho' := hf.owns ho
  have hk' : w.1.getClientIndexFromClientId c = some k := hf.isClientAt hk
  have hi : w.1.getSocketFromHandle i = some i :=
    NetworkStack.getSocketFromHandle_eq_some_iff.2 ⟨rfl, ho'.1⟩
  have huse : (w.1.clients k).inUse = true :=
    (NetworkStack.getClientIndexFromClientId_eq_some_iff.1 hk').2.1.2
  simp only [freeHandle, Prog.wp_bind, Prog.wp_get, hk', hi, huse, Bool.true_eq_false, if_false,
    ho'.2,
    ne_eq, not_true_eq_false]
  have hsame : Stable c r (fun _ ↦ True) fun w ↦ SameFrame s w.1 := .sameFrame
  refine hsame.request trivial hf fun _ w₁ hf₁ ↦ Prog.wp_modify.2 ?_
  have hrelease : Stable c r (fun _ ↦ True) fun w ↦ SameFrame (w₁.1.release k i) w.1 := .sameFrame
  refine hrelease.request trivial (.refl _) fun _ w₂ hf₂ ↦ ⟨?_, ?_⟩
  · rw [(hf₂.slot i).status, NetworkStack.sockets_release_self]
    rfl
  · rw [hf₂.client_currentSocketsInUse, NetworkStack.clients_release,
      if_pos rfl, ← hf₁.client_currentSocketsInUse]
    rfl

/-- **A `close` past its checks frees the slot**, whatever picoTCP answers. -/
theorem frees_close (hf : SameFrame s w.1) (ho : s.Owns c i)
    (hk : s.IsClientAt c k) (himpl : (s.sockets i).implementationSocket ≠ none) :
    wp (rpcEnv sched c r) (fun _ _ ↦ True) (picoSocketClose i c)
      (fun _ w' ↦ FreedSince s w'.1 k i) w := by
  have hsame : Stable c r (fun _ ↦ True) fun w ↦ SameFrame s w.1 := .sameFrame
  have hi : w.1.getSocketFromHandle i = some i :=
    NetworkStack.getSocketFromHandle_eq_some_iff.2 ⟨rfl, (hf.owns ho).1⟩
  simp only [picoSocketClose, socketOf, Prog.wp_bind, Prog.wp_get, hi, Prog.wp_pure]
  split_ifs with hfin hnone
  · exact Prog.wp_bind.2 (frees_freeHandle hf ho hk)
  · exact absurd ((hf.slot i).implementationSocket.symm.trans hnone) himpl
  refine Prog.wp_bind.2 (hsame.request trivial hf fun _ w₁ hf₁ ↦ ?_)
  refine Prog.wp_bind.2 (hsame.request trivial hf₁ fun ret w₂ hf₂ ↦ ?_)
  refine Prog.wp_bind.2 (hsame.request trivial hf₂ fun e w₃ hf₃ ↦ ?_)
  have hf₄ : SameFrame s (w₃.1.updateSocket i (SocketResources.setError (picoErr2Os e))) :=
    hf₃.trans (.updateSocket (.setError _ _))
  refine Prog.wp_bind.2 (Prog.wp_modify.2 (Prog.wp_bind.2 (Prog.wp_modify.2 ?_)))
  refine Prog.wp_bind.2 (hsame.request trivial (hf₄.trans (.updateSocket (.clear {.close} _)))
    fun _ w₅ hf₅ ↦ ?_)
  refine Prog.wp_bind.2 (hsame.request trivial hf₅ fun _ w₆ hf₆ ↦ ?_)
  split_ifs
  · exact Prog.wp_bind.2 (frees_freeHandle hf₆ ho hk)
  · exact Prog.wp_bind.2 (frees_freeHandle hf₆ ho hk)

end Close

/-! ### Runs -/

section

variable {s s' : NetworkStack} {h h' : History}

/-- A socket that was handed out, and neither closed nor freed since, is held by the slot that was
reserved for it. -/
theorem held_of_handsOut {later earlier : History} {x : Entry} {p : ℕ}
    (hw : Reachable pl sched cfg (s, h))
    (hsplit : h = later ++ x :: earlier) (hx : x.handsOut = some p)
    (hclose : ¬ ∃ y ∈ later, y.closes p = true)
    (hfree : ¬ ∃ y ∈ later, y.frees (some p) = true) :
    ∃ i, HeldFor i later ∧ (s.sockets i).status = .inUse ∧
      (s.sockets i).implementationSocket = some p ∧ (∀ j, HeldFor j later → j = i) ∧
      (Fresh h → ∀ j, j ≠ i → (s.sockets j).status = .inUse →
        (s.sockets j).implementationSocket = some p → ∀ y ∈ later, ¬ y.reserves j) := by
  obtain ⟨ho, ht⟩ := reachable_orderly hw
  have hvisited : Visited pl sched cfg (s, h) := .reachable hw
  have ha : Acquired p later (s, h) := Deeds.acquired hvisited.deeds ho hw.inRow hsplit hx
  obtain (hcl | ⟨hgone, -⟩) | ⟨hp, -⟩ | ⟨i, hi⟩ := ha.fate
  · exact absurd hcl hclose
  · exact absurd hgone hfree
  · have hnone : (thread h).acquired = none := by rw [ht]
    exact absurd (hnone.symm.trans hp) (by simp)
  · obtain ⟨hin, hsock, -⟩ := ha.held i hi
    refine ⟨i, hi, hin, hsock, fun j hj ↦ ha.unique j i hj hi, fun hf j hj hinj hsockj ↦ ?_⟩
    obtain hnever | hheld | hagain := ha.others j hinj hsockj
    · exact hnever
    · exact absurd (ha.unique j i hheld hi) hj
    · rw [hsplit] at hf
      exact absurd (freed_of_handsOut hf hx hagain) hfree

theorem Thread.Returns.reserved_of_fails {t : Thread} {a : Reply} (hret : t.Returns r a)
    (herr : a.err ≠ .success) : t.reserved = none := by
  by_contra hne
  obtain ⟨j, hj⟩ := Option.ne_none_iff_exists'.1 hne
  exact herr (hret.reserved j hj).2.1

/-- A `create` or `accept` that fails spares everything. -/
theorem spares_of_fails {a : Reply} (hw : Reachable pl sched cfg (s, h)) (hr : r.acquires = true)
    (hout : Prog.Outcome (rpcEnv sched c r) (rpc pl c r) (s, .begin c r s :: h) a w)
    (herr : a.err ≠ .success) : a.out = r.outputs ∧ Spares r (s, .begin c r s :: h) w := by
  have hret := (leaves_of_caller hw hout).1.2
  have hn := hret.reserved_of_fails herr
  exact ⟨hret.unreserved hr hn, Prog.outcome_of_wp (spares_rpc pl hr (.refl _)) hout hn⟩

/-- And it has closed the socket that it may have got. -/
theorem closed_of_fails {later earlier : History} {x : Entry} {p : ℕ} {a : Reply}
    (hw : Reachable pl sched cfg (s, h)) (hr : r.acquires = true)
    (hout : Prog.Outcome (rpcEnv sched c r) (rpc pl c r) (s, .begin c r s :: h) a (s', h'))
    (herr : a.err ≠ .success) (hsplit : h' = later ++ x :: (earlier ++ .begin c r s :: h))
    (hx : x.handsOut = some p) : ∃ y ∈ later, y.closes p = true := by
  obtain ⟨⟨hd, hret⟩, hds⟩ := leaves_of_caller hw hout
  have hrow : Always Entry.inRow h' :=
    Prog.outcome_of_wp (wp_rpc_inRow pl (inRow_begin hw.inRow) rfl) hout
  obtain ⟨new, hnew, hsp⟩ := (spares_of_fails hw hr hout herr).2.entries
  have hlater : new = later ++ x :: earlier := by
    have hsame : new ++ .begin c r s :: h = later ++ x :: earlier ++ .begin c r s :: h := by
      rw [List.append_assoc]
      exact hnew.symm.trans hsplit
    exact List.append_cancel_right hsame
  have hnever : ∀ y ∈ later, ∀ i, ¬ y.reserves i := fun y hy i ↦
    (hsp y (hlater ▸ List.mem_append_left _ hy)).not_reserves
  have ha : Acquired p later (s', h') := Deeds.acquired hds hd.orderly hrow hsplit hx
  obtain (hcl | ⟨-, i, y, hy, hres⟩) | ⟨hp, -⟩ | ⟨i, hi⟩ := ha.fate
  · exact hcl
  · exact absurd hres (hnever y hy i)
  · exact absurd (hret.acquired.symm.trans hp) (by simp)
  · obtain ⟨y, hy, hres⟩ := hi.reserves
    exact absurd hres (hnever y hy i)

/-- **No socket is leaked.** Between RPCs, every picoTCP socket that was handed out is held by the
handle that was reserved for it, and by no other since unless picoTCP hands out the address of a
live socket; or it has been closed, or picoTCP has told that it frees it. A `create` or `accept`
that fails, whoever calls, leaves the output parameters alone and has closed the socket that it may
have got; but for what callbacks record it changes no slot and no count, only the error and the
pending connections of the slot of its handle. A `close` past its checks frees its slot, and the
caller uses one socket less. -/
theorem sockets_not_leaked (hw : Reachable pl sched cfg (s, h)) :
    (∀ later x earlier p, h = later ++ x :: earlier → x.handsOut = some p →
      (∃ i, HeldFor i later ∧ (s.sockets i).status = .inUse ∧
        (s.sockets i).implementationSocket = some p ∧ (∀ j, HeldFor j later → j = i) ∧
        (Fresh h → ∀ j, j ≠ i → (s.sockets j).status = .inUse →
          (s.sockets j).implementationSocket = some p → ∀ y ∈ later, ¬ y.reserves j)) ∨
      (∃ y ∈ later, y.closes p = true) ∨ ∃ y ∈ later, y.frees (some p) = true) ∧
    (∀ c r a s' h', r.acquires = true →
      Prog.Outcome (rpcEnv sched c r) (rpc pl c r) (s, .begin c r s :: h) a (s', h') →
      a.err ≠ .success →
      a.out = r.outputs ∧ Spares r (s, .begin c r s :: h) (s', h') ∧
      ∀ later x earlier p, h' = later ++ x :: (earlier ++ .begin c r s :: h) → x.handsOut = some p →
        ∃ y ∈ later, y.closes p = true) ∧
    ∀ c k handle a s' h', s.IsClientAt c k →
    firstError ((RpcCall.close handle).checks pl c s) = none →
      Prog.Outcome (rpcEnv sched c (.close handle)) (rpc pl c (.close handle))
        (s, .begin c (.close handle) s :: h) a (s', h') → FreedSince s s' k handle.toNat := by
  refine ⟨fun later x earlier p hsplit hx ↦ ?_, fun c r a s' h' hr hout herr ↦ ?_,
    fun c k handle a s' h' hk hch hout ↦ ?_⟩
  · by_cases hclose : ∃ y ∈ later, y.closes p = true
    · exact Or.inr (Or.inl hclose)
    by_cases hfree : ∃ y ∈ later, y.frees (some p) = true
    · exact Or.inr (Or.inr hfree)
    · exact Or.inl (held_of_handsOut hw hsplit hx hclose hfree)
  · obtain ⟨hargs, hspares⟩ := spares_of_fails hw hr hout herr
    exact ⟨hargs, hspares, fun later x earlier p ↦ closed_of_fails hw hr hout herr⟩
  · obtain ⟨i, rfl, ha⟩ := admitted_of_checks pl (.close handle) hch rfl
    have hacc : Accounting s := (reachable_stepped hw).1.accounting
    have himpl := (hacc.inUse_iff i ha.owns.1).1 (hacc.inUse_of_owns ha.owns hk)
    have hfrees : wp (rpcEnv sched c (.close i)) (fun _ _ ↦ True) (rpc pl c (.close i))
        (fun _ w' ↦ FreedSince s w'.1 k i) (s, .begin c (.close i) s :: h) := by
      simp only [rpc, rpcSocketClose, Prog.wp_map]
      refine wp_guarded (fun e he ↦ absurd (hch.symm.trans he) (by simp)) fun _ ↦ ?_
      exact frees_close (.refl _) ha.owns hk himpl
    exact Prog.outcome_of_wp hfrees hout

end

/-- Badge 999 is no client's. picoTCP has opened a socket for it, and it has got no handle. -/
def sampleRefused : World :=
  served samplePlatform 999 (.create .inet .stream (some 5)) (obliging (some 9) none) (fun _ w ↦ w)
    sampleCreated

/-- Slot 0 holds client 101's socket, the socket opened for badge 999 has been closed, and client
101 could close its handle. -/
theorem sockets_not_leaked_sampleCreated :
    (∃ i, HeldFor i (sampleCreated.2.take 13) ∧ (sampleCreated.1.sockets i).implementationSocket =
      some 7) ∧
    (∃ y ∈ sampleRefused.2.tail.take 5, y.closes 9 = true) ∧
    ((served samplePlatform 101 (.close 0) (obliging none none) (fun _ w ↦ w)
      sampleCreated).1.clients 0).currentSocketsInUse = 0 := by
  have hw := reachable_sampleCreated .free
  refine ⟨?_, ?_, ?_⟩
  · have hsplit : ∃ x, sampleCreated.2 = sampleCreated.2.take 13 ++ x :: sampleCreated.2.drop 14 ∧
        x.handsOut = some 7 := ⟨_, rfl, rfl⟩
    obtain ⟨x, hsplit, hx⟩ := hsplit
    obtain ⟨i, hi, -, hsock, -⟩ | hclose | hfree := (sockets_not_leaked hw).1 _ x _ 7 hsplit hx
    · exact ⟨i, hi, hsock⟩
    · exact absurd hclose (by decide)
    · exact absurd hfree (by decide)
  · have hserve : serve samplePlatform 999 (.create .inet .stream (some 5)) (obliging (some 9) none)
        (fun _ w ↦ w) sampleCreated = some sampleRefused := rfl
    have hout : ∃ a h', Prog.Outcome (rpcEnv .free 999 (.create .inet .stream (some 5)))
        (rpc samplePlatform 999 (.create .inet .stream (some 5)))
        (sampleCreated.1,
          .begin 999 (.create .inet .stream (some 5)) sampleCreated.1 :: sampleCreated.2) a
        (sampleRefused.1, h') ∧
        sampleRefused.2 = .reply 999 (.create .inet .stream (some 5)) a sampleRefused.1 :: h' :=
      outcome_of_serve (interference_refl .free) hserve
    obtain ⟨a, h', hout, hh⟩ := hout
    obtain ⟨ha, rfl⟩ := List.cons.inj hh
    have herr : a.err ≠ .success := by
      obtain ⟨-, -, rfl, -⟩ := Entry.reply.inj ha
      decide
    have hsplit : ∃ x, sampleRefused.2.tail = sampleRefused.2.tail.take 5 ++ x ::
        ((sampleRefused.2.tail.drop 6).take 1 ++
          .begin 999 (.create .inet .stream (some 5)) sampleCreated.1 :: sampleCreated.2) ∧
        x.handsOut = some 9 := ⟨_, rfl, rfl⟩
    obtain ⟨x, hsplit, hx⟩ := hsplit
    exact ((sockets_not_leaked hw).2.1 _ _ _ _ _ rfl hout herr).2.2 _ x _ 9 hsplit hx
  · have hk : sampleCreated.1.IsClientAt 101 0 := rfl
    have hdone : (serve samplePlatform 101 (.close 0) (obliging none none) (fun _ w ↦ w)
        sampleCreated).isSome = true := rfl
    obtain ⟨a, hout⟩ := outcome_served (interference_refl .free) hdone
    exact ((sockets_not_leaked hw).2.2 101 0 0 a _ _ hk rfl hout).count

/-- picoTCP has no connection to accept. -/
def declining : (e : Call) → Option e.Answer
  | .picoErr => some .eagain
  | e => obliging none none e

/-- Client 101 has tried to accept a connection. -/
def sampleDeclined : World :=
  served samplePlatform 101 (.accept 0 (some 0) (some ⟨.replicate 16 0, 0⟩)) declining (fun _ w ↦ w)
    sampleListening

/-- An `accept` that fails changes the slot of its handle, and after picoTCP has used an address
again two handles in use hold it. -/
theorem slot_changed_sampleDeclined :
    (¬ ∀ (pl : Platform) (sched : Schedule) (cfg : Config) (s s' : NetworkStack) (h h' : History)
      (c : ℤ) (r : RpcCall) (a : Reply), Reachable pl sched cfg (s, h) → s.IsClient c →
      r.acquires = true →
      Prog.Outcome (rpcEnv sched c r) (rpc pl c r) (s, .begin c r s :: h) a (s', h') →
      a.err ≠ .success → ∀ i, s'.sockets i = s.sockets i) ∧
    ¬ ∀ (pl : Platform) (sched : Schedule) (cfg : Config) (s : NetworkStack) (h later : History)
      (x : Entry) (earlier : History) (p : ℕ), Reachable pl sched cfg (s, h) →
      h = later ++ x :: earlier → x.handsOut = some p →
      (∃! i, (s.sockets i).status = .inUse ∧ (s.sockets i).implementationSocket = some p) ∨
        (∃ y ∈ later, y.closes p = true) ∨ ∃ y ∈ later, y.frees (some p) = true := by
  refine ⟨fun hall ↦ ?_, fun hall ↦ ?_⟩
  · have hserve : serve samplePlatform 101 (.accept 0 (some 0) (some ⟨.replicate 16 0, 0⟩))
        declining (fun _ w ↦ w) sampleListening = some sampleDeclined := rfl
    have hout :
      ∃ a h', Prog.Outcome (rpcEnv .atomic 101 (.accept 0 (some 0) (some ⟨.replicate 16 0, 0⟩)))
        (rpc samplePlatform 101 (.accept 0 (some 0) (some ⟨.replicate 16 0, 0⟩)))
        (sampleListening.1,
          .begin 101 (.accept 0 (some 0) (some ⟨.replicate 16 0, 0⟩)) sampleListening.1 ::
          sampleListening.2) a (sampleDeclined.1, h') ∧
        sampleDeclined.2 = .reply 101 (.accept 0 (some 0) (some ⟨.replicate 16 0, 0⟩)) a
          sampleDeclined.1 ::
          h' := outcome_of_serve (interference_refl .atomic) hserve
    obtain ⟨a, h', hout, hh⟩ := hout
    have herr : a.err ≠ .success := by
      obtain ⟨-, -, rfl, -⟩ := Entry.reply.inj (List.cons.inj hh).1
      decide
    have hc : sampleListening.1.IsClient 101 := ⟨0, rfl⟩
    have hsame := hall _ _ _ _ _ _ _ _ _ _ (reachable_sampleListening .atomic) hc rfl hout herr 0
    exact absurd (congrArg SocketResources.currentError hsame) (by decide)
  · have hsplit : ∃ x, sampleReused.2 = sampleReused.2.take 13 ++ x :: sampleReused.2.drop 14 ∧
        x.handsOut = some 7 := ⟨_, rfl, rfl⟩
    obtain ⟨x, hsplit, hx⟩ := hsplit
    obtain ⟨i, -, honly⟩ | hclose | hfree :=
      hall _ _ _ _ _ _ x _ 7 (reachable_sampleReused .atomic) hsplit hx
    · have h₀ : 0 = i := honly 0 ⟨rfl, rfl⟩
      have h₁ : 1 = i := honly 1 ⟨rfl, rfl⟩
      exact absurd (h₀.trans h₁.symm) (by decide)
    · exact absurd hclose (by decide)
    · exact absurd hfree (by decide)

end NetworkStackPicoTcp
