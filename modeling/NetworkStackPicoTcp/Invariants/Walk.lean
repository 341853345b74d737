import NetworkStackPicoTcp.Invariants.Micro

/-!
# Walking through the code of an RPC

The bodies of the RPCs are walked through once, for every schedule, and each is shown to consist of
steps of `Micro`. A walk starts in a world `base`. It owes, at each call it issues (`Issued`): that
the world is reached from `base` by steps, that the call is not a `NULL` dereference or a diverging
loop, and, when it is the picoTCP call of the RPC's operation on the socket of its handle, what the
RPC has established by then (`Entered`).

This module has the rules for calls and writes, and walks through `reserve_handle`, `free_handle`
and `set_parent_handle`.
-/

namespace NetworkStackPicoTcp

open Prog (wp)

/-! ### What an RPC may do -/

/-- The operation of the RPC makes this picoTCP call on the picoTCP socket of its handle. -/
def RpcCall.issues : RpcCall → PicoCall → Bool
  | .close _, .close _ | .connect _ _, .connect _ _ _ | .bind _ _, .bind _ _ _
  | .listen _ _, .listen _ _ | .accept _ _ _, .accept _ | .write _ _, .write _ _ _
  | .read _ _, .read _ _ _ | .sendto _ _ _, .sendto _ _ _ _ _
  | .recvfrom _ _ _, .recvfrom _ _ _ => true
  | _, _ => false

/-- The type that the RPC requires of its socket. -/
def RpcCall.requiredType : RpcCall → Option SocketType
  | .connect _ _ | .listen _ _ | .accept _ _ _ | .write _ _ | .read _ _ => some .stream
  | .sendto _ _ _ | .recvfrom _ _ _ => some .dgram
  | _ => none

/-- The RPC requires a connected socket. -/
def RpcCall.needsConnection : RpcCall → Bool
  | .write _ _ | .read _ _ => true
  | _ => false

/-- The RPC is a `create` or an `accept`. -/
def RpcCall.acquires : RpcCall → Bool
  | .create _ _ _ | .accept _ _ _ => true
  | _ => false

/-- The calls that open a socket or set an option. -/
def PicoCall.isSetup : PicoCall → Bool
  | socketOpen _ _ | setOption _ _ _ => true
  | _ => false

theorem RpcCall.issues_of_isSetup {r : RpcCall} {pc : PicoCall} (h : pc.isSetup = true) :
    r.issues pc = false := by
  cases pc with
  | socketOpen | setOption => cases r <;> rfl
  | _ => exact absurd h Bool.false_ne_true

/-- The socket a picoTCP call is made on. -/
def PicoCall.socket : PicoCall → PicoPtr
  | socketOpen _ _ => none
  | setOption p _ _ | close p | connect p _ _ | bind p _ _ | listen p _ | accept p | write p _ _
  | read p _ _ | sendto p _ _ _ _ | recvfrom p _ _ => p

/-- The buffer and the length of a call that transfers data. -/
def PicoCall.transfer : PicoCall → Option (BufPtr × ℕ)
  | write _ buf len | read _ buf len | sendto _ buf len _ _ | recvfrom _ buf len => some (buf, len)
  | _ => none

/-- What the checks of the RPC have established about its handle. -/
structure Admitted (c : ℤ) (r : RpcCall) (s : NetworkStack) (i : ℕ) : Prop where
  handle : r.handle = some (i : ℤ)
  owns : s.Owns c i
  type : ∀ t, r.requiredType = some t → (s.sockets i).socketType = t
  connected : r.needsConnection = true → (s.sockets i).connected = true

/-- The picoTCP call that the operation of the RPC makes for slot `i`, with the arguments it takes
from the tables. -/
structure Operates (pl : Platform) (c : ℤ) (r : RpcCall) (s : NetworkStack) (i : ℕ)
    (pc : PicoCall) : Prop where
  fin : .fin ∉ (s.sockets i).eventMask
  socket : pc.socket = (s.sockets i).implementationSocket
  socket_ne : (s.sockets i).implementationSocket ≠ none
  transfer : ∀ buf len, pc.transfer = some (buf, len) →
    buf = pl.getBuf s.bufIoCells (s.sockets i).buf ∧
      len = clampLen pl c (r.outputs.len.getD 0) ∧
      pl.dataportFits (s.sockets i).buf len = true

/-- The entry is the answer of a picoTCP call. -/
def Entry.asksPico : Entry → Bool
  | .answer _ _ (.pico _) _ _ => true
  | _ => false

/-- The RPC has made calls and not written, and no call was one of picoTCP. -/
structure Waits (pl : Platform) (w w' : World) : Prop extends Rests pl w w' where
  unasked : ∃ new, w'.2 = new ++ w.2 ∧ ∀ x ∈ new, x.asksPico = false

/-- The RPC, which began in `base`, has made its checks and got the lock, and calls picoTCP for the
first time. -/
structure Entered (pl : Platform) (c : ℤ) (r : RpcCall) (base : World) (pc : PicoCall) (w : World) :
    Prop where
  waits : Waits pl base w
  operates : ∃ i, Admitted c r base.1 i ∧ Operates pl c r base.1 i pc

/-- What holds whenever the RPC, which began in `base`, issues a call. The release of `socketCB` is
left out: in `reserve_handle` it falls inside a step. -/
structure Issued (pl : Platform) (c : ℤ) (r : RpcCall) (base : World) (e : Call) (w : World) :
    Prop where
  micros : e ≠ .unlock .socketCB → Micros pl base w
  safe : e ≠ .nullDeref ∧ e ≠ .diverge
  entered : ∀ pc, e = .pico pc → r.issues pc = true → Entered pl c r base pc w
  other : ∀ pc, e = .pico pc → r.issues pc = false →
    pc.isSetup = true ∨ r.acquires = true ∧ pc = .close (obtained w.2)

/-- picoTCP has not returned more than the length it was passed. -/
def Bounded : (e : Call) → e.Answer → Prop
  | .pico (.write _ _ len), ret => ret ≤ (len : ℤ)
  | .pico (.read _ _ len), ret => ret ≤ (len : ℤ)
  | .pico (.sendto _ _ len _ _), ret => ret ≤ (len : ℤ)
  | .pico (.recvfrom _ _ len), ret => ret.1 ≤ (len : ℤ)
  | _, _ => True

/-- The history has no picoTCP result longer than the length passed. -/
def AnswersBounded (h : History) : Prop :=
  ∀ c r e b s, Entry.answer c r e b s ∈ h → Bounded e b

/-- The handle table has no room for the client at index `k`: its quota is used up or no slot is
free. -/
def NetworkStack.Refuses (s : NetworkStack) (k : ℕ) : Prop :=
  (s.clients k).socketQuota ≤ (s.clients k).currentSocketsInUse ∨ s.firstFree = none

variable {pl : Platform} {sched : Schedule} {c : ℤ} {r : RpcCall} {base w : World} {α : Type}

/-- All calls of the program are issued as `Issued` says, and it returns in worlds that satisfy
`Q`. -/
abbrev walks (pl : Platform) (sched : Schedule) (c : ℤ) (r : RpcCall) (base : World) (p : Rpc α)
    (Q : α → World → Prop) (w : World) : Prop :=
  wp (rpcEnv sched c r) (Issued pl c r base) p Q w

/-! ### Calls and writes -/

/-- The RPC issues this call without having established anything about it. -/
def Call.ordinary (r : RpcCall) : Call → Bool
  | .nullDeref | .diverge => false
  | .pico pc => pc.isSetup
  | e => !r.isSweep || !e.movesSweep

theorem issued_of_ordinary {e : Call} (he : e.ordinary r = true) (hw : Micros pl base w) :
    Issued pl c r base e w := by
  refine ⟨fun _ ↦ hw, ?_, ?_, ?_⟩
  · constructor <;> rintro rfl <;> simp [Call.ordinary] at he
  · rintro pc rfl hpc
    exact absurd hpc (by simp [RpcCall.issues_of_isSetup he])
  · rintro pc rfl _
    exact Or.inl he

/-- A call of the sweep. -/
theorem issued_of_movesSweep {e : Call} (he : e.movesSweep = true) (hw : Micros pl base w) :
    Issued pl c r base e w := by
  refine ⟨fun _ ↦ hw, ?_, ?_, ?_⟩
  · constructor <;> rintro rfl <;> simp [Call.movesSweep] at he
  · rintro pc rfl
    simp [Call.movesSweep] at he
  · rintro pc rfl
    simp [Call.movesSweep] at he

/-- `create` and `accept` close a socket that they cannot reserve a handle for. -/
theorem issued_close {p : PicoPtr} (hacq : r.acquires = true) (hr : r.issues (.close p) = false)
    (hp : obtained w.2 = p) (hw : Micros pl base w) : Issued pl c r base (.pico (.close p)) w := by
  refine ⟨fun _ ↦ hw, by simp, ?_, ?_⟩
  · rintro pc hpc hissues
    obtain rfl := Call.pico.inj hpc
    exact absurd hissues (by simp [hr])
  · rintro pc hpc _
    obtain rfl := Call.pico.inj hpc
    exact Or.inr ⟨hacq, by rw [hp]⟩

/-- The first picoTCP call of the operation on slot `i`. -/
theorem issued_operation {pc : PicoCall} {i : ℕ} (hw : Waits pl base w) (hr : r.issues pc = true)
    (ha : Admitted c r base.1 i) (hop : Operates pl c r base.1 i pc) :
    Issued pl c r base (.pico pc) w := by
  refine ⟨fun _ ↦ hw.micros, by simp, ?_, ?_⟩
  · rintro pc' hpc -
    obtain rfl := Call.pico.inj hpc
    exact ⟨hw, i, ha, hop⟩
  · rintro pc' hpc hno
    obtain rfl := Call.pico.inj hpc
    exact absurd hr (by simp [hno])

/-- What a call leaves behind when it returns. -/
structure Returns (pl : Platform) (c : ℤ) (r : RpcCall) (e : Call) (b : e.Answer) (w w' : World) :
    Prop extends Rests pl w w' where
  obtained : obtained w'.2 = obtainedBy e b (obtained w.2)
  pending : pending w'.2 = pendingBy e b (pending w.2)
  issuer : issuer w'.2 = issuer w.2
  phase : phase w'.2 = phase w.2
  /-- Only the control thread has run before the answer. -/
  single : ∃ new, w'.2 = .answer c r e b w'.1 :: (new ++ w.2) ∧ ∀ x ∈ new, x.isControl = true

theorem returns_of_elsewhere {e : Call} {w₁ : World} (h : Elsewhere pl w w₁) (b : e.Answer)
    (hm : r.isSweep = false ∨ e.movesSweep = false) :
    Returns pl c r e b w (w₁.1, .answer c r e b w₁.1 :: w₁.2) := by
  obtain ⟨new, hnew, hc⟩ := h.control
  refine ⟨h.toRests.answer e b hm, ?_, ?_, h.issuer, ?_, new, by rw [hnew], hc⟩
  · rw [obtained, h.obtained]
  · rw [pending, h.pending]
  · rw [phase, h.phase]
    rcases hm with hm | hm
    · simp [hm]
    · simp [phaseBy_of_not_movesSweep hm]

theorem Returns.answered {e : Call} {b : e.Answer} {w' : World} (h : Returns pl c r e b w w') :
    .answer c r e b w'.1 ∈ w'.2 := by
  obtain ⟨new, hnew, -⟩ := h.single
  rw [hnew]
  exact List.mem_cons_self

theorem asksPico_of_isControl {x : Entry} (h : x.isControl = true) : x.asksPico = false := by
  cases x <;> first | rfl | exact absurd h Bool.false_ne_true

theorem Waits.refl (w : World) : Waits pl w w := ⟨Rests.refl w, [], rfl, by simp⟩

/-- After a call that is not one of picoTCP, the RPC still has not asked picoTCP. -/
theorem Waits.returns {e : Call} {b : e.Answer} {w' : World} (h : Waits pl base w)
    (hr : Returns pl c r e b w w') (he : ∀ pc, e ≠ .pico pc) : Waits pl base w' := by
  obtain ⟨new, hnew, hask⟩ := h.unasked
  obtain ⟨new', hnew', hctl⟩ := hr.single
  refine ⟨h.toRests.trans hr.toRests, .answer c r e b w'.1 :: (new' ++ new), ?_, fun x hx ↦ ?_⟩
  · rw [hnew', hnew, List.cons_append, List.append_assoc]
  · rcases List.mem_cons.1 hx with rfl | hx
    · cases e with
      | pico pc => exact absurd rfl (he pc)
      | _ => rfl
    · rcases List.mem_append.1 hx with hx | hx
      · exact asksPico_of_isControl (hctl x hx)
      · exact hask x hx

/-- A call that is not a step of the sweep may let the control thread run, and then returns. -/
theorem walks_call {e : Call} {Q : e.Answer → World → Prop} (hi : Issued pl c r base e w)
    (hm : r.isSweep = false ∨ e.movesSweep = false)
    (h : ∀ b w', Returns pl c r e b w w' → Q b w') :
    walks pl sched c r base (request e) Q w := by
  refine ⟨hi, ?_⟩
  rintro b w' ⟨w₁, hint, rfl⟩
  exact h b _ (returns_of_elsewhere (elsewhere_interference hint) b hm)

theorem movesSweep_of_ordinary {e : Call} (he : e.ordinary r = true) :
    r.isSweep = false ∨ e.movesSweep = false := by
  cases e <;> simp_all [Call.ordinary, Call.movesSweep]

theorem walks_request {e : Call} {Q : e.Answer → World → Prop} (he : e.ordinary r = true)
    (hw : Micros pl base w) (h : ∀ b w', Returns pl c r e b w w' → Q b w') :
    walks pl sched c r base (request e) Q w :=
  walks_call (issued_of_ordinary he hw) (movesSweep_of_ordinary he) h

/-- During a quiet call nothing else happens. -/
theorem walks_request_quiet {e : Call} {Q : e.Answer → World → Prop} (hq : e.Quiet)
    (he : e.ordinary r = true) (hw : Micros pl base w)
    (h : ∀ b w', Returns pl c r e b w w' → w'.1 = w.1 → Q b w') :
    walks pl sched c r base (request e) Q w := by
  refine ⟨issued_of_ordinary he hw, ?_⟩
  rintro b w' ⟨w₁, hint, rfl⟩
  obtain rfl := hq sched w w₁ hint
  exact h b _ (returns_of_elsewhere (Elsewhere.refl _) b (movesSweep_of_ordinary he)) rfl

/-- A write of the program is a step if it is one of `OwnStep`, and marks as connected only slots
that `accept` has reserved. -/
theorem micros_write (sched : Schedule) (f : NetworkStack → NetworkStack) (hr : r.isSweep = false)
    (hw : Micros pl base w) (ho : OwnStep pl c r w.1 (f w.1))
    (hn : ∀ i, ((f w.1).sockets i).connected = true →
      (w.1.sockets i).connected = true ∨ CameFromAccept i w.2) :
    Micros pl base ((rpcEnv sched c r).write f w) :=
  hw.tail (.own hr ho hn)

/-- An update of a slot that does not mark it as connected. -/
theorem keepsConnected {s : NetworkStack} {h : History} {i : ℕ}
    {f : SocketResources → SocketResources}
    (hf : (f (s.sockets i)).connected = true → (s.sockets i).connected = true) (j : ℕ)
    (hj : ((s.updateSocket i f).sockets j).connected = true) :
    (s.sockets j).connected = true ∨ CameFromAccept j h := by
  left
  rw [NetworkStack.updateSocket_sockets] at hj
  split_ifs at hj with hji
  · rw [hji]
    exact hf hj
  · exact hj

/-- Between writes no slot is reserved. -/
theorem CameFromAccept.rests {w' : World} {j : ℕ} (h : CameFromAccept j w.2) (hr : Rests pl w w') :
    CameFromAccept j w'.2 := by
  obtain ⟨new, hnew, hno⟩ := hr.entries
  rw [hnew]
  refine Trace.since_append.2 (Or.inr ⟨fun x hx hres ↦ ?_, h⟩)
  cases x with
  | own => exact hno _ _ _ _ hx
  | _ => exact hres

/-! ### Handles -/

/-- `reserve_handle` either changes nothing, because the quota is used up or no slot is free, or
takes the first free slot. -/
theorem walks_reserveHandle {p k : ℕ} {Q : Option ℕ → World → Prop} (hw : Micros pl base w)
    (hr : r.Acquires w.1 c) (hk : w.1.IsClientAt c k) (hp : pending w.2 = some p)
    (hnone : ∀ w', Micros pl base w' → w'.1 = w.1 → obtained w'.2 = obtained w.2 → w.1.Refuses k →
      Q none w')
    (hsome : ∀ i w', Micros pl base w' → w'.1 = w.1.reserve k i (some p) c →
      w.1.firstFree = some i → (r.isAccept = true → CameFromAccept i w'.2) → Q (some i) w') :
    walks pl sched c r base (reserveHandle (some p) c) Q w := by
  have hk' : w.1.getClientIndexFromClientId c = some k := hk
  have huse : (w.1.clients k).inUse = true :=
    (NetworkStack.getClientIndexFromClientId_eq_some_iff.1 hk').2.1.2
  have hord : (Call.lock .socketCB).ordinary r = true ∧
      (Call.unlock .socketCB).ordinary r = true := by
    simp [Call.ordinary, Call.movesSweep]
  simp only [walks, reserveHandle, Prog.wp_bind, Prog.wp_get, hk', huse, Bool.true_eq_false,
    if_false]
  refine walks_request_quiet quiet_lock_socketCB hord.1 hw fun _ w₁ hr₁ hs₁ ↦ ?_
  have hw₁ := hw.trans hr₁.micros
  simp only [hs₁]
  split_ifs with hq
  · simp only [Prog.wp_bind, Prog.wp_pure]
    exact walks_request_quiet quiet_unlock_socketCB hord.2 hw₁ fun _ w₂ hr₂ hs₂ ↦
      hnone _ (hw₁.trans hr₂.micros) (hs₂.trans hs₁) (hr₂.obtained.trans hr₁.obtained) (Or.inl hq)
  · cases hf : w.1.firstFree with
    | none =>
      simp only [Prog.wp_bind, Prog.wp_pure]
      exact walks_request_quiet quiet_unlock_socketCB hord.2 hw₁ fun _ w₂ hr₂ hs₂ ↦
        hnone _ (hw₁.trans hr₂.micros) (hs₂.trans hs₁) (hr₂.obtained.trans hr₁.obtained) (Or.inr hf)
    | some i =>
      -- both writes and the unlock are one step, since nothing runs while `socketCB` is held
      simp only [Prog.wp_bind, Prog.wp_modify, Prog.wp_pure]
      refine ⟨⟨fun h ↦ absurd rfl h, by simp, by simp, by simp⟩, ?_⟩
      rintro ⟨⟩ w' ⟨w₂, hi, rfl⟩
      obtain rfl := quiet_unlock_socketCB sched _ _ hi
      obtain ⟨s, h₁⟩ := w₁
      obtain rfl : s = w.1 := hs₁
      refine hsome i _ (hw₁.tail (.reserve hr hk hf (not_le.1 hq) (hr₁.pending.trans hp))) rfl hf
        fun hacc ↦ ?_
      have hfree := (NetworkStack.firstFree_eq_some_iff.1 hf).1
      refine Or.inr ⟨?_, Or.inr ⟨id, Or.inl ⟨⟨hfree, ?_⟩, hacc⟩⟩⟩
      · rintro ⟨hfree', hin'⟩
        exact absurd (hfree'.symm.trans hin') (by decide)
      · rw [NetworkStack.updateSocket_sockets_self]
        rfl

/-- `free_handle`, called by the owner, releases the slot. -/
theorem walks_freeHandle {i k : ℕ} {Q : Unit → World → Prop} (hw : Micros pl base w)
    (ho : w.1.Owns c i) (hk : w.1.IsClientAt c k)
    (h : ∀ w', Micros pl base w' → w'.1 = w.1.release k i → Q () w') :
    walks pl sched c (.close i) base (freeHandle i c) Q w := by
  have hk' : w.1.getClientIndexFromClientId c = some k := hk
  have hi : w.1.getSocketFromHandle i = some i :=
    NetworkStack.getSocketFromHandle_eq_some_iff.2 ⟨rfl, ho.1⟩
  have huse : (w.1.clients k).inUse = true :=
    (NetworkStack.getClientIndexFromClientId_eq_some_iff.1 hk').2.1.2
  simp only [walks, freeHandle, Prog.wp_bind, Prog.wp_get, hk', hi, huse, Bool.true_eq_false,
    if_false, ho.2, ne_eq, not_true_eq_false]
  refine walks_request_quiet quiet_lock_socketCB rfl hw fun _ w₁ hr₁ hs₁ ↦ ?_
  have hw₂ := micros_write (r := .close i) sched (fun s ↦ s.release k i) rfl
    (hw.trans hr₁.micros) (.release rfl (hr₁.frame.owns ho) (hr₁.frame.isClientAt hk))
    (keepsConnected (s := w₁.1.updateClient k Client.countDown) fun h ↦ absurd h Bool.false_ne_true)
  refine walks_request_quiet quiet_unlock_socketCB rfl hw₂ fun _ w₃ hr₃ hs₃ ↦ ?_
  exact h _ (hw₂.trans hr₃.micros) (by rw [hs₃, Env.write_fst, hs₁])

/-- `set_parent_handle` links the accepted slot `j` to the listener `i`. -/
theorem walks_setParentHandle {i j : ℕ} {pClientHandle : Option ℤ}
    {srcAddr : Option OsSocketAddr} {Q : Unit → World → Prop} (hw : Micros pl base w)
    (hi : w.1.Owns c i) (hj : w.1.Owns c j) (hij : j ≠ i) (hacc : CameFromAccept j w.2)
    (h : ∀ w', Micros pl base w' → w'.1 = w.1.adopt j i → CameFromAccept j w'.2 → Q () w') :
    walks pl sched c (.accept i pClientHandle srcAddr) base (setParentHandle j i) Q w := by
  have hi' : w.1.getSocketFromHandle i = some i :=
    NetworkStack.getSocketFromHandle_eq_some_iff.2 ⟨rfl, hi.1⟩
  have hj' : w.1.getSocketFromHandle j = some j :=
    NetworkStack.getSocketFromHandle_eq_some_iff.2 ⟨rfl, hj.1⟩
  simp only [walks, setParentHandle, Prog.wp_bind, Prog.wp_get, hi', hj']
  refine walks_request_quiet quiet_lock_socketCB rfl hw fun _ w₁ hr₁ hs₁ ↦ ?_
  have hw₂ := micros_write (r := .accept i pClientHandle srcAddr) sched (fun s ↦ s.adopt j i) rfl
    (hw.trans hr₁.micros) (.adopt rfl (hr₁.frame.owns hi) (hr₁.frame.owns hj) hij)
    (keepsConnected id)
  refine walks_request_quiet quiet_unlock_socketCB rfl hw₂ fun _ w₃ hr₃ hs₃ ↦ ?_
  refine h _ (hw₂.trans hr₃.micros) (by rw [hs₃, Env.write_fst, hs₁])
    (CameFromAccept.rests ?_ hr₃.toRests)
  refine Or.inr ⟨?_, hacc.rests hr₁.toRests⟩
  rintro ⟨hfree, hin⟩
  have hst : ((w₁.1.adopt j i).sockets j).status = (w₁.1.sockets j).status := by
    rw [NetworkStack.adopt, NetworkStack.updateSocket_sockets_self]
  rw [hst, hfree] at hin
  exact absurd hin (by decide)

end NetworkStackPicoTcp
