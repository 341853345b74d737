import NetworkStackPicoTcp.Interaction.Since
import NetworkStackPicoTcp.Invariants.Frame

/-!
# What one step of the component can do

`OwnStep` lists every update that the code of an RPC makes to the tables, each with what the code
has established at that point. `Micro` adds what happens around the code: a call returns, a callback
runs, a notification pass runs, an RPC begins or replies, `run` changes the state.

Everything proved about whole runs is an invariant of `Micro`. That runs are made of these steps is
read off the bodies of the RPCs once, in `NetworkStackPicoTcp.Invariants.Rpc`, and never again.

## What the history tells

* `obtained`: the picoTCP socket that the RPC under way was given by `pico_socket_open` or
  `pico_socket_accept`; `pending` is the same as long as no handle has been reserved for it.
* `issuer`: the client whose RPC is under way.
* `phase`: where the sweep of `getPendingEvents` stands. One iteration examines a slot, takes a
  snapshot of it if it is to be reported, writes the record, and moves the head.

`reserve_handle` takes the slot and counts it in two writes, with the release of `socketCB` between
them. Nothing can run there, so `Micro.reserve` is one step; so is the snapshot with the lock before
it.
-/

namespace NetworkStackPicoTcp

/-! ### What the history tells -/

/-- A call that hands out a picoTCP socket replaces the one handed out before. -/
def obtainedBy : (e : Call) → e.Answer → PicoPtr → PicoPtr
  | .pico (.socketOpen _ _), p, _ => p
  | .pico (.accept _), p, _ => p.1
  | _, _, p => p

/-- The picoTCP socket that was handed out last to the RPC under way. -/
def obtained : History → PicoPtr
  | [] => none
  | .answer _ _ e b _ :: h => obtainedBy e b (obtained h)
  | .begin .. :: _ => none
  | .own .. :: h | .event .. :: h | .notified .. :: h | .reply .. :: h => obtained h

/-- A handed-out socket is pending until `socketCB` is released. -/
def pendingBy : (e : Call) → e.Answer → PicoPtr → PicoPtr
  | .pico (.socketOpen _ _), p, _ => p
  | .pico (.accept _), p, _ => p.1
  | .unlock .socketCB, _, _ => none
  | _, _, p => p

/-- The picoTCP socket that the RPC under way was handed and for which it may still reserve a
handle. -/
def pending : History → PicoPtr
  | [] => none
  | .answer _ _ e b _ :: h => pendingBy e b (pending h)
  | .begin .. :: _ => none
  | .own .. :: h | .event .. :: h | .notified .. :: h | .reply .. :: h => pending h

/-- The client that issued an RPC last. -/
def issuer : History → ℤ
  | [] => 0
  | .begin c _ _ :: _ => c
  | .answer .. :: h | .own .. :: h | .event .. :: h | .notified .. :: h | .reply .. :: h => issuer h

/-- The RPC is `getPendingEvents`. -/
def RpcCall.isSweep : RpcCall → Bool
  | .getPendingEvents _ _ => true
  | _ => false

theorem RpcCall.handle_of_isSweep {r : RpcCall} (hr : r.isSweep = true) : r.handle = none := by
  cases r <;> first | rfl | exact absurd hr Bool.false_ne_true

/-- The RPC receives data. -/
def RpcCall.receives : RpcCall → Bool
  | .read _ _ | .recvfrom _ _ _ => true
  | _ => false

/-- The RPC is `accept`. -/
def RpcCall.isAccept : RpcCall → Bool
  | .accept _ _ _ => true
  | _ => false

/-- Slot `i` is reserved. -/
def Entry.reserves (i : ℕ) : Entry → Prop
  | .own _ _ s s' => (s.sockets i).status = .free ∧ (s'.sockets i).status = .inUse
  | _ => False

/-- The entry is a write of an `accept`. -/
def Entry.isOfAccept : Entry → Bool
  | .own _ r _ _ => r.isAccept
  | _ => false

/-- Slot `i` was last reserved by an `accept`. -/
def CameFromAccept (i : ℕ) (h : History) : Prop :=
  Trace.Since (fun x ↦ ¬ x.reserves i) (fun x ↦ x.reserves i ∧ x.isOfAccept = true) h

/-- The calls of `getPendingEvents` that take its sweep a step further. -/
def Call.movesSweep : Call → Bool
  | .preempt | .lock .stackTS | .putEvent _ _ => true
  | _ => false

namespace NetworkStack

/-- `reserve_handle` once it has found slot `i`: take the slot and count it. -/
def reserve (s : NetworkStack) (k i : ℕ) (p : PicoPtr) (clientId : ℤ) : NetworkStack :=
  (s.updateSocket i (SocketResources.reserve p clientId)).updateClient k Client.countUp

/-- The slot that the sweep of a client examines next. -/
def headOf (s : NetworkStack) (c : ℤ) : ℕ :=
  match s.getClientIndexFromClientId c with
  | none => 0
  | some k => (s.clients k).head

/-- Slot `i` passes the two tests of the sweep of a client. -/
def reportable (s : NetworkStack) (c : ℤ) (i : ℕ) : Bool :=
  (s.sockets i).clientId = c ∧ (s.sockets i).eventMask ≠ ∅

/-- The record that a snapshot of slot `i` takes. -/
def eventRecord (s : NetworkStack) (i : ℕ) : OsSocketEvt :=
  ⟨(s.sockets i).eventMask, i, (s.sockets i).parentHandle, (s.sockets i).currentError⟩

theorem headOf_eq {s : NetworkStack} {c : ℤ} {k : ℕ} (hk : s.IsClientAt c k) :
    s.headOf c = (s.clients k).head := by
  have hk' : s.getClientIndexFromClientId c = some k := hk
  rw [headOf, hk']

end NetworkStack

/-- Where a sweep stands. -/
inductive SweepPhase
  /-- No iteration has begun. -/
  | rest
  /-- The slot at the head has been examined. -/
  | examining (reportable : Bool)
  /-- A snapshot has been taken but not yet written. -/
  | taken (evt : OsSocketEvt)
  /-- The snapshot has been written. -/
  | written
  /-- The head has moved on. -/
  | advanced
  deriving DecidableEq

/-- The phase after a call of the sweep. -/
def phaseBy (c : ℤ) (s : NetworkStack) (ph : SweepPhase) : Call → SweepPhase
  | .preempt => .examining (s.reportable c (s.headOf c))
  | .lock .stackTS => .taken (s.eventRecord (s.headOf c))
  | .putEvent _ _ => .written
  | _ => ph

/-- The phase after a write of the sweep: unless it belongs to a snapshot, it moves the head. -/
def phaseByWrite : SweepPhase → SweepPhase
  | .taken evt => .taken evt
  | _ => .advanced

/-- Where the sweep under way stands; between RPCs there is none. -/
def phase : History → SweepPhase
  | [] => .rest
  | .begin .. :: _ | .reply .. :: _ => .rest
  | .event .. :: h | .notified .. :: h => phase h
  | .answer c r e _ s :: h => if r.isSweep then phaseBy c s (phase h) e else phase h
  | .own _ r _ _ :: h => if r.isSweep then phaseByWrite (phase h) else phase h

theorem phaseBy_of_not_movesSweep {c : ℤ} {s : NetworkStack} {ph : SweepPhase} {e : Call}
    (he : e.movesSweep = false) : phaseBy c s ph e = ph := by
  cases e with
  | lock m => cases m <;> simp_all [Call.movesSweep, phaseBy]
  | _ => simp_all [Call.movesSweep, phaseBy]

/-! ### The updates of an RPC -/

/-- **Every update of the code of an RPC** `r`, issued by the client `c`, and what holds when it is
made. -/
inductive OwnStep (pl : Platform) (c : ℤ) (r : RpcCall) : NetworkStack → NetworkStack → Prop
  /-- The locked section of an operation stores the translated `pico_err`. -/
  | setError {s : NetworkStack} {i : ℕ} (err : OsError) (hr : r.handle = some (i : ℤ))
      (ho : s.Owns c i) :
      OwnStep pl c r s (s.updateSocket i (SocketResources.setError err))
  /-- `close` drops the CLOSE bit. -/
  | clearClose {s : NetworkStack} {i : ℕ} (hr : r = .close i) (ho : s.Owns c i) :
      OwnStep pl c r s (s.updateSocket i (SocketResources.clear {.close}))
  /-- `read` and `recvfrom` drop the READ bit. -/
  | clearRead {s : NetworkStack} {i : ℕ}
      (hr : (∃ pLen, r = .read i pLen) ∨ ∃ pLen addr, r = .recvfrom i pLen addr)
      (ho : s.Owns c i) :
      OwnStep pl c r s (s.updateSocket i (SocketResources.clear {.read}))
  /-- `accept` counts one pending connection less. -/
  | acceptPending {s : NetworkStack} {i : ℕ} {pClientHandle : Option ℤ}
      {srcAddr : Option OsSocketAddr} (hr : r = .accept i pClientHandle srcAddr)
      (ho : s.Owns c i) :
      OwnStep pl c r s (s.updateSocket i SocketResources.acceptPending)
  /-- `close` frees the handle. -/
  | release {s : NetworkStack} {i k : ℕ} (hr : r = .close i) (ho : s.Owns c i)
      (hk : s.IsClientAt c k) : OwnStep pl c r s (s.release k i)
  /-- `accept` links the accepted socket to its listener. -/
  | adopt {s : NetworkStack} {i j : ℕ} {pClientHandle : Option ℤ} {srcAddr : Option OsSocketAddr}
      (hr : r = .accept i pClientHandle srcAddr) (hi : s.Owns c i) (hj : s.Owns c j) (hij : j ≠ i) :
      OwnStep pl c r s (s.adopt j i)
  /-- `create` fills in the slot it has reserved. -/
  | create {s : NetworkStack} {j : ℕ} {domain : SocketDomain} {type : SocketType}
      {pHandle : Option ℤ} (err : OsError) (hr : r = .create domain type pHandle)
      (ht : translateSocketType type ≠ none) (hj : s.Owns c j) :
      OwnStep pl c r s
        (s.updateSocket j (SocketResources.create j type (pl.rpcBuf c) (pl.rpcBufSize c) err))
  /-- `accept` fills in the slot it has reserved. -/
  | accepted {s : NetworkStack} {i j : ℕ} {pClientHandle : Option ℤ}
      {srcAddr : Option OsSocketAddr} (hr : r = .accept i pClientHandle srcAddr)
      (hi : s.Owns c i) (hj : s.Owns c j) (hij : j ≠ i) (ht : (s.sockets i).socketType = .stream)
      (hp : (s.sockets j).parentHandle = i) (hu : (s.sockets i).status = .inUse) :
      OwnStep pl c r s (s.updateSocket j (SocketResources.accepted (s.sockets i)))
  /-- The sweep takes a snapshot of a slot and drops its one-shot bits. -/
  | snapshot {s : NetworkStack} {k : ℕ} (hr : r.isSweep = true) (hk : s.IsClientAt c k)
      (ho : (s.sockets (s.clients k).head).clientId = c) :
      OwnStep pl c r s
        (s.updateSocket (s.clients k).head (SocketResources.clear oneShotEvents))
  /-- The sweep moves on. -/
  | advanceHead {s : NetworkStack} {k : ℕ} (hr : r.isSweep = true) (hk : s.IsClientAt c k) :
      OwnStep pl c r s (s.advanceHead k)
  /-- The sweep was cut short. -/
  | flagSelf {s : NetworkStack} {k : ℕ} (hr : r.isSweep = true) (hk : s.IsClientAt c k) :
      OwnStep pl c r s (s.updateClient k Client.flag)
  /-- The sweep ends where the next one starts. -/
  | setTail {s : NetworkStack} {k : ℕ} (hr : r.isSweep = true) (hk : s.IsClientAt c k) :
      OwnStep pl c r s (s.updateClient k fun cl ↦ { cl with tail := cl.head })

/-- The RPC can reserve a handle: it is a `create`, or an `accept` on one of the caller's
sockets. -/
def RpcCall.Acquires (r : RpcCall) (s : NetworkStack) (c : ℤ) : Prop :=
  (∃ domain type pHandle, r = .create domain type pHandle) ∨
    ∃ (i : ℕ) (pClientHandle : Option ℤ) (srcAddr : Option OsSocketAddr),
      r = .accept i pClientHandle srcAddr ∧ s.Owns c i

/-! ### The steps -/

/-- One step of the component, with its entries in the history. -/
inductive Micro (pl : Platform) : World → World → Prop
  | begin {s : NetworkStack} {h : History} {c : ℤ} (r : RpcCall) (hc : s.IsClient c)
      (hp : phase h = .rest) :
      Micro pl (s, h) (s, .begin c r s :: h)
  | own {s s' : NetworkStack} {h : History} {c : ℤ} {r : RpcCall} (hr : r.isSweep = false)
      (ho : OwnStep pl c r s s')
      (hn : ∀ i, (s'.sockets i).connected = true →
        (s.sockets i).connected = true ∨ CameFromAccept i h) :
      Micro pl (s, h) (s', .own c r s s' :: h)
  | reserve {s : NetworkStack} {h : History} {c : ℤ} {r : RpcCall} {k i : ℕ} {p : ℕ}
      (hr : r.Acquires s c) (hk : s.IsClientAt c k) (hi : s.firstFree = some i)
      (hq : (s.clients k).currentSocketsInUse < (s.clients k).socketQuota)
      (hp : pending h = some p) :
      Micro pl (s, h) (s.reserve k i (some p) c,
        .own c r (s.updateSocket i (SocketResources.reserve (some p) c))
          (s.reserve k i (some p) c) ::
        .answer c r (.unlock .socketCB) ()
          (s.updateSocket i (SocketResources.reserve (some p) c)) ::
        .own c r s (s.updateSocket i (SocketResources.reserve (some p) c)) :: h)
  | answer {s : NetworkStack} {h : History} {c : ℤ} {r : RpcCall} (e : Call) (b : e.Answer)
      (hm : r.isSweep = false ∨ e.movesSweep = false) :
      Micro pl (s, h) (s, .answer c r e b s :: h)
  /-- An iteration of the sweep begins: the first one, or one before the head is back at the
  tail. -/
  | enter {s : NetworkStack} {h : History} {c : ℤ} {r : RpcCall} {k : ℕ} (hr : r.isSweep = true)
      (hs : issuer h = c) (hk : s.IsClientAt c k)
      (hp : phase h = .rest ∨ phase h = .advanced ∧ (s.clients k).head ≠ (s.clients k).tail) :
      Micro pl (s, h) (s, .answer c r .preempt () s :: h)
  | snapshot {s : NetworkStack} {h : History} {c : ℤ} {r : RpcCall} {k : ℕ} (hr : r.isSweep = true)
      (hs : issuer h = c) (hk : s.IsClientAt c k) (hp : phase h = .examining true)
      (ho : (s.sockets (s.clients k).head).clientId = c) :
      Micro pl (s, h) (s.updateSocket (s.clients k).head (SocketResources.clear oneShotEvents),
        .own c r s (s.updateSocket (s.clients k).head (SocketResources.clear oneShotEvents)) ::
        .answer c r (.lock .stackTS) () s :: h)
  | put {s : NetworkStack} {h : History} {c : ℤ} {r : RpcCall} (hr : r.isSweep = true)
      (hs : issuer h = c) (offset : ℕ) {evt : OsSocketEvt} (hp : phase h = .taken evt) :
      Micro pl (s, h) (s, .answer c r (.putEvent offset evt) () s :: h)
  | advance {s : NetworkStack} {h : History} {c : ℤ} {r : RpcCall} {k : ℕ} (hr : r.isSweep = true)
      (hs : issuer h = c) (hk : s.IsClientAt c k)
      (hp : phase h = .examining false ∨ phase h = .written) :
      Micro pl (s, h) (s.advanceHead k, .own c r s (s.advanceHead k) :: h)
  | flagSelf {s : NetworkStack} {h : History} {c : ℤ} {r : RpcCall} {k : ℕ} (hr : r.isSweep = true)
      (hs : issuer h = c) (hk : s.IsClientAt c k) (hp : phase h = .advanced) :
      Micro pl (s, h)
        (s.updateClient k Client.flag, .own c r s (s.updateClient k Client.flag) :: h)
  | setTail {s : NetworkStack} {h : History} {c : ℤ} {r : RpcCall} {k : ℕ} (hr : r.isSweep = true)
      (hs : issuer h = c) (hk : s.IsClientAt c k) (hp : phase h = .advanced) :
      Micro pl (s, h) (s.updateClient k fun cl ↦ { cl with tail := cl.head },
        .own c r s (s.updateClient k fun cl ↦ { cl with tail := cl.head }) :: h)
  | event {w w' : World} (h : CallbackStep w w') : Micro pl w w'
  | notified {s : NetworkStack} {h : History} :
      Micro pl (s, h) (s.notifyClientsAboutPendingEvents.1,
        .notified s s.notifyClientsAboutPendingEvents.1 :: h)
  | reply {s : NetworkStack} {h : History} {c : ℤ} {r : RpcCall} (a : Reply)
      (hp : phase h = .rest ∨
        phase h = .advanced ∧ ∀ k, (s.clients k).head = (s.clients k).tail) :
      Micro pl (s, h) (s, .reply c r a s :: h)
  | setState {s : NetworkStack} {h : History} (st : StackState) :
      Micro pl (s, h) ({ s with currentState := st }, h)

/-- Any number of steps. -/
abbrev Micros (pl : Platform) : World → World → Prop := Relation.ReflTransGen (Micro pl)

/-- What a step does to the tables, its entries in the history left aside. -/
inductive TableStep (pl : Platform) : NetworkStack → NetworkStack → Prop
  /-- Nothing, or a callback or a notification pass. -/
  | frame {s s' : NetworkStack} (h : SameFrame s s') : TableStep pl s s'
  | own {s s' : NetworkStack} {c : ℤ} {r : RpcCall} (ho : OwnStep pl c r s s') : TableStep pl s s'
  | reserve {s : NetworkStack} {c : ℤ} {k i p : ℕ} (hk : s.IsClientAt c k)
      (hi : s.firstFree = some i)
      (hq : (s.clients k).currentSocketsInUse < (s.clients k).socketQuota) :
      TableStep pl s (s.reserve k i (some p) c)
  | setState {s : NetworkStack} (st : StackState) : TableStep pl s { s with currentState := st }

variable {pl : Platform} {sched : Schedule} {c : ℤ} {r : RpcCall}

theorem sameFrame_callbackStep {w w' : World} (h : CallbackStep w w') : SameFrame w.1 w'.1 := by
  obtain ⟨ev, -, he, -⟩ := h
  exact NetworkStack.sameFrame_handlePicoSocketEvent he

theorem Micro.tableStep {w w' : World} (h : Micro pl w w') : TableStep pl w.1 w'.1 := by
  cases h with
  | begin | answer | enter | put | reply => exact .frame (SameFrame.refl _)
  | own _ ho => exact .own ho
  | reserve _ hk hi hq _ => exact .reserve hk hi hq
  | snapshot hr _ hk _ ho => exact .own (.snapshot hr hk ho)
  | advance hr _ hk _ => exact .own (.advanceHead hr hk)
  | flagSelf hr _ hk _ => exact .own (.flagSelf hr hk)
  | setTail hr _ hk _ => exact .own (.setTail hr hk)
  | event h => exact .frame (sameFrame_callbackStep h)
  | notified => exact .frame NetworkStack.sameFrame_notify
  | setState st => exact .setState st

/-- What one step preserves, any number of steps preserve. -/
theorem Micros.invariant {I : World → Prop} (hstep : ∀ w w', Micro pl w w' → I w → I w')
    {w w' : World}
    (h : Micros pl w w') (h₀ : I w) : I w' := by
  induction h with
  | refl => exact h₀
  | tail _ hs ih => exact hstep _ _ hs ih

/-! ### While a call is under way -/

/-- The entries tell of calls and of the control thread only, not of writes. -/
def NoWrites (new : History) : Prop :=
  ∀ c r s s', Entry.own c r s s' ∉ new

/-- The RPC has made calls, and the control thread may have run, but the RPC has not written. -/
structure Rests (pl : Platform) (w w' : World) : Prop where
  micros : Micros pl w w'
  frame : SameFrame w.1 w'.1
  entries : ∃ new, w'.2 = new ++ w.2 ∧ NoWrites new

namespace Rests

theorem refl (w : World) : Rests pl w w := ⟨.refl, SameFrame.refl _, [], rfl, by simp [NoWrites]⟩

theorem trans {w w' w'' : World} (h : Rests pl w w') (h' : Rests pl w' w'') : Rests pl w w'' := by
  refine ⟨h.micros.trans h'.micros, h.frame.trans h'.frame, ?_⟩
  obtain ⟨new, hnew, hn⟩ := h.entries
  obtain ⟨new', hnew', hn'⟩ := h'.entries
  refine ⟨new' ++ new, by rw [hnew', hnew, List.append_assoc], fun c r s s' hm ↦ ?_⟩
  rcases List.mem_append.1 hm with hm | hm
  · exact hn' c r s s' hm
  · exact hn c r s s' hm

/-- One more step, whose single entry is not a write. -/
theorem tail {w w' : World} {s : NetworkStack} {x : Entry} (h : Rests pl w w')
    (hs : Micro pl w' (s, x :: w'.2)) (hf : SameFrame w'.1 s) (hx : NoWrites [x]) :
    Rests pl w (s, x :: w'.2) :=
  h.trans ⟨.single hs, hf, [x], rfl, hx⟩

theorem answer {w w' : World} (h : Rests pl w w') (e : Call) (b : e.Answer)
    (hm : r.isSweep = false ∨ e.movesSweep = false) :
    Rests pl w (w'.1, .answer c r e b w'.1 :: w'.2) :=
  h.tail (.answer e b hm) (SameFrame.refl _) (by simp [NoWrites])

end Rests

/-- The entry is of a callback or of a notification pass. -/
def Entry.isControl : Entry → Bool
  | .event .. | .notified .. => true
  | _ => false

/-- The control thread alone has run. -/
structure Elsewhere (pl : Platform) (w w' : World) : Prop extends Rests pl w w' where
  control : ∃ new, w'.2 = new ++ w.2 ∧ ∀ x ∈ new, x.isControl = true

namespace Elsewhere

theorem refl (w : World) : Elsewhere pl w w := ⟨Rests.refl w, [], rfl, by simp⟩

theorem trans {w w' w'' : World} (h : Elsewhere pl w w') (h' : Elsewhere pl w' w'') :
    Elsewhere pl w w'' := by
  refine ⟨h.toRests.trans h'.toRests, ?_⟩
  obtain ⟨new, hnew, hc⟩ := h.control
  obtain ⟨new', hnew', hc'⟩ := h'.control
  refine ⟨new' ++ new, by rw [hnew', hnew, List.append_assoc], fun x hx ↦ ?_⟩
  exact (List.mem_append.1 hx).elim (hc' x) (hc x)

variable {w w' : World} {β : Type} {f : History → β}

/-- What the history tells about RPCs does not change. -/
theorem ignored (h : Elsewhere pl w w') (hf : ∀ x h, x.isControl = true → f (x :: h) = f h) :
    f w'.2 = f w.2 := by
  obtain ⟨new, hnew, hc⟩ := h.control
  rw [hnew]
  clear hnew
  induction new with
  | nil => rfl
  | cons x new ih =>
    rw [List.forall_mem_cons] at hc
    rw [List.cons_append, hf x _ hc.1, ih hc.2]

theorem obtained (h : Elsewhere pl w w') : obtained w'.2 = obtained w.2 :=
  h.ignored fun x _ hx ↦ by cases x <;> first | rfl | exact absurd hx (by simp [Entry.isControl])

theorem pending (h : Elsewhere pl w w') : pending w'.2 = pending w.2 :=
  h.ignored fun x _ hx ↦ by cases x <;> first | rfl | exact absurd hx (by simp [Entry.isControl])

theorem issuer (h : Elsewhere pl w w') : issuer w'.2 = issuer w.2 :=
  h.ignored fun x _ hx ↦ by cases x <;> first | rfl | exact absurd hx (by simp [Entry.isControl])

theorem phase (h : Elsewhere pl w w') : phase w'.2 = phase w.2 :=
  h.ignored fun x _ hx ↦ by cases x <;> first | rfl | exact absurd hx (by simp [Entry.isControl])

end Elsewhere

theorem elsewhere_callbackStep {w w' : World} (h : CallbackStep w w') : Elsewhere pl w w' := by
  have hs : Micro pl w w' := .event h
  have hf := sameFrame_callbackStep h
  obtain ⟨ev, -, -, hh⟩ := h
  exact ⟨⟨.single hs, hf, [_], hh, by simp [NoWrites]⟩, [_], hh, by simp [Entry.isControl]⟩

theorem elsewhere_callbacks {w w' : World} (h : Callbacks w w') : Elsewhere pl w w' := by
  induction h with
  | refl => exact Elsewhere.refl w
  | tail _ he ih => exact ih.trans (elsewhere_callbackStep he)

theorem elsewhere_mainLoopIteration {w w' : World} (h : MainLoopIteration w w') :
    Elsewhere pl w w' := by
  obtain ⟨w₁, hcb, rfl⟩ := h
  refine (elsewhere_callbacks hcb).trans ⟨?_, [_], rfl, by simp [Entry.isControl]⟩
  exact (Rests.refl w₁).tail .notified NetworkStack.sameFrame_notify (by simp [NoWrites])

theorem elsewhere_mainLoop {w w' : World} (h : MainLoop w w') : Elsewhere pl w w' := by
  induction h with
  | refl => exact Elsewhere.refl w
  | tail _ hi ih => exact ih.trans (elsewhere_mainLoopIteration hi)

theorem elsewhere_interference {e : Call} {w w' : World} (h : Interference sched e w w') :
    Elsewhere pl w w' := by
  unfold Interference at h
  split at h
  · exact elsewhere_callbacks h
  · split_ifs at h
    · exact elsewhere_mainLoop h
    · rw [h]; exact Elsewhere.refl w

/-- Nothing else happens while this call is under way, whatever the schedule. -/
def Call.Quiet (e : Call) : Prop :=
  ∀ (sched : Schedule) (w w' : World), Interference sched e w w' → w' = w

/-- A quiet call returns at once. -/
theorem wp_request_quiet {e : Call} {C : Call → World → Prop} {Q : e.Answer → World → Prop}
    {w : World} (hq : e.Quiet) : Prog.wp (rpcEnv sched c r) C (request e) Q w ↔
      C e w ∧ ∀ b, Q b (w.1, .answer c r e b w.1 :: w.2) := by
  refine and_congr_right fun _ ↦ ⟨fun h b ↦ ?_, ?_⟩
  · exact h b _ ⟨w, interference_refl sched e w, rfl⟩
  · rintro h b w' ⟨w₁, hint, rfl⟩
    obtain rfl := hq sched w w₁ hint
    exact h b

theorem quiet_lock_socketCB : (Call.lock .socketCB).Quiet := fun _ _ _ h ↦ h

theorem quiet_unlock_socketCB : (Call.unlock .socketCB).Quiet := fun _ _ _ h ↦ h

theorem quiet_picoErr : Call.picoErr.Quiet := fun _ _ _ h ↦ h

theorem quiet_notifyMainLoop : Call.notifyMainLoop.Quiet := fun _ _ _ h ↦ h

theorem quiet_stringToIpv4 (a : AddrField) : (Call.stringToIpv4 a).Quiet := fun _ _ _ h ↦ h

theorem quiet_putEvent (o : ℕ) (evt : OsSocketEvt) : (Call.putEvent o evt).Quiet := fun _ _ _ h ↦ h

end NetworkStackPicoTcp
