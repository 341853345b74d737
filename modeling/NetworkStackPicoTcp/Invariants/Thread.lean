import NetworkStackPicoTcp.Invariants.Rpc

/-!
# The conduct of the RPC thread

`Micro` lists what an RPC may write, whenever it does so. This module adds when: what the RPC has
done before, as far as the history tells (`thread`), and for each entry of the RPC thread what it
owes to that (`Entry.follows`). A lock is taken in order, a picoTCP call is made under `stackTS`,
`pico_err` is stored in the slot of the handle right after it has been read, a slot is freed when
picoTCP has disposed of its socket, and so on. A history in which every entry follows from the ones
before it is `Orderly`.

The rules for calls and writes are here, with the walks through `reserve_handle`, `free_handle` and
`set_parent_handle`; `NetworkStackPicoTcp.Invariants.Conduct` walks through the operations and the
RPCs.
-/

namespace NetworkStackPicoTcp

open Prog (wp)

/-! ### What the history tells about the RPC under way -/

/-- What the RPC thread has done, as far as its code depends on it. -/
structure Thread where
  /-- The client and the RPC. -/
  current : Option (ℤ × RpcCall) := none
  /-- The mutexes that the thread holds, the one it took last first. -/
  held : List Mutex := []
  /-- The value of `pico_err`, if the last thing that happened is that the RPC has read it. -/
  justRead : Option PicoErr := none
  /-- The last picoTCP call of the RPC that has returned, with what it returned. -/
  lastCall : Option ((pc : PicoCall) × pc.Answer) := none
  /-- The value of `pico_err` that the RPC has read last, with the picoTCP call before it. -/
  lastRead : Option (PicoErr × (pc : PicoCall) × pc.Answer) := none
  /-- The picoTCP socket that the RPC was handed, while it has no handle and has not been closed. -/
  acquired : PicoPtr := none
  /-- The listening socket of the last `pico_socket_accept` and what it returned, until the RPC has
  counted one pending connection less. -/
  uncounted : Option (PicoPtr × PicoPtr) := none
  /-- The picoTCP socket that the RPC has closed last. -/
  closed : PicoPtr := none
  /-- The slot that the RPC has reserved. -/
  reserved : Option ℕ := none

namespace Thread

variable (t : Thread)

/-- A picoTCP call returns. -/
def called : (pc : PicoCall) → pc.Answer → Thread
  | .socketOpen domain type, p =>
    { t with justRead := none, lastCall := some ⟨.socketOpen domain type, p⟩, acquired := p }
  | .accept q, b =>
    { t with
      justRead := none
      lastCall := some ⟨.accept q, b⟩
      acquired := b.1
      uncounted := some (q, b.1) }
  | .close q, b =>
    { t with
      justRead := none
      lastCall := some ⟨.close q, b⟩
      acquired := if t.acquired = q then none else t.acquired
      closed := q }
  | pc, b => { t with justRead := none, lastCall := some ⟨pc, b⟩ }

/-- A call returns. -/
def answered : (e : Call) → e.Answer → Thread
  | .lock m, _ => { t with justRead := none, held := m :: t.held }
  | .unlock m, _ => { t with justRead := none, held := t.held.erase m }
  | .pico pc, b => t.called pc b
  | .picoErr, e => { t with justRead := some e, lastRead := t.lastCall.map (e, ·) }
  | _, _ => { t with justRead := none }

/-- The slot that a write reserves. -/
def reservedBy (s s' : NetworkStack) : Option ℕ :=
  (List.range s.numberOfSockets).find? fun i ↦
    (s.sockets i).status = .free ∧ (s'.sockets i).status = .inUse

/-- The RPC writes: it reserves a slot, or stores what it has just read, or does something else. -/
def wrote (s s' : NetworkStack) : Thread :=
  match reservedBy s s', t.justRead with
  | some i, _ => { t with justRead := none, acquired := none, reserved := some i }
  | none, some _ => { t with justRead := none }
  | none, none => { t with uncounted := none }

/-- Something else happens. -/
def interrupted : Thread := { t with justRead := none }

/-- One more thing happens. -/
def step : Entry → Thread
  | .begin c r _ => { held := t.held, current := some (c, r) }
  | .own _ _ s s' => t.wrote s s'
  | .answer _ _ e b _ => t.answered e b
  | .event .. | .notified .. => t.interrupted
  | .reply .. => { held := t.held }

end Thread

/-- What the history tells about the RPC thread. -/
def thread : History → Thread
  | [] => {}
  | x :: h => (thread h).step x

@[simp] theorem thread_cons {x : Entry} {h : History} : thread (x :: h) = (thread h).step x := rfl

/-! ### What an entry owes to the ones before it -/

/-- The order in which the two mutexes are taken. -/
def Mutex.rank : Mutex → ℕ
  | .stackTS => 0
  | .socketCB => 1

/-- The thread may issue the call. A mutex comes after those that it holds, and is released before
them; picoTCP is called, and `pico_err` read, under `stackTS`. -/
def Thread.Allows (t : Thread) (r : RpcCall) (s : NetworkStack) : Call → Prop
  | .lock m => ∀ m' ∈ t.held, m'.rank < m.rank
  | .unlock m => t.held.head? = some m
  | .pico pc => .stackTS ∈ t.held ∧ (r.issues pc = true → ∃ i : ℕ, r.handle = some (i : ℤ) ∧
      pc.socket = (s.sockets i).implementationSocket)
  | .picoErr => .stackTS ∈ t.held
  | _ => True

/-- The thread writes back the `pico_err` that it has just read, after the picoTCP call of its
operation on the socket of its handle. -/
structure Thread.Stores (t : Thread) (r : RpcCall) (s s' : NetworkStack) (e : PicoErr) (i : ℕ)
    (pc : PicoCall) (b : pc.Answer) : Prop where
  handle : r.handle = some (i : ℤ)
  lastRead : t.lastRead = some (e, ⟨pc, b⟩)
  issues : r.issues pc = true
  socket : pc.socket = (s.sockets i).implementationSocket
  eq : s' = s.updateSocket i (SocketResources.setError (picoErr2Os e))

/-- The other writes of an RPC `r` of client `c`, and what it has done before each. -/
inductive Thread.Writes (pl : Platform) (t : Thread) (c : ℤ) (r : RpcCall) :
    NetworkStack → NetworkStack → Prop
  /-- `close`, `read` and `recvfrom` drop their bit, and the sweep drops the one-shot bits. -/
  | clear {s : NetworkStack} {i : ℕ} {bits : Finset OsSockEv}
      (hb : bits = {.close} ∨ bits = {.read} ∨ bits = oneShotEvents) :
      Writes pl t c r s (s.updateSocket i (SocketResources.clear bits))
  /-- `accept` counts one pending connection less, once for each answer of picoTCP. -/
  | acceptPending {s : NetworkStack} {i : ℕ} {q p : PicoPtr} (hr : r.handle = some (i : ℤ))
      (hu : t.uncounted = some (q, p)) (hq : (s.sockets i).implementationSocket = q) :
      Writes pl t c r s (s.updateSocket i SocketResources.acceptPending)
  /-- A slot is taken for the socket that the RPC was handed. -/
  | reserve {s : NetworkStack} {i p : ℕ} (hi : s.firstFree = some i) (hp : t.acquired = some p)
      (hn : t.reserved = none)
      (hfrom : (∃ domain type pHandle, r = .create domain type pHandle) ∨
        ∃ (l : ℕ) (pClientHandle : Option ℤ) (srcAddr : Option OsSocketAddr) (q : PicoPtr)
          (b : PicoPtr × UInt32 × UInt16), r = .accept l pClientHandle srcAddr ∧
          t.lastCall = some ⟨.accept q, b⟩ ∧ b.1 = some p ∧
          (s.sockets l).implementationSocket = q ∧ (s.sockets l).status = .inUse) :
      Writes pl t c r s (s.updateSocket i (SocketResources.reserve (some p) c))
  | countUp {s : NetworkStack} {i k : ℕ} (hk : s.IsClientAt c k) (hi : t.reserved = some i) :
      Writes pl t c r s (s.updateClient k Client.countUp)
  /-- `create` stores the `pico_err` that it has read after `pico_socket_open`. -/
  | create {s : NetworkStack} {j : ℕ} {domain : SocketDomain} {type : SocketType}
      {pHandle : Option ℤ} {pd pt : PicoProto} {p : PicoPtr} {e : PicoErr}
      (hr : r = .create domain type pHandle) (hj : t.reserved = some j)
      (he : t.lastRead = some (e, ⟨.socketOpen pd pt, p⟩)) (hp : p ≠ none) :
      Writes pl t c r s (s.updateSocket j
        (SocketResources.create j type (pl.rpcBuf c) (pl.rpcBufSize c) (picoErr2Os e)))
  /-- `accept` links the slot that it has reserved to its handle. -/
  | adopt {s : NetworkStack} {i j : ℕ} {pClientHandle : Option ℤ} {srcAddr : Option OsSocketAddr}
      (hr : r = .accept i pClientHandle srcAddr) (hj : t.reserved = some j) :
      Writes pl t c r s (s.adopt j i)
  | accepted {s : NetworkStack} {i j : ℕ} {pClientHandle : Option ℤ}
      {srcAddr : Option OsSocketAddr} (hr : r = .accept i pClientHandle srcAddr)
      (hj : t.reserved = some j) :
      Writes pl t c r s (s.updateSocket j (SocketResources.accepted (s.sockets i)))
  /-- A slot is freed after FIN, or after `pico_socket_close`. -/
  | release {s : NetworkStack} {i k : ℕ} (hr : r = .close i)
      (hdone : .fin ∈ (s.sockets i).eventMask ∨
        (s.sockets i).implementationSocket ≠ none ∧ t.closed = (s.sockets i).implementationSocket) :
      Writes pl t c r s (s.release k i)
  | advanceHead {s : NetworkStack} {k : ℕ} : Writes pl t c r s (s.advanceHead k)
  | flagSelf {s : NetworkStack} {k : ℕ} : Writes pl t c r s (s.updateClient k Client.flag)
  /-- A sweep that has not come round has flagged its client. -/
  | setTail {s : NetworkStack} {k : ℕ} (hflag : (s.clients k).head ≠ (s.clients k).tail →
      (s.clients k).needsToBeNotified = true) :
      Writes pl t c r s (s.updateClient k fun cl ↦ { cl with tail := cl.head })

/-- A write of the thread: of what it has just read, or another one. -/
def Thread.MayWrite (pl : Platform) (t : Thread) (c : ℤ) (r : RpcCall)
    (s s' : NetworkStack) : Prop :=
  match t.justRead with
  | some e => ∃ i pc b, t.Stores r s s' e i pc b
  | none => t.Writes pl c r s s'

/-- The thread may return. It holds no mutex and no socket without a handle, and a `create` or
`accept` has succeeded with the handle that it reserved, or reserved none and left its output
parameters alone. -/
structure Thread.Returns (t : Thread) (r : RpcCall) (a : Reply) : Prop where
  held : t.held = []
  acquired : t.acquired = none
  reserved : ∀ j, t.reserved = some j →
    r.acquires = true ∧ a.err = .success ∧ a.out.handle = some (j : ℤ)
  unreserved : r.acquires = true → t.reserved = none → a.out = r.outputs

/-- What an entry owes to what the thread has done before. -/
def Entry.follows (pl : Platform) (t : Thread) : Entry → Prop
  | .begin _ _ _ => t.current = none ∧ t.held = []
  | .own c r s s' => t.current = some (c, r) ∧ t.MayWrite pl c r s s'
  | .answer c r e _ s => t.current = some (c, r) ∧ t.Allows r s e
  | .reply c r a _ => t.current = some (c, r) ∧ t.Returns r a
  | .event .. | .notified .. => True

/-- Every entry follows from the ones before it. -/
def Orderly (pl : Platform) (h : History) : Prop :=
  Trace.Always (fun x earlier ↦ x.follows pl (thread earlier)) h

variable {pl : Platform} {sched : Schedule} {c : ℤ} {r : RpcCall} {w w' : World} {α : Type}

@[simp] theorem orderly_cons {x : Entry} {h : History} :
    Orderly pl (x :: h) ↔ x.follows pl (thread h) ∧ Orderly pl h := Iff.rfl

/-! ### Calls and writes -/

/-- The thread is in the middle of this RPC and has been orderly. -/
structure OnDuty (pl : Platform) (c : ℤ) (r : RpcCall) (w : World) : Prop where
  orderly : Orderly pl w.2
  current : (thread w.2).current = some (c, r)

/-- All calls of the program are allowed, and it returns in worlds that satisfy `Q`. -/
abbrev conducts (pl : Platform) (sched : Schedule) (c : ℤ) (r : RpcCall) (p : Rpc α)
    (Q : α → World → Prop) (w : World) : Prop :=
  wp (rpcEnv sched c r) (fun e w ↦ (thread w.2).Allows r w.1 e ∧ Orderly pl w.2) p Q w

namespace Thread

variable {t : Thread} {s s' : NetworkStack} {e : Call}

@[simp] theorem answered_current {b : e.Answer} : (t.answered e b).current = t.current := by
  cases e with
  | pico pc => cases pc <;> rfl
  | _ => rfl

@[simp] theorem answered_reserved {b : e.Answer} : (t.answered e b).reserved = t.reserved := by
  cases e with
  | pico pc => cases pc <;> rfl
  | _ => rfl

@[simp] theorem called_held {pc : PicoCall} {b : pc.Answer} : (t.called pc b).held = t.held := by
  cases pc <;> rfl

theorem answered_interrupted (t : Thread) (e : Call) (b : e.Answer) :
    t.interrupted.answered e b = t.answered e b := by
  cases e with
  | pico pc => cases pc <;> rfl
  | _ => rfl

@[simp] theorem wrote_current : (t.wrote s s').current = t.current := by
  unfold wrote
  split <;> rfl

theorem Allows.frame (h : t.Allows r s e) (hf : SameFrame s s') :
    t.interrupted.Allows r s' e := by
  cases e with
  | pico pc =>
    refine ⟨h.1, fun hr ↦ ?_⟩
    obtain ⟨i, hi, hsock⟩ := h.2 hr
    exact ⟨i, hi, hsock.trans (hf.slot i).implementationSocket.symm⟩
  | _ => exact h

end Thread

/-- Callbacks and notification passes only interrupt the thread. -/
theorem thread_control {new old : History} (hc : ∀ x ∈ new, x.isControl = true) :
    thread (new ++ old) = thread old ∨
      thread (new ++ old) = (thread old).interrupted := by
  induction new with
  | nil => exact Or.inl rfl
  | cons x new ih =>
    rw [List.forall_mem_cons] at hc
    right
    have hx : thread (x :: new ++ old) = (thread (new ++ old)).interrupted := by
      cases x <;> first | rfl | exact absurd hc.1 Bool.false_ne_true
    rw [hx]
    rcases ih hc.2 with h | h <;> rw [h]
    rfl

theorem orderly_control {new old : History} (hc : ∀ x ∈ new, x.isControl = true)
    (ho : Orderly pl old) : Orderly pl (new ++ old) :=
  Trace.Always.append (fun x hx _ ↦ by
    have hctl := hc x hx
    cases x <;> trivial) ho

/-- What an answered call leaves behind. -/
structure Resumes (pl : Platform) (c : ℤ) (r : RpcCall) (e : Call) (b : e.Answer) (w w' : World) :
    Prop extends OnDuty pl c r w' where
  frame : SameFrame w.1 w'.1
  thread : thread w'.2 = (thread w.2).answered e b

theorem resumes_of_elsewhere {e : Call} {w₁ : World} (hd : OnDuty pl c r w)
    (ha : (thread w.2).Allows r w.1 e) (h : Elsewhere pl w w₁) (b : e.Answer) :
    Resumes pl c r e b w (w₁.1, .answer c r e b w₁.1 :: w₁.2) := by
  obtain ⟨new, hnew, hctl⟩ := h.control
  have ht : (thread w₁.2).interrupted = (thread w.2).interrupted := by
    rw [hnew]
    have ht : thread (new ++ w.2) = _ ∨ _ := thread_control hctl
    rcases ht with ht | ht <;> rw [ht]
    rfl
  have hcur : (thread w₁.2).current = some (c, r) := by
    have hsame : (thread w₁.2).interrupted.current = (thread w.2).interrupted.current :=
      congrArg Thread.current ht
    exact hsame.trans hd.current
  have hans : (thread w₁.2).answered e b = (thread w.2).answered e b := by
    rw [← Thread.answered_interrupted (thread w₁.2), ht, Thread.answered_interrupted]
  have hall : (thread w₁.2).Allows r w₁.1 e := by
    have hint := ha.frame h.frame
    rw [← ht] at hint
    cases e <;> exact hint
  have hord : Orderly pl w₁.2 := by
    rw [hnew]
    exact orderly_control hctl hd.orderly
  exact ⟨⟨⟨⟨hcur, hall⟩, hord⟩, by rw [thread_cons, Thread.step, Thread.answered_current, hcur]⟩,
    h.frame, hans⟩

theorem conducts_request {e : Call} {Q : e.Answer → World → Prop} (hd : OnDuty pl c r w)
    (ha : (thread w.2).Allows r w.1 e) (h : ∀ b w', Resumes pl c r e b w w' → Q b w') :
    conducts pl sched c r (request e) Q w := by
  refine ⟨⟨ha, hd.orderly⟩, ?_⟩
  rintro b w' ⟨w₁, hint, rfl⟩
  exact h b _ (resumes_of_elsewhere hd ha (elsewhere_interference hint) b)

/-- During a quiet call nothing else happens. -/
theorem conducts_request_quiet {e : Call} {Q : e.Answer → World → Prop} (hq : e.Quiet)
    (hd : OnDuty pl c r w) (ha : (thread w.2).Allows r w.1 e)
    (h : ∀ b w', Resumes pl c r e b w w' → w'.1 = w.1 → Q b w') :
    conducts pl sched c r (request e) Q w := by
  refine ⟨⟨ha, hd.orderly⟩, ?_⟩
  rintro b w' ⟨w₁, hint, rfl⟩
  obtain rfl := hq sched w w₁ hint
  exact h b _ (resumes_of_elsewhere hd ha (Elsewhere.refl _) b) rfl

/-- The thread stores the `pico_err` that it has just read. -/
theorem OnDuty.store (sched : Schedule) {e : PicoErr} {i : ℕ} {pc : PicoCall} {b : pc.Answer}
    (hd : OnDuty pl c r w) (hj : (thread w.2).justRead = some e)
    (hs : (thread w.2).Stores r w.1
      (w.1.updateSocket i (SocketResources.setError (picoErr2Os e))) e i pc b) :
    OnDuty pl c r ((rpcEnv sched c r).write
      (fun s ↦ s.updateSocket i (SocketResources.setError (picoErr2Os e))) w) := by
  refine ⟨⟨⟨hd.current, ?_⟩, hd.orderly⟩, Thread.wrote_current.trans hd.current⟩
  rw [Thread.MayWrite, hj]
  exact ⟨i, pc, b, hs⟩

/-- Another write of the thread. -/
theorem OnDuty.write (sched : Schedule) (f : NetworkStack → NetworkStack) (hd : OnDuty pl c r w)
    (hj : (thread w.2).justRead = none) (hf : (thread w.2).Writes pl c r w.1 (f w.1)) :
    OnDuty pl c r ((rpcEnv sched c r).write f w) := by
  refine ⟨⟨⟨hd.current, ?_⟩, hd.orderly⟩, Thread.wrote_current.trans hd.current⟩
  rw [Thread.MayWrite, hj]
  exact hf

/-! ### What a write tells the thread -/

namespace Thread

variable {t : Thread} {s s' : NetworkStack} {i : ℕ}

theorem reservedBy_eq_none
    (h : ∀ j, (s'.sockets j).status = .inUse → (s.sockets j).status = .inUse) :
    reservedBy s s' = none := by
  refine List.find?_eq_none.2 fun j _ hj ↦ ?_
  obtain ⟨hfree, hin⟩ := of_decide_eq_true hj
  exact absurd (hfree.symm.trans (h j hin)) (by decide)

/-- An update of a slot that does not reserve it. -/
theorem reservedBy_updateSocket {f : SocketResources → SocketResources}
    (hf : (f (s.sockets i)).status = .inUse → (s.sockets i).status = .inUse) :
    reservedBy s (s.updateSocket i f) = none := by
  refine reservedBy_eq_none fun j hj ↦ ?_
  rw [NetworkStack.updateSocket_sockets] at hj
  split_ifs at hj with hij
  · rw [hij]
    exact hf hj
  · exact hj

theorem reservedBy_acceptPending :
    reservedBy s (s.updateSocket i SocketResources.acceptPending) = none :=
  reservedBy_updateSocket fun hin ↦ (SlotFrame.acceptPending _).status.symm.trans hin

theorem reservedBy_updateClient {k : ℕ} {f : Client → Client} :
    reservedBy s (s.updateClient k f) = none := reservedBy_eq_none fun _ ↦ id

theorem reservedBy_reserve {p : PicoPtr} (hi : s.firstFree = some i) :
    reservedBy s (s.updateSocket i (SocketResources.reserve p c)) = some i := by
  obtain ⟨hfree, hlt, hbelow⟩ := NetworkStack.firstFree_eq_some_iff.1 hi
  refine List.find?_range_eq_some.2 ⟨?_, List.mem_range.2 hlt, fun j hj ↦ ?_⟩
  · rw [NetworkStack.updateSocket_sockets_self]
    simp [hfree, SocketResources.reserve]
  · simp [hbelow j hj]

theorem wrote_of_reservedBy (h : reservedBy s s' = some i) (hj : t.justRead = none) :
    t.wrote s s' = { t with acquired := none, reserved := some i } := by
  obtain ⟨⟩ := t
  obtain rfl : _ = none := hj
  rw [wrote, h]

theorem wrote_of_stored {e : PicoErr} (h : reservedBy s s' = none) (hj : t.justRead = some e) :
    t.wrote s s' = t.interrupted := by
  rw [wrote, h, hj]
  rfl

theorem wrote_of_other (h : reservedBy s s' = none) (hj : t.justRead = none) :
    t.wrote s s' = { t with uncounted := none } := by
  rw [wrote, h, hj]

/-- The RPC has got a handle for its socket. -/
def gotHandle (t : Thread) (i : ℕ) : Thread :=
  { t with justRead := none, acquired := none, uncounted := none, reserved := some i }

end Thread

/-- The thread after a write that neither reserves a slot nor stores an error. -/
theorem thread_write {f : NetworkStack → NetworkStack} (hf : Thread.reservedBy w.1 (f w.1) = none)
    (hj : (thread w.2).justRead = none) :
    thread ((rpcEnv sched c r).write f w).2 = { thread w.2 with uncounted := none } := by
  rw [Env.write_snd, rpcEnv_onWrite, thread_cons, Thread.step, Thread.wrote_of_other hf hj]

/-- The thread after it has reserved the first free slot. -/
theorem thread_write_reserve {i : ℕ} {p : PicoPtr} (hi : w.1.firstFree = some i)
    (hj : (thread w.2).justRead = none) :
    thread ((rpcEnv sched c r).write (fun s ↦ s.updateSocket i (SocketResources.reserve p c)) w).2 =
      { thread w.2 with acquired := none, reserved := some i } := by
  rw [Env.write_snd, rpcEnv_onWrite, thread_cons, Thread.step,
    Thread.wrote_of_reservedBy (Thread.reservedBy_reserve hi) hj]

/-! ### Handles -/

/-- The end of `reserve_handle`: it takes the first free slot, and counts the socket after the
unlock. -/
theorem conducts_takeSlot {i k p : ℕ} {Q : Option ℕ → World → Prop} (hd : OnDuty pl c r w)
    (hheld : (thread w.2).held = [.socketCB, .stackTS]) (hj : (thread w.2).justRead = none)
    (hi : w.1.firstFree = some i) (hk : w.1.IsClientAt c k)
    (hw : (thread w.2).Writes pl c r w.1 (w.1.updateSocket i (SocketResources.reserve (some p) c)))
    (hQ : ∀ w', OnDuty pl c r w' → w'.1 = w.1.reserve k i (some p) c → thread w'.2 =
      { (thread w.2).gotHandle i with held := [.stackTS] } → Q (some i) w') :
    conducts pl sched c r (do
      Prog.modify fun s ↦ s.updateSocket i (SocketResources.reserve (some p) c)
      request (.unlock .socketCB)
      Prog.modify fun s ↦ s.updateClient k Client.countUp
      return some i) Q w := by
  refine Prog.wp_bind.2 (Prog.wp_modify.2 (Prog.wp_bind.2 ?_))
  have hd₁ := hd.write sched (fun s ↦ s.updateSocket i (SocketResources.reserve (some p) c)) hj hw
  have ht₁ : thread ((rpcEnv sched c r).write
      (fun s ↦ s.updateSocket i (SocketResources.reserve (some p) c)) w).2 =
      { thread w.2 with acquired := none, reserved := some i } := thread_write_reserve hi hj
  refine conducts_request_quiet quiet_unlock_socketCB hd₁ ?_ fun _ w₂ h₂ hs₂ ↦ ?_
  · rw [ht₁, Thread.Allows, hheld]
    rfl
  have ht₂ : thread w₂.2 = { thread w.2 with
      justRead := none
      held := [.stackTS]
      acquired := none
      reserved := some i } := by
    rw [h₂.thread, ht₁, Thread.answered, hheld]
    rfl
  have hj₂ : (thread w₂.2).justRead = none := by rw [ht₂]
  have hk₂ : w₂.1.IsClientAt c k := by
    rw [hs₂]
    exact hk
  have hd₃ := h₂.toOnDuty.write sched (fun s ↦ s.updateClient k Client.countUp) hj₂
    (.countUp hk₂ (by rw [ht₂]))
  refine Prog.wp_bind.2 (Prog.wp_modify.2 (hQ _ hd₃ ?_ ?_))
  · rw [Env.write_fst, hs₂]
    rfl
  · rw [thread_write Thread.reservedBy_updateClient hj₂, ht₂]
    rfl

/-- `reserve_handle` for the socket that the RPC was handed changes nothing, or takes the first free
slot. -/
theorem conducts_reserveHandle {p : ℕ} {Q : Option ℕ → World → Prop} (hd : OnDuty pl c r w)
    (hheld : (thread w.2).held = [.stackTS]) (hp : (thread w.2).acquired = some p)
    (hn : (thread w.2).reserved = none)
    (hfrom : (∃ domain type pHandle, r = .create domain type pHandle) ∨
      ∃ (l : ℕ) (pClientHandle : Option ℤ) (srcAddr : Option OsSocketAddr) (q : PicoPtr)
        (b : PicoPtr × UInt32 × UInt16), r = .accept l pClientHandle srcAddr ∧
        (thread w.2).lastCall = some ⟨.accept q, b⟩ ∧ b.1 = some p ∧
        (w.1.sockets l).implementationSocket = q ∧ (w.1.sockets l).status = .inUse)
    (hnone : ∀ w', OnDuty pl c r w' → w'.1 = w.1 →
      (thread w'.2).interrupted = (thread w.2).interrupted → Q none w')
    (hsome : ∀ i k w', OnDuty pl c r w' → w.1.firstFree = some i → w.1.IsClientAt c k →
      w'.1 = w.1.reserve k i (some p) c → thread w'.2 = (thread w.2).gotHandle i → Q (some i) w') :
    conducts pl sched c r (reserveHandle (some p) c) Q w := by
  simp only [conducts, reserveHandle, Prog.wp_bind, Prog.wp_get]
  cases hk : w.1.getClientIndexFromClientId c with
  | none => exact hnone w hd rfl rfl
  | some k =>
    have huse : (w.1.clients k).inUse = true :=
      (NetworkStack.getClientIndexFromClientId_eq_some_iff.1 hk).2.1.2
    have hlock : (thread w.2).Allows r w.1 (.lock .socketCB) := by
      intro m hm
      rw [hheld, List.mem_singleton] at hm
      rw [hm]
      decide
    simp only [huse, Bool.true_eq_false, if_false, Prog.wp_bind]
    refine conducts_request_quiet quiet_lock_socketCB hd hlock fun _ w₁ h₁ hs₁ ↦ ?_
    have ht₁ : thread w₁.2 =
        { thread w.2 with justRead := none, held := [.socketCB, .stackTS] } := by
      rw [h₁.thread, ← hheld]
      rfl
    have hunlock : ∀ t : Thread, t.held = [.socketCB, .stackTS] →
        t.Allows r w.1 (.unlock .socketCB) := fun t ht ↦ by rw [Thread.Allows, ht]; rfl
    -- without a handle the lock is released, and the thread is as before
    have hleave : ∀ w₂, Resumes pl c r (.unlock .socketCB) () w₁ w₂ →
        (thread w₂.2).interrupted = (thread w.2).interrupted := by
      intro w₂ h₂
      rw [h₂.thread, ht₁]
      simp [Thread.answered, Thread.interrupted, hheld]
    simp only [Prog.wp_get, hs₁]
    split_ifs with hq
    · simp only [Prog.wp_bind, Prog.wp_pure]
      exact conducts_request_quiet quiet_unlock_socketCB h₁.toOnDuty
        (hs₁ ▸ hunlock _ (by rw [ht₁])) fun _ w₂ h₂ hs₂ ↦
          hnone w₂ h₂.toOnDuty (hs₂.trans hs₁) (hleave w₂ h₂)
    · cases hf : w.1.firstFree with
      | none =>
        simp only [Prog.wp_bind, Prog.wp_pure]
        exact conducts_request_quiet quiet_unlock_socketCB h₁.toOnDuty
          (hs₁ ▸ hunlock _ (by rw [ht₁])) fun _ w₂ h₂ hs₂ ↦
            hnone w₂ h₂.toOnDuty (hs₂.trans hs₁) (hleave w₂ h₂)
      | some i =>
        refine conducts_takeSlot h₁.toOnDuty (by rw [ht₁]) (by rw [ht₁]) (hs₁ ▸ hf) (hs₁ ▸ hk) ?_
          fun w₂ hd₂ hs₂ ht₂ ↦ hsome i k w₂ hd₂ hf hk (hs₁ ▸ hs₂) ?_
        · rw [hs₁, ht₁]
          exact .reserve hf hp hn hfrom
        · rw [ht₂, ht₁, ← hheld]
          rfl

/-- `free_handle` frees a slot whose socket picoTCP has disposed of. -/
theorem conducts_freeHandle {i : ℕ} {Q : Unit → World → Prop} (hd : OnDuty pl c (.close i) w)
    (hheld : (thread w.2).held = [])
    (hdone : .fin ∈ (w.1.sockets i).eventMask ∨
      (w.1.sockets i).implementationSocket ≠ none ∧
        (thread w.2).closed = (w.1.sockets i).implementationSocket)
    (h : ∀ w', OnDuty pl c (.close i) w' → (thread w'.2).held = [] →
      (thread w'.2).acquired = (thread w.2).acquired →
      (thread w'.2).reserved = (thread w.2).reserved → Q () w') :
    conducts pl sched c (.close i) (freeHandle i c) Q w := by
  have hleave := h w hd hheld rfl rfl
  simp only [conducts, freeHandle, Prog.wp_bind, Prog.wp_get]
  split
  swap
  · exact hleave
  rename_i i' k hi hk
  obtain ⟨hi', -⟩ := NetworkStack.getSocketFromHandle_eq_some_iff.1 hi
  obtain rfl : i = i' := by exact_mod_cast hi'
  split_ifs with huse howner
  · exact hleave
  · exact hleave
  simp only [Prog.wp_bind, Prog.wp_modify]
  refine conducts_request_quiet quiet_lock_socketCB hd (fun m hm ↦ ?_) fun _ w₁ h₁ hs₁ ↦ ?_
  · simp [hheld] at hm
  have ht₁ : thread w₁.2 = { thread w.2 with justRead := none, held := [.socketCB] } := by
    rw [h₁.thread, Thread.answered, hheld]
  have hw₁ : (thread w₁.2).Writes pl c (.close i) w₁.1 (w₁.1.release k i) := by
    rw [hs₁, ht₁]
    exact .release rfl hdone
  have hd₂ := h₁.toOnDuty.write sched (fun s ↦ s.release k i) (by rw [ht₁]) hw₁
  have ht₂ : thread ((rpcEnv sched c (.close i)).write (fun s ↦ s.release k i) w₁).2 =
      { thread w.2 with justRead := none, held := [.socketCB], uncounted := none } := by
    have hres : Thread.reservedBy w₁.1 (w₁.1.release k i) = none :=
      Thread.reservedBy_updateSocket (s := w₁.1.updateClient k Client.countDown) (by
        simp [SocketResources.release])
    rw [thread_write hres (by rw [ht₁]), ht₁]
  refine conducts_request_quiet quiet_unlock_socketCB hd₂ (by rw [ht₂]; exact rfl)
    fun _ w₃ h₃ _ ↦ ?_
  have ht₃ : thread w₃.2 = { thread w.2 with justRead := none, held := [], uncounted := none } := by
    rw [h₃.thread, ht₂]
    rfl
  exact h w₃ h₃.toOnDuty (by rw [ht₃]) (by rw [ht₃]) (by rw [ht₃])

/-- `set_parent_handle` links the slot that the RPC has reserved to its handle. -/
theorem conducts_setParentHandle {i j : ℕ} {pClientHandle : Option ℤ}
    {srcAddr : Option OsSocketAddr} {Q : Unit → World → Prop}
    (hd : OnDuty pl c (.accept i pClientHandle srcAddr) w) (hheld : (thread w.2).held = [.stackTS])
    (hj : (thread w.2).reserved = some j) (hi : i < w.1.numberOfSockets)
    (hj' : j < w.1.numberOfSockets)
    (h : ∀ w', OnDuty pl c (.accept i pClientHandle srcAddr) w' → w'.1 = w.1.adopt j i →
      thread w'.2 = { thread w.2 with justRead := none, uncounted := none } → Q () w') :
    conducts pl sched c (.accept i pClientHandle srcAddr) (setParentHandle j i) Q w := by
  have hi₀ : w.1.getSocketFromHandle i = some i :=
    NetworkStack.getSocketFromHandle_eq_some_iff.2 ⟨rfl, hi⟩
  have hj₀ : w.1.getSocketFromHandle j = some j :=
    NetworkStack.getSocketFromHandle_eq_some_iff.2 ⟨rfl, hj'⟩
  simp only [conducts, setParentHandle, Prog.wp_bind, Prog.wp_get, hi₀, hj₀]
  refine conducts_request_quiet quiet_lock_socketCB hd (fun m hm ↦ ?_) fun _ w₁ h₁ hs₁ ↦ ?_
  · rw [hheld, List.mem_singleton] at hm
    rw [hm]
    decide
  have ht₁ : thread w₁.2 = { thread w.2 with justRead := none, held := [.socketCB, .stackTS] } := by
    rw [h₁.thread, Thread.answered, hheld]
  have hd₂ := h₁.toOnDuty.write sched (fun s ↦ s.adopt j i) (by rw [ht₁])
    (.adopt rfl (by rw [ht₁]; exact hj))
  have ht₂ : thread
      ((rpcEnv sched c (.accept i pClientHandle srcAddr)).write (fun s ↦ s.adopt j i) w₁).2 =
        { thread w.2 with justRead := none, held := [.socketCB, .stackTS], uncounted := none } := by
    have hres : Thread.reservedBy w₁.1 (w₁.1.adopt j i) = none := Thread.reservedBy_updateSocket id
    rw [thread_write hres (by rw [ht₁]), ht₁]
  refine conducts_request_quiet quiet_unlock_socketCB hd₂ (by rw [ht₂]; exact rfl)
    fun _ w₃ h₃ hs₃ ↦ ?_
  refine h w₃ h₃.toOnDuty ?_ ?_
  · rw [hs₃, Env.write_fst, hs₁]
  · rw [h₃.thread, ht₂, ← hheld]
    rfl

end NetworkStackPicoTcp
