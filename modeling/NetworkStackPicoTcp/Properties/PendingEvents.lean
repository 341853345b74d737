import NetworkStackPicoTcp.Invariants.Reachable
import NetworkStackPicoTcp.Invariants.Undisturbed
import NetworkStackPicoTcp.Interaction.RoundRobin
import NetworkStackPicoTcp.Properties.HandleTable

/-!
# What `getPendingEvents` writes

A call of `getPendingEvents` goes round the table from the head of its client and stops when it is
back or the buffer is full. If no callback runs meanwhile, it writes the records of the first slots
with events, as many as the buffer holds, one behind the other and each as the slot was before the
call (`pending_events_exact`).

The invariant is `Swept`: after `j` iterations the head is `j` slots further on, the slots that the
sweep has not been at are as before, and the records written are those of the slots with events
among the first `j`.
-/

namespace NetworkStackPicoTcp

open Prog (wp)

variable {pl : Platform} {sched : Schedule} {cfg : Config} {c : ℤ} {r : RpcCall} {w w' : World}
  {k : ℕ} {new old : History}

/-! ### What a call writes -/

/-- The record that the entry copies to the dataport, and where to. -/
def Entry.put : Entry → Option (ℕ × OsSocketEvt)
  | .answer _ _ (.putEvent offset evt) _ _ => some (offset, evt)
  | _ => none

/-- The records written, with their offsets, the first one first. -/
def puts (new : History) : List (ℕ × OsSocketEvt) := (new.filterMap Entry.put).reverse

/-- The entry begins an iteration of a sweep. -/
def Entry.isIteration : Entry → Bool
  | .answer _ _ .preempt _ _ => true
  | _ => false

/-- How many iterations there were. -/
def iterations (new : History) : ℕ := new.countP Entry.isIteration

/-- The first `j` slots that a sweep of client `k` comes to. -/
def NetworkStack.upcoming (s : NetworkStack) (k j : ℕ) : List ℕ :=
  (RoundRobin.round s.numberOfSockets (s.clients k).head).take j

/-- The slots with events for the client, in the order in which a sweep comes to them. -/
def NetworkStack.pendingSlots (s : NetworkStack) (c : ℤ) (k : ℕ) : List ℕ :=
  (RoundRobin.round s.numberOfSockets (s.clients k).head).filter (s.reportable c)

/-- The records of the slots, one behind the other. -/
def NetworkStack.recordsOf (s : NetworkStack) (pl : Platform)
    (slots : List ℕ) : List (ℕ × OsSocketEvt) :=
  slots.mapIdx fun j i ↦ (j * pl.sizeofEvt, s.eventRecord i)

/-- How many records the caller can be given. -/
def capacity (pl : Platform) (c : ℤ) (size : ℕ) : ℕ := min size (pl.rpcBufSize c) / pl.sizeofEvt

/-- The call of `getPendingEvents` for `size` bytes by client `c` at index `k`, which began in the
tables `s`, is exact. -/
structure Exact (pl : Platform) (s : NetworkStack) (c : ℤ) (k size : ℕ) (reply : Reply)
    (s' : NetworkStack) (new : History) : Prop where
  /-- It has written the records of the first slots with events, as many as fit … -/
  records : puts new = s.recordsOf pl ((s.pendingSlots c k).take (capacity pl c size))
  /-- … each slot once … -/
  once : ((s.pendingSlots c k).take (capacity pl c size)).Nodup
  /-- … and nothing past the end of the buffer. -/
  inside : ∀ p ∈ puts new, p.1 + pl.sizeofEvt ≤ min size (pl.rpcBufSize c)
  /-- It tells how many. -/
  reply : reply =
    ⟨.success, { numberOfEvents := some (min (capacity pl c size) (s.pendingSlots c k).length) }⟩
  /-- It was once around the table at most. -/
  iterations : iterations new ≤ s.numberOfSockets
  /-- The client's head and tail meet, inside the table. -/
  rest : (s'.clients k).head = (s'.clients k).tail ∧ (s'.clients k).head < s.numberOfSockets
  /-- If it has left something, the client is going to be notified. -/
  signalled : capacity pl c size < (s.pendingSlots c k).length →
    (s'.clients k).needsToBeNotified = true

/-! ### Entries -/

theorem puts_append : puts (new ++ old) = puts old ++ puts new := by
  simp only [puts, List.filterMap_append, List.reverse_append]

theorem iterations_append : iterations (new ++ old) = iterations new + iterations old :=
  List.countP_append

theorem puts_singleton {x : Entry} (h : x.put = none) : puts [x] = [] := by
  rw [puts, List.filterMap_cons_none h]
  rfl

theorem puts_of_isControl (h : ∀ x ∈ new, x.isControl = true) : puts new = [] := by
  have hnone : new.filterMap Entry.put = [] := List.filterMap_eq_nil_iff.2 fun x hx ↦ by
    have hctl := h x hx
    cases x <;> first | rfl | exact absurd hctl Bool.noConfusion
  rw [puts, hnone, List.reverse_nil]

theorem iterations_of_isControl (h : ∀ x ∈ new, x.isControl = true) : iterations new = 0 :=
  List.countP_eq_zero.2 fun x hx ↦ by
    have hctl := h x hx
    cases x <;> first | exact Bool.noConfusion | exact absurd hctl Bool.noConfusion

/-! ### One slot -/

/-- The pass of the sweep over slot `i`, for the records so far and their length. -/
structure SlotSwept (pl : Platform) (c : ℤ) (i offset events : ℕ) (w : World) (a : ℕ × ℕ)
    (w' : World) (new : History) : Prop where
  entries : w'.2 = new ++ w.2
  frame : SameFrame w.1 w'.1
  iterations : iterations new = 0
  result : a = if w.1.reportable c i then (offset + pl.sizeofEvt, events + 1) else (offset, events)
  others : NoCallbacks new → ∀ l, l ≠ i → w'.1.sockets l = w.1.sockets l
  copied : NoCallbacks new →
    puts new = if w.1.reportable c i then [(offset, w.1.eventRecord i)] else []

theorem wp_sweepSlot {i offset events : ℕ} :
    wp (rpcEnv sched c r) (fun _ _ ↦ True) (sweepSlot pl c i offset events)
      (fun a w' ↦ ∃ new, SlotSwept pl c i offset events w a w' new) w := by
  refine Prog.wp_bind.2 (Prog.wp_get.2 ?_)
  split_ifs with hdue
  · have hrep : w.1.reportable c i = true := decide_eq_true hdue
    refine Prog.wp_bind.2 ⟨trivial, ?_⟩
    rintro ⟨⟩ _ ⟨w₁, hint₁, rfl⟩
    obtain ⟨new₁, hn₁, hc₁, hs₁⟩ := keepsSlots_interference hint₁
    have hel₁ : Elsewhere pl w w₁ := elsewhere_interference hint₁
    refine Prog.wp_bind.2 (Prog.wp_get.2 (Prog.wp_bind.2 (Prog.wp_modify.2 (Prog.wp_bind.2 ?_))))
    refine ⟨trivial, ?_⟩
    rintro ⟨⟩ _ ⟨w₂, hint₂, rfl⟩
    obtain ⟨new₂, hn₂, hc₂, hs₂⟩ := keepsSlots_interference hint₂
    have hel₂ : Elsewhere pl _ w₂ := elsewhere_interference hint₂
    refine Prog.wp_bind.2 ⟨trivial, ?_⟩
    rintro ⟨⟩ _ ⟨w₃, hquiet, rfl⟩
    obtain rfl := quiet_putEvent _ _ sched _ _ hquiet
    refine ⟨[.answer c r (.putEvent offset (w₁.1.eventRecord i)) () w₂.1,
      .answer c r (.unlock .stackTS) () w₂.1] ++
      new₂ ++ [.own c r w₁.1 (w₁.1.updateSocket i (SocketResources.clear oneShotEvents)),
        .answer c r (.lock .stackTS) () w₁.1] ++ new₁, ?_, ?_, ?_, ?_, fun hno l hl ↦ ?_,
        fun hno ↦ ?_⟩
    · show _ :: _ :: w₂.2 = _
      rw [hn₂]
      show _ :: _ :: (new₂ ++ _ :: _ :: w₁.2) = _
      rw [hn₁]
      simp [NetworkStack.eventRecord]
    · have hclear : SameFrame w₁.1 (w₁.1.updateSocket i (SocketResources.clear oneShotEvents)) :=
        .updateSocket (SlotFrame.clear oneShotEvents _)
      exact (hel₁.frame.trans hclear).trans hel₂.frame
    · simp only [iterations_append, iterations_of_isControl hc₁, iterations_of_isControl hc₂]
      rfl
    · rw [hrep]
      rfl
    · simp only [noCallbacks_append] at hno
      obtain ⟨⟨⟨-, hno₂⟩, -⟩, hno₁⟩ := hno
      show w₂.1.sockets l = _
      rw [hs₂ hno₂]
      exact (NetworkStack.updateSocket_sockets_of_ne hl).trans (congrFun (hs₁ hno₁) l)
    · simp only [noCallbacks_append] at hno
      obtain ⟨-, hno₁⟩ := hno
      simp only [puts_append, puts_of_isControl hc₁, puts_of_isControl hc₂, hrep, if_true]
      rw [NetworkStack.eventRecord, hs₁ hno₁]
      rfl
  · have hrep : w.1.reportable c i = false := decide_eq_false hdue
    refine ⟨[], rfl, .refl _, rfl, ?_, fun _ _ _ ↦ rfl, fun _ ↦ ?_⟩
    · rw [hrep]
      rfl
    · rw [hrep]
      rfl

/-! ### The loop -/

/-- What the first `j` iterations of the sweep have written since `base`, if no callback has run. -/
structure Written (pl : Platform) (c : ℤ) (s : NetworkStack) (k j offset events : ℕ)
    (s' : NetworkStack)
    (new : History) : Prop where
  others : ∀ i, i ∉ s.upcoming k j → s'.sockets i = s.sockets i
  copied : puts new = s.recordsOf pl ((s.upcoming k j).filter (s.reportable c))
  count : events = ((s.upcoming k j).filter (s.reportable c)).length
  place : offset = events * pl.sizeofEvt

/-- One slot more. -/
theorem Written.extend {s s₁ s₂ : NetworkStack} {j offset events i : ℕ} {a : ℕ × ℕ}
    (hw : Written pl c s k j offset events s₁ old)
    (hup : s.upcoming k (j + 1) = s.upcoming k j ++ [i])
    (hothers : ∀ l, l ∉ s.upcoming k (j + 1) → s₂.sockets l = s.sockets l)
    (hresult : a = if s.reportable c i then (offset + pl.sizeofEvt, events + 1) else
      (offset, events))
    (hputs : puts new = puts old ++ if s.reportable c i then [(offset, s.eventRecord i)] else []) :
    Written pl c s k (j + 1) a.1 a.2 s₂ new := by
  have hplace : offset = _ := hw.place
  rw [hw.count] at hplace
  cases hdue : s.reportable c i with
  | false =>
    have hsame : (s.upcoming k (j + 1)).filter (s.reportable c) = (s.upcoming k j).filter
        (s.reportable c) := by
      simp [hup, List.filter_append, hdue]
    rw [hdue] at hresult hputs
    obtain rfl := hresult
    refine ⟨hothers, ?_, ?_, hw.place⟩
    · rw [hsame, ← hw.copied]
      exact hputs.trans (List.append_nil _)
    · rw [hsame]
      exact hw.count
  | true =>
    have hmore : (s.upcoming k (j + 1)).filter (s.reportable c) =
        (s.upcoming k j).filter (s.reportable c) ++ [i] := by
      simp [hup, List.filter_append, hdue]
    rw [hdue] at hresult hputs
    obtain rfl := hresult
    refine ⟨hothers, ?_, ?_, ?_⟩
    · rw [hmore, NetworkStack.recordsOf, List.mapIdx_concat, ← hplace]
      exact hputs.trans (congrArg (· ++ _) hw.copied)
    · rw [hmore, List.length_append, ← hw.count]
      rfl
    · show offset + pl.sizeofEvt = (events + 1) * pl.sizeofEvt
      rw [hw.place, Nat.succ_mul]

/-- The sweep of the slot that comes next. The sweep has not been at this slot, so the slot is as it
was before the call. -/
theorem Written.sweep {s s₁ s₂ : NetworkStack} {w₁ w₂ : World} {new₂ : History}
    {j offset events i : ℕ} {a : ℕ × ℕ}
    (hw : Written pl c s k j offset events s₁ old) (hj : j < s.numberOfSockets)
    (hi : i = ((s.clients k).head + j) % s.numberOfSockets)
    (hslot : SlotSwept pl c i offset events w₁ a w₂ new₂) (hno₂ : NoCallbacks new₂)
    (hs₁ : w₁.1.sockets = s₁.sockets) (hs₂ : s₂.sockets = w₂.1.sockets)
    (hputs : puts new = puts old ++ puts new₂) : Written pl c s k (j + 1) a.1 a.2 s₂ new := by
  have hupcoming : s.upcoming k (j + 1) = s.upcoming k j ++ [i] := by
    rw [hi]
    exact RoundRobin.round_take_succ hj
  have hfresh : w₁.1.sockets i = s.sockets i := by
    rw [hs₁]
    refine hw.others _ ?_
    rw [hi]
    exact RoundRobin.notMem_round_take hj
  have hdue : w₁.1.reportable c i = s.reportable c i := by
    simp only [NetworkStack.reportable, hfresh]
  have hrecord : w₁.1.eventRecord i = s.eventRecord i := by
    simp only [NetworkStack.eventRecord, hfresh]
  have hothers : ∀ l, l ∉ s.upcoming k (j + 1) → s₂.sockets l = s.sockets l := by
    intro l hl
    rw [hupcoming, List.mem_append, List.mem_singleton, not_or] at hl
    rw [hs₂, hslot.others hno₂ l hl.2]
    exact (congrFun hs₁ l).trans (hw.others l hl.1)
  have hresult := hslot.result
  have hmade := hslot.copied hno₂
  simp only [hdue, hrecord] at hresult hmade
  exact hw.extend hupcoming hothers hresult (hputs.trans (congrArg (puts old ++ ·) hmade))

/-- The sweep of client `k`, which began in `base`, has made `j` iterations. -/
structure Swept (pl : Platform) (c : ℤ) (k : ℕ) (base : World) (j offset events : ℕ) (w : World)
    (new : History) : Prop where
  entries : w.2 = new ++ base.2
  numberOfSockets : w.1.numberOfSockets = base.1.numberOfSockets
  head : (w.1.clients k).head = ((base.1.clients k).head + j) % base.1.numberOfSockets
  tail : (w.1.clients k).tail = (base.1.clients k).head
  iterations : iterations new = j
  written : NoCallbacks new → Written pl c base.1 k j offset events w.1 new

namespace Swept

variable {base : World} {j offset events : ℕ}

/-- A sweep begins with the head at the tail. -/
theorem start (hrest : AtRest w.1) (k : ℕ) : Swept pl c k w 0 0 0 w [] := by
  obtain ⟨hmeet, hlt⟩ := hrest k
  refine ⟨rfl, rfl, ?_, hmeet.symm, rfl, fun _ ↦ ⟨fun _ _ ↦ rfl, rfl, rfl, (Nat.zero_mul _).symm⟩⟩
  rw [Nat.add_zero, Nat.mod_eq_of_lt hlt]

/-- The head is back at the tail after a whole round. -/
theorem meet (hs : Swept pl c k base j offset events w new)
    (hat : (base.1.clients k).head < base.1.numberOfSockets) (hpos : 0 < j)
    (hj : j ≤ base.1.numberOfSockets) :
    (w.1.clients k).head = (w.1.clients k).tail ↔ j = base.1.numberOfSockets := by
  rw [hs.head, hs.tail]
  exact RoundRobin.add_mod_eq_self_iff hat hpos hj

/-- One iteration more: the control thread may run, the slot under the head is swept, and the head
moves on. -/
theorem iterate (hs : Swept pl c k base j offset events w new) (hj : j < base.1.numberOfSockets)
    {w₁ w₂ : World} {new₁ new₂ : History} {a : ℕ × ℕ} (hel : Elsewhere pl w w₁)
    (hn₁ : w₁.2 = new₁ ++ w.2) (hc₁ : ∀ x ∈ new₁, x.isControl = true)
    (hs₁ : NoCallbacks new₁ → w₁.1.sockets = w.1.sockets)
    (hslot : SlotSwept pl c (w₁.1.clients k).head offset events
      (w₁.1, .answer c r .preempt () w₁.1 :: w₁.2) a w₂ new₂) :
    Swept pl c k base (j + 1) a.1 a.2
      (w₂.1.advanceHead k, .own c r w₂.1 (w₂.1.advanceHead k) :: w₂.2)
      ([.own c r w₂.1 (w₂.1.advanceHead k)] ++ new₂ ++ [.answer c r .preempt () w₁.1] ++ new₁ ++
        new) := by
  have hf : SameFrame w.1 w₂.1 := hel.frame.trans hslot.frame
  have hhead₁ : (w₁.1.clients k).head = ((base.1.clients k).head + j) % base.1.numberOfSockets :=
    (hel.frame.client_head k).trans hs.head
  refine ⟨?_, hf.numberOfSockets.trans hs.numberOfSockets, ?_, ?_, ?_, fun hno ↦ ?_⟩
  · rw [hslot.entries, hn₁, hs.entries]
    simp
  · have hnext : ((w₂.1.advanceHead k).clients k).head =
        RoundRobin.next w₂.1.numberOfSockets (w₂.1.clients k).head := NetworkStack.advanceHead_head
    rw [hnext, hf.client_head, hf.numberOfSockets, hs.head, hs.numberOfSockets]
    exact RoundRobin.next_add_mod (by omega)
  · exact NetworkStack.advanceHead_tail.trans ((hf.client_tail k).trans hs.tail)
  · simp only [iterations_append, hslot.iterations, iterations_of_isControl hc₁, hs.iterations]
    show 0 + 0 + 1 + 0 + j = j + 1
    omega
  · simp only [noCallbacks_append] at hno
    obtain ⟨⟨⟨⟨-, hno₂⟩, -⟩, hno₁⟩, hno⟩ := hno
    refine (hs.written hno).sweep hj hhead₁ hslot hno₂ (hs₁ hno₁) rfl ?_
    have hown : puts [.own c r w₂.1 (w₂.1.advanceHead k)] = [] := puts_singleton rfl
    have hpreempt : puts [.answer c r .preempt () w₁.1] = [] := puts_singleton rfl
    simp only [puts_append, puts_of_isControl hc₁, hown, hpreempt, List.nil_append, List.append_nil]

end Swept

/-- The sweep has ended, with `events` records: it is back where it began, or has no room for
another one. -/
structure Ended (pl : Platform) (c : ℤ) (k maxEvents : ℕ) (base : World) (j offset events : ℕ)
    (w : World) (new : History) : Prop where
  swept : Swept pl c k base j offset events w new
  pos : 0 < j
  le : j ≤ base.1.numberOfSockets
  room : events ≤ maxEvents
  full : j ≠ base.1.numberOfSockets → events = maxEvents

/-- **The sweep ends**, by induction on the bound of its loop: there are never more slots to go than
the bound allows. -/
theorem wp_sweep {base : World} {maxEvents fuel j offset events : ℕ}
    (hat : (base.1.clients k).head < base.1.numberOfSockets)
    (hfuel : j + fuel = base.1.numberOfSockets) (hj : j < base.1.numberOfSockets)
    (hroom : events < maxEvents)
    (hs : Swept pl c k base j offset events w new) :
    wp (rpcEnv sched c r) (fun _ _ ↦ True) (sweep pl c k maxEvents fuel offset events)
      (fun events' w' ↦
        ∃ j' offset' new', Ended pl c k maxEvents base j' offset' events' w' new') w := by
  induction fuel generalizing j offset events w new with
  | zero => omega
  | succ fuel ih =>
    refine Prog.wp_bind.2 ⟨trivial, ?_⟩
    rintro ⟨⟩ _ ⟨w₁, hint, rfl⟩
    obtain ⟨new₁, hn₁, hc₁, hs₁⟩ := keepsSlots_interference hint
    have hel : Elsewhere pl w w₁ := elsewhere_interference hint
    refine Prog.wp_bind.2 (Prog.wp_get.2 (Prog.wp_bind.2 ?_))
    refine Prog.wp_mono (fun _ _ h ↦ h) (fun a w₂ h ↦ ?_) wp_sweepSlot
    obtain ⟨new₂, hslot⟩ := h
    have hnext := hs.iterate hj hel hn₁ hc₁ hs₁ hslot
    have hmore : a.2 ≤ maxEvents := by
      have hresult := hslot.result
      split_ifs at hresult <;> (rw [hresult]; show _ ≤ maxEvents; omega)
    refine Prog.wp_bind.2 (Prog.wp_modify.2 (Prog.wp_bind.2 (Prog.wp_get.2 ?_)))
    show wp _ _ (if _ then _ else _) _ _
    have hmeet := hnext.meet hat (Nat.succ_pos j) hj
    split_ifs with hcont
    · obtain ⟨hne, hless⟩ := hcont
      have hj' : j + 1 ≠ base.1.numberOfSockets := fun hend ↦ hne (hmeet.2 hend)
      exact ih (by omega) (by omega) hless hnext
    · refine ⟨j + 1, a.1, _, hnext, Nat.succ_pos j, hj, hmore, fun hj' ↦ ?_⟩
      by_contra hless
      exact hcont ⟨fun hend ↦ hj' (hmeet.1 hend), lt_of_le_of_ne hmore hless⟩

/-! ### The call -/

/-- The records of some slots lie one behind the other. -/
theorem NetworkStack.recordsOf_le {s : NetworkStack} {slots : List ℕ} {p : ℕ × OsSocketEvt}
    (hp : p ∈ s.recordsOf pl slots) : p.1 + pl.sizeofEvt ≤ slots.length * pl.sizeofEvt := by
  obtain ⟨j, hj, rfl⟩ := List.mem_mapIdx.1 hp
  show j * pl.sizeofEvt + pl.sizeofEvt ≤ _
  rw [← Nat.succ_mul]
  exact Nat.mul_le_mul_right _ hj

/-- After a whole round the sweep has been at all slots. -/
theorem filter_upcoming_of_eq {s : NetworkStack} {j : ℕ} (hj : j = s.numberOfSockets) :
    (s.upcoming k j).filter (s.reportable c) = s.pendingSlots c k := by
  rw [NetworkStack.upcoming, hj, List.take_of_length_le RoundRobin.length_round.le]
  rfl

namespace Ended

variable {base : World} {maxEvents j offset events : ℕ}

/-- The slots that have been reported are the first ones with events, as many as there is room
for. -/
theorem reported (he : Ended pl c k maxEvents base j offset events w new) (hno : NoCallbacks new) :
    (base.1.upcoming k j).filter (base.1.reportable c) = (base.1.pendingSlots c k).take maxEvents ∧
      events = min maxEvents (base.1.pendingSlots c k).length := by
  have hcount := (he.swept.written hno).count
  have hfirst : (base.1.upcoming k j).filter (base.1.reportable c) =
      (base.1.pendingSlots c k).take events := by
    rw [hcount]
    exact RoundRobin.filter_take_round _ j
  by_cases hj : j = base.1.numberOfSockets
  · have hall := filter_upcoming_of_eq (c := c) (k := k) hj
    rw [hall] at hcount
    have hroom := he.room
    rw [hall, List.take_of_length_le (by omega)]
    exact ⟨rfl, by omega⟩
  · have hfull := he.full hj
    have hle : events ≤ (base.1.pendingSlots c k).length := by
      have hlen := congrArg List.length hfirst
      rw [List.length_take, ← hcount] at hlen
      omega
    rw [hfirst, hfull]
    exact ⟨rfl, by omega⟩

/-- What is left to do moves the tail to the head, and flags the client if slots are left. -/
theorem toExact {size : ℕ} (he : Ended pl c k (capacity pl c size) base j offset events w new)
    (hat : (base.1.clients k).head < base.1.numberOfSockets) (extra : History)
    (hw' : w'.2 = extra ++ w.2)
    (hputs : puts extra = []) (hit : NetworkStackPicoTcp.iterations extra = 0)
    (hhead : (w'.1.clients k).head = (w.1.clients k).head)
    (htail : (w'.1.clients k).tail = (w.1.clients k).head)
    (hflag : j ≠ base.1.numberOfSockets → (w'.1.clients k).needsToBeNotified = true) :
    ∃ new', w'.2 = new' ++ base.2 ∧ (NoCallbacks new' →
      Exact pl base.1 c k size ⟨.success, { numberOfEvents := some events }⟩ w'.1 new') := by
  refine ⟨extra ++ new, by rw [hw', he.swept.entries, List.append_assoc], fun hno ↦ ?_⟩
  replace hno := (noCallbacks_append.1 hno).2
  obtain ⟨hslots, hevents⟩ := he.reported hno
  have hrec : puts (extra ++ new) =
      base.1.recordsOf pl ((base.1.pendingSlots c k).take (capacity pl c size)) := by
    rw [puts_append, hputs, List.append_nil, ← hslots]
    exact (he.swept.written hno).copied
  refine ⟨hrec, ?_, fun p hp ↦ ?_, ?_, ?_, ⟨?_, ?_⟩, fun hleft ↦ hflag fun hj ↦ ?_⟩
  · exact (RoundRobin.nodup_round.filter _).sublist (List.take_sublist _ _)
  · rw [hrec] at hp
    have hcap : ((base.1.pendingSlots c k).take (capacity pl c size)).length ≤ capacity pl c size :=
      List.length_take_le _ _
    calc p.1 + pl.sizeofEvt
      _ ≤ ((base.1.pendingSlots c k).take (capacity pl c size)).length * pl.sizeofEvt :=
        NetworkStack.recordsOf_le hp
      _ ≤ capacity pl c size * pl.sizeofEvt := Nat.mul_le_mul_right _ hcap
      _ ≤ min size (pl.rpcBufSize c) := Nat.div_mul_le_self _ _
  · rw [hevents]
  · rw [iterations_append, hit, he.swept.iterations, Nat.zero_add]
    exact he.le
  · rw [hhead, htail]
  · rw [hhead, he.swept.head]
    exact Nat.mod_lt _ (by omega)
  · have hall := filter_upcoming_of_eq (c := c) (k := k) hj
    have hlen := congrArg List.length (hall.symm.trans hslots)
    rw [List.length_take] at hlen
    omega

end Ended

theorem capacity_pos {size : ℕ} (hsize : pl.sizeofEvt ≤ size)
    (hport : pl.sizeofEvt ≤ pl.rpcBufSize c) :
    0 < capacity pl c size :=
  Nat.div_pos (le_min hsize hport) pl.sizeofEvt_pos

/-- **A call of `getPendingEvents`** by a client at rest. -/
theorem wp_rpc_exact {size x : ℕ}
    (hk : w.1.IsClientAt c k) (hrest : AtRest w.1) (hrun : w.1.currentState = .running)
    (hsize : pl.sizeofEvt ≤ size) (hport : pl.sizeofEvt ≤ pl.rpcBufSize c)
    (hr : r = .getPendingEvents size (some x)) :
    wp (rpcEnv sched c r) (fun _ _ ↦ True) (rpc pl c r)
      (fun reply w' ↦
        ∃ new, w'.2 = new ++ w.2 ∧ (NoCallbacks new → Exact pl w.1 c k size reply w'.1 new))
      w := by
  subst hr
  have hpass : firstError [checkIsRunning w.1, checkPtr pl (some x),
      if size < pl.sizeofEvt then some OsError.bufferTooSmall else none] = none := by
    simp [firstError, checkIsRunning, checkPtr, hrun, not_lt.2 hsize]
  have hk' : w.1.getClientIndexFromClientId c = some k := hk
  have hat := (hrest k).2
  refine Prog.wp_map.2 ((wp_guarded_of_pass hpass).2 (Prog.wp_bind.2 (Prog.wp_get.2 ?_)))
  rw [hk']
  have hcap :
      (if size ≤ pl.rpcBufSize c then size / pl.sizeofEvt else pl.rpcBufSize c / pl.sizeofEvt) =
        capacity pl c size := by
    rw [capacity, Nat.min_def]
    split_ifs <;> rfl
  dsimp only
  rw [hcap]
  refine Prog.wp_bind.2 (Prog.wp_mono (fun _ _ h ↦ h) (fun events w₁ h ↦ ?_)
    (wp_sweep hat (Nat.zero_add _) (Nat.zero_lt_of_lt hat) (capacity_pos hsize hport)
      (.start hrest k)))
  obtain ⟨j, offset, new, he⟩ := h
  have hmeet := he.swept.meet hat he.pos he.le
  refine Prog.wp_bind.2 (Prog.wp_get.2 ?_)
  split_ifs with hleft
  · refine Prog.wp_bind.2 (Prog.wp_modify.2 (Prog.wp_bind.2 (Prog.wp_modify.2 ?_)))
    refine he.toExact hat [.own c _ _ _, .own c _ _ _] rfl rfl rfl ?_ ?_ fun _ ↦ ?_
    · simp [Client.flag]
    · simp [Client.flag]
    · simp [Client.flag]
  · refine Prog.wp_bind.2 (Prog.wp_modify.2 ?_)
    refine he.toExact hat [.own c _ _ _] rfl rfl rfl ?_ ?_ fun hj ↦ ?_
    · simp
    · simp
    · exact absurd ⟨(he.full hj).ge, mt hmeet.1 hj⟩ hleft

/-- **One call of `getPendingEvents` is exact**: in every reachable state, for every client of the
running stack, a call that can be given a record returns, its sweep cannot go on for ever, and it is
exact if no callback runs meanwhile. -/
theorem pending_events_exact {s : NetworkStack} {h : History} {size x : ℕ}
    (hw : Reachable pl sched cfg (s, h)) (hk : s.IsClientAt c k) (hrun : s.currentState = .running)
    (hsize : pl.sizeofEvt ≤ size) (hport : pl.sizeofEvt ≤ pl.rpcBufSize c)
    (hr : r = .getPendingEvents size (some x)) :
    (∃ reply w', Prog.Outcome (rpcEnv sched c r) (rpc pl c r) (s, .begin c r s :: h) reply w') ∧
    (∀ w', ¬ Prog.CallAt (rpcEnv sched c r) (rpc pl c r) (s, .begin c r s :: h) .diverge w') ∧
    ∀ reply w' new, Prog.Outcome (rpcEnv sched c r) (rpc pl c r) (s, .begin c r s :: h) reply w' →
      w'.2 = new ++ .begin c r s :: h → NoCallbacks new → Exact pl s c k size reply w'.1 new := by
  obtain ⟨hst, hp⟩ := reachable_stepped hw
  have hc : s.IsClient c := ⟨k, hk⟩
  have hrest : AtRest s := fun l ↦ ⟨hst.ringInv.rest hp l, hst.ringInv.head_lt l⟩
  refine ⟨hst.exists_outcome_rpc hp hc r, fun w' hat ↦ ?_, fun reply w' new ho hnew hno ↦ ?_⟩
  · exact (Prog.callAt_of_wp (hst.walks_rpc hp hc r) hat).safe.2 rfl
  · obtain ⟨new', hnew', hexact⟩ :=
      Prog.outcome_of_wp (wp_rpc_exact hk hrest hrun hsize hport hr) ho
    obtain rfl : new' = new := List.append_cancel_right (hnew'.symm.trans hnew)
    exact hexact hno

/-! ### Two sockets and room for one record -/

/-- Client 101 has two sockets with received data. -/
def samplePending : World :=
  iterate [announce 7 {.rd}, announce 8 {.rd}]
    (served samplePlatform 101 (.create .inet .stream (some 0)) (obliging (some 8) none)
      (fun _ w ↦ w)
      sampleCreated)

theorem reachable_samplePending (sched : Schedule) :
    Reachable samplePlatform sched (sampleConfig 5) samplePending :=
  reachable_iterate
    (reachable_served (reachable_sampleCreated sched) (interference_refl sched) ⟨0, rfl⟩ rfl)
    (by simp [announce])

/-- Client 101 collects its events through a buffer for one record. -/
def sampleCollected : World :=
  served samplePlatform 101 (.getPendingEvents 16 (some 0)) (obliging none none) (fun _ w ↦ w)
    samplePending

/-- What has happened during that call. -/
def sampleCollectedNew : History :=
  sampleCollected.2.tail.take (sampleCollected.2.tail.length - (samplePending.2.length + 1))

/-- The client is given the record of slot 0, and is going to be notified because of slot 1. -/
theorem pending_events_exact_samplePending :
    puts sampleCollectedNew = [(0, samplePending.1.eventRecord 0)] ∧
      (sampleCollected.1.clients 0).needsToBeNotified = true := by
  obtain ⟨a, ho⟩ : ∃ a, Prog.Outcome (rpcEnv .free 101 (.getPendingEvents 16 (some 0)))
      (rpc samplePlatform 101 (.getPendingEvents 16 (some 0)))
      (samplePending.1,
        .begin 101 (.getPendingEvents 16 (some 0)) samplePending.1 :: samplePending.2) a
      (sampleCollected.1, sampleCollected.2.tail) := outcome_served (interference_refl .free) rfl
  have hnew : sampleCollected.2.tail = sampleCollectedNew ++
    .begin 101 (.getPendingEvents 16 (some 0)) samplePending.1 :: samplePending.2 := rfl
  have hk : samplePending.1.IsClientAt 101 0 := rfl
  have hsize : samplePlatform.sizeofEvt ≤ 16 := le_rfl
  have hport : samplePlatform.sizeofEvt ≤ samplePlatform.rpcBufSize 101 := by decide
  have hexact := (pending_events_exact (reachable_samplePending .free) hk rfl hsize hport rfl).2.2
    a _ _ ho hnew (by decide)
  exact ⟨hexact.records, hexact.signalled (by decide)⟩

end NetworkStackPicoTcp
