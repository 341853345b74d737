import Mathlib.Logic.Relation
import NetworkStackPicoTcp.Interaction.Prog
import NetworkStackPicoTcp.Model.Types

/-!
# Receiving frames

`nic_poll_data` of `network_stack_pico_nic.c`, which picoTCP calls on every tick. It knows two kinds
of NIC drivers. An event-based driver hands over one frame for each `nic_dev_read`, at the start of
the dataport. A legacy driver does not implement that RPC and fills the dataport as a ring of
buffers; the first `nic_dev_read` finds out.

The driver runs in another component and may write to the dataport at any time: during every call of
the poll, and at the head of each iteration of the loop over the ring, which the call `preempt`
marks. What it may write is left to a parameter. picoTCP's loop scores are not negative.
-/

namespace NetworkStackPicoTcp

namespace Nic

/-- `OS_NetworkStack_RxBuffer_t`, one slot of the ring. -/
structure RxBuffer where
  len : ℕ
  data : List UInt8
  deriving DecidableEq

/-- The static variables of `nic_poll_data`, and the dataport as the ring of buffers that it is for
a legacy driver. -/
structure State where
  isLegacyInterface : Bool
  isDetectionDone : Bool
  pos : ℕ
  /-- `buf_ptr[i]`. -/
  ring : ℕ → RxBuffer

/-- The first state: the dataport is zeroed. -/
def State.init : State where
  isLegacyInterface := false
  isDetectionDone := false
  pos := 0
  ring _ := ⟨0, []⟩

/-- Write a slot of the ring. -/
def State.writeSlot (i : ℕ) (b : RxBuffer) (s : State) : State :=
  { s with ring := Function.update s.ring i b }

/-- Where a frame lies: at the start of the dataport, or in a slot of the ring. -/
inductive RxPtr
  | port
  | slot (i : ℕ)
  deriving DecidableEq

/-- What `nic_dev_read` returns, and what its two output parameters hold then. -/
structure DevRead where
  status : OsError
  len : ℕ
  framesRemaining : ℕ
  deriving DecidableEq

/-- What the poll asks of the world around it. -/
inductive NicCall
  /-- `nic_dev_read`. -/
  | devRead
  /-- `pico_stack_recv`. -/
  | stackRecv (frame : RxPtr) (len : ℕ)
  /-- `internal_notify_main_loop`. -/
  | notifyMainLoop
  /-- `exit(0)`. -/
  | exit
  /-- The head of an iteration of the loop over the ring. -/
  | preempt
  deriving DecidableEq

/-- What a call returns. -/
@[reducible] def NicCall.Answer : NicCall → Type
  | devRead => DevRead
  | stackRecv _ _ | notifyMainLoop | preempt => Unit
  | exit => Empty

open Prog (get modify)

/-- The code of the poll. -/
abbrev Code : Type → Type := Prog State NicCall.Answer

/-- Issue a call. -/
abbrev ask (e : NicCall) : Code e.Answer := Prog.perform e

/-- The interface has been found to be the legacy one. -/
def State.fallBack (s : State) : State :=
  { s with isLegacyInterface := true, isDetectionDone := true }

/-- A frame has been read, so the interface is the event-based one. -/
def State.detected (s : State) : State := { s with isDetectionDone := true }

/-- Set `buf_ptr[pos].len` to 0, for the driver to see that the frame has been read. -/
def State.release (s : State) : State :=
  s.writeSlot s.pos { s.ring s.pos with len := 0 }

/-- `pos = (pos + 1) % ring_buffer_size`. -/
def State.advance (size : ℕ) (s : State) : State := { s with pos := (s.pos + 1) % size }

/-- The loop over `nic_dev_read`, with the loop score and the last `framesRemaining`. Of the error
codes only three end it. -/
def eventLoop : ℕ → ℕ → Code (ℕ × ℕ)
  | 0, framesRemaining => return (0, framesRemaining)
  | loopScore + 1, framesRemaining => do
    if framesRemaining = 0 then
      return (loopScore + 1, framesRemaining)
    let r ← ask .devRead
    if r.status = .notImplemented then
      let s ← get
      if s.isDetectionDone = true then
        Prog.call .exit Empty.elim
      else
        modify State.fallBack
        return (loopScore + 1, r.framesRemaining)
    else if r.status = .notInitialized then
      return (loopScore + 1, r.framesRemaining)
    else if r.status = .noData then
      return (loopScore + 1, r.framesRemaining)
    else
      ask (.stackRecv .port r.len)
      modify State.detected
      eventLoop loopScore r.framesRemaining

/-- The loop over the ring, with the loop score. The slot at the reading position is looked at once
more when the score is used up. -/
def ringLoop (size : ℕ) : ℕ → Code ℕ
  | 0 => do
    ask .preempt
    return 0
  | loopScore + 1 => do
    ask .preempt
    let s ← get
    if (s.ring s.pos).len = 0 then
      return loopScore + 1
    ask (.stackRecv (.slot s.pos) (s.ring s.pos).len)
    modify State.release
    modify (State.advance size)
    ringLoop size loopScore

/-- The part of the poll for an event-based driver. -/
def pollEvents (loopScore : ℕ) : Code ℕ := do
  let (score, framesRemaining) ← eventLoop loopScore 1
  if score = 0 ∧ framesRemaining ≠ 0 then
    ask .notifyMainLoop
    return score
  return score

/-- The part of the poll for a legacy driver. -/
def pollRing (size loopScore : ℕ) : Code ℕ :=
  if 0 < loopScore then ringLoop size loopScore else pure loopScore

/-- `nic_poll_data`; `size` is the number of slots of the ring. -/
def nicPollData (size loopScore : ℕ) : Code ℕ := do
  let s ← get
  let score ← (if s.isLegacyInterface = false then pollEvents loopScore else pure loopScore)
  let s ← get
  if s.isLegacyInterface = true then pollRing size score else pure score

/-! ### Runs -/

/-- One thing that happens. -/
inductive Entry
  /-- A poll begins. -/
  | begin (loopScore : ℕ)
  /-- The poll writes to the state. -/
  | wrote (s s' : State)
  /-- A call of the poll returns, in this state. -/
  | answer (e : NicCall) (b : e.Answer) (s : State)
  /-- The driver writes a slot of the ring. -/
  | driver (i : ℕ) (b : RxBuffer)
  /-- The poll returns. -/
  | returned (loopScore score : ℕ)

/-- What has happened so far, newest first. -/
abbrev History := List Entry

/-- The state and the history. -/
abbrev World := State × History

/-- What a driver may write to which slot. -/
abbrev Driver := World → ℕ → RxBuffer → Prop

/-- A driver that may write anything. -/
def Driver.any : Driver := fun _ _ _ ↦ True

/-- One write of the driver. -/
def DriverStep (drv : Driver) (w w' : World) : Prop :=
  ∃ i b, drv w i b ∧ w' = (w.1.writeSlot i b, .driver i b :: w.2)

/-- Any number of writes. -/
def DriverSteps (drv : Driver) : World → World → Prop := Relation.ReflTransGen (DriverStep drv)

/-- The environment of the poll: the driver writes while a call is under way, and the call may
return anything. A frame is copied when `pico_stack_recv` returns. -/
def env (drv : Driver) : Env State NicCall.Answer History where
  onWrite s s' h := .wrote s s' :: h
  onCall e w b w' := ∃ w₁, DriverSteps drv w w₁ ∧ w' = (w₁.1, .answer e b w₁.1 :: w₁.2)

/-- One step between polls. -/
inductive Step (drv : Driver) (size : ℕ) : World → World → Prop
  | driver {w w' : World} (h : DriverStep drv w w') : Step drv size w w'
  | poll {s s' : State} {h h' : History} {loopScore score : ℕ}
      (ho : Prog.Outcome (env drv) (nicPollData size loopScore) (s, .begin loopScore :: h) score
        (s', h')) :
      Step drv size (s, h) (s', .returned loopScore score :: h')

/-- A sequence of polls leads to the world. -/
def Reachable (drv : Driver) (size : ℕ) (w : World) : Prop :=
  Relation.ReflTransGen (Step drv size) (State.init, []) w

/-! ### Computing single runs -/

/-- Answer the calls of a poll; `read` is what every `nic_dev_read` returns. -/
def reply (read : DevRead) : (e : NicCall) → Option e.Answer
  | .devRead => some read
  | .stackRecv _ _ | .notifyMainLoop | .preempt => some ()
  | .exit => none

/-- Run a poll, with what the driver does during each call. -/
def poll (size loopScore : ℕ) (read : DevRead) (during : NicCall → World → World) (w : World) :
    Option World :=
  (Prog.eval (fun s s' h ↦ .wrote s s' :: h)
    (fun e w ↦ (reply read e).map fun b ↦
      (b, (during e w).1, .answer e b (during e w).1 :: (during e w).2))
    (nicPollData size loopScore) (w.1, .begin loopScore :: w.2)).map
      fun x ↦ (x.2.1, .returned loopScore x.1 :: x.2.2)

/-- The world after a poll that does not end in `exit`. -/
def polled (size loopScore : ℕ) (read : DevRead) (during : NicCall → World → World) (w : World) :
    World :=
  (poll size loopScore read during w).getD w

/-- The driver writes a slot of the ring. -/
def driverWrite (i : ℕ) (b : RxBuffer) (w : World) : World :=
  (w.1.writeSlot i b, .driver i b :: w.2)

variable {drv : Driver} {size loopScore : ℕ} {read : DevRead} {during : NicCall → World → World}
  {w : World}

theorem outcome_of_poll (hduring : ∀ e w, DriverSteps drv w (during e w)) {w' : World}
    (h : poll size loopScore read during w = some w') :
    ∃ score h', Prog.Outcome (env drv) (nicPollData size loopScore) (w.1, .begin loopScore :: w.2)
      score (w'.1, h') ∧ w'.2 = .returned loopScore score :: h' := by
  obtain ⟨⟨score, s', h'⟩, he, rfl⟩ := Option.map_eq_some_iff.1 h
  refine ⟨score, h', Prog.outcome_of_eval (V := env drv) ?_ he, rfl⟩
  intro e w₀ b w₁ hb
  obtain ⟨b', -, heq⟩ := Option.map_eq_some_iff.1 hb
  obtain ⟨rfl, rfl⟩ := Prod.mk.inj heq
  exact ⟨_, hduring e w₀, rfl⟩

theorem reachable_polled (hw : Reachable drv size w)
    (hduring : ∀ e w, DriverSteps drv w (during e w))
    (h : (poll size loopScore read during w).isSome = true) :
    Reachable drv size (polled size loopScore read during w) := by
  obtain ⟨w', hw'⟩ := Option.isSome_iff_exists.1 h
  obtain ⟨score, h', ho, hh⟩ := outcome_of_poll hduring hw'
  rw [polled, hw', Option.getD_some, show w' = (w'.1, .returned loopScore score :: h') from
    Prod.ext rfl hh]
  exact hw.tail (.poll ho)

end Nic

end NetworkStackPicoTcp
