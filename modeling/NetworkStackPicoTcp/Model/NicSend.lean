import Mathlib.Algebra.Order.Ring.Cast
import Mathlib.Logic.Relation
import NetworkStackPicoTcp.Interaction.Prog
import NetworkStackPicoTcp.Model.Types

/-!
# Sending frames

`nic_send_frame` of `network_stack_pico_nic.c`, which picoTCP calls for the frame that is first in
its queue. It copies the frame to the dataport and calls the driver, which may answer anything; only
the stack writes to this dataport.

What picoTCP does with the frame then is known from one comment: 0 tells it to retry sending the
current frame. A frame that has been sent leaves the queue, and whether one leaves that could not be
sent is left open.
-/

namespace NetworkStackPicoTcp

namespace NicSend

/-- A frame. -/
abbrev Frame := List UInt8

/-- The bytes from an address on. -/
abbrev Memory := ℕ → UInt8

/-- The dataport to the driver, and `size_t`. No negative `int` becomes a size that the dataport
has. -/
structure Port where
  size : ℕ
  sizeTBits : ℕ
  size_add_lt : size + 2 ^ 31 < 2 ^ sizeTBits

/-- An `int` as a `size_t`. -/
def Port.sizeT (port : Port) (n : ℤ) : ℕ := (n % 2 ^ port.sizeTBits).toNat

/-- `memcpy` of `n` bytes. -/
def memcpy (buf : Memory) (n : ℕ) (mem : Memory) : Memory := fun i ↦ if i < n then buf i else mem i

/-- What the function asks of the world around it. -/
inductive SendCall
  /-- `nic_dev_write`, with `*pLen`. -/
  | devWrite (len : ℕ)
  /-- The driver has not sent the whole frame. A debug build halts here. -/
  | mismatch (len wrLen : ℕ)
  deriving DecidableEq

/-- What a call returns; `nic_dev_write` also stores a length. -/
@[reducible] def SendCall.Answer : SendCall → Type
  | devWrite _ => OsError × ℕ
  | mismatch _ _ => Unit

open Prog (modify)

/-- The code, over the memory from the start of the dataport on. -/
abbrev Code : Type → Type := Prog Memory SendCall.Answer

/-- Issue a call. -/
abbrev ask (e : SendCall) : Code e.Answer := Prog.perform e

/-- `nic_send_frame`. The error codes behind -1 differ in what is logged. -/
def nicSendFrame (port : Port) (buf : Memory) (len : ℤ) : Code ℤ := do
  if port.size < port.sizeT len then
    return -1
  modify (memcpy buf (port.sizeT len))
  let r ← ask (.devWrite (port.sizeT len))
  if r.1 ≠ .success then
    if r.1 = .tryAgain then
      return 0
    else
      return -1
  if r.2 ≠ port.sizeT len then
    ask (.mismatch (port.sizeT len) r.2)
    return len
  return len

/-! ### Runs -/

/-- The frame in memory. -/
def Frame.memory (f : Frame) : Memory := fun i ↦ f.getD i 0

/-- One thing that happens. -/
inductive Entry
  /-- picoTCP puts a frame in its queue. -/
  | queued (f : Frame)
  /-- The first frame of the queue is to be sent. -/
  | begin (f : Frame)
  | wrote (mem mem' : Memory)
  | answer (e : SendCall) (b : e.Answer) (mem : Memory)
  /-- The function returns, and the frame leaves the queue or not. -/
  | returned (f : Frame) (ret : ℤ) (leaves : Bool)

/-- What has happened so far, newest first. -/
abbrev History := List Entry

/-- The memory and the history. -/
abbrev World := Memory × History

/-- The driver may answer anything. -/
def env : Env Memory SendCall.Answer History where
  onWrite mem mem' h := .wrote mem mem' :: h
  onCall e w b w' := w' = (w.1, .answer e b w.1 :: w.2)

/-- One step of picoTCP with its queue. -/
inductive Step (port : Port) : List Frame × World → List Frame × World → Prop
  | enqueue {queue : List Frame} {w : World} (f : Frame) (hf : f.length < 2 ^ 31) :
      Step port (queue, w) (queue ++ [f], w.1, .queued f :: w.2)
  | send {f : Frame} {queue : List Frame} {w w' : World} {ret : ℤ} (leaves : Bool)
      (ho : Prog.Outcome env (nicSendFrame port f.memory f.length) (w.1, .begin f :: w.2) ret w')
      (hsent : 0 < ret → leaves = true) (hretry : ret = 0 → leaves = false) :
      Step port (f :: queue, w)
        (if leaves then queue else f :: queue, w'.1, .returned f ret leaves :: w'.2)

/-- What can be reached with an empty queue and this memory at first. -/
def Reachable (port : Port) (mem : Memory) (x : List Frame × World) : Prop :=
  Relation.ReflTransGen (Step port) ([], mem, []) x

/-! ### Computing single runs -/

/-- Answer the calls; `b` is what `nic_dev_write` returns. -/
def reply (b : OsError × ℕ) : (e : SendCall) → e.Answer
  | .devWrite _ => b
  | .mismatch _ _ => ()

/-- Call the function for a frame. -/
def call (port : Port) (b : OsError × ℕ) (f : Frame) (w : World) : Option (ℤ × World) :=
  Prog.eval (fun mem mem' h ↦ .wrote mem mem' :: h)
    (fun e w ↦ some (reply b e, w.1, .answer e (reply b e) w.1 :: w.2))
    (nicSendFrame port f.memory f.length) (w.1, .begin f :: w.2)

/-- The world after a call, with the frame taken out of the queue or not. -/
def called (port : Port) (b : OsError × ℕ) (f : Frame) (leaves : Bool) (w : World) : World :=
  match call port b f w with
  | none => w
  | some (ret, w') => (w'.1, .returned f ret leaves :: w'.2)

theorem step_called {port : Port} {f : Frame} {queue : List Frame} {w : World} (b : OsError × ℕ)
    (ret : ℤ) (leaves : Bool) (h : (call port b f w).map Prod.fst = some ret)
    (hsent : 0 < ret → leaves = true)
    (hretry : ret = 0 → leaves = false) :
    Step port (f :: queue, w) (if leaves then queue else f :: queue, called port b f leaves w) := by
  obtain ⟨⟨ret', w'⟩, hcall, hret⟩ := Option.map_eq_some_iff.1 h
  obtain rfl : ret' = ret := hret
  have ho : Prog.Outcome env (nicSendFrame port f.memory f.length)
      (w.1, .begin f :: w.2) ret' w' := by
    refine Prog.outcome_of_eval (V := env) ?_ hcall
    intro e w₀ b' w₁ hb
    obtain ⟨rfl, rfl⟩ := Prod.mk.inj (Option.some.inj hb)
    rfl
  rw [called, hcall]
  exact .send leaves ho hsent hretry

end NicSend

end NetworkStackPicoTcp
