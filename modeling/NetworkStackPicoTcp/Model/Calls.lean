import NetworkStackPicoTcp.Interaction.Prog
import NetworkStackPicoTcp.Model.State

/-!
# What the wrapper asks of the world around it

Every operation of the component that leaves its own tables is a call: taking a mutex, calling
picoTCP, reading the global `pico_err`, signalling the main loop, converting an address, copying a
record into a client's dataport. `Rpc` is the type of the component's code: programs over
`NetworkStack` that issue these calls.

Three calls have no counterpart in the source. `preempt` marks the head of an iteration of the
`getPendingEvents` sweep, a point at which no lock is held and the control thread may run.
`nullDeref` stands for following a `NULL` pointer and `diverge` for a loop that has outrun every
bound; neither has an answer, so the code never continues after them.
-/

namespace NetworkStackPicoTcp

/-- The two mutexes the socket code takes. -/
inductive Mutex
  /-- `internal_network_stack_thread_safety_mutex_*`. -/
  | stackTS
  /-- `internal_socket_control_block_mutex_*`. -/
  | socketCB
  deriving DecidableEq, Repr

/-- The picoTCP protocol numbers `PICO_PROTO_*` the wrapper uses. -/
inductive PicoProto
  | ipv4
  | tcp
  | udp
  deriving DecidableEq, Repr

/-- The options passed to `pico_socket_setoption`. -/
inductive PicoOption
  | tcpNodelay
  | keepcnt
  | keepidle
  | keepintvl
  deriving DecidableEq, Repr

/-- A call of the picoTCP socket API. -/
inductive PicoCall
  | socketOpen (domain type : PicoProto)
  | setOption (sock : PicoPtr) (option : PicoOption) (value : ℕ)
  | close (sock : PicoPtr)
  | connect (sock : PicoPtr) (addr : UInt32) (port : UInt16)
  | bind (sock : PicoPtr) (addr : UInt32) (port : UInt16)
  | listen (sock : PicoPtr) (backlog : ℤ)
  | accept (sock : PicoPtr)
  | write (sock : PicoPtr) (buf : BufPtr) (len : ℕ)
  | read (sock : PicoPtr) (buf : BufPtr) (len : ℕ)
  | sendto (sock : PicoPtr) (buf : BufPtr) (len : ℕ) (addr : UInt32) (port : UInt16)
  | recvfrom (sock : PicoPtr) (buf : BufPtr) (len : ℕ)
  deriving DecidableEq

/-- What a picoTCP call returns, with the values it stores through pointer arguments:
`pico_socket_accept` the peer's address and port, `pico_socket_recvfrom` the sender's. -/
@[reducible] def PicoCall.Answer : PicoCall → Type
  | socketOpen _ _ => PicoPtr
  | accept _ => PicoPtr × UInt32 × UInt16
  | recvfrom _ _ _ => ℤ × UInt32 × UInt16
  | setOption _ _ _ | close _ | connect _ _ _ | bind _ _ _ | listen _ _ | write _ _ _
  | read _ _ _ | sendto _ _ _ _ _ => ℤ

/-- Everything the component asks of the world around it. -/
inductive Call
  | lock (m : Mutex)
  | unlock (m : Mutex)
  | pico (pc : PicoCall)
  /-- Read the global `pico_err`. -/
  | picoErr
  /-- `internal_notify_main_loop`. -/
  | notifyMainLoop
  /-- `pico_string_to_ipv4`. -/
  | stringToIpv4 (addr : AddrField)
  /-- `memcpy` of one event record to an offset of the caller's dataport. -/
  | putEvent (offset : ℕ) (evt : OsSocketEvt)
  /-- The head of an iteration of the sweep. -/
  | preempt
  /-- A `NULL` pointer is followed. -/
  | nullDeref
  /-- A loop outruns its bound. -/
  | diverge
  deriving DecidableEq

/-- What a call returns. `pico_string_to_ipv4` returns `none` for a negative result. -/
@[reducible] def Call.Answer : Call → Type
  | pico pc => pc.Answer
  | picoErr => PicoErr
  | stringToIpv4 _ => Option UInt32
  | lock _ | unlock _ | notifyMainLoop | putEvent _ _ | preempt => Unit
  | nullDeref | diverge => Empty

/-- The code of the component. -/
abbrev Rpc : Type → Type := Prog NetworkStack Call.Answer

/-- Issue a call. -/
abbrev request (e : Call) : Rpc e.Answer := Prog.perform e

namespace Rpc

variable {α : Type}

/-- Follow a `NULL` pointer. -/
def nullDeref : Rpc α := Prog.call .nullDeref Empty.elim

/-- Loop for ever. -/
def diverge : Rpc α := Prog.call .diverge Empty.elim

section Rules

variable {Γ : Type} {V : Env NetworkStack Call.Answer Γ} {C : Call → NetworkStack × Γ → Prop}
  {Q : α → NetworkStack × Γ → Prop} {w : NetworkStack × Γ}

@[simp] theorem wp_nullDeref : Prog.wp V C (nullDeref : Rpc α) Q w ↔ C .nullDeref w :=
  ⟨fun h ↦ h.1, fun h ↦ ⟨h, fun b ↦ b.elim⟩⟩

@[simp] theorem wp_diverge : Prog.wp V C (diverge : Rpc α) Q w ↔ C .diverge w :=
  ⟨fun h ↦ h.1, fun h ↦ ⟨h, fun b ↦ b.elim⟩⟩

end Rules

end Rpc

end NetworkStackPicoTcp
