import Mathlib.Data.Finset.Insert

/-!
# The vocabulary of the stack

The enumerations and small records that the wrapper exchanges with its clients and with picoTCP.
Constants whose numeric values live in headers outside this repository (`OS_SOCK_EV_*`,
`PICO_SOCK_EV_*`, the error codes) are constructors of inductive types: the wrapper only compares
them and combines the event bits, so distinctness is all it relies on.

A bit mask is a `Finset` of its bits, `|=` is `insert` or `∪`, and `&= ~` is `\`.
-/

namespace NetworkStackPicoTcp

/-- `OS_Error_t`, as far as the component names its values. -/
inductive OsError
  | success
  | generic
  | notFound
  | io
  | tryAgain
  | insufficientSpace
  | accessDenied
  | exists
  | invalidParameter
  | invalidHandle
  | invalidState
  | operationDenied
  | notImplemented
  | notInitialized
  | noData
  | outOfBounds
  | bufferTooSmall
  | aborted
  | timeout
  | inProgress
  | connectionClosed
  | networkNoRoute
  | networkProto
  | networkProtoOptNoSupport
  | networkProtoNoSupport
  | networkOpNoSupport
  | networkAddrInUse
  | networkAddrNotAvailable
  | networkDown
  | networkUnreachable
  | networkConnReset
  | networkConnAlreadyBound
  | networkConnNone
  | networkConnShutdown
  | networkConnRefused
  | networkHostDown
  | networkHostUnreachable
  /-- A code that this component never names. -/
  | other (code : ℕ)
  deriving DecidableEq, Repr

/-- `pico_err_t`, the values of picoTCP's global `pico_err`. -/
inductive PicoErr
  | noerr
  | eperm
  | enoent
  | eintr
  | eio
  | enxio
  | eagain
  | enomem
  | eaccess
  | efault
  | ebusy
  | eexist
  | einval
  | enonet
  | eproto
  | enoprotoopt
  | eprotonosupport
  | eopnotsupp
  | eaddrinuse
  | eaddrnotavail
  | enetdown
  | enetunreach
  | econnreset
  | eisconn
  | enotconn
  | eshutdown
  | etimedout
  | econnrefused
  | ehostdown
  | ehostunreach
  | einprogress
  /-- A code the wrapper does not name. -/
  | other (code : ℕ)
  deriving DecidableEq, Repr

/-- `pico_err2os`. -/
def picoErr2Os : PicoErr → OsError
  | .noerr => .success
  | .enoent => .notFound
  | .eio | .enxio => .io
  | .eagain | .ebusy => .tryAgain
  | .enomem => .insufficientSpace
  | .eaccess => .accessDenied
  | .eexist => .exists
  | .einval => .invalidParameter
  | .enonet => .networkNoRoute
  | .eproto => .networkProto
  | .enoprotoopt => .networkProtoOptNoSupport
  | .eprotonosupport => .networkProtoNoSupport
  | .eopnotsupp => .networkOpNoSupport
  | .eaddrinuse => .networkAddrInUse
  | .eaddrnotavail => .networkAddrNotAvailable
  | .enetdown => .networkDown
  | .enetunreach => .networkUnreachable
  | .econnreset => .networkConnReset
  | .eisconn => .networkConnAlreadyBound
  | .enotconn => .networkConnNone
  | .eshutdown => .networkConnShutdown
  | .etimedout => .timeout
  | .econnrefused => .networkConnRefused
  | .ehostdown => .networkHostDown
  | .ehostunreach => .networkHostUnreachable
  | .einprogress => .inProgress
  | .eperm | .eintr | .efault | .other _ => .generic

/-- Only `PICO_ERR_NOERR` is translated to success, so no failure is reported as one. -/
theorem picoErr2Os_eq_success_iff {e : PicoErr} : picoErr2Os e = .success ↔ e = .noerr := by
  cases e <;> simp [picoErr2Os]

/-- `OS_NetworkStack_State_t`. -/
inductive StackState
  | uninitialized
  | initialized
  | running
  | fatalError
  deriving DecidableEq, Repr

/-- The values of `NetworkStack_SocketResources_t.status`. -/
inductive SocketStatus
  | free
  | inUse
  deriving DecidableEq, Repr

/-- A socket type as a client passes it. The `0` that an unused slot holds is `other 0`: it is taken
to be neither `OS_SOCK_STREAM` nor `OS_SOCK_DGRAM`, whose values are not in this repository. -/
inductive SocketType
  | stream
  | dgram
  | other (value : ℤ)
  deriving DecidableEq, Repr

/-- A socket domain as a client passes it. -/
inductive SocketDomain
  | inet
  | other (value : ℤ)
  deriving DecidableEq, Repr

/-- The event bits `OS_SOCK_EV_*` that clients see. -/
inductive OsSockEv
  | connEst
  | connAcpt
  | read
  | write
  | close
  | fin
  | error
  deriving DecidableEq, Repr

/-- The event bits `PICO_SOCK_EV_*` that picoTCP passes to the callback. -/
inductive PicoSockEv
  | rd
  | wr
  | conn
  | close
  | fin
  | err
  deriving DecidableEq, Repr

/-- `TCPSTATE(s)`, as far as the callback distinguishes it. -/
inductive TcpState
  | closeWait
  | closing
  | closed
  | timeWait
  | other
  deriving DecidableEq, Repr

/-- A `struct pico_socket*`; `none` is `NULL`. -/
abbrev PicoPtr := Option ℕ

/-- The address of a client's RPC dataport, or `0` for `NULL`. -/
abbrev BufPtr := ℕ

/-- `OS_Dataport_t` as `OS_DATAPORT_ASSIGN_SIZE(socket->buf_io, n)` builds it. The macro is given
the lvalue `buf_io` of a slot and a size, so what it can depend on is recorded here: which slot's
cell it was applied to, what the cell held then, and the size. -/
structure OsDataport where
  /-- The slot whose `buf_io` the macro was applied to; `none` for a zeroed dataport. -/
  io : Option ℕ
  /-- What that `buf_io` held at that moment. -/
  value : BufPtr
  size : ℕ
  deriving DecidableEq, Repr

/-- The 16 characters of `OS_Socket_Addr_t.addr`. -/
abbrev AddrField := Vector UInt8 16

/-- `OS_Socket_Addr_t`. -/
structure OsSocketAddr where
  addr : AddrField
  port : UInt16
  deriving DecidableEq

/-- `OS_Socket_Evt_t`, one record of `getPendingEvents`. -/
structure OsSocketEvt where
  eventMask : Finset OsSockEv
  socketHandle : ℤ
  parentSocketHandle : ℤ
  currentError : OsError
  deriving DecidableEq

/-- What the environment of the component provides: the RPC dataports of the clients, the macros and
inline functions of the OS headers, and picoTCP's pure conversions. The fields that are propositions
are what those headers document. -/
structure Platform where
  /-- `networkStack_rpc_buf(badge)`. -/
  rpcBuf : ℤ → BufPtr
  /-- `networkStack_rpc_buf_size(badge)`. -/
  rpcBufSize : ℤ → ℕ
  /-- `sizeof(OS_Socket_Evt_t)`. -/
  sizeofEvt : ℕ
  sizeofEvt_pos : 0 < sizeofEvt
  /-- `OS_Dataport_getBuf`, which may read the `buf_io` cells of the socket table. -/
  getBuf : (ℕ → BufPtr) → OsDataport → BufPtr
  /-- `CHECK_DATAPORT_SIZE` lets a length pass. -/
  dataportFits : OsDataport → ℕ → Bool
  dataportFits_of_le : ∀ {d : OsDataport} {len : ℕ}, len ≤ d.size → dataportFits d len = true
  /-- `CHECK_STR_IS_NUL_TERMINATED(s, 16)` lets a string pass. -/
  isNulTerminated : AddrField → Bool
  /-- `short_be`. -/
  shortBe : UInt16 → UInt16
  /-- `pico_ipv4_to_string`. It returns the field as a C string; the characters that stay behind the
  NUL are not modelled. -/
  ipv4ToString : UInt32 → AddrField
  /-- What `CHECK_PTR_NOT_NULL` returns for a `NULL` pointer. -/
  nullPtrError : OsError
  nullPtrError_ne : nullPtrError ≠ .success
  /-- What `CHECK_STR_IS_NUL_TERMINATED` returns for an unterminated string. -/
  unterminatedError : OsError
  unterminatedError_ne : unterminatedError ≠ .success
  /-- What `CHECK_DATAPORT_SIZE` returns for a length that does not fit. -/
  dataportSizeError : OsError
  dataportSizeError_ne : dataportSizeError ≠ .success

end NetworkStackPicoTcp
