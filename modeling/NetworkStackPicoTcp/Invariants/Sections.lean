import NetworkStackPicoTcp.Interaction.Rely
import NetworkStackPicoTcp.Invariants.Deeds

/-!
# What cannot come in between

While an RPC holds `stackTS`, the control thread runs only inside its picoTCP calls. So nothing
comes between such a call and the `pico_err` that the RPC reads after it, nor between
`pico_socket_accept` and the update of the pending connections. And no picoTCP call comes before the
one that hands out a socket (`Visited.inRow`).

For the same reason no callback finds a slot that `create` has reserved before it has filled it in
(`Visited.fillsAtOnce`).
-/

namespace NetworkStackPicoTcp

open Prog (Within Chained chained_pure chained_get chained_modify chained_perform chained_bind
  chained_map)
open Trace (Since Always)

variable {pl : Platform} {sched : Schedule} {cfg : Config} {c : ℤ} {r : RpcCall} {w w' : World}
  {α β : Type}

/-! ### The text of the RPCs -/

/-- The call is neither `pico_socket_accept` nor `pico_socket_open`. -/
structure Call.AcquiresNone (e : Call) : Prop where
  ne_accept : ∀ q, e ≠ .pico (.accept q)
  ne_open : ∀ domain type, e ≠ .pico (.socketOpen domain type)

/-- `pico_err` is read only if the last thing was a picoTCP call, and no picoTCP socket is
acquired. -/
structure Plain (last : Option Call) (e : Call) : Prop extends e.AcquiresNone where
  reads : e = .picoErr → ∃ pc, last = some (.pico pc)

theorem plain_of_ne {last : Option Call} {e : Call} (he : e ≠ .picoErr) (hacq : e.AcquiresNone) :
    Plain last e := ⟨hacq, fun h ↦ absurd h he⟩

theorem Call.AcquiresNone.obtainedBy_eq {e : Call} (he : e.AcquiresNone) (b : e.Answer) :
    obtainedBy e b none = none := by
  cases e with
  | pico pc =>
    cases pc with
    | accept q => exact absurd rfl (he.ne_accept q)
    | socketOpen domain type => exact absurd rfl (he.ne_open domain type)
    | _ => rfl
  | _ => rfl

/-- Whatever came before, the program reads `pico_err` only right after its picoTCP calls, and
acquires no picoTCP socket. -/
def Prompt (p : Rpc α) : Prop := ∀ last, Chained Plain p last

namespace Prompt

variable {p : Rpc α} {k : α → Rpc β}

theorem pure {a : α} : Prompt (Pure.pure a : Rpc α) := fun _ ↦ chained_pure

theorem get : Prompt (Prog.get : Rpc NetworkStack) := fun _ ↦ chained_get

theorem modify {f : NetworkStack → NetworkStack} : Prompt (Prog.modify f : Rpc Unit) :=
  fun _ ↦ chained_modify

theorem request {e : Call} (he : e ≠ .picoErr ∧ (∀ q, e ≠ .pico (.accept q)) ∧
    ∀ domain type, e ≠ .pico (.socketOpen domain type)) :
    Prompt (NetworkStackPicoTcp.request e) :=
  fun _ ↦ chained_perform (plain_of_ne he.1 ⟨he.2.1, he.2.2⟩)

theorem bind (hp : Prompt p) (hk : ∀ a, Prompt (k a)) : Prompt (p >>= k) :=
  fun last ↦ chained_bind (hp last) hk

theorem map {f : α → β} (hp : Prompt p) : Prompt (f <$> p) := fun last ↦ chained_map (hp last)

theorem ite {q : Rpc α} {P : Prop} [Decidable P] (hp : Prompt p) (hq : Prompt q) :
    Prompt (if P then p else q) := by
  split_ifs
  · exact hp
  · exact hq

/-- A picoTCP call, and the `pico_err` after it. -/
theorem ask {pc : PicoCall} {k : pc.Answer → PicoErr → Rpc β}
    (hpc : (∀ q, pc ≠ .accept q) ∧ ∀ domain type, pc ≠ .socketOpen domain type)
    (hk : ∀ b e, Prompt (k b e)) :
    Prompt (NetworkStackPicoTcp.request (.pico pc) >>= fun b ↦
      NetworkStackPicoTcp.request .picoErr >>= k b) := by
  have hask : ∀ last, Plain last (.pico pc) := fun _ ↦ plain_of_ne (by simp)
    ⟨fun q h ↦ hpc.1 q (Call.pico.inj h), fun domain type h ↦ hpc.2 domain type (Call.pico.inj h)⟩
  exact fun last ↦ ⟨hask last, fun b ↦ ⟨⟨⟨by simp, by simp⟩, fun _ ↦ ⟨pc, rfl⟩⟩, fun e ↦ hk b e _⟩⟩

theorem nullDeref : Prompt (Rpc.nullDeref : Rpc α) :=
  fun _ ↦ ⟨plain_of_ne (by simp) ⟨by simp, by simp⟩, fun b ↦ b.elim⟩

theorem diverge : Prompt (Rpc.diverge : Rpc α) :=
  fun _ ↦ ⟨plain_of_ne (by simp) ⟨by simp, by simp⟩, fun b ↦ b.elim⟩

end Prompt

theorem prompt_reserveHandle {p : PicoPtr} : Prompt (reserveHandle p c) := by
  refine .bind .get fun s ↦ ?_
  split
  · exact .pure
  · split_ifs
    · exact .pure
    · refine .bind (.request (by simp)) fun _ ↦ .bind .get fun s ↦ ?_
      split_ifs
      · exact .bind (.request (by simp)) fun _ ↦ .pure
      · split
        · exact .bind (.request (by simp)) fun _ ↦ .pure
        · exact .bind .modify fun _ ↦ .bind (.request (by simp)) fun _ ↦ .bind .modify fun _ ↦ .pure

theorem prompt_freeHandle {handle : ℤ} : Prompt (freeHandle handle c) := by
  refine .bind .get fun s ↦ ?_
  split
  · split_ifs
    · exact .pure
    · exact .pure
    · exact .bind (.request (by simp)) fun _ ↦ .bind .modify fun _ ↦ .request (by simp)
  · exact .pure

theorem prompt_setParentHandle {handle parent : ℤ} : Prompt (setParentHandle handle parent) := by
  refine .bind .get fun s ↦ ?_
  split
  · exact .bind (.request (by simp)) fun _ ↦ .bind .modify fun _ ↦ .request (by simp)
  · exact .pure

theorem prompt_socketOf {handle : ℤ} : Prompt (socketOf handle) := by
  refine .bind .get fun s ↦ ?_
  split
  · exact .nullDeref
  · exact .pure

theorem prompt_withOpenSocket {handle : ℤ} {exit : OsError → α} {k : ℕ → PicoPtr → Rpc α}
    (hk : ∀ i p, Prompt (k i p)) : Prompt (withOpenSocket handle exit k) := by
  refine .bind prompt_socketOf fun i ↦ .bind .get fun s ↦ ?_
  split_ifs
  · exact .pure
  · exact .pure
  · exact hk _ _

theorem prompt_lockedCall {i : ℕ} {pc : PicoCall}
    (hpc : (∀ q, pc ≠ .accept q) ∧ ∀ domain type, pc ≠ .socketOpen domain type) :
    Prompt (lockedCall i pc) :=
  .bind (.request (by simp)) fun _ ↦ .ask hpc fun _ _ ↦ .bind .modify fun _ ↦
    .bind (.request (by simp)) fun _ ↦ .pure

theorem prompt_finish {ret : ℤ} {failure success : α} : Prompt (finish ret failure success) := by
  unfold finish
  split_ifs
  · exact .pure
  · exact .bind (.request (by simp)) fun _ ↦ .pure

theorem prompt_setOption {p : PicoPtr} {o : PicoOption} {v : ℕ} : Prompt (setOption p o v) :=
  .bind (.request (by simp)) fun _ ↦ .pure

theorem prompt_setSocketOptions {p : PicoPtr} : Prompt (setSocketOptions p) :=
  .bind prompt_setOption fun _ ↦ .bind prompt_setOption fun _ ↦ .bind prompt_setOption fun _ ↦
    prompt_setOption

theorem prompt_setStreamOption {type : SocketType} {p : PicoPtr} :
    Prompt (setStreamOption type p) := by
  unfold setStreamOption
  split_ifs
  · exact prompt_setOption
  · exact .pure

/-- After a failed `pico_socket_close` the code looks at `pico_err`, and only then. -/
theorem prompt_closeUnreserved {p : PicoPtr} : Prompt (closeUnreserved p) := by
  have hnotify : Prompt (request .notifyMainLoop) := .request (by simp)
  refine fun _ ↦ ⟨plain_of_ne (by simp) ⟨by simp, by simp⟩, fun ret ↦ ?_⟩
  show Chained Plain (if ret ≠ 0 then _ else _) (some (.pico (.close p)))
  split_ifs
  · exact ⟨⟨⟨by simp, by simp⟩, fun _ ↦ ⟨_, rfl⟩⟩, fun _ ↦ hnotify _⟩
  · exact hnotify _

theorem prompt_picoSocketClose {handle : ℤ} : Prompt (picoSocketClose handle c) := by
  refine .bind prompt_socketOf fun i ↦ .bind .get fun s ↦ ?_
  split_ifs
  · exact .bind prompt_freeHandle fun _ ↦ .pure
  · exact .pure
  · refine .bind (.request (by simp)) fun _ ↦ .ask (by simp) fun ret e ↦ .bind .modify fun _ ↦
      .bind .modify fun _ ↦ .bind (.request (by simp)) fun _ ↦ .bind (.request (by simp)) fun _ ↦ ?_
    split_ifs
    · exact .bind prompt_freeHandle fun _ ↦ .pure
    · exact .bind prompt_freeHandle fun _ ↦ .pure

/-! ### The operations on an open socket -/

theorem prompt_picoSocketConnect {handle : ℤ} {addr : OsSocketAddr} :
    Prompt (picoSocketConnect pl handle addr) := by
  refine prompt_withOpenSocket fun i p ↦ .bind (.request (by simp)) fun a ↦ ?_
  cases a with
  | none => exact .pure
  | some a => exact .bind (prompt_lockedCall (by simp)) fun _ ↦ prompt_finish

theorem prompt_picoSocketBind {handle : ℤ} {addr : OsSocketAddr} :
    Prompt (picoSocketBind pl handle addr) := by
  refine prompt_withOpenSocket fun i p ↦ .bind (.request (by simp)) fun a ↦ ?_
  cases a with
  | none => exact .pure
  | some a => exact .bind (prompt_lockedCall (by simp)) fun _ ↦ prompt_finish

theorem prompt_picoSocketListen {handle backlog : ℤ} : Prompt (picoSocketListen handle backlog) :=
  prompt_withOpenSocket fun _ _ ↦ .bind (prompt_lockedCall (by simp)) fun _ ↦ prompt_finish

theorem prompt_picoSocketWrite {handle : ℤ} {len : ℕ} : Prompt (picoSocketWrite pl handle len) := by
  refine prompt_withOpenSocket fun i p ↦ .bind .get fun s ↦ ?_
  split_ifs
  · exact .pure
  · exact .bind (prompt_lockedCall (by simp)) fun _ ↦ prompt_finish

theorem prompt_picoSocketSendto {handle : ℤ} {len : ℕ} {addr : OsSocketAddr} :
    Prompt (picoSocketSendto pl handle len addr) := by
  refine prompt_withOpenSocket fun i p ↦ .bind .get fun s ↦ ?_
  split_ifs
  · exact .pure
  · refine .bind (.request (by simp)) fun a ↦ ?_
    cases a with
    | none => exact .pure
    | some a => exact .bind (prompt_lockedCall (by simp)) fun _ ↦ prompt_finish

theorem prompt_picoSocketRead {handle : ℤ} {len : ℕ} : Prompt (picoSocketRead pl handle len) := by
  refine prompt_withOpenSocket fun i p ↦ .bind .get fun s ↦ ?_
  split_ifs
  · exact .pure
  · refine .bind (prompt_lockedCall (by simp)) fun ⟨ret, err⟩ ↦ ?_
    dsimp only
    split_ifs
    · exact .bind .modify fun _ ↦ .pure
    · exact .bind .modify fun _ ↦ .bind (.request (by simp)) fun _ ↦ .pure
    · exact .bind .modify fun _ ↦ .pure
    · exact .pure

theorem prompt_picoSocketRecvfrom {handle : ℤ} {len : ℕ} {addr : OsSocketAddr} :
    Prompt (picoSocketRecvfrom pl handle len addr) := by
  refine prompt_withOpenSocket fun i p ↦ .bind .get fun s ↦ ?_
  split_ifs
  · exact .pure
  · refine .bind (prompt_lockedCall (by simp)) fun ⟨⟨ret, src, sport⟩, err⟩ ↦ ?_
    dsimp only
    split_ifs
    · exact .bind .modify fun _ ↦ .pure
    · exact .bind .modify fun _ ↦ .bind (.request (by simp)) fun _ ↦ .pure
    · exact .pure

/-! ### The RPCs -/

theorem prompt_sweepSlot {i offset events : ℕ} : Prompt (sweepSlot pl c i offset events) := by
  refine .bind .get fun s ↦ ?_
  split_ifs
  · exact .bind (.request (by simp)) fun _ ↦ .bind .get fun _ ↦ .bind .modify fun _ ↦
      .bind (.request (by simp)) fun _ ↦ .bind (.request (by simp)) fun _ ↦ .pure
  · exact .pure

theorem prompt_sweep {k maxEvents fuel offset events : ℕ} :
    Prompt (sweep pl c k maxEvents fuel offset events) := by
  induction fuel generalizing offset events with
  | zero => exact .diverge
  | succ fuel ih =>
    refine .bind (.request (by simp)) fun _ ↦ .bind .get fun s ↦ .bind prompt_sweepSlot fun a ↦
      .bind .modify fun _ ↦ .bind .get fun s ↦ ?_
    split_ifs
    · exact ih
    · exact .pure

theorem prompt_guarded {checks : NetworkStack → List (Option OsError)} {exit : OsError → α}
    {body : Rpc α} (h : Prompt body) : Prompt (guarded checks exit body) := by
  refine .bind .get fun s ↦ ?_
  split
  · exact .pure
  · exact h

theorem prompt_rpcSocketGetPendingEvents {size : ℕ} {pNumberOfEvents : Option ℕ} :
    Prompt (rpcSocketGetPendingEvents pl c size pNumberOfEvents) := by
  refine prompt_guarded (.bind .get fun s ↦ ?_)
  split
  · exact .pure
  · exact .bind prompt_sweep fun events ↦ .bind .get fun s ↦ .ite
      (.bind .modify fun _ ↦ .bind .modify fun _ ↦ .pure) (.bind .modify fun _ ↦ .pure)

/-- Every RPC but `create` and `accept` is prompt. -/
theorem prompt_rpc (hr : r.acquires = false) : Prompt (rpc pl c r) := by
  cases r with
  | create => exact absurd hr Bool.noConfusion
  | close => exact .map (prompt_guarded prompt_picoSocketClose)
  | connect _ addr =>
    refine .map (prompt_guarded ?_)
    cases addr with
    | none => exact .nullDeref
    | some addr => exact prompt_picoSocketConnect
  | bind _ addr =>
    refine .map (prompt_guarded ?_)
    cases addr with
    | none => exact .nullDeref
    | some addr => exact prompt_picoSocketBind
  | listen => exact .map (prompt_guarded prompt_picoSocketListen)
  | accept => exact absurd hr Bool.noConfusion
  | write => exact .map (prompt_guarded (.bind prompt_picoSocketWrite fun _ ↦ .pure))
  | read => exact .map (prompt_guarded (.bind prompt_picoSocketRead fun _ ↦ .pure))
  | sendto _ _ addr =>
    refine .map (prompt_guarded ?_)
    cases addr with
    | none => exact .nullDeref
    | some addr => exact .bind prompt_picoSocketSendto fun _ ↦ .pure
  | recvfrom _ _ addr =>
    refine .map (prompt_guarded ?_)
    cases addr with
    | none => exact .nullDeref
    | some addr => exact .bind prompt_picoSocketRecvfrom fun _ ↦ .pure
  | getPendingEvents => exact .map prompt_rpcSocketGetPendingEvents

/-! ### Runs -/

/-- The call that has just been answered. -/
def lastAnswered : History → Option Call
  | .answer _ _ e _ _ :: _ => some e
  | _ => none

/-- The control thread has acted last. -/
def interruptedAt : History → Bool
  | x :: _ => x.isControl
  | [] => false

/-- An RPC reads `pico_err` right after a picoTCP call, makes no other call between
`pico_socket_accept` and the update of the pending connections, opens or accepts a socket before it
makes any other picoTCP call, and writes only when the control thread has not acted last. -/
def Entry.inRow : Entry → History → Prop
  | .answer _ _ e _ _, earlier => (e = .picoErr → ∃ pc, lastAnswered earlier = some (.pico pc)) ∧
      (e ≠ .picoErr → (thread earlier).uncounted = none) ∧
      (¬ e.AcquiresNone → (thread earlier).lastCall = none)
  | .own _ _ _ _, earlier => interruptedAt earlier = false
  | _, _ => True

/-- Between two sections: nothing is left to be counted, and the control thread has not acted
last. -/
structure InRow (w : World) : Prop where
  always : Always Entry.inRow w.2
  uncounted : (thread w.2).uncounted = none
  resumed : interruptedAt w.2 = false

section

variable {t : Thread} {s s' : NetworkStack} {h : History} {p : Rpc α}

theorem Thread.wrote_uncounted (ht : t.uncounted = none) : (t.wrote s s').uncounted = none := by
  unfold wrote
  split
  · exact ht
  · exact ht
  · rfl

theorem Thread.wrote_justRead : (t.wrote s s').justRead = none := by
  unfold wrote
  split
  · rfl
  · rfl
  · assumption

/-- A value that has just been read is in the newest entry. -/
theorem justRead_eq_some {e : PicoErr} (hj : (thread h).justRead = some e) :
    ∃ c r s older, h = .answer c r .picoErr e s :: older := by
  cases h with
  | nil => exact absurd hj (by simp [thread])
  | cons x h =>
    rw [thread_cons] at hj
    cases x with
    | answer c r e' b s =>
      cases e' with
      | picoErr =>
        obtain rfl := Option.some.inj hj
        exact ⟨c, r, s, h, rfl⟩
      | pico pc =>
        cases pc <;> exact absurd hj (by simp [Thread.step, Thread.answered, Thread.called])
      | _ => exact absurd hj (by simp [Thread.step, Thread.answered])
    | own c r s s' =>
      simp only [Thread.step, Thread.wrote] at hj
      split at hj
      · exact absurd hj (by simp)
      · exact absurd hj (by simp)
      · rename_i hnone
        exact absurd (hnone.symm.trans hj) (by simp)
    | _ => exact absurd hj (by simp [Thread.step, Thread.interrupted])

theorem Thread.answered_uncounted {e : Call} {b : e.Answer} (he : ∀ q, e ≠ .pico (.accept q)) :
    (t.answered e b).uncounted = t.uncounted := by
  cases e with
  | pico pc =>
    cases pc with
    | accept q => exact absurd rfl (he q)
    | _ => rfl
  | _ => rfl

theorem inRow_control {new old : History} (hc : ∀ x ∈ new, x.isControl = true)
    (ho : Always Entry.inRow old) : Always Entry.inRow (new ++ old) :=
  ho.append fun x hx _ ↦ by
    have hctl := hc x hx
    cases x <;> trivial

/-- The control thread disturbs no row. -/
theorem Elsewhere.inRow (h : Elsewhere pl w w') (hw : Always Entry.inRow w.2) :
    Always Entry.inRow w'.2 := by
  obtain ⟨new, hnew, hc⟩ := h.control
  rw [hnew]
  exact inRow_control hc hw

/-- What the thread does not forget when it is interrupted. -/
theorem Elsewhere.thread_congr (h : Elsewhere pl w w') (f : Thread → α)
    (hf : ∀ t : Thread, f t.interrupted = f t) : f (thread w'.2) = f (thread w.2) := by
  obtain ⟨new, hnew, hc⟩ := h.control
  rw [hnew]
  have hthread : thread (new ++ w.2) = _ ∨ _ := thread_control hc
  rcases hthread with h' | h' <;> rw [h']
  exact hf _

/-- Nothing happens while `pico_err` is read. -/
theorem lastAnswered_of_interference {e : Call} (h : Interference sched e w w')
    (hr : e = .picoErr → ∃ pc, lastAnswered w.2 = some (.pico pc)) :
    e = .picoErr → ∃ pc, lastAnswered w'.2 = some (.pico pc) := by
  rintro rfl
  have hsame : w' = w := h
  rw [hsame]
  exact hr rfl

theorem InRow.write (hw : InRow w) (f : NetworkStack → NetworkStack) :
    InRow ((rpcEnv sched c r).write f w) :=
  ⟨⟨hw.resumed, hw.always⟩, Thread.wrote_uncounted hw.uncounted, rfl⟩

theorem InRow.answer {e : Call} {b : e.Answer} (pl : Platform) (hw : InRow w)
    (h : Interference sched e w w') (he : Plain (lastAnswered w.2) e) :
    InRow (w'.1, .answer c r e b w'.1 :: w'.2) := by
  have hel : Elsewhere pl w w' := elsewhere_interference h
  have hcount := (hel.thread_congr Thread.uncounted fun _ ↦ rfl).trans hw.uncounted
  refine ⟨⟨⟨lastAnswered_of_interference h he.reads, fun _ ↦ hcount,
    fun hne ↦ absurd he.toAcquiresNone hne⟩, hel.inRow hw.always⟩, ?_, rfl⟩
  rw [thread_cons, Thread.step, Thread.answered_uncounted he.ne_accept]
  exact hcount

/-- The first picoTCP call of an RPC. -/
theorem InRow.first {e : Call} {b : e.Answer} (pl : Platform) (hw : InRow w)
    (hfirst : (thread w.2).lastCall = none) (h : Interference sched e w w') (he : e ≠ .picoErr) :
    Always Entry.inRow (.answer c r e b w'.1 :: w'.2) := by
  have hel : Elsewhere pl w w' := elsewhere_interference h
  exact ⟨⟨fun h ↦ absurd h he,
    fun _ ↦ (hel.thread_congr Thread.uncounted fun _ ↦ rfl).trans hw.uncounted,
    fun _ ↦ (hel.thread_congr Thread.lastCall fun _ ↦ rfl).trans hfirst⟩, hel.inRow hw.always⟩

/-- The runs of a prompt program. -/
theorem wp_of_chained (pl : Platform) (hp : Chained Plain p (lastAnswered w.2)) (hw : InRow w) :
    Prog.wp (rpcEnv sched c r) (fun _ w ↦ Always Entry.inRow w.2) p (fun _ w ↦ InRow w) w := by
  induction p generalizing w with
  | ret a => exact hw
  | read g ih => exact ih w.1 (hp w.1) hw
  | write f p ih => exact ih hp (hw.write f)
  | call e g ih =>
    refine ⟨hw.always, ?_⟩
    rintro b w' ⟨w₁, hint, rfl⟩
    exact ih b (hp.2 b) (hw.answer pl hint hp.1)

theorem prompt_fillAccepted {i j : ℕ} {p : PicoPtr} {handle : ℤ} :
    Prompt (fillAccepted c handle i j p) := by
  refine .bind prompt_setSocketOptions fun _ ↦
    .bind prompt_setParentHandle fun _ ↦ .bind .get fun s ↦ ?_
  split_ifs
  · exact .pure
  · exact .bind .modify fun _ ↦ .bind (.request (by simp)) fun _ ↦ .pure

/-- What `accept` does after it has updated the pending connections. -/
theorem prompt_acceptRest {i : ℕ} {sIn : PicoPtr} {err : OsError} {handle pClientHandle : ℤ} :
    Prompt (do
      if sIn = none then
        request .notifyMainLoop
        request (.unlock .stackTS)
        return (err, pClientHandle)
      let s ← Prog.get
      match ← reserveHandle sIn (s.sockets i).clientId with
      | none =>
        let _ ← request (.pico (.close sIn))
        request (.unlock .stackTS)
        return (.insufficientSpace, pClientHandle)
      | some j => fillAccepted c handle i j sIn : Rpc (OsError × ℤ)) := by
  split_ifs
  · exact .bind (.request (by simp)) fun _ ↦ .bind (.request (by simp)) fun _ ↦ .pure
  · refine .bind .get fun s ↦ .bind prompt_reserveHandle fun j ↦ ?_
    cases j with
    | none => exact .bind (.request (by simp)) fun _ ↦ .bind (.request (by simp)) fun _ ↦ .pure
    | some j => exact prompt_fillAccepted

/-- `create` opens its picoTCP socket before any other picoTCP call. -/
theorem wp_create_inRow {domain : SocketDomain} {type : SocketType} {pHandle : ℤ} {buffer : BufPtr}
    {size : ℕ} (pl : Platform) (hw : InRow w) (hfirst : (thread w.2).lastCall = none) :
    Prog.wp (rpcEnv sched c r) (fun _ w ↦ Always Entry.inRow w.2)
      (picoSocketCreate domain type pHandle c buffer size) (fun _ w ↦ InRow w) w := by
  unfold picoSocketCreate
  split
  · refine Prog.wp_bind.2 ⟨hw.always, ?_⟩
    rintro ⟨⟩ _ ⟨w₁, hint, rfl⟩
    have hel₁ : Elsewhere pl w w₁ := elsewhere_interference hint
    have hw₁ : InRow (w₁.1, .answer c r (.lock .stackTS) () w₁.1 :: w₁.2) :=
      hw.answer pl hint (plain_of_ne (by simp) ⟨by simp, by simp⟩)
    refine Prog.wp_bind.2 ⟨hw₁.always, ?_⟩
    rintro sock _ ⟨w₂, hint₂, rfl⟩
    have hel₂ : Elsewhere pl _ w₂ := elsewhere_interference hint₂
    have hlast : (thread w₁.2).lastCall = none :=
      (hel₁.thread_congr Thread.lastCall fun _ ↦ rfl).trans hfirst
    have hcount : (thread w₂.2).uncounted = none :=
      (hel₂.thread_congr Thread.uncounted fun _ ↦ rfl).trans hw₁.uncounted
    refine wp_of_chained pl (chained_bind (chained_perform ⟨⟨by simp, by simp⟩, fun _ ↦ ⟨_, rfl⟩⟩)
      fun e ↦ (?_ : Prompt _)) ⟨hw₁.first pl hlast hint₂ (by simp), hcount, rfl⟩
    split_ifs
    · exact .bind (.request (by simp)) fun _ ↦ .pure
    · refine .bind prompt_setStreamOption fun _ ↦ .bind prompt_reserveHandle fun i ↦ ?_
      cases i with
      | none => exact .bind prompt_closeUnreserved fun _ ↦ .bind (.request (by simp)) fun _ ↦ .pure
      | some i =>
        exact .bind .modify fun _ ↦ .bind prompt_setSocketOptions fun _ ↦
          .bind (.request (by simp)) fun _ ↦ .pure
  · exact hw

/-- `accept` counts one pending connection less as soon as it has stored the `pico_err` of its call,
which is its first one. -/
theorem wp_accept_inRow {handle pClientHandle : ℤ} (pl : Platform) (hw : InRow w)
    (hfirst : (thread w.2).lastCall = none) :
    Prog.wp (rpcEnv sched c r) (fun _ w ↦ Always Entry.inRow w.2)
      (picoSocketAccept c handle pClientHandle) (fun _ w ↦ InRow w) w := by
  refine Prog.wp_bind.2 (Prog.wp_bind.2 (Prog.wp_get.2 ?_))
  split
  · exact ⟨hw.always, fun b ↦ b.elim⟩
  rename_i i _
  refine Prog.wp_bind.2 (Prog.wp_get.2 ?_)
  split_ifs
  · exact hw
  · exact hw
  refine Prog.wp_bind.2 ⟨hw.always, ?_⟩
  rintro ⟨⟩ _ ⟨w₁, hint, rfl⟩
  have hel₁ : Elsewhere pl w w₁ := elsewhere_interference hint
  have hw₁ : InRow (w₁.1, .answer c r (.lock .stackTS) () w₁.1 :: w₁.2) :=
    hw.answer pl hint (plain_of_ne (by simp) ⟨by simp, by simp⟩)
  refine Prog.wp_bind.2 ⟨hw₁.always, ?_⟩
  rintro b _ ⟨w₂, hint₂, rfl⟩
  have hlast : (thread w₁.2).lastCall = none :=
    (hel₁.thread_congr Thread.lastCall fun _ ↦ rfl).trans hfirst
  have halways : Always Entry.inRow
      (.answer c r (.pico (.accept (w.1.sockets i).implementationSocket)) b w₂.1 :: w₂.2) :=
    hw₁.first pl hlast hint₂ (by simp)
  refine Prog.wp_bind.2 ⟨halways, ?_⟩
  rintro e w₃ ⟨_, hint₃, rfl⟩
  obtain rfl := quiet_picoErr sched _ _ hint₃
  refine Prog.wp_bind.2 (Prog.wp_modify.2 (Prog.wp_bind.2 (Prog.wp_modify.2 ?_)))
  refine wp_of_chained pl (prompt_acceptRest _) ⟨⟨rfl, rfl, ⟨fun _ ↦ ⟨_, rfl⟩, fun h ↦ absurd rfl h,
    fun h ↦ absurd ⟨by simp, by simp⟩ h⟩, halways⟩, ?_, rfl⟩
  exact congrArg Thread.uncounted
    (Thread.wrote_of_other Thread.reservedBy_acceptPending Thread.wrote_justRead)

/-- **Sections are not interrupted**, in any RPC. -/
theorem wp_rpc_inRow (pl : Platform) (hw : InRow w) (hfirst : (thread w.2).lastCall = none) :
    Prog.wp (rpcEnv sched c r) (fun _ w ↦ Always Entry.inRow w.2) (rpc pl c r)
      (fun _ w ↦ Always Entry.inRow w.2) w := by
  cases hr : r.acquires with
  | false =>
    exact Prog.wp_mono (fun _ _ h ↦ h) (fun _ _ h ↦ h.always)
      (wp_of_chained pl (prompt_rpc hr _) hw)
  | true =>
    cases r with
    | create domain type pHandle =>
      simp only [rpc, rpcSocketCreate, Prog.wp_map]
      refine wp_guarded (fun _ _ ↦ hw.always) fun _ ↦ ?_
      refine Prog.wp_bind.2
        (Prog.wp_mono (fun _ _ h ↦ h) (fun _ _ h ↦ ?_) (wp_create_inRow pl hw hfirst))
      exact h.always
    | accept handle pClientHandle srcAddr =>
      simp only [rpc, rpcSocketAccept, Prog.wp_map]
      refine wp_guarded (fun _ _ ↦ hw.always) fun _ ↦ ?_
      refine Prog.wp_bind.2
        (Prog.wp_mono (fun _ _ h ↦ h) (fun _ _ h ↦ ?_) (wp_accept_inRow pl hw hfirst))
      exact h.always
    | _ => exact absurd hr Bool.noConfusion

theorem inRow_begin {s : NetworkStack} (ho : Always Entry.inRow h) :
    InRow (s, .begin c r s :: h) := ⟨⟨trivial, ho⟩, rfl, rfl⟩

end

/-! ### `create` fills in its slot -/

/-- The RPC has reserved a slot, and the control thread has not acted since. -/
def Calm (h : History) : Prop := Since (fun x ↦ x.isControl = false) (fun x ↦ ∃ i, x.reserves i) h

/-- `create` writes nothing before it reserves its slot, nor after the control thread has acted
since. -/
def Entry.fillsAtOnce : Entry → History → Prop
  | .own c (.create domain type pHandle) s s', earlier =>
    Calm (.own c (.create domain type pHandle) s s' :: earlier)
  | _, _ => True

section

variable {t : Thread} {s s' : NetworkStack} {h : History} {p : Rpc α} {i : ℕ}
  {domain : SocketDomain} {type : SocketType}

theorem Calm.cons {x : Entry} (hc : Calm h) (hx : x.isControl = false) : Calm (x :: h) :=
  Or.inr ⟨hx, hc⟩

/-- The control thread writes to no slot in the name of `create`. -/
theorem Elsewhere.fillsAtOnce (h : Elsewhere pl w w') (hw : Always Entry.fillsAtOnce w.2) :
    Always Entry.fillsAtOnce w'.2 := by
  obtain ⟨new, hnew, hc⟩ := h.control
  rw [hnew]
  exact hw.append fun x hx _ ↦ by
    have hctl := hc x hx
    cases x <;> trivial

theorem within_setOption {q : PicoPtr} {o : PicoOption} {v : ℕ} :
    Within (fun _ ↦ False) (fun _ ↦ True) (setOption q o v) :=
  Prog.within_bind (Prog.within_perform trivial) fun _ ↦ trivial

theorem within_setSocketOptions {q : PicoPtr} :
    Within (fun _ ↦ False) (fun _ ↦ True) (setSocketOptions q) :=
  Prog.within_bind within_setOption fun _ ↦ Prog.within_bind within_setOption fun _ ↦
    Prog.within_bind within_setOption fun _ ↦ within_setOption

theorem within_setStreamOption {q : PicoPtr} :
    Within (fun _ ↦ False) (fun _ ↦ True) (setStreamOption type q) := by
  unfold setStreamOption
  split_ifs
  · exact within_setOption
  · trivial

theorem within_closeUnreserved {q : PicoPtr} :
    Within (fun _ ↦ False) (fun _ ↦ True) (closeUnreserved q) := by
  refine Prog.within_bind (Prog.within_perform trivial) fun ret ↦ ?_
  split_ifs
  · exact Prog.within_bind (Prog.within_perform trivial) fun _ ↦ Prog.within_perform trivial
  · exact Prog.within_perform trivial

/-- A program that writes nothing. -/
theorem wp_of_noWrite (pl : Platform) (hp : Within (fun _ ↦ False) (fun _ ↦ True) p)
    (hw : Always Entry.fillsAtOnce w.2) :
    Prog.wp (rpcEnv sched c r) (fun _ w ↦ Always Entry.fillsAtOnce w.2) p
      (fun _ w ↦ Always Entry.fillsAtOnce w.2) w := by
  refine Prog.wp_mono (fun _ _ h ↦ h.2) (fun _ _ h ↦ h) (Prog.wp_of_within
    (I := fun w ↦ Always Entry.fillsAtOnce w.2) (fun _ _ h ↦ h.elim) (fun e w b w' _ hw h ↦ ?_)
      hp hw)
  obtain ⟨w₁, hint, rfl⟩ := h
  have hel : Elsewhere pl w w₁ := elsewhere_interference hint
  exact ⟨trivial, hel.fillsAtOnce hw⟩

theorem wp_bind_noWrite {k : α → Rpc β} (pl : Platform)
    (hp : Within (fun _ ↦ False) (fun _ ↦ True) p) (hw : Always Entry.fillsAtOnce w.2)
    (hk : ∀ a w, Always Entry.fillsAtOnce w.2 → Prog.wp (rpcEnv sched c r)
      (fun _ w ↦ Always Entry.fillsAtOnce w.2) (k a) (fun _ w ↦ Always Entry.fillsAtOnce w.2) w) :
    Prog.wp (rpcEnv sched c r) (fun _ w ↦ Always Entry.fillsAtOnce w.2) (p >>= k)
      (fun _ w ↦ Always Entry.fillsAtOnce w.2) w :=
  Prog.wp_bind.2 (Prog.wp_mono (fun _ _ h ↦ h) (fun a w h ↦ hk a w h) (wp_of_noWrite pl hp hw))

/-- When `reserve_handle` returns with a handle, the slot has just been reserved. -/
theorem wp_reserveHandle_calm {q : PicoPtr} {d : ℤ} {pHandle : Option ℤ}
    (hw : Always Entry.fillsAtOnce w.2) :
    Prog.wp (rpcEnv sched c (.create domain type pHandle)) (fun _ w ↦ Always Entry.fillsAtOnce w.2)
      (reserveHandle q d) (fun j w ↦ Always Entry.fillsAtOnce w.2 ∧ (j.isSome → Calm w.2)) w := by
  have hnone : ∀ {w : World}, Always Entry.fillsAtOnce w.2 →
      Always Entry.fillsAtOnce w.2 ∧ ((none : Option ℕ).isSome → Calm w.2) :=
    fun hw ↦ ⟨hw, fun h ↦ absurd h Bool.false_ne_true⟩
  refine Prog.wp_bind.2 (Prog.wp_get.2 ?_)
  split
  · exact hnone hw
  split_ifs
  · exact hnone hw
  refine Prog.wp_bind.2 ((wp_request_quiet quiet_lock_socketCB).2 ⟨hw, fun _ ↦ ?_⟩)
  refine Prog.wp_bind.2 (Prog.wp_get.2 ?_)
  split_ifs
  · exact Prog.wp_bind.2 ((wp_request_quiet quiet_unlock_socketCB).2 ⟨⟨trivial, hw⟩, fun _ ↦
      hnone ⟨trivial, trivial, hw⟩⟩)
  split
  · exact Prog.wp_bind.2 ((wp_request_quiet quiet_unlock_socketCB).2 ⟨⟨trivial, hw⟩, fun _ ↦
      hnone ⟨trivial, trivial, hw⟩⟩)
  rename_i j hj
  have hfree := (NetworkStack.firstFree_eq_some_iff.1 hj).1
  have hres : (Entry.own c (.create domain type pHandle) w.1
      (w.1.updateSocket j (SocketResources.reserve q d))).reserves j :=
    ⟨hfree, by rw [NetworkStack.updateSocket_sockets_self]; rfl⟩
  have hcalm : Calm (.own c (.create domain type pHandle) w.1
      (w.1.updateSocket j (SocketResources.reserve q d)) ::
      .answer c (.create domain type pHandle) (.lock .socketCB) () w.1 :: w.2) := Or.inl ⟨j, hres⟩
  refine Prog.wp_bind.2 (Prog.wp_modify.2 (Prog.wp_bind.2 ?_))
  refine (wp_request_quiet quiet_unlock_socketCB).2 ⟨⟨hcalm, trivial, hw⟩, fun _ ↦ ?_⟩
  have hcount := (hcalm.cons (x := .answer c (.create domain type pHandle) (.unlock .socketCB) ()
    (w.1.updateSocket j (SocketResources.reserve q d))) rfl)
  refine Prog.wp_bind.2 (Prog.wp_modify.2 ?_)
  exact ⟨⟨hcount.cons rfl, trivial, hcalm, trivial, hw⟩, fun _ ↦ hcount.cons rfl⟩

theorem wp_create_fillsAtOnce {handle d : ℤ} {pHandle : Option ℤ} {buffer : BufPtr} {size : ℕ}
    (pl : Platform) (hw : Always Entry.fillsAtOnce w.2) :
    Prog.wp (rpcEnv sched c (.create domain type pHandle)) (fun _ w ↦ Always Entry.fillsAtOnce w.2)
      (picoSocketCreate domain type handle d buffer size)
      (fun _ w ↦ Always Entry.fillsAtOnce w.2) w := by
  have hrequest : ∀ {e : Call}, Within (fun _ ↦ False) (fun _ ↦ True) (request e) :=
    fun {_} ↦ Prog.within_perform trivial
  have hunlock : ∀ {a : OsError × ℤ}, Within (fun _ ↦ False) (fun _ ↦ True)
      (request (.unlock .stackTS) >>= fun _ ↦ (pure a : Rpc (OsError × ℤ))) :=
    fun {_} ↦ Prog.within_bind hrequest fun _ ↦ trivial
  unfold picoSocketCreate
  split
  · refine wp_bind_noWrite pl hrequest hw fun _ w hw ↦ ?_
    refine wp_bind_noWrite pl hrequest hw fun sock w hw ↦ ?_
    refine wp_bind_noWrite pl hrequest hw fun e w hw ↦ ?_
    split_ifs
    · exact wp_of_noWrite pl hunlock hw
    refine wp_bind_noWrite pl within_setStreamOption hw fun _ w hw ↦ ?_
    refine Prog.wp_bind.2 (Prog.wp_mono (fun _ _ h ↦ h) (fun j w h ↦ ?_) (wp_reserveHandle_calm hw))
    obtain ⟨hw, hcalm⟩ := h
    cases j with
    | none =>
      exact wp_bind_noWrite pl within_closeUnreserved hw fun _ _ hw ↦ wp_of_noWrite pl hunlock hw
    | some j =>
      refine Prog.wp_bind.2 (Prog.wp_modify.2 ?_)
      refine wp_bind_noWrite pl within_setSocketOptions ⟨(hcalm rfl).cons rfl, hw⟩ fun _ _ hw ↦ ?_
      exact wp_of_noWrite pl hunlock hw
  · exact hw

/-- **`create` fills in its slot at once**, and no other RPC does. -/
theorem wp_rpc_fillsAtOnce (pl : Platform) (hw : Always Entry.fillsAtOnce w.2) :
    Prog.wp (rpcEnv sched c r) (fun _ w ↦ Always Entry.fillsAtOnce w.2) (rpc pl c r)
      (fun _ w ↦ Always Entry.fillsAtOnce w.2) w := by
  cases r with
  | create domain type pHandle =>
    simp only [rpc, rpcSocketCreate, Prog.wp_map]
    refine wp_guarded (fun _ _ ↦ hw) fun _ ↦ ?_
    exact Prog.wp_bind.2
      (Prog.wp_mono (fun _ _ h ↦ h) (fun _ _ h ↦ h) (wp_create_fillsAtOnce pl hw))
  | _ =>
    refine Prog.wp_of_invariant (I := fun w ↦ Always Entry.fillsAtOnce w.2) (fun f w hw ↦ ?_)
      (fun e w b w' hw h ↦ ?_) _ hw
    · exact ⟨trivial, hw⟩
    obtain ⟨w₁, hint, rfl⟩ := h
    have hel : Elsewhere pl w w₁ := elsewhere_interference hint
    exact ⟨trivial, hel.fillsAtOnce hw⟩

end

/-! ### What every run keeps -/

/-- What no entry of the control thread and no reply breaks, and every RPC keeps, holds of every
run. -/
theorem Reachable.always {P : Entry → History → Prop} (h : Reachable pl sched cfg w)
    (hreply : ∀ c r a s earlier, P (.reply c r a s) earlier)
    (hcontrol : ∀ w w', Elsewhere pl w w' → Always P w.2 → Always P w'.2)
    (hrpc : ∀ c r s h, Always P h → Prog.wp (rpcEnv sched c r) (fun _ w ↦ Always P w.2) (rpc pl c r)
      (fun _ w ↦ Always P w.2) (s, .begin c r s :: h)) : Always P w.2 := by
  induction h with
  | refl => exact Trace.always_nil
  | tail _ hs ih =>
    cases hs with
    | rpc _ hout => exact ⟨hreply _ _ _ _ _, Prog.outcome_of_wp (hrpc _ _ _ _ ih) hout⟩
    | mainLoop h => exact hcontrol _ _ (elsewhere_mainLoopIteration h) ih
    | setState => exact ih

theorem Visited.always {P : Entry → History → Prop} (h : Visited pl sched cfg w)
    (hreply : ∀ c r a s earlier, P (.reply c r a s) earlier)
    (hcontrol : ∀ w w', Elsewhere pl w w' → Always P w.2 → Always P w'.2)
    (hrpc : ∀ c r s h, Always P h → Prog.wp (rpcEnv sched c r) (fun _ w ↦ Always P w.2) (rpc pl c r)
      (fun _ w ↦ Always P w.2) (s, .begin c r s :: h)) : Always P w.2 := by
  induction h with
  | reachable h => exact h.always hreply hcontrol hrpc
  | call hw _ hat => exact Prog.callAt_of_wp (hrpc _ _ _ _ (hw.always hreply hcontrol hrpc)) hat
  | callback _ h ih => exact hcontrol _ _ (elsewhere_callbackStep h) ih
  | mainLoop _ h ih => exact hcontrol _ _ (elsewhere_mainLoopIteration h) ih

theorem Visited.inRow (h : Visited pl sched cfg w) : Always Entry.inRow w.2 :=
  h.always (fun _ _ _ _ _ ↦ trivial) (fun _ _ hel ↦ hel.inRow) fun _ _ _ _ ho ↦
    wp_rpc_inRow pl (inRow_begin ho) rfl

theorem Reachable.inRow (h : Reachable pl sched cfg w) : Always Entry.inRow w.2 :=
  (Visited.reachable h).inRow

theorem Visited.fillsAtOnce (h : Visited pl sched cfg w) : Always Entry.fillsAtOnce w.2 :=
  h.always (fun _ _ _ _ _ ↦ trivial) (fun _ _ hel ↦ hel.fillsAtOnce) fun _ _ _ _ ho ↦
    wp_rpc_fillsAtOnce pl ⟨trivial, ho⟩

/-- An RPC reserves one slot only. -/
theorem Thread.MayWrite.unreserved {t : Thread} {s s' : NetworkStack} {j : ℕ}
    (hm : t.MayWrite pl c r s s') (hres : (Entry.own c r s s').reserves j) : t.reserved = none := by
  obtain ⟨hfree, hin⟩ := hres
  obtain hst | ⟨_, -, -, hn, -⟩ | ⟨-, -, hrec⟩ := (hm.alters j).lifecycle
  · exact absurd (hfree.symm.trans (hst.symm.trans hin)) (by decide)
  · exact hn
  · exact absurd hin (by simp [hrec, SocketResources.release])

/-- A slot that `create` has just reserved has no bits. -/
theorem Deeds.eventMask_of_calm {i : ℕ} (h : Deeds pl (cfg.init, []) w)
    (hi : (thread w.2).reserved = some i) (hc : Calm w.2) : (w.1.sockets i).eventMask = ∅ := by
  have hinv := Deeds.invariant (I := fun w ↦ (thread w.2).reserved = some i → Calm w.2 →
    (w.1.sockets i).eventMask = ∅) h (fun hi ↦ absurd hi (by simp [thread]))
  refine hinv (fun w₁ w₂ new ht hd _ ih hi hc ↦ ?_) hi hc
  cases hd with
  | begin | reply => exact absurd hi (by simp [Thread.step])
  | @own s s' h c r _ hm =>
    refine Finset.subset_empty.1 (Finset.Subset.trans (hm.alters i).eventMask_subset ?_)
    obtain hi | ⟨hfree, -⟩ := Thread.reserved_of_wrote hi
    · refine Finset.subset_empty.2 (ih hi ?_)
      obtain ⟨j, hres⟩ | ⟨-, hc⟩ := hc
      · exact absurd ((hm.unreserved hres).symm.trans hi) (by simp)
      · exact hc
    · exact Finset.subset_empty.2 (ht.clean i hfree).eventMask
  | answer e b =>
    refine ih (by rwa [thread_cons, Thread.step, Thread.answered_reserved] at hi) ?_
    obtain ⟨_, hres⟩ | ⟨-, hc⟩ := hc
    · exact hres.elim
    · exact hc
  | event hcb =>
    obtain ⟨ev, -, -, hh⟩ := hcb
    rw [hh] at hc
    obtain ⟨_, hres⟩ | ⟨hctl, -⟩ := hc
    · exact hres.elim
    · exact absurd hctl (by simp [Entry.isControl])
  | notified =>
    obtain ⟨_, hres⟩ | ⟨hctl, -⟩ := hc
    · exact hres.elim
    · exact absurd hctl (by simp [Entry.isControl])
  | setState => exact ih hi hc

end NetworkStackPicoTcp
