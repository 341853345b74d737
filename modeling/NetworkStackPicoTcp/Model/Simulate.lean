import NetworkStackPicoTcp.Model.System

/-!
# Computing single runs

The steps of the component as functions, for given answers of picoTCP and given callbacks, so that a
particular run can be computed: `fire` runs a callback, `iterate` an iteration of the main loop and
`serve` an RPC. Each is shown to be a step of the model.
-/

namespace NetworkStackPicoTcp

variable {pl : Platform} {sched : Schedule} {c : ℤ} {r : RpcCall} {w : World}

/-- Run a callback. -/
def fire (w : World) (ev : PicoEvent) : World :=
  match w.1.handlePicoSocketEvent ev with
  | none => w
  | some s => (s, .event ev w.1 s :: w.2)

/-- Run an iteration of the main loop with the given callbacks. -/
def iterate (evs : List PicoEvent) (w : World) : World :=
  let w₁ := evs.foldl fire w
  (w₁.1.notifyClientsAboutPendingEvents.1,
    .notified w₁.1 w₁.1.notifyClientsAboutPendingEvents.1 :: w₁.2)

/-- Serve an RPC, with the answers of the calls and what happens during each. -/
def serve (pl : Platform) (c : ℤ) (r : RpcCall) (reply : (e : Call) → Option e.Answer)
    (during : Call → World → World) (w : World) : Option World :=
  (Prog.eval (fun s s' h ↦ .own c r s s' :: h)
    (fun e w ↦ (reply e).map fun b ↦
      (b, (during e w).1, .answer c r e b (during e w).1 :: (during e w).2))
    (rpc pl c r) (w.1, .begin c r w.1 :: w.2)).map
      fun x ↦ (x.2.1, .reply c r x.1 x.2.1 :: x.2.2)

theorem callbacks_foldl_fire {evs : List PicoEvent} (h : ∀ ev ∈ evs, ev.socket ≠ none) :
    Callbacks w (evs.foldl fire w) := by
  induction evs generalizing w with
  | nil => exact .refl
  | cons ev evs ih =>
    have hrest := ih (w := fire w ev) fun ev' hev ↦ h ev' (List.mem_cons_of_mem _ hev)
    have hne := h ev List.mem_cons_self
    rw [List.foldl_cons]
    cases hs : w.1.handlePicoSocketEvent ev with
    | none =>
      have hfire : fire w ev = w := by rw [fire, hs]
      rwa [hfire] at hrest ⊢
    | some s =>
      have hfire : fire w ev = (s, .event ev w.1 s :: w.2) := by rw [fire, hs]
      rw [hfire] at hrest ⊢
      exact .head ⟨ev, hne, hs, rfl⟩ hrest

theorem mainLoopIteration_iterate {evs : List PicoEvent} (h : ∀ ev ∈ evs, ev.socket ≠ none) :
    MainLoopIteration w (iterate evs w) :=
  ⟨_, callbacks_foldl_fire h, rfl⟩

theorem step_iterate {evs : List PicoEvent} (h : ∀ ev ∈ evs, ev.socket ≠ none) :
    Step pl sched w (iterate evs w) :=
  .mainLoop (mainLoopIteration_iterate h)

/-- An RPC served without a crash is a run of the RPC. -/
theorem outcome_of_serve {reply : (e : Call) → Option e.Answer} {during : Call → World → World}
    (hduring : ∀ e w, Interference sched e w (during e w)) {w' : World}
    (h : serve pl c r reply during w = some w') :
    ∃ a h', Prog.Outcome (rpcEnv sched c r) (rpc pl c r) (w.1, .begin c r w.1 :: w.2) a (w'.1, h') ∧
      w'.2 = .reply c r a w'.1 :: h' := by
  obtain ⟨⟨a, s', h'⟩, he, rfl⟩ := Option.map_eq_some_iff.1 h
  refine ⟨a, h', Prog.outcome_of_eval (V := rpcEnv sched c r) ?_ he, rfl⟩
  intro e w₀ b w₁ hb
  obtain ⟨b', -, heq⟩ := Option.map_eq_some_iff.1 hb
  obtain ⟨rfl, rfl⟩ := Prod.mk.inj heq
  exact ⟨_, hduring e w₀, rfl⟩

theorem step_serve {reply : (e : Call) → Option e.Answer} {during : Call → World → World}
    (hduring : ∀ e w, Interference sched e w (during e w)) (hc : w.1.IsClient c) {w' : World}
    (h : serve pl c r reply during w = some w') : Step pl sched w w' := by
  obtain ⟨a, h', ho, hh⟩ := outcome_of_serve hduring h
  have hw' : w' = (w'.1, .reply c r a w'.1 :: h') := Prod.ext rfl hh
  rw [hw']
  exact .rpc hc ho

/-- The world after an RPC that does not crash. -/
def served (pl : Platform) (c : ℤ) (r : RpcCall) (reply : (e : Call) → Option e.Answer)
    (during : Call → World → World) (w : World) : World :=
  (serve pl c r reply during w).getD w

theorem reachable_served {cfg : Config} {reply : (e : Call) → Option e.Answer}
    {during : Call → World → World} (hw : Reachable pl sched cfg w)
    (hduring : ∀ e w, Interference sched e w (during e w)) (hc : w.1.IsClient c)
    (h : (serve pl c r reply during w).isSome = true) :
    Reachable pl sched cfg (served pl c r reply during w) := by
  obtain ⟨w', hw'⟩ := Option.isSome_iff_exists.1 h
  rw [served, hw']
  exact hw.tail (step_serve hduring hc hw')

theorem outcome_served {reply : (e : Call) → Option e.Answer} {during : Call → World → World}
    (hduring : ∀ e w, Interference sched e w (during e w))
    (h : (serve pl c r reply during w).isSome = true) :
    ∃ a, Prog.Outcome (rpcEnv sched c r) (rpc pl c r) (w.1, .begin c r w.1 :: w.2) a
      ((served pl c r reply during w).1, (served pl c r reply during w).2.tail) := by
  obtain ⟨w', hw'⟩ := Option.isSome_iff_exists.1 h
  obtain ⟨a, h', ho, hh⟩ := outcome_of_serve hduring hw'
  rw [served, hw', Option.getD_some, hh]
  exact ⟨a, ho⟩

theorem reachable_iterate {cfg : Config} {evs : List PicoEvent} (hw : Reachable pl sched cfg w)
    (h : ∀ ev ∈ evs, ev.socket ≠ none) : Reachable pl sched cfg (iterate evs w) :=
  hw.tail (step_iterate h)

/-! ### A component to compute with -/

/-- Dataports of 4096 bytes, at an address of its own for every badge. A size fits when it does not
exceed the dataport's, and the dataport that a `buf_io` cell stands for is the one the cell points
to when it is used. -/
def samplePlatform : Platform where
  rpcBuf badge := badge.toNat * 4096
  rpcBufSize _ := 4096
  sizeofEvt := 16
  sizeofEvt_pos := by decide
  getBuf cells d := (d.io.map cells).getD 0
  dataportFits d len := len ≤ d.size
  dataportFits_of_le h := by simp [h]
  isNulTerminated a := a.toList.contains 0
  shortBe x := x <<< 8 ||| x >>> 8
  ipv4ToString _ := Vector.replicate 16 0
  nullPtrError := .invalidParameter
  nullPtrError_ne := by decide
  unterminatedError := .invalidParameter
  unterminatedError_ne := by decide
  dataportSizeError := .invalidParameter
  dataportSizeError_ne := by decide

/-- Two clients, with badges 101 and 102, share a table of `n + 1` sockets; each may have three. -/
def sampleConfig (n : ℕ) : Config where
  badges := [101, 102]
  quota _ := 3
  numberOfClients := 2
  numberOfSockets := n + 1
  badges_nodup := by decide
  minBadgeId_le := by decide
  length_le := by decide
  numberOfSockets_pos := by omega

/-- picoTCP answers every call with success. Its `socketOpen` and `accept` hand out the given
sockets; transfers move everything. -/
def obliging (opened accepted : PicoPtr) : (e : Call) → Option e.Answer
  | .pico (.socketOpen _ _) => some opened
  | .pico (.accept _) => some (accepted, 0, 0)
  | .pico (.recvfrom _ _ len) => some (len, 1, 1)
  | .pico (.write _ _ len) => some (len : ℤ)
  | .pico (.read _ _ len) => some (len : ℤ)
  | .pico (.sendto _ _ len _ _) => some (len : ℤ)
  | .pico (.setOption _ _ _) => some (0 : ℤ)
  | .pico (.close _) => some (0 : ℤ)
  | .pico (.connect _ _ _) => some (0 : ℤ)
  | .pico (.bind _ _ _) => some (0 : ℤ)
  | .pico (.listen _ _) => some (0 : ℤ)
  | .picoErr => some .noerr
  | .stringToIpv4 _ => some (some 1)
  | .lock _ | .unlock _ | .notifyMainLoop | .putEvent _ _ | .preempt => some ()
  | .nullDeref | .diverge => none

/-- picoTCP announces events for the socket `p`, which is not listening. -/
def announce (p : ℕ) (mask : Finset PicoSockEv) : PicoEvent := ⟨mask, some p, false, .other, .noerr⟩

/-- A connection has come in on the listening socket `p`. -/
def incoming (p : ℕ) : PicoEvent := ⟨{.conn}, some p, true, .other, .noerr⟩

/-- The main loop announces events for the socket `p` after the RPC has released `stackTS`. -/
def afterUnlock (p : ℕ) (mask : Finset PicoSockEv) (e : Call) (w : World) : World :=
  if e = .unlock .stackTS then iterate [announce p mask] w else w

theorem interference_afterUnlock (p : ℕ) (mask : Finset PicoSockEv) (e : Call) (w : World) :
    Interference .free e w (afterUnlock p mask e w) := by
  unfold afterUnlock
  split_ifs with he
  · subst he
    exact .single (mainLoopIteration_iterate (by simp [announce]))
  · exact interference_refl .free e w

end NetworkStackPicoTcp
