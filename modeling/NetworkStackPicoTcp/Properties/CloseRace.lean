import NetworkStackPicoTcp.Invariants.Deeds
import NetworkStackPicoTcp.Properties.Events

/-!
# A close and a callback at the same time

The callback runs under `stackTS` and the locked section of `free_handle` under `socketCB`, so the
one may fall between any two steps of the other. The callback looks up the slot, updates it and
looks up the owner that the slot names; when the slot is freed after the first lookup and before the
second one, it names nobody. That is the only way in which the two can harm each other
(`close_safe_iff`).
-/

namespace NetworkStackPicoTcp

open Prog (wp)

variable {pl : Platform} {sched : Schedule} {cfg : Config} {c : ℤ} {w : World}

/-- Where the locked section of `free_handle` falls in a callback. -/
inductive Moment
  /-- Before the callback looks up the slot. -/
  | beforeLookup
  /-- After that, and before it updates the slot. -/
  | beforeUpdate
  /-- After that, and before it looks up the owner and flags it. -/
  | beforeFlag
  /-- After the callback. -/
  | afterFlag
  deriving DecidableEq

namespace NetworkStack

/-- The locked section of `free_handle` for slot `i` of client `k`, if this is the moment for it. -/
def releaseAt (s : NetworkStack) (k i : ℕ) (m now : Moment) : NetworkStack :=
  if m = now then s.release k i else s

/-- What the callback does when it has found slot `j`. -/
def recordWithRelease (s : NetworkStack) (k i : ℕ) (m : Moment) (ev : PicoEvent) (j : ℕ) :
    Option NetworkStack :=
  ((((s.releaseAt k i m .beforeUpdate).updateSocket j
    (SocketResources.recordEvent ev)).releaseAt k i m .beforeFlag).flagOwner j).map
      fun s ↦ s.releaseAt k i m .afterFlag

/-- `handle_pico_socket_event`, with the locked section of `free_handle` for slot `i` of client `k`
at the moment `m`; `none` when the callback follows a `NULL` pointer. A callback that finds no slot
is over after the lookup. -/
def callbackWithRelease (s : NetworkStack) (k i : ℕ) (m : Moment) (ev : PicoEvent) :
    Option NetworkStack :=
  match (s.releaseAt k i m .beforeLookup).getHandleFromImplementationSocket ev.socket with
  | none => some (s.release k i)
  | some j => (s.releaseAt k i m .beforeLookup).recordWithRelease k i m ev j

/-- Free slots carry nothing that the next socket in the slot would inherit. -/
def FreeSlotsClean (s : NetworkStack) : Prop :=
  ∀ l, (s.sockets l).status = .free → (s.sockets l).Clean

variable {s : NetworkStack} {i j k l : ℕ} {ev : PicoEvent} {m : Moment}

theorem FreeSlotsClean.release (hs : s.FreeSlotsClean) : (s.release k i).FreeSlotsClean := by
  intro l hl
  rcases eq_or_ne l i with rfl | hli
  · rw [sockets_release_self]
    exact ⟨rfl, rfl, rfl, rfl⟩
  · rw [sockets_release_of_ne hli] at hl ⊢
    exact hs l hl

theorem FreeSlotsClean.recordEvent (hs : s.FreeSlotsClean) (hj : (s.sockets j).status = .inUse) :
    (s.updateSocket j (SocketResources.recordEvent ev)).FreeSlotsClean := by
  intro l hl
  rw [updateSocket_sockets] at hl ⊢
  split_ifs at hl ⊢ with hlj
  · rw [SocketResources.recordEvent_status, hj] at hl
    exact absurd hl (by decide)
  · exact hs l hl

theorem flagOwner_of_isClientAt (hl : s.IsClientAt (s.sockets j).clientId l) :
    s.flagOwner j = some (s.updateClient l Client.flag) := by
  have hl' : s.getClientIndexFromClientId (s.sockets j).clientId = some l := hl
  rw [flagOwner, getClientFromClientId_eq_index, hl']

/-- The owner of a slot that has been freed is nobody. -/
theorem flagOwner_of_free (hj : (s.sockets j).clientId = -1) : s.flagOwner j = none := by
  have hnone : s.getClientIndexFromClientId (s.sockets j).clientId = none := by
    rw [hj]
    exact if_pos (by decide)
  rw [flagOwner, getClientFromClientId_eq_index, hnone]

/-- An update of a slot in use, with its owner flagged. -/
theorem FreeSlotsClean.callback (hs : s.FreeSlotsClean) (ev : PicoEvent)
    (hj : (s.sockets j).status = .inUse)
    (hl : s.IsClientAt (s.sockets j).clientId l) :
    ∃ s', (s.updateSocket j (SocketResources.recordEvent ev)).flagOwner j = some s' ∧
      s'.FreeSlotsClean := by
  have hl' : (s.updateSocket j (SocketResources.recordEvent ev)).IsClientAt
      ((s.updateSocket j (SocketResources.recordEvent ev)).sockets j).clientId l := by
    rw [updateSocket_sockets_self, SocketResources.recordEvent_clientId]
    exact hl
  exact ⟨_, flagOwner_of_isClientAt hl', hs.recordEvent hj⟩

end NetworkStack

variable {s : NetworkStack} {i j k : ℕ} {ev : PicoEvent} {m : Moment}

/-- The lookup of a callback finds a slot in use, and its owner is a client. -/
theorem Accounting.lookup (ha : Accounting s) (hev : ev.socket ≠ none)
    (hj : s.getHandleFromImplementationSocket ev.socket = some j) :
    (s.sockets j).status = .inUse ∧ ∃ l, s.IsClientAt (s.sockets j).clientId l := by
  obtain ⟨hp, hlt, -⟩ := NetworkStack.getHandleFromImplementationSocket_eq_some_iff.1 hj
  have hin : (s.sockets j).status = .inUse := (ha.inUse_iff j hlt).2 (by rw [hp]; exact hev)
  exact ⟨hin, ha.owner_isClient j hlt hin⟩

namespace NetworkStack

/-- A callback for a socket that is not in slot `i` does not mind when that slot is freed. -/
theorem callbackWithRelease_of_ne (ha : Accounting s) (hs : s.FreeSlotsClean)
    (hev : ev.socket ≠ none)
    (hm : m ≠ .beforeLookup) (hi : s.getHandleFromImplementationSocket ev.socket ≠ some i) :
    ∃ s', s.callbackWithRelease k i m ev = some s' ∧ s'.FreeSlotsClean := by
  have hlook : s.releaseAt k i m .beforeLookup = s := if_neg hm
  rw [callbackWithRelease, hlook]
  cases hl : s.getHandleFromImplementationSocket ev.socket with
  | none => exact ⟨s.release k i, rfl, hs.release⟩
  | some j =>
    rw [hl] at hi
    have hji : j ≠ i := fun h ↦ hi (by rw [h])
    obtain ⟨hin, l, howner⟩ := ha.lookup hev hl
    have howner' : (s.release k i).IsClientAt ((s.release k i).sockets j).clientId l := by
      rw [sockets_release_of_ne hji]
      exact isClientAt_release.2 howner
    cases m with
    | beforeLookup => exact absurd rfl hm
    | beforeUpdate =>
      have hin' : ((s.release k i).sockets j).status = .inUse := by
        rw [sockets_release_of_ne hji]
        exact hin
      obtain ⟨s', hs', hclean⟩ := hs.release.callback ev hin' howner'
      exact ⟨s', by simp [recordWithRelease, releaseAt, hs'], hclean⟩
    | beforeFlag =>
      have hflag : ((s.updateSocket j (SocketResources.recordEvent ev)).release k i).IsClientAt
          (((s.updateSocket j (SocketResources.recordEvent ev)).release k i).sockets j).clientId
          l := by
        rw [sockets_release_of_ne hji, updateSocket_sockets_self,
          SocketResources.recordEvent_clientId]
        exact isClientAt_release.2 howner
      refine ⟨((s.updateSocket j (SocketResources.recordEvent ev)).release k i).updateClient l
        Client.flag, by simp [recordWithRelease, releaseAt, flagOwner_of_isClientAt hflag], ?_⟩
      exact (hs.recordEvent hin).release
    | afterFlag =>
      obtain ⟨s', hs', hclean⟩ := hs.callback ev hin howner
      exact ⟨s'.release k i, by simp [recordWithRelease, releaseAt, hs'], hclean.release⟩

/-- A callback for the socket in slot `i` follows a `NULL` pointer if the slot is freed between its
two lookups. -/
theorem callbackWithRelease_eq_none (hi : s.getHandleFromImplementationSocket ev.socket = some i)
    (hm : m = .beforeUpdate ∨ m = .beforeFlag) : s.callbackWithRelease k i m ev = none := by
  obtain rfl | rfl := hm
  · have hnone : ((s.release k i).updateSocket i (SocketResources.recordEvent ev)).flagOwner i =
        none := by
      refine flagOwner_of_free ?_
      rw [updateSocket_sockets_self, SocketResources.recordEvent_clientId, sockets_release_self]
      rfl
    simp [callbackWithRelease, hi, recordWithRelease, releaseAt, hnone]
  · have hnone : ((s.updateSocket i (SocketResources.recordEvent ev)).release k i).flagOwner i =
        none := by
      refine flagOwner_of_free ?_
      rw [sockets_release_self]
      rfl
    simp [callbackWithRelease, hi, recordWithRelease, releaseAt, hnone]

/-- A callback is over before the slot in which it has recorded its event is freed. -/
theorem callbackWithRelease_afterFlag (ha : Accounting s) (hs : s.FreeSlotsClean)
    (hev : ev.socket ≠ none) (hi : s.getHandleFromImplementationSocket ev.socket = some i) :
    ∃ s', s.callbackWithRelease k i .afterFlag ev = some s' ∧ s'.FreeSlotsClean := by
  obtain ⟨hin, l, howner⟩ := ha.lookup hev hi
  obtain ⟨s', hs', hclean⟩ := hs.callback ev hin howner
  exact ⟨s'.release k i, by simp [callbackWithRelease, hi, recordWithRelease, releaseAt, hs'],
    hclean.release⟩

/-- A slot that is freed before the callback looks for it is not found. -/
theorem callbackWithRelease_beforeLookup (ha : Accounting s) (hs : s.FreeSlotsClean)
    (ho : s.Owns c i) (hk : s.IsClientAt c k) (hev : ev.socket ≠ none) :
    ∃ s', s.callbackWithRelease k i .beforeLookup ev = some s' ∧ s'.FreeSlotsClean := by
  have hlook : s.releaseAt k i .beforeLookup .beforeLookup = s.release k i := if_pos rfl
  rw [callbackWithRelease, hlook]
  cases hl : (s.release k i).getHandleFromImplementationSocket ev.socket with
  | none => exact ⟨s.release k i, rfl, hs.release⟩
  | some j =>
    obtain ⟨hin, l, howner⟩ := (ha.release ho hk).lookup hev hl
    obtain ⟨s', hs', hclean⟩ := hs.release.callback ev hin howner
    exact ⟨s', by simp [recordWithRelease, releaseAt, hs'], hclean⟩

theorem callbackWithRelease_safe (ha : Accounting s) (hs : s.FreeSlotsClean) (ho : s.Owns c i)
    (hk : s.IsClientAt c k) (hev : ev.socket ≠ none)
    (hm : ¬ (s.getHandleFromImplementationSocket ev.socket = some i ∧
      (m = .beforeUpdate ∨ m = .beforeFlag))) :
    ∃ s', s.callbackWithRelease k i m ev = some s' ∧ s'.FreeSlotsClean := by
  cases m with
  | beforeLookup => exact callbackWithRelease_beforeLookup ha hs ho hk hev
  | beforeUpdate => exact callbackWithRelease_of_ne ha hs hev (by simp) fun hi ↦ hm ⟨hi, Or.inl rfl⟩
  | beforeFlag => exact callbackWithRelease_of_ne ha hs hev (by simp) fun hi ↦ hm ⟨hi, Or.inr rfl⟩
  | afterFlag =>
    by_cases hi : s.getHandleFromImplementationSocket ev.socket = some i
    · exact callbackWithRelease_afterFlag ha hs hev hi
    · exact callbackWithRelease_of_ne ha hs hev (by simp) hi

end NetworkStack

/-! ### The locked section of a close -/

/-- A `close` takes `socketCB` only to free the slot of its handle, which is its caller's. -/
def FreesOwned (c handle : ℤ) (e : Call) (w : World) : Prop :=
  e = .lock .socketCB → ∃ i k : ℕ, handle = i ∧ w.1.Owns c i ∧ w.1.IsClientAt c k

theorem freesOwned_of_ne {handle : ℤ} {e : Call} (he : e ≠ .lock .socketCB) :
    FreesOwned c handle e w :=
  fun h ↦ absurd h he

theorem wp_freeHandle {handle : ℤ} {r : RpcCall} : wp (rpcEnv sched c r) (FreesOwned c handle)
    (freeHandle handle c) (fun _ _ ↦ True) w := by
  simp only [freeHandle, Prog.wp_bind, Prog.wp_get]
  split
  · rename_i i k hi hk
    obtain ⟨rfl, hlt⟩ := NetworkStack.getSocketFromHandle_eq_some_iff.1 hi
    split_ifs with huse howner
    · trivial
    · trivial
    · simp only [Prog.wp_bind, Prog.wp_perform, Prog.wp_modify]
      refine ⟨fun _ ↦ ⟨i, k, rfl, ⟨hlt, not_not.1 howner⟩, hk⟩, fun _ _ _ ↦ ?_⟩
      exact ⟨freesOwned_of_ne (by simp), fun _ _ _ ↦ trivial⟩
  · trivial

theorem wp_close {handle : ℤ} : wp (rpcEnv sched c (.close handle)) (FreesOwned c handle)
    (rpc pl c (.close handle)) (fun _ _ ↦ True) w := by
  have hfree : ∀ (err : OsError) (w : World), wp (rpcEnv sched c (.close handle))
      (FreesOwned c handle)
        (do freeHandle handle c; return err) (fun _ _ ↦ True) w := by
    intro err w
    simp only [Prog.wp_bind, Prog.wp_pure]
    exact wp_freeHandle
  simp only [rpc, rpcSocketClose, Prog.wp_map]
  refine wp_guarded (fun _ _ ↦ trivial) fun _ ↦ ?_
  simp only [picoSocketClose, socketOf, Prog.wp_bind, Prog.wp_get]
  split
  · exact Rpc.wp_nullDeref.2 (freesOwned_of_ne (by simp))
  · simp only [Prog.wp_pure]
    split_ifs
    · exact hfree .success w
    · trivial
    · simp only [Prog.wp_bind, Prog.wp_perform, Prog.wp_modify]
      refine ⟨freesOwned_of_ne (by simp),
        fun _ _ _ ↦ ⟨freesOwned_of_ne (by simp), fun ret _ _ ↦ ?_⟩⟩
      refine ⟨freesOwned_of_ne (by simp), fun e _ _ ↦ ⟨freesOwned_of_ne (by simp), fun _ _ _ ↦ ?_⟩⟩
      refine ⟨freesOwned_of_ne (by simp), fun _ w' _ ↦ ?_⟩
      split_ifs
      · exact hfree (picoErr2Os e) w'
      · exact hfree .success w'

/-- **When a close and a callback are safe together.** A `close` is about to free its slot, and the
control thread runs, until it runs a callback during which the slot is freed. The callback does not
follow a `NULL` pointer, and leaves no free slot with an event, a pending connection or the
connected flag, exactly if it is not for the socket in that slot or the slot is not freed between
its two lookups. -/
theorem close_safe_iff {s : NetworkStack} {h : History} {handle : ℤ} {w w₁ w₂ : World}
    {ev : PicoEvent} {m : Moment} (hw : Reachable pl sched cfg (s, h)) (hc : s.IsClient c)
    (hat : Prog.CallAt (rpcEnv sched c (.close handle)) (rpc pl c (.close handle))
      (s, .begin c (.close handle) s :: h) (.lock .socketCB) w)
    (hloop : MainLoop w w₁) (hcb : Callbacks w₁ w₂) (hev : ev.socket ≠ none) :
    ∃ i k : ℕ, handle = i ∧ w₂.1.Owns c i ∧ w₂.1.IsClientAt c k ∧
      ((∃ s', w₂.1.callbackWithRelease k i m ev = some s' ∧
          ∀ l, (s'.sockets l).status = .free → (s'.sockets l).eventMask = ∅ ∧
            (s'.sockets l).pendingConnections = 0 ∧ (s'.sockets l).connected = false) ↔
        ¬ (w₂.1.getHandleFromImplementationSocket ev.socket = some i ∧
          (m = .beforeUpdate ∨ m = .beforeFlag))) := by
  obtain ⟨i, k, hi, ho, hk⟩ := Prog.callAt_of_wp wp_close hat rfl
  have hel : Elsewhere pl w w₂ := (elsewhere_mainLoop hloop).trans (elsewhere_callbacks hcb)
  have hvisited : Visited pl sched cfg w := .call hw hc hat (by simp)
  have hst : Stepped pl cfg w₂ := (visited_stepped hvisited).trans hel.micros
  have htidy : Tidy w₂ := Deeds.tidy (Micros.deeds hst (hel.orderly (visited_orderly hvisited)))
  refine ⟨i, k, hi, hel.frame.owns ho, hel.frame.isClientAt hk, ?_⟩
  constructor
  · rintro ⟨s', hs', -⟩ ⟨hi, hm⟩
    rw [NetworkStack.callbackWithRelease_eq_none hi hm] at hs'
    exact absurd hs' (by simp)
  · intro hm
    obtain ⟨s', hs', hclean⟩ := NetworkStack.callbackWithRelease_safe hst.accounting htidy.clean
      (hel.frame.owns ho) (hel.frame.isClientAt hk) hev hm
    refine ⟨s', hs', fun l hl ↦ ?_⟩
    have hcl := hclean l hl
    exact ⟨hcl.eventMask, hcl.pendingConnections, hcl.connected⟩

/-- The call `e` of the `close` of client 101 is answered with `b`, and nothing else happens. -/
def closeAnswered (e : Call) (b : e.Answer) (w : World) : World :=
  (w.1, .answer 101 (.close 0) e b w.1 :: w.2)

/-- The `close` of client 101 updates its slot. -/
def closeWritten (f : SocketResources → SocketResources) (w : World) : World :=
  (w.1.updateSocket 0 f, .own 101 (.close 0) w.1 (w.1.updateSocket 0 f) :: w.2)

/-- Client 101 closes its socket. picoTCP has closed it, and the slot is about to be freed. -/
def sampleClosing : World :=
  closeAnswered .notifyMainLoop () (closeAnswered (.unlock .stackTS) ()
    (closeWritten (SocketResources.clear {.close})
      (closeWritten (SocketResources.setError .success) (closeAnswered .picoErr .noerr
        (closeAnswered (.pico (.close (some 7))) (0 : ℤ) (closeAnswered (.lock .stackTS) ()
          (sampleCreated.1, .begin 101 (.close 0) sampleCreated.1 :: sampleCreated.2)))))))

theorem callAt_sampleClosing :
    Prog.CallAt (rpcEnv .free 101 (.close 0)) (rpc samplePlatform 101 (.close 0))
      (sampleCreated.1, .begin 101 (.close 0) sampleCreated.1 :: sampleCreated.2)
      (.lock .socketCB) sampleClosing := by
  refine Or.inr ⟨(), _, ⟨_, interference_refl _ _ _, rfl⟩, ?_⟩
  refine Or.inr ⟨(0 : ℤ), _, ⟨_, interference_refl _ (.pico _) _, rfl⟩, ?_⟩
  refine Or.inr ⟨.noerr, _, ⟨_, interference_refl _ _ _, rfl⟩, ?_⟩
  refine Or.inr ⟨(), _, ⟨_, interference_refl _ _ _, rfl⟩, ?_⟩
  refine Or.inr ⟨(), _, ⟨_, interference_refl _ _ _, rfl⟩, ?_⟩
  exact Or.inl ⟨rfl, rfl⟩

/-- A callback for the socket of slot 0, which runs before the slot is freed, does no harm. -/
theorem close_safe_iff_sampleClosing :
    ∃ s', sampleClosing.1.callbackWithRelease 0 0 .afterFlag (announce 7 {.rd}) = some s' ∧
      (s'.sockets 0).eventMask = ∅ := by
  have hc : sampleCreated.1.IsClient 101 := ⟨0, rfl⟩
  have hev : (announce 7 {.rd}).socket ≠ none := by simp [announce]
  obtain ⟨i, k, hi, -, hk, hiff⟩ := close_safe_iff (m := .afterFlag)
    (reachable_sampleCreated .free) hc
    callAt_sampleClosing .refl .refl hev
  obtain rfl : 0 = i := Int.ofNat_inj.1 hi
  obtain rfl : 0 = k := Option.some.inj hk
  obtain ⟨s', hs', hclean⟩ := hiff.2 (by simp)
  have hfree : (s'.sockets 0).status = .free := by
    obtain rfl := Option.some.inj hs'
    rfl
  exact ⟨s', hs', (hclean 0 hfree).1⟩

/-- A callback that has found slot 0 before it is freed follows a `NULL` pointer. -/
theorem close_unsafe_sampleClosing :
    ¬ ∀ (pl : Platform) (sched : Schedule) (cfg : Config) (c : ℤ) (s : NetworkStack) (h : History)
      (handle : ℤ) (w : World) (i k : ℕ) (m : Moment) (ev : PicoEvent),
      Reachable pl sched cfg (s, h) → s.IsClient c →
      Prog.CallAt (rpcEnv sched c (.close handle)) (rpc pl c (.close handle))
        (s, .begin c (.close handle) s :: h) (.lock .socketCB) w →
      ev.socket ≠ none → handle = i → w.1.IsClientAt c k →
      ∃ s', w.1.callbackWithRelease k i m ev = some s' := by
  intro hall
  obtain ⟨s', hs'⟩ := hall samplePlatform .free (sampleConfig 5) 101 _ _ 0 sampleClosing 0 0
    .beforeUpdate (announce 7 {.rd}) (reachable_sampleCreated .free) ⟨0, rfl⟩ callAt_sampleClosing
    (by simp [announce]) rfl rfl
  have hnone : sampleClosing.1.callbackWithRelease 0 0 .beforeUpdate (announce 7 {.rd}) = none :=
    rfl
  rw [hnone] at hs'
  exact absurd hs' (by simp)

end NetworkStackPicoTcp
