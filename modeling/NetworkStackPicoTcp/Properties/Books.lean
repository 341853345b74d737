import NetworkStackPicoTcp.Invariants.Steps

/-!
# What the clients are told

The clients see of the handle table only the replies to their RPCs. Read as a ledger, these replies
are those of a correct allocator (`Ledger.Legal`), and the table is what they say
(`Component.table_told`): a client has a slot exactly when a `create` or an `accept` has returned it
to this client and no `close` of the client has given it back since. By the same ledger a reply is
true: on a handle that the client does not have it is a refusal, and on one that it has it is never
`OS_ERROR_INVALID_HANDLE` (`Component.replies_true`).

This holds of every order in which the threads run their statements. It rests on the RPC thread
being the only one that moves the books, and on picoTCP setting `pico_err` when it returns no
socket.
-/

namespace NetworkStackPicoTcp

namespace Component

open Trace (Since Always)

variable {pl : Platform} {cfg : NetworkStackPicoTcp.Config} {x : Config pl} {c : ℤ} {r : RpcCall}

/-- The client has been given the slot and has not given it back since. -/
def Has (c : ℤ) (i : ℕ) (log : List Entry) : Prop :=
  Since (fun a ↦ a ≠ .takeBack i c) (fun a ↦ a = .give i c) (acts log)

/-- **The handle table is what the clients have been told.** Between two RPCs, the replies so far
are the ledger of a correct allocator, a client owns the slots that it has by this ledger, and its
counter counts them and stays within its quota. -/
theorem table_told (h : Reachable pl cfg x) (hidle : x.task .rpc = none) :
    Ledger.Legal (Finset.range cfg.numberOfSockets) cfg.quotaOf (acts x.world.2.log) ∧
    (∀ c i, cfg.init.IsClient c → i < cfg.numberOfSockets →
      (x.world.1.Owns c i ↔ Has c i x.world.2.log)) ∧
    ∀ c k, cfg.init.IsClientAt c k →
      (x.world.1.clients k).currentSocketsInUse =
        ((QuotaTable.held (Finset.range cfg.numberOfSockets) (Ledger.owner (acts x.world.2.log))
          c).card : ℤ) ∧
      (x.world.1.clients k).currentSocketsInUse ≤ max 0 (cfg.quotaOf c) := by
  have hrpc : RpcIdle pl cfg x.world := h.holds.idle hidle
  have hn : x.world.1.numberOfSockets = cfg.numberOfSockets := hrpc.books.setup.numberOfSockets
  refine ⟨hrpc.legal, fun c i hc hi ↦ ?_, fun c k hk ↦ ?_⟩
  · obtain ⟨k, hk⟩ := hc
    rw [← hn] at hi
    rw [Has, ← Ledger.owner_eq_some_iff hrpc.legal]
    exact (hrpc.books.owner_eq_some_iff ((hrpc.books.setup.isClientAt c k).2 hk) hi).symm
  · have hcounter := hrpc.books.accounting.counter c k ((hrpc.books.setup.isClientAt c k).2 hk)
    rw [NetworkStack.held, hrpc.books.owner, hn] at hcounter
    exact ⟨hcounter, hcounter ▸ Ledger.card_held_le hrpc.legal⟩

/-- Client 101 has slot 0, which a `create` has just returned to it, and owns it. -/
theorem table_told_create :
    Has 101 0 sampleOpened.world.2.log ∧ sampleOpened.world.1.Owns 101 0 := by
  have hhas : Has 101 0 sampleOpened.world.2.log := Or.inl rfl
  exact ⟨hhas, ((table_told reachable_sampleOpened rfl).2.1 101 0 ⟨0, rfl⟩ (by decide)).2 hhas⟩

/-- Also while an RPC is under way, the replies so far are the ledger of a correct allocator and
true of their times: only the return of an RPC adds one. -/
theorem told_of_reachable (h : Reachable pl cfg x) :
    Ledger.Legal (Finset.range cfg.numberOfSockets) cfg.quotaOf (acts x.world.2.log) ∧
      Always (Truthful pl) x.world.2.log := by
  induction h with
  | refl => exact ⟨trivial, trivial⟩
  | tail hy hs ih =>
    rcases (effect_of_step hs).log with heq | ⟨e, he, hreply⟩
    · rw [heq]
      exact ih
    · by_cases hr : e.isReply = true
      · have hidle : RpcIdle pl cfg _ := (Reachable.holds (hy.tail hs)).idle (hreply hr)
        exact ⟨hidle.legal, hidle.truthful⟩
      · have hno : e.isReply = false := Bool.eq_false_of_not_eq_true hr
        rw [he, acts_cons, act_of_not_isReply hno]
        exact ⟨ih.1, truthful_of_not_isReply hno, ih.2⟩

/-- **Replies are true.** In every log that a run can leave, the reply to an RPC on a handle that
the client has at that time is not `OS_ERROR_INVALID_HANDLE`, if the platform's checks have other
codes; on any other handle the RPC is refused without anything having been asked of picoTCP or of
anybody else. -/
theorem replies_true (h : Reachable pl cfg x) {later earlier : List Entry} {a : Reply} {handle : ℤ}
    (hlog : x.world.2.log = later ++ .reply c r a :: earlier) (hr : r.handle = some handle) :
    (pl.PlainErrors → ∀ i : ℕ, handle = i → Has c i earlier → a.err ≠ .invalidHandle) ∧
      ((∀ i : ℕ, handle = i → ¬ Has c i earlier) →
        ∃ before, Refused r (.begin c r :: before) a earlier) := by
  obtain ⟨hlegal, htruthful⟩ := told_of_reachable h
  -- what was told before the reply is a legal ledger as well
  have hlegal : Ledger.Legal (Finset.range cfg.numberOfSockets) cfg.quotaOf (acts earlier) := by
    have hall := hlegal
    rw [hlog, acts, List.filterMap_append] at hall
    have hrest : Ledger.Legal _ _ (acts (.reply c r a :: earlier)) := Always.of_append hall
    rw [acts_cons] at hrest
    exact Always.of_append hrest
  have htrue : Truthful pl (.reply c r a) earlier := by
    rw [hlog] at htruthful
    exact htruthful.of_append.1
  refine ⟨fun hpl i hi hhas ↦ ?_, fun hno ↦ htrue.2 handle hr fun i hi ho ↦ ?_⟩
  · subst hi
    exact htrue.1 i hr ((Ledger.owner_eq_some_iff hlegal).2 hhas) hpl
  · exact hno i hi ((Ledger.owner_eq_some_iff hlegal).1 ho)

/-- Client 101 has then asked for a `listen` on handle 1, which nobody has. -/
def sampleRefused : Config samplePlatform :=
  served samplePlatform 101 (.listen 1 5) (obliging none none) sampleOpened

theorem replies_true_listen :
    ∃ before, Refused (.listen 1 5) (.begin 101 (.listen 1 5) :: before) ⟨.networkProto, {}⟩
      sampleRefused.world.2.log.tail := by
  have hreach : Reachable samplePlatform (sampleConfig 2) sampleRefused :=
    reachable_served reachable_sampleOpened rfl ⟨0, rfl⟩
  have hlog : sampleRefused.world.2.log =
      [] ++ .reply 101 (.listen 1 5) ⟨.networkProto, {}⟩ :: sampleRefused.world.2.log.tail := rfl
  refine (replies_true hreach hlog rfl).2 fun i hi hhas ↦ ?_
  obtain rfl : i = 1 := by
    have : (1 : ℤ) = i := hi
    omega
  -- the one slot that has been given is slot 0
  have hgive : Has 101 1 sampleRefused.world.2.log.tail ↔
      Since (fun a ↦ a ≠ .takeBack 1 101) (fun a ↦ a = .give 1 101) [Ledger.Act.give 0 (101 : ℤ)] :=
        Iff.rfl
  have hgiven := hgive.1 hhas
  simp at hgiven

end Component

end NetworkStackPicoTcp
