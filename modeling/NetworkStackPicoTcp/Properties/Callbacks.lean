import NetworkStackPicoTcp.Invariants.Frame
import NetworkStackPicoTcp.Properties.HandleTable

/-!
# The order of the callbacks

Within a tick picoTCP decides which socket's callback runs when. Each slot takes note of the events
of its own socket, one after the other, and who is to be notified does not depend on an order at all
(`heard_of_callbacks`). So two ticks that tell every socket the same, in the same order, leave the
same tables and signal the same clients, however they mix the sockets (`tick_confluent`).
-/

namespace NetworkStackPicoTcp

variable {s s' : NetworkStack} {w w' w₁ w₂ : World} {ev : PicoEvent} {evs evs' : List PicoEvent}
  {i k : ℕ}

/-- The event that a callback is about. -/
def Entry.fired : Entry → Option PicoEvent
  | .event ev _ _ => some ev
  | _ => none

/-- The events of the callbacks, the first one first. -/
def fired (h : History) : List PicoEvent := (h.filterMap Entry.fired).reverse

/-- What picoTCP tells the socket `p`, in the order of the callbacks. -/
def toldTo (p : PicoPtr) (evs : List PicoEvent) : List PicoEvent :=
  evs.filter fun ev ↦ ev.socket = p

theorem fired_cons_event {h : History} : fired (.event ev s s' :: h) = fired h ++ [ev] :=
  List.reverse_cons

theorem toldTo_append {p : PicoPtr} : toldTo p (evs ++ evs') = toldTo p evs ++ toldTo p evs' :=
  List.filter_append ..

theorem mem_toldTo_self : ev ∈ toldTo ev.socket evs ↔ ev ∈ evs := by
  simp [toldTo]

namespace NetworkStack

theorem eq_of_tables (hstate : s.currentState = s'.currentState)
    (hn : s.numberOfSockets = s'.numberOfSockets)
    (hm : s.numberOfClients = s'.numberOfClients) (hsockets : ∀ i, s.sockets i = s'.sockets i)
    (hclients : ∀ k, s.clients k = s'.clients k) : s = s' := by
  cases s
  cases s'
  obtain rfl := funext hsockets
  obtain rfl := funext hclients
  obtain rfl := hstate
  obtain rfl := hn
  obtain rfl := hm
  rfl

/-- The event is noted in slot `i`. -/
def concerns (s : NetworkStack) (i : ℕ) (ev : PicoEvent) : Bool :=
  s.getHandleFromImplementationSocket ev.socket = some i

/-- The client that the event flags. -/
def flagged (s : NetworkStack) (ev : PicoEvent) : Option ℕ :=
  (s.getHandleFromImplementationSocket ev.socket).bind fun i ↦
    s.getClientIndexFromClientId (s.sockets i).clientId

/-- The tables when the callbacks of the events have run: each slot has noted its events, and the
owner of each of these slots is flagged. -/
def heard (s : NetworkStack) (evs : List PicoEvent) : NetworkStack :=
  { s with
    sockets := fun i ↦ (evs.filter (s.concerns i)).foldl (fun r ev ↦ r.recordEvent ev) (s.sockets i)
    clients :=
      fun k ↦ if ∃ ev ∈ evs, s.flagged ev = some k then (s.clients k).flag else s.clients k }

@[simp] theorem heard_sockets : (s.heard evs).sockets i =
    (evs.filter (s.concerns i)).foldl (fun r ev ↦ r.recordEvent ev) (s.sockets i) := rfl

theorem heard_clients : (s.heard evs).clients k =
    if ∃ ev ∈ evs, s.flagged ev = some k then (s.clients k).flag else s.clients k := rfl

theorem heard_nil : s.heard [] = s := by
  have hclients :
      (fun k ↦ if ∃ ev ∈ ([] : List PicoEvent), s.flagged ev = some k then (s.clients k).flag
        else s.clients k) = s.clients := by
    funext k
    exact if_neg (by simp)
  rw [heard, hclients]
  rfl

theorem slotFrame_foldl (evs : List PicoEvent) (r : SocketResources) :
    SlotFrame r (evs.foldl (fun r ev ↦ r.recordEvent ev) r) := by
  induction evs generalizing r with
  | nil => exact .refl r
  | cons ev evs ih => exact (SlotFrame.recordEvent ev r).trans (ih _)

/-- Callbacks change nothing that callbacks look up. -/
theorem sameFrame_heard (s : NetworkStack) (evs : List PicoEvent) : SameFrame s (s.heard evs) where
  currentState := rfl
  numberOfSockets := rfl
  numberOfClients := rfl
  slot _ := slotFrame_foldl _ _
  client k := by
    rw [heard_clients]
    split_ifs <;> rfl

/-- What the callbacks look up is as before. -/
theorem getHandleFromImplementationSocket_heard (p : PicoPtr) :
    (s.heard evs).getHandleFromImplementationSocket p = s.getHandleFromImplementationSocket p := by
  simp only [getHandleFromImplementationSocket, (sameFrame_heard s evs).numberOfSockets,
    ((sameFrame_heard s evs).slot _).implementationSocket]

theorem heard_concat_sockets (j : ℕ) : (s.heard (evs ++ [ev])).sockets j =
    if s.getHandleFromImplementationSocket ev.socket = some j then
      ((s.heard evs).sockets j).recordEvent ev
    else (s.heard evs).sockets j := by
  rw [heard_sockets, heard_sockets, List.filter_append, List.foldl_append]
  by_cases hj : s.getHandleFromImplementationSocket ev.socket = some j
  · have hconcerns : s.concerns j ev = true := decide_eq_true hj
    rw [if_pos hj, List.filter_cons_of_pos hconcerns]
    rfl
  · have hconcerns : ¬ s.concerns j ev = true := fun h ↦ hj (of_decide_eq_true h)
    rw [if_neg hj, List.filter_cons_of_neg hconcerns]
    rfl

theorem heard_concat_clients (l : ℕ) : (s.heard (evs ++ [ev])).clients l =
    if s.flagged ev = some l then ((s.heard evs).clients l).flag else (s.heard evs).clients l := by
  rw [heard_clients, heard_clients]
  by_cases hev : s.flagged ev = some l
  · rw [if_pos hev, if_pos ⟨ev, by simp, hev⟩]
    split_ifs <;> rfl
  · have hiff : (∃ ev' ∈ evs ++ [ev], s.flagged ev' = some l) ↔
        ∃ ev' ∈ evs, s.flagged ev' = some l := by
      simp only [List.mem_append, List.mem_singleton, or_and_right, exists_or, exists_eq_left, hev,
        or_false]
    rw [if_neg hev]
    simp only [hiff]

/-- The callback of one more event. -/
theorem heard_concat (h : (s.heard evs).handlePicoSocketEvent ev = some s') :
    s' = s.heard (evs ++ [ev]) := by
  have hf := sameFrame_heard s evs
  rcases handlePicoSocketEvent_cases h with ⟨hnone, rfl⟩ | ⟨i, k, hi, hk, rfl⟩
  · rw [getHandleFromImplementationSocket_heard] at hnone
    have hflag : s.flagged ev = none := by rw [flagged, hnone, Option.bind_none]
    refine eq_of_tables rfl rfl rfl (fun j ↦ ?_) fun l ↦ ?_
    · rw [heard_concat_sockets, hnone, if_neg (by simp)]
    · rw [heard_concat_clients, hflag, if_neg (by simp)]
  · rw [getHandleFromImplementationSocket_heard] at hi
    have hclient : s.getClientIndexFromClientId (s.sockets i).clientId = some k := by
      rw [← hf.getClientIndexFromClientId, ← (hf.slot i).clientId]
      exact hk
    have hflag : s.flagged ev = some k := by rw [flagged, hi, Option.bind_some, hclient]
    refine eq_of_tables rfl rfl rfl (fun j ↦ ?_) fun l ↦ ?_
    · rw [heard_concat_sockets, hi, updateClient_sockets, updateSocket_sockets]
      by_cases hij : j = i
      · rw [if_pos hij, if_pos (by rw [hij]), hij]
      · rw [if_neg hij, if_neg fun h ↦ hij (Option.some.inj h).symm]
    · rw [heard_concat_clients, hflag, updateClient_clients]
      by_cases hkl : l = k
      · rw [if_pos hkl, if_pos (by rw [hkl]), hkl]
        rfl
      · rw [if_neg hkl, if_neg fun h ↦ hkl (Option.some.inj h).symm]
        rfl

/-- What the callbacks leave depends on what each socket is told. -/
theorem heard_congr (hsame : ∀ p, toldTo p evs = toldTo p evs') : s.heard evs = s.heard evs' := by
  have hmem : ∀ ev, ev ∈ evs ↔ ev ∈ evs' := by
    intro ev
    rw [← mem_toldTo_self, hsame, mem_toldTo_self]
  have hnoted : ∀ (i : ℕ) (evs : List PicoEvent),
      evs.filter (s.concerns i) = (toldTo (s.sockets i).implementationSocket evs).filter
        (s.concerns i) := by
    intro i evs
    rw [toldTo, List.filter_filter]
    refine List.filter_congr fun ev _ ↦ ?_
    by_cases hev : s.concerns i ev = true
    · have hsock := (getHandleFromImplementationSocket_eq_some_iff.1 (of_decide_eq_true hev)).1
      simp [hev, hsock]
    · simp [hev]
  refine eq_of_tables rfl rfl rfl (fun i ↦ ?_) fun k ↦ ?_
  · rw [heard_sockets, heard_sockets, hnoted i evs, hnoted i evs', hsame]
  · rw [heard_clients, heard_clients]
    simp only [hmem]

end NetworkStack

/-! ### A tick -/

/-- **What the callbacks of a tick add up to.** -/
theorem heard_of_callbacks (h : Callbacks w w') :
    ∃ evs, fired w'.2 = fired w.2 ++ evs ∧ w'.1 = w.1.heard evs := by
  induction h with
  | refl => exact ⟨[], (List.append_nil _).symm, NetworkStack.heard_nil.symm⟩
  | tail _ hstep ih =>
    obtain ⟨evs, hfired, htables⟩ := ih
    obtain ⟨ev, -, hev, hhist⟩ := hstep
    rw [htables] at hev
    refine ⟨evs ++ [ev], ?_, NetworkStack.heard_concat hev⟩
    rw [hhist, fired_cons_event, hfired, List.append_assoc]

/-- **The order of callbacks of different sockets does not matter.** Two iterations of the main loop
in which picoTCP tells every socket the same, in the same order, leave the same tables, and their
notification passes run on the same tables, so they signal the same clients. -/
theorem tick_confluent (h₁ : MainLoopIteration w w₁) (h₂ : MainLoopIteration w w₂)
    (hsame : ∀ p, toldTo p (fired w₁.2) = toldTo p (fired w₂.2)) :
    w₁.1 = w₂.1 ∧ w₁.2.head? = w₂.2.head? := by
  obtain ⟨u₁, hcb₁, rfl⟩ := h₁
  obtain ⟨u₂, hcb₂, rfl⟩ := h₂
  obtain ⟨evs₁, hfired₁, htables₁⟩ := heard_of_callbacks hcb₁
  obtain ⟨evs₂, hfired₂, htables₂⟩ := heard_of_callbacks hcb₂
  have hevs : ∀ p, toldTo p evs₁ = toldTo p evs₂ := by
    intro p
    have hp : toldTo p (fired u₁.2) = toldTo p (fired u₂.2) := hsame p
    rw [hfired₁, hfired₂, toldTo_append, toldTo_append] at hp
    exact List.append_cancel_left hp
  have htables : u₁.1 = u₂.1 := by rw [htables₁, htables₂, NetworkStack.heard_congr hevs]
  rw [htables]
  exact ⟨rfl, rfl⟩

/-- Sockets 7 and 8 of client 101 have handles. -/
def sampleTwoSockets : World :=
  served samplePlatform 101 (.create .inet .stream (some 0)) (obliging (some 8) none) (fun _ w ↦ w)
    sampleCreated

/-- Socket 7 can be read and then written, and socket 8 can be read; the tables do not tell what was
said first. -/
theorem tick_confluent_sampleTwoSockets :
    (iterate [announce 7 {.rd}, announce 7 {.wr}, announce 8 {.rd}] sampleTwoSockets).1 =
      (iterate [announce 8 {.rd}, announce 7 {.rd}, announce 7 {.wr}] sampleTwoSockets).1 := by
  have hticks : ∀ evs : List PicoEvent, (∀ ev ∈ evs, ev.socket ≠ none) →
      MainLoopIteration sampleTwoSockets (iterate evs sampleTwoSockets) :=
        fun _ ↦ mainLoopIteration_iterate
  refine (tick_confluent (hticks _ (by simp [announce])) (hticks _ (by simp [announce]))
    fun p ↦ ?_).1
  show toldTo p
    (fired sampleTwoSockets.2 ++ [announce 7 {.rd}, announce 7 {.wr}, announce 8 {.rd}]) =
    toldTo p (fired sampleTwoSockets.2 ++ [announce 8 {.rd}, announce 7 {.rd}, announce 7 {.wr}])
  rw [toldTo_append, toldTo_append]
  refine congrArg _ ?_
  by_cases hp : p = some 8
  · subst hp
    rfl
  · have hne : ¬ (announce 8 {.rd}).socket = p := fun h ↦ hp h.symm
    simp only [toldTo, List.filter_cons, hne, decide_false, List.filter_nil, Bool.false_eq_true,
      if_false]

end NetworkStackPicoTcp
