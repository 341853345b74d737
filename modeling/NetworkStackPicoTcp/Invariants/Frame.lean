import NetworkStackPicoTcp.Model.System

/-!
# What the control thread leaves alone

Callbacks and notification passes run while an RPC is under way, so an RPC may rely only on what
they do not change. `SameFrame` collects it: identity, ownership and type of every slot, and
everything but the notification flag of every client. Masks, pending counts, errors and the
`connected` flag may move (the flag only up).
-/

namespace NetworkStackPicoTcp

/-- Two records of one slot agree on everything that callbacks leave alone. -/
structure SlotFrame (r r' : SocketResources) : Prop where
  status : r'.status = r.status
  parentHandle : r'.parentHandle = r.parentHandle
  clientId : r'.clientId = r.clientId
  socketType : r'.socketType = r.socketType
  bufIo : r'.bufIo = r.bufIo
  buf : r'.buf = r.buf
  implementationSocket : r'.implementationSocket = r.implementationSocket
  connected : r.connected = true → r'.connected = true

namespace SlotFrame

variable {r r' r'' : SocketResources}

theorem refl (r : SocketResources) : SlotFrame r r := ⟨rfl, rfl, rfl, rfl, rfl, rfl, rfl, id⟩

theorem trans (h : SlotFrame r r') (h' : SlotFrame r' r'') : SlotFrame r r'' where
  status := h'.status.trans h.status
  parentHandle := h'.parentHandle.trans h.parentHandle
  clientId := h'.clientId.trans h.clientId
  socketType := h'.socketType.trans h.socketType
  bufIo := h'.bufIo.trans h.bufIo
  buf := h'.buf.trans h.buf
  implementationSocket := h'.implementationSocket.trans h.implementationSocket
  connected := h'.connected ∘ h.connected

theorem recordEvent (ev : PicoEvent) (r : SocketResources) : SlotFrame r (r.recordEvent ev) := by
  constructor <;> simp +contextual

theorem setError (err : OsError) (r : SocketResources) : SlotFrame r (r.setError err) :=
  ⟨rfl, rfl, rfl, rfl, rfl, rfl, rfl, id⟩

theorem clear (bits : Finset OsSockEv) (r : SocketResources) : SlotFrame r (r.clear bits) :=
  ⟨rfl, rfl, rfl, rfl, rfl, rfl, rfl, id⟩

theorem dropPending (r : SocketResources) : SlotFrame r r.dropPending := by
  unfold SocketResources.dropPending
  split_ifs
  · exact ⟨rfl, rfl, rfl, rfl, rfl, rfl, rfl, id⟩
  · exact refl r

theorem acceptPending (r : SocketResources) : SlotFrame r r.acceptPending := by
  unfold SocketResources.acceptPending
  split_ifs
  · exact (dropPending r).trans (clear _ _)
  · exact dropPending r

end SlotFrame

/-- Counting pending connections does not mark a slot as connected. -/
theorem SocketResources.connected_acceptPending (r : SocketResources) :
    r.acceptPending.connected = r.connected := by
  have hdrop : r.dropPending.connected = r.connected := by
    unfold SocketResources.dropPending
    split_ifs <;> rfl
  unfold SocketResources.acceptPending
  split_ifs
  · exact hdrop
  · exact hdrop

/-- The tables agree on everything that callbacks and notification passes leave alone. -/
structure SameFrame (s s' : NetworkStack) : Prop where
  currentState : s'.currentState = s.currentState
  numberOfSockets : s'.numberOfSockets = s.numberOfSockets
  numberOfClients : s'.numberOfClients = s.numberOfClients
  slot : ∀ i, SlotFrame (s.sockets i) (s'.sockets i)
  client : ∀ k, s'.clients k =
    { s.clients k with needsToBeNotified := (s'.clients k).needsToBeNotified }

namespace SameFrame

variable {s s' s'' : NetworkStack}

theorem refl (s : NetworkStack) : SameFrame s s :=
  ⟨rfl, rfl, rfl, fun _ ↦ SlotFrame.refl _, fun _ ↦ rfl⟩

theorem trans (h : SameFrame s s') (h' : SameFrame s' s'') : SameFrame s s'' where
  currentState := h'.currentState.trans h.currentState
  numberOfSockets := h'.numberOfSockets.trans h.numberOfSockets
  numberOfClients := h'.numberOfClients.trans h.numberOfClients
  slot i := (h.slot i).trans (h'.slot i)
  client k := by rw [h'.client k, h.client k]

/-- An update of one slot that keeps the slot's frame keeps the frame. -/
theorem updateSocket {i : ℕ} {f : SocketResources → SocketResources}
    (h : SlotFrame (s.sockets i) (f (s.sockets i))) : SameFrame s (s.updateSocket i f) := by
  refine ⟨rfl, rfl, rfl, fun j ↦ ?_, fun _ ↦ rfl⟩
  rw [NetworkStack.updateSocket_sockets]
  split_ifs with hj
  · rw [hj]; exact h
  · exact SlotFrame.refl _

/-- An update of a client's notification flag keeps the frame. -/
theorem updateClient (k : ℕ) (b : Bool) :
    SameFrame s (s.updateClient k fun cl ↦ { cl with needsToBeNotified := b }) := by
  refine ⟨rfl, rfl, rfl, fun _ ↦ SlotFrame.refl _, fun l ↦ ?_⟩
  rw [NetworkStack.updateClient_clients]
  split_ifs with hl
  · rw [hl]
  · rfl

/-! ### What follows for clients and lookups -/

theorem client_clientId (h : SameFrame s s') (k : ℕ) :
    (s'.clients k).clientId = (s.clients k).clientId := by rw [h.client k]

theorem client_inUse (h : SameFrame s s') (k : ℕ) :
    (s'.clients k).inUse = (s.clients k).inUse := by rw [h.client k]

theorem client_socketQuota (h : SameFrame s s') (k : ℕ) :
    (s'.clients k).socketQuota = (s.clients k).socketQuota := by rw [h.client k]

theorem client_currentSocketsInUse (h : SameFrame s s') (k : ℕ) :
    (s'.clients k).currentSocketsInUse = (s.clients k).currentSocketsInUse := by rw [h.client k]

theorem client_head (h : SameFrame s s') (k : ℕ) :
    (s'.clients k).head = (s.clients k).head := by rw [h.client k]

theorem client_tail (h : SameFrame s s') (k : ℕ) :
    (s'.clients k).tail = (s.clients k).tail := by rw [h.client k]

theorem getClientIndexFromClientId (h : SameFrame s s') (c : ℤ) :
    s'.getClientIndexFromClientId c = s.getClientIndexFromClientId c := by
  simp only [NetworkStack.getClientIndexFromClientId, h.numberOfClients, h.client_clientId,
    h.client_inUse]

theorem firstFree (h : SameFrame s s') : s'.firstFree = s.firstFree := by
  simp only [NetworkStack.firstFree, h.numberOfSockets, (h.slot _).status]

theorem isClientAt (h : SameFrame s s') {c : ℤ} {k : ℕ} (hk : s.IsClientAt c k) :
    s'.IsClientAt c k := (h.getClientIndexFromClientId c).trans hk

theorem owns (h : SameFrame s s') {c : ℤ} {i : ℕ} (hi : s.Owns c i) : s'.Owns c i :=
  ⟨h.numberOfSockets ▸ hi.1, (h.slot i).clientId.trans hi.2⟩

end SameFrame

/-! ### Callbacks -/

namespace NetworkStack

variable {s s' : NetworkStack} {ev : PicoEvent}

/-- The callback in closed form, its two lookups visible. -/
theorem handlePicoSocketEvent_eq :
    s.handlePicoSocketEvent ev =
      match s.getHandleFromImplementationSocket ev.socket with
      | none => some s
      | some i => (s.getClientIndexFromClientId (s.sockets i).clientId).map fun k ↦
          (s.updateSocket i (SocketResources.recordEvent ev)).updateClient k Client.flag := by
  unfold handlePicoSocketEvent
  cases s.getHandleFromImplementationSocket ev.socket with
  | none => rfl
  | some i =>
    simp only [flagOwner, getClientFromClientId_eq_index, updateSocket_sockets_self,
      SocketResources.recordEvent_clientId, updateSocket_getClientIndexFromClientId]
    cases s.getClientIndexFromClientId (s.sockets i).clientId <;> rfl

/-- **What a callback does**: nothing when the socket has no handle; otherwise it updates the slot
that the lookup finds and flags that slot's owner. -/
theorem handlePicoSocketEvent_cases (h : s.handlePicoSocketEvent ev = some s') :
    (s.getHandleFromImplementationSocket ev.socket = none ∧ s' = s) ∨
      ∃ i k, s.getHandleFromImplementationSocket ev.socket = some i ∧
        s.IsClientAt (s.sockets i).clientId k ∧
        s' = (s.updateSocket i (SocketResources.recordEvent ev)).updateClient k Client.flag := by
  rw [handlePicoSocketEvent_eq] at h
  cases hl : s.getHandleFromImplementationSocket ev.socket with
  | none =>
    rw [hl] at h
    exact Or.inl ⟨rfl, (Option.some.inj h).symm⟩
  | some i =>
    rw [hl] at h
    obtain ⟨k, hk, rfl⟩ := Option.map_eq_some_iff.1 h
    exact Or.inr ⟨i, k, rfl, hk, rfl⟩

/-- A callback follows a `NULL` pointer only when the owner of the slot it found is not a client. -/
theorem handlePicoSocketEvent_isSome
    (h : ∀ i, s.getHandleFromImplementationSocket ev.socket = some i →
      s.IsClient (s.sockets i).clientId) : ∃ s', s.handlePicoSocketEvent ev = some s' := by
  rw [handlePicoSocketEvent_eq]
  cases hl : s.getHandleFromImplementationSocket ev.socket with
  | none => exact ⟨s, rfl⟩
  | some i =>
    obtain ⟨k, hk⟩ := h i hl
    exact ⟨_, Option.map_eq_some_iff.2 ⟨k, hk, rfl⟩⟩

theorem sameFrame_handlePicoSocketEvent (h : s.handlePicoSocketEvent ev = some s') :
    SameFrame s s' := by
  obtain ⟨-, rfl⟩ | ⟨i, k, -, -, rfl⟩ := handlePicoSocketEvent_cases h
  · exact SameFrame.refl _
  · exact (SameFrame.updateSocket (SlotFrame.recordEvent ev _)).trans
      (SameFrame.updateClient k true)

/-! ### The notification pass -/

theorem sameFrame_notifyClient (st : NetworkStack × List ℕ) (k : ℕ) :
    SameFrame st.1 (notifyClient st k).1 := by
  unfold notifyClient
  cases st.1.isDue k
  · exact SameFrame.refl _
  · exact SameFrame.updateClient k false

theorem sockets_notifyClient (st : NetworkStack × List ℕ) (k : ℕ) :
    (notifyClient st k).1.sockets = st.1.sockets := by
  unfold notifyClient
  split_ifs <;> rfl

theorem sameFrame_foldl_notifyClient (l : List ℕ) (st : NetworkStack × List ℕ) :
    SameFrame st.1 (l.foldl notifyClient st).1 := by
  induction l generalizing st with
  | nil => exact SameFrame.refl _
  | cons k l ih => exact (sameFrame_notifyClient st k).trans (ih _)

theorem sockets_foldl_notifyClient (l : List ℕ) (st : NetworkStack × List ℕ) :
    (l.foldl notifyClient st).1.sockets = st.1.sockets := by
  induction l generalizing st with
  | nil => rfl
  | cons k l ih => exact (ih _).trans (sockets_notifyClient st k)

theorem sameFrame_notify : SameFrame s s.notifyClientsAboutPendingEvents.1 :=
  sameFrame_foldl_notifyClient _ (s, [])

/-- The notification pass leaves the socket table alone. -/
theorem sockets_notify : s.notifyClientsAboutPendingEvents.1.sockets = s.sockets :=
  sockets_foldl_notifyClient _ (s, [])

end NetworkStack

end NetworkStackPicoTcp
