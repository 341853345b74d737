import NetworkStackPicoTcp.Invariants.Reachable
import NetworkStackPicoTcp.Invariants.Terms

/-!
# The RPC thread among the others

The functions of the RPC thread are followed statement by statement while the other threads run.
Between two of its writes the tables move only within the frame, so what a function does can be said
of the tables that its last write left (`Component.At`): a write that respects the frame
(`SameFrame.Respected`) takes them to the tables that it would have made of them, whatever has moved
meanwhile.

This module has `reserve_handle`, `free_handle` and `set_parent_handle`, and the functions of the
picoTCP wrapper. An operation on an open socket leaves the books alone and announces what it hands
over (`Component.Done`).
-/

namespace NetworkStackPicoTcp

/-- A socket's quota, by the badge of its client. -/
def Config.quotaOf (cfg : Config) (c : ℤ) : ℤ :=
  match cfg.init.getClientIndexFromClientId c with
  | none => 0
  | some k => (cfg.client k).socketQuota

theorem NetworkStack.owner_of_sameBooks {s s' : NetworkStack} (h : SameBooks s s') :
    s'.owner = s.owner := by
  funext i
  rw [owner, owner, h.status, h.clientId]

theorem AtRest.frame {s s' : NetworkStack} (h : AtRest s) (hf : SameFrame s s') : AtRest s' := by
  intro k
  rw [hf.client_head, hf.client_tail, hf.numberOfSockets]
  exact h k

/-- The macros of the platform do not return the code of a bad handle. -/
structure Platform.PlainErrors (pl : Platform) : Prop where
  nullPtr : pl.nullPtrError ≠ .invalidHandle
  unterminated : pl.unterminatedError ≠ .invalidHandle
  dataportSize : pl.dataportSizeError ≠ .invalidHandle

/-! ### Updates that respect the frame -/

namespace SameFrame

/-- The update makes tables with the same frame out of tables with the same frame. -/
def Respected (f : NetworkStack → NetworkStack) : Prop :=
  ∀ ⦃s s'⦄, SameFrame s s' → SameFrame (f s) (f s')

variable {f g : NetworkStack → NetworkStack} {i j k : ℕ} {c : ℤ} {p : PicoPtr}

theorem Respected.comp (hg : Respected g) (hf : Respected f) : Respected fun s ↦ g (f s) :=
  fun _ _ h ↦ hg (hf h)

theorem respected_updateSocket {f : NetworkStack → SocketResources → SocketResources}
    (hf : ∀ {s s' : NetworkStack}, SameFrame s s' →
      SlotFrame (f s (s.sockets i)) (f s' (s'.sockets i))) :
    Respected fun s ↦ s.updateSocket i (f s) := by
  refine fun s s' h ↦ ⟨h.currentState, h.numberOfSockets, h.numberOfClients, fun j ↦ ?_, h.client⟩
  rw [NetworkStack.updateSocket_sockets, NetworkStack.updateSocket_sockets]
  split_ifs
  · exact hf h
  · exact h.slot j

theorem respected_updateClient {f : NetworkStack → Client → Client}
    (hf : ∀ {s s' : NetworkStack} (b : Bool), SameFrame s s' →
      f s' { s.clients k with needsToBeNotified := b } =
        { f s (s.clients k) with
          needsToBeNotified :=
            (f s' { s.clients k with needsToBeNotified := b }).needsToBeNotified }) :
    Respected fun s ↦ s.updateClient k (f s) := by
  refine fun s s' h ↦ ⟨h.currentState, h.numberOfSockets, h.numberOfClients, h.slot, fun l ↦ ?_⟩
  rw [NetworkStack.updateClient_clients, NetworkStack.updateClient_clients]
  split_ifs
  · rw [h.client k]
    exact hf _ h
  · exact h.client l

theorem respected_reserveSlot :
    Respected fun s ↦ s.updateSocket i (SocketResources.reserve p c) :=
  respected_updateSocket fun h ↦ ⟨rfl, rfl, rfl, rfl, (h.slot i).bufIo, (h.slot i).buf, rfl, id⟩

theorem respected_countUp : Respected fun s ↦ s.updateClient k Client.countUp :=
  respected_updateClient fun _ _ ↦ rfl

theorem respected_release : Respected fun s ↦ s.release k i :=
  (respected_updateSocket (f := fun _ ↦ SocketResources.release) fun h ↦
      ⟨rfl, rfl, rfl, rfl, (h.slot i).bufIo, (h.slot i).buf, rfl, id⟩).comp
    (respected_updateClient (f := fun _ ↦ Client.countDown) fun _ _ ↦ rfl)

theorem respected_adopt : Respected fun s ↦ s.adopt i j :=
  respected_updateSocket fun h ↦
    ⟨(h.slot i).status, rfl, (h.slot j).clientId, (h.slot i).socketType,
    (h.slot i).bufIo, (h.slot i).buf, (h.slot i).implementationSocket, (h.slot i).connected⟩

theorem respected_create {type : SocketType} {buf : BufPtr} {size : ℕ} {err : OsError} :
    Respected fun s ↦ s.updateSocket i (SocketResources.create i type buf size err) :=
  respected_updateSocket fun h ↦
    ⟨(h.slot i).status, (h.slot i).parentHandle, (h.slot i).clientId, rfl, rfl,
    rfl, (h.slot i).implementationSocket, (h.slot i).connected⟩

theorem respected_accepted :
    Respected fun s ↦ s.updateSocket j (SocketResources.accepted (s.sockets i)) :=
  respected_updateSocket fun h ↦
    ⟨(h.slot j).status, (h.slot j).parentHandle, (h.slot j).clientId, rfl,
    (h.slot i).bufIo, (h.slot i).buf, (h.slot j).implementationSocket, fun _ ↦ rfl⟩

theorem respected_advanceHead : Respected fun s ↦ s.advanceHead k := by
  refine respected_updateClient fun b h ↦ ?_
  rw [h.numberOfSockets]

theorem respected_setTail :
    Respected fun s ↦ s.updateClient k fun cl ↦ { cl with tail := cl.head } :=
  respected_updateClient fun _ _ ↦ rfl

end SameFrame

namespace Component

open SameFrame (Respected)

/-! ### The books -/

/-- The books are in order while the slots have the owners `o`. -/
structure Books (cfg : NetworkStackPicoTcp.Config) (o : ℕ → Option ℤ)
    (s : NetworkStack) : Prop where
  accounting : Accounting s
  setup : SameSetup cfg.init s
  running : s.currentState = .running
  owner : s.owner = o

variable {pl : Platform} {cfg : NetworkStackPicoTcp.Config} {c : ℤ} {r : RpcCall} {o : ℕ → Option ℤ}
  {s s' : NetworkStack} {H : Finset Mutex} {ann : Prop} {l : List Entry} {w : World} {α β : Type}
  {i j k : ℕ}

namespace Books

/-- A step that is not about the books. -/
theorem of_sameBooks (h : Books cfg o s) (hb : SameBooks s s') (hs : SameSetup s s')
    (hst : s'.currentState = s.currentState) : Books cfg o s' :=
  ⟨h.accounting.of_sameBooks hb, h.setup.trans hs, hst.trans h.running,
    (NetworkStack.owner_of_sameBooks hb).trans h.owner⟩

theorem frame (h : Books cfg o s) (hf : SameFrame s s') : Books cfg o s' :=
  h.of_sameBooks (.of_sameFrame hf) (.of_sameFrame hf) hf.currentState

/-- An update of one slot that keeps its status, its owner and its picoTCP socket. -/
theorem updateSocket {f : SocketResources → SocketResources} (h : Books cfg o s)
    (hs : (f (s.sockets i)).status = (s.sockets i).status)
    (hc : (f (s.sockets i)).clientId = (s.sockets i).clientId)
    (hp : (f (s.sockets i)).implementationSocket = (s.sockets i).implementationSocket) :
    Books cfg o (s.updateSocket i f) :=
  h.of_sameBooks (.of_updateSocket hs hc hp) (.of_clients rfl rfl rfl) rfl

theorem reserve {p : ℕ} (h : Books cfg o s) (hk : s.IsClientAt c k) (hi : s.firstFree = some i)
    (hq : (s.clients k).currentSocketsInUse < (s.clients k).socketQuota) :
    Books cfg (Function.update o i (some c)) (s.reserve k i (some p) c) where
  accounting := h.accounting.reserve hk hi hq
  setup := h.setup.trans (SameSetup.of_client _ Client.countUp rfl rfl
    (fun _ ↦ NetworkStack.clients_reserve) ⟨rfl, rfl, rfl, rfl⟩)
  running := h.running
  owner := by rw [NetworkStack.owner_reserve, h.owner]

theorem release (h : Books cfg o s) (ho : s.Owns c i) (hk : s.IsClientAt c k) :
    Books cfg (Function.update o i none) (s.release k i) where
  accounting := h.accounting.release ho hk
  setup := h.setup.trans (SameSetup.of_client _ Client.countDown rfl rfl
    (fun _ ↦ NetworkStack.clients_release) ⟨rfl, rfl, rfl, rfl⟩)
  running := h.running
  owner := by rw [NetworkStack.owner_release, h.owner]

/-- The quota of a client is the one it was configured with. -/
theorem socketQuota (h : Books cfg o s) (hk : s.IsClientAt c k) :
    (s.clients k).socketQuota = cfg.quotaOf c := by
  have hk' : cfg.init.getClientIndexFromClientId c = some k := (h.setup.isClientAt c k).1 hk
  rw [h.setup.socketQuota, Config.quotaOf, hk']
  rfl

/-- What `reserve_handle` relies on is what a ledger asks for. -/
theorem allowed_give (h : Books cfg o s) (hk : s.IsClientAt c k) (hi : s.firstFree = some i)
    (hq : (s.clients k).currentSocketsInUse < (s.clients k).socketQuota) :
    Ledger.Allowed (Finset.range cfg.numberOfSockets) cfg.quotaOf o (.give i c) := by
  obtain ⟨hfree, hlt, -⟩ := NetworkStack.firstFree_eq_some_iff.1 hi
  have hn : s.numberOfSockets = cfg.numberOfSockets := h.setup.numberOfSockets
  refine ⟨Finset.mem_range.2 (hn ▸ hlt), ?_, ?_⟩
  · rw [← h.owner]
    exact if_neg (by simp [hfree])
  · rw [h.accounting.counter c k hk, h.socketQuota hk, NetworkStack.held, h.owner, hn] at hq
    exact hq

/-- The owner of a slot finds it in use. -/
theorem owner_eq_some_iff (h : Books cfg o s) (hk : s.IsClientAt c k) (hi : i < s.numberOfSockets) :
    o i = some c ↔ s.Owns c i := by
  rw [← h.owner, NetworkStack.owner_eq_some_iff]
  exact ⟨fun ho ↦ ⟨hi, ho.2⟩, fun ho ↦ ⟨h.accounting.inUse_of_owns ho hk, ho.2⟩⟩

/-- A slot that a client owns holds a picoTCP socket. -/
theorem implementationSocket_ne (h : Books cfg o s) (ho : s.Owns c i) (hk : s.IsClientAt c k) :
    (s.sockets i).implementationSocket ≠ none :=
  (h.accounting.inUse_iff i ho.1).1 (h.accounting.inUse_of_owns ho hk)

end Books

/-! ### Handles -/

section Handles

variable {Q : β → World → Prop}

/-- A write that respects the frame. -/
theorem follows_write {f : NetworkStack → NetworkStack} {k : Unit → Rpc β} (hw : At s H ann l w)
    (hf : Respected f) (h : ∀ w', At (f s) H ann l w' → follows c r (k ()) Q w') :
    follows c r (Prog.modify f >>= k) Q w :=
  follows_modify hw fun _ h' ↦ h _ ⟨hf h'.frame, h'.owner, h'.announced, h'.log⟩

/-- `reserve_handle` takes the first free slot, unless the quota is used up or there is none. -/
theorem follows_reserveHandle {p : ℕ} {Q : Option ℕ → World → Prop} (hw : At s H ann l w)
    (hk : s.IsClientAt c k) (hm : Mutex.socketCB ∉ H) (hnone : ∀ w', At s H ann l w' → Q none w')
    (hsome : ∀ i w', s.firstFree = some i →
      (s.clients k).currentSocketsInUse < (s.clients k).socketQuota →
      At (s.reserve k i (some p) c) H ann l w' → Q (some i) w') :
    follows c r (reserveHandle (some p) c) Q w := by
  have hk' : s.getClientIndexFromClientId c = some k := hk
  have huse : (s.clients k).inUse = true :=
    (NetworkStack.getClientIndexFromClientId_eq_some_iff.1 hk').2.1.2
  have horder : ∀ m' ∈ H, m'.rank < Mutex.socketCB.rank := by
    intro m' hm'
    cases m' with
    | stackTS => exact Nat.zero_lt_one
    | socketCB => exact absurd hm' hm
  refine follows_get hw fun w₁ h₁ ↦ ?_
  rw [h₁.frame.getClientIndexFromClientId, hk']
  dsimp only
  rw [h₁.frame.client_inUse, huse, if_neg Bool.false_ne_true.symm]
  refine follows_lock h₁ horder fun w₂ h₂ ↦ follows_get h₂ fun w₃ h₃ ↦ ?_
  rw [h₃.frame.client_socketQuota, h₃.frame.client_currentSocketsInUse, h₃.frame.firstFree]
  split_ifs with hq
  · exact follows_unlock h₃ hm fun w₄ h₄ ↦ follows_pure h₄ hnone
  · cases hi : s.firstFree with
    | none => exact follows_unlock h₃ hm fun w₄ h₄ ↦ follows_pure h₄ hnone
    | some i =>
      refine follows_write h₃ SameFrame.respected_reserveSlot fun w₄ h₄ ↦ ?_
      refine follows_unlock h₄ hm fun w₅ h₅ ↦ ?_
      refine follows_write h₅ SameFrame.respected_countUp fun w₆ h₆ ↦ ?_
      exact follows_pure h₆ fun w₇ h₇ ↦ hsome i w₇ hi (not_le.1 hq) h₇

/-- `free_handle`, called by the owner, releases the slot. -/
theorem follows_freeHandle {Q : Unit → World → Prop} (hw : At s ∅ ann l w) (ho : s.Owns c i)
    (hk : s.IsClientAt c k) (h : ∀ w', At (s.release k i) ∅ ann l w' → Q () w') :
    follows c r (freeHandle i c) Q w := by
  have hk' : s.getClientIndexFromClientId c = some k := hk
  have huse : (s.clients k).inUse = true :=
    (NetworkStack.getClientIndexFromClientId_eq_some_iff.1 hk').2.1.2
  refine follows_get hw fun w₁ h₁ ↦ ?_
  have hi : w₁.1.getSocketFromHandle i = some i :=
    NetworkStack.getSocketFromHandle_eq_some_iff.2 ⟨rfl, (h₁.frame.owns ho).1⟩
  rw [h₁.frame.getClientIndexFromClientId, hk', hi]
  dsimp only
  rw [h₁.frame.client_inUse, huse, if_neg Bool.false_ne_true.symm, (h₁.frame.owns ho).2,
    if_neg (not_not.2 rfl)]
  refine follows_lock h₁ (by simp) fun w₂ h₂ ↦ ?_
  refine follows_write h₂ SameFrame.respected_release fun w₃ h₃ ↦ ?_
  exact follows_unlock (k := pure) h₃ (by simp) fun w₄ h₄ ↦ follows_pure h₄ h

/-- `set_parent_handle`, called while `stackTS` is held. -/
theorem follows_setParentHandle {Q : Unit → World → Prop} (hw : At s (insert .stackTS ∅) ann l w)
    (hj : j < s.numberOfSockets) (hi : i < s.numberOfSockets)
    (h : ∀ w', At (s.adopt j i) (insert .stackTS ∅) ann l w' → Q () w') :
    follows c r (setParentHandle j i) Q w := by
  refine follows_get hw fun w₁ h₁ ↦ ?_
  have hsock : ∀ {n : ℕ}, n < s.numberOfSockets → w₁.1.getSocketFromHandle n = some n := fun hn ↦
    NetworkStack.getSocketFromHandle_eq_some_iff.2 ⟨rfl, h₁.frame.numberOfSockets ▸ hn⟩
  rw [hsock hj, hsock hi]
  refine follows_lock h₁ (by simp [Mutex.rank]) fun w₂ h₂ ↦ ?_
  refine follows_write h₂ SameFrame.respected_adopt fun w₃ h₃ ↦ ?_
  exact follows_unlock (k := pure) h₃ (by simp) fun w₄ h₄ ↦ follows_pure h₄ h

end Handles

/-! ### The operations on an open socket -/

section OpenSocket

/-- The operation is over: its mutexes are released and what it has handed over is announced. -/
structure Done (pl : Platform) (s : NetworkStack) (l : List Entry) (e : OsError)
    (w : World) : Prop where
  «at» : At s ∅ True l w
  plain : pl.PlainErrors → e ≠ .invalidHandle

theorem picoErr2Os_ne_invalidHandle {e : PicoErr} : picoErr2Os e ≠ .invalidHandle := by
  cases e <;> simp [picoErr2Os]

variable {exit : OsError → α} {Q : α → World → Prop}

/-- The locked section of an operation. -/
theorem follows_lockedCall {pc : PicoCall} {Q : pc.Answer × OsError → World → Prop}
    (hw : At s ∅ True l w)
    (h : ∀ ret e w', At s ∅ (presses r (.pico pc) ret = false) l w' → Q (ret, picoErr2Os e) w') :
    follows c r (lockedCall i pc) Q w := by
  refine follows_lock hw (by simp) fun w₁ h₁ ↦ ?_
  have hm : Mutex.stackTS ∈ insert Mutex.stackTS ∅ := Finset.mem_insert_self _ _
  refine follows_pico h₁ hm fun ret w₂ h₂ _ ↦ ?_
  refine follows_picoErr (P := fun _ ↦ True) h₂ hm trivial fun e w₃ _ h₃ ↦ ?_
  refine follows_frame h₃ (fun t ↦ SameFrame.updateSocket (SlotFrame.setError _ _)) fun w₄ h₄ ↦ ?_
  refine follows_unlock h₄ (by simp) fun w₅ h₅ ↦ ?_
  exact follows_pure (h₅.weaken fun ho ↦ ⟨trivial, ho⟩) fun w₆ h₆ ↦ h ret e w₆ h₆

/-- A negative result hands nothing over, and otherwise the main loop is woken. -/
theorem follows_finish {ret : ℤ} {failure success : α} (hw : At s ∅ (decide (0 ≤ ret) = false) l w)
    (hf : ∀ w', At s ∅ True l w' → Q failure w') (hs : ∀ w', At s ∅ True l w' → Q success w') :
    follows c r (finish ret failure success) Q w := by
  unfold finish
  split_ifs with hret
  · have hneg : decide (0 ≤ ret) = false := decide_eq_false (by omega)
    exact follows_pure (hw.weaken fun _ ↦ hneg) hf
  · exact follows_notifyMainLoop hw fun w₁ h₁ ↦ follows_pure h₁ hs

/-- The slot behind a handle in range. -/
theorem follows_socketOf {Q : ℕ → World → Prop} (hw : At s H ann l w) (hi : i < s.numberOfSockets)
    (h : ∀ w', At s H ann l w' → Q i w') : follows c r (socketOf i) Q w := by
  refine follows_get hw fun w₁ h₁ ↦ ?_
  have hsock : w₁.1.getSocketFromHandle i = some i :=
    NetworkStack.getSocketFromHandle_eq_some_iff.2 ⟨rfl, h₁.frame.numberOfSockets ▸ hi⟩
  rw [hsock]
  exact follows_pure h₁ h

/-- The head of an operation on an open socket may refuse one that has seen FIN. -/
theorem follows_withOpenSocket {k : ℕ → PicoPtr → Rpc α} (hw : At s H ann l w)
    (hi : i < s.numberOfSockets) (himpl : (s.sockets i).implementationSocket ≠ none)
    (hexit : ∀ w', At s H ann l w' → Q (exit .connectionClosed) w')
    (h : ∀ w', At s H ann l w' → follows c r (k i (s.sockets i).implementationSocket) Q w') :
    follows c r (withOpenSocket i exit k) Q w := by
  refine Prog.rg_bind.2 (follows_socketOf hw hi fun w₁ h₁ ↦ follows_get h₁ fun w₂ h₂ ↦ ?_)
  rw [(h₂.frame.slot i).implementationSocket, if_neg himpl]
  split_ifs
  · exact follows_pure h₂ hexit
  · exact h w₂ h₂

/-- The head of an operation that transfers data also refuses a length that does not fit the
dataport. -/
theorem follows_withOpenSocket_fits {len : ℕ} {k : NetworkStack → ℕ → PicoPtr → Rpc α}
    (hw : At s H ann l w) (hi : i < s.numberOfSockets)
    (himpl : (s.sockets i).implementationSocket ≠ none)
    (hexit : ∀ e w', (pl.PlainErrors → e ≠ .invalidHandle) → At s H ann l w' → Q (exit e) w')
    (h : ∀ t w', At s H ann l w' → follows c r (k t i (s.sockets i).implementationSocket) Q w') :
    follows c r (withOpenSocket i exit fun i sock ↦ Prog.get >>= fun s ↦
      if pl.dataportFits (s.sockets i).buf len = false then pure (exit pl.dataportSizeError)
      else k s i sock)
      Q w := by
  refine follows_withOpenSocket hw hi himpl (fun w' ↦ hexit _ w' fun _ ↦ by simp) fun w₁ h₁ ↦ ?_
  refine follows_get h₁ fun w₂ h₂ ↦ ?_
  split_ifs
  · exact follows_pure h₂ fun w₃ ↦ hexit _ w₃ fun hpl ↦ hpl.dataportSize
  · exact h w₂.1 w₂ h₂

variable (hw : At s ∅ True l w) (hi : i < s.numberOfSockets)
  (himpl : (s.sockets i).implementationSocket ≠ none)

include hw hi himpl

theorem follows_connect {addr : OsSocketAddr} :
    follows c r (picoSocketConnect pl i addr) (Done pl s l) w := by
  refine follows_withOpenSocket hw hi himpl (fun w' h' ↦ ⟨h', fun _ ↦ by simp⟩) fun w₁ h₁ ↦ ?_
  refine follows_local rfl h₁ fun b w₂ h₂ ↦ ?_
  cases b with
  | none => exact follows_pure h₂ fun w₃ h₃ ↦ ⟨h₃, fun _ ↦ by simp⟩
  | some a =>
    refine Prog.rg_bind.2 (follows_lockedCall h₂ fun ret e w₃ h₃ ↦ ?_)
    exact follows_finish h₃ (fun w₄ h₄ ↦ ⟨h₄, fun _ ↦ picoErr2Os_ne_invalidHandle⟩)
      fun w₄ h₄ ↦ ⟨h₄, fun _ ↦ by simp⟩

theorem follows_bind {addr : OsSocketAddr} :
    follows c r (picoSocketBind pl i addr) (Done pl s l) w := by
  refine follows_withOpenSocket hw hi himpl (fun w' h' ↦ ⟨h', fun _ ↦ by simp⟩) fun w₁ h₁ ↦ ?_
  refine follows_local rfl h₁ fun b w₂ h₂ ↦ ?_
  cases b with
  | none => exact follows_pure h₂ fun w₃ h₃ ↦ ⟨h₃, fun _ ↦ by simp⟩
  | some a =>
    refine Prog.rg_bind.2 (follows_lockedCall h₂ fun ret e w₃ h₃ ↦ ?_)
    exact follows_finish h₃ (fun w₄ h₄ ↦ ⟨h₄, fun _ ↦ picoErr2Os_ne_invalidHandle⟩)
      fun w₄ h₄ ↦ ⟨h₄, fun _ ↦ by simp⟩

theorem follows_listen {backlog : ℤ} :
    follows c r (picoSocketListen i backlog) (Done pl s l) w := by
  refine follows_withOpenSocket hw hi himpl (fun w' h' ↦ ⟨h', fun _ ↦ by simp⟩) fun w₁ h₁ ↦ ?_
  refine Prog.rg_bind.2 (follows_lockedCall h₁ fun ret e w₂ h₂ ↦ ?_)
  exact follows_finish h₂ (fun w₃ h₃ ↦ ⟨h₃, fun _ ↦ picoErr2Os_ne_invalidHandle⟩)
    fun w₃ h₃ ↦ ⟨h₃, fun _ ↦ by simp⟩

theorem follows_picoWrite {len : ℕ} :
    follows c r (picoSocketWrite pl i len) (fun a ↦ Done pl s l a.1) w := by
  refine follows_withOpenSocket_fits hw hi himpl (fun e w' he h' ↦ ⟨h', he⟩) fun t w₁ h₁ ↦ ?_
  refine Prog.rg_bind.2 (follows_lockedCall h₁ fun ret e w₂ h₂ ↦ ?_)
  exact follows_finish h₂ (fun w₃ h₃ ↦ ⟨h₃, fun _ ↦ picoErr2Os_ne_invalidHandle⟩)
    fun w₃ h₃ ↦ ⟨h₃, fun _ ↦ by simp⟩

theorem follows_sendto {len : ℕ} {addr : OsSocketAddr} :
    follows c r (picoSocketSendto pl i len addr) (fun a ↦ Done pl s l a.1) w := by
  refine follows_withOpenSocket_fits hw hi himpl (fun e w' he h' ↦ ⟨h', he⟩) fun t w₁ h₁ ↦ ?_
  refine follows_local rfl h₁ fun b w₂ h₂ ↦ ?_
  cases b with
  | none => exact follows_pure h₂ fun w₃ h₃ ↦ ⟨h₃, fun _ ↦ by simp⟩
  | some a =>
    refine Prog.rg_bind.2 (follows_lockedCall h₂ fun ret e w₃ h₃ ↦ ?_)
    exact follows_finish h₃ (fun w₄ h₄ ↦ ⟨h₄, fun _ ↦ picoErr2Os_ne_invalidHandle⟩)
      fun w₄ h₄ ↦ ⟨h₄, fun _ ↦ by simp⟩

theorem follows_read {len : ℕ} :
    follows c r (picoSocketRead pl i len) (fun a ↦ Done pl s l a.1) w := by
  have hclear : ∀ t : NetworkStack,
      SameFrame t (t.updateSocket i (SocketResources.clear {.read})) :=
    fun t ↦ SameFrame.updateSocket (SlotFrame.clear _ _)
  refine follows_withOpenSocket_fits hw hi himpl (fun e w' he h' ↦ ⟨h', he⟩) fun t w₁ h₁ ↦ ?_
  refine Prog.rg_bind.2 (follows_lockedCall h₁ fun ret e w₂ h₂ ↦ ?_)
  replace h₂ := h₂.announce rfl
  dsimp only
  split_ifs
  · refine follows_frame h₂ hclear fun w₃ h₃ ↦ ?_
    exact follows_pure h₃ fun w₄ h₄ ↦ ⟨h₄, fun _ ↦ picoErr2Os_ne_invalidHandle⟩
  · refine follows_frame h₂ hclear fun w₃ h₃ ↦ follows_notifyMainLoop h₃ fun w₄ h₄ ↦ ?_
    exact follows_pure h₄ fun w₅ h₅ ↦ ⟨h₅, fun _ ↦ by simp⟩
  · refine follows_frame h₂ hclear fun w₃ h₃ ↦ ?_
    exact follows_pure h₃ fun w₄ h₄ ↦ ⟨h₄, fun _ ↦ by simp⟩
  · exact follows_pure h₂ fun w₃ h₃ ↦ ⟨h₃, fun _ ↦ by simp⟩

theorem follows_recvfrom {len : ℕ} {addr : OsSocketAddr} :
    follows c r (picoSocketRecvfrom pl i len addr) (fun a ↦ Done pl s l a.1) w := by
  have hclear : ∀ t : NetworkStack,
      SameFrame t (t.updateSocket i (SocketResources.clear {.read})) :=
    fun t ↦ SameFrame.updateSocket (SlotFrame.clear _ _)
  refine follows_withOpenSocket_fits hw hi himpl (fun e w' he h' ↦ ⟨h', he⟩) fun t w₁ h₁ ↦ ?_
  refine Prog.rg_bind.2 (follows_lockedCall h₁ fun ret e w₂ h₂ ↦ ?_)
  replace h₂ := h₂.announce rfl
  dsimp only
  split_ifs
  · refine follows_frame h₂ hclear fun w₃ h₃ ↦ ?_
    exact follows_pure h₃ fun w₄ h₄ ↦ ⟨h₄, fun _ ↦ picoErr2Os_ne_invalidHandle⟩
  · refine follows_frame h₂ hclear fun w₃ h₃ ↦ follows_notifyMainLoop h₃ fun w₄ h₄ ↦ ?_
    exact follows_pure h₄ fun w₅ h₅ ↦ ⟨h₅, fun _ ↦ by simp⟩
  · exact follows_pure h₂ fun w₃ h₃ ↦ ⟨h₃, fun _ ↦ by simp⟩

end OpenSocket

end Component
end NetworkStackPicoTcp
