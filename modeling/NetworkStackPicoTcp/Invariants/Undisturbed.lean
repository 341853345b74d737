import NetworkStackPicoTcp.Invariants.Operations

/-!
# Calls without callbacks

Nothing but a callback touches a slot while a call is under way, so in a stretch of the history
without callbacks the slots change only by the writes of the RPC (`KeepsSlots`). An operation on an
open socket calls picoTCP once; `Made` says what its locked section leaves behind.
-/

namespace NetworkStackPicoTcp

open Prog (wp)

variable {sched : Schedule} {c : ℤ} {r : RpcCall} {w w' w'' : World} {new old : History}

/-! ### Without callbacks -/

/-- The entry is a callback. -/
def Entry.isCallback : Entry → Bool
  | .event .. => true
  | _ => false

/-- Among the entries is no callback. -/
def NoCallbacks (new : History) : Prop := ∀ x ∈ new, x.isCallback = false

instance : Decidable (NoCallbacks new) :=
  inferInstanceAs (Decidable (∀ x ∈ new, x.isCallback = false))

theorem noCallbacks_append : NoCallbacks (new ++ old) ↔ NoCallbacks new ∧ NoCallbacks old :=
  List.forall_mem_append

theorem noCallbacks_of_cons {x : Entry} (h : NoCallbacks (x :: new)) : NoCallbacks new :=
  List.forall_mem_of_forall_mem_cons h

/-- Between the two worlds the slots change only by callbacks. -/
def KeepsSlots (w w' : World) : Prop :=
  ∃ new, w'.2 = new ++ w.2 ∧ (∀ x ∈ new, x.isControl = true) ∧
    (NoCallbacks new → w'.1.sockets = w.1.sockets)

namespace KeepsSlots

theorem refl (w : World) : KeepsSlots w w := ⟨[], rfl, by simp, fun _ ↦ rfl⟩

theorem trans (h : KeepsSlots w w') (h' : KeepsSlots w' w'') : KeepsSlots w w'' := by
  obtain ⟨new, hnew, hctl, hs⟩ := h
  obtain ⟨new', hnew', hctl', hs'⟩ := h'
  refine ⟨new' ++ new, by rw [hnew', hnew, List.append_assoc], fun x hx ↦ ?_, fun hno ↦ ?_⟩
  · exact (List.mem_append.1 hx).elim (hctl' x) (hctl x)
  · obtain ⟨hno', hno⟩ := noCallbacks_append.1 hno
    exact (hs' hno').trans (hs hno)

end KeepsSlots

theorem keepsSlots_callbacks (h : Callbacks w w') : KeepsSlots w w' := by
  induction h with
  | refl => exact .refl w
  | tail _ hcb ih =>
    refine ih.trans ?_
    obtain ⟨ev, -, -, hh⟩ := hcb
    refine ⟨[_], hh, by simp [Entry.isControl], fun hno ↦ ?_⟩
    exact absurd (hno _ List.mem_cons_self) Bool.noConfusion

theorem keepsSlots_mainLoop (h : MainLoop w w') : KeepsSlots w w' := by
  induction h with
  | refl => exact .refl w
  | tail _ hi ih =>
    obtain ⟨w₁, hcb, rfl⟩ := hi
    refine (ih.trans (keepsSlots_callbacks hcb)).trans
      ⟨[_], rfl, by simp [Entry.isControl], fun _ ↦ ?_⟩
    exact NetworkStack.sockets_notify

theorem keepsSlots_interference {e : Call} (h : Interference sched e w w') : KeepsSlots w w' := by
  unfold Interference at h
  split at h
  · exact keepsSlots_callbacks h
  · split_ifs at h
    · exact keepsSlots_mainLoop h
    · rw [h]
      exact .refl w

/-! ### The picoTCP call of an operation -/

/-- The operation that was in the world `w` has called picoTCP, which has returned `ret`, and not
called it a second time. -/
structure Made (c : ℤ) (r : RpcCall) (pc : PicoCall) (w : World) (ret : pc.Answer) (w' : World)
    (new : History) : Prop where
  entries : w'.2 = new ++ w.2
  made : ∃ s, .answer c r (.pico pc) ret s ∈ new
  once : ∀ x ∈ new, x.asksPico = true → ∃ s, x = .answer c r (.pico pc) ret s

namespace Made

variable {pc : PicoCall} {ret : pc.Answer}

/-- Something else that the RPC does. -/
theorem cons {x : Entry} (h : Made c r pc w ret w' new) (hx : x.asksPico = false)
    (s : NetworkStack) : Made c r pc w ret (s, x :: w'.2) (x :: new) := by
  obtain ⟨s₁, hmem⟩ := h.made
  refine ⟨congrArg (x :: ·) h.entries, ⟨s₁, List.mem_cons_of_mem x hmem⟩, fun y hy hask ↦ ?_⟩
  rcases List.mem_cons.1 hy with rfl | hy
  · exact absurd (hx.symm.trans hask) Bool.false_ne_true
  · exact h.once y hy hask

/-- The history tells which call it was. -/
theorem unique (h : Made c r pc w ret w' new) {new' : History} (hnew : w'.2 = new' ++ w.2)
    {pc' : PicoCall} {ret' : pc'.Answer} {s : NetworkStack}
    (hmem : .answer c r (.pico pc') ret' s ∈ new') :
    new' = new ∧ ∃ hpc : pc' = pc, hpc ▸ ret' = ret := by
  obtain rfl : new' = new := List.append_cancel_right (hnew.symm.trans h.entries)
  obtain ⟨s₁, hans⟩ := h.once _ hmem rfl
  obtain ⟨-, -, hpc, hret, -⟩ := Entry.answer.inj hans
  obtain rfl := Call.pico.inj hpc
  exact ⟨rfl, rfl, eq_of_heq hret⟩

end Made

/-- The locked section of an operation makes its picoTCP call, and leaves the masks alone. -/
theorem wp_lockedCall_made {i : ℕ} {pc : PicoCall} {C : Call → World → Prop}
    {Q : pc.Answer × OsError → World → Prop}
    (hC : ∀ e w', (∀ pc', e = .pico pc' → pc' = pc) → w.2 ⊆ w'.2 → C e w')
    (hQ : ∀ a w' new, Made c r pc w a.1 w' new →
      (NoCallbacks new → ∀ j, (w'.1.sockets j).eventMask = (w.1.sockets j).eventMask) → Q a w') :
    wp (rpcEnv sched c r) C (lockedCall i pc) Q w := by
  simp only [lockedCall, Prog.wp_bind, Prog.wp_modify, Prog.wp_pure]
  -- the control thread runs before the lock, inside picoTCP and after the unlock
  refine ⟨hC _ _ (by simp) (List.Subset.refl _), ?_⟩
  rintro ⟨⟩ _ ⟨w₁, hint₁, rfl⟩
  obtain ⟨new₁, hn₁, hc₁, hs₁⟩ := keepsSlots_interference hint₁
  have hsub₁ : w.2 ⊆ .answer c r (.lock .stackTS) () w₁.1 :: w₁.2 := by
    rw [hn₁]
    exact List.subset_append_right (_ :: new₁) w.2
  refine ⟨hC _ _ (fun pc' h ↦ (Call.pico.inj h).symm) hsub₁, ?_⟩
  rintro ret _ ⟨w₂, hint₂, rfl⟩
  obtain ⟨new₂, hn₂, hc₂, hs₂⟩ := keepsSlots_interference hint₂
  have hsub₂ : w.2 ⊆ .answer c r (.pico pc) ret w₂.1 :: w₂.2 := by
    rw [hn₂]
    exact List.Subset.trans hsub₁ (List.subset_append_right (_ :: new₂) _)
  refine ⟨hC _ _ (by simp) hsub₂, ?_⟩
  rintro e _ ⟨_, hquiet, rfl⟩
  obtain rfl := quiet_picoErr sched _ _ hquiet
  refine ⟨hC _ _ (by simp) (List.Subset.trans hsub₂ (List.subset_append_right [_, _] _)), ?_⟩
  rintro ⟨⟩ _ ⟨w₃, hint₃, rfl⟩
  obtain ⟨new₃, hn₃, hc₃, hs₃⟩ := keepsSlots_interference hint₃
  refine hQ _ _ (.answer c r (.unlock .stackTS) () w₃.1 :: new₃ ++
    [.own c r w₂.1 (w₂.1.updateSocket i (SocketResources.setError (picoErr2Os e))),
      .answer c r .picoErr e w₂.1, .answer c r (.pico pc) ret w₂.1] ++ new₂ ++
      [.answer c r (.lock .stackTS) () w₁.1] ++ new₁) ⟨?_, ⟨w₂.1, by simp⟩, fun x hx hask ↦ ?_⟩
        fun hno j ↦ ?_
  · show _ :: w₃.2 = _
    rw [hn₃]
    show _ :: (new₃ ++ _ :: _ :: _ :: w₂.2) = _
    rw [hn₂, hn₁]
    simp
  · have hctl : ∀ new : History, (∀ x ∈ new, x.isControl = true) → x ∉ new := fun new hc hm ↦
      absurd ((asksPico_of_isControl (hc x hm)).symm.trans hask) Bool.false_ne_true
    simp only [List.mem_append, List.mem_cons, List.not_mem_nil, or_false, hctl _ hc₁, hctl _ hc₂,
      hctl _ hc₃] at hx
    rcases hx with ((rfl | rfl | rfl | rfl) | rfl)
    · exact absurd hask Bool.false_ne_true
    · exact absurd hask Bool.false_ne_true
    · exact absurd hask Bool.false_ne_true
    · exact ⟨w₂.1, rfl⟩
    · exact absurd hask Bool.false_ne_true
  · simp only [noCallbacks_append] at hno
    obtain ⟨⟨⟨⟨hno₃, -⟩, hno₂⟩, -⟩, hno₁⟩ := hno
    rw [hs₃ (noCallbacks_of_cons hno₃)]
    show ((w₂.1.updateSocket i _).sockets j).eventMask = _
    rw [NetworkStack.updateSocket_sockets, hs₂ hno₂]
    show (if j = i then SocketResources.setError _ (w₁.1.sockets i)
      else w₁.1.sockets j).eventMask = _
    rw [hs₁ hno₁]
    split_ifs with hj
    · rw [hj]
      rfl
    · rfl

end NetworkStackPicoTcp
