import NetworkStackPicoTcp.Invariants.Delivery

/-!
# The records of a sweep

A sweep takes a record of a slot while it holds `stackTS`, and copies it to the client's dataport
after it has released the mutex. A record tells what was outstanding when it was taken
(`Stepped.tellsOutstanding`), and what is taken is written next (`Stepped.writesTaken`).
-/

namespace NetworkStackPicoTcp

open Trace (Always)

variable {pl : Platform} {cfg : Config} {c : ℤ} {r : RpcCall}

section

variable {w w' : World} {x : Entry} {i : ℕ} {evt : OsSocketEvt}

theorem taken_eq_some (h : x.taken = some (c, evt)) :
    ∃ r s, x = .answer c r (.lock .stackTS) () s ∧ r.isSweep = true ∧
      evt = s.eventRecord (s.headOf c) := by
  cases x with
  | answer c' r e b s =>
    cases e with
    | lock m =>
      cases m with
      | stackTS =>
        have h' : (if r.isSweep = true then some (c', s.eventRecord (s.headOf c')) else none) =
            some (c, evt) := h
        split_ifs at h' with hr
        obtain ⟨rfl, rfl⟩ := Prod.mk.inj (Option.some.inj h')
        exact ⟨r, s, rfl, hr, rfl⟩
      | socketCB => exact absurd h (by simp [Entry.taken])
    | _ => exact absurd h (by simp [Entry.taken])
  | _ => exact absurd h (by simp [Entry.taken])

/-- A record is taken by a sweep that has got `stackTS`, of the slot at the head of its client. -/
theorem reports_inv (h : x.reports c i evt) :
    ∃ r s, x = .answer c r (.lock .stackTS) () s ∧ r.isSweep = true ∧ s.headOf c = i ∧
      evt = s.eventRecord i := by
  obtain ⟨htaken, hi⟩ := h
  obtain ⟨r, s, rfl, hr, rfl⟩ := taken_eq_some htaken
  obtain rfl : s.headOf c = i := Int.ofNat_inj.1 hi
  exact ⟨r, s, rfl, hr, rfl, rfl⟩

theorem not_reports_of_taken (h : x.taken = none) : ¬ x.reports c i evt := fun hrep ↦
  Option.some_ne_none _ (hrep.1.symm.trans h)

/-- What a record tells is what was outstanding when it was taken. -/
def Entry.tellsOutstanding (x : Entry) (earlier : History) : Prop :=
  ∀ c i evt, x.reports c i evt → ∀ b, b ∈ evt.eventMask ↔ Outstanding i b earlier

theorem tellsOutstanding_of_taken (h : x.taken = none) (earlier : History) :
    x.tellsOutstanding earlier :=
  fun _ _ _ hrep ↦ absurd hrep (not_reports_of_taken h)

theorem taken_answer {e : Call} {a : e.Answer} {s : NetworkStack}
    (hm : r.isSweep = false ∨ e.movesSweep = false) : (Entry.answer c r e a s).taken = none := by
  cases e with
  | lock m =>
    cases m with
    | stackTS =>
      rcases hm with hm | hm
      · show (if r.isSweep = true then _ else none) = none
        rw [if_neg (by simp [hm])]
      · exact absurd hm (by decide)
    | socketCB => rfl
  | _ => rfl

theorem Micro.tellsOutstanding (hs : Micro pl w w') (hrem : Remembers w) (hring : RingInv w)
    (h : Always Entry.tellsOutstanding w.2) : Always Entry.tellsOutstanding w'.2 := by
  cases hs with
  | begin | own | enter | put | advance | flagSelf | setTail | notified | reply =>
    exact ⟨tellsOutstanding_of_taken rfl _, h⟩
  | answer e b hm => exact ⟨tellsOutstanding_of_taken (taken_answer hm) _, h⟩
  | reserve =>
    exact ⟨tellsOutstanding_of_taken rfl _, tellsOutstanding_of_taken rfl _,
      tellsOutstanding_of_taken rfl _, h⟩
  | @snapshot s h' c r k hr _ hk _ _ =>
    refine ⟨tellsOutstanding_of_taken rfl _, ?_, h⟩
    intro c' i evt hrep b
    obtain ⟨_, _, hx, -, rfl, rfl⟩ := reports_inv hrep
    obtain ⟨rfl, -, -, -, rfl⟩ := Entry.answer.inj hx
    refine hrem.mask _ ?_ b
    rw [NetworkStack.headOf_eq hk]
    exact hring.head_lt k
  | event hcb =>
    obtain ⟨ev, -, -, hh⟩ := hcb
    rw [hh]
    exact ⟨tellsOutstanding_of_taken rfl _, h⟩
  | setState => exact h

theorem Stepped.tellsOutstanding (h : Stepped pl cfg w) (hd : DistinctSockets w.2) :
    Always Entry.tellsOutstanding w.2 := by
  induction h with
  | refl => exact Trace.always_nil
  | tail hsteps hs ih =>
    obtain ⟨new, hnew⟩ := hs.suffix
    have hd' := (hnew ▸ hd).of_append
    exact hs.tellsOutstanding (Stepped.remembers hsteps hd') (Stepped.ringInv hsteps) (ih hd')

/-! ### Taken and written -/

/-- The record that a sweep copies to the dataport of its client. -/
def Entry.written : Entry → Option (ℤ × OsSocketEvt)
  | .answer c r (.putEvent _ evt) _ _ => if r.isSweep then some (c, evt) else none
  | _ => none

/-- The records taken by sweeps, newest first. -/
def taken (h : History) : List (ℤ × OsSocketEvt) := h.filterMap Entry.taken

/-- The records written to the dataports of the clients, newest first. -/
def written (h : History) : List (ℤ × OsSocketEvt) := h.filterMap Entry.written

/-- What has been taken but not yet written. -/
def unwritten (h : History) : List (ℤ × OsSocketEvt) :=
  match phase h with
  | .taken evt => [(issuer h, evt)]
  | _ => []

/-- All records taken have been written, but for the one that the sweep under way is about to
write. -/
def WritesTaken (h : History) : Prop := taken h = unwritten h ++ written h

section

variable {h h' : History}

theorem unwritten_congr (hp : phase h' = phase h) (hi : issuer h' = issuer h) :
    unwritten h' = unwritten h := by rw [unwritten, unwritten, hp, hi]

theorem unwritten_eq_nil (hp : ∀ evt, phase h ≠ .taken evt) : unwritten h = [] := by
  unfold unwritten
  split
  · exact absurd ‹_› (hp _)
  · rfl

/-- An entry that is no record, taken or written. -/
theorem WritesTaken.cons (hw : WritesTaken h) (ht : x.taken = none) (hx : x.written = none)
    (hu : unwritten (x :: h) = unwritten h) : WritesTaken (x :: h) := by
  show List.filterMap Entry.taken (x :: h) =
    unwritten (x :: h) ++ List.filterMap Entry.written (x :: h)
  rw [List.filterMap_cons_none ht, List.filterMap_cons_none hx, hu]
  exact hw

end

theorem written_answer {e : Call} {a : e.Answer} {s : NetworkStack}
    (hm : r.isSweep = false ∨ e.movesSweep = false) : (Entry.answer c r e a s).written = none := by
  cases e with
  | putEvent o evt =>
    rcases hm with hm | hm
    · show (if r.isSweep = true then _ else none) = none
      rw [if_neg (by simp [hm])]
    · exact Bool.noConfusion hm
  | _ => rfl

theorem phase_answer {e : Call} {a : e.Answer} {s : NetworkStack} {h : History}
    (hm : r.isSweep = false ∨ e.movesSweep = false) : phase (.answer c r e a s :: h) = phase h := by
  rw [phase]
  rcases hm with hm | hm
  · rw [if_neg (by simp [hm])]
  · rw [phaseBy_of_not_movesSweep hm, ite_self]

theorem phase_own {s s' : NetworkStack} {h : History} (hr : r.isSweep = false) :
    phase (.own c r s s' :: h) = phase h := by
  rw [phase, if_neg (by simp [hr])]

theorem Micro.writesTaken (hs : Micro pl w w') (h : WritesTaken w.2) : WritesTaken w'.2 := by
  cases hs with
  | begin r hc hp =>
    refine h.cons rfl rfl ?_
    rw [unwritten_eq_nil (h := _ :: _) (by simp [phase]), unwritten_eq_nil (by simp [hp])]
  | own hr => exact h.cons rfl rfl (unwritten_congr (phase_own hr) rfl)
  | reserve hr =>
    refine ((h.cons rfl rfl ?_).cons rfl rfl ?_).cons rfl rfl ?_
    · exact unwritten_congr (phase_own hr.isSweep) rfl
    · exact unwritten_congr (phase_answer (Or.inl hr.isSweep)) rfl
    · exact unwritten_congr (phase_own hr.isSweep) rfl
  | answer e b hm =>
    exact h.cons (taken_answer hm) (written_answer hm) (unwritten_congr (phase_answer hm) rfl)
  | enter hr _ _ hp =>
    refine h.cons rfl rfl ?_
    rw [unwritten_eq_nil (h := _ :: _) (by simp [phase, phaseBy, hr]), unwritten_eq_nil]
    rintro evt
    rcases hp with hp | ⟨hp, -⟩ <;> simp [hp]
  | @snapshot s h' c r k hr hs hk hp _ =>
    have hnone : unwritten h' = [] := unwritten_eq_nil (by simp [hp])
    have hsome : ∀ s' : NetworkStack, unwritten (.own c r s s' ::
        .answer c r (.lock .stackTS) () s :: h') = [(c, s.eventRecord (s.headOf c))] := by
      intro s'
      simp [unwritten, phase, hr, phaseBy, phaseByWrite, issuer, hs]
    -- the record has been taken and waits for its copy
    show taken _ = unwritten _ ++ written h'
    rw [hsome]
    show List.filterMap Entry.taken (_ :: h') = _
    rw [List.filterMap_cons_some (by rw [Entry.taken, if_pos hr])]
    have hrest : taken h' = unwritten h' ++ written h' := h
    rw [hnone] at hrest
    exact congrArg _ hrest
  | @put s h' c r hr hs offset evt hp =>
    have hnone : unwritten (.answer c r (.putEvent offset evt) () s :: h') = [] :=
      unwritten_eq_nil (by simp [phase, hr, phaseBy])
    have hsome : unwritten h' = [(c, evt)] := by simp [unwritten, hp, hs]
    have hrest : taken h' = unwritten h' ++ written h' := h
    show taken h' = unwritten _ ++ List.filterMap Entry.written (_ :: h')
    rw [hnone, List.filterMap_cons_some (by rw [Entry.written, if_pos hr]), hrest, hsome]
    rfl
  | advance hr _ _ hp =>
    refine h.cons rfl rfl ?_
    rw [unwritten_eq_nil, unwritten_eq_nil]
    · intro evt
      rcases hp with hp | hp <;> simp [hp]
    · intro evt
      rcases hp with hp | hp <;> simp [phase, hr, hp, phaseByWrite]
  | flagSelf hr _ _ hp | setTail hr _ _ hp =>
    refine h.cons rfl rfl ?_
    rw [unwritten_eq_nil (by simp [phase, hr, hp, phaseByWrite]), unwritten_eq_nil (by simp [hp])]
  | event hcb =>
    obtain ⟨ev, -, -, hh⟩ := hcb
    rw [hh]
    exact h.cons rfl rfl rfl
  | notified => exact h.cons rfl rfl rfl
  | reply a hp =>
    refine h.cons rfl rfl ?_
    rw [unwritten_eq_nil (h := _ :: _) (by simp [phase]), unwritten_eq_nil]
    rintro evt
    rcases hp with hp | ⟨hp, -⟩ <;> simp [hp]
  | setState => exact h

theorem Stepped.writesTaken (h : Stepped pl cfg w) : WritesTaken w.2 :=
  Micros.invariant (I := fun w ↦ WritesTaken w.2) (fun _ _ hs hi ↦ hs.writesTaken hi) h rfl

end

end NetworkStackPicoTcp
