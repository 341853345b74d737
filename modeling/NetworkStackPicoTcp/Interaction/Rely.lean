import NetworkStackPicoTcp.Interaction.Prog

/-!
# Programs among other threads

`Prog.wp` follows a program that is left alone between its calls. Here other threads may run before
each of its statements. What they may do is the *rely* of the program; what each of its own
statements does is its *guarantee*, on which the others rely in turn. `Prog.rg` is the weakest
precondition under such terms:

* the program may find any world that the rely allows before it reads, writes, calls or returns;
* each of its writes and calls owes the guarantee, and each call owes what `C` says about it.

Since the rely is a preorder, what is owed is stable: it does not matter how often the others have
run (`rg_stable`). With it come the same rules as for `wp`.
-/

namespace Prog

/-- The terms on which a thread runs among others. -/
structure Terms (ω : Type) where
  /-- What the others may do between two statements. -/
  rely : ω → ω → Prop
  /-- What one statement does. -/
  guarantee : ω → ω → Prop
  rely_refl : ∀ w, rely w w
  rely_trans : ∀ {w w' w''}, rely w w' → rely w' w'' → rely w w''

variable {σ ε Γ : Type} {ρ : ε → Type} {α β : Type}

/-- Among others that keep to the rely, every statement of the program keeps to the guarantee, every
call is issued in a world that satisfies `C`, and the program returns only in worlds that satisfy
`Q`. -/
def rg (V : Env σ ρ Γ) (T : Terms (σ × Γ)) (C : ε → σ × Γ → Prop) :
    Prog σ ρ α → (α → σ × Γ → Prop) → σ × Γ → Prop
  | ret a, Q, w => ∀ w', T.rely w w' → Q a w'
  | read k, Q, w => ∀ w', T.rely w w' → rg V T C (k w'.1) Q w'
  | write f k, Q, w => ∀ w', T.rely w w' →
    T.guarantee w' (V.write f w') ∧ rg V T C k Q (V.write f w')
  | call e k, Q, w => ∀ w', T.rely w w' →
    C e w' ∧ ∀ b w'', V.onCall e w' b w'' → T.guarantee w' w'' ∧ rg V T C (k b) Q w''

variable {V : Env σ ρ Γ} {T : Terms (σ × Γ)} {C C' : ε → σ × Γ → Prop} {p : Prog σ ρ α}
  {w w' : σ × Γ}

/-- It does not matter whether the others have already run. -/
theorem rg_stable {Q : α → σ × Γ → Prop} (h : rg V T C p Q w) (hr : T.rely w w') :
    rg V T C p Q w' := by
  cases p with
  | ret a => exact fun w₁ h₁ ↦ h w₁ (T.rely_trans hr h₁)
  | read k => exact fun w₁ h₁ ↦ h w₁ (T.rely_trans hr h₁)
  | write f k => exact fun w₁ h₁ ↦ h w₁ (T.rely_trans hr h₁)
  | call e k => exact fun w₁ h₁ ↦ h w₁ (T.rely_trans hr h₁)

/-! ### Rules -/

@[simp] theorem rg_pure {a : α} {Q : α → σ × Γ → Prop} :
    rg V T C (pure a : Prog σ ρ α) Q w ↔ ∀ w', T.rely w w' → Q a w' := Iff.rfl

/-- A read in front of a program. -/
@[simp] theorem rg_get_bind {k : σ → Prog σ ρ β} {Q : β → σ × Γ → Prop} :
    rg V T C (get >>= k) Q w ↔ ∀ w', T.rely w w' → rg V T C (k w'.1) Q w' := Iff.rfl

/-- A write in front of a program. -/
@[simp] theorem rg_modify_bind {f : σ → σ} {k : Unit → Prog σ ρ β} {Q : β → σ × Γ → Prop} :
    rg V T C (modify f >>= k) Q w ↔ ∀ w', T.rely w w' →
      T.guarantee w' (V.write f w') ∧ rg V T C (k ()) Q (V.write f w') := Iff.rfl

/-- A call in front of a program. -/
@[simp] theorem rg_perform_bind {e : ε} {k : ρ e → Prog σ ρ β} {Q : β → σ × Γ → Prop} :
    rg V T C (perform e >>= k) Q w ↔ ∀ w', T.rely w w' → C e w' ∧
      ∀ b w'', V.onCall e w' b w'' → T.guarantee w' w'' ∧ rg V T C (k b) Q w'' := Iff.rfl

@[simp] theorem rg_bind {k : α → Prog σ ρ β} {Q : β → σ × Γ → Prop} :
    rg V T C (p >>= k) Q w ↔ rg V T C p (fun a w' ↦ rg V T C (k a) Q w') w := by
  show rg V T C (p.bind k) Q w ↔ _
  induction p generalizing w with
  | ret a => exact ⟨fun h _ hr ↦ rg_stable h hr, fun h ↦ h w (T.rely_refl w)⟩
  | read g ih => exact forall_congr' fun w₁ ↦ imp_congr_right fun _ ↦ ih w₁.1
  | write f p ih =>
    exact forall_congr' fun _ ↦ imp_congr_right fun _ ↦ and_congr_right fun _ ↦ ih
  | call e g ih =>
    refine forall_congr' fun _ ↦ imp_congr_right fun _ ↦ and_congr_right fun _ ↦ ?_
    exact forall_congr' fun b ↦ forall_congr' fun _ ↦ imp_congr_right fun _ ↦
      and_congr_right fun _ ↦ ih b

@[simp] theorem rg_map {f : α → β} {Q : β → σ × Γ → Prop} :
    rg V T C (f <$> p) Q w ↔ rg V T C p (fun a w' ↦ rg V T C (pure (f a) : Prog σ ρ β) Q w') w :=
  rg_bind (p := p) (k := fun a ↦ ret (f a))

/-- What a program owes can be weakened. -/
theorem rg_mono {Q Q' : α → σ × Γ → Prop} (hC : ∀ e w, C e w → C' e w)
    (hQ : ∀ a w, Q a w → Q' a w) (h : rg V T C p Q w) : rg V T C' p Q' w := by
  induction p generalizing w with
  | ret a => exact fun w' hr ↦ hQ a w' (h w' hr)
  | read g ih => exact fun w' hr ↦ ih w'.1 (h w' hr)
  | write f p ih => exact fun w' hr ↦ ⟨(h w' hr).1, ih (h w' hr).2⟩
  | call e g ih =>
    refine fun w' hr ↦ ⟨hC e w' (h w' hr).1, fun b w'' hb ↦ ?_⟩
    exact ⟨((h w' hr).2 b w'' hb).1, ih b ((h w' hr).2 b w'' hb).2⟩

/-- One program after another, the first by what is known about it. -/
theorem rg_seq {k : α → Prog σ ρ β} {P : α → σ × Γ → Prop} {Q : β → σ × Γ → Prop}
    (h : rg V T C p P w) (hk : ∀ a w', P a w' → rg V T C (k a) Q w') :
    rg V T C (p >>= k) Q w :=
  rg_bind.2 (rg_mono (fun _ _ ↦ id) hk h)

/-! ### Programs made of harmless statements

Of some programs it is enough to know which writes and which calls their text has. -/

/-- All writes of the program are in `W` and all its calls in `E`, whatever it reads and whatever
its calls return. -/
def Within (W : (σ → σ) → Prop) (E : ε → Prop) : Prog σ ρ α → Prop
  | ret _ => True
  | read k => ∀ s, Within W E (k s)
  | write f k => W f ∧ Within W E k
  | call e k => E e ∧ ∀ b, Within W E (k b)

section Within

variable {W : (σ → σ) → Prop} {E : ε → Prop}

theorem within_pure {a : α} : Within W E (pure a : Prog σ ρ α) := trivial

theorem within_get : Within W E (get : Prog σ ρ σ) := fun _ ↦ trivial

theorem within_modify {f : σ → σ} (hf : W f) : Within W E (modify f : Prog σ ρ Unit) :=
  ⟨hf, trivial⟩

theorem within_perform {e : ε} (he : E e) : Within W E (perform e : Prog σ ρ (ρ e)) :=
  ⟨he, fun _ ↦ trivial⟩

theorem within_bind {k : α → Prog σ ρ β} (hp : Within W E p) (hk : ∀ a, Within W E (k a)) :
    Within W E (p >>= k) := by
  show Within W E (p.bind k)
  induction p with
  | ret a => exact hk a
  | read g ih => exact fun s ↦ ih s (hp s)
  | write f p ih => exact ⟨hp.1, ih hp.2⟩
  | call e g ih => exact ⟨hp.1, fun b ↦ ih b (hp.2 b)⟩

theorem within_mono {W' : (σ → σ) → Prop} {E' : ε → Prop} (hW : ∀ f, W f → W' f)
    (hE : ∀ e, E e → E' e)
    (hp : Within W E p) : Within W' E' p := by
  induction p with
  | ret a => trivial
  | read g ih => exact fun s ↦ ih s (hp s)
  | write f p ih => exact ⟨hW f hp.1, ih hp.2⟩
  | call e g ih => exact ⟨hE e hp.1, fun b ↦ ih b (hp.2 b)⟩

/-- An invariant that the writes and calls of a program keep holds at each of its calls and when it
returns. -/
theorem wp_of_within {I : σ × Γ → Prop} (hwrite : ∀ f w, W f → I w → I (V.write f w))
    (hcall : ∀ e w b w', E e → I w → V.onCall e w b w' → I w') (hp : Within W E p) (h : I w) :
    wp V (fun e w ↦ E e ∧ I w) p (fun _ ↦ I) w := by
  induction p generalizing w with
  | ret a => exact h
  | read g ih => exact ih w.1 (hp w.1) h
  | write f p ih => exact ih hp.2 (hwrite f w hp.1 h)
  | call e g ih => exact ⟨⟨hp.1, h⟩, fun b w' hb ↦ ih b (hp.2 b) (hcall e w b w' hp.1 h hb)⟩

/-- **A stable invariant that the writes and calls of a program keep** holds throughout it. -/
theorem rg_of_within {I : σ × Γ → Prop} (hI : ∀ w w', T.rely w w' → I w → I w')
    (hwrite : ∀ f w, W f → I w → T.guarantee w (V.write f w) ∧ I (V.write f w))
    (hcall : ∀ e w, E e → I w → C e w ∧ ∀ b w', V.onCall e w b w' → T.guarantee w w' ∧ I w')
    (hp : Within W E p) (h : I w) : rg V T C p (fun _ ↦ I) w := by
  induction p generalizing w with
  | ret a => exact fun w' hr ↦ hI w w' hr h
  | read g ih => exact fun w' hr ↦ ih w'.1 (hp w'.1) (hI w w' hr h)
  | write f p ih =>
    intro w' hr
    obtain ⟨hg, hinv⟩ := hwrite f w' hp.1 (hI w w' hr h)
    exact ⟨hg, ih hp.2 hinv⟩
  | call e g ih =>
    intro w' hr
    obtain ⟨hc, hnext⟩ := hcall e w' hp.1 (hI w w' hr h)
    exact ⟨hc, fun b w'' hb ↦ ⟨(hnext b w'' hb).1, ih b (hp.2 b) (hnext b w'' hb).2⟩⟩

end Within

end Prog
