import UgreenNas.Effect.Proc

/-! # Procedures that move along a relation

    A procedure that leaves its context alone may still move the state.  It
    moves *along* a relation if every state it passes through is related to
    the one it has started in, and the last one too.  For a preorder the
    parts of a procedure may be looked at one by one.
-/

namespace Effect.Proc

variable {S : Sig} {σ κ ε δ α β : Type}

/-- `m` leaves the context alone and moves along `R`; what it returns, if it
    succeeds, satisfies `P`. -/
def Along (E : Env S σ) (R : σ → σ → Prop) (m : Proc S κ ε α) (P : α → σ → Prop) (c : κ) (s : σ) :
    Prop :=
  wp E (R s) m (fun r c' s' => c' = c ∧ R s s' ∧ ∀ a, r = .ok a → P a s') c s

namespace Along

variable {E : Env S σ} {R : σ → σ → Prop} {c : κ} {s : σ}

theorem pure [Std.Refl R] {a : α} {P : α → σ → Prop} (h : P a s) :
    Along E R (Pure.pure a : Proc S κ ε α) P c s := by
  refine ⟨rfl, Std.Refl.refl s, ?_⟩
  intro b hb
  obtain rfl := Except.ok.inj hb
  exact h

theorem lift [Std.Refl R] {x : Except ε α} {P : α → σ → Prop} (h : ∀ a, x = .ok a → P a s) :
    Along E R (Proc.lift x : Proc S κ ε α) P c s :=
  ⟨rfl, Std.Refl.refl s, h⟩

theorem bail [Std.Refl R] {p : Prop} [Decidable p] {e : ε} :
    Along E R (Proc.bail p e : Proc S κ ε Unit) (fun _ s' => s' = s ∧ ¬ p) c s := by
  refine (wp_bail p e _).mpr ⟨?_, ?_⟩
  · intro _
    exact ⟨rfl, Std.Refl.refl s, fun _ h => (by cases h)⟩
  · intro hp
    exact ⟨rfl, Std.Refl.refl s, fun _ _ => ⟨rfl, hp⟩⟩

theorem ask {o : S.Op} {P : S.Ans o → σ → Prop} (h : ∀ b s', E s o b s' → R s s' ∧ P b s') :
    Along E R (Proc.ask o : Proc S κ ε _) P c s := by
  refine (wp_ask o _).mpr ?_
  intro b s' hstep
  obtain ⟨hR, hP⟩ := h b s' hstep
  refine ⟨hR, rfl, hR, ?_⟩
  intro a ha
  obtain rfl := Except.ok.inj ha
  exact hP

theorem mono {m : Proc S κ ε α} {P P' : α → σ → Prop} (h : Along E R m P c s)
    (hP : ∀ a s', R s s' → P a s' → P' a s') : Along E R m P' c s := by
  refine wp_mono h (fun _ hR => hR) ?_
  intro r c' s' hr
  obtain ⟨hc, hR, hok⟩ := hr
  exact ⟨hc, hR, fun a ha => hP a s' hR (hok a ha)⟩

/-- The sequencing rule. -/
theorem bind [IsTrans σ R] {m : Proc S κ ε α} {f : α → Proc S κ ε β} {P : α → σ → Prop}
    {Q : β → σ → Prop} (hm : Along E R m P c s)
    (hf : ∀ a s', R s s' → P a s' → Along E R (f a) Q c s') : Along E R (m >>= f) Q c s := by
  apply wp_seq hm
  · intro a c' s' hr
    obtain ⟨rfl, hR, hok⟩ := hr
    refine wp_mono (hf a s' hR (hok a rfl)) (fun _ hR' => IsTrans.trans _ _ _ hR hR') ?_
    intro r c'' s'' hr'
    obtain ⟨hc', hR', hok'⟩ := hr'
    exact ⟨hc', IsTrans.trans _ _ _ hR hR', hok'⟩
  · intro e c' s' hr
    obtain ⟨hc, hR, -⟩ := hr
    exact ⟨hc, hR, fun _ h => (by cases h)⟩

theorem attempt {m : Proc S κ ε α} {P : α → σ → Prop} (hm : Along E R m P c s) :
    Along E R (Proc.attempt m : Proc S κ δ _) (fun r s' => ∀ a, r = .ok a → P a s') c s := by
  refine (wp_attempt m _).mpr (wp_mono hm (fun _ hR => hR) ?_)
  intro r c' s' hr
  obtain ⟨hc, hR, hok⟩ := hr
  refine ⟨hc, hR, ?_⟩
  intro r' hr'
  obtain rfl := Except.ok.inj hr'
  exact hok

/-- The sequencing rule with a weakest precondition behind it. -/
theorem wp_then {I : σ → Prop} {m : Proc S κ ε α} {f : α → Proc S κ ε β} {P : α → σ → Prop}
    {Q : Except ε β → κ → σ → Prop} (hm : Along E R m P c s) (hI : ∀ s', R s s' → I s')
    (hok : ∀ a s', R s s' → P a s' → wp E I (f a) Q c s')
    (herr : ∀ e s', R s s' → Q (.error e) c s') : wp E I (m >>= f) Q c s := by
  refine wp_seq (wp_mono hm hI fun _ _ _ hr => hr) ?_ ?_
  · intro a c' s' hr
    obtain ⟨rfl, hR, hP⟩ := hr
    exact hok a s' hR (hP a rfl)
  · intro e c' s' hr
    obtain ⟨rfl, hR, -⟩ := hr
    exact herr e s' hR

end Along

end Effect.Proc
