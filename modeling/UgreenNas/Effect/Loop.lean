import UgreenNas.Effect.Prog

/-! # Loops

    A `while` loop may run for ever, so it is not a program.  It is given by
    its body, which either goes on with a new loop state or leaves with a
    result, and by the states it passes through at its head.
-/

namespace Effect

variable {S : Sig} {σ α β : Type}

/-- One pass of a loop. -/
abbrev Body (S : Sig) (β α : Type) : Type := β → Prog S (β ⊕ α)

namespace Loop

/-- `Heads E body b s b' s'`: the loop entered with `b` in `s` comes to its
    head with `b'` in `s'`. -/
inductive Heads (E : Env S σ) (body : Body S β α) (b : β) (s : σ) : β → σ → Prop where
  | refl : Heads E body b s b s
  | step {b' b'' : β} {s' s'' : σ} : Heads E body b s b' s' →
      Prog.Runs E (body b') s' (.inl b'') s'' → Heads E body b s b'' s''

/-- Complete runs: from the head the last pass leaves. -/
def Runs (E : Env S σ) (body : Body S β α) (b : β) (s : σ) (a : α) (s'' : σ) : Prop :=
  ∃ b' s', Heads E body b s b' s' ∧ Prog.Runs E (body b') s' (.inr a) s''

/-- What one pass has to show of a loop invariant `I` and a postcondition `Q`. -/
def After (I : β → σ → Prop) (Q : α → σ → Prop) : β ⊕ α → σ → Prop
  | .inl b, s => I b s
  | .inr a, s => Q a s

/-- What every operation preserves holds at every head. -/
theorem Heads.preserves {E : Env S σ} {I : σ → Prop} (hE : ∀ s o b s', E s o b s' → I s → I s')
    {body : Body S β α} {b b' : β} {s s' : σ} (h : Heads E body b s b' s') (hs : I s) : I s' := by
  induction h with
  | refl => exact hs
  | step _ hpass ih => exact hpass.preserves hE ih

section rules

variable {E : Env S σ} {body : Body S β α} {I : β → σ → Prop} {J : σ → Prop}
  {Q : α → σ → Prop} {b b' : β} {s s' : σ}

/-- An invariant of the loop holds whenever it comes to its head. -/
theorem Heads.invariant (hbody : ∀ b s, I b s → Prog.wp E J (body b) (After I Q) s)
    (h : Heads E body b s b' s') (hI : I b s) : I b' s' := by
  induction h with
  | refl => exact hI
  | step _ hpass ih =>
    have hafter := Prog.wp_runs (hbody _ _ ih) hpass
    exact hafter

/-- The rule for loops. -/
theorem Runs.post (hbody : ∀ b s, I b s → Prog.wp E J (body b) (After I Q) s) {a : α}
    (h : Runs E body b s a s') (hI : I b s) : Q a s' := by
  obtain ⟨b₁, s₁, hheads, hlast⟩ := h
  have hafter := Prog.wp_runs (hbody b₁ s₁ (hheads.invariant hbody hI)) hlast
  exact hafter

/-- Between two heads a pass keeps to its own invariant. -/
theorem Heads.reaches (hbody : ∀ b s, I b s → Prog.wp E J (body b) (After I Q) s)
    (hJ : ∀ b s, I b s → J s) (h : Heads E body b s b' s') (hI : I b s)
    {p : Prog S (β ⊕ α)} {s'' : σ} (hreach : Prog.Reaches E (body b') s' p s'') : J s'' := by
  have hhead := h.invariant hbody hI
  exact (Prog.wp_reaches (hJ b' s' hhead) (hbody b' s' hhead) hreach).1

/-- The rule for loops that end: every pass has a run, and brings a measure
    down where it goes on. -/
theorem Runs.total (measure : β → Nat)
    (hpass : ∀ b s, I b s → ∃ r s', Prog.Runs E (body b) s r s' ∧
      After (fun b' s' => I b' s' ∧ measure b' < measure b) Q r s') (hI : I b s) :
    ∃ a s', Runs E body b s a s' ∧ Q a s' := by
  -- the passes so far are kept, so that the last one ends the whole loop
  have hfrom : ∀ n b' s', measure b' = n → Heads E body b s b' s' → I b' s' →
      ∃ a s'', Runs E body b s a s'' ∧ Q a s'' := by
    intro n
    induction n using Nat.strongRecOn with
    | ind n ih =>
      intro b' s' hn hheads hI'
      obtain ⟨r, s'', hrun, hnext⟩ := hpass b' s' hI'
      cases r with
      | inr a => exact ⟨a, s'', ⟨b', s', hheads, hrun⟩, hnext⟩
      | inl b'' =>
        obtain ⟨hI'', hless⟩ := hnext
        rw [hn] at hless
        exact ih (measure b'') hless b'' s'' rfl (hheads.step hrun) hI''
  exact hfrom (measure b) b s rfl .refl hI

/-- A loop is its first pass and what follows. -/
theorem Heads.cases_first (h : Heads E body b s b' s') :
    (b' = b ∧ s' = s) ∨
      ∃ b₁ s₁, Prog.Runs E (body b) s (.inl b₁) s₁ ∧ Heads E body b₁ s₁ b' s' := by
  induction h with
  | refl => exact .inl ⟨rfl, rfl⟩
  | step _ hlast ih =>
    rcases ih with ⟨rfl, rfl⟩ | ⟨b₁, s₁, hfirst, hrest⟩
    · exact .inr ⟨_, _, hlast, .refl⟩
    · exact .inr ⟨b₁, s₁, hfirst, hrest.step hlast⟩

/-- Where every answer is determined, a loop that ends comes to its end from
    every head. -/
theorem Heads.rest (hE : Prog.Deterministic E) (h : Heads E body b s b' s') {a : α} {s'' : σ}
    (hruns : Runs E body b s a s'') : Runs E body b' s' a s'' := by
  induction h with
  | refl => exact hruns
  | step _ hpass ih =>
    obtain ⟨b₁, s₁, hheads, hlast⟩ := ih
    rcases hheads.cases_first with ⟨rfl, rfl⟩ | ⟨b₂, s₂, hfirst, hrest⟩
    · have hdone := (hpass.unique hE hlast).1
      cases hdone
    · obtain ⟨hnext, hs₂⟩ := hpass.unique hE hfirst
      obtain rfl := Sum.inl.inj hnext
      subst hs₂
      exact ⟨b₁, s₁, hrest, hlast⟩

/-- So it has one end. -/
theorem Runs.unique (hE : Prog.Deterministic E) {a a' : α} {s'' : σ}
    (h : Runs E body b s a s') (h' : Runs E body b s a' s'') : a = a' ∧ s' = s'' := by
  obtain ⟨b₁, s₁, hheads, hlast⟩ := h
  obtain ⟨b₂, s₂, hheads', hlast'⟩ := hheads.rest hE h'
  rcases hheads'.cases_first with ⟨rfl, rfl⟩ | ⟨b₃, s₃, hfirst, -⟩
  · obtain ⟨ha, hs⟩ := hlast.unique hE hlast'
    exact ⟨Sum.inr.inj ha, hs⟩
  · have hdone := (hlast.unique hE hfirst).1
    cases hdone

end rules

end Loop

end Effect
