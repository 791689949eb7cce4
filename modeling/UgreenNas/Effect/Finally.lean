import UgreenNas.Effect.Proc

/-! # Clean-up

    `try: m finally: cleanup` runs the clean-up whatever became of `m`.  A
    failure of the clean-up takes the place of the outcome of `m`, also of
    its failure.  The variables of such a block are a context of its own.

    * `always` : run something and clean up behind it;
    * `block`  : run something with variables of its own;
    * `Silent` : a procedure that an observer of the state does not notice.
-/

namespace Effect

variable {S : Sig} {σ τ κ ε δ α β : Type}

namespace Proc

/-- `try: m finally: cleanup` -/
def always (m : Proc S κ ε α) (cleanup : Proc S κ ε Unit) : Proc S κ ε α := do
  let r ← attempt m
  cleanup
  lift r

/-- Run `m` with the variables `c`, which are gone behind it. -/
def block (c : δ) (m : Proc S δ ε α) : Proc S κ ε α := fun outer =>
  (m c).bind fun r => .pure (r.1, outer)

section wp

variable {E : Env S σ} {I : σ → Prop} {c : κ} {s : σ}

theorem wp_block (inner : δ) (m : Proc S δ ε α) (Q : Except ε α → κ → σ → Prop) :
    wp E I (block inner m) Q c s ↔ wp E I m (fun r _ s' => Q r c s') inner s := by
  show Prog.wp E I ((m inner).bind _) _ s ↔ _
  rw [Prog.wp_bind]
  rfl

/-- The rule for a clean-up: it starts from every outcome. -/
theorem wp_always {m : Proc S κ ε α} {cleanup : Proc S κ ε Unit} {R : Except ε α → κ → σ → Prop}
    {Q : Except ε α → κ → σ → Prop} (hm : wp E I m R c s)
    (hclean : ∀ r c' s', R r c' s' → wp E I cleanup (fun u c'' s'' => match u with
      | .ok _ => Q r c'' s''
      | .error e => Q (.error e) c'' s'') c' s') :
    wp E I (always m cleanup) Q c s := by
  unfold always
  rw [wp_bind, wp_attempt]
  apply wp_mono hm (fun _ hI => hI)
  intro r c' s' hR
  dsimp only
  rw [wp_bind]
  apply wp_mono (hclean r c' s' hR) (fun _ hI => hI)
  intro u c'' s'' hu
  cases u with
  | ok _ => exact hu
  | error e => exact hu

end wp

/-! ## What goes unnoticed -/

/-- `m` leaves its variables alone, and what `f` sees of the state. -/
def Silent (E : Env S σ) (f : σ → τ) (m : Proc S κ ε α) : Prop :=
  ∀ c s, wp E (fun _ => True) m (fun _ c' s' => c' = c ∧ f s' = f s) c s

section silent

variable {E : Env S σ} {f : σ → τ}

theorem silent_pure (a : α) : Silent E f (pure a : Proc S κ ε α) := fun _ _ => ⟨rfl, rfl⟩

theorem silent_ctx : Silent E f (ctx : Proc S κ ε κ) := fun _ _ => ⟨rfl, rfl⟩

theorem silent_fail (e : ε) : Silent E f (fail e : Proc S κ ε α) := fun _ _ => ⟨rfl, rfl⟩

theorem silent_lift (x : Except ε α) : Silent E f (lift x : Proc S κ ε α) :=
  fun _ _ => ⟨rfl, rfl⟩

theorem silent_bail (p : Prop) [Decidable p] (e : ε) :
    Silent E f (bail p e : Proc S κ ε Unit) := by
  unfold bail
  split
  · exact silent_fail e
  · exact silent_pure ()

theorem silent_ask {o : S.Op} (ho : ∀ s b s', E s o b s' → f s' = f s) :
    Silent E f (ask o : Proc S κ ε _) :=
  fun _ s b s' hstep => ⟨trivial, rfl, ho s b s' hstep⟩

theorem Silent.bind {m : Proc S κ ε α} {g : α → Proc S κ ε β} (hm : Silent E f m)
    (hg : ∀ a, Silent E f (g a)) : Silent E f (m >>= g) := by
  intro c s
  apply wp_seq (hm c s)
  · intro a c' s' ⟨hc, hs⟩
    have hrest := hg a c' s'
    rw [hc, hs] at hrest
    rw [hc]
    exact hrest
  · intro e c' s' h
    exact h

theorem Silent.recover {m : Proc S κ ε α} {g : ε → Proc S κ δ α} (hm : Silent E f m)
    (hg : ∀ e, Silent E f (g e)) : Silent E f (recover m g) := by
  intro c s
  apply wp_handle (hm c s)
  · intro a c' s' h
    exact h
  · intro e c' s' ⟨hc, hs⟩
    have hrest := hg e c' s'
    rw [hc, hs] at hrest
    rw [hc]
    exact hrest

theorem Silent.mapError {m : Proc S κ ε α} (hm : Silent E f m) (g : ε → δ) :
    Silent E f (mapError m g) :=
  hm.recover fun e => silent_fail (g e)

theorem Silent.attempt {m : Proc S κ ε α} (hm : Silent E f m) :
    Silent E f (attempt m : Proc S κ δ _) := by
  intro c s
  rw [wp_attempt]
  exact hm c s

theorem Silent.always {m : Proc S κ ε α} {cleanup : Proc S κ ε Unit} (hm : Silent E f m)
    (hclean : Silent E f cleanup) : Silent E f (always m cleanup) :=
  hm.attempt.bind fun r => hclean.bind fun _ => silent_lift r

end silent

end Proc

end Effect
