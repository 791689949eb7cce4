import UgreenNas.Effect.Prog

/-! # Procedures: programs with a context and early failure

    A C function that works on a context structure `c`, performs accesses
    and leaves early with an error code is a `Proc`: it takes the context,
    runs as a `Prog`, and returns a result or a failure together with the
    context as it is then.  The context survives a failure, as the memory
    behind a pointer does.
-/

namespace Effect

/-- A procedure over the signature `S` with context `κ`, failures `ε` and
    results `α`. -/
def Proc (S : Sig) (κ ε α : Type) : Type := κ → Prog S (Except ε α × κ)

variable {S : Sig} {σ κ ε δ α β : Type}

namespace Proc

instance : Monad (Proc S κ ε) where
  pure a := fun c => .pure (.ok a, c)
  bind m f := fun c => (m c).bind fun
    | (.ok a, c') => f a c'
    | (.error e, c') => .pure (.error e, c')

/-- `return -e;` -/
def fail (e : ε) : Proc S κ ε α := fun c => .pure (.error e, c)

/-- `if (p) return -e;` -/
def bail (p : Prop) [Decidable p] (e : ε) : Proc S κ ε Unit :=
  if p then fail e else pure ()

/-- The context. -/
def ctx : Proc S κ ε κ := fun c => .pure (.ok c, c)

/-- Assignments to fields of the context. -/
def update (f : κ → κ) : Proc S κ ε Unit := fun c => .pure (.ok (), f c)

/-- One operation of the environment. -/
def ask (o : S.Op) : Proc S κ ε (S.Ans o) := fun c => (Prog.call o).bind fun b => .pure (.ok b, c)

/-- Leave with the failure of `x`, if it is one. -/
def lift (x : Except ε α) : Proc S κ ε α := fun c => .pure (x, c)

/-- Run `m` and keep its result or failure as a value: `r = m();`. -/
def attempt (m : Proc S κ ε α) : Proc S κ δ (Except ε α) := fun c =>
  (m c).bind fun r => .pure (.ok r.1, r.2)

/-- Run `m`, and `f` in place of a failure. -/
def recover (m : Proc S κ ε α) (f : ε → Proc S κ δ α) : Proc S κ δ α := fun c =>
  (m c).bind fun
    | (.ok a, c') => .pure (.ok a, c')
    | (.error e, c') => f e c'

/-- Translate the failures of `m`. -/
def mapError (m : Proc S κ ε α) (f : ε → δ) : Proc S κ δ α := m.recover fun e => fail (f e)

/-- The program that `m` is in the context `c`. -/
def run (m : Proc S κ ε α) (c : κ) : Prog S (Except ε α × κ) := m c

/-- Complete runs of a procedure. -/
def Runs (E : Env S σ) (m : Proc S κ ε α) (c : κ) (s : σ) (r : Except ε α) (c' : κ) (s' : σ) :
    Prop :=
  Prog.Runs E (m.run c) s (r, c') s'

/-- Weakest precondition of a procedure: the postcondition sees the result
    or failure, the context and the state. -/
def wp (E : Env S σ) (I : σ → Prop) (m : Proc S κ ε α) (Q : Except ε α → κ → σ → Prop)
    (c : κ) (s : σ) : Prop :=
  Prog.wp E I (m.run c) (fun r s' => Q r.1 r.2 s') s

/-- A check that passes is not there. -/
theorem bail_neg {p : Prop} [Decidable p] (hp : ¬ p) (e : ε) (f : Unit → Proc S κ ε α) :
    (bail p e >>= f) = f () := by
  unfold bail
  rw [if_neg hp]
  rfl

/-- A check that fails is all there is. -/
theorem bail_pos {p : Prop} [Decidable p] (hp : p) (e : ε) (f : Unit → Proc S κ ε α) :
    (bail p e >>= f) = fail e := by
  unfold bail
  rw [if_pos hp]
  rfl

section wp

variable {E : Env S σ} {I : σ → Prop} {c : κ} {s : σ}

theorem wp_run (m : Proc S κ ε α) (Q : Except ε α × κ → σ → Prop) :
    Prog.wp E I (m.run c) Q s ↔ wp E I m (fun r c' s' => Q (r, c') s') c s := Iff.rfl

@[simp] theorem wp_pure (a : α) (Q : Except ε α → κ → σ → Prop) :
    wp E I (pure a) Q c s ↔ Q (.ok a) c s := Iff.rfl

@[simp] theorem wp_fail (e : ε) (Q : Except ε α → κ → σ → Prop) :
    wp E I (fail e) Q c s ↔ Q (.error e) c s := Iff.rfl

@[simp] theorem wp_ctx (Q : Except ε κ → κ → σ → Prop) :
    wp E I ctx Q c s ↔ Q (.ok c) c s := Iff.rfl

@[simp] theorem wp_update (f : κ → κ) (Q : Except ε Unit → κ → σ → Prop) :
    wp E I (update f) Q c s ↔ Q (.ok ()) (f c) s := Iff.rfl

@[simp] theorem wp_lift (x : Except ε α) (Q : Except ε α → κ → σ → Prop) :
    wp E I (lift x) Q c s ↔ Q x c s := Iff.rfl

theorem wp_ask (o : S.Op) (Q : Except ε (S.Ans o) → κ → σ → Prop) :
    wp E I (ask o) Q c s ↔ ∀ b s', E s o b s' → I s' ∧ Q (.ok b) c s' := Iff.rfl

theorem wp_bail (p : Prop) [Decidable p] (e : ε) (Q : Except ε Unit → κ → σ → Prop) :
    wp E I (bail p e) Q c s ↔ (p → Q (.error e) c s) ∧ (¬ p → Q (.ok ()) c s) := by
  unfold bail
  by_cases hp : p
  · simp [hp]
  · simp [hp]

theorem wp_bind (m : Proc S κ ε α) (f : α → Proc S κ ε β) (Q : Except ε β → κ → σ → Prop) :
    wp E I (m >>= f) Q c s ↔
      wp E I m (fun r c' s' => match r with
        | .ok a => wp E I (f a) Q c' s'
        | .error e => Q (.error e) c' s') c s := by
  show Prog.wp E I ((m c).bind _) _ s ↔ _
  rw [Prog.wp_bind]
  constructor
  · intro h
    refine Prog.wp_mono h (fun _ hI => hI) ?_
    rintro ⟨a | a, c'⟩ s' hr <;> exact hr
  · intro h
    refine Prog.wp_mono h (fun _ hI => hI) ?_
    rintro ⟨a | a, c'⟩ s' hr <;> exact hr

theorem wp_ctx_then (f : κ → Proc S κ ε α) (Q : Except ε α → κ → σ → Prop) :
    wp E I (ctx >>= f) Q c s ↔ wp E I (f c) Q c s :=
  wp_bind ctx f Q

theorem wp_update_then (f : κ → κ) (g : Unit → Proc S κ ε α) (Q : Except ε α → κ → σ → Prop) :
    wp E I (update f >>= g) Q c s ↔ wp E I (g ()) Q (f c) s :=
  wp_bind (update f) g Q

theorem wp_attempt (m : Proc S κ ε α) (Q : Except δ (Except ε α) → κ → σ → Prop) :
    wp E I (attempt m) Q c s ↔ wp E I m (fun r c' s' => Q (.ok r) c' s') c s := by
  show Prog.wp E I ((m c).bind _) _ s ↔ _
  rw [Prog.wp_bind]
  rfl

theorem wp_recover (m : Proc S κ ε α) (f : ε → Proc S κ δ α) (Q : Except δ α → κ → σ → Prop) :
    wp E I (recover m f) Q c s ↔
      wp E I m (fun r c' s' => match r with
        | .ok a => Q (.ok a) c' s'
        | .error e => wp E I (f e) Q c' s') c s := by
  show Prog.wp E I ((m c).bind _) _ s ↔ _
  rw [Prog.wp_bind]
  constructor
  · intro h
    refine Prog.wp_mono h (fun _ hI => hI) ?_
    rintro ⟨a | a, c'⟩ s' hr <;> exact hr
  · intro h
    refine Prog.wp_mono h (fun _ hI => hI) ?_
    rintro ⟨a | a, c'⟩ s' hr <;> exact hr

theorem wp_mono {J : σ → Prop} {m : Proc S κ ε α} {Q R : Except ε α → κ → σ → Prop}
    (h : wp E I m Q c s) (hIJ : ∀ s', I s' → J s') (hQR : ∀ r c' s', Q r c' s' → R r c' s') :
    wp E J m R c s :=
  Prog.wp_mono h hIJ fun r s' => hQR r.1 r.2 s'

theorem wp_keeps {m : Proc S κ ε α} {Q : Except ε α → κ → σ → Prop} (hs : I s)
    (h : wp E I m Q c s) : wp E I m (fun r c' s' => I s' ∧ Q r c' s') c s :=
  Prog.wp_keeps hs h

/-- The sequencing rule: a spec of the first part, and for each of its
    outcomes what is left to show. -/
theorem wp_seq {m : Proc S κ ε α} {f : α → Proc S κ ε β} {R : Except ε α → κ → σ → Prop}
    {Q : Except ε β → κ → σ → Prop} (hm : wp E I m R c s)
    (hok : ∀ a c' s', R (.ok a) c' s' → wp E I (f a) Q c' s')
    (herr : ∀ e c' s', R (.error e) c' s' → Q (.error e) c' s') :
    wp E I (m >>= f) Q c s := by
  rw [wp_bind]
  refine wp_mono hm (fun _ hI => hI) ?_
  intro r c' s' hR
  cases r with
  | ok a => exact hok a c' s' hR
  | error e => exact herr e c' s' hR

/-- The rule for a handled failure. -/
theorem wp_handle {m : Proc S κ ε α} {f : ε → Proc S κ δ α} {R : Except ε α → κ → σ → Prop}
    {Q : Except δ α → κ → σ → Prop} (hm : wp E I m R c s)
    (hok : ∀ a c' s', R (.ok a) c' s' → Q (.ok a) c' s')
    (herr : ∀ e c' s', R (.error e) c' s' → wp E I (f e) Q c' s') :
    wp E I (recover m f) Q c s := by
  rw [wp_recover]
  refine wp_mono hm (fun _ hI => hI) ?_
  intro r c' s' hR
  cases r with
  | ok a => exact hok a c' s' hR
  | error e => exact herr e c' s' hR

theorem wp_mapError {m : Proc S κ ε α} {f : ε → δ} {R : Except ε α → κ → σ → Prop}
    {Q : Except δ α → κ → σ → Prop} (hm : wp E I m R c s)
    (hok : ∀ a c' s', R (.ok a) c' s' → Q (.ok a) c' s')
    (herr : ∀ e c' s', R (.error e) c' s' → Q (.error (f e)) c' s') :
    wp E I (mapError m f) Q c s :=
  wp_handle hm hok herr

theorem wp_runs {m : Proc S κ ε α} {Q : Except ε α → κ → σ → Prop} {r : Except ε α} {c' : κ}
    {s' : σ} (h : wp E I m Q c s) (hr : Runs E m c s r c' s') : Q r c' s' := by
  exact @Prog.wp_runs S σ _ E I (m c) (fun r s' => Q r.1 r.2 s') s s' (r, c') h hr

end wp

/-! ## What may happen -/

/-- Some run of `m` ends in `Q`. -/
def May (E : Env S σ) (m : Proc S κ ε α) (Q : Except ε α → κ → σ → Prop) (c : κ) (s : σ) : Prop :=
  ∃ r c' s', Runs E m c s r c' s' ∧ Q r c' s'

section may

variable {E : Env S σ} {c : κ} {s : σ}

theorem may_pure {a : α} {Q : Except ε α → κ → σ → Prop} (h : Q (.ok a) c s) :
    May E (pure a) Q c s :=
  ⟨_, _, _, Prog.Runs.pure, h⟩

theorem may_fail {e : ε} {Q : Except ε α → κ → σ → Prop} (h : Q (.error e) c s) :
    May E (fail e) Q c s :=
  ⟨_, _, _, Prog.Runs.pure, h⟩

theorem may_lift {x : Except ε α} {Q : Except ε α → κ → σ → Prop} (h : Q x c s) :
    May E (lift x) Q c s :=
  ⟨_, _, _, Prog.Runs.pure, h⟩

theorem may_ctx {Q : Except ε κ → κ → σ → Prop} (h : Q (.ok c) c s) : May E ctx Q c s :=
  ⟨_, _, _, Prog.Runs.pure, h⟩

theorem may_update {f : κ → κ} {Q : Except ε Unit → κ → σ → Prop} (h : Q (.ok ()) (f c) s) :
    May E (update f) Q c s :=
  ⟨_, _, _, Prog.Runs.pure, h⟩

theorem may_ask {o : S.Op} {b : S.Ans o} {s' : σ} {Q : Except ε (S.Ans o) → κ → σ → Prop}
    (hstep : E s o b s') (h : Q (.ok b) c s') : May E (ask o) Q c s :=
  ⟨_, _, _, Prog.Runs.op hstep Prog.Runs.pure, h⟩

theorem may_mono {m : Proc S κ ε α} {Q R : Except ε α → κ → σ → Prop} (h : May E m Q c s)
    (hQR : ∀ r c' s', Q r c' s' → R r c' s') : May E m R c s := by
  obtain ⟨r, c', s', hrun, hQ⟩ := h
  exact ⟨r, c', s', hrun, hQR r c' s' hQ⟩

/-- What is true of every run is true of one that may happen. -/
theorem may_and {I : σ → Prop} {m : Proc S κ ε α} {P Q : Except ε α → κ → σ → Prop}
    (hwp : wp E I m P c s) (h : May E m Q c s) :
    May E m (fun r c' s' => P r c' s' ∧ Q r c' s') c s := by
  obtain ⟨r, c', s', hrun, hQ⟩ := h
  exact ⟨r, c', s', hrun, wp_runs hwp hrun, hQ⟩

theorem may_seq {m : Proc S κ ε α} {f : α → Proc S κ ε β} {R : Except ε α → κ → σ → Prop}
    {Q : Except ε β → κ → σ → Prop} (hm : May E m R c s)
    (hok : ∀ a c' s', R (.ok a) c' s' → May E (f a) Q c' s')
    (herr : ∀ e c' s', R (.error e) c' s' → Q (.error e) c' s') :
    May E (m >>= f) Q c s := by
  obtain ⟨r, c', s', hrun, hR⟩ := hm
  cases r with
  | ok a =>
    obtain ⟨r', c'', s'', hrun', hQ⟩ := hok a c' s' hR
    exact ⟨r', c'', s'', Prog.Runs.bind hrun hrun', hQ⟩
  | error e => exact ⟨.error e, c', s', Prog.Runs.bind hrun Prog.Runs.pure, herr e c' s' hR⟩

theorem may_handle {m : Proc S κ ε α} {f : ε → Proc S κ δ α} {R : Except ε α → κ → σ → Prop}
    {Q : Except δ α → κ → σ → Prop} (hm : May E m R c s)
    (hok : ∀ a c' s', R (.ok a) c' s' → Q (.ok a) c' s')
    (herr : ∀ e c' s', R (.error e) c' s' → May E (f e) Q c' s') :
    May E (recover m f) Q c s := by
  obtain ⟨r, c', s', hrun, hR⟩ := hm
  cases r with
  | ok a => exact ⟨.ok a, c', s', Prog.Runs.bind hrun Prog.Runs.pure, hok a c' s' hR⟩
  | error e =>
    obtain ⟨r', c'', s'', hrun', hQ⟩ := herr e c' s' hR
    exact ⟨r', c'', s'', Prog.Runs.bind hrun hrun', hQ⟩

theorem may_attempt {m : Proc S κ ε α} {Q : Except δ (Except ε α) → κ → σ → Prop}
    (hm : May E m (fun r c' s' => Q (.ok r) c' s') c s) : May E (attempt m) Q c s := by
  obtain ⟨r, c', s', hrun, hQ⟩ := hm
  exact ⟨.ok r, c', s', Prog.Runs.bind hrun Prog.Runs.pure, hQ⟩

/-- What may happen in a deterministic environment always does. -/
theorem May.always (hE : Prog.Deterministic E) {m : Proc S κ ε α}
    {Q : Except ε α → κ → σ → Prop} (h : May E m Q c s) : wp E (fun _ => True) m Q c s := by
  obtain ⟨r, c', s', hrun, hQ⟩ := h
  apply Prog.wp_of_runs
  intro r' s'' hrun'
  obtain ⟨rfl, rfl⟩ := Prog.Runs.unique hE hrun hrun'
  exact hQ

/-- It may happen in every environment that allows more. -/
theorem May.widen {F : Env S σ} (hEF : ∀ s o b s', E s o b s' → F s o b s') {m : Proc S κ ε α}
    {Q : Except ε α → κ → σ → Prop} (h : May E m Q c s) : May F m Q c s := by
  obtain ⟨r, c', s', hrun, hQ⟩ := h
  exact ⟨r, c', s', Prog.Runs.mono hEF hrun, hQ⟩

end may

/-! ## What is bound to succeed -/

/-- `m` has a run, and all of its runs succeed. -/
def Succeeds (E : Env S σ) (m : Proc S κ ε α) (c : κ) (s : σ) : Prop :=
  (∃ a c' s', Runs E m c s (.ok a) c' s') ∧ ∀ r c' s', Runs E m c s r c' s' → ∃ a, r = .ok a

/-- If a sequence is bound to succeed, so is its first part. -/
theorem Succeeds.first {E : Env S σ} {m : Proc S κ ε α} {f : α → Proc S κ ε β} {c : κ} {s : σ}
    (h : Succeeds E (m >>= f) c s) : Succeeds E m c s := by
  obtain ⟨⟨b, c', s', hrun⟩, hall⟩ := h
  constructor
  · obtain ⟨⟨r, c₁⟩, s₁, hfirst, hrest⟩ := Prog.Runs.of_bind hrun
    cases r with
    | ok a => exact ⟨a, c₁, s₁, hfirst⟩
    | error e => cases hrest
  · intro r c₁ s₁ hfirst
    cases r with
    | ok a => exact ⟨a, rfl⟩
    | error e =>
      obtain ⟨a, heq⟩ := hall (.error e) c₁ s₁ (Prog.Runs.bind hfirst .pure)
      cases heq

end Proc

end Effect
