import Mathlib.Logic.Relation

/-! # Programs over an effect signature

    A program is a finitely deep tree: it either has a result, or asks its
    environment one operation and goes on with the answer.  What an
    operation does is not part of the program.  An *environment* is a
    relation: which answers an operation may get in a state, and which state
    follows.  A device that may fail at any access, a peer that may
    disconnect, a crash between two calls are all answers of an environment.

    * `Runs`    : complete runs of a program in an environment;
    * `Reaches` : partial runs, cut after any operation;
    * `wp`      : the weakest precondition over every run, together with an
                  invariant of every state the run passes through;
    * `exec`    : one run, the environment being a function.
-/

namespace Effect

/-- The operations a program may ask for, and the type of their answers. -/
structure Sig where
  Op : Type
  Ans : Op → Type

/-- A program over the signature `S` with results in `α`. -/
inductive Prog (S : Sig) (α : Type) : Type where
  | pure (a : α) : Prog S α
  | op (o : S.Op) (k : S.Ans o → Prog S α) : Prog S α

/-- An environment: `E s o b s'` says that in state `s` the operation `o`
    may answer `b` and leave the state `s'`. -/
abbrev Env (S : Sig) (σ : Type) : Type := σ → (o : S.Op) → S.Ans o → σ → Prop

variable {S : Sig} {σ α β : Type}

namespace Prog

/-- Sequencing: graft `f` on the leaves. -/
def bind : Prog S α → (α → Prog S β) → Prog S β
  | .pure a, f => f a
  | .op o k, f => .op o fun b => (k b).bind f

instance : Monad (Prog S) where
  pure := .pure
  bind := .bind

/-- The program that asks for one operation and returns its answer. -/
def call (o : S.Op) : Prog S (S.Ans o) := .op o .pure

/-! ## Runs -/

/-- `Runs E p s a s'`: in the environment `E` the program `p`, started in
    `s`, may return `a` and leave the state `s'`. -/
inductive Runs (E : Env S σ) : Prog S α → σ → α → σ → Prop where
  | pure {a : α} {s : σ} : Runs E (.pure a) s a s
  | op {o : S.Op} {k : S.Ans o → Prog S α} {s s' s'' : σ} {b : S.Ans o} {a : α} :
      E s o b s' → Runs E (k b) s' a s'' → Runs E (.op o k) s a s''

/-- `Reaches E p s p' s'`: some run of `p` from `s` passes through the state
    `s'` with `p'` still to be done. -/
inductive Reaches (E : Env S σ) : Prog S α → σ → Prog S α → σ → Prop where
  | refl {p : Prog S α} {s : σ} : Reaches E p s p s
  | op {o : S.Op} {k : S.Ans o → Prog S α} {s s' s'' : σ} {b : S.Ans o} {p' : Prog S α} :
      E s o b s' → Reaches E (k b) s' p' s'' → Reaches E (.op o k) s p' s''

/-- A complete run passes through its last state. -/
theorem Runs.reaches {E : Env S σ} {p : Prog S α} {s s' : σ} {a : α}
    (h : Runs E p s a s') : Reaches E p s (.pure a) s' := by
  induction h with
  | pure => exact .refl
  | op hstep _ ih => exact .op hstep ih

theorem Runs.bind {E : Env S σ} {p : Prog S α} {f : α → Prog S β} {s s' s'' : σ} {a : α} {b : β}
    (hp : Runs E p s a s') (hf : Runs E (f a) s' b s'') : Runs E (p.bind f) s b s'' := by
  induction hp with
  | pure => exact hf
  | op hstep _ ih => exact .op hstep (ih hf)

/-- A run of a sequence is a run of its first part and one of its second. -/
theorem Runs.of_bind {E : Env S σ} {p : Prog S α} {f : α → Prog S β} {s s'' : σ} {b : β}
    (h : Runs E (p.bind f) s b s'') :
    ∃ a s', Runs E p s a s' ∧ Runs E (f a) s' b s'' := by
  induction p generalizing s with
  | pure a => exact ⟨a, s, .pure, h⟩
  | op o k ih =>
    cases h with
    | op hstep hrest =>
      obtain ⟨a, s', hk, hf⟩ := ih _ hrest
      exact ⟨a, s', .op hstep hk, hf⟩

/-- A run in an environment is one in every environment that simulates it. -/
theorem Runs.map {τ : Type} {E : Env S σ} {F : Env S τ} {f : σ → τ}
    (hEF : ∀ s o b s', E s o b s' → F (f s) o b (f s')) {p : Prog S α} {s s' : σ} {a : α}
    (h : Runs E p s a s') : Runs F p (f s) a (f s') := by
  induction h with
  | pure => exact .pure
  | op hstep _ ih => exact .op (hEF _ _ _ _ hstep) ih

theorem Reaches.map {τ : Type} {E : Env S σ} {F : Env S τ} {f : σ → τ}
    (hEF : ∀ s o b s', E s o b s' → F (f s) o b (f s')) {p p' : Prog S α} {s s' : σ}
    (h : Reaches E p s p' s') : Reaches F p (f s) p' (f s') := by
  induction h with
  | refl => exact .refl
  | op hstep _ ih => exact .op (hEF _ _ _ _ hstep) ih

/-- In particular in one that allows more. -/
theorem Runs.mono {E F : Env S σ} {p : Prog S α} {s s' : σ} {a : α}
    (hEF : ∀ s o b s', E s o b s' → F s o b s') (h : Runs E p s a s') : Runs F p s a s' :=
  h.map (f := id) hEF

/-- What every operation preserves, a run preserves. -/
theorem Runs.preserves {E : Env S σ} {I : σ → Prop} (hE : ∀ s o b s', E s o b s' → I s → I s')
    {p : Prog S α} {s s' : σ} {a : α} (h : Runs E p s a s') (hs : I s) : I s' := by
  induction h with
  | pure => exact hs
  | op hstep _ ih => exact ih (hE _ _ _ _ hstep hs)

/-- There is one way to answer every operation. -/
def Deterministic (E : Env S σ) : Prop :=
  ∀ s o b b' s' s'', E s o b s' → E s o b' s'' → b = b' ∧ s' = s''

/-- Then there is one run. -/
theorem Runs.unique {E : Env S σ} (hE : Deterministic E) {p : Prog S α} {s s' s'' : σ} {a a' : α}
    (h : Runs E p s a s') (h' : Runs E p s a' s'') : a = a' ∧ s' = s'' := by
  induction h with
  | pure =>
    cases h'
    exact ⟨rfl, rfl⟩
  | op hstep _ ih =>
    cases h' with
    | op hstep' hrest' =>
      obtain ⟨rfl, rfl⟩ := hE _ _ _ _ _ _ hstep hstep'
      exact ih hrest'

/-! ## Weakest preconditions -/

/-- `wp E I p Q s`: every state that a run of `p` from `s` enters satisfies
    `I`, and every complete run ends in `Q`. -/
def wp (E : Env S σ) (I : σ → Prop) : Prog S α → (α → σ → Prop) → σ → Prop
  | .pure a, Q, s => Q a s
  | .op o k, Q, s => ∀ b s', E s o b s' → I s' ∧ wp E I (k b) Q s'

section wp

variable {E : Env S σ} {I : σ → Prop}

theorem wp_pure (a : α) (Q : α → σ → Prop) (s : σ) :
    wp E I (.pure a) Q s ↔ Q a s := Iff.rfl

theorem wp_call (o : S.Op) (Q : S.Ans o → σ → Prop) (s : σ) :
    wp E I (call o) Q s ↔ ∀ b s', E s o b s' → I s' ∧ Q b s' := Iff.rfl

theorem wp_bind (p : Prog S α) (f : α → Prog S β) (Q : β → σ → Prop) (s : σ) :
    wp E I (p.bind f) Q s ↔ wp E I p (fun a s' => wp E I (f a) Q s') s := by
  induction p generalizing s with
  | pure a => rfl
  | op o k ih =>
    simp only [bind, wp]
    constructor
    · intro h b s' hstep
      exact ⟨(h b s' hstep).1, (ih b s').mp (h b s' hstep).2⟩
    · intro h b s' hstep
      exact ⟨(h b s' hstep).1, (ih b s').mpr (h b s' hstep).2⟩

/-- Consequence, for the postcondition and the invariant together. -/
theorem wp_mono {J : σ → Prop} {p : Prog S α} {Q R : α → σ → Prop} {s : σ}
    (h : wp E I p Q s) (hIJ : ∀ s', I s' → J s') (hQR : ∀ a s', Q a s' → R a s') :
    wp E J p R s := by
  induction p generalizing s with
  | pure a => exact hQR a s h
  | op o k ih =>
    intro b s' hstep
    obtain ⟨hI, hk⟩ := h b s' hstep
    exact ⟨hIJ s' hI, ih b hk⟩

/-- An invariant of the states in between holds at the end too. -/
theorem wp_keeps {p : Prog S α} {Q : α → σ → Prop} {s : σ} (hs : I s) (h : wp E I p Q s) :
    wp E I p (fun a s' => I s' ∧ Q a s') s := by
  induction p generalizing s with
  | pure a => exact ⟨hs, h⟩
  | op o k ih =>
    intro b s' hstep
    obtain ⟨hs', hk⟩ := h b s' hstep
    exact ⟨hs', ih b hs' hk⟩

/-- Two facts about the same program hold together. -/
theorem wp_and {J : σ → Prop} {p : Prog S α} {Q R : α → σ → Prop} {s : σ}
    (hQ : wp E I p Q s) (hR : wp E J p R s) :
    wp E (fun s' => I s' ∧ J s') p (fun a s' => Q a s' ∧ R a s') s := by
  induction p generalizing s with
  | pure a => exact ⟨hQ, hR⟩
  | op o k ih =>
    intro b s' hstep
    obtain ⟨hI, hkQ⟩ := hQ b s' hstep
    obtain ⟨hJ, hkR⟩ := hR b s' hstep
    exact ⟨⟨hI, hJ⟩, ih b hkQ hkR⟩

/-- A weakest precondition speaks about complete runs... -/
theorem wp_runs {p : Prog S α} {Q : α → σ → Prop} {s s' : σ} {a : α}
    (h : wp E I p Q s) (hr : Runs E p s a s') : Q a s' := by
  induction hr with
  | pure => exact h
  | op hstep _ ih => exact ih (h _ _ hstep).2

/-- ... and about every state in between. -/
theorem wp_reaches {p p' : Prog S α} {Q : α → σ → Prop} {s s' : σ}
    (hs : I s) (h : wp E I p Q s) (hr : Reaches E p s p' s') : I s' ∧ wp E I p' Q s' := by
  induction hr with
  | refl => exact ⟨hs, h⟩
  | op hstep _ ih =>
    obtain ⟨hI, hk⟩ := h _ _ hstep
    exact ih hI hk

/-- An invariant is what holds of the states that runs pass through. -/
theorem wp_iff_reaches {p : Prog S α} {s : σ} (hs : I s) :
    wp E I p (fun _ _ => True) s ↔ ∀ p' s', Reaches E p s p' s' → I s' := by
  constructor
  · intro h p' s' hr
    exact (wp_reaches hs h hr).1
  · intro h
    induction p generalizing s with
    | pure a => trivial
    | op o k ih =>
      intro b s' hstep
      have hs' : I s' := h _ _ (.op hstep .refl)
      exact ⟨hs', ih b hs' fun p' s'' hr => h p' s'' (.op hstep hr)⟩

/-- Conversely, what holds of every run is a weakest precondition. -/
theorem wp_of_runs {p : Prog S α} {Q : α → σ → Prop} {s : σ}
    (h : ∀ a s', Runs E p s a s' → Q a s') : wp E (fun _ => True) p Q s := by
  induction p generalizing s with
  | pure a => exact h a s .pure
  | op o k ih =>
    intro b s' hstep
    exact ⟨trivial, ih b fun a s'' hr => h a s'' (.op hstep hr)⟩

/-- Nothing is asked of a run. -/
theorem wp_trivial {p : Prog S α} {s : σ} : wp E (fun _ => True) p (fun _ _ => True) s :=
  wp_of_runs fun _ _ _ => trivial

end wp

/-! ## Programs that never ask for some operations -/

/-- No path through `p` asks for an operation satisfying `bad`. -/
def Avoids (bad : S.Op → Prop) : Prog S α → Prop
  | .pure _ => True
  | .op o k => ¬ bad o ∧ ∀ b, (k b).Avoids bad

theorem avoids_bind {bad : S.Op → Prop} {p : Prog S α} {f : α → Prog S β}
    (hp : p.Avoids bad) (hf : ∀ a, (f a).Avoids bad) : (p.bind f).Avoids bad := by
  induction p with
  | pure a => exact hf a
  | op o k ih => exact ⟨hp.1, fun b => ih b (hp.2 b)⟩

/-- An invariant that only the avoided operations can break is kept. -/
theorem wp_of_avoids {bad : S.Op → Prop} {E : Env S σ} {I : σ → Prop} {p : Prog S α} {s : σ}
    (hp : p.Avoids bad) (hI : ∀ s o b s', ¬ bad o → E s o b s' → I s → I s') (hs : I s) :
    wp E I p (fun _ s' => I s') s := by
  induction p generalizing s with
  | pure a => exact hs
  | op o k ih =>
    intro b s' hstep
    have hs' := hI s o b s' hp.1 hstep hs
    exact ⟨hs', ih b (hp.2 b) hs'⟩

/-! ## One run -/

/-- An environment that is a function. -/
abbrev Handler (S : Sig) (σ : Type) : Type := σ → (o : S.Op) → S.Ans o × σ

/-- The run of `p` from `s` under the handler `h`. -/
def exec (h : Handler S σ) : Prog S α → σ → α × σ
  | .pure a, s => (a, s)
  | .op o k, s => exec h (k (h s o).1) (h s o).2

theorem exec_bind (h : Handler S σ) (p : Prog S α) (f : α → Prog S β) (s : σ) :
    exec h (p.bind f) s = exec h (f (exec h p s).1) (exec h p s).2 := by
  induction p generalizing s with
  | pure a => rfl
  | op o k ih => exact ih _ _

/-- A handler whose answers the environment allows runs as the environment may. -/
theorem runs_exec {E : Env S σ} {h : Handler S σ} (hE : ∀ s o, E s o (h s o).1 (h s o).2)
    (p : Prog S α) (s : σ) : Runs E p s (exec h p s).1 (exec h p s).2 := by
  induction p generalizing s with
  | pure a => exact .pure
  | op o k ih => exact .op (hE s o) (ih _ _)

end Prog

/-! ## Logged environments -/

/-- An operation together with the answer it got. -/
abbrev Event (S : Sig) : Type := (o : S.Op) × S.Ans o

/-- The environment that also writes down what was asked and answered. -/
def Env.logged (E : Env S σ) : Env S (σ × List (Event S)) :=
  fun s o b s' => E s.1 o b s'.1 ∧ s'.2 = s.2 ++ [⟨o, b⟩]

/-- What was written down before makes no difference to a run. -/
theorem Prog.Runs.of_logged {E : Env S σ} {p : Prog S α} {a : α} {s s' : σ × List (Event S)}
    (h : Prog.Runs E.logged p s a s') :
    ∃ log, s'.2 = s.2 ++ log ∧ Prog.Runs E.logged p (s.1, []) a (s'.1, log) := by
  suffices H : ∀ before after, s.2 = before ++ after →
      ∃ log, s'.2 = before ++ log ∧ Prog.Runs E.logged p (s.1, after) a (s'.1, log) from
    H s.2 [] (List.append_nil _).symm
  induction h with
  | pure => exact fun before after heq => ⟨after, heq, .pure⟩
  | @op o _ _ s₁ _ b _ hstep _ ih =>
    intro before after heq
    obtain ⟨hE, hlog⟩ := hstep
    rw [heq, List.append_assoc] at hlog
    obtain ⟨log, hlog', hruns⟩ := ih before _ hlog
    exact ⟨log, hlog', @Runs.op S _ _ _ o _ _ (s₁.1, after ++ [⟨o, b⟩]) _ b _ ⟨hE, rfl⟩ hruns⟩

/-- Writing down changes nothing... -/
theorem Prog.Runs.unlogged {E : Env S σ} {p : Prog S α} {a : α} {s s' : σ × List (Event S)}
    (h : Prog.Runs E.logged p s a s') : Prog.Runs E p s.1 a s'.1 := by
  induction h with
  | pure => exact .pure
  | op hstep _ ih => exact .op hstep.1 ih

/-- ... and can always be done. -/
theorem Prog.Runs.to_logged {E : Env S σ} {p : Prog S α} {a : α} {s s' : σ}
    (h : Prog.Runs E p s a s') (log : List (Event S)) :
    ∃ log', Prog.Runs E.logged p (s, log) a (s', log') := by
  induction h generalizing log with
  | pure => exact ⟨log, .pure⟩
  | @op o _ _ s₁ _ b _ hstep _ ih =>
    obtain ⟨log', hruns⟩ := ih (log ++ [⟨o, b⟩])
    exact ⟨log', @Prog.Runs.op S _ _ _ o _ _ (s₁, log ++ [⟨o, b⟩]) _ b _ ⟨hstep, rfl⟩ hruns⟩

/-- The environment that answers anything and only writes down. -/
def recorded (S : Sig) : Env S (List (Event S)) := fun log o b log' => log' = log ++ [⟨o, b⟩]

/-- It simulates every other one that is written down. -/
theorem Prog.Runs.recorded {E : Env S σ} {p : Prog S α} {a : α} {s s' : σ × List (Event S)}
    (h : Prog.Runs E.logged p s a s') : Prog.Runs (recorded S) p s.2 a s'.2 :=
  h.map (f := Prod.snd) fun _ _ _ _ hstep => hstep.2

/-- A handler that also writes down. -/
def Prog.Handler.logged (h : Prog.Handler S σ) : Prog.Handler S (σ × List (Event S)) :=
  fun s o => ((h s.1 o).1, (h s.1 o).2, s.2 ++ [⟨o, (h s.1 o).1⟩])

theorem Prog.runs_logged {E : Env S σ} {h : Prog.Handler S σ}
    (hE : ∀ s o, E s o (h s o).1 (h s o).2) (p : Prog S α) (s : σ) :
    Prog.Runs E.logged p (s, []) (exec h.logged p (s, [])).1 (exec h.logged p (s, [])).2 :=
  runs_exec (fun s o => ⟨hE s.1 o, rfl⟩) p (s, [])

end Effect
