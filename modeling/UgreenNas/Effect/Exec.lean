import UgreenNas.Effect.Proc

/-! # Procedures against a function

    An environment that is a function leaves a procedure one run.  `Does`
    says that this run succeeds, and with what; `Fails` that it fails.
-/

namespace Effect.Proc

variable {S : Sig} {σ κ ε δ α β : Type}

/-- Under the handler `h`, `m` returns `a`. -/
def Does (h : Prog.Handler S σ) (m : Proc S κ ε α) (c : κ) (s : σ) (a : α) (c' : κ) (s' : σ) :
    Prop :=
  Prog.exec h (m.run c) s = ((.ok a, c'), s')

/-- Under the handler `h`, `m` fails with `e`. -/
def Fails (h : Prog.Handler S σ) (m : Proc S κ ε α) (c : κ) (s : σ) (e : ε) (c' : κ) (s' : σ) :
    Prop :=
  Prog.exec h (m.run c) s = ((.error e, c'), s')

section rules

variable {h : Prog.Handler S σ} {c c' c'' : κ} {s s' s'' : σ}

theorem does_pure (a : α) : Does h (pure a : Proc S κ ε α) c s a c s := rfl

theorem does_ctx : Does h (ctx : Proc S κ ε κ) c s c c s := rfl

theorem does_ask (o : S.Op) : Does h (ask o : Proc S κ ε _) c s (h s o).1 c (h s o).2 := rfl

theorem does_lift (a : α) : Does h (lift (.ok a) : Proc S κ ε α) c s a c s := rfl

theorem fails_lift (e : ε) : Fails h (lift (.error e) : Proc S κ ε α) c s e c s := rfl

theorem fails_fail (e : ε) : Fails h (fail e : Proc S κ ε α) c s e c s := rfl

theorem does_bail {p : Prop} [Decidable p] (hp : ¬ p) (e : ε) :
    Does h (bail p e : Proc S κ ε Unit) c s () c s := by
  unfold Does bail
  rw [if_neg hp]
  rfl

theorem Does.bind {m : Proc S κ ε α} {f : α → Proc S κ ε β} {a : α} {b : β}
    (hm : Does h m c s a c' s') (hf : Does h (f a) c' s' b c'' s'') :
    Does h (m >>= f) c s b c'' s'' := by
  show Prog.exec h ((m c).bind _) s = _
  rw [Prog.exec_bind]
  have hm' : Prog.exec h (m c) s = ((.ok a, c'), s') := hm
  rw [hm']
  exact hf

theorem Does.then_fails {m : Proc S κ ε α} {f : α → Proc S κ ε β} {a : α} {e : ε}
    (hm : Does h m c s a c' s') (hf : Fails h (f a) c' s' e c'' s'') :
    Fails h (m >>= f) c s e c'' s'' := by
  show Prog.exec h ((m c).bind _) s = _
  rw [Prog.exec_bind]
  have hm' : Prog.exec h (m c) s = ((.ok a, c'), s') := hm
  rw [hm']
  exact hf

theorem Fails.bind {m : Proc S κ ε α} {f : α → Proc S κ ε β} {e : ε}
    (hm : Fails h m c s e c' s') : Fails h (m >>= f) c s e c' s' := by
  show Prog.exec h ((m c).bind _) s = _
  rw [Prog.exec_bind]
  have hm' : Prog.exec h (m c) s = ((.error e, c'), s') := hm
  rw [hm']
  rfl

theorem Does.mapError {m : Proc S κ ε α} {f : ε → δ} {a : α} (hm : Does h m c s a c' s') :
    Does h (mapError m f) c s a c' s' := by
  show Prog.exec h ((m c).bind _) s = _
  rw [Prog.exec_bind]
  have hm' : Prog.exec h (m c) s = ((.ok a, c'), s') := hm
  rw [hm']
  rfl

theorem Does.attempt {m : Proc S κ ε α} {a : α} (hm : Does h m c s a c' s') :
    Does h (attempt m : Proc S κ δ _) c s (.ok a) c' s' := by
  show Prog.exec h ((m c).bind _) s = _
  rw [Prog.exec_bind]
  have hm' : Prog.exec h (m c) s = ((.ok a, c'), s') := hm
  rw [hm']
  rfl

theorem Fails.attempt {m : Proc S κ ε α} {e : ε} (hm : Fails h m c s e c' s') :
    Does h (attempt m : Proc S κ δ _) c s (.error e) c' s' := by
  show Prog.exec h ((m c).bind _) s = _
  rw [Prog.exec_bind]
  have hm' : Prog.exec h (m c) s = ((.error e, c'), s') := hm
  rw [hm']
  rfl

theorem Does.bail_then {p : Prop} [Decidable p] {e : ε} {f : Unit → Proc S κ ε β} {b : β}
    (hp : ¬ p) (hf : Does h (f ()) c s b c' s') : Does h (bail p e >>= f) c s b c' s' :=
  (does_bail hp e).bind hf

/-! ## From a run to its parts -/

theorem Does.of_bind {m : Proc S κ ε α} {f : α → Proc S κ ε β} {b : β}
    (hrun : Does h (m >>= f) c s b c'' s'') :
    ∃ a c' s', Does h m c s a c' s' ∧ Does h (f a) c' s' b c'' s'' := by
  have hbind : Prog.exec h ((m c).bind _) s = ((Except.ok b, c''), s'') := hrun
  rw [Prog.exec_bind] at hbind
  cases hm : Prog.exec h (m c) s with
  | mk r s' =>
    obtain ⟨r, c'⟩ := r
    rw [hm] at hbind
    cases r with
    | error e => cases hbind
    | ok a => exact ⟨a, c', s', hm, hbind⟩

theorem Does.of_ask {o : S.Op} {b : S.Ans o} (hrun : Does h (ask o : Proc S κ ε _) c s b c' s') :
    b = (h s o).1 ∧ c = c' ∧ (h s o).2 = s' := by
  have hrun : ((Except.ok (h s o).1, c), (h s o).2) = ((Except.ok b, c'), s') := hrun
  obtain ⟨hr, rfl⟩ := Prod.mk.inj hrun
  obtain ⟨hb, rfl⟩ := Prod.mk.inj hr
  exact ⟨(Except.ok.inj hb).symm, rfl, rfl⟩

theorem Does.of_lift {x : Except ε α} {a : α} (hrun : Does h (lift x : Proc S κ ε α) c s a c' s') :
    x = .ok a ∧ c = c' ∧ s = s' := by
  have hrun : ((x, c), s) = ((Except.ok a, c'), s') := hrun
  obtain ⟨hr, rfl⟩ := Prod.mk.inj hrun
  obtain ⟨rfl, rfl⟩ := Prod.mk.inj hr
  exact ⟨rfl, rfl, rfl⟩

theorem Does.of_bail {p : Prop} [Decidable p] {e : ε}
    (hrun : Does h (bail p e : Proc S κ ε Unit) c s () c' s') : ¬ p ∧ c = c' ∧ s = s' := by
  by_cases hp : p
  · unfold bail at hrun
    rw [if_pos hp] at hrun
    cases hrun
  · unfold bail at hrun
    rw [if_neg hp] at hrun
    cases hrun
    exact ⟨hp, rfl, rfl⟩

theorem Does.of_bail_then {p : Prop} [Decidable p] {e : ε} {f : Unit → Proc S κ ε β} {b : β}
    (hrun : Does h (bail p e >>= f) c s b c' s') : ¬ p ∧ Does h (f ()) c s b c' s' := by
  by_cases hp : p
  · rw [bail_pos hp] at hrun
    cases hrun
  · rw [bail_neg hp] at hrun
    exact ⟨hp, hrun⟩

theorem Does.of_mapError {m : Proc S κ ε α} {f : ε → δ} {a : α}
    (hrun : Does h (Proc.mapError m f) c s a c' s') : Does h m c s a c' s' := by
  have hbind : Prog.exec h ((m c).bind _) s = ((Except.ok a, c'), s') := hrun
  rw [Prog.exec_bind] at hbind
  cases hm : Prog.exec h (m c) s with
  | mk r s'' =>
    obtain ⟨r, c''⟩ := r
    rw [hm] at hbind
    cases r with
    | error e => cases hbind
    | ok a' =>
      cases hbind
      exact hm

/-- There is one run. -/
theorem Does.unique {m : Proc S κ ε α} {a a' : α} (hrun : Does h m c s a c' s')
    {c₂ : κ} {s₂ : σ} (hrun' : Does h m c s a' c₂ s₂) : a' = a ∧ c₂ = c' ∧ s₂ = s' := by
  unfold Does at hrun hrun'
  rw [hrun] at hrun'
  cases hrun'
  exact ⟨rfl, rfl, rfl⟩

end rules

end Effect.Proc
