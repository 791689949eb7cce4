import UgreenNas.Effect.Proc
import UgreenNas.Effect.Sum
import UgreenNas.Effect.Walk

/-! # What a program can return at all

    Some facts about a result hold whatever the environment answers.  They
    need no environment to be stated.
-/

namespace Effect

variable {S T : Sig} {σ α β ι ε : Type}

/-- Of the value, if there is one. -/
def OfSome (P : α → Prop) : Option α → Prop
  | none => True
  | some a => P a

/-- Of the result, unless it is an error. -/
def OfOk (P : α → Prop) : Except ε α → Prop
  | .error _ => True
  | .ok a => P a

namespace Prog

/-- Every result `p` may have, with any answers, satisfies `P`. -/
def Returns (P : α → Prop) : Prog S α → Prop
  | .pure a => P a
  | .op _ k => ∀ b, (k b).Returns P

theorem Returns.runs {P : α → Prop} {p : Prog S α} (h : p.Returns P) {E : Env S σ} {s s' : σ}
    {a : α} (hrun : Runs E p s a s') : P a := by
  induction hrun with
  | pure => exact h
  | op _ _ ih => exact ih (h _)

theorem Returns.mono {P Q : α → Prop} {p : Prog S α} (h : p.Returns P) (hPQ : ∀ a, P a → Q a) :
    p.Returns Q := by
  induction p with
  | pure a => exact hPQ a h
  | op o k ih => exact fun b => ih b (h b)

theorem Returns.and {P Q : α → Prop} {p : Prog S α} (hp : p.Returns P) (hq : p.Returns Q) :
    p.Returns fun a => P a ∧ Q a := by
  induction p with
  | pure a => exact ⟨hp, hq⟩
  | op o k ih => exact fun b => ih b (hp b) (hq b)

theorem returns_all {P : α → Prop} (h : ∀ a, P a) (p : Prog S α) : p.Returns P := by
  induction p with
  | pure a => exact h a
  | op o k ih => exact ih

theorem Returns.bind {P : α → Prop} {Q : β → Prop} {p : Prog S α} {f : α → Prog S β}
    (hp : p.Returns P) (hf : ∀ a, P a → (f a).Returns Q) : (p >>= f).Returns Q := by
  induction p with
  | pure a => exact hf a hp
  | op o k ih => exact fun b => ih b (hp b)

/-- Nothing is known of the first part. -/
theorem returns_after {Q : β → Prop} {p : Prog S α} {f : α → Prog S β}
    (hf : ∀ a, (f a).Returns Q) : (p >>= f).Returns Q := by
  induction p with
  | pure a => exact hf a
  | op o k ih => exact fun b => ih b

/-- What a program cannot return makes no difference to what follows. -/
theorem Returns.bind_congr {P : α → Prop} {p : Prog S α} {f g : α → Prog S β} (h : p.Returns P)
    (hfg : ∀ a, P a → f a = g a) : p.bind f = p.bind g := by
  induction p with
  | pure a => exact hfg a h
  | op o k ih =>
    simp only [Prog.bind]
    congr 1
    funext b
    exact ih b (h b)

theorem Returns.inl {P : α → Prop} {p : Prog S α} (h : p.Returns P) :
    (p.inl : Prog (S.sum T) α).Returns P := by
  induction p with
  | pure a => exact h
  | op o k ih => exact fun b => ih b (h b)

/-- The rule for passes: an invariant of the loop state and of what is left
    of the list. -/
theorem returns_walk_rest {J : β → List ι → Prop} {body : β → ι → Prog S (Except ε β)}
    (hbody : ∀ b i rest, J b (i :: rest) → (body b i).Returns (OfOk (J · rest)))
    {l : List ι} {b : β} (hb : J b l) : (walk body b l).Returns (OfOk (J · [])) := by
  induction l generalizing b with
  | nil => exact hb
  | cons i rest ih =>
    apply Returns.bind (hbody b i rest hb)
    intro r hr
    cases r with
    | error e => exact trivial
    | ok b' => exact ih hr

/-- An invariant of the loop state alone. -/
theorem returns_walk {J : β → Prop} {body : β → ι → Prog S (Except ε β)} {l : List ι}
    (hbody : ∀ b, ∀ i ∈ l, J b → (body b i).Returns (OfOk J)) {b : β} (hb : J b) :
    (walk body b l).Returns (OfOk J) := by
  have h : (walk body b l).Returns (OfOk fun b => J b ∧ ∀ i ∈ ([] : List ι), i ∈ l) := by
    apply returns_walk_rest (J := fun b rest => J b ∧ ∀ i ∈ rest, i ∈ l)
    · intro b i rest hrest
      apply (hbody b i (hrest.2 i List.mem_cons_self) hrest.1).mono
      intro r hr
      cases r with
      | error e => exact trivial
      | ok b' => exact ⟨hr, fun j hj => hrest.2 j (List.mem_cons_of_mem i hj)⟩
    · exact ⟨hb, fun i hi => hi⟩
  apply h.mono
  intro r hr
  cases r with
  | error e => exact trivial
  | ok b' => exact hr.1

theorem Returns.andThen {P : α → Prop} {Q : β → Prop} {p : Prog S (Except ε α)}
    {f : α → Prog S (Except ε β)} (hp : p.Returns (OfOk P))
    (hf : ∀ a, P a → (f a).Returns (OfOk Q)) : (p.andThen f).Returns (OfOk Q) := by
  apply Returns.bind hp
  intro r hr
  cases r with
  | error e => exact trivial
  | ok a => exact hf a hr

end Prog

/-! ## Procedures -/

namespace Proc

variable {κ : Type} {P : α → Prop}

/-- Every result of `m` that is not a failure satisfies `P`. -/
def Yields (P : α → Prop) (m : Proc S κ ε α) : Prop :=
  ∀ c, (m.run c).Returns fun r => OfOk P r.1

theorem yields_pure {a : α} (h : P a) : Yields P (pure a : Proc S κ ε α) := fun _ => h

theorem yields_after {m : Proc S κ ε β} {f : β → Proc S κ ε α} (hf : ∀ b, Yields P (f b)) :
    Yields P (m >>= f) := by
  intro c
  apply Prog.returns_after
  intro r
  obtain ⟨x, c'⟩ := r
  cases x with
  | ok b => exact hf b c'
  | error e => exact trivial

theorem yields_bail {p : Prop} [Decidable p] {e : ε} {f : Unit → Proc S κ ε α}
    (hf : ¬ p → Yields P (f ())) : Yields P (bail p e >>= f) := by
  by_cases hp : p
  · rw [bail_pos hp]
    exact fun _ => trivial
  · rw [bail_neg hp]
    exact hf hp

/-- Two ways to go on that agree on what may come. -/
theorem Yields.bind_congr {m : Proc S κ ε α} {f g : α → Proc S κ ε β} (h : Yields P m)
    (hfg : ∀ a, P a → f a = g a) : (m >>= f) = (m >>= g) := by
  funext c
  apply Prog.Returns.bind_congr (h c)
  intro r hr
  obtain ⟨x, c'⟩ := r
  cases x with
  | ok a => exact congrFun (hfg a hr) c'
  | error e => rfl

end Proc

end Effect
