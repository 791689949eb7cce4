import UgreenNas.Effect.Prog

/-! # Passes over a list

    A loop over the entries of a list whose body may leave it early.  The
    list is finite, so the pass is a program.
-/

namespace Effect.Prog

variable {S : Sig} {σ ι α β ε : Type}

/-- Go through a list with a loop state; an error leaves the loop. -/
def walk (body : β → ι → Prog S (Except ε β)) : β → List ι → Prog S (Except ε β)
  | b, [] => pure (.ok b)
  | b, i :: rest => do
    match ← body b i with
    | .error e => pure (.error e)
    | .ok b' => walk body b' rest

/-- Go on with the result of `p`, unless it is an error. -/
def andThen (p : Prog S (Except ε α)) (f : α → Prog S (Except ε β)) : Prog S (Except ε β) := do
  match ← p with
  | .error e => pure (.error e)
  | .ok a => f a

/-- A run that succeeds succeeds at every step. -/
theorem Runs.of_andThen {E : Env S σ} {p : Prog S (Except ε α)} {f : α → Prog S (Except ε β)}
    {b : β} {s s'' : σ} (h : Runs E (p.andThen f) s (.ok b) s'') :
    ∃ a s', Runs E p s (.ok a) s' ∧ Runs E (f a) s' (.ok b) s'' := by
  obtain ⟨r, s', hp, hf⟩ := Runs.of_bind h
  cases r with
  | error e => cases hf
  | ok a => exact ⟨a, s', hp, hf⟩

/-- What every step of a pass keeps holds after the pass. -/
theorem Runs.walk_invariant {E : Env S σ} {J : β → Prop} {body : β → ι → Prog S (Except ε β)}
    {l : List ι} (hbody : ∀ b, ∀ i ∈ l, ∀ b' s s', J b → Runs E (body b i) s (.ok b') s' → J b')
    {b b' : β} {s s' : σ} (hb : J b) (h : Runs E (walk body b l) s (.ok b') s') : J b' := by
  induction l generalizing b s with
  | nil =>
    cases h
    exact hb
  | cons i rest ih =>
    obtain ⟨r, s₁, hstep, h⟩ := Runs.of_bind h
    cases r with
    | error e => cases h
    | ok next =>
      apply ih (fun b j hj => hbody b j (List.mem_cons_of_mem i hj)) _ h
      exact hbody b i List.mem_cons_self next s s₁ hb hstep

end Effect.Prog
