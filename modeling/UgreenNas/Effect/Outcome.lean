/-! # Outcomes

    A step that returns a result or fails with an exception, and what is
    known of the one and the other.  Steps are put together by `>>=`, and so
    is what is known of them.
-/

namespace Effect.Proc

variable {ε α β : Type}

/-- Of a result, and of a failure. -/
def Outcome (P : α → Prop) (F : ε → Prop) : Except ε α → Prop
  | .ok a => P a
  | .error e => F e

variable {P Q : α → Prop} {R : β → Prop} {F G : ε → Prop} {x : Except ε α}

theorem Outcome.of_ok (h : Outcome P F x) {a : α} (hx : x = .ok a) : P a := by
  rw [hx] at h
  exact h

theorem Outcome.of_error (h : Outcome P F x) {e : ε} (hx : x = .error e) : F e := by
  rw [hx] at h
  exact h

theorem outcome_pure {a : α} (h : P a) : Outcome P F (pure a : Except ε α) := h

theorem outcome_throw {e : ε} (h : F e) : Outcome P F (throw e : Except ε α) := h

/-- The second step starts from what is known of the first. -/
theorem Outcome.bind {f : α → Except ε β} (hx : Outcome P F x)
    (hf : ∀ a, x = .ok a → P a → Outcome R F (f a)) : Outcome R F (x >>= f) := by
  cases x with
  | ok a => exact hf a rfl hx
  | error e => exact hx

theorem Outcome.mono (h : Outcome P F x) (hP : ∀ a, P a → Q a) (hF : ∀ e, F e → G e) :
    Outcome Q G x := by
  cases x with
  | ok a => exact hP a h
  | error e => exact hF e h

/-- Of two steps that end the same way. -/
theorem Outcome.and (h : Outcome P F x) (h' : Outcome Q F x) :
    Outcome (fun a => P a ∧ Q a) F x := by
  cases x with
  | ok a => exact ⟨h, h'⟩
  | error e => exact h

end Effect.Proc
