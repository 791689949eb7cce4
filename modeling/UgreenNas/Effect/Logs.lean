import UgreenNas.Effect.Asks

/-! # Logs of runs

    `Logs m c r c' log`: called in the context `c`, the procedure `m` may
    return `r`, leave the context `c'` and write `log`, the environment
    answering anything.  A run of a sequence is taken apart along the sequence,
    and its log with it.
-/

namespace Effect

variable {S : Sig} {κ ε δ α β : Type}

/-- A run from an empty log. -/
def Logs (m : Proc S κ ε α) (c : κ) (r : Except ε α) (c' : κ) (log : List (Event S)) : Prop :=
  Proc.Runs (recorded S) m c [] r c' log

namespace Logs

open Proc

variable {m : Proc S κ ε α} {f : α → Proc S κ ε β} {c c' : κ} {log : List (Event S)}

/-- A sequence ran to its end, or its first part failed. -/
theorem of_bind {r : Except ε β} (h : Logs (m >>= f) c r c' log) :
    (∃ a c₁ first second, log = first ++ second ∧ Logs m c (.ok a) c₁ first ∧
      Logs (f a) c₁ r c' second) ∨
    ∃ e, r = .error e ∧ Logs m c (.error e) c' log := by
  obtain ⟨⟨x, c₁⟩, log₁, hfirst, hrest⟩ := Prog.Runs.of_bind h
  cases x with
  | ok a =>
    obtain ⟨second, hlog, hsecond⟩ := recorded_append hrest
    exact .inl ⟨a, c₁, log₁, second, hlog, hfirst, hsecond⟩
  | error e =>
    cases hrest
    exact .inr ⟨e, rfl, hfirst⟩

/-- A sequence that succeeds ran to its end. -/
theorem of_bind_ok {b : β} (h : Logs (m >>= f) c (.ok b) c' log) :
    ∃ a c₁ first second, log = first ++ second ∧ Logs m c (.ok a) c₁ first ∧
      Logs (f a) c₁ (.ok b) c' second := by
  rcases h.of_bind with hdone | ⟨e, heq, _⟩
  · exact hdone
  · cases heq

theorem of_pure {a : α} {r : Except ε α} (h : Logs (pure a : Proc S κ ε α) c r c' log) :
    r = .ok a ∧ c' = c ∧ log = [] := by
  cases h
  exact ⟨rfl, rfl, rfl⟩

theorem of_fail {e : ε} {r : Except ε α} (h : Logs (fail e : Proc S κ ε α) c r c' log) :
    r = .error e ∧ c' = c ∧ log = [] := by
  cases h
  exact ⟨rfl, rfl, rfl⟩

theorem of_lift {x r : Except ε α} (h : Logs (lift x : Proc S κ ε α) c r c' log) :
    r = x ∧ c' = c ∧ log = [] := by
  cases h
  exact ⟨rfl, rfl, rfl⟩

theorem of_ctx {r : Except ε κ} (h : Logs (ctx : Proc S κ ε κ) c r c' log) :
    r = .ok c ∧ c' = c ∧ log = [] := by
  cases h
  exact ⟨rfl, rfl, rfl⟩

theorem of_update {g : κ → κ} {r : Except ε Unit}
    (h : Logs (update g : Proc S κ ε Unit) c r c' log) : r = .ok () ∧ c' = g c ∧ log = [] := by
  cases h
  exact ⟨rfl, rfl, rfl⟩

theorem of_ask {o : S.Op} {r : Except ε (S.Ans o)} (h : Logs (ask o : Proc S κ ε _) c r c' log) :
    ∃ b, r = .ok b ∧ c' = c ∧ log = [⟨o, b⟩] := by
  cases h with
  | op hstep hrest =>
    cases hrest
    exact ⟨_, rfl, rfl, hstep⟩

theorem of_bail {p : Prop} [Decidable p] {e : ε} {u : Unit}
    (h : Logs (bail p e : Proc S κ ε Unit) c (.ok u) c' log) : ¬ p ∧ c' = c ∧ log = [] := by
  unfold bail at h
  by_cases hp : p
  · rw [if_pos hp] at h
    cases h
  · rw [if_neg hp] at h
    exact ⟨hp, h.of_pure.2⟩

/-- What is read off the context is what is there. -/
theorem of_ctx_then {g : κ → Proc S κ ε β} {r : Except ε β}
    (h : Logs (ctx >>= g) c r c' log) : Logs (g c) c r c' log := h

/-- An assignment comes first. -/
theorem of_update_then {g : κ → κ} {k : Unit → Proc S κ ε β} {r : Except ε β}
    (h : Logs (update g >>= k) c r c' log) : Logs (k ()) (g c) r c' log := h

/-- A check that was passed. -/
theorem of_bail_then {p : Prop} [Decidable p] {e : ε} {g : Unit → Proc S κ ε β} {b : β}
    (h : Logs (bail p e >>= g) c (.ok b) c' log) : ¬ p ∧ Logs (g ()) c (.ok b) c' log := by
  unfold bail at h
  by_cases hp : p
  · rw [if_pos hp] at h
    cases h
  · rw [if_neg hp] at h
    exact ⟨hp, h⟩

/-- A result that was there. -/
theorem of_lift_then {x : Except ε α} {b : β} (h : Logs (lift x >>= f) c (.ok b) c' log) :
    ∃ a, x = .ok a ∧ Logs (f a) c (.ok b) c' log := by
  cases x with
  | ok a => exact ⟨a, rfl, h⟩
  | error e => cases h

/-- An operation comes first in the log. -/
theorem of_ask_then {o : S.Op} {g : S.Ans o → Proc S κ ε β} {r : Except ε β}
    (h : Logs (ask o >>= g) c r c' log) :
    ∃ b rest, log = ⟨o, b⟩ :: rest ∧ Logs (g b) c r c' rest := by
  cases h with
  | @op _ _ _ log₁ _ b _ hstep hrest =>
    obtain ⟨rest, hlog, hruns⟩ := recorded_append hrest
    exact ⟨b, rest, by rw [hlog, show log₁ = [] ++ [⟨o, b⟩] from hstep]; rfl, hruns⟩

theorem of_mapError {g : ε → δ} {a : α} (h : Logs (mapError m g) c (.ok a) c' log) :
    Logs m c (.ok a) c' log := by
  obtain ⟨⟨x, c₁⟩, log₁, hfirst, hrest⟩ := Prog.Runs.of_bind h
  cases x with
  | ok a' =>
    cases hrest
    exact hfirst
  | error e => cases hrest

theorem of_mapError_error {g : ε → δ} {d : δ} (h : Logs (mapError m g) c (.error d) c' log) :
    ∃ e, Logs m c (.error e) c' log := by
  obtain ⟨⟨x, c₁⟩, log₁, hfirst, hrest⟩ := Prog.Runs.of_bind h
  cases x with
  | ok a => cases hrest
  | error e =>
    cases hrest
    exact ⟨e, hfirst⟩

theorem of_attempt {r : Except δ (Except ε α)} (h : Logs (attempt m : Proc S κ δ _) c r c' log) :
    ∃ x, r = .ok x ∧ Logs m c x c' log := by
  obtain ⟨⟨x, c₁⟩, log₁, hfirst, hrest⟩ := Prog.Runs.of_bind h
  cases hrest
  exact ⟨x, rfl, hfirst⟩

/-- A silent procedure leaves its context alone, and what `g` sees of the log. -/
theorem silent {τ : Type} {g : List (Event S) → τ} {r : Except ε α}
    (h : Logs m c r c' log) (hm : Silent (recorded S) g m) : c' = c ∧ g log = g [] :=
  wp_runs (hm c []) h

/-- Behind a silent procedure the context is the same. -/
theorem of_silent_then {r : Except ε β} (hm : Silent (recorded S) (fun _ => ()) m)
    (h : Logs (m >>= f) c r c' log) :
    c' = c ∨ ∃ a first second, log = first ++ second ∧ Logs (f a) c r c' second := by
  rcases h.of_bind with ⟨a, c₁, first, second, hlog, hfirst, hsecond⟩ | ⟨e, -, hfirst⟩
  · rw [(hfirst.silent hm).1] at hsecond
    exact .inr ⟨a, first, second, hlog, hsecond⟩
  · exact .inl (hfirst.silent hm).1

end Logs

/-- The answers decide a run: of two logs of one procedure neither goes on
    behind the other. -/
theorem recorded_same {p : Prog S α} {a b : α} {log log' rest : List (Event S)}
    (h : Prog.Runs (recorded S) p [] a log) (h' : Prog.Runs (recorded S) p [] b log')
    (hlog : log' = log ++ rest) : a = b := by
  induction p generalizing log log' with
  | pure _ =>
    cases h
    cases h'
    rfl
  | op o k ih =>
    cases h with
    | @op _ _ _ s₁ _ x _ hstep hrun =>
      cases h' with
      | @op _ _ _ s₂ _ y _ hstep' hrun' =>
        obtain ⟨first, hfirst, hrun⟩ := recorded_append hrun
        obtain ⟨second, hsecond, hrun'⟩ := recorded_append hrun'
        have hx : s₁ = [⟨o, x⟩] := hstep
        have hy : s₂ = [⟨o, y⟩] := hstep'
        rw [hfirst, hsecond, hx, hy] at hlog
        simp only [List.cons_append, List.cons.injEq, Sigma.mk.injEq,
          heq_eq_eq, true_and] at hlog
        obtain ⟨rfl, hrest⟩ := hlog
        exact ih _ hrun hrun' hrest

theorem Logs.same {m : Proc S κ ε α} {c c' c'' : κ} {r r' : Except ε α}
    {log rest : List (Event S)} (h : Logs m c r c' log) (h' : Logs m c r' c'' (log ++ rest)) :
    r = r' ∧ c' = c'' := by
  have heq := recorded_same h h' rfl
  exact ⟨congrArg Prod.fst heq, congrArg Prod.snd heq⟩

end Effect
