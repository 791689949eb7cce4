import UgreenNas.Effect.Finally

/-! # What a procedure asks for

    `Asks P m`: every operation that `m` asks its environment for satisfies
    `P`, whatever the answers are.  A log of such a procedure consists of
    such operations, and what they preserve the procedure preserves.
-/

namespace Effect

variable {S : Sig} {σ κ ε δ α β : Type} {P Q : S.Op → Prop}

/-! ## Logs -/

/-- What was written down before makes no difference to a run. -/
theorem recorded_append {p : Prog S α} {a : α} {log log' : List (Event S)}
    (h : Prog.Runs (recorded S) p log a log') :
    ∃ new, log' = log ++ new ∧ Prog.Runs (recorded S) p [] a new := by
  suffices H : ∀ before after, log = before ++ after →
      ∃ new, log' = before ++ new ∧ Prog.Runs (recorded S) p after a new from
    H log [] (List.append_nil _).symm
  induction h with
  | pure => exact fun before after heq => ⟨after, heq, .pure⟩
  | @op o _ _ log₁ _ b _ hstep _ ih =>
    intro before after heq
    have hlog : log₁ = before ++ (after ++ [⟨o, b⟩]) := by
      rw [← List.append_assoc, ← heq]
      exact hstep
    obtain ⟨new, hnew, hruns⟩ := ih before _ hlog
    have hwrite : recorded S after o b (after ++ [⟨o, b⟩]) := rfl
    exact ⟨new, hnew, .op hwrite hruns⟩

/-- The log of a program consists of what the program asks for. -/
theorem recorded_avoids {bad : S.Op → Prop} {p : Prog S α} (hp : p.Avoids bad) {a : α}
    {log log' : List (Event S)} (h : Prog.Runs (recorded S) p log a log')
    (hlog : ∀ event ∈ log, ¬ bad event.1) : ∀ event ∈ log', ¬ bad event.1 := by
  induction h with
  | pure => exact hlog
  | @op o _ log₀ log₁ _ b _ hstep _ ih =>
    apply ih (hp.2 _)
    rw [show log₁ = log₀ ++ [⟨o, b⟩] from hstep]
    intro event hmem
    rcases List.mem_append.mp hmem with hmem | hmem
    · exact hlog event hmem
    · rw [List.mem_singleton.mp hmem]
      exact hp.1

theorem Prog.Avoids.mono {bad worse : S.Op → Prop} (h : ∀ o, worse o → bad o) {p : Prog S α}
    (hp : p.Avoids bad) : p.Avoids worse := by
  induction p with
  | pure a => trivial
  | op o k ih => exact ⟨fun hworse => hp.1 (h o hworse), fun b => ih b (hp.2 b)⟩

namespace Proc

/-- `m` asks for nothing but operations in `P`. -/
def Asks (P : S.Op → Prop) (m : Proc S κ ε α) : Prop := ∀ c, (m.run c).Avoids fun o => ¬ P o

section rules

theorem asks_pure (a : α) : Asks P (pure a : Proc S κ ε α) := fun _ => trivial

theorem asks_fail (e : ε) : Asks P (fail e : Proc S κ ε α) := fun _ => trivial

theorem asks_lift (x : Except ε α) : Asks P (lift x : Proc S κ ε α) := fun _ => trivial

theorem asks_ctx : Asks P (ctx : Proc S κ ε κ) := fun _ => trivial

theorem asks_update (f : κ → κ) : Asks P (update f : Proc S κ ε Unit) := fun _ => trivial

theorem asks_ask {o : S.Op} (ho : P o) : Asks P (ask o : Proc S κ ε _) :=
  fun _ => ⟨fun h => h ho, fun _ => trivial⟩

theorem asks_bail (p : Prop) [Decidable p] (e : ε) : Asks P (bail p e : Proc S κ ε Unit) := by
  unfold bail
  split
  · exact asks_fail e
  · exact asks_pure ()

theorem Asks.bind {m : Proc S κ ε α} {f : α → Proc S κ ε β} (hm : Asks P m)
    (hf : ∀ a, Asks P (f a)) : Asks P (m >>= f) := by
  intro c
  apply Prog.avoids_bind (hm c)
  intro r
  obtain ⟨x, c'⟩ := r
  cases x with
  | ok a => exact hf a c'
  | error e => trivial

theorem Asks.attempt {m : Proc S κ ε α} (hm : Asks P m) : Asks P (attempt m : Proc S κ δ _) :=
  fun c => Prog.avoids_bind (hm c) fun _ => trivial

theorem Asks.recover {m : Proc S κ ε α} {f : ε → Proc S κ δ α} (hm : Asks P m)
    (hf : ∀ e, Asks P (f e)) : Asks P (recover m f) := by
  intro c
  apply Prog.avoids_bind (hm c)
  intro r
  obtain ⟨x, c'⟩ := r
  cases x with
  | ok a => trivial
  | error e => exact hf e c'

theorem Asks.mapError {m : Proc S κ ε α} (hm : Asks P m) (f : ε → δ) : Asks P (mapError m f) :=
  hm.recover fun e => asks_fail (f e)

theorem Asks.block {m : Proc S δ ε α} (hm : Asks P m) (inner : δ) :
    Asks P (block inner m : Proc S κ ε α) :=
  fun _ => Prog.avoids_bind (hm inner) fun _ => trivial

theorem Asks.always {m : Proc S κ ε α} {cleanup : Proc S κ ε Unit} (hm : Asks P m)
    (hclean : Asks P cleanup) : Asks P (always m cleanup) :=
  hm.attempt.bind fun r => hclean.bind fun _ => asks_lift r

theorem Asks.mono {m : Proc S κ ε α} (hm : Asks P m) (hPQ : ∀ o, P o → Q o) : Asks Q m :=
  fun c => (hm c).mono fun o hQ hP => hQ (hPQ o hP)

end rules

/-- The log of a run consists of what is asked for. -/
theorem Asks.log {m : Proc S κ ε α} (hm : Asks P m) {c c' : κ} {r : Except ε α}
    {new : List (Event S)} (h : Runs (recorded S) m c [] r c' new) :
    ∀ event ∈ new, P event.1 := by
  intro event hmem
  have hnot := recorded_avoids (hm c) h (fun _ h => (List.not_mem_nil h).elim) event hmem
  exact Classical.not_not.mp hnot

/-- What these operations preserve is preserved. -/
theorem Asks.wp {m : Proc S κ ε α} (hm : Asks P m) {E : Env S σ} {J : σ → Prop}
    (hJ : ∀ s o b s', P o → E s o b s' → J s → J s') {c : κ} {s : σ} (hs : J s) :
    wp E (fun _ => True) m (fun _ _ s' => J s') c s := by
  have hinv : Prog.wp E J (m.run c) (fun _ s' => J s') s :=
    Prog.wp_of_avoids (hm c) (fun s o b s' ho => hJ s o b s' (Classical.not_not.mp ho)) hs
  exact Prog.wp_mono hinv (fun _ _ => trivial) fun _ _ h => h

/-- The run of `m`, which has no variables, under a handler. -/
theorem runs_handled {E : Env S σ} {h : Prog.Handler S σ} (hE : ∀ s o, E s o (h s o).1 (h s o).2)
    (m : Proc S Unit ε α) (s : σ) :
    Runs E m () s (Prog.exec h (m.run ()) s).1.1 () (Prog.exec h (m.run ()) s).2 :=
  Prog.runs_exec hE (m.run ()) s

/-- A run adds to the log what it would write down on its own. -/
theorem wp_recorded (m : Proc S κ ε α) (c : κ) (log : List (Event S)) :
    wp (recorded S) (fun _ => True) m (fun r c' log' =>
      ∃ new, log' = log ++ new ∧ Runs (recorded S) m c [] r c' new) c log := by
  apply Prog.wp_of_runs
  intro r log' hrun
  exact recorded_append hrun

end Proc

end Effect
