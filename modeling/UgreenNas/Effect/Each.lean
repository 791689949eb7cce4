import Mathlib.Data.List.Forall2
import UgreenNas.Effect.Exec
import UgreenNas.Effect.Logs
import UgreenNas.Effect.Outcome
import UgreenNas.Effect.Returns

/-! # Loops over a list

    A loop over the entries of a list, one that keeps a result for each
    entry, and one with a variable.  A failure leaves the loop.

    `Ends P F m`: whatever the environment answers, `m` returns something in
    `P` or fails with something in `F`.
-/

namespace Effect.Proc

variable {S : Sig} {σ κ ε ι α β : Type}

def each (f : ι → Proc S κ ε Unit) : List ι → Proc S κ ε Unit
  | [] => pure ()
  | i :: rest => do
    f i
    each f rest

def collect (f : ι → Proc S κ ε α) : List ι → Proc S κ ε (List α)
  | [] => pure []
  | i :: rest => do
    let a ← f i
    let as ← collect f rest
    pure (a :: as)

def fold (f : α → ι → Proc S κ ε α) : α → List ι → Proc S κ ε α
  | a, [] => pure a
  | a, i :: rest => do
    let a ← f a i
    fold f a rest

/-! ## What a loop asks for -/

section asks

variable {Q : S.Op → Prop}

theorem asks_each {f : ι → Proc S κ ε Unit} {l : List ι} (hf : ∀ i, Asks Q (f i)) :
    Asks Q (each f l) := by
  induction l with
  | nil => exact asks_pure ()
  | cons i rest ih => exact (hf i).bind fun _ => ih

theorem asks_collect {f : ι → Proc S κ ε α} {l : List ι} (hf : ∀ i, Asks Q (f i)) :
    Asks Q (collect f l) := by
  induction l with
  | nil => exact asks_pure []
  | cons i rest ih => exact (hf i).bind fun _ => ih.bind fun _ => asks_pure _

theorem asks_fold {f : α → ι → Proc S κ ε α} {l : List ι} {a : α} (hf : ∀ a i, Asks Q (f a i)) :
    Asks Q (fold f a l) := by
  induction l generalizing a with
  | nil => exact asks_pure a
  | cons i rest ih => exact (hf a i).bind fun _ => ih

end asks

/-! ## How a procedure ends -/

def Ends (P : α → Prop) (F : ε → Prop) (m : Proc S κ ε α) : Prop :=
  ∀ c, (m.run c).Returns fun r => Outcome P F r.1

section rules

variable {P : α → Prop} {Q : β → Prop} {F : ε → Prop}

theorem ends_pure {a : α} (h : P a) : Ends P F (pure a : Proc S κ ε α) := fun _ => h

theorem ends_fail {e : ε} (h : F e) : Ends P F (fail e : Proc S κ ε α) := fun _ => h

theorem ends_update {f : κ → κ} : Ends (fun _ => True) F (update f : Proc S κ ε Unit) :=
  fun _ => trivial

theorem ends_ask {o : S.Op} : Ends (fun _ => True) F (ask o : Proc S κ ε _) := fun _ _ => trivial

theorem Ends.mono {m : Proc S κ ε α} {P' : α → Prop} (h : Ends P F m) (hP : ∀ a, P a → P' a) :
    Ends P' F m := by
  intro c
  apply (h c).mono
  intro r hr
  obtain ⟨x, c'⟩ := r
  cases x with
  | ok a => exact hP a hr
  | error e => exact hr

theorem Ends.bind {m : Proc S κ ε α} {f : α → Proc S κ ε β} (hm : Ends P F m)
    (hf : ∀ a, P a → Ends Q F (f a)) : Ends Q F (m >>= f) := by
  intro c
  apply Prog.Returns.bind (hm c)
  intro r hr
  obtain ⟨x, c'⟩ := r
  cases x with
  | ok a => exact hf a hr c'
  | error e => exact hr

/-- Nothing has to be known of what the first part returns. -/
theorem Ends.seq {m : Proc S κ ε α} {f : α → Proc S κ ε β} (hm : Ends (fun _ => True) F m)
    (hf : ∀ a, Ends Q F (f a)) : Ends Q F (m >>= f) :=
  hm.bind fun a _ => hf a

theorem ends_bail {p : Prop} [Decidable p] {e : ε} (he : p → F e) :
    Ends (fun _ => ¬ p) F (bail p e : Proc S κ ε Unit) := by
  unfold bail
  by_cases hp : p
  · rw [if_pos hp]
    exact ends_fail (he hp)
  · rw [if_neg hp]
    exact ends_pure hp

theorem ends_ite {p : Prop} [Decidable p] {m m' : Proc S κ ε α} (hm : p → Ends P F m)
    (hm' : ¬ p → Ends P F m') : Ends P F (if p then m else m') := by
  by_cases hp : p
  · rw [if_pos hp]
    exact hm hp
  · rw [if_neg hp]
    exact hm' hp

theorem ends_each {f : ι → Proc S κ ε Unit} {l : List ι}
    (hf : ∀ i ∈ l, Ends (fun _ => True) F (f i)) : Ends (fun _ => True) F (each f l) := by
  induction l with
  | nil => exact ends_pure trivial
  | cons i rest ih =>
    apply (hf i List.mem_cons_self).seq
    intro _
    exact ih fun j hj => hf j (List.mem_cons_of_mem i hj)

theorem ends_collect {f : ι → Proc S κ ε α} {l : List ι}
    (hf : ∀ i ∈ l, Ends (fun _ => True) F (f i)) :
    Ends (fun as => as.length = l.length) F (collect f l) := by
  induction l with
  | nil => exact ends_pure rfl
  | cons i rest ih =>
    apply (hf i List.mem_cons_self).seq
    intro a
    apply (ih fun j hj => hf j (List.mem_cons_of_mem i hj)).bind
    intro as has
    exact ends_pure (congrArg (· + 1) has)

theorem ends_fold {f : α → ι → Proc S κ ε α} {l : List ι} {a : α}
    (hf : ∀ a, ∀ i ∈ l, Ends (fun _ => True) F (f a i)) :
    Ends (fun _ => True) F (fold f a l) := by
  induction l generalizing a with
  | nil => exact ends_pure trivial
  | cons i rest ih =>
    apply (hf a i List.mem_cons_self).seq
    intro a'
    exact ih fun b j hj => hf b j (List.mem_cons_of_mem i hj)

theorem ends_always {m : Proc S κ ε α} {cleanup : Proc S κ ε Unit} (hm : Ends P F m)
    (hclean : Ends (fun _ => True) F cleanup) : Ends P F (always m cleanup) := by
  have hattempt : Ends (Outcome P F) F (attempt m : Proc S κ ε _) := by
    intro c
    apply Prog.Returns.bind (hm c)
    intro r hr
    exact hr
  apply hattempt.bind
  intro r hr
  apply hclean.seq
  intro _ c
  cases r with
  | ok a => exact hr
  | error e => exact hr

/-- What holds of every end holds of the end of a run. -/
theorem Ends.log {m : Proc S κ ε α} (h : Ends P F m) {c c' : κ} {r : Except ε α}
    {log : List (Event S)} (hlog : Logs m c r c' log) : Outcome P F r :=
  (h c).runs hlog

end rules

/-! ## Loops against a function -/

section exec

variable {h : Prog.Handler S σ} {c c' : κ} {s s' : σ}

theorem does_each {f : ι → Proc S κ ε Unit} {l : List ι} (hf : ∀ i ∈ l, Does h (f i) c s () c s) :
    Does h (each f l) c s () c s := by
  induction l with
  | nil => exact does_pure ()
  | cons i rest ih =>
    exact (hf i List.mem_cons_self).bind (ih fun j hj => hf j (List.mem_cons_of_mem i hj))

/-- Every step gives the same. -/
theorem does_fold {P : α → Prop} {f : α → ι → Proc S κ ε α} {l : List ι} {a b : α}
    (hf : ∀ a i, P a → Does h (f a i) c s b c s) (hb : P b) (ha : P a) (hl : l ≠ []) :
    Does h (fold f a l) c s b c s := by
  have hmore : ∀ l : List ι, Does h (fold f b l) c s b c s := by
    intro l
    induction l with
    | nil => exact does_pure b
    | cons i rest ih => exact (hf b i hb).bind ih
  cases l with
  | nil => exact absurd rfl hl
  | cons i rest => exact (hf a i ha).bind (hmore rest)

theorem Does.always {m : Proc S κ ε α} {cleanup : Proc S κ ε Unit} {a : α} {c'' : κ} {s'' : σ}
    (hm : Does h m c s a c' s') (hclean : Does h cleanup c' s' () c'' s'') :
    Does h (always m cleanup) c s a c'' s'' :=
  hm.attempt.bind (hclean.bind (does_lift a))

/-- What a function makes of a procedure is one of its runs. -/
theorem Does.logs {m : Proc S κ ε α} {a : α} (hm : Does h m c s a c' s') :
    ∃ log, Logs m c (.ok a) c' log := by
  have hrun := Prog.runs_exec (E := fun s o b s' => h s o = (b, s')) (fun _ _ => rfl) (m.run c) s
  rw [hm] at hrun
  obtain ⟨log, hlog⟩ := hrun.to_logged []
  exact ⟨log, hlog.recorded⟩

end exec

end Effect.Proc

namespace Effect.Logs

open Proc

variable {S : Sig} {κ ε ι τ : Type}

/-- What an observer sees of a loop that shows at most one thing for every
    entry: the entries that were shown come in their order. -/
theorem each_sublist {view : List (Event S) → List τ} (hnil : view [] = [])
    (happend : ∀ log log', view (log ++ log') = view log ++ view log') {R : ι → τ → Prop}
    {f : ι → Proc S κ ε Unit} {l : List ι}
    (hf : ∀ i ∈ l, ∀ c r c' log, Logs (f i) c r c' log →
      view log = [] ∨ ∃ y, R i y ∧ view log = [y])
    {c c' : κ} {r : Except ε Unit} {log : List (Event S)} (h : Logs (each f l) c r c' log) :
    ∃ shown, shown.Sublist l ∧ List.Forall₂ R shown (view log) := by
  induction l generalizing c log with
  | nil =>
    obtain ⟨-, -, rfl⟩ := of_pure h
    exact ⟨[], List.Sublist.refl [], by rw [hnil]; exact .nil⟩
  | cons i rest ih =>
    have hrest := fun j hj => hf j (List.mem_cons_of_mem i hj)
    have hone := hf i List.mem_cons_self
    rcases h.of_bind with ⟨_, c₁, first, second, rfl, hfirst, hsecond⟩ | ⟨e, -, hfailed⟩
    · obtain ⟨shown, hsub, hshown⟩ := ih hrest hsecond
      rw [happend]
      rcases hone _ _ _ _ hfirst with hnone | ⟨y, hy, hview⟩
      · rw [hnone]
        exact ⟨shown, hsub.cons i, hshown⟩
      · rw [hview]
        exact ⟨i :: shown, hsub.cons_cons i, .cons hy hshown⟩
    · rcases hone _ _ _ _ hfailed with hnone | ⟨y, hy, hview⟩
      · rw [hnone]
        exact ⟨[], List.nil_sublist _, .nil⟩
      · rw [hview]
        exact ⟨[i], List.Sublist.cons_cons i (List.nil_sublist _), .cons hy .nil⟩

/-- A loop whose steps make one access each: it went through the list, or it
    failed at an entry. -/
theorem each_single {R : ι → Except ε Unit → Event S → Prop} {f : ι → Proc S κ ε Unit}
    (hf : ∀ i c r c' log, Logs (f i) c r c' log → ∃ e, log = [e] ∧ R i r e) {l : List ι} {c c' : κ}
    {r : Except ε Unit} {log : List (Event S)} (h : Logs (each f l) c r c' log) :
    (r = .ok () ∧ List.Forall₂ (fun i e => R i (.ok ()) e) l log) ∨
      ∃ done i rest first e x, l = done ++ i :: rest ∧ log = first ++ [e] ∧ r = .error x ∧
        List.Forall₂ (fun i e => R i (.ok ()) e) done first ∧ R i r e := by
  induction l generalizing c log with
  | nil =>
    obtain ⟨hr, -, hlog⟩ := of_pure h
    rw [hlog]
    exact .inl ⟨hr, .nil⟩
  | cons i rest ih =>
    rcases h.of_bind with ⟨_, c₁, first, second, rfl, hfirst, hsecond⟩ | ⟨x, hx, hfailed⟩
    · obtain ⟨e, rfl, he⟩ := hf i _ _ _ _ hfirst
      rcases ih hsecond with ⟨hr, hall⟩ | ⟨done, j, more, log₁, e', x, hl, hlog, hr, hdone, he'⟩
      · exact .inl ⟨hr, .cons he hall⟩
      · refine .inr ⟨i :: done, j, more, e :: log₁, e', x, ?_, ?_, hr, .cons he hdone, he'⟩
        · rw [hl]
          rfl
        · rw [hlog]
          rfl
    · obtain ⟨e, hlog, he⟩ := hf i _ _ _ _ hfailed
      refine .inr ⟨[], i, rest, [], e, x, rfl, hlog, hx, .nil, ?_⟩
      rw [hx]
      exact he

/-- Behind a clean-up that succeeds the outcome is that of what it cleans up. -/
theorem of_always {α : Type} {m : Proc S κ ε α} {cleanup : Proc S κ ε Unit} {c c' : κ}
    {r : Except ε α} {log : List (Event S)} (h : Logs (always m cleanup) c r c' log) :
    ∃ x c₁ first second, log = first ++ second ∧ Logs m c x c₁ first ∧
      ((Logs cleanup c₁ (.ok ()) c' second ∧ r = x) ∨
        ∃ e, Logs cleanup c₁ (.error e) c' second ∧ r = .error e) := by
  rcases h.of_bind with ⟨x, c₁, first, second, hlog, hattempt, hrest⟩ | ⟨e, -, hfailed⟩
  · obtain ⟨x', hx, hm⟩ := of_attempt hattempt
    obtain rfl := Except.ok.inj hx
    rcases hrest.of_bind with ⟨_, c₂, third, last, hsecond, hclean, hlift⟩ | ⟨e, he, hclean⟩
    · obtain ⟨hr, rfl, rfl⟩ := of_lift hlift
      rw [List.append_nil] at hsecond
      rw [← hsecond] at hclean
      exact ⟨x, c₁, first, second, hlog, hm, .inl ⟨hclean, hr⟩⟩
    · exact ⟨x, c₁, first, second, hlog, hm, .inr ⟨e, hclean, he⟩⟩
  · obtain ⟨x', hx, -⟩ := of_attempt hfailed
    cases hx

end Effect.Logs
