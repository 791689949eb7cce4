import UgreenNas.Effect.Serial
import UgreenNas.SuperIo.Isolated

/-! # Commands run at the same time run one after another

    Whatever the others do, a command that opens the chip has the registers
    to itself until it closes it again.  So the commands have them one after
    another, in the order in which they took the lock, and each does with
    them what it would do alone.

    * `Serial`        : the order so far;
    * `Performed`     : what a command that is done did;
    * `pool_holds`    : what is known of every run of every pool;
    * `pool_achieved`, `pool_serial` : of the commands, and of their order.
-/

namespace UgreenNas.SuperIo

open Effect Effect.Proc
open UgreenNas.Fan.It8613 (FanError Taking)

variable {P α : Type} {p : P} {s s' : Board P} {takes : Taking} {strerror : Errno → String}
  {first : Registers} {order : List P}

/-! ## The order -/

/-- The processes of `order` had the lock and gave it up, and what one left
    the next one found. -/
structure Serial (first : Registers) (order : List P) (s : Board P) : Prop where
  once : order.Nodup
  left : ∀ p, p ∈ order ↔ s.left p ≠ none
  handed : ∃ last, Handed s.taken s.left first order last ∧ (s.holder = none → s.chip.view = last) ∧
    ∀ p, s.holder = some p → s.taken p = some last ∧ s.left p = none

theorem Board.AtRest.serial (h : s.AtRest) : Serial s.chip.view [] s where
  once := List.nodup_nil
  left p := by simp [h.left p]
  handed := by
    refine ⟨_, .nil, fun _ => rfl, ?_⟩
    intro p hp
    rw [h.holder] at hp
    cases hp

/-- One operation leaves the order as it is, or appends a process to it. -/
theorem Serial.step (h : Serial first order s) (hfair : Fair p s s') :
    ∃ order', order <+: order' ∧ Serial first order' s' := by
  obtain ⟨last, hhanded, hfree, hheld⟩ := h.handed
  cases hfair.turn with
  | use holder taken left chip =>
    refine ⟨order, List.prefix_rfl, h.once, ?_, last, ?_, ?_, ?_⟩
    · rw [left]
      exact h.left
    · rw [taken, left]
      exact hhanded
    · intro hnone
      rw [holder] at hnone
      obtain hsame | hholder := chip
      · rw [hsame]
        exact hfree hnone
      · rw [hnone] at hholder
        cases hholder
    · rw [holder, taken, left]
      exact hheld
  | take free fresh chip holder taken left =>
    have hnotin : p ∉ order := fun hp => (h.left p).mp hp fresh.2
    refine ⟨order, List.prefix_rfl, h.once, ?_, last, ?_, ?_, ?_⟩
    · intro q
      by_cases hq : q = p
      · subst hq
        simp [hnotin, left]
      · rw [(hfair.others q hq).left]
        exact h.left q
    · apply hhanded.congr
      intro q hq
      have hne : q ≠ p := fun heq => hnotin (heq ▸ hq)
      exact ⟨(hfair.others q hne).taken, (hfair.others q hne).left⟩
    · intro hnone
      rw [holder] at hnone
      cases hnone
    · intro q hq
      rw [holder] at hq
      obtain rfl := Option.some.inj hq
      rw [taken, hfree free]
      exact ⟨rfl, left⟩
  | give held chip holder taken left =>
    obtain ⟨htaken, hleft⟩ := hheld p held
    have hnotin : p ∉ order := fun hp => (h.left p).mp hp hleft
    refine ⟨order ++ [p], List.prefix_append _ _, ?_, ?_, s.chip.view, ?_, ?_, ?_⟩
    · exact List.nodup_append.mpr ⟨h.once, List.nodup_singleton p, by
        intro q hq r hr heq
        rw [List.mem_singleton] at hr
        exact hnotin (by rwa [heq, hr] at hq)⟩
    · intro q
      by_cases hq : q = p
      · subst hq
        simp [left]
      · rw [(hfair.others q hq).left, ← h.left q]
        simp [hq]
    · have hbefore : Handed s'.taken s'.left first order last := by
        apply hhanded.congr
        intro q hq
        have hne : q ≠ p := fun heq => hnotin (heq ▸ hq)
        exact ⟨(hfair.others q hne).taken, (hfair.others q hne).left⟩
      exact hbefore.snoc (taken.trans htaken) left
    · intro _
      rw [chip]
    · intro q hq
      rw [holder] at hq
      cases hq

/-! ## Commands that are done -/

/-- `command` went through a session, and what that left still stands. -/
def Achieved (takes : Taking) (command : Prog registers α) (a : α) (p : P) (s : Board P) : Prop :=
  ∃ r c, Finished r ∧ Prog.Runs (session takes) command .before a r ∧ Stands p c s r

theorem Achieved.rely {command : Prog registers α} {a : α} (h : Achieved takes command a p s)
    (hrely : Rely p s s') : Achieved takes command a p s' := by
  obtain ⟨r, c, hfinished, hruns, hstands⟩ := h
  refine ⟨r, c, hfinished, hruns, ?_⟩
  cases r with
  | before => exact Idle.rely hstands hrely
  | refused => exact Idle.rely hstands hrely
  | after start now => exact Gone.rely hstands hrely
  | inside => cases hfinished
  | broken => cases hfinished

/-- `command` did to the registers that it found what it does alone, and left
    them so; or the chip was not opened to it, and it did nothing. -/
def Performed (takes : Taking) (command : Prog registers α) (a : α) (p : P) (s : Board P) : Prop :=
  (∃ start last, s.taken p = some start ∧ s.left p = some last ∧
      Prog.Runs (alone takes) command start a last) ∨
    (s.taken p = none ∧ s.left p = none ∧ ∀ regs, Prog.Runs (alone takes) command regs a regs)

theorem Achieved.performed {command : Prog registers α} {a : α} (h : Achieved takes command a p s) :
    Performed takes command a p s := by
  obtain ⟨r, c, hfinished, hruns, hstands⟩ := h
  obtain ⟨start, last, rfl, halone⟩ | ⟨hr, halone⟩ := runs_session hfinished hruns
  · have hgone : Gone p start last s := hstands
    exact .inl ⟨start, last, hgone.taken, hgone.left, halone⟩
  · have hidle : Idle p s := by
      obtain rfl | rfl := hr <;> exact hstands
    exact .inr ⟨hidle.taken, hidle.left, halone⟩

variable [DecidableEq P]

/-- A command among others does what it is asked to do. -/
theorem wp_achieved {command : Prog registers α} (hcommand : Disciplined takes command)
    (hidle : Idle p s) :
    Prog.wp ((board takes p).among (Rely p)) (fun move => Fair p move.before move.after)
      (on_ports strerror command) (fun x move => Achieved takes command x.1 p move.after)
      ⟨s, s, []⟩ := by
  have hruns : Prog.wp (session takes) (fun _ => True) command
      (fun a r => Prog.Runs (session takes) command .before a r) .before :=
    Prog.wp_of_runs fun _ _ h => h
  have hboth : Prog.wp (session takes) (fun r => r ≠ .broken) command
      (fun a r => Finished r ∧ Prog.Runs (session takes) command .before a r) .before :=
    Prog.wp_mono (Prog.wp_and hcommand hruns) (fun _ h => h.1) fun _ _ h => h
  have hports : Prog.wp ((board takes p).among (Rely p)) (fun move => Fair p move.before move.after)
      (command.interpret (it86x strerror) .none)
      (fun x move => ∃ r, (Finished r ∧ Prog.Runs (session takes) command .before x.1 r) ∧
        Stands p x.2 move.after r) ⟨s, s, []⟩ := by
    have hop : ∀ o r c (move : Move ports (Board P)), (∀ b r', session takes r o b r' → r' ≠ .broken) →
        Stands p c move.after r →
        Prog.wp ((board takes p).among (Rely p)) (fun move => Fair p move.before move.after)
          (it86x strerror o c) (fun x move' => ∃ r', session takes r o x.1 r' ∧
            Stands p x.2 move'.after r') move := spec_it86x
    exact Prog.wp_interpret hop hboth hidle
  apply Prog.wp_mono hports (fun _ h => h)
  intro x move h
  obtain ⟨r, ⟨hfinished, hsession⟩, hstands⟩ := h
  exact ⟨r, x.2, hfinished, hsession, hstands⟩

/-! ## Pools of commands -/

section pools

variable (takes) (m : P → Prog registers α) (first : Registers)

def contract : Pool.Contract ports P (Board P) (α × Device) where
  rely := Rely
  guarantee p move := Fair p move.before move.after
  done p x move := Achieved takes (m p) x.1 p move.after
  always s _ := ∃ order, Serial first order s

theorem contract_fits : (contract takes m first).Fits Board.kill where
  refl := Rely.refl
  trans _ _ _ _ h h' := h.trans h'
  relied _ _ _ hne h := h.rely hne
  killed _ _ _ hne := fair_kill.rely hne
  always_act _ _ _ _ _ h hfair := by
    obtain ⟨order, hserial⟩ := h
    obtain ⟨order', -, hserial'⟩ := hserial.step hfair
    exact ⟨order', hserial'⟩
  always_kill _ _ _ h := by
    obtain ⟨order, hserial⟩ := h
    obtain ⟨order', -, hserial'⟩ := hserial.step fair_kill
    exact ⟨order', hserial'⟩

end pools

variable {m : P → Prog registers α} {pool : Pool ports P (Board P) (α × Device)}

/-- The pools that come of commands. -/
abbrev Board.Runs (takes : Taking) (strerror : Errno → String) (m : P → Prog registers α)
    (s : Board P) (pool : Pool ports P (Board P) (α × Device)) : Prop :=
  Pool.Reaches (board takes) Board.kill (Pool.start (fun p => on_ports strerror (m p)) s) pool

theorem pool_holds (hm : ∀ p, Disciplined takes (m p)) (hrest : s.AtRest)
    (h : Board.Runs takes strerror m s pool) :
    (contract takes m s.chip.view).Holds (board takes) pool := by
  apply Pool.Contract.rule (contract_fits takes m s.chip.view) _ ⟨[], hrest.serial⟩ h
  intro p
  have hidle : Idle p s := by
    refine ⟨?_, hrest.taken p, hrest.left p⟩
    rw [hrest.holder]
    simp
  exact wp_achieved (hm p) hidle

theorem pool_achieved (hm : ∀ p, Disciplined takes (m p)) (hrest : s.AtRest)
    (h : Board.Runs takes strerror m s pool) {p : P} {a : α} {c : Device}
    (htask : pool.task p = some (.pure (a, c))) : Achieved takes (m p) a p pool.state := by
  obtain ⟨move, -, hrely, hdone⟩ := (pool_holds hm hrest h).keeps p _ htask
  have hachieved : Achieved takes (m p) a p move.after := hdone
  exact hachieved.rely hrely

/-- Behind the order so far come those that give the lock up later. -/
theorem Serial.later {pool' : Pool ports P (Board P) (α × Device)}
    (hholds : (contract takes m first).Holds (board takes) pool)
    (h : Serial first order pool.state) (hlater : Pool.Reaches (board takes) Board.kill pool pool') :
    ∃ order', order <+: order' ∧ Serial first order' pool'.state := by
  induction hlater using Relation.ReflTransGen.head_induction_on generalizing order with
  | refl => exact ⟨order, List.prefix_rfl, h⟩
  | @head pool pool₁ hstep _ ih =>
    have hnext : ∃ order₁, order <+: order₁ ∧ Serial first order₁ pool₁.state := by
      cases hstep with
      | @act p o k b s' htask hans =>
        have hfair : Fair p pool.state s' := hholds.guaranteed htask hans
        exact h.step hfair
      | kill p => exact h.step fair_kill
    obtain ⟨order₁, hprefix₁, hserial₁⟩ := hnext
    obtain ⟨order', hprefix, hserial⟩ :=
      ih (hholds.step (contract_fits takes m first) hstep) hserial₁
    exact ⟨order', hprefix₁.trans hprefix, hserial⟩

/-- There is an order at every moment, and it only grows. -/
theorem pool_serial (hm : ∀ p, Disciplined takes (m p)) (hrest : s.AtRest)
    (h : Board.Runs takes strerror m s pool) :
    ∃ order, Serial s.chip.view order pool.state ∧
      ∀ pool', Pool.Reaches (board takes) Board.kill pool pool' →
        ∃ order', order <+: order' ∧ Serial s.chip.view order' pool'.state := by
  have hholds := pool_holds hm hrest h
  obtain ⟨order, hserial⟩ := hholds.always
  exact ⟨order, hserial, fun pool' hlater => hserial.later hholds hlater⟩

end UgreenNas.SuperIo
