import Mathlib.Logic.Function.Basic
import UgreenNas.Effect.Asks

/-! # Programs that run at the same time

    Processes share a state and take turns, one operation at a time and in
    any order; any of them may be killed.  What a process does is seen by
    the others, so that a specification of a process says two things: what
    it *relies* on, the changes that the others may make between any two of
    its operations, and what it *guarantees* of its own.

    * `Pool.Step`  : one operation of one process, or the end of one;
    * `Env.among`  : the environment of a process among others;
    * `Contract`   : what every process relies on and guarantees;
    * `Pool.rule`  : if every process keeps to it, it holds of the pool.
-/

namespace Effect

/-- The last change that a process made, and the log of what it asked. -/
structure Move (S : Sig) (σ : Type) where
  before : σ
  after : σ
  log : List (Event S)

/-- The environment of a process: before an operation the others change the
    state along `R`. -/
def Env.among {S : Sig} {σ : Type} (E : Env S σ) (R : σ → σ → Prop) : Env S (Move S σ) :=
  fun move o b move' =>
    R move.after move'.before ∧ E move'.before o b move'.after ∧
      move'.log = move.log ++ [⟨o, b⟩]

namespace Proc

variable {S : Sig} {σ κ ε α β : Type} {E : Env S σ} {R : σ → σ → Prop} {I : Move S σ → Prop}

/-- An operation with what follows it. -/
theorem among_call {o : S.Op} {g : S.Ans o → Proc S κ ε α} {Q : Except ε α → κ → Move S σ → Prop}
    {c : κ} {move : Move S σ} (h : ∀ b s s', R move.after s → E s o b s' →
      I ⟨s, s', move.log ++ [⟨o, b⟩]⟩ ∧ wp (E.among R) I (g b) Q c ⟨s, s', move.log ++ [⟨o, b⟩]⟩) :
    wp (E.among R) I (ask o >>= g) Q c move := by
  intro b move' hmove
  obtain ⟨before, after, log⟩ := move'
  obtain ⟨hrely, hstep, hlog⟩ := hmove
  obtain rfl : log = move.log ++ [⟨o, b⟩] := hlog
  exact h b before after hrely hstep

/-- A check, and what follows it. -/
theorem wp_lift_seq {τ : Type} {F : Env S τ} {H : τ → Prop} {x : Except ε α} {g : α → Proc S κ ε β}
    {Q : Except ε β → κ → τ → Prop} {c : κ} {s : τ} (hok : ∀ a, x = .ok a → wp F H (g a) Q c s)
    (herr : ∀ e, Q (.error e) c s) : wp F H (lift x >>= g) Q c s := by
  rw [wp_bind, wp_lift]
  cases x with
  | ok a => exact hok a rfl
  | error e => exact herr e

theorem wp_bail_seq {τ : Type} {F : Env S τ} {H : τ → Prop} {p : Prop} [Decidable p] {e : ε}
    {g : Unit → Proc S κ ε β} {Q : Except ε β → κ → τ → Prop} {c : κ} {s : τ}
    (hok : ¬ p → wp F H (g ()) Q c s) (herr : Q (.error e) c s) :
    wp F H (bail p e >>= g) Q c s := by
  rw [wp_bind, wp_bail]
  exact ⟨fun _ => herr, hok⟩

/-- What is known of the end alone, in addition. -/
theorem wp_also {τ : Type} {F : Env S τ} {H : τ → Prop} {m : Proc S κ ε α}
    {Q T : Except ε α → κ → τ → Prop} {c : κ} {s : τ} (hQ : wp F H m Q c s)
    (hT : wp F (fun _ => True) m T c s) : wp F H m (fun r c' s' => Q r c' s' ∧ T r c' s') c s :=
  Prog.wp_mono (Prog.wp_and hQ hT) (fun _ h => h.1) fun _ _ h => h

/-- What a procedure adds to the log, it would write down on its own. -/
theorem among_log (m : Proc S κ ε α) (c : κ) (move : Move S σ) :
    wp (E.among R) (fun _ => True) m (fun r c' move' => ∃ new, move'.log = move.log ++ new ∧
      Runs (recorded S) m c [] r c' new) c move := by
  apply Prog.wp_of_runs
  intro r move' hrun
  exact recorded_append (hrun.map (f := Move.log) fun _ _ _ _ h => h.2.2)

/-- What the others keep, and the operations that `m` asks for, `m` keeps. -/
theorem Asks.among {O : S.Op → Prop} {m : Proc S κ ε α} (hm : Asks O m) {J : σ → Prop}
    (hrely : ∀ s s', R s s' → J s → J s')
    (hstep : ∀ s o b s' log, O o → E s o b s' → J s → I ⟨s, s', log⟩ ∧ J s') {c : κ}
    {move : Move S σ} (hJ : J move.after) :
    Proc.wp (E.among R) I m (fun r c' move' => J move'.after ∧ ∃ new, move'.log = move.log ++ new ∧
      Runs (recorded S) m c [] r c' new) c move := by
  have hkeeps : ∀ (p : Prog S (Except ε α × κ)) (move : Move S σ), (p.Avoids fun o => ¬ O o) →
      J move.after → Prog.wp (E.among R) I p (fun _ move' => J move'.after) move := by
    intro p
    induction p with
    | pure a => exact fun _ _ hJ => hJ
    | op o k ih =>
      intro move hp hJ b move' hmove
      obtain ⟨hR, hans, -⟩ := hmove
      obtain ⟨hI, hJ'⟩ := hstep _ o b _ move'.log (Classical.not_not.mp hp.1) hans (hrely _ _ hR hJ)
      exact ⟨hI, ih b move' (hp.2 b) hJ'⟩
  exact wp_also (hkeeps (m.run c) move (hm c) hJ) (among_log m c move)

/-- Procedures that ask for what two classes have in common. -/
theorem Asks.and {O O' : S.Op → Prop} {m : Proc S κ ε α} (h : Asks O m) (h' : Asks O' m) :
    Asks (fun o => O o ∧ O' o) m := by
  have hboth : ∀ p : Prog S (Except ε α × κ), (p.Avoids fun o => ¬ O o) →
      (p.Avoids fun o => ¬ O' o) → p.Avoids fun o => ¬ (O o ∧ O' o) := by
    intro p
    induction p with
    | pure a => exact fun _ _ => trivial
    | op o k ih =>
      intro hp hp'
      exact ⟨fun hno => hp.1 fun ho => hp'.1 fun ho' => hno ⟨ho, ho'⟩,
        fun b => ih b (hp.2 b) (hp'.2 b)⟩
  exact fun c => hboth _ (h c) (h' c)

end Proc

/-- What every process has still to do, the state they share, and what each
    of them has asked.  A killed process has nothing to do. -/
structure Pool (S : Sig) (ι σ α : Type) where
  task : ι → Option (Prog S α)
  state : σ
  log : ι → List (Event S)

namespace Pool

variable {S : Sig} {ι σ α : Type} [DecidableEq ι]

/-- One step of a pool: the process `i` gets an answer, or is killed. -/
inductive Step (E : ι → Env S σ) (kill : ι → σ → σ) (pool : Pool S ι σ α) :
    Pool S ι σ α → Prop where
  | act {i : ι} {o : S.Op} {k : S.Ans o → Prog S α} {b : S.Ans o} {s' : σ} :
      pool.task i = some (.op o k) → E i pool.state o b s' →
      Step E kill pool ⟨Function.update pool.task i (some (k b)), s',
        Function.update pool.log i (pool.log i ++ [⟨o, b⟩])⟩
  | kill (i : ι) :
      Step E kill pool ⟨Function.update pool.task i none, kill i pool.state, pool.log⟩

/-- The pools that `pool` may become. -/
def Reaches (E : ι → Env S σ) (kill : ι → σ → σ) : Pool S ι σ α → Pool S ι σ α → Prop :=
  Relation.ReflTransGen (Step E kill)

/-- All processes at their start. -/
def start (p : ι → Prog S α) (s : σ) : Pool S ι σ α := ⟨fun i => some (p i), s, fun _ => []⟩

section rule

/-- What is relied on, what is guaranteed, what holds when a process is
    done, and what holds of the state and the logs all the time. -/
structure Contract (S : Sig) (ι σ α : Type) where
  rely : ι → σ → σ → Prop
  guarantee : ι → Move S σ → Prop
  done : ι → α → Move S σ → Prop
  always : σ → (ι → List (Event S)) → Prop

/-- The parts of a contract fit together. -/
structure Contract.Fits (K : Contract S ι σ α) (kill : ι → σ → σ) : Prop where
  refl : ∀ i s, K.rely i s s
  trans : ∀ i s s' s'', K.rely i s s' → K.rely i s' s'' → K.rely i s s''
  /-- Everybody may rely on what the others guarantee. -/
  relied : ∀ i j move, j ≠ i → K.guarantee i move → K.rely j move.before move.after
  killed : ∀ i j s, j ≠ i → K.rely j s (kill i s)
  always_act : ∀ i s s' log event, K.always s log → K.guarantee i ⟨s, s', log i ++ [event]⟩ →
    K.always s' (Function.update log i (log i ++ [event]))
  always_kill : ∀ i s log, K.always s log → K.always (kill i s) log

/-- The process with the program `p` keeps to the contract from `move` on. -/
def Contract.Keeps (K : Contract S ι σ α) (E : ι → Env S σ) (i : ι) (p : Prog S α)
    (move : Move S σ) : Prop :=
  Prog.wp ((E i).among (K.rely i)) (K.guarantee i) p (K.done i) move

/-- What is known of a pool: every process keeps to the contract, from its
    last change on, behind which the others made theirs. -/
structure Contract.Holds (K : Contract S ι σ α) (E : ι → Env S σ) (pool : Pool S ι σ α) : Prop where
  keeps : ∀ i p, pool.task i = some p → ∃ move, move.log = pool.log i ∧
    K.rely i move.after pool.state ∧ K.Keeps E i p move
  always : K.always pool.state pool.log

variable {E : ι → Env S σ} {kill : ι → σ → σ} {K : Contract S ι σ α}

theorem Contract.Holds.step (hfits : K.Fits kill) {pool pool' : Pool S ι σ α}
    (h : K.Holds E pool) (hstep : Step E kill pool pool') : K.Holds E pool' := by
  cases hstep with
  | @act i o k b s' htask hans =>
    obtain ⟨move, hlog, hrely, hkeeps⟩ := h.keeps i _ htask
    have hmove : (E i).among (K.rely i) move o b ⟨pool.state, s', pool.log i ++ [⟨o, b⟩]⟩ :=
      ⟨hrely, hans, by rw [hlog]⟩
    obtain ⟨hguarantee, hrest⟩ := hkeeps b _ hmove
    constructor
    · intro j p hj
      by_cases hji : j = i
      · subst hji
        simp only [Function.update_self, Option.some.injEq] at hj ⊢
        subst hj
        exact ⟨_, rfl, hfits.refl j s', hrest⟩
      · simp only [Function.update_of_ne hji] at hj ⊢
        obtain ⟨move', hlog', hrely', hkeeps'⟩ := h.keeps j p hj
        exact ⟨move', hlog', hfits.trans j _ _ _ hrely' (hfits.relied i j _ hji hguarantee), hkeeps'⟩
    · exact hfits.always_act i _ _ _ _ h.always hguarantee
  | kill i =>
    constructor
    · intro j p hj
      by_cases hji : j = i
      · subst hji
        simp only [Function.update_self, reduceCtorEq] at hj
      · simp only [Function.update_of_ne hji] at hj
        obtain ⟨move, hlog, hrely, hkeeps⟩ := h.keeps j p hj
        exact ⟨move, hlog, hfits.trans j _ _ _ hrely (hfits.killed i j _ hji), hkeeps⟩
    · exact hfits.always_kill i _ _ h.always

/-- If every process keeps to the contract, the contract holds of whatever
    the pool becomes. -/
theorem Contract.rule (hfits : K.Fits kill) {p : ι → Prog S α} {s : σ}
    (hkeeps : ∀ i, K.Keeps E i (p i) ⟨s, s, []⟩) (halways : K.always s fun _ => [])
    {pool : Pool S ι σ α} (h : Reaches E kill (start p s) pool) : K.Holds E pool := by
  induction h with
  | refl =>
    refine ⟨?_, halways⟩
    intro i q hq
    obtain rfl := Option.some.inj hq
    exact ⟨⟨s, s, []⟩, rfl, hfits.refl i s, hkeeps i⟩
  | tail _ hstep ih => exact ih.step hfits hstep

omit [DecidableEq ι] in
/-- Then every operation of a process is one that it guarantees. -/
theorem Contract.Holds.guaranteed {pool : Pool S ι σ α} (h : K.Holds E pool) {i : ι} {o : S.Op}
    {k : S.Ans o → Prog S α} {b : S.Ans o} {s' : σ} (htask : pool.task i = some (.op o k))
    (hans : E i pool.state o b s') :
    K.guarantee i ⟨pool.state, s', pool.log i ++ [⟨o, b⟩]⟩ := by
  obtain ⟨move, hlog, hrely, hkeeps⟩ := h.keeps i _ htask
  have hmove : (E i).among (K.rely i) move o b ⟨pool.state, s', pool.log i ++ [⟨o, b⟩]⟩ :=
    ⟨hrely, hans, by rw [hlog]⟩
  exact (hkeeps b _ hmove).1

end rule

/-! ## Schedules -/

/-- The process `i` gets the answer of a function. -/
def turn (answer : ι → σ → (o : S.Op) → S.Ans o × σ) (pool : Pool S ι σ α) (i : ι) :
    Pool S ι σ α :=
  match pool.task i with
  | some (.op o k) =>
    let (b, s') := answer i pool.state o
    ⟨Function.update pool.task i (some (k b)), s',
      Function.update pool.log i (pool.log i ++ [⟨o, b⟩])⟩
  | _ => pool

/-- Processes that take turns on a schedule. -/
theorem reaches_turns {E : ι → Env S σ} {kill : ι → σ → σ} {I : σ → Prop}
    {answer : ι → σ → (o : S.Op) → S.Ans o × σ}
    (hanswer : ∀ i s o, I s → E i s o (answer i s o).1 (answer i s o).2 ∧ I (answer i s o).2)
    {schedule : List ι} {pool : Pool S ι σ α} (hpool : I pool.state) :
    Reaches E kill pool (schedule.foldl (turn answer) pool) := by
  induction schedule generalizing pool with
  | nil => exact .refl
  | cons i schedule ih =>
    rw [List.foldl_cons]
    cases htask : pool.task i with
    | none =>
      have hsame : turn answer pool i = pool := by simp [turn, htask]
      rw [hsame]
      exact ih hpool
    | some p =>
      cases p with
      | pure a =>
        have hsame : turn answer pool i = pool := by simp [turn, htask]
        rw [hsame]
        exact ih hpool
      | op o k =>
        obtain ⟨hstep, hnext⟩ := hanswer i pool.state o hpool
        have hturn : turn answer pool i = ⟨Function.update pool.task i (some (k (answer i pool.state o).1)),
            (answer i pool.state o).2,
            Function.update pool.log i (pool.log i ++ [⟨o, (answer i pool.state o).1⟩])⟩ := by
          simp [turn, htask]
        rw [hturn]
        exact .head (.act htask hstep) (ih hnext)

end Pool

end Effect
