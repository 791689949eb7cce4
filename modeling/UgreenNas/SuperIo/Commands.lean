import UgreenNas.SuperIo.Fans

/-! # The commands that use the chip

    Startup policy and fans are read and set by any number of processes at
    the same time.

    * `Command`, `Reply`  : what is asked for, and what is answered;
    * `Outcome`           : what a session of a command comes to;
    * `serializable`      : commands run one after another, whatever they are;
    * `commands_isolated` : what every reply of every run means;
    * `policy_atomic`     : the policy, as one value that is read and set.
-/

namespace UgreenNas.SuperIo

open Effect Effect.Proc
open UgreenNas.Fan
open UgreenNas.Fan.It8613 (FanError FanStatus Taking DirectChannel)

/-! ## Commands -/

inductive Command where
  | get_policy
  | set_policy (policy : StartupPolicy)
  | get_fans (channels : List DirectChannel)
  | set_pwm (channels : List DirectChannel) (pwm : UInt8)

inductive Reply where
  | policy (r : Except FanError StartupPolicy)
  | fans (r : Except FanError (List FanStatus))
  | done (r : Except FanError Unit)
  deriving DecidableEq

def Command.run : Command → Prog registers Reply
  | .get_policy => (it8613_read_startup_policy.run ()).bind fun x => .pure (.policy x.1)
  | .set_policy policy => ((it8613_set_startup_policy policy).run ()).bind fun x => .pure (.done x.1)
  | .get_fans channels => (read_fans channels).bind fun r => .pure (.fans r)
  | .set_pwm channels pwm => (set_fans channels pwm).bind fun r => .pure (.done r)

/-- What is known of a command that has answered. -/
def Outcome (takes : Taking) : Command → Reply → Session → Prop
  | .get_policy, .policy r, s => PolicyRead r s
  | .set_policy policy, .done r, s => PolicyWritten policy r s
  | .get_fans channels, .fans r, s => FansRead channels r s
  | .set_pwm channels pwm, .done r, s =>
    FansSet (fun hwm r hwm' => Bitwise takes → It8613.DistinctRegisters channels →
      It8613.Written channels pwm hwm r hwm') r s
  | _, _, _ => False

theorem Outcome.finished {takes : Taking} {command : Command} {reply : Reply} {r : Session}
    (h : Outcome takes command reply r) : Finished r := by
  cases r with
  | before | refused | after => trivial
  | inside | broken =>
    cases command <;> cases reply <;> first | exact h.elim | skip
    all_goals
      next result => cases result <;> exact h.elim

theorem command_spec (takes : Taking) (command : Command) :
    Prog.wp (session takes) (fun r => r ≠ .broken) command.run (Outcome takes command) .before := by
  cases command with
  | get_policy =>
    rw [Command.run, Prog.wp_bind]
    exact read_spec
  | set_policy policy =>
    rw [Command.run, Prog.wp_bind]
    exact set_spec policy
  | get_fans channels =>
    rw [Command.run, Prog.wp_bind]
    exact read_fans_spec channels
  | set_pwm channels pwm =>
    rw [Command.run, Prog.wp_bind]
    have hchannels : ∀ hwm, wp (It8613.chip (.ok ()) takes) (fun _ => True)
        (It8613.Direct.set_channels_manual_pwm pwm.toNat channels)
        (fun r _ hwm' => Bitwise takes → It8613.DistinctRegisters channels →
          It8613.Written channels pwm hwm r hwm') () hwm := by
      intro hwm
      apply Prog.wp_of_runs
      intro x hwm' hrun hbits hdistinct
      exact set_channels_written hbits hdistinct hrun
    exact set_fans_spec hchannels

theorem command_disciplined (takes : Taking) (command : Command) :
    Disciplined takes command.run :=
  Prog.wp_mono (command_spec takes command) (fun _ h => h) fun _ _ h => h.finished

/-! ## Runs -/

variable {P : Type} [DecidableEq P] {p : P} {s : Board P} {takes : Taking}
  {strerror : Errno → String} {m : P → Command} {pool : Pool ports P (Board P) (Reply × Device)}

/-- How the state shows where a session has ended. -/
def Shows (p : P) (s : Board P) : Session → Prop
  | .before | .refused => s.taken p = none ∧ s.left p = none
  | .after start last => s.taken p = some start ∧ s.left p = some last
  | _ => False

omit [DecidableEq P] in
theorem Shows.ended {r : Session} (h : Shows p s r) :
    (∃ start last, r = .after start last ∧ s.taken p = some start ∧ s.left p = some last) ∨
      ((r = .before ∨ r = .refused) ∧ s.taken p = none ∧ s.left p = none) := by
  cases r with
  | before => exact .inr ⟨.inl rfl, h⟩
  | refused => exact .inr ⟨.inr rfl, h⟩
  | after start last => exact .inl ⟨start, last, rfl, h⟩
  | inside | broken => exact h.elim

/-- The reply of a process is true of the registers as they were when it took
    the lock and when it gave it up. -/
theorem pool_outcome (hrest : s.AtRest)
    (h : Board.Runs takes strerror (fun p => (m p).run) s pool) {reply : Reply} {c : Device}
    (htask : pool.task p = some (.pure (reply, c))) :
    ∃ r, Outcome takes (m p) reply r ∧ Shows p pool.state r := by
  obtain ⟨r, c', -, hruns, hstands⟩ :=
    pool_achieved (fun p => command_disciplined takes (m p)) hrest h htask
  have houtcome := Prog.wp_runs (command_spec takes (m p)) hruns
  refine ⟨r, houtcome, ?_⟩
  cases r with
  | before | refused =>
    have hidle : Idle p pool.state := hstands
    exact ⟨hidle.taken, hidle.left⟩
  | after start last =>
    have hgone : Gone p start last pool.state := hstands
    exact ⟨hgone.taken, hgone.left⟩
  | inside | broken => exact houtcome.finished

/-! ## The policy as one value -/

/-- The policy behind the command of `p`. -/
def settled (m : P → Command) (replies : P → Reply) (policy : StartupPolicy) (p : P) :
    StartupPolicy :=
  match m p, replies p with
  | .set_policy wanted, .done (.ok ()) => wanted
  | _, _ => policy

omit [DecidableEq P] in
/-- A command whose readback did not fail takes the policy to that behind
    it, and reads the one before it. -/
theorem outcome_policy {replies : P → Reply} {start last : Registers}
    (houtcome : Outcome takes (m p) (replies p) (.after start last))
    (hreadback : ∀ policy, m p = .set_policy policy →
      replies p ≠ .done (.error (readback_error policy))) :
    last.policy = settled m replies start.policy p ∧
      ∀ policy, m p = .get_policy → replies p = .policy (.ok policy) → policy = start.policy := by
  cases hm : m p with
  | get_policy =>
    rw [hm] at houtcome
    cases hreply : replies p with
    | policy r =>
      rw [hreply] at houtcome
      have hsame : last = start ∧ ∀ policy, r = .ok policy → policy = start.policy := by
        cases r with
        | ok policy => exact ⟨houtcome.1, fun _ h => (Except.ok.inj h) ▸ houtcome.2⟩
        | error e => exact ⟨houtcome, fun _ h => (by cases h)⟩
      refine ⟨?_, ?_⟩
      · simp [settled, hm, hsame.1]
      · intro policy _ hr
        exact hsame.2 policy (Reply.policy.inj hr)
    | fans r | done r =>
      rw [hreply] at houtcome
      exact houtcome.elim
  | set_policy wanted =>
    rw [hm] at houtcome
    refine ⟨?_, fun _ h => by cases h⟩
    cases hreply : replies p with
    | done r =>
      rw [hreply] at houtcome
      cases r with
      | ok u => simpa [settled, hm, hreply] using houtcome.2.policy
      | error e =>
        have hother : e ≠ readback_error wanted := by
          rintro rfl
          exact hreadback wanted hm hreply
        simp [settled, hm, hreply, houtcome.2 hother]
    | fans r | policy r =>
      rw [hreply] at houtcome
      exact houtcome.elim
  | get_fans channels =>
    rw [hm] at houtcome
    refine ⟨?_, fun _ h => by cases h⟩
    cases hreply : replies p with
    | fans r =>
      rw [hreply] at houtcome
      have hsame : last = start := by
        cases r with
        | ok fans => exact houtcome.1
        | error e => exact houtcome
      simp [settled, hm, hsame]
    | policy r | done r =>
      rw [hreply] at houtcome
      exact houtcome.elim
  | set_pwm channels pwm =>
    rw [hm] at houtcome
    refine ⟨?_, fun _ h => by cases h⟩
    cases hreply : replies p with
    | done r =>
      rw [hreply] at houtcome
      have hsame : last.sio = start.sio := by
        cases r <;>
        · obtain ⟨-, hsio⟩ | ⟨rfl, -⟩ := houtcome
          · exact hsio
          · rfl
      simp [settled, hm, Registers.policy, hsame]
    | policy r | fans r =>
      rw [hreply] at houtcome
      exact houtcome.elim

/-! ## A run -/

/-- A chip that somebody left in the middle of the sequence. -/
def untidy : Board Bool where
  chip :=
    { keys := [0x01, 0x87]
      entered := false
      index := 0x2e
      device := 0x07
      shared := fun r => if r = 0x20 then 0x86 else if r = 0x21 then 0x13 else 0
      own := fun _ r => if r = 0x30 then 0x01 else if r = 0xf4 then 0xff else 0
      hwm_index := 0
      hwm := fun _ => 0xff }
  opened := fun _ => false
  holder := none
  allowed := fun _ _ => false
  taken := fun _ => none
  left := fun _ => none

theorem untidy_rest : untidy.AtRest := ⟨rfl, fun _ => rfl, fun _ _ => rfl, fun _ => rfl, fun _ => rfl⟩

def cpu_fan : List DirectChannel := [⟨"cpu", 0x16, 0x6b, 0x0e, 0x19, true⟩]

/-- One process sets the policy, the other a fan or reads the policy. -/
def two (other : Command) : Bool → Command := fun p => if p then .set_policy .on else other

/-- The second begins while the first has not taken the lock yet, and waits
    until it has given it up. -/
def taking_turns (other : Command) : Pool ports Bool (Board Bool) (Reply × Device) :=
  (List.replicate 3 true ++ List.replicate 5 false ++ List.replicate 60 true ++
      List.replicate 60 false).foldl (Pool.turn answer)
    (Pool.start (fun p => on_ports (fun _ => "") (two other p).run) untidy)

theorem taking_turns_runs (other : Command) :
    Board.Runs taken_whole (fun _ => "") (fun p => (two other p).run) untidy (taking_turns other) := by
  apply Pool.reaches_turns (I := fun _ => True) _ trivial
  intro p s o _
  exact ⟨answer_sound p s o, trivial⟩

def answered (pool : Pool ports P (Board P) (Reply × Device)) (p : P) : Option Reply :=
  match pool.task p with
  | some (.pure (reply, _)) => some reply
  | _ => none

omit [DecidableEq P] in
theorem task_of_answered {reply : Reply} (h : answered pool p = some reply) :
    ∃ c, pool.task p = some (.pure (reply, c)) := by
  unfold answered at h
  split at h
  · next reply' c htask => exact ⟨c, by rw [htask, Option.some.inj h]⟩
  · cases h

/-! ## Results -/

/-- However the commands take turns and whoever of them is killed: the lock
    goes from one to the next, each command that is done did what it does
    alone, and only who has the lock changes anything. -/
theorem serializable {α : Type} {m : P → Prog registers α} (hm : ∀ p, Disciplined takes (m p))
    (hrest : s.AtRest) {pool : Pool ports P (Board P) (α × Device)}
    (h : Board.Runs takes strerror m s pool) :
    (∃ order, Serial s.chip.view order pool.state ∧
        ∀ pool', Pool.Reaches (board takes) Board.kill pool pool' →
          ∃ order', order <+: order' ∧ Serial s.chip.view order' pool'.state) ∧
      (∀ p a c, pool.task p = some (.pure (a, c)) → Performed takes (m p) a p pool.state) ∧
      ∀ p o k b s', pool.task p = some (.op o k) → board takes p pool.state o b s' →
        s'.chip = pool.state.chip ∨ pool.state.holder = some p := by
  refine ⟨pool_serial hm hrest h, ?_, ?_⟩
  · intro p a c htask
    exact (pool_achieved hm hrest h htask).performed
  · intro p o k b s' htask hstep
    have hfair : Fair p pool.state s' := (pool_holds hm hrest h).guaranteed htask hstep
    exact hfair.turn.chip_eq

theorem serializable_two : ∃ order, Serial untidy.chip.view order (taking_turns .get_policy).state := by
  have hdisciplined := fun p => command_disciplined taken_whole (two .get_policy p)
  obtain ⟨⟨order, hserial, -⟩, -⟩ :=
    serializable hdisciplined untidy_rest (taking_turns_runs .get_policy)
  exact ⟨order, hserial⟩

/-- Whatever the others do: a policy that was read is that of the chip, one
    that was set is set and nothing else has changed; fans are read as they
    are, and set without a change to anything else. -/
theorem commands_isolated (hrest : s.AtRest)
    (h : Board.Runs takes strerror (fun p => (m p).run) s pool) {reply : Reply} {c : Device}
    (htask : pool.task p = some (.pure (reply, c))) :
    (∀ policy, m p = .get_policy → reply = .policy (.ok policy) → ∃ start,
      pool.state.taken p = some start ∧ pool.state.left p = some start ∧ policy = start.policy) ∧
    (∀ policy, m p = .set_policy policy → reply = .done (.ok ()) → ∃ start last,
      pool.state.taken p = some start ∧ pool.state.left p = some last ∧ PolicySet policy start last) ∧
    (∀ channels fans, m p = .get_fans channels → reply = .fans (.ok fans) → ∃ start,
      pool.state.taken p = some start ∧ pool.state.left p = some start ∧
        fans = channels.map fun channel => channel.status start.hwm) ∧
    (∀ channels pwm, m p = .set_pwm channels pwm → reply = .done (.ok ()) → Bitwise takes →
      It8613.DistinctRegisters channels → ∃ start last,
      pool.state.taken p = some start ∧ pool.state.left p = some last ∧ last.sio = start.sio ∧
        It8613.SameOutside (channels.flatMap DirectChannel.registers) start.hwm last.hwm ∧
        ∀ channel ∈ channels, channel.FullySet pwm start.hwm last.hwm) := by
  obtain ⟨r, houtcome, hshows⟩ := pool_outcome hrest h htask
  refine ⟨?_, ?_, ?_, ?_⟩
  · intro policy hm hreply
    rw [hm, hreply] at houtcome
    obtain ⟨start, last, rfl, htaken, hleft⟩ | ⟨rfl | rfl, -⟩ := hshows.ended
    · obtain ⟨rfl, hpolicy⟩ := houtcome
      exact ⟨_, htaken, hleft, hpolicy⟩
    · exact houtcome.elim
    · exact houtcome.elim
  · intro policy hm hreply
    rw [hm, hreply] at houtcome
    obtain ⟨start, last, rfl, htaken, hleft⟩ | ⟨rfl | rfl, -⟩ := hshows.ended
    · exact ⟨start, last, htaken, hleft, houtcome.2⟩
    · exact houtcome.elim
    · exact houtcome.elim
  · intro channels fans hm hreply
    rw [hm, hreply] at houtcome
    obtain ⟨start, last, rfl, htaken, hleft⟩ | ⟨rfl | rfl, -⟩ := hshows.ended
    · obtain ⟨rfl, hfans⟩ := houtcome
      exact ⟨_, htaken, hleft, hfans⟩
    · exact houtcome.elim
    · exact houtcome.elim
  · intro channels pwm hm hreply hbits hdistinct
    rw [hm, hreply] at houtcome
    obtain ⟨start, last, rfl, htaken, hleft⟩ | ⟨rfl | rfl, -⟩ := hshows.ended
    · obtain ⟨hwritten, hsio⟩ | ⟨-, e, he⟩ := houtcome
      · obtain ⟨houtside, hset⟩ := hwritten hbits hdistinct
        exact ⟨start, last, htaken, hleft, hsio, houtside, hset⟩
      · cases he
    · exact houtcome.elim
    · exact houtcome.elim

/-- Both have answered. -/
theorem commands_isolated_two : (∃ start last,
    (taking_turns (.set_pwm cpu_fan 120)).state.taken true = some start ∧
      (taking_turns (.set_pwm cpu_fan 120)).state.left true = some last ∧ PolicySet .on start last) ∧
    ∃ start last, (taking_turns (.set_pwm cpu_fan 120)).state.taken false = some start ∧
      (taking_turns (.set_pwm cpu_fan 120)).state.left false = some last ∧
      last.sio = start.sio ∧
      It8613.SameOutside (cpu_fan.flatMap DirectChannel.registers) start.hwm last.hwm ∧
      ∀ channel ∈ cpu_fan, channel.FullySet 120 start.hwm last.hwm := by
  have hpolicy : answered (taking_turns (.set_pwm cpu_fan 120)) true = some (.done (.ok ())) := by
    decide +kernel
  have hfan : answered (taking_turns (.set_pwm cpu_fan 120)) false = some (.done (.ok ())) := by
    decide +kernel
  obtain ⟨c, htask⟩ := task_of_answered hpolicy
  obtain ⟨c', htask'⟩ := task_of_answered hfan
  have hbits : Bitwise taken_whole := by
    rintro old value _ rfl i _
    exact .inr rfl
  constructor
  · exact (commands_isolated untidy_rest (taking_turns_runs _) htask).2.1 .on rfl rfl
  · exact (commands_isolated untidy_rest (taking_turns_runs _) htask').2.2.2 cpu_fan 120 rfl rfl hbits
      (by decide)

end UgreenNas.SuperIo
