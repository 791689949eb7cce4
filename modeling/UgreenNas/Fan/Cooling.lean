import UgreenNas.Fan.Daemon

/-! # Fans and the daemon's record of them

    `write_result == 0` should mean that every fan runs at the PWM recorded
    for it, and no slower than the plan wants.  The record decides whether a
    target is written at all, so one write that moved the fan and then
    reported failure leaves a record that is wrong until the next success.
    The results below say exactly when that is noticed.
-/

namespace UgreenNas.Fan

variable (config : CurveConfig) (route : ModelRoute)

/-! ## The specification -/

/-- An iteration that reports success leaves every target at its recorded
    PWM, which is at least what the plan asked for. -/
def Cooled (states : Nat → TargetState) (sample : Sample) : Prop :=
  (iteration config route states sample).2 = .ok () →
    ∀ i target, route.targets[i]? = some target →
      ((iteration config route states sample).1 i).hardware =
          ((iteration config route states sample).1 i).hold.applied_pwm ∧
        desired_for_target target (iteration_plan config sample) ≤
          ((iteration config route states sample).1 i).hardware

/-- The target already is, as far as the daemon knows, where it should go. -/
def Skips (plan : CurvePlan) (target : FanTarget) (now : Int) (state : TargetState) : Prop :=
  state.hold.applied_known = true ∧
    (hold_lower_pwm state.hold (desired_for_target target plan)
      config.downshift_delay_seconds now).1 = state.hold.applied_pwm

/-- A write of the route is attempted, and the child process succeeds. -/
def Writes (outcome : WriteOutcome) : Prop :=
  (route.requires_force = false ∨ config.allow_unvalidated_writes = true) ∧ outcome = .success

/-- Every target of the iteration is skipped or written. -/
def AllSucceed (states : Nat → TargetState) (sample : Sample) : Prop :=
  ∀ i target, route.targets[i]? = some target →
    Skips config (iteration_plan config sample) target (sample.clock i) (states i) ∨
      Writes config route (sample.outcome i)

/-- The iteration skips a target whose last effective write was reported as
    failed, and nothing else goes wrong. -/
def SkipsTorn (states : Nat → TargetState) (sample : Sample) : Prop :=
  AllSucceed config route states sample ∧
    ∃ i target, route.targets[i]? = some target ∧
      Skips config (iteration_plan config sample) target (sample.clock i) (states i) ∧
      (states i).torn = true

/-! ## Holding -/

theorem hold_lower_pwm_applied (state : PwmHoldState) (desired_pwm delay : Nat) (now : Int) :
    (hold_lower_pwm state desired_pwm delay now).2.applied_pwm = state.applied_pwm := by
  unfold hold_lower_pwm
  split
  · rfl
  · dsimp only
    split <;> split <;> rfl

theorem hold_lower_pwm_known (state : PwmHoldState) (desired_pwm delay : Nat) (now : Int) :
    (hold_lower_pwm state desired_pwm delay now).2.applied_known = state.applied_known := by
  unfold hold_lower_pwm
  split
  · rfl
  · dsimp only
    split <;> split <;> rfl

/-- Holding never asks for less than the plan. -/
theorem le_hold_lower_pwm (state : PwmHoldState) (desired_pwm delay : Nat) (now : Int) :
    desired_pwm ≤ (hold_lower_pwm state desired_pwm delay now).1 := by
  unfold hold_lower_pwm
  split
  · exact Nat.le_refl _
  · rename_i hheld
    have hlt : desired_pwm < state.applied_pwm := by
      simp only [Bool.or_eq_true, decide_eq_true_eq, not_or] at hheld
      omega
    dsimp only
    split <;> split
    · exact Nat.le_of_lt hlt
    · exact Nat.le_refl _
    · exact Nat.le_of_lt hlt
    · exact Nat.le_refl _

/-! ## One target -/

/-- The PWM that is asked for on a target. -/
def held_pwm (plan : CurvePlan) (target : FanTarget) (now : Int) (state : TargetState) : Nat :=
  (hold_lower_pwm state.hold (desired_for_target target plan) config.downshift_delay_seconds now).1

/-- A skipped target only has its hold state updated. -/
theorem drive_target_of_skips {plan : CurvePlan} {target : FanTarget} {now : Int}
    (outcome : WriteOutcome) {state : TargetState} (h : Skips config plan target now state) :
    drive_target config route plan target now outcome state =
      ({ state with hold := (hold_lower_pwm state.hold (desired_for_target target plan)
          config.downshift_delay_seconds now).2 }, .ok ()) := by
  obtain ⟨hknown, hpwm⟩ := h
  simp [drive_target, hold_lower_pwm_known, hold_lower_pwm_applied, hknown, hpwm]

/-- Any other target is written. -/
theorem drive_target_of_not_skips {plan : CurvePlan} {target : FanTarget} {now : Int}
    (outcome : WriteOutcome) {state : TargetState} (h : ¬ Skips config plan target now state) :
    drive_target config route plan target now outcome state =
      record_pwm (held_pwm config plan target now state)
        (apply_pwm route config.allow_unvalidated_writes outcome
          (held_pwm config plan target now state)
          { state with hold := (hold_lower_pwm state.hold (desired_for_target target plan)
              config.downshift_delay_seconds now).2 }) := by
  have hwrite : (!state.hold.applied_known ||
      decide (held_pwm config plan target now state ≠ state.hold.applied_pwm)) = true := by
    by_cases hk : state.hold.applied_known = true
    · have hne : held_pwm config plan target now state ≠ state.hold.applied_pwm :=
        fun hpwm => h ⟨hk, hpwm⟩
      simp [hne]
    · simp [hk]
  unfold held_pwm at hwrite
  simp only [drive_target, hold_lower_pwm_known, hold_lower_pwm_applied]
  rw [if_pos hwrite]
  rfl

/-- Everything driving a target can do: skip it, write it, or fail with the
    fan left alone or moved. -/
theorem drive_target_cases (plan : CurvePlan) (target : FanTarget) (now : Int)
    (outcome : WriteOutcome) (state : TargetState) :
    let driven := drive_target config route plan target now outcome state
    (Skips config plan target now state ∧ driven.2 = .ok () ∧
      driven.1.hold.applied_known = true ∧ driven.1.hold.applied_pwm = state.hold.applied_pwm ∧
      driven.1.hardware = state.hardware ∧ driven.1.torn = state.torn) ∨
    (¬ Skips config plan target now state ∧ Writes config route outcome ∧ driven.2 = .ok () ∧
      driven.1.hold.applied_known = true ∧
      driven.1.hold.applied_pwm = held_pwm config plan target now state ∧
      driven.1.hardware = held_pwm config plan target now state ∧ driven.1.torn = false) ∨
    (¬ Skips config plan target now state ∧ ¬ Writes config route outcome ∧ driven.2 ≠ .ok () ∧
      driven.1.hold.applied_known = state.hold.applied_known ∧
      driven.1.hold.applied_pwm = state.hold.applied_pwm ∧
      ((driven.1.hardware = state.hardware ∧ driven.1.torn = state.torn) ∨
       (driven.1.hardware = held_pwm config plan target now state ∧ driven.1.torn = true))) := by
  intro driven
  have happlied := hold_lower_pwm_applied state.hold (desired_for_target target plan)
    config.downshift_delay_seconds now
  have hknown := hold_lower_pwm_known state.hold (desired_for_target target plan)
    config.downshift_delay_seconds now
  by_cases hskip : Skips config plan target now state
  · left
    have hdriven : driven = _ := drive_target_of_skips config route outcome hskip
    rw [hdriven]
    exact ⟨hskip, rfl, hknown.trans hskip.1, happlied, rfl, rfl⟩
  · right
    have hdriven : driven = _ := drive_target_of_not_skips config route outcome hskip
    rw [hdriven]
    by_cases hgranted : route.requires_force = false ∨ config.allow_unvalidated_writes = true
    · have happly : ∀ pwm held, apply_pwm route config.allow_unvalidated_writes outcome pwm held =
          invoke_ugreenctl outcome pwm held := by
        intro pwm held
        rcases hgranted with hf | ha
        · simp [apply_pwm, hf]
        · simp [apply_pwm, ha]
      rw [happly]
      cases outcome with
      | success =>
        left
        exact ⟨hskip, ⟨hgranted, rfl⟩, rfl, rfl, rfl, rfl, rfl⟩
      | failed errno changed =>
        right
        have hwrites : ¬ Writes config route (.failed errno changed) := fun hw => nomatch hw.2
        cases changed with
        | true => exact ⟨hskip, hwrites, nofun, hknown, happlied, .inr ⟨rfl, rfl⟩⟩
        | false => exact ⟨hskip, hwrites, nofun, hknown, happlied, .inl ⟨rfl, rfl⟩⟩
    · -- refused before any child process is started
      right
      have hwrites : ¬ Writes config route outcome := fun hw => hgranted hw.1
      have hrefused : (route.requires_force && !config.allow_unvalidated_writes) = true := by
        rw [not_or] at hgranted
        obtain ⟨hf, ha⟩ := hgranted
        simp only [Bool.not_eq_false] at hf
        simp [hf, ha]
      rw [apply_pwm, if_pos hrefused]
      exact ⟨hskip, hwrites, nofun, hknown, happlied, .inl ⟨rfl, rfl⟩⟩

/-- Driving a target reports success exactly when it is skipped or written. -/
theorem drive_target_ok_iff (plan : CurvePlan) (target : FanTarget) (now : Int)
    (outcome : WriteOutcome) (state : TargetState) :
    (drive_target config route plan target now outcome state).2 = .ok () ↔
      Skips config plan target now state ∨ Writes config route outcome := by
  rcases drive_target_cases config route plan target now outcome state with
    ⟨hskip, hok, _⟩ | ⟨_, hwrites, hok, _⟩ | ⟨hskip, hwrites, hok, _⟩
  · simp [hskip, hok]
  · simp [hwrites, hok]
  · simp [hskip, hwrites, hok]

/-- The record of a target is wrong exactly while it is torn. -/
def Tracked (state : TargetState) : Prop :=
  state.hold.applied_known = true → (state.torn = true ↔ state.hardware ≠ state.hold.applied_pwm)

theorem drive_target_tracked (plan : CurvePlan) (target : FanTarget) (now : Int)
    (outcome : WriteOutcome) {state : TargetState} (h : Tracked state) :
    Tracked (drive_target config route plan target now outcome state).1 := by
  rcases drive_target_cases config route plan target now outcome state with
    ⟨hskip, _, _, happlied, hhardware, htorn⟩ | ⟨_, _, _, _, happlied, hhardware, htorn⟩ |
    ⟨hskip, _, _, hknown, happlied, hmoved⟩
  · intro _
    rw [htorn, hhardware, happlied]
    exact h hskip.1
  · intro _
    simp [htorn, hhardware, happlied]
  · intro hk
    rw [hknown] at hk
    rw [happlied]
    rcases hmoved with ⟨hhardware, htorn⟩ | ⟨hhardware, htorn⟩
    · rw [hhardware, htorn]
      exact h hk
    · -- only a PWM other than the recorded one is ever written to a known target
      have hne : held_pwm config plan target now state ≠ state.hold.applied_pwm := by
        intro hpwm
        exact hskip ⟨hk, hpwm⟩
      simp [hhardware, htorn, hne]

/-! ## All targets of the route -/

section targets

variable (plan : CurvePlan) (sample : Sample)

/-- A target before `index` is not touched any more. -/
theorem drive_targets_before (targets : List FanTarget) (index : Nat)
    (states : Nat → TargetState) {i : Nat} (hi : i < index) :
    (drive_targets config route plan sample targets index states).1 i = states i := by
  induction targets generalizing index states with
  | nil => rfl
  | cons target rest ih =>
    have hne : i ≠ index := by omega
    simp only [drive_targets]
    cases hdriven : (drive_target config route plan target (sample.clock index)
        (sample.outcome index) (states index)).2 with
    | error errno => simp [Function.update_of_ne hne]
    | ok u =>
      simp only
      rw [ih (index + 1) _ (by omega), Function.update_of_ne hne]

theorem drive_targets_ok_iff (targets : List FanTarget) (index : Nat)
    (states : Nat → TargetState) :
    (drive_targets config route plan sample targets index states).2 = .ok () ↔
      ∀ k target, targets[k]? = some target →
        (drive_target config route plan target (sample.clock (index + k))
          (sample.outcome (index + k)) (states (index + k))).2 = .ok () := by
  induction targets generalizing index states with
  | nil => simp [drive_targets]
  | cons target rest ih =>
    simp only [drive_targets]
    cases hdriven : (drive_target config route plan target (sample.clock index)
        (sample.outcome index) (states index)).2 with
    | error errno =>
      constructor
      · intro h
        cases h
      · intro h
        have h0 := h 0 target rfl
        rw [Nat.add_zero, hdriven] at h0
        cases h0
    | ok u =>
      simp only
      rw [ih]
      constructor
      · intro h k t ht
        cases k with
        | zero =>
          obtain rfl : target = t := by simpa using ht
          exact hdriven
        | succ k =>
          have hk := h k t (by simpa using ht)
          rw [Function.update_of_ne (by omega), Nat.add_assoc, Nat.add_comm 1 k] at hk
          exact hk
      · intro h k t ht
        have hk := h (k + 1) t (by simpa using ht)
        rw [Function.update_of_ne (by omega), Nat.add_assoc, Nat.add_comm 1 k]
        exact hk

/-- A target is driven once, from the state it had, when nothing before it
    fails, and otherwise not at all. -/
theorem drive_targets_at (targets : List FanTarget) (index : Nat) (states : Nat → TargetState)
    {k : Nat} {target : FanTarget} (hk : targets[k]? = some target) :
    let reached := ∀ j < k, ∀ t, targets[j]? = some t →
      (drive_target config route plan t (sample.clock (index + j)) (sample.outcome (index + j))
        (states (index + j))).2 = .ok ()
    let after := (drive_targets config route plan sample targets index states).1
    (reached → after (index + k) =
      (drive_target config route plan target (sample.clock (index + k))
        (sample.outcome (index + k)) (states (index + k))).1) ∧
    (¬ reached → after (index + k) = states (index + k)) := by
  induction targets generalizing index states k with
  | nil => simp at hk
  | cons head rest ih =>
    intro reached after
    -- the list from the second target on, as the loop goes on with it
    have hshift : ∀ j, index + 1 + j = index + (j + 1) := fun j => by omega
    cases k with
    | zero =>
      obtain rfl : head = target := by simpa using hk
      have hhead : after index = (drive_target config route plan head (sample.clock index)
          (sample.outcome index) (states index)).1 := by
        show (drive_targets config route plan sample (head :: rest) index states).1 index = _
        simp only [drive_targets]
        split
        · exact Function.update_self ..
        · rw [drive_targets_before config route plan sample rest (index + 1) _
            (Nat.lt_succ_self index)]
          exact Function.update_self ..
      exact ⟨fun _ => hhead, fun h => absurd (fun j hj => absurd hj (Nat.not_lt_zero j)) h⟩
    | succ k =>
      have hk' : rest[k]? = some target := by simpa using hk
      cases hdriven : (drive_target config route plan head (sample.clock index)
          (sample.outcome index) (states index)).2 with
      | error errno =>
        have hafter : after (index + (k + 1)) = states (index + (k + 1)) := by
          show (drive_targets config route plan sample (head :: rest) index states).1 _ = _
          simp only [drive_targets, hdriven]
          exact Function.update_of_ne (by omega) ..
        refine ⟨fun h => ?_, fun _ => hafter⟩
        have hhead := h 0 (Nat.succ_pos k) head rfl
        rw [Nat.add_zero, hdriven] at hhead
        cases hhead
      | ok u =>
        let updated := Function.update states index (drive_target config route plan head
          (sample.clock index) (sample.outcome index) (states index)).1
        have hupdated : ∀ j, updated (index + (j + 1)) = states (index + (j + 1)) := by
          intro j
          exact Function.update_of_ne (by omega) ..
        have hafter : after =
            (drive_targets config route plan sample rest (index + 1) updated).1 := by
          show (drive_targets config route plan sample (head :: rest) index states).1 = _
          simp only [drive_targets, hdriven]
          rfl
        have hrest := ih (index + 1) updated hk'
        simp only [hshift, hupdated] at hrest
        rw [hafter]
        constructor
        · intro hreached
          apply hrest.1
          intro j hj t ht
          exact hreached (j + 1) (Nat.succ_lt_succ hj) t (by simpa using ht)
        · intro hnot
          apply hrest.2
          intro hreached
          apply hnot
          intro j hj t ht
          cases j with
          | zero =>
            obtain rfl : head = t := by simpa using ht
            exact hdriven
          | succ j => exact hreached j (Nat.lt_of_succ_lt_succ hj) t (by simpa using ht)

/-- When all goes well every target of the list has been driven once, from
    the state it had. -/
theorem drive_targets_of_ok (targets : List FanTarget) (index : Nat) (states : Nat → TargetState)
    (hok : (drive_targets config route plan sample targets index states).2 = .ok ())
    {k : Nat} {target : FanTarget} (hk : targets[k]? = some target) :
    (drive_targets config route plan sample targets index states).1 (index + k) =
      (drive_target config route plan target (sample.clock (index + k))
        (sample.outcome (index + k)) (states (index + k))).1 := by
  have hall := (drive_targets_ok_iff config route plan sample targets index states).mp hok
  exact (drive_targets_at config route plan sample targets index states hk).1
    fun j _ t ht => hall j t ht

theorem drive_targets_tracked (targets : List FanTarget) (index : Nat)
    {states : Nat → TargetState} (h : ∀ i, Tracked (states i)) (i : Nat) :
    Tracked ((drive_targets config route plan sample targets index states).1 i) := by
  induction targets generalizing index states with
  | nil => exact h i
  | cons target rest ih =>
    have hupdated : ∀ j, Tracked (Function.update states index
        (drive_target config route plan target (sample.clock index) (sample.outcome index)
          (states index)).1 j) := by
      intro j
      by_cases hj : j = index
      · subst hj
        rw [Function.update_self]
        exact drive_target_tracked config route plan target _ _ (h j)
      · rw [Function.update_of_ne hj]
        exact h j
    simp only [drive_targets]
    split
    · exact hupdated i
    · exact ih (index + 1) hupdated

end targets

/-! ## One iteration -/

theorem iteration_ok_iff (states : Nat → TargetState) (sample : Sample) :
    (iteration config route states sample).2 = .ok () ↔ AllSucceed config route states sample := by
  unfold iteration AllSucceed
  rw [drive_targets_ok_iff]
  simp only [Nat.zero_add, drive_target_ok_iff]

theorem iteration_tracked {states : Nat → TargetState} (h : ∀ i, Tracked (states i))
    (sample : Sample) (i : Nat) : Tracked ((iteration config route states sample).1 i) :=
  drive_targets_tracked config route _ sample route.targets 0 h i

/-- The step lemma: from faithful records an iteration cools unless it
    skips a torn target. -/
theorem cooled_iff {states : Nat → TargetState} (h : ∀ i, Tracked (states i)) (sample : Sample) :
    Cooled config route states sample ↔ ¬ SkipsTorn config route states sample := by
  unfold Cooled
  rw [iteration_ok_iff]
  have hdriven : AllSucceed config route states sample → ∀ i target,
      route.targets[i]? = some target →
        (iteration config route states sample).1 i =
          (drive_target config route (iteration_plan config sample) target (sample.clock i)
            (sample.outcome i) (states i)).1 := by
    intro hall i target htarget
    have hok := (iteration_ok_iff config route states sample).mpr hall
    have := drive_targets_of_ok config route _ sample route.targets 0 states hok htarget
    rwa [Nat.zero_add] at this
  constructor
  · rintro hcooled ⟨hall, i, target, htarget, hskips, htorn⟩
    have hrecord := (hcooled hall i target htarget).1
    rw [hdriven hall i target htarget] at hrecord
    rcases drive_target_cases config route (iteration_plan config sample) target (sample.clock i)
        (sample.outcome i) (states i) with
      ⟨_, _, _, happlied, hhardware, _⟩ | ⟨hnot, _⟩ | ⟨hnot, _⟩
    · rw [hhardware, happlied] at hrecord
      exact (h i hskips.1).mp htorn hrecord
    · exact hnot hskips
    · exact hnot hskips
  · intro hnot hall i target htarget
    rw [hdriven hall i target htarget]
    have hle := le_hold_lower_pwm (states i).hold
      (desired_for_target target (iteration_plan config sample)) config.downshift_delay_seconds
      (sample.clock i)
    rcases drive_target_cases config route (iteration_plan config sample) target (sample.clock i)
        (sample.outcome i) (states i) with
      ⟨hskips, _, _, happlied, hhardware, _⟩ | ⟨_, _, _, _, happlied, hhardware, _⟩ |
      ⟨hskips, hwrites, _⟩
    · have htorn : (states i).torn ≠ true := fun ht => hnot ⟨hall, i, target, htarget, hskips, ht⟩
      have hrecord : (states i).hardware = (states i).hold.applied_pwm := by
        by_contra hne
        exact htorn ((h i hskips.1).mpr hne)
      rw [hhardware, happlied]
      refine ⟨hrecord, ?_⟩
      rw [hrecord, ← hskips.2]
      exact hle
    · rw [hhardware, happlied]
      exact ⟨rfl, hle⟩
    · rcases hall i target htarget with hs | hw
      · exact absurd hs hskips
      · exact absurd hw hwrites

/-! ## Whole runs -/

theorem iterations_tracked {states : Nat → TargetState} (h : ∀ i, Tracked (states i))
    (samples : List Sample) :
    ∀ step ∈ iterations config route states samples, ∀ i, Tracked (step.1 i) := by
  induction samples generalizing states with
  | nil =>
    intro step hstep
    cases hstep
  | cons sample rest ih =>
    intro step hstep
    rcases List.mem_cons.mp hstep with rfl | hrest
    · exact h
    · exact ih (iteration_tracked config route h sample) step hrest

/-- In a run of the daemon from its start, every successful iteration has
    every fan where the record says and no slower than planned, if and only
    if no iteration of the run skips a torn target. -/
theorem iterations_cooled_iff (hardware : Nat → Nat) (samples : List Sample) :
    (∀ step ∈ iterations config route (initial_targets hardware) samples,
      Cooled config route step.1 step.2) ↔
    ∀ step ∈ iterations config route (initial_targets hardware) samples,
      ¬ SkipsTorn config route step.1 step.2 := by
  have htracked := @iterations_tracked config route (initial_targets hardware)
    (fun i hknown => absurd hknown (by simp [initial_targets])) samples
  constructor
  · intro h step hstep
    exact (cooled_iff config route (htracked step hstep) step.2).mp (h step hstep)
  · intro h step hstep
    exact (cooled_iff config route (htracked step hstep) step.2).mpr (h step hstep)

/-- A warm start, a cool-down held for the minute the defaults ask for, and
    the lowering whose child process fails after it has slowed the fans. -/
def torn_cooldown : List Sample :=
  [⟨.ok ⟨80, -1, -1, 80⟩, fun _ => 0, fun _ => .success⟩,
   ⟨.ok ⟨40, -1, -1, 40⟩, fun _ => 0, fun _ => .success⟩,
   ⟨.ok ⟨40, -1, -1, 40⟩, fun _ => 60, fun _ => .failed Errno.EIO true⟩]

/-- When it gets warm again the daemon has nothing to do: the record says 204. -/
def warm_again : Sample := ⟨.ok ⟨80, -1, -1, 80⟩, fun _ => 70, fun _ => .success⟩

/-- With the default configuration the last iteration reports success and
    leaves the CPU fan of a DXP4800 Plus at 64 where the plan asked for 204. -/
theorem torn_cooldown_undercools :
    validate_config config_defaults = .ok () ∧
    ∃ route ∈ model_routes, ∃ step ∈ iterations config_defaults route
        (initial_targets fun _ => 128) (torn_cooldown ++ [warm_again]),
      (iteration config_defaults route step.1 step.2).2 = .ok () ∧
      (iteration_plan config_defaults step.2).cpu_pwm = 204 ∧
      ((iteration config_defaults route step.1 step.2).1 0).hardware = 64 ∧
      ¬ Cooled config_defaults route step.1 step.2 := by
  let route : ModelRoute :=
    ⟨"DXP4800 Plus", "dxp4800plus", [⟨"cpu", .cpu⟩, ⟨"sys", .system⟩], false⟩
  let run := iterations config_defaults route (initial_targets fun _ => 128)
    (torn_cooldown ++ [warm_again])
  have hok : (iteration config_defaults route run[3].1 run[3].2).2 = .ok () := by
    decide +kernel
  have hhardware : ((iteration config_defaults route run[3].1 run[3].2).1 0).hardware = 64 := by
    decide +kernel
  have happlied :
      ((iteration config_defaults route run[3].1 run[3].2).1 0).hold.applied_pwm = 204 := by
    decide +kernel
  refine ⟨by decide +kernel, route, by decide, run[3], List.getElem_mem _, hok, by decide +kernel,
    hhardware, ?_⟩
  intro hcooled
  have hrecord := (hcooled hok 0 ⟨"cpu", .cpu⟩ rfl).1
  rw [hhardware, happlied] at hrecord
  exact absurd hrecord (by decide)

end UgreenNas.Fan
