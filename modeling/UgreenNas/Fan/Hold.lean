import Mathlib.Data.List.Induction
import UgreenNas.Fan.Independent
import UgreenNas.Fan.Monotone

/-! # Lowering a fan only after a wait

    The daemon remembers of the past only one pending PWM and the clock when
    it became pending.  A lower PWM is written when the two say that it has
    been wanted for `downshift_delay_seconds`.  They stand for the whole
    wait as long as the clock does not fall behind its beginning, no
    iteration ends before it comes to the target and plans something else,
    and 0, which marks that nothing is pending, is never planned.
-/

namespace UgreenNas.Fan

variable (config : CurveConfig) (route : ModelRoute)

/-! ## Runs -/

/-- One iteration, with the plan it follows. -/
structure Tick where
  plan : CurvePlan
  sample : Sample

/-- The targets after a run. -/
def driven (states : Nat → TargetState) (run : List Tick) : Nat → TargetState :=
  run.foldl (fun states tick =>
    (drive_targets config route tick.plan tick.sample route.targets 0 states).1) states

theorem driven_snoc (states : Nat → TargetState) (before : List Tick) (now : Tick) :
    driven config route states (before ++ [now]) =
      (drive_targets config route now.plan now.sample route.targets 0
        (driven config route states before)).1 := by
  simp [driven, List.foldl_append]

/-- A property of every iteration of a run and what came before it. -/
def AtEvery (P : List Tick → Tick → Prop) (run : List Tick) : Prop :=
  ∀ before now after, run = before ++ now :: after → P before now

theorem AtEvery.initial {P : List Tick → Tick → Prop} {before : List Tick} {rest : List Tick}
    (h : AtEvery P (before ++ rest)) : AtEvery P before := by
  intro earlier now after heq
  apply h earlier now (after ++ rest)
  rw [heq, List.append_assoc, List.cons_append]

/-! ## The specification -/

/-- Target `i` is written `pwm`, which is lower than its applied PWM. -/
def Lowers (states : Nat → TargetState) (now : Tick) (i : Nat) (target : FanTarget)
    (pwm : Nat) : Prop :=
  Reaches config route now.plan now.sample states i ∧
    ¬ Skips config now.plan target (now.sample.clock i) (states i) ∧
    held_pwm config now.plan target (now.sample.clock i) (states i) = pwm ∧
    (states i).hold.applied_known = true ∧ pwm < (states i).hold.applied_pwm

/-- The iterations of `run` from `start` on all plan `pwm` for the target. -/
def PlannedSince (run : List Tick) (start : Tick) (target : FanTarget) (pwm : Nat) : Prop :=
  ∃ earlier rest, run = earlier ++ start :: rest ∧
    ∀ tick ∈ start :: rest, desired_for_target target tick.plan = pwm

/-- A lower PWM is written only after it has been planned without a break
    for `downshift_delay_seconds` of the clock. -/
def LowersLate (states : Nat → TargetState) (before : List Tick) (now : Tick) : Prop :=
  ∀ i target pwm, route.targets[i]? = some target →
    Lowers config route (driven config route states before) now i target pwm →
    ∃ start, PlannedSince (before ++ [now]) start target pwm ∧
      (config.downshift_delay_seconds : Int) ≤ now.sample.clock i - start.sample.clock i

/-- A lower PWM is known to be waiting. -/
def Waiting (hold : PwmHoldState) : Prop :=
  hold.applied_known = true ∧ hold.pending_lower_pwm ≠ 0 ∧
    hold.pending_lower_pwm < hold.applied_pwm

/-- The wait of one target goes through an iteration as it should. -/
structure SteadyAt (states : Nat → TargetState) (now : Tick) (i : Nat) (target : FanTarget) :
    Prop where
  /-- 0 is not planned. -/
  planned : desired_for_target target now.plan ≠ 0
  /-- The clock is not behind the beginning of the wait. -/
  clock : Reaches config route now.plan now.sample states i → Waiting (states i).hold →
    (states i).hold.pending_lower_pwm = desired_for_target target now.plan →
    (states i).hold.pending_since ≤ now.sample.clock i
  /-- An iteration that does not come to the target plans the PWM it waits for. -/
  reached : ¬ Reaches config route now.plan now.sample states i → Waiting (states i).hold →
    (states i).hold.pending_lower_pwm = desired_for_target target now.plan

/-- Either there is no delay or every wait goes through as it should. -/
def Steady (states : Nat → TargetState) (now : Tick) : Prop :=
  config.downshift_delay_seconds = 0 ∨
    ∀ i target, route.targets[i]? = some target → SteadyAt config route states now i target

/-! ## Holding -/

/-- Everything `hold_lower_pwm` can do: let the PWM through, or wait for it. -/
theorem hold_lower_pwm_cases (state : PwmHoldState) (desired_pwm delay : Nat) (now : Int) :
    let held := hold_lower_pwm state desired_pwm delay now
    (held = (desired_pwm, { state with pending_lower_pwm := 0, pending_since := 0 }) ∧
      (state.applied_known = true → state.applied_pwm ≤ desired_pwm)) ∨
    (state.applied_known = true ∧ desired_pwm < state.applied_pwm ∧
      ∃ since, held.2 = { state with pending_lower_pwm := desired_pwm, pending_since := since } ∧
        ((state.pending_lower_pwm ≠ desired_pwm ∧ since = now) ∨
         (state.pending_lower_pwm = desired_pwm ∧ since = state.pending_since)) ∧
        (held.1 ≠ state.applied_pwm → held.1 = desired_pwm ∧ delay ≤ u64 (now - since))) := by
  intro held
  have hdef : held = hold_lower_pwm state desired_pwm delay now := rfl
  unfold hold_lower_pwm at hdef
  by_cases hpass : (!state.applied_known || decide (desired_pwm ≥ state.applied_pwm)) = true
  · left
    rw [if_pos hpass] at hdef
    refine ⟨hdef, fun hknown => ?_⟩
    simpa [hknown] using hpass
  · right
    rw [if_neg hpass] at hdef
    simp only [Bool.or_eq_true, Bool.not_eq_true', decide_eq_true_eq, not_or,
      Bool.not_eq_false] at hpass
    refine ⟨hpass.1, by omega, ?_⟩
    by_cases hpending : state.pending_lower_pwm ≠ desired_pwm
    · simp only [if_pos hpending] at hdef
      refine ⟨now, ?_, .inl ⟨hpending, rfl⟩, ?_⟩
      · rw [hdef]
        split <;> rfl
      · rw [hdef]
        intro hne
        split at hne
        · exact absurd rfl hne
        · rename_i hlate
          rw [if_neg hlate]
          exact ⟨rfl, Nat.not_lt.mp hlate⟩
    · have hsame : state.pending_lower_pwm = desired_pwm := not_not.mp hpending
      simp only [if_neg hpending] at hdef
      refine ⟨state.pending_since, ?_, .inr ⟨hsame, rfl⟩, ?_⟩
      · rw [hdef, ← hsame]
        split <;> rfl
      · rw [hdef]
        intro hne
        split at hne
        · exact absurd rfl hne
        · rename_i hlate
          rw [if_neg hlate]
          exact ⟨rfl, Nat.not_lt.mp hlate⟩

/-- A target keeps the hold state it was given, but for the record of a write. -/
theorem drive_target_hold (plan : CurvePlan) (target : FanTarget) (now : Int)
    (outcome : WriteOutcome) (state : TargetState) :
    let held := hold_lower_pwm state.hold (desired_for_target target plan)
      config.downshift_delay_seconds now
    let after := (drive_target config route plan target now outcome state).1.hold
    after.pending_lower_pwm = held.2.pending_lower_pwm ∧ after.pending_since = held.2.pending_since := by
  intro held after
  by_cases hskips : Skips config plan target now state
  · have hdriven := drive_target_of_skips config route outcome hskips
    show (drive_target config route plan target now outcome state).1.hold.pending_lower_pwm = _ ∧ _
    simp only [after, hdriven]
    exact ⟨rfl, rfl⟩
  · have hdriven := drive_target_of_not_skips config route outcome hskips
    simp only [after, hdriven, apply_pwm]
    split
    · exact ⟨rfl, rfl⟩
    · cases outcome with
      | success => exact ⟨rfl, rfl⟩
      | failed errno changed =>
        cases changed with
        | true => exact ⟨rfl, rfl⟩
        | false => exact ⟨rfl, rfl⟩

/-! ## The wait -/

/-- The pending PWM stands for a wait that began when its clock says. -/
def Witnessed (before : List Tick) (i : Nat) (target : FanTarget) (hold : PwmHoldState) : Prop :=
  Waiting hold → ∃ start, PlannedSince before start target hold.pending_lower_pwm ∧
    start.sample.clock i = hold.pending_since

theorem PlannedSince.snoc {before : List Tick} {start now : Tick} {target : FanTarget} {pwm : Nat}
    (h : PlannedSince before start target pwm) (hnow : desired_for_target target now.plan = pwm) :
    PlannedSince (before ++ [now]) start target pwm := by
  obtain ⟨earlier, rest, rfl, hall⟩ := h
  refine ⟨earlier, rest ++ [now], by simp, ?_⟩
  intro tick htick
  rw [← List.cons_append, List.mem_append] at htick
  rcases htick with hbefore | hlast
  · exact hall tick hbefore
  · rw [List.mem_singleton.mp hlast]
    exact hnow

theorem PlannedSince.now (before : List Tick) (now : Tick) (target : FanTarget) :
    PlannedSince (before ++ [now]) now target (desired_for_target target now.plan) := by
  refine ⟨before, [], rfl, ?_⟩
  intro tick htick
  rw [List.mem_singleton.mp htick]

section wait

variable {states : Nat → TargetState} {before : List Tick} {now : Tick} {i : Nat}
  {target : FanTarget}

/-- The beginning of the wait for a PWM that is held back now. -/
theorem held_since (hwitnessed : Witnessed before i target (states i).hold)
    (hplanned : desired_for_target target now.plan ≠ 0)
    (hknown : (states i).hold.applied_known = true)
    (hlower : desired_for_target target now.plan < (states i).hold.applied_pwm) {since : Int}
    (hsince : ((states i).hold.pending_lower_pwm ≠ desired_for_target target now.plan ∧
        since = now.sample.clock i) ∨
      ((states i).hold.pending_lower_pwm = desired_for_target target now.plan ∧
        since = (states i).hold.pending_since)) :
    ∃ start, PlannedSince (before ++ [now]) start target (desired_for_target target now.plan) ∧
      start.sample.clock i = since := by
  rcases hsince with ⟨_, rfl⟩ | ⟨hsame, rfl⟩
  · exact ⟨now, PlannedSince.now before now target, rfl⟩
  · have hwaiting : Waiting (states i).hold := ⟨hknown, by omega, by omega⟩
    obtain ⟨start, hstart, hclock⟩ := hwitnessed hwaiting
    rw [hsame] at hstart
    exact ⟨start, hstart.snoc rfl, hclock⟩

/-- The step lemma: an iteration that is steady for a target keeps its wait
    witnessed. -/
theorem Witnessed.step (htarget : route.targets[i]? = some target)
    (hsteady : SteadyAt config route states now i target)
    (hwitnessed : Witnessed before i target (states i).hold) :
    Witnessed (before ++ [now]) i target
      ((drive_targets config route now.plan now.sample route.targets 0 states).1 i).hold := by
  by_cases hreached : Reaches config route now.plan now.sample states i
  · rw [(driven_at config route htarget).1 hreached]
    obtain ⟨hpending, hsince⟩ := drive_target_hold config route now.plan target
      (now.sample.clock i) (now.sample.outcome i) (states i)
    intro hwaiting
    rcases hold_lower_pwm_cases (states i).hold (desired_for_target target now.plan)
        config.downshift_delay_seconds (now.sample.clock i) with
      ⟨hheld, _⟩ | ⟨hknown, hlower, since, hheld, hbegan, _⟩
    · -- nothing is pending any more
      rw [hheld] at hpending
      exact absurd hpending hwaiting.2.1
    · rw [hpending, hsince, hheld]
      exact held_since hwitnessed hsteady.planned hknown hlower hbegan
  · rw [(driven_at config route htarget).2 hreached]
    intro hwaiting
    obtain ⟨start, hstart, hclock⟩ := hwitnessed hwaiting
    exact ⟨start, hstart.snoc (hsteady.reached hreached hwaiting).symm, hclock⟩

/-- From a witnessed wait a steady iteration lowers the target late. -/
theorem Witnessed.lowers_late
    (hsteady : SteadyAt config route states now i target)
    (hwitnessed : Witnessed before i target (states i).hold) {pwm : Nat}
    (hlowers : Lowers config route states now i target pwm) :
    ∃ start, PlannedSince (before ++ [now]) start target pwm ∧
      (config.downshift_delay_seconds : Int) ≤ now.sample.clock i - start.sample.clock i := by
  obtain ⟨hreached, hskips, hpwm, hknown, hlt⟩ := hlowers
  rcases hold_lower_pwm_cases (states i).hold (desired_for_target target now.plan)
      config.downshift_delay_seconds (now.sample.clock i) with
    ⟨hheld, hpass⟩ | ⟨_, hlower, since, _, hbegan, hlate⟩
  · have hge := hpass hknown
    have hsame : held_pwm config now.plan target (now.sample.clock i) (states i) =
        desired_for_target target now.plan := congrArg Prod.fst hheld
    omega
  · have hne : held_pwm config now.plan target (now.sample.clock i) (states i) ≠
        (states i).hold.applied_pwm := by omega
    obtain ⟨hsame, hdue⟩ := hlate hne
    have hdesired : desired_for_target target now.plan = pwm := hsame.symm.trans hpwm
    obtain ⟨start, hstart, hclock⟩ :=
      held_since hwitnessed hsteady.planned hknown hlower hbegan
    rw [hdesired] at hstart
    refine ⟨start, hstart, ?_⟩
    have hforward : since ≤ now.sample.clock i := by
      rcases hbegan with ⟨_, hnow⟩ | ⟨hpending, hsince⟩
      · omega
      · rw [hsince]
        have hplanned := hsteady.planned
        exact hsteady.clock hreached ⟨hknown, by omega, by omega⟩ hpending
    -- the difference is not negative, so the comparison was of it and not of its wrap
    unfold u64 at hdue
    omega

end wait

/-! ## Whole runs -/

/-- What holds before the first iteration and is kept by the steady ones. -/
theorem driven_witnessed (hdelay : config.downshift_delay_seconds ≠ 0) (hardware : Nat → Nat)
    {i : Nat} {target : FanTarget} (htarget : route.targets[i]? = some target) (run : List Tick)
    (hsteady : AtEvery (fun before now =>
      Steady config route (driven config route (initial_targets hardware) before) now) run) :
    Witnessed run i target (driven config route (initial_targets hardware) run i).hold := by
  induction run using List.reverseRecOn with
  | nil =>
    intro hwaiting
    exact absurd hwaiting.1 (by simp [driven, initial_targets])
  | append_singleton before now ih =>
    rw [driven_snoc]
    have hnow := (hsteady before now [] rfl).resolve_left hdelay i target htarget
    exact (ih hsteady.initial).step config route htarget hnow

/-- In every run of iterations that are steady, whatever they plan, however
    their writes end and whatever the clock reads, a lower PWM is written
    late enough. -/
theorem steady_lowers_late (hardware : Nat → Nat) (run : List Tick)
    (hsteady : AtEvery (fun before now =>
      Steady config route (driven config route (initial_targets hardware) before) now) run) :
    AtEvery (LowersLate config route (initial_targets hardware)) run := by
  intro before now after hrun i target pwm htarget hlowers
  by_cases hdelay : config.downshift_delay_seconds = 0
  · -- without a delay the current iteration is all the wait there is
    have hdesired : desired_for_target target now.plan = pwm := by
      obtain ⟨_, _, hpwm, hknown, hlt⟩ := hlowers
      rcases hold_lower_pwm_cases
          (driven config route (initial_targets hardware) before i).hold
          (desired_for_target target now.plan) config.downshift_delay_seconds
          (now.sample.clock i) with
        ⟨hheld, _⟩ | ⟨_, _, _, _, _, hlate⟩
      · exact (congrArg Prod.fst hheld).symm.trans hpwm
      · have hsame := hlate (by unfold held_pwm at hpwm; omega)
        exact hsame.1.symm.trans hpwm
    refine ⟨now, ?_, by omega⟩
    rw [← hdesired]
    exact PlannedSince.now before now target
  · subst hrun
    have hwitnessed := driven_witnessed config route hdelay hardware htarget before hsteady.initial
    have hnow := (hsteady before now after rfl).resolve_left hdelay i target htarget
    exact hwitnessed.lowers_late config route hnow hlowers

/-! ## Runs of the daemon -/

/-- An iteration of the daemon follows the plan of its own sample. -/
def tick (sample : Sample) : Tick := ⟨iteration_plan config sample, sample⟩

theorem iterations_driven (states : Nat → TargetState) (before : List Sample) (now : Sample)
    (after : List Sample) :
    (iterations config route states (before ++ now :: after))[before.length]? =
      some (driven config route states (before.map (tick config)), now) := by
  induction before generalizing states with
  | nil => rfl
  | cons first rest ih => exact ih (iteration config route states first).1

/-- A validated configuration never plans 0. -/
theorem iteration_planned (hvalid : validate_config config = .ok ()) (sample : Sample)
    (target : FanTarget) : desired_for_target target (tick config sample).plan ≠ 0 := by
  have hvalid := validate_config_sound hvalid
  have hmin := hvalid.minimum_ge
  have hfailsafe := hvalid.failsafe_ge
  have hevaluated : ∀ snapshot, config.minimum_pwm ≤ (evaluate_plan config snapshot).1.cpu_pwm ∧
      config.minimum_pwm ≤ (evaluate_plan config snapshot).1.system_pwm := by
    intro snapshot
    simp only [evaluate_plan]
    split
    · exact ⟨hfailsafe, hfailsafe⟩
    split
    · exact ⟨hfailsafe, hfailsafe⟩
    · simp only [maximum_of_eq_max]
      exact ⟨Nat.le_max_right .., Nat.le_max_right ..⟩
  have hplan : config.minimum_pwm ≤ (tick config sample).plan.cpu_pwm ∧
      config.minimum_pwm ≤ (tick config sample).plan.system_pwm := by
    simp only [tick, iteration_plan]
    split
    · exact ⟨hfailsafe, hfailsafe⟩
    split
    · rename_i heval
      have hplan := hevaluated (by assumption)
      rw [heval] at hplan
      exact hplan
    · exact ⟨hfailsafe, hfailsafe⟩
  unfold desired_for_target
  split <;> omega

theorem AtEvery.nil (P : List Tick → Tick → Prop) : AtEvery P [] := by
  intro before now after heq
  simp at heq

theorem AtEvery.snoc {P : List Tick → Tick → Prop} {run : List Tick} {last : Tick}
    (h : AtEvery P run) (hlast : P run last) : AtEvery P (run ++ [last]) := by
  intro before now after heq
  rcases List.eq_nil_or_concat after with rfl | ⟨init, x, rfl⟩
  · obtain ⟨rfl, hsame⟩ := List.append_inj' heq rfl
    cases hsame
    exact hlast
  · rw [List.concat_eq_append, ← List.cons_append, ← List.append_assoc] at heq
    obtain ⟨rfl, _⟩ := List.append_inj' heq rfl
    exact h before now init rfl

/-- The tick of one CPU temperature at one clock. -/
def tick_at (celsius clock : Int) (outcome : Nat → WriteOutcome) : Tick :=
  tick config_defaults ⟨.ok ⟨celsius, -1, -1, celsius⟩, fun _ => clock, outcome⟩

/-- A warm start and a cool-down of a minute. -/
def minute_cooldown : List Tick :=
  [tick_at 80 0 fun _ => .success, tick_at 40 0 fun _ => .success,
   tick_at 40 60 fun _ => .success]

/-- The cool-down lowers the fan of a DXP4800S, and may. -/
theorem minute_cooldown_lowers :
    let config := { config_defaults with allow_unvalidated_writes := true }
    let route : ModelRoute := ⟨"DXP4800S", "dxp4800s", [⟨"sys", .system⟩], true⟩
    (driven config route (initial_targets fun _ => 128) minute_cooldown 0).hold.applied_pwm = 64 ∧
      AtEvery (LowersLate config route (initial_targets fun _ => 128)) minute_cooldown := by
  intro config route
  refine ⟨by decide +kernel, steady_lowers_late config route (fun _ => 128) minute_cooldown ?_⟩
  let IsSteady : List Tick → Tick → Prop := fun before now =>
    Steady config route (driven config route (initial_targets fun _ => 128) before) now
  have hsteady : ∀ before now,
      (driven config route (initial_targets fun _ => 128) before 0).hold.pending_since ≤
        now.sample.clock 0 →
      desired_for_target ⟨"sys", .system⟩ now.plan ≠ 0 → IsSteady before now := by
    intro before now hclock hplanned
    right
    intro i target htarget
    have hi : i = 0 := by
      have hlt := (List.getElem?_eq_some_iff.mp htarget).1
      simpa [route] using hlt
    subst hi
    obtain rfl : ⟨"sys", .system⟩ = target := by simpa [route] using htarget
    exact ⟨hplanned, fun _ _ _ => hclock,
      fun h => absurd (fun j hj => absurd hj (Nat.not_lt_zero j)) h⟩
  have hfirst := (AtEvery.nil IsSteady).snoc (hsteady [] (tick_at 80 0 fun _ => .success)
    (by decide +kernel) (by decide +kernel))
  have hsecond := hfirst.snoc (hsteady [tick_at 80 0 fun _ => .success]
    (tick_at 40 0 fun _ => .success) (by decide +kernel) (by decide +kernel))
  exact hsecond.snoc (hsteady [tick_at 80 0 fun _ => .success, tick_at 40 0 fun _ => .success]
    (tick_at 40 60 fun _ => .success) (by decide +kernel) (by decide +kernel))

/-- The clock is set back by ten seconds while the fans wait. -/
def clock_set_back : List Tick :=
  [tick_at 80 1000 fun _ => .success, tick_at 40 1000 fun _ => .success]

/-- It gets warm while the system fan waits, but the CPU fan cannot be
    written in that iteration. -/
def wait_cut_short : List Tick :=
  [tick_at 80 0 fun _ => .success, tick_at 40 0 fun _ => .success,
   tick_at 95 30 fun i => if i = 0 then .failed Errno.EIO false else .success]

/-- What was planned without a break up to the end of a run. -/
theorem PlannedSince.mem_takeWhile {run : List Tick} {start : Tick} {target : FanTarget}
    {pwm : Nat} (h : PlannedSince run start target pwm) :
    start ∈ run.reverse.takeWhile fun tick => desired_for_target target tick.plan = pwm := by
  obtain ⟨earlier, rest, rfl, hall⟩ := h
  have hreverse : (earlier ++ start :: rest).reverse =
      (start :: rest).reverse ++ earlier.reverse := List.reverse_append
  rw [hreverse, List.takeWhile_append_of_pos]
  · simp
  · intro tick htick
    exact decide_eq_true (hall tick (List.mem_reverse.mp htick))

/-- Either way a fan of a DXP4800 Plus is lowered to 64, which has been
    planned for less than the minute it should have been. -/
theorem lowered_early :
    let route : ModelRoute :=
      ⟨"DXP4800 Plus", "dxp4800plus", [⟨"cpu", .cpu⟩, ⟨"sys", .system⟩], false⟩
    route ∈ model_routes ∧ validate_config config_defaults = .ok () ∧
      ¬ LowersLate config_defaults route (initial_targets fun _ => 128) clock_set_back
        (tick_at 40 990 fun _ => .success) ∧
      ¬ LowersLate config_defaults route (initial_targets fun _ => 128) wait_cut_short
        (tick_at 40 60 fun _ => .success) := by
  intro route
  refine ⟨by decide, by decide +kernel, ?_, ?_⟩
  · intro hlate
    obtain ⟨start, hstart, hclock⟩ := hlate 0 ⟨"cpu", .cpu⟩ 64 rfl
      ⟨fun j hj => absurd hj (Nat.not_lt_zero j), fun hskips => absurd hskips.2 (by decide +kernel),
        by decide +kernel, by decide +kernel, by decide +kernel⟩
    have hnever : ∀ start ∈ (clock_set_back ++ [tick_at 40 990 fun _ => .success]).reverse.takeWhile
        fun tick => desired_for_target ⟨"cpu", .cpu⟩ tick.plan = 64,
        ¬ (config_defaults.downshift_delay_seconds : Int) ≤ 990 - start.sample.clock 0 := by
      decide +kernel
    exact hnever start hstart.mem_takeWhile hclock
  · intro hlate
    have hreached : Reaches config_defaults route (tick_at 40 60 fun _ => .success).plan
        (tick_at 40 60 fun _ => .success).sample
        (driven config_defaults route (initial_targets fun _ => 128) wait_cut_short) 1 := by
      intro j hj target htarget
      obtain rfl : j = 0 := by omega
      obtain rfl : ⟨"cpu", .cpu⟩ = target := by simpa [route] using htarget
      left
      exact ⟨by decide +kernel, by decide +kernel⟩
    obtain ⟨start, hstart, hclock⟩ := hlate 1 ⟨"sys", .system⟩ 64 rfl
      ⟨hreached, fun hskips => absurd hskips.2 (by decide +kernel),
        by decide +kernel, by decide +kernel, by decide +kernel⟩
    have hnever : ∀ start ∈ (wait_cut_short ++ [tick_at 40 60 fun _ => .success]).reverse.takeWhile
        fun tick => desired_for_target ⟨"sys", .system⟩ tick.plan = 64,
        ¬ (config_defaults.downshift_delay_seconds : Int) ≤ 60 - start.sample.clock 1 := by
      decide +kernel
    exact hnever start hstart.mem_takeWhile hclock

end UgreenNas.Fan
