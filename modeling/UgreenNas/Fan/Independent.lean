import UgreenNas.Fan.Cooling

/-! # Fans that share one loop

    A route with two targets drives them one after the other, and the loop
    ends at the first write that fails.  What a target gets out of an
    iteration therefore depends on the targets listed before it: one that
    is not reached keeps the PWM it has, however warm it is by now.
-/

namespace UgreenNas.Fan

variable (config : CurveConfig) (route : ModelRoute)

/-! ## The specification -/

section specification

variable (plan : CurvePlan) (sample : Sample) (states : Nat → TargetState)

/-- The loop gets as far as target `i`: nothing before it is written in vain. -/
def Reaches (i : Nat) : Prop :=
  ∀ j < i, ∀ target, route.targets[j]? = some target →
    Skips config plan target (sample.clock j) (states j) ∨ Writes config route (sample.outcome j)

/-- Target `i` is written, and the write fails. -/
def FailsAt (i : Nat) : Prop :=
  ∃ target, route.targets[i]? = some target ∧ Reaches config route plan sample states i ∧
    ¬ Skips config plan target (sample.clock i) (states i) ∧
    ¬ Writes config route (sample.outcome i)

/-- A target is no slower than planned as far as the daemon knows. -/
def FastEnough (target : FanTarget) (state : TargetState) : Prop :=
  state.hold.applied_known = true ∧ desired_for_target target plan ≤ state.hold.applied_pwm

/-- A failing fan does no harm to the others, and is not kept quiet. -/
def Independent : Prop :=
  let after := drive_targets config route plan sample route.targets 0 states
  (∀ i target, route.targets[i]? = some target → Writes config route (sample.outcome i) →
    FastEnough plan target (after.1 i)) ∧
  ((∃ i, FailsAt config route plan sample states i) → after.2 ≠ .ok ())

end specification

/-! ## One iteration -/

section iteration

variable {plan : CurvePlan} {sample : Sample} {states : Nat → TargetState}

/-- What an iteration does to the target `i` of the route. -/
theorem driven_at {i : Nat} {target : FanTarget} (hi : route.targets[i]? = some target) :
    let after := (drive_targets config route plan sample route.targets 0 states).1
    (Reaches config route plan sample states i → after i =
      (drive_target config route plan target (sample.clock i) (sample.outcome i) (states i)).1) ∧
    (¬ Reaches config route plan sample states i → after i = states i) := by
  have hat := drive_targets_at config route plan sample route.targets 0 states hi
  simp only [Nat.zero_add, drive_target_ok_iff] at hat
  exact hat

/-- A target that is skipped or written ends no slower than planned. -/
theorem drive_target_fast_enough {target : FanTarget} {now : Int} {outcome : WriteOutcome}
    {state : TargetState}
    (hok : (drive_target config route plan target now outcome state).2 = .ok ()) :
    FastEnough plan target (drive_target config route plan target now outcome state).1 := by
  have hle := le_hold_lower_pwm state.hold (desired_for_target target plan)
    config.downshift_delay_seconds now
  rcases drive_target_cases config route plan target now outcome state with
    ⟨hskips, _, hknown, happlied, _⟩ | ⟨_, _, _, hknown, happlied, _⟩ | ⟨_, _, hfailed, _⟩
  · refine ⟨hknown, ?_⟩
    rw [happlied, ← hskips.2]
    exact hle
  · refine ⟨hknown, ?_⟩
    rw [happlied]
    exact hle
  · exact absurd hok hfailed

/-- The status of an iteration tells of every write that failed in it. -/
theorem failing_reported {i : Nat} (h : FailsAt config route plan sample states i) :
    (drive_targets config route plan sample route.targets 0 states).2 ≠ .ok () := by
  obtain ⟨target, htarget, _, hskips, hwrites⟩ := h
  intro hok
  have hall := (drive_targets_ok_iff config route plan sample route.targets 0 states).mp hok
  have hdriven := hall i target htarget
  rw [Nat.zero_add, drive_target_ok_iff] at hdriven
  rcases hdriven with hs | hw
  · exact hskips hs
  · exact hwrites hw

/-- Fans are independent in an iteration if and only if no target that
    could be written and is slower than planned, or was never written,
    comes after one whose write fails. -/
theorem independent_iff (plan : CurvePlan) (sample : Sample) (states : Nat → TargetState) :
    Independent config route plan sample states ↔
      ∀ i target, route.targets[i]? = some target → Writes config route (sample.outcome i) →
        Reaches config route plan sample states i ∨ FastEnough plan target (states i) := by
  constructor
  · intro hindependent i target htarget hwrites
    by_cases hreached : Reaches config route plan sample states i
    · exact .inl hreached
    · right
      have hfast := hindependent.1 i target htarget hwrites
      rwa [(driven_at config route htarget).2 hreached] at hfast
  · intro hgiven
    refine ⟨fun i target htarget hwrites => ?_, fun ⟨i, hfails⟩ => failing_reported config route hfails⟩
    by_cases hreached : Reaches config route plan sample states i
    · rw [(driven_at config route htarget).1 hreached]
      apply drive_target_fast_enough
      exact (drive_target_ok_iff config route plan target _ _ _).mpr (.inr hwrites)
    · rw [(driven_at config route htarget).2 hreached]
      exact (hgiven i target htarget hwrites).resolve_left hreached

end iteration

/-- A cool start, and a warm machine whose CPU fan cannot be written. -/
def broken_cpu_fan : List Sample :=
  [⟨.ok ⟨40, -1, -1, 40⟩, fun _ => 0, fun _ => .success⟩,
   ⟨.ok ⟨95, -1, -1, 95⟩, fun _ => 10, fun i => if i = 0 then .failed Errno.EIO false else .success⟩]

/-- The system fan of a DXP4800 Plus stays at 64 where the plan asks for
    255 and its own write would have succeeded. -/
theorem broken_cpu_fan_starves :
    ∃ route ∈ model_routes, ∃ step ∈ iterations config_defaults route
        (initial_targets fun _ => 128) broken_cpu_fan,
      (iteration_plan config_defaults step.2).system_pwm = 255 ∧
      step.2.outcome 1 = .success ∧
      ((iteration config_defaults route step.1 step.2).1 1).hold.applied_pwm = 64 ∧
      ¬ Independent config_defaults route (iteration_plan config_defaults step.2) step.2 step.1 := by
  let route : ModelRoute :=
    ⟨"DXP4800 Plus", "dxp4800plus", [⟨"cpu", .cpu⟩, ⟨"sys", .system⟩], false⟩
  let run := iterations config_defaults route (initial_targets fun _ => 128) broken_cpu_fan
  have hplan : (iteration_plan config_defaults run[1].2).system_pwm = 255 := by decide +kernel
  have happlied :
      ((iteration config_defaults route run[1].1 run[1].2).1 1).hold.applied_pwm = 64 := by
    decide +kernel
  refine ⟨route, by decide, run[1], List.getElem_mem _, hplan, rfl, happlied, ?_⟩
  intro hindependent
  have hfast := (hindependent.1 1 ⟨"sys", .system⟩ rfl ⟨.inl rfl, rfl⟩).2
  have hslow : (iteration_plan config_defaults run[1].2).system_pwm ≤ 64 := by
    rw [← happlied]
    exact hfast
  rw [hplan] at hslow
  exact absurd hslow (by decide)

end UgreenNas.Fan
