import UgreenNas.Arith.Ramp
import UgreenNas.Fan.Curve

/-! # What the curve computes

    For a validated configuration the evaluation of a snapshot stays inside
    the machine words, and is the maximum of at most four monotone functions
    of the temperatures.  `evaluate_plan_checked` is the evaluation once
    more, with every operation that could wrap or divide by zero replaced by
    its partial counterpart; a failsafe plan needs no arithmetic at all.
-/

namespace UgreenNas.Fan

open UgreenNas.Arith

/-! ## The evaluation with checked arithmetic -/

def interpolate_checked (left_temperature right_temperature left_pwm right_pwm temperature : Nat) :
    Option Nat := do
  let denominator ← checked 32 ((right_temperature : Int) - left_temperature)
  let elapsed ← checked 32 ((temperature : Int) - left_temperature)
  let rise ← checked 32 ((right_pwm : Int) - left_pwm)
  let numerator ← checked 64 ((elapsed : Int) * rise)
  let quotient ← checked_div numerator denominator
  let step ← checked 32 quotient
  checked 32 ((left_pwm : Int) + step)

def evaluate_source_checked (thresholds : CurveThresholds) (points : CurvePwmPoints)
    (temperature : Int) : Option Nat := do
  let value ← checked 32 temperature
  if value ≤ thresholds.start then
    some points.idle
  else if value < thresholds.mid then
    interpolate_checked thresholds.start thresholds.mid points.idle points.mid value
  else if value < thresholds.full then
    interpolate_checked thresholds.mid thresholds.full points.mid points.full value
  else if value < thresholds.maximum then
    interpolate_checked thresholds.full thresholds.maximum points.full points.maximum value
  else
    some points.maximum

def cpu_system_floor_checked (config : CurveConfig) (cpu_celsius : Int) : Option Nat := do
  let cpu ← checked 32 cpu_celsius
  if !config.system_cpu_floor_enabled || cpu < config.system_cpu_floor_start_celsius then
    some 0
  else if cpu ≥ config.system_cpu_floor_end_celsius then
    some config.system_cpu_floor_end_pwm
  else
    interpolate_checked config.system_cpu_floor_start_celsius config.system_cpu_floor_end_celsius
      config.system_cpu_floor_start_pwm config.system_cpu_floor_end_pwm cpu

/-- One of the two storage sources, where it counts. -/
def evaluate_storage_checked (enabled : Bool) (thresholds : CurveThresholds)
    (points : CurvePwmPoints) (temperature : Int) (system_target : Nat) : Option Nat :=
  if enabled && temperature ≥ 0 then
    (maximum_of system_target ·) <$> evaluate_source_checked thresholds points temperature
  else
    some system_target

def evaluate_plan_checked (config : CurveConfig) (snapshot : ThermalSnapshot) :
    Option (CurvePlan × Except CurveError Unit) :=
  let cpu_celsius := fan_curve_cpu_celsius snapshot
  if cpu_celsius < 0 then
    some (failsafe_plan config,
      .error ⟨.ENODATA, "CPU temperature is unavailable; using failsafe PWM"⟩)
  else if config.require_storage_sensor && snapshot.hdd_celsius < 0 && snapshot.ssd_celsius < 0 then
    some (failsafe_plan config,
      .error ⟨.ENODATA, "storage temperature is unavailable; using failsafe PWM"⟩)
  else do
    let system_target ← evaluate_source_checked config.cpu config.system_pwm cpu_celsius
    let system_target ← evaluate_storage_checked config.hdd_curve_enabled config.hdd
      config.system_pwm snapshot.hdd_celsius system_target
    let system_target ← evaluate_storage_checked config.ssd_curve_enabled config.ssd
      config.system_pwm snapshot.ssd_celsius system_target
    let floor ← cpu_system_floor_checked config cpu_celsius
    let system_target := maximum_of system_target floor
    let cpu_target ←
      if config.profile = "custom" then some system_target
      else evaluate_source_checked config.cpu config.cpu_pwm cpu_celsius
    some (⟨maximum_of cpu_target config.minimum_pwm, maximum_of system_target config.minimum_pwm⟩,
      .ok ())

/-! ## Validated configurations -/

structure ValidThresholds (t : CurveThresholds) : Prop where
  start_mid : t.start < t.mid
  mid_full : t.mid < t.full
  full_maximum : t.full < t.maximum
  maximum_le : t.maximum ≤ THERMAL_MAX_CELSIUS

structure ValidPwmPoints (points : CurvePwmPoints) (minimum_pwm : Nat) : Prop where
  le_idle : minimum_pwm ≤ points.idle
  idle_mid : points.idle ≤ points.mid
  mid_full : points.mid ≤ points.full
  full_maximum : points.full ≤ points.maximum
  maximum_le : points.maximum ≤ 255

structure ValidFloor (config : CurveConfig) : Prop where
  start_end : config.system_cpu_floor_start_celsius < config.system_cpu_floor_end_celsius
  end_le : config.system_cpu_floor_end_celsius ≤ THERMAL_MAX_CELSIUS
  pwm : config.system_cpu_floor_start_pwm ≤ config.system_cpu_floor_end_pwm
  pwm_le : config.system_cpu_floor_end_pwm ≤ 255

/-- What `validate_config` has checked of the parts the evaluation uses.
    The thresholds of a disabled curve may be anything. -/
structure ValidConfig (config : CurveConfig) : Prop where
  minimum_ge : 40 ≤ config.minimum_pwm
  minimum_le : config.minimum_pwm ≤ 255
  failsafe_ge : config.minimum_pwm ≤ config.failsafe_pwm
  failsafe_le : config.failsafe_pwm ≤ 255
  system_pwm : ValidPwmPoints config.system_pwm config.minimum_pwm
  cpu_pwm : ValidPwmPoints config.cpu_pwm config.minimum_pwm
  cpu : ValidThresholds config.cpu
  hdd : config.hdd_curve_enabled = true → ValidThresholds config.hdd
  ssd : config.ssd_curve_enabled = true → ValidThresholds config.ssd
  floor : config.system_cpu_floor_enabled = true → ValidFloor config

theorem valid_thresholds_sound {t : CurveThresholds} (h : valid_thresholds t = true) :
    ValidThresholds t := by
  simp only [valid_thresholds, Bool.and_eq_true, decide_eq_true_eq] at h
  obtain ⟨⟨⟨⟨⟨_, _⟩, hmid⟩, hfull⟩, hmaximum⟩, hle⟩ := h
  exact ⟨hmid, hfull, hmaximum, hle⟩

theorem valid_pwm_points_sound {points : CurvePwmPoints} {minimum_pwm : Nat}
    (h : valid_pwm_points points minimum_pwm = true) : ValidPwmPoints points minimum_pwm := by
  simp only [valid_pwm_points, Bool.and_eq_true, decide_eq_true_eq] at h
  obtain ⟨⟨⟨⟨hidle, hle⟩, hmid⟩, hfull⟩, hmaximum⟩ := h
  exact ⟨hidle, hmid, hfull, hmaximum, hle⟩

theorem validate_config_sound {config : CurveConfig} (h : validate_config config = .ok ()) :
    ValidConfig config := by
  unfold validate_config at h
  split at h
  · cases h
  split at h
  · cases h
  split at h
  · cases h
  rename_i hgood
  simp only [Bool.or_eq_true, Bool.and_eq_true, Bool.not_eq_true', decide_eq_true_eq, not_or,
    not_and, Bool.not_eq_false, Nat.not_lt] at hgood
  obtain ⟨⟨⟨⟨⟨⟨⟨⟨⟨⟨hmin, hmin'⟩, hsafe⟩, hsafe'⟩, _⟩, hsystem⟩, hcpu_pwm⟩, hcpu⟩, hhdd⟩, hssd⟩,
    hfloor⟩ := hgood
  refine ⟨hmin, hmin', hsafe, hsafe', valid_pwm_points_sound hsystem,
    valid_pwm_points_sound hcpu_pwm, valid_thresholds_sound hcpu,
    fun henabled => valid_thresholds_sound (hhdd henabled),
    fun henabled => valid_thresholds_sound (hssd henabled), fun henabled => ?_⟩
  have hfloor := hfloor henabled
  exact ⟨by omega, by omega, by omega, by omega⟩

/-! ## Exact values

    The same functions over the natural numbers, with nothing to wrap. -/

/-- The curve of one source. -/
def curve (t : CurveThresholds) (points : CurvePwmPoints) (value : Nat) : Nat :=
  if value < t.start + 1 then points.idle
  else if value < t.mid then ramp t.start t.mid points.idle points.mid value
  else if value < t.full then ramp t.mid t.full points.mid points.full value
  else if value < t.maximum then ramp t.full t.maximum points.full points.maximum value
  else points.maximum

/-- The floor the CPU temperature puts under the system channel. -/
def floor_curve (config : CurveConfig) (cpu : Nat) : Nat :=
  if config.system_cpu_floor_enabled = true then
    if cpu < config.system_cpu_floor_start_celsius then 0
    else if cpu < config.system_cpu_floor_end_celsius then
      ramp config.system_cpu_floor_start_celsius config.system_cpu_floor_end_celsius
        config.system_cpu_floor_start_pwm config.system_cpu_floor_end_pwm cpu
    else config.system_cpu_floor_end_pwm
  else 0

theorem interpolate_checked_eq {lt rt lp rp t : Nat} (hlt : lt < rt)
    (hrt : rt ≤ THERMAL_MAX_CELSIUS) (hle : lp ≤ rp) (hrp : rp ≤ 255) (hleft : lt ≤ t)
    (hright : t ≤ rt) : interpolate_checked lt rt lp rp t = some (ramp lt rt lp rp t) := by
  have hmax : rt ≤ 125 := hrt
  have hstep : (t - lt) * (rp - lp) / (rt - lt) ≤ rp - lp := by
    apply Nat.div_le_of_le_mul
    exact Nat.mul_le_mul_right _ (by omega)
  have hproduct : (t - lt) * (rp - lp) ≤ 125 * 255 := Nat.mul_le_mul (by omega) (by omega)
  have hdenominator : checked 32 ((rt : Int) - lt) = some (rt - lt) :=
    checked_sub (Nat.le_of_lt hlt) (by omega)
  have helapsed : checked 32 ((t : Int) - lt) = some (t - lt) := checked_sub hleft (by omega)
  have hrise : checked 32 ((rp : Int) - lp) = some (rp - lp) := checked_sub hle (by omega)
  have hnumerator : checked 64 (((t - lt : Nat) : Int) * ((rp - lp : Nat) : Int)) =
      some ((t - lt) * (rp - lp)) := by
    rw [← Int.natCast_mul]
    exact checked_natCast (by omega)
  have hquotient : checked 32 (((t - lt) * (rp - lp) / (rt - lt) : Nat) : Int) =
      some ((t - lt) * (rp - lp) / (rt - lt)) := checked_natCast (by omega)
  have hsum : checked 32 ((lp : Int) + (((t - lt) * (rp - lp) / (rt - lt) : Nat) : Int)) =
      some (ramp lt rt lp rp t) := by
    rw [← Int.natCast_add]
    exact checked_natCast (by omega)
  unfold interpolate_checked
  rw [hdenominator, helapsed, hrise]
  simp only [Option.bind_eq_bind, Option.bind_some]
  rw [hnumerator, Option.bind_some, checked_div_of_pos (by omega), Option.bind_some, hquotient,
    Option.bind_some]
  exact hsum

/-- Where the checked interpolation has a result, the wrapping one is it. -/
theorem interpolate_of_checked {lt rt lp rp t v : Nat}
    (h : interpolate_checked lt rt lp rp t = some v) : interpolate lt rt lp rp t = v := by
  unfold interpolate_checked at h
  simp only [Option.bind_eq_bind, Option.bind_eq_some_iff] at h
  obtain ⟨denominator, hden, elapsed, helapsed, rise, hrise, numerator, hnum, quotient, hdiv,
    step, hstep, hsum⟩ := h
  unfold checked_div at hdiv
  split at hdiv
  · cases hdiv
  rename_i hpos
  obtain rfl : numerator / denominator = quotient := by simpa using hdiv
  unfold interpolate
  simp only [u32_of_checked hden, u32_of_checked helapsed, u32_of_checked hrise,
    u64_of_checked hnum, u32_of_checked hstep, u32_of_checked hsum, if_neg hpos]

/-- An `int` that is a reading, as the sensors report it. -/
def IsReading (temperature : Int) : Prop := 0 ≤ temperature ∧ temperature < 2 ^ 31

theorem IsReading.checked {temperature : Int} (h : IsReading temperature) :
    checked 32 temperature = some temperature.toNat := by
  obtain ⟨hpos, hlt⟩ := h
  exact checked_eq_some.mpr ⟨by omega, by omega⟩

theorem evaluate_source_checked_eq {t : CurveThresholds} {points : CurvePwmPoints}
    {minimum_pwm : Nat} (ht : ValidThresholds t) (hpoints : ValidPwmPoints points minimum_pwm)
    {temperature : Int} (htemp : IsReading temperature) :
    evaluate_source_checked t points temperature = some (curve t points temperature.toNat) := by
  obtain ⟨hmid, hfull, hmaximum, hle⟩ := ht
  obtain ⟨_, hidle_mid, hmid_full, hfull_maximum, hpwm⟩ := hpoints
  unfold evaluate_source_checked curve
  rw [htemp.checked]
  simp only [Option.bind_eq_bind, Option.bind_some, Nat.lt_succ_iff]
  split
  · rfl
  split
  · exact interpolate_checked_eq hmid (by omega) hidle_mid (by omega) (by omega) (by omega)
  split
  · exact interpolate_checked_eq hfull (by omega) hmid_full (by omega) (by omega) (by omega)
  split
  · exact interpolate_checked_eq hmaximum hle hfull_maximum hpwm (by omega) (by omega)
  · rfl

theorem cpu_system_floor_checked_eq {config : CurveConfig} (hvalid : ValidConfig config)
    {temperature : Int} (htemp : IsReading temperature) :
    cpu_system_floor_checked config temperature = some (floor_curve config temperature.toNat) := by
  unfold cpu_system_floor_checked floor_curve
  rw [htemp.checked]
  simp only [Option.bind_eq_bind, Option.bind_some]
  by_cases henabled : config.system_cpu_floor_enabled = true
  · obtain ⟨hends, hle, hpwm, hpwm_le⟩ := hvalid.floor henabled
    simp only [henabled, Bool.not_true, Bool.false_or, decide_eq_true_eq, if_true]
    by_cases hstart : temperature.toNat < config.system_cpu_floor_start_celsius
    · rw [if_pos hstart, if_pos hstart]
    · rw [if_neg hstart, if_neg hstart]
      by_cases hend : temperature.toNat < config.system_cpu_floor_end_celsius
      · rw [if_neg (by omega), if_pos hend]
        exact interpolate_checked_eq hends hle hpwm hpwm_le (by omega) (by omega)
      · rw [if_pos (by omega), if_neg hend]
  · simp [henabled]

theorem evaluate_source_of_checked {t : CurveThresholds} {points : CurvePwmPoints}
    {temperature : Int} {v : Nat} (h : evaluate_source_checked t points temperature = some v) :
    evaluate_source t points temperature = v := by
  unfold evaluate_source_checked at h
  simp only [Option.bind_eq_bind, Option.bind_eq_some_iff] at h
  obtain ⟨value, hvalue, h⟩ := h
  unfold evaluate_source
  simp only [u32_of_checked hvalue]
  split at h
  · rename_i hidle
    rw [if_pos hidle]
    exact Option.some.inj h
  rename_i hidle
  rw [if_neg hidle]
  split at h
  · rename_i hmid
    rw [if_pos hmid]
    exact interpolate_of_checked h
  rename_i hmid
  rw [if_neg hmid]
  split at h
  · rename_i hfull
    rw [if_pos hfull]
    exact interpolate_of_checked h
  rename_i hfull
  rw [if_neg hfull]
  split at h
  · rename_i hmaximum
    rw [if_pos hmaximum]
    exact interpolate_of_checked h
  · rename_i hmaximum
    rw [if_neg hmaximum]
    exact Option.some.inj h

theorem cpu_system_floor_of_checked {config : CurveConfig} {temperature : Int} {v : Nat}
    (h : cpu_system_floor_checked config temperature = some v) :
    cpu_system_floor config temperature = v := by
  unfold cpu_system_floor_checked at h
  simp only [Option.bind_eq_bind, Option.bind_eq_some_iff] at h
  obtain ⟨cpu, hcpu, h⟩ := h
  unfold cpu_system_floor
  simp only [u32_of_checked hcpu]
  split at h
  · rename_i hoff
    rw [if_pos hoff]
    exact Option.some.inj h
  rename_i hoff
  rw [if_neg hoff]
  split at h
  · rename_i hend
    rw [if_pos hend]
    exact Option.some.inj h
  · rename_i hend
    rw [if_neg hend]
    exact interpolate_of_checked h

end UgreenNas.Fan
