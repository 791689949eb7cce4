import UgreenNas.Errno

/-! # The software fan curve (`fan/thermal_curve.c`)

    The configuration of a curve, its validation, and the evaluation of one
    thermal snapshot to a PWM plan for the CPU and the system channel.
    Temperatures are `int`, negative when a sensor is missing; everything
    else is `unsigned int`, whose differences wrap.
-/

namespace UgreenNas.Fan

/-! ## Data -/

/-- `struct ugreenctl_curve_thresholds` -/
structure CurveThresholds where
  stop : Nat
  start : Nat
  mid : Nat
  full : Nat
  maximum : Nat
  deriving DecidableEq

/-- `struct ugreenctl_curve_pwm_points` -/
structure CurvePwmPoints where
  idle : Nat
  mid : Nat
  full : Nat
  maximum : Nat
  deriving DecidableEq

/-- `struct ugreenctl_thermal_snapshot` -/
structure ThermalSnapshot where
  cpu_celsius : Int
  hdd_celsius : Int
  ssd_celsius : Int
  cpu_peak_celsius : Int

/-- `struct ugreenctl_fan_curve_plan` -/
structure CurvePlan where
  cpu_pwm : Nat
  system_pwm : Nat

/-- `struct ugreenctl_fan_curve_config` -/
structure CurveConfig where
  profile : String
  interval_seconds : Nat
  downshift_delay_seconds : Nat
  minimum_pwm : Nat
  failsafe_pwm : Nat
  require_storage_sensor : Bool
  allow_unvalidated_writes : Bool
  hdd_curve_enabled : Bool
  ssd_curve_enabled : Bool
  cpu : CurveThresholds
  hdd : CurveThresholds
  ssd : CurveThresholds
  pwm : CurvePwmPoints
  system_pwm : CurvePwmPoints
  cpu_pwm : CurvePwmPoints
  system_cpu_floor_enabled : Bool
  system_cpu_floor_start_celsius : Nat
  system_cpu_floor_end_celsius : Nat
  system_cpu_floor_start_pwm : Nat
  system_cpu_floor_end_pwm : Nat
  deriving DecidableEq

/-- An error code with the text written to the caller's buffer. -/
structure CurveError where
  errno : Errno
  text : String
  deriving DecidableEq

/-! ## Configuration -/

/-- `ugreenctl_fan_curve_config_defaults` -/
def config_defaults : CurveConfig where
  profile := "custom"
  interval_seconds := 10
  downshift_delay_seconds := 60
  minimum_pwm := 64
  failsafe_pwm := 255
  require_storage_sensor := false
  allow_unvalidated_writes := false
  hdd_curve_enabled := true
  ssd_curve_enabled := true
  cpu := ⟨50, 55, 75, 80, 90⟩
  hdd := ⟨40, 45, 50, 55, 70⟩
  ssd := ⟨45, 50, 60, 65, 70⟩
  pwm := ⟨64, 128, 204, 255⟩
  system_pwm := ⟨64, 128, 204, 255⟩
  cpu_pwm := ⟨64, 128, 204, 255⟩
  system_cpu_floor_enabled := false
  system_cpu_floor_start_celsius := 0
  system_cpu_floor_end_celsius := 0
  system_cpu_floor_start_pwm := 0
  system_cpu_floor_end_pwm := 0

def THERMAL_MAX_CELSIUS : Nat := 125

def profile_is_valid (profile : String) : Bool :=
  profile = "custom" || profile = "stock-4600" || profile = "stock-4800" ||
  profile = "stock-4800s" || profile = "stock-4800plus" || profile = "stock-480tplus" ||
  profile = "stock-6800pro" || profile = "stock-6800plus" || profile = "stock-6800"

def valid_thresholds (t : CurveThresholds) : Bool :=
  t.stop ≤ THERMAL_MAX_CELSIUS && t.stop < t.start && t.start < t.mid && t.mid < t.full &&
  t.full < t.maximum && t.maximum ≤ THERMAL_MAX_CELSIUS

def valid_pwm_points (points : CurvePwmPoints) (minimum_pwm : Nat) : Bool :=
  points.idle ≥ minimum_pwm && points.maximum ≤ 255 && points.idle ≤ points.mid &&
  points.mid ≤ points.full && points.full ≤ points.maximum

/-- `ugreenctl_fan_curve_validate_config` -/
def validate_config (config : CurveConfig) : Except CurveError Unit :=
  if !profile_is_valid config.profile then
    .error ⟨.EINVAL, "fan curve profile is unsupported"⟩
  else if config.interval_seconds < 2 || config.interval_seconds > 300 ||
      config.downshift_delay_seconds > 3600 then
    .error ⟨.ERANGE, "fan curve timing is outside the safe range"⟩
  else if config.minimum_pwm < 40 || config.minimum_pwm > 255 ||
      config.failsafe_pwm < config.minimum_pwm || config.failsafe_pwm > 255 ||
      !valid_pwm_points config.pwm config.minimum_pwm ||
      !valid_pwm_points config.system_pwm config.minimum_pwm ||
      !valid_pwm_points config.cpu_pwm config.minimum_pwm ||
      !valid_thresholds config.cpu ||
      (config.hdd_curve_enabled && !valid_thresholds config.hdd) ||
      (config.ssd_curve_enabled && !valid_thresholds config.ssd) ||
      (config.system_cpu_floor_enabled &&
        (config.system_cpu_floor_start_celsius ≥ config.system_cpu_floor_end_celsius ||
         config.system_cpu_floor_end_celsius > THERMAL_MAX_CELSIUS ||
         config.system_cpu_floor_start_pwm < config.minimum_pwm ||
         config.system_cpu_floor_end_pwm > 255 ||
         config.system_cpu_floor_start_pwm > config.system_cpu_floor_end_pwm)) then
    .error ⟨.ERANGE, "fan curve thresholds or PWM points are outside the safe range"⟩
  else
    .ok ()

/-! ## Evaluation -/

def interpolate (left_temperature right_temperature left_pwm right_pwm temperature : Nat) : Nat :=
  let denominator := u32 ((right_temperature : Int) - left_temperature)
  if denominator = 0 then
    right_pwm
  else
    -- both differences wrap as unsigned int before they are widened
    let numerator := u64 ((u32 ((temperature : Int) - left_temperature) : Int) *
      u32 ((right_pwm : Int) - left_pwm))
    u32 ((left_pwm : Int) + u32 ((numerator / denominator : Nat)))

def evaluate_source (thresholds : CurveThresholds) (points : CurvePwmPoints)
    (temperature : Int) : Nat :=
  let value := u32 temperature
  if value ≤ thresholds.start then
    points.idle
  else if value < thresholds.mid then
    interpolate thresholds.start thresholds.mid points.idle points.mid value
  else if value < thresholds.full then
    interpolate thresholds.mid thresholds.full points.mid points.full value
  else if value < thresholds.maximum then
    interpolate thresholds.full thresholds.maximum points.full points.maximum value
  else
    points.maximum

def maximum_of (left right : Nat) : Nat := if left > right then left else right

def cpu_system_floor (config : CurveConfig) (cpu_celsius : Int) : Nat :=
  let cpu := u32 cpu_celsius
  if !config.system_cpu_floor_enabled || cpu < config.system_cpu_floor_start_celsius then
    0
  else if cpu ≥ config.system_cpu_floor_end_celsius then
    config.system_cpu_floor_end_pwm
  else
    interpolate config.system_cpu_floor_start_celsius config.system_cpu_floor_end_celsius
      config.system_cpu_floor_start_pwm config.system_cpu_floor_end_pwm cpu

def fan_curve_cpu_celsius (snapshot : ThermalSnapshot) : Int :=
  if snapshot.cpu_peak_celsius ≥ 0 then snapshot.cpu_peak_celsius else snapshot.cpu_celsius

def failsafe_plan (config : CurveConfig) : CurvePlan :=
  ⟨config.failsafe_pwm, config.failsafe_pwm⟩

/-- `ugreenctl_fan_curve_evaluate_plan`: the plan it stores, and the error
    it returns. -/
def evaluate_plan (config : CurveConfig) (snapshot : ThermalSnapshot) :
    CurvePlan × Except CurveError Unit :=
  let cpu_celsius := fan_curve_cpu_celsius snapshot
  if cpu_celsius < 0 then
    (failsafe_plan config,
      .error ⟨.ENODATA, "CPU temperature is unavailable; using failsafe PWM"⟩)
  else if config.require_storage_sensor && snapshot.hdd_celsius < 0 && snapshot.ssd_celsius < 0 then
    (failsafe_plan config,
      .error ⟨.ENODATA, "storage temperature is unavailable; using failsafe PWM"⟩)
  else
    let system_target := evaluate_source config.cpu config.system_pwm cpu_celsius
    let system_target :=
      if config.hdd_curve_enabled && snapshot.hdd_celsius ≥ 0 then
        maximum_of system_target (evaluate_source config.hdd config.system_pwm snapshot.hdd_celsius)
      else system_target
    let system_target :=
      if config.ssd_curve_enabled && snapshot.ssd_celsius ≥ 0 then
        maximum_of system_target (evaluate_source config.ssd config.system_pwm snapshot.ssd_celsius)
      else system_target
    let system_target := maximum_of system_target (cpu_system_floor config cpu_celsius)
    let cpu_target :=
      if config.profile = "custom" then system_target
      else evaluate_source config.cpu config.cpu_pwm cpu_celsius
    (⟨maximum_of cpu_target config.minimum_pwm, maximum_of system_target config.minimum_pwm⟩,
      .ok ())

end UgreenNas.Fan
