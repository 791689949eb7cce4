import Mathlib.Order.MinMax
import UgreenNas.Fan.Evaluate

/-! # Warmer is never slower

    A plan is the maximum of monotone curves, so that it can be read off
    the temperatures: within the configured bounds, never slower when any
    source is warmer, and on the configured points at the configured
    thresholds when one source alone decides.
-/

namespace UgreenNas.Fan

open UgreenNas.Arith

/-! ## One source -/

section curve

variable {t : CurveThresholds} {points : CurvePwmPoints} {minimum_pwm : Nat}

theorem le_curve (hpoints : ValidPwmPoints points minimum_pwm) (value : Nat) :
    points.idle ≤ curve t points value := by
  obtain ⟨_, hidle_mid, hmid_full, hfull_maximum, _⟩ := hpoints
  unfold curve
  split
  · exact Nat.le_refl _
  split
  · exact le_ramp value
  split
  · exact Nat.le_trans hidle_mid (le_ramp value)
  split
  · exact Nat.le_trans (Nat.le_trans hidle_mid hmid_full) (le_ramp value)
  · exact Nat.le_trans hidle_mid (Nat.le_trans hmid_full hfull_maximum)

theorem curve_le (ht : ValidThresholds t) (hpoints : ValidPwmPoints points minimum_pwm)
    (value : Nat) : curve t points value ≤ points.maximum := by
  obtain ⟨hmid, hfull, hmaximum, _⟩ := ht
  obtain ⟨_, hidle_mid, hmid_full, hfull_maximum, _⟩ := hpoints
  unfold curve
  split
  · exact Nat.le_trans hidle_mid (Nat.le_trans hmid_full hfull_maximum)
  split
  · exact Nat.le_trans (ramp_le hmid hidle_mid (by omega)) (Nat.le_trans hmid_full hfull_maximum)
  split
  · exact Nat.le_trans (ramp_le hfull hmid_full (by omega)) hfull_maximum
  split
  · exact ramp_le hmaximum hfull_maximum (by omega)
  · exact Nat.le_refl _

/-- The five pieces of a curve are monotone and meet at the PWM points. -/
theorem curve_monotone (ht : ValidThresholds t) (hpoints : ValidPwmPoints points minimum_pwm) :
    Monotone (curve t points) := by
  obtain ⟨hmid, hfull, hmaximum, _⟩ := ht
  obtain ⟨_, hidle_mid, hmid_full, hfull_maximum, _⟩ := hpoints
  have hlast : Monotone fun value =>
      if value < t.maximum then ramp t.full t.maximum points.full points.maximum value
      else points.maximum := by
    apply monotone_glue points.maximum (ramp_monotone _ _ _ _) monotone_const
    · intro x hx
      exact ramp_le hmaximum hfull_maximum (Nat.le_of_lt hx)
    · intro x _
      exact Nat.le_refl _
  have hthird : Monotone fun value =>
      if value < t.full then ramp t.mid t.full points.mid points.full value
      else if value < t.maximum then ramp t.full t.maximum points.full points.maximum value
      else points.maximum := by
    apply monotone_glue points.full (ramp_monotone _ _ _ _) hlast
    · intro x hx
      exact ramp_le hfull hmid_full (Nat.le_of_lt hx)
    · intro x _
      split
      · exact le_ramp x
      · exact hfull_maximum
  have hsecond : Monotone fun value =>
      if value < t.mid then ramp t.start t.mid points.idle points.mid value
      else if value < t.full then ramp t.mid t.full points.mid points.full value
      else if value < t.maximum then ramp t.full t.maximum points.full points.maximum value
      else points.maximum := by
    apply monotone_glue points.mid (ramp_monotone _ _ _ _) hthird
    · intro x hx
      exact ramp_le hmid hidle_mid (Nat.le_of_lt hx)
    · intro x _
      split
      · exact le_ramp x
      split
      · exact Nat.le_trans hmid_full (le_ramp x)
      · exact Nat.le_trans hmid_full hfull_maximum
  apply monotone_glue points.idle monotone_const hsecond
  · intro x _
    exact Nat.le_refl _
  · intro x _
    split
    · exact le_ramp x
    split
    · exact Nat.le_trans hidle_mid (le_ramp x)
    split
    · exact Nat.le_trans (Nat.le_trans hidle_mid hmid_full) (le_ramp x)
    · exact Nat.le_trans hidle_mid (Nat.le_trans hmid_full hfull_maximum)

/-- A PWM is the configured point wherever the temperature is the threshold. -/
structure OnPoints (t : CurveThresholds) (points : CurvePwmPoints) (temperature : Int)
    (pwm : Nat) : Prop where
  start : temperature = t.start → pwm = points.idle
  mid : temperature = t.mid → pwm = points.mid
  full : temperature = t.full → pwm = points.full
  maximum : temperature = t.maximum → pwm = points.maximum

theorem curve_on_points (ht : ValidThresholds t) (temperature : Int) :
    OnPoints t points temperature (curve t points temperature.toNat) := by
  obtain ⟨hmid, hfull, hmaximum, _⟩ := ht
  constructor
  · intro h
    rw [h, Int.toNat_natCast, curve, if_pos (by omega)]
  · intro h
    rw [h, Int.toNat_natCast, curve, if_neg (by omega), if_neg (by omega), if_pos (by omega)]
    exact ramp_left
  · intro h
    rw [h, Int.toNat_natCast, curve, if_neg (by omega), if_neg (by omega), if_neg (by omega),
      if_pos (by omega)]
    exact ramp_left
  · intro h
    rw [h, Int.toNat_natCast, curve, if_neg (by omega), if_neg (by omega), if_neg (by omega),
      if_neg (by omega)]

theorem curve_idle {value : Nat} (h : value ≤ t.start) : curve t points value = points.idle :=
  if_pos (Nat.lt_succ_of_le h)

end curve

/-! ## The floor -/

theorem floor_curve_monotone {config : CurveConfig} (hvalid : ValidConfig config) :
    Monotone (floor_curve config) := by
  unfold floor_curve
  by_cases henabled : config.system_cpu_floor_enabled = true
  · obtain ⟨hends, _, hpwm, _⟩ := hvalid.floor henabled
    simp only [if_pos henabled]
    apply monotone_glue 0 monotone_const
    · apply monotone_glue config.system_cpu_floor_end_pwm (ramp_monotone _ _ _ _) monotone_const
      · intro x hx
        exact ramp_le hends hpwm (Nat.le_of_lt hx)
      · intro x _
        exact Nat.le_refl _
    · intro x _
      exact Nat.le_refl _
    · intro x _
      exact Nat.zero_le _
  · simp only [if_neg henabled]
    exact monotone_const

theorem floor_curve_le {config : CurveConfig} (hvalid : ValidConfig config) (cpu : Nat) :
    floor_curve config cpu ≤ 255 := by
  unfold floor_curve
  split
  · rename_i henabled
    obtain ⟨hends, _, hpwm, hle⟩ := hvalid.floor henabled
    split
    · omega
    split
    · exact Nat.le_trans (ramp_le hends hpwm (by omega)) hle
    · exact hle
  · omega

/-! ## The plan -/

/-- A storage source, 0 where it does not count. -/
def storage_curve (enabled : Bool) (t : CurveThresholds) (points : CurvePwmPoints)
    (temperature : Int) : Nat :=
  if enabled && temperature ≥ 0 then curve t points temperature.toNat else 0

/-- The fields of a snapshot are `int`. -/
structure IsInt (snapshot : ThermalSnapshot) : Prop where
  cpu : snapshot.cpu_celsius < 2 ^ 31
  hdd : snapshot.hdd_celsius < 2 ^ 31
  ssd : snapshot.ssd_celsius < 2 ^ 31
  peak : snapshot.cpu_peak_celsius < 2 ^ 31

/-- There is no plan but the failsafe one. -/
def Unavailable (config : CurveConfig) (snapshot : ThermalSnapshot) : Prop :=
  fan_curve_cpu_celsius snapshot < 0 ∨
    (config.require_storage_sensor = true ∧ snapshot.hdd_celsius < 0 ∧ snapshot.ssd_celsius < 0)

section plan

variable (config : CurveConfig) (snapshot : ThermalSnapshot)

def cpu_reading : Nat := (fan_curve_cpu_celsius snapshot).toNat

def system_level : Nat :=
  max (max (max (curve config.cpu config.system_pwm (cpu_reading snapshot))
    (storage_curve config.hdd_curve_enabled config.hdd config.system_pwm snapshot.hdd_celsius))
    (storage_curve config.ssd_curve_enabled config.ssd config.system_pwm snapshot.ssd_celsius))
    (floor_curve config (cpu_reading snapshot))

def cpu_level : Nat :=
  if config.profile = "custom" then system_level config snapshot
  else curve config.cpu config.cpu_pwm (cpu_reading snapshot)

end plan

theorem maximum_of_eq_max (left right : Nat) : maximum_of left right = max left right := by
  unfold maximum_of
  split <;> omega

section plan

variable {config : CurveConfig} {snapshot : ThermalSnapshot}

theorem cpu_is_reading (hint : IsInt snapshot) (h : ¬ fan_curve_cpu_celsius snapshot < 0) :
    IsReading (fan_curve_cpu_celsius snapshot) := by
  refine ⟨by omega, ?_⟩
  unfold fan_curve_cpu_celsius
  split
  · exact hint.peak
  · exact hint.cpu

theorem storage_checked_eq {enabled : Bool} {t : CurveThresholds} {points : CurvePwmPoints}
    {minimum_pwm : Nat} (ht : enabled = true → ValidThresholds t)
    (hpoints : ValidPwmPoints points minimum_pwm) {temperature : Int}
    (hlt : temperature < 2 ^ 31) (target : Nat) :
    evaluate_storage_checked enabled t points temperature target =
      some (max target (storage_curve enabled t points temperature)) := by
  unfold evaluate_storage_checked storage_curve
  by_cases hcounts : (enabled && decide (temperature ≥ 0)) = true
  · rw [if_pos hcounts, if_pos hcounts]
    simp only [Bool.and_eq_true, decide_eq_true_eq] at hcounts
    rw [evaluate_source_checked_eq (ht hcounts.1) hpoints ⟨hcounts.2, hlt⟩]
    simp [maximum_of_eq_max]
  · rw [if_neg hcounts, if_neg hcounts, Nat.max_zero]

theorem storage_of_checked {enabled : Bool} {t : CurveThresholds} {points : CurvePwmPoints}
    {temperature : Int} {target v : Nat}
    (h : evaluate_storage_checked enabled t points temperature target = some v) :
    (if enabled && temperature ≥ 0 then
      maximum_of target (evaluate_source t points temperature) else target) = v := by
  unfold evaluate_storage_checked at h
  split at h
  · rename_i hcounts
    rw [if_pos hcounts]
    simp only [Option.map_eq_map, Option.map_eq_some_iff] at h
    obtain ⟨source, hsource, hv⟩ := h
    rw [evaluate_source_of_checked hsource]
    exact hv
  · rename_i hcounts
    rw [if_neg hcounts]
    exact Option.some.inj h

/-- No operation of an evaluation wraps, or divides by zero, and this is its
    result. -/
theorem evaluate_plan_checked_eq (hvalid : ValidConfig config) (hint : IsInt snapshot)
    (havailable : ¬ Unavailable config snapshot) :
    evaluate_plan_checked config snapshot =
      some (⟨max (cpu_level config snapshot) config.minimum_pwm,
        max (system_level config snapshot) config.minimum_pwm⟩, .ok ()) := by
  unfold Unavailable at havailable
  rw [not_or] at havailable
  obtain ⟨hcpu, hstorage⟩ := havailable
  have hreading := cpu_is_reading hint hcpu
  have hstorage : ¬ (config.require_storage_sensor && decide (snapshot.hdd_celsius < 0) &&
      decide (snapshot.ssd_celsius < 0)) = true := by
    simpa [and_assoc] using hstorage
  simp only [evaluate_plan_checked]
  rw [if_neg hcpu, if_neg hstorage,
    evaluate_source_checked_eq hvalid.cpu hvalid.system_pwm hreading]
  simp only [Option.bind_eq_bind, Option.bind_some]
  rw [storage_checked_eq hvalid.hdd hvalid.system_pwm hint.hdd, Option.bind_some,
    storage_checked_eq hvalid.ssd hvalid.system_pwm hint.ssd, Option.bind_some,
    cpu_system_floor_checked_eq hvalid hreading, Option.bind_some]
  simp only [maximum_of_eq_max]
  unfold cpu_level
  split
  · rfl
  · rw [evaluate_source_checked_eq hvalid.cpu hvalid.cpu_pwm hreading]
    rfl

/-- The wrapping evaluation is the checked one where that has a result. -/
theorem evaluate_plan_of_checked {r : CurvePlan × Except CurveError Unit}
    (h : evaluate_plan_checked config snapshot = some r) : evaluate_plan config snapshot = r := by
  simp only [evaluate_plan_checked] at h
  simp only [evaluate_plan]
  split at h
  · rename_i hcpu
    rw [if_pos hcpu]
    exact Option.some.inj h
  rename_i hcpu
  rw [if_neg hcpu]
  split at h
  · rename_i hstorage
    rw [if_pos hstorage]
    exact Option.some.inj h
  rename_i hstorage
  rw [if_neg hstorage]
  simp only [Option.bind_eq_bind, Option.bind_eq_some_iff] at h
  obtain ⟨cpu, hsource, hdd, hhdd, ssd, hssd, floor, hfloor, h⟩ := h
  rw [evaluate_source_of_checked hsource, storage_of_checked hhdd, storage_of_checked hssd,
    cpu_system_floor_of_checked hfloor]
  split at h
  · rename_i hcustom
    rw [if_pos hcustom]
    exact Option.some.inj h
  · rename_i hcustom
    obtain ⟨target, htarget, hr⟩ := Option.bind_eq_some_iff.mp h
    rw [if_neg hcustom, evaluate_source_of_checked htarget]
    exact Option.some.inj hr

theorem evaluate_plan_available (hvalid : ValidConfig config) (hint : IsInt snapshot)
    (havailable : ¬ Unavailable config snapshot) :
    evaluate_plan config snapshot =
      (⟨max (cpu_level config snapshot) config.minimum_pwm,
        max (system_level config snapshot) config.minimum_pwm⟩, .ok ()) :=
  evaluate_plan_of_checked (evaluate_plan_checked_eq hvalid hint havailable)

/-- Without the readings it needs an evaluation stores the failsafe plan,
    and says so. -/
theorem evaluate_plan_unavailable (h : Unavailable config snapshot) :
    ∃ error, evaluate_plan config snapshot = (failsafe_plan config, .error error) ∧
      evaluate_plan_checked config snapshot = some (failsafe_plan config, .error error) := by
  simp only [evaluate_plan, evaluate_plan_checked]
  by_cases hcpu : fan_curve_cpu_celsius snapshot < 0
  · rw [if_pos hcpu, if_pos hcpu]
    exact ⟨_, rfl, rfl⟩
  · have hstorage := h.resolve_left hcpu
    rw [if_neg hcpu, if_neg hcpu, if_pos (by simp [hstorage]), if_pos (by simp [hstorage])]
    exact ⟨_, rfl, rfl⟩

/-! ## Sources -/

inductive Source where
  | cpu
  | hdd
  | ssd
  deriving DecidableEq, Repr

def thresholds (config : CurveConfig) : Source → CurveThresholds
  | .cpu => config.cpu
  | .hdd => config.hdd
  | .ssd => config.ssd

/-- The effective temperature of a source. -/
def reading (snapshot : ThermalSnapshot) : Source → Int
  | .cpu => fan_curve_cpu_celsius snapshot
  | .hdd => snapshot.hdd_celsius
  | .ssd => snapshot.ssd_celsius

/-- The source is available and its curve is enabled. -/
def Counts (config : CurveConfig) (snapshot : ThermalSnapshot) (source : Source) : Prop :=
  0 ≤ reading snapshot source ∧
    match source with
    | .cpu => True
    | .hdd => config.hdd_curve_enabled = true
    | .ssd => config.ssd_curve_enabled = true

/-- One source is active: every other is missing or idle, and the CPU puts
    no floor under the system channel. -/
def Alone (config : CurveConfig) (snapshot : ThermalSnapshot) (source : Source) : Prop :=
  Counts config snapshot source ∧
    (∀ other, other ≠ source → Counts config snapshot other →
      reading snapshot other ≤ (thresholds config other).start) ∧
    cpu_system_floor config (fan_curve_cpu_celsius snapshot) = 0

/-- The same sources are available, and none has become cooler. -/
structure Hotter (snapshot hotter : ThermalSnapshot) : Prop where
  available : ∀ source, 0 ≤ reading snapshot source ↔ 0 ≤ reading hotter source
  warmer : ∀ source, 0 ≤ reading snapshot source → reading snapshot source ≤ reading hotter source

theorem floor_eq (hvalid : ValidConfig config) (hint : IsInt snapshot)
    (havailable : ¬ Unavailable config snapshot) :
    cpu_system_floor config (fan_curve_cpu_celsius snapshot) =
      floor_curve config (cpu_reading snapshot) := by
  apply cpu_system_floor_of_checked
  exact cpu_system_floor_checked_eq hvalid
    (cpu_is_reading hint fun hcpu => havailable (.inl hcpu))

theorem storage_curve_idle {enabled : Bool} {t : CurveThresholds} {points : CurvePwmPoints}
    {temperature : Int} (h : 0 ≤ temperature ∧ enabled = true → temperature ≤ t.start) :
    storage_curve enabled t points temperature ≤ points.idle := by
  unfold storage_curve
  split
  · rename_i hcounts
    simp only [Bool.and_eq_true, decide_eq_true_eq] at hcounts
    have hidle := h ⟨hcounts.2, hcounts.1⟩
    exact Nat.le_of_eq (curve_idle (by omega))
  · exact Nat.zero_le _

theorem storage_curve_monotone {enabled : Bool} {t : CurveThresholds} {points : CurvePwmPoints}
    {minimum_pwm : Nat} (ht : enabled = true → ValidThresholds t)
    (hpoints : ValidPwmPoints points minimum_pwm) {temperature hotter : Int}
    (havailable : 0 ≤ temperature ↔ 0 ≤ hotter) (hle : 0 ≤ temperature → temperature ≤ hotter) :
    storage_curve enabled t points temperature ≤ storage_curve enabled t points hotter := by
  unfold storage_curve
  by_cases hcounts : (enabled && decide (temperature ≥ 0)) = true
  · have hhotter : (enabled && decide (hotter ≥ 0)) = true := by
      simp only [Bool.and_eq_true, decide_eq_true_eq] at hcounts ⊢
      exact ⟨hcounts.1, havailable.mp hcounts.2⟩
    rw [if_pos hcounts, if_pos hhotter]
    simp only [Bool.and_eq_true, decide_eq_true_eq] at hcounts
    have := hle hcounts.2
    exact curve_monotone (ht hcounts.1) hpoints (by omega)
  · rw [if_neg hcounts]
    exact Nat.zero_le _

theorem storage_curve_le {enabled : Bool} {t : CurveThresholds} {points : CurvePwmPoints}
    {minimum_pwm : Nat} (ht : enabled = true → ValidThresholds t)
    (hpoints : ValidPwmPoints points minimum_pwm) (temperature : Int) :
    storage_curve enabled t points temperature ≤ 255 := by
  unfold storage_curve
  split
  · rename_i hcounts
    simp only [Bool.and_eq_true] at hcounts
    exact Nat.le_trans (curve_le (ht hcounts.1) hpoints _) hpoints.maximum_le
  · exact Nat.zero_le _

theorem system_level_le (hvalid : ValidConfig config) (snapshot : ThermalSnapshot) :
    system_level config snapshot ≤ 255 := by
  have hcpu := Nat.le_trans (curve_le hvalid.cpu hvalid.system_pwm (cpu_reading snapshot))
    hvalid.system_pwm.maximum_le
  have hhdd := storage_curve_le hvalid.hdd hvalid.system_pwm snapshot.hdd_celsius
  have hssd := storage_curve_le hvalid.ssd hvalid.system_pwm snapshot.ssd_celsius
  have hfloor := floor_curve_le hvalid (cpu_reading snapshot)
  unfold system_level
  omega

theorem cpu_level_le (hvalid : ValidConfig config) (snapshot : ThermalSnapshot) :
    cpu_level config snapshot ≤ 255 := by
  unfold cpu_level
  split
  · exact system_level_le hvalid snapshot
  · exact Nat.le_trans (curve_le hvalid.cpu hvalid.cpu_pwm _) hvalid.cpu_pwm.maximum_le

/-- The levels follow the temperatures. -/
theorem levels_monotone (hvalid : ValidConfig config) {hotter : ThermalSnapshot}
    (hhotter : Hotter snapshot hotter) (hcpu : 0 ≤ fan_curve_cpu_celsius snapshot) :
    system_level config snapshot ≤ system_level config hotter ∧
      cpu_level config snapshot ≤ cpu_level config hotter := by
  have hcpu_le := hhotter.warmer .cpu hcpu
  simp only [reading] at hcpu_le
  have hreading : cpu_reading snapshot ≤ cpu_reading hotter := by
    unfold cpu_reading
    omega
  have hsystem : system_level config snapshot ≤ system_level config hotter := by
    have hcurve := curve_monotone hvalid.cpu hvalid.system_pwm hreading
    have hhdd := storage_curve_monotone hvalid.hdd hvalid.system_pwm (hhotter.available .hdd)
      (hhotter.warmer .hdd)
    have hssd := storage_curve_monotone hvalid.ssd hvalid.system_pwm (hhotter.available .ssd)
      (hhotter.warmer .ssd)
    have hfloor := floor_curve_monotone hvalid hreading
    simp only [reading] at hhdd hssd
    unfold system_level
    exact max_le_max (max_le_max (max_le_max hcurve hhdd) hssd) hfloor
  refine ⟨hsystem, ?_⟩
  unfold cpu_level
  split
  · exact hsystem
  · exact curve_monotone hvalid.cpu hvalid.cpu_pwm hreading

/-- A source that is alone decides the system channel. -/
theorem system_level_of_alone (hvalid : ValidConfig config) (hint : IsInt snapshot)
    (havailable : ¬ Unavailable config snapshot) {source : Source}
    (halone : Alone config snapshot source) :
    system_level config snapshot =
      curve (thresholds config source) config.system_pwm (reading snapshot source).toNat := by
  obtain ⟨hcounts, hidle, hfloor⟩ := halone
  rw [floor_eq hvalid hint havailable] at hfloor
  have hcpu : 0 ≤ fan_curve_cpu_celsius snapshot := by
    by_contra hneg
    exact havailable (.inl (by omega))
  have hhdd : source ≠ .hdd → storage_curve config.hdd_curve_enabled config.hdd config.system_pwm
      snapshot.hdd_celsius ≤ config.system_pwm.idle :=
    fun hne => storage_curve_idle (hidle .hdd (Ne.symm hne))
  have hssd : source ≠ .ssd → storage_curve config.ssd_curve_enabled config.ssd config.system_pwm
      snapshot.ssd_celsius ≤ config.system_pwm.idle :=
    fun hne => storage_curve_idle (hidle .ssd (Ne.symm hne))
  have hcool : source ≠ .cpu → curve config.cpu config.system_pwm (cpu_reading snapshot) =
      config.system_pwm.idle := by
    intro hne
    have hle : fan_curve_cpu_celsius snapshot ≤ config.cpu.start :=
      hidle .cpu (Ne.symm hne) ⟨hcpu, trivial⟩
    apply curve_idle
    unfold cpu_reading
    omega
  unfold system_level
  rw [hfloor]
  cases source with
  | cpu =>
    have hle := le_curve (t := config.cpu) hvalid.system_pwm (cpu_reading snapshot)
    have hhdd := hhdd (by decide)
    have hssd := hssd (by decide)
    show _ = curve config.cpu config.system_pwm (cpu_reading snapshot)
    omega
  | hdd =>
    have hon : storage_curve config.hdd_curve_enabled config.hdd config.system_pwm
        snapshot.hdd_celsius = curve config.hdd config.system_pwm snapshot.hdd_celsius.toNat :=
      if_pos (by simpa using ⟨hcounts.2, hcounts.1⟩)
    have hle := le_curve (t := config.hdd) hvalid.system_pwm snapshot.hdd_celsius.toNat
    have hssd := hssd (by decide)
    rw [hcool (by decide), hon]
    show _ = curve config.hdd config.system_pwm snapshot.hdd_celsius.toNat
    omega
  | ssd =>
    have hon : storage_curve config.ssd_curve_enabled config.ssd config.system_pwm
        snapshot.ssd_celsius = curve config.ssd config.system_pwm snapshot.ssd_celsius.toNat :=
      if_pos (by simpa using ⟨hcounts.2, hcounts.1⟩)
    have hle := le_curve (t := config.ssd) hvalid.system_pwm snapshot.ssd_celsius.toNat
    have hhdd := hhdd (by decide)
    rw [hcool (by decide), hon]
    show _ = curve config.ssd config.system_pwm snapshot.ssd_celsius.toNat
    omega

end plan

/-! ## The evaluation as a whole -/

/-- What is asked of the evaluation of a configuration. -/
structure Sound (config : CurveConfig) : Prop where
  /-- No operation wraps, and none divides by zero. -/
  checked : ∀ snapshot, IsInt snapshot →
    evaluate_plan_checked config snapshot = some (evaluate_plan config snapshot)
  failsafe_iff : ∀ snapshot, IsInt snapshot →
    ((∃ error, evaluate_plan config snapshot = (failsafe_plan config, .error error)) ↔
      Unavailable config snapshot)
  bounded : ∀ snapshot, IsInt snapshot → ¬ Unavailable config snapshot →
    ∃ plan, evaluate_plan config snapshot = (plan, .ok ()) ∧
      config.minimum_pwm ≤ plan.cpu_pwm ∧ plan.cpu_pwm ≤ 255 ∧
      config.minimum_pwm ≤ plan.system_pwm ∧ plan.system_pwm ≤ 255 ∧
      cpu_system_floor config (fan_curve_cpu_celsius snapshot) ≤ plan.system_pwm
  monotone : ∀ snapshot hotter, IsInt snapshot → IsInt hotter → Hotter snapshot hotter →
    (evaluate_plan config snapshot).1.cpu_pwm ≤ (evaluate_plan config hotter).1.cpu_pwm ∧
      (evaluate_plan config snapshot).1.system_pwm ≤ (evaluate_plan config hotter).1.system_pwm
  /-- The CPU fan of a stock profile follows the CPU only. -/
  on_points : ∀ snapshot source, IsInt snapshot → ¬ Unavailable config snapshot →
    Alone config snapshot source →
    let plan := (evaluate_plan config snapshot).1
    OnPoints (thresholds config source) config.system_pwm (reading snapshot source)
        plan.system_pwm ∧
      (config.profile = "custom" → OnPoints (thresholds config source) config.system_pwm
        (reading snapshot source) plan.cpu_pwm) ∧
      (config.profile ≠ "custom" → source = .cpu → OnPoints (thresholds config source)
        config.cpu_pwm (reading snapshot source) plan.cpu_pwm)

/-- Every configuration that passes validation evaluates as it should. -/
theorem evaluate_plan_sound (config : CurveConfig) (h : validate_config config = .ok ()) :
    Sound config := by
  have hvalid := validate_config_sound h
  constructor
  case checked =>
    intro snapshot hint
    by_cases havailable : Unavailable config snapshot
    · obtain ⟨error, hplan, hchecked⟩ := evaluate_plan_unavailable havailable
      rw [hplan, hchecked]
    · rw [evaluate_plan_checked_eq hvalid hint havailable,
        evaluate_plan_available hvalid hint havailable]
  case failsafe_iff =>
    intro snapshot hint
    constructor
    · intro hfailed
      obtain ⟨error, hplan⟩ := hfailed
      by_contra havailable
      rw [evaluate_plan_available hvalid hint havailable] at hplan
      cases congrArg Prod.snd hplan
    · intro hunavailable
      obtain ⟨error, hplan, _⟩ := evaluate_plan_unavailable hunavailable
      exact ⟨error, hplan⟩
  case bounded =>
    intro snapshot hint havailable
    have hsystem := system_level_le hvalid snapshot
    have hcpu := cpu_level_le hvalid snapshot
    have hmin := hvalid.minimum_le
    have hfloor : floor_curve config (cpu_reading snapshot) ≤ system_level config snapshot :=
      Nat.le_max_right ..
    refine ⟨_, evaluate_plan_available hvalid hint havailable, ?_⟩
    rw [floor_eq hvalid hint havailable]
    dsimp only
    omega
  case monotone =>
    intro snapshot hotter hint hhot hhotter
    have hhdd := hhotter.available .hdd
    have hssd := hhotter.available .ssd
    have hcpu := hhotter.available .cpu
    simp only [reading] at hhdd hssd hcpu
    have hsame : Unavailable config snapshot ↔ Unavailable config hotter := by
      have hcpu_neg := not_congr hcpu
      have hhdd_neg := not_congr hhdd
      have hssd_neg := not_congr hssd
      simp only [Int.not_le] at hcpu_neg hhdd_neg hssd_neg
      unfold Unavailable
      rw [hcpu_neg, hhdd_neg, hssd_neg]
    by_cases havailable : Unavailable config snapshot
    · obtain ⟨_, hplan, _⟩ := evaluate_plan_unavailable havailable
      obtain ⟨_, hplan', _⟩ := evaluate_plan_unavailable (hsame.mp havailable)
      rw [hplan, hplan']
      exact ⟨Nat.le_refl _, Nat.le_refl _⟩
    · have havailable' : ¬ Unavailable config hotter := fun h => havailable (hsame.mpr h)
      have hle : 0 ≤ fan_curve_cpu_celsius snapshot := by
        by_contra hneg
        exact havailable (.inl (by omega))
      obtain ⟨hsystem, hcpu⟩ := levels_monotone hvalid hhotter hle
      rw [evaluate_plan_available hvalid hint havailable,
        evaluate_plan_available hvalid hhot havailable']
      exact ⟨max_le_max hcpu (Nat.le_refl _), max_le_max hsystem (Nat.le_refl _)⟩
  case on_points =>
    intro snapshot source hint havailable halone
    have hlevel := system_level_of_alone hvalid hint havailable halone
    have hthresholds : ValidThresholds (thresholds config source) := by
      cases source with
      | cpu => exact hvalid.cpu
      | hdd => exact hvalid.hdd halone.1.2
      | ssd => exact hvalid.ssd halone.1.2
    have hsystem : max (system_level config snapshot) config.minimum_pwm =
        curve (thresholds config source) config.system_pwm (reading snapshot source).toNat := by
      rw [hlevel]
      exact Nat.max_eq_left (Nat.le_trans hvalid.system_pwm.le_idle (le_curve hvalid.system_pwm _))
    rw [evaluate_plan_available hvalid hint havailable]
    refine ⟨?_, fun hcustom => ?_, fun hstock hsource => ?_⟩
    · show OnPoints _ _ _ (max (system_level config snapshot) config.minimum_pwm)
      rw [hsystem]
      exact curve_on_points hthresholds _
    · show OnPoints _ _ _ (max (cpu_level config snapshot) config.minimum_pwm)
      rw [cpu_level, if_pos hcustom, hsystem]
      exact curve_on_points hthresholds _
    · subst hsource
      have hcpu : max (cpu_level config snapshot) config.minimum_pwm =
          curve config.cpu config.cpu_pwm (fan_curve_cpu_celsius snapshot).toNat := by
        rw [cpu_level, if_neg hstock]
        exact Nat.max_eq_left (Nat.le_trans hvalid.cpu_pwm.le_idle (le_curve hvalid.cpu_pwm _))
      show OnPoints _ _ _ (max (cpu_level config snapshot) config.minimum_pwm)
      rw [hcpu]
      exact curve_on_points hthresholds _

/-- The defaults are one of them. -/
theorem config_defaults_sound :
    validate_config config_defaults = .ok () ∧ Sound config_defaults :=
  ⟨by decide +kernel, evaluate_plan_sound config_defaults (by decide +kernel)⟩

end UgreenNas.Fan
