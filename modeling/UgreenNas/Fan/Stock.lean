import UgreenNas.Fan.Comments

/-! # Stock profiles

    A stock profile overwrites every curve setting that the lines of the file
    may have made.  What is loaded depends on the profile and on the five
    settings that it leaves alone.
-/

namespace UgreenNas.Fan

open DiskMap

/-! ## What a stock profile depends on -/

/-- The fields that no line of the file sets. -/
def derived (config : CurveConfig) : CurvePwmPoints × CurvePwmPoints × Bool × Nat × Nat × Nat × Nat :=
  (config.system_pwm, config.cpu_pwm, config.system_cpu_floor_enabled,
    config.system_cpu_floor_start_celsius, config.system_cpu_floor_end_celsius,
    config.system_cpu_floor_start_pwm, config.system_cpu_floor_end_pwm)

/-- Agreement on what a stock profile leaves alone. -/
structure Kept (c d : CurveConfig) : Prop where
  settings : ∀ s : Setting, s.replaced = false → s.get c = s.get d
  derived : derived c = derived d

theorem profile_is_valid_iff {profile : String} :
    profile_is_valid profile = true ↔ profile = "custom" ∨ profile = "stock-4600" ∨
      profile = "stock-4800" ∨ profile = "stock-4800s" ∨ profile = "stock-4800plus" ∨
      profile = "stock-480tplus" ∨ profile = "stock-6800pro" ∨ profile = "stock-6800plus" ∨
      profile = "stock-6800" := by
  simp [profile_is_valid, or_assoc]

/-- Each branch of `apply_stock_profile` overwrites all curve settings. -/
theorem apply_stock_profile_congr {c d : CurveConfig} (h : Kept c d)
    (hvalid : profile_is_valid c.profile = true) (hcustom : c.profile ≠ "custom") :
    apply_stock_profile c = apply_stock_profile d := by
  obtain ⟨hkept, hderived⟩ := h
  have hprofile : c.profile = d.profile := hkept .profile rfl
  have hinterval : c.interval_seconds = d.interval_seconds := hkept .interval_seconds rfl
  have hdelay : c.downshift_delay_seconds = d.downshift_delay_seconds :=
    hkept .downshift_delay_seconds rfl
  have hfailsafe : c.failsafe_pwm = d.failsafe_pwm := hkept .failsafe_pwm rfl
  have hsensor : c.require_storage_sensor = d.require_storage_sensor :=
    hkept .require_storage_sensor rfl
  have hwrites : c.allow_unvalidated_writes = d.allow_unvalidated_writes :=
    hkept .allow_unvalidated_writes rfl
  simp only [derived, Prod.mk.injEq] at hderived
  obtain ⟨hsystem, hcpu, hfloor, hstart, hend, hlow, hhigh⟩ := hderived
  unfold apply_stock_profile
  dsimp only
  rw [← hprofile, ← hinterval, ← hdelay, ← hfailsafe, ← hsensor, ← hwrites, ← hstart, ← hend, ← hlow,
    ← hhigh]
  rcases profile_is_valid_iff.mp hvalid with h | h | h | h | h | h | h | h | h
  · exact absurd h hcustom
  all_goals simp [h]

theorem finish_config_congr {c d : CurveConfig} (h : Kept c d) (hcustom : c.profile ≠ "custom") :
    finish_config c = finish_config d := by
  have hprofile : c.profile = d.profile := h.settings .profile rfl
  unfold finish_config
  cases hvalid : profile_is_valid c.profile with
  | false =>
    rw [← hprofile, hvalid]
    rfl
  | true =>
    rw [← hprofile, hvalid, if_neg hcustom, if_neg hcustom, apply_stock_profile_congr h hvalid hcustom]

/-! ## Two files -/

theorem derived_set (s : Setting) (value : s.Value) (config : CurveConfig) :
    derived (settings.set s value config) = derived config := by
  cases s <;> rfl

/-- The value that a file gives a setting, or its default. -/
def assigned (s : Setting) (assignments : List Assignment) : s.Value :=
  (Fields.last s assignments).getD (s.get config_defaults)

theorem kept_of_assigned {assignments others : List Assignment}
    (h : ∀ s : Setting, s.replaced = false → assigned s assignments = assigned s others) :
    Kept (settings.write assignments config_defaults) (settings.write others config_defaults) := by
  constructor
  · intro s hs
    have hwrite := fun list => @Fields.get_write _ _ _ settings _ s list config_defaults
    exact (hwrite assignments).trans ((h s hs).trans (hwrite others).symm)
  · rw [Fields.write_keeps derived_set, Fields.write_keeps derived_set]

/-- Two files that differ at most in the curve settings and in the order of
    their lines, and select a stock profile. -/
structure SameStock (text other : Text) : Prop where
  readable : (∃ assignments, read_lines (file_lines text) = .ok assignments) ↔
    ∃ assignments, read_lines (file_lines other) = .ok assignments
  stock : ∀ assignments, read_lines (file_lines text) = .ok assignments →
    assigned .profile assignments ≠ "custom"
  kept : ∀ assignments others, read_lines (file_lines text) = .ok assignments →
    read_lines (file_lines other) = .ok others →
    ∀ s : Setting, s.replaced = false → assigned s assignments = assigned s others

theorem load_same_stock {text other : Text} (hfits : Fits text) (hfits' : Fits other)
    (h : SameStock text other) {assignments : List Assignment}
    (hread : read_lines (file_lines text) = .ok assignments) :
    load_config (.ok ⟨text, false⟩) = load_config (.ok ⟨other, false⟩) := by
  obtain ⟨others, hread'⟩ := h.readable.mp ⟨assignments, hread⟩
  have hkept := kept_of_assigned (h.kept assignments others hread hread')
  have hcustom : (settings.write assignments config_defaults).profile ≠ "custom" := by
    have hget := @Fields.get_write _ _ _ settings _ .profile assignments config_defaults
    intro heq
    exact h.stock assignments hread (hget.symm.trans heq)
  rw [load_config_ok, load_config_ok, load_fitting_file hfits, load_fitting_file hfits']
  unfold load_lines
  rw [hread, hread']
  exact finish_config_congr hkept hcustom

/-- Files that select the same stock profile and agree on the settings it
    leaves alone are loaded alike; and what is loaded is always valid. -/
theorem stock_overrides :
    (∀ text other : Text, Fits text → Fits other → SameStock text other →
      (load_config (.ok ⟨text, false⟩)).toOption = (load_config (.ok ⟨other, false⟩)).toOption ∧
      ∀ assignments, read_lines (file_lines text) = .ok assignments →
        load_config (.ok ⟨text, false⟩) = load_config (.ok ⟨other, false⟩)) ∧
    ∀ (stream : Except Errno File) (config : CurveConfig), load_config stream = .ok config →
      validate_config config = .ok () := by
  constructor
  · intro text other hfits hfits' h
    refine ⟨?_, fun assignments hread => load_same_stock hfits hfits' h hread⟩
    cases hread : read_lines (file_lines text) with
    | ok assignments => rw [load_same_stock hfits hfits' h hread]
    | error e =>
      -- A bad line in one of them means one in the other.
      cases hread' : read_lines (file_lines other) with
      | ok others =>
        obtain ⟨assignments, hok⟩ := h.readable.mpr ⟨others, hread'⟩
        rw [hread] at hok
        cases hok
      | error e' =>
        rw [load_config_ok, load_config_ok, load_fitting_file hfits, load_fitting_file hfits']
        unfold load_lines
        rw [hread, hread']
        rfl
  · intro stream config h
    cases stream with
    | error errno => cases h
    | ok file =>
      obtain ⟨assignments, -, hfinish⟩ := load_file_ok h
      exact (finish_config_ok hfinish).2.1

/-- A stock profile with curve settings before and behind it. -/
def overridden_text : Text := "cpu=1,2,3,4,5\nprofile=stock-480tplus\nhdd_curve_enabled=1\nminimum_pwm=90\n"

def stock_text : Text := "# curves of the vendor\nprofile = stock-480tplus\n"

theorem stock_overrides_480tplus :
    load_config (.ok ⟨overridden_text, false⟩) = load_config (.ok ⟨stock_text, false⟩) := by
  have hread : read_lines (file_lines overridden_text) = .ok [⟨.cpu, ⟨1, 2, 3, 4, 5⟩⟩,
      ⟨.profile, "stock-480tplus"⟩, ⟨.hdd_curve_enabled, true⟩, ⟨.minimum_pwm, (90 : Nat)⟩] := rfl
  have hread' : read_lines (file_lines stock_text) = .ok [⟨.profile, "stock-480tplus"⟩] := rfl
  have hsame : SameStock overridden_text stock_text := by
    constructor
    · exact iff_of_true ⟨_, hread⟩ ⟨_, hread'⟩
    · intro assignments h
      cases hread.symm.trans h
      decide
    · intro assignments others h h' s hs
      cases hread.symm.trans h
      cases hread'.symm.trans h'
      cases s <;> first | rfl | cases hs
  exact (stock_overrides.1 overridden_text stock_text (by decide +kernel) (by decide +kernel)
    hsame).2 _ hread

end UgreenNas.Fan
