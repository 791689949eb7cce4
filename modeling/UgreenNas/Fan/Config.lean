import UgreenNas.Disk.Sysfs
import UgreenNas.Fan.Curve
import UgreenNas.Seq.Fields

/-! # The configuration file (`fan/thermal_curve.c`)

    A line `key=value` sets one of thirteen settings, a blank line or a
    comment sets none, and a key that is not known is passed over.  The file
    is read with `fgets` into 256 bytes.  A stock profile then replaces the
    curves, and the whole is validated.
-/

namespace UgreenNas.Fan

open DiskMap

/-! ## Values -/

def parse_unsigned (text : Text) : Option Nat :=
  let (parsed, out_of_range, rest) := strtoul text 10
  if out_of_range || text.isEmpty || !rest.isEmpty || parsed > UINT_MAX then none else some parsed

def parse_boolean (text : Text) : Option Bool :=
  if text = "true" || text = "1" then some true
  else if text = "false" || text = "0" then some false
  else none

/-- The body of the loop over the parts of a list. -/
def parse_part (count : Nat) (values : List Nat) (part : Text) : Option (List Nat) :=
  if values.length ≥ count then none
  else (parse_unsigned part).map fun value => values ++ [value]

/-- The lists of `parse_thresholds` and `parse_pwm_points`: exactly `count`
    numbers between commas, in less than 96 bytes. -/
def parse_list (count : Nat) (text : Text) : Option (List Nat) :=
  if text.length ≥ 96 then none
  else
    match (text.splitOn ',').foldlM (parse_part count) [] with
    | none => none
    | some values => if values.length ≠ count then none else some values

def parse_thresholds (text : Text) : Option CurveThresholds :=
  match parse_list 5 text with
  | some [stop, start, mid, full, maximum] => some ⟨stop, start, mid, full, maximum⟩
  | _ => none

def parse_pwm_points (text : Text) : Option CurvePwmPoints :=
  match parse_list 4 text with
  | some [idle, mid, full, maximum] => some ⟨idle, mid, full, maximum⟩
  | _ => none

/-! ## Settings -/

/-- The keys that `load_config` knows. -/
inductive Setting where
  | profile
  | interval_seconds
  | downshift_delay_seconds
  | minimum_pwm
  | failsafe_pwm
  | require_storage_sensor
  | allow_unvalidated_writes
  | hdd_curve_enabled
  | ssd_curve_enabled
  | cpu
  | hdd
  | ssd
  | pwm
  deriving DecidableEq, Repr

namespace Setting

def all : List Setting :=
  [profile, interval_seconds, downshift_delay_seconds, minimum_pwm, failsafe_pwm,
    require_storage_sensor, allow_unvalidated_writes, hdd_curve_enabled, ssd_curve_enabled,
    cpu, hdd, ssd, pwm]

def key : Setting → Text
  | profile => "profile"
  | interval_seconds => "interval_seconds"
  | downshift_delay_seconds => "downshift_delay_seconds"
  | minimum_pwm => "minimum_pwm"
  | failsafe_pwm => "failsafe_pwm"
  | require_storage_sensor => "require_storage_sensor"
  | allow_unvalidated_writes => "allow_unvalidated_writes"
  | hdd_curve_enabled => "hdd_curve_enabled"
  | ssd_curve_enabled => "ssd_curve_enabled"
  | cpu => "cpu"
  | hdd => "hdd"
  | ssd => "ssd"
  | pwm => "pwm"

/-- The type of the member of `struct ugreenctl_fan_curve_config`. -/
abbrev Value : Setting → Type
  | profile => String
  | interval_seconds | downshift_delay_seconds | minimum_pwm | failsafe_pwm => Nat
  | require_storage_sensor | allow_unvalidated_writes | hdd_curve_enabled
  | ssd_curve_enabled => Bool
  | cpu | hdd | ssd => CurveThresholds
  | pwm => CurvePwmPoints

def get : (s : Setting) → CurveConfig → s.Value
  | profile, config => config.profile
  | interval_seconds, config => config.interval_seconds
  | downshift_delay_seconds, config => config.downshift_delay_seconds
  | minimum_pwm, config => config.minimum_pwm
  | failsafe_pwm, config => config.failsafe_pwm
  | require_storage_sensor, config => config.require_storage_sensor
  | allow_unvalidated_writes, config => config.allow_unvalidated_writes
  | hdd_curve_enabled, config => config.hdd_curve_enabled
  | ssd_curve_enabled, config => config.ssd_curve_enabled
  | cpu, config => config.cpu
  | hdd, config => config.hdd
  | ssd, config => config.ssd
  | pwm, config => config.pwm

def set : (s : Setting) → s.Value → CurveConfig → CurveConfig
  | profile, value, config => { config with profile := value }
  | interval_seconds, value, config => { config with interval_seconds := value }
  | downshift_delay_seconds, value, config => { config with downshift_delay_seconds := value }
  | minimum_pwm, value, config => { config with minimum_pwm := value }
  | failsafe_pwm, value, config => { config with failsafe_pwm := value }
  | require_storage_sensor, value, config => { config with require_storage_sensor := value }
  | allow_unvalidated_writes, value, config => { config with allow_unvalidated_writes := value }
  | hdd_curve_enabled, value, config => { config with hdd_curve_enabled := value }
  | ssd_curve_enabled, value, config => { config with ssd_curve_enabled := value }
  | cpu, value, config => { config with cpu := value }
  | hdd, value, config => { config with hdd := value }
  | ssd, value, config => { config with ssd := value }
  | pwm, value, config => { config with pwm := value }

/-- `goto invalid_value` where a parser fails. -/
def valid {α : Type} : Option α → Except CurveError α
  | some value => .ok value
  | none => .error ⟨.EINVAL, "invalid fan curve configuration value"⟩

/-- What the text of a value stores. -/
def parse : (s : Setting) → Text → Except CurveError s.Value
  | profile, text =>
    if text.length ≥ 24 then
      .error ⟨.EINVAL, "fan curve profile is too long"⟩
    else
      .ok (String.ofList text)
  | interval_seconds, text | downshift_delay_seconds, text | minimum_pwm, text
  | failsafe_pwm, text => valid (parse_unsigned text)
  | require_storage_sensor, text | allow_unvalidated_writes, text | hdd_curve_enabled, text
  | ssd_curve_enabled, text => valid (parse_boolean text)
  | cpu, text | hdd, text | ssd, text => valid (parse_thresholds text)
  | pwm, text => valid (parse_pwm_points text)

/-- The settings that `apply_stock_profile` overwrites. -/
def replaced : Setting → Bool
  | minimum_pwm | hdd_curve_enabled | ssd_curve_enabled | cpu | hdd | ssd | pwm => true
  | _ => false

/-- The setting with this key. -/
def named (key : Text) : Option Setting := all.find? (·.key = key)

end Setting

/-- The settings as fields of the configuration. -/
def settings : Fields Setting Setting.Value CurveConfig where
  get := Setting.get
  set := Setting.set
  get_set := by
    intro s value config
    cases s <;> rfl
  get_set_ne := by
    intro s s' hne value config
    cases s <;> cases s' <;> first | rfl | exact absurd rfl hne
  set_set := by
    intro s value other config
    cases s <;> rfl

/-- A setting, and the value that a line gives it. -/
abbrev Assignment : Type := Sigma Setting.Value

/-! ## Lines -/

/-- What one line of the file assigns, if anything. -/
def read_line (line : Text) : Except CurveError (Option Assignment) :=
  let text := trim (c_string line)
  if text.isEmpty || text.head? = some '#' || text.head? = some ';' then
    .ok none
  else
    match strchr text '=' with
    | none => .error ⟨.EINVAL, "invalid fan curve configuration line"⟩
    | some (key, value) =>
      match Setting.named (trim key) with
      | none => .ok none
      | some s => (s.parse (trim value)).map fun value => some ⟨s, value⟩

/-- The body of the loop over the lines. -/
def config_line (config : CurveConfig) (line : Text) : Except CurveError CurveConfig :=
  (read_line line).map fun
    | none => config
    | some ⟨s, value⟩ => s.set value config

/-! ## Stock profiles -/

/-- `apply_stock_profile`: the thermal policy of a vendor preset. -/
def apply_stock_profile (config : CurveConfig) : CurveConfig :=
  let config := { config with
    minimum_pwm := 40
    hdd_curve_enabled := true
    ssd_curve_enabled := true
    system_cpu_floor_enabled := false }
  let config :=
    if config.profile = "stock-4600" then
      { config with
        cpu := ⟨40, 45, 70, 80, 90⟩
        hdd := ⟨30, 35, 50, 55, 70⟩
        ssd := ⟨35, 40, 55, 65, 70⟩
        system_pwm := ⟨64, 152, 228, 255⟩
        cpu_pwm := ⟨64, 152, 228, 255⟩ }
    else if config.profile = "stock-4800" then
      { config with
        cpu := ⟨45, 50, 70, 75, 85⟩
        hdd := ⟨35, 40, 45, 50, 65⟩
        ssd := ⟨40, 45, 55, 60, 65⟩
        system_pwm := ⟨64, 128, 204, 255⟩
        cpu_pwm := ⟨64, 128, 204, 255⟩ }
    else if config.profile = "stock-4800s" then
      { config with
        cpu := ⟨50, 55, 75, 80, 90⟩
        hdd := ⟨40, 45, 50, 55, 70⟩
        ssd := ⟨45, 50, 60, 65, 70⟩
        system_pwm := ⟨64, 128, 204, 255⟩
        cpu_pwm := ⟨64, 128, 204, 255⟩ }
    else if config.profile = "stock-4800plus" then
      { config with
        cpu := ⟨42, 50, 70, 78, 90⟩
        hdd := ⟨30, 40, 46, 52, 55⟩
        ssd := ⟨50, 55, 60, 65, 70⟩
        system_pwm := ⟨65, 125, 200, 235⟩
        cpu_pwm := ⟨60, 125, 205, 230⟩
        system_cpu_floor_enabled := true
        system_cpu_floor_start_celsius := 65
        system_cpu_floor_end_celsius := 90
        system_cpu_floor_start_pwm := 100
        system_cpu_floor_end_pwm := 205 }
    else if config.profile = "stock-480tplus" then
      -- the five zero points stand, and are not evaluated
      { config with
        cpu := ⟨25, 55, 75, 85, 95⟩
        hdd := ⟨0, 0, 0, 0, 0⟩
        hdd_curve_enabled := false
        ssd := ⟨40, 50, 60, 70, 80⟩
        system_pwm := ⟨55, 90, 110, 128⟩
        cpu_pwm := ⟨70, 130, 150, 200⟩ }
    else if config.profile = "stock-6800pro" || config.profile = "stock-6800plus" ||
        config.profile = "stock-6800" then
      { config with
        cpu := ⟨25, 38, 55, 75, 90⟩
        hdd := ⟨30, 35, 43, 48, 55⟩
        ssd := ⟨45, 50, 60, 65, 70⟩
        system_pwm := ⟨64, 130, 210, 230⟩
        cpu_pwm := ⟨80, 130, 210, 230⟩
        system_cpu_floor_enabled := true
        system_cpu_floor_start_celsius := 65
        system_cpu_floor_end_celsius := 90
        system_cpu_floor_start_pwm := 125
        system_cpu_floor_end_pwm := 220 }
    else
      config
  { config with pwm := config.system_pwm }

/-! ## The file -/

/-- The size of `line`. -/
def LINE_SIZE : Nat := 256

/-- What is made of the configuration once every line is read. -/
def finish_config (config : CurveConfig) : Except CurveError CurveConfig := do
  if !profile_is_valid config.profile then
    .error ⟨.EINVAL, "unsupported fan curve profile"⟩
  else
    let config :=
      if config.profile = "custom" then
        { config with system_pwm := config.pwm, cpu_pwm := config.pwm }
      else
        apply_stock_profile config
    validate_config config
    return config

/-- `ugreenctl_fan_curve_load_config`, where the file can be opened. -/
def load_file (file : File) : Except CurveError CurveConfig := do
  let lines := (fgets_lines LINE_SIZE file.error [] file.bytes).map Prod.fst
  let config ← lines.foldlM config_line config_defaults
  finish_config config

/-- `ugreenctl_fan_curve_load_config` -/
def load_config (stream : Except Errno File) : Except CurveError CurveConfig :=
  match stream with
  | .error errno => .error ⟨errno, "cannot open fan curve configuration"⟩
  | .ok file => load_file file

@[simp] theorem load_config_ok (file : File) : load_config (.ok file) = load_file file := rfl

/-! ## All lines -/

/-- The assignments of some lines, or what is wrong with the first bad one. -/
def read_lines : List Text → Except CurveError (List Assignment)
  | [] => .ok []
  | line :: rest => do
    let assignment ← read_line line
    let assignments ← read_lines rest
    return assignment.toList ++ assignments

/-- The lines that `fgets` delivers of a file. -/
def config_lines (file : File) : List Text :=
  (fgets_lines LINE_SIZE file.error [] file.bytes).map Prod.fst

theorem read_lines_append (lines more : List Text) :
    read_lines (lines ++ more) = (read_lines lines).bind fun assignments =>
      (read_lines more).map fun others => assignments ++ others := by
  induction lines with
  | nil =>
    rw [List.nil_append]
    cases read_lines more <;> rfl
  | cons line rest ih =>
    rw [List.cons_append, read_lines, read_lines, ih]
    cases read_line line with
    | error e => rfl
    | ok assignment =>
      cases read_lines rest with
      | error e => rfl
      | ok assignments =>
        cases read_lines more with
        | error e => rfl
        | ok others => simp [Bind.bind, Except.bind, Except.map, Pure.pure, Except.pure]

theorem read_lines_nil_iff {lines : List Text} :
    read_lines lines = .ok [] ↔ ∀ line ∈ lines, read_line line = .ok none := by
  induction lines with
  | nil => simp [read_lines]
  | cons line rest ih =>
    rw [read_lines, List.forall_mem_cons, ← ih]
    cases read_line line with
    | error e => simp [Bind.bind, Except.bind]
    | ok assignment =>
      cases read_lines rest with
      | error e => simp [Bind.bind, Except.bind]
      | ok assignments =>
        cases assignment <;> simp [Bind.bind, Except.bind, Pure.pure, Except.pure]

/-- The loop over the lines makes their assignments, in order. -/
theorem foldlM_config_line (lines : List Text) (config : CurveConfig) :
    lines.foldlM config_line config =
      (read_lines lines).map fun assignments => settings.write assignments config := by
  induction lines generalizing config with
  | nil => rfl
  | cons line rest ih =>
    rw [List.foldlM_cons, read_lines]
    unfold config_line
    cases hline : read_line line with
    | error e => rfl
    | ok assignment =>
      have hrest := ih (match assignment with
        | none => config
        | some ⟨s, value⟩ => s.set value config)
      cases assignment with
      | none =>
        refine hrest.trans ?_
        cases read_lines rest <;> rfl
      | some w =>
        refine hrest.trans ?_
        cases read_lines rest <;> rfl

theorem load_file_eq (file : File) :
    load_file file = (read_lines (config_lines file)).bind fun assignments =>
      finish_config (settings.write assignments config_defaults) := by
  unfold load_file
  dsimp only
  rw [foldlM_config_line]
  unfold config_lines
  cases read_lines _ <;> rfl

/-- A file that is loaded had no bad line. -/
theorem load_file_ok {file : File} {config : CurveConfig} (h : load_file file = .ok config) :
    ∃ assignments, read_lines (config_lines file) = .ok assignments ∧
      finish_config (settings.write assignments config_defaults) = .ok config := by
  rw [load_file_eq] at h
  cases hlines : read_lines (config_lines file) with
  | error e =>
    rw [hlines] at h
    cases h
  | ok assignments =>
    rw [hlines] at h
    exact ⟨assignments, rfl, h⟩

/-! ## The last step -/

theorem apply_stock_profile_kept (config : CurveConfig) :
    (apply_stock_profile config).profile = config.profile ∧
      (apply_stock_profile config).interval_seconds = config.interval_seconds ∧
      (apply_stock_profile config).downshift_delay_seconds = config.downshift_delay_seconds ∧
      (apply_stock_profile config).failsafe_pwm = config.failsafe_pwm ∧
      (apply_stock_profile config).require_storage_sensor = config.require_storage_sensor ∧
      (apply_stock_profile config).allow_unvalidated_writes = config.allow_unvalidated_writes := by
  unfold apply_stock_profile
  dsimp only
  repeat' split
  all_goals exact ⟨rfl, rfl, rfl, rfl, rfl, rfl⟩

/-- A stock profile leaves the other settings alone. -/
theorem apply_stock_profile_get {s : Setting} (hs : s.replaced = false) (config : CurveConfig) :
    s.get (apply_stock_profile config) = s.get config := by
  obtain ⟨hprofile, hinterval, hdelay, hfailsafe, hsensor, hwrites⟩ := apply_stock_profile_kept config
  cases s <;> first | assumption | cases hs

theorem finish_config_ok {config out : CurveConfig} (h : finish_config config = .ok out) :
    profile_is_valid config.profile = true ∧ validate_config out = .ok () ∧
      out = if config.profile = "custom" then
        { config with system_pwm := config.pwm, cpu_pwm := config.pwm }
      else
        apply_stock_profile config := by
  unfold finish_config at h
  split at h
  · cases h
  · next hprofile =>
    dsimp only at h
    generalize hmade : (if config.profile = "custom" then
      { config with system_pwm := config.pwm, cpu_pwm := config.pwm }
      else apply_stock_profile config) = made at *
    cases hvalid : validate_config made with
    | error e =>
      rw [hvalid] at h
      cases h
    | ok u =>
      rw [hvalid] at h
      cases h
      exact ⟨by simpa using hprofile, hvalid, rfl⟩

end UgreenNas.Fan
