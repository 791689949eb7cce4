import UgreenNas.Effect.Finally
import UgreenNas.Led.Profiles
import UgreenNas.Plugins.Loader
import UgreenNas.Power.RtcWake

/-! # The commands of the plugins (`core/main.c`)

    What is neither a wake command nor one for LEDs and disks is done by the
    plugin of the machine.
-/

namespace UgreenNas.Plugins

open DiskMap Effect Effect.Proc
open Fan (ThermalSnapshot)
open Fan.It8613 (FanStatus)
open Network (WolPolicy)
open SuperIo (StartupPolicy)

/-! ## Arguments -/

structure CliOptions where
  model_directory : Text := "/usr/lib/ugreenctl/models".toList
  model_id : Option Text := none
  force : Bool := false
  apply : Bool := false

inductive Arguments where
  | help
  | version
  | unknown (option : Text)
  | missing
  | command (options : CliOptions) (args : List Text)

/-- The loop over the options. -/
def parse_options (options : CliOptions) : List Text → Arguments
  | [] => .missing
  | arg :: rest =>
    if "--".toList.isPrefixOf arg then
      if arg = "--help".toList then .help
      else if arg = "--version".toList then .version
      else if arg = "--force".toList then parse_options { options with force := true } rest
      else if arg = "--apply".toList then parse_options { options with apply := true } rest
      else if arg = "--model".toList ∨ arg = "--plugin-dir".toList then
        match rest with
        | [] => .unknown arg
        | value :: rest =>
          if arg = "--model".toList then parse_options { options with model_id := some value } rest
          else parse_options { options with model_directory := value } rest
      else
        .unknown arg
    else
      .command options (arg :: rest)

inductive CliCommand where
  | models
  | thermal_status
  | info
  | fan_status
  | fan_set (fan_id value : Text)
  | startup_get
  | startup_set (value : Text)
  | led_list
  | invalid

def cli_command (args : List Text) : CliCommand :=
  if args = ["models".toList] then .models
  else if args = ["thermal".toList, "status".toList] then .thermal_status
  else if args = ["info".toList] then .info
  else if args = ["fan".toList, "status".toList] then .fan_status
  else if args = ["power".toList, "startup".toList, "get".toList] then .startup_get
  else if args = ["led".toList, "list".toList] then .led_list
  else
    match args with
    | [first, second, third, fourth] =>
      if first = "fan".toList ∧ second = "set".toList then
        .fan_set third fourth
      else if first = "power".toList ∧ second = "startup".toList ∧ third = "set".toList then
        .startup_set fourth
      else
        .invalid
    | _ => .invalid

def parse_pwm (text : Text) : Option UInt8 :=
  let (value, out_of_range, behind) := Power.strtoll text
  if out_of_range ∨ text = [] ∨ behind ≠ [] ∨ value < 0 ∨ value > 255 then none
  else some (.ofNat value.toNat)

def parse_startup_policy (text : Text) : StartupPolicy :=
  if text = "on".toList then .on
  else if text = "off".toList then .off
  else if text = "restore".toList ∨ text = "last".toList then .restore
  else .unknown

/-! ## Texts -/

/-- What is printed, a text a line. -/
structure Printed where
  out : List Text
  err : List Text := []

def startup_policy_name : StartupPolicy → Text
  | .on => "on".toList
  | .off => "off".toList
  | .restore => "restore".toList
  | .unknown => "unknown".toList

def wol_policy_name : WolPolicy → Text
  | .on => "on".toList
  | .off => "off".toList
  | .unknown => "unknown".toList

def CAP_FAN : UInt32 := 1
def CAP_LED : UInt32 := 2
def CAP_POWER : UInt32 := 4
def CAP_WOL : UInt32 := 8

def print_capabilities (capabilities : UInt32) : Text :=
  let names := [(CAP_FAN, "fan"), (CAP_LED, "led"), (CAP_POWER, "power"), (CAP_WOL, "wol")].filter
    fun name => capabilities &&& name.1 ≠ 0
  if names.isEmpty then "none (profile only)".toList
  else ", ".toList.intercalate (names.map fun name => name.2.toList)

def print_fan_status (fan : FanStatus) : Text :=
  fan.id.toList ++ ":".toList ++
    (if fan.pwm_known then " pwm=".toList ++ decimal fan.pwm.toNat else " pwm=unknown".toList) ++
    (if fan.mode_known then if fan.manual then " mode=manual".toList else " mode=auto".toList
      else " mode=unknown".toList) ++
    " tach=".toList ++ decimal fan.tachometer.toNat ++ " rpm=".toList ++ decimal fan.rpm

def print_status (controller : Text) (startup_policy : StartupPolicy) (wol_policy : WolPolicy)
    (fans : List FanStatus) : List Text :=
  ["controller: ".toList ++ controller, "startup: ".toList ++ startup_policy_name startup_policy,
    "wol: ".toList ++ wol_policy_name wol_policy] ++
    fans.map fun fan => "fan ".toList ++ print_fan_status fan

def print_thermal_snapshot (snapshot : ThermalSnapshot) : Text :=
  "cpu_celsius=".toList ++ Power.lld snapshot.cpu_celsius ++
    " cpu_peak_celsius=".toList ++ Power.lld snapshot.cpu_peak_celsius ++
    " hdd_celsius=".toList ++ Power.lld snapshot.hdd_celsius ++
    " ssd_celsius=".toList ++ Power.lld snapshot.ssd_celsius

/-- `%-Ns` -/
def pad (n : Nat) (text : Text) : Text := text ++ List.replicate (n - text.length) ' '

/-- The LED profiles of the products of a plugin. -/
def print_led_profiles (plugin : Plugin) : Text :=
  Led.profiles.flatMap fun profile =>
    if product_matches plugin profile.product_name.toList then
      "; led-profile=".toList ++ profile.id.toList ++ " (experimental".toList ++
        (if profile.product_version.isSome then ", revision restricted".toList else []) ++ ")".toList
    else
      []

def print_model (plugin : Plugin) : Text :=
  pad 14 plugin.name ++ " ".toList ++ pad 36 plugin.title ++ " ".toList ++
    print_capabilities plugin.capabilities ++ print_led_profiles plugin

/-- `report_plugin_error` -/
def report_plugin_error (strerror : Nat → Text) (action : Text) (e : PluginError) : Text :=
  if e.error ≠ [] then "error: ".toList ++ action ++ ": ".toList ++ e.error
  else if e.result < 0 then "error: ".toList ++ action ++ ": ".toList ++ strerror e.result.natAbs
  else "error: ".toList ++ action ++ " failed".toList

/-- A warning of `info`. -/
def unavailable (strerror : Nat → Text) (what : Text) : {α : Type} → Except PluginError α → List Text
  | _, .ok _ => []
  | _, .error e =>
    ["warning: ".toList ++ what ++ " unavailable: ".toList ++
      if e.error ≠ [] then e.error else strerror e.result.natAbs]

/-! ## The plugin of the machine -/

/-- Fields of a version are read. -/
def fields {α : Type} (found : Option α) : Core α :=
  match found with
  | some found => pure found
  | none => fail .fault

def failed {α : Type} (line : Text) : Core α := fail (.failed [line])

def choose_plugin (items : List LoadedPlugin) (options : CliOptions) : Core LoadedPlugin := do
  let product ← read_dmi_product
  match options.model_id with
  | some id =>
    match find_plugin items id with
    | none => failed ("error: model plugin '".toList ++ id ++ "' was not found".toList)
    | some item =>
      match product with
      | none =>
        failed ("error: cannot verify the exact DMI product name for model '".toList ++
          item.plugin.name ++ "'".toList)
      | some product_name =>
        if product_matches item.plugin product_name then pure item
        else
          failed ("error: selected model '".toList ++ item.plugin.name ++
            "' does not match DMI product '".toList ++ product_name ++
            "'; hardware writes require an exact DMI match".toList)
  | none =>
    match product with
    | none =>
      failed "error: cannot determine the exact DMI product name; hardware access is disabled".toList
    | some product_name =>
      match match_product items product_name with
      | some item => pure item
      | none =>
        failed ("error: no plugin matches DMI product '".toList ++ product_name ++
          "'; run 'ugreenctl models'".toList)

def plugin_controller_name (plugin : Plugin) : Core Text := do
  if plugin.abi_version ≥ ABI_V4 then do
    let v4 ← fields plugin.v4
    match v4.controller_name with
    | none | some [] => pure "model-defined controller".toList
    | some controller_name => pure controller_name
  else
    pure "model-defined controller".toList

def ENOTSUP : Int := 95

def not_available (what : Text) (plugin : Plugin) : PluginError :=
  ⟨-ENOTSUP, snprintf 256 (what ++ " is not available for ".toList ++ plugin.name)⟩

/-- A function of version 4, if there is one. -/
def has_v4 (plugin : Plugin) (function : FieldsV4 → Bool) : Core Bool :=
  if plugin.abi_version ≥ ABI_V4 then do
    let v4 ← fields plugin.v4
    pure (function v4)
  else
    pure false

def plugin_read_fans (item : LoadedPlugin) (force : Bool) :
    Core (Except PluginError (List FanStatus)) := do
  let separate ← has_v4 item.plugin FieldsV4.read_fans
  if separate then
    core (.call item.handle (.read_fans force))
  else if item.plugin.read_status then do
    let status : Except PluginError Status ← core (.call item.handle (.read_status force))
    pure (status.map Status.fans)
  else
    pure (.error (not_available "fan status".toList item.plugin))

def plugin_read_startup_policy (item : LoadedPlugin) (force : Bool) :
    Core (Except PluginError StartupPolicy) := do
  let separate ← has_v4 item.plugin FieldsV4.read_startup_policy
  if separate then
    core (.call item.handle (.read_startup_policy force))
  else if item.plugin.read_status then do
    let status : Except PluginError Status ← core (.call item.handle (.read_status force))
    pure (status.map Status.startup_policy)
  else
    pure (.error (not_available "startup policy".toList item.plugin))

def has_v5 (plugin : Plugin) : Core Bool :=
  if plugin.abi_version ≥ ABI_V5 then do
    let v5 ← fields plugin.v5
    pure v5.read_wol_policy
  else
    pure false

def plugin_read_wol_policy (item : LoadedPlugin) (force : Bool) :
    Core (Except PluginError WolPolicy) := do
  let there ← has_v5 item.plugin
  if there then
    core (.call item.handle (.read_wol_policy force))
  else
    pure (.error (not_available "Wake-on-LAN".toList item.plugin))

/-! ## Commands -/

/-- A result is printed, or its failure. -/
def print_result {α : Type} (strerror : Nat → Text) (action : Text) (r : Except PluginError α)
    (out : α → List Text) : Core Printed :=
  match r with
  | .ok a => pure { out := out a }
  | .error e => failed (report_plugin_error strerror action e)

/-- `require_apply` around a write: without `--apply` nothing is done. -/
def require_apply (options : CliOptions) (description : Text) (write : Core Printed) : Core Printed :=
  if options.apply then
    write
  else
    pure { out := ["dry-run: would ".toList ++ description,
                   "rerun with --apply to write hardware state".toList] }

def info (strerror : Nat → Text) (item : LoadedPlugin) (force : Bool) : Core Printed := do
  let controller ← plugin_controller_name item.plugin
  let fans ← plugin_read_fans item force
  let startup ← plugin_read_startup_policy item force
  let wol ← plugin_read_wol_policy item force
  match fans, startup with
  | .error fan_error, .error startup_error =>
    fail (.failed [report_plugin_error strerror "read fan status".toList fan_error,
      report_plugin_error strerror "read startup policy".toList startup_error])
  | _, _ =>
    pure {
      out := ("model: ".toList ++ item.plugin.name ++ " (".toList ++ item.plugin.title ++ ")".toList) ::
        print_status (snprintf 32 controller) (startup.toOption.getD .unknown)
          (wol.toOption.getD .unknown) (fans.toOption.getD [])
      err := unavailable strerror "fan status".toList fans ++
        unavailable strerror "startup policy".toList startup ++
        unavailable strerror "Wake-on-LAN".toList wol }

def fan_set (strerror : Nat → Text) (item : LoadedPlugin) (options : CliOptions) (fan_id value : Text) :
    Core Printed :=
  match parse_pwm value, item.plugin.set_fan_pwm with
  | some pwm, true =>
    require_apply options "set the fan PWM".toList do
      let r : Except PluginError Unit ← core (.call item.handle (.set_fan_pwm options.force fan_id pwm))
      print_result strerror "set fan PWM".toList r fun _ =>
        [fan_id ++ " fan PWM set to ".toList ++ decimal pwm.toNat]
  | _, _ => failed ("error: fan control is not available for ".toList ++ item.plugin.name)

def startup_set (strerror : Nat → Text) (item : LoadedPlugin) (options : CliOptions) (value : Text) :
    Core Printed :=
  if parse_startup_policy value = .unknown ∨ item.plugin.set_startup_policy = false then
    failed "error: use startup policy on, off, or restore".toList
  else
    require_apply options "change the AC recovery startup policy".toList do
      let r : Except PluginError Unit ←
        core (.call item.handle (.set_startup_policy options.force (parse_startup_policy value)))
      print_result strerror "set startup policy".toList r fun _ =>
        ["startup policy set to ".toList ++ startup_policy_name (parse_startup_policy value)]

/-- What a command does with the plugin of the machine. -/
def run_command (strerror : Nat → Text) (item : LoadedPlugin) (options : CliOptions) :
    CliCommand → Core Printed
  | .thermal_status => do
    let r : Except PluginError ThermalSnapshot ← core .thermal
    print_result strerror "read thermal snapshot".toList r fun snapshot =>
      [print_thermal_snapshot snapshot]
  | .info => info strerror item options.force
  | .fan_status => do
    let r ← plugin_read_fans item options.force
    print_result strerror "read fan status".toList r fun fans => fans.map print_fan_status
  | .fan_set fan_id value => fan_set strerror item options fan_id value
  | .startup_get => do
    let r ← plugin_read_startup_policy item options.force
    print_result strerror "read startup policy".toList r fun policy => [startup_policy_name policy]
  | .startup_set value => startup_set strerror item options value
  | .led_list => failed ("error: LED control is not verified for ".toList ++ item.plugin.name)
  | .models | .invalid => failed "error: invalid command".toList

/-- What is done while the plugins are loaded. -/
def with_plugins (strerror : Nat → Text) (items : List LoadedPlugin) (options : CliOptions)
    (command : CliCommand) : Core Printed :=
  match command with
  | .models => pure { out := items.map fun item => print_model item.plugin }
  | command => do
    let item ← choose_plugin items options
    run_command strerror item options command

/-- `main`, behind `ugreenctl_wake_cli` and `ugreenctl_hardware_cli`; `argv` is
    without the name of the program, and the usage is left out. -/
def main (strerror : Nat → Text) (argv : List Text) : Core Printed :=
  match parse_options {} argv with
  | .help => pure { out := [] }
  | .version => pure { out := ["0.3.0".toList] }
  | .unknown option => failed ("error: unknown or incomplete option '".toList ++ option ++ "'".toList)
  | .missing => fail (.failed [])
  | .command options args => do
    let items ← plugins_open strerror options.model_directory
    match items with
    | .error e => failed ("error: load model plugins: ".toList ++ e)
    | .ok items => always (with_plugins strerror items options (cli_command args)) (plugins_close items)

end UgreenNas.Plugins
