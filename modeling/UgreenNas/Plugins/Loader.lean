import UgreenNas.Disk.Sysfs
import UgreenNas.Effect.Proc
import UgreenNas.Fan.Curve
import UgreenNas.Fan.DirectRead
import UgreenNas.Network.Wol
import UgreenNas.SuperIo.StartupPolicy

/-! # The model plugins (`core/loader.c`)

    A plugin is a shared object with an entry point for one version of the
    interface.  What a version added to `struct ugreenctl_plugin` stands behind
    what there was before, and is only there in plugins of that version.
-/

namespace UgreenNas.Plugins

open DiskMap Effect Effect.Proc
open Fan (ThermalSnapshot)
open Fan.It8613 (FanStatus)
open Network (WolPolicy)
open SuperIo (StartupPolicy)

/-! ## Plugins -/

def ABI_V2 : Nat := 2
def ABI_V3 : Nat := 3
def ABI_V4 : Nat := 4
def ABI_V5 : Nat := 5

def MAX_PLUGINS : Nat := 32

/-- Which of the functions added in version 4 there are. -/
structure FieldsV4 where
  read_fans : Bool
  read_startup_policy : Bool
  controller_name : Option Text

/-- Those added in version 5. -/
structure FieldsV5 where
  read_wol_policy : Bool

/-- `struct ugreenctl_plugin`, as far as the program reads it: `none` is a
    null pointer, or fields that the object does not have. -/
structure PluginData where
  abi_version : Nat
  id : Option Text
  display_name : Option Text
  dmi_product_names : Option (List Text)
  capabilities : UInt32
  read_status : Bool
  set_fan_pwm : Bool
  set_startup_policy : Bool
  v4 : Option FieldsV4
  v5 : Option FieldsV5

/-- One that has been accepted. -/
structure Plugin extends PluginData where
  name : Text
  title : Text
  known : id = some name ∧ display_name = some title

/-- `ugreenctl_plugin_entrypoint`, of an expected version. -/
def accepted (found : Option PluginData) (expected_abi : Nat) : Option Plugin :=
  match found with
  | none => none
  | some found =>
    if found.abi_version ≠ expected_abi then none
    else
      match hid : found.id, hname : found.display_name with
      | some name, some title => some { found with name, title, known := ⟨hid, hname⟩ }
      | _, _ => none

/-! ## Accesses -/

/-- A handle of `dlopen`. -/
structure Handle where
  number : Nat
  deriving DecidableEq

/-- The functions of a plugin that are called, with `request.force`. -/
inductive PluginCall where
  | read_status (force : Bool)
  | read_fans (force : Bool)
  | read_startup_policy (force : Bool)
  | read_wol_policy (force : Bool)
  | set_fan_pwm (force : Bool) (fan_id : Text) (pwm : UInt8)
  | set_startup_policy (force : Bool) (policy : StartupPolicy)

/-- What a function returns where it fails, and what it says. -/
structure PluginError where
  result : Int
  error : Text

/-- `struct ugreenctl_status`, as far as it is read. -/
structure Status where
  startup_policy : StartupPolicy
  fans : List FanStatus

@[reducible] def PluginCall.Ans : PluginCall → Type
  | .read_status _ => Except PluginError Status
  | .read_fans _ => Except PluginError (List FanStatus)
  | .read_startup_policy _ => Except PluginError StartupPolicy
  | .read_wol_policy _ => Except PluginError WolPolicy
  | .set_fan_pwm _ _ _ => Except PluginError Unit
  | .set_startup_policy _ _ => Except PluginError Unit

inductive CoreOp where
  /-- `opendir`, and the names that `readdir` delivers, or an error number. -/
  | opendir (directory : Text)
  | closedir
  | dlopen (path : Text)
  | dlsym (handle : Handle) (symbol : Text)
  /-- The entry point of a version is called. -/
  | entrypoint (handle : Handle) (version : Nat)
  | dlclose (handle : Handle)
  /-- The DMI product name is opened. -/
  | dmi
  | call (handle : Handle) (c : PluginCall)
  /-- `ugreenctl_read_thermal_snapshot` -/
  | thermal

@[reducible] def CoreOp.Ans : CoreOp → Type
  | .opendir _ => Except Nat (List Text)
  | .closedir => Unit
  | .dlopen _ => Option Handle
  | .dlsym _ _ => Bool
  | .entrypoint _ _ => Option PluginData
  | .dlclose _ => Unit
  | .dmi => Option File
  | .call _ c => c.Ans
  | .thermal => Except PluginError ThermalSnapshot

abbrev core_io : Sig := ⟨CoreOp, CoreOp.Ans⟩

/-- Why a command stops. -/
inductive Stop where
  /-- What is said on `stderr`, one text a line. -/
  | failed (lines : List Text)
  /-- A field was read that the object does not have. -/
  | fault
  deriving DecidableEq

abbrev Core (α : Type) : Type := Proc core_io Unit Stop α

def core (o : CoreOp) : Core o.Ans := @ask core_io Unit Stop o

/-! ## Loading -/

/-- `struct ugreenctl_loaded_plugin` -/
structure LoadedPlugin where
  handle : Handle
  plugin : Plugin

def has_shared_object_suffix (name : Text) : Bool :=
  name.length > 3 && name.drop (name.length - 3) = ".so".toList

def product_matches (plugin : Plugin) (product_name : Text) : Bool :=
  match plugin.dmi_product_names with
  | none => false
  | some names => names.any fun name => name = product_name

/-- The entry points, the newest one first. -/
def entrypoints : List (Text × Nat) := [
  ("ugreenctl_plugin_v5".toList, ABI_V5), ("ugreenctl_plugin_v4".toList, ABI_V4),
  ("ugreenctl_plugin_v3".toList, ABI_V3), ("ugreenctl_plugin_v2".toList, ABI_V2)]

/-- The version of the first entry point that there is. -/
def find_entrypoint (handle : Handle) : List (Text × Nat) → Core (Option Nat)
  | [] => pure none
  | (symbol, version) :: rest => do
    let found : Bool ← core (.dlsym handle symbol)
    if found then pure (some version) else find_entrypoint handle rest

/-- A shared object that is open, or was given back. -/
def load_entrypoint (handle : Handle) (version : Option Nat) : Core (Option LoadedPlugin) :=
  match version with
  | none => do
    core (.dlclose handle)
    pure none
  | some version => do
    let found : Option PluginData ← core (.entrypoint handle version)
    match accepted found version with
    | none => do
      core (.dlclose handle)
      pure none
    | some plugin => pure (some ⟨handle, plugin⟩)

/-- One shared object; the warnings are left out. -/
def load_plugin (path : Text) : Core (Option LoadedPlugin) := do
  let handle : Option Handle ← core (.dlopen path)
  match handle with
  | none => pure none
  | some handle => do
    let version ← find_entrypoint handle entrypoints
    load_entrypoint handle version

/-- `ugreenctl_plugins_close` -/
def plugins_close : List LoadedPlugin → Core Unit
  | [] => pure ()
  | item :: rest => do
    core (.dlclose item.handle)
    plugins_close rest

def plugin_path (directory d_name : Text) : Text := directory ++ "/".toList ++ d_name

/-- The loop over the entries: the plugins, or why there are none. -/
def load_loop (directory : Text) (items : List LoadedPlugin) : List Text →
    Core (Except Text (List LoadedPlugin))
  | [] => do
    core .closedir
    pure (.ok items)
  | d_name :: rest =>
    if has_shared_object_suffix d_name then
      if items.length = MAX_PLUGINS then do
        core .closedir
        plugins_close items
        pure (.error "too many model plugins".toList)
      else if (plugin_path directory d_name).length ≥ PATH_MAX then do
        core .closedir
        plugins_close items
        pure (.error "model plugin path is too long".toList)
      else do
        let item ← load_plugin (plugin_path directory d_name)
        load_loop directory (items ++ item.toList) rest
    else
      load_loop directory items rest

/-- `ugreenctl_plugins_open` -/
def plugins_open (strerror : Nat → Text) (directory : Text) :
    Core (Except Text (List LoadedPlugin)) := do
  let entries : Except Nat (List Text) ← core (.opendir directory)
  match entries with
  | .error e =>
    pure (.error (snprintf 256 ("cannot open model directory '".toList ++ directory ++ "': ".toList ++
      strerror e)))
  | .ok entries => do
    let items ← load_loop directory [] entries
    match items with
    | .error e => pure (.error e)
    | .ok [] =>
      pure (.error (snprintf 256 ("no usable .so plugins found in '".toList ++ directory ++ "'".toList)))
    | .ok items => pure (.ok items)

/-- `ugreenctl_find_plugin` -/
def find_plugin (items : List LoadedPlugin) (id : Text) : Option LoadedPlugin :=
  items.find? fun item => item.plugin.name = id

/-- `ugreenctl_match_product` -/
def match_product (items : List LoadedPlugin) (product_name : Text) : Option LoadedPlugin :=
  items.find? fun item => product_matches item.plugin product_name

/-- The product name in the first line of its file. -/
def product_of (file : File) : Option Text :=
  match fgets_lines 256 file.error [] file.bytes with
  | [] => none
  | (line, _) :: _ =>
    let product_name := (c_string line).takeWhile fun c => c ≠ '\r' ∧ c ≠ '\n'
    if product_name = [] then none else some product_name

/-- `ugreenctl_read_dmi_product`; what its failures return makes no
    difference. -/
def read_dmi_product : Core (Option Text) := do
  let file : Option File ← core .dmi
  pure (file.bind product_of)

end UgreenNas.Plugins
