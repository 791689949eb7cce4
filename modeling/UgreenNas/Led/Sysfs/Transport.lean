import UgreenNas.Disk.Text
import UgreenNas.Effect.Proc
import UgreenNas.Led.Profiles

/-! # The sysfs transport (`led/led_sysfs.c`, `led/led_protocol.c`)

    The LEDs that a kernel driver serves as class devices: `read`,
    `preflight` and `apply` of an open transport.  Each access to an attribute
    first looks whether the class device is still that of the driver.
-/

namespace UgreenNas.Led

open DiskMap (Text)

/-! ## What the profiles say of sysfs -/

/-- `sysfs_name` of an LED. -/
def Descriptor.sysfs_name (led : Descriptor) : String :=
  if led.name = "netdev" then "network_stat"
  else if led.name = "netdev2" then "network_stat2"
  else led.name

/-- `sysfs_driver` of a profile. -/
def Model.sysfs_driver (model : Model) : String :=
  if model.protocol = "sysfs-gpio" then "ug_gpio_leds"
  else if model.id = "dh2600-n76" then "leds_mcu_n76e003_dh2600"
  else "leds_mcu_n76e003"

namespace Sysfs

open DiskMap Effect Effect.Proc

/-! ## The machine -/

/-- The accesses of an open transport. -/
inductive SysfsOp where
  /-- `context->authorize(...)` -/
  | authorize
  | realpath (path : Text)
  /-- Up to `count` bytes of an attribute: its directory and name. -/
  | read_file (directory name : Text) (count : Nat)
  /-- The bytes of an attribute that were written. -/
  | write_file (directory name text : Text)
  | nanosleep

@[reducible] def SysfsOp.Ans : SysfsOp → Type
  | .authorize => Except Failure Unit
  | .realpath _ => Except Errno Text
  | .read_file _ _ _ => Except Errno Text
  | .write_file _ _ _ => Except Errno Nat
  | .nanosleep => Unit

abbrev sysfs_io : Sig := ⟨SysfsOp, SysfsOp.Ans⟩

/-- `struct ugreenctl_led_sysfs`, what does not change. -/
structure Context where
  profile : Model
  root : Text
  strerror : Errno → String

/-- `directory` of the context, by the index of an LED: empty until the LED
    has been verified. -/
abbrev Directories : Type := Nat → Text

abbrev Io (α : Type) : Type := Proc sysfs_io Directories Errno α

abbrev Fun (α : Type) : Type := Proc sysfs_io Directories Failure α

def io {ε : Type} (o : SysfsOp) : Proc sysfs_io Directories ε o.Ans :=
  @ask sysfs_io Directories ε o

/-! ## Attributes -/

def trim_end (text : Text) : Text := (text.reverse.dropWhile isspace).reverse

/-- The text of an attribute of which `read` gave `r`. -/
def text_of (capacity : Nat) (r : Except Errno Text) : Except Errno Text := do
  let value ← r
  if value.length ≥ capacity - 1 then throw Errno.EOVERFLOW
  else pure (c_string (trim_end value))

def number_of (r : Except Errno Text) : Except Errno Nat := do
  let text ← text_of 64 r
  match parse_number text with
  | some n => pure n
  | none => throw Errno.EBADMSG

def read_text (directory name : Text) (capacity : Nat) : Io Text := do
  let r : Except Errno Text ← io (.read_file directory name (capacity - 1))
  lift (text_of capacity r)

def read_number (directory name : Text) : Io Nat := do
  let r : Except Errno Text ← io (.read_file directory name 63)
  lift (number_of r)

def write_text (directory name text : Text) : Io Unit := do
  let r : Except Errno Nat ← io (.write_file directory name text)
  let count ← lift r
  bail (count ≠ text.length) Errno.EIO

/-! ## The binding of an LED -/

def base_name (path : Text) : Text :=
  match strrchr path '/' with
  | some (_, behind) => behind
  | none => path

/-- Names of modules are compared with `-` as `_`. -/
def module_matches (actual expected : Text) : Bool :=
  let name := fun text : Text => text.map fun c => if c = '-' then '_' else c
  name actual = name expected

def Context.gpio (k : Context) : Bool := k.profile.protocol = "sysfs-gpio"

def Context.n76 (k : Context) : Bool := k.profile.protocol = "sysfs-n76"

/-- `target_index` -/
def Context.target_index (k : Context) (id : Nat) : Option Nat :=
  k.profile.leds.findIdx? fun target => target.id = id

def unbound (k : Context) (target : Target) : Failure :=
  failure .ENOTSUP s!"LED {target.name} is not bound to expected driver {k.profile.sysfs_driver}"

/-- The module of the driver, or the driver where it is built in. -/
def verify_binding (k : Context) (target : Target) (resolved : Text) : Fun Unit := do
  let link := snprintf PATH_MAX (resolved ++ ("/device/driver/module" : Text))
  let binding : Except Errno Text ← io (.realpath link)
  match binding with
  | .ok binding =>
    bail (¬ (snprintf PATH_MAX (k.root ++ ("/module/" : Text))).isPrefixOf binding ∨
        ¬ module_matches (base_name binding) k.profile.sysfs_driver.toList)
      (failure .ENOTSUP s!"LED {target.name} has an unexpected driver module binding")
  | .error e => do
    bail (e ≠ Errno.ENOENT ∨ ¬ k.gpio) (unbound k target)
    let driver : Except Errno Text ←
      io (.realpath (snprintf PATH_MAX (resolved ++ ("/device/driver" : Text))))
    match driver with
    | .ok driver =>
      bail (¬ module_matches (base_name driver) k.profile.sysfs_driver.toList) (unbound k target)
    | .error _ => fail (unbound k target)

/-- The maximum that the driver of an LED has. -/
def maximum_matches (k : Context) (target : Target) (maximum : Nat) : Bool :=
  if k.gpio then maximum = 1 || maximum = 255
  else if k.profile.product_name = "DH2600" then maximum = 254
  else maximum = target.max_brightness.toNat

def verify_target (k : Context) (index : Nat) (target : Target) : Fun Unit := do
  let link := k.root ++ "/class/leds/".toList ++ target.sysfs_name.toList
  let absent := failure .ENOTSUP
    s!"expected LED class node {target.sysfs_name} is absent; the required hardware driver is unavailable"
  bail ('/' ∈ target.sysfs_name.toList) (failure .EINVAL "invalid LED sysfs descriptor")
  bail (link.length ≥ PATH_MAX) absent
  let resolved : Except Errno Text ← io (.realpath link)
  let resolved ← lift (resolved.mapError fun _ => absent)
  bail (¬ k.root.isPrefixOf resolved ∨
      ¬ ("/devices/" : Text).isPrefixOf (resolved.drop k.root.length))
    (failure .EPERM "LED class node escaped the real sysfs device tree")
  let directory ← ctx
  bail (directory index ≠ [] ∧ directory index ≠ resolved)
    (failure .EBUSY "LED device binding changed during the operation")
  verify_binding k target resolved
  let mismatch := failure .ENOTSUP
    s!"LED {target.name} brightness range does not match the verified driver"
  let maximum ← mapError (read_number resolved "max_brightness") fun _ => mismatch
  bail (¬ maximum_matches k target maximum) mismatch
  update fun directory => Function.update directory index resolved

/-- The directory of an LED that has been verified. -/
def node (index : Nat) : Fun Text := do
  let directory ← ctx
  pure (directory index)

/-- `attribute` -/
def set_attribute (k : Context) (index : Nat) (target : Target) (name text : Text) : Fun Unit := do
  let r : Except Failure Unit ← io .authorize
  lift r
  verify_target k index target
  let directory ← node index
  bail (directory.length + 1 + name.length ≥ PATH_MAX)
    (failure .ENAMETOOLONG "LED attribute path is too long")
  mapError (write_text directory name text) fun e => failure e
    s!"LED {target.name} attribute {String.ofList name} write failed: {k.strerror e}"

def number_attribute (k : Context) (index : Nat) (target : Target) (name : Text) (value : UInt32) :
    Fun Unit :=
  set_attribute k index target name (decimal value.toNat)

/-! ## Reading -/

def MODE_OFF : UInt32 := 0
def MODE_ON : UInt32 := 1

def COLOR_NONE : UInt32 := 0
def COLOR_WHITE : UInt32 := 1
def COLOR_ORANGE : UInt32 := 2
def COLOR_WHITE_ORANGE : UInt32 := 3
def COLOR_RED : UInt32 := 4
def COLOR_CHANNEL1 : UInt32 := 7
def COLOR_CHANNEL2 : UInt32 := 8

/-- The trigger that is active: the one in brackets, if there are any. -/
def active_trigger (trigger : Text) : Option Text :=
  match strchr trigger '[' with
  | none => some trigger
  | some (_, behind) => (strchr behind ']').map fun parts => parts.1

/-- The mode of a trigger, if it is one of those known. -/
def mode_of (active : Text) (core_brightness : UInt32) : Option UInt32 :=
  if active = ("none" : Text) ∨ active = ("normal" : Text) then
    some (if core_brightness ≠ 0 then MODE_ON else MODE_OFF)
  else if active = ("timer" : Text) ∨ active = ("timer2" : Text) then some MODE_BLINK
  else if active = ("breath" : Text) then some MODE_BREATH
  else none

/-- The colour in the `state` of a GPIO LED. -/
def gpio_color (product_name : String) (state : Text) : Option UInt32 :=
  match strstr state (",color:" : Text) with
  | none => none
  | some (_, found) =>
    let selected := found.drop 7
    if selected.head?.any isdigit then
      let (n, _, rest) := strtoul selected 10
      if rest.head? ≠ some ',' ∨ n < 1 ∨ n > 5 then none
      else if n = 1 then some COLOR_WHITE
      else if product_name = "DH2300" then some COLOR_ORANGE
      else some COLOR_RED
    else none

/-- A colour that the driver names. -/
def named_color (color : Text) : Option UInt32 :=
  if color = ("white" : Text) then some COLOR_WHITE
  else if color = ("orange" : Text) then some COLOR_ORANGE
  else if color = ("white + orange" : Text) then some COLOR_WHITE_ORANGE
  else if color = ("None" : Text) ∨ color = ("none" : Text) then some COLOR_NONE
  else none

/-- The colour of an LED, if it is known. -/
def read_color (k : Context) (directory : Text) : Fun (Option UInt32) := do
  let name : Text := if k.gpio then "state".toList else "color".toList
  let color ← attempt (read_text directory name 128)
  match color with
  | .error _ => pure none
  | .ok color =>
    if k.gpio then
      pure (gpio_color k.profile.product_name color)
    else
      match named_color color with
      | some color => pure (some color)
      | none => do
        let number ← attempt (read_number directory name)
        match number with
        | .ok number => pure (if number ≤ 3 then some (UInt32.ofNat number) else none)
        | .error _ => pure none

/-- The durations of an LED, if both can be read; the first one stays where
    the second cannot. -/
def read_timing (directory : Text) : Fun (UInt32 × UInt32 × Bool) := do
  let on_ms ← attempt (read_number directory "delay_on")
  match on_ms with
  | .error _ => pure (0, 0, false)
  | .ok on_ms => do
    let off_ms ← attempt (read_number directory "delay_off")
    match off_ms with
    | .error _ => pure (UInt32.ofNat on_ms, 0, false)
    | .ok off_ms => pure (UInt32.ofNat on_ms, UInt32.ofNat off_ms, true)

/-- The brightness that is configured, which N76 keeps beside that of the
    class device. -/
def read_brightness (k : Context) (target : Target) (directory : Text) (core_brightness : UInt32) :
    Fun UInt32 :=
  if k.n76 ∧ target.max_brightness > 1 then do
    let brightness ← mapError (read_number directory "rbrightness")
      (reported "N76 configured-brightness cache is unavailable")
    bail (brightness > 255) (failure .EBADMSG "N76 configured-brightness cache is unavailable")
    pure (UInt32.ofNat brightness)
  else
    pure core_brightness

/-- The value of the fields that were read; an unknown mode or colour is 0. -/
def value_of (mode : Option UInt32) (brightness : UInt32) (color : Option UInt32)
    (timing : UInt32 × UInt32 × Bool) : Value :=
  { mode := mode.getD MODE_OFF
    brightness := brightness
    color := color.getD COLOR_NONE
    on_ms := timing.1
    off_ms := timing.2.1
    unknown_fields := PATCH_RGB ||| (if color.isNone then PATCH_COLOR else 0) |||
      (if timing.2.2 then 0 else PATCH_TIMING) ||| (if mode.isNone then PATCH_MODE else 0)
    cached_fields := PATCH_MODE ||| PATCH_BRIGHTNESS ||| (if color.isSome then PATCH_COLOR else 0) |||
      (if timing.2.2 then PATCH_TIMING else 0) }

/-- `ugreenctl_led_sysfs_read`, the LED being at `index`. -/
def read_target (k : Context) (index : Nat) (target : Target) : Fun Value := do
  verify_target k index target
  let directory ← node index
  let number ← mapError (read_number directory "brightness") (reported "LED brightness read failed")
  let core_brightness : UInt32 :=
    if target.max_brightness = 1 then (if number ≠ 0 then 1 else 0) else UInt32.ofNat number
  let brightness ← read_brightness k target directory core_brightness
  let trigger ← mapError (read_text directory "trigger" 1024) (reported "LED trigger read failed")
  match active_trigger trigger with
  | none => fail ⟨.EBADMSG, .silent⟩
  | some active => do
    let color ← read_color k directory
    let timing ← read_timing directory
    pure (value_of (mode_of active core_brightness) brightness color timing)

/-- The LED of an id, with its index. -/
def Context.find (k : Context) (id : Nat) : Option (Nat × Target) := do
  let index ← k.target_index id
  let target ← k.profile.leds[index]?
  pure (index, target)

def sysfs_read (k : Context) (id : Nat) : Fun Value :=
  match k.find id with
  | none => fail ⟨.EINVAL, .silent⟩
  | some (index, target) => read_target k index target

/-! ## The check of a patch against a state -/

/-- `patch->value.mode`, or that of the state where the patch names none. -/
def mode_after (before : Value) (patch : Patch) : UInt32 :=
  if patch.has PATCH_MODE then patch.value.mode else before.mode

def color_after (before : Value) (patch : Patch) : UInt32 :=
  if patch.has PATCH_COLOR then patch.value.color else before.color

/-- `before->unknown_fields & field` -/
def Value.unknown (value : Value) (field : UInt32) : Bool := value.unknown_fields &&& field != 0

/-- `ugreenctl_led_validate_state_patch` -/
def validate_state_patch (k : Context) (target : Target) (before : Value) (patch : Patch) :
    Except Failure Unit := do
  validate_target_patch (some target) patch
  let mode := mode_after before patch
  let color := color_after before patch
  if ¬ k.n76 then
    .ok ()
  else if ¬ patch.has PATCH_MODE ∧
      (Value.unknown before PATCH_MODE ∨ (mode ≠ MODE_ON ∧ mode ≠ MODE_OFF)) then
    .error (failure .ENOTSUP "N76 changes with an unknown mode or during an effect require the complete requested mode and timing")
  else if target.max_brightness > 1 ∧ patch.has PATCH_BRIGHTNESS ∧ patch.value.brightness = 1 then
    .error (failure .ENOTSUP "N76 brightness 1 is an ON command rather than intensity 1; use mode on or the supported intensity range")
  else if (mode = MODE_ON ∨ mode = MODE_BLINK) ∧ ¬ patch.has PATCH_COLOR ∧
      Value.unknown before PATCH_COLOR then
    .error (failure .ENOTSUP "N76 mode on or blink requires an explicit palette color when the current color is unknown")
  else if mode = MODE_ON ∧ color = COLOR_NONE then
    .error (failure .ENOTSUP "N76 mode on requires an explicit nonempty palette color")
  else if mode = MODE_BLINK ∧ color ≠ COLOR_WHITE ∧ color ≠ COLOR_ORANGE then
    .error (failure .ENOTSUP "N76 blink requires one white or orange channel; the stock driver does not blink combined colors")
  else
    .ok ()

/-- The words of a list of triggers, without brackets. -/
def trigger_available (list required : Text) : Bool :=
  (list.splitOnP isspace).any fun word =>
    if word.length ≥ 2 ∧ word.head? = some '[' ∧ word.getLast? = some ']' then
      (word.tail.dropLast = required)
    else
      word = required

/-- The trigger for a mode. -/
def required_trigger (mode : UInt32) : Text :=
  if mode ≤ MODE_ON then "normal".toList
  else if mode = MODE_BLINK then "timer".toList
  else "breath".toList

/-- `ugreenctl_led_sysfs_preflight`, the LED being at `index`. -/
def preflight_target (k : Context) (index : Nat) (target : Target) (before : Value) (patch : Patch) :
    Fun Unit := do
  lift (validate_state_patch k target before patch)
  verify_target k index target
  if ¬ k.n76 then
    pure ()
  else do
    let required := required_trigger (mode_after before patch)
    let directory ← node index
    let triggers ← mapError (read_text directory "trigger" 1024)
      (reported "N76 available-trigger list is unreadable")
    bail (¬ trigger_available triggers required) (failure .ENOTSUP
      s!"N76 requested mode requires the registered exact '{String.ofList required}' trigger")

def preflight (k : Context) (id : Nat) (before : Value) (patch : Patch) : Fun Unit :=
  match k.find id with
  | none => fail ⟨.EINVAL, .silent⟩
  | some (index, target) => preflight_target k index target before patch

/-! ## Writing -/

/-- The loop of `wait_configured_brightness`, with so many attempts left. -/
def wait_loop (directory : Text) (expected : Nat) : Nat → Fun Unit
  | 0 => fail (failure Errno.EIO "N76 driver did not update its configured-brightness cache")
  | attempts + 1 => do
    let actual ← mapError (read_number directory "rbrightness")
      (reported "N76 configured-brightness cache read failed")
    if actual = expected then
      pure ()
    else if attempts = 0 then
      wait_loop directory expected attempts
    else do
      let _ ← io .nanosleep
      wait_loop directory expected attempts

def wait_configured_brightness (k : Context) (index : Nat) (target : Target) (expected : UInt32) :
    Fun Unit :=
  if ¬ k.n76 ∨ target.max_brightness = 1 then
    pure ()
  else do
    let directory ← node index
    wait_loop directory expected.toNat 21

/-- The patch that is carried out: with N76 it always has a mode. -/
def effective (k : Context) (before : Value) (patch : Patch) : Patch :=
  if k.n76 ∧ ¬ patch.has PATCH_MODE then
    { fields := patch.fields ||| PATCH_MODE, value := { patch.value with mode := before.mode } }
  else
    patch

def write_color (k : Context) (index : Nat) (target : Target) (patch : Patch) : Fun Unit :=
  if patch.has PATCH_COLOR then
    number_attribute k index target "color"
      (if k.gpio then
        (if patch.value.color = COLOR_CHANNEL1 ∨ patch.value.color = COLOR_WHITE then 1 else 2)
      else patch.value.color)
  else
    pure ()

def write_brightness (k : Context) (index : Nat) (target : Target) (patch : Patch) : Fun Unit :=
  if patch.has PATCH_BRIGHTNESS then do
    number_attribute k index target "brightness" patch.value.brightness
    wait_configured_brightness k index target patch.value.brightness
  else
    pure ()

def is_channel (color : UInt32) : Bool := color = COLOR_WHITE || color = COLOR_ORANGE

/-- The trigger that `apply` writes for a mode. -/
def trigger_for (k : Context) (mode : UInt32) : Text :=
  if mode = MODE_BLINK then "timer".toList
  else if mode = MODE_BREATH then "breath".toList
  else if k.n76 then "normal".toList
  else "none".toList

def recolor (k : Context) (index : Nat) (target : Target) (detour : Bool) (color : UInt32) :
    Fun Unit :=
  if detour then number_attribute k index target "color" color else pure ()

/-- The activation of a trigger.  N76 ignores that of `normal` with both
    channels or none: it is activated on white, and the colour put back. -/
def write_trigger (k : Context) (index : Nat) (target : Target) (selected : UInt32)
    (trigger : Text) : Fun Unit :=
  if k.n76 then do
    let detour : Bool := trigger = ("normal" : Text) && !is_channel selected
    recolor k index target detour 1
    set_attribute k index target "trigger" "none"
    set_attribute k index target "trigger" trigger
    recolor k index target detour selected
  else
    set_attribute k index target "trigger" trigger

/-- The brightness that switches an LED on or off. -/
def switch_brightness (k : Context) (target : Target) (before : Value) (patch : Patch) : UInt32 :=
  if k.n76 ∧ patch.value.mode = MODE_ON then 1
  else if patch.value.mode = MODE_OFF then 0
  else if patch.has PATCH_BRIGHTNESS then patch.value.brightness
  else if before.brightness ≠ 0 then before.brightness
  else target.max_brightness

def write_mode (k : Context) (index : Nat) (target : Target) (before : Value) (patch : Patch) :
    Fun Unit :=
  if patch.has PATCH_MODE then do
    write_trigger k index target (color_after before patch) (trigger_for k patch.value.mode)
    if patch.value.mode = MODE_OFF ∨ patch.value.mode = MODE_ON then
      number_attribute k index target "brightness" (switch_brightness k target before patch)
    else do
      number_attribute k index target "delay_on" patch.value.on_ms
      number_attribute k index target "delay_off" patch.value.off_ms
  else
    pure ()

/-- The readback, repeated so many times while the brightness is another. -/
def read_back (k : Context) (index : Nat) (target : Target) (patch : Patch) : Nat → Fun Value
  | 0 => read_target k index target
  | attempts + 1 => do
    let after ← read_target k index target
    if ¬ patch.has PATCH_BRIGHTNESS ∨ after.brightness = patch.value.brightness then
      pure after
    else do
      let _ ← io .nanosleep
      read_back k index target patch attempts

/-- A colour that a patch asked for was read. -/
def same_color (wanted actual : UInt32) : Bool :=
  actual = wanted || (wanted = COLOR_CHANNEL1 && actual = COLOR_WHITE) ||
    (wanted = COLOR_CHANNEL2 && (actual = COLOR_ORANGE || actual = COLOR_RED))

/-- The requested fields are read, and as requested. -/
def confirmed (patch : Patch) (after : Value) : Bool :=
  after.unknown_fields &&& patch.fields = 0 &&
    (!patch.has PATCH_COLOR || same_color patch.value.color after.color) &&
    (!patch.has PATCH_BRIGHTNESS || after.brightness = patch.value.brightness) &&
    (!patch.has PATCH_MODE || after.mode = patch.value.mode) &&
    (!patch.has PATCH_TIMING ||
      (after.on_ms = patch.value.on_ms && after.off_ms = patch.value.off_ms))

/-- What `apply` does when the patch has passed all checks. -/
def carry_out (k : Context) (index : Nat) (target : Target) (before : Value) (patch : Patch) :
    Fun Value := do
  write_color k index target patch
  write_brightness k index target patch
  write_mode k index target before patch
  let after ← read_back k index target patch 20
  bail (¬ confirmed patch after) (failure Errno.EIO
    "LED sysfs readback did not match requested fields; verification is at the driver's public attribute layer")
  pure after

/-- A GPIO LED is off exactly where its brightness is 0. -/
def contradicts (k : Context) (patch : Patch) : Bool :=
  k.gpio && patch.has PATCH_MODE && patch.has PATCH_BRIGHTNESS &&
    ((patch.value.mode = MODE_ON && patch.value.brightness = 0) ||
      (patch.value.mode = MODE_OFF && patch.value.brightness ≠ 0))

/-- `ugreenctl_led_sysfs_apply`, the LED being at `index`. -/
def apply_target (k : Context) (index : Nat) (target : Target) (patch : Patch) : Fun Value := do
  lift (validate_target_patch (some target) patch)
  bail (contradicts k patch) (failure .ENOTSUP
    "sysfs cannot represent the requested on/off mode and brightness together")
  let before ← read_target k index target
  preflight_target k index target before patch
  carry_out k index target before (effective k before patch)

def apply (k : Context) (id : Nat) (patch : Patch) : Fun Value :=
  match k.find id with
  | none => fail ⟨.EINVAL, .silent⟩
  | some (index, target) => apply_target k index target patch

end Sysfs

end UgreenNas.Led
