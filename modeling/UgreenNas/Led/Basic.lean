import UgreenNas.Errno

/-! # LED data and reports (`led/led.h`, `led/led_protocol.c`)

    The values, patches and identities that the transports and the service
    share, the generic patch check, and what a failed function writes to its
    caller's error buffer.
-/

namespace UgreenNas.Led

/-! ## Identities -/

/-- `struct ugreenctl_led_descriptor`, as far as the service reads it. -/
structure Descriptor where
  name : String
  id : Nat
  deriving DecidableEq, Repr

/-- `struct ugreenctl_led_profile`, as far as the transports read it. -/
structure Profile where
  id : String
  product_name : String
  protocol : String
  leds : List Descriptor
  deriving DecidableEq, Repr

/-- `struct ugreenctl_led_identity` -/
structure Identity where
  manufacturer : String := ""
  product_name : String := ""
  product_version : String := ""
  board_version : String := ""
  profile : Option Profile := none
  source : String := ""
  compatible : String := ""
  bios_vendor : String := ""
  bios_version : String := ""
  bios_date : String := ""
  deriving DecidableEq, Repr

/-- `ugreenctl_led_same_identity`: profiles are compared by their id. -/
def same_identity (a b : Identity) : Bool :=
  match a.profile, b.profile with
  | some p, some q =>
    p.id = q.id && a.source = b.source && a.manufacturer = b.manufacturer &&
    a.product_name = b.product_name && a.product_version = b.product_version &&
    a.board_version = b.board_version && a.compatible = b.compatible &&
    a.bios_vendor = b.bios_vendor && a.bios_version = b.bios_version &&
    a.bios_date = b.bios_date
  | _, _ => false

/-- `struct ugreenctl_led_access`, as far as the transports modelled here
    read it. -/
structure Access where
  force : Bool
  apply : Bool
  deriving DecidableEq, Repr

/-! ## Values and patches -/

/-- `struct ugreenctl_led_value`, the ten fields that cross the socket. -/
structure Value where
  mode : UInt32 := 0
  brightness : UInt32 := 0
  red : UInt32 := 0
  green : UInt32 := 0
  blue : UInt32 := 0
  on_ms : UInt32 := 0
  off_ms : UInt32 := 0
  color : UInt32 := 0
  unknown_fields : UInt32 := 0
  cached_fields : UInt32 := 0
  deriving DecidableEq, Repr

/-- `struct ugreenctl_led_patch` -/
structure Patch where
  fields : UInt32
  value : Value
  deriving DecidableEq, Repr

def PATCH_MODE : UInt32 := 1
def PATCH_RGB : UInt32 := 2
def PATCH_BRIGHTNESS : UInt32 := 4
def PATCH_TIMING : UInt32 := 8
def PATCH_COLOR : UInt32 := 16

/-- `patch->fields & field` -/
def Patch.has (patch : Patch) (field : UInt32) : Bool := patch.fields &&& field != 0

theorem has_or (a b field : UInt32) (value value' value'' : Value) :
    Patch.has ⟨a ||| b, value⟩ field = (Patch.has ⟨a, value'⟩ field || Patch.has ⟨b, value''⟩ field) := by
  have hdistrib : (a ||| b) &&& field = (a &&& field) ||| (b &&& field) :=
    UInt32.toBitVec_inj.mp BitVec.and_or_distrib_right
  unfold Patch.has
  rw [Bool.eq_iff_iff]
  simp only [hdistrib, Bool.or_eq_true, bne_iff_ne, ne_eq, UInt32.or_eq_zero_iff]
  exact not_and_or

/-! ## Reports -/

/-- What a failed function leaves in the caller's error buffer. -/
inductive Report where
  /-- Nothing is written. -/
  | silent
  | text (message : String)
  /-- A transport did not open and nothing else was reported. -/
  | open_failed (errno : Errno)
  /-- A write failed and was undone. -/
  | restored (original : Report)
  | restoration_failed (original restore_error : Report)
  | identify_restoration_failed (detail : Report)
  | identify_end_failed (detail : Report)
  /-- A holder did not start and left the controller as it was. -/
  | holder_restored (cause : Report)
  | baseline_restoration_failed (cause restoration : Report)
  | holder_restoration_failed (detail : Report)
  /-- The service gives a request that failed without a report this one. -/
  | refused (errno : Errno)
  | identify_start_failed (restore_error : Report)
  deriving DecidableEq, Repr

/-- `!error[0]` -/
def Report.is_empty : Report → Bool
  | .silent => true
  | .text message => message = ""
  | _ => false

/-- `if (!error[0]) ...` -/
def Report.otherwise (report default : Report) : Report :=
  if report.is_empty then default else report

/-- A text that went through a buffer of `size + 1` bytes. -/
def cut (size : Nat) (text : String) : String := (text.take size).toString

def buffered (text : String) : String := cut 191 text

/-- The text of a report. -/
def Report.render (strerror : Errno → String) : Report → String
  | .silent => ""
  | .text message => message
  | .open_failed errno => "CS2011 open failed: " ++ strerror errno
  | .restored original => buffered (original.render strerror) ++ "; complete previous LED state restored"
  | .restoration_failed original restore_error =>
    buffered (original.render strerror) ++ "; restoration failed: " ++
      buffered (restore_error.render strerror) ++
      "; state may have changed"
  | .identify_restoration_failed detail =>
    "CS2011 identify raw restoration failed: " ++ buffered (detail.render strerror) ++
      "; state may have changed"
  | .identify_end_failed detail =>
    "CS2011 identify restoration failed: " ++ buffered (detail.render strerror) ++
      "; state may have changed"
  | .holder_restored cause =>
    buffered (cause.render strerror) ++ "; full previous holder state restored"
  | .baseline_restoration_failed cause restoration =>
    buffered (cause.render strerror) ++ "; baseline restoration failed: " ++
      buffered (restoration.render strerror) ++ "; state may have changed"
  | .holder_restoration_failed detail =>
    "CS2011 holder restoration failed: " ++ buffered (detail.render strerror) ++
      "; state may have changed"
  | .refused errno => "LED holder request refused: " ++ strerror errno
  | .identify_start_failed restore_error =>
    "identify start and restoration failed: " ++ cut 200 (restore_error.render strerror)

/-- A failed function: the error number it returns, negated, and its report. -/
structure Failure where
  errno : Errno
  report : Report
  deriving DecidableEq, Repr

/-- `fail(error, size, -errno, message)` -/
def failure (errno : Errno) (message : String) : Failure := ⟨errno, .text message⟩

/-- The failure `message` for whatever error number the callee returned. -/
def reported (message : String) (errno : Errno) : Failure := failure errno message

/-! ## The generic patch check -/

def MODE_BLINK : UInt32 := 2
def MODE_BREATH : UInt32 := 3
def COLOR_MAX : UInt32 := 9

/-- `ugreenctl_led_validate_patch` -/
def validate_patch (patch : Patch) : Except Failure Unit :=
  let known := PATCH_MODE ||| PATCH_RGB ||| PATCH_BRIGHTNESS ||| PATCH_TIMING ||| PATCH_COLOR
  let timed := patch.value.mode = MODE_BLINK ∨ patch.value.mode = MODE_BREATH
  if patch.fields = 0 ∨ patch.fields &&& ~~~known ≠ 0 then
    .error (failure .EINVAL "LED patch must contain known fields")
  else if patch.has PATCH_RGB ∧
      (patch.value.red > 255 ∨ patch.value.green > 255 ∨ patch.value.blue > 255) then
    .error (failure .EINVAL "RGB components must be in 0..255")
  else if patch.has PATCH_BRIGHTNESS ∧ patch.value.brightness > 255 then
    .error (failure .EINVAL "brightness must be in 0..255")
  else if patch.has PATCH_COLOR ∧ (patch.value.color > COLOR_MAX ∨ patch.has PATCH_RGB) then
    .error (failure .EINVAL "palette color must be known and cannot be combined with RGB")
  else if patch.has PATCH_MODE ∧ patch.value.mode > MODE_BREATH then
    .error (failure .EINVAL "invalid LED mode")
  else if patch.has PATCH_TIMING ∧ (¬ patch.has PATCH_MODE ∨ ¬ timed) then
    .error (failure .EINVAL "timing requires blink or breath mode")
  else if patch.has PATCH_MODE ∧ timed ∧ ¬ patch.has PATCH_TIMING then
    .error (failure .EINVAL "blink and breath require on/off durations")
  else if patch.has PATCH_TIMING ∧ (patch.value.on_ms > 65535 ∨ patch.value.off_ms > 65535 ∨
      patch.value.on_ms > 65535 - patch.value.off_ms) then
    .error (failure .EINVAL "on_ms + off_ms must be at most 65535")
  else
    .ok ()

end UgreenNas.Led
