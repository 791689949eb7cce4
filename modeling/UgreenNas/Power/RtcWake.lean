import UgreenNas.Disk.Sysfs
import UgreenNas.Effect.Proc
import UgreenNas.Led.Basic

/-! # The RTC wake alarm (`power/rtc_wake.c`)

    An alarm is set or cleared through the `wakealarm` of the one RTC that
    belongs to the machine: its epoch is checked against the system time and
    against the clock of that RTC, the alarm is cleared first, and every
    write is read back.
-/

namespace UgreenNas.Power

open DiskMap Effect Effect.Proc
open Led (Failure failure)

/-! ## Devices -/

/-- `struct ugreenctl_rtc_profile`, as far as the alarm is concerned. -/
structure RtcProfile where
  product : String
  rtc_name : Text
  rtc_of_path : Option Text := none
  resolution_seconds : Nat

/-- An entry that `readdir` delivers of the RTC devices, and what is found of
    its attributes: a file that can be opened, and a regular `wakealarm`. -/
structure RtcDevice where
  d_name : Text
  name : Option File
  uevent : Option File
  wakealarm : Bool

/-- The lines of a file, without what ends them. -/
def rtc_lines (file : File) : List Text :=
  (fgets_lines 256 file.error [] file.bytes).map fun line =>
    (c_string line.1).takeWhile fun c => c ≠ '\r' ∧ c ≠ '\n'

def is_rtc (d_name : Text) : Bool :=
  "rtc".toList.isPrefixOf d_name && d_name.drop 3 ≠ [] && (d_name.drop 3).all isdigit

/-- The name of the controller, alone or before a blank. -/
def name_matches (profile : RtcProfile) (line : Text) : Bool :=
  profile.rtc_name.isPrefixOf line &&
    ((line.drop profile.rtc_name.length).head?.all (· = ' '))

def of_path_matches (path : Text) (file : File) : Bool :=
  (rtc_lines file).any fun line =>
    "OF_FULLNAME=".toList.isPrefixOf line && line.drop 12 = path

def candidate (directory_path : Text) (device : RtcDevice) : Text :=
  directory_path ++ "/".toList ++ device.d_name

def wakealarm_path (directory_path : Text) (device : RtcDevice) : Text :=
  candidate directory_path device ++ "/wakealarm".toList

/-- A path that fits in a buffer. -/
def fits (path : Text) : Bool := path.length < PATH_MAX

/-- The checks of one entry. -/
def device_matches (profile : RtcProfile) (directory_path : Text) (device : RtcDevice) : Bool :=
  is_rtc device.d_name &&
    fits (candidate directory_path device) &&
    fits (candidate directory_path device ++ "/name".toList) &&
    device.name.any (fun file => (rtc_lines file).head?.any (name_matches profile)) &&
    (match profile.rtc_of_path with
      | none => true
      | some path =>
        fits (candidate directory_path device ++ "/device/uevent".toList) &&
          device.uevent.any (of_path_matches path)) &&
    fits (wakealarm_path directory_path device) && device.wakealarm

/-- The loop over the entries: how many match, and the path of the last one. -/
def select_loop (profile : RtcProfile) (directory_path : Text) (path_size : Nat) :
    Nat → Text → List RtcDevice → Except Failure (Nat × Text)
  | found, path, [] => .ok (found, path)
  | found, path, device :: rest =>
    if device_matches profile directory_path device then
      if (wakealarm_path directory_path device).length ≥ path_size then
        .error ⟨.ENAMETOOLONG, .silent⟩
      else
        select_loop profile directory_path path_size (found + 1)
          (wakealarm_path directory_path device) rest
    else
      select_loop profile directory_path path_size found path rest

/-- The path of the alarm, of the devices that are there. -/
def select_device (profile : RtcProfile) (directory_path : Text) (path_size : Nat)
    (devices : List RtcDevice) : Except Failure Text := do
  let (found, path) ← select_loop profile directory_path path_size 0 [] devices
  if found ≠ 1 then
    .error (failure .ENODEV
      s!"expected one {String.ofList profile.rtc_name} RTC wakealarm for {profile.product}; found {found} (unknown/ambiguous hardware)")
  else
    .ok path

/-! ## Accesses -/

inductive RtcOp where
  /-- `opendir`, and the entries that `readdir` delivers. -/
  | opendir (path : Text)
  /-- `time(NULL)` -/
  | time
  | open_read (path : Text)
  | read (path : Text)
  | open_write (path : Text)
  | write (path text : Text)

/-- The time is in seconds since the Epoch, `none` where it is `(time_t)-1`. -/
@[reducible] def RtcOp.Ans : RtcOp → Type
  | .opendir _ => Except Errno (List RtcDevice)
  | .time => Option Nat
  | .open_read _ => Except Errno Unit
  | .read _ => Except Errno Text
  | .open_write _ => Except Errno Unit
  | .write _ _ => Except Errno Nat

abbrev rtc_io : Sig := ⟨RtcOp, RtcOp.Ans⟩

abbrev Rtc (α : Type) : Type := Proc rtc_io Unit Failure α

def io (o : RtcOp) : Rtc o.Ans := @ask rtc_io Unit Failure o

/-- `ugreenctl_rtc_select_at` -/
def select_at (strerror : Errno → String) (root : Text) (profile : RtcProfile) (path_size : Nat) :
    Rtc Text := do
  let directory_path := root ++ "/class/rtc".toList
  bail (directory_path.length ≥ PATH_MAX) ⟨.ENAMETOOLONG, .silent⟩
  let entries : Except Errno (List RtcDevice) ← io (.opendir directory_path)
  let devices ← lift (entries.mapError fun e =>
    failure e s!"cannot inspect RTC devices: {strerror e}")
  lift (select_device profile directory_path path_size devices)

/-! ## Numbers -/

def LLONG_MAX : Nat := 2 ^ 63 - 1

/-- `strtoll` to the base 10: the value, whether it was out of range, and the
    text behind the number; all of the text where there is no number. -/
def strtoll (text : Text) : Int × Bool × Text :=
  let body := text.dropWhile isspace
  let negative := body.head? = some '-'
  let unsigned := if negative || body.head? = some '+' then body.tail else body
  let digits := unsigned.takeWhile isdigit
  let rest := unsigned.dropWhile isdigit
  if digits.isEmpty then
    (0, false, text)
  else
    let value := number digits
    if negative then
      if value > LLONG_MAX + 1 then (-(LLONG_MAX + 1 : Int), true, rest) else (-(value : Int), false, rest)
    else
      if value > LLONG_MAX then (LLONG_MAX, true, rest) else (value, false, rest)

/-- `ugreenctl_rtc_wake_parse`, of a C string. -/
def wake_parse (value : Text) : Except Failure Nat :=
  let cursor := value.dropWhile isspace
  if cursor = [] then
    .ok 0
  else
    let (parsed, out_of_range, behind) := strtoll cursor
    let behind := behind.dropWhile isspace
    if out_of_range ∨ behind.length = cursor.length ∨ behind ≠ [] then
      .error (failure Errno.EIO "RTC wakealarm returned an invalid value")
    else if parsed < 0 then
      .error (failure .ERANGE "RTC wakealarm returned an out-of-range value")
    else
      .ok parsed.toNat

/-- `snprintf(..., "%lld", epoch)` -/
def lld (epoch : Int) : Text :=
  if epoch < 0 then '-' :: decimal epoch.natAbs else decimal epoch.natAbs

/-! ## Reading and writing the alarm -/

/-- The value in what was read of an alarm. -/
def alarm_value (text : Text) : Except Failure Nat :=
  if text.length ≥ 63 then .error ⟨.EOVERFLOW, .silent⟩ else wake_parse (c_string text)

def read_alarm (strerror : Errno → String) (path : Text) : Rtc Nat := do
  let fd : Except Errno Unit ← io (.open_read path)
  lift (fd.mapError fun e => failure e s!"cannot read RTC wakealarm: {strerror e}")
  let count : Except Errno Text ← io (.read path)
  let text ← lift (count.mapError fun e => ⟨e, .silent⟩)
  lift (alarm_value text)

/-- What `write` returned for a text. -/
def written_whole (text : Text) (written : Except Errno Nat) : Except Errno Unit :=
  match written with
  | .error e => .error e
  | .ok n => if n = text.length then .ok () else .error Errno.EIO

def write_wakealarm (strerror : Errno → String) (path value : Text) : Rtc Unit := do
  let fd : Except Errno Unit ← io (.open_write path)
  lift (fd.mapError fun e => failure e s!"cannot open RTC wakealarm: {strerror e}")
  let written : Except Errno Nat ← io (.write path value)
  lift ((written_whole value written).mapError fun e =>
    failure e s!"cannot write RTC wakealarm: {strerror e}")

/-! ## Setting and clearing -/

/-- `ugreenctl_rtc_validate_epoch` -/
def validate_epoch (profile : RtcProfile) (epoch : Int) (now : Option Nat) : Except Failure Unit :=
  if profile.resolution_seconds = 0 ∨ now.all (fun now => epoch ≤ now || epoch - now ≤ 60) then
    .error (failure .EINVAL "RTC time must be more than 60 seconds in the future")
  else if epoch % profile.resolution_seconds ≠ 0 then
    .error (failure .EINVAL
      s!"this RTC requires {profile.resolution_seconds}-second aligned epochs; no silent rounding")
  else
    .ok ()

/-- `since_epoch` beside the `wakealarm` of a path. -/
def clock_path (path : Text) : Text := path.take (path.length - 9) ++ "since_epoch".toList

/-- The clock of the RTC is known, and near the system time. -/
def clock_agrees (rtc_now : Nat) (system_now : Option Nat) : Bool :=
  match system_now with
  | none => false
  | some system_now => 0 < rtc_now && rtc_now ≤ system_now + 5 && system_now ≤ rtc_now + 5

def check_clock (strerror : Errno → String) (path : Text) : Rtc Unit := do
  bail (¬ fits (clock_path path)) ⟨.ENAMETOOLONG, .silent⟩
  let rtc_now ← read_alarm strerror (clock_path path)
  let system_now : Option Nat ← io .time
  bail (¬ clock_agrees rtc_now system_now) (failure .EINVAL
    "RTC clock differs from system UTC or is unknown; alarm unchanged (check RTC time base/synchronisation)")

def clear_alarm (strerror : Errno → String) (path : Text) : Rtc Unit := do
  write_wakealarm strerror path "0"
  let observed ← read_alarm strerror path
  bail (observed ≠ 0) (failure Errno.EIO "RTC alarm clear readback mismatch; stopped")

def set_alarm (strerror : Errno → String) (path : Text) (epoch : Int) : Rtc Unit := do
  write_wakealarm strerror path (snprintf 64 (lld epoch))
  let observed ← read_alarm strerror path
  bail ((observed : Int) ≠ epoch) (failure Errno.EIO "RTC alarm readback mismatch; state not confirmed")

/-- A step that is made for an epoch other than 0 only. -/
def if_epoch (epoch : Int) (step : Rtc Unit) : Rtc Unit := if epoch = 0 then pure () else step

def update_alarm (strerror : Errno → String) (profile : RtcProfile) (epoch : Int) : Rtc Unit := do
  let path ← select_at strerror "/sys" profile PATH_MAX
  if_epoch epoch (check_clock strerror path)
  let _ ← read_alarm strerror path
  clear_alarm strerror path
  if_epoch epoch (set_alarm strerror path epoch)

/-- `ugreenctl_rtc_wake_clear` -/
def wake_clear (strerror : Errno → String) (profile : RtcProfile) : Rtc Unit :=
  update_alarm strerror profile 0

/-- `ugreenctl_rtc_wake_set` -/
def wake_set (strerror : Errno → String) (profile : RtcProfile) (epoch : Int) : Rtc Unit := do
  let now : Option Nat ← io .time
  lift (validate_epoch profile epoch now)
  update_alarm strerror profile epoch

end UgreenNas.Power
