import UgreenNas.Effect.Proc
import UgreenNas.Errno

/-! # Fans behind an IT8613 (`fan/it8613_hwmon.c`, `fan/it8613_direct.c`)

    A fan is set through the attributes of the `it87` driver where that is
    bound, and through the chip's own ports where it is not.  The file
    system and the ports are the environment: every access may fail with
    any error number.
-/

namespace UgreenNas.Fan.It8613

open Effect Effect.Proc

/-! ## Accesses -/

/-- A file below a directory of the hwmon tree. -/
structure Node where
  directory : String
  name : String
  deriving DecidableEq, Repr

def Node.path (node : Node) : String := node.directory ++ "/" ++ node.name

inductive FanOp where
  | getenv (name : String)
  | access (path : String)
  | open_lock (path : String)
  | flock
  | close_lock
  /-- The directory with the entries that `readdir` goes on to list. -/
  | opendir (path : String)
  | open_read (node : Node)
  /-- Up to `capacity` bytes, as a C string. -/
  | read (node : Node) (capacity : Nat)
  | open_write (node : Node)
  | write (node : Node) (text : String)
  | close (node : Node)
  | nanosleep (milliseconds : Nat)
  | it86x_open
  | it86x_hwm_read (register : UInt8)
  | it86x_hwm_write (register value : UInt8)
  | it86x_close

/-- An error code with the text written to the caller's buffer. -/
structure FanError where
  errno : Errno
  text : String
  deriving DecidableEq

@[reducible] def FanOp.Ans : FanOp → Type
  | .getenv _ => Option String
  | .access _ => Bool
  | .open_lock _ => Except Errno Unit
  | .flock => Except Errno Unit
  | .close_lock => Unit
  | .opendir _ => Except Errno (List String)
  | .open_read _ => Except Errno Unit
  | .read _ _ => Except Errno String
  | .open_write _ => Except Errno Unit
  | .write _ _ => Except Errno Nat
  | .close _ => Unit
  | .nanosleep _ => Unit
  | .it86x_open => Except FanError Unit
  | .it86x_hwm_read _ => UInt8
  | .it86x_hwm_write _ _ => Unit
  | .it86x_close => Unit

abbrev fan_io : Sig := ⟨FanOp, FanOp.Ans⟩

abbrev Io (α : Type) : Type := Proc fan_io Unit FanError α

def io (o : FanOp) : Io o.Ans := @ask fan_io Unit FanError o

/-- An access that may fail, and what is said of it then. -/
def checked {α : Type} (text : String) (r : Except Errno α) : Io α :=
  lift (r.mapError fun errno => ⟨errno, text⟩)

/-! ## Text -/

/-- `isspace` in the C locale. -/
def isspace (c : Char) : Bool :=
  c = ' ' || c = '\t' || c = '\n' || c = '\r' || c.toNat = 11 || c.toNat = 12

def isdigit (c : Char) : Bool := '0' ≤ c && c ≤ '9'

/-- Trailing white space is cut off. -/
def trimmed (text : String) : String :=
  String.ofList (text.toList.reverse.dropWhile isspace).reverse

/-- `strtoul` with base 10: the value, whether it was out of range, and the
    text behind the number; all of the text where there is no number. -/
def strtoul (text : List Char) : Nat × Bool × List Char :=
  let body := text.dropWhile isspace
  let negative := body.head? = some '-'
  let digits := if negative || body.head? = some '+' then body.tail else body
  if (digits.takeWhile isdigit).isEmpty then
    (0, false, text)
  else
    let value := (digits.takeWhile isdigit).foldl (fun n c => n * 10 + (c.toNat - '0'.toNat)) 0
    if value ≥ 2 ^ 64 then
      (2 ^ 64 - 1, true, digits.dropWhile isdigit)
    else
      (if negative then u64 (-value) else value, false, digits.dropWhile isdigit)

/-! ## Nodes -/

def IT8613_HWMON_NAME : String := "it8613"
def IT8613_MIN_MANUAL_PWM : Nat := 40
def IT8613_HWMON_READBACK_RETRY_MS : Nat := 2000
def UGREENCTL_MAX_FANS : Nat := 8
def PATH_MAX : Nat := 4096

def hwmon_root : Io String := do
  let override : Option String ← io (.getenv "UGREENCTL_HWMON_ROOT")
  pure (if override.getD "" = "" then "/sys/class/hwmon" else override.getD "")

def lock_path : Io String := do
  let override : Option String ← io (.getenv "UGREENCTL_IT8613_LOCK")
  pure (if override.getD "" = "" then "/run/ugreenctl-it8613.lock" else override.getD "")

/-- The first of the paths that exists. -/
def first_access : List String → Io (Option String)
  | [] => pure none
  | path :: rest => do
    let present : Bool ← io (.access path)
    if present then pure (some path) else first_access rest

def incompatible_controller_owner : Io (Option String) :=
  first_access ["/proc/it86", "/sys/module/ug_it86x_sio", "/sys/module/ug_it86x_cpufan"]

def is_hwmon_directory_name (name : String) : Bool :=
  "hwmon".toList.isPrefixOf name.toList && name.toList.length > 5 &&
    (name.toList.drop 5).all isdigit

def build_path (directory name : String) : Io Node := do
  bail ((Node.mk directory name).path.utf8ByteSize ≥ PATH_MAX)
    ⟨.ENAMETOOLONG, "hwmon path is too long: " ++ name⟩
  pure ⟨directory, name⟩

def read_text_file (node : Node) (buffer_size : Nat) : Io String := do
  let opened : Except Errno Unit ← io (.open_read node)
  checked ("cannot open hwmon node: " ++ node.path) opened
  let r : Except Errno String ← io (.read node (buffer_size - 1))
  io (.close node)
  let text ← checked ("cannot read hwmon node: " ++ node.path) r
  pure (trimmed text)

def read_unsigned_file (node : Node) : Io Nat := do
  let text ← read_text_file node 64
  let (value, overflow, rest) := strtoul text.toList
  bail (overflow = true ∨ text = "" ∨ rest ≠ [])
    ⟨.EINVAL, "invalid numeric value in hwmon node: " ++ node.path⟩
  pure value

/-- The loop over the entries of the root; a candidate whose name cannot be
    read is passed over. -/
def find_candidates (root : String) : List String → Option String → Io (Option String)
  | [], found => pure found
  | entry :: rest, found =>
    if !is_hwmon_directory_name entry then
      find_candidates root rest found
    else do
      let candidate ← build_path root entry
      let name_path ← build_path candidate.path "name"
      let name ← attempt (read_text_file name_path 64)
      match name with
      | .error _ => find_candidates root rest found
      | .ok name =>
        if name ≠ IT8613_HWMON_NAME then
          find_candidates root rest found
        else do
          bail (found.isSome = true)
            ⟨.EEXIST, "multiple hwmon nodes report name=it8613: " ++ root⟩
          find_candidates root rest (some candidate.path)

def find_it8613_hwmon : Io String := do
  let root ← hwmon_root
  let opened : Except Errno (List String) ← io (.opendir root)
  let entries ← checked ("cannot open hwmon root: " ++ root) opened
  let found ← find_candidates root entries none
  match found with
  | none => fail ⟨.ENODEV, "no dynamic hwmon node with name=it8613 under: " ++ root⟩
  | some path => pure path

/-- `it8613_hwmon_open`: the path of the node; the lock is held. -/
def it8613_hwmon_open : Io String := do
  let owner ← incompatible_controller_owner
  bail (owner.isSome = true)
    ⟨.EBUSY, "incompatible vendor controller owner is active: " ++ owner.getD ""⟩
  let path ← lock_path
  let lock_fd : Except Errno Unit ← io (.open_lock path)
  checked ("cannot create IT8613 process lock: " ++ path) lock_fd
  let locked : Except Errno Unit ← io .flock
  match locked with
  | .error errno => do
    io .close_lock
    fail ⟨errno, "cannot lock IT8613 hwmon access: " ++ path⟩
  | .ok () => do
    let result ← attempt find_it8613_hwmon
    match result with
    | .error error => do
      io .close_lock
      fail error
    | .ok device => pure device

def it8613_hwmon_close : Io Unit := io .close_lock

/-! ## Setting a fan through the driver -/

/-- `struct it8613_hwmon_channel` -/
structure HwmonChannel where
  id : String
  pwm_index : Nat
  fan_index : Nat
  deriving DecidableEq, Repr

def write_unsigned_file (node : Node) (value : Nat) : Io Unit := do
  let buffer := toString value ++ "\n"
  let opened : Except Errno Unit ← io (.open_write node)
  checked ("cannot open writable hwmon node: " ++ node.path) opened
  let written : Except Errno Nat ← io (.write node buffer)
  io (.close node)
  let written ← checked ("cannot write hwmon node: " ++ node.path) written
  bail (written ≠ buffer.utf8ByteSize) ⟨Errno.EIO, "cannot write hwmon node: " ++ node.path⟩

def write_and_verify (node : Node) (expected : Nat) : Io Unit := do
  write_unsigned_file node expected
  let actual ← read_unsigned_file node
  if actual = expected then pure () else do
    io (.nanosleep IT8613_HWMON_READBACK_RETRY_MS)
    let actual ← read_unsigned_file node
    bail (actual ≠ expected)
      ⟨Errno.EIO, "hwmon write verification failed for: " ++ node.path ++ " wrote " ++
        toString expected ++ " but read back " ++ toString actual ++ " after " ++
        toString IT8613_HWMON_READBACK_RETRY_MS ++ " ms"⟩

def set_channel_manual_pwm (device : String) (channel : HwmonChannel) (pwm : Nat) : Io Unit := do
  let enable ← build_path device ("pwm" ++ toString channel.pwm_index ++ "_enable")
  write_and_verify enable 1
  let duty ← build_path device ("pwm" ++ toString channel.pwm_index)
  write_and_verify duty pwm

/-- The loop over the channels; the first failure ends it. -/
def set_channels_manual_pwm (device : String) (pwm : Nat) : List HwmonChannel → Io Unit
  | [] => pure ()
  | channel :: rest => do
    set_channel_manual_pwm device channel pwm
    set_channels_manual_pwm device pwm rest

def unsafe_pwm (pwm : Nat) : FanError :=
  ⟨.EPERM, "refusing unsafe PWM " ++ toString pwm ++ "; choose a value of 40-255"⟩

def it8613_hwmon_set_manual_pwm (channels : List HwmonChannel) (pwm : Nat) : Io Unit := do
  bail (channels.length = 0 ∨ channels.length > UGREENCTL_MAX_FANS)
    ⟨.EINVAL, "invalid IT8613 hwmon write mapping: count"⟩
  bail (pwm < IT8613_MIN_MANUAL_PWM) (unsafe_pwm pwm)
  let device ← it8613_hwmon_open
  let result ← attempt (set_channels_manual_pwm device pwm channels)
  it8613_hwmon_close
  lift result

/-! ## Setting a fan through the ports -/

def IT8613_DIRECT_MIN_MANUAL_PWM : Nat := 40
def IT8613_DIRECT_MANUAL_BIT : UInt8 := 0x80

/-- `struct it8613_direct_channel` -/
structure DirectChannel where
  id : String
  control_register : UInt8
  duty_register : UInt8
  tachometer_low_register : UInt8
  tachometer_high_register : UInt8
  pwm_supported : Bool
  deriving DecidableEq, Repr

namespace Direct

def validate_mapping (channels : List DirectChannel) : Io Unit := do
  bail (channels.length = 0 ∨ channels.length > UGREENCTL_MAX_FANS)
    ⟨.EINVAL, "invalid IT8613 direct fan mapping: count"⟩
  bail (channels.any (·.id = "") = true) ⟨.EINVAL, "invalid IT8613 direct fan mapping: id"⟩

def set_channel_manual_pwm (channel : DirectChannel) (pwm : Nat) : Io Unit := do
  let control : UInt8 ← io (.it86x_hwm_read channel.control_register)
  io (.it86x_hwm_write channel.control_register (control &&& ~~~ IT8613_DIRECT_MANUAL_BIT))
  let readback : UInt8 ← io (.it86x_hwm_read channel.control_register)
  bail (readback &&& IT8613_DIRECT_MANUAL_BIT ≠ 0)
    ⟨Errno.EIO, "direct fan control verification failed for: " ++ channel.id⟩
  io (.it86x_hwm_write channel.duty_register (UInt8.ofNat pwm))
  let readback : UInt8 ← io (.it86x_hwm_read channel.duty_register)
  bail (readback.toNat ≠ pwm)
    ⟨Errno.EIO, "direct fan PWM verification failed for: " ++ channel.id ++ " wrote " ++
      toString pwm ++ " but read back " ++ toString readback.toNat⟩

def set_channels_manual_pwm (pwm : Nat) : List DirectChannel → Io Unit
  | [] => pure ()
  | channel :: rest => do
    set_channel_manual_pwm channel pwm
    set_channels_manual_pwm pwm rest

def check_supported : List DirectChannel → Io Unit
  | [] => pure ()
  | channel :: rest => do
    bail (channel.pwm_supported = false)
      ⟨.ENOTSUP, "direct fan PWM is unavailable for: " ++ channel.id⟩
    check_supported rest

end Direct

def it8613_direct_set_manual_pwm (channels : List DirectChannel) (pwm : Nat) : Io Unit := do
  Direct.validate_mapping channels
  bail (pwm < IT8613_DIRECT_MIN_MANUAL_PWM) (unsafe_pwm pwm)
  Direct.check_supported channels
  let opened : Except FanError Unit ← io .it86x_open
  lift opened
  let result ← attempt (Direct.set_channels_manual_pwm pwm channels)
  io .it86x_close
  lift result

/-- A mapping the direct path accepts. -/
structure Wired (channels : List DirectChannel) : Prop where
  count : ¬ (channels.length = 0 ∨ channels.length > UGREENCTL_MAX_FANS)
  ids : ¬ channels.any (·.id = "") = true
  supported : ∀ channel ∈ channels, channel.pwm_supported = true

theorem validate_mapping_wired {channels : List DirectChannel} (h : Wired channels) :
    Direct.validate_mapping channels = pure () := by
  unfold Direct.validate_mapping
  rw [bail_neg h.count, Proc.bail, if_neg h.ids]

theorem check_supported_wired {channels : List DirectChannel}
    (h : ∀ channel ∈ channels, channel.pwm_supported = true) :
    Direct.check_supported channels = pure () := by
  induction channels with
  | nil => rfl
  | cons channel rest ih =>
    have hchannel := h channel List.mem_cons_self
    rw [Direct.check_supported, bail_neg (by simp [hchannel])]
    exact ih fun c hc => h c (List.mem_cons_of_mem channel hc)

/-! ## The two together -/

/-- The driver, and on `-ENODEV` from it the ports.  `pwm` is an `uint8_t`. -/
def set_manual_pwm (force : Bool) (channels : List HwmonChannel) (direct : List DirectChannel)
    (pwm : UInt8) : Io Unit :=
  recover (it8613_hwmon_set_manual_pwm channels pwm.toNat) fun error =>
    if error.errno ≠ .ENODEV then
      fail error
    else if !force then
      fail ⟨.EPERM, "direct Super I/O fan writes require --force together with --apply"⟩
    else
      it8613_direct_set_manual_pwm direct pwm.toNat

/-- `fan/it8613_fan.c` -/
def it8613_set_fan_pwm (force : Bool) (fan_id : String) (pwm : UInt8) : Io Unit :=
  if fan_id = "cpu" then
    set_manual_pwm force [⟨"cpu", 2, 2⟩] [⟨"cpu", 0x16, 0x6b, 0x0e, 0x19, true⟩] pwm
  else if fan_id = "sys" then
    set_manual_pwm force [⟨"sys", 3, 3⟩] [⟨"sys", 0x17, 0x73, 0x0f, 0x1a, true⟩] pwm
  else
    fail ⟨.EINVAL, "unknown fan '" ++ fan_id ++ "' (expected cpu or sys)"⟩

/-- `fan/it8613_dxp480t.c`: the target `all` is the pair of system fans. -/
def it8613_dxp480t_set_fan_pwm (force : Bool) (fan_id : String) (pwm : UInt8) : Io Unit :=
  if fan_id = "cpu" then
    set_manual_pwm force [⟨"cpu", 3, 3⟩] [⟨"cpu", 0x17, 0x73, 0x0f, 0x1a, true⟩] pwm
  else if fan_id = "all" then
    set_manual_pwm force [⟨"sys1", 2, 2⟩, ⟨"sys2", 4, 4⟩]
      [⟨"sys1", 0x16, 0x6b, 0x0e, 0x19, true⟩, ⟨"sys2", 0x1e, 0x7b, 0x80, 0x81, true⟩] pwm
  else
    fail ⟨.EINVAL, "unknown DXP480T fan target '" ++ fan_id ++ "' (expected cpu or all)"⟩

end UgreenNas.Fan.It8613
