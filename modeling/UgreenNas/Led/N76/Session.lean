import UgreenNas.Led.Mcu.Driver
import UgreenNas.Led.N76.Protocol

/-! # Direct N76 sessions (`led/led.c`)

    A session with an N76 controller on an I²C bus that the user has named:
    opening it, reading a lamp, planning a change, and sending a plan.  Every
    byte is authorized anew, and the outputs cannot be read back.
-/

namespace UgreenNas.Led.N76

open Effect Effect.Proc

/-! ## Operations -/

/-- What `fstat` tells about the file of the bus. -/
structure FileStat where
  character : Bool
  major : Nat
  minor : Nat
  deriving DecidableEq, Repr

inductive N76Op where
  | owners
  | lock
  | read_identity
  | open_bus (number : Nat)
  | fstat
  | functions
  | read_byte (reg : UInt8)
  | write_byte (reg value : UInt8)
  | pause_ms (milliseconds : Nat)

@[reducible] def N76Op.Ans : N76Op → Type
  | .owners => Except Errno Unit
  | .lock => Except Errno Unit
  | .read_identity => Except (Errno × String) Identity
  | .open_bus _ => Except Errno Unit
  | .fstat => Except Errno FileStat
  | .functions => Except Errno UInt32
  | .read_byte _ => Except Errno UInt8
  | .write_byte _ _ => Except Errno Unit
  | .pause_ms _ => Unit

abbrev n76_io : Sig := ⟨N76Op, N76Op.Ans⟩

/-! ## Sessions -/

/-- `struct ugreenctl_led_session` with `n76_direct` set; `model` is the
    profile of its identity. -/
structure Session where
  identity : Identity
  model : Model
  access : Access
  locked : Bool
  chip_id : Nat
  n76_version : UInt8
  n76_failed : Bool
  deriving DecidableEq, Repr

/-- `struct ugreenctl_led_value` with its N76 fields. -/
structure Readback extends Value where
  n76_modes : UInt8 × UInt8 := (0, 0)
  n76_mode_valid : Bool := false
  n76_version : UInt8 := 0
  unverified_write : Bool := false
  deriving DecidableEq, Repr

/-- The functions that report only an error number. -/
abbrev Io (α : Type) : Type := Proc n76_io Session Errno α

/-- The functions that write to an error buffer. -/
abbrev Fun (α : Type) : Type := Proc n76_io Session Failure α

variable {κ ε : Type}

def io (o : N76Op) : Proc n76_io κ ε o.Ans := @ask n76_io κ ε o

/-! ## The bus -/

def owners : Proc n76_io κ Errno Unit := do
  let r : Except Errno Unit ← io N76Op.owners
  lift r

def read_byte (reg : UInt8) : Proc n76_io κ Errno UInt8 := do
  let r : Except Errno UInt8 ← io (N76Op.read_byte reg)
  lift r

def write_byte (reg value : UInt8) : Proc n76_io κ Errno Unit := do
  let r : Except Errno Unit ← io (N76Op.write_byte reg value)
  lift r

def pause_ms (milliseconds : Nat) : Proc n76_io κ ε Unit := do
  let _ ← io (N76Op.pause_ms milliseconds)

/-- The high byte first. -/
def chip_word (high low : UInt8) : Nat := high.toNat * 256 + low.toNat

def read_chip_id : Proc n76_io κ Errno Nat := do
  let high ← read_byte 0x5a
  let low ← read_byte 0x5b
  pure (chip_word high low)

/-- `verify_session_identity`, against the identity the session was opened
    with. -/
def verify_identity (identity : Identity) : Proc n76_io κ Failure Unit := do
  let r : Except (Errno × String) Identity ← io N76Op.read_identity
  let current ← lift (r.mapError fun e => failure e.1 e.2)
  bail (¬ same_identity identity current)
    (failure .ESTALE "LED machine, board or BIOS identity changed; reopen and revalidate")

/-! ## Reading -/

/-- The transfers of a read. -/
def read_modes (bit : UInt32) : Io (UInt8 × (UInt8 × UInt8)) := do
  let session ← ctx
  let chip ← read_chip_id
  let version ← read_byte 0x5d
  bail (chip ≠ session.chip_id ∨ chip ≠ 0xa5b5 ∨ version ≠ session.n76_version) .ESTALE
  let first ← read_byte (0x50 + bit).toUInt8
  let second ← read_byte (0x51 + bit).toUInt8
  bail (first > 3 ∨ second > 3) .EBADMSG
  pure (version, first, second)

/-- `ugreenctl_led_read` -/
def read (id : Nat) : Fun Readback := do
  let session ← ctx
  bail (¬ session.locked ∨ session.model.find_target id = none)
    (failure .EINVAL "LED target is absent from the exact model profile")
  verify_identity session.identity
  mapError owners (reported "LED controller ownership changed or is unreadable")
  let modes ← mapError (read_modes (lamp_bit id))
    (reported "N76 identity/version/mode read failed; actual outputs remain unknown")
  pure {
    unknown_fields := PATCH_MODE ||| PATCH_RGB ||| PATCH_COLOR ||| PATCH_BRIGHTNESS ||| PATCH_TIMING
    n76_modes := modes.2
    n76_mode_valid := true
    n76_version := modes.1 }

/-! ## Writing -/

def authorize_write : Fun Unit := do
  let session ← ctx
  bail (¬ session.locked) (failure .EINVAL "LED session is not locked")
  bail (¬ session.access.apply ∨ (session.model.experimental ∧ ¬ session.access.force))
    (failure .EPERM "experimental LED writes require --force --apply")
  verify_identity session.identity
  mapError owners
    (reported "LED controller ownership changed or is unreadable; write refused")
  let unavailable :=
    failure .ENOTSUP "LED chip identity unavailable; writes refused even with --force"
  let current ← mapError read_chip_id fun _ => unavailable
  bail (current = 0 ∨ session.chip_id = 0) unavailable
  bail (current ≠ session.model.expected_chip_id ∨ current ≠ session.chip_id)
    (failure .ENOTSUP ("LED chip identity 0x" ++ Mcu.hex4 current ++
      " does not match the model's expected MCU family"))
  bail session.n76_failed
    (failure Errno.EIO "N76 session failed; reopen after inspecting unknown output state")
  let version ← mapError (read_byte 0x5d) (reported "N76 MCU version changed or is unreadable")
  bail (version ≠ session.n76_version)
    (failure .ESTALE "N76 MCU version changed or is unreadable")

/-- One pass of the loop: a mode register is read back at once. -/
def send_command (plan : Plan) (command : Command) : Io Unit := do
  mapError authorize_write fun e => e.errno
  write_byte command.reg command.value
  pause_ms command.settle_ms
  if command.reg = plan.mode_registers.1 ∨ command.reg = plan.mode_registers.2 then do
    let actual ← read_byte command.reg
    bail (actual ≠ command.value) Errno.EIO
  else pure ()

def send (plan : Plan) : List Command → Io Unit
  | [] => pure ()
  | command :: rest => do
    send_command plan command
    send plan rest

/-- The write phase: the commands, and a last look at the mode registers. -/
def transact (id : Nat) (plan : Plan) : Io Readback := do
  send plan plan.commands
  let value ← mapError (read id) fun e => e.errno
  bail (value.n76_modes ≠ plan.expected_modes) Errno.EIO
  pure value

/-- What `ugreenctl_led_apply` does before its first write. -/
def prepare (id : Nat) (patch : Patch) : Fun Plan := do
  let session ← ctx
  let target := session.model.find_target id
  bail (target = none) (failure .EINVAL "LED target is absent from the exact model profile")
  lift (validate_target_patch target patch)
  authorize_write
  let planned := n76_plan (some session.model) id patch
  lift planned.1
  let _ ← read id
  pure planned.2

/-- `ugreenctl_led_apply`: whatever ends the write phase early ends the
    session. -/
def apply (id : Nat) (patch : Patch) : Fun Readback := do
  let plan ← prepare id patch
  let r ← attempt (transact id plan)
  match r with
  | .ok value => pure { value with unverified_write := true }
  | .error errno => do
    update fun session => { session with n76_failed := true }
    fail (failure errno
      "N76 transaction failed; outputs may have changed and cannot be restored from unknown state")

/-- `ugreenctl_led_preflight`; `before` is a pointer. -/
def preflight (id : Nat) (before : Option Value) (patch : Patch) : Fun Unit := do
  let session ← ctx
  bail (session.model.find_target id = none ∨ before = none)
    (failure .EINVAL "LED preflight requires a modeled target and prior state")
  lift (n76_plan (some session.model) id patch).1

/-! ## Opening -/

def n76_profile (model : Model) : Bool :=
  model.protocol = "sysfs-n76" &&
    ((model.id = "dh2600-n76" && model.product_name = "DH2600") ||
      (model.id = "dxp480t-n76" && model.product_name = "DXP480T Plus"))

/-- The entry of the table that an identity points to. -/
def model_of (identity : Identity) : Option Model :=
  identity.profile.bind fun profile => profiles.find? fun model => model.profile = profile

/-- `struct ugreenctl_led_access` with `n76_direct` set. -/
structure DirectAccess extends Access where
  n76_bus : Nat
  n76_address : Nat
  deriving DecidableEq, Repr

/-- `I2C_FUNC_SMBUS_READ_BYTE_DATA | I2C_FUNC_SMBUS_WRITE_BYTE_DATA` -/
def byte_data : UInt32 := 0x00080000 ||| 0x00100000

def plain (e : Failure) : Mcu.McuFailure := ⟨e.errno, .plain e.report⟩

/-- `n76_probe`: the chip id and the version. -/
def n76_probe (identity : Identity) : Proc n76_io κ Failure (Nat × UInt8) := do
  let failed := reported "N76 identity/version probe failed; no writes performed"
  mapError (verify_identity identity) fun e => failed e.errno
  mapError owners failed
  let chip_id ← mapError read_chip_id failed
  bail (chip_id ≠ 0xa5b5) (failed .ENODEV)
  let version ← mapError (read_byte 0x5d) failed
  pure (chip_id, version)

/-- `n76_open_bus`, up to the probe. -/
def open_bus (number : Nat) : Proc n76_io κ Failure Unit := do
  let r : Except Errno Unit ← io (N76Op.open_bus number)
  lift (r.mapError (reported "cannot open explicit N76 I2C bus"))
  let r : Except Errno FileStat ← io N76Op.fstat
  let stat ← lift (r.mapError fun errno => ⟨errno, .silent⟩)
  bail (¬ stat.character ∨ stat.major ≠ 89 ∨ stat.minor ≠ number)
    (failure .ENODEV "N76 bus must be the requested Linux i2c-dev character device")
  let r : Except Errno UInt32 ← io N76Op.functions
  let functions ← lift (r.mapError fun errno => ⟨errno, .silent⟩)
  bail (functions &&& byte_data ≠ byte_data)
    (failure .ENOTSUP "N76 requires SMBus byte-data operations")

def acquire : Proc n76_io κ Mcu.McuFailure Unit := do
  mapError owners (Mcu.mcu_reported
    "LED controller has another driver/process owner or ownership is unreadable")
  let r : Except Errno Unit ← io N76Op.lock
  lift (r.mapError fun errno =>
    ⟨errno, .strerror "cannot acquire fixed LED controller lock: " errno⟩)

/-- `ugreenctl_led_open` -/
def n76_open (access : DirectAccess) : Proc n76_io Unit Mcu.McuFailure Session := do
  let r : Except (Errno × String) Identity ← io N76Op.read_identity
  let identity ← lift (r.mapError fun e => Mcu.mcu_failure e.1 e.2)
  let refused := Mcu.mcu_failure .ENOTSUP
    "direct N76 requires exact DH2600/DXP480T Plus and explicit BUS:0x31 or BUS:0x26"
  match model_of identity with
  | none => fail refused
  | some model => do
    bail (¬ n76_profile model ∨ access.n76_bus > 65535 ∨
      (access.n76_address ≠ 0x31 ∧ access.n76_address ≠ 0x26)) refused
    acquire
    mapError (open_bus access.n76_bus) plain
    let probed ← mapError (n76_probe identity) plain
    pure {
      identity := identity
      model := model
      access := access.toAccess
      locked := true
      chip_id := probed.1
      n76_version := probed.2
      n76_failed := false }

end UgreenNas.Led.N76
