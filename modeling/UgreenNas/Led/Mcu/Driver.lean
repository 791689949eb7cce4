import UgreenNas.Effect.Proc
import UgreenNas.Led.Mcu.Protocol

/-! # The microcontroller transport (`led/led.c`)

    A session with an LED microcontroller on an I²C bus: reading an LED,
    changing one group of its fields, applying a patch, and identifying.
    Every write is authorized anew, acknowledged, and read back.
-/

namespace UgreenNas.Led.Mcu

open Effect Effect.Proc

/-! ## Operations -/

inductive McuOp where
  | owners
  | read_identity
  | read_byte (command : Nat)
  | read_word (command : Nat)
  | read_block (command : Nat)
  | write_block (transfer : Transfer) (command : Nat) (data : List UInt8)
  | pause_ms (milliseconds : Nat)

@[reducible] def McuOp.Ans : McuOp → Type
  | .owners => Except Errno Unit
  | .read_identity => Except (Errno × String) Identity
  | .read_byte _ => Except Errno UInt8
  | .read_word _ => Except Errno Nat
  | .read_block _ => Except Errno (List UInt8)
  | .write_block _ _ _ => Except Errno Unit
  | .pause_ms _ => Unit

abbrev mcu_io : Sig := ⟨McuOp, McuOp.Ans⟩

/-! ## Sessions and reports -/

/-- `struct ugreenctl_led_session`; `model` is the profile of its identity. -/
structure Session where
  identity : Identity
  model : Model
  access : Access
  locked : Bool
  chip_id : Nat
  deriving DecidableEq, Repr

/-- What a failed function leaves in the caller's error buffer. -/
inductive McuReport where
  | plain (report : Report)
  /-- A message followed by the error's text. -/
  | strerror (message : String) (errno : Errno)
  | restoration_failed (restore_error : McuReport)
  deriving DecidableEq, Repr

def McuReport.render (strerror : Errno → String) : McuReport → String
  | .plain report => report.render strerror
  | .strerror message errno => message ++ strerror errno
  | .restoration_failed restore_error =>
    "identify restoration failed: " ++ cut 255 (restore_error.render strerror)

structure McuFailure where
  errno : Errno
  report : McuReport
  deriving DecidableEq, Repr

/-- `fail(error, size, -errno, message)` -/
def mcu_failure (errno : Errno) (message : String) : McuFailure := ⟨errno, .plain (.text message)⟩

/-- The failure `message` for whatever error number the callee returned. -/
def mcu_reported (message : String) (errno : Errno) : McuFailure := mcu_failure errno message

/-- The functions that report only an error number. -/
abbrev Io (α : Type) : Type := Proc mcu_io Session Errno α

/-- The functions that write to an error buffer. -/
abbrev Fun (α : Type) : Type := Proc mcu_io Session McuFailure α

def io {ε : Type} (o : McuOp) : Proc mcu_io Session ε o.Ans := @ask mcu_io Session ε o

/-- Four digits at least, as `%04x` prints them. -/
def hex4 (n : Nat) : String :=
  let digits := Nat.toDigits 16 n
  String.ofList (List.replicate (4 - digits.length) '0' ++ digits)

/-! ## Bus transactions -/

/-- `strncmp(protocol, "smbus-block-", 12) == 0` -/
def is_smbus (protocol : String) : Bool := "smbus-block-".toList.isPrefixOf protocol.toList

def pause_ms {ε : Type} (milliseconds : Nat) : Proc mcu_io Session ε Unit := do
  let _ ← io (McuOp.pause_ms milliseconds)

def owners : Io Unit := do
  let r : Except Errno Unit ← io McuOp.owners
  lift r

def read_chip_id : Io Nat := do
  let session ← ctx
  let r : Except Errno Nat ← io (McuOp.read_word session.model.chip_register)
  lift r

def read_status (id : Nat) : Io (List UInt8) := do
  let r : Except Errno (List UInt8) ← io (McuOp.read_block (0x81 + id))
  let block ← lift r
  bail (block.length ≠ 11) .EBADMSG
  pure block

/-- The SMBus framings send eleven bytes and their number. -/
def write_command (id : Nat) (frame : List UInt8) : Io Unit := do
  let session ← ctx
  let r : Except Errno Unit ←
    if is_smbus session.model.protocol then
      io (McuOp.write_block .smbus_block id (frame.take 11))
    else
      io (McuOp.write_block .i2c_block id frame)
  lift r

def read_ack : Io Unit := do
  let r : Except Errno UInt8 ← io (McuOp.read_byte 0x80)
  let data ← lift r
  bail (data ≠ 1) Errno.EIO

/-! ## Reading -/

def verify_session_identity : Fun Unit := do
  let session ← ctx
  let r : Except (Errno × String) Identity ← io McuOp.read_identity
  let current ← lift (r.mapError fun e => mcu_failure e.1 e.2)
  bail (¬ same_identity session.identity current)
    (mcu_failure .ESTALE "LED machine, board or BIOS identity changed; reopen and revalidate")

/-- Read a status frame and decode it. -/
def read_value (id : Nat) : Io Value := do
  let frame ← read_status id
  lift (decode frame)

def status_failure (id : Nat) (errno : Errno) : McuFailure :=
  ⟨errno, .strerror ("LED " ++ toString id ++ " status read/validation failed: ") errno⟩

/-- The attempts to read a status, with the pauses before them. -/
def read_attempts (id : Nat) : List Nat → Errno → Fun Value
  | [], errno => fail (status_failure id errno)
  | pause :: rest, _ => do
    pause_ms pause
    let r ← attempt (read_value id)
    match r with
    | .ok value => pure value
    | .error errno =>
      if errno = .EBUSY ∨ errno = .EACCES ∨ errno = .EPERM then
        fail (status_failure id errno)
      else
        read_attempts id rest errno

/-- `ugreenctl_led_read` -/
def read (id : Nat) : Fun Value := do
  let session ← ctx
  bail (¬ session.locked ∨ session.model.find_target id = none)
    (mcu_failure .EINVAL "LED target is absent from the exact model profile")
  verify_session_identity
  mapError owners (mcu_reported "LED controller ownership changed or is unreadable")
  read_attempts id [8, 3, 3] .EBADMSG

/-! ## Writing -/

def authorize_write : Fun Unit := do
  let session ← ctx
  bail (¬ session.locked) (mcu_failure .EINVAL "LED session is not locked")
  bail (¬ session.access.apply ∨ (session.model.experimental ∧ ¬ session.access.force))
    (mcu_failure .EPERM "experimental LED writes require --force --apply")
  verify_session_identity
  mapError owners
    (mcu_reported "LED controller ownership changed or is unreadable; write refused")
  let r ← attempt read_chip_id
  let unavailable :=
    mcu_failure .ENOTSUP "LED chip identity unavailable; writes refused even with --force"
  let current ← lift (r.mapError fun _ => unavailable)
  bail (current = 0 ∨ session.chip_id = 0) unavailable
  bail (current ≠ session.model.expected_chip_id ∨ current ≠ session.chip_id)
    (mcu_failure .ENOTSUP ("LED chip identity 0x" ++ hex4 current ++
      " does not match the model's expected MCU family"))
  bail (¬ session.model.is_mcu)
    (mcu_failure .ENOTSUP "LED write protocol has not been implemented for this exact profile")

/-- The frame of a command in the framing of the protocol. -/
def command_frame (protocol : String) (id : Nat) (command : UInt8) (p : Parameters) :
    Except Errno (List UInt8) :=
  if is_smbus protocol then
    encode_smbus command p (protocol = "smbus-block-le")
  else
    encode id command p

/-- The fields `patch` asks for are those of `value`. -/
def Retained (patch : Patch) (value : Value) : Prop :=
  (patch.has PATCH_RGB = true → value.red = patch.value.red ∧ value.green = patch.value.green ∧
    value.blue = patch.value.blue) ∧
  (patch.has PATCH_BRIGHTNESS = true → value.brightness = patch.value.brightness) ∧
  (patch.has PATCH_MODE = true → value.mode = patch.value.mode) ∧
  (patch.has PATCH_TIMING = true → value.on_ms = patch.value.on_ms ∧
    value.off_ms = patch.value.off_ms)

instance (patch : Patch) (value : Value) : Decidable (Retained patch value) :=
  inferInstanceAs (Decidable (_ ∧ _))

/-- One command: authorize, write, acknowledge, read back. -/
def change (id : Nat) (command : UInt8) (p : Parameters) (expected : Patch) : Fun Value := do
  authorize_write
  let session ← ctx
  let frame ← lift ((command_frame session.model.protocol id command p).mapError fun errno =>
    ⟨errno, .plain .silent⟩)
  pause_ms 1
  mapError (write_command id frame) fun errno =>
    ⟨errno, .strerror "LED command write failed; state may have changed: " errno⟩
  pause_ms 2
  mapError read_ack
    (mcu_reported "LED MCU did not acknowledge command; state may have changed")
  let readback ← read id
  bail (¬ Retained expected readback)
    (mcu_failure Errno.EIO ("LED " ++ toString id ++
      " target fields did not match after writing; controller may use another protocol"))
  pure readback

def change_rgb (id : Nat) (patch : Patch) (readback : Value) : Fun Value :=
  if patch.has PATCH_RGB then
    change id 2 ⟨patch.value.red.toUInt8, patch.value.green.toUInt8, patch.value.blue.toUInt8, 0⟩
      ⟨PATCH_RGB, patch.value⟩
  else
    pure readback

def change_brightness (id : Nat) (patch : Patch) (readback : Value) : Fun Value :=
  if patch.has PATCH_BRIGHTNESS then
    change id 1 ⟨patch.value.brightness.toUInt8, 0, 0, 0⟩ ⟨PATCH_BRIGHTNESS, patch.value⟩
  else
    pure readback

/-- Blinking and breathing come with their timing. -/
def change_mode (id : Nat) (patch : Patch) (readback : Value) : Fun Value :=
  let cycle := patch.value.on_ms + patch.value.off_ms
  if patch.has PATCH_MODE then
    if patch.value.mode ≤ 1 then
      change id 3 ⟨patch.value.mode.toUInt8, 0, 0, 0⟩ ⟨PATCH_MODE, patch.value⟩
    else
      change id (if patch.value.mode = MODE_BLINK then 4 else 5)
        ⟨(cycle >>> 8).toUInt8, cycle.toUInt8, (patch.value.on_ms >>> 8).toUInt8,
          patch.value.on_ms.toUInt8⟩
        ⟨PATCH_MODE ||| PATCH_TIMING, patch.value⟩
  else
    pure readback

/-- `ugreenctl_led_apply`.  The patch check leaves a command to send, so the
    value read first is never the one returned. -/
def apply (id : Nat) (patch : Patch) : Fun Value := do
  let session ← ctx
  let target := session.model.find_target id
  bail (target = none)
    (mcu_failure .EINVAL "LED target is absent from the exact model profile")
  lift ((validate_target_patch target patch).mapError fun e => ⟨e.errno, .plain e.report⟩)
  authorize_write
  let readback ← read id
  let readback ← change_rgb id patch readback
  let readback ← change_brightness id patch readback
  let readback ← change_mode id patch readback
  bail (¬ Retained patch readback)
    (mcu_failure Errno.EIO ("LED " ++ toString id ++
      " final state did not retain all requested fields"))
  pure readback

/-! ## Identify -/

/-- A bright orange blink of 250 ms on and 250 ms off. -/
def identify_patch : Patch where
  fields := PATCH_RGB ||| PATCH_BRIGHTNESS ||| PATCH_MODE ||| PATCH_TIMING
  value := { mode := MODE_BLINK, red := 255, green := 100, brightness := 255, on_ms := 250,
             off_ms := 250 }

/-- Everything back; a steady mode is set by a second patch. -/
def restore_patch (original : Value) : Patch where
  fields := PATCH_RGB ||| PATCH_BRIGHTNESS ||| PATCH_MODE ||| PATCH_TIMING
  value := if original.mode ≤ 1 then { original with mode := MODE_BLINK } else original

def mode_patch (original : Value) : Patch := ⟨PATCH_MODE, original⟩

/-- The loop of `identify`: `cancelled n` is what the flag holds when it is
    read for the `n`-th time. -/
def wait_ticks (cancelled : Nat → Bool) : Nat → Nat → Fun Unit
  | 0, _ => pure ()
  | ticks + 1, n =>
    if cancelled n then pure ()
    else do
      pause_ms 100
      wait_ticks cancelled ticks (n + 1)

/-- A restoring patch; its failure is reported as such. -/
def restore (id : Nat) (patch : Patch) : Fun Value :=
  mapError (apply id patch) fun e => ⟨e.errno, .restoration_failed e.report⟩

/-- The value shows the original again. -/
def Restored (original current : Value) : Prop :=
  current.mode = original.mode ∧ current.brightness = original.brightness ∧
    current.red = original.red ∧ current.green = original.green ∧
    current.blue = original.blue ∧ current.on_ms = original.on_ms ∧
    current.off_ms = original.off_ms

instance (original current : Value) : Decidable (Restored original current) :=
  inferInstanceAs (Decidable (_ ∧ _))

/-- The second patch, if the first one had to blink. -/
def restore_mode (id : Nat) (original current : Value) : Fun Value :=
  if (restore_patch original).value.mode ≠ original.mode then restore id (mode_patch original)
  else pure current

/-- `ugreenctl_led_identify` for an RGB LED. -/
def identify (id seconds : Nat) (cancelled : Nat → Bool) : Fun Unit := do
  bail (seconds < 1 ∨ seconds > 60)
    (mcu_failure .EINVAL "identify duration must be 1..60 seconds")
  authorize_write
  let session ← ctx
  bail (session.model.find_target id = none)
    (mcu_failure .EINVAL "LED target is absent from the exact model profile")
  let original ← read id
  let result ← attempt (apply id identify_patch)
  match result with
  | .ok _ => wait_ticks cancelled (seconds * 10) 0
  | .error _ => pure ()
  let current ← restore id (restore_patch original)
  let current ← restore_mode id original current
  bail (¬ Restored original current)
    (mcu_failure Errno.EIO "identify restoration did not match the saved full state")
  let _ ← lift result

end UgreenNas.Led.Mcu
