import UgreenNas.Disk.Text
import UgreenNas.Fan.Registers

/-! # Reading fans through the ports (`fan/it8613_direct.c`) -/

namespace UgreenNas.Fan.It8613

open Effect Effect.Proc
open UgreenNas.DiskMap (snprintf)

def IT8613_TACHOMETER_DIVIDEND : Nat := 675000
def IT8613_TACHOMETER_INVALID_12BIT : UInt16 := 0x0fff

/-- `struct ugreenctl_fan_status` -/
structure FanStatus where
  id : String
  pwm : UInt8
  pwm_known : Bool
  manual : Bool
  mode_known : Bool
  tachometer : UInt16
  rpm : Nat
  deriving DecidableEq

/-- What is said of a fan whose registers read as they do.  A channel that
    is not manual may follow any policy, so that its mode is not known. -/
def fan_status (channel : DirectChannel) (high low control duty : UInt8) : FanStatus :=
  let tachometer := UInt16.ofNat (high.toNat * 256 + low.toNat)
  let manual := channel.pwm_supported && control &&& IT8613_DIRECT_MANUAL_BIT = 0
  { id := String.ofList (snprintf 16 channel.id.toList)
    pwm := if channel.pwm_supported then duty else 0
    pwm_known := channel.pwm_supported
    manual := manual
    mode_known := manual
    tachometer := tachometer
    rpm :=
      if tachometer = 0 ∨ tachometer = IT8613_TACHOMETER_INVALID_12BIT ∨ tachometer = 0xffff then 0
      else IT8613_TACHOMETER_DIVIDEND / tachometer.toNat }

namespace Direct

/-- A channel without PWM has no registers for it that could be read. -/
def read_channel (channel : DirectChannel) : Io FanStatus := do
  let high : UInt8 ← io (.it86x_hwm_read channel.tachometer_high_register)
  let low : UInt8 ← io (.it86x_hwm_read channel.tachometer_low_register)
  if channel.pwm_supported then do
    let control : UInt8 ← io (.it86x_hwm_read channel.control_register)
    let duty : UInt8 ← io (.it86x_hwm_read channel.duty_register)
    pure (fan_status channel high low control duty)
  else
    pure (fan_status channel high low 0 0)

def read_channels : List DirectChannel → Io (List FanStatus)
  | [] => pure []
  | channel :: rest => do
    let fan ← read_channel channel
    let fans ← read_channels rest
    pure (fan :: fans)

end Direct

def it8613_direct_read_fans (channels : List DirectChannel) : Io (List FanStatus) := do
  Direct.validate_mapping channels
  let opened : Except FanError Unit ← io .it86x_open
  lift opened
  let fans ← Direct.read_channels channels
  io .it86x_close
  pure fans

/-! ## What is read -/

/-- The fan of a channel, by the registers as they are. -/
def DirectChannel.status (channel : DirectChannel) (regs : Registers) : FanStatus :=
  fan_status channel (regs channel.tachometer_high_register) (regs channel.tachometer_low_register)
    (regs channel.control_register) (regs channel.duty_register)

theorem fan_status_unsupported {channel : DirectChannel} (h : channel.pwm_supported = false)
    (high low control duty : UInt8) :
    fan_status channel high low control duty = fan_status channel high low 0 0 := by
  simp [fan_status, h]

namespace Direct

variable {opened : Except FanError Unit} {takes : Taking} {I : Registers → Prop}
  {regs : Registers}

theorem read_channel_spec (channel : DirectChannel) :
    wp (chip opened takes) (fun _ => True) (read_channel channel)
      (fun r _ regs' => regs' = regs ∧ r = .ok (channel.status regs)) () regs := by
  unfold read_channel
  rw [wp_bind, wp_read]
  refine ⟨trivial, ?_⟩
  dsimp only
  rw [wp_bind, wp_read]
  refine ⟨trivial, ?_⟩
  dsimp only
  cases hsupported : channel.pwm_supported with
  | true =>
    rw [if_pos rfl, wp_bind, wp_read]
    refine ⟨trivial, ?_⟩
    dsimp only
    rw [wp_bind, wp_read]
    exact ⟨trivial, rfl, rfl⟩
  | false =>
    refine ⟨rfl, ?_⟩
    exact congrArg Except.ok (fan_status_unsupported hsupported _ _ _ _).symm

theorem read_channels_spec (channels : List DirectChannel) :
    wp (chip opened takes) (fun _ => True) (read_channels channels)
      (fun r _ regs' => regs' = regs ∧ r = .ok (channels.map fun channel => channel.status regs))
      () regs := by
  induction channels with
  | nil => exact ⟨rfl, rfl⟩
  | cons channel rest ih =>
    rw [read_channels]
    apply wp_seq (read_channel_spec channel)
    · intro fan _ regs' h
      obtain ⟨rfl, hfan⟩ := h
      obtain rfl := Except.ok.inj hfan
      apply wp_seq ih
      · intro fans _ regs' h
        obtain ⟨rfl, hfans⟩ := h
        obtain rfl := Except.ok.inj hfans
        exact ⟨rfl, rfl⟩
      · intro _ _ _ h
        cases h.2
    · intro _ _ _ h
      cases h.2

end Direct

end UgreenNas.Fan.It8613
