import Mathlib.Data.Nat.Bitwise
import Mathlib.Logic.Function.Basic
import UgreenNas.Fan.Fallback

/-! # The registers behind the ports (`fan/it8613_direct.c`)

    The direct path reads and writes the HWM registers of the chip.  A read
    is answered by what the register holds.  A write may not get through, so
    what a register holds afterwards is left to a relation: a chip may take
    a value whole or lose it, or have bits that stick.
-/

namespace UgreenNas.Fan.It8613

open Effect Effect.Proc

/-! ## The chip -/

abbrev Registers : Type := UInt8 → UInt8

/-- `takes old value new`: a register that holds `old` may hold `new` after
    `value` is written to it. -/
abbrev Taking : Type := UInt8 → UInt8 → UInt8 → Prop

def bit (value : UInt8) (i : Nat) : Bool := value.toNat.testBit i

/-- Each bit is either taken over or left as it was. -/
def by_bits : Taking := fun old value new =>
  ∀ i < 8, bit new i = bit old i ∨ bit new i = bit value i

/-- The value is taken as a whole, or the write is lost. -/
def whole_or_lost : Taking := fun old value new => new = value ∨ new = old

/-- Opening the ports answers `opened`; nothing but a write changes a register. -/
def chip (opened : Except FanError Unit) (takes : Taking) : Env fan_io Registers :=
  fun regs o b regs' => match o, b with
  | .it86x_open, b => b = opened ∧ regs' = regs
  | .it86x_hwm_read register, b => b = regs register ∧ regs' = regs
  | .it86x_hwm_write register value, _ =>
    ∃ new, takes (regs register) value new ∧ regs' = Function.update regs register new
  | _, _ => regs' = regs

/-- A machine that takes whatever it is sent is such a chip. -/
theorem chip_unbound {takes : Taking} (htakes : ∀ old value, takes old value value)
    (name : String) (regs : Registers) (o : FanOp) :
    chip (.ok ()) takes regs o (unbound name regs o).1 (unbound name regs o).2 := by
  cases o with
  | it86x_hwm_write register value =>
    refine ⟨value, htakes _ _, ?_⟩
    funext r
    simp [unbound, Function.update_apply]
  | it86x_hwm_read register => exact ⟨rfl, rfl⟩
  | it86x_open => exact ⟨rfl, rfl⟩
  | _ => rfl

/-- What a channel is told, without the bit that makes it automatic. -/
def cleared (control : UInt8) : UInt8 := control &&& ~~~IT8613_DIRECT_MANUAL_BIT

theorem bit_cleared (control : UInt8) {i : Nat} (hi : i < 7) :
    bit (cleared control) i = bit control i := by
  have hmask : (~~~IT8613_DIRECT_MANUAL_BIT).toNat = 2 ^ 7 - 1 := by decide
  unfold bit cleared
  rw [UInt8.toNat_and, Nat.testBit_and, hmask, Nat.testBit_two_pow_sub_one]
  simp [hi]

/-! ## Channels -/

namespace DirectChannel

/-- The channel runs at its stored duty. -/
def Manual (channel : DirectChannel) (regs : Registers) : Prop :=
  regs channel.control_register &&& IT8613_DIRECT_MANUAL_BIT = 0

instance (channel : DirectChannel) (regs : Registers) : Decidable (channel.Manual regs) :=
  inferInstanceAs (Decidable (_ = _))

/-- The two registers that setting a channel writes. -/
def registers (channel : DirectChannel) : List UInt8 :=
  [channel.control_register, channel.duty_register]

/-- The channel is set: manual, at the duty `pwm`, and otherwise controlled
    as it was before. -/
structure FullySet (channel : DirectChannel) (pwm : UInt8) (regs regs' : Registers) : Prop where
  manual : channel.Manual regs'
  duty : regs' channel.duty_register = pwm
  control : ∀ i < 7, bit (regs' channel.control_register) i = bit (regs channel.control_register) i

/-- The channel is as it was before. -/
def Untouched (channel : DirectChannel) (regs regs' : Registers) : Prop :=
  ∀ register ∈ channel.registers, regs' register = regs register

/-- What is said when the mode does not read back. -/
def control_error (channel : DirectChannel) : FanError :=
  ⟨Errno.EIO, "direct fan control verification failed for: " ++ channel.id⟩

/-- What is said when the duty reads back as `readback`. -/
def duty_error (channel : DirectChannel) (pwm readback : UInt8) : FanError :=
  ⟨Errno.EIO, "direct fan PWM verification failed for: " ++ channel.id ++ " wrote " ++
    toString pwm.toNat ++ " but read back " ++ toString readback.toNat⟩

/-- A readback that differs from what was written, and how it is answered. -/
inductive ReadbackFails (channel : DirectChannel) (pwm : UInt8) (regs' : Registers) :
    FanError → Prop where
  | control (automatic : ¬ channel.Manual regs') :
      ReadbackFails channel pwm regs' channel.control_error
  | duty (differs : regs' channel.duty_register ≠ pwm) :
      ReadbackFails channel pwm regs' (channel.duty_error pwm (regs' channel.duty_register))

end DirectChannel

/-- Registers outside the list hold what they held. -/
def SameOutside (listed : List UInt8) (regs regs' : Registers) : Prop :=
  ∀ register, register ∉ listed → regs' register = regs register

/-- No register has two uses. -/
def DistinctRegisters (channels : List DirectChannel) : Prop :=
  (channels.flatMap DirectChannel.registers).Nodup

instance (channels : List DirectChannel) : Decidable (DistinctRegisters channels) :=
  inferInstanceAs (Decidable (List.Nodup _))

theorem SameOutside.trans {l m : List UInt8} {regs regs' regs'' : Registers}
    (h : SameOutside l regs regs') (h' : SameOutside m regs' regs'') :
    SameOutside (l ++ m) regs regs'' := by
  intro register hout
  rw [List.mem_append, not_or] at hout
  rw [h' register hout.2, h register hout.1]

/-! ## Setting one channel -/

namespace Direct

section spec

variable {opened : Except FanError Unit} {takes : Taking} {I : Registers → Prop}
  {regs : Registers}

theorem wp_read (register : UInt8) (Q : Except FanError UInt8 → Unit → Registers → Prop) :
    wp (chip opened takes) I (io (.it86x_hwm_read register)) Q () regs ↔
      (I regs ∧ Q (.ok (regs register)) () regs) := by
  constructor
  · intro h
    exact h (regs register) regs ⟨rfl, rfl⟩
  · intro h b regs' hstep
    obtain ⟨rfl, rfl⟩ := hstep
    exact h

theorem wp_write (register value : UInt8) (Q : Except FanError Unit → Unit → Registers → Prop) :
    wp (chip opened takes) I (io (.it86x_hwm_write register value)) Q () regs ↔
      ∀ new, takes (regs register) value new →
        I (Function.update regs register new) ∧
          Q (.ok ()) () (Function.update regs register new) := by
  constructor
  · intro h new hnew
    exact h () _ ⟨new, hnew, rfl⟩
  · intro h b regs' hstep
    obtain ⟨new, hnew, rfl⟩ := hstep
    exact h new hnew

theorem wp_open (Q : Except FanError (Except FanError Unit) → Unit → Registers → Prop) :
    wp (chip opened takes) I (io .it86x_open) Q () regs ↔ (I regs ∧ Q (.ok opened) () regs) := by
  constructor
  · intro h
    exact h opened regs ⟨rfl, rfl⟩
  · intro h b regs' hstep
    obtain ⟨rfl, rfl⟩ := hstep
    exact h

theorem wp_close (Q : Except FanError Unit → Unit → Registers → Prop) :
    wp (chip opened takes) I (io .it86x_close) Q () regs ↔ (I regs ∧ Q (.ok ()) () regs) := by
  constructor
  · intro h
    exact h () regs rfl
  · intro h b regs' hstep
    have hregs : regs' = regs := hstep
    rw [hregs]
    exact h

/-- The file after the control register has been written, with what it took. -/
def controlled (channel : DirectChannel) (regs : Registers) (control : UInt8) : Registers :=
  Function.update regs channel.control_register control

/-- The file after the duty register has been written too. -/
def driven (channel : DirectChannel) (regs : Registers) (control duty : UInt8) : Registers :=
  Function.update (controlled channel regs control) channel.duty_register duty

/-- All that setting a channel can do: two writes, each looked at again. -/
theorem wp_set_channel {channel : DirectChannel} {pwm : UInt8}
    {Q : Except FanError Unit → Unit → Registers → Prop} (hI : I regs) :
    wp (chip opened takes) I (set_channel_manual_pwm channel pwm.toNat) Q () regs ↔
      ∀ control, takes (regs channel.control_register)
          (cleared (regs channel.control_register)) control →
        I (controlled channel regs control) ∧
        (¬ channel.Manual (controlled channel regs control) →
          Q (.error channel.control_error) () (controlled channel regs control)) ∧
        (channel.Manual (controlled channel regs control) → ∀ duty,
          takes (controlled channel regs control channel.duty_register) pwm duty →
          I (driven channel regs control duty) ∧
          (duty = pwm → Q (.ok ()) () (driven channel regs control duty)) ∧
          (duty ≠ pwm → Q (.error (channel.duty_error pwm duty)) ()
            (driven channel regs control duty))) := by
  unfold set_channel_manual_pwm
  rw [wp_bind, wp_read, and_iff_right hI]
  dsimp only
  rw [wp_bind, wp_write]
  apply forall_congr'
  intro control
  apply imp_congr_right
  intro _
  apply and_congr_right
  intro hI₁
  dsimp only
  rw [wp_bind, wp_read, and_iff_right hI₁]
  dsimp only
  rw [wp_bind, wp_bail]
  apply and_congr Iff.rfl
  rw [not_not]
  apply imp_congr_right
  intro _
  dsimp only
  rw [wp_bind, wp_write, UInt8.ofNat_toNat]
  apply forall_congr'
  intro duty
  apply imp_congr_right
  intro _
  apply and_congr_right
  intro hI₂
  dsimp only
  rw [wp_bind, wp_read]
  have hreadback : Function.update (Function.update regs channel.control_register control)
      channel.duty_register duty channel.duty_register = duty := Function.update_self ..
  rw [and_iff_right hI₂]
  dsimp only
  rw [wp_bail, hreadback, not_not, and_comm]
  exact and_congr (imp_congr_left UInt8.toNat_inj) (imp_congr_left (not_congr UInt8.toNat_inj))

end spec

end Direct

end UgreenNas.Fan.It8613
