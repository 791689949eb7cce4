import Mathlib.Logic.Function.Basic
import Mathlib.Tactic.SplitIfs
import UgreenNas.Effect.Pool
import UgreenNas.Fan.Registers
import UgreenNas.SuperIo.It86x

/-! # The chip, and the processes around it

    The chip remembers what was last written to its index ports, whoever
    wrote it.  A sequence of four bytes opens its configuration registers;
    those from 0x30 on belong to a logical device that is selected.  A write
    to a register may not get through as a whole.

    * `Chip`      : the state behind the ports;
    * `Registers` : what the callers of `it86x.h` think of;
    * `board`     : the ports, as one process among others finds them;
    * `answer`    : a board on which nothing fails.
-/

namespace UgreenNas.SuperIo

open Effect
open UgreenNas.Fan.It8613 (FanError Taking)

/-! ## State -/

/-- The registers of the hardware monitor's logical device, and of the
    hardware monitor. -/
structure Registers where
  sio : UInt8 → UInt8
  hwm : UInt8 → UInt8

structure Chip where
  /-- What was last written to the index port, as long as the configuration
      is closed; the last byte comes first. -/
  keys : List UInt8
  entered : Bool
  index : UInt8
  device : UInt8
  shared : UInt8 → UInt8
  /-- The registers of each logical device. -/
  own : UInt8 → UInt8 → UInt8
  hwm_index : UInt8
  hwm : UInt8 → UInt8

namespace Chip

/-- The configuration register `reg` while `device` is selected. -/
def config (chip : Chip) (device reg : UInt8) : UInt8 :=
  if reg = 0x07 then device else if reg < 0x30 then chip.shared reg else chip.own device reg

def view (chip : Chip) : Registers := ⟨chip.config 0x04, chip.hwm⟩

def set_config (chip : Chip) (reg value : UInt8) : Chip :=
  if reg < 0x30 then { chip with shared := Function.update chip.shared reg value }
  else { chip with
    own := Function.update chip.own chip.device (Function.update (chip.own chip.device) reg value) }

/-- The configuration is closed: a byte of the sequence may come. -/
def press (chip : Chip) (value : UInt8) : Chip :=
  let keys := (value :: chip.keys).take 4
  if keys = [0x55, 0x55, 0x01, 0x87] then { chip with keys := [], entered := true }
  else { chip with keys := keys }

/-- `chip'` may be what a byte sent to a port leaves behind. -/
def Takes (takes : Taking) (chip : Chip) (port : Nat) (value : UInt8) (chip' : Chip) : Prop :=
  if port = SIO_INDEX then
    chip' = if chip.entered then { chip with index := value } else chip.press value
  else if port = SIO_DATA then
    if chip.entered = false then
      chip' = chip
    else if chip.index = 0x02 then
      -- bit 1 closes the configuration
      chip' = if value &&& 0x02 = 0 then chip else { chip with entered := false }
    else if chip.index = 0x07 then
      chip' = { chip with device := value }
    else
      ∃ new, takes (chip.config chip.device chip.index) value new ∧
        chip' = chip.set_config chip.index new
  else if port = HWM_INDEX then
    chip' = { chip with hwm_index := value }
  else if port = HWM_DATA then
    ∃ new, takes (chip.hwm chip.hwm_index) value new ∧
      chip' = { chip with hwm := Function.update chip.hwm chip.hwm_index new }
  else
    chip' = chip

/-- What may be read from a port. -/
def Gives (chip : Chip) (port : Nat) (value : UInt8) : Prop :=
  (port = SIO_DATA → chip.entered = true → value = chip.config chip.device chip.index) ∧
    (port = HWM_DATA → value = chip.hwm chip.hwm_index)

end Chip

/-- `P` are the processes. -/
structure Board (P : Type) where
  chip : Chip
  /-- The lock file is open. -/
  opened : P → Bool
  /-- Who has the lock. -/
  holder : Option P
  /-- `ioperm` -/
  allowed : P → Nat → Bool
  /-- The registers when the process took the lock, and when it gave it up. -/
  taken : P → Option Registers
  left : P → Option Registers

namespace Board

variable {P : Type}

/-- Nobody runs; the chip may be in any state. -/
structure AtRest (s : Board P) : Prop where
  holder : s.holder = none
  opened : ∀ p, s.opened p = false
  allowed : ∀ p port, s.allowed p port = false
  taken : ∀ p, s.taken p = none
  left : ∀ p, s.left p = none

variable [DecidableEq P]

/-- Close the lock file, which gives the lock up. -/
def release (s : Board P) (p : P) : Board P :=
  if s.holder = some p then
    { s with
      opened := Function.update s.opened p false
      holder := none
      left := Function.update s.left p (some s.chip.view) }
  else
    { s with opened := Function.update s.opened p false }

/-- The end of a process: its files are closed, and the chip stays as it is. -/
def kill (p : P) (s : Board P) : Board P :=
  { s.release p with allowed := Function.update s.allowed p fun _ => false }

def permit (s : Board P) (p : P) (port : Nat) (turn_on : Bool) : Board P :=
  { s with
    allowed := Function.update s.allowed p fun n =>
      if n = port ∨ n = port + 1 then turn_on else s.allowed p n }

end Board

open Board

variable {P : Type} [DecidableEq P]

/-- The kernel and the ports, for the process `p`.  Nothing gets to a port
    without permission. -/
def board (takes : Taking) (p : P) : Env ports (Board P) := fun s o => match o with
  | .access _ => fun _ s' => s' = s
  | .open_lock _ => fun r s' => match r with
    | .ok _ => s' = { s with opened := Function.update s.opened p true }
    | .error _ => s' = s
  | .flock => fun r s' => match r with
    | .ok _ => s.opened p = true ∧ (s.holder = none ∨ s.holder = some p) ∧
        s' = { s with
          holder := some p
          taken := Function.update s.taken p (some s.chip.view) }
    | .error _ => s' = s
  | .ioperm port turn_on => fun r s' => match r with
    | .ok _ => s' = s.permit p port turn_on
    | .error _ => s' = s
  | .outb value port => fun _ s' =>
    if s.allowed p port then ∃ chip, s.chip.Takes takes port value chip ∧ s' = { s with chip := chip }
    else s' = s
  | .inb port => fun b s' => s' = s ∧ (s.allowed p port = true → s.chip.Gives port b)
  | .close_lock => fun _ s' => s' = s.release p

/-! ## A board that does what it is told -/

/-- Every value is taken. -/
def taken_whole : Taking := fun _ value new => new = value

/-- The chip behind a byte sent to a port. -/
def Chip.accept (chip : Chip) (port : Nat) (value : UInt8) : Chip :=
  if port = SIO_INDEX then
    if chip.entered then { chip with index := value } else chip.press value
  else if port = SIO_DATA then
    if chip.entered = false then chip
    else if chip.index = 0x02 then if value &&& 0x02 = 0 then chip else { chip with entered := false }
    else if chip.index = 0x07 then { chip with device := value }
    else chip.set_config chip.index value
  else if port = HWM_INDEX then
    { chip with hwm_index := value }
  else if port = HWM_DATA then
    { chip with hwm := Function.update chip.hwm chip.hwm_index value }
  else
    chip

def Chip.give (chip : Chip) (port : Nat) : UInt8 :=
  if port = SIO_DATA then chip.config chip.device chip.index
  else if port = HWM_DATA then chip.hwm chip.hwm_index
  else 0

theorem accept_sound (chip : Chip) (port : Nat) (value : UInt8) :
    chip.Takes taken_whole port value (chip.accept port value) := by
  unfold Chip.Takes Chip.accept taken_whole
  split_ifs <;> simp

theorem give_sound (chip : Chip) (port : Nat) : chip.Gives port (chip.give port) := by
  constructor
  · rintro rfl _
    rfl
  · rintro rfl
    rfl

/-- A lock that is held is not waited for. -/
def answer (p : P) (s : Board P) : (o : PortOp) → o.Ans × Board P
  | .access _ => (false, s)
  | .open_lock _ => (.ok (), { s with opened := Function.update s.opened p true })
  | .flock =>
    if s.opened p = true ∧ (s.holder = none ∨ s.holder = some p) then
      (.ok (), { s with
        holder := some p
        taken := Function.update s.taken p (some s.chip.view) })
    else
      (.error .EINTR, s)
  | .ioperm port turn_on => (.ok (), s.permit p port turn_on)
  | .outb value port =>
    if s.allowed p port then ((), { s with chip := s.chip.accept port value }) else ((), s)
  | .inb port => (s.chip.give port, s)
  | .close_lock => ((), s.release p)

theorem answer_sound (p : P) (s : Board P) (o : PortOp) :
    board taken_whole p s o (answer p s o).1 (answer p s o).2 := by
  cases o with
  | flock =>
    simp only [answer]
    split_ifs with h
    · exact ⟨h.1, h.2, rfl⟩
    · rfl
  | outb value port =>
    simp only [answer, board]
    split_ifs
    · exact ⟨_, accept_sound s.chip port value, rfl⟩
    · rfl
  | inb port => exact ⟨rfl, fun _ => give_sound s.chip port⟩
  | _ => rfl

end UgreenNas.SuperIo
