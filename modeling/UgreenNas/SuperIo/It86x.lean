import UgreenNas.Effect.Interpret
import UgreenNas.Fan.It8613

/-! # Access to the Super I/O chip (`superio/it86x.c`)

    The configuration registers and those of the hardware monitor are
    reached through an index port and a data port each.  All processes use
    the same ports, under a file lock.

    * `ports`     : what the kernel and the ports are asked for;
    * `registers` : what `it86x.h` offers to its callers;
    * `it86x`     : the second by means of the first.
-/

namespace UgreenNas.SuperIo

open Effect Effect.Proc
open UgreenNas.Fan.It8613 (FanError)

/-! ## Ports -/

inductive PortOp where
  | access (path : String)
  | open_lock (path : String)
  /-- `LOCK_EX` on the file that was opened. -/
  | flock
  /-- Two ports from the number on. -/
  | ioperm (port : Nat) (turn_on : Bool)
  | outb (value : UInt8) (port : Nat)
  | inb (port : Nat)
  | close_lock

@[reducible] def PortOp.Ans : PortOp → Type
  | .access _ => Bool
  | .open_lock _ => Except Errno Unit
  | .flock => Except Errno Unit
  | .ioperm _ _ => Except Errno Unit
  | .outb _ _ => Unit
  | .inb _ => UInt8
  | .close_lock => Unit

abbrev ports : Sig := ⟨PortOp, PortOp.Ans⟩

def SIO_INDEX : Nat := 0x2e
def SIO_DATA : Nat := 0x2f
def HWM_INDEX : Nat := 0xa35
def HWM_DATA : Nat := 0xa36
def IT8613_ID : Nat := 0x8613

/-- `struct it86x_device`; `locked` says that `lock_fd` is one. -/
structure Device where
  ports_enabled : Bool
  config_open : Bool
  locked : Bool
  chip_id : Nat
  revision : UInt8
  deriving DecidableEq

/-- `memset(device, 0, sizeof(*device)); device->lock_fd = -1;` -/
def Device.none : Device := ⟨false, false, false, 0, 0⟩

abbrev Sio (α : Type) : Type := Proc ports Device FanError α

def port (o : PortOp) : Sio o.Ans := @ask ports Device FanError o

def outb (value : UInt8) (n : Nat) : Sio Unit := port (.outb value n)
def inb (n : Nat) : Sio UInt8 := port (.inb n)

/-! ### Sequences -/

def sio_enter : Sio Unit := do
  outb 0x87 SIO_INDEX
  outb 0x01 SIO_INDEX
  outb 0x55 SIO_INDEX
  outb 0x55 SIO_INDEX

def sio_exit : Sio Unit := do
  outb 0x02 SIO_INDEX
  outb 0x02 SIO_DATA

/-- A register through its pair of ports. -/
def indexed_read (index data : Nat) (reg : UInt8) : Sio UInt8 := do
  outb reg index
  inb data

def indexed_write (index data : Nat) (reg value : UInt8) : Sio Unit := do
  outb reg index
  outb value data

def it86x_sio_read (reg : UInt8) : Sio UInt8 := indexed_read SIO_INDEX SIO_DATA reg
def it86x_sio_write (reg value : UInt8) : Sio Unit := indexed_write SIO_INDEX SIO_DATA reg value
def it86x_hwm_read (reg : UInt8) : Sio UInt8 := indexed_read HWM_INDEX HWM_DATA reg
def it86x_hwm_write (reg value : UInt8) : Sio Unit := indexed_write HWM_INDEX HWM_DATA reg value

/-! ### `it86x_open`, `it86x_close` -/

def owner_paths : List String :=
  ["/proc/it86", "/sys/module/ug_it86x_sio", "/sys/module/ug_it86x_cpufan", "/sys/module/it87"]

def first_present : List String → Sio (Option String)
  | [] => pure none
  | path :: paths => do
    let present : Bool ← port (.access path)
    if present then return some path else first_present paths

def active_controller_owner : Sio (Option String) := first_present owner_paths

def close_config (device : Device) : Sio Unit :=
  if device.config_open then sio_exit else pure ()

/-- A failure is not looked at. -/
def close_ports (device : Device) : Sio Unit :=
  if device.ports_enabled then do
    let _ ← port (.ioperm HWM_INDEX false)
    let _ ← port (.ioperm SIO_INDEX false)
  else
    pure ()

def close_lock (device : Device) : Sio Unit :=
  if device.locked then port .close_lock else pure ()

def it86x_close : Sio Unit := do
  let device ← ctx
  close_config device
  close_ports device
  close_lock device
  update fun _ => .none

/-- Close what is open, and leave with the error. -/
def abandon {α : Type} (error : FanError) : Sio α := do
  it86x_close
  fail error

/-- `%04x` -/
def hex4 (n : Nat) : String := String.ofList ((Nat.toDigits 16 n).leftpad 4 '0')

/-- Both pairs of ports, or neither. -/
def enable_ports (strerror : Errno → String) : Sio Unit := do
  let sio : Except Errno Unit ← port (.ioperm SIO_INDEX true)
  match sio with
  | .error e => abandon ⟨e, denied e⟩
  | .ok _ =>
    let hwm : Except Errno Unit ← port (.ioperm HWM_INDEX true)
    match hwm with
    | .error e => do
      let _ ← port (.ioperm SIO_INDEX false)
      abandon ⟨e, denied e⟩
    | .ok _ => update fun device => { device with ports_enabled := true }
where
  denied (e : Errno) : String :=
    "direct I/O permission denied (run as root or grant CAP_SYS_RAWIO): " ++ strerror e

/-- The chip is the one that is known, and its hardware monitor is active. -/
def identify : Sio Unit := do
  sio_enter
  update fun device => { device with config_open := true }
  let high ← it86x_sio_read 0x20
  let low ← it86x_sio_read 0x21
  let chip_id := high.toNat * 256 + low.toNat
  update fun device => { device with chip_id := chip_id }
  let revision ← it86x_sio_read 0x22
  update fun device => { device with revision := revision &&& 0x0f }
  it86x_sio_write 0x07 0x04
  let active ← it86x_sio_read 0x30
  if active &&& 0x01 = 0 then
    abandon ⟨.ENODEV, "IT86x hardware-monitor logical device is disabled: "⟩
  else if chip_id ≠ IT8613_ID then
    abandon ⟨.ENODEV,
      "controller identity mismatch: found IT" ++ hex4 chip_id ++ ", expected IT8613"⟩
  else
    pure ()

def it86x_open (strerror : Errno → String) : Sio Unit := do
  update fun _ => .none
  let owner ← active_controller_owner
  match owner with
  | some path => fail ⟨.EBUSY, "controller owner is active; unload it before direct access: " ++ path⟩
  | none =>
    let opened : Except Errno Unit ← port (.open_lock "/run/ugreenctl-it8613.lock")
    match opened with
    | .error e => fail ⟨e, "cannot create controller lock: " ++ strerror e⟩
    | .ok _ =>
      update fun device => { device with locked := true }
      let flocked : Except Errno Unit ← port .flock
      match flocked with
      | .error e => abandon ⟨e, "cannot lock controller: " ++ strerror e⟩
      | .ok _ =>
        enable_ports strerror
        identify

/-! ## Registers -/

/-- The functions of `it86x.h`. -/
inductive RegisterOp where
  | it86x_open
  | it86x_sio_read (reg : UInt8)
  | it86x_sio_write (reg value : UInt8)
  | it86x_hwm_read (reg : UInt8)
  | it86x_hwm_write (reg value : UInt8)
  | it86x_close

@[reducible] def RegisterOp.Ans : RegisterOp → Type
  | .it86x_open => Except FanError Unit
  | .it86x_sio_read _ => UInt8
  | .it86x_sio_write _ _ => Unit
  | .it86x_hwm_read _ => UInt8
  | .it86x_hwm_write _ _ => Unit
  | .it86x_close => Unit

abbrev registers : Sig := ⟨RegisterOp, RegisterOp.Ans⟩

/-- A function that cannot fail. -/
def total {α : Type} (m : Sio α) (default : α) (device : Device) : Prog ports (α × Device) :=
  (m.run device).bind fun r => .pure (r.1.toOption.getD default, r.2)

def it86x (strerror : Errno → String) :
    (o : RegisterOp) → Device → Prog ports (o.Ans × Device)
  | .it86x_open => (it86x_open strerror).run
  | .it86x_sio_read reg => total (it86x_sio_read reg) 0
  | .it86x_sio_write reg value => total (it86x_sio_write reg value) ()
  | .it86x_hwm_read reg => total (it86x_hwm_read reg) 0
  | .it86x_hwm_write reg value => total (it86x_hwm_write reg value) ()
  | .it86x_close => total it86x_close ()

/-- What a command does when it is run by itself, in terms of the ports. -/
def on_ports (strerror : Errno → String) {α : Type} (command : Prog registers α) :
    Prog ports (α × Device) :=
  command.interpret (it86x strerror) .none

end UgreenNas.SuperIo
