import UgreenNas.Effect.Proc
import UgreenNas.Led.Basic
import Mathlib.Logic.Function.Basic

/-! # The CS2011 and its ports

    The operations of `struct cs_io`, and the chip behind them: the two
    configuration ports at `0x2e/0x2f` and the runtime interface, which an
    embedded-controller register is addressed and read or written through.

    An access may fail; one that succeeds is honest, but for writes to the
    data port: such a write may take effect or not, whatever it reports.
-/

namespace UgreenNas.Led.Cs201x

open Effect

/-! ## Operations -/

inductive CsOp where
  | calloc
  | detect
  | owners (base client_pid : Nat)
  | lock
  | unlock
  | permission (port count : Nat) (enable : Bool)
  | read_port (port : Nat)
  | write_port (port : Nat) (value : UInt8)
  | pause_ms (milliseconds : Nat)

/-- A failing `detect` writes its own report. -/
@[reducible] def CsOp.Ans : CsOp → Type
  | .calloc => Bool
  | .detect => Except (Errno × String) Identity
  | .owners _ _ => Except Errno Unit
  | .lock => Except Errno Unit
  | .unlock => Unit
  | .permission _ _ _ => Except Errno Unit
  | .read_port _ => Except Errno UInt8
  | .write_port _ _ => Except Errno Unit
  | .pause_ms _ => Unit

/-- `struct cs_io` -/
abbrev cs_io : Sig := ⟨CsOp, CsOp.Ans⟩

/-! ## The chip -/

def CS_INDEX : Nat := 0x2e
def CS_VALUE : Nat := 0x2f
def CS_FLOW : Nat := 0x20005440

/-- The seven bytes of an LED. -/
inductive Field where
  | mode
  | brightness
  | period
  | duty
  | red
  | green
  | blue
  deriving DecidableEq, Repr

/-- `struct cs_raw` -/
abbrev Raw : Type := Field → UInt8

def Field.all : List Field := [.mode, .brightness, .period, .duty, .red, .green, .blue]

theorem Field.mem_all (field : Field) : field ∈ Field.all := by
  cases field <;> decide

/-- `memcmp` on two LEDs. -/
instance : DecidableEq Raw := fun a b =>
  decidable_of_iff (∀ field ∈ Field.all, a field = b field)
    ⟨fun h => funext fun field => h field field.mem_all, fun h field _ => by rw [h]⟩

def Field.register : Field → Nat
  | .mode => 0x20005400
  | .brightness => 0x20005404
  | .period => 0x20005408
  | .duty => 0x2000540c
  | .red => 0x20005445
  | .green => 0x20005446
  | .blue => 0x20005444

def Field.is_rgb : Field → Bool
  | .red | .green | .blue => true
  | _ => false

def reg_address (id : Nat) (field : Field) : Nat :=
  field.register + if field.is_rgb then id * 4 else id

structure Device where
  index : UInt8
  ldn : UInt8
  /-- The configuration registers of each logical device. -/
  config : UInt8 → UInt8 → UInt8
  /-- The four address bytes of the runtime interface, low byte first. -/
  latch : Nat → UInt8
  /-- The registers of the embedded controller. -/
  mem : Nat → UInt8
  /-- How often the data port has been written, with or without effect. -/
  data_writes : Nat

namespace Device

/-- The runtime base configured in logical device `0x0a`. -/
def base (d : Device) : Nat := (d.config 0x0a 0x60).toNat * 256 + (d.config 0x0a 0x61).toNat

/-- The bytes of LED `id`. -/
def raw (d : Device) (id : Nat) : Raw := fun field => d.mem (reg_address id field)

def flow (d : Device) : UInt8 := d.mem CS_FLOW

/-- The register the address bytes select. -/
def selected (d : Device) : Nat :=
  (d.latch 3).toNat * 2 ^ 24 + (d.latch 2).toNat * 2 ^ 16 + (d.latch 1).toNat * 2 ^ 8 +
    (d.latch 0).toNat

end Device

/-! ## Accesses -/

/-- What a port number stands for. -/
inductive Port where
  | index
  | value
  | address (byte : Nat)
  | data
  | other
  deriving DecidableEq, Repr

namespace Device

def port (d : Device) (p : Nat) : Port :=
  if p = CS_INDEX then .index
  else if p = CS_VALUE then .value
  else if d.base + 4 ≤ p ∧ p ≤ d.base + 7 then .address (p - d.base - 4)
  else if p = d.base + 8 then .data
  else .other

/-- The configuration register behind `CS_VALUE`; register 7 is the selector. -/
def config_value (d : Device) : UInt8 :=
  if d.index = 0x07 then d.ldn else d.config d.ldn d.index

/-- A write that takes effect. -/
def write (d : Device) (p : Nat) (value : UInt8) : Device :=
  match d.port p with
  | .index => { d with index := value }
  | .value =>
    if d.index = 0x07 then { d with ldn := value }
    else
      let registers := Function.update (d.config d.ldn) d.index value
      { d with config := Function.update d.config d.ldn registers }
  | .address byte => { d with latch := Function.update d.latch byte value }
  | .data =>
    { d with mem := Function.update d.mem d.selected value, data_writes := d.data_writes + 1 }
  | .other => d

/-- A write that takes no effect. -/
def ignore (d : Device) (p : Nat) : Device :=
  match d.port p with
  | .data => { d with data_writes := d.data_writes + 1 }
  | _ => d

/-- What reading a port that succeeds may return. -/
def reads (d : Device) (p : Nat) (value : UInt8) : Prop :=
  match d.port p with
  | .value => value = d.config_value
  | .data => value = d.mem d.selected
  | _ => True

/-- The value of a port whose reads succeed. -/
def value (d : Device) (p : Nat) : UInt8 :=
  match d.port p with
  | .value => d.config_value
  | .data => d.mem d.selected
  | _ => 0

theorem reads_value (d : Device) (p : Nat) : d.reads p (d.value p) := by
  unfold reads value
  cases d.port p <;> trivial

end Device

/-- The environment of the driver. -/
def access : Env cs_io Device
  | d, .read_port p, .ok value, d' => d' = d ∧ d.reads p value
  | d, .write_port p value, .ok (), d' =>
    d' = d.write p value ∨ d.port p = .data ∧ d' = d.ignore p
  | d, .write_port p value, .error _, d' => d' = d.write p value ∨ d' = d.ignore p
  | d, _, _, d' => d' = d

/-- The environment on a machine where nothing fails. -/
def steady (identity : Identity) : Env cs_io Device
  | d, .calloc, b, d' => b = true ∧ d' = d
  | d, .detect, b, d' => b = .ok identity ∧ d' = d
  | d, .owners _ _, b, d' => b = .ok () ∧ d' = d
  | d, .lock, b, d' => b = .ok () ∧ d' = d
  | d, .unlock, _, d' => d' = d
  | d, .permission _ _ _, b, d' => b = .ok () ∧ d' = d
  | d, .read_port p, b, d' => b = .ok (d.value p) ∧ d' = d
  | d, .write_port p value, b, d' => b = .ok () ∧ d' = d.write p value
  | d, .pause_ms _, _, d' => d' = d

theorem steady_access {identity : Identity} (d : Device) (o : CsOp) (b : o.Ans) (d' : Device)
    (h : steady identity d o b d') : access d o b d' := by
  cases o with
  | read_port p =>
    obtain ⟨rfl, rfl⟩ := h
    exact ⟨rfl, d'.reads_value p⟩
  | write_port p value =>
    obtain ⟨rfl, rfl⟩ := h
    exact .inl rfl
  | unlock => exact h
  | pause_ms => exact h
  | calloc => exact h.2
  | detect => exact h.2
  | owners => exact h.2
  | lock => exact h.2
  | permission => exact h.2

theorem steady_deterministic (identity : Identity) : Prog.Deterministic (steady identity) := by
  intro d o b b' d' d'' h h'
  cases o with
  | unlock => exact ⟨rfl, h.trans h'.symm⟩
  | pause_ms => exact ⟨rfl, h.trans h'.symm⟩
  | _ => exact ⟨h.1.trans h'.1.symm, h.2.trans h'.2.symm⟩

end UgreenNas.Led.Cs201x
