import UgreenNas.Effect.Proc
import UgreenNas.Led.Basic

/-! # The GPIO transport (`led/led_gpio.c`)

    The functions of an open transport that look at the machine: `verify`
    and what it calls, and `read`.  None of them assigns to the context, so
    the context is a plain argument.
-/

namespace UgreenNas.Led.Gpio

open Effect Effect.Proc

/-! ## The machine -/

/-- `struct ugreenctl_machine_identity`, as far as an open transport reads
    it. -/
structure Machine where
  source : String
  product_name : String
  compatible : String

/-- The accesses of an open transport. -/
inductive GpioOp where
  | owners (client_pid : Nat)
  | identity_read_at (root : String)
  /-- Up to `capacity` bytes of a file. -/
  | read_file (path : String) (capacity : Nat)
  | realpath (path : String)
  /-- `GPIO_GET_CHIPINFO_IOCTL`: name and number of lines. -/
  | chip_info (chip_fd : Nat)
  /-- `GPIO_V2_LINE_GET_VALUES_IOCTL` -/
  | get_values (line_fd mask : Nat)

@[reducible] def GpioOp.Ans : GpioOp → Type
  | .owners _ => Except Errno Unit
  | .identity_read_at _ => Except Failure Machine
  | .read_file _ _ => Except Errno (List UInt8)
  | .realpath _ => Except Errno String
  | .chip_info _ => Except Errno (String × Nat)
  | .get_values _ _ => Except Errno Nat

abbrev gpio_io : Sig := ⟨GpioOp, GpioOp.Ans⟩

/-- `struct gpio_bank`; `count` is the number of offsets. -/
structure Bank where
  node : String
  offsets : List Nat
  chip : String
  device : String
  of_node : String
  chip_fd : Nat
  line_fd : Nat

/-- `struct ugreenctl_led_gpio`, as far as the functions below read it. -/
structure Context where
  profile : Profile
  machine : Machine
  root : String
  banks : Nat → Bank
  bank_count : Nat
  bank_for_led : Nat → Nat
  index_for_led : Nat → Nat
  client_pid : Nat

abbrev Io (α : Type) : Type := Proc gpio_io Unit Errno α

abbrev Fun (α : Type) : Type := Proc gpio_io Unit Failure α

def io {ε : Type} (o : GpioOp) : Proc gpio_io Unit ε o.Ans := @ask gpio_io Unit ε o

/-! ## The device tree -/

def PATH_MAX : Nat := 4096

/-- `snprintf` into a buffer for paths, the result not looked at. -/
def path_text (text : String) : String := cut (PATH_MAX - 1) text

def be32 : List UInt8 → Nat
  | a :: b :: c :: d :: _ => ((a.toNat * 256 + b.toNat) * 256 + c.toNat) * 256 + d.toNat
  | _ => 0

def read_binary (path : String) (capacity : Nat) : Io (List UInt8) := do
  let r : Except Errno (List UInt8) ← io (.read_file path capacity)
  let data ← lift r
  bail (data.length = capacity) .EOVERFLOW
  pure data

def property (c : Context) (node name : String) (capacity : Nat) : Io (List UInt8) := do
  let path := c.root ++ "/firmware/devicetree/base" ++ node ++ "/" ++ name
  bail (path.utf8ByteSize ≥ PATH_MAX) .ENAMETOOLONG
  read_binary path capacity

/-- A property that cannot be read is not the expected one. -/
def property_string (c : Context) (node name expected : String) : Fun Bool := do
  let r ← attempt (property c node name 128)
  match r with
  | .ok data => pure (data = expected.toUTF8.toList ++ [0])
  | .error _ => pure false

/-- The entry of a pin in `leds-gpios`. -/
def pin_matches (data : List UInt8) (phandle index offset : Nat) : Bool :=
  be32 (data.drop (index * 12)) = phandle && be32 (data.drop (index * 12 + 4)) = offset &&
    be32 (data.drop (index * 12 + 8)) = 0

/-- The pins of one bank, the first of them being entry `index`. -/
def pins_match (data : List UInt8) (phandle : Nat) : Nat → List Nat → Bool
  | _, [] => true
  | index, offset :: rest =>
    pin_matches data phandle index offset && pins_match data phandle (index + 1) rest

/-- The loop of `verify_tree` over the banks. -/
def verify_banks (c : Context) (data : List UInt8) : Nat → List Bank → Fun Unit
  | _, [] => pure ()
  | index, entry :: rest => do
    let compatible ← property_string c entry.node "compatible" "rockchip,gpio-bank"
    bail (compatible = false) (failure .ENOTSUP "GPIO bank identity is unavailable")
    let handle ← mapError (property c entry.node "phandle" 8) fun _ =>
      failure .ENOTSUP "GPIO bank identity is unavailable"
    bail (handle.length ≠ 4) (failure .ENOTSUP "GPIO bank identity is unavailable")
    bail (be32 handle = 0) ⟨.ENOTSUP, .silent⟩
    bail (pins_match data (be32 handle) index entry.offsets = false)
      (failure .ENOTSUP "GPIO pin routing differs from the exact official model")
    verify_banks c data (index + entry.offsets.length) rest

/-- The first `bank_count` banks. -/
def Context.bank_list (c : Context) : List Bank := (List.range c.bank_count).map c.banks

def verify_tree (c : Context) : Fun Unit := do
  let r : Except Failure Machine ← io (.identity_read_at c.root)
  let current ← lift r
  bail (current.source ≠ "devicetree" ∨ current.product_name ≠ c.machine.product_name ∨
      current.compatible ≠ c.machine.compatible)
    (failure .ENOTSUP "GPIO fallback requires the exact verified device-tree model and compatible")
  let compatible ← property_string c "/ug-led" "compatible" "ug-rockchip-led"
  bail (compatible = false) (failure .ENOTSUP "verified ug-led device-tree binding is absent")
  let status ← property_string c "/ug-led" "status" "okay"
  bail (status = false) (failure .ENOTSUP "verified ug-led device-tree binding is absent")
  let count ← mapError (property c "/ug-led" "led_num" 256) fun _ =>
    failure .ENOTSUP "GPIO LED count differs from official firmware"
  bail (count.length ≠ 4 ∨ be32 count ≠ c.profile.leds.length)
    (failure .ENOTSUP "GPIO LED count differs from official firmware")
  let wiring ← mapError (property c "/ug-led" "leds-gpios" 256) fun _ =>
    failure .ENOTSUP "GPIO wiring property differs from official firmware"
  bail (wiring.length ≠ 144)
    (failure .ENOTSUP "GPIO wiring property differs from official firmware")
  verify_banks c wiring 0 c.bank_list

/-! ## The chips -/

def realpath (path : String) : Io String := do
  let r : Except Errno String ← io (.realpath path)
  lift r

/-- `of_node` of a chip, which older kernels keep one level deeper. -/
def of_node_path (device : String) : Io String :=
  recover (realpath (path_text (device ++ "/of_node"))) fun _ =>
    realpath (path_text (device ++ "/device/of_node"))

/-- The device of a chip and its node. -/
def chip_path (c : Context) (name : String) : Io (String × String) := do
  let path := c.root ++ "/bus/gpio/devices/" ++ name
  bail (path.utf8ByteSize ≥ PATH_MAX) .ENAMETOOLONG
  let device ← realpath path
  bail (¬ (c.root ++ "/devices/").isPrefixOf device) .EPERM
  let of_node ← of_node_path device
  bail (¬ (path_text (c.root ++ "/firmware/devicetree/base/")).isPrefixOf of_node) .EPERM
  pure (device, of_node)

def chip_info (chip_fd : Nat) : Io (String × Nat) := do
  let r : Except Errno (String × Nat) ← io (.chip_info chip_fd)
  lift r

/-- The loop of `verify` over the banks. -/
def verify_chips (c : Context) : List Bank → Fun Unit
  | [] => pure ()
  | entry :: rest => do
    let paths ← mapError (chip_path c entry.chip) fun _ =>
      failure .ENOTSUP "GPIO chip binding changed during service lifetime"
    bail (paths ≠ (entry.device, entry.of_node))
      (failure .ENOTSUP "GPIO chip binding changed during service lifetime")
    let info ← mapError (chip_info entry.chip_fd) fun _ =>
      failure .ENOTSUP "GPIO chip identity changed"
    bail (info ≠ (entry.chip, 32)) (failure .ENOTSUP "GPIO chip identity changed")
    verify_chips c rest

def owners (c : Context) : Io Unit := do
  let r : Except Errno Unit ← io (.owners c.client_pid)
  lift r

def verify (c : Context) : Fun Unit := do
  mapError (owners c) (reported "another LED controller process is active")
  verify_tree c
  verify_chips c c.bank_list

/-! ## Reading -/

def COLOR_WHITE : UInt32 := 1
def COLOR_ORANGE : UInt32 := 2
def COLOR_RED : UInt32 := 4

def second_color (c : Context) : UInt32 :=
  if c.profile.product_name = "DH2300" then COLOR_ORANGE else COLOR_RED

def target_index (c : Context) (id : Nat) : Option Nat :=
  c.profile.leds.findIdx? fun led => led.id = id

/-- What the two lines of an LED say. -/
def line_value (c : Context) (bits : Nat) : Value :=
  let lit := if bits = 0 then 0 else 1
  let unknown := PATCH_RGB ||| PATCH_TIMING
  if bits = 1 then
    { unknown_fields := unknown, mode := lit, brightness := lit, color := COLOR_WHITE }
  else if bits = 2 then
    { unknown_fields := unknown, mode := lit, brightness := lit, color := second_color c }
  else
    { unknown_fields := unknown ||| PATCH_COLOR, mode := lit, brightness := lit }

/-- `read` of the LED at a position of the profile. -/
def read_at (c : Context) (index : Nat) : Fun Value := do
  verify c
  let entry := c.banks (c.bank_for_led index)
  let offset := c.index_for_led index
  let r : Except Errno Nat ← io (.get_values entry.line_fd (3 <<< offset))
  let values ← lift (r.mapError (reported "GPIO line readback failed"))
  pure (line_value c ((values >>> offset) &&& 3))

def read (c : Context) (id : Nat) : Fun Value :=
  match target_index c id with
  | none => fail ⟨.EINVAL, .silent⟩
  | some index => read_at c index

/-! ## The client -/

/-- `ugreenctl_led_gpio_set_client` -/
def set_client (c : Context) (pid : Nat) : Context := { c with client_pid := pid }

end UgreenNas.Led.Gpio
