import UgreenNas.Disk.Controllers

/-! # The factory's ATA numbers (`disk/disk.c`)

    The official tables name SATA bays by global ATA numbers.  A number is
    converted into a local port only when the complete inventory of
    controllers and ports is one of those that the factory ships.
-/

namespace UgreenNas.DiskMap

open Effect

/-! ## ARM boards -/

def controller_of_node (root controller node : Text) : Attributes Bool := do
  let some expected ←
      realpath (snprintf PATH_MAX (root ++ "/firmware/devicetree/base/" ++ node))
    | return false
  let actual ← realpath (snprintf PATH_MAX (controller ++ "/of_node"))
  return actual = some expected

/-- Bytes, as the characters of a text. -/
def byte_text (values : List Nat) : Text := values.map Char.ofNat

/-- A C string with its final NUL, as device-tree properties hold it. -/
def property (text : Text) : Text := text ++ byte_text [0]

def native_ahci_node (root controller node : Text) (address : Nat) : Attributes Bool := do
  let reg := byte_text [0, 0, 0, 0, address / 2 ^ 24 % 256, address / 2 ^ 16 % 256,
    address / 2 ^ 8 % 256, address % 256, 0, 0, 0, 0, 0, 0, 0x10, 0]
  let of_node := controller ++ "/of_node"
  if !(← controller_of_node root controller node) then return false
  if !(← property_equals (snprintf PATH_MAX (of_node ++ "/compatible"))
      (property "rockchip,rk-ahci" ++ property "snps,dwc-ahci")) then return false
  if !(← property_equals (snprintf PATH_MAX (of_node ++ "/reg")) reg) then return false
  if !(← property_equals (snprintf PATH_MAX (of_node ++ "/ports-implemented"))
      (byte_text [0, 0, 0, 1])) then return false
  if !(← property_equals (snprintf PATH_MAX (of_node ++ "/status")) (property "okay")) then
    return false
  let driver ← driver_name controller
  return reads driver "dwc-ahci" || reads driver "ahci"

/-- A path and the paths above it. -/
def parents : Nat → Text → List Text
  | 0, path => [path]
  | n + 1, path =>
    path :: match strrchr path '/' with
      | some (up, _) => parents n up
      | none => []

/-- The registers of the PCIe host: whole entries, the first one known. -/
def File.host_registers (file : File) : Bool :=
  let reg := file.bytes.take 64
  !(file.error && file.bytes.length < 64) && file.bytes.length ≤ 64 && 16 ≤ reg.length &&
    reg.length % 16 = 0 && reg.take 16 = byte_text [0, 0, 0, 0, 0xfe, 0x17, 0, 0, 0, 0, 0, 0, 0, 1, 0, 0]

/-- The loop of `pci_under_of_node` over a controller and the devices above it. -/
def under_of_node (root node : Text) : List Text → Attributes Bool
  | [] => return false
  | parent :: rest => do
    if parent.length ≤ root.length + 9 then
      return false
    else if ← controller_of_node root parent node then do
      if !(← property_equals (snprintf PATH_MAX (parent ++ "/of_node/compatible"))
          (property "rockchip,rk3588-pcie" ++ property "snps,dw-pcie")) then return false
      if !(← property_equals (snprintf PATH_MAX (parent ++ "/of_node/status")) (property "okay"))
        then return false
      match ← fopen (snprintf PATH_MAX (parent ++ "/of_node/reg")) with
      | none => return false
      | some file => return file.host_registers
    else
      under_of_node root node rest

def pci_under_of_node (root controller node : Text) : Attributes Bool :=
  under_of_node root node (parents controller.length controller)

/-- The body of the loop over PCI functions: the number of SATA controllers,
    and the name and path of the last one. -/
def arm_function (root : Text) (four : Bool) (st : Nat × Text × Text) (entry : Text) :
    Sysfs (Except Unit (Nat × Text × Text)) := do
  let directory := snprintf PATH_MAX (root ++ "/bus/pci/devices")
  if dot entry then return .ok st
  let some class_code ← read_hex (snprintf PATH_MAX (directory ++ "/" ++ entry ++ "/class"))
    | return .error ()
  if class_code / 256 ≠ 0x0106 then return .ok st
  if !four || st.1 ≠ 0 || class_code ≠ 0x010601 || !is_pci entry then return .error ()
  let vendor ← read_hex (snprintf PATH_MAX (directory ++ "/" ++ entry ++ "/vendor"))
  if vendor ≠ some 0x1b21 then return .error ()
  let device ← read_hex (snprintf PATH_MAX (directory ++ "/" ++ entry ++ "/device"))
  if device ≠ some 0x0612 then return .error ()
  let some controller ← realpath (snprintf PATH_MAX (directory ++ "/" ++ entry)) | return .error ()
  if !(← pci_under_of_node root controller "pcie@fe170000") then return .error ()
  if !(← controller_ports root entry 2) then return .error ()
  return .ok (st.1 + 1, entry, controller)

/-- The loop state over ATA ports. -/
structure ArmPorts where
  count : Nat := 0
  native_mask : Nat := 0
  pci_ports : Nat := 0
  result : Nat := 0
  deriving DecidableEq

/-- The first native controller that `controller` is. -/
def native_index (root controller : Text) : Nat → List (Text × Nat) → Attributes (Option Nat)
  | _, [] => return none
  | n, (node, address) :: rest => do
    if ← native_ahci_node root controller node address then
      return some n
    else
      native_index root controller (n + 1) rest

/-- The body of the loop over ATA ports. -/
def arm_port (root : Text) (four : Bool) (nodes : List (Text × Nat)) (pci pci_controller : Text)
    (disk : Disk) (st : ArmPorts) (entry : Text) : Attributes (Except Unit ArmPorts) := do
  let directory := snprintf PATH_MAX (root ++ "/class/ata_port")
  if dot entry then return .ok st
  let some ata := ata_number entry | return .error ()
  let some resolved ← realpath (snprintf PATH_MAX (directory ++ "/" ++ entry)) | return .error ()
  let some (before, _) := strstr (resolved.drop root.length) "/ata" | return .error ()
  let controller := resolved.take root.length ++ before
  if ata_port_path controller ata ≠ resolved then return .error ()
  let value ← read_text (snprintf PATH_MAX (resolved ++ "/port_no")) 32
  let some port := value.bind parse_number | return .error ()
  if port = 0 then return .error ()
  if four && controller = pci_controller then
    if port > 2 || st.pci_ports.testBit (port - 1) then return .error ()
    return .ok { st with
      count := st.count + 1
      pci_ports := st.pci_ports ||| 2 ^ (port - 1)
      result := if ata = disk.ata && pci = disk.pci then 2 + port else st.result }
  else
    let some n ← native_index root controller 0 nodes | return .error ()
    if port ≠ 1 || st.native_mask.testBit n then return .error ()
    return .ok { st with
      count := st.count + 1
      native_mask := st.native_mask ||| 2 ^ n
      result := if ata = disk.ata && disk.pci.isEmpty then n + 1 else st.result }

/-- The native AHCI nodes of a board, in the order the factory numbers them. -/
def arm_nodes (four : Bool) : List (Text × Nat) :=
  if four then [("sata@fe230000", 0xfe230000), ("sata@fe220000", 0xfe220000)]
  else [("sata@2a240000", 0x2a240000), ("sata@2a250000", 0x2a250000)]

def arm_model (four : Bool) : Text :=
  if four then "UGREEN RK3588C DH4300Plus Board" else "UGREEN RK3576 DH2300 Board"

/-- The SATA controllers on PCI: their number, and the name and path of the
    only one.  A DH2300 may come without a PCI bus. -/
def arm_pci (root : Text) (four : Bool) : Sysfs (Except Unit (Nat × Text × Text)) := do
  match ← opendir (snprintf PATH_MAX (root ++ "/bus/pci/devices")) with
  | .error errno => return if four || errno ≠ Errno.ENOENT then .error () else .ok (0, [], [])
  | .ok functions => Prog.walk (arm_function root four) (0, [], []) functions.entries

/-- The factory's number of a disk on an ARM board, 0 when the board is not
    complete. -/
def firmware_arm_ata_index (root model : Text) (disk : Disk) : Sysfs Nat := do
  let four : Bool := model = "DH4300 Plus"
  if model ≠ "DH2300" && !four then return 0
  if !(← property_equals (snprintf PATH_MAX (root ++ "/firmware/devicetree/base/model"))
      (property (arm_model four))) then return 0
  let .ok (sata_controllers, pci, pci_controller) ← arm_pci root four | return 0
  if sata_controllers ≠ (if four then 1 else 0) then return 0
  let .ok ata_ports ← opendir (snprintf PATH_MAX (root ++ "/class/ata_port")) | return 0
  let seen ← (Prog.walk (arm_port root four (arm_nodes four) pci pci_controller disk) {}
    ata_ports.entries : Attributes _)
  let .ok ports := seen | return 0
  if ports.count = (if four then 4 else 2) && ports.native_mask = 3 &&
      ports.pci_ports = (if four then 3 else 0) then
    return ports.result
  return 0

/-! ## Several controllers on PCI -/

/-- `struct controller`. -/
structure Controller where
  pci : Text
  path : Text
  vendor : Nat
  device : Nat
  ports : Nat
  bridge : Nat
  deriving DecidableEq, Repr

/-- The number of local ports, looked for in `1 .. 8`. -/
def port_count (root pci : Text) : List Nat → Sysfs Nat
  | [] => return 0
  | n :: rest => do
    if ← controller_ports root pci n then return n else port_count root pci rest

/-- The bridge above a controller: 1 for `51bc`, 2 for `51be`, 0 for neither. -/
def bridge_role (path : Text) : Attributes Nat := do
  let first ← bridge_matches path "8086:51bc"
  let second ← bridge_matches path "8086:51be"
  return if second then 2 else if first then 1 else 0

/-- The body of the loop over PCI functions: the SATA controllers so far. -/
def factory_function (root : Text) (controllers : List Controller) (entry : Text) :
    Sysfs (Except Unit (List Controller)) := do
  let directory := snprintf PATH_MAX (root ++ "/bus/pci/devices")
  if dot entry then return .ok controllers
  let some class_code ← read_hex (snprintf PATH_MAX (directory ++ "/" ++ entry ++ "/class"))
    | return .error ()
  if class_code / 256 ≠ 0x0106 then return .ok controllers
  if class_code ≠ 0x010601 || controllers.length = 4 || !is_pci entry then return .error ()
  let some path ← realpath (snprintf PATH_MAX (directory ++ "/" ++ entry)) | return .error ()
  let some vendor ← read_hex (snprintf PATH_MAX (path ++ "/vendor")) | return .error ()
  let some device ← read_hex (snprintf PATH_MAX (path ++ "/device")) | return .error ()
  let ports ← port_count root entry [1, 2, 3, 4, 5, 6, 7, 8]
  if ports = 0 then return .error ()
  let bridge ← bridge_role path
  return .ok (controllers ++ [⟨entry, path, vendor, device, ports, bridge⟩])

/-- The first factory number of the ports of `c`, when it has a place next
    to the others; `other` is the second of two controllers. -/
def factory_base (expected count : Nat) (c : Controller) (other : Option Controller) :
    Option Nat :=
  if count = 1 then
    if (c.vendor = 0x8086 && c.ports = 2 && expected = 2) ||
        (c.vendor = 0x1b21 && ((expected = 4 && c.device = 0x1164) ||
          (expected = 6 && c.device = 0x1166))) then
      some 0
    else
      none
  else
    match other with
    | none => none
    | some other =>
      if expected = 4 || expected = 6 then
        if c.vendor = 0x8086 && c.ports = 2 && other.vendor = 0x1b21 &&
            other.ports = expected - 2 &&
            ((expected = 4 && (other.device = 0x0612 || other.device = 0x1062)) ||
              (expected = 6 && other.device = 0x1164)) then
          some 0
        else if c.vendor = 0x1b21 && other.vendor = 0x8086 && other.ports = 2 &&
            c.ports = expected - 2 &&
            ((expected = 4 && (c.device = 0x0612 || c.device = 0x1062)) ||
              (expected = 6 && c.device = 0x1164)) then
          some 2
        else
          none
      else if expected = 8 && c.vendor = 0x1b21 && c.device = 0x1164 && c.ports = 4 &&
          c.bridge ≠ 0 && other.vendor = 0x1b21 && other.device = 0x1164 && other.ports = 4 &&
          other.bridge ≠ 0 && other.bridge ≠ c.bridge then
        some (if c.bridge = 1 then 0 else 4)
      else
        none

/-- The loop over the controllers, each with the other one of two. -/
def factory_index (expected count : Nat) (disk : Disk) :
    List (Controller × Option Controller) → Nat
  | [] => 0
  | (c, other) :: rest =>
    match factory_base expected count c other with
    | none => 0
    | some base =>
      if c.pci = disk.pci then base + disk.ata_port else factory_index expected count disk rest

/-- Each controller with the other one when there are two. -/
def with_other : List Controller → List (Controller × Option Controller)
  | [c, d] => [(c, some d), (d, some c)]
  | controllers => controllers.map fun c => (c, none)

/-- The factory's ATA number of a disk, 0 when the inventory is not one the
    factory ships. -/
def firmware_ata_index (root : Text) (layout : FirmwareLayout) (disk : Disk) : Sysfs Nat := do
  if disk.interface_type ≠ "sata" || disk.ata_port = 0 then return 0
  if layout.model = "DH2300" || layout.model = "DH4300 Plus" then
    return ← firmware_arm_ata_index root layout.model disk
  if layout.model = "DXP2800" || layout.model = "DXP4800 Plus" || layout.model = "DXP4800 Pro" then
    let some profile ← single_sata_profile_find root layout.model | return 0
    match ← single_sata_controller root profile with
    | .ok pci => return if pci = disk.pci then disk.ata_port else 0
    | .error _ => return 0
  else
    let expected := (layout.rules.filter fun (rule : FirmwareRule) =>
      rule.interface_type = "sata" && rule.kind = "ata_id").length
    if expected = 0 then return 0
    let .ok functions ← opendir (snprintf PATH_MAX (root ++ "/bus/pci/devices")) | return 0
    let .ok controllers ← Prog.walk (factory_function root) [] functions.entries | return 0
    if (controllers.map Controller.ports).sum ≠ expected then return 0
    -- No foreign libata port may be hidden outside the PCI inventory.
    let .ok ata_ports ← opendir (snprintf PATH_MAX (root ++ "/class/ata_port")) | return 0
    if (ata_ports.entries.filter (!dot ·)).length ≠ expected then return 0
    return factory_index expected controllers.length disk (with_other controllers)

end UgreenNas.DiskMap
