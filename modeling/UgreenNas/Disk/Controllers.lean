import UgreenNas.Disk.Device
import UgreenNas.Disk.Firmware

/-! # SATA controllers and PCIe bridges (`disk/disk.c`)

    A local ATA port says something about a bay only when the whole
    controller inventory, empty ports included, is one the factory ships.
-/

namespace UgreenNas.DiskMap

open Effect

def dot (entry : Text) : Bool := entry.head? = some '.'

/-! ## Models with a single SATA controller -/

/-- `struct single_sata_profile`. -/
structure SingleSataProfile where
  model : Text
  product_version : Option Text
  vendor : Nat
  device : Nat
  port_count : Nat
  source : Text
  deriving DecidableEq, Repr

def single_profiles : List SingleSataProfile := [
  ⟨"DXP4800 Plus", none, 0x1b21, 0x1164, 4, "firmware-asm1164-topology"⟩,
  ⟨"DXP4800 Pro", none, 0x1b21, 0x1164, 4, "firmware-asm1164-topology"⟩,
  ⟨"DXP2800", some ("EM_DXP2800_V1.0.24" : Text), 0x8086, 0x54d3, 2,
    "firmware-intel-ahci-topology"⟩,
  ⟨"DXP2800", some ("DXP2800 V1.2 251215" : Text), 0x8086, 0x54d3, 2,
    "firmware-intel-ahci-topology"⟩]

/-- The loop of `single_sata_profile_find`. -/
def single_sata_profile_from (root model : Text) :
    List SingleSataProfile → Attributes (Option SingleSataProfile)
  | [] => return none
  | profile :: rest => do
    if model ≠ profile.model then
      single_sata_profile_from root model rest
    else
      match profile.product_version with
      | none => return some profile
      | some expected =>
        let version ←
          read_text (snprintf PATH_MAX (root ++ "/class/dmi/id/product_version")) 256
        if version = some expected then
          return some profile
        else
          single_sata_profile_from root model rest

def single_sata_profile_find (root model : Text) : Attributes (Option SingleSataProfile) :=
  single_sata_profile_from root model single_profiles

/-- Is `resolved` a path below `devices` of the root? -/
def under_devices (root resolved : Text) : Bool :=
  root.isPrefixOf resolved && ("/devices/" : Text).isPrefixOf (resolved.drop root.length)

/-- The body of the loop over PCI functions: how many SATA controllers there
    were, and the name and path of the last one. -/
def single_sata_function (root : Text) (profile : SingleSataProfile) (st : Nat × Text × Text)
    (entry : Text) : Attributes (Except Unit (Nat × Text × Text)) := do
  let directory := snprintf PATH_MAX (root ++ "/bus/pci/devices")
  if dot entry then return .ok st
  if !is_pci entry then return .error ()
  let some class_code ← read_hex (snprintf PATH_MAX (directory ++ "/" ++ entry ++ "/class"))
    | return .error ()
  if class_code / 256 ≠ 0x0106 then return .ok st
  if st.1 ≠ 0 || class_code ≠ 0x010601 then return .error ()
  let vendor ← read_hex (snprintf PATH_MAX (directory ++ "/" ++ entry ++ "/vendor"))
  if vendor ≠ some profile.vendor then return .error ()
  let device ← read_hex (snprintf PATH_MAX (directory ++ "/" ++ entry ++ "/device"))
  if device ≠ some profile.device then return .error ()
  let driver ← driver_name (directory ++ "/" ++ entry)
  if !reads driver "ahci" then return .error ()
  let some controller ← realpath (snprintf PATH_MAX (directory ++ "/" ++ entry)) | return .error ()
  if !under_devices root controller then return .error ()
  if (strrchr controller '/').map Prod.snd ≠ some entry then return .error ()
  return .ok (st.1 + 1, entry, controller)

/-- The path of port `ata` of a controller in `class/ata_port`. -/
def ata_port_path (controller : Text) (ata : Nat) : Text :=
  snprintf PATH_MAX (controller ++ "/ata" ++ decimal ata ++ "/ata_port/ata" ++ decimal ata)

/-- The body of the loop over ATA ports: the local ports seen so far. -/
def single_sata_port (root controller : Text) (profile : SingleSataProfile) (ports : List Nat)
    (entry : Text) : Attributes (Except Unit (List Nat)) := do
  let directory := snprintf PATH_MAX (root ++ "/class/ata_port")
  if dot entry then return .ok ports
  let some ata := ata_number entry | return .error ()
  if ata = 0 then return .error ()
  let resolved ← realpath (snprintf PATH_MAX (directory ++ "/" ++ entry))
  if resolved ≠ some (ata_port_path controller ata) then return .error ()
  let text ← read_text (snprintf PATH_MAX (directory ++ "/" ++ entry ++ "/port_no")) 32
  let some port := text.bind parse_number | return .error ()
  if port < 1 || port > profile.port_count || port ∈ ports then return .error ()
  return .ok (port :: ports)

/-- `"%04x"` -/
def hex4 (n : Nat) : Text :=
  let digits := Nat.toDigits 16 n
  List.replicate (4 - digits.length) '0' ++ digits

/-- The PCI function of the one SATA controller of a complete inventory, or
    why there is none. -/
def single_sata_controller (root : Text) (profile : SingleSataProfile) :
    Sysfs (Except Text Text) := do
  if profile.port_count = 0 || profile.port_count > 4 then
    return .error "Invalid single-controller port-count profile"
  let .ok functions ← opendir (snprintf PATH_MAX (root ++ "/bus/pci/devices"))
    | return .error "PCI controller inventory unavailable; cannot confirm the single-controller layout"
  let found ← (Prog.walk (single_sata_function root profile) (0, [], []) functions.entries :
    Attributes _)
  let .ok (1, candidate, controller) := if functions.error then .error () else found
    | return .error ("Expected one and only one SATA controller: " ++ hex4 profile.vendor ++ ":" ++
        hex4 profile.device ++ " class 010601 using ahci")
  let .ok ata_ports ← opendir (snprintf PATH_MAX (root ++ "/class/ata_port"))
    | return .error "ATA port inventory unavailable; empty chassis ports must also be confirmed"
  let seen ← (Prog.walk (single_sata_port root controller profile) [] ata_ports.entries :
    Attributes _)
  if ata_ports.error || seen.toOption.map List.length ≠ some profile.port_count then
    return .error ("Controller must expose exactly " ++ decimal profile.port_count ++
      " unique local ATA ports 1.." ++ decimal profile.port_count ++
      " under the same PCI parent, including empty bays")
  return .ok candidate

/-! ## Bridges -/

/-- `sscanf(identity, "%x:%x%n", ...)` of a complete identity. -/
def scan_identity (identity : Text) : Option (Nat × Nat) := do
  let (vendor, rest) ← scan_unsigned identity 16
  let (device, rest) ← scan_unsigned (← scan_literal ":" rest) 16
  if rest.isEmpty then some (vendor, device) else none

/-- The components of `rest`, each with the path up to and including it. -/
def path_steps (before : Text) : Text → List (Text × Text)
  | [] => []
  | c :: rest =>
    if c = '/' then
      let part := rest.takeWhile (· ≠ '/')
      (part, before ++ c :: part) :: path_steps (before ++ [c]) rest
    else
      path_steps (before ++ [c]) rest

/-- The loop of `bridge_matches` over the components of a path. -/
def bridge_steps (wanted_vendor wanted_device : Nat) : List (Text × Text) → Attributes Bool
  | [] => return false
  | (part, upto) :: rest => do
    if !is_pci part then
      bridge_steps wanted_vendor wanted_device rest
    else if upto.length ≥ PATH_MAX then
      return false
    else do
      let vendor ← read_hex (snprintf PATH_MAX (upto ++ "/vendor"))
      if vendor ≠ some wanted_vendor then
        bridge_steps wanted_vendor wanted_device rest
      else do
        let device ← read_hex (snprintf PATH_MAX (upto ++ "/device"))
        if device ≠ some wanted_device then
          bridge_steps wanted_vendor wanted_device rest
        else do
          match ← read_hex (snprintf PATH_MAX (upto ++ "/class")) with
          | some class_code =>
            if class_code / 256 = 0x0604 then
              return true
            else
              bridge_steps wanted_vendor wanted_device rest
          | none => bridge_steps wanted_vendor wanted_device rest

/-- Is a bridge of this identity on the way to the device? -/
def bridge_matches (resolved identity : Text) : Attributes Bool :=
  match scan_identity identity with
  | none => return false
  | some (vendor, device) => bridge_steps vendor device (path_steps [] resolved)

/-- The body of the loop of `bridge_identity_unique`.  A second match leaves
    the loop like an unreadable function does: either way the answer is no. -/
def bridge_function (root : Text) (wanted_vendor wanted_device count : Nat) (entry : Text) :
    Attributes (Except Unit Nat) := do
  let directory := snprintf PATH_MAX (root ++ "/bus/pci/devices")
  if dot entry then return .ok count
  let some class_code ← read_hex (snprintf PATH_MAX (directory ++ "/" ++ entry ++ "/class"))
    | return .error ()
  if class_code / 256 ≠ 0x0604 then return .ok count
  let some vendor ← read_hex (snprintf PATH_MAX (directory ++ "/" ++ entry ++ "/vendor"))
    | return .error ()
  if vendor ≠ wanted_vendor then return .ok count
  let some device ← read_hex (snprintf PATH_MAX (directory ++ "/" ++ entry ++ "/device"))
    | return .error ()
  if device ≠ wanted_device then return .ok count
  if count + 1 > 1 then return .error ()
  return .ok (count + 1)

def bridge_identity_unique (root identity : Text) : Sysfs Bool := do
  let some (vendor, device) := scan_identity identity | return false
  let .ok functions ← opendir (snprintf PATH_MAX (root ++ "/bus/pci/devices")) | return false
  let count ← (Prog.walk (bridge_function root vendor device) 0 functions.entries : Attributes _)
  return count.toOption = some 1

/-! ## All ports of a controller -/

/-- The body of the loop of `controller_ports`: the number of ports of the
    controller, and a mask of their local numbers. -/
def controller_port (root controller : Text) (wanted : Nat) (st : Nat × Nat) (entry : Text) :
    Attributes (Except Unit (Nat × Nat)) := do
  let directory := snprintf PATH_MAX (root ++ "/class/ata_port")
  if dot entry then return .ok st
  let some resolved ← realpath (snprintf PATH_MAX (directory ++ "/" ++ entry)) | return .error ()
  if !(controller ++ "/" : Text).isPrefixOf resolved then return .ok st
  let some ata := ata_number entry | return .error ()
  if ata_port_path controller ata ≠ resolved then return .error ()
  let value ← read_text (snprintf PATH_MAX (resolved ++ "/port_no")) 32
  let some port := value.bind parse_number | return .error ()
  if port = 0 || port > wanted || st.2.testBit (port - 1) then return .error ()
  return .ok (st.1 + 1, st.2 ||| 2 ^ (port - 1))

/-- Has the controller exactly the local ports `1 .. wanted`? -/
def controller_ports (root pci : Text) (wanted : Nat) : Sysfs Bool := do
  if wanted = 0 || wanted > 8 then return false
  let some controller ← realpath (snprintf PATH_MAX (root ++ "/bus/pci/devices/" ++ pci))
    | return false
  let class_code ← read_hex (snprintf PATH_MAX (controller ++ "/class"))
  if class_code ≠ some 0x010601 then return false
  let driver ← driver_name controller
  if !reads driver "ahci" then return false
  let .ok ata_ports ← opendir (snprintf PATH_MAX (root ++ "/class/ata_port")) | return false
  let seen ← (Prog.walk (controller_port root controller wanted) (0, 0) ata_ports.entries :
    Attributes _)
  return seen.toOption = some (wanted, 2 ^ wanted - 1)

end UgreenNas.DiskMap
