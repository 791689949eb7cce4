import UgreenNas.Disk.Sysfs

/-! # One disk (`disk/disk.c`)

    `read_one` decides whether a name of `class/block` is a disk that the
    chassis may hold, and reads its identity and topology.
-/

namespace UgreenNas.DiskMap

open Effect

/-- `struct ugreenctl_disk`. -/
structure Disk where
  name : Text := []
  device : Text := []
  serial : Text := []
  wwn : Text := []
  topology : Text := []
  pci : Text := []
  led_id : Text := []
  mapping_source : Text := []
  reason : Text := []
  ata : Nat := 0
  ata_port : Nat := 0
  slot : Nat := 0
  mapped : Bool := false
  interface_type : Text := []
  slot_name : Text := []
  led_supported : Bool := false
  deriving DecidableEq, Repr

/-! ## SATA paths -/

/-- The loop state of `topology_from_path`. -/
structure PathState where
  pci : Text := []
  /-- The libata number, with the PCI function above it. -/
  ata : Option (Nat × Text) := none
  scsi_seen : Bool := false

/-- `sscanf(part, "%u:%u:%u:%u%n", &host, &bus, &target, &lun, &used)` up to
    the end of the part: the bus, target and lun. -/
def scan_scsi (part : Text) : Option (Nat × Nat × Nat) := do
  let (_, rest) ← scan_unsigned part 10
  let (bus, rest) ← scan_unsigned (← scan_literal ":" rest) 10
  let (target, rest) ← scan_unsigned (← scan_literal ":" rest) 10
  let (lun, rest) ← scan_unsigned (← scan_literal ":" rest) 10
  if rest.isEmpty then some (bus, target, lun) else none

/-- The number of a component `ataN`. -/
def ata_number (name : Text) : Option Nat :=
  if ("ata" : Text).isPrefixOf name then parse_number (name.drop 3) else none

/-- One component of a resolved path; `none` rules the path out. -/
def topology_part (resolved : Text) (st : PathState) (part : Text) : Option PathState :=
  if ("usb" : Text).isPrefixOf part || part = "virtual" || ("session" : Text).isPrefixOf part ||
      ("rport-" : Text).isPrefixOf part then
    none
  else
    let st := if st.ata.isNone && is_pci part then { st with pci := part } else st
    let st := match ata_number part with
      | none => some st
      | some ata =>
        if st.ata.isSome || ata = 0 ||
            (st.pci.isEmpty && (strstr resolved "/devices/platform/").isNone) then
          none
        else
          some { st with ata := some (ata, st.pci) }
    st.bind fun st =>
      match scan_scsi part with
      | none => some st
      | some (bus, target, lun) =>
        -- Port multipliers and master/slave pairs are not bay evidence.
        if bus ≠ 0 || target ≠ 0 || lun ≠ 0 then none else some { st with scsi_seen := true }

/-- The libata number and PCI function of a SATA disk. -/
def topology_from_path (resolved : Text) : Option (Nat × Text) :=
  match (strtok resolved '/').foldlM (topology_part resolved) {} with
  | some ⟨_, some found, true⟩ => some found
  | _ => none

def platform_sata_controller (resolved : Text) (size : Nat) : Attributes (Option Text) := do
  let some (controller, _) := strstr resolved "/ata" | return none
  if (strstr resolved "/devices/platform/").isNone || controller.length ≥ PATH_MAX then return none
  let some (_, name) := strrchr controller '/' | return none
  if name.isEmpty || name.length ≥ size then return none
  let driver ← driver_name controller
  if !reads driver "ahci" && !reads driver "dwc-ahci" then return none
  return some name

/-! ## A name of `class/block` -/

/-- What the path of a disk tells: the disk so far, the path of its NVMe
    controller and the name of its platform SATA controller. -/
abbrev Located : Type := Disk × Text × Text

/-- The branch of `read_one` for NVMe namespaces. -/
def read_nvme (link resolved name : Text) : Attributes (Option Located) := do
  if (strstr resolved "/virtual/").isSome || (strstr resolved "/usb").isSome ||
      (strstr resolved "/nvme/").isNone then
    return none
  let transport ← read_text (snprintf PATH_MAX (link ++ "/device/transport")) 256
  if !reads transport "pcie" then return none
  let some pci := (strtok resolved '/').reverse.find? is_pci | return none
  -- Namespaces are coalesced by their live controller object, never by an
  -- enumeration number or a shared serial alone.
  let some (controller_path, base) := strrchr resolved '/' | return none
  let some (controller, _, _) := scan_nvme name | return none
  if base ≠ name then return none
  let some (_, parent) := strrchr controller_path '/' | return none
  if parent ≠ ("nvme" ++ decimal controller : Text) then return none
  return some ({ pci := pci, interface_type := "nvme", topology := "pci-" ++ pci ++ "-nvme" },
    snprintf PATH_MAX controller_path, [])

/-- The platform controller of a disk that is not on PCI, else the empty text. -/
def platform_of (resolved pci : Text) : Attributes (Option Text) :=
  if pci.isEmpty then platform_sata_controller resolved 80 else pure (some [])

/-- The branch for SCSI disks. -/
def read_sata (link resolved : Text) : Attributes (Option Located) := do
  let some (ata, pci) := topology_from_path resolved | return none
  let some platform ← platform_of resolved pci | return none
  let type ← read_text (snprintf PATH_MAX (link ++ "/device/type")) 256
  if !reads type "0" then return none
  let vendor ← read_text (snprintf PATH_MAX (link ++ "/device/vendor")) 256
  if !reads vendor "ATA" then return none
  return some ({ ata := ata, pci := pci, interface_type := "sata" }, [], platform)

/-- The local port of a SATA disk and the topology made of it. -/
def with_port (disk : Disk) (platform : Text) (value : Option Text) : Disk :=
  match value.bind parse_number with
  | some port =>
    if port ≠ 0 && port ≤ 1024 then
      { disk with
        ata_port := port
        topology :=
          (if platform.isEmpty then "pci-" ++ disk.pci else "platform-" ++ platform : Text) ++
            "-ata-" ++ decimal port }
    else
      { disk with reason := "Controller-local ATA port is unavailable; global ATA/HCTL order is unsafe" }
  | none =>
    { disk with reason := "Controller-local ATA port is unavailable; global ATA/HCTL order is unsafe" }

/-- The connector of an NVMe disk is left to the firmware rules. -/
def read_port (root platform : Text) (nvme : Bool) (disk : Disk) : Attributes Disk := do
  if nvme then return disk
  let port_no := root ++ "/class/ata_port/ata" ++ decimal disk.ata ++ "/port_no"
  let value ← read_text (snprintf PATH_MAX port_no) 256
  return with_port disk platform value

/-- The path part of `read_one`. -/
def locate (link resolved name : Text) : Attributes (Option Located) :=
  if nvme_name name then read_nvme link resolved name else read_sata link resolved

/-- The identity part of `read_one`: what the disk says of itself, read twice. -/
def identify (root link resolved name : Text) (located : Located) :
    Attributes (Option (Disk × Text)) := do
  let (disk, controller, platform) := located
  let serial ← read_serial link 256
  let wwn ← read_wwid link 256
  let disk ← read_port root platform (nvme_name name)
    { disk with name := name, device := "/dev/" ++ name, serial := serial, wwn := wwn }
  -- A link that disappeared or was replaced meanwhile is never mapped, nor is
  -- a disk whose cached identity changed.
  let check ← realpath link
  if check ≠ some resolved then return none
  let serial_check ← read_serial link 256
  let wwn_check ← read_wwid link 256
  if serial_check ≠ disk.serial || wwn_check ≠ disk.wwn then return none
  return some (disk, controller)

/-- The disk behind a name of `class/block`, and the path of its NVMe
    controller. -/
def read_one (root name : Text) : Attributes (Option (Disk × Text)) := do
  if (!disk_name name && !nvme_name name) || name.length ≥ 64 then return none
  let link := root ++ "/class/block/" ++ name
  if link.length ≥ PATH_MAX then return none
  let some resolved ← realpath link | return none
  if !root.isPrefixOf resolved ||
      !("/devices/" : Text).isPrefixOf (resolved.drop root.length) then
    return none
  if ← access (snprintf PATH_MAX (link ++ "/partition")) then return none
  let some located ← locate link resolved name | return none
  identify root link resolved name located

end UgreenNas.DiskMap
