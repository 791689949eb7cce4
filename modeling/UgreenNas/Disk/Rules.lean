import UgreenNas.Disk.Calibration
import UgreenNas.Disk.Factory

/-! # From a disk to a bay (`disk/disk.c`)

    A slot comes from the calibration, from the local port of the only SATA
    controller, or from the one connector rule that the disk meets.
-/

namespace UgreenNas.DiskMap

open Effect

/-! ## Connector rules -/

/-- The table of a model, and whether its revision is known. -/
def firmware_layout (root model : Text) : Attributes (Option FirmwareLayout × Bool) := do
  if model = "DXP2800" then
    let bios ← read_text (snprintf PATH_MAX (root ++ "/class/dmi/id/product_version")) 256
    match bios with
    | none => return (ugreenctl_disk_firmware_layout model "rev1", false)
    | some version =>
      if version.isEmpty then
        return (ugreenctl_disk_firmware_layout model "rev1", false)
      else if ("EM_" : Text).isPrefixOf version then
        return (ugreenctl_disk_firmware_layout model "rev1", true)
      else
        return (ugreenctl_disk_firmware_layout model "rev2", true)
  else
    -- No BIOS version of the DXP2800 GT is verified to mean a revision.
    return (ugreenctl_disk_firmware_layout model "rev1", model ≠ "DXP2800 GT")

/-- Is the rule a connector fact of both revisions? -/
def gt_rule_revision_independent (rule : FirmwareRule) : Bool :=
  rule.interface_type ≠ "sata" &&
    ([("rev1" : Text), "rev2"]).all fun revision =>
      match ugreenctl_disk_firmware_layout "DXP2800 GT" revision with
      | none => false
      | some layout => (layout.rules.filter (· = rule)).length = 1

/-- A rule `pcie_address`: below the endpoint itself, or a direct NVMe
    endpoint below the same root port. -/
def address_matches (root resolved identity pci : Text) : Bool :=
  let relative := resolved.drop root.length
  let needle := snprintf PATH_MAX ("/devices/" ++ identity)
  (needle ++ "/" : Text).isPrefixOf relative ||
    match strrchr needle '/' with
    | none => false
    | some (port, _) =>
      (snprintf PATH_MAX (port ++ "/" ++ pci ++ "/nvme/")).isPrefixOf relative

/-- A rule `syspath`: the path below the root port, and `nvme` or a port. -/
def syspath_matches (root resolved : Text) (layout : FirmwareLayout) (rule : FirmwareRule)
    (disk : Disk) (revision_known : Bool) : Sysfs Bool := do
  let some (port_path, connector) := strchr rule.identity '|' | return false
  if port_path.length ≥ PATH_MAX then return false
  if !(port_path ++ "/" : Text).isPrefixOf (resolved.drop (root.length + 1)) then return false
  if disk.interface_type = "nvme" then return connector = "nvme"
  if !revision_known || !("ata" : Text).isPrefixOf connector then return false
  let count := (layout.rules.filter fun (rule : FirmwareRule) =>
    rule.interface_type = "sata").length
  match parse_number (snprintf 32 (connector.drop 3)) with
  | none => return false
  | some port =>
    if disk.ata_port = port then controller_ports root disk.pci count else return false

def firmware_rule_matches (root resolved : Text) (layout : FirmwareLayout) (rule : FirmwareRule)
    (disk : Disk) (revision_known : Bool) : Sysfs Bool := do
  let nvme : Bool := disk.interface_type = "nvme"
  if decide (rule.interface_type = "sata") = nvme then return false
  if !revision_known && layout.model = "DXP2800 GT" && !gt_rule_revision_independent rule then
    return false
  if rule.kind = "ata_id" && !nvme then
    match ata_number rule.identity with
    | none => return false
    | some index =>
      let ata_index ← firmware_ata_index root layout disk
      return ata_index = index
  if rule.kind = "pcie_bridge_id" then
    if !nvme then return false
    if !(← bridge_identity_unique root rule.identity) then return false
    return ← bridge_matches resolved rule.identity
  if rule.kind = "pcie_address" then
    return address_matches root resolved rule.identity disk.pci && nvme
  if rule.kind = "syspath" then
    return ← syspath_matches root resolved layout rule disk revision_known
  -- Enumeration names need a stable topology, never raw Linux numbering.
  return false

/-- The rules of a table that a disk meets. -/
def matching_rules (root resolved : Text) (layout : FirmwareLayout) (disk : Disk)
    (revision_known : Bool) : List FirmwareRule → Sysfs (List FirmwareRule)
  | [] => return []
  | rule :: rest => do
    let found ← firmware_rule_matches root resolved layout rule disk revision_known
    let others ← matching_rules root resolved layout disk revision_known rest
    return if found then rule :: others else others

/-- The rules that the disk `name` meets now. -/
def connector_rules (root name : Text) (layout : FirmwareLayout) (disk : Disk)
    (revision_known : Bool) : Sysfs (List FirmwareRule) := do
  match ← realpath (snprintf PATH_MAX (root ++ "/class/block/" ++ name)) with
  | none => return []
  | some resolved => matching_rules root resolved layout disk revision_known layout.rules

/-! ## Applying a rule -/

def firmware_slot_has_led (model : Text) (rule : FirmwareRule) : Bool :=
  rule.color_led || (rule.interface_type = "sata" &&
    (model = "DH2600" || model = "DH2300" || model = "DH4300 Plus"))

/-- Where a mapping by `rule` is said to come from. -/
def rule_source (model : Text) (rule : FirmwareRule) (source : Text) : Text :=
  if rule.kind = "ata_id" then
    if model = "DH2300" || model = "DH4300 Plus" then "firmware-of-topology"
    else if ("firmware-" : Text).isPrefixOf source then source
    else "firmware-ata-topology"
  else
    "official-firmware-pci-rule"

def apply_firmware_rule (model : Text) (rule : FirmwareRule) (disk : Disk) : Disk :=
  match parse_number (rule.slot.dropWhile fun c => !isdigit c) with
  | none => disk
  | some slot =>
    if slot = 0 then
      { disk with slot := 0 }
    else
      let led := firmware_slot_has_led model rule
      { disk with
        slot := slot
        mapped := true
        slot_name := rule.slot
        interface_type := if rule.interface_type = "u2" then "u2" else disk.interface_type
        led_supported := led
        led_id := if led then "disk" ++ decimal slot else []
        mapping_source := rule_source model rule disk.mapping_source
        reason :=
          if led then "Official firmware physical-connector rule; corresponding disk LED recorded"
          else "Official firmware physical-connector rule; no independently controllable disk LED confirmed" }

/-! ## Candidates -/

/-- What a scan knows of the chassis before it looks at disks. -/
structure Chassis where
  root : Text
  model : Text
  calibration : Calibration
  layout : Option FirmwareLayout
  revision_known : Bool
  single_profile : Option SingleSataProfile
  automatic_pci : Text
  automatic_reason : Text
  profile_known : Bool
  profile : Text

/-- A slot without evidence is taken away. -/
def Disk.unmap (disk : Disk) (reason : Text) : Disk :=
  { disk with
    slot := 0, mapped := false, led_supported := false, led_id := [], slot_name := [],
    reason := reason }

/-- The same, with what it was mapped by forgotten. -/
def Disk.forget (disk : Disk) (reason : Text) : Disk :=
  { disk.unmap reason with mapping_source := "unknown" }

/-- The slot by calibration or by the local port of the only controller. -/
def assign_slot (chassis : Chassis) (disk : Disk) : Disk :=
  let disk := { disk with mapping_source := "unknown" }
  if disk.topology.isEmpty then
    disk
  else
    let disk :=
      if chassis.calibration.present then
        -- A calibration replaces the built-in layout, omitted slots included.
        chassis.calibration.entries.foldl (fun (disk : Disk) entry =>
          if disk.topology = entry.2 then
            { disk with slot := entry.1, mapping_source := "administrator-calibration" }
          else
            disk) disk
      else
        match chassis.single_profile with
        | none => disk
        | some profile =>
          if !chassis.automatic_pci.isEmpty && disk.pci = chassis.automatic_pci &&
              disk.ata_port ≥ 1 && disk.ata_port ≤ profile.port_count then
            { disk with slot := disk.ata_port, mapping_source := profile.source }
          else
            disk
    if disk.slot ≠ 0 then
      disk
    else
      { disk with reason :=
          if !chassis.calibration.present && disk.interface_type = "nvme" then
            "No verified physical NVMe connector layout for this exact model; run scripts/collect-disk-evidence.sh"
          else if !chassis.automatic_reason.isEmpty then chassis.automatic_reason
          else if chassis.profile_known then "Topology is outside the confirmed chassis layout"
          else "No confirmed PCI/ATA slot layout for this exact model; calibration required" }

/-- A disk with a slot is mapped to the bay and the LED of that number. -/
def confirm_slot (chassis : Chassis) (disk : Disk) : Disk :=
  if disk.slot = 0 then
    disk
  else
    { disk with
      mapped := true
      led_id := "disk" ++ decimal disk.slot
      led_supported := true
      slot_name := "ata" ++ decimal disk.slot
      reason :=
        if chassis.calibration.present then "Administrator-confirmed physical topology"
        else if chassis.single_profile.map SingleSataProfile.source = some disk.mapping_source then
          "Stock firmware slot order; local-port conversion checked against the complete single-controller topology"
        else "Upstream physical slot evidence; verify after hardware changes" }

/-- Why a disk that meets no rule is not mapped. -/
def unmatched_reason (chassis : Chassis) (layout : FirmwareLayout) (disk : Disk) : Text :=
  if disk.interface_type = "nvme" then
    let physical := layout.rules.filter fun (rule : FirmwareRule) => rule.interface_type ≠ "sata"
    if !physical.isEmpty && physical.all fun rule => rule.kind = "block_name" then
      "Firmware has nvmeN names only; physical M.2 slot unconfirmed. Run scripts/collect-disk-evidence.sh for sysfs/SMBIOS evidence"
    else
      "PCIe connector missing/ambiguous or outside firmware layout; collect topology with scripts/collect-disk-evidence.sh"
  else if !chassis.revision_known && chassis.model = "DXP2800 GT" then
    "BIOS/SATA routing is unverified for DXP2800 GT; automatic SATA mapping disabled; explicit administrator calibration required"
  else if chassis.model = "DH2300" || chassis.model = "DH4300 Plus" then
    "Live DT/OF/ASIC/empty-port inventory does not match the complete factory ARM layout"
  else
    disk.reason

/-- The rules a disk meets, applied: one rule maps it, several unmap it. -/
def apply_rules (chassis : Chassis) (layout : FirmwareLayout) (matched : List FirmwareRule)
    (disk : Disk) : Disk :=
  match matched with
  | [rule] =>
    if chassis.calibration.present then disk else apply_firmware_rule chassis.model rule disk
  | [] =>
    if !chassis.calibration.present && !disk.mapped then
      { disk with reason := unmatched_reason chassis layout disk }
    else
      disk
  | _ => disk.unmap "Conflicting firmware connector rules; refusing to choose a slot"

/-- The LED record of the table for a SATA bay: no colour LED is made up. -/
def led_record (model : Text) (layout : FirmwareLayout) (disk : Disk) : Disk :=
  if disk.mapped && disk.interface_type = "sata" then
    layout.rules.foldl (fun (disk : Disk) (rule : FirmwareRule) =>
      if rule.interface_type = "sata" && rule.slot = disk.slot_name then
        { disk with
          led_supported := firmware_slot_has_led model rule
          led_id := if firmware_slot_has_led model rule then disk.led_id else [] }
      else
        disk) disk
  else
    disk

/-- The mapping of a disk just read. -/
def candidate (chassis : Chassis) (disk : Disk) : Sysfs Disk := do
  let disk := confirm_slot chassis (assign_slot chassis disk)
  match chassis.layout with
  | none => return disk
  | some layout =>
    let matched ← connector_rules chassis.root disk.name layout disk chassis.revision_known
    return led_record chassis.model layout (apply_rules chassis layout matched disk)

end UgreenNas.DiskMap
