import Mathlib.Data.Char
import Mathlib.Data.List.Lex
import Mathlib.Data.List.Sort
import UgreenNas.Disk.Rules

/-! # The scan (`disk/disk.c`)

    `ugreenctl_disk_scan_at` reads every block device, maps it, looks at
    everything a second time, joins the namespaces of an NVMe controller and
    gives up every bay that more than one disk claims.
-/

namespace UgreenNas.DiskMap

open Effect

def UGREENCTL_DISK_MAX : Nat := 128

/-- A namespace of the physical disk `disk_name`. -/
structure NamespaceAlias where
  name : Text
  wwn : Text
  disk_name : Text
  deriving DecidableEq, Repr

/-- `struct ugreenctl_disk_scan`. -/
structure DiskScan where
  disks : List Disk
  profile_known : Bool
  profile : Text
  namespace_aliases : List NamespaceAlias
  deriving DecidableEq, Repr

def fault (text : String) : Fault := ⟨text.toList, none⟩

def inventory_changed : Fault :=
  fault "Block-device inventory changed during enumeration; rescan required"

def identity_changed : Fault :=
  fault "Disk identity/topology changed during enumeration; rescan required"

def controller_changed : Text := "Controller topology changed during enumeration; rescan required"

/-! ## The chassis -/

/-- Models with reported PCI paths, `profiles[]`; the paths are a record only. -/
def profile_models : List Text := ["DXP4800", "DXP6800 Pro", "DXP8800 Plus"]

/-- The root as a path, when the directory of block devices fits behind it. -/
def resolve_root (sysfs_root : Text) : Attributes (Except Fault Text) := do
  match ← realpath sysfs_root with
  | none => return .error ⟨"Cannot resolve sysfs root '" ++ sysfs_root ++ "'", none⟩
  | some root =>
    if (root ++ "/class/block" : Text).length ≥ PATH_MAX then
      return .error ⟨"Cannot resolve sysfs root '" ++ sysfs_root ++ "'", none⟩
    else
      return .ok root

/-- The calibration that counts for a model. -/
def chosen_calibration (model : Text) (calibration_path : Option Text) :
    Sysfs (Except Fault Calibration) :=
  if model.isEmpty then
    match calibration_path with
    | some _ => pure (.error
        (fault "Disk calibration requires a readable nonempty exact DMI product name"))
    | none => pure (.ok {})
  else
    read_calibration (calibration_path.getD "/etc/ugreenctl/disk-map.conf")
      calibration_path.isNone model

/-- The name of the profile that is known, if any. -/
def profile_name (model : Text) (calibration : Calibration) (layout : Option FirmwareLayout)
    (revision_known : Bool) (single_profile : Option SingleSataProfile) : Option Text :=
  if calibration.present then
    some ("administrator-calibration" : Text)
  else if single_profile.isSome then
    some model
  else
    match layout with
    | some layout => some (layout.model ++ "/" ++
        (if !revision_known && layout.model = "DXP2800 GT" then ("revision-unknown" : Text)
          else layout.revision))
    | none => if model ∈ profile_models then some model else none

/-- The profile of a model with a single controller; a calibration has none. -/
def single_profile_of (root model : Text) (calibration : Calibration) :
    Attributes (Option SingleSataProfile) :=
  if calibration.present then pure none else single_sata_profile_find root model

/-- The PCI function of the single controller, or why there is none. -/
def automatic_controller (root : Text) (single_profile : Option SingleSataProfile) :
    Sysfs (Except Text Text) :=
  match single_profile with
  | none => pure (.error [])
  | some profile => single_sata_controller root profile

/-- What is found out before any disk is read. -/
def survey (root model : Text) (calibration : Calibration) : Sysfs Chassis := do
  let (layout, revision_known) ← firmware_layout root model
  let single_profile ← single_profile_of root model calibration
  let automatic ← automatic_controller root single_profile
  let profile := profile_name model calibration layout revision_known single_profile
  return {
    root := root
    model := model
    calibration := calibration
    layout := layout
    revision_known := revision_known
    single_profile := single_profile
    automatic_pci := match automatic with
      | .ok pci => pci
      | .error _ => []
    automatic_reason := match automatic with
      | .ok _ => []
      | .error reason => reason
    profile_known := profile.isSome
    profile := profile.getD [] }

/-! ## Block devices -/

def Chassis.block_directory (chassis : Chassis) : Text := chassis.root ++ "/class/block"

/-- Names that may be whole disks, and the disks among them, each with the
    path of its NVMe controller. -/
structure Found where
  members : List Text := []
  disks : List (Disk × Text) := []

def is_member (name : Text) : Bool := disk_name name || nvme_name name

/-- The body of the loop over block devices. -/
def enumerate_entry (chassis : Chassis) (st : Found) (entry : Text) :
    Sysfs (Except Fault Found) := do
  -- Members are counted even where they cannot be read, so that one that
  -- appears later is noticed.
  if is_member entry && (st.members.length = UGREENCTL_DISK_MAX || entry.length ≥ 64) then
    return .error (fault "Too many block-device members; refusing an incomplete mapping")
  let st := if is_member entry then { st with members := st.members ++ [entry] } else st
  let some (disk, controller) ← read_one chassis.root entry | return .ok st
  if st.disks.length = UGREENCTL_DISK_MAX then
    return .error (fault "Too many physical disks/NVMe namespaces; refusing an incomplete mapping")
  let disk ← candidate chassis disk
  return .ok { st with disks := st.disks ++ [(disk, controller)] }

def enumerate (chassis : Chassis) : Sysfs (Except Fault Found) := do
  match ← opendir chassis.block_directory with
  | .error errno => return .error ⟨"Cannot enumerate Linux block devices: ", some errno⟩
  | .ok directory =>
    match ← Prog.walk (enumerate_entry chassis) {} directory.entries with
    | .error fault => return .error fault
    | .ok found =>
      if directory.error then
        return .error (fault "Block-device enumeration failed")
      else
        return .ok found

/-! ## The second look -/

/-- Is what was read now what was read before? -/
def same_reading (now : Disk × Text) (before : Disk × Text) : Bool :=
  now.1.serial = before.1.serial && now.1.wwn = before.1.wwn &&
    now.1.topology = before.1.topology && now.2 = before.2

/-- The mapping of a disk, held against the rules that the disk meets now. -/
def recheck_rules (chassis : Chassis) (current : Disk) (disk : Disk) : Sysfs Disk := do
  match chassis.layout with
  | none => return disk
  | some layout =>
    if chassis.calibration.present || !disk.mapped then
      return disk
    else do
      let matched ← connector_rules chassis.root disk.name layout current chassis.revision_known
      match matched with
      | [rule] =>
        let current := apply_firmware_rule chassis.model rule current
        if current.slot_name ≠ disk.slot_name || current.led_id ≠ disk.led_id then
          return disk.forget controller_changed
        else
          return disk
      | _ => return disk.forget controller_changed

/-- The body of the loop over the disks found. -/
def recheck_disk (chassis : Chassis) (done : List (Disk × Text)) (entry : Disk × Text) :
    Sysfs (Except Fault (List (Disk × Text))) := do
  match ← read_one chassis.root entry.1.name with
  | none => return .error identity_changed
  | some current =>
    if !same_reading current entry then
      return .error identity_changed
    else do
      let disk ← recheck_rules chassis current.1 entry.1
      return .ok (done ++ [(disk, entry.2)])

/-- The mappings by local port, held against the only controller as it is now. -/
def recheck_controller (chassis : Chassis) (disks : List (Disk × Text)) :
    Sysfs (List (Disk × Text)) := do
  match chassis.single_profile with
  | none => return disks
  | some profile =>
    if chassis.automatic_pci.isEmpty then
      return disks
    else do
      match ← single_sata_controller chassis.root profile with
      | .ok pci => if pci = chassis.automatic_pci then return disks else return forgotten profile
      | .error _ => return forgotten profile
where
  forgotten (profile : SingleSataProfile) : List (Disk × Text) := disks.map fun (entry : Disk × Text) =>
    if entry.1.mapping_source = profile.source then
      (entry.1.forget controller_changed, entry.2)
    else
      entry

/-- The body of the loop of `verify_inventory_members`: the members seen. -/
def verify_member (chassis : Chassis) (found : Found) (seen : List Text) (entry : Text) :
    Sysfs (Except Fault (List Text)) := do
  if !is_member entry then return .ok seen
  if entry ∉ found.members || entry ∈ seen then return .error inventory_changed
  let current ← read_one chassis.root entry
  match current, found.disks.find? (fun known => entry = known.1.name) with
  | none, none => return .ok (entry :: seen)
  | some current, some known =>
    if same_reading current known then return .ok (entry :: seen) else return .error inventory_changed
  | _, _ => return .error inventory_changed

def verify_inventory_members (chassis : Chassis) (found : Found) : Sysfs (Except Fault Unit) := do
  match ← opendir chassis.block_directory with
  | .error _ =>
    return .error (fault "Cannot recheck block-device inventory; rescan required")
  | .ok directory =>
    match ← Prog.walk (verify_member chassis found) [] directory.entries with
    | .error fault => return .error fault
    | .ok seen =>
      if directory.error || seen.length ≠ found.members.length then
        return .error inventory_changed
      else
        return .ok ()

/-- The body of the loop of `verify_inventory_member_set`: names only. -/
def verify_name (members : List Text) (seen : List Text) (entry : Text) :
    Except Fault (List Text) :=
  if !is_member entry then
    .ok seen
  else if seen.length = UGREENCTL_DISK_MAX || entry.length ≥ 64 then
    .error (fault "Too many block-device members in final snapshot; rescan required")
  else if entry ∉ members || entry ∈ seen then
    .error inventory_changed
  else
    .ok (entry :: seen)

/-- The names alone, listed once more after all slow reads. -/
def verify_inventory_member_set (chassis : Chassis) (members : List Text) :
    Sysfs (Except Fault Unit) := do
  if members.length > UGREENCTL_DISK_MAX then
    return .error (fault "Invalid block-device member count; rescan required")
  match ← opendir chassis.block_directory with
  | .error _ =>
    return .error (fault "Cannot recheck final block-device member set; rescan required")
  | .ok directory =>
    match directory.entries.foldlM (verify_name members) [] with
    | .error fault => return .error fault
    | .ok seen =>
      if directory.error || seen.length ≠ members.length then
        return .error inventory_changed
      else
        return .ok ()

/-! ## Namespaces of one controller -/

/-- Do two namespaces agree on everything that is said of their controller? -/
def same_controller_record (d e : Disk) : Bool :=
  d.pci = e.pci && d.serial = e.serial && d.interface_type = e.interface_type &&
    d.mapped = e.mapped && d.slot = e.slot && d.led_supported = e.led_supported &&
    d.slot_name = e.slot_name && d.led_id = e.led_id

/-- The loop state of `coalesce_nvme_namespaces`.  Both arrays are compacted
    in place. -/
structure Coalesced where
  disks : List Disk
  controllers : List Text
  physical_count : Nat := 0
  /-- The name and wwn of each namespace, and its group. -/
  aliases : List (Text × Text × Nat) := []

/-- The first group with this controller, `physical_count` when there is none. -/
def Coalesced.group (st : Coalesced) (controller : Text) : Nat :=
  ((List.range st.physical_count).find? fun group =>
    !controller.isEmpty && st.controllers.getD group [] = controller).getD st.physical_count

def Coalesced.add_alias (st : Coalesced) (disk : Disk) (controller : Text) (group : Nat) :
    Coalesced :=
  if controller.isEmpty then st
  else { st with aliases := st.aliases ++ [(disk.name, disk.wwn, group)] }

/-- The body of the loop over the entries. -/
def coalesce_entry (st : Coalesced) (i : Nat) : Except Fault Coalesced :=
  let disk := st.disks.getD i {}
  let controller := st.controllers.getD i []
  let group := st.group controller
  if group < st.physical_count then
    let physical := st.disks.getD group {}
    if !same_controller_record physical disk then
      .error
        (fault "NVMe controller identity/mapping changed across namespaces; rescan required")
    else
      -- The representative is only a stable name; it chooses no connector.
      let st := if disk.name < physical.name then { st with disks := st.disks.set group disk }
        else st
      .ok (st.add_alias disk controller group)
  else
    .ok ({ st with
      disks := st.disks.set group disk
      controllers := st.controllers.set group controller
      physical_count := st.physical_count + 1 : Coalesced }.add_alias disk controller group)

def coalesce_nvme_namespaces (disks : List Disk) (controllers : List Text) :
    Except Fault (List Disk × List NamespaceAlias) := do
  let st ← (List.range disks.length).foldlM coalesce_entry ⟨disks, controllers, 0, []⟩
  return (st.disks.take st.physical_count, st.aliases.map fun (name, wwn, group) =>
    ⟨name, wwn, (st.disks.getD group {}).name⟩)

/-- Everything up to the claims of the disks on bays. -/
def candidates (chassis : Chassis) : Sysfs (Except Fault (List Disk × List NamespaceAlias)) :=
  (enumerate chassis).andThen fun found =>
  (Prog.walk (recheck_disk chassis) [] found.disks).andThen fun disks => do
    let disks ← recheck_controller chassis disks
    (verify_inventory_members chassis { found with disks := disks }).andThen fun _ =>
      (verify_inventory_member_set chassis found.members).andThen fun _ =>
        pure (coalesce_nvme_namespaces (disks.map Prod.fst) (disks.map Prod.snd))

/-! ## Conflicts -/

/-- The same text, when there is one. -/
def shared (a b : Text) : Bool := !a.isEmpty && a = b

/-- Do two disks claim the same port, bay or LED? -/
def clash (d e : Disk) : Bool :=
  shared d.topology e.topology || shared d.slot_name e.slot_name || shared d.led_id e.led_id

/-- May a SATA disk of a DXP2800 GT share a bay with a U.2 disk? -/
def gt_sata_ambiguous (chassis : Chassis) (disks : List Disk) : Bool :=
  !chassis.calibration.present && !chassis.revision_known && chassis.model = "DXP2800 GT" &&
    disks.any fun (disk : Disk) => !disk.mapped && disk.interface_type = "sata"

/-- The pairs `i < j < count`. -/
def pairs (count : Nat) : List (Nat × Nat) :=
  (List.range count).flatMap fun i => (List.range' (i + 1) (count - (i + 1))).map fun j => (i, j)

/-- Both members of a related pair are marked. -/
def mark (related : Nat → Nat → Bool) (marks : List Bool) (pair : Nat × Nat) : List Bool :=
  if related pair.1 pair.2 then (marks.set pair.1 true).set pair.2 true else marks

/-- All pairs are compared before any disk is unmapped, so that a third
    claimant does not keep what the first two have lost. -/
def conflicts (chassis : Chassis) (disks : List Disk) : List Bool :=
  (pairs disks.length).foldl (mark fun i j => clash (disks.getD i {}) (disks.getD j {}))
    (disks.map fun (disk : Disk) => gt_sata_ambiguous chassis disks && disk.interface_type = "u2")

def give_up (ambiguous : Bool) (disk : Disk) (conflict : Bool) : Disk :=
  if conflict then
    disk.forget
      (if ambiguous && disk.interface_type = "u2" then
        "Unverified BIOS/SATA routing may share this U.2 bay; refusing to choose a disk LED"
      else
        "Conflicting or duplicate topology/slot; refusing to choose an LED")
  else
    disk

/-- `compare_disks` -/
def by_name (d e : Disk) : Prop := d.name ≤ e.name

instance : DecidableRel by_name := fun d e => inferInstanceAs (Decidable (d.name ≤ e.name))

/-- The disks with every conflict resolved, in the order of their names. -/
def resolve_conflicts (chassis : Chassis) (disks : List Disk) : List Disk :=
  (List.zipWith (give_up (gt_sata_ambiguous chassis disks)) disks
    (conflicts chassis disks)).insertionSort by_name

def ugreenctl_disk_scan_at (sysfs_root dmi_product_name : Text) (calibration_path : Option Text) :
    Sysfs (Except Fault DiskScan) :=
  (chosen_calibration dmi_product_name calibration_path).andThen fun calibration =>
  Prog.andThen (resolve_root sysfs_root).inl fun root => do
    let chassis ← survey root dmi_product_name calibration
    (candidates chassis).andThen fun (disks, aliases) => pure (.ok {
      disks := resolve_conflicts chassis disks
      profile_known := chassis.profile_known
      profile := chassis.profile
      namespace_aliases := aliases })

end UgreenNas.DiskMap
