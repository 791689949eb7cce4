import UgreenNas.Disk.Scan
import UgreenNas.Effect.Returns

/-! # What a mapping looks like

    Calibration, local ports, connector rules, the second look and the
    conflicts all write the same group of fields.  Each of them leaves a
    disk that is either mapped in full or not at all.
-/

namespace UgreenNas.DiskMap

open Effect Effect.Prog

/-! ## The group of mapping fields -/

/-- No bay, no connector name and no LED. -/
structure Disk.Unmapped (disk : Disk) : Prop where
  mapped : disk.mapped = false
  slot : disk.slot = 0
  slot_name : disk.slot_name = []
  led_id : disk.led_id = []
  led_supported : disk.led_supported = false

/-- The LED of a bay is there or not; its name is that of the slot. -/
def Disk.LedFits (disk : Disk) : Prop :=
  (disk.led_supported = true ∧ disk.led_id = "disk" ++ decimal disk.slot) ∨
    (disk.led_supported = false ∧ disk.led_id = [])

/-- A disk in a bay of the chassis. -/
structure Disk.InBay (disk : Disk) : Prop where
  mapped : disk.mapped = true
  pos : 0 < disk.slot
  le : disk.slot ≤ 8
  slot_name : disk.slot_name = "ata" ++ decimal disk.slot
  not_nvme : disk.interface_type ≠ "nvme"
  led : disk.LedFits

/-- A disk on an M.2 or PCIe connector, which has no LED. -/
structure Disk.OnConnector (disk : Disk) : Prop where
  mapped : disk.mapped = true
  pos : 0 < disk.slot
  slot_name : disk.slot_name ≠ []
  nvme : disk.interface_type = "nvme"
  led_id : disk.led_id = []
  led_supported : disk.led_supported = false

inductive Disk.Placed (disk : Disk) : Prop where
  | unmapped (h : disk.Unmapped)
  | bay (h : disk.InBay)
  | connector (h : disk.OnConnector)

theorem unmapped_unmap (disk : Disk) (reason : Text) : (disk.unmap reason).Unmapped :=
  ⟨rfl, rfl, rfl, rfl, rfl⟩

theorem unmapped_forget (disk : Disk) (reason : Text) : (disk.forget reason).Unmapped :=
  ⟨rfl, rfl, rfl, rfl, rfl⟩

/-! ## Disks as they are read -/

/-- A disk fresh from sysfs: nothing is mapped yet, and the topology of an
    NVMe disk names its PCI function. -/
structure Disk.Fresh (disk : Disk) : Prop where
  unmapped : disk.Unmapped
  kind : disk.interface_type = "sata" ∨
    (disk.interface_type = "nvme" ∧ disk.ata_port = 0 ∧
      ∃ pci, is_pci pci = true ∧ disk.topology = "pci-" ++ pci ++ "-nvme")

theorem fresh_with_port {disk : Disk} (hfresh : disk.Fresh) (hsata : disk.interface_type = "sata")
    (platform : Text) (value : Option Text) : (with_port disk platform value).Fresh := by
  obtain ⟨⟨hmapped, hslot, hname, hled, hsupported⟩, -⟩ := hfresh
  unfold with_port
  split
  · split
    · exact ⟨⟨hmapped, hslot, hname, hled, hsupported⟩, .inl hsata⟩
    · exact ⟨⟨hmapped, hslot, hname, hled, hsupported⟩, .inl hsata⟩
  · exact ⟨⟨hmapped, hslot, hname, hled, hsupported⟩, .inl hsata⟩

theorem returns_read_nvme (link resolved name : Text) :
    (read_nvme link resolved name).Returns
      (OfSome fun (l : Located) => l.1.Fresh ∧ l.1.interface_type = "nvme") := by
  unfold read_nvme
  split
  · exact trivial
  apply returns_after
  intro transport
  split
  · exact trivial
  split
  · next pci hpci =>
    split
    · split
      · split
        · exact trivial
        split
        · split
          · exact trivial
          · have hfound := List.find?_some hpci
            exact ⟨⟨⟨rfl, rfl, rfl, rfl, rfl⟩, .inr ⟨rfl, rfl, pci, hfound, rfl⟩⟩, rfl⟩
        · exact trivial
      · exact trivial
    · exact trivial
  · exact trivial

theorem returns_read_sata (link resolved : Text) :
    (read_sata link resolved).Returns
      (OfSome fun (l : Located) => l.1.Fresh ∧ l.1.interface_type = "sata") := by
  unfold read_sata
  split
  · apply returns_after
    intro platform
    split
    · apply returns_after
      intro type
      split
      · exact trivial
      apply returns_after
      intro vendor
      split
      · exact trivial
      · exact ⟨⟨⟨rfl, rfl, rfl, rfl, rfl⟩, .inl rfl⟩, rfl⟩
    · exact trivial
  · exact trivial

theorem returns_locate (link resolved name : Text) :
    (locate link resolved name).Returns (OfSome fun (l : Located) =>
      l.1.Fresh ∧ l.1.interface_type = if nvme_name name then "nvme" else "sata") := by
  unfold locate
  split
  · exact returns_read_nvme link resolved name
  · exact returns_read_sata link resolved

theorem returns_identify (root link resolved name : Text) {located : Located}
    (hfresh : located.1.Fresh)
    (hkind : located.1.interface_type = if nvme_name name then "nvme" else "sata") :
    (identify root link resolved name located).Returns (OfSome fun r => r.1.Fresh) := by
  obtain ⟨disk, controller, platform⟩ := located
  obtain ⟨⟨hmapped, hslot, hname, hled, hsupported⟩, hkinds⟩ := hfresh
  apply returns_after
  intro serial
  apply returns_after
  intro wwn
  have hport : (read_port root platform (nvme_name name)
      { disk with name := name, device := "/dev/" ++ name, serial := serial, wwn := wwn }).Returns
        Disk.Fresh := by
    have hidentified : Disk.Fresh
        { disk with name := name, device := "/dev/" ++ name, serial := serial, wwn := wwn } :=
      ⟨⟨hmapped, hslot, hname, hled, hsupported⟩, hkinds⟩
    unfold read_port
    split
    · exact hidentified
    · next hnvme =>
      apply returns_after
      intro value
      rw [if_neg hnvme] at hkind
      exact fresh_with_port hidentified hkind platform value
  apply hport.bind
  intro disk' hdisk'
  apply returns_after
  intro check
  split
  · exact trivial
  apply returns_after
  intro serial_check
  apply returns_after
  intro wwn_check
  split
  · exact trivial
  · exact hdisk'

/-- Whatever sysfs answers, a disk is read without a mapping. -/
theorem returns_read_one (root name : Text) :
    (read_one root name).Returns (OfSome fun r => r.1.Fresh) := by
  unfold read_one
  split
  · exact trivial
  dsimp only
  split
  · exact trivial
  apply returns_after
  intro resolved
  split
  · split
    · exact trivial
    apply returns_after
    intro partition
    split
    · exact trivial
    apply (returns_locate _ _ name).bind
    intro located hlocated
    split
    · exact returns_identify root _ _ name hlocated.1 hlocated.2
    · exact trivial
  · exact trivial

/-! ## Slots by calibration and by local port -/

/-- What a scan has checked of the chassis before it reads disks. -/
structure Chassis.Sound (chassis : Chassis) : Prop where
  layout : ∀ layout, chassis.layout = some layout →
    layout ∈ layouts ∧ layout.model = chassis.model
  port_count : ∀ profile, chassis.single_profile = some profile → profile.port_count ≤ 4
  calibration : ∀ entry ∈ chassis.calibration.entries,
    0 < entry.1 ∧ entry.1 ≤ 8 ∧ valid_topology entry.2 = true

theorem is_pci_length {text : Text} (h : is_pci text = true) : text.length = 12 := by
  unfold is_pci at h
  split at h
  · rfl
  · cases h

/-- No calibration names the topology of an NVMe disk. -/
theorem valid_topology_nvme {pci : Text} (h : is_pci pci = true) :
    valid_topology ("pci-" ++ pci ++ "-nvme") = false := by
  have hlength : ("pci-" ++ pci ++ "-nvme" : Text).length = 21 := by
    simp [is_pci_length h]
  unfold valid_topology
  rw [hlength]
  rfl

/-- A disk that has a slot but is not mapped yet. -/
structure Disk.Assigned (disk : Disk) : Prop where
  mapped : disk.mapped = false
  slot_name : disk.slot_name = []
  led_id : disk.led_id = []
  led_supported : disk.led_supported = false
  kind : disk.interface_type = "sata" ∨ disk.interface_type = "nvme"
  slot : disk.slot ≠ 0 → disk.slot ≤ 8 ∧ disk.interface_type = "sata"

theorem Disk.Fresh.assigned {disk : Disk} (h : disk.Fresh) (source : Text) :
    ({ disk with mapping_source := source } : Disk).Assigned := by
  obtain ⟨⟨hmapped, hslot, hname, hled, hsupported⟩, hkind⟩ := h
  refine ⟨hmapped, hname, hled, hsupported, ?_, fun hne => absurd hslot hne⟩
  rcases hkind with hsata | ⟨hnvme, -⟩
  · exact .inl hsata
  · exact .inr hnvme

theorem Disk.Assigned.with_reason {disk : Disk} (h : disk.Assigned) (reason : Text) :
    ({ disk with reason := reason } : Disk).Assigned :=
  ⟨h.mapped, h.slot_name, h.led_id, h.led_supported, h.kind, h.slot⟩

theorem Disk.Assigned.with_slot {disk : Disk} (h : disk.Assigned)
    (hsata : disk.interface_type = "sata") {slot : Nat} (hle : slot ≤ 8) (source : Text) :
    ({ disk with slot := slot, mapping_source := source } : Disk).Assigned :=
  ⟨h.mapped, h.slot_name, h.led_id, h.led_supported, h.kind, fun _ => ⟨hle, hsata⟩⟩

/-- Calibration lines keep to SATA disks. -/
theorem assigned_calibration {entries : List (Nat × Text)}
    (hentries : ∀ entry ∈ entries, 0 < entry.1 ∧ entry.1 ≤ 8 ∧ valid_topology entry.2 = true)
    {disk : Disk} (h : disk.Assigned)
    (hsata : valid_topology disk.topology = true → disk.interface_type = "sata") :
    (entries.foldl (fun (disk : Disk) entry =>
      if disk.topology = entry.2 then
        { disk with slot := entry.1, mapping_source := "administrator-calibration" }
      else
        disk) disk).Assigned := by
  induction entries generalizing disk with
  | nil => exact h
  | cons entry rest ih =>
    obtain ⟨-, hle, hvalid⟩ := hentries entry List.mem_cons_self
    have hrest := fun e he => hentries e (List.mem_cons_of_mem entry he)
    rw [List.foldl_cons]
    by_cases htopology : disk.topology = entry.2
    · rw [if_pos htopology]
      rw [← htopology] at hvalid
      exact ih hrest (h.with_slot (hsata hvalid) hle _) hsata
    · rw [if_neg htopology]
      exact ih hrest h hsata

theorem Disk.Fresh.sata_of_valid {disk : Disk} (h : disk.Fresh)
    (hvalid : valid_topology disk.topology = true) : disk.interface_type = "sata" := by
  rcases h.kind with hsata | ⟨-, -, pci, hpci, htopology⟩
  · exact hsata
  · rw [htopology, valid_topology_nvme hpci] at hvalid
    cases hvalid

theorem Disk.Fresh.sata_of_port {disk : Disk} (h : disk.Fresh) (hport : disk.ata_port ≥ 1) :
    disk.interface_type = "sata" := by
  rcases h.kind with hsata | ⟨-, hzero, -⟩
  · exact hsata
  · omega

theorem assigned_assign_slot {chassis : Chassis} (hsound : chassis.Sound) {disk : Disk}
    (h : disk.Fresh) : (assign_slot chassis disk).Assigned := by
  have hunknown := h.assigned "unknown"
  have hfinish : ∀ {d : Disk}, d.Assigned → ∀ reason : Text,
      (if d.slot ≠ 0 then d else { d with reason := reason } : Disk).Assigned := by
    intro d hd reason
    split
    · exact hd
    · exact hd.with_reason reason
  unfold assign_slot
  dsimp only
  split
  · exact hunknown
  apply hfinish
  split
  · exact assigned_calibration hsound.calibration hunknown h.sata_of_valid
  split
  · exact hunknown
  · next profile hprofile =>
    split
    · next hport =>
      simp only [Bool.and_eq_true, decide_eq_true_eq] at hport
      have hcount := hsound.port_count profile hprofile
      exact hunknown.with_slot (h.sata_of_port hport.1.2) (by omega) _
    · exact hunknown

/-- The bay with its LED, of a disk that has a slot. -/
theorem confirmed_cases {chassis : Chassis} {disk : Disk} (h : disk.Assigned) :
    (confirm_slot chassis disk).Unmapped ∨
      ((confirm_slot chassis disk).InBay ∧ (confirm_slot chassis disk).led_supported = true) := by
  unfold confirm_slot
  split
  · next hzero => exact .inl ⟨h.mapped, hzero, h.slot_name, h.led_id, h.led_supported⟩
  · next hne =>
    obtain ⟨hle, hsata⟩ := h.slot hne
    refine .inr ⟨⟨rfl, Nat.pos_of_ne_zero hne, hle, rfl, ?_, .inl ⟨rfl, rfl⟩⟩, rfl⟩
    show disk.interface_type ≠ _
    rw [hsata]
    decide

/-! ## Connector rules -/

/-- A rule names slot `1 .. 8`: of a bay, or of a connector without an LED. -/
def FirmwareRule.well_placed (rule : FirmwareRule) : Bool :=
  match parse_number (rule.slot.dropWhile fun c => !isdigit c) with
  | none => false
  | some slot => 0 < slot && slot ≤ 8 &&
      if rule.interface_type = "sata" ∨ rule.interface_type = "u2" then
        rule.slot = "ata" ++ decimal slot
      else
        !rule.color_led

theorem rules_well_placed :
    ∀ layout ∈ layouts, ∀ rule ∈ layout.rules, rule.well_placed = true := by
  decide +kernel

/-- No table gives one SATA bay two LED records. -/
theorem sata_led_unique : ∀ layout ∈ layouts, ∀ r ∈ layout.rules, ∀ r' ∈ layout.rules,
    r.interface_type = "sata" → r'.interface_type = "sata" → r.slot = r'.slot →
      r.color_led = r'.color_led := by
  decide +kernel

/-- What `firmware_rule_matches` checks first. -/
def SameSide (rule : FirmwareRule) (disk : Disk) : Prop :=
  rule.interface_type = "sata" ↔ disk.interface_type ≠ "nvme"

theorem returns_firmware_rule_matches (root resolved : Text) (layout : FirmwareLayout)
    (rule : FirmwareRule) (disk : Disk) (revision_known : Bool) :
    (firmware_rule_matches root resolved layout rule disk revision_known).Returns
      fun found => found = true → SameSide rule disk := by
  unfold firmware_rule_matches
  dsimp only
  split
  · intro hfalse
    cases hfalse
  · next hside =>
    have hsame : SameSide rule disk := by
      unfold SameSide
      by_cases hsata : rule.interface_type = "sata"
      · by_cases hnvme : disk.interface_type = "nvme"
        · exact absurd (by rw [decide_eq_true hsata, decide_eq_true hnvme]) hside
        · exact iff_of_true hsata hnvme
      · by_cases hnvme : disk.interface_type = "nvme"
        · exact iff_of_false hsata (not_not_intro hnvme)
        · exact absurd (by rw [decide_eq_false hsata, decide_eq_false hnvme]) hside
    exact returns_all (fun _ _ => hsame) _

theorem returns_matching_rules (root resolved : Text) (layout : FirmwareLayout) (disk : Disk)
    (revision_known : Bool) (rules : List FirmwareRule) :
    (matching_rules root resolved layout disk revision_known rules).Returns
      fun matched => ∀ rule ∈ matched, rule ∈ rules ∧ SameSide rule disk := by
  induction rules with
  | nil => exact fun rule hrule => nomatch hrule
  | cons rule rest ih =>
    apply (returns_firmware_rule_matches root resolved layout rule disk revision_known).bind
    intro found hfound
    apply ih.bind
    intro others hothers
    have hrest : ∀ r ∈ others, r ∈ rule :: rest ∧ SameSide r disk := fun r hr =>
      ⟨List.mem_cons_of_mem rule (hothers r hr).1, (hothers r hr).2⟩
    cases found with
    | false => exact hrest
    | true =>
      intro r hr
      rcases List.mem_cons.mp hr with rfl | hr
      · exact ⟨List.mem_cons_self, hfound rfl⟩
      · exact hrest r hr

theorem returns_connector_rules (root name : Text) (layout : FirmwareLayout) (disk : Disk)
    (revision_known : Bool) :
    (connector_rules root name layout disk revision_known).Returns
      fun matched => ∀ rule ∈ matched, rule ∈ layout.rules ∧ SameSide rule disk := by
  apply returns_after
  intro resolved
  cases resolved with
  | none => exact fun rule hrule => nomatch hrule
  | some resolved => exact returns_matching_rules root resolved layout disk revision_known _

/-- What `apply_firmware_rule` writes by a rule of the tables. -/
theorem apply_rule_fields (model : Text) {rule : FirmwareRule} (disk : Disk)
    (hrule : rule.well_placed = true) :
    (apply_firmware_rule model rule disk).slot_name = rule.slot ∧
      (apply_firmware_rule model rule disk).led_supported = firmware_slot_has_led model rule ∧
      (apply_firmware_rule model rule disk).interface_type =
        if rule.interface_type = "u2" then ("u2" : Text) else disk.interface_type := by
  unfold FirmwareRule.well_placed at hrule
  unfold apply_firmware_rule
  cases hslot : parse_number (rule.slot.dropWhile fun c => !isdigit c) with
  | none => simp [hslot] at hrule
  | some slot =>
    simp only [hslot, Bool.and_eq_true, decide_eq_true_eq] at hrule
    dsimp only
    rw [if_neg (by omega)]
    exact ⟨rfl, rfl, rfl⟩

/-- A disk that `apply_firmware_rule` maps lands where the rule says. -/
theorem placed_apply_rule (model : Text) {rule : FirmwareRule} {disk : Disk}
    (hrule : rule.well_placed = true) (hside : SameSide rule disk) :
    (apply_firmware_rule model rule disk).InBay ∨
      (apply_firmware_rule model rule disk).OnConnector := by
  unfold FirmwareRule.well_placed at hrule
  unfold apply_firmware_rule
  cases hslot : parse_number (rule.slot.dropWhile fun c => !isdigit c) with
  | none => simp [hslot] at hrule
  | some slot =>
    simp only [hslot, Bool.and_eq_true, decide_eq_true_eq] at hrule
    obtain ⟨⟨hpos, hle⟩, hname⟩ := hrule
    dsimp only
    rw [if_neg (by omega)]
    have hled : Disk.LedFits { disk with
        slot := slot
        led_supported := firmware_slot_has_led model rule
        led_id := if firmware_slot_has_led model rule then "disk" ++ decimal slot else [] } := by
      unfold Disk.LedFits
      cases firmware_slot_has_led model rule with
      | true => exact .inl ⟨rfl, rfl⟩
      | false => exact .inr ⟨rfl, rfl⟩
    by_cases hu2 : rule.interface_type = "u2"
    · rw [if_pos (.inr hu2)] at hname
      have hname' := of_decide_eq_true hname
      refine .inl ⟨rfl, hpos, hle, hname', ?_, hled⟩
      show (if rule.interface_type = "u2" then ("u2" : Text) else disk.interface_type) ≠ _
      rw [if_pos hu2]
      decide
    · by_cases hsata : rule.interface_type = "sata"
      · rw [if_pos (.inl hsata)] at hname
        refine .inl ⟨rfl, hpos, hle, of_decide_eq_true hname, ?_, hled⟩
        show (if rule.interface_type = "u2" then ("u2" : Text) else disk.interface_type) ≠ _
        rw [if_neg hu2]
        exact hside.mp hsata
      · rw [if_neg (not_or.mpr ⟨hsata, hu2⟩)] at hname
        have hnone : firmware_slot_has_led model rule = false := by
          unfold firmware_slot_has_led
          simp only [Bool.not_eq_true'] at hname
          rw [hname, decide_eq_false hsata]
          rfl
        refine .inr ⟨rfl, hpos, ?_, ?_, ?_, hnone⟩
        · show rule.slot ≠ []
          intro hnil
          rw [hnil] at hslot
          cases hslot
        · show (if rule.interface_type = "u2" then ("u2" : Text) else disk.interface_type) = _
          rw [if_neg hu2]
          by_contra hne
          exact hsata (hside.mpr hne)
        · show (if firmware_slot_has_led model rule then _ else _) = _
          rw [hnone]
          rfl

/-! ## LED records -/

/-- `led` is what every rule for the SATA bay of the disk says of its LED,
    and the disk does not lack an LED that they give it. -/
structure LedKnown (model : Text) (rules : List FirmwareRule) (disk : Disk) (led : Bool) :
    Prop where
  agreed : ∀ rule ∈ rules, rule.interface_type = "sata" → rule.slot = disk.slot_name →
    firmware_slot_has_led model rule = led
  kept : disk.led_supported = false → led = false

theorem firmware_slot_has_led_congr (model : Text) {r r' : FirmwareRule}
    (hr : r.interface_type = "sata") (hr' : r'.interface_type = "sata")
    (hled : r.color_led = r'.color_led) :
    firmware_slot_has_led model r = firmware_slot_has_led model r' := by
  unfold firmware_slot_has_led
  rw [hled, hr, hr']

theorem led_known_of_layout {layout : FirmwareLayout} (hlayout : layout ∈ layouts) (model : Text)
    {disk : Disk} (hled : disk.led_supported = true) :
    ∃ led, LedKnown model layout.rules disk led := by
  by_cases hany : ∃ rule ∈ layout.rules, rule.interface_type = "sata" ∧ rule.slot = disk.slot_name
  · obtain ⟨rule, hrule, hsata, hslot⟩ := hany
    refine ⟨firmware_slot_has_led model rule, ?_, fun hfalse => ?_⟩
    · intro r hr hrsata hrslot
      exact firmware_slot_has_led_congr model hrsata hsata
        (sata_led_unique layout hlayout r hr rule hrule hrsata hsata (hrslot.trans hslot.symm))
    · rw [hled] at hfalse
      cases hfalse
  · refine ⟨true, fun r hr hrsata hrslot => absurd ⟨r, hr, hrsata, hrslot⟩ hany, fun hfalse => ?_⟩
    rw [hled] at hfalse
    cases hfalse

theorem led_known_of_rule {layout : FirmwareLayout} (hlayout : layout ∈ layouts) (model : Text)
    {rule : FirmwareRule} (hrule : rule ∈ layout.rules) (hsata : rule.interface_type = "sata")
    {disk : Disk} (hslot : disk.slot_name = rule.slot)
    (hled : disk.led_supported = firmware_slot_has_led model rule) :
    ∃ led, LedKnown model layout.rules disk led := by
  refine ⟨firmware_slot_has_led model rule, ?_, fun hfalse => hled.symm.trans hfalse⟩
  intro r hr hrsata hrslot
  exact firmware_slot_has_led_congr model hrsata hsata
    (sata_led_unique layout hlayout r hr rule hrule hrsata hsata (hrslot.trans hslot))

/-- A bay stays a bay when its LED record is looked up. -/
theorem in_bay_led_record {model : Text} {rules : List FirmwareRule} {disk : Disk} {led : Bool}
    (hbay : disk.InBay) (hknown : LedKnown model rules disk led) :
    (rules.foldl (fun (disk : Disk) (rule : FirmwareRule) =>
      if rule.interface_type = "sata" && rule.slot = disk.slot_name then
        { disk with
          led_supported := firmware_slot_has_led model rule
          led_id := if firmware_slot_has_led model rule then disk.led_id else [] }
      else
        disk) disk).InBay := by
  induction rules generalizing disk with
  | nil => exact hbay
  | cons rule rest ih =>
    rw [List.foldl_cons]
    have hrest : ∀ r ∈ rest, r.interface_type = "sata" → r.slot = disk.slot_name →
        firmware_slot_has_led model r = led :=
      fun r hr => hknown.agreed r (List.mem_cons_of_mem rule hr)
    by_cases hmatch : rule.interface_type = "sata" ∧ rule.slot = disk.slot_name
    · rw [if_pos (by rw [decide_eq_true hmatch.1, decide_eq_true hmatch.2]; rfl),
        hknown.agreed rule List.mem_cons_self hmatch.1 hmatch.2]
      apply ih
      · refine ⟨hbay.mapped, hbay.pos, hbay.le, hbay.slot_name, hbay.not_nvme, ?_⟩
        cases led with
        | false => exact .inr ⟨rfl, rfl⟩
        | true =>
          rcases hbay.led with ⟨-, hid⟩ | ⟨hfalse, -⟩
          · exact .inl ⟨rfl, hid⟩
          · cases hknown.kept hfalse
      · exact ⟨hrest, id⟩
    · rw [if_neg]
      · exact ih hbay ⟨hrest, hknown.kept⟩
      · simpa using hmatch

theorem placed_led_record {model : Text} {layout : FirmwareLayout} {disk : Disk}
    (hplaced : disk.Placed)
    (hknown : disk.InBay → disk.interface_type = "sata" → ∃ led, LedKnown model layout.rules disk led) :
    (led_record model layout disk).Placed := by
  unfold led_record
  split
  · next hsata =>
    simp only [Bool.and_eq_true, decide_eq_true_eq] at hsata
    obtain ⟨hmapped, hsata⟩ := hsata
    cases hplaced with
    | unmapped h =>
      rw [h.mapped] at hmapped
      cases hmapped
    | connector h =>
      rw [h.nvme] at hsata
      exact absurd hsata (by decide)
    | bay h =>
      obtain ⟨led, hled⟩ := hknown h hsata
      exact .bay (in_bay_led_record h hled)
  · exact hplaced

/-! ## Candidates -/

theorem interface_assign_slot (chassis : Chassis) (disk : Disk) :
    (assign_slot chassis disk).interface_type = disk.interface_type := by
  have hfold : ∀ (entries : List (Nat × Text)) (disk : Disk),
      (entries.foldl (fun (disk : Disk) entry =>
        if disk.topology = entry.2 then
          { disk with slot := entry.1, mapping_source := "administrator-calibration" }
        else
          disk) disk).interface_type = disk.interface_type := by
    intro entries
    induction entries with
    | nil => exact fun _ => rfl
    | cons entry rest ih =>
      intro disk
      rw [List.foldl_cons, ih]
      split <;> rfl
  have hfinish : ∀ (d : Disk) (reason : Text),
      (if d.slot ≠ 0 then d else { d with reason := reason } : Disk).interface_type =
        d.interface_type := by
    intro d reason
    split <;> rfl
  unfold assign_slot
  dsimp only
  split
  · rfl
  rw [hfinish]
  split
  · rw [hfold]
  split
  · rfl
  · split <;> rfl

theorem interface_confirm_slot (chassis : Chassis) (disk : Disk) :
    (confirm_slot chassis disk).interface_type = disk.interface_type := by
  unfold confirm_slot
  split <;> rfl

/-- Whatever sysfs answers, a candidate is mapped in full or not at all. -/
theorem returns_candidate {chassis : Chassis} (hsound : chassis.Sound) {disk : Disk}
    (hfresh : disk.Fresh) : (candidate chassis disk).Returns Disk.Placed := by
  have hassigned := assigned_assign_slot hsound hfresh
  have hconfirmed := @confirmed_cases chassis _ hassigned
  have hplaced : (confirm_slot chassis (assign_slot chassis disk)).Placed := by
    rcases hconfirmed with h | h
    · exact .unmapped h
    · exact .bay h.1
  unfold candidate
  dsimp only
  generalize confirm_slot chassis (assign_slot chassis disk) = confirmed at *
  cases hlayout : chassis.layout with
  | none => exact hplaced
  | some layout =>
    obtain ⟨hmem, -⟩ := hsound.layout layout hlayout
    -- The LED of a bay that was confirmed before the rules is known.
    have hstay : ∀ reason : Text,
        (led_record chassis.model layout { confirmed with reason := reason }).Placed := by
      intro reason
      rcases hconfirmed with h | ⟨h, hled⟩
      · apply placed_led_record
        · exact .unmapped ⟨h.mapped, h.slot, h.slot_name, h.led_id, h.led_supported⟩
        · intro hbay
          exact absurd (h.mapped.symm.trans hbay.mapped) (by decide)
      · apply placed_led_record
        · exact .bay ⟨h.mapped, h.pos, h.le, h.slot_name, h.not_nvme, h.led⟩
        · exact fun _ _ => led_known_of_layout hmem chassis.model hled
    apply (returns_connector_rules _ _ layout confirmed _).bind
    intro matched hmatched
    show (led_record chassis.model layout (apply_rules chassis layout matched confirmed)).Placed
    unfold apply_rules
    split
    · next rule =>
      obtain ⟨hrule, hside⟩ := hmatched rule List.mem_cons_self
      split
      · exact hstay confirmed.reason
      · apply placed_led_record
        · rcases placed_apply_rule chassis.model (rules_well_placed layout hmem rule hrule) hside
            with h | h
          · exact .bay h
          · exact .connector h
        · intro _ hsata
          have hwell := rules_well_placed layout hmem rule hrule
          obtain ⟨hname, hled, hinterface⟩ := apply_rule_fields chassis.model confirmed hwell
          rw [hinterface] at hsata
          split at hsata
          · exact absurd hsata (by decide)
          · have hrule_sata := hside.mpr (by rw [hsata]; decide)
            exact led_known_of_rule hmem chassis.model hrule hrule_sata hname hled
    · split
      · exact hstay _
      · exact hstay confirmed.reason
    · exact placed_led_record (.unmapped (unmapped_unmap confirmed _)) fun hbay => by
        cases hbay.mapped

end UgreenNas.DiskMap
