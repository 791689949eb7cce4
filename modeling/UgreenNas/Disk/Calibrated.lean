import UgreenNas.Disk.CalibrationFile
import UgreenNas.Disk.Coalesce
import UgreenNas.Disk.Exclusive
import UgreenNas.Disk.OneRule

/-! # A calibration replaces the layout

    With a calibration present the slot of a disk is the one its topology
    has in the file, and no slot otherwise.  The connector rules, the second
    look and the conversion of local ports run or are skipped, and none of
    them changes that.
-/

namespace UgreenNas.DiskMap

open Effect Effect.Prog

/-! ## Readings -/

/-- What `read_one` tells of a disk that a calibration may map. -/
structure Reading (name : Text) (reading : Disk × Text) : Prop where
  fresh : reading.1.Fresh
  name : reading.1.name = name
  pci : valid_topology reading.1.topology = true → reading.1.pci ≠ []
  controller : reading.1.interface_type = "sata" → reading.2 = []

theorem returns_locate_sata (link resolved name : Text) :
    (locate link resolved name).Returns (OfSome fun (l : Located) =>
      if nvme_name name then l.1.interface_type = "nvme" else l.1.topology = [] ∧ l.2.1 = []) := by
  unfold locate
  cases hnvme : nvme_name name with
  | true =>
    apply (returns_read_nvme link resolved name).mono
    intro r hr
    cases r with
    | none => exact trivial
    | some l => exact hr.2
  | false =>
    simp only [Bool.false_eq_true, if_false]
    unfold read_sata
    split
    · apply returns_after
      intro platform
      split
      · apply returns_after
        intro type
        split
        · exact trivial
        apply returns_after
        intro vendor
        split
        · exact trivial
        · exact ⟨rfl, rfl⟩
      · exact trivial
    · exact trivial

theorem with_port_fields (disk : Disk) (platform : Text) (value : Option Text) :
    (with_port disk platform value).pci = disk.pci ∧
      (with_port disk platform value).name = disk.name ∧
      (with_port disk platform value).interface_type = disk.interface_type := by
  unfold with_port
  split
  · split <;> exact ⟨rfl, rfl, rfl⟩
  · exact ⟨rfl, rfl, rfl⟩

/-- The topology of a port on PCI has the function in it. -/
theorem pci_of_with_port {disk : Disk} (hnone : disk.topology = []) (platform : Text)
    (value : Option Text) (h : valid_topology (with_port disk platform value).topology = true) :
    disk.pci ≠ [] := by
  unfold with_port at h
  split at h
  · next port _ =>
    split at h
    · next hrange =>
      intro hpci
      simp only [Bool.and_eq_true, decide_eq_true_eq] at hrange
      have hlength : (decimal port).length ≤ 4 :=
        (Nat.length_toDigits_le_iff (by decide) (by decide)).mpr (by omega)
      unfold valid_topology at h
      simp only [Bool.and_eq_true, decide_eq_true_eq] at h
      obtain ⟨⟨⟨⟨hlong, hstart⟩, -⟩, -⟩, -⟩ := h
      cases platform with
      | nil =>
        simp [hpci] at hlong
        omega
      | cons c rest => simp at hstart
    · dsimp only at h
      rw [hnone] at h
      cases h
  · dsimp only at h
    rw [hnone] at h
    cases h

theorem returns_identify_reading (root link resolved name : Text) {located : Located}
    (h : if nvme_name name then located.1.interface_type = "nvme"
      else located.1.topology = [] ∧ located.2.1 = []) :
    (identify root link resolved name located).Returns (OfSome fun (r : Disk × Text) =>
      r.1.Fresh → r.1.name = name ∧ (valid_topology r.1.topology = true → r.1.pci ≠ []) ∧
        (r.1.interface_type = "sata" → r.2 = [])) := by
  obtain ⟨disk, controller, platform⟩ := located
  apply returns_after
  intro serial
  apply returns_after
  intro wwn
  have hport : (read_port root platform (nvme_name name)
      { disk with name := name, device := "/dev/" ++ name, serial := serial, wwn := wwn }).Returns
        fun (d : Disk) => d.Fresh → d.name = name ∧
          (valid_topology d.topology = true → d.pci ≠ []) ∧
          (d.interface_type = "sata" → controller = []) := by
    unfold read_port
    cases hnvme : nvme_name name with
    | true =>
      rw [hnvme, if_pos rfl] at h
      rw [if_pos rfl]
      intro hfresh
      have hnot : disk.interface_type ≠ "sata" := by
        rw [h]
        decide
      exact ⟨rfl, fun hvalid => absurd (hfresh.sata_of_valid hvalid) hnot,
        fun hsata => absurd hsata hnot⟩
    | false =>
      rw [hnvme] at h
      rw [if_neg (by decide)]
      apply returns_after
      intro value _
      obtain ⟨hpci, hname, -⟩ := with_port_fields
        { disk with name := name, device := "/dev/" ++ name, serial := serial, wwn := wwn } platform value
      rw [hpci, hname]
      exact ⟨rfl, fun hvalid => pci_of_with_port h.1 platform value hvalid, fun _ => h.2⟩
  apply hport.bind
  intro disk' hdisk'
  apply returns_after
  intro check
  split
  · exact trivial
  apply returns_after
  intro serial_check
  apply returns_after
  intro wwn_check
  split
  · exact trivial
  · exact hdisk'

/-- Whatever sysfs answers, a disk is read like this. -/
theorem returns_reading (root name : Text) :
    (read_one root name).Returns (OfSome (Reading name)) := by
  have hrest : (read_one root name).Returns (OfSome fun (r : Disk × Text) =>
      r.1.Fresh → r.1.name = name ∧ (valid_topology r.1.topology = true → r.1.pci ≠ []) ∧
        (r.1.interface_type = "sata" → r.2 = [])) := by
    unfold read_one
    split
    · exact trivial
    dsimp only
    split
    · exact trivial
    apply returns_after
    intro resolved
    split
    · split
      · exact trivial
      apply returns_after
      intro partition
      split
      · exact trivial
      apply (returns_locate_sata _ _ name).bind
      intro located hlocated
      split
      · exact returns_identify_reading root _ _ name hlocated
      · exact trivial
    · exact trivial
  apply ((returns_read_one root name).and hrest).mono
  intro r ⟨hfresh, hfields⟩
  cases r with
  | none => exact trivial
  | some r =>
    obtain ⟨hname, hpci, hcontroller⟩ := hfields hfresh
    exact ⟨hfresh, hname, hpci, hcontroller⟩

/-! ## The slot of a topology -/

/-- The slot that a calibration has for a topology, 0 when it has none. -/
def calibrated_slot (entries : List (Nat × Text)) (topology : Text) : Nat :=
  ((entries.find? (·.2 = topology)).map Prod.fst).getD 0

theorem calibrated_slot_of_mem {entries : List (Nat × Text)} (h : Distinct entries)
    {entry : Nat × Text} (hmem : entry ∈ entries) : calibrated_slot entries entry.2 = entry.1 := by
  unfold calibrated_slot
  cases hfound : entries.find? (·.2 = entry.2) with
  | none =>
    have hnone := List.find?_eq_none.mp hfound entry hmem
    simp at hnone
  | some found =>
    have hsame : found.2 = entry.2 := by simpa using List.find?_some hfound
    have heq : found = entry := by
      by_contra hne
      exact (h.apart (List.mem_of_find?_eq_some hfound) hmem hne).2 hsame
    rw [heq]
    rfl

theorem calibrated_slot_of_not_mem {entries : List (Nat × Text)} {topology : Text}
    (h : topology ∉ entries.map Prod.snd) : calibrated_slot entries topology = 0 := by
  unfold calibrated_slot
  have hnone : entries.find? (·.2 = topology) = none := by
    rw [List.find?_eq_none]
    intro entry hentry heq
    simp only [decide_eq_true_eq] at heq
    exact h (List.mem_map.mpr ⟨entry, hentry, heq⟩)
  rw [hnone]
  rfl

/-- A slot is that of an entry. -/
theorem calibrated_slot_ne_zero {entries : List (Nat × Text)} {topology : Text}
    (h : calibrated_slot entries topology ≠ 0) : (calibrated_slot entries topology, topology) ∈ entries := by
  unfold calibrated_slot at h ⊢
  cases hfound : entries.find? (·.2 = topology) with
  | none =>
    rw [hfound] at h
    exact absurd rfl h
  | some found =>
    have hsame : found.2 = topology := by simpa using List.find?_some hfound
    have hmem := List.mem_of_find?_eq_some hfound
    rw [← hsame]
    exact hmem

/-- What the scan knows of a chassis with a calibration. -/
structure Chassis.Calibrated (chassis : Chassis) : Prop where
  sound : chassis.Sound
  present : chassis.calibration.present = true
  distinct : Distinct chassis.calibration.entries
  single_profile : chassis.single_profile = none

/-- A disk with the slot that a calibration gives its topology, and mapped
    when there is one. -/
structure Disk.Calibrated (entries : List (Nat × Text)) (reading disk : Disk) : Prop where
  name : disk.name = reading.name
  topology : disk.topology = reading.topology
  interface_type : disk.interface_type = reading.interface_type
  pci : disk.pci = reading.pci
  slot : disk.slot = calibrated_slot entries reading.topology
  mapped : disk.mapped = true ↔ disk.slot ≠ 0
  source : disk.slot ≠ 0 → disk.mapping_source = "administrator-calibration"

/-- The loop over the entries of the calibration. -/
theorem calibration_loop {entries : List (Nat × Text)} (h : Distinct entries) (disk : Disk) :
    entries.foldl (fun (disk : Disk) entry =>
      if disk.topology = entry.2 then
        { disk with slot := entry.1, mapping_source := "administrator-calibration" }
      else
        disk) disk =
      if disk.topology ∈ entries.map Prod.snd then
        { disk with
          slot := calibrated_slot entries disk.topology
          mapping_source := "administrator-calibration" }
      else
        disk := by
  induction entries generalizing disk with
  | nil => rfl
  | cons entry rest ih =>
    obtain ⟨hfirst, hrest⟩ := List.pairwise_cons.mp h
    rw [List.foldl_cons]
    by_cases htopology : disk.topology = entry.2
    · have hslot : calibrated_slot (entry :: rest) disk.topology = entry.1 := by
        rw [htopology]
        exact calibrated_slot_of_mem h List.mem_cons_self
      have hother : disk.topology ∉ rest.map Prod.snd := by
        intro hmem
        obtain ⟨other, hother, heq⟩ := List.mem_map.mp hmem
        exact (hfirst other hother).2 (htopology.symm.trans heq.symm)
      rw [if_pos htopology, ih hrest, if_neg hother, if_pos (by simp [htopology]), hslot]
    · have hmem : disk.topology ∈ (entry :: rest).map Prod.snd ↔ disk.topology ∈ rest.map Prod.snd := by
        rw [List.map_cons, List.mem_cons]
        exact or_iff_right htopology
      have hslot : calibrated_slot (entry :: rest) disk.topology =
          calibrated_slot rest disk.topology := by
        unfold calibrated_slot
        rw [List.find?_cons_of_neg (by simpa using Ne.symm htopology)]
      rw [if_neg htopology, ih hrest, hslot]
      simp only [hmem]

section chassis

variable {chassis : Chassis}

/-- The slot of a disk is that of its topology. -/
theorem calibrated_assigned (h : chassis.Calibrated) {disk : Disk} (hzero : disk.slot = 0) :
    ∃ reason source : Text, assign_slot chassis disk =
        { disk with
          slot := calibrated_slot chassis.calibration.entries disk.topology
          mapping_source := source
          reason := reason } ∧
      (calibrated_slot chassis.calibration.entries disk.topology ≠ 0 →
        source = "administrator-calibration") := by
  have hnone : disk.topology ∉ chassis.calibration.entries.map Prod.snd →
      ∀ reason source : Text, ({ disk with mapping_source := source, reason := reason } : Disk) =
        { disk with
          slot := calibrated_slot chassis.calibration.entries disk.topology
          mapping_source := source
          reason := reason } := by
    intro hnot reason source
    rw [calibrated_slot_of_not_mem hnot, ← hzero]
  unfold assign_slot
  dsimp only
  rw [h.present, if_pos rfl, calibration_loop h.distinct]
  by_cases hmem : disk.topology ∈ chassis.calibration.entries.map Prod.snd
  · obtain ⟨entry, hentry, heq⟩ := List.mem_map.mp hmem
    have hvalid := h.sound.calibration entry hentry
    have hslot : calibrated_slot chassis.calibration.entries disk.topology = entry.1 := by
      rw [← heq]
      exact calibrated_slot_of_mem h.distinct hentry
    have hblank : ¬ disk.topology.isEmpty = true := by
      intro hempty
      rw [heq, List.isEmpty_iff.mp hempty] at hvalid
      cases hvalid.2.2
    rw [if_neg hblank, if_pos hmem]
    dsimp only
    rw [if_pos (by rw [hslot]; omega)]
    exact ⟨disk.reason, "administrator-calibration", rfl, fun _ => rfl⟩
  · have hzero' := calibrated_slot_of_not_mem hmem
    rw [if_neg hmem]
    by_cases hblank : disk.topology.isEmpty = true
    · rw [if_pos hblank]
      exact ⟨disk.reason, "unknown", hnone hmem _ _, fun hne => absurd hzero' hne⟩
    · rw [if_neg hblank, if_neg (not_not.mpr hzero)]
      exact ⟨_, "unknown", hnone hmem _ _, fun hne => absurd hzero' hne⟩

theorem calibrated_confirmed (h : chassis.Calibrated) {disk : Disk} (hfresh : disk.Unmapped) :
    Disk.Calibrated chassis.calibration.entries disk
      (confirm_slot chassis (assign_slot chassis disk)) := by
  obtain ⟨reason, source, hassign, hsource⟩ := calibrated_assigned h hfresh.slot
  rw [hassign]
  unfold confirm_slot
  dsimp only
  by_cases hzero : calibrated_slot chassis.calibration.entries disk.topology = 0
  · rw [if_pos hzero]
    refine ⟨rfl, rfl, rfl, rfl, rfl, ?_, fun hne => absurd hzero hne⟩
    simp [hfresh.mapped, hzero]
  · rw [if_neg hzero]
    refine ⟨rfl, rfl, rfl, rfl, rfl, ?_, hsource⟩
    simp [hzero]

theorem led_record_fields (model : Text) (layout : FirmwareLayout) (disk : Disk) :
    ∃ (led_supported : Bool) (led_id : Text), led_record model layout disk =
      { disk with led_supported := led_supported, led_id := led_id } := by
  unfold led_record
  split
  · generalize layout.rules = rules
    induction rules using List.reverseRecOn with
    | nil => exact ⟨disk.led_supported, disk.led_id, rfl⟩
    | append_singleton rules rule ih =>
      obtain ⟨led_supported, led_id, heq⟩ := ih
      rw [List.foldl_append, heq, List.foldl_cons, List.foldl_nil]
      split
      · exact ⟨_, _, rfl⟩
      · exact ⟨_, _, rfl⟩
  · exact ⟨disk.led_supported, disk.led_id, rfl⟩

/-- With a calibration no rule is applied, and one match disturbs nothing. -/
theorem apply_rules_calibrated (h : chassis.Calibrated) (layout : FirmwareLayout) (disk : Disk)
    {matched : List FirmwareRule} (hone : matched.length ≤ 1) :
    apply_rules chassis layout matched disk = disk := by
  match matched with
  | [] =>
    unfold apply_rules
    dsimp only
    rw [h.present, if_neg (by simp)]
  | [rule] =>
    unfold apply_rules
    dsimp only
    rw [if_pos h.present]
  | _ :: _ :: _ => simp at hone

/-- The rules run, and leave the slot where it is. -/
theorem calibrated_candidate (h : chassis.Calibrated) {tree : Tree} {name : Text}
    {reading : Disk × Text} (hreading : Reading name reading) {disk : Disk} {s s' : Unit}
    (hrun : Runs tree.env (candidate chassis reading.1) s disk s') :
    Disk.Calibrated chassis.calibration.entries reading.1 disk := by
  have hconfirmed := calibrated_confirmed h hreading.fresh.unmapped
  unfold candidate at hrun
  dsimp only at hrun
  generalize confirm_slot chassis (assign_slot chassis reading.1) = confirmed at *
  cases hlayout : chassis.layout with
  | none =>
    rw [hlayout] at hrun
    cases hrun
    exact hconfirmed
  | some layout =>
    rw [hlayout] at hrun
    obtain ⟨matched, _, hmatched, hrun⟩ := Runs.of_bind hrun
    cases hrun
    have hrules : Disk.Calibrated chassis.calibration.entries reading.1
        (apply_rules chassis layout matched confirmed) := by
      by_cases hone : matched.length ≤ 1
      · rw [apply_rules_calibrated h layout confirmed hone]
        exact hconfirmed
      · -- Only a disk without a slot can meet several rules.
        have hzero : confirmed.slot = 0 := by
          by_contra hne
          rw [hconfirmed.slot] at hne
          have hvalid := (h.sound.calibration _ (calibrated_slot_ne_zero hne)).2.2
          apply hone
          apply runs_connector_rules (h.sound.layout layout hlayout).1 _ _ hmatched
          · rw [hconfirmed.pci]
            exact hreading.pci hvalid
          · rw [hconfirmed.interface_type, hreading.fresh.sata_of_valid hvalid]
            decide
        have hslot : calibrated_slot chassis.calibration.entries reading.1.topology = 0 :=
          hconfirmed.slot.symm.trans hzero
        match matched with
        | [] => simp at hone
        | [_] => simp at hone
        | _ :: _ :: _ =>
          unfold apply_rules
          exact ⟨hconfirmed.name, hconfirmed.topology, hconfirmed.interface_type, hconfirmed.pci,
            hslot.symm, by simp [Disk.unmap], fun hne => absurd rfl hne⟩
    obtain ⟨led_supported, led_id, heq⟩ := led_record_fields chassis.model layout
      (apply_rules chassis layout matched confirmed)
    rw [heq]
    exact ⟨hrules.name, hrules.topology, hrules.interface_type, hrules.pci, hrules.slot,
      hrules.mapped, hrules.source⟩

/-! ## The disks of a tree -/

variable {tree : Tree}

/-- What a name of `class/block` reads as. -/
def Tree.reading (tree : Tree) (root name : Text) : Option (Disk × Text) :=
  tree.get (read_one root name)

theorem reading_of_tree {root name : Text} {reading : Disk × Text}
    (h : tree.reading root name = some reading) : Reading name reading := by
  have hreturns := (returns_reading root name).inl (T := inventory)
  have hruns := hreturns.runs (tree.runs (read_one root name).inl)
  rw [value_inl, show tree.get (read_one root name) = some reading from h] at hruns
  exact hruns

/-- An entry of the scan, and the reading it was made of. -/
structure Taken (chassis : Chassis) (reading entry : Disk × Text) : Prop where
  calibrated : Disk.Calibrated chassis.calibration.entries reading.1 entry.1
  placed : entry.1.Placed
  controller : entry.2 = reading.2

theorem enumerate_entry_taken (h : chassis.Calibrated) {st st' : Found} {name : Text} {s s' : Unit}
    (hrun : Runs tree.env (enumerate_entry chassis st name) s (.ok st') s') :
    match tree.reading chassis.root name with
    | none => st'.disks = st.disks
    | some reading => ∃ entry, st'.disks = st.disks ++ [entry] ∧ Taken chassis reading entry := by
  unfold enumerate_entry at hrun
  split at hrun
  · cases hrun
  have hmembers : (if is_member name = true then
      { st with members := st.members ++ [name] } else st : Found).disks = st.disks := by
    split <;> rfl
  dsimp only at hrun
  rw [← hmembers]
  generalize (if is_member name = true then
    { st with members := st.members ++ [name] } else st : Found) = members at *
  obtain ⟨read, _, hread, hrun⟩ := Runs.of_bind hrun
  have hread' : read = tree.reading chassis.root name := runs_get hread
  rw [← hread']
  cases read with
  | none =>
    cases hrun
    rfl
  | some reading =>
    have hreading := reading_of_tree hread'.symm
    dsimp only at hrun
    split at hrun
    · cases hrun
    · obtain ⟨disk, _, hcandidate, hrun⟩ := Runs.of_bind hrun
      cases hrun
      exact ⟨(disk, reading.2), rfl, calibrated_candidate h hreading hcandidate,
        (returns_candidate h.sound hreading.fresh).runs hcandidate, rfl⟩

/-- The readings of a list of names. -/
def Tree.readings (tree : Tree) (root : Text) (names : List Text) : List (Disk × Text) :=
  names.filterMap (tree.reading root)

theorem enumerate_walk_taken (h : chassis.Calibrated) {names : List Text} {st st' : Found}
    {s s' : Unit} (hrun : Runs tree.env (Prog.walk (enumerate_entry chassis) st names) s (.ok st') s') :
    ∃ new, st'.disks = st.disks ++ new ∧
      List.Forall₂ (Taken chassis) (tree.readings chassis.root names) new := by
  induction names generalizing st s with
  | nil =>
    cases hrun
    exact ⟨[], (List.append_nil _).symm, .nil⟩
  | cons name rest ih =>
    obtain ⟨r, _, hstep, hrun⟩ := Runs.of_bind hrun
    cases r with
    | error fault => cases hrun
    | ok next =>
      obtain ⟨new, hdisks, hnew⟩ := ih hrun
      have hentry := enumerate_entry_taken h hstep
      unfold Tree.readings at hnew ⊢
      cases hread : tree.reading chassis.root name with
      | none =>
        rw [hread] at hentry
        dsimp only at hentry
        rw [List.filterMap_cons_none hread, hdisks, hentry]
        exact ⟨new, rfl, hnew⟩
      | some reading =>
        rw [hread] at hentry
        obtain ⟨entry, hsnoc, htaken⟩ := hentry
        rw [List.filterMap_cons_some hread, hdisks, hsnoc]
        exact ⟨entry :: new, by simp, .cons htaken hnew⟩

/-- The disks found are those of the block directory, each as it was read. -/
theorem enumerate_taken (h : chassis.Calibrated) {found : Found} {s s' : Unit}
    (hrun : Runs tree.env (enumerate chassis) s (.ok found) s') :
    ∃ directory names, tree.directory chassis.block_directory = .ok directory ∧
      names.Perm directory.entries ∧
      List.Forall₂ (Taken chassis) (tree.readings chassis.root names) found.disks := by
  obtain ⟨opened, _, hopened, hrun⟩ := Runs.of_bind hrun
  rcases runs_opendir hopened with ⟨errno, -, rfl⟩ | ⟨directory, listing, hdirectory, rfl, hperm⟩
  · cases hrun
  · obtain ⟨r, _, hwalk, hrun⟩ := Runs.of_bind hrun
    cases r with
    | error fault => cases hrun
    | ok found' =>
      obtain ⟨new, hdisks, hnew⟩ := enumerate_walk_taken h hwalk
      dsimp only at hrun
      split at hrun
      · cases hrun
      · cases hrun
        refine ⟨directory, listing.entries, hdirectory, hperm, ?_⟩
        rw [hdisks]
        exact hnew

/-! ## The second look -/

theorem recheck_rules_calibrated (h : chassis.Calibrated) (current disk : Disk) :
    recheck_rules chassis current disk = Pure.pure disk := by
  unfold recheck_rules
  split
  · rfl
  · rw [if_pos (by simp [h.present])]

theorem recheck_unchanged (h : chassis.Calibrated) {entries done again : List (Disk × Text)}
    {s s' : Unit} (hrun : Runs tree.env (Prog.walk (recheck_disk chassis) done entries) s (.ok again) s') :
    again = done ++ entries := by
  induction entries generalizing done s with
  | nil =>
    cases hrun
    exact (List.append_nil _).symm
  | cons entry rest ih =>
    obtain ⟨r, _, hstep, hrun⟩ := Runs.of_bind hrun
    cases r with
    | error fault => cases hrun
    | ok next =>
      have hnext : next = done ++ [entry] := by
        obtain ⟨current, _, -, hstep⟩ := Runs.of_bind hstep
        cases current with
        | none => cases hstep
        | some current =>
          dsimp only at hstep
          split at hstep
          · cases hstep
          · rw [recheck_rules_calibrated h] at hstep
            cases hstep
            rfl
      rw [ih hrun, hnext]
      simp

theorem recheck_controller_calibrated (h : chassis.Calibrated) (disks : List (Disk × Text)) :
    recheck_controller chassis disks = Pure.pure disks := by
  unfold recheck_controller
  rw [h.single_profile]

/-- The candidates of the scan: the entries taken, coalesced. -/
theorem candidates_taken (h : chassis.Calibrated) {found : List Disk × List NamespaceAlias}
    {s s' : Unit} (hrun : Runs tree.env (candidates chassis) s (.ok found) s') :
    ∃ directory names entries, tree.directory chassis.block_directory = .ok directory ∧
      names.Perm directory.entries ∧
      List.Forall₂ (Taken chassis) (tree.readings chassis.root names) entries ∧
      coalesce_nvme_namespaces (entries.map Prod.fst) (entries.map Prod.snd) = .ok found := by
  obtain ⟨listed, _, henumerate, hrun⟩ := Runs.of_andThen hrun
  obtain ⟨again, _, hrecheck, hrun⟩ := Runs.of_andThen hrun
  obtain ⟨directory, names, hdirectory, hperm, htaken⟩ := enumerate_taken h henumerate
  have hsame : again = listed.disks := recheck_unchanged h hrecheck
  rw [recheck_controller_calibrated h] at hrun
  obtain ⟨_, _, -, hrun⟩ := Runs.of_andThen hrun
  obtain ⟨_, _, -, hrun⟩ := Runs.of_andThen hrun
  rw [hsame] at hrun
  refine ⟨directory, names, listed.disks, hdirectory, hperm, htaken, ?_⟩
  generalize coalesce_nvme_namespaces (listed.disks.map Prod.fst) (listed.disks.map Prod.snd) = r at hrun
  cases hrun
  rfl

end chassis

/-! ## Conflicts -/

/-- A candidate whose slot is that of the calibration. -/
structure Standing (entries : List (Nat × Text)) (disk : Disk) : Prop where
  placed : disk.Placed
  slot : disk.slot = calibrated_slot entries disk.topology
  mapped : disk.mapped = true ↔ disk.slot ≠ 0
  sata : disk.slot ≠ 0 → disk.interface_type = "sata"
  source : disk.slot ≠ 0 → disk.mapping_source = "administrator-calibration"

section standing

variable {entries : List (Nat × Text)} {d e : Disk}

theorem Standing.entry (h : Standing entries d) (hslot : d.slot ≠ 0) :
    (d.slot, d.topology) ∈ entries := by
  rw [h.slot] at hslot ⊢
  exact calibrated_slot_ne_zero hslot

theorem Standing.bay (h : Standing entries d) (hslot : d.slot ≠ 0) : d.InBay := by
  have hmapped := h.mapped.mpr hslot
  cases h.placed with
  | unmapped hfree => exact absurd hfree.slot hslot
  | bay hbay => exact hbay
  | connector hconnector =>
    have hsata := h.sata hslot
    rw [hconnector.nvme] at hsata
    cases hsata

theorem Standing.free (h : Standing entries d) (hslot : d.slot = 0) : d.Unmapped := by
  apply h.placed.unmapped_of
  cases hmapped : d.mapped with
  | false => rfl
  | true => exact absurd hslot (h.mapped.mp hmapped)

theorem decimal_inj {n m : Nat} (h : decimal n = decimal m) : n = m := by
  rw [← number_decimal n, h, number_decimal]

/-- Two candidates clash by their topology alone. -/
theorem Standing.clash (hdistinct : Distinct entries)
    (hvalid : ∀ entry ∈ entries, valid_topology entry.2 = true) (h : Standing entries d)
    (h' : Standing entries e) (hslot : d.slot ≠ 0) :
    DiskMap.clash d e = true ↔ d.topology = e.topology := by
  have hne : d.topology ≠ [] := by
    intro hnil
    have hblank := hvalid _ (h.entry hslot)
    rw [hnil] at hblank
    cases hblank
  have hbay := h.bay hslot
  have hsame : e.slot ≠ 0 → d.slot = e.slot → d.topology = e.topology := by
    intro hslot' heq
    by_contra hother
    exact (hdistinct.apart (h.entry hslot) (h'.entry hslot')
      fun hpair => hother (congrArg Prod.snd hpair)).1 heq
  constructor
  · intro hclash
    unfold DiskMap.clash shared at hclash
    simp only [Bool.or_eq_true, Bool.and_eq_true, decide_eq_true_eq, Bool.not_eq_true',
      List.isEmpty_eq_false_iff] at hclash
    by_cases hslot' : e.slot = 0
    · have hfree := h'.free hslot'
      rcases hclash with (⟨-, heq⟩ | ⟨hname, heq⟩) | ⟨hled, heq⟩
      · exact heq
      · exact absurd (heq.trans hfree.slot_name) hname
      · exact absurd (heq.trans hfree.led_id) hled
    · have hbay' := h'.bay hslot'
      rcases hclash with (⟨-, heq⟩ | ⟨-, heq⟩) | ⟨hled, heq⟩
      · exact heq
      · rw [hbay.slot_name, hbay'.slot_name, List.append_cancel_left_eq] at heq
        exact hsame hslot' (decimal_inj heq)
      · rcases hbay.led with ⟨-, hid⟩ | ⟨-, hnone⟩
        · rcases hbay'.led with ⟨-, hid'⟩ | ⟨-, hnone'⟩
          · rw [hid, hid', List.append_cancel_left_eq] at heq
            exact hsame hslot' (decimal_inj heq)
          · exact absurd (heq.trans hnone') hled
        · exact absurd hnone hled
  · intro heq
    unfold DiskMap.clash
    rw [shared_of_eq hne heq]
    rfl

end standing

/-- The member at `i` is the only one of its kind. -/
theorem count_getElem_eq_one {α : Type} [BEq α] [LawfulBEq α] (l : List α) {i : Nat} (hi : i < l.length) :
    l.count l[i] = 1 ↔ ∀ j (hj : j < l.length), j ≠ i → l[j] ≠ l[i] := by
  have hsplit : l = l.take i ++ l[i] :: l.drop (i + 1) := by
    rw [← List.drop_eq_getElem_cons hi, List.take_append_drop]
  have hcount : l.count l[i] = (l.take i).count l[i] + ((l.drop (i + 1)).count l[i] + 1) := by
    calc l.count l[i] = (l.take i ++ l[i] :: l.drop (i + 1)).count l[i] :=
          congrArg (List.count l[i]) hsplit
      _ = _ := by rw [List.count_append, List.count_cons_self]
  constructor
  · intro h j hj hne heq
    have htake : l[i] ∉ l.take i := by
      rw [← List.count_eq_zero]
      omega
    have hdrop : l[i] ∉ l.drop (i + 1) := by
      rw [← List.count_eq_zero]
      omega
    rcases Nat.lt_or_gt_of_ne hne with hlt | hgt
    · apply htake
      rw [← heq]
      exact List.mem_take_iff_getElem.mpr ⟨j, by omega, rfl⟩
    · apply hdrop
      rw [← heq]
      exact List.mem_drop_iff_getElem.mpr ⟨j - (i + 1), by omega, by congr 1; omega⟩
  · intro h
    have htake : (l.take i).count l[i] = 0 := by
      rw [List.count_eq_zero]
      intro hmem
      obtain ⟨j, hj, heq⟩ := List.mem_take_iff_getElem.mp hmem
      exact h j (by omega) (by omega) heq
    have hdrop : (l.drop (i + 1)).count l[i] = 0 := by
      rw [List.count_eq_zero]
      intro hmem
      obtain ⟨j, hj, heq⟩ := List.mem_drop_iff_getElem.mp hmem
      exact h _ (by omega) (by omega) heq
    omega

/-! ## The scan -/

/-- The slot and the mapping that a calibration alone gives a topology among
    the topologies of a scan. -/
def calibrated_outcome (entries : List (Nat × Text)) (topologies : List Text) (topology : Text) :
    Nat × Bool :=
  if calibrated_slot entries topology ≠ 0 ∧ topologies.count topology = 1 then
    (calibrated_slot entries topology, true)
  else
    (0, false)

/-- The entries of a scan that goes by a calibration. -/
structure Replaced (entries : List (Nat × Text)) (disks : List Disk) : Prop where
  mapped : ∀ d ∈ disks, d.mapped = true ↔ d.interface_type = "sata" ∧
    d.topology ∈ entries.map Prod.snd ∧ (disks.map Disk.topology).count d.topology = 1
  entry : ∀ d ∈ disks, d.mapped = true → (d.slot, d.topology) ∈ entries ∧
    d.slot_name = "ata" ++ decimal d.slot ∧ d.mapping_source = "administrator-calibration"
  nvme : ∀ d ∈ disks, d.interface_type = "nvme" → d.mapped = false
  outcome : ∀ d ∈ disks, (d.slot, d.mapped) =
    calibrated_outcome entries (disks.map Disk.topology) d.topology

section scan

variable {chassis : Chassis}

theorem resolved_topologies (chassis : Chassis) (disks : List Disk) :
    (resolved chassis disks).map Disk.topology = disks.map Disk.topology := by
  apply List.ext_getElem
  · simp [resolved_length]
  · intro i hi hi'
    rw [List.length_map] at hi hi'
    rw [List.getElem_map, List.getElem_map]
    rcases resolved_at chassis disks hi' hi with ⟨heq, -⟩ | ⟨⟨reason, heq⟩, -⟩
    · rw [heq]
    · rw [heq]
      rfl

theorem gt_unambiguous (h : chassis.Calibrated) (disks : List Disk) :
    gt_sata_ambiguous chassis disks = false := by
  unfold gt_sata_ambiguous
  rw [h.present]
  rfl

/-- A candidate with a slot keeps it when no other one has its topology. -/
theorem resolved_outcome (h : chassis.Calibrated) {disks : List Disk}
    (hdisks : ∀ d ∈ disks, Standing chassis.calibration.entries d) {i : Nat} (hi : i < disks.length)
    (hi' : i < (resolved chassis disks).length) :
    ((disks[i].slot ≠ 0 ∧ (disks.map Disk.topology).count disks[i].topology = 1) ∧
      (resolved chassis disks)[i] = disks[i]) ∨
    (¬ (disks[i].slot ≠ 0 ∧ (disks.map Disk.topology).count disks[i].topology = 1) ∧
      (resolved chassis disks)[i].Unmapped ∧
      (resolved chassis disks)[i].topology = disks[i].topology ∧
      (resolved chassis disks)[i].interface_type = disks[i].interface_type) := by
  have hstanding := hdisks _ (List.getElem_mem hi)
  by_cases hslot : disks[i].slot = 0
  · right
    refine ⟨fun hkept => hkept.1 hslot, ?_⟩
    rcases resolved_at chassis disks hi hi' with ⟨heq, -⟩ | ⟨⟨reason, heq⟩, -⟩
    · rw [heq]
      exact ⟨hstanding.free hslot, rfl, rfl⟩
    · rw [heq]
      exact ⟨unmapped_forget _ _, rfl, rfl⟩
  · have hi'' : i < (disks.map Disk.topology).length := by rwa [List.length_map]
    have hcount := count_getElem_eq_one (disks.map Disk.topology) hi''
    rw [List.getElem_map] at hcount
    have hconflict : Conflicted chassis disks i ↔
        ¬ (disks.map Disk.topology).count disks[i].topology = 1 := by
      rw [hcount]
      unfold Conflicted
      rw [gt_unambiguous h, List.getD_eq_getElem disks {} hi]
      simp only [Bool.false_eq_true, false_and, false_or, not_forall, List.length_map,
        List.getElem_map, not_not]
      constructor
      · intro ⟨j, hj, hne, hclash⟩
        rw [List.getD_eq_getElem disks {} hj] at hclash
        have hsame := (hstanding.clash h.distinct (fun e he => (h.sound.calibration e he).2.2)
          (hdisks _ (List.getElem_mem hj)) hslot).mp hclash
        exact ⟨j, hj, hne, hsame.symm⟩
      · intro ⟨j, hj, hne, hsame⟩
        refine ⟨j, hj, hne, ?_⟩
        rw [List.getD_eq_getElem disks {} hj]
        exact (hstanding.clash h.distinct (fun e he => (h.sound.calibration e he).2.2)
          (hdisks _ (List.getElem_mem hj)) hslot).mpr hsame.symm
    rcases resolved_at chassis disks hi hi' with ⟨heq, hfree⟩ | ⟨⟨reason, heq⟩, hlost⟩
    · rw [hconflict, not_not] at hfree
      exact .inl ⟨⟨hslot, hfree⟩, heq⟩
    · rw [heq]
      exact .inr ⟨fun hkept => hconflict.mp hlost hkept.2, unmapped_forget _ _, rfl, rfl⟩

/-- Candidates that stand by the calibration, with their conflicts resolved. -/
theorem replaced_of_standing (h : chassis.Calibrated) {disks : List Disk}
    (hdisks : ∀ d ∈ disks, Standing chassis.calibration.entries d) :
    Replaced chassis.calibration.entries (resolve_conflicts chassis disks) := by
  have hperm := resolve_conflicts_perm chassis disks
  have htopologies : ∀ topology, ((resolve_conflicts chassis disks).map Disk.topology).count topology =
      (disks.map Disk.topology).count topology := by
    intro topology
    rw [(hperm.map _).count_eq, resolved_topologies]
  have hslots : ∀ topology, topology ∈ chassis.calibration.entries.map Prod.snd →
      calibrated_slot chassis.calibration.entries topology ≠ 0 := by
    intro topology hmem
    obtain ⟨entry, hentry, rfl⟩ := List.mem_map.mp hmem
    rw [calibrated_slot_of_mem h.distinct hentry]
    exact Nat.ne_of_gt (h.sound.calibration entry hentry).1
  -- Each entry is a candidate as it was, or has lost its claim.
  have hcases : ∀ d ∈ resolve_conflicts chassis disks,
      (Standing chassis.calibration.entries d ∧ d.slot ≠ 0 ∧
        ((resolve_conflicts chassis disks).map Disk.topology).count d.topology = 1) ∨
      (d.Unmapped ∧ (d.topology ∉ chassis.calibration.entries.map Prod.snd ∨
        ((resolve_conflicts chassis disks).map Disk.topology).count d.topology ≠ 1)) := by
    intro d hd
    obtain ⟨i, hi', rfl⟩ := List.getElem_of_mem (hperm.mem_iff.mp hd)
    have hi : i < disks.length := by rwa [resolved_length] at hi'
    have hstanding := hdisks _ (List.getElem_mem hi)
    rcases resolved_outcome h hdisks hi hi' with ⟨⟨hslot, hcount⟩, heq⟩ | ⟨hlost, hfree, htopology, -⟩
    · rw [heq, htopologies]
      exact .inl ⟨hstanding, hslot, hcount⟩
    · right
      refine ⟨hfree, ?_⟩
      rw [htopology, htopologies]
      by_cases hmem : disks[i].topology ∈ chassis.calibration.entries.map Prod.snd
      · have hslot : disks[i].slot ≠ 0 := by
          rw [hstanding.slot]
          exact hslots _ hmem
        exact .inr fun hcount => hlost ⟨hslot, hcount⟩
      · exact .inl hmem
  constructor
  · intro d hd
    rcases hcases d hd with ⟨hstanding, hslot, hcount⟩ | ⟨hfree, hlost⟩
    · refine iff_of_true (hstanding.mapped.mpr hslot) ⟨hstanding.sata hslot, ?_, hcount⟩
      exact List.mem_map.mpr ⟨_, hstanding.entry hslot, rfl⟩
    · refine iff_of_false (by simp [hfree.mapped]) ?_
      intro ⟨_, hmem, hcount⟩
      rcases hlost with hnot | hnot
      · exact hnot hmem
      · exact hnot hcount
  · intro d hd hmapped
    rcases hcases d hd with ⟨hstanding, hslot, -⟩ | ⟨hfree, -⟩
    · exact ⟨hstanding.entry hslot, (hstanding.bay hslot).slot_name, hstanding.source hslot⟩
    · rw [hfree.mapped] at hmapped
      cases hmapped
  · intro d hd hnvme
    rcases hcases d hd with ⟨hstanding, hslot, -⟩ | ⟨hfree, -⟩
    · have hsata := hstanding.sata hslot
      rw [hnvme] at hsata
      cases hsata
    · exact hfree.mapped
  · intro d hd
    unfold calibrated_outcome
    rcases hcases d hd with ⟨hstanding, hslot, hcount⟩ | ⟨hfree, hlost⟩
    · rw [if_pos ⟨by rw [← hstanding.slot]; exact hslot, hcount⟩, hstanding.mapped.mpr hslot,
        ← hstanding.slot]
    · rw [if_neg, hfree.slot, hfree.mapped]
      intro ⟨hslot, hcount⟩
      rcases hlost with hnot | hnot
      · exact hslot (calibrated_slot_of_not_mem hnot)
      · exact hnot hcount

/-- The chassis of a scan with a calibration. -/
theorem returns_survey_calibrated (root model : Text) {calibration : Calibration}
    (hpresent : calibration.present = true) (hvalid : ValidEntries calibration.entries)
    (hdistinct : Distinct calibration.entries) :
    (survey root model calibration).Returns fun chassis =>
      chassis.Calibrated ∧ chassis.calibration = calibration ∧ chassis.root = root := by
  have hprofile : single_profile_of root model calibration = Pure.pure none := by
    unfold single_profile_of
    rw [if_pos hpresent]
  have hrest : (survey root model calibration).Returns fun chassis =>
      chassis.single_profile = none ∧ chassis.root = root := by
    apply returns_after
    intro found
    rw [hprofile]
    apply @Returns.bind _ _ _ (· = none) _ _ _ (show Returns _ (Pure.pure none) from rfl)
    rintro _ rfl
    apply returns_after
    intro automatic
    exact ⟨rfl, rfl⟩
  apply ((returns_survey root model hvalid).and hrest).mono
  intro chassis ⟨⟨hsound, _, heq⟩, hnone, hroot⟩
  refine ⟨⟨hsound, ?_, ?_, hnone⟩, heq, hroot⟩
  · rw [heq]
    exact hpresent
  · rw [heq]
    exact hdistinct

/-- A calibration that is present was read from a file, and has each slot and
    each topology once. -/
theorem returns_chosen_distinct (model : Text) (path : Option Text) :
    (chosen_calibration model path).Returns
      (OfOk fun calibration => calibration.present = true → Distinct calibration.entries) := by
  have hnone : ({} : Calibration).present = true → Distinct ({} : Calibration).entries := by
    intro hpresent
    cases hpresent
  unfold chosen_calibration
  split
  · cases path with
    | none => exact hnone
    | some path => exact trivial
  · apply returns_after
    intro opened
    cases opened with
    | error errno =>
      dsimp only
      split
      · exact hnone
      · exact trivial
    | ok file =>
      dsimp only
      split
      · exact trivial
      split
      · exact trivial
      · next stream _ =>
        cases hparsed : parse_calibration model stream with
        | error fault => exact trivial
        | ok calibration =>
          obtain ⟨-, -, -, -, -, -, -, -, hdistinct⟩ := parse_calibration_iff.mp hparsed
          exact fun _ => hdistinct

variable {tree : Tree}

/-- A tree has one answer for the file of the calibration. -/
theorem chosen_calibration_settled (tree : Tree) (model : Text) (path : Option Text) :
    Settled tree.env tree.handler (chosen_calibration model path) := by
  unfold chosen_calibration
  split
  · cases path with
    | none => exact settled_pure _
    | some path => exact settled_pure _
  · apply Settled.bind (settled_call fun b hb => hb)
    split
    · split <;> exact settled_pure _
    · split
      · exact settled_pure _
      · split <;> exact settled_pure _

/-- The disks of a list of readings, each under the name it was read by. -/
theorem mem_readings {root : Text} {names : List Text} {reading : Disk × Text} :
    reading ∈ tree.readings root names ↔ ∃ name ∈ names, tree.reading root name = some reading :=
  List.mem_filterMap

theorem Taken.standing (h : chassis.Calibrated) {reading entry : Disk × Text} {name : Text}
    (hreading : Reading name reading) (htaken : Taken chassis reading entry) :
    Standing chassis.calibration.entries entry.1 := by
  have hcalibrated := htaken.calibrated
  refine ⟨htaken.placed, ?_, hcalibrated.mapped, ?_, hcalibrated.source⟩
  · rw [hcalibrated.slot, hcalibrated.topology]
  · intro hslot
    rw [hcalibrated.slot] at hslot
    rw [hcalibrated.interface_type]
    exact hreading.fresh.sata_of_valid
      (h.sound.calibration _ (calibrated_slot_ne_zero hslot)).2.2

/-- The entry of a scan for what was read under a name. -/
structure Disk.Reads (reading disk : Disk) : Prop where
  name : disk.name = reading.name
  topology : disk.topology = reading.topology
  interface_type : disk.interface_type = reading.interface_type

theorem Disk.Reads.trans {c d e : Disk} (h : c.Reads d) (h' : d.Reads e) : c.Reads e :=
  ⟨h'.name.trans h.name, h'.topology.trans h.topology, h'.interface_type.trans h.interface_type⟩

theorem Disk.Calibrated.reads {entries : List (Nat × Text)} {reading disk : Disk}
    (h : Disk.Calibrated entries reading disk) : reading.Reads disk :=
  ⟨h.name, h.topology, h.interface_type⟩

theorem forall₂_mem_left {α β : Type} {R : α → β → Prop} {l : List α} {l' : List β}
    (h : List.Forall₂ R l l') {a : α} (ha : a ∈ l) : ∃ b ∈ l', R a b := by
  induction h with
  | nil => cases ha
  | cons hab _ ih =>
    rcases List.mem_cons.mp ha with rfl | hrest
    · exact ⟨_, List.mem_cons_self, hab⟩
    · obtain ⟨b, hb, hr⟩ := ih hrest
      exact ⟨b, List.mem_cons_of_mem _ hb, hr⟩

theorem forall₂_mem_right {α β : Type} {R : α → β → Prop} {l : List α} {l' : List β}
    (h : List.Forall₂ R l l') {b : β} (hb : b ∈ l') : ∃ a ∈ l, R a b :=
  forall₂_mem_left h.flip hb

/-- The root of a scan is what the tree resolves it to. -/
theorem resolve_root_some {root resolved_root : Text} {s s' : Unit}
    (h : Runs tree.env (resolve_root root).inl s (.ok resolved_root) s') :
    tree.realpath root = some resolved_root := by
  have hget := runs_get h
  unfold resolve_root at hget
  rw [get_bind, get_realpath] at hget
  cases hreal : tree.realpath root with
  | none =>
    rw [hreal] at hget
    cases hget
  | some path =>
    rw [hreal] at hget
    dsimp only at hget
    split at hget
    · cases hget
    · cases hget
      rfl

/-- Resolving conflicts keeps every candidate, under its name. -/
theorem resolve_conflicts_reads (chassis : Chassis) (disks : List Disk) :
    (∀ d ∈ resolve_conflicts chassis disks, ∃ e ∈ disks, e.Reads d) ∧
      ∀ e ∈ disks, ∃ d ∈ resolve_conflicts chassis disks, e.Reads d := by
  have hperm := resolve_conflicts_perm chassis disks
  have hat : ∀ (i : Nat) (hi : i < disks.length) (hi' : i < (resolved chassis disks).length),
      disks[i].Reads (resolved chassis disks)[i] := by
    intro i hi hi'
    rcases resolved_at chassis disks hi hi' with ⟨heq, -⟩ | ⟨⟨reason, heq⟩, -⟩
    · rw [heq]
      exact ⟨rfl, rfl, rfl⟩
    · rw [heq]
      exact ⟨rfl, rfl, rfl⟩
  constructor
  · intro d hd
    obtain ⟨i, hi', rfl⟩ := List.getElem_of_mem (hperm.mem_iff.mp hd)
    have hi : i < disks.length := by rwa [resolved_length] at hi'
    exact ⟨_, List.getElem_mem hi, hat i hi hi'⟩
  · intro e he
    obtain ⟨i, hi, rfl⟩ := List.getElem_of_mem he
    have hi' : i < (resolved chassis disks).length := by rwa [resolved_length]
    exact ⟨_, hperm.mem_iff.mpr (List.getElem_mem hi'), hat i hi hi'⟩

/-- Coalescing keeps an entry that has no controller. -/
theorem coalesce_alone {entries : List (Disk × Text)} {found : List Disk × List NamespaceAlias}
    (h : coalesce_nvme_namespaces (entries.map Prod.fst) (entries.map Prod.snd) = .ok found)
    {entry : Disk × Text} (hentry : entry ∈ entries) (halone : entry.2 = []) : entry.1 ∈ found.1 := by
  have hcompacted := (coalesce_exact entries).2.1 found.1 found.2 h
  have hkey : controller_key entry = none := if_pos halone
  have hmem : entry ∈ entries.filter (controller_key · = none) :=
    List.mem_filter.mpr ⟨hentry, decide_eq_true hkey⟩
  rw [← hcompacted.alone] at hmem
  rw [hcompacted.disks, ← hcompacted.unchanged entry hkey]
  exact List.mem_map_of_mem (List.mem_filter.mp hmem).1

/-- A scan with a calibration has every SATA disk of the block directory and
    nothing that is not there. -/
structure Tree.Inventoried (tree : Tree) (root : Text) (directory : Directory) (disks : List Disk) :
    Prop where
  read : ∀ d ∈ disks, ∃ name ∈ directory.entries, ∃ reading,
    tree.reading root name = some reading ∧ reading.1.name = name ∧ reading.1.Reads d
  sata : ∀ name ∈ directory.entries, ∀ reading, tree.reading root name = some reading →
    reading.1.interface_type = "sata" → ∃ d ∈ disks, reading.1.Reads d

/-- With a calibration the built-in layout has no say in a scan: a SATA disk
    is mapped where the calibration has its topology and no other disk of the
    scan shares it, to the slot it has there, and no other disk is mapped. -/
theorem scan_calibrated {root model : Text} {path : Option Text} {calibration : Calibration}
    {out : DiskScan}
    (hcalibration : Runs tree.env (chosen_calibration model path) () (.ok calibration) ())
    (hpresent : calibration.present = true)
    (h : Runs tree.env (ugreenctl_disk_scan_at root model path) () (.ok out) ()) :
    Replaced calibration.entries out.disks ∧
      ∃ resolved_root directory, tree.realpath root = some resolved_root ∧
        tree.directory (resolved_root ++ "/class/block") = .ok directory ∧
        tree.Inventoried resolved_root directory out.disks := by
  obtain ⟨calibration', resolved_root, chassis, found, _, _, _, hchosen, hroot, hsurvey, hfound,
    hout⟩ := scan_steps h
  have hsame := (chosen_calibration_settled tree model path).agree hcalibration hchosen
  cases hsame
  have hvalid := (returns_chosen_calibration model path).runs hcalibration
  have hdistinct := (returns_chosen_distinct model path).runs hcalibration hpresent
  obtain ⟨hcal, heq, hchassis⟩ :=
    (returns_survey_calibrated resolved_root model hpresent hvalid hdistinct).runs hsurvey
  obtain ⟨directory, names, entries, hdirectory, hperm, htaken, hcoalesce⟩ :=
    candidates_taken hcal hfound
  subst heq
  rw [hchassis] at htaken
  have hreading : ∀ {reading : Disk × Text}, reading ∈ tree.readings resolved_root names →
      ∃ name ∈ directory.entries, tree.reading resolved_root name = some reading ∧
        Reading name reading := by
    intro reading hmem
    obtain ⟨name, hname, hread⟩ := mem_readings.mp hmem
    exact ⟨name, hperm.mem_iff.mp hname, hread, reading_of_tree hread⟩
  have hfound_entry : ∀ d ∈ found, ∃ entry ∈ entries, entry.1 = d := by
    intro d hd
    exact List.mem_map.mp ((coalesce_within hcoalesce).1 d hd)
  refine ⟨?_, resolved_root, directory, resolve_root_some hroot, ?_, ?_, ?_⟩
  · rw [hout]
    apply replaced_of_standing hcal
    intro d hd
    obtain ⟨entry, hentry, rfl⟩ := hfound_entry d hd
    obtain ⟨reading, hmem, htaken⟩ := forall₂_mem_right htaken hentry
    obtain ⟨name, -, -, hread⟩ := hreading hmem
    exact htaken.standing hcal hread
  · rw [← hchassis]
    exact hdirectory
  · rw [hout]
    intro d hd
    obtain ⟨e, he, hreads⟩ := (resolve_conflicts_reads chassis found).1 d hd
    obtain ⟨entry, hentry, rfl⟩ := hfound_entry e he
    obtain ⟨reading, hmem, htaken⟩ := forall₂_mem_right htaken hentry
    obtain ⟨name, hname, hread, hfields⟩ := hreading hmem
    exact ⟨name, hname, reading, hread, hfields.name, htaken.calibrated.reads.trans hreads⟩
  · rw [hout]
    intro name hname reading hread hsata
    have hfields := reading_of_tree hread
    obtain ⟨entry, hentry, htaken⟩ :=
      forall₂_mem_left htaken (mem_readings.mpr ⟨name, hperm.mem_iff.mpr hname, hread⟩)
    have halone : entry.2 = [] := htaken.controller.trans (hfields.controller hsata)
    obtain ⟨d, hd, hreads⟩ :=
      (resolve_conflicts_reads chassis found).2 _ (coalesce_alone hcoalesce hentry halone)
    exact ⟨d, hd, htaken.calibrated.reads.trans hreads⟩

end scan

/-! ## A calibrated DXP4800 Plus

    A SATA disk on local port 3, which the administrator put in bay 2, and
    one on port 4, which the calibration does not have.
-/

def calibrated_links : List (Text × Text) := [
  ("/s", "/s"),
  ("/s/class/block/sda", "/s/devices/pci0000:00/0000:59:00.0/ata3/host2/target2:0:0/2:0:0:0/block/sda"),
  ("/s/class/block/sdb", "/s/devices/pci0000:00/0000:59:00.0/ata4/host3/target3:0:0/3:0:0:0/block/sdb")]

def calibrated_files : List (Text × Text) := [
  ("/s/class/block/sda/device/type", "0"),
  ("/s/class/block/sda/device/vendor", "ATA"),
  ("/s/class/ata_port/ata3/port_no", "3"),
  ("/s/class/block/sdb/device/type", "0"),
  ("/s/class/block/sdb/device/vendor", "ATA"),
  ("/s/class/ata_port/ata4/port_no", "4")]

def calibrated_block : Directory := ⟨⟨[("sdb" : Text), "sda"], false⟩, by decide +kernel⟩

def calibrated_map : OpenFile where
  is_regular := true
  uid := 0
  others_write := false
  stream := some ⟨"model=DXP4800 Plus\nslot2 topology=pci-0000:59:00.0-ata-3\n", false⟩

def calibrated_tree : Tree where
  realpath path := calibrated_links.lookup path
  file path := (calibrated_files.lookup path).map fun text => ⟨text, false⟩
  exists_at _ := false
  directory path := if path = "/s/class/block" then .ok calibrated_block else .error Errno.ENOENT
  opened path := if path = "/etc/ugreenctl/disk-map.conf" then .ok calibrated_map
    else .error Errno.ENOENT

theorem scan_calibrated_bay : ∃ (calibration : Calibration) (out : DiskScan),
    calibration.entries = [(2, ("pci-0000:59:00.0-ata-3" : Text))] ∧
      out.disks.map Disk.outcome =
        [(("sata" : Text), true, true, 2), (("sata" : Text), false, false, 0)] ∧
      Replaced calibration.entries out.disks := by
  have hvalue : (value calibrated_tree.handler
      (ugreenctl_disk_scan_at "/s" "DXP4800 Plus" none)).toOption.map
        (fun out => out.disks.map Disk.outcome) =
      some [(("sata" : Text), true, true, 2), (("sata" : Text), false, false, 0)] := by
    decide +kernel
  have hchosen : (value calibrated_tree.handler (chosen_calibration "DXP4800 Plus" none)).toOption =
      some ⟨[(2, ("pci-0000:59:00.0-ata-3" : Text))], true⟩ := by
    decide +kernel
  have hrun := calibrated_tree.runs (ugreenctl_disk_scan_at "/s" "DXP4800 Plus" none)
  have hcalibration := calibrated_tree.runs (chosen_calibration "DXP4800 Plus" none)
  cases hscan : value calibrated_tree.handler (ugreenctl_disk_scan_at "/s" "DXP4800 Plus" none) with
  | error fault =>
    rw [hscan] at hvalue
    cases hvalue
  | ok out =>
    cases hread : value calibrated_tree.handler (chosen_calibration "DXP4800 Plus" none) with
    | error fault =>
      rw [hread] at hchosen
      cases hchosen
    | ok calibration =>
      rw [hscan] at hvalue hrun
      rw [hread] at hchosen hcalibration
      cases Option.some.inj hchosen
      exact ⟨_, out, rfl, Option.some.inj hvalue, (scan_calibrated hcalibration rfl hrun).1⟩

end UgreenNas.DiskMap
