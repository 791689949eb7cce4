import UgreenNas.Disk.Conflicts

/-! # One disk for each bay

    The candidates of a scan, however sysfs changes under it, are mapped in
    full or not at all; once conflicts are resolved no two disks share a
    port, a bay or an LED.
-/

namespace UgreenNas.DiskMap

open Effect Effect.Prog

variable {σ : Type}

/-! ## The chassis -/

theorem firmware_layout_mem {model revision : Text} {layout : FirmwareLayout}
    (h : ugreenctl_disk_firmware_layout model revision = some layout) :
    layout ∈ layouts ∧ layout.model = model := by
  unfold ugreenctl_disk_firmware_layout at h
  have hfound := List.find?_some h
  simp only [Bool.and_eq_true, decide_eq_true_eq] at hfound
  exact ⟨List.mem_of_find?_eq_some h, hfound.1.symm⟩

theorem returns_firmware_layout (root model : Text) :
    (firmware_layout root model).Returns fun r =>
      ∀ layout, r.1 = some layout → layout ∈ layouts ∧ layout.model = model := by
  unfold firmware_layout
  split
  · apply returns_after
    intro bios
    split
    · exact fun layout h => firmware_layout_mem h
    · split
      · exact fun layout h => firmware_layout_mem h
      · split <;> exact fun layout h => firmware_layout_mem h
  · exact fun layout h => firmware_layout_mem h

theorem returns_single_sata_profile_from (root model : Text) (profiles : List SingleSataProfile) :
    (single_sata_profile_from root model profiles).Returns
      (OfSome fun profile => profile ∈ profiles) := by
  induction profiles with
  | nil => exact trivial
  | cons profile rest ih =>
    have hrest : (single_sata_profile_from root model rest).Returns
        (OfSome fun p => p ∈ profile :: rest) := by
      apply ih.mono
      intro r hr
      cases r with
      | none => exact trivial
      | some p => exact List.mem_cons_of_mem profile hr
    unfold single_sata_profile_from
    split
    · exact hrest
    · split
      · exact List.mem_cons_self
      · apply returns_after
        intro version
        split
        · exact List.mem_cons_self
        · exact hrest

theorem single_profiles_ports : ∀ profile ∈ single_profiles, profile.port_count ≤ 4 := by
  decide

theorem returns_survey (root model : Text) {calibration : Calibration}
    (hvalid : ValidEntries calibration.entries) :
    (survey root model calibration).Returns fun chassis =>
      chassis.Sound ∧ chassis.model = model ∧ chassis.calibration = calibration := by
  apply (returns_firmware_layout root model).inl.bind
  intro found hfound
  have hprofile : (single_profile_of root model calibration).Returns
      (OfSome fun profile => profile ∈ single_profiles) := by
    unfold single_profile_of
    split
    · exact trivial
    · exact returns_single_sata_profile_from root model single_profiles
  apply hprofile.inl.bind
  intro single_profile hsingle
  apply returns_after
  intro automatic
  refine ⟨⟨hfound, ?_, hvalid⟩, rfl, rfl⟩
  intro profile heq
  have hsome : single_profile = some profile := heq
  rw [hsome] at hsingle
  exact single_profiles_ports profile hsingle

theorem returns_chosen_calibration (model : Text) (path : Option Text) :
    (chosen_calibration model path).Returns
      (OfOk fun calibration => ValidEntries calibration.entries) := by
  have hnone : ValidEntries ({} : Calibration).entries := fun entry hmem => nomatch hmem
  unfold chosen_calibration
  split
  · cases path with
    | none => exact hnone
    | some path => exact trivial
  · apply returns_after
    intro opened
    cases opened with
    | error errno =>
      dsimp only
      split
      · exact hnone
      · exact trivial
    | ok file =>
      dsimp only
      split
      · exact trivial
      split
      · exact trivial
      · next stream _ =>
        cases hparsed : parse_calibration model stream with
        | error fault => exact trivial
        | ok calibration => exact parse_calibration_valid hparsed

/-! ## The candidates -/

/-- Every disk of the list is mapped in full or not at all. -/
def AllPlaced (disks : List (Disk × Text)) : Prop := ∀ entry ∈ disks, entry.1.Placed

theorem AllPlaced.snoc {disks : List (Disk × Text)} (h : AllPlaced disks) {entry : Disk × Text}
    (hentry : entry.1.Placed) : AllPlaced (disks ++ [entry]) := by
  intro e he
  rcases List.mem_append.mp he with hold | hnew
  · exact h e hold
  · rw [List.mem_singleton.mp hnew]
    exact hentry

/-- Such a list, within the limits of the arrays. -/
structure Listed (disks : List (Disk × Text)) : Prop where
  placed : AllPlaced disks
  le : disks.length ≤ UGREENCTL_DISK_MAX

theorem returns_enumerate {chassis : Chassis} (hsound : chassis.Sound) :
    (enumerate chassis).Returns (OfOk fun found => Listed found.disks) := by
  apply returns_after
  intro opened
  cases opened with
  | error errno => exact trivial
  | ok directory =>
    have hwalk : (walk (enumerate_entry chassis) {} directory.entries).Returns
        (OfOk fun found => Listed found.disks) := by
      apply returns_walk
      · intro st entry _ hst
        unfold enumerate_entry
        split
        · exact trivial
        have hmembers : Listed (if is_member entry = true then
            { st with members := st.members ++ [entry] } else st : Found).disks := by
          split <;> exact hst
        dsimp only
        generalize (if is_member entry = true then
          { st with members := st.members ++ [entry] } else st : Found) = st' at *
        apply (returns_read_one chassis.root entry).inl.bind
        intro read hread
        cases read with
        | none => exact hmembers
        | some r =>
          dsimp only
          split
          · exact trivial
          · next hfull =>
            apply (returns_candidate hsound hread).bind
            intro disk hdisk
            have hle := hmembers.le
            refine ⟨hmembers.placed.snoc hdisk, ?_⟩
            rw [List.length_append, List.length_singleton]
            omega
      · exact ⟨fun _ hmem => (List.not_mem_nil hmem).elim, Nat.zero_le _⟩
    apply hwalk.bind
    intro r hr
    cases r with
    | error fault => exact trivial
    | ok found =>
      dsimp only
      split
      · exact trivial
      · exact hr

section recheck

variable {chassis : Chassis}

theorem returns_recheck_rules (current : Disk) {disk : Disk} (hdisk : disk.Placed) :
    (recheck_rules chassis current disk).Returns Disk.Placed := by
  have hlost : (disk.forget controller_changed).Placed := .unmapped (unmapped_forget _ _)
  unfold recheck_rules
  split
  · exact hdisk
  · split
    · exact hdisk
    · apply returns_after
      intro matched
      split
      · dsimp only
        split
        · exact hlost
        · exact hdisk
      · exact hlost

/-- Each disk is looked at again, and none is added. -/
theorem returns_recheck {disks : List (Disk × Text)} (hdisks : Listed disks) :
    (walk (recheck_disk chassis) [] disks).Returns (OfOk Listed) := by
  have h : (walk (recheck_disk chassis) [] disks).Returns (OfOk fun done =>
      AllPlaced done ∧ AllPlaced [] ∧ done.length + 0 = disks.length) := by
    apply returns_walk_rest (J := fun done rest =>
      AllPlaced done ∧ AllPlaced rest ∧ done.length + rest.length = disks.length)
    · intro done entry rest hJ
      obtain ⟨hdone, hrest, hlength⟩ := hJ
      apply returns_after
      intro read
      cases read with
      | none => exact trivial
      | some current =>
        dsimp only
        split
        · exact trivial
        · apply (returns_recheck_rules current.1 (hrest entry List.mem_cons_self)).bind
          intro disk hdisk
          refine ⟨hdone.snoc hdisk, fun e he => hrest e (List.mem_cons_of_mem entry he), ?_⟩
          rw [List.length_cons] at hlength
          rw [List.length_append, List.length_singleton]
          omega
    · exact ⟨fun _ hmem => (List.not_mem_nil hmem).elim, hdisks.placed, Nat.zero_add _⟩
  apply h.mono
  intro r hr
  cases r with
  | error fault => exact trivial
  | ok done =>
    obtain ⟨hdone, -, hlength⟩ := hr
    have hle := hdisks.le
    exact ⟨hdone, by omega⟩

theorem listed_forgotten {disks : List (Disk × Text)} (hdisks : Listed disks)
    (profile : SingleSataProfile) : Listed (recheck_controller.forgotten disks profile) := by
  constructor
  · intro entry hentry
    obtain ⟨before, hbefore, rfl⟩ := List.mem_map.mp hentry
    split
    · exact .unmapped (unmapped_forget _ _)
    · exact hdisks.placed before hbefore
  · unfold recheck_controller.forgotten
    rw [List.length_map]
    exact hdisks.le

theorem returns_recheck_controller {disks : List (Disk × Text)} (hdisks : Listed disks) :
    (recheck_controller chassis disks).Returns Listed := by
  unfold recheck_controller
  split
  · exact hdisks
  · next profile _ =>
    split
    · exact hdisks
    · apply returns_after
      intro again
      cases again with
      | error reason => exact listed_forgotten hdisks profile
      | ok pci =>
        dsimp only
        split
        · exact hdisks
        · exact listed_forgotten hdisks profile

end recheck

/-- After `count` entries: coalescing only moves disks, and each entry is
    one alias at most. -/
structure Coalesced.Within (st : Coalesced) (disks : List Disk) (count : Nat) : Prop where
  length : st.disks.length = disks.length
  mem : ∀ disk ∈ st.disks, disk ∈ disks
  aliases : st.aliases.length ≤ count

theorem coalesce_entry_within {disks : List Disk} {st st' : Coalesced} {i count : Nat}
    (hi : i < disks.length) (hst : st.Within disks count) (h : coalesce_entry st i = .ok st') :
    st'.Within disks (count + 1) := by
  have hmem : st.disks.getD i {} ∈ disks := by
    have hi' : i < st.disks.length := by rwa [hst.length]
    rw [List.getD_eq_getElem st.disks {} hi']
    exact hst.mem _ (List.getElem_mem hi')
  have hset : ∀ group, (⟨st.disks.set group (st.disks.getD i {}), st.controllers,
      st.physical_count, st.aliases⟩ : Coalesced).Within disks count := by
    intro group
    refine ⟨by rw [List.length_set, hst.length], ?_, hst.aliases⟩
    intro disk hdisk
    rcases List.mem_or_eq_of_mem_set hdisk with hold | rfl
    · exact hst.mem disk hold
    · exact hmem
  have halias : ∀ {s : Coalesced} (disk : Disk) (controller : Text) (group : Nat),
      s.Within disks count → (s.add_alias disk controller group).Within disks (count + 1) := by
    intro s disk controller group hs
    have hle := hs.aliases
    unfold Coalesced.add_alias
    split
    · exact ⟨hs.length, hs.mem, by omega⟩
    · refine ⟨hs.length, hs.mem, ?_⟩
      show (s.aliases ++ _).length ≤ count + 1
      rw [List.length_append, List.length_singleton]
      omega
  unfold coalesce_entry at h
  dsimp only at h
  split at h
  · split at h
    · cases h
    · cases h
      apply halias
      split
      · exact hset _
      · exact hst
  · cases h
    apply halias
    exact ⟨(hset _).length, (hset _).mem, hst.aliases⟩

/-- The result of coalescing, against the entries it was made from. -/
theorem coalesce_within {disks : List Disk} {controllers : List Text}
    {r : List Disk × List NamespaceAlias}
    (h : coalesce_nvme_namespaces disks controllers = .ok r) :
    (∀ disk ∈ r.1, disk ∈ disks) ∧ r.1.length ≤ disks.length ∧ r.2.length ≤ disks.length := by
  have hfold : ∀ (is : List Nat) (st st' : Coalesced) (count : Nat), (∀ i ∈ is, i < disks.length) →
      st.Within disks count → is.foldlM coalesce_entry st = .ok st' →
        st'.Within disks (count + is.length) := by
    intro is
    induction is with
    | nil =>
      intro st st' count _ hst heq
      cases heq
      exact hst
    | cons i rest ih =>
      intro st st' count his hst heq
      rw [List.foldlM_cons] at heq
      cases hentry : coalesce_entry st i with
      | error fault =>
        rw [hentry] at heq
        cases heq
      | ok next =>
        rw [hentry] at heq
        have hrest := ih next st' (count + 1) (fun j hj => his j (List.mem_cons_of_mem i hj))
          (coalesce_entry_within (his i List.mem_cons_self) hst hentry) heq
        rw [List.length_cons, Nat.add_comm rest.length 1, ← Nat.add_assoc]
        exact hrest
  unfold coalesce_nvme_namespaces at h
  cases hst : (List.range disks.length).foldlM coalesce_entry ⟨disks, controllers, 0, []⟩ with
  | error fault =>
    rw [hst] at h
    cases h
  | ok st =>
    rw [hst] at h
    cases h
    have hstart : Coalesced.Within ⟨disks, controllers, 0, []⟩ disks 0 :=
      ⟨rfl, fun _ hd => hd, Nat.le_refl 0⟩
    have hwithin := hfold _ _ st 0 (fun i hi => List.mem_range.mp hi) hstart hst
    have haliases := hwithin.aliases
    rw [List.length_range, Nat.zero_add] at haliases
    refine ⟨fun disk hdisk => hwithin.mem disk (List.mem_of_mem_take hdisk), ?_, ?_⟩
    · show (st.disks.take st.physical_count).length ≤ disks.length
      rw [← hwithin.length]
      exact List.length_take_le' _ _
    · show (st.aliases.map _).length ≤ disks.length
      rw [List.length_map]
      exact haliases

/-- The candidates of a scan: mapped in full or not at all, and within the
    limits of the arrays. -/
structure Candidates (found : List Disk × List NamespaceAlias) : Prop where
  placed : ∀ disk ∈ found.1, disk.Placed
  disks_le : found.1.length ≤ UGREENCTL_DISK_MAX
  aliases_le : found.2.length ≤ UGREENCTL_DISK_MAX

/-- Whatever sysfs answers, every candidate is mapped in full or not at all. -/
theorem returns_candidates {chassis : Chassis} (hsound : chassis.Sound) :
    (candidates chassis).Returns (OfOk Candidates) := by
  apply (returns_enumerate hsound).andThen
  intro found hfound
  apply (returns_recheck hfound).andThen
  intro rechecked hrechecked
  apply (returns_recheck_controller hrechecked).bind
  intro disks hdisks
  apply Returns.andThen (P := fun _ => True) (returns_all (by rintro (_ | _) <;> exact trivial) _)
  intro _ _
  apply Returns.andThen (P := fun _ => True) (returns_all (by rintro (_ | _) <;> exact trivial) _)
  intro _ _
  cases hcoalesce : coalesce_nvme_namespaces (disks.map Prod.fst) (disks.map Prod.snd) with
  | error fault => exact trivial
  | ok r =>
    obtain ⟨hmem, hlength, haliases⟩ := coalesce_within hcoalesce
    have hle := hdisks.le
    rw [List.length_map] at hlength haliases
    refine ⟨fun disk hdisk => ?_, Nat.le_trans hlength hle, Nat.le_trans haliases hle⟩
    obtain ⟨entry, hentry, rfl⟩ := List.mem_map.mp (hmem disk hdisk)
    exact hdisks.placed entry hentry

/-! ## The scan -/

/-- No two entries claim one bay, and the mapping fields of every entry fit
    together. -/
structure Exclusive (disks : List Disk) : Prop where
  bays : disks.Pairwise fun d e => d.mapped = true → e.mapped = true →
    d.slot_name ≠ e.slot_name ∧ (d.topology ≠ [] → d.topology ≠ e.topology)
  leds : disks.Pairwise fun d e => d.led_id ≠ [] → d.led_id ≠ e.led_id
  mapped : ∀ d ∈ disks, d.mapped = true → 1 ≤ d.slot ∧ d.slot_name ≠ []
  led : ∀ d ∈ disks, d.mapped = true → d.led_supported = true →
    d.led_id = "disk" ++ decimal d.slot
  unmapped : ∀ d ∈ disks, d.mapped = false →
    d.slot = 0 ∧ d.led_id = [] ∧ d.slot_name = [] ∧ d.led_supported = false

theorem Disk.Placed.slot_name_ne {d : Disk} (h : d.Placed) (hmapped : d.mapped = true) :
    1 ≤ d.slot ∧ d.slot_name ≠ [] := by
  cases h with
  | unmapped h =>
    rw [h.mapped] at hmapped
    cases hmapped
  | bay h =>
    refine ⟨h.pos, ?_⟩
    rw [h.slot_name]
    simp
  | connector h => exact ⟨h.pos, h.slot_name⟩

theorem Disk.Placed.led_id_eq {d : Disk} (h : d.Placed) (hled : d.led_supported = true) :
    d.led_id = "disk" ++ decimal d.slot := by
  cases h with
  | unmapped h =>
    rw [h.led_supported] at hled
    cases hled
  | bay h =>
    rcases h.led with ⟨-, hid⟩ | ⟨hfalse, -⟩
    · exact hid
    · rw [hfalse] at hled
      cases hled
  | connector h =>
    rw [h.led_supported] at hled
    cases hled

theorem Disk.Placed.unmapped_of {d : Disk} (h : d.Placed) (hmapped : d.mapped = false) :
    d.Unmapped := by
  cases h with
  | unmapped h => exact h
  | bay h =>
    rw [h.mapped] at hmapped
    cases hmapped
  | connector h =>
    rw [h.mapped] at hmapped
    cases hmapped

theorem not_shared {a b : Text} (h : shared a b = false) (hne : a ≠ []) : a ≠ b := by
  intro heq
  rw [shared_of_eq hne heq] at h
  cases h

theorem exclusive_of_apart {disks : List Disk} (hplaced : ∀ d ∈ disks, d.Placed)
    (hapart : disks.Pairwise Apart) : Exclusive disks := by
  refine ⟨?_, ?_, fun d hd => (hplaced d hd).slot_name_ne,
    fun d hd _ => (hplaced d hd).led_id_eq, ?_⟩
  · apply hapart.imp_of_mem
    intro d e hd he h hmapped hmapped'
    rcases h with h | h | h
    · rw [h.mapped] at hmapped
      cases hmapped
    · rw [h.mapped] at hmapped'
      cases hmapped'
    · unfold clash at h
      simp only [Bool.or_eq_false_iff] at h
      obtain ⟨⟨htopology, hslot⟩, -⟩ := h
      exact ⟨not_shared hslot ((hplaced d hd).slot_name_ne hmapped).2, not_shared htopology⟩
  · apply hapart.imp
    intro d e h hne heq
    rcases h with h | h | h
    · exact hne h.led_id
    · exact hne (heq.trans h.led_id)
    · unfold clash at h
      simp only [Bool.or_eq_false_iff] at h
      exact not_shared h.2 hne heq
  · intro d hd hmapped
    have h := (hplaced d hd).unmapped_of hmapped
    exact ⟨h.slot, h.led_id, h.slot_name, h.led_supported⟩

/-- A successful scan, step by step. -/
theorem scan_steps {E : Env sysfs σ} {root model : Text} {path : Option Text} {out : DiskScan}
    {s s' : σ} (h : Runs E (ugreenctl_disk_scan_at root model path) s (.ok out) s') :
    ∃ calibration resolved_root chassis found s₁ s₂ s₃,
      Runs E (chosen_calibration model path) s (.ok calibration) s₁ ∧
      Runs E (resolve_root root).inl s₁ (.ok resolved_root) s₂ ∧
      Runs E (survey resolved_root model calibration) s₂ chassis s₃ ∧
      Runs E (candidates chassis) s₃ (.ok (found, out.namespace_aliases)) s' ∧
      out.disks = resolve_conflicts chassis found := by
  obtain ⟨calibration, s₁, hcalibration, h⟩ := Runs.of_andThen h
  obtain ⟨resolved_root, s₂, hroot, h⟩ := Runs.of_andThen h
  obtain ⟨chassis, s₃, hsurvey, h⟩ := Runs.of_bind h
  obtain ⟨⟨found, aliases⟩, s₄, hfound, h⟩ := Runs.of_andThen h
  cases h
  exact ⟨calibration, resolved_root, chassis, found, s₁, s₂, s₃, hcalibration, hroot, hsurvey,
    hfound, rfl⟩

/-- What a successful scan rests on: sound facts about the chassis, and
    candidates that are mapped in full or not at all. -/
theorem scan_runs {E : Env sysfs σ} {root model : Text} {path : Option Text} {out : DiskScan}
    {s s' : σ} (h : Runs E (ugreenctl_disk_scan_at root model path) s (.ok out) s') :
    ∃ chassis found s₁ s₂, chassis.Sound ∧ chassis.model = model ∧
      Runs E (candidates chassis) s₁ (.ok (found, out.namespace_aliases)) s₂ ∧
      Candidates (found, out.namespace_aliases) ∧ out.disks = resolve_conflicts chassis found := by
  obtain ⟨calibration, resolved_root, chassis, found, s₁, s₂, s₃, hcalibration, -, hsurvey,
    hfound, hout⟩ := scan_steps h
  have hvalid := (returns_chosen_calibration model path).runs hcalibration
  obtain ⟨hsound, hmodel, -⟩ := (returns_survey resolved_root model hvalid).runs hsurvey
  have hcandidates := (returns_candidates hsound).runs hfound
  exact ⟨chassis, found, s₃, s', hsound, hmodel, hfound, hcandidates, hout⟩

def gt_links : List (Text × Text) := [
  ("/s", "/s"),
  ("/s/class/block/nvme0n1", "/s/devices/pci0000:00/0000:00:01.1/0000:01:00.0/nvme/nvme0/nvme0n1"),
  ("/s/class/block/nvme1n1", "/s/devices/pci0000:00/0000:00:01.2/0000:02:00.0/nvme/nvme1/nvme1n1"),
  ("/s/class/block/nvme2n1", "/s/devices/pci0000:00/0000:00:01.2/0000:03:00.0/nvme/nvme2/nvme2n1")]

def gt_files : List (Text × Text) := [
  ("/s/class/block/nvme0n1/device/transport", "pcie"),
  ("/s/class/block/nvme1n1/device/transport", "pcie"),
  ("/s/class/block/nvme2n1/device/transport", "pcie")]

def gt_block : Directory := ⟨⟨[("nvme2n1" : Text), "nvme0n1", "nvme1n1"], false⟩, by decide +kernel⟩

def gt_tree : Tree where
  realpath path := gt_links.lookup path
  file path := (gt_files.lookup path).map fun text => ⟨text, false⟩
  exists_at _ := false
  directory path := if path = "/s/class/block" then .ok gt_block else .error Errno.ENOENT
  opened _ := .error Errno.ENOENT

/-- The interface type of a disk, its LED, and its slot. -/
def Disk.outcome (disk : Disk) : Text × Bool × Bool × Nat :=
  (disk.interface_type, disk.mapped, disk.led_supported, disk.slot)

theorem gt_tree_scan : ∃ out,
    Runs gt_tree.env (ugreenctl_disk_scan_at "/s" "DXP2800 GT" none) () (.ok out) () ∧
      out.disks.map Disk.outcome =
        [(("u2" : Text), true, true, 1), (("u2" : Text), false, false, 0),
          (("u2" : Text), false, false, 0)] := by
  have hvalue : (value gt_tree.handler (ugreenctl_disk_scan_at "/s" "DXP2800 GT" none)).toOption.map
      (fun out => out.disks.map Disk.outcome) =
        some [(("u2" : Text), true, true, 1), (("u2" : Text), false, false, 0),
          (("u2" : Text), false, false, 0)] := by
    decide +kernel
  have hrun := gt_tree.runs (ugreenctl_disk_scan_at "/s" "DXP2800 GT" none)
  cases hscan : value gt_tree.handler (ugreenctl_disk_scan_at "/s" "DXP2800 GT" none) with
  | error fault =>
    rw [hscan] at hvalue
    cases hvalue
  | ok out =>
    rw [hscan] at hvalue hrun
    exact ⟨out, hrun, Option.some.inj hvalue⟩

end UgreenNas.DiskMap
