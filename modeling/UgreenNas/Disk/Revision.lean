import UgreenNas.Disk.Exclusive

/-! # A board of unknown revision

    No BIOS version of the DXP2800 GT is verified to mean a revision, and
    the two tables swap its SATA ports.  The scan keeps to the connectors on
    which both tables agree, and gives those up when a SATA disk may be in
    the same bay.
-/

namespace UgreenNas.DiskMap

open Effect
open Effect.Prog (Runs value returns_after returns_all)

variable {σ : Type}

/-! ## The two tables -/

/-- What `syspath_matches` asks of an NVMe disk. -/
def below_port (root resolved : Text) (rule : FirmwareRule) : Bool :=
  match strchr rule.identity '|' with
  | none => false
  | some (port_path, connector) =>
    port_path.length < PATH_MAX &&
      (port_path ++ "/" : Text).isPrefixOf (resolved.drop (root.length + 1)) && connector = "nvme"

theorem syspath_nvme (root resolved : Text) (layout : FirmwareLayout) (rule : FirmwareRule)
    {disk : Disk} (hnvme : disk.interface_type = "nvme") (revision_known : Bool) :
    syspath_matches root resolved layout rule disk revision_known =
      pure (below_port root resolved rule) := by
  unfold syspath_matches below_port
  cases strchr rule.identity '|' with
  | none => rfl
  | some parts =>
    dsimp only
    split
    · next hlong =>
      rw [decide_eq_false (by omega)]
      rfl
    · next hshort =>
      rw [decide_eq_true (show parts.1.length < PATH_MAX by omega)]
      split
      · next hoff =>
        simp only [Bool.not_eq_true'] at hoff
        rw [hoff]
        rfl
      · next hbelow =>
        simp only [Bool.not_eq_true', Bool.not_eq_false] at hbelow
        rw [hbelow]
        rfl

/-- Every rule of the two tables is a `syspath`, and the rules that are not
    for SATA ports are in both. -/
theorem gt_rules : ∀ layout ∈ layouts, layout.model = "DXP2800 GT" → ∀ rule ∈ layout.rules,
    rule.kind = "syspath" ∧
      gt_rule_revision_independent rule = decide (rule.interface_type ≠ "sata") := by
  decide +kernel

/-- The connectors of both revisions that are not SATA ports. -/
def gt_connectors : List FirmwareRule := rows_4_0.filter fun rule => rule.interface_type ≠ "sata"

theorem gt_connectors_eq : ∀ layout ∈ layouts, layout.model = "DXP2800 GT" →
    layout.rules.filter (fun (rule : FirmwareRule) => rule.interface_type ≠ "sata") =
      gt_connectors := by
  decide +kernel

section tables

variable {layout : FirmwareLayout} (hlayout : layout ∈ layouts) (hgt : layout.model = "DXP2800 GT")

include hlayout hgt

/-- An NVMe disk meets the same rules of either table, known or not. -/
theorem gt_rule_nvme (root resolved : Text) {rule : FirmwareRule} (hrule : rule ∈ layout.rules)
    {disk : Disk} (hnvme : disk.interface_type = "nvme") (revision_known : Bool) :
    firmware_rule_matches root resolved layout rule disk revision_known =
      pure (below_port root resolved rule && rule.interface_type ≠ "sata") := by
  obtain ⟨hkind, hindependent⟩ := gt_rules layout hlayout hgt rule hrule
  unfold firmware_rule_matches
  by_cases hsata : rule.interface_type = "sata"
  · rw [if_pos (by rw [decide_eq_true hsata, decide_eq_true hnvme]), decide_eq_false (not_not.mpr hsata),
      Bool.and_false]
  · rw [decide_eq_true hsata] at hindependent
    rw [if_neg (by rw [decide_eq_false hsata, decide_eq_true hnvme]; decide),
      if_neg (by rw [hindependent]; simp), hkind, decide_eq_true hnvme, decide_eq_true hsata,
      if_neg (by decide), if_neg (by decide), if_neg (by decide), if_pos rfl, Bool.and_true]
    exact syspath_nvme root resolved layout rule hnvme revision_known

/-- A SATA disk meets no rule while the revision is unknown. -/
theorem gt_rule_sata (root resolved : Text) {rule : FirmwareRule} (hrule : rule ∈ layout.rules)
    {disk : Disk} (hsata : disk.interface_type ≠ "nvme") :
    firmware_rule_matches root resolved layout rule disk false = pure false := by
  obtain ⟨-, hindependent⟩ := gt_rules layout hlayout hgt rule hrule
  unfold firmware_rule_matches
  by_cases hrule_sata : rule.interface_type = "sata"
  · rw [decide_eq_false (not_not.mpr hrule_sata)] at hindependent
    rw [decide_eq_true hrule_sata, decide_eq_false hsata, hindependent, hgt]
    rfl
  · rw [if_pos (by rw [decide_eq_false hrule_sata, decide_eq_false hsata])]

end tables

/-! ## What the tables say of a disk -/

theorem matching_rules_filter {root resolved : Text} {layout : FirmwareLayout} {disk : Disk}
    {revision_known : Bool} {p : FirmwareRule → Bool} {rules : List FirmwareRule}
    (h : ∀ rule ∈ rules,
      firmware_rule_matches root resolved layout rule disk revision_known = pure (p rule)) :
    matching_rules root resolved layout disk revision_known rules = pure (rules.filter p) := by
  induction rules with
  | nil => rfl
  | cons rule rest ih =>
    have hrest := ih fun r hr => h r (List.mem_cons_of_mem rule hr)
    unfold matching_rules
    rw [h rule List.mem_cons_self, hrest]
    cases hp : p rule with
    | false =>
      rw [List.filter_cons_of_neg (by rw [hp]; decide)]
      rfl
    | true =>
      rw [List.filter_cons_of_pos hp]
      rfl

/-- The connectors that an NVMe disk is behind. -/
def gt_behind (root : Text) (resolved : Option Text) : List FirmwareRule :=
  match resolved with
  | none => []
  | some resolved => gt_connectors.filter (below_port root resolved)

theorem gt_connector_rules {layout : FirmwareLayout} (hlayout : layout ∈ layouts)
    (hgt : layout.model = "DXP2800 GT") (root name : Text) {disk : Disk}
    (hnvme : disk.interface_type = "nvme") (revision_known : Bool) :
    connector_rules root name layout disk revision_known = (do
      let resolved ← realpath (snprintf PATH_MAX (root ++ "/class/block/" ++ name))
      return gt_behind root resolved) := by
  unfold connector_rules
  congr 1
  funext resolved
  cases resolved with
  | none => rfl
  | some resolved =>
    show matching_rules root resolved layout disk revision_known layout.rules = _
    rw [matching_rules_filter fun rule hrule =>
      gt_rule_nvme hlayout hgt root resolved hrule hnvme revision_known]
    unfold gt_behind
    rw [← gt_connectors_eq layout hlayout hgt]
    dsimp only
    rw [List.filter_filter]

/-- A disk keeps its name and the kind of its interface. -/
theorem gt_confirmed_nvme (chassis : Chassis) {disk : Disk} (hnvme : disk.interface_type = "nvme") :
    (confirm_slot chassis (assign_slot chassis disk)).interface_type = "nvme" := by
  rw [interface_confirm_slot, interface_assign_slot, hnvme]

theorem led_record_of_not_sata (model : Text) (layout : FirmwareLayout) {disk : Disk}
    (h : disk.interface_type ≠ "sata") : led_record model layout disk = disk := by
  unfold led_record
  rw [decide_eq_false h, Bool.and_false]
  rfl

theorem interface_apply_rules (chassis : Chassis) (layout : FirmwareLayout)
    (matched : List FirmwareRule) (disk : Disk) :
    (apply_rules chassis layout matched disk).interface_type = disk.interface_type ∨
      (apply_rules chassis layout matched disk).interface_type = "u2" := by
  unfold apply_rules
  split
  · split
    · exact .inl rfl
    · unfold apply_firmware_rule
      split
      · exact .inl rfl
      split
      · exact .inl rfl
      · dsimp only
        split
        · exact .inr rfl
        · exact .inl rfl
  · split
    · exact .inl rfl
    · exact .inl rfl
  · exact .inl rfl

/-- The rules for connectors do not ask which table they stand in. -/
theorem gt_apply_rules (chassis : Chassis) {layout layout' : FirmwareLayout}
    (hlayout : layout ∈ layouts) (hgt : layout.model = "DXP2800 GT") (hlayout' : layout' ∈ layouts)
    (hgt' : layout'.model = "DXP2800 GT") (known known' : Bool) {disk : Disk}
    (hnvme : disk.interface_type = "nvme") (matched : List FirmwareRule) :
    apply_rules { chassis with layout := some layout, revision_known := known } layout matched disk =
      apply_rules { chassis with layout := some layout', revision_known := known' } layout' matched
        disk := by
  unfold apply_rules
  split
  · rfl
  · have hreason : ∀ (chassis : Chassis) (l : FirmwareLayout), l ∈ layouts → l.model = "DXP2800 GT" →
        unmatched_reason chassis l disk = "PCIe connector missing/ambiguous or outside firmware layout; collect topology with scripts/collect-disk-evidence.sh" := by
      intro chassis l hl hmodel
      unfold unmatched_reason
      rw [if_pos hnvme, gt_connectors_eq l hl hmodel]
      decide +kernel
    rw [hreason _ layout hlayout hgt, hreason _ layout' hlayout' hgt']
  · rfl

/-- The mapping of an NVMe disk is the same by every table of the model,
    known or not. -/
theorem gt_candidate_eq (chassis : Chassis) {layout layout' : FirmwareLayout}
    (hlayout : layout ∈ layouts) (hgt : layout.model = "DXP2800 GT") (hlayout' : layout' ∈ layouts)
    (hgt' : layout'.model = "DXP2800 GT") {disk : Disk} (hnvme : disk.interface_type = "nvme")
    (known known' : Bool) :
    candidate { chassis with layout := some layout, revision_known := known } disk =
      candidate { chassis with layout := some layout', revision_known := known' } disk := by
  have hconfirmed := gt_confirmed_nvme chassis hnvme
  unfold candidate
  dsimp only
  -- The slot by calibration or local port does not depend on the table.
  have hsame : confirm_slot { chassis with layout := some layout, revision_known := known }
      (assign_slot { chassis with layout := some layout, revision_known := known } disk) =
        confirm_slot chassis (assign_slot chassis disk) := rfl
  have hsame' : confirm_slot { chassis with layout := some layout', revision_known := known' }
      (assign_slot { chassis with layout := some layout', revision_known := known' } disk) =
        confirm_slot chassis (assign_slot chassis disk) := rfl
  rw [hsame, hsame']
  generalize confirm_slot chassis (assign_slot chassis disk) = confirmed at *
  rw [gt_connector_rules hlayout hgt _ _ hconfirmed, gt_connector_rules hlayout' hgt' _ _ hconfirmed]
  have hrecord : ∀ (c : Chassis) (l : FirmwareLayout) (matched : List FirmwareRule),
      led_record chassis.model l (apply_rules c l matched confirmed) =
        apply_rules c l matched confirmed := by
    intro c l matched
    apply led_record_of_not_sata
    rcases interface_apply_rules c l matched confirmed with h | h
    · rw [h, hconfirmed]
      decide
    · rw [h]
      decide
  congr 1
  funext matched
  have hrules := gt_apply_rules chassis hlayout hgt hlayout' hgt' known known' hconfirmed matched
  rw [hrecord, hrecord, hrules]

/-! ## The scan of such a board -/

/-- What the scan knows of a DXP2800 GT without a calibration. -/
structure Chassis.OfGt (chassis : Chassis) : Prop where
  calibration : chassis.calibration.present = false
  layout : chassis.layout = ugreenctl_disk_firmware_layout "DXP2800 GT" "rev1"
  revision_known : chassis.revision_known = false
  single_profile : chassis.single_profile = none
  model : chassis.model = "DXP2800 GT"

theorem returns_survey_gt (root : Text) {calibration : Calibration}
    (hnone : calibration.present = false) :
    (survey root "DXP2800 GT" calibration).Returns fun chassis => chassis.OfGt := by
  have hprofile : single_profile_of root "DXP2800 GT" calibration = pure none := by
    unfold single_profile_of
    rw [hnone]
    rfl
  unfold survey
  rw [hprofile]
  exact ⟨hnone, rfl, rfl, rfl, rfl⟩

theorem returns_survey_root (root model : Text) (calibration : Calibration) :
    (survey root model calibration).Returns fun chassis => chassis.root = root := by
  unfold survey
  apply returns_after
  intro found
  apply returns_after
  intro single_profile
  apply returns_after
  intro automatic
  exact rfl

/-- The table that the scan goes by. -/
theorem gt_layout {revision : Text} (h : revision = "rev1" ∨ revision = "rev2") :
    ∃ layout ∈ layouts, layout.model = "DXP2800 GT" ∧
      ugreenctl_disk_firmware_layout "DXP2800 GT" revision = some layout := by
  rcases h with rfl | rfl
  · exact ⟨⟨"DXP2800 GT", "rev1", rows_4_0⟩, by decide +kernel, rfl, by decide +kernel⟩
  · exact ⟨⟨"DXP2800 GT", "rev2", rows_4_1⟩, by decide +kernel, rfl, by decide +kernel⟩

/-- Without calibration and local ports nothing is mapped before the rules. -/
theorem gt_confirmed_unmapped {chassis : Chassis} (hgt : chassis.OfGt) {disk : Disk}
    (h : disk.Unmapped) : (confirm_slot chassis (assign_slot chassis disk)).Unmapped := by
  have hassigned : (assign_slot chassis disk).Unmapped := by
    unfold assign_slot
    dsimp only
    rw [hgt.calibration, hgt.single_profile]
    simp only [Bool.false_eq_true, if_false]
    split
    · exact ⟨h.mapped, h.slot, h.slot_name, h.led_id, h.led_supported⟩
    · rw [if_neg (not_not.mpr h.slot)]
      exact ⟨h.mapped, h.slot, h.slot_name, h.led_id, h.led_supported⟩
  unfold confirm_slot
  rw [if_pos hassigned.slot]
  exact hassigned

/-- A SATA disk stays unmapped. -/
theorem gt_candidate_sata {chassis : Chassis} (hgt : chassis.OfGt) {disk : Disk}
    (hunmapped : disk.Unmapped) (hsata : disk.interface_type ≠ "nvme") :
    (candidate chassis disk).Returns Disk.Unmapped := by
  obtain ⟨layout, hlayout, hmodel, hfound⟩ := gt_layout (.inl rfl)
  have hconfirmed := gt_confirmed_unmapped hgt hunmapped
  have hkind : (confirm_slot chassis (assign_slot chassis disk)).interface_type ≠ "nvme" := by
    rw [interface_confirm_slot, interface_assign_slot]
    exact hsata
  have hrules : ∀ (name : Text) (d : Disk), d.interface_type ≠ "nvme" →
      (connector_rules chassis.root name layout d false).Returns fun matched => matched = [] := by
    intro name d hd
    apply returns_after
    intro resolved
    cases resolved with
    | none => rfl
    | some resolved =>
      show (matching_rules chassis.root resolved layout d false layout.rules).Returns _
      rw [matching_rules_filter (p := fun _ => false) fun rule hrule =>
        gt_rule_sata hlayout hmodel chassis.root resolved hrule hd]
      exact List.filter_false _
  unfold candidate
  rw [hgt.layout, hfound, hgt.revision_known]
  dsimp only
  generalize confirm_slot chassis (assign_slot chassis disk) = confirmed at *
  apply (hrules confirmed.name confirmed hkind).bind
  intro matched hmatched
  subst hmatched
  have hnone : (apply_rules chassis layout [] confirmed).Unmapped := by
    unfold apply_rules
    dsimp only
    split
    · exact ⟨hconfirmed.mapped, hconfirmed.slot, hconfirmed.slot_name, hconfirmed.led_id,
        hconfirmed.led_supported⟩
    · exact hconfirmed
  show (led_record chassis.model layout (apply_rules chassis layout [] confirmed)).Unmapped
  unfold led_record
  rw [hnone.mapped]
  exact hnone

section runs

variable {tree : Tree} {chassis : Chassis}

/-- A disk that is mapped is what the rules have made of a disk of the tree. -/
def Origin (tree : Tree) (chassis : Chassis) (disk : Disk) : Prop :=
  disk.Unmapped ∨ ∃ name read controller,
    Runs tree.env (read_one chassis.root name).inl () (some (read, controller)) () ∧
      Runs tree.env (candidate chassis read) () disk ()

theorem origin_forget (tree : Tree) (chassis : Chassis) (disk : Disk) (reason : Text) :
    Origin tree chassis (disk.forget reason) :=
  .inl (unmapped_forget disk reason)

/-- Every disk of the list has such an origin. -/
def Origins (tree : Tree) (chassis : Chassis) (disks : List (Disk × Text)) : Prop :=
  ∀ entry ∈ disks, Origin tree chassis entry.1

theorem Origins.snoc {disks : List (Disk × Text)} (h : Origins tree chassis disks)
    {entry : Disk × Text} (hentry : Origin tree chassis entry.1) :
    Origins tree chassis (disks ++ [entry]) := by
  intro e he
  rcases List.mem_append.mp he with hold | hnew
  · exact h e hold
  · rw [List.mem_singleton.mp hnew]
    exact hentry

theorem enumerate_origins {found : Found} (h : Runs tree.env (enumerate chassis) () (.ok found) ()) :
    Origins tree chassis found.disks := by
  obtain ⟨opened, _, -, h⟩ := Runs.of_bind h
  cases opened with
  | error errno => cases h
  | ok directory =>
    obtain ⟨r, _, hwalk, h⟩ := Runs.of_bind h
    cases r with
    | error fault => cases h
    | ok found' =>
      have horigins : Origins tree chassis found'.disks := by
        apply Runs.walk_invariant (J := fun (st : Found) => Origins tree chassis st.disks) _ _ hwalk
        · intro st entry _ st' s s' hst hstep
          unfold enumerate_entry at hstep
          split at hstep
          · cases hstep
          have hmembers : Origins tree chassis (if is_member entry = true then
              { st with members := st.members ++ [entry] } else st : Found).disks := by
            split
            · exact hst
            · exact hst
          dsimp only at hstep
          generalize (if is_member entry = true then
            { st with members := st.members ++ [entry] } else st : Found) = members at *
          obtain ⟨read, _, hread, hstep⟩ := Runs.of_bind hstep
          cases read with
          | none =>
            cases hstep
            exact hmembers
          | some r =>
            dsimp only at hstep
            split at hstep
            · cases hstep
            · obtain ⟨disk, _, hcandidate, hstep⟩ := Runs.of_bind hstep
              cases hstep
              exact hmembers.snoc (.inr ⟨entry, r.1, r.2, hread, hcandidate⟩)
        · exact fun _ hmem => (List.not_mem_nil hmem).elim
      dsimp only at h
      split at h
      · cases h
      · cases h
        exact horigins

theorem recheck_origins {disks disks' : List (Disk × Text)} (hdisks : Origins tree chassis disks)
    (h : Runs tree.env (Prog.walk (recheck_disk chassis) [] disks) () (.ok disks') ()) :
    Origins tree chassis disks' := by
  apply Runs.walk_invariant (J := Origins tree chassis) _ _ h
  · intro done entry hentry done' s s' hdone hstep
    have hlost := origin_forget tree chassis entry.1 controller_changed
    have hrules : ∀ current, (recheck_rules chassis current entry.1).Returns
        (Origin tree chassis) := by
      intro current
      unfold recheck_rules
      split
      · exact hdisks entry hentry
      · split
        · exact hdisks entry hentry
        · apply returns_after
          intro matched
          split
          · dsimp only
            split
            · exact hlost
            · exact hdisks entry hentry
          · exact hlost
    obtain ⟨current, _, -, hstep⟩ := Runs.of_bind hstep
    cases current with
    | none => cases hstep
    | some current =>
      dsimp only at hstep
      split at hstep
      · cases hstep
      · obtain ⟨disk, _, hdisk, hstep⟩ := Runs.of_bind hstep
        cases hstep
        exact hdone.snoc ((hrules current.1).runs hdisk)
  · exact fun _ hmem => (List.not_mem_nil hmem).elim

theorem candidates_origins (hgt : chassis.OfGt) {found : List Disk × List NamespaceAlias}
    (h : Runs tree.env (candidates chassis) () (.ok found) ()) :
    ∀ disk ∈ found.1, Origin tree chassis disk := by
  obtain ⟨listed, _, henumerate, h⟩ := Runs.of_andThen h
  obtain ⟨rechecked, _, hrecheck, h⟩ := Runs.of_andThen h
  have horigins := recheck_origins (enumerate_origins henumerate) hrecheck
  obtain ⟨disks, _, hcontroller, hverify⟩ := Runs.of_bind h
  have hsame : disks = rechecked := by
    unfold recheck_controller at hcontroller
    rw [hgt.single_profile] at hcontroller
    cases hcontroller
    rfl
  obtain ⟨_, _, -, hverify_names⟩ := Runs.of_andThen hverify
  obtain ⟨_, _, -, hcoalesced⟩ := Runs.of_andThen hverify_names
  rw [← hsame] at horigins
  cases hcoalesce : coalesce_nvme_namespaces (disks.map Prod.fst) (disks.map Prod.snd) with
  | error fault =>
    rw [hcoalesce] at hcoalesced
    cases hcoalesced
  | ok r =>
    rw [hcoalesce] at hcoalesced
    cases hcoalesced
    intro disk hdisk
    obtain ⟨entry, hentry, rfl⟩ := List.mem_map.mp ((coalesce_within hcoalesce).1 disk hdisk)
    exact horigins entry hentry

end runs

/-! ## Either revision -/

/-- The chassis as it would be, were its revision known. -/
def Chassis.of_revision (chassis : Chassis) (revision : Text) : Chassis :=
  { chassis with
    layout := ugreenctl_disk_firmware_layout "DXP2800 GT" revision
    revision_known := true }

/-- The full table of a revision maps a disk of the tree so, and not otherwise. -/
def Assigns (tree : Tree) (chassis : Chassis) (revision : Text) (read disk : Disk) : Prop :=
  ∀ d, Runs tree.env (candidate (chassis.of_revision revision) read) () d () ↔ d = disk

/-- The two revisions of the board. -/
def gt_revisions : List Text := ["rev1", "rev2"]

section revisions

variable {tree : Tree} {chassis : Chassis}

/-- The mapping of an NVMe disk has one result in a tree. -/
theorem gt_candidate_settled {layout : FirmwareLayout} (hlayout : layout ∈ layouts)
    (hmodel : layout.model = "DXP2800 GT") (hchassis : chassis.layout = some layout) {read : Disk}
    (hnvme : read.interface_type = "nvme") :
    Prog.Settled tree.env tree.handler (candidate chassis read) := by
  have hconfirmed := gt_confirmed_nvme chassis hnvme
  unfold candidate
  rw [hchassis]
  dsimp only
  rw [gt_connector_rules hlayout hmodel _ _ hconfirmed]
  apply Prog.Settled.bind
  · exact (tree.settled (realpath _)).bind (Prog.settled_pure _)
  · exact Prog.settled_pure _

/-- An NVMe disk is never taken for a SATA disk. -/
theorem returns_candidate_nvme (chassis : Chassis) {read : Disk}
    (hnvme : read.interface_type = "nvme") :
    (candidate chassis read).Returns fun (d : Disk) => d.interface_type ≠ "sata" := by
  have hconfirmed := gt_confirmed_nvme chassis hnvme
  unfold candidate
  dsimp only
  split
  · show (confirm_slot chassis (assign_slot chassis read)).interface_type ≠ "sata"
    rw [hconfirmed]
    decide
  · next layout _ =>
    apply returns_after
    intro matched
    have hother : (apply_rules chassis layout matched
        (confirm_slot chassis (assign_slot chassis read))).interface_type ≠ "sata" := by
      rcases interface_apply_rules chassis layout matched
        (confirm_slot chassis (assign_slot chassis read)) with h | h
      · rw [h, hconfirmed]
        decide
      · rw [h]
        decide
    show (led_record chassis.model layout _).interface_type ≠ "sata"
    rw [led_record_of_not_sata _ _ hother]
    exact hother

/-- Both full tables assign to a disk what the scan has mapped it to. -/
theorem assigns_both (hgt : chassis.OfGt) {disk : Disk} (horigin : Origin tree chassis disk)
    (hmapped : disk.mapped = true) :
    disk.interface_type ≠ "sata" ∧ ∃ name read controller,
      Runs tree.env (read_one chassis.root name).inl () (some (read, controller)) () ∧
        ∀ revision ∈ gt_revisions, Assigns tree chassis revision read disk := by
  rcases horigin with hunmapped | ⟨name, read, controller, hread, hcandidate⟩
  · rw [hunmapped.mapped] at hmapped
    cases hmapped
  have hfresh : read.Fresh := (returns_read_one chassis.root name).inl.runs hread
  -- A SATA disk would not be mapped.
  have hnvme : read.interface_type = "nvme" := by
    by_contra hsata
    have hunmapped := (gt_candidate_sata hgt hfresh.unmapped hsata).runs hcandidate
    rw [hunmapped.mapped] at hmapped
    cases hmapped
  obtain ⟨layout, hlayout, hmodel, hfound⟩ := gt_layout (.inl rfl : ("rev1" : Text) = "rev1" ∨ _)
  have hsame : ∀ revision ∈ gt_revisions,
      candidate (chassis.of_revision revision) read = candidate chassis read := by
    intro revision hrevision
    have hknown : revision = "rev1" ∨ revision = "rev2" := by
      rcases List.mem_cons.mp hrevision with heq | hrevision
      · exact .inl heq
      · exact .inr (List.mem_singleton.mp hrevision)
    obtain ⟨layout', hlayout', hmodel', hfound'⟩ := gt_layout hknown
    have heq := gt_candidate_eq chassis hlayout' hmodel' hlayout hmodel hnvme true false
    have hof : chassis.of_revision revision =
        { chassis with layout := some layout', revision_known := true } := by
      unfold Chassis.of_revision
      rw [hfound']
    have hchassis : chassis = { chassis with layout := some layout, revision_known := false } := by
      rw [← hfound, ← hgt.layout, ← hgt.revision_known]
    rw [hof, heq, ← hchassis]
  have hsettled : Prog.Settled tree.env tree.handler (candidate chassis read) :=
    gt_candidate_settled hlayout hmodel (hgt.layout.trans hfound) hnvme
  refine ⟨?_, name, read, controller, hread, ?_⟩
  · exact (returns_candidate_nvme chassis hnvme).runs hcandidate
  · intro revision hrevision d
    rw [hsame revision hrevision]
    constructor
    · intro hruns
      exact hsettled.agree hruns hcandidate
    · intro heq
      rw [heq]
      exact hcandidate

/-- Before conflicts are resolved: a SATA disk is not mapped, and any other one
    only to what both tables say. -/
structure GtFound (tree : Tree) (chassis : Chassis) (disk : Disk) : Prop where
  sata : disk.interface_type = "sata" → disk.mapped = false
  both : disk.mapped = true → ∃ name read controller,
    Runs tree.env (read_one chassis.root name).inl () (some (read, controller)) () ∧
      ∀ revision ∈ gt_revisions, Assigns tree chassis revision read disk

theorem gt_found (hgt : chassis.OfGt) {disk : Disk} (horigin : Origin tree chassis disk) :
    GtFound tree chassis disk := by
  constructor
  · intro hsata
    by_contra hmapped
    rw [Bool.not_eq_false] at hmapped
    exact (assigns_both hgt horigin hmapped).1 hsata
  · intro hmapped
    exact (assigns_both hgt horigin hmapped).2

/-- Next to a SATA disk no U.2 disk keeps its bay. -/
theorem gt_resolved (hgt : chassis.OfGt) {found : List Disk}
    (hfound : ∀ disk ∈ found, GtFound tree chassis disk) :
    (∀ disk ∈ resolve_conflicts chassis found, GtFound tree chassis disk) ∧
      ((∃ disk ∈ resolve_conflicts chassis found, disk.interface_type = "sata") →
        ∀ disk ∈ resolve_conflicts chassis found, disk.interface_type = "u2" →
          disk.mapped = false) := by
  have hmem : ∀ disk ∈ resolve_conflicts chassis found, ∃ i, ∃ hi : i < found.length,
      (disk = found[i] ∧ ¬ Conflicted chassis found i) ∨
        ((∃ reason, disk = found[i].forget reason) ∧ Conflicted chassis found i) := by
    intro disk hdisk
    rw [(resolve_conflicts_perm chassis found).mem_iff] at hdisk
    obtain ⟨i, hi, rfl⟩ := List.getElem_of_mem hdisk
    have hi' : i < found.length := by rwa [resolved_length] at hi
    exact ⟨i, hi', resolved_at chassis found hi' hi⟩
  constructor
  · intro disk hdisk
    obtain ⟨i, hi, ⟨rfl, -⟩ | ⟨⟨reason, rfl⟩, -⟩⟩ := hmem disk hdisk
    · exact hfound _ (List.getElem_mem hi)
    · exact ⟨fun _ => rfl, fun hmapped => by cases hmapped⟩
  · intro hsata disk hdisk hu2
    -- The SATA disk was a candidate, and as such not mapped.
    have hambiguous : gt_sata_ambiguous chassis found = true := by
      obtain ⟨other, hother, hkind⟩ := hsata
      have hcandidate : ∃ c ∈ found, c.interface_type = "sata" := by
        obtain ⟨i, hi, ⟨rfl, -⟩ | ⟨⟨reason, rfl⟩, -⟩⟩ := hmem other hother
        · exact ⟨_, List.getElem_mem hi, hkind⟩
        · exact ⟨_, List.getElem_mem hi, hkind⟩
      obtain ⟨c, hc, hckind⟩ := hcandidate
      have hany : found.any (fun (d : Disk) => !d.mapped && d.interface_type = "sata") = true := by
        refine List.any_eq_true.mpr ⟨c, hc, ?_⟩
        rw [(hfound c hc).sata hckind, hckind]
        rfl
      unfold gt_sata_ambiguous
      rw [hgt.calibration, hgt.revision_known, hgt.model, hany]
      rfl
    obtain ⟨i, hi, ⟨rfl, hfree⟩ | ⟨⟨reason, rfl⟩, -⟩⟩ := hmem disk hdisk
    · refine absurd (.inl ⟨hambiguous, ?_⟩) hfree
      rw [List.getD_eq_getElem found {} hi]
      exact hu2
    · rfl

end revisions

/-- A scan without a calibration maps a disk of a DXP2800 GT only where the
    full tables of both revisions map it, no SATA disk, and no U.2 disk beside
    a SATA disk. -/
theorem gt_scan_sound {tree : Tree} {root : Text} {path : Option Text} {out : DiskScan}
    (hnone : ∀ calibration, Runs tree.env (chosen_calibration "DXP2800 GT" path) () (.ok calibration) () →
      calibration.present = false)
    (h : Runs tree.env (ugreenctl_disk_scan_at root "DXP2800 GT" path) () (.ok out) ()) :
    ∃ chassis : Chassis, chassis.OfGt ∧
      Runs tree.env (resolve_root root).inl () (.ok chassis.root) () ∧
      (∀ disk ∈ out.disks, GtFound tree chassis disk) ∧
      ((∃ disk ∈ out.disks, disk.interface_type = "sata") →
        ∀ disk ∈ out.disks, disk.interface_type = "u2" → disk.mapped = false) := by
  obtain ⟨calibration, resolved_root, chassis, found, _, _, _, hcalibration, hroot, hsurvey, hfound,
    hout⟩ := scan_steps h
  have hgt := (returns_survey_gt resolved_root (hnone calibration hcalibration)).runs hsurvey
  have hsame := (returns_survey_root resolved_root "DXP2800 GT" calibration).runs hsurvey
  have horigins := candidates_origins hgt hfound
  have hresolved := gt_resolved hgt fun disk hdisk => gt_found hgt (horigins disk hdisk)
  rw [← hout] at hresolved
  refine ⟨chassis, hgt, ?_, hresolved⟩
  rw [hsame]
  exact hroot

/-- Three NVMe disks, two of them below the port of one bay. -/
theorem gt_scan_sound_nvme : ∃ out,
    Runs gt_tree.env (ugreenctl_disk_scan_at "/s" "DXP2800 GT" none) () (.ok out) () ∧
      ∃ chassis : Chassis, chassis.OfGt ∧
        Runs gt_tree.env (resolve_root "/s").inl () (.ok chassis.root) () ∧
        (∀ disk ∈ out.disks, GtFound gt_tree chassis disk) ∧
        ((∃ disk ∈ out.disks, disk.interface_type = "sata") →
          ∀ disk ∈ out.disks, disk.interface_type = "u2" → disk.mapped = false) := by
  have hnone : ∀ calibration,
      Runs gt_tree.env (chosen_calibration "DXP2800 GT" none) () (.ok calibration) () →
        calibration.present = false := by
    intro calibration h
    have h : Runs gt_tree.env (read_calibration "/etc/ugreenctl/disk-map.conf" true "DXP2800 GT") ()
        (.ok calibration) () := h
    obtain ⟨opened, _, hopen, h⟩ := Runs.of_bind h
    cases hopen with
    | op hstep hdone =>
      cases hdone
      have hopened : opened = .error Errno.ENOENT := hstep
      rw [hopened] at h
      cases h
      rfl
  obtain ⟨out, hrun, -⟩ := gt_tree_scan
  exact ⟨out, hrun, gt_scan_sound hnone hrun⟩

end UgreenNas.DiskMap
