import UgreenNas.Disk.Exclusive

/-! # Selectors (`disk/disk.c`)

    `ugreenctl_disk_resolve` turns the word of a user into the one disk it
    means, or refuses.
-/

namespace UgreenNas.DiskMap

open Effect Effect.Prog

variable {σ : Type}

/-! ## The resolver -/

/-- What `ugreenctl_disk_resolve` returns: its code, the entry that `*out`
    points to, and the text of its error. -/
structure Resolution where
  code : Int
  out : Option Nat
  error : Text
  deriving DecidableEq, Repr

def refused (text : Text) : Resolution := ⟨-1, none, text⟩

def alias_matches (selector : Text) (namespace_alias : NamespaceAlias) : Bool :=
  (("wwn:" : Text).isPrefixOf selector && !namespace_alias.wwn.isEmpty &&
      selector.drop 4 = namespace_alias.wwn) ||
    selector = namespace_alias.name ||
    (("/dev/" : Text).isPrefixOf selector && selector.drop 5 = namespace_alias.name)

def disk_matches (selector : Text) (slot : Nat) (disk : Disk) : Bool :=
  if slot ≠ 0 then
    disk.mapped && disk.slot = slot && disk.interface_type ≠ "nvme"
  else if ("nvme" : Text).isPrefixOf selector && !disk.slot_name.isEmpty &&
      selector = disk.slot_name then
    true
  else if ("serial:" : Text).isPrefixOf selector then
    !disk.serial.isEmpty && selector.drop 7 = disk.serial
  else if ("wwn:" : Text).isPrefixOf selector then
    !disk.wwn.isEmpty && selector.drop 4 = disk.wwn
  else
    selector = disk.name || selector = disk.device ||
      (!disk.serial.isEmpty && selector = disk.serial)

/-- Does the body of the loop find a match in this entry? -/
def entry_matches (aliases : List NamespaceAlias) (selector : Text) (disk : Disk) : Bool :=
  let slot := selector_slot selector
  disk_matches selector slot disk ||
    (slot = 0 && aliases.any fun a => a.disk_name = disk.name && alias_matches selector a)

/-- The loop over the entries: the last match, and the number of matches. -/
def match_entries (scan : DiskScan) (selector : Text) : Option Nat × Nat :=
  (List.range scan.disks.length).foldl (fun found i =>
    if entry_matches scan.namespace_aliases selector (scan.disks.getD i {}) then
      (some i, found.2 + 1)
    else
      found) (none, 0)

/-- The checks after the loop. -/
def conclude (selector : Text) (found : Option Nat) (count : Nat) (disk : Disk) : Resolution :=
  if count = 0 then
    refused ("No currently mapped disk matches '" ++ selector ++ "'")
  else if count ≠ 1 then
    refused ("Disk selector '" ++ selector ++ "' is ambiguous")
  else if !disk.mapped then
    refused ("Disk '" ++ selector ++ "' has no confirmed LED mapping: " ++ disk.reason)
  else if !disk.led_supported || disk.led_id.isEmpty then
    ⟨-(Errno.ENOTSUP.code : Int), none, "Unsupported: physical slot '" ++ disk.slot_name ++
      "' has no confirmed independently controllable disk LED"⟩
  else
    ⟨0, found, []⟩

def ugreenctl_disk_resolve (scan : DiskScan) (selector : Text) : Resolution :=
  if selector.isEmpty || scan.disks.length > UGREENCTL_DISK_MAX ||
      scan.namespace_aliases.length > UGREENCTL_DISK_MAX then
    refused "Invalid disk selector or scan"
  else
    let (found, count) := match_entries scan selector
    conclude selector found count (scan.disks.getD (found.getD 0) {})

/-! ## The grammar of selectors -/

/-- A selector that is no slot word. -/
def Named (selector : Text) : Prop := selector ≠ [] ∧ ∀ n, ¬ SlotWord selector n

/-- What a selector may mean: a slot word means the disk in that bay, which
    an NVMe connector is not; every other selector means a disk by one of
    its names. -/
inductive Selects (aliases : List NamespaceAlias) (selector : Text) (disk : Disk) : Prop where
  | slot {n : Nat} (word : SlotWord selector n) (mapped : disk.mapped = true)
      (slot : disk.slot = n) (bay : disk.interface_type ≠ "nvme")
  | nvme_slot (nvme : ("nvme" : Text) <+: selector) (name : selector = disk.slot_name)
  | serial (known : disk.serial ≠ []) (word : selector = "serial:" ++ disk.serial)
  | wwn (known : disk.wwn ≠ []) (word : selector = "wwn:" ++ disk.wwn)
  | word (named : Named selector) (serial : ¬ ("serial:" : Text) <+: selector)
      (wwn : ¬ ("wwn:" : Text) <+: selector)
      (word : selector = disk.name ∨ selector = disk.device ∨ selector = disk.serial)
  | by_alias (named : Named selector) (a : NamespaceAlias) (mem : a ∈ aliases)
      (of_disk : a.disk_name = disk.name)
      (word : selector = a.name ∨ selector = "/dev/" ++ a.name ∨
        (a.wwn ≠ [] ∧ selector = "wwn:" ++ a.wwn))

theorem SlotWord.ne_nil {selector : Text} {n : Nat} (h : SlotWord selector n) : selector ≠ [] := by
  obtain ⟨digits, rfl | rfl, -⟩ := h.word
  · exact List.cons_ne_nil _ _
  · exact List.cons_ne_nil _ _

/-- A slot word starts with none of the other words. -/
theorem SlotWord.not_starts {selector : Text} {n : Nat} (h : SlotWord selector n) {start : Text}
    (hslot : ¬ ∃ a b : Text, ("slot" : Text) ++ a = start ++ b)
    (hdisk : ¬ ∃ a b : Text, ("disk" : Text) ++ a = start ++ b) (rest : Text) :
    selector ≠ start ++ rest := by
  intro heq
  obtain ⟨digits, hword | hword, -⟩ := h.word
  · exact hslot ⟨digits, rest, hword.symm.trans heq⟩
  · exact hdisk ⟨digits, rest, hword.symm.trans heq⟩

/-- A slot word means what is in that bay. -/
theorem selects_slot_word {aliases : List NamespaceAlias} {selector : Text} {n : Nat}
    (hword : SlotWord selector n) {disk : Disk} :
    Selects aliases selector disk ↔
      disk.mapped = true ∧ disk.slot = n ∧ disk.interface_type ≠ "nvme" := by
  constructor
  · intro h
    cases h with
    | @slot m hm hmapped hslot hbay =>
      have hsame : m = n :=
        (selector_slot_iff.mpr hm).1.symm.trans (selector_slot_iff.mpr hword).1
      exact ⟨hmapped, hslot.trans hsame, hbay⟩
    | nvme_slot hnvme _ =>
      obtain ⟨rest, hrest⟩ := hnvme
      refine absurd hrest.symm (hword.not_starts ?_ ?_ rest)
      · intro ⟨a, b, hab⟩
        cases hab
      · intro ⟨a, b, hab⟩
        cases hab
    | serial _ heq =>
      refine absurd heq (hword.not_starts ?_ ?_ _)
      · intro ⟨a, b, hab⟩
        cases hab
      · intro ⟨a, b, hab⟩
        cases hab
    | wwn _ heq =>
      refine absurd heq (hword.not_starts ?_ ?_ _)
      · intro ⟨a, b, hab⟩
        cases hab
      · intro ⟨a, b, hab⟩
        cases hab
    | word hnamed => exact absurd hword (hnamed.2 n)
    | by_alias hnamed => exact absurd hword (hnamed.2 n)
  · intro h
    exact .slot hword h.1 h.2.1 h.2.2

theorem drop_eq_iff {start text rest : Text} {n : Nat} (hn : start.length = n) :
    (start.isPrefixOf text = true ∧ text.drop n = rest) ↔ text = start ++ rest := by
  subst hn
  constructor
  · intro h
    obtain ⟨hstart, hdrop⟩ := h
    obtain ⟨behind, rfl⟩ := starts_iff.mp hstart
    rw [List.drop_left] at hdrop
    rw [hdrop]
  · intro h
    rw [h]
    exact ⟨starts_append start rest, List.drop_left⟩

theorem alias_matches_iff {selector : Text} {a : NamespaceAlias} :
    alias_matches selector a = true ↔
      selector = a.name ∨ selector = "/dev/" ++ a.name ∨
        (a.wwn ≠ [] ∧ selector = "wwn:" ++ a.wwn) := by
  have hdev := @drop_eq_iff "/dev/" selector a.name 5 rfl
  have hwwn := @drop_eq_iff "wwn:" selector a.wwn 4 rfl
  unfold alias_matches
  simp only [Bool.or_eq_true, Bool.and_eq_true, decide_eq_true_eq, Bool.not_eq_true',
    List.isEmpty_eq_false_iff]
  rw [← hdev, ← hwwn]
  constructor
  · intro h
    rcases h with (⟨⟨hstart, hne⟩, hdrop⟩ | hname) | hdev
    · exact .inr (.inr ⟨hne, hstart, hdrop⟩)
    · exact .inl hname
    · exact .inr (.inl hdev)
  · intro h
    rcases h with hname | hdev | ⟨hne, hstart, hdrop⟩
    · exact .inl (.inr hname)
    · exact .inr hdev
    · exact .inl (.inl ⟨⟨hstart, hne⟩, hdrop⟩)

theorem disk_matches_named {aliases : List NamespaceAlias} {selector : Text}
    (hnamed : Named selector) {disk : Disk} (h : disk_matches selector 0 disk = true) :
    Selects aliases selector disk := by
  unfold disk_matches at h
  rw [if_neg (by decide)] at h
  split at h
  · next hnvme =>
    simp only [Bool.and_eq_true, decide_eq_true_eq] at hnvme
    exact .nvme_slot (starts_with_iff.mp hnvme.1.1) hnvme.2
  split at h
  · next hserial =>
    simp only [Bool.and_eq_true, Bool.not_eq_true', List.isEmpty_eq_false_iff,
      decide_eq_true_eq] at h
    exact .serial h.1 ((drop_eq_iff rfl).mp ⟨hserial, h.2⟩)
  · next hserial =>
    split at h
    · next hwwn =>
      simp only [Bool.and_eq_true, Bool.not_eq_true', List.isEmpty_eq_false_iff,
        decide_eq_true_eq] at h
      exact .wwn h.1 ((drop_eq_iff rfl).mp ⟨hwwn, h.2⟩)
    · next hwwn =>
      simp only [Bool.or_eq_true, Bool.and_eq_true, decide_eq_true_eq, or_assoc] at h
      refine .word hnamed (fun hstart => hserial (starts_with_iff.mpr hstart))
        (fun hstart => hwwn (starts_with_iff.mpr hstart)) ?_
      rcases h with h | h | ⟨-, h⟩
      · exact .inl h
      · exact .inr (.inl h)
      · exact .inr (.inr h)

/-- The branches of the body do not shadow each other. -/
theorem selects_disk_matches {aliases : List NamespaceAlias} {selector : Text}
    (hnamed : Named selector) {disk : Disk} (h : Selects aliases selector disk) :
    disk_matches selector 0 disk = true ∨
      ∃ a ∈ aliases, a.disk_name = disk.name ∧ alias_matches selector a = true := by
  have hnot_nil : ∀ {text : Text}, selector = text → text.isEmpty = false := by
    intro text heq
    rw [List.isEmpty_eq_false_iff, ← heq]
    exact hnamed.1
  cases h with
  | slot hword => exact absurd hword (hnamed.2 _)
  | nvme_slot hnvme hname =>
    left
    unfold disk_matches
    rw [if_neg (by decide), if_pos]
    rw [starts_with_iff.mpr hnvme, hnot_nil hname, decide_eq_true hname]
    rfl
  | serial hknown hword =>
    obtain ⟨hstart, hdrop⟩ := (drop_eq_iff (n := 7) rfl).mpr hword
    left
    unfold disk_matches
    rw [if_neg (by decide), hstart, hdrop, decide_eq_true rfl, List.isEmpty_eq_false_iff.mpr hknown]
    split <;> rfl
  | wwn hknown hword =>
    obtain ⟨hstart, hdrop⟩ := (drop_eq_iff (n := 4) rfl).mpr hword
    have hserial : ("serial:" : Text).isPrefixOf selector = false := by
      rw [hword]
      rfl
    left
    unfold disk_matches
    rw [if_neg (by decide), hserial, hstart, hdrop, decide_eq_true rfl,
      List.isEmpty_eq_false_iff.mpr hknown]
    split <;> rfl
  | word _ hserial hwwn hword =>
    left
    unfold disk_matches
    rw [if_neg (by decide)]
    split
    · rfl
    · rw [if_neg fun h => hserial (starts_with_iff.mp h),
        if_neg fun h => hwwn (starts_with_iff.mp h)]
      rcases hword with heq | heq | heq
      · rw [decide_eq_true heq]
        rfl
      · rw [decide_eq_true heq, Bool.or_true]
        rfl
      · rw [decide_eq_true heq, hnot_nil heq]
        exact Bool.or_true _
  | by_alias _ a hmem hof hword => exact .inr ⟨a, hmem, hof, alias_matches_iff.mpr hword⟩

/-- One match of the loop is one meaning of the selector. -/
theorem entry_matches_iff {aliases : List NamespaceAlias} {selector : Text} (hne : selector ≠ [])
    {disk : Disk} :
    entry_matches aliases selector disk = true ↔ Selects aliases selector disk := by
  unfold entry_matches
  dsimp only
  by_cases hslot : selector_slot selector = 0
  · have hnamed : Named selector := ⟨hne, selector_slot_zero.mp hslot⟩
    rw [hslot, decide_eq_true rfl, Bool.true_and, Bool.or_eq_true, List.any_eq_true]
    constructor
    · intro h
      rcases h with h | ⟨a, hmem, h⟩
      · exact disk_matches_named hnamed h
      · rw [Bool.and_eq_true, decide_eq_true_eq] at h
        exact .by_alias hnamed a hmem h.1 (alias_matches_iff.mp h.2)
    · intro h
      rcases selects_disk_matches hnamed h with h | ⟨a, hmem, hof, h⟩
      · exact .inl h
      · refine .inr ⟨a, hmem, ?_⟩
        rw [Bool.and_eq_true, decide_eq_true_eq]
        exact ⟨hof, h⟩
  · have hword := selector_slot_iff.mp ⟨rfl, hslot⟩
    rw [selects_slot_word hword]
    unfold disk_matches
    rw [if_pos hslot, decide_eq_false hslot, Bool.false_and, Bool.or_false]
    simp only [Bool.and_eq_true, decide_eq_true_eq, and_assoc]

/-! ## Counting matches -/

theorem match_fold (p : Nat → Bool) (l : List Nat) (found : Option Nat) (count : Nat) :
    l.foldl (fun found i => if p i then (some i, found.2 + 1) else found) (found, count) =
      (((l.filter p).getLast?).or found, count + (l.filter p).length) := by
  induction l generalizing found count with
  | nil => simp
  | cons i rest ih =>
    rw [List.foldl_cons]
    cases hp : p i with
    | false =>
      rw [List.filter_cons_of_neg (by rw [hp]; decide)]
      exact ih found count
    | true =>
      rw [if_pos rfl, ih, List.filter_cons_of_pos hp]
      simp only [List.getLast?_cons, List.length_cons]
      cases (rest.filter p).getLast? <;> simp <;> omega

section resolve

variable {scan : DiskScan} {selector : Text}

/-- The entries that match, in order. -/
def matching (scan : DiskScan) (selector : Text) : List Nat :=
  (List.range scan.disks.length).filter fun i =>
    entry_matches scan.namespace_aliases selector (scan.disks.getD i {})

theorem match_entries_eq :
    match_entries scan selector =
      ((matching scan selector).getLast?, (matching scan selector).length) := by
  unfold match_entries matching
  rw [match_fold fun i => entry_matches scan.namespace_aliases selector (scan.disks.getD i {})]
  simp

/-- `i` is the only entry that the selector means. -/
def Unique (scan : DiskScan) (selector : Text) (i : Nat) : Prop :=
  i < scan.disks.length ∧ ∀ j (hj : j < scan.disks.length),
    Selects scan.namespace_aliases selector scan.disks[j] ↔ j = i

theorem mem_matching (hne : selector ≠ []) {j : Nat} :
    j ∈ matching scan selector ↔
      ∃ hj : j < scan.disks.length, Selects scan.namespace_aliases selector scan.disks[j] := by
  unfold matching
  rw [List.mem_filter, List.mem_range, entry_matches_iff hne]
  constructor
  · intro ⟨hj, h⟩
    rw [List.getD_eq_getElem scan.disks {} hj] at h
    exact ⟨hj, h⟩
  · intro ⟨hj, h⟩
    rw [List.getD_eq_getElem scan.disks {} hj]
    exact ⟨hj, h⟩

theorem matching_eq_singleton (hne : selector ≠ []) {i : Nat} :
    matching scan selector = [i] ↔ Unique scan selector i := by
  have hnodup : (matching scan selector).Nodup := List.nodup_range.filter _
  constructor
  · intro h
    have hmem : ∀ j, j ∈ matching scan selector ↔ j = i := by
      intro j
      rw [h, List.mem_singleton]
    obtain ⟨hi, -⟩ := (mem_matching hne).mp ((hmem i).mpr rfl)
    refine ⟨hi, fun j hj => ?_⟩
    rw [← hmem j, mem_matching hne]
    exact ⟨fun hselects => ⟨hj, hselects⟩, fun ⟨_, hselects⟩ => hselects⟩
  · intro h
    obtain ⟨hi, hunique⟩ := h
    have hperm : (matching scan selector).Perm [i] := by
      rw [List.perm_ext_iff_of_nodup hnodup (List.nodup_singleton i)]
      intro j
      rw [mem_matching hne, List.mem_singleton]
      constructor
      · intro ⟨hj, hselects⟩
        exact (hunique j hj).mp hselects
      · intro heq
        subst heq
        exact ⟨hi, (hunique j hi).mpr rfl⟩
    exact List.perm_singleton.mp hperm

theorem selects_ne_nil {aliases : List NamespaceAlias} {disk : Disk}
    (h : Selects aliases selector disk) : selector ≠ [] := by
  cases h with
  | slot hword => exact hword.ne_nil
  | nvme_slot hnvme =>
    obtain ⟨rest, rfl⟩ := hnvme
    exact List.cons_ne_nil _ _
  | serial _ hword =>
    rw [hword]
    exact List.cons_ne_nil _ _
  | wwn _ hword =>
    rw [hword]
    exact List.cons_ne_nil _ _
  | word hnamed => exact hnamed.1
  | by_alias hnamed => exact hnamed.1

/-- A disk whose LED a user may be shown. -/
def Disk.Locatable (disk : Disk) : Prop :=
  disk.mapped = true ∧ disk.led_supported = true ∧ disk.led_id ≠ []

/-- An error, and no entry pointed to. -/
def Resolution.Refuses (r : Resolution) : Prop := r.code ≠ 0 ∧ r.out = none

theorem refuses_refused (text : Text) : (refused text).Refuses := ⟨by simp [refused], rfl⟩

theorem conclude_refuses (found : Option Nat) {count : Nat} {disk : Disk}
    (h : count = 1 → ¬ disk.Locatable) : (conclude selector found count disk).Refuses := by
  unfold conclude
  split
  · exact refuses_refused _
  split
  · exact refuses_refused _
  · next _ hone =>
    have hlocatable := h (not_not.mp hone)
    split
    · exact refuses_refused _
    split
    · exact ⟨by simp [show Errno.ENOTSUP.code = 95 from rfl], rfl⟩
    · next hmapped hled =>
      simp only [Bool.not_eq_true', Bool.not_eq_false, Bool.or_eq_true, not_or,
        List.isEmpty_iff] at hmapped hled
      exact absurd ⟨hmapped, hled.1, hled.2⟩ hlocatable

theorem conclude_locatable (found : Option Nat) {disk : Disk} (h : disk.Locatable) :
    conclude selector found 1 disk = ⟨0, found, []⟩ := by
  obtain ⟨hmapped, hled, hid⟩ := h
  unfold conclude
  rw [if_neg (by decide), if_neg (by decide), hmapped, hled, List.isEmpty_eq_false_iff.mpr hid]
  rfl

theorem resolve_eq (hne : selector ≠ []) (hdisks : scan.disks.length ≤ UGREENCTL_DISK_MAX)
    (haliases : scan.namespace_aliases.length ≤ UGREENCTL_DISK_MAX) :
    ugreenctl_disk_resolve scan selector =
      conclude selector (matching scan selector).getLast? (matching scan selector).length
        (scan.disks.getD ((matching scan selector).getLast?.getD 0) {}) := by
  unfold ugreenctl_disk_resolve
  rw [List.isEmpty_eq_false_iff.mpr hne, decide_eq_false (by omega), decide_eq_false (by omega),
    match_entries_eq]
  rfl

/-- The resolver succeeds on a unique entry that can be located... -/
theorem resolve_unique (hdisks : scan.disks.length ≤ UGREENCTL_DISK_MAX)
    (haliases : scan.namespace_aliases.length ≤ UGREENCTL_DISK_MAX) {i : Nat}
    (hunique : Unique scan selector i) (hlocatable : (scan.disks.getD i {}).Locatable) :
    ugreenctl_disk_resolve scan selector = ⟨0, some i, []⟩ := by
  have hne := selects_ne_nil ((hunique.2 i hunique.1).mpr rfl)
  rw [resolve_eq hne hdisks haliases, (matching_eq_singleton hne).mpr hunique]
  exact conclude_locatable _ hlocatable

/-- ... and refuses everything else. -/
theorem resolve_refuses (hdisks : scan.disks.length ≤ UGREENCTL_DISK_MAX)
    (haliases : scan.namespace_aliases.length ≤ UGREENCTL_DISK_MAX)
    (h : ∀ i, Unique scan selector i → ¬ (scan.disks.getD i {}).Locatable) :
    (ugreenctl_disk_resolve scan selector).Refuses := by
  by_cases hne : selector = []
  · unfold ugreenctl_disk_resolve
    rw [hne]
    exact refuses_refused _
  · rw [resolve_eq hne hdisks haliases]
    apply conclude_refuses
    intro hone
    obtain ⟨i, hi⟩ := List.length_eq_one_iff.mp hone
    rw [hi]
    exact h i ((matching_eq_singleton hne).mp hi)

end resolve

/-! ## Selectors of the scan's own results -/

section scan

variable {E : Env sysfs σ} {root model : Text} {path : Option Text} {out : DiskScan} {s s' : σ}

theorem scan_within (h : Runs E (ugreenctl_disk_scan_at root model path) s (.ok out) s') :
    out.disks.length ≤ UGREENCTL_DISK_MAX ∧
      out.namespace_aliases.length ≤ UGREENCTL_DISK_MAX := by
  obtain ⟨chassis, found, s₁, s₂, -, -, -, hfound, hout⟩ := scan_runs h
  have hlength := (resolve_conflicts_perm chassis found).length_eq
  rw [← hout, resolved_length] at hlength
  rw [hlength]
  exact ⟨hfound.disks_le, hfound.aliases_le⟩

theorem scan_placed (h : Runs E (ugreenctl_disk_scan_at root model path) s (.ok out) s') :
    (∀ d ∈ out.disks, d.Placed) ∧ Exclusive out.disks := by
  obtain ⟨chassis, found, s₁, s₂, -, -, -, hfound, hout⟩ := scan_runs h
  have hplaced := resolve_conflicts_placed chassis hfound.placed
  rw [hout]
  exact ⟨hplaced, exclusive_of_apart hplaced (resolve_conflicts_apart chassis found)⟩

/-- Only a disk in a bay has an LED. -/
theorem scan_led_in_bay (h : Runs E (ugreenctl_disk_scan_at root model path) s (.ok out) s')
    {d : Disk} (hd : d ∈ out.disks) (hmapped : d.mapped = true) (hled : d.led_supported = true) :
    d.InBay ∧ d.led_id = "disk" ++ decimal d.slot := by
  obtain ⟨hplaced, hexclusive⟩ := scan_placed h
  refine ⟨?_, hexclusive.led d hd hmapped hled⟩
  cases hplaced d hd with
  | unmapped h => exact absurd (h.mapped.symm.trans hmapped) (by decide)
  | bay h => exact h
  | connector h => exact absurd (h.led_supported.symm.trans hled) (by decide)

/-- In the result of a scan the slot of a disk in a bay means that disk. -/
theorem unique_of_slot_word (h : Runs E (ugreenctl_disk_scan_at root model path) s (.ok out) s')
    {i : Nat} (hi : i < out.disks.length) (hbay : out.disks[i].InBay) {selector : Text}
    (hword : SlotWord selector out.disks[i].slot) : Unique out selector i := by
  obtain ⟨hplaced, hexclusive⟩ := scan_placed h
  refine ⟨hi, fun j hj => ?_⟩
  rw [selects_slot_word hword]
  constructor
  · intro ⟨hmapped, hslot, hnvme⟩
    by_contra hne
    have hbay' : out.disks[j].InBay := by
      cases hplaced _ (List.getElem_mem hj) with
      | unmapped h => exact absurd (h.mapped.symm.trans hmapped) (by decide)
      | bay h => exact h
      | connector h => exact absurd h.nvme hnvme
    have hname : out.disks[j].slot_name = out.disks[i].slot_name := by
      rw [hbay.slot_name, hbay'.slot_name]
      exact congrArg _ (congrArg _ hslot)
    have hbays := List.pairwise_iff_getElem.mp hexclusive.bays
    rcases Nat.lt_or_gt_of_ne hne with hlt | hgt
    · exact (hbays j i hj hi hlt hmapped hbay.mapped).1 hname
    · exact (hbays i j hi hj hgt hbay.mapped hmapped).1 hname.symm
  · intro heq
    subst heq
    exact ⟨hbay.mapped, rfl, hbay.not_nvme⟩

end scan

theorem slot_word_decimal {n : Nat} (hpos : 1 ≤ n) (hle : n ≤ 8) {word : Text}
    (hword : word = "slot" ∨ word = "disk") : SlotWord (word ++ decimal n) n := by
  refine ⟨⟨decimal n, ?_, Nat.toDigits_ne_nil, ?_, ?_⟩, hpos, hle⟩
  · rcases hword with rfl | rfl
    · exact .inl rfl
    · exact .inr rfl
  · intro c hc
    have hdigit := Nat.isDigit_of_mem_toDigits (by decide) (by decide) hc
    unfold Char.isDigit at hdigit
    unfold isdigit
    simp only [Bool.and_eq_true, decide_eq_true_eq] at hdigit ⊢
    exact hdigit
  · exact Nat.ofDigitChars_toDigits (by decide) (by decide)

/-- A selector names its disk if and only if it means that one entry and no
    other, and the entry has an LED; the names that a scan gives a disk with
    an LED are such selectors. -/
theorem resolve_iff :
    (∀ (scan : DiskScan) (selector : Text), scan.disks.length ≤ UGREENCTL_DISK_MAX →
      scan.namespace_aliases.length ≤ UGREENCTL_DISK_MAX →
        (∀ i, ((ugreenctl_disk_resolve scan selector).code = 0 ∧
          (ugreenctl_disk_resolve scan selector).out = some i) ↔
            Unique scan selector i ∧ (scan.disks.getD i {}).Locatable) ∧
        ((∀ i, ¬ (Unique scan selector i ∧ (scan.disks.getD i {}).Locatable)) →
          (ugreenctl_disk_resolve scan selector).Refuses)) ∧
    ∀ (E : Env sysfs σ) (root model : Text) (path : Option Text) (out : DiskScan) (s s' : σ),
      Runs E (ugreenctl_disk_scan_at root model path) s (.ok out) s' →
        ∀ i (hi : i < out.disks.length), out.disks[i].mapped = true →
          out.disks[i].led_supported = true →
            ugreenctl_disk_resolve out out.disks[i].led_id = ⟨0, some i, []⟩ ∧
            ugreenctl_disk_resolve out ("slot" ++ decimal out.disks[i].slot) =
              ⟨0, some i, []⟩ := by
  constructor
  · intro scan selector hdisks haliases
    have hrefuses := @resolve_refuses scan selector hdisks haliases
    constructor
    · intro i
      constructor
      · intro h
        obtain ⟨hcode, hout⟩ := h
        by_cases hany : ∃ j, Unique scan selector j ∧ (scan.disks.getD j {}).Locatable
        · obtain ⟨j, hunique, hlocatable⟩ := hany
          rw [resolve_unique hdisks haliases hunique hlocatable] at hout
          cases hout
          exact ⟨hunique, hlocatable⟩
        · refine absurd hcode (hrefuses fun j hunique hlocatable => hany ⟨j, hunique, hlocatable⟩).1
      · intro h
        rw [resolve_unique hdisks haliases h.1 h.2]
        exact ⟨rfl, rfl⟩
    · intro hnone
      exact hrefuses fun i hunique hlocatable => hnone i ⟨hunique, hlocatable⟩
  · intro E root model path out s s' hrun i hi hmapped hled
    obtain ⟨hdisks, haliases⟩ := scan_within hrun
    obtain ⟨hbay, hid⟩ := scan_led_in_bay hrun (List.getElem_mem hi) hmapped hled
    have hlocatable : (out.disks.getD i {}).Locatable := by
      rw [List.getD_eq_getElem out.disks {} hi]
      refine ⟨hmapped, hled, ?_⟩
      rw [hid]
      exact List.cons_ne_nil _ _
    have hword : ∀ word : Text, word = "slot" ∨ word = "disk" →
        ugreenctl_disk_resolve out (word ++ decimal out.disks[i].slot) = ⟨0, some i, []⟩ := by
      intro word hword
      have hslot := slot_word_decimal hbay.pos hbay.le hword
      exact resolve_unique hdisks haliases (unique_of_slot_word hrun hi hbay hslot) hlocatable
    constructor
    · rw [hid]
      exact hword "disk" (.inr rfl)
    · exact hword "slot" (.inl rfl)

/-- The U.2 disk of a DXP2800 GT, by the word of a user. -/
theorem resolve_iff_gt : ∃ out,
    Runs gt_tree.env (ugreenctl_disk_scan_at "/s" "DXP2800 GT" none) () (.ok out) () ∧
      ugreenctl_disk_resolve out ("slot" ++ decimal 1) = ⟨0, some 0, []⟩ ∧
      Unique out ("slot" ++ decimal 1) 0 := by
  obtain ⟨out, hrun, houtcome⟩ := gt_tree_scan
  obtain ⟨hall, hscan⟩ := @resolve_iff Unit
  have hlength : out.disks.length = 3 := by
    simpa using congrArg List.length houtcome
  have hfirst : out.disks[0].outcome = (("u2" : Text), true, true, 1) := by
    have hget := congrArg (·[0]?) houtcome
    simpa [List.getElem?_map, List.getElem?_eq_getElem (show 0 < out.disks.length by omega)] using hget
  unfold Disk.outcome at hfirst
  simp only [Prod.mk.injEq] at hfirst
  obtain ⟨-, hmapped, hled, hslot⟩ := hfirst
  have hresolved := (hscan _ _ _ _ _ _ _ hrun 0 (by omega) hmapped hled).2
  rw [hslot] at hresolved
  obtain ⟨hdisks, haliases⟩ := scan_within hrun
  have hunique := ((hall out _ hdisks haliases).1 0).mp ⟨by rw [hresolved], by rw [hresolved]⟩
  exact ⟨out, hrun, hresolved, hunique.1⟩

end UgreenNas.DiskMap
