import UgreenNas.Disk.Firmware
import UgreenNas.Disk.Sysfs

/-! # The administrator's calibration (`disk/disk.c`)

    A root-owned file may name the bay of each port instead of the built-in
    layout: a line `model=M` with the exact model, then lines
    `slotN topology=pci-F-ata-P`.
-/

namespace UgreenNas.DiskMap

open Effect

/-- An error text, and the error number whose `strerror` ends it. -/
structure Fault where
  text : Text
  errno : Option Errno := none
  deriving DecidableEq

/-- `struct calibration`: the slot of each topology, in the order of the file. -/
structure Calibration where
  entries : List (Nat × Text) := []
  present : Bool := false
  deriving DecidableEq, Repr

/-- The highest bay of a model; 8 when there is no table of it. -/
def known_bay_limit (model : Text) : Nat :=
  match ugreenctl_disk_firmware_layout model "rev1" with
  | none => 8
  | some layout => layout.rules.foldl (fun limit rule =>
      match (if ("ata" : Text).isPrefixOf rule.slot then parse_number (rule.slot.drop 3) else none) with
      | some slot => if slot > limit then slot else limit
      | none => limit) 0

/-- The loop state of `read_calibration`. -/
structure CalibrationState where
  line_no : Nat := 0
  model_seen : Bool := false
  entries : List (Nat × Text) := []

/-- A line `slotN topology=T`, cut at its first blank. -/
def calibration_entry (model : Text) (text : Text) : Option (Nat × Text) :=
  match strchr text ' ' with
  | none => none
  | some (word, rest) =>
    let slot := selector_slot word
    match scan_literal "topology=" (trim rest) with
    | none => none
    | some topology =>
      if slot = 0 || slot > known_bay_limit model || !valid_topology topology ||
          topology.length ≥ 128 then
        none
      else
        some (slot, topology)

/-- One line; `none` is `goto invalid`. -/
def calibration_line (model : Text) (st : CalibrationState) (line : Text × Bool) :
    Option CalibrationState :=
  let st := { st with line_no := st.line_no + 1 }
  let content := c_string line.1
  if !('\n' ∈ content) && !line.2 then
    none
  else
    let text := trim content
    if text.isEmpty || text.head? = some '#' then
      some st
    else
      match scan_literal "model=" text with
      | some named =>
        if st.model_seen || named ≠ model then none else some { st with model_seen := true }
      | none =>
        if !st.model_seen || st.entries.length ≥ 8 then
          none
        else
          match calibration_entry model text with
          | none => none
          | some (slot, topology) =>
            if st.entries.any fun entry => entry.1 = slot || entry.2 = topology then
              none
            else
              some { st with entries := st.entries ++ [(slot, topology)] }

/-- All lines: the last state, and whether every line was valid. -/
def calibration_lines (model : Text) (st : CalibrationState) :
    List (Text × Bool) → CalibrationState × Bool
  | [] => (st, true)
  | line :: rest =>
    match calibration_line model st line with
    | none => ({ st with line_no := st.line_no + 1 }, false)
    | some st' => calibration_lines model st' rest

/-- What `read_calibration` makes of the contents of a file. -/
def parse_calibration (model : Text) (file : File) : Except Fault Calibration :=
  let (st, valid) := calibration_lines model {} (fgets_lines 512 file.error [] file.bytes)
  if !valid || file.error || !st.model_seen || st.entries.isEmpty then
    .error ⟨"Invalid or conflicting disk calibration at line " ++ decimal st.line_no ++
      " (model must match exact DMI)", none⟩
  else
    .ok ⟨st.entries, true⟩

def read_calibration (path : Text) (is_optional : Bool) (model : Text) :
    Sysfs (Except Fault Calibration) := do
  match ← open_file path with
  | .error errno =>
    if is_optional && errno = Errno.ENOENT then
      return .ok {}
    else
      return .error ⟨"Cannot open disk calibration '" ++ path ++ "': ", some errno⟩
  | .ok file =>
    if !file.is_regular || file.uid ≠ 0 || file.others_write then
      return .error ⟨"Disk calibration must be a root-owned regular file without group/other write permission", none⟩
    else
      match file.stream with
      | none => return .error ⟨"Cannot read disk calibration", none⟩
      | some stream => return parse_calibration model stream

/-! ## Accepted calibrations -/

theorem selector_slot_le (selector : Text) : selector_slot selector ≤ 8 := by
  unfold selector_slot
  split
  · split
    · split <;> omega
    · omega
  · omega

/-- What every line of a calibration has passed. -/
theorem calibration_entry_some {model text : Text} {entry : Nat × Text}
    (h : calibration_entry model text = some entry) :
    0 < entry.1 ∧ entry.1 ≤ 8 ∧ valid_topology entry.2 = true := by
  unfold calibration_entry at h
  split at h
  · cases h
  · next word rest _ =>
    have hle := selector_slot_le word
    dsimp only at h
    split at h
    · cases h
    · next topology _ =>
      split at h
      · cases h
      · next hvalid =>
        cases h
        simp only [Bool.or_eq_true, decide_eq_true_eq, not_or, Bool.not_eq_true',
          Bool.not_eq_false] at hvalid
        obtain ⟨⟨⟨hslot, -⟩, htopology⟩, -⟩ := hvalid
        exact ⟨by omega, hle, htopology⟩

/-- Every entry passed the checks of its line. -/
def ValidEntries (entries : List (Nat × Text)) : Prop :=
  ∀ entry ∈ entries, 0 < entry.1 ∧ entry.1 ≤ 8 ∧ valid_topology entry.2 = true

theorem calibration_line_valid {model : Text} {st st' : CalibrationState} {line : Text × Bool}
    (h : calibration_line model st line = some st') (hvalid : ValidEntries st.entries) :
    ValidEntries st'.entries := by
  unfold calibration_line at h
  dsimp only at h
  split at h
  · cases h
  split at h
  · cases h
    exact hvalid
  split at h
  · split at h
    · cases h
    · cases h
      exact hvalid
  split at h
  · cases h
  split at h
  · cases h
  · next slot topology hentry =>
    split at h
    · cases h
    · cases h
      intro entry hmem
      rcases List.mem_append.mp hmem with hold | hnew
      · exact hvalid entry hold
      · rw [List.mem_singleton.mp hnew]
        exact calibration_entry_some hentry

theorem calibration_lines_valid {model : Text} (lines : List (Text × Bool))
    {st : CalibrationState} (hvalid : ValidEntries st.entries) :
    ValidEntries (calibration_lines model st lines).1.entries := by
  induction lines generalizing st with
  | nil => exact hvalid
  | cons line rest ih =>
    unfold calibration_lines
    split
    · exact hvalid
    · next hline => exact ih (calibration_line_valid hline hvalid)

theorem parse_calibration_valid {model : Text} {file : File} {calibration : Calibration}
    (h : parse_calibration model file = .ok calibration) : ValidEntries calibration.entries := by
  have hlines : ValidEntries
      (calibration_lines model {} (fgets_lines 512 file.error [] file.bytes)).1.entries :=
    calibration_lines_valid _ fun entry hmem => nomatch hmem
  unfold parse_calibration at h
  dsimp only at h
  split at h
  · cases h
  · cases h
    exact hlines

end UgreenNas.DiskMap
