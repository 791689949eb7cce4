import Mathlib.Data.List.Pairwise
import UgreenNas.Disk.Calibration

/-! # What a calibration file says

    `read_calibration` works through a file line by line.  Here it is said
    which files it accepts: every line fits in the buffer, the first text
    is that of the model, and each of the others is an entry of its own.
-/

namespace UgreenNas.DiskMap

/-! ## Lines -/

/-- The text of what `fgets` delivers; none when the end of the line is missing. -/
def line_text (line : Text × Bool) : Option Text :=
  if !('\n' ∈ c_string line.1) && !line.2 then none else some (trim (c_string line.1))

/-- A text that is neither blank nor a comment. -/
def significant (text : Text) : Bool := !(text.isEmpty || text.head? = some '#')

/-- What a list of lines says. -/
def line_texts (lines : List (Text × Bool)) : List Text :=
  (lines.filterMap line_text).filter significant

/-- No line lacks its end. -/
def Complete (lines : List (Text × Bool)) : Prop := ∀ line ∈ lines, line_text line ≠ none

/-- No two entries name the same slot or the same topology. -/
def Distinct (entries : List (Nat × Text)) : Prop :=
  entries.Pairwise fun e e' => e.1 ≠ e'.1 ∧ e.2 ≠ e'.2

theorem distinct_snoc {entries : List (Nat × Text)} {entry : Nat × Text} :
    Distinct (entries ++ [entry]) ↔
      Distinct entries ∧ ∀ e ∈ entries, e.1 ≠ entry.1 ∧ e.2 ≠ entry.2 := by
  unfold Distinct
  rw [List.pairwise_append]
  simp

theorem Distinct.perm {entries entries' : List (Nat × Text)} (h : Distinct entries)
    (hperm : entries.Perm entries') : Distinct entries' :=
  hperm.pairwise h fun hne => ⟨hne.1.symm, hne.2.symm⟩

theorem Distinct.apart {entries : List (Nat × Text)} (h : Distinct entries) {e e' : Nat × Text}
    (he : e ∈ entries) (he' : e' ∈ entries) (hne : e ≠ e') : e.1 ≠ e'.1 ∧ e.2 ≠ e'.2 := by
  have hsymm : Std.Symm fun e e' : Nat × Text => e.1 ≠ e'.1 ∧ e.2 ≠ e'.2 :=
    ⟨fun _ _ h => ⟨h.1.symm, h.2.symm⟩⟩
  exact List.Pairwise.forall h he he' hne

theorem Complete.cons {line : Text × Bool} {rest : List (Text × Bool)} :
    Complete (line :: rest) ↔ line_text line ≠ none ∧ Complete rest := by
  unfold Complete
  rw [List.forall_mem_cons]

theorem line_texts_blank {line : Text × Bool} {text : Text} {rest : List (Text × Bool)}
    (h : line_text line = some text) (htext : significant text = false) :
    line_texts (line :: rest) = line_texts rest := by
  unfold line_texts
  rw [List.filterMap_cons_some h, List.filter_cons_of_neg (by simp [htext])]

theorem line_texts_cons {line : Text × Bool} {text : Text} {rest : List (Text × Bool)}
    (h : line_text line = some text) (htext : significant text = true) :
    line_texts (line :: rest) = text :: line_texts rest := by
  unfold line_texts
  rw [List.filterMap_cons_some h, List.filter_cons_of_pos htext]

section lines

variable {model : Text} {st st' : CalibrationState} {line : Text × Bool} {text : Text}

/-- A line of the model is no entry. -/
theorem calibration_entry_model {named : Text} (h : scan_literal "model=" text = some named) :
    calibration_entry model text = none := by
  unfold scan_literal at h
  split at h
  · next hstart =>
    obtain ⟨rest, rfl⟩ := starts_iff.mp hstart
    have hslot : selector_slot (("model=" ++ rest : Text).takeWhile (· ≠ ' ')) = 0 := rfl
    unfold calibration_entry strchr
    split
    · rfl
    · next word behind hword =>
      split at hword
      · cases hword
        dsimp only
        rw [hslot]
        split <;> rfl
      · cases hword
  · cases h

theorem calibration_line_incomplete (h : line_text line = none) :
    calibration_line model st line = none := by
  unfold line_text at h
  unfold calibration_line
  split at h
  · next hend => exact if_pos hend
  · cases h

theorem calibration_line_blank (h : line_text line = some text) (htext : significant text = false) :
    calibration_line model st line = some { st with line_no := st.line_no + 1 } := by
  unfold line_text at h
  unfold calibration_line
  split at h
  · cases h
  · next hend =>
    cases h
    have hblank : ((trim (c_string line.1)).isEmpty ||
        (trim (c_string line.1)).head? = some '#') = true := by
      unfold significant at htext
      rwa [Bool.not_eq_false'] at htext
    rw [if_neg hend, if_pos hblank]

/-- A line that says something, once the model has been seen. -/
theorem calibration_line_entry (hseen : st.model_seen = true) (h : line_text line = some text)
    (htext : significant text = true) :
    calibration_line model st line = some st' ↔
      ∃ entry, calibration_entry model text = some entry ∧ st.entries.length < 8 ∧
        (∀ e ∈ st.entries, e.1 ≠ entry.1 ∧ e.2 ≠ entry.2) ∧
        st' = ⟨st.line_no + 1, true, st.entries ++ [entry]⟩ := by
  unfold line_text at h
  unfold calibration_line
  split at h
  · cases h
  · next hend =>
    cases h
    have htold : ((trim (c_string line.1)).isEmpty ||
        (trim (c_string line.1)).head? = some '#') = false := by
      unfold significant at htext
      rwa [Bool.not_eq_true'] at htext
    rw [if_neg hend, if_neg (by rw [htold]; decide)]
    generalize trim (c_string line.1) = text
    dsimp only
    rw [hseen]
    cases hmodel : scan_literal "model=" text with
    | some named =>
      rw [calibration_entry_model hmodel]
      simp
    | none =>
      cases hentry : calibration_entry model text with
      | none => simp
      | some entry =>
        obtain ⟨slot, topology⟩ := entry
        by_cases hfull : st.entries.length ≥ 8
        · have hnot : ¬ st.entries.length < 8 := by omega
          simp [hfull, hnot]
        · by_cases hany : (st.entries.any fun e => e.1 = slot || e.2 = topology) = true
          · obtain ⟨e, he, heq⟩ := List.any_eq_true.mp hany
            simp only [Bool.or_eq_true, decide_eq_true_eq] at heq
            simp only [hfull, hany]
            refine iff_of_false (fun h => nomatch h) ?_
            intro ⟨entry, hsame, _, hfree, _⟩
            cases hsame
            rcases heq with heq | heq
            · exact (hfree e he).1 heq
            · exact (hfree e he).2 heq
          · have hfree : ∀ e ∈ st.entries, e.1 ≠ slot ∧ e.2 ≠ topology := by
              intro e he
              simp only [List.any_eq_true, Bool.or_eq_true, decide_eq_true_eq, not_exists, not_and,
                not_or] at hany
              exact hany e he
            simp only [hfull, hany]
            constructor
            · intro h
              cases h
              exact ⟨_, rfl, by omega, hfree, rfl⟩
            · intro ⟨entry, hsame, _, _, heq⟩
              cases hsame
              rw [heq]
              rfl

/-- The first line that says something. -/
theorem calibration_line_first (hseen : st.model_seen = false) (h : line_text line = some text)
    (htext : significant text = true) :
    calibration_line model st line = some st' ↔
      text = "model=" ++ model ∧ st' = ⟨st.line_no + 1, true, st.entries⟩ := by
  unfold line_text at h
  unfold calibration_line
  split at h
  · cases h
  · next hend =>
    cases h
    have htold : ((trim (c_string line.1)).isEmpty ||
        (trim (c_string line.1)).head? = some '#') = false := by
      unfold significant at htext
      rwa [Bool.not_eq_true'] at htext
    rw [if_neg hend, if_neg (by rw [htold]; decide)]
    generalize trim (c_string line.1) = text
    dsimp only
    rw [hseen]
    unfold scan_literal
    split
    · next named hnamed =>
      split at hnamed
      · next hstart =>
        cases hnamed
        obtain ⟨named, rfl⟩ := starts_iff.mp hstart
        have hdrop : ("model=" ++ named : Text).drop ("model=" : Text).length = named := rfl
        rw [hdrop, List.append_cancel_left_eq]
        by_cases hnamed : named = model
        · simp [hnamed, eq_comm]
        · simp [hnamed]
      · cases hnamed
    · next hnone =>
      split at hnone
      · cases hnone
      · next hstart =>
        refine iff_of_false (fun h => nomatch h) ?_
        intro ⟨heq, _⟩
        rw [heq, starts_append] at hstart
        exact hstart rfl

/-- The lines behind the model: an entry each, all apart, eight at most. -/
theorem calibration_lines_entries {lines : List (Text × Bool)} {entries : List (Nat × Text)}
    {st : CalibrationState} (hseen : st.model_seen = true) (hdistinct : Distinct st.entries)
    (hle : st.entries.length ≤ 8) :
    (∃ n, calibration_lines model st lines = (⟨n, true, entries⟩, true)) ↔
      Complete lines ∧ ∃ new, (line_texts lines).map (calibration_entry model) = new.map some ∧
        entries = st.entries ++ new ∧ entries.length ≤ 8 ∧ Distinct entries := by
  induction lines generalizing st with
  | nil =>
    constructor
    · intro h
      obtain ⟨n, h⟩ := h
      cases h
      exact ⟨fun _ hmem => (List.not_mem_nil hmem).elim, [], rfl, (List.append_nil _).symm, hle,
        hdistinct⟩
    · intro h
      obtain ⟨_, new, hmap, heq, _⟩ := h
      have hnew : new = [] := by simpa [line_texts] using hmap
      obtain ⟨n, seen, es⟩ := st
      subst hnew heq hseen
      exact ⟨n, by rw [List.append_nil]; rfl⟩
  | cons line rest ih =>
    rw [Complete.cons]
    unfold calibration_lines
    cases hline : line_text line with
    | none =>
      rw [calibration_line_incomplete hline]
      simp
    | some text =>
      cases htext : significant text with
      | false =>
        rw [calibration_line_blank hline htext, line_texts_blank hline htext]
        simpa using @ih { st with line_no := st.line_no + 1 } hseen hdistinct hle
      | true =>
        rw [line_texts_cons hline htext, List.map_cons]
        cases hstep : calibration_line model st line with
        | none =>
          refine iff_of_false (by simp) ?_
          intro h
          obtain ⟨_, new, hmap, heq, hlength, hapart⟩ := h
          cases new with
          | nil => cases hmap
          | cons entry new =>
            rw [List.map_cons, List.cons.injEq] at hmap
            subst heq
            rw [List.length_append, List.length_cons] at hlength
            have hfree := (List.pairwise_append.mp hapart).2.2
            have hsome : calibration_line model st line =
                some ⟨st.line_no + 1, true, st.entries ++ [entry]⟩ :=
              (calibration_line_entry hseen hline htext).mpr ⟨entry, hmap.1, by omega,
                fun e he => hfree e he entry List.mem_cons_self, rfl⟩
            rw [hstep] at hsome
            cases hsome
        | some next =>
          obtain ⟨entry, hentry, hlt, hfree, rfl⟩ :=
            (calibration_line_entry hseen hline htext).mp hstep
          have hsnoc : Distinct (st.entries ++ [entry]) := distinct_snoc.mpr ⟨hdistinct, hfree⟩
          have hrest := @ih ⟨st.line_no + 1, true, st.entries ++ [entry]⟩ rfl hsnoc (by simp; omega)
          dsimp only at hrest ⊢
          rw [hrest]
          constructor
          · intro h
            obtain ⟨hcomplete, new, hmap, heq, hbounds⟩ := h
            refine ⟨⟨by simp, hcomplete⟩, entry :: new, ?_, by simpa using heq, hbounds⟩
            rw [List.map_cons, hentry]
            exact congrArg _ hmap
          · intro h
            obtain ⟨⟨_, hcomplete⟩, new, hmap, heq, hbounds⟩ := h
            cases new with
            | nil => cases hmap
            | cons entry' new =>
              rw [List.map_cons, List.cons.injEq, hentry, Option.some.injEq] at hmap
              obtain ⟨rfl, hmap⟩ := hmap
              exact ⟨hcomplete, new, hmap, by simpa using heq, hbounds⟩

/-- A file: the text of the model first, then the entries. -/
theorem calibration_lines_file {lines : List (Text × Bool)} {entries : List (Nat × Text)}
    (hseen : st.model_seen = false) (hnone : st.entries = []) :
    (∃ n, calibration_lines model st lines = (⟨n, true, entries⟩, true)) ↔
      Complete lines ∧ ∃ texts, line_texts lines = ("model=" ++ model) :: texts ∧
        texts.map (calibration_entry model) = entries.map some ∧ entries.length ≤ 8 ∧
        Distinct entries := by
  induction lines generalizing st with
  | nil =>
    constructor
    · intro h
      obtain ⟨n, h⟩ := h
      cases h
      cases hseen
    · intro h
      obtain ⟨_, texts, htexts, _⟩ := h
      cases htexts
  | cons line rest ih =>
    rw [Complete.cons]
    unfold calibration_lines
    cases hline : line_text line with
    | none =>
      rw [calibration_line_incomplete hline]
      simp
    | some text =>
      cases htext : significant text with
      | false =>
        rw [calibration_line_blank hline htext, line_texts_blank hline htext]
        simpa using @ih { st with line_no := st.line_no + 1 } hseen hnone
      | true =>
        rw [line_texts_cons hline htext]
        cases hstep : calibration_line model st line with
        | none =>
          refine iff_of_false (by simp) ?_
          intro h
          obtain ⟨_, texts, htexts, _⟩ := h
          rw [List.cons.injEq] at htexts
          rw [(calibration_line_first hseen hline htext).mpr ⟨htexts.1, rfl⟩] at hstep
          cases hstep
        | some next =>
          obtain ⟨rfl, rfl⟩ := (calibration_line_first hseen hline htext).mp hstep
          have hdistinct : Distinct st.entries := by
            rw [hnone]
            exact List.Pairwise.nil
          have hrest := @calibration_lines_entries model rest entries
            ⟨st.line_no + 1, true, st.entries⟩ rfl hdistinct (by simp [hnone])
          dsimp only at hrest ⊢
          rw [hrest, hnone]
          constructor
          · intro h
            obtain ⟨hcomplete, new, hmap, heq, hbounds⟩ := h
            rw [List.nil_append] at heq
            subst heq
            exact ⟨⟨by simp, hcomplete⟩, line_texts rest, rfl, hmap, hbounds⟩
          · intro h
            obtain ⟨⟨_, hcomplete⟩, texts, htexts, hmap, hbounds⟩ := h
            rw [List.cons.injEq] at htexts
            rw [← htexts.2] at hmap
            exact ⟨hcomplete, entries, hmap, rfl, hbounds⟩

end lines

/-! ## Files -/

/-- What a file says. -/
def file_texts (bytes : Text) : List Text :=
  ((file_lines bytes).map fun line => trim (c_string line)).filter significant

/-- The lines fit in the buffer, and no NUL hides the end of one. -/
structure Readable (lines : List Text) : Prop where
  fits : ∀ line ∈ lines, line.length ≤ 510
  no_nul : ∀ line ∈ lines.dropLast, '\x00' ∉ line

theorem newline_not_mem_c_string {text : Text} (h : '\n' ∉ text) : '\n' ∉ c_string text :=
  fun hmem => h ((List.takeWhile_sublist _).subset hmem)

theorem Complete.singleton {line : Text × Bool} : Complete [line] ↔ line_text line ≠ none := by
  simp [Complete]

/-- The first part of a line that does not fit. -/
theorem part_of_line {line : Text} (hline : '\n' ∉ line) (n : Nat) :
    line_text (line.take n, false) = none := by
  have hpart : '\n' ∉ c_string (line.take n) :=
    newline_not_mem_c_string fun hmem => hline (List.mem_of_mem_take hmem)
  unfold line_text
  rw [if_pos (by simpa using hpart)]

/-- A line with its newline. -/
theorem terminated_line {line : Text} (hline : '\n' ∉ line) :
    (Complete (fgets_lines 512 false [] (line ++ ['\n'])) ↔
      line.length ≤ 510 ∧ '\x00' ∉ line) ∧
    (Complete (fgets_lines 512 false [] (line ++ ['\n'])) →
      line_texts (fgets_lines 512 false [] (line ++ ['\n'])) =
        [trim (c_string line)].filter significant) := by
  rw [fgets_lines_line hline]
  by_cases hfits : line.length ≤ 510
  · rw [if_pos (by simp; omega), Complete.singleton]
    simp only [List.reverse_nil, List.nil_append]
    by_cases hnul : '\x00' ∈ line
    · have hmissing : '\n' ∉ c_string (line ++ ['\n']) := by
        have hcut : c_string (line ++ ['\n']) = c_string line := by
          unfold c_string
          rw [List.takeWhile_append, if_neg]
          intro hlength
          have hall := List.takeWhile_eq_self_iff.mp
            (List.IsPrefix.eq_of_length (List.takeWhile_prefix _) hlength)
          simpa using hall _ hnul
        rw [hcut]
        exact newline_not_mem_c_string hline
      have hnone : line_text (line ++ ['\n'], false) = none := by
        unfold line_text
        rw [if_pos (by simp [hmissing])]
      simp [hnone, hnul]
    · have hwhole : c_string (line ++ ['\n']) = line ++ ['\n'] :=
        c_string_of_no_nul (by simp [hnul])
      have hsome : line_text (line ++ ['\n'], false) = some (trim (c_string line)) := by
        unfold line_text
        rw [hwhole, if_neg (by simp), trim_newline, c_string_of_no_nul hnul]
      refine ⟨iff_of_true (by simp [hsome]) ⟨hfits, hnul⟩, fun _ => ?_⟩
      simp [line_texts, hsome]
  · rw [if_neg (by simp; omega), Complete.cons]
    simp [part_of_line hline, hfits]

/-- The line behind the last newline. -/
theorem last_line {line : Text} (hline : '\n' ∉ line) :
    (Complete (fgets_lines 512 false [] line) ↔ line.length ≤ 510) ∧
    (Complete (fgets_lines 512 false [] line) →
      line_texts (fgets_lines 512 false [] line) = [trim (c_string line)].filter significant) := by
  rw [fgets_lines_last hline]
  by_cases hfits : line.length ≤ 510
  · rw [if_pos (by simp; omega)]
    cases line with
    | nil => simp [Complete, line_texts, c_string, trim, significant]
    | cons c rest =>
      have hsome : line_text (c :: rest, true) = some (trim (c_string (c :: rest))) := by
        simp [line_text]
      rw [if_neg (by simp)]
      simp only [List.reverse_nil, List.nil_append]
      rw [Complete.singleton, hsome]
      refine ⟨iff_of_true (by simp) hfits, fun _ => ?_⟩
      simp [line_texts, hsome]
  · rw [if_neg (by simp; omega), Complete.cons]
    simp [part_of_line hline, hfits]

theorem Complete.append {a b : List (Text × Bool)} : Complete (a ++ b) ↔ Complete a ∧ Complete b := by
  unfold Complete
  rw [List.forall_mem_append]

theorem line_texts_append (a b : List (Text × Bool)) :
    line_texts (a ++ b) = line_texts a ++ line_texts b := by
  unfold line_texts
  rw [List.filterMap_append, List.filter_append]

/-- Lines joined by newlines come back as they were, when they are readable. -/
theorem fgets_lines_join {lines : List Text} (hne : lines ≠ []) (hlines : ∀ l ∈ lines, '\n' ∉ l) :
    (Complete (fgets_lines 512 false [] (['\n'].intercalate lines)) ↔ Readable lines) ∧
    (Readable lines → line_texts (fgets_lines 512 false [] (['\n'].intercalate lines)) =
      (lines.map fun line => trim (c_string line)).filter significant) := by
  induction lines with
  | nil => exact absurd rfl hne
  | cons line rest ih =>
    rw [List.forall_mem_cons] at hlines
    cases rest with
    | nil =>
      obtain ⟨hcomplete, htexts⟩ := last_line hlines.1
      have hreadable : Readable [line] ↔ line.length ≤ 510 := by
        constructor
        · exact fun h => h.fits line (by simp)
        · exact fun h => ⟨by simpa using h, by simp⟩
      rw [List.intercalate_singleton, hreadable]
      exact ⟨hcomplete, fun h => htexts (hcomplete.mpr h)⟩
    | cons next rest =>
      obtain ⟨hcomplete, htexts⟩ := terminated_line hlines.1
      obtain ⟨hcomplete', htexts'⟩ := ih (by simp) hlines.2
      have hjoin : ['\n'].intercalate (line :: next :: rest) =
          (line ++ ['\n']) ++ ['\n'].intercalate (next :: rest) := by
        rw [List.intercalate_cons_cons]
      have hreadable : Readable (line :: next :: rest) ↔
          (line.length ≤ 510 ∧ '\x00' ∉ line) ∧ Readable (next :: rest) := by
        constructor
        · intro ⟨hfits, hnul⟩
          rw [List.forall_mem_cons] at hfits
          rw [List.dropLast_cons_cons, List.forall_mem_cons] at hnul
          exact ⟨⟨hfits.1, hnul.1⟩, hfits.2, hnul.2⟩
        · intro ⟨⟨hfits, hnul⟩, hrest⟩
          constructor
          · rw [List.forall_mem_cons]
            exact ⟨hfits, hrest.fits⟩
          · rw [List.dropLast_cons_cons, List.forall_mem_cons]
            exact ⟨hnul, hrest.no_nul⟩
      have hwhole : WholeLines (line ++ ['\n']) := by
        unfold WholeLines
        simp
      rw [hjoin, fgets_lines_append hwhole _ (.inl rfl), Complete.append, line_texts_append, hreadable,
        hcomplete, hcomplete']
      refine ⟨Iff.rfl, fun h => ?_⟩
      rw [htexts (hcomplete.mpr h.1), htexts' h.2, ← List.filter_append]
      rfl

/-- What the scanner accepts, and what it makes of it. -/
theorem parse_calibration_iff {model : Text} {file : File} {calibration : Calibration} :
    parse_calibration model file = .ok calibration ↔
      file.error = false ∧ Readable (file_lines file.bytes) ∧ calibration.present = true ∧
      ∃ texts, file_texts file.bytes = ("model=" ++ model) :: texts ∧
        texts.map (calibration_entry model) = calibration.entries.map some ∧
        calibration.entries ≠ [] ∧ calibration.entries.length ≤ 8 ∧
        Distinct calibration.entries := by
  obtain ⟨hcomplete, htexts⟩ := fgets_lines_join (List.splitOn_ne_nil '\n' file.bytes)
    newline_not_mem_file_lines
  rw [List.intercalate_splitOn] at hcomplete htexts
  have hfile := fun entries => @calibration_lines_file model {} (fgets_lines 512 false [] file.bytes)
    entries rfl rfl
  unfold parse_calibration
  cases herror : file.error with
  | true => simp
  | false =>
    cases hlines : calibration_lines model {} (fgets_lines 512 false [] file.bytes) with
    | mk st valid =>
      obtain ⟨n, seen, entries⟩ := st
      rw [hlines] at hfile
      obtain ⟨entries', present⟩ := calibration
      dsimp only
      by_cases haccept : valid = true ∧ seen = true ∧ entries ≠ []
      · obtain ⟨rfl, rfl, hne⟩ := haccept
        obtain ⟨hwhole, texts, htold, hmap, hle, hdistinct⟩ := (hfile entries).mp ⟨n, rfl⟩
        have hreadable := hcomplete.mp hwhole
        rw [htexts hreadable] at htold
        simp only [Bool.not_true, Bool.or_false, Bool.false_or, List.isEmpty_iff, hne,
          if_false]
        constructor
        · intro h
          cases h
          exact ⟨trivial, hreadable, rfl, texts, htold, hmap, hne, hle, hdistinct⟩
        · intro ⟨_, _, hpresent, texts', htold', hmap', _, _, _⟩
          rw [show file_texts file.bytes = _ from htold, List.cons.injEq] at htold'
          rw [← htold'.2, hmap, List.map_inj_right (fun _ _ h => Option.some.inj h)] at hmap'
          rw [hmap', hpresent]
      · have hreject : (!valid || false || !seen || entries.isEmpty) = true := by
          by_contra hnot
          apply haccept
          simpa [and_assoc] using hnot
        rw [if_pos hreject]
        refine iff_of_false (fun h => nomatch h) ?_
        intro ⟨_, hreadable, _, texts, htold, hmap, hne, hle, hdistinct⟩
        have htold' : line_texts (fgets_lines 512 false [] file.bytes) =
            ("model=" ++ model) :: texts := (htexts hreadable).trans htold
        obtain ⟨_, heq⟩ := (hfile entries').mpr
          ⟨hcomplete.mpr hreadable, texts, htold', hmap, hle, hdistinct⟩
        rw [Prod.mk.injEq, CalibrationState.mk.injEq] at heq
        obtain ⟨⟨_, hseen, hentries⟩, hvalid⟩ := heq
        exact haccept ⟨hvalid, hseen, by rw [hentries]; exact hne⟩

end UgreenNas.DiskMap
