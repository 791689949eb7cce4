import UgreenNas.Fan.Config

/-! # Comments of the configuration file

    `fgets` hands a line of 255 bytes or more to the loop in pieces, and
    every piece is read as a line of its own.  A comment is passed over
    where each of its pieces is.
-/

namespace UgreenNas.Fan

open DiskMap

/-! ## Pieces of a line -/

/-- A comment line, without its newline. -/
structure Comment (line : Text) : Prop where
  newline : '\n' ∉ line
  mark : ∃ blank rest, (∀ c ∈ blank, isspace c = true) ∧
    (line = blank ++ '#' :: rest ∨ line = blank ++ ';' :: rest)

/-- The bytes of a line that fill the buffer the `i`-th time. -/
def piece (line : Text) (i : Nat) : Text :=
  (line.drop ((LINE_SIZE - 1) * i)).take (LINE_SIZE - 1)

/-- A piece that is passed over: blank, a comment, or an assignment to a key
    that is not known. -/
def Inert (piece : Text) : Prop :=
  let text := trim (c_string piece)
  text = [] ∨ text.head? = some '#' ∨ text.head? = some ';' ∨
    ∃ key value, strchr text '=' = some (key, value) ∧ ∀ s : Setting, s.key ≠ trim key

theorem mem_all (s : Setting) : s ∈ Setting.all := by
  cases s <;> decide

theorem named_eq_none {key : Text} : Setting.named key = none ↔ ∀ s : Setting, s.key ≠ key := by
  unfold Setting.named
  simp [List.find?_eq_none, mem_all]

theorem read_line_inert {line : Text} : read_line line = .ok none ↔ Inert line := by
  unfold read_line Inert
  dsimp only
  generalize trim (c_string line) = text
  by_cases hskip : (text.isEmpty || text.head? = some '#' || text.head? = some ';') = true
  · rw [if_pos hskip]
    simp only [Bool.or_eq_true, List.isEmpty_iff, decide_eq_true_eq] at hskip
    apply iff_of_true rfl
    rcases hskip with (h | h) | h
    · exact .inl h
    · exact .inr (.inl h)
    · exact .inr (.inr (.inl h))
  · rw [if_neg hskip]
    simp only [Bool.or_eq_true, List.isEmpty_iff, decide_eq_true_eq, not_or] at hskip
    obtain ⟨⟨hne, hhash⟩, hsemi⟩ := hskip
    simp only [hne, hhash, hsemi, false_or]
    cases hequals : strchr text '=' with
    | none => simp
    | some parts =>
      obtain ⟨key, value⟩ := parts
      have hiff : (∃ k v, some (key, value) = some (k, v) ∧ ∀ s : Setting, s.key ≠ trim k) ↔
          Setting.named (trim key) = none := by
        rw [named_eq_none]
        constructor
        · intro ⟨k, v, heq, hunknown⟩
          cases heq
          exact hunknown
        · exact fun hunknown => ⟨key, value, rfl, hunknown⟩
      rw [hiff]
      dsimp only
      cases Setting.named (trim key) with
      | none => simp
      | some s =>
        dsimp only
        generalize s.parse (trim value) = parsed
        cases parsed <;> simp [Except.map]

theorem read_line_newline (line : Text) : read_line (line ++ ['\n']) = read_line line := by
  unfold read_line
  rw [trim_c_string_newline]

/-- A line is read as its pieces are. -/
theorem pieces_inert {error : Bool} {line : Text} (hline : '\n' ∉ line) :
    (∀ l ∈ config_lines ⟨line ++ ['\n'], error⟩, read_line l = .ok none) ↔
      ∀ i, read_line (piece line i) = .ok none := by
  induction hn : line.length using Nat.strong_induction_on generalizing line with
  | _ n ih =>
    subst hn
    have hzero : piece line 0 = line.take (LINE_SIZE - 1) := by simp [piece]
    have hsucc : ∀ i, piece line (i + 1) = piece (line.drop (LINE_SIZE - 1)) i := by
      intro i
      unfold piece
      rw [List.drop_drop]
      congr 2
      rw [Nat.mul_succ]
      omega
    rw [← Nat.and_forall_add_one, hzero]
    simp only [hsucc]
    unfold config_lines at ih ⊢
    rw [fgets_lines_line hline]
    by_cases hfits : ([] : Text).length + line.length + 2 ≤ LINE_SIZE ∨
        LINE_SIZE < ([] : Text).length + 2
    · -- The whole line comes at once, and nothing is left for later pieces.
      have hlength : line.length ≤ LINE_SIZE - 1 := by
        unfold LINE_SIZE at hfits ⊢
        simp at hfits
        omega
      rw [if_pos hfits, List.take_of_length_le hlength, List.drop_eq_nil_of_le hlength]
      have hnil : ∀ i, read_line (piece [] i) = .ok none := by
        intro i
        simp [piece, read_line, c_string, trim]
      simp [read_line_newline, hnil]
    · rw [if_neg hfits]
      have hlt : (line.drop (LINE_SIZE - 1)).length < line.length := by
        rw [List.length_drop]
        unfold LINE_SIZE at hfits ⊢
        simp at hfits
        omega
      have hrest := ih _ hlt (fun hmem => hline (List.mem_of_mem_drop hmem)) rfl
      rw [← hrest]
      simp

/-! ## Files with a comment -/

section file

variable {error : Bool}

theorem config_lines_append {a : Text} (ha : WholeLines a) (b : Text) :
    config_lines ⟨a ++ b, error⟩ = config_lines ⟨a, error⟩ ++ config_lines ⟨b, error⟩ := by
  unfold config_lines
  rw [fgets_lines_append ha b (.inl rfl), List.map_append]

theorem whole_line (line : Text) : WholeLines (line ++ ['\n']) := by
  intro c hc
  simpa using hc.symm

/-- The assignments of a file stay the same when inert lines come between. -/
theorem load_file_inert {a line b : Text} (ha : WholeLines a)
    (hline : read_lines (config_lines ⟨line ++ ['\n'], error⟩) = .ok []) :
    load_file ⟨a ++ line ++ '\n' :: b, error⟩ = load_file ⟨a ++ b, error⟩ := by
  have hsplit : a ++ line ++ '\n' :: b = a ++ ((line ++ ['\n']) ++ b) := by simp
  rw [load_file_eq, load_file_eq, hsplit, config_lines_append ha,
    config_lines_append (whole_line line), config_lines_append ha, read_lines_append,
    read_lines_append, read_lines_append, hline]
  have hnone : (Except.ok [] : Except CurveError (List Assignment)).bind (fun assignments =>
      (read_lines (config_lines ⟨b, error⟩)).map fun others => assignments ++ others) =
        read_lines (config_lines ⟨b, error⟩) := by
    cases read_lines (config_lines ⟨b, error⟩) <;> rfl
  rw [hnone]

end file

/-! ## Whole lines -/

/-- Every line is shorter than the buffer. -/
def Fits (text : Text) : Prop := ∀ line ∈ file_lines text, line.length < LINE_SIZE

instance (text : Text) : Decidable (Fits text) :=
  inferInstanceAs (Decidable (∀ line ∈ file_lines text, line.length < LINE_SIZE))

/-- A file that is read line by line. -/
def load_lines (text : Text) : Except CurveError CurveConfig :=
  (read_lines (file_lines text)).bind fun assignments =>
    finish_config (settings.write assignments config_defaults)

theorem read_lines_cons (line : Text) (rest : List Text) :
    read_lines (line :: rest) = (read_lines [line]).bind fun assignments =>
      (read_lines rest).map fun others => assignments ++ others :=
  read_lines_append [line] rest

theorem read_lines_blank (line : Text) : read_lines [line, ['\n']] = read_lines [line] := by
  have hblank : read_line ['\n'] = .ok none := read_line_inert.mpr (.inl (by decide))
  simp only [read_lines, hblank]
  cases read_line line with
  | error e => rfl
  | ok assignment => simp [Bind.bind, Except.bind, Pure.pure, Except.pure]

theorem read_lines_newline (line : Text) : read_lines [line ++ ['\n']] = read_lines [line] := by
  simp only [read_lines, read_line_newline]

theorem read_short_line {error : Bool} {line : Text} (hline : '\n' ∉ line)
    (hfits : line.length < LINE_SIZE) :
    read_lines (config_lines ⟨line ++ ['\n'], error⟩) = read_lines [line] := by
  unfold config_lines LINE_SIZE at *
  rw [fgets_lines_line hline]
  by_cases hwhole : line.length + 2 ≤ 256
  · rw [if_pos (by simp; omega)]
    exact read_lines_newline line
  · -- The line fills the buffer, and its newline comes as a line of its own.
    have htake : line.take 255 = line := List.take_of_length_le (by omega)
    have hdrop : line.drop 255 = [] := List.drop_eq_nil_of_le (by omega)
    rw [if_neg (by simp; omega)]
    simp only [List.reverse_nil, List.length_nil, Nat.sub_zero, Nat.reduceSub, htake, hdrop,
      List.nil_append]
    exact read_lines_blank line

theorem read_short_end {line : Text} (hline : '\n' ∉ line) (hfits : line.length < LINE_SIZE) :
    read_lines (config_lines ⟨line, false⟩) = read_lines [line] := by
  unfold config_lines LINE_SIZE at *
  rw [fgets_lines_last hline]
  by_cases hwhole : line.length + 2 ≤ 256
  · rw [if_pos (by simp; omega)]
    cases line with
    | nil => rfl
    | cons c rest => simp
  · have htake : line.take 255 = line := List.take_of_length_le (by omega)
    have hdrop : line.drop 255 = [] := List.drop_eq_nil_of_le (by omega)
    rw [if_neg (by simp; omega)]
    simp [htake, hdrop, fgets_lines]

/-- Lines that fit are read as they are. -/
theorem read_fitting_lines {lines : List Text} (hne : lines ≠ []) (hlines : ∀ l ∈ lines, '\n' ∉ l)
    (hfits : ∀ l ∈ lines, l.length < LINE_SIZE) :
    read_lines (config_lines ⟨['\n'].intercalate lines, false⟩) = read_lines lines := by
  induction lines with
  | nil => exact absurd rfl hne
  | cons line rest ih =>
    rw [List.forall_mem_cons] at hlines hfits
    cases rest with
    | nil =>
      rw [List.intercalate_singleton]
      exact read_short_end hlines.1 hfits.1
    | cons next rest =>
      have hjoin : ['\n'].intercalate (line :: next :: rest) =
          (line ++ ['\n']) ++ ['\n'].intercalate (next :: rest) := by
        rw [List.intercalate_cons_cons]
      rw [hjoin, config_lines_append (whole_line line), read_lines_append,
        read_short_line hlines.1 hfits.1, ih (by simp) hlines.2 hfits.2,
        read_lines_cons line (next :: rest)]

theorem load_fitting_file {text : Text} (h : Fits text) :
    load_file ⟨text, false⟩ = load_lines text := by
  have hread := read_fitting_lines (List.splitOn_ne_nil '\n' text) newline_not_mem_file_lines h
  rw [List.intercalate_splitOn] at hread
  rw [load_file_eq, hread]
  rfl

/-! ## Settings are told apart -/

instance Setting.decEq (s : Setting) : DecidableEq s.Value :=
  match s with
  | .profile => inferInstanceAs (DecidableEq String)
  | .interval_seconds | .downshift_delay_seconds | .minimum_pwm | .failsafe_pwm =>
    inferInstanceAs (DecidableEq Nat)
  | .require_storage_sensor | .allow_unvalidated_writes | .hdd_curve_enabled
  | .ssd_curve_enabled => inferInstanceAs (DecidableEq Bool)
  | .cpu | .hdd | .ssd => inferInstanceAs (DecidableEq CurveThresholds)
  | .pwm => inferInstanceAs (DecidableEq CurvePwmPoints)

/-- Two texts that differ in one setting. -/
def Setting.samples : Setting → Text × Text
  | .profile => ("profile=stock-4600\n", "profile=stock-4800\n")
  | .interval_seconds => ("interval_seconds=2\n", "interval_seconds=3\n")
  | .downshift_delay_seconds => ("downshift_delay_seconds=0\n", "downshift_delay_seconds=1\n")
  | .minimum_pwm => ("minimum_pwm=40\n", "minimum_pwm=41\n")
  | .failsafe_pwm => ("failsafe_pwm=254\n", "failsafe_pwm=255\n")
  | .require_storage_sensor => ("require_storage_sensor=0\n", "require_storage_sensor=1\n")
  | .allow_unvalidated_writes => ("allow_unvalidated_writes=0\n", "allow_unvalidated_writes=1\n")
  | .hdd_curve_enabled => ("hdd_curve_enabled=0\n", "hdd_curve_enabled=1\n")
  | .ssd_curve_enabled => ("ssd_curve_enabled=0\n", "ssd_curve_enabled=1\n")
  | .cpu => ("cpu=1,2,3,4,5\n", "cpu=1,2,3,4,6\n")
  | .hdd => ("hdd=1,2,3,4,5\n", "hdd=1,2,3,4,6\n")
  | .ssd => ("ssd=1,2,3,4,5\n", "ssd=1,2,3,4,6\n")
  | .pwm => ("pwm=64,128,204,254\n", "pwm=64,128,204,255\n")

/-- Is the value of `s` in the configuration the one that a line gave it? -/
def shows (s : Setting) (config : CurveConfig) : Bool := !s.replaced || config.profile = "custom"

/-- The value of `s` that a file loads. -/
def shown (s : Setting) (file : File) : Option s.Value :=
  match load_file file with
  | .ok config => if shows s config then some (s.get config) else none
  | .error _ => none

theorem samples_shown : ∀ s ∈ Setting.all, ∀ error : Bool,
    WholeLines s.samples.1 ∧ WholeLines s.samples.2 ∧
      ∃ x ∈ shown s ⟨s.samples.1, error⟩, ∃ y ∈ shown s ⟨s.samples.2, error⟩, x ≠ y := by
  have hall : ∀ s ∈ Setting.all, ∀ error : Bool,
      s.samples.1.getLast? = some '\n' ∧ s.samples.2.getLast? = some '\n' ∧
        ∃ x ∈ shown s ⟨s.samples.1, error⟩, ∃ y ∈ shown s ⟨s.samples.2, error⟩, x ≠ y := by
    decide +kernel
  intro s hs error
  obtain ⟨hfirst, hsecond, hshown⟩ := hall s hs error
  have hwhole : ∀ text : Text, text.getLast? = some '\n' → WholeLines text := by
    intro text hlast c hc
    simpa [hlast, eq_comm] using hc
  exact ⟨hwhole _ hfirst, hwhole _ hsecond, hshown⟩

theorem shown_some {s : Setting} {file : File} {x : s.Value} (h : shown s file = some x) :
    ∃ config, load_file file = .ok config ∧ shows s config = true ∧ s.get config = x := by
  unfold shown at h
  split at h
  · next config hload =>
    split at h
    · next hshows =>
      cases h
      exact ⟨config, hload, hshows, rfl⟩
    · cases h
  · cases h

/-- The last step leaves such a value alone. -/
theorem finish_config_shows {s : Setting} {config out : CurveConfig}
    (h : finish_config config = .ok out) (hshows : shows s out = true) :
    s.get out = s.get config := by
  obtain ⟨-, -, hout⟩ := finish_config_ok h
  have hkept : ∀ {s : Setting}, s.replaced = false → s.get out = s.get config := by
    intro s hs
    rw [hout]
    split
    · cases s <;> rfl
    · exact apply_stock_profile_get hs config
  simp only [shows, Bool.or_eq_true, Bool.not_eq_true', decide_eq_true_eq] at hshows
  rcases hshows with hs | hcustom
  · exact hkept hs
  · have hprofile : out.profile = config.profile := @hkept .profile rfl
    rw [hprofile] at hcustom
    rw [hout, if_pos hcustom]
    cases s <;> rfl

/-! ## Comments -/

theorem Comment.read {line : Text} (h : Comment line) : Inert line := by
  obtain ⟨-, blank, rest, hblank, hline⟩ := h
  have hmark : ∀ c : Char, isspace c = false → c ≠ '\x00' →
      (trim (c_string (blank ++ c :: rest))).head? = some c := by
    intro c hc hnul
    have hcut : c_string (blank ++ c :: rest) = blank ++ c :: c_string rest := by
      unfold c_string
      rw [List.takeWhile_append_of_pos, List.takeWhile_cons_of_pos (by simpa using hnul)]
      intro d hd
      have hspace := hblank d hd
      simp only [ne_eq, decide_eq_true_eq]
      intro heq
      rw [heq] at hspace
      cases hspace
    have hdrop : (blank ++ c :: c_string rest).dropWhile isspace = c :: c_string rest := by
      rw [List.dropWhile_append_of_pos hblank, List.dropWhile_cons_of_neg (by simp [hc])]
    unfold trim
    rw [hcut, hdrop, List.reverse_cons, List.dropWhile_append]
    split <;> simp [hc]
  rcases hline with rfl | rfl
  · exact .inr (.inl (hmark '#' (by decide) (by decide)))
  · exact .inr (.inr (.inl (hmark ';' (by decide) (by decide))))

/-- Inserting the line changes neither success nor the configuration. -/
def Ignored (error : Bool) (line : Text) : Prop :=
  ∀ a b, WholeLines a → (load_config (.ok ⟨a ++ line ++ '\n' :: b, error⟩)).toOption =
    (load_config (.ok ⟨a ++ b, error⟩)).toOption

/-- The assignments of the last lines are made last. -/
theorem load_file_behind {error : Bool} {a b : Text} (ha : WholeLines a) {config : CurveConfig}
    (hload : load_file ⟨a ++ b, error⟩ = .ok config) {assignments : List Assignment}
    (hread : read_lines (config_lines ⟨b, error⟩) = .ok assignments) :
    ∃ before, finish_config (settings.write assignments before) = .ok config := by
  obtain ⟨all, hall, hfinish⟩ := load_file_ok hload
  rw [config_lines_append ha, read_lines_append, hread] at hall
  cases hfirst : read_lines (config_lines ⟨a, error⟩) with
  | error e =>
    rw [hfirst] at hall
    cases hall
  | ok first =>
    rw [hfirst] at hall
    cases hall
    rw [Fields.write_append] at hfinish
    exact ⟨_, hfinish⟩

section ignored

variable {error : Bool} {line : Text}

theorem Ignored.load_file (h : Ignored error line) {a : Text} (ha : WholeLines a)
    {config : CurveConfig} (hload : load_file ⟨a, error⟩ = .ok config) :
    load_file ⟨a ++ (line ++ ['\n']), error⟩ = .ok config := by
  have hsame := h a [] ha
  rw [load_config_ok, load_config_ok, List.append_nil, hload, List.append_assoc] at hsame
  cases hr : Fan.load_file ⟨a ++ (line ++ ['\n']), error⟩ with
  | error e =>
    rw [hr] at hsame
    cases hsame
  | ok config' =>
    rw [hr] at hsame
    cases hsame
    rfl

/-- Two files that differ in a setting do not differ in it any more behind a
    line that assigns it. -/
theorem Ignored.no_assignment (h : Ignored error line) {assignments : List Assignment}
    (hread : read_lines (config_lines ⟨line ++ ['\n'], error⟩) = .ok assignments) :
    assignments = [] := by
  cases assignments with
  | nil => rfl
  | cons w rest =>
    exfalso
    obtain ⟨hwhole, hwhole', x, hx, y, hy, hne⟩ := samples_shown w.1 (mem_all w.1) error
    have hbehind : ∀ (a : Text) (x : w.1.Value), WholeLines a → shown w.1 ⟨a, error⟩ = some x →
        ∃ before, w.1.get (settings.write (w :: rest) before) = x := by
      intro a x ha hx
      obtain ⟨config, hload, hshows, hget⟩ := shown_some hx
      obtain ⟨before, hfinish⟩ := load_file_behind ha (h.load_file ha hload) hread
      exact ⟨before, (finish_config_shows hfinish hshows).symm.trans hget⟩
    obtain ⟨before, hbefore⟩ := hbehind _ x hwhole hx
    obtain ⟨before', hbefore'⟩ := hbehind _ y hwhole' hy
    have hforgets := @Fields.get_write_forgets _ _ _ settings _ w.1 (w :: rest) (by simp) before
      before'
    exact hne (hbefore.symm.trans (hforgets.trans hbefore'))

theorem ignored_iff (hline : '\n' ∉ line) : Ignored error line ↔ ∀ i, Inert (piece line i) := by
  have hpieces := @pieces_inert error line hline
  rw [← read_lines_nil_iff] at hpieces
  simp only [← read_line_inert]
  rw [← hpieces]
  constructor
  · intro h
    cases hread : read_lines (config_lines ⟨line ++ ['\n'], error⟩) with
    | error e =>
      -- A bad piece makes even the empty file fail.
      obtain ⟨config, hconfig⟩ : ∃ config, Fan.load_file ⟨[], error⟩ = .ok config := by
        cases error <;> exact ⟨_, rfl⟩
      have hload := h.load_file whole_lines_nil hconfig
      rw [List.nil_append, load_file_eq, hread] at hload
      cases hload
    | ok assignments => rw [h.no_assignment hread]
  · intro h a b ha
    rw [load_config_ok, load_config_ok, load_file_inert ha h]

end ignored

/-- A comment that is no longer than the buffer is passed over. -/
theorem Comment.inert {line : Text} (h : Comment line) (hfits : line.length < LINE_SIZE) :
    ∀ i, Inert (piece line i) := by
  intro i
  cases i with
  | zero =>
    have hpiece : piece line 0 = line := by
      unfold LINE_SIZE at hfits
      simp [piece, LINE_SIZE, List.take_of_length_le (show line.length ≤ 255 by omega)]
    rw [hpiece]
    exact h.read
  | succ i =>
    have hpiece : piece line (i + 1) = [] := by
      unfold piece LINE_SIZE at *
      rw [List.drop_eq_nil_of_le, List.take_nil]
      rw [Nat.mul_succ]
      omega
    rw [hpiece]
    exact .inl rfl

/-- A comment is passed over where each of its pieces is, so always when it is
    no longer than the buffer.  A file whose lines all are is read line by
    line, and each setting has the value that was assigned last. -/
theorem comments_ignored_iff (comment : Text) (error : Bool) (hcomment : Comment comment) :
    (Ignored error comment ↔ ∀ i, Inert (piece comment i)) ∧
    (comment.length < LINE_SIZE → ∀ i, Inert (piece comment i)) ∧
    ∀ text : Text, Fits text → load_config (.ok ⟨text, false⟩) = load_lines text ∧
      ∀ assignments, read_lines (file_lines text) = .ok assignments → ∀ s : Setting,
        s.get (settings.write assignments config_defaults) =
          (Fields.last s assignments).getD (s.get config_defaults) := by
  refine ⟨ignored_iff hcomment.newline, hcomment.inert, ?_⟩
  intro text hfits
  refine ⟨load_fitting_file hfits, ?_⟩
  intro assignments _ s
  exact @Fields.get_write _ _ _ settings _ s assignments config_defaults

theorem comments_ignored_iff_short : Ignored false ("  # quiet at night" : Text) := by
  have hcomment : Comment ("  # quiet at night" : Text) :=
    ⟨by decide, "  ", " quiet at night", List.all_eq_true.mp (by decide), .inl rfl⟩
  obtain ⟨hiff, hshort, _⟩ := comments_ignored_iff _ false hcomment
  exact hiff.mpr (hshort (by decide))

/-- A comment whose 256th byte begins an assignment. -/
def long_comment : Text := "#" ++ List.replicate 254 'x' ++ "allow_unvalidated_writes=true"

theorem comment_acknowledges_writes :
    Comment long_comment ∧
      (load_config (.ok ⟨[], false⟩)).toOption.map CurveConfig.allow_unvalidated_writes =
        some false ∧
      (load_config (.ok ⟨long_comment ++ ['\n'], false⟩)).toOption.map
        CurveConfig.allow_unvalidated_writes = some true ∧
      ¬ Ignored false long_comment := by
  have hempty : (load_config (.ok ⟨[], false⟩)).toOption.map
      CurveConfig.allow_unvalidated_writes = some false := by
    decide +kernel
  have hcomment : (load_config (.ok ⟨long_comment ++ ['\n'], false⟩)).toOption.map
      CurveConfig.allow_unvalidated_writes = some true := by
    decide +kernel
  refine ⟨⟨by decide +kernel, [], long_comment.tail, by simp, .inl rfl⟩, hempty, hcomment, ?_⟩
  intro h
  have hsame := h [] [] whole_lines_nil
  rw [List.nil_append, List.nil_append] at hsame
  rw [hsame, hempty] at hcomment
  cases hcomment

end UgreenNas.Fan
