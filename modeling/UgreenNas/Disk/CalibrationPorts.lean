import UgreenNas.Disk.CalibrationFile
import UgreenNas.Disk.Device

/-! # Ports that a calibration names

    A topology denotes a port by numbers, and its text may write them in
    more than one way.  Entries are kept apart by their texts; they are apart
    as ports when every text is the one that `read_one` makes of its port.
-/

namespace UgreenNas.DiskMap

/-! ## Decimal numbers -/

theorem digit_bounds {c : Char} (h : isdigit c = true) : 48 ≤ c.toNat ∧ c.toNat ≤ 57 := by
  unfold isdigit at h
  simp only [Bool.and_eq_true, decide_eq_true_eq, Char.le_def, UInt32.le_iff_toNat_le] at h
  exact h

theorem digitChar_of_digit {c : Char} (h : isdigit c = true) :
    Nat.digitChar (c.toNat - '0'.toNat) = c := by
  have hall : ∀ n < 10, Nat.digitChar n = Char.ofNat (n + 48) := by decide
  obtain ⟨hlow, hhigh⟩ := digit_bounds h
  show Nat.digitChar (c.toNat - 48) = c
  rw [hall _ (by omega), Nat.sub_add_cancel hlow, Char.ofNat_toNat]

/-- More digits behind a number. -/
theorem decimal_append {digits : Text} (hdigits : ∀ c ∈ digits, isdigit c = true) {n : Nat}
    (hn : 0 < n) : decimal n ++ digits = decimal (Nat.ofDigitChars 10 digits n) := by
  induction digits generalizing n with
  | nil => simp
  | cons c rest ih =>
    rw [List.forall_mem_cons] at hdigits
    have hlt : c.toNat - '0'.toNat < 10 := by
      have hbounds := digit_bounds hdigits.1
      show c.toNat - 48 < 10
      omega
    have hstep : decimal n ++ [c] = decimal (10 * n + (c.toNat - '0'.toNat)) := by
      unfold decimal
      rw [← Nat.toDigits_append_toDigits (by decide) hn hlt, Nat.toDigits_of_lt_base hlt,
        digitChar_of_digit hdigits.1]
    rw [Nat.ofDigitChars_cons, ← ih hdigits.2 (by omega), ← hstep]
    simp

/-- A decimal number without a leading zero is written the only way. -/
theorem decimal_number {digits : Text} (hdigits : ∀ c ∈ digits, isdigit c = true)
    (hne : digits ≠ []) (hzero : digits.head? ≠ some '0') : decimal (number digits) = digits := by
  obtain ⟨c, rest, rfl⟩ := List.exists_cons_of_ne_nil hne
  rw [List.forall_mem_cons] at hdigits
  have hc : c ≠ '0' := by simpa using hzero
  obtain ⟨hlow, hhigh⟩ := digit_bounds hdigits.1
  have hne48 : c.toNat ≠ 48 := fun heq => hc (Char.toNat_inj.mp heq)
  have hpos : 0 < c.toNat - '0'.toNat := by
    show 0 < c.toNat - 48
    omega
  have hlt : c.toNat - '0'.toNat < 10 := by
    show c.toNat - 48 < 10
    omega
  have hfirst : decimal (c.toNat - '0'.toNat) = [c] := by
    unfold decimal
    rw [Nat.toDigits_of_lt_base hlt, digitChar_of_digit hdigits.1]
  unfold number
  rw [Nat.ofDigitChars_cons, Nat.mul_zero, Nat.zero_add, ← decimal_append hdigits.2 hpos, hfirst]
  rfl

/-- A positive number is written without a leading zero. -/
theorem decimal_head {n : Nat} (hn : 0 < n) : (decimal n).head? ≠ some '0' := by
  induction n using Nat.strongRecOn with
  | ind n ih =>
    by_cases hlt : n < 10
    · have hall : ∀ m < 10, 0 < m → Nat.digitChar m ≠ '0' := by decide
      unfold decimal
      rw [Nat.toDigits_of_lt_base hlt]
      simpa using hall n hlt hn
    · have hpos : 0 < n / 10 := by omega
      have hsplit : decimal n = decimal (n / 10) ++ decimal (n % 10) := by
        unfold decimal
        rw [Nat.toDigits_append_toDigits (by decide) hpos (by omega), Nat.div_add_mod]
      have hne : decimal (n / 10) ≠ [] := Nat.toDigits_ne_nil
      rw [hsplit, List.head?_append_of_ne_nil _ hne]
      exact ih (n / 10) (by omega) hpos

/-! ## Hexadecimal numbers -/

/-- The number that hexadecimal digits denote. -/
def hex (digits : Text) : Nat := digits.foldl (fun n c => n * 16 + digit_value c) 0

/-- `"%0*x"` of a number that fits. -/
def hex_padded : Nat → Nat → Text
  | 0, _ => []
  | width + 1, n => hex_padded width (n / 16) ++ [Nat.digitChar (n % 16)]

def uppercase (c : Char) : Bool := 'A' ≤ c && c ≤ 'F'

theorem hex_digit {c : Char} (h : isxdigit c = true) (hcase : uppercase c = false) :
    digit_value c < 16 ∧ Nat.digitChar (digit_value c) = c := by
  have hall : ∀ n < 128, isxdigit (Char.ofNat n) = true → uppercase (Char.ofNat n) = false →
      digit_value (Char.ofNat n) < 16 ∧
        Nat.digitChar (digit_value (Char.ofNat n)) = Char.ofNat n := by
    decide +kernel
  have hlt : c.toNat < 128 := by
    unfold isxdigit isdigit at h
    simp only [Bool.or_eq_true, Bool.and_eq_true, decide_eq_true_eq, Char.le_def,
      UInt32.le_iff_toNat_le] at h
    rcases h with (h | h) | h
    · have hhigh : c.toNat ≤ 57 := h.2
      omega
    · have hhigh : c.toNat ≤ 102 := h.2
      omega
    · have hhigh : c.toNat ≤ 70 := h.2
      omega
  have hself := hall c.toNat hlt
  rw [Char.ofNat_toNat] at hself
  exact hself h hcase

theorem hex_padded_hex {digits : Text} (hdigits : ∀ c ∈ digits, isxdigit c = true)
    (hcase : ∀ c ∈ digits, uppercase c = false) : hex_padded digits.length (hex digits) = digits := by
  induction digits using List.reverseRecOn with
  | nil => rfl
  | append_singleton digits c ih =>
    obtain ⟨hlt, hchar⟩ := hex_digit (hdigits c (by simp)) (hcase c (by simp))
    have hvalue : hex (digits ++ [c]) = hex digits * 16 + digit_value c := by
      unfold hex
      rw [List.foldl_append]
      rfl
    have hrest := ih (fun d hd => hdigits d (by simp [hd])) (fun d hd => hcase d (by simp [hd]))
    rw [List.length_append, List.length_singleton, hex_padded, hvalue]
    rw [show (hex digits * 16 + digit_value c) / 16 = hex digits by omega,
      show (hex digits * 16 + digit_value c) % 16 = digit_value c by omega, hrest, hchar]

theorem length_hex_padded (width n : Nat) : (hex_padded width n).length = width := by
  induction width generalizing n with
  | zero => rfl
  | succ width ih => simp [hex_padded, ih]

theorem uppercase_hex_padded {width n : Nat} : ∀ c ∈ hex_padded width n, uppercase c = false := by
  induction width generalizing n with
  | zero => exact fun c hc => nomatch hc
  | succ width ih =>
    have hall : ∀ v < 16, uppercase (Nat.digitChar v) = false := by decide
    intro c hc
    rcases List.mem_append.mp hc with hc | hc
    · exact ih c hc
    · rw [List.mem_singleton.mp hc]
      exact hall _ (Nat.mod_lt _ (by decide))

/-! ## Ports -/

/-- A SATA port: the numbers of its PCI function, and its own. -/
structure Port where
  domain : Nat
  bus : Nat
  device : Nat
  function : Nat
  number : Nat
  deriving DecidableEq, Repr

/-- How the kernel names the PCI function, `"%04x:%02x:%02x.%x"`. -/
def Port.pci (port : Port) : Text :=
  hex_padded 4 port.domain ++ ":" ++ hex_padded 2 port.bus ++ ":" ++ hex_padded 2 port.device ++
    "." ++ hex_padded 1 port.function

/-- The topology that `read_one` makes of a disk on the port. -/
def Port.topology (port : Port) : Text := "pci-" ++ port.pci ++ "-ata-" ++ decimal port.number

/-- The port that the text of a topology denotes. -/
def denoted (topology : Text) : Port where
  domain := hex ((topology.drop 4).take 4)
  bus := hex ((topology.drop 9).take 2)
  device := hex ((topology.drop 12).take 2)
  function := hex ((topology.drop 15).take 1)
  number := number (topology.drop 21)

/-- No upper-case digit in the PCI function, no leading zero in the port. -/
structure Plain (topology : Text) : Prop where
  lower : ∀ c ∈ (topology.drop 4).take 12, uppercase c = false
  no_zero : (topology.drop 21).head? ≠ some '0'

/-- The text of a topology that `read_one` can make. -/
theorem with_port_topology {disk : Disk} {port : Port} (hpci : disk.pci = port.pci)
    (hrange : 1 ≤ port.number ∧ port.number ≤ 1024) {value : Option Text}
    (hvalue : value.bind parse_number = some port.number) :
    (with_port disk [] value).topology = port.topology := by
  unfold with_port
  rw [hvalue]
  dsimp only
  rw [if_pos (by simp; omega)]
  show "pci-" ++ disk.pci ++ "-ata-" ++ decimal port.number = _
  rw [hpci]
  rfl

/-- The parts of a valid topology. -/
theorem valid_topology_parts {topology : Text} (h : valid_topology topology = true) :
    ∃ pci digits : Text, topology = "pci-" ++ pci ++ "-ata-" ++ digits ∧ is_pci pci = true ∧
      digits ≠ [] ∧ (∀ c ∈ digits, isdigit c = true) ∧ 1 ≤ number digits ∧
      number digits ≤ 1024 := by
  unfold valid_topology at h
  simp only [Bool.and_eq_true, decide_eq_true_eq] at h
  obtain ⟨⟨⟨⟨hlength, hstart⟩, hmiddle⟩, hpci⟩, hport⟩ := h
  obtain ⟨rest, hrest⟩ := starts_iff.mp hstart
  obtain ⟨digits, hdigits⟩ := starts_iff.mp hmiddle
  have hdrop : topology.drop 4 = rest := by
    rw [hrest]
    rfl
  have hbehind : topology.drop 16 = rest.drop 12 := by
    rw [← hdrop, List.drop_drop]
  have htail : topology.drop 21 = digits := by
    have h5 : topology.drop 21 = (topology.drop 16).drop 5 := by rw [List.drop_drop]
    rw [h5, hdigits]
    rfl
  rw [htail] at hport
  split at hport
  · next port hparse =>
    obtain ⟨hne, hall, rfl, -⟩ := parse_number_iff.mp hparse
    simp only [Bool.and_eq_true, decide_eq_true_eq] at hport
    rw [hdrop] at hpci
    refine ⟨rest.take 12, digits, ?_, hpci, hne, hall, hport.1, hport.2⟩
    have hsplit : rest = rest.take 12 ++ ("-ata-" ++ digits) := by
      rw [← hdigits, hbehind, List.take_append_drop]
    rw [List.append_assoc, List.append_assoc, ← hsplit, hrest]
  · cases hport

/-- The text of a valid topology, and the port it denotes. -/
theorem valid_topology_denoted {pci digits : Text} (h : is_pci pci = true) :
    ∃ d b s f : Text, pci = d ++ ":" ++ b ++ ":" ++ s ++ "." ++ f ∧ d.length = 4 ∧ b.length = 2 ∧
      s.length = 2 ∧ f.length = 1 ∧ (∀ c ∈ d ++ b ++ s ++ f, isxdigit c = true) ∧
      denoted ("pci-" ++ pci ++ "-ata-" ++ digits) = ⟨hex d, hex b, hex s, hex f, number digits⟩ ∧
      (Plain ("pci-" ++ pci ++ "-ata-" ++ digits) ↔
        (∀ c ∈ d ++ b ++ s ++ f, uppercase c = false) ∧ digits.head? ≠ some '0') := by
  unfold is_pci at h
  split at h
  · next d₁ d₂ d₃ d₄ b₁ b₂ s₁ s₂ f =>
    simp only [Bool.and_eq_true] at h
    refine ⟨[d₁, d₂, d₃, d₄], [b₁, b₂], [s₁, s₂], [f], rfl, rfl, rfl, rfl, rfl, ?_, rfl, ?_⟩
    · exact List.all_eq_true.mp h.1.1
    · constructor
      · intro ⟨hlower, hzero⟩
        refine ⟨fun c hc => hlower c ?_, hzero⟩
        show c ∈ [d₁, d₂, d₃, d₄, ':', b₁, b₂, ':', s₁, s₂, '.', f]
        simp only [List.cons_append, List.nil_append, List.mem_cons, List.not_mem_nil, or_false] at hc ⊢
        tauto
      · intro ⟨hlower, hzero⟩
        refine ⟨fun c hc => ?_, hzero⟩
        have hc' : c ∈ [d₁, d₂, d₃, d₄, ':', b₁, b₂, ':', s₁, s₂, '.', f] := hc
        simp only [List.mem_cons, List.not_mem_nil, or_false] at hc'
        by_cases hcolon : c = ':'
        · rw [hcolon]
          decide
        by_cases hdot : c = '.'
        · rw [hdot]
          decide
        apply hlower
        simp only [List.cons_append, List.nil_append, List.mem_cons, List.not_mem_nil, or_false]
        tauto
  · cases h

theorem denoted_range {topology : Text} (h : valid_topology topology = true) :
    1 ≤ (denoted topology).number ∧ (denoted topology).number ≤ 1024 := by
  obtain ⟨pci, digits, rfl, hpci, -, -, hpos, hmax⟩ := valid_topology_parts h
  obtain ⟨_, _, _, _, -, -, -, -, -, -, hdenoted, -⟩ := @valid_topology_denoted pci digits hpci
  rw [hdenoted]
  exact ⟨hpos, hmax⟩

/-- A topology is plain when it is the canonical text of its port. -/
theorem plain_iff {topology : Text} (h : valid_topology topology = true) :
    Plain topology ↔ topology = (denoted topology).topology := by
  obtain ⟨pci, digits, rfl, hpci, hne, hdigits, hpos, -⟩ := valid_topology_parts h
  obtain ⟨d, b, s, f, rfl, hd, hb, hs, hf, hhex, hdenoted, hplain⟩ :=
    @valid_topology_denoted pci digits hpci
  rw [hplain, hdenoted]
  simp only [List.forall_mem_append] at hhex ⊢
  obtain ⟨⟨⟨hxd, hxb⟩, hxs⟩, hxf⟩ := hhex
  unfold Port.topology Port.pci
  dsimp only
  constructor
  · intro ⟨⟨⟨⟨hld, hlb⟩, hls⟩, hlf⟩, hzero⟩
    have hed := hex_padded_hex hxd hld
    have heb := hex_padded_hex hxb hlb
    have hes := hex_padded_hex hxs hls
    have hef := hex_padded_hex hxf hlf
    rw [hd] at hed
    rw [hb] at heb
    rw [hs] at hes
    rw [hf] at hef
    rw [hed, heb, hes, hef, decimal_number hdigits hne hzero]
  · intro heq
    simp only [List.append_assoc, List.append_cancel_left_eq] at heq
    obtain ⟨hed, heq⟩ := List.append_inj heq (by rw [hd, length_hex_padded])
    rw [List.append_cancel_left_eq] at heq
    obtain ⟨heb, heq⟩ := List.append_inj heq (by rw [hb, length_hex_padded])
    rw [List.append_cancel_left_eq] at heq
    obtain ⟨hes, heq⟩ := List.append_inj heq (by rw [hs, length_hex_padded])
    rw [List.append_cancel_left_eq] at heq
    obtain ⟨hef, heq⟩ := List.append_inj heq (by rw [hf, length_hex_padded])
    rw [List.append_cancel_left_eq] at heq
    rw [hed, heb, hes, hef, heq]
    exact ⟨⟨⟨⟨uppercase_hex_padded, uppercase_hex_padded⟩, uppercase_hex_padded⟩,
      uppercase_hex_padded⟩, decimal_head hpos⟩

/-! ## Entry lines -/

/-- A line that says something, and not the model. -/
def entry_line (line : Text) : Bool :=
  significant (trim (c_string line)) && !("model=" : Text).isPrefixOf (trim (c_string line))

/-- The topology that an entry line names. -/
def named_topology (line : Text) : Option Text :=
  (strchr (trim (c_string line)) ' ').bind fun (_, rest) => scan_literal "topology=" (trim rest)

/-- The same lines, up to the order of the entry lines. -/
structure Rearranged (lines lines' : List Text) : Prop where
  others : (lines'.map fun line => if entry_line line then none else some line) =
    lines.map fun line => if entry_line line then none else some line
  entries : (lines'.filter entry_line).Perm (lines.filter entry_line)

theorem Rearranged.subset {lines lines' : List Text} (h : Rearranged lines lines') {line : Text}
    (hline : line ∈ lines') : line ∈ lines := by
  by_cases hentry : entry_line line = true
  · have hmem : line ∈ lines'.filter entry_line := List.mem_filter.mpr ⟨hline, hentry⟩
    exact (List.mem_filter.mp (h.entries.mem_iff.mp hmem)).1
  · have hmem : some line ∈ lines.map fun line => if entry_line line then none else some line := by
      rw [← h.others]
      exact List.mem_map.mpr ⟨line, hline, if_neg hentry⟩
    obtain ⟨other, hother, heq⟩ := List.mem_map.mp hmem
    split at heq
    · cases heq
    · cases heq
      exact hother

/-- Where there was no entry line the line has stayed. -/
theorem Rearranged.at {lines lines' : List Text} (h : Rearranged lines lines') {i : Nat}
    (hi : i < lines.length) (hi' : i < lines'.length) :
    entry_line lines'[i] = entry_line lines[i] ∧
      (entry_line lines[i] = false → lines'[i] = lines[i]) := by
  have hat := congrArg (·[i]?) h.others
  simp only [List.getElem?_map, List.getElem?_eq_getElem hi, List.getElem?_eq_getElem hi',
    Option.map_some, Option.some.injEq] at hat
  cases hentry : entry_line lines[i] with
  | true =>
    cases hentry' : entry_line lines'[i] with
    | true => simp
    | false => simp [hentry, hentry'] at hat
  | false =>
    cases hentry' : entry_line lines'[i] with
    | true => simp [hentry, hentry'] at hat
    | false =>
      simp only [hentry, hentry', Bool.false_eq_true, if_false, Option.some.injEq] at hat
      simp [hat]

/-- Lines of which only entry lines say something. -/
theorem entry_lines_told {lines : List Text}
    (h : ∀ line ∈ lines, significant (trim (c_string line)) = true → entry_line line = true) :
    lines.filter (significant ∘ fun line => trim (c_string line)) = lines.filter entry_line := by
  apply List.filter_congr
  intro line hline
  have htold := h line hline
  cases hsig : significant (trim (c_string line)) with
  | true => simp [hsig, htold hsig]
  | false => simp [entry_line, hsig]

/-- What a line of an accepted file says, when it is an entry. -/
theorem entry_of_line {model line : Text} {entry : Nat × Text}
    (h : calibration_entry model (trim (c_string line)) = some entry) :
    named_topology line = some entry.2 ∧ entry.1 ≤ known_bay_limit model := by
  unfold calibration_entry at h
  unfold named_topology
  split at h
  · cases h
  · next word rest hsplit =>
    rw [hsplit]
    dsimp only at h
    split at h
    · cases h
    · next topology htopology =>
      split at h
      · cases h
      · next hvalid =>
        cases h
        simp only [Bool.or_eq_true, decide_eq_true_eq, not_or] at hvalid
        exact ⟨htopology, by omega⟩

/-- The lines of an accepted file: something to skip, the model, and lines
    that are entries or say nothing. -/
structure Layout (model : Text) (lines : List Text) (entries : List (Nat × Text))
    (before : List Text) (header : Text) (after : List Text) : Prop where
  lines : lines = before ++ header :: after
  skipped : ∀ line ∈ before, significant (trim (c_string line)) = false
  named : trim (c_string header) = "model=" ++ model
  behind : ∀ line ∈ after, significant (trim (c_string line)) = true → entry_line line = true
  entries : (after.filter entry_line).map (fun line => calibration_entry model (trim (c_string line))) =
    entries.map some

theorem layout_of_accepted {model : Text} {file : File} {calibration : Calibration}
    (h : parse_calibration model file = .ok calibration) :
    ∃ before header after,
      Layout model (file_lines file.bytes) calibration.entries before header after := by
  obtain ⟨-, -, -, texts, htexts, hmap, -⟩ := parse_calibration_iff.mp h
  unfold file_texts at htexts
  rw [List.filter_map, List.map_eq_cons_iff] at htexts
  obtain ⟨header, kept, hfilter, hheader, hkept⟩ := htexts
  rw [List.filter_eq_cons_iff] at hfilter
  obtain ⟨before, after, hlines, hskipped, hsig, hafter⟩ := hfilter
  have hentries : ∀ line ∈ after, significant (trim (c_string line)) = true →
      entry_line line = true := by
    intro line hline htold
    have hmem : trim (c_string line) ∈ texts := by
      rw [← hkept, ← hafter]
      exact List.mem_map.mpr ⟨line, List.mem_filter.mpr ⟨hline, htold⟩, rfl⟩
    have hsome : calibration_entry model (trim (c_string line)) ∈ calibration.entries.map some := by
      rw [← hmap]
      exact List.mem_map_of_mem hmem
    obtain ⟨entry, -, hentry⟩ := List.mem_map.mp hsome
    unfold entry_line
    rw [htold, Bool.true_and, Bool.not_eq_true']
    by_contra hmodel
    rw [Bool.not_eq_false] at hmodel
    have hscan : scan_literal "model=" (trim (c_string line)) = some _ := if_pos hmodel
    rw [calibration_entry_model hscan] at hentry
    cases hentry
  refine ⟨before, header, after, hlines, ?_, hheader, hentries, ?_⟩
  · intro line hline
    simpa using hskipped line hline
  · rw [← hmap, ← hkept, ← hafter, List.map_map]
    rw [entry_lines_told hentries]
    rfl

/-- The texts of a file of that layout. -/
theorem Layout.texts {model header : Text} {lines before after : List Text}
    {entries : List (Nat × Text)} (h : Layout model lines entries before header after) :
    (lines.map fun line => trim (c_string line)).filter significant =
      ("model=" ++ model) :: (after.filter entry_line).map fun line => trim (c_string line) := by
  have hsig : significant ("model=" ++ model) = true := by simp [significant]
  have hbefore : before.filter (significant ∘ fun line => trim (c_string line)) = [] := by
    rw [List.filter_eq_nil_iff]
    intro line hline
    simp [h.skipped line hline]
  rw [h.lines, List.filter_map, List.filter_append, hbefore, List.nil_append,
    List.filter_cons_of_pos (by rw [Function.comp_apply, h.named]; exact hsig), List.map_cons, h.named,
    entry_lines_told h.behind]

/-- A list in which every member is there is the list of its members. -/
theorem perm_map_some {α : Type} {l : List (Option α)} {entries : List α}
    (h : l.Perm (entries.map some)) : ∃ entries' : List α, l = entries'.map some ∧ entries'.Perm entries := by
  have hall : ∀ o ∈ l, ∃ a, o = some a := by
    intro o ho
    obtain ⟨a, -, ha⟩ := List.mem_map.mp (h.mem_iff.mp ho)
    exact ⟨a, ha.symm⟩
  refine ⟨l.filterMap id, ?_, ?_⟩
  · clear h
    induction l with
    | nil => rfl
    | cons o rest ih =>
      rw [List.forall_mem_cons] at hall
      obtain ⟨⟨a, rfl⟩, hrest⟩ := hall
      rw [show (some a :: rest).filterMap id = a :: rest.filterMap id from rfl, List.map_cons, ← ih hrest]
  · have hperm := h.filterMap id
    rwa [List.filterMap_map, Function.id_comp, List.filterMap_some] at hperm

theorem eq_of_others {lines lines' : List Text} (hnone : ∀ line ∈ lines, entry_line line = false)
    (h : (lines'.map fun line => if entry_line line then none else some line) =
      lines.map fun line => if entry_line line then none else some line) : lines' = lines := by
  induction lines generalizing lines' with
  | nil => exact List.map_eq_nil_iff.mp h
  | cons line rest ih =>
    rw [List.forall_mem_cons] at hnone
    rw [List.map_cons, List.map_eq_cons_iff] at h
    obtain ⟨line', rest', rfl, hline, hrest⟩ := h
    rw [hnone.1] at hline
    have heq : line' = line := by
      split at hline
      · cases hline
      · simpa using hline
    rw [heq, ih hnone.2 hrest]

/-- Lines whose entries come in another order keep the layout. -/
theorem Layout.rearranged {model header : Text} {lines lines' before after : List Text}
    {entries : List (Nat × Text)} (h : Layout model lines entries before header after)
    (hsome : Rearranged lines lines') :
    ∃ entries' after', Layout model lines' entries' before header after' ∧
      entries'.Perm entries ∧ Rearranged after after' := by
  have hskipped : ∀ line, significant (trim (c_string line)) = false → entry_line line = false := by
    intro line hline
    simp [entry_line, hline]
  have hheader : entry_line header = false := by
    unfold entry_line
    rw [h.named, starts_append]
    simp
  have hothers := hsome.others
  rw [h.lines, List.map_append, List.map_cons, List.map_eq_append_iff] at hothers
  obtain ⟨before', rest, rfl, hbefore, hrest⟩ := hothers
  rw [List.map_eq_cons_iff] at hrest
  obtain ⟨header', after', rfl, hheader', hafter⟩ := hrest
  have hsame : before' = before :=
    eq_of_others (fun line hline => hskipped line (h.skipped line hline)) hbefore
  have hsame' : header' = header := by
    have hone : [header'] = [header] := by
      apply eq_of_others
      · simpa using hheader
      · simp [hheader']
    simpa using hone
  subst hsame hsame'
  have hnone : before'.filter entry_line = [] := by
    rw [List.filter_eq_nil_iff]
    intro line hline
    simp [hskipped line (h.skipped line hline)]
  have hentries := hsome.entries
  rw [h.lines, List.filter_append, List.filter_append, hnone,
    List.filter_cons_of_neg (by simp [hheader]), List.filter_cons_of_neg (by simp [hheader])] at hentries
  have hmoved : Rearranged after after' := ⟨hafter, hentries⟩
  have hperm : ((after'.filter entry_line).map fun line =>
      calibration_entry model (trim (c_string line))).Perm (entries.map some) := by
    rw [← h.entries]
    exact hentries.map _
  obtain ⟨entries', hmap, hsorted⟩ := perm_map_some hperm
  refine ⟨entries', after', ⟨rfl, h.skipped, h.named, ?_, ?_⟩, ?_, hmoved⟩
  · intro line hline htold
    by_contra hnot
    rw [Bool.not_eq_true] at hnot
    have hmem : some line ∈ after'.map fun line => if entry_line line then none else some line :=
      List.mem_map.mpr ⟨line, hline, by simp [hnot]⟩
    rw [hafter] at hmem
    obtain ⟨other, hother, heq⟩ := List.mem_map.mp hmem
    split at heq
    · cases heq
    · next hfree =>
      cases heq
      exact hfree (h.behind line hother htold)
  · exact hmap
  · exact hsorted

/-! ## Accepted files -/

def join_lines (lines : List Text) : Text := ['\n'].intercalate lines

/-- What an accepted calibration is for: slots and ports one to one, however
    the entries are ordered, and each topology as a disk would have it. -/
structure PortMap (model bytes : Text) (entries : List (Nat × Text)) : Prop where
  slots : ∀ entry ∈ entries, 1 ≤ entry.1 ∧ entry.1 ≤ known_bay_limit model
  count : entries.length ≤ 8
  ports : ∀ e ∈ entries, ∀ e' ∈ entries, e.1 = e'.1 ↔ denoted e.2 = denoted e'.2
  canonical : ∀ entry ∈ entries, ∀ (disk : Disk) (value : Option Text),
    disk.pci = (denoted entry.2).pci → value.bind parse_number = some (denoted entry.2).number →
    (with_port disk [] value).topology = entry.2
  order : ∀ lines', Rearranged (file_lines bytes) lines' → ∃ calibration,
    parse_calibration model ⟨join_lines lines', false⟩ = .ok calibration ∧
      calibration.entries.Perm entries
  header : (file_texts bytes).head? = some ("model=" ++ model)

/-- Every entry line writes its topology plainly, and no NUL stands in one
    that ends the file without a newline, unless it is the only one. -/
structure PlainFile (bytes : Text) : Prop where
  topologies : ∀ line ∈ file_lines bytes, entry_line line = true →
    ∀ topology, named_topology line = some topology → Plain topology
  last : ∀ line ∈ (file_lines bytes).getLast?, entry_line line = true → '\x00' ∈ line →
    ((file_lines bytes).filter entry_line).length ≤ 1

theorem join_file_lines (bytes : Text) : join_lines (file_lines bytes) = bytes :=
  List.intercalate_splitOn '\n'

theorem file_lines_join {lines : List Text} (hlines : ∀ l ∈ lines, '\n' ∉ l) (hne : lines ≠ []) :
    file_lines (join_lines lines) = lines :=
  List.splitOn_intercalate '\n' hlines hne

section accepted

variable {model : Text} {file : File} {calibration : Calibration}

theorem valid_entry (h : parse_calibration model file = .ok calibration) {entry : Nat × Text}
    (hentry : entry ∈ calibration.entries) : valid_topology entry.2 = true :=
  (parse_calibration_valid h entry hentry).2.2

/-- Each entry is that of an entry line. -/
theorem line_of_entry (h : parse_calibration model file = .ok calibration) {entry : Nat × Text}
    (hentry : entry ∈ calibration.entries) :
    ∃ line ∈ file_lines file.bytes, entry_line line = true ∧
      named_topology line = some entry.2 ∧ entry.1 ≤ known_bay_limit model := by
  obtain ⟨before, header, after, hlayout⟩ := layout_of_accepted h
  have hmem : some entry ∈ (after.filter entry_line).map fun line =>
      calibration_entry model (trim (c_string line)) := by
    rw [hlayout.entries]
    exact List.mem_map_of_mem hentry
  obtain ⟨line, hline, heq⟩ := List.mem_map.mp hmem
  obtain ⟨hafter, htold⟩ := List.mem_filter.mp hline
  refine ⟨line, ?_, htold, entry_of_line heq⟩
  rw [hlayout.lines]
  simp [hafter]

/-- Each entry line has its entry. -/
theorem entry_of_accepted_line (h : parse_calibration model file = .ok calibration) {line : Text}
    (hline : line ∈ file_lines file.bytes) (hentry : entry_line line = true) :
    ∃ entry ∈ calibration.entries, named_topology line = some entry.2 := by
  obtain ⟨before, header, after, hlayout⟩ := layout_of_accepted h
  have hafter : line ∈ after := by
    rw [hlayout.lines, List.mem_append, List.mem_cons] at hline
    rcases hline with hline | rfl | hline
    · have hskipped := hlayout.skipped line hline
      simp [entry_line, hskipped] at hentry
    · unfold entry_line at hentry
      rw [hlayout.named, starts_append] at hentry
      simp at hentry
    · exact hline
  have hmem : calibration_entry model (trim (c_string line)) ∈ calibration.entries.map some := by
    rw [← hlayout.entries]
    exact List.mem_map.mpr ⟨line, List.mem_filter.mpr ⟨hafter, hentry⟩, rfl⟩
  obtain ⟨entry, hmem, heq⟩ := List.mem_map.mp hmem
  exact ⟨entry, hmem, (entry_of_line heq.symm).1⟩

/-- Every topology of an accepted plain file is the text of its port. -/
theorem topology_canonical (h : parse_calibration model file = .ok calibration)
    (hplain : PlainFile file.bytes) {entry : Nat × Text} (hentry : entry ∈ calibration.entries) :
    entry.2 = (denoted entry.2).topology := by
  obtain ⟨line, hline, htold, hnamed, -⟩ := line_of_entry h hentry
  exact (plain_iff (valid_entry h hentry)).mp (hplain.topologies line hline htold _ hnamed)

/-- The entries in another order: the file is accepted again. -/
theorem accepted_rearranged (h : parse_calibration model file = .ok calibration)
    (hlast : ∀ line ∈ (file_lines file.bytes).getLast?, entry_line line = true → '\x00' ∈ line →
      ((file_lines file.bytes).filter entry_line).length ≤ 1) {lines' : List Text}
    (hmoved : Rearranged (file_lines file.bytes) lines') :
    ∃ again, parse_calibration model ⟨join_lines lines', false⟩ = .ok again ∧
      again.entries.Perm calibration.entries := by
  obtain ⟨-, hreadable, -, texts, -, -, hne, hle, hdistinct⟩ := parse_calibration_iff.mp h
  obtain ⟨before, header, after, hlayout⟩ := layout_of_accepted h
  obtain ⟨entries', after', hlayout', hperm, -⟩ := hlayout.rearranged hmoved
  have hlength : lines'.length = (file_lines file.bytes).length := by
    simpa using congrArg List.length hmoved.others
  have hnewline : ∀ line ∈ lines', '\n' ∉ line := fun line hline =>
    newline_not_mem_file_lines line (hmoved.subset hline)
  have hnil : lines' ≠ [] := by
    rw [hlayout'.lines]
    simp
  refine ⟨⟨entries', true⟩, parse_calibration_iff.mpr ⟨rfl, ?_, rfl,
    (after'.filter entry_line).map (fun line => trim (c_string line)), ?_, ?_, ?_, ?_, ?_⟩, hperm⟩
  · dsimp only
    rw [file_lines_join hnewline hnil]
    constructor
    · exact fun line hline => hreadable.fits line (hmoved.subset hline)
    · intro line hline hnul
      obtain ⟨i, hi, rfl⟩ := List.getElem_of_mem hline
      rw [List.length_dropLast] at hi
      rw [List.getElem_dropLast] at hnul
      have hi' : i < (file_lines file.bytes).dropLast.length := by
        rw [List.length_dropLast]
        omega
      obtain ⟨hsame, hstay⟩ := hmoved.at (show i < (file_lines file.bytes).length by omega)
        (show i < lines'.length by omega)
      have hkept : (file_lines file.bytes)[i] ∈ (file_lines file.bytes).dropLast := by
        rw [← List.getElem_dropLast hi']
        exact List.getElem_mem hi'
      cases hentry : entry_line (file_lines file.bytes)[i] with
      | false =>
        rw [hstay hentry] at hnul
        exact hreadable.no_nul _ hkept hnul
      | true =>
        -- A NUL can only have come from the last line, which is the only entry.
        rw [hentry] at hsame
        have hmem : lines'[i] ∈ file_lines file.bytes := hmoved.subset (List.getElem_mem _)
        have hends : lines'[i] ∈ (file_lines file.bytes).getLast? := by
          by_contra hnot
          exact hreadable.no_nul _
            (List.mem_dropLast_of_mem_of_ne_getLast? hmem fun heq => hnot heq.symm) hnul
        have hone := hlast _ hends hsame hnul
        have hfirst := List.mem_filter.mpr ⟨List.dropLast_subset _ hkept, hentry⟩
        have hsecond := List.mem_filter.mpr ⟨hmem, hsame⟩
        obtain ⟨only, honly⟩ := List.length_eq_one_iff.mp
          (Nat.le_antisymm hone (List.length_pos_of_mem hfirst))
        rw [honly, List.mem_singleton] at hfirst hsecond
        rw [hsecond, ← hfirst] at hnul
        exact hreadable.no_nul _ hkept hnul
  · unfold file_texts
    dsimp only
    rw [file_lines_join hnewline hnil]
    exact hlayout'.texts
  · rw [List.map_map]
    exact hlayout'.entries
  · intro hnone
    have hnone' : entries' = [] := hnone
    rw [hnone'] at hperm
    exact hne hperm.symm.eq_nil
  · exact Nat.le_trans hperm.length_eq.le hle
  · exact hdistinct.perm hperm.symm

/-- Entries in both orders: the last line cannot hide a NUL. -/
theorem no_hidden_nul (horder : ∀ lines', Rearranged (file_lines file.bytes) lines' → ∃ again,
      parse_calibration model ⟨join_lines lines', false⟩ = .ok again ∧
        again.entries.Perm calibration.entries) :
    ∀ line ∈ (file_lines file.bytes).getLast?, entry_line line = true → '\x00' ∈ line →
      ((file_lines file.bytes).filter entry_line).length ≤ 1 := by
  intro line hline hentry hnul
  have hsplit := List.dropLast_append_getLast? line hline
  by_contra hmany
  have hother : ((file_lines file.bytes).dropLast.filter entry_line) ≠ [] := by
    intro hnone
    rw [← hsplit, List.filter_append, hnone, List.filter_cons_of_pos hentry] at hmany
    simp at hmany
  obtain ⟨first, hfirst⟩ := List.exists_mem_of_ne_nil _ hother
  obtain ⟨hmem, htold⟩ := List.mem_filter.mp hfirst
  obtain ⟨before, between, hbetween⟩ := List.append_of_mem hmem
  have hlines : file_lines file.bytes = before ++ first :: between ++ [line] := by
    rw [← hbetween, hsplit]
  have hmoved : Rearranged (file_lines file.bytes) (before ++ line :: between ++ [first]) := by
    constructor
    · rw [hlines]
      simp [hentry, htold]
    · rw [hlines]
      apply List.Perm.filter
      simp only [List.append_assoc, List.cons_append]
      apply List.Perm.append_left
      have hleft : (between ++ [first]).Perm (first :: between) := List.perm_append_singleton _ _
      have hright : (between ++ [line]).Perm (line :: between) := List.perm_append_singleton _ _
      exact ((hleft.cons line).trans (List.Perm.swap _ _ _)).trans (hright.cons first).symm
  obtain ⟨again, hagain, -⟩ := horder _ hmoved
  obtain ⟨-, hreadable', -⟩ := parse_calibration_iff.mp hagain
  have hnewline : ∀ l ∈ before ++ line :: between ++ [first], '\n' ∉ l := fun l hl =>
    newline_not_mem_file_lines l (hmoved.subset hl)
  have hjoined : file_lines (join_lines (before ++ line :: between ++ [first])) =
      before ++ line :: between ++ [first] := file_lines_join hnewline (by simp)
  rw [show file_lines (⟨join_lines _, false⟩ : File).bytes = _ from hjoined] at hreadable'
  apply hreadable'.no_nul line _ hnul
  rw [List.dropLast_concat]
  simp

/-- A calibration that is accepted means one port for each slot, whatever
    the order of its entries, exactly when its lines are plain. -/
theorem calibration_ports_iff (h : parse_calibration model file = .ok calibration) :
    PortMap model file.bytes calibration.entries ↔ PlainFile file.bytes := by
  obtain ⟨-, -, -, texts, htexts, -, -, hle, hdistinct⟩ := parse_calibration_iff.mp h
  constructor
  · intro hmap
    refine ⟨?_, no_hidden_nul hmap.order⟩
    intro line hline hentry topology htopology
    obtain ⟨entry, hmem, hnamed⟩ := entry_of_accepted_line h hline hentry
    rw [htopology, Option.some.injEq] at hnamed
    subst hnamed
    have hrange := denoted_range (valid_entry h hmem)
    have hparse := parse_number_decimal (Nat.le_trans hrange.2 (by decide))
    have hvalue : (some (decimal (denoted entry.2).number)).bind parse_number =
        some (denoted entry.2).number := hparse
    have hcanonical := hmap.canonical entry hmem { pci := (denoted entry.2).pci } _ rfl hvalue
    have hread := @with_port_topology { pci := (denoted entry.2).pci } _ rfl hrange _ hvalue
    rw [plain_iff (valid_entry h hmem), ← hread]
    exact hcanonical.symm
  · intro hplain
    constructor
    · intro entry hentry
      obtain ⟨line, -, -, -, hlimit⟩ := line_of_entry h hentry
      exact ⟨(parse_calibration_valid h entry hentry).1, hlimit⟩
    · exact hle
    · intro e he e' he'
      constructor
      · intro hslot
        by_contra hports
        have hne : e ≠ e' := fun heq => hports (by rw [heq])
        exact (hdistinct.apart he he' hne).1 hslot
      · intro hports
        have htopology : e.2 = e'.2 := by
          rw [topology_canonical h hplain he, topology_canonical h hplain he', hports]
        by_contra hslots
        have hne : e ≠ e' := fun heq => hslots (by rw [heq])
        exact (hdistinct.apart he he' hne).2 htopology
    · intro entry hentry disk value hpci hvalue
      rw [with_port_topology hpci (denoted_range (valid_entry h hentry)) hvalue]
      exact (topology_canonical h hplain hentry).symm
    · exact fun lines' hmoved => accepted_rearranged h hplain.last hmoved
    · rw [htexts]
      rfl

end accepted

/-! ## Two files -/

def two_slots : File where
  bytes := "model=DXP2800\nslot1 topology=pci-0000:00:1f.2-ata-1\nslot2 topology=pci-0000:00:1F.2-ata-1\n"
  error := false

/-- A port written once in small and once in capital letters gets two slots. -/
theorem port_in_two_slots :
    ∃ calibration, parse_calibration "DXP2800" two_slots = .ok calibration ∧
      ¬ PortMap "DXP2800" two_slots.bytes calibration.entries := by
  refine ⟨⟨[(1, "pci-0000:00:1f.2-ata-1"), (2, "pci-0000:00:1F.2-ata-1")], true⟩, by decide +kernel,
    fun hmap => ?_⟩
  have hslots := (hmap.ports (1, "pci-0000:00:1f.2-ata-1") (by simp)
    (2, "pci-0000:00:1F.2-ata-1") (by simp)).mpr (by decide +kernel)
  cases hslots

/-- Two bays, named the way the scan names them. -/
def two_bays : File where
  bytes := "# bays\nmodel=DXP2800\n\nslot2 topology=pci-0000:00:1f.2-ata-2\n slot1  topology=pci-0000:00:1f.2-ata-1"
  error := false

theorem calibration_ports_iff_two_bays :
    PortMap "DXP2800" two_bays.bytes [(2, "pci-0000:00:1f.2-ata-2"), (1, "pci-0000:00:1f.2-ata-1")] ↔
      PlainFile two_bays.bytes :=
  @calibration_ports_iff "DXP2800" two_bays
    ⟨[(2, "pci-0000:00:1f.2-ata-2"), (1, "pci-0000:00:1f.2-ata-1")], true⟩ (by decide +kernel)

end UgreenNas.DiskMap
