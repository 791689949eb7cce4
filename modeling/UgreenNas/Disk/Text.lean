import Mathlib.Data.List.Infix
import Mathlib.Data.List.TakeWhile
import UgreenNas.Errno

/-! # C strings (`disk/disk.c`)

    The scanner reads names, paths and attributes as C strings and takes
    them apart with the functions of the C library.
-/

namespace UgreenNas.DiskMap

/-- The characters of a C string, one for each byte, without the final NUL. -/
abbrev Text : Type := List Char

instance : Coe String Text := ⟨String.toList⟩

def PATH_MAX : Nat := 4096
def UINT_MAX : Nat := 2 ^ 32 - 1

/-- `snprintf(buffer, size, ...)`: what fits in the buffer. -/
def snprintf (size : Nat) (text : Text) : Text := text.take (size - 1)

/-- Bytes up to the first NUL. -/
def c_string (bytes : Text) : Text := bytes.takeWhile (· ≠ '\x00')

/-- A text was read, and it is the expected one. -/
def reads (value : Option Text) (expected : Text) : Bool := value = some expected

/-! ## Characters in the C locale -/

def isspace (c : Char) : Bool := c = ' ' || (9 ≤ c.toNat && c.toNat ≤ 13)

def iscntrl (c : Char) : Bool := c.toNat < 0x20 || c.toNat = 0x7f

def isdigit (c : Char) : Bool := '0' ≤ c && c ≤ '9'

def isxdigit (c : Char) : Bool := isdigit c || ('a' ≤ c && c ≤ 'f') || ('A' ≤ c && c ≤ 'F')

/-- The value of a hexadecimal digit. -/
def digit_value (c : Char) : Nat :=
  if isdigit c then c.toNat - '0'.toNat
  else if 'a' ≤ c then c.toNat - 'a'.toNat + 10
  else c.toNat - 'A'.toNat + 10

/-! ## Numbers -/

def is_digit_of (base : Nat) (c : Char) : Bool := isxdigit c && digit_value c < base

/-- A hexadecimal number may start with `0x`. -/
def skip_0x (base : Nat) (text : Text) : Text :=
  match text with
  | '0' :: x :: c :: rest =>
    if base = 16 && (x = 'x' || x = 'X') && isxdigit c then c :: rest else text
  | _ => text

/-- `strtoul`: the value, whether it was out of range, and the text behind
    the number; all of the text where there is no number. -/
def strtoul (text : Text) (base : Nat) : Nat × Bool × Text :=
  let body := text.dropWhile isspace
  let negative := body.head? = some '-'
  let unsigned := if negative || body.head? = some '+' then body.tail else body
  let number := skip_0x base unsigned
  let digits := number.takeWhile (is_digit_of base)
  let rest := number.dropWhile (is_digit_of base)
  if digits.isEmpty then
    (0, false, text)
  else
    let value := digits.foldl (fun n c => n * base + digit_value c) 0
    if value ≥ 2 ^ 64 then
      (2 ^ 64 - 1, true, rest)
    else
      (if negative then u64 (-value) else value, false, rest)

/-- The conversions `%u` and `%x` of `sscanf`. -/
def scan_unsigned (text : Text) (base : Nat) : Option (Nat × Text) :=
  let (value, _, rest) := strtoul text base
  if rest.length = text.length then none else some (u32 value, rest)

/-- A literal part of a format of `sscanf`. -/
def scan_literal (literal text : Text) : Option Text :=
  if literal.isPrefixOf text then some (text.drop literal.length) else none

/-- `printf("%u", n)`. -/
def decimal (n : Nat) : Text := Nat.toDigits 10 n

def parse_number (value : Text) : Option Nat :=
  match value with
  | [] => none
  | c :: _ =>
    if !isdigit c then
      none
    else
      let (n, out_of_range, rest) := strtoul value 10
      if out_of_range || !rest.isEmpty || n > UINT_MAX then none else some n

/-! ## Parts of a text -/

/-- `strstr`: the text before the first occurrence, and the text from it on. -/
def strstr (text needle : Text) : Option (Text × Text) :=
  match text with
  | [] => if needle = [] then some ([], []) else none
  | c :: rest =>
    if needle.isPrefixOf text then
      some ([], text)
    else
      (strstr rest needle).map fun (before, found) => (c :: before, found)

/-- `strchr`: the text before the first `c`, and the text behind it. -/
def strchr (text : Text) (c : Char) : Option (Text × Text) :=
  if c ∈ text then some (text.takeWhile (· ≠ c), (text.dropWhile (· ≠ c)).tail) else none

/-- `strrchr`: the text before the last `c`, and the text behind it. -/
def strrchr (text : Text) (c : Char) : Option (Text × Text) :=
  (strchr text.reverse c).map fun (behind, before) => (before.reverse, behind.reverse)

/-- The parts that `strtok_r` finds. -/
def strtok (text : Text) (c : Char) : List Text := (text.splitOn c).filter (· ≠ [])

def trim (text : Text) : Text :=
  ((text.dropWhile isspace).reverse.dropWhile isspace).reverse

/-! ## Lines -/

/-- The lines `fgets` delivers into a buffer of `size` bytes, each with what
    `feof` says behind it.  A read error ends the file before its last,
    unfinished line. -/
def fgets_lines (size : Nat) (error : Bool) (line : Text) : Text → List (Text × Bool)
  | [] => if line.isEmpty || error then [] else [(line.reverse, true)]
  | c :: rest =>
    if c = '\n' || line.length + 2 = size then
      ((c :: line).reverse, false) :: fgets_lines size error [] rest
    else
      fgets_lines size error (c :: line) rest

/-! ## Shapes -/

def printable_identity (text : Text) : Bool :=
  !text.isEmpty && text.all fun c => 0x20 ≤ c.toNat && c.toNat ≤ 0x7e

/-- A PCI function, `dddd:bb:dd.f`. -/
def is_pci : Text → Bool
  | [d₁, d₂, d₃, d₄, ':', b₁, b₂, ':', s₁, s₂, '.', f] =>
    [d₁, d₂, d₃, d₄, b₁, b₂, s₁, s₂, f].all isxdigit && '0' ≤ f && f ≤ '7'
  | _ => false

def valid_topology (value : Text) : Bool :=
  22 ≤ value.length && ("pci-" : Text).isPrefixOf value &&
    ("-ata-" : Text).isPrefixOf (value.drop 16) && is_pci ((value.drop 4).take 12) &&
    match parse_number (value.drop 21) with
    | some port => 1 ≤ port && port ≤ 1024
    | none => false

def disk_name (name : Text) : Bool :=
  match name with
  | 's' :: 'd' :: rest => !rest.isEmpty && rest.all fun c => 'a' ≤ c && c ≤ 'z'
  | _ => false

/-- `sscanf(name, "nvme%un%u%n", &controller, &ns, &used)`: both numbers and
    the text behind them. -/
def scan_nvme (name : Text) : Option (Nat × Nat × Text) := do
  let rest ← scan_literal "nvme" name
  let (controller, rest) ← scan_unsigned rest 10
  let rest ← scan_literal "n" rest
  let (ns, rest) ← scan_unsigned rest 10
  return (controller, ns, rest)

def nvme_name (name : Text) : Bool :=
  match scan_nvme name with
  | some (_, ns, rest) => rest.isEmpty && ns > 0
  | none => false

/-- The number of a `slotN` or `diskN` selector, 0 for every other text. -/
def selector_slot (selector : Text) : Nat :=
  if ("slot" : Text).isPrefixOf selector || ("disk" : Text).isPrefixOf selector then
    match parse_number (selector.drop 4) with
    | some number => if number > 8 then 0 else number
    | none => 0
  else
    0

/-! ## Numbers that parse -/

/-- The number that a text of decimal digits denotes. -/
def number (digits : Text) : Nat := Nat.ofDigitChars 10 digits 0

theorem number_decimal (n : Nat) : number (decimal n) = n := Nat.ofDigitChars_ten_toDigits

theorem is_digit_of_ten (c : Char) : is_digit_of 10 c = isdigit c := by
  unfold is_digit_of isxdigit digit_value
  cases hdigit : isdigit c with
  | true =>
    unfold isdigit at hdigit
    simp only [Bool.and_eq_true, decide_eq_true_eq, Char.le_def, UInt32.le_iff_toNat_le] at hdigit
    have hnine : c.toNat ≤ 57 := hdigit.2
    have hlt : c.toNat - '0'.toNat < 10 := by
      show c.toNat - 48 < 10
      omega
    simpa using hlt
  | false =>
    rw [if_neg (by decide)]
    split <;> simp

theorem fold_digit_value {digits : Text} (hdigits : ∀ c ∈ digits, isdigit c = true) (init : Nat) :
    digits.foldl (fun n c => n * 10 + digit_value c) init = Nat.ofDigitChars 10 digits init := by
  induction digits generalizing init with
  | nil => rfl
  | cons c rest ih =>
    have hvalue : digit_value c = c.toNat - '0'.toNat := by
      unfold digit_value
      rw [if_pos (hdigits c List.mem_cons_self)]
    rw [List.foldl_cons, Nat.ofDigitChars_cons, hvalue, Nat.mul_comm init 10]
    exact ih (fun d hd => hdigits d (List.mem_cons_of_mem c hd)) _

theorem skip_0x_ten (text : Text) : skip_0x 10 text = text := by
  unfold skip_0x
  split
  · rfl
  · rfl

/-- From a digit on `strtoul` reads up to the first character that is none. -/
theorem strtoul_of_digit {c : Char} (hc : isdigit c = true) (rest : Text) :
    strtoul (c :: rest) 10 =
      if number ((c :: rest).takeWhile isdigit) ≥ 2 ^ 64 then
        (2 ^ 64 - 1, true, (c :: rest).dropWhile isdigit)
      else
        (number ((c :: rest).takeWhile isdigit), false, (c :: rest).dropWhile isdigit) := by
  have hdigit := hc
  unfold isdigit at hdigit
  simp only [Bool.and_eq_true, decide_eq_true_eq, Char.le_def, UInt32.le_iff_toNat_le] at hdigit
  have hlow : 48 ≤ c.toNat := hdigit.1
  have hne : ∀ d : Char, d.toNat < 48 → c ≠ d := by
    intro d hd heq
    rw [heq] at hlow
    omega
  have hspace : isspace c = false := by
    unfold isspace
    rw [decide_eq_false (hne ' ' (by decide)), decide_eq_false (show ¬ c.toNat ≤ 13 by omega)]
    simp
  have hbody : (c :: rest).dropWhile isspace = c :: rest :=
    List.dropWhile_cons_of_neg (by rw [hspace]; decide)
  have hfun : is_digit_of 10 = isdigit := funext is_digit_of_ten
  have hempty : ((c :: rest).takeWhile isdigit).isEmpty = false := by
    rw [List.takeWhile_cons_of_pos hc]
    rfl
  have hvalue : ((c :: rest).takeWhile isdigit).foldl (fun n c => n * 10 + digit_value c) 0 =
      number ((c :: rest).takeWhile isdigit) :=
    fold_digit_value (fun d hd => List.mem_takeWhile_imp hd) 0
  unfold strtoul
  simp only [hbody, hfun, List.head?_cons, Option.some.injEq, hne '-' (by decide),
    hne '+' (by decide), decide_false, Bool.or_self, Bool.false_eq_true, if_false, skip_0x_ten,
    hempty, hvalue]

theorem parse_number_cons {c : Char} (hc : isdigit c = true) (rest : Text) :
    parse_number (c :: rest) =
      if (c :: rest).dropWhile isdigit = [] ∧
          number ((c :: rest).takeWhile isdigit) ≤ UINT_MAX then
        some (number ((c :: rest).takeWhile isdigit))
      else
        none := by
  have hsmall : UINT_MAX < 2 ^ 64 := by decide
  unfold parse_number
  dsimp only
  rw [hc, strtoul_of_digit hc]
  generalize number ((c :: rest).takeWhile isdigit) = value
  generalize (c :: rest).dropWhile isdigit = behind
  by_cases hlarge : value ≥ 2 ^ 64
  · have hright : ¬ (behind = [] ∧ value ≤ UINT_MAX) := fun h =>
      absurd (Nat.le_trans hlarge h.2) (Nat.not_le_of_lt hsmall)
    rw [if_pos hlarge, if_neg hright]
    rfl
  · rw [if_neg hlarge]
    by_cases hbehind : behind = []
    · by_cases hmax : value ≤ UINT_MAX
      · simp [hbehind, hmax]
      · simp [hbehind, hmax]
    · simp [hbehind]

/-- What `parse_number` accepts: decimal digits of an `unsigned int`. -/
theorem parse_number_iff {text : Text} {n : Nat} :
    parse_number text = some n ↔
      text ≠ [] ∧ (∀ c ∈ text, isdigit c = true) ∧ number text = n ∧ n ≤ UINT_MAX := by
  cases text with
  | nil => exact iff_of_false (fun h => nomatch h) (fun h => h.1 rfl)
  | cons c rest =>
    by_cases hc : isdigit c = true
    · rw [parse_number_cons hc]
      have hdrop : (c :: rest).dropWhile isdigit = [] ↔ ∀ d ∈ c :: rest, isdigit d = true :=
        List.dropWhile_eq_nil_iff
      by_cases hall : ∀ d ∈ c :: rest, isdigit d = true
      · rw [List.takeWhile_eq_self_iff.mpr hall]
        by_cases hmax : number (c :: rest) ≤ UINT_MAX
        · rw [if_pos ⟨hdrop.mpr hall, hmax⟩]
          constructor
          · intro h
            cases h
            exact ⟨List.cons_ne_nil _ _, hall, rfl, hmax⟩
          · intro h
            rw [h.2.2.1]
        · rw [if_neg fun h => hmax h.2]
          apply iff_of_false
          · intro h
            cases h
          · intro h
            omega
      · rw [if_neg fun h => hall (hdrop.mp h.1)]
        apply iff_of_false
        · intro h
          cases h
        · exact fun h => hall h.2.1
    · unfold parse_number
      dsimp only
      rw [Bool.not_eq_true] at hc
      rw [hc]
      apply iff_of_false
      · intro h
        cases h
      · intro h
        rw [h.2.1 c List.mem_cons_self] at hc
        cases hc

theorem isdigit_decimal {n : Nat} : ∀ c ∈ decimal n, isdigit c = true := by
  intro c hc
  have hdigit := Nat.isDigit_of_mem_toDigits (by decide) (by decide) hc
  simpa [isdigit, Char.isDigit, Char.le_def] using hdigit

/-- A digit is neither a blank nor NUL. -/
theorem digit_plain {c : Char} (h : isdigit c = true) : isspace c = false ∧ c ≠ '\x00' := by
  unfold isdigit at h
  simp only [Bool.and_eq_true, decide_eq_true_eq, Char.le_def, UInt32.le_iff_toNat_le] at h
  have hlow : 48 ≤ c.toNat := h.1
  constructor
  · unfold isspace
    rw [Bool.or_eq_false_iff, decide_eq_false_iff_not, Bool.and_eq_false_iff,
      decide_eq_false_iff_not, decide_eq_false_iff_not]
    constructor
    · intro hspace
      rw [hspace] at hlow
      exact absurd hlow (by decide)
    · right
      omega
  · intro hnul
    rw [hnul] at hlow
    exact absurd hlow (by decide)

/-- A number that was printed is parsed. -/
theorem parse_number_decimal {n : Nat} (h : n ≤ UINT_MAX) : parse_number (decimal n) = some n :=
  parse_number_iff.mpr ⟨Nat.toDigits_ne_nil, isdigit_decimal, number_decimal n, h⟩

/-! ## Parts of a text -/

theorem starts_with_iff {start text : Text} : start.isPrefixOf text = true ↔ start <+: text := by
  rw [ List.isPrefixOf_iff_prefix]

theorem starts_iff {start text : Text} :
    start.isPrefixOf text = true ↔ ∃ rest, text = start ++ rest := by
  rw [starts_with_iff]
  constructor
  · intro h
    obtain ⟨rest, hrest⟩ := h
    exact ⟨rest, hrest.symm⟩
  · intro h
    obtain ⟨rest, hrest⟩ := h
    exact ⟨rest, hrest.symm⟩

theorem starts_append (start rest : Text) : start.isPrefixOf (start ++ rest) = true :=
  starts_iff.mpr ⟨rest, rfl⟩

/-- `slotN` or `diskN` with `N` from 1 to 8. -/
structure SlotWord (selector : Text) (n : Nat) : Prop where
  word : ∃ digits : Text, (selector = "slot" ++ digits ∨ selector = "disk" ++ digits) ∧
    digits ≠ [] ∧ (∀ c ∈ digits, isdigit c = true) ∧ number digits = n
  pos : 1 ≤ n
  le : n ≤ 8

theorem selector_slot_iff {selector : Text} {n : Nat} :
    (selector_slot selector = n ∧ n ≠ 0) ↔ SlotWord selector n := by
  unfold selector_slot
  constructor
  · intro h
    obtain ⟨h, hne⟩ := h
    split at h
    · next hstart =>
      split at h
      · next value hparse =>
        obtain ⟨hnil, hdigits, hnumber, -⟩ := parse_number_iff.mp hparse
        split at h
        · omega
        · subst h
          refine ⟨⟨selector.drop 4, ?_, hnil, hdigits, hnumber⟩, by omega, by omega⟩
          rw [Bool.or_eq_true, starts_iff, starts_iff] at hstart
          rcases hstart with ⟨rest, rfl⟩ | ⟨rest, rfl⟩
          · exact .inl rfl
          · exact .inr rfl
      · omega
    · omega
  · intro h
    obtain ⟨⟨digits, hword, hnil, hdigits, hnumber⟩, hpos, hle⟩ := h
    have hmax : n ≤ UINT_MAX := Nat.le_trans hle (by decide)
    have hparse := parse_number_iff.mpr ⟨hnil, hdigits, hnumber, hmax⟩
    have hdrop : selector.drop 4 = digits := by
      rcases hword with rfl | rfl
      · rfl
      · rfl
    have hstart : (("slot" : Text).isPrefixOf selector || ("disk" : Text).isPrefixOf selector) = true := by
      rw [Bool.or_eq_true]
      rcases hword with rfl | rfl
      · exact .inl (starts_append _ _)
      · exact .inr (starts_append _ _)
    rw [if_pos hstart, hdrop, hparse]
    dsimp only
    rw [if_neg (by omega)]
    exact ⟨rfl, by omega⟩

theorem selector_slot_zero {selector : Text} :
    selector_slot selector = 0 ↔ ∀ n, ¬ SlotWord selector n := by
  constructor
  · intro h n hword
    obtain ⟨hslot, hne⟩ := selector_slot_iff.mpr hword
    omega
  · intro h
    by_contra hne
    exact h _ (selector_slot_iff.mp ⟨rfl, hne⟩)

theorem trim_newline (text : Text) : trim (text ++ ['\n']) = trim text := by
  unfold trim
  by_cases hblank : text.all isspace = true
  · have hdrop : text.dropWhile isspace = [] := by
      rw [List.dropWhile_eq_nil_iff]
      exact fun c hc => List.all_eq_true.mp hblank c hc
    rw [List.dropWhile_append, hdrop]
    rfl
  · have hne : (text.dropWhile isspace).isEmpty = false := by
      rw [List.isEmpty_eq_false_iff, ne_eq, List.dropWhile_eq_nil_iff]
      intro hall
      exact hblank (List.all_eq_true.mpr hall)
    rw [List.dropWhile_append, hne]
    simp [isspace]

theorem c_string_of_no_nul {text : Text} (h : '\x00' ∉ text) : c_string text = text := by
  unfold c_string
  rw [List.takeWhile_eq_self_iff]
  intro c hc
  simp only [ne_eq, decide_eq_true_eq]
  intro heq
  exact h (heq ▸ hc)

/-- The newline at the end of a line is blank. -/
theorem trim_c_string_newline (text : Text) :
    trim (c_string (text ++ ['\n'])) = trim (c_string text) := by
  by_cases hnul : '\x00' ∈ text
  · have hcut : c_string (text ++ ['\n']) = c_string text := by
      unfold c_string
      rw [List.takeWhile_append, if_neg]
      intro hlength
      have hall := List.takeWhile_eq_self_iff.mp
        ((List.takeWhile_prefix _).eq_of_length hlength) _ hnul
      simp at hall
    rw [hcut]
  · have hwhole : '\x00' ∉ text ++ ['\n'] := by simp [hnul]
    rw [c_string_of_no_nul hwhole, c_string_of_no_nul hnul, trim_newline]

/-! ## Lines -/

/-- A text of whole lines, the last one with its newline. -/
def WholeLines (text : Text) : Prop := ∀ c ∈ text.getLast?, c = '\n'

theorem whole_lines_nil : WholeLines [] := fun _ hc => nomatch hc

theorem WholeLines.tail {c : Char} {text : Text} (h : WholeLines (c :: text)) : WholeLines text := by
  cases text with
  | nil => exact whole_lines_nil
  | cons d rest =>
    unfold WholeLines at h ⊢
    rwa [List.getLast?_cons_cons] at h

/-- The lines of a file, the last one without a newline. -/
def file_lines (bytes : Text) : List Text := bytes.splitOn '\n'

/-- Splitting at newlines leaves none. -/
theorem newline_not_mem_file_lines {bytes : Text} : ∀ l ∈ file_lines bytes, '\n' ∉ l := by
  unfold file_lines
  induction bytes with
  | nil => simp [List.splitOn_nil]
  | cons c rest ih =>
    rw [List.splitOn_cons_eq_if_modifyHead]
    by_cases hc : (c == '\n') = true
    · rw [if_pos hc, List.forall_mem_cons]
      exact ⟨List.not_mem_nil, ih⟩
    · rw [if_neg hc]
      obtain ⟨first, others, hsplit⟩ := List.exists_cons_of_ne_nil (List.splitOn_ne_nil '\n' rest)
      rw [hsplit, List.forall_mem_cons] at ih
      rw [hsplit, List.modifyHead_cons, List.forall_mem_cons]
      refine ⟨?_, ih.2⟩
      rw [List.mem_cons, not_or]
      exact ⟨fun heq => hc (beq_iff_eq.mpr heq.symm), ih.1⟩

section lines

variable {size : Nat} {error : Bool}

/-- Behind whole lines a new line begins. -/
theorem fgets_lines_append {a : Text} (ha : WholeLines a) (b : Text) {line : Text}
    (hline : line = [] ∨ a ≠ []) :
    fgets_lines size error line (a ++ b) =
      fgets_lines size error line a ++ fgets_lines size error [] b := by
  induction a generalizing line with
  | nil =>
    rcases hline with rfl | hne
    · simp [fgets_lines]
    · exact absurd rfl hne
  | cons c rest ih =>
    rw [List.cons_append, fgets_lines, fgets_lines]
    by_cases hend : (c = '\n' || line.length + 2 = size) = true
    · rw [if_pos hend, if_pos hend, ih ha.tail (.inl rfl)]
      rfl
    · rw [if_neg hend, if_neg hend]
      apply ih ha.tail
      right
      intro hnil
      subst hnil
      have hnewline : c = '\n' := ha c (by simp)
      simp [hnewline] at hend

/-- A line that fits in the buffer comes whole, any other one comes in parts. -/
theorem fgets_lines_line {text : Text} (htext : '\n' ∉ text) (line : Text) :
    fgets_lines size error line (text ++ ['\n']) =
      if line.length + text.length + 2 ≤ size ∨ size < line.length + 2 then
        [(line.reverse ++ text ++ ['\n'], false)]
      else
        (line.reverse ++ text.take (size - 1 - line.length), false) ::
          fgets_lines size error [] (text.drop (size - 1 - line.length) ++ ['\n']) := by
  induction text generalizing line with
  | nil =>
    simp [fgets_lines]
  | cons c rest ih =>
    have hc : c ≠ '\n' := fun heq => htext (by simp [heq])
    have hrest : '\n' ∉ rest := fun hmem => htext (List.mem_cons_of_mem c hmem)
    rw [List.cons_append, fgets_lines]
    by_cases hfull : line.length + 2 = size
    · rw [if_pos (by simp [hfull]), if_neg (by simp; omega)]
      have hone : size - 1 - line.length = 1 := by omega
      simp [hone]
    · rw [if_neg (by simp [hc, hfull]), ih hrest (c :: line)]
      by_cases hfits : line.length + (rest.length + 1) + 2 ≤ size ∨ size < line.length + 2
      · rw [if_pos (by simp; omega), if_pos (by simpa using hfits)]
        simp
      · rw [if_neg (by simp; omega), if_neg (by simpa using hfits)]
        obtain ⟨k, hk⟩ : ∃ k, size - 1 - line.length = k + 1 := ⟨size - 2 - line.length, by omega⟩
        have hk' : size - 1 - (c :: line).length = k := by
          rw [List.length_cons]
          omega
        rw [hk, hk']
        simp

/-- A last line without a newline. -/
theorem fgets_lines_last {text : Text} (htext : '\n' ∉ text) (line : Text) :
    fgets_lines size false line text =
      if line.length + text.length + 2 ≤ size ∨ size < line.length + 2 then
        if (line.reverse ++ text).isEmpty then [] else [(line.reverse ++ text, true)]
      else
        (line.reverse ++ text.take (size - 1 - line.length), false) ::
          fgets_lines size false [] (text.drop (size - 1 - line.length)) := by
  induction text generalizing line with
  | nil =>
    rw [if_pos (by simp; omega)]
    simp [fgets_lines]
  | cons c rest ih =>
    have hc : c ≠ '\n' := fun heq => htext (by simp [heq])
    have hrest : '\n' ∉ rest := fun hmem => htext (List.mem_cons_of_mem c hmem)
    rw [fgets_lines]
    by_cases hfull : line.length + 2 = size
    · rw [if_pos (by simp [hfull]), if_neg (by simp; omega)]
      have hone : size - 1 - line.length = 1 := by omega
      simp [hone]
    · rw [if_neg (by simp [hc, hfull]), ih hrest (c :: line)]
      by_cases hfits : line.length + (c :: rest).length + 2 ≤ size ∨ size < line.length + 2
      · have hfits' : (c :: line).length + rest.length + 2 ≤ size ∨
            size < (c :: line).length + 2 := by
          rw [List.length_cons] at hfits ⊢
          omega
        rw [if_pos hfits', if_pos hfits]
        simp
      · rw [List.length_cons] at hfits
        rw [if_neg (by simp; omega), if_neg (by rw [List.length_cons]; exact hfits)]
        obtain ⟨k, hk⟩ : ∃ k, size - 1 - line.length = k + 1 := ⟨size - 2 - line.length, by omega⟩
        have hk' : size - 1 - (c :: line).length = k := by
          rw [List.length_cons]
          omega
        rw [hk, hk']
        simp

end lines

end UgreenNas.DiskMap
