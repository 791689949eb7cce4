import UgreenNas.Json.Scan
import Mathlib.Tactic.NormNum

/-! # Printing JSON in ASCII

    Objects, strings and integers are printed without white space, and every
    character that is not printable ASCII is escaped.  What is printed is
    scanned again, whatever follows it.
-/

namespace JsonText

variable {ε ν : Type} {b : Builder ε ν}

/-! ## Strings -/

/-- Four hexadecimal digits in lower case. -/
def hex_code (n : Nat) : List Char :=
  ['\\', 'u', Nat.digitChar (n / 4096 % 16), Nat.digitChar (n / 256 % 16),
    Nat.digitChar (n / 16 % 16), Nat.digitChar (n % 16)]

/-- The surrogates of a code point beyond sixteen bits. -/
def high_surrogate (n : Nat) : Nat := 0xD800 + (n - 0x10000) / 0x400

def low_surrogate (n : Nat) : Nat := 0xDC00 + (n - 0x10000) % 0x400

/-- The letter that stands for a character behind a backslash. -/
def short_letter (c : Char) : Option Char :=
  if c = '"' then some '"'
  else if c = '\\' then some '\\'
  else if c = '\n' then some 'n'
  else if c = '\r' then some 'r'
  else if c = '\t' then some 't'
  else if c = '\x0c' then some 'f'
  else if c = '\x08' then some 'b'
  else none

/-- How a character is printed in a string. -/
def escape (c : Char) : List Char :=
  match short_letter c with
  | some letter => ['\\', letter]
  | none =>
    if 32 ≤ c.toNat ∧ c.toNat ≤ 126 then [c]
    else if c.toNat < 0x10000 then hex_code c.toNat
    else hex_code (high_surrogate c.toNat) ++ hex_code (low_surrogate c.toNat)

/-- The parts that are read where a character was printed. -/
def escape_parts (c : Char) : List Part :=
  match short_letter c with
  | some _ => [.char c]
  | none =>
    if 32 ≤ c.toNat ∧ c.toNat ≤ 126 then [.char c]
    else if c.toNat < 0x10000 then [.code c.toNat]
    else [.code (high_surrogate c.toNat), .code (low_surrogate c.toNat)]

/-- How many characters stand for one. -/
def escaped_size (c : Char) : Nat :=
  if (short_letter c).isSome then 2
  else if 32 ≤ c.toNat ∧ c.toNat ≤ 126 then 1
  else if c.toNat < 0x10000 then 6
  else 12

def quote (text : String) : List Char := '"' :: text.toList.flatMap escape ++ ['"']

theorem hex_value_digitChar : ∀ n < 16, hex_value (Nat.digitChar n) = some n := by decide

theorem hex_word_digits (n : Nat) (hn : n < 0x10000) :
    hex_word (Nat.digitChar (n / 4096 % 16)) (Nat.digitChar (n / 256 % 16))
      (Nat.digitChar (n / 16 % 16)) (Nat.digitChar (n % 16)) = some n := by
  have hdigit : ∀ m, hex_value (Nat.digitChar (m % 16)) = some (m % 16) := by
    intro m
    exact hex_value_digitChar _ (Nat.mod_lt _ (by decide))
  simp only [hex_word, hdigit, Option.bind_eq_bind, Option.bind_some, Option.pure_def,
    Option.some.injEq]
  omega

theorem scan_hex_code {n : Nat} (hn : n < 0x10000) (rest : List Char) :
    scan_string (hex_code n ++ rest) =
      (scan_string rest).map fun scanned => (.code n :: scanned.1, scanned.2) := by
  simp only [hex_code, List.cons_append, List.nil_append]
  rw [scan_string]
  simp only [hex_word_digits n hn]
  cases scan_string rest <;> rfl

theorem scan_short {letter c : Char} (hu : letter ≠ 'u') (hshort : short_escape letter = some c)
    (rest : List Char) :
    scan_string ('\\' :: letter :: rest) =
      (scan_string rest).map fun scanned => (.char c :: scanned.1, scanned.2) := by
  rw [scan_string]
  · simp only [hshort]
    cases scan_string rest <;> rfl
  · intro a b c d behind heq
    exact fun _ => hu heq

theorem scan_char {c : Char} (hprintable : 32 ≤ c.toNat) (hquote : c ≠ '"') (hback : c ≠ '\\')
    (rest : List Char) :
    scan_string (c :: rest) =
      (scan_string rest).map fun scanned => (.char c :: scanned.1, scanned.2) := by
  have hcond : ¬(c.toNat < 32 ∨ c = '\\') := by
    intro h
    by_cases hlow : c.toNat < 32
    · omega
    · exact hback (h.resolve_left hlow)
  rw [scan_string]
  · simp only [if_neg hcond]
    cases scan_string rest <;> rfl
  · exact fun heq => hquote heq
  · intro a b c d behind heq
    exact fun _ => absurd heq hback
  · intro letter behind heq
    exact fun _ => absurd heq hback

theorem high_surrogate_range (c : Char) :
    0xD800 ≤ high_surrogate c.toNat ∧ high_surrogate c.toNat < 0xDC00 := by
  have hc := c.valid
  unfold high_surrogate
  simp only [UInt32.isValidChar, Nat.isValidChar] at hc
  change c.toNat < _ ∨ _ < c.toNat ∧ c.toNat < _ at hc
  omega

theorem low_surrogate_range (n : Nat) : 0xDC00 ≤ low_surrogate n ∧ low_surrogate n < 0xE000 := by
  unfold low_surrogate
  omega

theorem short_escape_letter {c letter : Char} (h : short_letter c = some letter) :
    short_escape letter = some c ∧ letter ≠ 'u' ∧ letter.toNat < 128 := by
  unfold short_letter at h
  split_ifs at h with h₁ h₂ h₃ h₄ h₅ h₆ h₇
  all_goals
    rw [Option.some.injEq] at h
    subst h
    simp_all [short_escape]

theorem ne_of_short_letter {c : Char} (h : short_letter c = none) : c ≠ '"' ∧ c ≠ '\\' := by
  constructor
  · intro heq
    rw [heq] at h
    exact absurd h (by decide)
  · intro heq
    rw [heq] at h
    exact absurd h (by decide)

/-- Whatever character was printed, its parts are read. -/
theorem scan_escape (c : Char) (rest : List Char) :
    scan_string (escape c ++ rest) =
      (scan_string rest).map fun scanned => (escape_parts c ++ scanned.1, scanned.2) := by
  unfold escape escape_parts
  split
  · next letter hletter =>
    obtain ⟨hshort, hu, -⟩ := short_escape_letter hletter
    exact scan_short hu hshort rest
  · next hnone =>
    obtain ⟨hquote, hback⟩ := ne_of_short_letter hnone
    by_cases hprintable : 32 ≤ c.toNat ∧ c.toNat ≤ 126
    · simpa [hprintable] using scan_char hprintable.1 hquote hback rest
    by_cases hsmall : c.toNat < 0x10000
    · simpa [hprintable, hsmall] using scan_hex_code hsmall rest
    -- a surrogate pair is two codes
    have hhigh := high_surrogate_range c
    have hlow := low_surrogate_range c.toNat
    simp only [if_neg hprintable, if_neg hsmall, List.append_assoc]
    rw [scan_hex_code (by omega), scan_hex_code (by omega)]
    cases scan_string rest <;> rfl

theorem scan_flatMap_escape (chars rest : List Char) :
    scan_string (chars.flatMap escape ++ '"' :: rest) = some (chars.flatMap escape_parts, rest) := by
  induction chars with
  | nil => simp [scan_string]
  | cons c chars ih =>
    rw [List.flatMap_cons, List.flatMap_cons, List.append_assoc, scan_escape, ih]
    rfl

/-! ## Sizes -/

theorem length_escape (c : Char) : (escape c).length = escaped_size c := by
  unfold escape escaped_size
  split
  · next letter hletter => simp [hletter]
  · next hnone =>
    simp only [hnone, Option.isSome_none, Bool.false_eq_true, if_false]
    split_ifs <;> rfl

theorem length_quote (text : String) :
    (quote text).length = (text.toList.map escaped_size).sum + 2 := by
  have hsum : (text.toList.flatMap escape).length = (text.toList.map escaped_size).sum := by
    simp only [List.length_flatMap, length_escape]
  simp [quote, hsum]

/-- All that is printed is ASCII. -/
def Ascii (text : List Char) : Prop := ∀ c ∈ text, c.toNat < 128

theorem ascii_nil : Ascii [] := by simp [Ascii]

theorem ascii_append {left right : List Char} (hleft : Ascii left) (hright : Ascii right) :
    Ascii (left ++ right) := by
  intro c hc
  exact (List.mem_append.mp hc).elim (hleft c) (hright c)

theorem ascii_cons {c : Char} {text : List Char} (hc : c.toNat < 128) (h : Ascii text) :
    Ascii (c :: text) := by
  intro d hd
  obtain rfl | hd := List.mem_cons.mp hd
  · exact hc
  · exact h d hd

theorem ascii_digitChar : ∀ n < 16, (Nat.digitChar n).toNat < 128 := by decide

theorem ascii_hex_code (n : Nat) : Ascii (hex_code n) := by
  have hdigit : ∀ m, (Nat.digitChar (m % 16)).toNat < 128 := by
    intro m
    exact ascii_digitChar _ (Nat.mod_lt _ (by decide))
  intro c hc
  simp only [hex_code, List.mem_cons, List.not_mem_nil, or_false] at hc
  obtain rfl | rfl | rfl | rfl | rfl | rfl := hc
  · decide
  · decide
  all_goals exact hdigit _

theorem ascii_escape (c : Char) : Ascii (escape c) := by
  unfold escape
  split
  · next letter hletter =>
    have hascii := (short_escape_letter hletter).2.2
    exact ascii_cons (by decide) (ascii_cons hascii ascii_nil)
  · by_cases hprintable : 32 ≤ c.toNat ∧ c.toNat ≤ 126
    · rw [if_pos hprintable]
      exact ascii_cons (by omega) ascii_nil
    · rw [if_neg hprintable]
      split
      · exact ascii_hex_code _
      · exact ascii_append (ascii_hex_code _) (ascii_hex_code _)

theorem ascii_quote (text : String) : Ascii (quote text) := by
  have hescaped : Ascii (text.toList.flatMap escape) := by
    intro d hd
    obtain ⟨c, -, hc⟩ := List.mem_flatMap.mp hd
    exact ascii_escape c d hc
  exact ascii_append (ascii_cons (by decide) hescaped) (ascii_cons (by decide) ascii_nil)

/-! ## The text of a string -/

theorem code_points_code {n : Nat} (hn : n < 0xD800 ∨ 0xDC00 ≤ n) (parts : List Part) :
    code_points (.code n :: parts) = n :: code_points parts := by
  cases parts with
  | nil => simp [code_points]
  | cons part parts =>
    cases part with
    | char c => simp [code_points]
    | code low =>
      rw [code_points, if_neg (by omega)]

theorem code_points_escape (c : Char) (parts : List Part) :
    code_points (escape_parts c ++ parts) = c.toNat :: code_points parts := by
  have hc := c.valid
  simp only [UInt32.isValidChar, Nat.isValidChar] at hc
  change c.toNat < _ ∨ _ < c.toNat ∧ c.toNat < _ at hc
  unfold escape_parts
  split
  · simp [code_points]
  split_ifs
  · simp [code_points]
  · next hsmall => simpa using code_points_code (by omega) parts
  · next hsmall =>
    have hhigh := high_surrogate_range c
    have hlow := low_surrogate_range c.toNat
    simp only [List.cons_append, List.nil_append]
    rw [code_points, if_pos ⟨hhigh.1, hhigh.2, hlow.1, hlow.2⟩]
    have hjoin : 0x10000 + (high_surrogate c.toNat - 0xD800) * 0x400 +
        (low_surrogate c.toNat - 0xDC00) = c.toNat := by
      unfold high_surrogate low_surrogate
      omega
    rw [hjoin]

theorem scalar_toNat (c : Char) : scalar c.toNat = some c := by
  have hc : c.toNat.isValidChar := c.valid
  unfold scalar
  rw [dif_pos hc]
  congr 1

theorem mapM_scalar (chars : List Char) : (chars.map Char.toNat).mapM scalar = some chars := by
  induction chars with
  | nil => rfl
  | cons c chars ih =>
    rw [List.map_cons, List.mapM_cons, scalar_toNat, ih]
    rfl

theorem string_of_escaped (text : String) :
    string_of (text.toList.flatMap escape_parts) = some text := by
  have hpoints : ∀ chars : List Char,
      code_points (chars.flatMap escape_parts) = chars.map Char.toNat := by
    intro chars
    induction chars with
    | nil => rfl
    | cons c chars ih => rw [List.flatMap_cons, code_points_escape, ih, List.map_cons]
  rw [string_of, hpoints, mapM_scalar]
  simp

theorem scan_quote (text : String) (rest : List Char) :
    ∃ parts, scan_string ((quote text).tail ++ rest) = some (parts, rest) ∧
      string_of parts = some text := by
  refine ⟨text.toList.flatMap escape_parts, ?_, string_of_escaped text⟩
  simpa [quote] using scan_flatMap_escape text.toList rest

/-! ## Integers -/

theorem digit_toDigits {n : Nat} : ∀ c ∈ Nat.toDigits 10 n, digit c = true := by
  intro c hc
  have hdigit := Nat.isDigit_of_mem_toDigits (by decide) (by decide) hc
  simpa [digit, Char.isDigit, Char.le_def, UInt32.le_iff_toNat_le] using hdigit

theorem number_toDigits (n : Nat) : number (Nat.toDigits 10 n) = n := by
  have hfold := @Nat.ofDigitChars_ten_toDigits n
  rw [Nat.ofDigitChars_eq_foldl] at hfold
  simpa [number, Nat.mul_comm] using hfold

theorem head_toDigits_append (n : Nat) (rest : List Char) :
    (Nat.toDigits 10 n ++ rest).head? = (Nat.toDigits 10 n).head? := by
  obtain ⟨c, digits, hdigits⟩ := List.exists_cons_of_ne_nil (@Nat.toDigits_ne_nil n 10)
  simp [hdigits]

/-- Only zero has a zero in front. -/
theorem head_toDigits {n : Nat} (hn : n ≠ 0) : (Nat.toDigits 10 n).head? ≠ some '0' := by
  induction n using Nat.strong_induction_on with
  | _ n ih =>
    rw [Nat.toDigits_eq_if (by decide)]
    by_cases hsmall : n < 10
    · simpa [hsmall] using hn
    · have hless := ih (n / 10) (by omega) (by omega)
      rw [if_neg hsmall, head_toDigits_append]
      exact hless

/-- What may stand behind an integer: no more of a number. -/
def Stops (rest : List Char) : Prop :=
  ∀ c ∈ rest.head?, digit c = false ∧ c ≠ '.' ∧ c ≠ 'e' ∧ c ≠ 'E'

theorem scan_digits_append {digits rest : List Char} (hdigits : ∀ c ∈ digits, digit c = true)
    (hrest : Stops rest) : scan_digits (digits ++ rest) = (digits, rest) := by
  have hnone : rest.takeWhile digit = [] ∧ rest.dropWhile digit = rest := by
    cases rest with
    | nil => simp
    | cons c rest =>
      have hc := (hrest c (by simp)).1
      simp [hc]
  unfold scan_digits
  rw [List.takeWhile_append_of_pos hdigits, List.dropWhile_append_of_pos hdigits, hnone.1, hnone.2,
    List.append_nil]

theorem scan_integral_toDigits (n : Nat) {rest : List Char} (hrest : Stops rest) :
    scan_integral (Nat.toDigits 10 n ++ rest) = some (Nat.toDigits 10 n, rest) := by
  by_cases hzero : n = 0
  · simp [hzero, Nat.toDigits_zero, scan_integral]
  · have hhead : ∀ behind, Nat.toDigits 10 n ++ rest ≠ '0' :: behind := by
      intro behind heq
      have hhead := congrArg List.head? heq
      rw [head_toDigits_append] at hhead
      exact head_toDigits hzero hhead
    rw [scan_integral, scan_digits_append digit_toDigits hrest]
    · simp [Nat.toDigits_ne_nil]
    · exact hhead

theorem scan_number_toDigits (negative : Bool) (n : Nat) {rest : List Char} (hrest : Stops rest) :
    scan_number b negative (Nat.toDigits 10 n ++ rest) = .ok (b.int (signed negative n), rest) := by
  have hfraction : scan_fraction rest = ([], rest) := by
    unfold scan_fraction
    split
    · next behind => exact absurd rfl (hrest '.' (by simp)).2.1
    · rfl
  have hexponent : scan_exponent rest = ([], rest) := by
    unfold scan_exponent
    split
    · next e behind =>
      have he := hrest e (by simp)
      simp [he.2.2.1, he.2.2.2]
    · rfl
  unfold scan_number
  simp [scan_integral_toDigits n hrest, hfraction, hexponent, number_toDigits]

/-! ## Documents -/

mutual

/-- The compact text of a document of objects, strings and integers. -/
def print : Doc → Option (List Char)
  | .int n => some (minus (n < 0) ++ Nat.toDigits 10 n.natAbs)
  | .str (some text) => some (quote text)
  | .object members => do
    let text ← print_members members
    return '\x7b' :: text ++ ['\x7d']
  | _ => none

def print_members : List (Option String × Doc) → Option (List Char)
  | [] => some []
  | [(key, doc)] => do
    let key ← key
    let text ← print doc
    return quote key ++ ':' :: text
  | (key, doc) :: members => do
    let key ← key
    let text ← print doc
    let behind ← print_members members
    return quote key ++ ':' :: text ++ ',' :: behind

end

theorem stops_cons {c : Char} {rest : List Char}
    (hc : digit c = false ∧ c ≠ '.' ∧ c ≠ 'e' ∧ c ≠ 'E') : Stops (c :: rest) := by
  intro d hd
  simp only [List.head?_cons, Option.mem_def, Option.some.injEq] at hd
  exact hd ▸ hc

theorem skip_cons {c : Char} {rest : List Char} (hc : blank c = false) :
    skip (c :: rest) = c :: rest := by
  simp [skip, hc]

theorem scan_int (steps : Nat) (n : Int) {rest : List Char} (hrest : Stops rest) :
    scan b (steps + 1) (minus (n < 0) ++ Nat.toDigits 10 n.natAbs ++ rest) = .ok (b.int n, rest) := by
  obtain ⟨c, digits, hdigits⟩ := List.exists_cons_of_ne_nil (@Nat.toDigits_ne_nil n.natAbs 10)
  have hmem : c ∈ Nat.toDigits 10 n.natAbs := by simp [hdigits]
  have hc := digit_toDigits c hmem
  have hne : ∀ d : Char, digit d = false → c ≠ d := by
    intro d hd heq
    rw [heq, hd] at hc
    exact absurd hc (by decide)
  have hnumber := fun negative => @scan_number_toDigits _ _ b negative n.natAbs _ hrest
  rw [hdigits, List.cons_append] at hnumber
  rw [hdigits]
  by_cases hneg : n < 0
  · have hvalue : signed true n.natAbs = n := by
      simp only [signed, if_true]
      omega
    simp only [hneg, decide_true, minus, if_true, List.cons_append, List.nil_append]
    rw [scan, hnumber true, hvalue]
    exact fun behind heq => hne 'I' (by decide) (List.cons.inj heq).1
  · have hvalue : signed false n.natAbs = n := by
      simp only [signed]
      simp
      omega
    simp only [hneg, decide_false, minus, Bool.false_eq_true, if_false, List.nil_append,
      List.cons_append]
    rw [scan, hnumber false, hvalue]
    all_goals exact fun behind heq => hne _ (by decide) (List.cons.inj heq).1

theorem scan_key_quote (key : String) {c : Char} (hc : blank c = false) (text : List Char) :
    ∃ parts, scan_key (quote key ++ ':' :: c :: text) = some (parts, c :: text) ∧
      string_of parts = some key := by
  obtain ⟨parts, hscan, hstring⟩ := scan_quote key (':' :: c :: text)
  refine ⟨parts, ?_, hstring⟩
  have hquote : quote key = '"' :: (quote key).tail := rfl
  rw [hquote, List.cons_append, scan_key, skip_cons (by decide)]
  simp only [hscan]
  rw [skip_cons (by decide)]
  simp only [skip_cons hc]

/-- A text that is printed starts with a character that is no blank. -/
theorem print_head {doc : Doc} {text : List Char} (h : print doc = some text) :
    ∃ c behind, text = c :: behind ∧ blank c = false := by
  unfold print at h
  split at h
  · next n =>
    rw [Option.some.injEq] at h
    by_cases hneg : n < 0
    · exact ⟨'-', Nat.toDigits 10 n.natAbs, by simp [← h, minus, hneg], by decide⟩
    · obtain ⟨c, digits, hdigits⟩ := List.exists_cons_of_ne_nil (@Nat.toDigits_ne_nil n.natAbs 10)
      have hmem : c ∈ Nat.toDigits 10 n.natAbs := by simp [hdigits]
      have hc := digit_toDigits c hmem
      refine ⟨c, digits, by simp [← h, minus, hneg, hdigits], ?_⟩
      simp only [blank, Bool.or_eq_false_iff, decide_eq_false_iff_not]
      refine ⟨⟨⟨?_, ?_⟩, ?_⟩, ?_⟩ <;> (intro heq; rw [heq] at hc; exact absurd hc (by decide))
  · next text' =>
    rw [Option.some.injEq] at h
    exact ⟨'"', _, h.symm, by decide⟩
  · next members =>
    simp only [Option.bind_eq_bind, Option.bind_eq_some_iff, Option.pure_def,
      Option.some.injEq] at h
    obtain ⟨inner, -, rfl⟩ := h
    exact ⟨'\x7b', _, rfl, by decide⟩
  · simp at h

theorem print_members_cons {key : Option String} {doc : Doc} {members : List (Option String × Doc)}
    {text : List Char} (h : print_members ((key, doc) :: members) = some text) :
    ∃ name inner, key = some name ∧ print doc = some inner ∧
      ((members = [] ∧ text = quote name ++ ':' :: inner) ∨
        ∃ behind, members ≠ [] ∧ print_members members = some behind ∧
          text = quote name ++ ':' :: inner ++ ',' :: behind) := by
  cases members with
  | nil =>
    simp only [print_members, Option.bind_eq_bind, Option.bind_eq_some_iff, Option.pure_def,
      Option.some.injEq] at h
    obtain ⟨name, hname, inner, hinner, htext⟩ := h
    exact ⟨name, inner, hname, hinner, .inl ⟨rfl, htext.symm⟩⟩
  | cons member members =>
    simp only [print_members, Option.bind_eq_bind, Option.bind_eq_some_iff, Option.pure_def,
      Option.some.injEq] at h
    obtain ⟨name, hname, inner, hinner, behind, hbehind, htext⟩ := h
    exact ⟨name, inner, hname, hinner, .inr ⟨behind, by simp, hbehind, htext.symm⟩⟩

theorem print_members_head {members : List (Option String × Doc)} {text : List Char}
    (hne : members ≠ []) (h : print_members members = some text) :
    ∃ behind, text = '"' :: behind := by
  obtain ⟨⟨key, doc⟩, others, rfl⟩ := List.exists_cons_of_ne_nil hne
  obtain ⟨name, inner, -, -, ⟨-, rfl⟩ | ⟨behind, -, -, rfl⟩⟩ := print_members_cons h
  · exact ⟨_, rfl⟩
  · exact ⟨_, rfl⟩

section Step

variable {steps : Nat}
  (ih : ∀ doc text value rest, print doc = some text → build b doc = .ok value →
    text.length < steps → Stops rest → scan b steps (text ++ rest) = .ok (value, rest))
  (ih_members : ∀ members text values rest, members ≠ [] → print_members members = some text →
    build_members b members = .ok values → text.length < steps →
    scan_members b steps (text ++ '\x7d' :: rest) = .ok (values, rest))

include ih_members in
theorem scan_print_step {doc : Doc} {text rest : List Char} {value : ν} (h : print doc = some text)
    (hbuild : build b doc = .ok value) (hsteps : text.length < steps + 1) (hrest : Stops rest) :
    scan b (steps + 1) (text ++ rest) = .ok (value, rest) := by
  unfold print at h
  split at h
  · next n =>
    rw [build, Except.ok.injEq] at hbuild
    rw [Option.some.injEq] at h
    rw [← h, ← hbuild]
    exact scan_int steps n hrest
  · next text' =>
    rw [build, Except.ok.injEq] at hbuild
    rw [Option.some.injEq] at h
    obtain ⟨parts, hscan, hstring⟩ := scan_quote text' rest
    have hquote : quote text' = '"' :: (quote text').tail := rfl
    rw [← h, ← hbuild, hquote, List.cons_append, scan]
    simp only [hscan, hstring]
  · next members =>
    simp only [Option.bind_eq_bind, Option.bind_eq_some_iff, Option.pure_def,
      Option.some.injEq] at h
    obtain ⟨inner, hinner, rfl⟩ := h
    obtain ⟨values, hvalues, hvalue⟩ := build_object_ok hbuild
    by_cases hempty : members = []
    · rw [hempty, print_members, Option.some.injEq] at hinner
      rw [hempty, build_members_nil, Except.ok.injEq] at hvalues
      subst hinner hvalues
      simp only [List.cons_append, List.nil_append]
      rw [scan]
      simp only [skip_cons (show blank '\x7d' = false by decide), hvalue, built]
    · have hscan := ih_members members inner values rest hempty hinner hvalues
        (by simp only [List.length_cons, List.length_append] at hsteps; omega)
      obtain ⟨behind, hbehind⟩ := print_members_head hempty hinner
      have hskip : ∀ tail, skip (inner ++ tail) = inner ++ tail := by
        intro tail
        rw [hbehind, List.cons_append, skip_cons (by decide)]
      simp only [List.cons_append, List.append_assoc, List.nil_append]
      rw [scan, hskip]
      split
      · next heq =>
        rw [hbehind, List.cons_append] at heq
        exact absurd (List.cons.inj heq).1 (by decide)
      · simp only [hscan, hvalue, built]
  · simp at h

include ih ih_members in
theorem scan_print_members_step {members : List (Option String × Doc)} {text rest : List Char}
    {values : List (Option String × ν)} (hne : members ≠ [])
    (h : print_members members = some text) (hbuild : build_members b members = .ok values)
    (hsteps : text.length < steps + 1) :
    scan_members b (steps + 1) (text ++ '\x7d' :: rest) = .ok (values, rest) := by
  obtain ⟨⟨key, doc⟩, others, rfl⟩ := List.exists_cons_of_ne_nil hne
  obtain ⟨value, values', hvalue, hvalues, rfl⟩ := build_members_ok hbuild
  obtain ⟨name, inner, rfl, hinner, htext⟩ := print_members_cons h
  obtain ⟨c, tail, rfl, hc⟩ := print_head hinner
  obtain ⟨rfl, rfl⟩ | ⟨behind, hothers, hbehind, rfl⟩ := htext
  · obtain ⟨parts, hkey, hstring⟩ := scan_key_quote name hc (tail ++ '\x7d' :: rest)
    have hscan := ih doc _ value ('\x7d' :: rest) hinner hvalue
      (by simp only [List.length_cons, List.length_append] at hsteps ⊢; omega)
      (stops_cons (by decide))
    rw [build_members_nil, Except.ok.injEq] at hvalues
    subst hvalues
    simp only [List.cons_append, List.append_assoc] at hscan ⊢
    rw [scan_members, hkey]
    simp only [hscan, skip_cons (show blank '\x7d' = false by decide), hstring]
  · obtain ⟨parts, hkey, hstring⟩ :=
      scan_key_quote name hc (tail ++ ',' :: (behind ++ '\x7d' :: rest))
    have hscan := ih doc _ value (',' :: (behind ++ '\x7d' :: rest)) hinner hvalue
      (by simp only [List.length_cons, List.length_append] at hsteps ⊢; omega)
      (stops_cons (by decide))
    have hmembers := ih_members others behind values' rest hothers hbehind hvalues
      (by simp only [List.length_cons, List.length_append] at hsteps; omega)
    simp only [List.cons_append, List.append_assoc] at hscan ⊢
    rw [scan_members, hkey]
    simp only [hscan, skip_cons (show blank ',' = false by decide), hmembers, hstring]

end Step

/-- By induction on the number of steps, for documents and members at once. -/
theorem scan_print_all (b : Builder ε ν) (steps : Nat) :
    (∀ doc text value rest, print doc = some text → build b doc = .ok value →
      text.length < steps → Stops rest → scan b steps (text ++ rest) = .ok (value, rest)) ∧
    ∀ members text values rest, members ≠ [] → print_members members = some text →
      build_members b members = .ok values → text.length < steps →
      scan_members b steps (text ++ '\x7d' :: rest) = .ok (values, rest) := by
  induction steps with
  | zero =>
    constructor
    · intro doc text value rest _ _ hsteps
      omega
    · intro members text values rest _ _ _ hsteps
      omega
  | succ steps ih =>
    obtain ⟨hscan, hmembers⟩ := ih
    constructor
    · intro doc text value rest h hbuild hsteps hrest
      exact scan_print_step hmembers h hbuild hsteps hrest
    · intro members text values rest hne h hbuild hsteps
      exact scan_print_members_step hscan hmembers hne h hbuild hsteps

/-- A printed document is loaded, also with a line feed behind it. -/
theorem loads_print {doc : Doc} {text : List Char} {value : ν} (h : print doc = some text)
    (hbuild : build b doc = .ok value) : loads b (text ++ ['\n']) = .ok value := by
  obtain ⟨c, behind, htext, hc⟩ := print_head h
  have hskip : skip (text ++ ['\n']) = text ++ ['\n'] := by
    rw [htext, List.cons_append, skip_cons hc]
  have hscan := (scan_print_all b ((text ++ ['\n']).length + 1)).1 doc text value ['\n'] h hbuild
    (by simp only [List.length_append]; omega) (stops_cons (by decide))
  rw [loads, hskip, hscan]
  simp [skip, blank]

end JsonText
