import UgreenNas.Fan.Comments

/-! # Numbers of the configuration file

    A number goes through `strtoul`, which takes a sign and negates modulo
    2^64.  The range check comes behind that, so a sign is let through, and
    a negative number near -2^64 is stored as a small positive one.
-/

namespace UgreenNas.Fan

open DiskMap

/-! ## One number -/

/-- Decimal digits behind optional blanks, whose number fits in `unsigned int`. -/
structure Plain (element : Text) (n : Nat) : Prop where
  digits : ∃ blank digits, element = blank ++ digits ∧ (∀ c ∈ blank, isspace c = true) ∧
    digits ≠ [] ∧ (∀ c ∈ digits, isdigit c = true) ∧ number digits = n
  le : n ≤ UINT_MAX

/-- The number that `strtoul` makes of a sign and a value. -/
def signed (sign : Char) (value : Nat) : Nat := if sign = '-' then u64 (-value) else value

/-- Decimal digits behind optional blanks and a sign, whose number fits in
    `unsigned long` and is in the range of `unsigned int` there. -/
structure Signed (element : Text) (n : Nat) : Prop where
  digits : ∃ blank sign digits, element = blank ++ sign :: digits ∧
    (∀ c ∈ blank, isspace c = true) ∧ (sign = '+' ∨ sign = '-') ∧ digits ≠ [] ∧
    (∀ c ∈ digits, isdigit c = true) ∧ number digits < 2 ^ 64 ∧ signed sign (number digits) = n
  le : n ≤ UINT_MAX

theorem isdigit_range {c : Char} : isdigit c = true ↔ 48 ≤ c.toNat ∧ c.toNat ≤ 57 := by
  unfold isdigit
  simp only [Bool.and_eq_true, decide_eq_true_eq, Char.le_def, UInt32.le_iff_toNat_le]
  exact Iff.rfl

theorem isspace_of_isdigit {c : Char} (h : isdigit c = true) : isspace c = false := by
  obtain ⟨hlow, -⟩ := isdigit_range.mp h
  have hne : c ≠ ' ' := by
    intro heq
    rw [heq] at hlow
    revert hlow
    decide
  unfold isspace
  rw [decide_eq_false hne, decide_eq_false (show ¬ c.toNat ≤ 13 by omega)]
  simp

/-- The text behind blanks and a sign. -/
def unsigned_part (text : Text) : Text :=
  let body := text.dropWhile isspace
  if body.head? = some '-' || body.head? = some '+' then body.tail else body

/-- The value that `strtoul` returns for digits in range. -/
def strtoul_value (text : Text) : Nat :=
  if (text.dropWhile isspace).head? = some '-' then u64 (-(number (unsigned_part text)))
  else number (unsigned_part text)

section strtoul

variable {text : Text}

theorem strtoul_of_digits (hne : unsigned_part text ≠ [])
    (hdigits : ∀ c ∈ unsigned_part text, isdigit c = true) :
    strtoul text 10 = if number (unsigned_part text) ≥ 2 ^ 64 then (2 ^ 64 - 1, true, [])
      else (strtoul_value text, false, []) := by
  have hfun : is_digit_of 10 = isdigit := funext is_digit_of_ten
  have hempty : (unsigned_part text).isEmpty = false := by simpa using hne
  have hnumber := fold_digit_value hdigits 0
  have htake : (unsigned_part text).takeWhile isdigit = unsigned_part text :=
    List.takeWhile_eq_self_iff.mpr hdigits
  have hdrop : (unsigned_part text).dropWhile isdigit = [] :=
    List.dropWhile_eq_nil_iff.mpr hdigits
  unfold strtoul_value
  unfold strtoul
  unfold unsigned_part at *
  simp only [skip_0x_ten, hfun, htake, hdrop, hempty, hnumber]
  rfl

/-- Where there is no digit, or a character that is none, some text is left. -/
theorem strtoul_leaves (htext : text ≠ [])
    (h : ¬ (unsigned_part text ≠ [] ∧ ∀ c ∈ unsigned_part text, isdigit c = true)) :
    (strtoul text 10).2.2 ≠ [] := by
  have hfun : is_digit_of 10 = isdigit := funext is_digit_of_ten
  unfold strtoul
  unfold unsigned_part at h
  simp only [skip_0x_ten, hfun]
  generalize (if (text.dropWhile isspace).head? = some '-' ||
    (text.dropWhile isspace).head? = some '+' then (text.dropWhile isspace).tail
    else text.dropWhile isspace) = digits at *
  split
  · exact htext
  · next hnone =>
    have hbehind : digits.dropWhile isdigit ≠ [] := by
      intro hnil
      apply h
      refine ⟨?_, List.dropWhile_eq_nil_iff.mp hnil⟩
      rintro rfl
      simp at hnone
    split <;> exact hbehind

/-- What `parse_unsigned` takes: digits behind blanks and a sign. -/
theorem parse_unsigned_iff_part {n : Nat} :
    parse_unsigned text = some n ↔
      unsigned_part text ≠ [] ∧ (∀ c ∈ unsigned_part text, isdigit c = true) ∧
        number (unsigned_part text) < 2 ^ 64 ∧ strtoul_value text = n ∧ n ≤ UINT_MAX := by
  by_cases hpart : unsigned_part text ≠ [] ∧ ∀ c ∈ unsigned_part text, isdigit c = true
  · obtain ⟨hne, hdigits⟩ := hpart
    have htext : text ≠ [] := by
      rintro rfl
      exact hne rfl
    unfold parse_unsigned
    rw [strtoul_of_digits hne hdigits]
    by_cases hrange : number (unsigned_part text) < 2 ^ 64
    · rw [if_neg (Nat.not_le_of_lt hrange)]
      dsimp only
      have hempty : text.isEmpty = false := by simpa using htext
      by_cases hmax : strtoul_value text ≤ UINT_MAX
      · rw [if_neg (by simp [hempty, hmax])]
        constructor
        · intro heq
          cases heq
          exact ⟨hne, hdigits, hrange, rfl, hmax⟩
        · intro h
          rw [h.2.2.2.1]
      · rw [if_pos (by simp [Nat.lt_of_not_le hmax])]
        apply iff_of_false
        · intro heq
          cases heq
        · intro h
          exact hmax (h.2.2.2.1 ▸ h.2.2.2.2)
    · rw [if_pos (Nat.le_of_not_lt hrange)]
      dsimp only
      rw [if_pos (by simp)]
      apply iff_of_false
      · intro heq
        cases heq
      · exact fun h => hrange h.2.2.1
  · apply iff_of_false
    · intro heq
      unfold parse_unsigned at heq
      by_cases htext : text = []
      · subst htext
        cases heq
      · have hleaves := strtoul_leaves htext hpart
        generalize strtoul text 10 = result at *
        obtain ⟨parsed, out_of_range, rest⟩ := result
        dsimp only at *
        rw [if_pos (by simp [hleaves])] at heq
        cases heq
    · exact fun h => hpart ⟨h.1, h.2.1⟩

end strtoul

theorem body_of_blank {blank : Text} (hblank : ∀ c ∈ blank, isspace c = true) {c : Char}
    (hc : isspace c = false) (rest : Text) :
    (blank ++ c :: rest).dropWhile isspace = c :: rest := by
  rw [List.dropWhile_append_of_pos hblank, List.dropWhile_cons_of_neg (by simp [hc])]

/-- `parse_unsigned` takes plain numbers, and signed ones. -/
theorem parse_unsigned_iff {text : Text} {n : Nat} :
    parse_unsigned text = some n ↔ Plain text n ∨ Signed text n := by
  rw [parse_unsigned_iff_part]
  constructor
  · intro ⟨hne, hdigits, hrange, hvalue, hmax⟩
    have htext : text = text.takeWhile isspace ++ text.dropWhile isspace :=
      List.takeWhile_append_dropWhile.symm
    have hblank : ∀ c ∈ text.takeWhile isspace, isspace c = true :=
      fun c hc => List.mem_takeWhile_imp hc
    unfold strtoul_value at hvalue
    unfold unsigned_part at *
    generalize text.takeWhile isspace = blank at *
    generalize text.dropWhile isspace = body at *
    cases body with
    | nil => exact absurd rfl hne
    | cons c rest =>
      by_cases hsign : c = '-' ∨ c = '+'
      · right
        have hcond : (decide ((c :: rest).head? = some '-') ||
            decide ((c :: rest).head? = some '+')) = true := by simpa using hsign
        rw [if_pos hcond] at *
        refine ⟨⟨blank, c, rest, htext, hblank, hsign.symm, hne, hdigits, hrange, ?_⟩, hmax⟩
        rw [← hvalue]
        simp [signed]
      · left
        have hcond : ¬ (decide ((c :: rest).head? = some '-') ||
            decide ((c :: rest).head? = some '+')) = true := by simpa using hsign
        rw [if_neg hcond] at *
        refine ⟨⟨blank, c :: rest, htext, hblank, hne, hdigits, ?_⟩, hmax⟩
        rw [if_neg (by simpa using fun heq => hsign (.inl heq))] at hvalue
        exact hvalue
  · rintro (⟨⟨blank, digits, rfl, hblank, hne, hdigits, hvalue⟩, hmax⟩ |
      ⟨⟨blank, sign, digits, rfl, hblank, hsign, hne, hdigits, hrange, hvalue⟩, hmax⟩)
    · have hrange : number digits < 2 ^ 64 := by
        rw [hvalue]
        exact Nat.lt_of_le_of_lt hmax (by decide)
      cases digits with
      | nil => exact absurd rfl hne
      | cons c rest =>
        have hc := isdigit_range.mp (hdigits c List.mem_cons_self)
        have hbody := body_of_blank hblank (isspace_of_isdigit (hdigits c List.mem_cons_self)) rest
        have hminus : c ≠ '-' := fun heq => absurd (heq ▸ hc.1) (by decide)
        have hplus : c ≠ '+' := fun heq => absurd (heq ▸ hc.1) (by decide)
        have hpart : unsigned_part (blank ++ c :: rest) = c :: rest := by
          simp [unsigned_part, hbody, hminus, hplus]
        rw [hpart]
        refine ⟨hne, hdigits, hrange, ?_, hmax⟩
        simp [strtoul_value, hpart, hbody, hminus, hvalue]
    · have hspace : isspace sign = false := by
        rcases hsign with rfl | rfl <;> decide
      have hbody := body_of_blank hblank hspace digits
      have hpart : unsigned_part (blank ++ sign :: digits) = digits := by
        rcases hsign with rfl | rfl <;> simp [unsigned_part, hbody]
      rw [hpart]
      refine ⟨hne, hdigits, hrange, ?_, hmax⟩
      rw [← hvalue]
      simp [strtoul_value, hpart, hbody, signed]

/-! ## Lists of numbers -/

theorem parse_parts_iff {count : Nat} {parts : List Text} {values out : List Nat}
    (hvalues : values.length ≤ count) :
    parts.foldlM (parse_part count) values = some out ↔
      out.length ≤ count ∧ ∃ new, out = values ++ new ∧
        List.Forall₂ (fun part n => parse_unsigned part = some n) parts new := by
  induction parts generalizing values with
  | nil =>
    rw [List.foldlM_nil]
    constructor
    · intro h
      cases h
      exact ⟨hvalues, [], (List.append_nil _).symm, .nil⟩
    · intro ⟨_, new, heq, hnew⟩
      cases hnew
      rw [heq, List.append_nil]
      rfl
  | cons part rest ih =>
    rw [List.foldlM_cons]
    unfold parse_part
    by_cases hfull : values.length ≥ count
    · -- One part too many.
      rw [if_pos hfull]
      apply iff_of_false
      · intro h
        cases h
      · intro ⟨hle, new, heq, hnew⟩
        cases hnew
        rw [heq, List.length_append, List.length_cons] at hle
        omega
    · rw [if_neg hfull]
      cases hpart : parse_unsigned part with
      | none =>
        apply iff_of_false
        · intro h
          cases h
        · intro ⟨_, new, _, hnew⟩
          cases hnew with
          | cons hhead _ =>
            rw [hpart] at hhead
            cases hhead
      | some value =>
        have hsnoc : (values ++ [value]).length ≤ count := by
          rw [List.length_append, List.length_singleton]
          omega
        have hrest := ih hsnoc
        unfold parse_part at hrest
        refine hrest.trans (and_congr_right fun _ => ?_)
        constructor
        · intro ⟨new, heq, hnew⟩
          exact ⟨value :: new, by rw [heq, List.append_assoc]; rfl, .cons hpart hnew⟩
        · intro ⟨new, heq, hnew⟩
          cases hnew with
          | cons hhead htail =>
            rw [hpart] at hhead
            cases hhead
            exact ⟨_, by rw [heq, List.append_assoc]; rfl, htail⟩

theorem parse_list_iff {count : Nat} {text : Text} {numbers : List Nat} :
    parse_list count text = some numbers ↔
      text.length < 96 ∧
        List.Forall₂ (fun part n => parse_unsigned part = some n) (text.splitOn ',') numbers ∧
        numbers.length = count := by
  unfold parse_list
  by_cases hlong : text.length ≥ 96
  · rw [if_pos hlong]
    exact iff_of_false (fun h => nomatch h) (fun h => absurd h.1 (Nat.not_lt_of_le hlong))
  · rw [if_neg hlong]
    have hparts := @parse_parts_iff count (text.splitOn ',') [] numbers (Nat.zero_le _)
    simp only [List.nil_append, exists_eq_left'] at hparts
    constructor
    · intro h
      split at h
      · cases h
      · next values hvalues =>
        split at h
        · cases h
        · next hcount =>
          cases h
          exact ⟨Nat.lt_of_not_le hlong, (hparts.mp hvalues).2, not_not.mp hcount⟩
    · intro ⟨_, hnumbers, hcount⟩
      rw [hparts.mpr ⟨Nat.le_of_eq hcount, hnumbers⟩]
      dsimp only
      rw [if_neg (not_not.mpr hcount)]

/-! ## Numeric settings -/

namespace Setting

/-- How many numbers a value of the setting is; 0 when it is none. -/
def count : Setting → Nat
  | interval_seconds | downshift_delay_seconds | minimum_pwm | failsafe_pwm => 1
  | cpu | hdd | ssd => 5
  | pwm => 4
  | _ => 0

/-- The elements of a value text. -/
def elements (s : Setting) (text : Text) : List Text :=
  if s.count = 1 then [text] else text.splitOn ','

/-- The numbers of a value. -/
def numbers : (s : Setting) → s.Value → List Nat
  | interval_seconds, n | downshift_delay_seconds, n | minimum_pwm, n | failsafe_pwm, n => [n]
  | cpu, t | hdd, t | ssd, t => [t.stop, t.start, t.mid, t.full, t.maximum]
  | pwm, p => [p.idle, p.mid, p.full, p.maximum]
  | profile, _ | require_storage_sensor, _ | allow_unvalidated_writes, _ | hdd_curve_enabled, _
  | ssd_curve_enabled, _ => []

/-- What a value text of a numeric setting is read as. -/
structure ReadAs (s : Setting) (text : Text) (numbers : List Nat) : Prop where
  short : s.count ≠ 1 → text.length < 96
  elements : List.Forall₂ (fun element n => parse_unsigned element = some n) (s.elements text) numbers
  length : numbers.length = s.count

end Setting

theorem valid_ok {α : Type} {parsed : Option α} {value : α} :
    Setting.valid parsed = .ok value ↔ parsed = some value := by
  cases parsed <;> simp [Setting.valid]

theorem parse_thresholds_iff {text : Text} {numbers : List Nat} :
    (∃ t, parse_thresholds text = some t ∧ Setting.cpu.numbers t = numbers) ↔
      parse_list 5 text = some numbers := by
  unfold parse_thresholds
  constructor
  · intro ⟨t, ht, hnumbers⟩
    split at ht
    · next hlist =>
      cases ht
      rw [hlist, ← hnumbers]
      rfl
    · cases ht
  · intro h
    obtain ⟨-, -, hlength⟩ := parse_list_iff.mp h
    obtain ⟨a, b, c, d, e, rfl⟩ : ∃ a b c d e, numbers = [a, b, c, d, e] := by
      match numbers, hlength with
      | [a, b, c, d, e], _ => exact ⟨a, b, c, d, e, rfl⟩
    rw [h]
    exact ⟨_, rfl, rfl⟩

theorem parse_pwm_points_iff {text : Text} {numbers : List Nat} :
    (∃ p, parse_pwm_points text = some p ∧ Setting.pwm.numbers p = numbers) ↔
      parse_list 4 text = some numbers := by
  unfold parse_pwm_points
  constructor
  · intro ⟨p, hp, hnumbers⟩
    split at hp
    · next hlist =>
      cases hp
      rw [hlist, ← hnumbers]
      rfl
    · cases hp
  · intro h
    obtain ⟨-, -, hlength⟩ := parse_list_iff.mp h
    obtain ⟨a, b, c, d, rfl⟩ : ∃ a b c d, numbers = [a, b, c, d] := by
      match numbers, hlength with
      | [a, b, c, d], _ => exact ⟨a, b, c, d, rfl⟩
    rw [h]
    exact ⟨_, rfl, rfl⟩

theorem read_as_scalar {s : Setting} (hs : s.count = 1) {text : Text} {numbers : List Nat} :
    s.ReadAs text numbers ↔ ∃ n, parse_unsigned text = some n ∧ [n] = numbers := by
  constructor
  · intro ⟨_, helements, _⟩
    unfold Setting.elements at helements
    rw [if_pos hs] at helements
    cases helements with
    | cons hhead htail =>
      cases htail
      exact ⟨_, hhead, rfl⟩
  · rintro ⟨n, hn, rfl⟩
    refine ⟨fun hne => absurd hs hne, ?_, by simp [hs]⟩
    unfold Setting.elements
    rw [if_pos hs]
    exact .cons hn .nil

theorem read_as_list {s : Setting} (hs : s.count ≠ 1) {text : Text} {numbers : List Nat} :
    s.ReadAs text numbers ↔ parse_list s.count text = some numbers := by
  rw [parse_list_iff]
  constructor
  · intro ⟨hshort, helements, hlength⟩
    unfold Setting.elements at helements
    rw [if_neg hs] at helements
    exact ⟨hshort hs, helements, hlength⟩
  · intro ⟨hshort, helements, hlength⟩
    refine ⟨fun _ => hshort, ?_, hlength⟩
    unfold Setting.elements
    rw [if_neg hs]
    exact helements

/-- What is stored for a value text, by its numbers. -/
theorem parse_numeric {s : Setting} (hs : s.count ≠ 0) {text : Text} {numbers : List Nat} :
    (∃ value, s.parse text = .ok value ∧ s.numbers value = numbers) ↔ s.ReadAs text numbers := by
  have hscalar : ∀ {s : Setting}, s.count = 1 →
      ((∃ n, Setting.valid (parse_unsigned text) = .ok n ∧ [n] = numbers) ↔
        s.ReadAs text numbers) := by
    intro s hone
    simp only [valid_ok]
    exact (read_as_scalar hone).symm
  have hthresholds : ∀ {s : Setting}, s.count = 5 →
      ((∃ t, Setting.valid (parse_thresholds text) = .ok t ∧ Setting.cpu.numbers t = numbers) ↔
        s.ReadAs text numbers) := by
    intro s hfive
    simp only [valid_ok]
    rw [read_as_list (by omega), hfive]
    exact parse_thresholds_iff
  cases s with
  | profile => exact absurd rfl hs
  | require_storage_sensor => exact absurd rfl hs
  | allow_unvalidated_writes => exact absurd rfl hs
  | hdd_curve_enabled => exact absurd rfl hs
  | ssd_curve_enabled => exact absurd rfl hs
  | interval_seconds => exact hscalar rfl
  | downshift_delay_seconds => exact hscalar rfl
  | minimum_pwm => exact hscalar rfl
  | failsafe_pwm => exact hscalar rfl
  | cpu => exact hthresholds rfl
  | hdd => exact hthresholds rfl
  | ssd => exact hthresholds rfl
  | pwm =>
    show (∃ p, Setting.valid (parse_pwm_points text) = .ok p ∧ _) ↔ _
    simp only [valid_ok]
    rw [read_as_list (by decide)]
    exact parse_pwm_points_iff

/-! ## Signs -/

/-- A value text that is read as numbers although an element has a sign. -/
structure Misread (s : Setting) (text : Text) : Prop where
  short : s.count ≠ 1 → text.length < 96
  numbers : ∃ numbers, List.Forall₂ (fun element n => Plain element n ∨ Signed element n)
    (s.elements text) numbers ∧ numbers.length = s.count
  sign : ∃ element ∈ s.elements text, ∃ n, Signed element n

theorem Signed.not_plain {element : Text} {n m : Nat} (h : Signed element n) : ¬ Plain element m := by
  intro hplain
  obtain ⟨⟨blank, sign, digits, rfl, -, hsign, -⟩, -⟩ := h
  obtain ⟨⟨blank', digits', heq, hblank', -, hdigits', -⟩, -⟩ := hplain
  have hmem : sign ∈ blank' ++ digits' := by
    rw [← heq]
    simp
  rcases List.mem_append.mp hmem with hspace | hdigit
  · have h := hblank' sign hspace
    rcases hsign with rfl | rfl <;> revert h <;> decide
  · have h := hdigits' sign hdigit
    rcases hsign with rfl | rfl <;> revert h <;> decide

theorem read_as_iff {s : Setting} {text : Text} {numbers : List Nat} :
    s.ReadAs text numbers ↔ (s.count ≠ 1 → text.length < 96) ∧
      List.Forall₂ (fun element n => Plain element n ∨ Signed element n) (s.elements text) numbers ∧
      numbers.length = s.count := by
  have hiff : (fun element n => parse_unsigned element = some n) =
      fun element n => Plain element n ∨ Signed element n := by
    funext element n
    exact propext parse_unsigned_iff
  constructor
  · intro ⟨hshort, helements, hlength⟩
    rw [hiff] at helements
    exact ⟨hshort, helements, hlength⟩
  · intro ⟨hshort, helements, hlength⟩
    rw [← hiff] at helements
    exact ⟨hshort, helements, hlength⟩

/-- A signed element is in the list, or all are plain. -/
theorem forall₂_plain {elements : List Text} {numbers : List Nat}
    (h : List.Forall₂ (fun element n => Plain element n ∨ Signed element n) elements numbers) :
    List.Forall₂ Plain elements numbers ∨ ∃ element ∈ elements, ∃ n, Signed element n := by
  induction h with
  | nil => exact .inl .nil
  | cons hhead _ ih =>
    rcases hhead with hplain | hsigned
    · rcases ih with hrest | ⟨element, hmem, hsigned⟩
      · exact .inl (.cons hplain hrest)
      · exact .inr ⟨element, List.mem_cons_of_mem _ hmem, hsigned⟩
    · exact .inr ⟨_, List.mem_cons_self, _, hsigned⟩

theorem not_plain_of_mem {elements : List Text} {numbers : List Nat}
    (h : List.Forall₂ Plain elements numbers) {element : Text} (hmem : element ∈ elements) {n : Nat} :
    ¬ Signed element n := by
  induction h with
  | nil => cases hmem
  | cons hplain _ ih =>
    rcases List.mem_cons.mp hmem with rfl | hrest
    · exact fun hsigned => hsigned.not_plain hplain
    · exact ih hrest

/-- A value text says what is stored for it, unless it is misread. -/
theorem parse_plain_iff {s : Setting} (hs : s.count ≠ 0) (text : Text) :
    (∀ value, s.parse text = .ok value →
      List.Forall₂ Plain (s.elements text) (s.numbers value) ∧
        (s.numbers value).length = s.count) ↔ ¬ Misread s text := by
  constructor
  · intro h ⟨hshort, ⟨numbers, hnumbers, hlength⟩, element, hmem, n, hsigned⟩
    obtain ⟨value, hparse, -⟩ := (parse_numeric hs).mpr (read_as_iff.mpr ⟨hshort, hnumbers, hlength⟩)
    exact not_plain_of_mem (h value hparse).1 hmem hsigned
  · intro h value hparse
    obtain ⟨hshort, hnumbers, hlength⟩ := read_as_iff.mp ((parse_numeric hs).mp ⟨value, hparse, rfl⟩)
    rcases forall₂_plain hnumbers with hplain | hsign
    · exact ⟨hplain, hlength⟩
    · exact absurd ⟨hshort, ⟨_, hnumbers, hlength⟩, hsign⟩ h

/-! ## Lines that assign a value -/

/-- The line gives the setting `s` the value text `text`. -/
structure Assigns (line : Text) (s : Setting) (text : Text) : Prop where
  content : trim (c_string line) ≠ []
  not_comment : (trim (c_string line)).head? ≠ some '#' ∧ (trim (c_string line)).head? ≠ some ';'
  parts : ∃ key value, strchr (trim (c_string line)) '=' = some (key, value) ∧ trim key = s.key ∧
    trim value = text

theorem named_key (s : Setting) : Setting.named s.key = some s := by
  cases s <;> decide

theorem key_of_named {key : Text} {s : Setting} (h : Setting.named key = some s) : key = s.key := by
  have hsome := List.find?_some h
  exact (of_decide_eq_true hsome).symm

theorem Assigns.read {line text : Text} {s : Setting} (h : Assigns line s text) :
    read_line line = (s.parse text).map fun value => some ⟨s, value⟩ := by
  obtain ⟨hne, ⟨hhash, hsemi⟩, key, value, hparts, hkey, rfl⟩ := h
  unfold read_line
  dsimp only
  rw [if_neg (by simp [hne, hhash, hsemi]), hparts]
  dsimp only
  rw [hkey, named_key]

theorem assigns_of_read {line : Text} {w : Assignment} (h : read_line line = .ok (some w)) :
    ∃ text, Assigns line w.1 text := by
  unfold read_line at h
  dsimp only at h
  split at h
  · cases h
  · next hskip =>
    simp only [Bool.or_eq_true, List.isEmpty_iff, decide_eq_true_eq, not_or] at hskip
    obtain ⟨⟨hne, hhash⟩, hsemi⟩ := hskip
    split at h
    · cases h
    · next key value hparts =>
      split at h
      · cases h
      · next s hs =>
        cases hparse : s.parse (trim value) with
        | error e =>
          rw [hparse] at h
          cases h
        | ok parsed =>
          rw [hparse] at h
          cases h
          exact ⟨trim value, hne, ⟨hhash, hsemi⟩, key, value, hparts, key_of_named hs, rfl⟩

/-- An assignment of some lines comes from one of them. -/
theorem line_of_assignment {lines : List Text} {assignments : List Assignment}
    (h : read_lines lines = .ok assignments) {w : Assignment} (hw : w ∈ assignments) :
    ∃ line ∈ lines, read_line line = .ok (some w) := by
  induction lines generalizing assignments with
  | nil =>
    cases h
    cases hw
  | cons line rest ih =>
    rw [read_lines] at h
    cases hline : read_line line with
    | error e =>
      rw [hline] at h
      cases h
    | ok assignment =>
      cases hrest : read_lines rest with
      | error e =>
        rw [hline, hrest] at h
        cases h
      | ok others =>
        rw [hline, hrest] at h
        cases h
        rcases List.mem_append.mp hw with hhead | htail
        · cases assignment with
          | none => cases hhead
          | some v =>
            rw [Option.toList_some, List.mem_singleton] at hhead
            exact ⟨line, List.mem_cons_self, by rw [hline, hhead]⟩
        · obtain ⟨other, hmem, hread⟩ := ih hrest htail
          exact ⟨other, List.mem_cons_of_mem _ hmem, hread⟩

/-- What a loaded file says about the value text of one of its lines: the
    text is plain numbers, and they are stored unless a later line or the
    profile replaces them. -/
def Faithful (s : Setting) (text : Text) : Prop :=
  ∀ (file : File) (config : CurveConfig) (before after : List Text) (line : Text),
    config_lines file = before ++ line :: after → Assigns line s text →
    load_config (.ok file) = .ok config →
    ∃ numbers, List.Forall₂ Plain (s.elements text) numbers ∧ numbers.length = s.count ∧
      ((∀ l ∈ after, ∀ t, ¬ Assigns l s t) → shows s config = true →
        s.numbers (s.get config) = numbers)

theorem faithful_of_not_misread {s : Setting} (hs : s.count ≠ 0) {text : Text}
    (h : ¬ Misread s text) : Faithful s text := by
  intro file config before after line hlines hassigns hload
  obtain ⟨assignments, hread, hfinish⟩ := load_file_ok hload
  rw [hlines, List.append_cons, read_lines_append, read_lines_append] at hread
  cases hbefore : read_lines before with
  | error e =>
    rw [hbefore] at hread
    cases hread
  | ok first =>
    cases hparse : s.parse text with
    | error e =>
      rw [hbefore, read_lines, hassigns.read, hparse] at hread
      cases hread
    | ok value =>
      have hone : read_lines [line] = .ok [⟨s, value⟩] := by
        rw [read_lines, hassigns.read, hparse]
        rfl
      cases hafter : read_lines after with
      | error e =>
        rw [hbefore, hone, hafter] at hread
        cases hread
      | ok last =>
        rw [hbefore, hone, hafter] at hread
        cases hread
        obtain ⟨hplain, hlength⟩ := (parse_plain_iff hs text).mpr h value hparse
        refine ⟨s.numbers value, hplain, hlength, ?_⟩
        intro hnone hshows
        have hlast : s ∉ last.map Sigma.fst := by
          intro hmem
          obtain ⟨w, hw, rfl⟩ := List.mem_map.mp hmem
          obtain ⟨l, hl, hreads⟩ := line_of_assignment hafter hw
          obtain ⟨t, ht⟩ := assigns_of_read hreads
          exact hnone l hl t ht
        have hget : s.get (settings.write (first ++ [⟨s, value⟩] ++ last) config_defaults) = value := by
          rw [Fields.write_append, Fields.write_snoc]
          refine (@Fields.get_write_of_not_mem _ _ _ settings _ _ _ hlast _).trans ?_
          exact settings.get_set s value _
        rw [finish_config_shows hfinish hshows, hget]

/-- A line of its own: the first thing that `fgets` delivers of it. -/
theorem config_lines_line {error : Bool} {line : Text} (hline : '\n' ∉ line)
    (hfits : line.length < LINE_SIZE) :
    ∃ first rest, config_lines ⟨line ++ ['\n'], error⟩ = first :: rest ∧
      trim (c_string first) = trim (c_string line) := by
  unfold config_lines LINE_SIZE at *
  rw [fgets_lines_line hline]
  by_cases hwhole : line.length + 2 ≤ 256
  · rw [if_pos (by simp; omega)]
    exact ⟨line ++ ['\n'], [], rfl, trim_c_string_newline line⟩
  · have htake : line.take 255 = line := List.take_of_length_le (by omega)
    rw [if_neg (by simp; omega)]
    refine ⟨line, (fgets_lines 256 error [] (line.drop 255 ++ ['\n'])).map Prod.fst, ?_, rfl⟩
    simp [htake]

/-- A text that a second assignment of the same setting makes loadable. -/
theorem samples_read (s : Setting) : ∃ (value : s.Value) (config : CurveConfig),
    read_lines (config_lines ⟨s.samples.1, false⟩) = .ok [⟨s, value⟩] ∧
      finish_config (s.set value config_defaults) = .ok config := by
  cases s <;> exact ⟨_, _, rfl, rfl⟩

/-- Where a value text is misread, a file shows it: the line with the text,
    and behind it one that gives the setting a good value. -/
theorem not_faithful_of_misread {s : Setting} (hs : s.count ≠ 0) {line text : Text}
    (hline : '\n' ∉ line) (hfits : line.length < LINE_SIZE) (hassigns : Assigns line s text)
    (h : Misread s text) : ¬ Faithful s text := by
  intro hfaithful
  obtain ⟨hshort, ⟨numbers, hnumbers, hlength⟩, element, hmem, n, hsigned⟩ := h
  obtain ⟨value, hparse, -⟩ := (parse_numeric hs).mpr (read_as_iff.mpr ⟨hshort, hnumbers, hlength⟩)
  obtain ⟨good, config, hgood, hfinish⟩ := samples_read s
  obtain ⟨first, rest, hfirst, hsame⟩ := @config_lines_line false line hline hfits
  have hlines := @config_lines_append false (line ++ ['\n']) (whole_line line) s.samples.1
  have hload : load_config (.ok ⟨line ++ ['\n'] ++ s.samples.1, false⟩) = .ok config := by
    have hone : read_lines [line] = .ok [⟨s, value⟩] := by
      rw [read_lines, hassigns.read, hparse]
      rfl
    rw [load_config_ok, load_file_eq, hlines, read_lines_append, read_short_line hline hfits, hone,
      hgood]
    refine Eq.trans ?_ hfinish
    exact congrArg finish_config (settings.set_set s good value config_defaults)
  have hassigns' : Assigns first s text := by
    obtain ⟨hne, hmark, hparts⟩ := hassigns
    rw [← hsame] at hne hmark hparts
    exact ⟨hne, hmark, hparts⟩
  rw [hfirst, List.cons_append] at hlines
  obtain ⟨plain, hplain, -⟩ := hfaithful _ config [] _ first hlines hassigns' hload
  exact not_plain_of_mem hplain hmem hsigned

/-- A number of the configuration means what it says unless an element of a
    value text that is otherwise in order has a sign. -/
theorem numbers_faithful_iff (s : Setting) (text : Text) (hs : s.count ≠ 0) :
    ((∀ value, s.parse text = .ok value →
      List.Forall₂ Plain (s.elements text) (s.numbers value) ∧
        (s.numbers value).length = s.count) ↔ ¬ Misread s text) ∧
    ((∃ line, '\n' ∉ line ∧ line.length < LINE_SIZE ∧ Assigns line s text) →
      (Faithful s text ↔ ¬ Misread s text)) := by
  refine ⟨parse_plain_iff hs text, ?_⟩
  intro ⟨line, hline, hfits, hassigns⟩
  constructor
  · intro hfaithful hmisread
    exact not_faithful_of_misread hs hline hfits hassigns hmisread hfaithful
  · exact faithful_of_not_misread hs

theorem numbers_faithful_iff_thirty : Faithful .interval_seconds "30" := by
  have hassigns : Assigns "interval_seconds = 30" .interval_seconds "30" :=
    ⟨by decide +kernel, by decide +kernel, "interval_seconds ", " 30", by decide +kernel,
      by decide +kernel, by decide +kernel⟩
  have hplain : ¬ Misread .interval_seconds "30" := by
    intro h
    obtain ⟨element, hmem, n, hsigned⟩ := h.sign
    obtain ⟨⟨blank, sign, digits, heq, -, hsign, -⟩, -⟩ := hsigned
    have hin : sign ∈ ("30" : Text) := by
      have helement : element = ("30" : Text) := List.mem_singleton.mp hmem
      rw [← helement, heq]
      simp
    rcases hsign with rfl | rfl <;> revert hin <;> decide
  apply ((numbers_faithful_iff .interval_seconds "30" (by decide)).2 ?_).mpr hplain
  exact ⟨"interval_seconds = 30", by decide +kernel, by decide +kernel, hassigns⟩

/-- A huge negative number is stored as 60. -/
theorem negative_interval_stored :
    ((load_config (.ok ⟨"interval_seconds=-18446744073709551556\n", false⟩)).toOption.map
      CurveConfig.interval_seconds = some 60) ∧
      ¬ Faithful .interval_seconds "-18446744073709551556" := by
  have hload : (load_config (.ok ⟨"interval_seconds=-18446744073709551556\n", false⟩)).toOption.map
      CurveConfig.interval_seconds = some 60 := by
    decide +kernel
  refine ⟨hload, ?_⟩
  intro hfaithful
  cases hr : load_config (.ok ⟨"interval_seconds=-18446744073709551556\n", false⟩) with
  | error e =>
    rw [hr] at hload
    cases hload
  | ok config =>
    have hassigns : Assigns "interval_seconds=-18446744073709551556\n" .interval_seconds
        "-18446744073709551556" :=
      ⟨by decide +kernel, by decide +kernel, "interval_seconds", "-18446744073709551556",
        by decide +kernel, by decide +kernel, by decide +kernel⟩
    obtain ⟨numbers, hplain, -⟩ :=
      hfaithful _ config [] [] _ (by decide +kernel) hassigns hr
    have hsigned : Signed "-18446744073709551556" 60 :=
      ⟨⟨[], '-', "18446744073709551556", rfl, by simp, .inr rfl, by decide,
        List.all_eq_true.mp (by decide +kernel), by decide +kernel, by decide +kernel⟩, by decide⟩
    exact not_plain_of_mem hplain List.mem_cons_self hsigned

end UgreenNas.Fan
