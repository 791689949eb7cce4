import Mathlib.Data.List.TakeWhile

/-! # JSON documents and a scanner for them

    A document is a tree; `Spelled` relates it to the texts that spell it.
    Numbers with a fraction or an exponent are not looked into, and the
    three constants beside the numbers are documents of their own.

    The scanner builds its result while it reads: a `Builder` says what
    becomes of each part, and may reject an object or a constant.  So it
    need not come to the end of a text to fail.
-/

namespace JsonText

/-! ## Characters -/

/-- White space between tokens. -/
def blank (c : Char) : Bool := c = ' ' || c = '\t' || c = '\n' || c = '\r'

def digit (c : Char) : Bool := 48 ≤ c.toNat && c.toNat ≤ 57

/-- The number that digits stand for. -/
def number (digits : List Char) : Nat :=
  digits.foldl (fun n c => n * 10 + (c.toNat - 48)) 0

/-- The value of a hexadecimal digit of either case. -/
def hex_value (c : Char) : Option Nat :=
  if 48 ≤ c.toNat ∧ c.toNat ≤ 57 then some (c.toNat - 48)
  else if 97 ≤ c.toNat ∧ c.toNat ≤ 102 then some (c.toNat - 87)
  else if 65 ≤ c.toNat ∧ c.toNat ≤ 70 then some (c.toNat - 55)
  else none

/-- The value of four hexadecimal digits. -/
def hex_word (a b c d : Char) : Option Nat := do
  let a ← hex_value a
  let b ← hex_value b
  let c ← hex_value c
  let d ← hex_value d
  return ((a * 16 + b) * 16 + c) * 16 + d

/-! ## Strings -/

/-- A part of a string: a character, or a code of sixteen bits. -/
inductive Part where
  | char (c : Char)
  | code (n : Nat)
  deriving DecidableEq, Repr

/-- The character that a letter behind a backslash stands for. -/
def short_escape (c : Char) : Option Char :=
  if c = '"' then some '"'
  else if c = '\\' then some '\\'
  else if c = '/' then some '/'
  else if c = 'b' then some '\x08'
  else if c = 'f' then some '\x0c'
  else if c = 'n' then some '\n'
  else if c = 'r' then some '\r'
  else if c = 't' then some '\t'
  else none

/-- The texts between the quotes of a string. -/
inductive Quoted : List Part → List Char → Prop where
  | nil : Quoted [] []
  | char {c : Char} {parts : List Part} {text : List Char} :
      32 ≤ c.toNat → c ≠ '"' → c ≠ '\\' → Quoted parts text → Quoted (.char c :: parts) (c :: text)
  | short {letter c : Char} {parts : List Part} {text : List Char} :
      short_escape letter = some c → Quoted parts text →
      Quoted (.char c :: parts) ('\\' :: letter :: text)
  | code {a b c d : Char} {n : Nat} {parts : List Part} {text : List Char} :
      hex_word a b c d = some n → Quoted parts text →
      Quoted (.code n :: parts) ('\\' :: 'u' :: a :: b :: c :: d :: text)

/-- A surrogate pair is one code point. -/
def code_points : List Part → List Nat
  | .code high :: .code low :: parts =>
    if 0xD800 ≤ high ∧ high < 0xDC00 ∧ 0xDC00 ≤ low ∧ low < 0xE000 then
      (0x10000 + (high - 0xD800) * 0x400 + (low - 0xDC00)) :: code_points parts
    else
      high :: code_points (.code low :: parts)
  | .code n :: parts => n :: code_points parts
  | .char c :: parts => c.toNat :: code_points parts
  | [] => []

/-- The character of a code point that is one. -/
def scalar (n : Nat) : Option Char := if h : n.isValidChar then some (Char.ofNatAux n h) else none

/-- The text of a string, unless a lone surrogate is in it. -/
def string_of (parts : List Part) : Option String := do
  let chars ← (code_points parts).mapM scalar
  return String.ofList chars

/-! ## Documents -/

inductive Doc where
  | null
  | bool (b : Bool)
  | int (n : Int)
  | float
  | constant (name : String)
  | str (text : Option String)
  | array (items : List Doc)
  | object (members : List (Option String × Doc))

/-- The digits of an integer: no zero in front of others. -/
def Integral (digits : List Char) : Prop :=
  digits ≠ [] ∧ (∀ c ∈ digits, digit c = true) ∧ (digits.head? = some '0' → digits = ['0'])

/-- A point with digits behind it, or nothing. -/
def Fraction (text : List Char) : Prop :=
  text = [] ∨ ∃ digits, text = '.' :: digits ∧ digits ≠ [] ∧ ∀ c ∈ digits, digit c = true

/-- An exponent, or nothing. -/
def Exponent (text : List Char) : Prop :=
  text = [] ∨ ∃ e sign digits, text = e :: (sign ++ digits) ∧ (e = 'e' ∨ e = 'E') ∧
    (sign = [] ∨ sign = ['+'] ∨ sign = ['-']) ∧ digits ≠ [] ∧ ∀ c ∈ digits, digit c = true

def minus (negative : Bool) : List Char := if negative then ['-'] else []

def signed (negative : Bool) (n : Nat) : Int := if negative then -n else n

def Blanks (text : List Char) : Prop := ∀ c ∈ text, blank c = true

mutual

/-- The texts that spell a document, without white space around them. -/
inductive Spelled : Doc → List Char → Prop where
  | null : Spelled .null ['n', 'u', 'l', 'l']
  | true : Spelled (.bool true) ['t', 'r', 'u', 'e']
  | false : Spelled (.bool false) ['f', 'a', 'l', 's', 'e']
  | nan : Spelled (.constant "NaN") ['N', 'a', 'N']
  | infinity : Spelled (.constant "Infinity") ['I', 'n', 'f', 'i', 'n', 'i', 't', 'y']
  | minus_infinity :
      Spelled (.constant "-Infinity") ['-', 'I', 'n', 'f', 'i', 'n', 'i', 't', 'y']
  | int {negative : Bool} {digits : List Char} :
      Integral digits → Spelled (.int (signed negative (number digits))) (minus negative ++ digits)
  | float {negative : Bool} {digits fraction exponent : List Char} :
      Integral digits → Fraction fraction → Exponent exponent → fraction ++ exponent ≠ [] →
      Spelled .float (minus negative ++ digits ++ fraction ++ exponent)
  | str {parts : List Part} {text : List Char} :
      Quoted parts text → Spelled (.str (string_of parts)) ('"' :: text ++ ['"'])
  | empty_array {before : List Char} : Blanks before → Spelled (.array []) ('[' :: before ++ [']'])
  | array {items : List Doc} {text : List Char} :
      SpelledItems items text → Spelled (.array items) ('[' :: text ++ [']'])
  | empty_object {before : List Char} :
      Blanks before → Spelled (.object []) ('\x7b' :: before ++ ['\x7d'])
  | object {members : List (Option String × Doc)} {text : List Char} :
      SpelledMembers members text → Spelled (.object members) ('\x7b' :: text ++ ['\x7d'])

/-- One or more items with commas between them. -/
inductive SpelledItems : List Doc → List Char → Prop where
  | last {doc : Doc} {before text behind : List Char} :
      Blanks before → Spelled doc text → Blanks behind →
      SpelledItems [doc] (before ++ text ++ behind)
  | cons {doc : Doc} {docs : List Doc} {before text behind rest : List Char} :
      Blanks before → Spelled doc text → Blanks behind → SpelledItems docs rest →
      SpelledItems (doc :: docs) (before ++ text ++ behind ++ ',' :: rest)

/-- One or more members with commas between them. -/
inductive SpelledMembers : List (Option String × Doc) → List Char → Prop where
  | last {parts : List Part} {doc : Doc} {before key gap space text behind : List Char} :
      Blanks before → Quoted parts key → Blanks gap → Blanks space → Spelled doc text →
      Blanks behind →
      SpelledMembers [(string_of parts, doc)]
        (before ++ ('"' :: key ++ ['"']) ++ gap ++ ':' :: (space ++ text ++ behind))
  | cons {parts : List Part} {doc : Doc} {members : List (Option String × Doc)}
      {before key gap space text behind rest : List Char} :
      Blanks before → Quoted parts key → Blanks gap → Blanks space → Spelled doc text →
      Blanks behind → SpelledMembers members rest →
      SpelledMembers ((string_of parts, doc) :: members)
        (before ++ ('"' :: key ++ ['"']) ++ gap ++ ':' :: (space ++ text ++ behind) ++ ',' :: rest)

end

/-- A whole text: a document with white space around it. -/
def Text (doc : Doc) (text : List Char) : Prop :=
  ∃ before spelled behind, text = before ++ spelled ++ behind ∧ Blanks before ∧
    Spelled doc spelled ∧ Blanks behind

/-! ## Builders -/

/-- What becomes of the parts of a document. -/
structure Builder (ε ν : Type) where
  null : ν
  bool : Bool → ν
  int : Int → ν
  float : ν
  constant : String → Except ε ν
  str : Option String → ν
  array : List ν → ν
  object : List (Option String × ν) → Except ε ν

variable {ε ν : Type}

mutual

/-- What becomes of a document, from the leaves up. -/
def build (b : Builder ε ν) : Doc → Except ε ν
  | .null => .ok b.null
  | .bool value => .ok (b.bool value)
  | .int n => .ok (b.int n)
  | .float => .ok b.float
  | .constant name => b.constant name
  | .str text => .ok (b.str text)
  | .array items => do
    let values ← build_items b items
    return b.array values
  | .object members => do
    let values ← build_members b members
    b.object values

def build_items (b : Builder ε ν) : List Doc → Except ε (List ν)
  | [] => .ok []
  | doc :: docs => do
    let value ← build b doc
    let values ← build_items b docs
    return value :: values

def build_members (b : Builder ε ν) :
    List (Option String × Doc) → Except ε (List (Option String × ν))
  | [] => .ok []
  | (key, doc) :: members => do
    let value ← build b doc
    let values ← build_members b members
    return (key, value) :: values

end

@[simp] theorem build_items_nil (b : Builder ε ν) : build_items b [] = .ok [] := by
  simp [build_items]

@[simp] theorem build_members_nil (b : Builder ε ν) : build_members b [] = .ok [] := by
  simp [build_members]

theorem build_items_cons {b : Builder ε ν} {doc : Doc} {docs : List Doc} {value : ν}
    {values : List ν} (h : build b doc = .ok value) (hs : build_items b docs = .ok values) :
    build_items b (doc :: docs) = .ok (value :: values) := by
  rw [build_items, h, hs]
  rfl

theorem build_members_cons {b : Builder ε ν} {key : Option String} {doc : Doc}
    {members : List (Option String × Doc)} {value : ν} {values : List (Option String × ν)}
    (h : build b doc = .ok value) (hs : build_members b members = .ok values) :
    build_members b ((key, doc) :: members) = .ok ((key, value) :: values) := by
  rw [build_members, h, hs]
  rfl

theorem build_array {b : Builder ε ν} {docs : List Doc} {values : List ν}
    (hs : build_items b docs = .ok values) : build b (.array docs) = .ok (b.array values) := by
  rw [build, hs]
  rfl

theorem build_object {b : Builder ε ν} {members : List (Option String × Doc)}
    {values : List (Option String × ν)} (hs : build_members b members = .ok values) :
    build b (.object members) = b.object values := by
  rw [build, hs]
  rfl

/-- The members of a built object are built in turn. -/
theorem build_object_ok {b : Builder ε ν} {members : List (Option String × Doc)} {value : ν}
    (h : build b (.object members) = .ok value) :
    ∃ values, build_members b members = .ok values ∧ b.object values = .ok value := by
  rw [build] at h
  cases hs : build_members b members with
  | error e =>
    rw [hs] at h
    exact absurd h (by simp [bind, Except.bind])
  | ok values =>
    rw [hs] at h
    exact ⟨values, rfl, h⟩

theorem build_members_ok {b : Builder ε ν} {key : Option String} {doc : Doc}
    {members : List (Option String × Doc)} {values : List (Option String × ν)}
    (h : build_members b ((key, doc) :: members) = .ok values) :
    ∃ value behind, build b doc = .ok value ∧ build_members b members = .ok behind ∧
      values = (key, value) :: behind := by
  rw [build_members] at h
  cases hvalue : build b doc with
  | error e =>
    rw [hvalue] at h
    exact absurd h (by simp [bind, Except.bind])
  | ok value =>
    rw [hvalue] at h
    cases hs : build_members b members with
    | error e =>
      rw [hs] at h
      exact absurd h (by simp [bind, Except.bind])
    | ok behind =>
      rw [hs] at h
      exact ⟨value, behind, rfl, rfl, (Except.ok.inj h).symm⟩

/-! ## Scanning -/

def skip (text : List Char) : List Char := text.dropWhile blank

/-- Up to the quote that ends a string. -/
def scan_string : List Char → Option (List Part × List Char)
  | '"' :: rest => some ([], rest)
  | '\\' :: 'u' :: a :: b :: c :: d :: rest =>
    match hex_word a b c d with
    | none => none
    | some n => do
      let (parts, rest) ← scan_string rest
      return (.code n :: parts, rest)
  | '\\' :: letter :: rest =>
    match short_escape letter with
    | none => none
    | some c => do
      let (parts, rest) ← scan_string rest
      return (.char c :: parts, rest)
  | c :: rest =>
    if c.toNat < 32 ∨ c = '\\' then
      none
    else do
      let (parts, rest) ← scan_string rest
      return (.char c :: parts, rest)
  | [] => none

/-- A key with the colon behind it, up to the value. -/
def scan_key (text : List Char) : Option (List Part × List Char) :=
  match skip text with
  | '"' :: rest =>
    match scan_string rest with
    | none => none
    | some (parts, rest) =>
      match skip rest with
      | ':' :: rest => some (parts, skip rest)
      | _ => none
  | _ => none

/-- The digits at the head of a text. -/
def scan_digits (text : List Char) : List Char × List Char :=
  (text.takeWhile digit, text.dropWhile digit)

/-- The digits of an integer. -/
def scan_integral : List Char → Option (List Char × List Char)
  | '0' :: rest => some (['0'], rest)
  | text => if (scan_digits text).1 = [] then none else some (scan_digits text)

/-- A fraction is none unless it has digits. -/
def scan_fraction (text : List Char) : List Char × List Char :=
  match text with
  | '.' :: rest =>
    if (scan_digits rest).1 = [] then ([], text) else ('.' :: (scan_digits rest).1, (scan_digits rest).2)
  | _ => ([], text)

/-- The sign of an exponent. -/
def scan_sign : List Char → List Char × List Char
  | '+' :: rest => (['+'], rest)
  | '-' :: rest => (['-'], rest)
  | text => ([], text)

/-- An exponent is none unless it has digits. -/
def scan_exponent (text : List Char) : List Char × List Char :=
  match text with
  | e :: rest =>
    let sign := scan_sign rest
    if (e = 'e' ∨ e = 'E') ∧ (scan_digits sign.2).1 ≠ [] then
      (e :: (sign.1 ++ (scan_digits sign.2).1), (scan_digits sign.2).2)
    else
      ([], text)
  | [] => ([], [])

/-- A number whose sign was read.  In all of these `none` stands for a text
    that is no document, and `some` for what the builder rejects. -/
def scan_number (b : Builder ε ν) (negative : Bool) (text : List Char) :
    Except (Option ε) (ν × List Char) :=
  match scan_integral text with
  | none => .error none
  | some (digits, rest) =>
    let fraction := scan_fraction rest
    let exponent := scan_exponent fraction.2
    if fraction.1 ++ exponent.1 = [] then
      .ok (b.int (signed negative (number digits)), exponent.2)
    else
      .ok (b.float, exponent.2)

/-- What the builder makes of the part that ends here. -/
def built (r : Except ε ν) (rest : List Char) : Except (Option ε) (ν × List Char) :=
  match r with
  | .ok value => .ok (value, rest)
  | .error e => .error (some e)

mutual

/-- One document.  Every step takes a character at least, so that a text is
    scanned in no more steps than it has characters. -/
def scan (b : Builder ε ν) : Nat → List Char → Except (Option ε) (ν × List Char)
  | 0, _ => .error none
  | steps + 1, text =>
    match text with
    | '"' :: rest =>
      match scan_string rest with
      | none => .error none
      | some (parts, rest) => .ok (b.str (string_of parts), rest)
    | '\x7b' :: rest =>
      match skip rest with
      | '\x7d' :: rest => built (b.object []) rest
      | _ =>
        match scan_members b steps rest with
        | .error e => .error e
        | .ok (values, rest) => built (b.object values) rest
    | '[' :: rest =>
      match skip rest with
      | ']' :: rest => .ok (b.array [], rest)
      | _ =>
        match scan_items b steps rest with
        | .error e => .error e
        | .ok (values, rest) => .ok (b.array values, rest)
    | 'n' :: 'u' :: 'l' :: 'l' :: rest => .ok (b.null, rest)
    | 't' :: 'r' :: 'u' :: 'e' :: rest => .ok (b.bool true, rest)
    | 'f' :: 'a' :: 'l' :: 's' :: 'e' :: rest => .ok (b.bool false, rest)
    | 'N' :: 'a' :: 'N' :: rest => built (b.constant "NaN") rest
    | 'I' :: 'n' :: 'f' :: 'i' :: 'n' :: 'i' :: 't' :: 'y' :: rest =>
      built (b.constant "Infinity") rest
    | '-' :: 'I' :: 'n' :: 'f' :: 'i' :: 'n' :: 'i' :: 't' :: 'y' :: rest =>
      built (b.constant "-Infinity") rest
    | '-' :: rest => scan_number b true rest
    | _ => scan_number b false text

/-- Items up to the bracket behind them. -/
def scan_items (b : Builder ε ν) : Nat → List Char → Except (Option ε) (List ν × List Char)
  | 0, _ => .error none
  | steps + 1, text =>
    match scan b steps (skip text) with
    | .error e => .error e
    | .ok (value, rest) =>
      match skip rest with
      | ']' :: rest => .ok ([value], rest)
      | ',' :: rest =>
        match scan_items b steps rest with
        | .error e => .error e
        | .ok (values, rest) => .ok (value :: values, rest)
      | _ => .error none

/-- Members up to the brace behind them. -/
def scan_members (b : Builder ε ν) :
    Nat → List Char → Except (Option ε) (List (Option String × ν) × List Char)
  | 0, _ => .error none
  | steps + 1, text =>
    match scan_key text with
    | none => .error none
    | some (parts, rest) =>
      match scan b steps rest with
      | .error e => .error e
      | .ok (value, rest) =>
        match skip rest with
        | '\x7d' :: rest => .ok ([(string_of parts, value)], rest)
        | ',' :: rest =>
          match scan_members b steps rest with
          | .error e => .error e
          | .ok (values, rest) => .ok ((string_of parts, value) :: values, rest)
        | _ => .error none

end

/-- `loads`: a document, and nothing but white space behind it. -/
def loads (b : Builder ε ν) (text : List Char) : Except (Option ε) ν :=
  match scan b (text.length + 1) (skip text) with
  | .error e => .error e
  | .ok (value, rest) => if skip rest = [] then .ok value else .error none

end JsonText
