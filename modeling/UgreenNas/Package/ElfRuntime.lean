import Mathlib.Data.Char
import Mathlib.Data.List.Dedup
import Mathlib.Data.List.Lex
import Mathlib.Data.List.Sort
import UgreenNas.Disk.Text

/-! # Dependencies of an ELF file (`scripts/package-almighty.py`)

    `elf_runtime` reads the program headers, the dynamic table and the
    version requirements of a file that may hold anything.  It is translated
    with the exceptions that its steps may raise: an access outside a buffer
    or to a missing key, and a number with too many digits for `int`.
-/

namespace UgreenNas.Package

open DiskMap

abbrev Bytes : Type := List UInt8

/-! ## Exceptions -/

inductive PyError where
  /-- `PackageError` -/
  | package (message : String)
  /-- `struct.error`: the buffer is too small. -/
  | struct
  | index
  | key
  /-- `ValueError` of `int` and `str`. -/
  | value
  deriving DecidableEq, Repr

abbrev Py (α : Type) : Type := Except PyError α

def require (p : Prop) [Decidable p] (message : String) : Py Unit :=
  if p then pure () else throw (.package message)

/-! ## Buffers -/

/-- `struct.unpack_from`: the bytes of a record. -/
def unpack_from (size : Nat) (raw : Bytes) (offset : Nat) : Py Bytes :=
  if offset + size ≤ raw.length then pure ((raw.drop offset).take size) else throw .struct

def little_endian : Bytes → Nat
  | [] => 0
  | b :: rest => b.toNat + 256 * little_endian rest

/-- An unsigned field of a record. -/
def field (record : Bytes) (start size : Nat) : Nat := little_endian ((record.drop start).take size)

/-- The value of a signed field of eight bytes. -/
def signed (n : Nat) : Int := if n < 2 ^ 63 then n else n - 2 ^ 64

/-- `raw[offset]` -/
def byte_at (raw : Bytes) (offset : Nat) : Py UInt8 :=
  match raw[offset]? with
  | none => throw .index
  | some b => pure b

/-- `sorted({...})` of strings. -/
def sorted_set (texts : List Text) : List Text := texts.dedup.insertionSort (· ≤ ·)

/-! ## Numbers -/

/-- The limit of Python for conversions between numbers and decimal digits. -/
def max_str_digits : Nat := 4300

/-- `int(part)` of decimal digits. -/
def int (part : Text) : Py Nat :=
  if part.length > max_str_digits then throw .value
  else pure (part.foldl (fun n c => n * 10 + digit_value c) 0)

def str (n : Nat) : Py Text :=
  if (decimal n).length > max_str_digits then throw .value else pure (decimal n)

/-- The numbers in a name that is `GLIBC_([0-9]+(?:\.[0-9]+)+)`, as texts. -/
def version_parts (name : Text) : Option (List Text) :=
  let parts := (name.drop 6).splitOn '.'
  if ("GLIBC_" : Text).isPrefixOf name ∧ 2 ≤ parts.length ∧
      parts.all (fun part => !part.isEmpty && part.all isdigit) then some parts
  else none

/-- `max` of tuples. -/
def max_version : List (List Nat) → Option (List Nat)
  | [] => none
  | version :: rest => some (rest.foldl (fun most v => if most < v then v else most) version)

/-! ## Program headers -/

section inspection

variable (data : Bytes) (label : String)

def span (offset size : Nat) : Py Bytes := do
  require (offset ≤ data.length ∧ size ≤ data.length - offset)
    s!"ELF runtime data outside file: {label}"
  pure ((data.drop offset).take size)

/-- The bytes in front of the first NUL. -/
def until_nul : Bytes → Option Bytes
  | [] => none
  | b :: rest => if b = 0 then some [] else (until_nul rest).map (b :: ·)

/-- `value.decode("ascii")` -/
def decode (value : Bytes) : Text := value.map fun b => Char.ofNat b.toNat

def cstring (raw : Bytes) (offset : Nat) : Py Text := do
  require (offset < raw.length) s!"ELF runtime string offset out of range: {label}"
  match until_nul (raw.drop offset) with
  | none => throw (.package s!"Unterminated ELF runtime string: {label}")
  | some value => do
    require (value ≠ [] ∧ value.all (fun c => 32 ≤ c && c < 127))
      s!"Invalid ELF runtime string: {label}"
    pure (decode value)

/-- A segment that is loaded. -/
structure Load where
  address : Nat
  offset : Nat
  length : Nat

/-- What the program headers list. -/
structure Segments where
  loads : List Load := []
  dynamics : List (Nat × Nat × Bytes) := []
  interpreters : List Text := []

/-- One program header; entries of type `PT_NULL` are not looked at. -/
def program_header (s : Segments) (record : Bytes) : Py Segments :=
  let kind := field record 0 4
  let offset := field record 8 8
  let address := field record 16 8
  let filesz := field record 32 8
  let memsz := field record 40 8
  if kind = 0 then
    pure s
  else do
    let raw ← span data label offset filesz
    if kind = 1 then do
      require (filesz ≤ memsz) s!"ELF load file size exceeds memory size: {label}"
      pure { s with loads := s.loads ++ [⟨address, offset, filesz⟩] }
    else if kind = 2 then do
      require (filesz ≤ memsz) s!"ELF dynamic file size exceeds memory size: {label}"
      pure { s with dynamics := s.dynamics ++ [(offset, address, raw)] }
    else if kind = 3 then do
      let interpreter ← cstring label raw 0
      pure { s with interpreters := s.interpreters ++ [interpreter] }
    else
      pure s

/-- The loop over the program headers, `index` of which are done. -/
def program_headers (phoff : Nat) : Nat → Nat → Segments → Py Segments
  | 0, _, s => pure s
  | count + 1, index, s => do
    let record ← unpack_from 56 data (phoff + index * 56)
    let s ← program_header data label s record
    program_headers phoff count (index + 1) s

def elf_magic : Bytes := [0x7f, 0x45, 0x4c, 0x46, 2, 1, 1]

def segments : Py Segments := do
  require (data.length ≥ 64 ∧ data.take 7 = elf_magic) s!"Expected ELF64 runtime headers: {label}"
  let header ← unpack_from 8 data 32
  let phoff := field header 0 8
  let counts ← unpack_from 4 data 54
  let phsize := field counts 0 2
  let phcount := field counts 2 2
  require (phsize = 56 ∧ 0 < phcount ∧ phcount < 65535)
    s!"Unsupported/missing ELF program headers: {label}"
  let _ ← span data label phoff (phsize * phcount)
  let s ← program_headers data label phoff phcount 0 {}
  require (s.loads ≠ [] ∧ s.dynamics.length ≤ 1 ∧ s.interpreters.length ≤ 1)
    s!"Invalid ELF load/dynamic/interpreter segments: {label}"
  pure s

/-! ## The dynamic table -/

/-- `{offset+address-base for ...}` -/
def file_offsets (loads : List Load) (address size : Nat) : List Nat :=
  ((loads.filter fun l =>
    l.address ≤ address ∧ size ≤ l.length ∧ address - l.address ≤ l.length - size).map
      fun l => l.offset + address - l.address).dedup

def file_address (loads : List Load) (address size : Nat) : Py Nat :=
  match file_offsets loads address size with
  | [offset] => pure offset
  | _ => throw (.package s!"ELF runtime address is not uniquely file-backed: {label}")

/-- The entries of the dynamic table in front of its `DT_NULL`. -/
def dynamic_tags (dynamic : Bytes) : Nat → Nat → List (Int × Nat) → Py (List (Int × Nat))
  | 0, _, _ => throw (.package s!"ELF dynamic segment has no DT_NULL: {label}")
  | count + 1, offset, tags => do
    let record ← unpack_from 16 dynamic offset
    let tag := signed (field record 0 8)
    if tag = 0 then pure tags
    else dynamic_tags dynamic count (offset + 16) (tags ++ [(tag, field record 8 8)])

/-- `tags.get(tag, [])` -/
def values (tags : List (Int × Nat)) (tag : Int) : List Nat :=
  (tags.filter fun entry => entry.1 = tag).map fun entry => entry.2

/-- `tags[tag][0]` -/
def first (tags : List (Int × Nat)) (tag : Int) : Py Nat :=
  match values tags tag with
  | [] => throw .key
  | value :: _ => pure value

/-- `tag in tags` -/
def has_tag (tags : List (Int × Nat)) (tag : Int) : Bool := values tags tag ≠ []

def single_tags : List Int := [5, 10, 15, 29, 0x6ffffffe, 0x6fffffff]

def check_single (tags : List (Int × Nat)) : List Int → Py Unit
  | [] => pure ()
  | tag :: rest => do
    require ((values tags tag).length ≤ 1) s!"Duplicate ELF runtime tag {tag}: {label}"
    check_single tags rest

/-- What the dynamic segment refers to. -/
structure Tables where
  loads : List Load
  tags : List (Int × Nat)
  strings : Bytes

/-- `tags[10][0] > 0`, where there is a size. -/
def positive_size (tags : List (Int × Nat)) : Bool :=
  match values tags 10 with
  | [] => false
  | size :: _ => size > 0

def tables (loads : List Load) (dynamic_offset dynamic_address : Nat) (dynamic : Bytes) :
    Py Tables := do
  let offset ← file_address label loads dynamic_address dynamic.length
  require (offset = dynamic_offset)
    s!"ELF dynamic file offset disagrees with load address: {label}"
  require (dynamic.length % 16 = 0) s!"Invalid ELF dynamic segment length: {label}"
  let tags ← dynamic_tags label dynamic (dynamic.length / 16) 0 []
  check_single label tags single_tags
  require (has_tag tags 5 ∧ has_tag tags 10 ∧ positive_size tags)
    s!"Missing ELF dynamic string table: {label}"
  let address ← first tags 5
  let size ← first tags 10
  let start ← file_address label loads address size
  let strings ← span data label start size
  pure { loads := loads, tags := tags, strings := strings }

/-- The strings of the `DT_NEEDED` entries. -/
def needed_names (strings : Bytes) : List Nat → Py (List Text)
  | [] => pure []
  | value :: rest => do
    let name ← cstring label strings value
    let names ← needed_names strings rest
    pure (name :: names)

/-- A search path; one that is there may be empty. -/
def search_path (t : Tables) (tag : Int) : Py (Option Text) :=
  match values t.tags tag with
  | [] => pure none
  | value :: _ => do
    require (value < t.strings.length) s!"ELF search path offset out of range: {label}"
    let b ← byte_at t.strings value
    if b = 0 then
      pure (some [])
    else do
      let path ← cstring label t.strings value
      pure (some path)

/-! ## Version requirements -/

/-- An entry of the version requirements. -/
structure Need where
  library : Text
  aux_count : Nat
  aux : Nat
  next_entry : Nat

local instance text_lawful : LawfulBEq Text := inferInstance

def read_need (t : Tables) (needed : List Text) (address : Nat) : Py Need := do
  let offset ← file_address label t.loads address 16
  let record ← unpack_from 16 data offset
  let version := field record 0 2
  let aux_count := field record 2 2
  let aux := field record 8 4
  require (version = 1 ∧ 0 < aux_count ∧ aux_count ≤ 4096 ∧ aux ≥ 16)
    s!"Invalid ELF version requirement: {label}"
  let library ← cstring label t.strings (field record 4 4)
  require (library ∈ needed) s!"ELF versions reference an undeclared library: {label}"
  pure { library := library, aux_count := aux_count, aux := aux, next_entry := field record 12 4 }

/-- An auxiliary entry: its name, and where the next one is. -/
def read_aux (t : Tables) (auxiliary : Nat) : Py (Text × Nat) := do
  let offset ← file_address label t.loads auxiliary 16
  let record ← unpack_from 16 data offset
  let name ← cstring label t.strings (field record 8 4)
  pure (name, field record 12 4)

/-- What has been collected from the version requirements. -/
structure Versions where
  required : List (Text × List Text) := []
  numeric : List (List Nat) := []
  extra : List Text := []

/-- `required.setdefault(library, [])` -/
def set_default (required : List (Text × List Text)) (library : Text) : List (Text × List Text) :=
  if required.any fun entry => entry.1 = library then required else required ++ [(library, [])]

/-- `versions.append(name)` -/
def append_name (required : List (Text × List Text)) (library name : Text) :
    List (Text × List Text) :=
  required.map fun entry => if entry.1 = library then (entry.1, entry.2 ++ [name]) else entry

/-- `tuple(int(part) for part in ...)` -/
def ints : List Text → Py (List Nat)
  | [] => pure []
  | part :: rest => do
    let n ← int part
    let ns ← ints rest
    pure (n :: ns)

def note_version (v : Versions) (library name : Text) : Py Versions :=
  let v := { v with required := append_name v.required library name }
  if ("GLIBC_" : Text).isPrefixOf name then
    match version_parts name with
    | some parts => do
      let version ← ints parts
      pure { v with numeric := v.numeric ++ [version] }
    | none => pure { v with extra := v.extra ++ [name] }
  else
    pure v

/-- Where the next entry of a chain is: behind the last one it says 0. -/
def check_next (last : Bool) (next : Nat) (message : String) : Py Unit :=
  require (if last then next = 0 else next ≥ 16) message

/-- The loop over the auxiliary entries of a library. -/
def aux_loop (t : Tables) (library : Text) : Nat → Nat → Versions → Py Versions
  | 0, _, v => pure v
  | count + 1, auxiliary, v => do
    let (name, next_aux) ← read_aux data label t auxiliary
    let v ← note_version v library name
    check_next (count = 0) next_aux s!"Invalid ELF version auxiliary chain: {label}"
    aux_loop t library count (auxiliary + next_aux) v

/-- The loop over the version requirements. -/
def need_loop (t : Tables) (needed : List Text) : Nat → Nat → Versions → Py Versions
  | 0, _, v => pure v
  | count + 1, address, v => do
    let need ← read_need data label t needed address
    let v ← aux_loop data label t need.library need.aux_count (address + need.aux)
      { v with required := set_default v.required need.library }
    check_next (count = 0) need.next_entry s!"Invalid ELF version requirement chain: {label}"
    need_loop t needed count (address + need.next_entry) v

def verneed : Int := 0x6ffffffe
def verneednum : Int := 0x6fffffff

/-- The version requirements, if there are any. -/
def read_versions (t : Tables) (needed : List Text) : Py Versions := do
  require (has_tag t.tags verneed = has_tag t.tags verneednum)
    s!"Incomplete ELF version requirement tags: {label}"
  if has_tag t.tags verneed then do
    let count ← first t.tags verneednum
    require (0 < count ∧ count ≤ 256) s!"Invalid ELF version requirement count: {label}"
    let address ← first t.tags verneed
    need_loop data label t needed count address {}
  else
    pure {}

/-! ## The result -/

structure Runtime where
  interpreter : Option Text
  needed_libraries : List Text := []
  required_symbol_versions : List (Text × List Text) := []
  glibc_symbol_floor : Option Text := none
  glibc_extra_requirements : List Text := []
  rpath : Option Text := none
  runpath : Option Text := none

/-- `str(part) for part in ...` -/
def strs : List Nat → Py (List Text)
  | [] => pure []
  | n :: rest => do
    let part ← str n
    let parts ← strs rest
    pure (part :: parts)

/-- `".".join(...)` -/
def dotted (parts : List Text) : Text := ['.'].intercalate parts

def symbol_floor (numeric : List (List Nat)) : Py (Option Text) :=
  match max_version numeric with
  | none => pure none
  | some version => do
    let parts ← strs version
    pure (some (dotted parts))

/-- What is read behind the string table. -/
def runtime_of (interpreter : Option Text) (t : Tables) : Py Runtime := do
  let names ← needed_names label t.strings (values t.tags 1)
  let needed := sorted_set names
  let rpath ← search_path label t 15
  let runpath ← search_path label t 29
  let v ← read_versions data label t needed
  let floor ← symbol_floor v.numeric
  pure
    { interpreter := interpreter
      needed_libraries := needed
      required_symbol_versions := v.required.map fun entry => (entry.1, sorted_set entry.2)
      glibc_symbol_floor := floor
      glibc_extra_requirements := sorted_set v.extra
      rpath := rpath
      runpath := runpath }

def elf_runtime : Py Runtime := do
  let s ← segments data label
  match s.dynamics with
  | [] => pure { interpreter := s.interpreters.head? }
  | (dynamic_offset, dynamic_address, dynamic) :: _ => do
    let t ← tables data label s.loads dynamic_offset dynamic_address dynamic
    runtime_of data label s.interpreters.head? t

end inspection

end UgreenNas.Package
