import UgreenNas.Effect.Outcome
import UgreenNas.Package.ElfRuntime

/-! # What an inspection of an ELF file comes to

    On arbitrary bytes the inspection returns, or fails with a
    `PackageError`, unless it meets a version with more digits in a row than
    `int` takes.  What it returns is what stands in the file.
-/

namespace UgreenNas.Package

open DiskMap Effect.Proc

/-! ## Exceptions -/

def IsPackage (e : PyError) : Prop := ∃ message, e = .package message

theorem outcome_require (p : Prop) [Decidable p] (message : String) :
    Outcome (fun _ => p) IsPackage (require p message) := by
  unfold require
  by_cases hp : p
  · rw [if_pos hp]
    exact outcome_pure hp
  · rw [if_neg hp]
    exact outcome_throw ⟨message, rfl⟩

theorem outcome_package {α : Type} {P : α → Prop} (message : String) :
    Outcome P IsPackage (throw (PyError.package message) : Py α) := ⟨message, rfl⟩

/-! ## Strings -/

/-- The bytes of a buffer from an offset on. -/
def slice (raw : Bytes) (offset size : Nat) : Bytes := (raw.drop offset).take size

/-- The string at an offset of a buffer: printable ASCII, with a NUL behind. -/
def CString (raw : Bytes) (offset : Nat) (text : Text) : Prop :=
  ∃ value rest, raw.drop offset = value ++ 0 :: rest ∧ value ≠ [] ∧
    (∀ b ∈ value, 32 ≤ b ∧ b < 127) ∧ text = decode value

theorem until_nul_some {raw value : Bytes} (h : until_nul raw = some value) :
    ∃ rest, raw = value ++ 0 :: rest ∧ ∀ b ∈ value, b ≠ 0 := by
  induction raw generalizing value with
  | nil => cases h
  | cons b raw ih =>
    unfold until_nul at h
    by_cases hb : b = 0
    · rw [if_pos hb] at h
      obtain rfl := Option.some.inj h
      exact ⟨raw, by rw [hb]; rfl, fun _ hmem => absurd hmem List.not_mem_nil⟩
    · rw [if_neg hb] at h
      obtain ⟨value, hvalue, rfl⟩ := Option.map_eq_some_iff.mp h
      obtain ⟨rest, hrest, hall⟩ := ih hvalue
      refine ⟨rest, by rw [hrest]; rfl, ?_⟩
      intro b' hmem
      rcases List.mem_cons.mp hmem with rfl | hmem
      · exact hb
      · exact hall b' hmem

/-- Two strings at one place are the same. -/
theorem until_nul_of {value rest : Bytes} (hall : ∀ b ∈ value, b ≠ 0) :
    until_nul (value ++ 0 :: rest) = some value := by
  induction value with
  | nil => rfl
  | cons b value ih =>
    rw [List.cons_append, until_nul, if_neg (hall b List.mem_cons_self),
      ih fun b' hmem => hall b' (List.mem_cons_of_mem _ hmem)]
    rfl

theorem printable_of {value : Bytes} (h : value.all (fun c => 32 ≤ c && c < 127) = true) :
    ∀ b ∈ value, 32 ≤ b ∧ b < 127 := by
  intro b hb
  simpa using List.all_eq_true.mp h b hb

section inspection

variable {data : Bytes} (label : String)

theorem outcome_cstring (raw : Bytes) (offset : Nat) :
    Outcome (CString raw offset) IsPackage (cstring label raw offset) := by
  apply (outcome_require _ _).bind
  intro _ _ _
  cases hend : until_nul (raw.drop offset) with
  | none => exact outcome_package _
  | some value =>
    apply (outcome_require _ _).bind
    intro _ _ hvalue
    obtain ⟨hne, hall⟩ := hvalue
    obtain ⟨rest, hrest, -⟩ := until_nul_some hend
    exact outcome_pure ⟨value, rest, hrest, hne, printable_of hall, rfl⟩

theorem CString.nonzero {value : Bytes} (hall : ∀ b ∈ value, 32 ≤ b ∧ b < 127) :
    ∀ b ∈ value, b ≠ 0 := by
  intro b hb hzero
  rw [hzero] at hb
  exact absurd (hall 0 hb).1 (by decide)

/-- A string that is there is read. -/
theorem cstring_of {raw : Bytes} {offset : Nat} {text : Text} (h : CString raw offset text) :
    cstring label raw offset = .ok text := by
  obtain ⟨value, rest, hraw, hne, hall, rfl⟩ := h
  have hinside : offset < raw.length := by
    by_contra hout
    rw [List.drop_of_length_le (by omega)] at hraw
    exact absurd hraw.symm (List.append_ne_nil_of_right_ne_nil _ (List.cons_ne_nil _ _))
  have hend : until_nul (raw.drop offset) = some value := by
    rw [hraw]
    exact until_nul_of (CString.nonzero hall)
  have hprintable : value ≠ [] ∧ value.all (fun c => 32 ≤ c && c < 127) = true := by
    refine ⟨hne, List.all_eq_true.mpr ?_⟩
    intro b hb
    simpa using hall b hb
  unfold cstring require
  simp only [if_pos hinside, pure_bind, hend]
  rw [if_pos hprintable]
  rfl

theorem CString.unique {raw : Bytes} {offset : Nat} {text text' : Text}
    (h : CString raw offset text) (h' : CString raw offset text') : text = text' := by
  have hread := cstring_of "" h
  rw [cstring_of "" h'] at hread
  exact (Except.ok.inj hread).symm

theorem outcome_span (offset size : Nat) : Outcome
    (fun bytes => offset + size ≤ data.length ∧ bytes = slice data offset size) IsPackage
    (span data label offset size) := by
  apply (outcome_require _ _).bind
  intro _ _ hfits
  exact outcome_pure ⟨by omega, rfl⟩

theorem outcome_unpack_from {size offset : Nat} {raw : Bytes} (h : offset + size ≤ raw.length) :
    Outcome (fun record => record = slice raw offset size) IsPackage
      (unpack_from size raw offset) := by
  unfold unpack_from
  rw [if_pos h]
  exact outcome_pure rfl

/-! ## Program headers -/

/-- Where the program headers are, and how many there are. -/
def phoff (data : Bytes) : Nat := field (slice data 32 8) 0 8

def phcount (data : Bytes) : Nat := field (slice data 54 4) 2 2

/-- The record of a program header. -/
def header (data : Bytes) (i : Nat) : Bytes := slice data (phoff data + i * 56) 56

/-- A segment that is loaded. -/
def load_of (record : Bytes) : Option Load :=
  if field record 0 4 = 1 then some ⟨field record 16 8, field record 8 8, field record 32 8⟩
  else none

/-- A dynamic segment, with its bytes. -/
def dynamic_of (data record : Bytes) : Option (Nat × Nat × Bytes) :=
  if field record 0 4 = 2 then
    some (field record 8 8, field record 16 8, slice data (field record 8 8) (field record 32 8))
  else none

/-- Every loaded segment is inside the file. -/
def InFile (data : Bytes) (loads : List Load) : Prop :=
  ∀ l ∈ loads, l.offset + l.length ≤ data.length

/-- What has been collected from program headers. -/
structure Collected (data : Bytes) (records : List Bytes) (s : Segments) : Prop where
  loads : s.loads = records.filterMap load_of
  dynamics : s.dynamics = records.filterMap (dynamic_of data)
  in_file : InFile data s.loads

theorem outcome_program_header {records : List Bytes} {s : Segments} (record : Bytes)
    (hs : Collected data records s) : Outcome (Collected data (records ++ [record])) IsPackage
      (program_header data label s record) := by
  have hkind : ∀ {kind : Nat}, field record 0 4 = kind → kind ≠ 1 → load_of record = none := by
    intro kind hkind hne
    unfold load_of
    rw [hkind, if_neg hne]
  have hkind' : ∀ {kind : Nat}, field record 0 4 = kind → kind ≠ 2 →
      dynamic_of data record = none := by
    intro kind hkind hne
    unfold dynamic_of
    rw [hkind, if_neg hne]
  have hsame : ∀ s' : Segments, s'.loads = s.loads → s'.dynamics = s.dynamics →
      load_of record = none → dynamic_of data record = none →
      Collected data (records ++ [record]) s' := by
    intro s' hloads hdynamics hload hdynamic
    refine ⟨?_, ?_, ?_⟩
    · rw [hloads, hs.loads, List.filterMap_append, List.filterMap_cons_none hload,
        List.filterMap_nil, List.append_nil]
    · rw [hdynamics, hs.dynamics, List.filterMap_append, List.filterMap_cons_none hdynamic,
        List.filterMap_nil, List.append_nil]
    · rw [hloads]
      exact hs.in_file
  unfold program_header
  simp only
  by_cases hnull : field record 0 4 = 0
  · rw [if_pos hnull]
    exact outcome_pure (hsame s rfl rfl (hkind hnull (by decide)) (hkind' hnull (by decide)))
  rw [if_neg hnull]
  apply (outcome_span label _ _).bind
  intro raw _ hraw
  obtain ⟨hfits, rfl⟩ := hraw
  by_cases hload : field record 0 4 = 1
  · rw [if_pos hload]
    apply (outcome_require _ _).bind
    intro _ _ _
    have hsome : load_of record =
        some ⟨field record 16 8, field record 8 8, field record 32 8⟩ := by
      unfold load_of
      rw [if_pos hload]
    refine outcome_pure ⟨?_, ?_, ?_⟩
    · rw [List.filterMap_append, List.filterMap_cons_some hsome, hs.loads]
      rfl
    · rw [List.filterMap_append, List.filterMap_cons_none (hkind' hload (by decide)),
        List.filterMap_nil, List.append_nil]
      exact hs.dynamics
    · intro l hl
      rcases List.mem_append.mp hl with hl | hl
      · exact hs.in_file l hl
      · rw [List.mem_singleton.mp hl]
        exact hfits
  rw [if_neg hload]
  by_cases hdynamic : field record 0 4 = 2
  · rw [if_pos hdynamic]
    apply (outcome_require _ _).bind
    intro _ _ _
    have hsome : dynamic_of data record = some (field record 8 8, field record 16 8,
        slice data (field record 8 8) (field record 32 8)) := by
      unfold dynamic_of
      rw [if_pos hdynamic]
    refine outcome_pure ⟨?_, ?_, hs.in_file⟩
    · rw [List.filterMap_append, List.filterMap_cons_none (hkind hdynamic (by decide)),
        List.filterMap_nil, List.append_nil]
      exact hs.loads
    · rw [List.filterMap_append, List.filterMap_cons_some hsome, hs.dynamics]
      rfl
  rw [if_neg hdynamic]
  have hnone := hkind rfl hload
  have hnone' := hkind' rfl hdynamic
  by_cases hinterp : field record 0 4 = 3
  · rw [if_pos hinterp]
    apply (outcome_cstring label _ 0).bind
    intro interpreter _ _
    exact outcome_pure (hsame _ rfl rfl hnone hnone')
  · rw [if_neg hinterp]
    exact outcome_pure (hsame s rfl rfl hnone hnone')

theorem outcome_program_headers {start count index : Nat} {records : List Bytes} {s : Segments}
    (hs : Collected data records s) (hfits : start + (index + count) * 56 ≤ data.length) :
    Outcome (Collected data (records ++
      (List.range' index count).map fun i => slice data (start + i * 56) 56)) IsPackage
      (program_headers data label start count index s) := by
  induction count generalizing index records s with
  | zero =>
    rw [List.range'_zero, List.map_nil, List.append_nil]
    exact outcome_pure hs
  | succ count ih =>
    have hrecord : start + index * 56 + 56 ≤ data.length := by omega
    apply (outcome_unpack_from hrecord).bind
    intro record _ heq
    rw [heq]
    apply (outcome_program_header label _ hs).bind
    intro s' _ hs'
    have hrest := ih hs' (show start + (index + 1 + count) * 56 ≤ data.length by omega)
    rw [List.append_assoc] at hrest
    exact hrest

/-- The segments that a file lists. -/
structure Listed (data : Bytes) (s : Segments) : Prop where
  loads : s.loads = ((List.range (phcount data)).map (header data)).filterMap load_of
  dynamics : s.dynamics = ((List.range (phcount data)).map (header data)).filterMap (dynamic_of data)
  in_file : InFile data s.loads
  one_dynamic : s.dynamics.length ≤ 1

theorem outcome_segments : Outcome (Listed data) IsPackage (segments data label) := by
  apply (outcome_require _ _).bind
  intro _ _ hmagic
  apply (outcome_unpack_from (show 32 + 8 ≤ data.length by omega)).bind
  intro first _ hfirst
  apply (outcome_unpack_from (show 54 + 4 ≤ data.length by omega)).bind
  intro counts _ hcounts
  rw [hfirst, hcounts]
  apply (outcome_require _ _).bind
  intro _ _ hsize
  obtain ⟨hphsize, -, -⟩ := hsize
  apply (outcome_span label _ _).bind
  intro table _ htable
  rw [hphsize] at htable
  have hstart : Collected data [] {} := ⟨rfl, rfl, fun _ h => absurd h List.not_mem_nil⟩
  have hfits : phoff data + (0 + phcount data) * 56 ≤ data.length := by
    have hle := htable.1
    show field (slice data 32 8) 0 8 + (0 + field (slice data 54 4) 2 2) * 56 ≤ data.length
    omega
  apply (outcome_program_headers label hstart hfits).bind
  intro s _ hs
  apply (outcome_require _ _).bind
  intro _ _ hone
  have hrecords : [] ++ (List.range' 0 (phcount data)).map (fun i => slice data (phoff data + i * 56) 56)
      = (List.range (phcount data)).map (header data) := by
    rw [List.nil_append, ← List.range_eq_range']
    rfl
  rw [hrecords] at hs
  exact outcome_pure ⟨hs.loads, hs.dynamics, hs.in_file, hone.2.1⟩

/-! ## Addresses -/

/-- Where an address is in the file: in a loaded segment that has all of the
    bytes asked for. -/
def Mapped (loads : List Load) (address size offset : Nat) : Prop :=
  ∃ l ∈ loads, l.address ≤ address ∧ address + size ≤ l.address + l.length ∧
    offset = l.offset + (address - l.address)

theorem mem_file_offsets {loads : List Load} {address size offset : Nat} :
    offset ∈ file_offsets loads address size ↔ Mapped loads address size offset := by
  unfold file_offsets Mapped
  rw [List.mem_dedup, List.mem_map]
  constructor
  · intro h
    obtain ⟨l, hl, rfl⟩ := h
    obtain ⟨hl, hfits⟩ := List.mem_filter.mp hl
    have hfits := of_decide_eq_true hfits
    exact ⟨l, hl, hfits.1, by omega, by omega⟩
  · intro h
    obtain ⟨l, hl, hle, hfits, rfl⟩ := h
    refine ⟨l, List.mem_filter.mpr ⟨hl, decide_eq_true ⟨hle, by omega, by omega⟩⟩, by omega⟩

/-- An address that is found is in one place only, and in the file. -/
theorem outcome_file_address {loads : List Load} (hloads : InFile data loads) (address size : Nat) :
    Outcome (fun offset => offset + size ≤ data.length ∧ Mapped loads address size offset ∧
      ∀ offset', Mapped loads address size offset' → offset' = offset) IsPackage
      (file_address label loads address size) := by
  unfold file_address
  split
  · rename_i offset heq
    have hmapped : Mapped loads address size offset := by
      rw [← mem_file_offsets, heq]
      exact List.mem_cons_self
    refine outcome_pure ⟨?_, hmapped, ?_⟩
    · obtain ⟨l, hl, hle, hfits, rfl⟩ := hmapped
      have hin := hloads l hl
      omega
    · intro offset' hmapped'
      have hmem' := mem_file_offsets.mpr hmapped'
      rw [heq] at hmem'
      exact List.mem_singleton.mp hmem'
  · exact outcome_package _

/-- An address that is in one place is found. -/
theorem file_address_of {loads : List Load} {address size offset : Nat}
    (h : Mapped loads address size offset)
    (hone : ∀ offset', Mapped loads address size offset' → offset' = offset) :
    file_address label loads address size = .ok offset := by
  have hnodup : (file_offsets loads address size).Nodup := List.nodup_dedup _
  have hmem : offset ∈ file_offsets loads address size := mem_file_offsets.mpr h
  have hsingle : file_offsets loads address size = [offset] := by
    cases hoffsets : file_offsets loads address size with
    | nil =>
      rw [hoffsets] at hmem
      exact absurd hmem List.not_mem_nil
    | cons first rest =>
      have hall : ∀ offset' ∈ first :: rest, offset' = offset := by
        intro offset' hmem'
        rw [← hoffsets] at hmem'
        exact hone offset' (mem_file_offsets.mp hmem')
      rw [hoffsets] at hnodup
      cases rest with
      | nil => rw [hall first List.mem_cons_self]
      | cons second rest =>
        have hfirst := hall first List.mem_cons_self
        have hsecond := hall second (List.mem_cons_of_mem _ List.mem_cons_self)
        rw [hfirst, hsecond] at hnodup
        exact absurd List.mem_cons_self (List.nodup_cons.mp hnodup).1
  unfold file_address
  rw [hsingle]
  rfl

/-! ## The dynamic table -/

/-- An entry of the dynamic table. -/
def entry (dynamic : Bytes) (i : Nat) : Int × Nat :=
  (signed (field (slice dynamic (i * 16) 16) 0 8), field (slice dynamic (i * 16) 16) 8 8)

/-- The entries of a dynamic table are those in front of its first `DT_NULL`. -/
def Entries (dynamic : Bytes) (tags : List (Int × Nat)) : Prop :=
  ∃ n, n * 16 + 16 ≤ dynamic.length ∧ tags = (List.range n).map (entry dynamic) ∧
    (∀ e ∈ tags, e.1 ≠ 0) ∧ (entry dynamic n).1 = 0

theorem outcome_dynamic_tags {dynamic : Bytes} {count index : Nat} {tags : List (Int × Nat)}
    (htags : tags = (List.range index).map (entry dynamic)) (hnonzero : ∀ e ∈ tags, e.1 ≠ 0)
    (hfits : (index + count) * 16 ≤ dynamic.length) :
    Outcome (Entries dynamic) IsPackage (dynamic_tags label dynamic count (index * 16) tags) := by
  induction count generalizing index tags with
  | zero => exact outcome_package _
  | succ count ih =>
    have hrecord : index * 16 + 16 ≤ dynamic.length := by omega
    apply (outcome_unpack_from hrecord).bind
    intro record _ heq
    rw [heq]
    show Outcome _ _ (if (entry dynamic index).1 = 0 then pure tags
      else dynamic_tags label dynamic count (index * 16 + 16) (tags ++ [entry dynamic index]))
    by_cases hnull : (entry dynamic index).1 = 0
    · rw [if_pos hnull]
      exact outcome_pure ⟨index, hrecord, htags, hnonzero, hnull⟩
    · rw [if_neg hnull]
      have hnext : index * 16 + 16 = (index + 1) * 16 := by omega
      rw [hnext]
      refine ih ?_ ?_ (by omega)
      · rw [List.range_succ, List.map_append, htags]
        rfl
      · intro e he
        rcases List.mem_append.mp he with he | he
        · exact hnonzero e he
        · rw [List.mem_singleton.mp he]
          exact hnull

theorem outcome_check_single (tags : List (Int × Nat)) (l : List Int) :
    Outcome (fun _ => ∀ tag ∈ l, (values tags tag).length ≤ 1) IsPackage
      (check_single label tags l) := by
  induction l with
  | nil => exact outcome_pure fun _ h => absurd h List.not_mem_nil
  | cons tag rest ih =>
    apply (outcome_require _ _).bind
    intro _ _ hone
    apply ih.mono
    · intro _ hrest tag' htag'
      rcases List.mem_cons.mp htag' with rfl | htag'
      · exact hone
      · exact hrest tag' htag'
    · exact fun _ h => h

/-- A tag that is there has a first value. -/
theorem outcome_first {tags : List (Int × Nat)} {tag : Int} (h : has_tag tags tag = true) :
    Outcome (fun value => (tag, value) ∈ tags ∧ (values tags tag).head? = some value) IsPackage
      (first tags tag) := by
  unfold first
  cases hvalues : values tags tag with
  | nil =>
    unfold has_tag at h
    rw [hvalues] at h
    cases h
  | cons value rest =>
    refine outcome_pure ⟨?_, rfl⟩
    have hmem : value ∈ values tags tag := by
      rw [hvalues]
      exact List.mem_cons_self
    obtain ⟨e, he, rfl⟩ := List.mem_map.mp hmem
    obtain ⟨he, htag⟩ := List.mem_filter.mp he
    rw [← of_decide_eq_true htag]
    exact he

/-- What the dynamic segment of a file refers to. -/
structure TablesOf (data : Bytes) (t : Tables) : Prop where
  loads : t.loads = ((List.range (phcount data)).map (header data)).filterMap load_of
  in_file : InFile data t.loads
  dynamic : ∃ d, ((List.range (phcount data)).map (header data)).filterMap (dynamic_of data) = [d] ∧
    Entries d.2.2 t.tags
  strings : ∃ address size start, (values t.tags 5).head? = some address ∧
    (values t.tags 10).head? = some size ∧ Mapped t.loads address size start ∧
    t.strings = slice data start size

theorem outcome_tables {s : Segments} (hs : Listed data s) {d : Nat × Nat × Bytes}
    {rest : List (Nat × Nat × Bytes)} (hd : s.dynamics = d :: rest) :
    Outcome (TablesOf data) IsPackage (tables data label s.loads d.1 d.2.1 d.2.2) := by
  have hone : s.dynamics = [d] := by
    have hlength := hs.one_dynamic
    rw [hd, List.length_cons] at hlength
    have hrest : rest = [] := List.length_eq_zero_iff.mp (by omega)
    rw [hd, hrest]
  apply (outcome_file_address label hs.in_file _ _).bind
  intro offset _ _
  apply (outcome_require _ _).bind
  intro _ _ _
  apply (outcome_require _ _).bind
  intro _ _ _
  have hstart : ([] : List (Int × Nat)) = (List.range 0).map (entry d.2.2) := rfl
  have hcount : (0 + d.2.2.length / 16) * 16 ≤ d.2.2.length := by omega
  apply (outcome_dynamic_tags label hstart (fun _ h => absurd h List.not_mem_nil) hcount).bind
  intro tags _ htags
  apply (outcome_check_single label tags single_tags).bind
  intro _ _ _
  apply (outcome_require _ _).bind
  intro _ _ hboth
  apply (outcome_first hboth.1).bind
  intro address _ haddress
  apply (outcome_first hboth.2.1).bind
  intro size _ hsize
  apply (outcome_file_address label hs.in_file address size).bind
  intro start _ hmapped
  apply (outcome_span label start size).bind
  intro strings _ hstrings
  exact outcome_pure ⟨hs.loads, hs.in_file, ⟨d, hs.dynamics.symm.trans hone, htags⟩,
    address, size, start, haddress.2, hsize.2, hmapped.2.1, hstrings.2⟩

end inspection

/-! ## Version numbers -/

/-- The number that decimal digits stand for. -/
def number (part : Text) : Nat := part.foldl (fun n c => n * 10 + digit_value c) 0

/-- The numbers of a version. -/
def VersionOf (name : Text) (version : List Nat) : Prop :=
  ∃ parts, version_parts name = some parts ∧ version = parts.map number

/-- A version with more digits in a row than `int` takes. -/
def TooLong (name : Text) : Prop :=
  ∃ parts, version_parts name = some parts ∧ ∃ part ∈ parts, part.length > max_str_digits

theorem digit_value_lt {c : Char} (h : isdigit c = true) : digit_value c < 10 := by
  have hle : c ≤ '9' := by
    unfold isdigit at h
    simp only [Bool.and_eq_true, decide_eq_true_eq] at h
    exact h.2
  have hnat : c.toNat ≤ '9'.toNat := hle
  unfold digit_value
  rw [if_pos h]
  show c.toNat - 48 < 10
  have hnine : '9'.toNat = 57 := rfl
  omega

theorem number_lt {part : Text} (h : part.all isdigit = true) : number part < 10 ^ part.length := by
  have hfold : ∀ (part : Text) (n k : Nat), part.all isdigit = true → n < 10 ^ k →
      part.foldl (fun n c => n * 10 + digit_value c) n < 10 ^ (k + part.length) := by
    intro part
    induction part with
    | nil =>
      intro n k _ hn
      exact hn
    | cons c part ih =>
      intro n k hall hn
      rw [List.all_cons, Bool.and_eq_true] at hall
      have hdigit := digit_value_lt hall.1
      have hstep : n * 10 + digit_value c < 10 ^ (k + 1) := by
        rw [Nat.pow_succ]
        omega
      have hrest := ih _ (k + 1) hall.2 hstep
      rw [Nat.add_assoc, Nat.add_comm 1 part.length] at hrest
      exact hrest
  have hall := hfold part 0 0 h (by decide)
  rw [Nat.zero_add] at hall
  exact hall

theorem version_parts_digits {name : Text} {parts : List Text} (h : version_parts name = some parts) :
    ("GLIBC_" : Text).isPrefixOf name = true ∧ ∀ part ∈ parts, part.all isdigit = true := by
  unfold version_parts at h
  simp only at h
  split at h
  · rename_i hversion
    obtain rfl := Option.some.inj h
    refine ⟨hversion.1, ?_⟩
    intro part hpart
    have hall := List.all_eq_true.mp hversion.2.2 part hpart
    rw [Bool.and_eq_true] at hall
    exact hall.2
  · cases h

theorem outcome_ints (parts : List Text) :
    Outcome (fun version => version = parts.map number ∧
        ∀ part ∈ parts, ¬ part.length > max_str_digits)
      (fun e => e = .value ∧ ∃ part ∈ parts, part.length > max_str_digits) (ints parts) := by
  induction parts with
  | nil => exact outcome_pure ⟨rfl, fun _ h => absurd h List.not_mem_nil⟩
  | cons part rest ih =>
    unfold ints int
    by_cases hlong : part.length > max_str_digits
    · rw [if_pos hlong]
      exact outcome_throw ⟨rfl, part, List.mem_cons_self, hlong⟩
    · rw [if_neg hlong]
      show Outcome _ _ (ints rest >>= fun ns => pure (number part :: ns))
      apply (ih.mono (fun _ h => h) ?_).bind
      · intro version _ hversion
        obtain ⟨rfl, hshort⟩ := hversion
        refine outcome_pure ⟨rfl, ?_⟩
        intro part' hpart'
        rcases List.mem_cons.mp hpart' with rfl | hpart'
        · exact hlong
        · exact hshort part' hpart'
      · intro e he
        obtain ⟨rfl, part', hpart', hlong'⟩ := he
        exact ⟨rfl, part', List.mem_cons_of_mem _ hpart', hlong'⟩

/-! ## What is collected from the version requirements -/

/-- A version of a library is in a dictionary. -/
def Has (required : List (Text × List Text)) (library name : Text) : Prop :=
  ∃ names, (library, names) ∈ required ∧ name ∈ names

theorem has_append_name {required : List (Text × List Text)} {library name : Text}
    (hkey : library ∈ required.map Prod.fst) (library' name' : Text) :
    Has (append_name required library name) library' name' ↔
      Has required library' name' ∨ (library' = library ∧ name' = name) := by
  unfold Has append_name
  constructor
  · intro h
    obtain ⟨names, hmem, hname⟩ := h
    obtain ⟨e, he, heq⟩ := List.mem_map.mp hmem
    by_cases hlibrary : e.1 = library
    · rw [if_pos hlibrary] at heq
      obtain ⟨rfl, rfl⟩ := Prod.mk.inj heq
      rcases List.mem_append.mp hname with hname | hname
      · exact .inl ⟨e.2, he, hname⟩
      · exact .inr ⟨hlibrary, List.mem_singleton.mp hname⟩
    · rw [if_neg hlibrary] at heq
      rw [heq] at he
      exact .inl ⟨names, he, hname⟩
  · intro h
    rcases h with ⟨names, hmem, hname⟩ | ⟨rfl, rfl⟩
    · by_cases hlibrary : library' = library
      · exact ⟨names ++ [name], List.mem_map.mpr ⟨_, hmem, by rw [if_pos hlibrary]⟩,
          List.mem_append_left _ hname⟩
      · exact ⟨names, List.mem_map.mpr ⟨_, hmem, by rw [if_neg hlibrary]⟩, hname⟩
    · obtain ⟨e, he, hkey⟩ := List.mem_map.mp hkey
      exact ⟨e.2 ++ [name'], List.mem_map.mpr ⟨e, he, by rw [if_pos hkey, hkey]⟩,
        List.mem_append_right _ List.mem_cons_self⟩

theorem keys_append_name (required : List (Text × List Text)) (library name : Text) :
    (append_name required library name).map Prod.fst = required.map Prod.fst := by
  unfold append_name
  rw [List.map_map]
  apply List.map_congr_left
  intro e _
  show Prod.fst (if e.1 = library then _ else _) = _
  split
  · rfl
  · rfl

theorem has_set_default (required : List (Text × List Text)) (library library' name : Text) :
    Has (set_default required library) library' name ↔ Has required library' name := by
  unfold set_default
  split
  · exact Iff.rfl
  · constructor
    · intro h
      obtain ⟨names, hmem, hname⟩ := h
      rcases List.mem_append.mp hmem with hmem | hmem
      · exact ⟨names, hmem, hname⟩
      · obtain ⟨-, rfl⟩ := Prod.mk.inj (List.mem_singleton.mp hmem)
        exact absurd hname List.not_mem_nil
    · intro h
      obtain ⟨names, hmem, hname⟩ := h
      exact ⟨names, List.mem_append_left _ hmem, hname⟩

theorem keys_set_default (required : List (Text × List Text)) (library : Text) :
    library ∈ (set_default required library).map Prod.fst ∧
      ∀ key ∈ (set_default required library).map Prod.fst, key ∈ required.map Prod.fst ∨ key = library := by
  unfold set_default
  split
  · rename_i hany
    obtain ⟨e, he, heq⟩ := List.any_eq_true.mp hany
    exact ⟨List.mem_map.mpr ⟨e, he, of_decide_eq_true heq⟩, fun _ h => .inl h⟩
  · rw [List.map_append]
    refine ⟨List.mem_append_right _ List.mem_cons_self, ?_⟩
    intro key hkey
    exact (List.mem_append.mp hkey).imp id List.mem_singleton.mp

/-- The dictionary and the numbers have grown by these names of a library. -/
structure Grown (v v' : Versions) (new : Text → Text → Prop) : Prop where
  has : ∀ library name, Has v'.required library name ↔
    Has v.required library name ∨ new library name
  numeric : ∀ version, version ∈ v'.numeric ↔
    version ∈ v.numeric ∨ ∃ library name, new library name ∧ VersionOf name version
  short : ∀ library name, new library name → ¬ TooLong name

theorem Grown.trans {v v' v'' : Versions} {new new' new'' : Text → Text → Prop}
    (h : Grown v v' new) (h' : Grown v' v'' new')
    (hnew : ∀ library name, new'' library name ↔ new library name ∨ new' library name) :
    Grown v v'' new'' where
  has := by
    intro library name
    rw [h'.has, h.has, hnew, or_assoc]
  numeric := by
    intro version
    rw [h'.numeric, h.numeric, or_assoc]
    constructor
    · intro hversion
      rcases hversion with hversion | ⟨library, name, hmem, hof⟩ | ⟨library, name, hmem, hof⟩
      · exact .inl hversion
      · exact .inr ⟨library, name, (hnew _ _).mpr (.inl hmem), hof⟩
      · exact .inr ⟨library, name, (hnew _ _).mpr (.inr hmem), hof⟩
    · intro hversion
      rcases hversion with hversion | ⟨library, name, hmem, hof⟩
      · exact .inl hversion
      · rcases (hnew _ _).mp hmem with hmem | hmem
        · exact .inr (.inl ⟨library, name, hmem, hof⟩)
        · exact .inr (.inr ⟨library, name, hmem, hof⟩)
  short := by
    intro library name hmem
    rcases (hnew _ _).mp hmem with hmem | hmem
    · exact h.short library name hmem
    · exact h'.short library name hmem

theorem outcome_note_version {v : Versions} {library : Text}
    (hkey : library ∈ v.required.map Prod.fst) (name : Text) :
    Outcome (fun v' => v'.required.map Prod.fst = v.required.map Prod.fst ∧
        Grown v v' fun library' name' => library' = library ∧ name' = name)
      (fun e => e = .value ∧ TooLong name) (note_version v library name) := by
  have hhas : ∀ library' name', Has (append_name v.required library name) library' name' ↔
      Has v.required library' name' ∨ (library' = library ∧ name' = name) := has_append_name hkey
  have hkeys := keys_append_name v.required library name
  -- a name without numbers adds none, and has none that are too long
  have hplain : version_parts name = none → ∀ extra, Grown v
      { v with required := append_name v.required library name, extra := extra }
      fun library' name' => library' = library ∧ name' = name := by
    intro hnone extra
    have hno_version : ∀ version, ¬ VersionOf name version := by
      intro version h
      obtain ⟨parts, hparts, -⟩ := h
      rw [hnone] at hparts
      cases hparts
    refine ⟨hhas, ?_, ?_⟩
    · intro version
      constructor
      · exact .inl
      · intro h
        rcases h with h | ⟨_, _, ⟨-, rfl⟩, hof⟩
        · exact h
        · exact absurd hof (hno_version version)
    · intro _ _ hsame hlong
      obtain ⟨-, rfl⟩ := hsame
      obtain ⟨parts, hparts, -⟩ := hlong
      rw [hnone] at hparts
      cases hparts
  unfold note_version
  simp only
  by_cases hprefix : ("GLIBC_" : Text).isPrefixOf name = true
  · rw [if_pos hprefix]
    cases hparts : version_parts name with
    | none => exact outcome_pure ⟨hkeys, hplain hparts _⟩
    | some parts =>
      apply ((outcome_ints parts).mono (fun _ h => h) ?_).bind
      · intro version _ hversion
        obtain ⟨rfl, hshort⟩ := hversion
        have hunique : ∀ version, VersionOf name version ↔ version = parts.map number := by
          intro version
          constructor
          · intro h
            obtain ⟨parts', hparts', rfl⟩ := h
            rw [hparts] at hparts'
            rw [Option.some.inj hparts']
          · intro h
            exact ⟨parts, hparts, h⟩
        refine outcome_pure ⟨hkeys, hhas, ?_, ?_⟩
        · intro version
          rw [List.mem_append, List.mem_singleton]
          constructor
          · intro h
            exact h.imp id fun heq => ⟨library, name, ⟨rfl, rfl⟩, (hunique version).mpr heq⟩
          · intro h
            rcases h with h | ⟨_, _, ⟨-, rfl⟩, hof⟩
            · exact .inl h
            · exact .inr ((hunique version).mp hof)
        · intro _ _ hsame hlong
          obtain ⟨-, rfl⟩ := hsame
          obtain ⟨parts', hparts', part, hpart, hlength⟩ := hlong
          rw [hparts] at hparts'
          rw [← Option.some.inj hparts'] at hpart
          exact hshort part hpart hlength
      · intro e he
        obtain ⟨rfl, part, hpart, hlong⟩ := he
        exact ⟨rfl, parts, hparts, part, hpart, hlong⟩
  · rw [if_neg hprefix]
    have hnone : version_parts name = none := by
      cases hparts : version_parts name with
      | none => rfl
      | some parts => exact absurd (version_parts_digits hparts).1 hprefix
    exact outcome_pure ⟨hkeys, hplain hnone v.extra⟩

/-! ## Chains -/

/-- Where the next entry of a chain may be. -/
abbrev Follows (last : Bool) (next : Nat) : Prop := if last then next = 0 else next ≥ 16

/-- The one place in the file where a record of 16 bytes is. -/
def RecordAt (loads : List Load) (address offset : Nat) : Prop :=
  Mapped loads address 16 offset ∧ ∀ offset', Mapped loads address 16 offset' → offset' = offset

section chains

variable (data : Bytes) (t : Tables) (needed : List Text)

/-- The auxiliary entry at an address: its name, and where the next one is. -/
def AuxAt (address : Nat) (name : Text) (next : Nat) : Prop :=
  ∃ offset, RecordAt t.loads address offset ∧
    CString t.strings (field (slice data offset 16) 8 4) name ∧
    next = field (slice data offset 16) 12 4

/-- The entry of the version requirements at an address. -/
def NeedAt (address : Nat) (need : Need) : Prop :=
  ∃ offset, RecordAt t.loads address offset ∧
    field (slice data offset 16) 0 2 = 1 ∧ need.aux_count = field (slice data offset 16) 2 2 ∧
    0 < need.aux_count ∧ need.aux_count ≤ 4096 ∧
    CString t.strings (field (slice data offset 16) 4 4) need.library ∧ need.library ∈ needed ∧
    need.aux = field (slice data offset 16) 8 4 ∧ need.aux ≥ 16 ∧
    need.next_entry = field (slice data offset 16) 12 4

/-- The names that are met along a chain of auxiliary entries. -/
inductive AuxNames : Nat → Nat → Text → Prop where
  | here {address count next : Nat} {name : Text} :
      AuxAt data t address name next → AuxNames address (count + 1) name
  | later {address count next : Nat} {name other : Text} :
      AuxAt data t address other next → Follows (count = 0) next →
      AuxNames (address + next) count name → AuxNames address (count + 1) name

/-- A chain of auxiliary entries that has its end. -/
inductive AuxEnds : Nat → Nat → Prop where
  | done {address : Nat} : AuxEnds address 0
  | next {address count next : Nat} {name : Text} :
      AuxAt data t address name next → Follows (count = 0) next →
      AuxEnds (address + next) count → AuxEnds address (count + 1)

/-- The libraries and names that are met along the version requirements. -/
inductive NeedNames : Nat → Nat → Text → Text → Prop where
  | here {address count : Nat} {need : Need} {name : Text} :
      NeedAt data t needed address need → AuxNames data t (address + need.aux) need.aux_count name →
      NeedNames address (count + 1) need.library name
  | later {address count : Nat} {need : Need} {library name : Text} :
      NeedAt data t needed address need → AuxEnds data t (address + need.aux) need.aux_count →
      Follows (count = 0) need.next_entry →
      NeedNames (address + need.next_entry) count library name →
      NeedNames address (count + 1) library name

end chains

section loops

variable {data : Bytes} {label : String} {t : Tables} {needed : List Text}

/-- There is one entry at an address. -/
theorem AuxAt.unique {address next next' : Nat} {name name' : Text}
    (h : AuxAt data t address name next) (h' : AuxAt data t address name' next') :
    name = name' ∧ next = next' := by
  obtain ⟨offset, ⟨-, hone⟩, hname, rfl⟩ := h
  obtain ⟨offset', ⟨hmapped', -⟩, hname', rfl⟩ := h'
  obtain rfl := hone offset' hmapped'
  exact ⟨hname.unique hname', rfl⟩

theorem NeedAt.unique {address : Nat} {need need' : Need}
    (h : NeedAt data t needed address need) (h' : NeedAt data t needed address need') :
    need = need' := by
  obtain ⟨offset, ⟨-, hone⟩, -, hcount, -, -, hlibrary, -, haux, -, hnext⟩ := h
  obtain ⟨offset', ⟨hmapped', -⟩, -, hcount', -, -, hlibrary', -, haux', -, hnext'⟩ := h'
  obtain rfl := hone offset' hmapped'
  cases need
  cases need'
  rw [Need.mk.injEq]
  exact ⟨hlibrary.unique hlibrary', hcount.trans hcount'.symm, haux.trans haux'.symm,
    hnext.trans hnext'.symm⟩

theorem AuxNames.cases_at {address count next : Nat} {name name' : Text}
    (hat : AuxAt data t address name' next) :
    AuxNames data t address (count + 1) name ↔
      name = name' ∨ (Follows (count = 0) next ∧ AuxNames data t (address + next) count name) := by
  constructor
  · intro h
    cases h with
    | here hat' => exact .inl (hat'.unique hat).1
    | later hat' hfollows hlater =>
      obtain ⟨rfl, rfl⟩ := hat.unique hat'
      exact .inr ⟨hfollows, hlater⟩
  · intro h
    rcases h with rfl | ⟨hfollows, hlater⟩
    · exact .here hat
    · exact .later hat hfollows hlater

theorem AuxEnds.cases_at {address count next : Nat} {name : Text}
    (h : AuxEnds data t address (count + 1)) (hat : AuxAt data t address name next) :
    Follows (count = 0) next ∧ AuxEnds data t (address + next) count := by
  cases h with
  | next hat' hfollows hends =>
    obtain ⟨rfl, rfl⟩ := hat.unique hat'
    exact ⟨hfollows, hends⟩

theorem NeedNames.cases_at {address count : Nat} {need : Need} {library name : Text}
    (hat : NeedAt data t needed address need) :
    NeedNames data t needed address (count + 1) library name ↔
      (library = need.library ∧ AuxNames data t (address + need.aux) need.aux_count name) ∨
        (AuxEnds data t (address + need.aux) need.aux_count ∧
          Follows (count = 0) need.next_entry ∧
          NeedNames data t needed (address + need.next_entry) count library name) := by
  constructor
  · intro h
    cases h with
    | here hat' hname =>
      obtain rfl := hat.unique hat'
      exact .inl ⟨rfl, hname⟩
    | later hat' hends hfollows hlater =>
      obtain rfl := hat.unique hat'
      exact .inr ⟨hends, hfollows, hlater⟩
  · intro h
    rcases h with ⟨rfl, hname⟩ | ⟨hends, hfollows, hlater⟩
    · exact .here hat hname
    · exact .later hat hends hfollows hlater

/-- How a walk that meets these names may fail: at a version that is too
    long, or, if none of them is, with a `PackageError` in front of its end. -/
def WalkFails (ends : Prop) (met : Text → Prop) (e : PyError) : Prop :=
  (IsPackage e ∧ ¬ ends ∧ ∀ name, met name → ¬ TooLong name) ∨
    (e = .value ∧ ∃ name, met name ∧ TooLong name)

theorem outcome_read_aux (ht : InFile data t.loads) (address : Nat) :
    Outcome (fun found => AuxAt data t address found.1 found.2) IsPackage
      (read_aux data label t address) := by
  apply (outcome_file_address label ht address 16).bind
  intro offset _ hoffset
  apply (outcome_unpack_from hoffset.1).bind
  intro record _ hrecord
  rw [hrecord]
  apply (outcome_cstring label _ _).bind
  intro name _ hname
  exact outcome_pure ⟨offset, hoffset.2, hname, rfl⟩

/-- An auxiliary entry that is there is read. -/
theorem read_aux_of (ht : InFile data t.loads) {address next : Nat} {name : Text}
    (h : AuxAt data t address name next) : read_aux data label t address = .ok (name, next) := by
  obtain ⟨offset, ⟨hmapped, hone⟩, hname, rfl⟩ := h
  have hinside : offset + 16 ≤ data.length := by
    obtain ⟨l, hl, hle, hfits, rfl⟩ := hmapped
    have hin := ht l hl
    omega
  unfold read_aux
  rw [file_address_of label hmapped hone]
  show (unpack_from 16 data offset >>= _) = _
  unfold unpack_from
  rw [if_pos hinside]
  show (cstring label t.strings (field (slice data offset 16) 8 4) >>= _) = _
  rw [cstring_of label hname]
  rfl

theorem outcome_read_need (ht : InFile data t.loads) (address : Nat) :
    Outcome (NeedAt data t needed address) IsPackage (read_need data label t needed address) := by
  apply (outcome_file_address label ht address 16).bind
  intro offset _ hoffset
  apply (outcome_unpack_from hoffset.1).bind
  intro record _ hrecord
  rw [hrecord]
  apply (outcome_require _ _).bind
  intro _ _ hvalid
  apply (outcome_cstring label _ _).bind
  intro library _ hlibrary
  apply (outcome_require _ _).bind
  intro _ _ hdeclared
  obtain ⟨hversion, hpositive, hmost, haux⟩ := hvalid
  exact outcome_pure ⟨offset, hoffset.2, hversion, rfl, hpositive, hmost, hlibrary, hdeclared, rfl,
    haux, rfl⟩

/-- An entry of the version requirements that is there is read. -/
theorem read_need_of (ht : InFile data t.loads) {address : Nat} {need : Need}
    (h : NeedAt data t needed address need) : read_need data label t needed address = .ok need := by
  obtain ⟨offset, ⟨hmapped, hone⟩, hversion, hcount, hpositive, hmost, hlibrary, hdeclared, haux,
    hleast, hnext⟩ := h
  have hinside : offset + 16 ≤ data.length := by
    obtain ⟨l, hl, hle, hfits, rfl⟩ := hmapped
    have hin := ht l hl
    omega
  rw [hcount] at hpositive hmost
  rw [haux] at hleast
  unfold read_need
  rw [file_address_of label hmapped hone]
  show (unpack_from 16 data offset >>= _) = _
  unfold unpack_from
  rw [if_pos hinside]
  show (require (field (slice data offset 16) 0 2 = 1 ∧ 0 < field (slice data offset 16) 2 2 ∧
    field (slice data offset 16) 2 2 ≤ 4096 ∧ field (slice data offset 16) 8 4 ≥ 16) _ >>= _) = _
  unfold require
  rw [if_pos ⟨hversion, hpositive, hmost, hleast⟩]
  show (cstring label t.strings (field (slice data offset 16) 4 4) >>= _) = _
  rw [cstring_of label hlibrary]
  show ((if need.library ∈ needed then pure () else throw _ : Py Unit) >>= _) = _
  rw [if_pos hdeclared]
  show (Except.ok ⟨need.library, field (slice data offset 16) 2 2, field (slice data offset 16) 8 4,
    field (slice data offset 16) 12 4⟩ : Py Need) = _
  rw [← hcount, ← haux, ← hnext]

/-- The walk along the auxiliary entries of a library. -/
theorem outcome_aux_loop (ht : InFile data t.loads) {library : Text} {count address : Nat}
    {v : Versions} (hkey : library ∈ v.required.map Prod.fst) :
    Outcome (fun v' => v'.required.map Prod.fst = v.required.map Prod.fst ∧
        AuxEnds data t address count ∧
        Grown v v' fun library' name => library' = library ∧ AuxNames data t address count name)
      (WalkFails (AuxEnds data t address count) (AuxNames data t address count))
      (aux_loop data label t library count address v) := by
  induction count generalizing address v with
  | zero =>
    have hnone : ∀ name, ¬ AuxNames data t address 0 name := by
      intro name h
      cases h
    refine outcome_pure ⟨rfl, .done, ?_, ?_, ?_⟩
    · intro _ name
      simp [hnone name]
    · intro version
      simp [hnone]
    · intro _ name h
      exact absurd h.2 (hnone name)
  | succ count ih =>
    unfold aux_loop
    cases hread : read_aux data label t address with
    | error e =>
      have hfailed : ∀ name next, ¬ AuxAt data t address name next := by
        intro name next hat
        rw [read_aux_of ht hat] at hread
        cases hread
      refine .inl ⟨(outcome_read_aux ht address).of_error hread, ?_, ?_⟩
      · intro h
        cases h with
        | next hat => exact hfailed _ _ hat
      · intro name h
        cases h with
        | here hat => exact absurd hat (hfailed _ _)
        | later hat => exact absurd hat (hfailed _ _)
    | ok found =>
      obtain ⟨name, next⟩ := found
      have hat : AuxAt data t address name next := (outcome_read_aux ht address).of_ok hread
      have hnames : ∀ name', AuxNames data t address (count + 1) name' ↔
          name' = name ∨ (Follows (count = 0) next ∧ AuxNames data t (address + next) count name') :=
        fun name' => AuxNames.cases_at hat
      show Outcome _ _ (note_version v library name >>= _)
      cases hnote : note_version v library name with
      | error e =>
        obtain ⟨rfl, hlong⟩ := (outcome_note_version hkey name).of_error hnote
        exact .inr ⟨rfl, name, .here hat, hlong⟩
      | ok v₁ =>
        obtain ⟨hkeys, hgrown⟩ := (outcome_note_version hkey name).of_ok hnote
        have hshort : ¬ TooLong name := hgrown.short library name ⟨rfl, rfl⟩
        show Outcome _ _ (require (Follows (count = 0) next) _ >>= _)
        unfold require
        by_cases hfollows : Follows (decide (count = 0)) next
        · rw [if_pos hfollows]
          show Outcome _ _ (aux_loop data label t library count (address + next) v₁)
          have hkey₁ : library ∈ v₁.required.map Prod.fst := by
            rw [hkeys]
            exact hkey
          apply (ih hkey₁).mono
          · intro v' hv'
            obtain ⟨hkeys', hends, hgrown'⟩ := hv'
            refine ⟨hkeys'.trans hkeys, .next hat hfollows hends, hgrown.trans hgrown' ?_⟩
            intro library' name'
            rw [hnames name', and_or_left]
            simp only [hfollows, true_and]
          · intro e he
            rcases he with ⟨hpackage, hopen, hnone⟩ | ⟨rfl, name', hmet, hlong⟩
            · refine .inl ⟨hpackage, fun hends => hopen (hends.cases_at hat).2, ?_⟩
              intro name' hmet
              rcases (hnames name').mp hmet with rfl | ⟨-, hmet⟩
              · exact hshort
              · exact hnone name' hmet
            · exact .inr ⟨rfl, name', .later hat hfollows hmet, hlong⟩
        · rw [if_neg hfollows]
          refine .inl ⟨⟨_, rfl⟩, fun hends => hfollows (hends.cases_at hat).1, ?_⟩
          intro name' hmet
          rcases (hnames name').mp hmet with rfl | ⟨hfollows', -⟩
          · exact hshort
          · exact absurd hfollows' hfollows

/-- A library that is new in the dictionary adds no names. -/
theorem grown_set_default (v : Versions) (library : Text) :
    Grown v { v with required := set_default v.required library } fun _ _ => False where
  has := by
    intro library' name
    rw [or_false]
    exact has_set_default v.required library library' name
  numeric := by
    intro version
    simp
  short := fun _ _ h => h.elim

/-- The walk along the version requirements. -/
theorem outcome_need_loop (ht : InFile data t.loads) {count address : Nat} {v : Versions} :
    Outcome (fun v' => (∀ key ∈ v'.required.map Prod.fst, key ∈ v.required.map Prod.fst ∨ key ∈ needed) ∧
        Grown v v' (NeedNames data t needed address count))
      (WalkFails False fun name => ∃ library, NeedNames data t needed address count library name)
      (need_loop data label t needed count address v) := by
  induction count generalizing address v with
  | zero =>
    have hnone : ∀ library name, ¬ NeedNames data t needed address 0 library name := by
      intro library name h
      cases h
    refine outcome_pure ⟨fun _ h => .inl h, ?_, ?_, ?_⟩
    · intro library name
      simp [hnone library name]
    · intro version
      simp [hnone]
    · intro library name h
      exact absurd h (hnone library name)
  | succ count ih =>
    unfold need_loop
    cases hread : read_need data label t needed address with
    | error e =>
      refine .inl ⟨(outcome_read_need ht address).of_error hread, not_false, ?_⟩
      intro name h
      obtain ⟨library, h⟩ := h
      have hfailed : ∀ need, ¬ NeedAt data t needed address need := by
        intro need hat
        rw [read_need_of ht hat] at hread
        cases hread
      cases h with
      | here hat => exact absurd hat (hfailed _)
      | later hat => exact absurd hat (hfailed _)
    | ok need =>
      have hat : NeedAt data t needed address need := (outcome_read_need ht address).of_ok hread
      have hdeclared : need.library ∈ needed := by
        obtain ⟨_, -, -, -, -, -, -, hdeclared, -⟩ := hat
        exact hdeclared
      have hnames : ∀ library name, NeedNames data t needed address (count + 1) library name ↔
          (library = need.library ∧ AuxNames data t (address + need.aux) need.aux_count name) ∨
            (AuxEnds data t (address + need.aux) need.aux_count ∧
              Follows (count = 0) need.next_entry ∧
              NeedNames data t needed (address + need.next_entry) count library name) :=
        fun library name => NeedNames.cases_at hat
      obtain ⟨hkey, hkeys₀⟩ := keys_set_default v.required need.library
      have hstart := grown_set_default v need.library
      show Outcome _ _ (aux_loop data label t need.library need.aux_count (address + need.aux)
        { v with required := set_default v.required need.library } >>= _)
      have haux := @outcome_aux_loop data label t ht need.library need.aux_count
        (address + need.aux) { v with required := set_default v.required need.library } hkey
      cases hloop : aux_loop data label t need.library need.aux_count (address + need.aux)
          { v with required := set_default v.required need.library } with
      | error e =>
        rcases haux.of_error hloop with ⟨hpackage, hopen, hnone⟩ | ⟨rfl, name, hmet, hlong⟩
        · refine .inl ⟨hpackage, not_false, ?_⟩
          intro name hmet
          obtain ⟨library, hmet⟩ := hmet
          rcases (hnames library name).mp hmet with ⟨-, hmet_aux⟩ | ⟨hends, -, -⟩
          · exact hnone name hmet_aux
          · exact absurd hends hopen
        · exact .inr ⟨rfl, name, ⟨need.library, .here hat hmet⟩, hlong⟩
      | ok v₁ =>
        obtain ⟨hkeys₁, hends, hgrown₁⟩ := haux.of_ok hloop
        have hgrown : Grown v v₁ fun library name => library = need.library ∧
            AuxNames data t (address + need.aux) need.aux_count name :=
          hstart.trans hgrown₁ (by simp)
        show Outcome _ _ (require (Follows (count = 0) need.next_entry) _ >>= _)
        unfold require
        by_cases hfollows : Follows (decide (count = 0)) need.next_entry
        · rw [if_pos hfollows]
          show Outcome _ _ (need_loop data label t needed count (address + need.next_entry) v₁)
          apply (@ih (address + need.next_entry) v₁).mono
          · intro v' hv'
            obtain ⟨hkeys', hgrown'⟩ := hv'
            refine ⟨?_, hgrown.trans hgrown' ?_⟩
            · intro key hmem
              rcases hkeys' key hmem with hmem | hmem
              · rw [hkeys₁] at hmem
                rcases hkeys₀ key hmem with hmem | rfl
                · exact .inl hmem
                · exact .inr hdeclared
              · exact .inr hmem
            · intro library name
              rw [hnames library name]
              simp only [hends, hfollows, true_and]
          · intro e he
            rcases he with ⟨hpackage, -, hnone⟩ | ⟨rfl, name, ⟨library, hmet⟩, hlong⟩
            · refine .inl ⟨hpackage, not_false, ?_⟩
              intro name hmet
              obtain ⟨library, hmet⟩ := hmet
              rcases (hnames library name).mp hmet with ⟨rfl, hmet_aux⟩ | ⟨-, -, hmet_later⟩
              · exact hgrown.short _ name ⟨rfl, hmet_aux⟩
              · exact hnone name ⟨library, hmet_later⟩
            · exact .inr ⟨rfl, name, ⟨library, .later hat hends hfollows hmet⟩, hlong⟩
        · rw [if_neg hfollows]
          refine .inl ⟨⟨_, rfl⟩, not_false, ?_⟩
          intro name hmet
          obtain ⟨library, hmet⟩ := hmet
          rcases (hnames library name).mp hmet with ⟨rfl, hmet_aux⟩ | ⟨-, hfollows', -⟩
          · exact hgrown.short _ name ⟨rfl, hmet_aux⟩
          · exact absurd hfollows' hfollows

end loops

end UgreenNas.Package
