import Mathlib.Data.List.Sort
import UgreenNas.Json.Print
import UgreenNas.Json.Sound
import UgreenNas.Startup.State

/-! # Python's `json` module as the script uses it

    `loads` is the scanner with the script's two hooks, `dumps` the printer
    with `ensure_ascii`, `sort_keys` and compact separators.  The nesting
    depth of a text is not limited: what is nested deeper than a record is no
    record.
-/

namespace UgreenNas.Startup

open JsonText

/-! ## `json.loads` -/

/-- The pairs of an object whose keys have an encoding. -/
def encoded_pairs : List (Option String × Value) → Option (List (String × Value))
  | [] => some []
  | (key, value) :: members => do
    let key ← key
    let pairs ← encoded_pairs members
    return (key, value) :: pairs

/-- What becomes of the parts of a document.  A dictionary with a lone
    surrogate in a key is no record and no identity. -/
def hooks (object_pairs_hook : List (String × Value) → Except StartupError Value)
    (parse_constant : String → Except StartupError Value) : Builder StartupError Value where
  null := .other
  bool _ := .other
  int n := .int n
  float := .other
  constant := parse_constant
  str
    | some text => .str text
    | none => .other
  array _ := .other
  object members :=
    match encoded_pairs members with
    | some pairs => object_pairs_hook pairs
    | none => .ok .other

/-! ## `json.dumps` -/

mutual

def Value.doc : Value → Doc
  | .dict pairs =>
    .object (((pairs_doc pairs).insertionSort fun a b => a.1 ≤ b.1).map fun (key, doc) =>
      (some key, doc))
  | .int n => .int n
  | .str text => .str (some text)
  | .other => .null

def pairs_doc : List (String × Value) → List (String × Doc)
  | [] => []
  | (key, value) :: pairs => (key, value.doc) :: pairs_doc pairs

end

/-- Dictionaries of texts and integers have a text. -/
def python_json : Json where
  loads object_pairs_hook parse_constant text :=
    loads (hooks object_pairs_hook parse_constant) text.toList
  dumps value := String.ofList ((print value.doc).getD [])

/-! ## UTF-8 -/

theorem decode_encode_utf8 (text : String) : decode_utf8 (encode_utf8 text) = some text := by
  have hvalid : text.toByteArray.IsValidUTF8 := text.isValidUTF8
  simp [decode_utf8, encode_utf8, String.fromUTF8?, hvalid, String.fromUTF8]

theorem utf8ByteSize_ofList (chars : List Char) :
    (String.ofList chars).utf8ByteSize = (chars.map Char.utf8Size).sum := by
  rw [← String.size_toByteArray, String.toByteArray_ofList]
  induction chars with
  | nil => simp
  | cons c chars ih =>
    rw [List.utf8Encode_cons, List.utf8Encode_singleton, ByteArray.size_append, ih]
    simp

/-- A character of ASCII is one byte. -/
theorem length_encode_utf8 {chars : List Char} (h : Ascii chars) :
    (encode_utf8 (String.ofList chars)).length = chars.length := by
  have hone : ∀ c ∈ chars, c.utf8Size = 1 := by
    intro c hc
    rw [Char.utf8Size_eq_one_iff, UInt32.le_iff_toNat_le]
    exact Nat.le_of_lt_succ (h c hc)
  have hsize := utf8ByteSize_ofList chars
  rw [List.map_congr_left hone, ← String.size_toByteArray] at hsize
  simpa [encode_utf8] using hsize

/-! ## The hooks -/

theorem encoded_pairs_some (pairs : List (String × Value)) :
    encoded_pairs (pairs.map fun pair => (some pair.1, pair.2)) = some pairs := by
  induction pairs with
  | nil => rfl
  | cons pair pairs ih => simp [encoded_pairs, ih]

theorem encoded_pairs_eq {members : List (Option String × Value)} {pairs : List (String × Value)}
    (h : encoded_pairs members = some pairs) :
    members = pairs.map fun pair => (some pair.1, pair.2) := by
  induction members generalizing pairs with
  | nil =>
    rw [encoded_pairs, Option.some.injEq] at h
    simp [← h]
  | cons member members ih =>
    obtain ⟨key, value⟩ := member
    simp only [encoded_pairs, Option.bind_eq_bind, Option.bind_eq_some_iff, Option.pure_def,
      Option.some.injEq] at h
    obtain ⟨name, rfl, others, hothers, rfl⟩ := h
    simp [ih hothers]

/-- The loop body of `_unique_object`. -/
def unique_step (result : List (String × Value)) (pair : String × Value) :
    Except StartupError (List (String × Value)) :=
  if pair.1 ∈ result.map Prod.fst then
    .error (startup_error ("duplicate JSON key: " ++ pair.1))
  else
    .ok (result ++ [pair])

theorem unique_fold (pairs : List (String × Value)) {done : List (String × Value)}
    (hdone : (done.map Prod.fst).Nodup) :
    (pairs.foldlM unique_step done = .ok (done ++ pairs) ∧
      ((done ++ pairs).map Prod.fst).Nodup) ∨
    (∃ error, pairs.foldlM unique_step done = .error error) ∧
      ¬((done ++ pairs).map Prod.fst).Nodup := by
  induction pairs generalizing done with
  | nil => exact .inl ⟨by simp [pure, Except.pure], by simpa using hdone⟩
  | cons pair pairs ih =>
    rw [List.foldlM_cons, unique_step]
    by_cases hmem : pair.1 ∈ done.map Prod.fst
    · rw [if_pos hmem]
      refine .inr ⟨⟨_, rfl⟩, ?_⟩
      intro hnodup
      rw [List.map_append, List.map_cons, List.nodup_append] at hnodup
      exact hnodup.2.2 pair.1 hmem pair.1 List.mem_cons_self rfl
    · have hnext : ((done ++ [pair]).map Prod.fst).Nodup := by
        rw [List.map_append, List.nodup_append]
        refine ⟨hdone, by simp, ?_⟩
        intro a ha b hb heq
        simp only [List.map_cons, List.map_nil, List.mem_singleton] at hb
        exact hmem (hb ▸ heq ▸ ha)
      have hrest := ih hnext
      rw [List.append_assoc, List.singleton_append] at hrest
      rw [if_neg hmem]
      exact hrest

/-- `_unique_object` takes pairs without a duplicate key as they are. -/
theorem unique_object_iff {pairs : List (String × Value)} {value : Value} :
    unique_object pairs = .ok value ↔ value = .dict pairs ∧ (pairs.map Prod.fst).Nodup := by
  have hobject : unique_object pairs = (do
      let result ← pairs.foldlM unique_step []
      return .dict result) := rfl
  rw [hobject]
  obtain ⟨hfold, hnodup⟩ | ⟨⟨error, hfold⟩, hnodup⟩ := @unique_fold pairs [] (by simp)
  · rw [List.nil_append] at hfold hnodup
    rw [hfold]
    simp only [bind, Except.bind, pure, Except.pure, Except.ok.injEq, hnodup, and_true]
    exact eq_comm
  · rw [List.nil_append] at hnodup
    rw [hfold]
    simp [bind, Except.bind, hnodup]

/-- The builder of `decode_state`. -/
abbrev record_builder : Builder StartupError Value := hooks unique_object reject_constant

/-! ## What is built -/

theorem build_str (text : String) :
    build record_builder (.str (some text)) = .ok (.str text) := by
  rw [build]
  rfl

theorem build_int (n : Int) : build record_builder (.int n) = .ok (.int n) := by
  rw [build]
  rfl

/-- An object whose keys are different is a dictionary. -/
theorem build_dict {members : List (Option String × Doc)} {pairs : List (String × Value)}
    (h : build_members record_builder members = .ok (pairs.map fun pair => (some pair.1, pair.2)))
    (hnodup : (pairs.map Prod.fst).Nodup) :
    build record_builder (.object members) = .ok (.dict pairs) := by
  rw [build_object h]
  simp only [record_builder, hooks, encoded_pairs_some]
  exact unique_object_iff.mpr ⟨rfl, hnodup⟩

/-- A built object, unless a lone surrogate is in one of its keys. -/
theorem object_of_built {members : List (Option String × Doc)} {value : Value}
    (h : build record_builder (.object members) = .ok value) :
    value = .other ∨ ∃ pairs, value = .dict pairs ∧ (pairs.map Prod.fst).Nodup ∧
      build_members record_builder members = .ok (pairs.map fun pair => (some pair.1, pair.2)) := by
  obtain ⟨values, hvalues, hobject⟩ := build_object_ok h
  simp only [record_builder, hooks] at hobject
  split at hobject
  · next pairs hpairs =>
    obtain ⟨rfl, hnodup⟩ := unique_object_iff.mp hobject
    exact .inr ⟨pairs, rfl, hnodup, encoded_pairs_eq hpairs ▸ hvalues⟩
  · exact .inl (Except.ok.inj hobject).symm

theorem other_of_array {items : List Doc} {value : Value}
    (h : build record_builder (.array items) = .ok value) : value = .other := by
  rw [build] at h
  cases hitems : build_items record_builder items with
  | error e =>
    rw [hitems] at h
    exact absurd h (by simp [bind, Except.bind])
  | ok values =>
    rw [hitems] at h
    exact (Except.ok.inj h).symm

/-- The three kinds of value that the script looks into come from documents
    of that kind. -/
def Source (doc : Doc) : Value → Prop
  | .int n => doc = .int n
  | .str text => doc = .str (some text)
  | .dict pairs => ∃ members, doc = .object members ∧ (pairs.map Prod.fst).Nodup ∧
      build_members record_builder members = .ok (pairs.map fun pair => (some pair.1, pair.2))
  | .other => True

theorem source_of_built {doc : Doc} {value : Value} (h : build record_builder doc = .ok value) :
    Source doc value := by
  cases doc with
  | object members =>
    obtain rfl | ⟨pairs, rfl, hnodup, hbuild⟩ := object_of_built h
    · trivial
    · exact ⟨members, rfl, hnodup, hbuild⟩
  | array items =>
    rw [other_of_array h]
    trivial
  | constant name => simp [build, hooks, reject_constant] at h
  | str text =>
    rw [build, Except.ok.injEq] at h
    cases text <;> simp [← h, hooks, Source]
  | null | bool b | int n | float =>
    rw [build, Except.ok.injEq] at h
    simp [← h, hooks, Source]

/-- A value of a built dictionary was built from the member under its key. -/
theorem member_of_lookup {members : List (Option String × Doc)} {pairs : List (String × Value)}
    (h : build_members record_builder members = .ok (pairs.map fun pair => (some pair.1, pair.2)))
    {key : String} {value : Value} (hlookup : pairs.lookup key = some value) :
    ∃ doc, (some key, doc) ∈ members ∧ Source doc value := by
  induction members generalizing pairs with
  | nil =>
    cases pairs with
    | nil => simp at hlookup
    | cons pair pairs => simp at h
  | cons member members ih =>
    obtain ⟨name, doc⟩ := member
    obtain ⟨value', values, hvalue, hvalues, hpairs⟩ := build_members_ok h
    cases pairs with
    | nil => simp at hlookup
    | cons pair pairs =>
      rw [List.map_cons, List.cons.injEq, Prod.mk.injEq] at hpairs
      obtain ⟨⟨rfl, rfl⟩, rfl⟩ := hpairs
      by_cases hkey : key = pair.1
      · rw [hkey, List.lookup_cons_self, Option.some.injEq] at hlookup
        exact ⟨doc, by simp [hkey], hlookup ▸ source_of_built hvalue⟩
      · rw [List.lookup_cons, beq_false_of_ne hkey] at hlookup
        obtain ⟨doc', hmem, hsource⟩ := ih hvalues hlookup
        exact ⟨doc', List.mem_cons_of_mem _ hmem, hsource⟩

theorem keys_of_built {members : List (Option String × Doc)} {pairs : List (String × Value)}
    (h : build_members record_builder members = .ok (pairs.map fun pair => (some pair.1, pair.2))) :
    members.map Prod.fst = (pairs.map Prod.fst).map some := by
  induction members generalizing pairs with
  | nil =>
    rw [build_members_nil, Except.ok.injEq] at h
    cases pairs with
    | nil => rfl
    | cons pair pairs => simp at h
  | cons member members ih =>
    obtain ⟨name, doc⟩ := member
    obtain ⟨value', values, hvalue, hvalues, hpairs⟩ := build_members_ok h
    cases pairs with
    | nil => simp at hpairs
    | cons pair pairs =>
      rw [List.map_cons, List.cons.injEq, Prod.mk.injEq] at hpairs
      obtain ⟨⟨rfl, rfl⟩, rfl⟩ := hpairs
      simp [ih hvalues]

end UgreenNas.Startup
