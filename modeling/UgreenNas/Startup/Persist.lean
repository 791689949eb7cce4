import UgreenNas.Startup.Json
import UgreenNas.Startup.Store

/-! # The record that is saved and the one that is read

    `save` writes a record in ASCII, `decode_state` takes a text of at most
    4096 bytes.  What comes back is the record, as long as it fits.
-/

namespace UgreenNas.Startup

open JsonText Effect Effect.Proc

/-! ## Identities -/

/-- The texts that `_text` lets through. -/
structure ValidText (name text : String) : Prop where
  short : text.utf8ByteSize ≤ MAX_DMI_BYTES
  named : name = "product_name" → text.isEmpty = false
  printable : ∀ c ∈ text.toList, 32 ≤ c.toNat ∧ c.toNat ≠ 127

/-- What `validate_identity` promises of its result. -/
structure ValidIdentity (identity : Identity) : Prop where
  fields : identity.map Prod.fst = IDENTITY_FIELDS
  texts : ∀ field ∈ identity, ValidText field.1 field.2

theorem text_field_iff {value : Value} {name text : String} :
    text_field value name (name ≠ "product_name") = .ok text ↔
      value = .str text ∧ ValidText name text := by
  cases value with
  | str text' =>
    have hcheck : (text'.utf8ByteSize > MAX_DMI_BYTES || (!(decide (name ≠ "product_name")) &&
        text'.isEmpty) || text'.toList.any fun c => c.toNat < 32 || c.toNat = 127) = false ↔
        ValidText name text' := by
      simp only [Bool.or_eq_false_iff, decide_eq_false_iff_not, Nat.not_lt, gt_iff_lt,
        Bool.and_eq_false_iff, Bool.not_eq_false', decide_eq_true_eq, List.any_eq_false,
        Bool.or_eq_true, not_or]
      constructor
      · intro h
        obtain ⟨⟨hshort, hnamed⟩, hprintable⟩ := h
        exact ⟨hshort, fun hname => hnamed.resolve_left (not_not_intro hname), hprintable⟩
      · intro h
        refine ⟨⟨h.short, ?_⟩, h.printable⟩
        by_cases hname : name = "product_name"
        · exact .inr (h.named hname)
        · exact .inl hname
    unfold text_field
    by_cases hvalid : ValidText name text'
    · simp only [hcheck.mpr hvalid, Bool.false_eq_true, if_false, Except.ok.injEq, Value.str.injEq]
      constructor
      · intro heq
        exact ⟨heq, heq ▸ hvalid⟩
      · exact And.left
    · have hrefused := Bool.eq_true_of_not_eq_false (mt hcheck.mp hvalid)
      simp only [hrefused, if_true, Value.str.injEq]
      constructor
      · simp
      · intro h
        exact absurd (h.1 ▸ h.2) hvalid
  | dict pairs => simp [text_field]
  | int n => simp [text_field]
  | other => simp [text_field]

/-- The fields of an identity, one after the other. -/
theorem fields_iff (value : String → Value) (names : List String) {identity : Identity} :
    (names.mapM fun name => do
      let text ← text_field (value name) name (name ≠ "product_name")
      return (name, text)) = .ok identity ↔
    identity.map Prod.fst = names ∧
      ∀ field ∈ identity, value field.1 = .str field.2 ∧ ValidText field.1 field.2 := by
  induction names generalizing identity with
  | nil =>
    simp only [List.mapM_nil, pure, Except.pure, Except.ok.injEq, List.map_eq_nil_iff]
    constructor
    · intro h
      simp [← h]
    · intro h
      exact h.1.symm
  | cons name names ih =>
    rw [List.mapM_cons]
    cases hfield : text_field (value name) name (name ≠ "product_name") with
    | error e =>
      constructor
      · intro h
        exact absurd h (by simp [bind, Except.bind])
      · intro h
        obtain ⟨hnames, hfields⟩ := h
        obtain ⟨field, others, rfl, rfl, -⟩ := List.map_eq_cons_iff.mp hnames
        rw [text_field_iff.mpr (hfields field List.mem_cons_self)] at hfield
        exact absurd hfield (by simp)
    | ok text =>
      have htext := text_field_iff.mp hfield
      cases hrest : names.mapM (fun name => do
        let text ← text_field (value name) name (name ≠ "product_name")
        return (name, text)) with
      | error e =>
        constructor
        · intro h
          exact absurd h (by simp [bind, Except.bind, pure, Except.pure])
        · intro h
          obtain ⟨hnames, hfields⟩ := h
          obtain ⟨field, others, rfl, rfl, hothers⟩ := List.map_eq_cons_iff.mp hnames
          rw [ih.mpr ⟨hothers, fun f hf => hfields f (List.mem_cons_of_mem _ hf)⟩] at hrest
          exact absurd hrest (by simp)
      | ok rest =>
        obtain ⟨hnames, hfields⟩ := ih.mp hrest
        simp only [bind, Except.bind, pure, Except.pure, Except.ok.injEq]
        constructor
        · intro h
          subst h
          refine ⟨by simp [hnames], ?_⟩
          intro field hmem
          obtain rfl | hmem := List.mem_cons.mp hmem
          · exact htext
          · exact hfields field hmem
        · intro h
          obtain ⟨hnames', hfields'⟩ := h
          obtain ⟨field, others, rfl, rfl, hothers⟩ := List.map_eq_cons_iff.mp hnames'
          have hhead := hfields' field List.mem_cons_self
          rw [htext.1, Value.str.injEq] at hhead
          have hsame := ih.mpr ⟨hothers, fun f hf => hfields' f (List.mem_cons_of_mem _ hf)⟩
          rw [hrest, Except.ok.injEq] at hsame
          rw [hsame, hhead.1]

/-- `dict.get` of a text. -/
theorem getD_other {value : Option Value} {text : String} :
    value.getD .other = .str text ↔ value = some (.str text) := by
  cases value <;> simp

theorem validate_identity_iff {value : Value} {identity : Identity} :
    validate_identity value = .ok identity ↔
      ∃ pairs, value = .dict pairs ∧ has_keys pairs IDENTITY_FIELDS = true ∧
        ValidIdentity identity ∧
        ∀ field ∈ identity, pairs.lookup field.1 = some (.str field.2) := by
  cases value with
  | dict pairs =>
    unfold validate_identity
    by_cases hkeys : has_keys pairs IDENTITY_FIELDS = true
    · simp only [if_pos hkeys]
      rw [fields_iff fun name => (pairs.lookup name).getD .other]
      constructor
      · intro h
        obtain ⟨hnames, hfields⟩ := h
        exact ⟨pairs, rfl, hkeys, ⟨hnames, fun f hf => (hfields f hf).2⟩,
          fun f hf => getD_other.mp (hfields f hf).1⟩
      · intro h
        obtain ⟨pairs', heq, -, hvalid, hlookup⟩ := h
        cases heq
        exact ⟨hvalid.fields, fun f hf => ⟨getD_other.mpr (hlookup f hf), hvalid.texts f hf⟩⟩
    · simp only [if_neg hkeys]
      constructor
      · simp
      · intro h
        obtain ⟨pairs', heq, hkeys', -⟩ := h
        cases heq
        exact absurd hkeys' hkeys
  | str text => simp [validate_identity]
  | int n => simp [validate_identity]
  | other => simp [validate_identity]

/-! ## Records -/

theorem check_record_iff {value : Value} {record : Record} :
    check_record value = .ok record ↔
      ∃ pairs identity, value = .dict pairs ∧
        has_keys pairs ["schema_version", "desired_policy", "identity"] = true ∧
        pairs.lookup "schema_version" = some (.int SCHEMA_VERSION) ∧
        pairs.lookup "desired_policy" = some (.str record.desired_policy) ∧
        pairs.lookup "identity" = some identity ∧
        record.schema_version = SCHEMA_VERSION ∧ record.desired_policy ∈ POLICIES ∧
        validate_identity identity = .ok record.identity := by
  constructor
  · intro h
    unfold check_record at h
    split at h
    case h_2 => simp at h
    case h_1 pairs =>
      split at h
      case h_2 => simp at h
      case h_1 version hkeys hversion =>
        by_cases hschema : version = SCHEMA_VERSION
        · subst hschema
          rw [if_neg (not_not_intro rfl)] at h
          split at h
          case h_2 => simp at h
          case h_1 policy hpolicy =>
            by_cases hmem : policy ∈ POLICIES
            · rw [if_neg (not_not_intro hmem)] at h
              cases hvalid : validate_identity ((pairs.lookup "identity").getD .other) with
              | error e =>
                rw [hvalid] at h
                exact absurd h (by simp [bind, Except.bind])
              | ok identity =>
                rw [hvalid] at h
                obtain rfl := Except.ok.inj h
                cases hlookup : pairs.lookup "identity" with
                | none => simp [hlookup, validate_identity] at hvalid
                | some value =>
                  rw [hlookup] at hvalid
                  exact ⟨pairs, value, rfl, hkeys, hversion, hpolicy, hlookup, rfl, hmem, hvalid⟩
            · simp [hmem] at h
        · simp [hschema] at h
  · intro h
    obtain ⟨pairs, identity, rfl, hkeys, hversion, hpolicy, hidentity, hschema, hmem, hvalid⟩ := h
    obtain ⟨schema_version, policy, fields⟩ := record
    simp only at hschema
    subst hschema
    simp only [check_record, hkeys, hversion, hpolicy, hidentity, Option.getD_some]
    simp only [ne_eq, not_true_eq_false, if_false, hmem]
    rw [hvalid]
    rfl

theorem decode_state_iff {json : Json} {data : List UInt8} {record : Record} :
    decode_state json data = .ok record ↔
      data ≠ [] ∧ data.length ≤ MAX_STATE_BYTES ∧ ∃ text value, decode_utf8 data = some text ∧
        json.loads unique_object reject_constant text = .ok value ∧
        check_record value = .ok record := by
  unfold decode_state
  by_cases hsize : (data.isEmpty || data.length > MAX_STATE_BYTES) = true
  · rw [if_pos hsize]
    simp only [Bool.or_eq_true, List.isEmpty_iff, decide_eq_true_eq, gt_iff_lt] at hsize
    constructor
    · simp
    · intro h
      obtain ⟨hne, hfits, -⟩ := h
      obtain hempty | hlong := hsize
      · exact absurd hempty hne
      · omega
  · rw [if_neg hsize]
    simp only [Bool.or_eq_true, List.isEmpty_iff, decide_eq_true_eq, gt_iff_lt, not_or,
      Nat.not_lt] at hsize
    cases htext : decode_utf8 data with
    | none => simp
    | some text =>
      cases hload : json.loads unique_object reject_constant text with
      | error e =>
        cases e <;> simp [hload]
      | ok value =>
        simp [hload, hsize]

/-! ## What is read -/

/-- A document that is a record: exactly the three keys, none of them twice,
    and exactly the six fields of a valid identity. -/
structure Denotes (doc : Doc) (record : Record) : Prop where
  schema : record.schema_version = SCHEMA_VERSION
  policy : record.desired_policy ∈ POLICIES
  identity : ValidIdentity record.identity
  members : ∃ members fields, doc = .object members ∧
    members.Perm [(some "schema_version", .int record.schema_version),
      (some "desired_policy", .str (some record.desired_policy)),
      (some "identity", .object fields)] ∧
    fields.Perm (record.identity.map fun field => (some field.1, .str (some field.2)))

theorem keys_perm {pairs : List (String × Value)} {names : List String}
    (h : has_keys pairs names = true) (hpairs : (pairs.map Prod.fst).Nodup) (hnames : names.Nodup) :
    (pairs.map Prod.fst).Perm names := by
  simp only [has_keys, Bool.and_eq_true, List.all_eq_true, decide_eq_true_eq] at h
  rw [List.perm_ext_iff_of_nodup hpairs hnames]
  intro name
  constructor
  · intro hmem
    obtain ⟨pair, hpair, rfl⟩ := List.mem_map.mp hmem
    exact h.1 pair hpair
  · exact h.2 name

/-- A built object has the expected members when it has their keys. -/
theorem members_perm {members expected : List (Option String × Doc)}
    {pairs : List (String × Value)} {names : List String}
    (hbuild : build_members record_builder members =
      .ok (pairs.map fun pair => (some pair.1, pair.2)))
    (hpairs : (pairs.map Prod.fst).Nodup) (hkeys : has_keys pairs names = true)
    (hnames : names.Nodup) (hexpected : expected.map Prod.fst = names.map some)
    (hmem : ∀ member ∈ expected, member ∈ members) : members.Perm expected := by
  have hperm := (keys_perm hkeys hpairs hnames).map some
  rw [← keys_of_built hbuild, ← hexpected] at hperm
  have hnodup : expected.Nodup := by
    apply List.Nodup.of_map Prod.fst
    rw [hexpected]
    exact hnames.map (Option.some_injective _)
  have hlength := hperm.length_eq
  rw [List.length_map, List.length_map] at hlength
  exact ((List.subperm_of_subset hnodup hmem).perm_of_length_le hlength.le).symm

/-- An identity that is accepted was built from an object with the six fields. -/
theorem identity_perm {doc : Doc} {value : Value} {identity : Identity}
    (hsource : Source doc value) (h : validate_identity value = .ok identity) :
    ValidIdentity identity ∧ ∃ fields, doc = .object fields ∧
      fields.Perm (identity.map fun field => (some field.1, .str (some field.2))) := by
  obtain ⟨pairs, rfl, hkeys, hvalid, hlookup⟩ := validate_identity_iff.mp h
  obtain ⟨fields, rfl, hpairs, hbuild⟩ := hsource
  refine ⟨hvalid, fields, rfl, ?_⟩
  apply members_perm hbuild hpairs hkeys (by decide)
  · rw [List.map_map, ← hvalid.fields, List.map_map]
    rfl
  · intro member hmember
    obtain ⟨field, hfield, rfl⟩ := List.mem_map.mp hmember
    obtain ⟨doc, hdoc, hsource⟩ := member_of_lookup hbuild (hlookup field hfield)
    cases hsource
    exact hdoc

/-- What `decode_state` accepts denotes a record. -/
theorem denotes_of_decode {data : List UInt8} {record : Record}
    (h : decode_state python_json data = .ok record) :
    ∃ text doc, decode_utf8 data = some text ∧ Text doc text.toList ∧ Denotes doc record := by
  obtain ⟨-, -, text, value, htext, hload, hcheck⟩ := decode_state_iff.mp h
  obtain ⟨doc, hdoc, hbuild⟩ := text_of_loads hload
  obtain ⟨pairs, identity, rfl, hkeys, hversion, hpolicy, hidentity, hschema, hmem, hvalid⟩ :=
    check_record_iff.mp hcheck
  obtain ⟨members, rfl, hpairs, hmembers⟩ := source_of_built hbuild
  obtain ⟨doc₁, hmem₁, hsource₁⟩ := member_of_lookup hmembers hversion
  obtain ⟨doc₂, hmem₂, hsource₂⟩ := member_of_lookup hmembers hpolicy
  obtain ⟨doc₃, hmem₃, hsource₃⟩ := member_of_lookup hmembers hidentity
  obtain ⟨hvalid', fields, rfl, hfields⟩ := identity_perm hsource₃ hvalid
  cases hsource₁
  cases hsource₂
  refine ⟨text, _, htext, hdoc, hschema, hmem, hvalid', members, fields, rfl, ?_, hfields⟩
  apply members_perm hmembers hpairs hkeys (by decide) rfl
  intro member hmember
  simp only [List.mem_cons, List.not_mem_nil, or_false] at hmember
  obtain rfl | rfl | rfl := hmember
  · rw [hschema]
    exact hmem₁
  · exact hmem₂
  · exact hmem₃

/-! ## What is saved -/

/-- The bytes that `save` writes. -/
def state_bytes (json : Json) (record : Record) : List UInt8 :=
  encode_utf8 (json.dumps record.value ++ "\n")

/-- The characters of a text, escaped. -/
def text_size (text : String) : Nat := (text.toList.map escaped_size).sum

/-- How long the record of a policy is: what is the same for all records, the
    policy and the six texts. -/
def record_size (policy : String) (identity : Identity) : Nat :=
  162 + text_size policy + (identity.map fun field => text_size field.2).sum

/-- The six fields of an identity. -/
def named_identity (product_name product_version board_version bios_vendor bios_version
    bios_date : String) : Identity :=
  [("product_name", product_name), ("product_version", product_version),
    ("board_version", board_version), ("bios_vendor", bios_vendor),
    ("bios_version", bios_version), ("bios_date", bios_date)]

theorem named_of_fields {identity : Identity} (h : identity.map Prod.fst = IDENTITY_FIELDS) :
    ∃ a b c d e f, identity = named_identity a b c d e f := by
  simp only [IDENTITY_FIELDS, List.map_eq_cons_iff, List.map_eq_nil_iff] at h
  obtain ⟨⟨_, a⟩, _, rfl, rfl, ⟨_, b⟩, _, rfl, rfl, ⟨_, c⟩, _, rfl, rfl, ⟨_, d⟩, _, rfl, rfl,
    ⟨_, e⟩, _, rfl, rfl, ⟨_, f⟩, _, rfl, rfl, rfl⟩ := h
  exact ⟨a, b, c, d, e, f, rfl⟩

theorem valid_named {a b c d e f : String} (ha : ValidText "product_name" a)
    (hb : ValidText "product_version" b) (hc : ValidText "board_version" c)
    (hd : ValidText "bios_vendor" d) (he : ValidText "bios_version" e)
    (hf : ValidText "bios_date" f) : ValidIdentity (named_identity a b c d e f) := by
  refine ⟨rfl, ?_⟩
  intro field hfield
  simp only [named_identity, List.mem_cons, List.not_mem_nil, or_false] at hfield
  obtain rfl | rfl | rfl | rfl | rfl | rfl := hfield
  · exact ha
  · exact hb
  · exact hc
  · exact hd
  · exact he
  · exact hf

theorem validate_named {a b c d e f : String} (hvalid : ValidIdentity (named_identity a b c d e f)) :
    validate_identity (named_identity a b c d e f).value = .ok (named_identity a b c d e f) := by
  rw [validate_identity_iff]
  refine ⟨_, rfl, rfl, hvalid, ?_⟩
  intro field hfield
  simp only [named_identity, List.mem_cons, List.not_mem_nil, or_false] at hfield
  obtain rfl | rfl | rfl | rfl | rfl | rfl := hfield <;> rfl

section Saved

variable (policy a b c d e f : String)

/-- The document of a record. -/
def record_doc : Doc :=
  .object [(some "desired_policy", .str (some policy)),
    (some "identity", .object [(some "bios_date", .str (some f)),
      (some "bios_vendor", .str (some d)), (some "bios_version", .str (some e)),
      (some "board_version", .str (some c)), (some "product_name", .str (some a)),
      (some "product_version", .str (some b))]),
    (some "schema_version", .int 1)]

theorem record_value_doc :
    (Record.value ⟨1, policy, named_identity a b c d e f⟩).doc = record_doc policy a b c d e f := by
  simp [Record.value, Identity.value, named_identity, Value.doc, pairs_doc, record_doc]

/-- The text of a record. -/
def record_text : List Char :=
  '\x7b' :: (quote "desired_policy" ++ ':' :: quote policy ++ ',' ::
    (quote "identity" ++ ':' :: '\x7b' :: (quote "bios_date" ++ ':' :: quote f ++ ',' ::
      (quote "bios_vendor" ++ ':' :: quote d ++ ',' :: (quote "bios_version" ++ ':' :: quote e ++
      ',' :: (quote "board_version" ++ ':' :: quote c ++ ',' :: (quote "product_name" ++ ':' ::
      quote a ++ ',' :: (quote "product_version" ++ ':' :: quote b)))))) ++ ['\x7d'] ++ ',' ::
    (quote "schema_version" ++ ':' :: ['1']))) ++ ['\x7d']

theorem print_record : print (record_doc policy a b c d e f) = some (record_text policy a b c d e f) := by
  simp only [record_doc, print, print_members]
  rfl

theorem ascii_record : Ascii (record_text policy a b c d e f) := by
  unfold record_text
  -- every part is a quoted text or a mark
  repeat' first
    | exact ascii_quote _
    | exact ascii_nil
    | apply ascii_append
    | apply ascii_cons (by decide)

theorem length_record : (record_text policy a b c d e f).length + 1 =
    record_size policy (named_identity a b c d e f) := by
  have hkeys : text_size "desired_policy" = 14 ∧ text_size "identity" = 8 ∧
      text_size "bios_date" = 9 ∧ text_size "bios_vendor" = 11 ∧ text_size "bios_version" = 12 ∧
      text_size "board_version" = 13 ∧ text_size "product_name" = 12 ∧
      text_size "product_version" = 15 ∧ text_size "schema_version" = 14 := by decide
  obtain ⟨h₁, h₂, h₃, h₄, h₅, h₆, h₇, h₈, h₉⟩ := hkeys
  simp only [text_size] at h₁ h₂ h₃ h₄ h₅ h₆ h₇ h₈ h₉
  simp only [record_text, record_size, named_identity, text_size, length_quote, List.length_append,
    List.length_cons, List.length_nil, List.map_cons, List.map_nil, List.sum_cons, List.sum_nil, h₁,
    h₂, h₃, h₄, h₅, h₆, h₇, h₈, h₉]
  omega

/-- What is saved is a record of that size. -/
theorem state_bytes_eq :
    state_bytes python_json ⟨SCHEMA_VERSION, policy, named_identity a b c d e f⟩ =
      encode_utf8 (String.ofList (record_text policy a b c d e f ++ ['\n'])) := by
  simp only [state_bytes, python_json]
  rw [SCHEMA_VERSION, record_value_doc, print_record, Option.getD_some, String.ofList_append]

theorem length_state_bytes :
    (state_bytes python_json ⟨SCHEMA_VERSION, policy, named_identity a b c d e f⟩).length =
      record_size policy (named_identity a b c d e f) := by
  have hascii := ascii_append (ascii_record policy a b c d e f)
    (ascii_cons (c := '\n') (by decide) ascii_nil)
  rw [state_bytes_eq, length_encode_utf8 hascii, List.length_append, ← length_record]
  rfl

/-- The dictionaries that are built from the record's document. -/
def identity_pairs : List (String × Value) :=
  [("bios_date", .str f), ("bios_vendor", .str d), ("bios_version", .str e),
    ("board_version", .str c), ("product_name", .str a), ("product_version", .str b)]

def record_pairs : List (String × Value) :=
  [("desired_policy", .str policy), ("identity", .dict (identity_pairs a b c d e f)),
    ("schema_version", .int 1)]

theorem build_record :
    build record_builder (record_doc policy a b c d e f) =
      .ok (.dict (record_pairs policy a b c d e f)) := by
  have hidentity := @build_dict _ (identity_pairs a b c d e f)
    (build_members_cons (build_str f) (build_members_cons (build_str d)
      (build_members_cons (build_str e) (build_members_cons (build_str c)
      (build_members_cons (build_str a) (build_members_cons (build_str b)
      (build_members_nil _))))))) (by simp [identity_pairs])
  exact @build_dict _ (record_pairs policy a b c d e f)
    (build_members_cons (build_str policy) (build_members_cons hidentity
      (build_members_cons (build_int 1) (build_members_nil _)))) (by simp [record_pairs])

/-- What was saved is loaded again. -/
theorem loads_record :
    python_json.loads unique_object reject_constant
      (String.ofList (record_text policy a b c d e f ++ ['\n'])) =
        .ok (.dict (record_pairs policy a b c d e f)) := by
  have hloads := loads_print (print_record policy a b c d e f) (build_record policy a b c d e f)
  simpa [python_json] using hloads

end Saved

/-- The record that was saved is read again if it fits. -/
theorem decode_saved {identity : Identity} {policy : String} (hvalid : ValidIdentity identity)
    (hpolicy : policy ∈ POLICIES) (hfits : record_size policy identity ≤ MAX_STATE_BYTES) :
    decode_state python_json (state_bytes python_json ⟨SCHEMA_VERSION, policy, identity⟩) =
      .ok ⟨SCHEMA_VERSION, policy, identity⟩ := by
  obtain ⟨a, b, c, d, e, f, rfl⟩ := named_of_fields hvalid.fields
  have hlength := length_state_bytes policy a b c d e f
  rw [decode_state_iff]
  refine ⟨?_, by omega, _, _, ?_, loads_record policy a b c d e f, ?_⟩
  · intro hempty
    rw [hempty, record_size] at hlength
    simp at hlength
    omega
  · rw [state_bytes_eq, decode_encode_utf8]
  · rw [check_record_iff]
    refine ⟨_, _, rfl, rfl, rfl, rfl, rfl, rfl, hpolicy, ?_⟩
    rw [validate_identity_iff]
    refine ⟨_, rfl, rfl, hvalid, ?_⟩
    intro field hfield
    simp only [named_identity, List.mem_cons, List.not_mem_nil, or_false] at hfield
    obtain rfl | rfl | rfl | rfl | rfl | rfl := hfield <;> rfl

theorem decode_oversized {identity : Identity} {policy : String} (hvalid : ValidIdentity identity)
    (hlong : MAX_STATE_BYTES < record_size policy identity) :
    decode_state python_json (state_bytes python_json ⟨SCHEMA_VERSION, policy, identity⟩) =
      .error (startup_error "state is empty or exceeds 4096 bytes") := by
  obtain ⟨a, b, c, d, e, f, rfl⟩ := named_of_fields hvalid.fields
  have hlength := length_state_bytes policy a b c d e f
  rw [decode_state, if_pos]
  simp only [Bool.or_eq_true, decide_eq_true_eq]
  exact .inr (by omega)

/-- `save` refuses a record that does not fit before it opens a file, which
    is after the policy was written. -/
theorem save_oversized {κ : Type} (directory : Fd .directory) {identity : Identity}
    {policy : String} (hvalid : ValidIdentity identity)
    (hlong : MAX_STATE_BYTES < record_size policy identity) :
    (save python_json directory ⟨SCHEMA_VERSION, policy, identity⟩ : Py κ Unit) =
      fail (.startup (startup_error "state is empty or exceeds 4096 bytes")) := by
  have hrefused := decode_oversized hvalid hlong
  unfold state_bytes at hrefused
  unfold save
  simp only [hrefused]
  rfl

/-- A record is read back exactly when it is no longer than 4096 bytes, where
    a character beyond ASCII takes six or twelve.  What is read back is a
    record in any case. -/
theorem saved_state_round_trip {value : Value} {identity : Identity} {policy : String}
    (hvalid : validate_identity value = .ok identity) (hpolicy : policy ∈ POLICIES) :
    (decode_state python_json (state_bytes python_json ⟨SCHEMA_VERSION, policy, identity⟩) =
        .ok ⟨SCHEMA_VERSION, policy, identity⟩ ↔ record_size policy identity ≤ MAX_STATE_BYTES) ∧
      ∀ data record, decode_state python_json data = .ok record →
        ∃ text doc, decode_utf8 data = some text ∧ Text doc text.toList ∧ Denotes doc record := by
  obtain ⟨-, -, -, hidentity, -⟩ := validate_identity_iff.mp hvalid
  constructor
  · constructor
    · intro h
      by_contra hlong
      rw [decode_oversized hidentity (by omega)] at h
      exact absurd h (by simp)
    · exact decode_saved hidentity hpolicy
  · intro data record h
    exact denotes_of_decode h

/-- A plain record is read back. -/
theorem saved_state_round_trip_plain :
    (decode_state python_json
        (state_bytes python_json ⟨SCHEMA_VERSION, "restore", named_identity "DXP4800" "" "" "" "" ""⟩) =
          .ok ⟨SCHEMA_VERSION, "restore", named_identity "DXP4800" "" "" "" "" ""⟩ ↔
        record_size "restore" (named_identity "DXP4800" "" "" "" "" "") ≤ MAX_STATE_BYTES) ∧
      ∀ data record, decode_state python_json data = .ok record →
        ∃ text doc, decode_utf8 data = some text ∧ Text doc text.toList ∧ Denotes doc record := by
  have htext : ∀ name, ValidText name "DXP4800" := by
    intro name
    exact ⟨by decide, fun _ => by decide, by simp⟩
  have hempty : ∀ name, name ≠ "product_name" → ValidText name "" := by
    intro name hname
    exact ⟨by decide, fun h => absurd h hname, by simp⟩
  exact saved_state_round_trip
    (validate_named (valid_named (htext _) (hempty _ (by decide)) (hempty _ (by decide))
      (hempty _ (by decide)) (hempty _ (by decide)) (hempty _ (by decide)))) (by decide)

/-- Characters of two bytes each, which take six in a record. -/
def accented (n : Nat) : String := String.ofList (List.replicate n 'é')

theorem text_size_accented (n : Nat) : text_size (accented n) = n * 6 := by
  have hsize : escaped_size 'é' = 6 := by decide
  rw [text_size, accented, String.toList_ofList, List.map_replicate, hsize,
    List.sum_replicate_nat]

theorem accented_bytes (n : Nat) : (accented n).utf8ByteSize = n * 2 := by
  have hsize : 'é'.utf8Size = 2 := by decide
  rw [accented, utf8ByteSize_ofList, List.map_replicate, hsize, List.sum_replicate_nat]

theorem accented_valid {n : Nat} (name : String) (hpos : 0 < n) (hshort : n ≤ 128) :
    ValidText name (accented n) := by
  refine ⟨?_, ?_, ?_⟩
  · rw [accented_bytes, MAX_DMI_BYTES]
    omega
  · intro _
    rw [String.isEmpty, accented_bytes, beq_eq_false_iff_ne]
    omega
  · intro c hc
    rw [accented, String.toList_ofList, List.mem_replicate] at hc
    rw [hc.2]
    decide

/-- The longest texts of such characters. -/
def accented_identity : Identity :=
  named_identity (accented 128) (accented 128) (accented 128) (accented 128) (accented 128)
    (accented 128)

theorem accented_size : record_size "on" accented_identity = 4772 := by
  have hon : text_size "on" = 2 := by decide
  rw [record_size, accented_identity, named_identity]
  simp only [List.map_cons, List.map_nil, text_size_accented, hon, List.sum_cons, List.sum_nil]
  omega

theorem accented_identity_valid : ValidIdentity accented_identity := by
  have htext : ∀ name, ValidText name (accented 128) := by
    intro name
    exact accented_valid name (by decide) (by decide)
  exact valid_named (htext _) (htext _) (htext _) (htext _) (htext _) (htext _)

/-- Valid texts whose record `save` refuses. -/
theorem accented_record_refused :
    validate_identity accented_identity.value = .ok accented_identity ∧
      decode_state python_json (state_bytes python_json ⟨SCHEMA_VERSION, "on", accented_identity⟩) =
        .error (startup_error "state is empty or exceeds 4096 bytes") := by
  constructor
  · exact validate_named accented_identity_valid
  · apply decode_oversized accented_identity_valid
    rw [accented_size, MAX_STATE_BYTES]
    omega

end UgreenNas.Startup
