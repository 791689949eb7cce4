import UgreenNas.Package.Inspected

/-! # The inspection of ELF files is total, up to long versions

    The program headers, the dynamic table and its strings come first; a file
    with version requirements is then walked along them.  The walk is where
    the one exception escapes that is no `PackageError`.
-/

namespace UgreenNas.Package

open DiskMap Effect.Proc

/-! ## Sets and greatest elements -/

theorem mem_sorted_set {texts : List Text} {text : Text} : text ∈ sorted_set texts ↔ text ∈ texts := by
  unfold sorted_set
  rw [List.mem_insertionSort, List.mem_dedup]

theorem sorted_set_pairwise (texts : List Text) : (sorted_set texts).Pairwise (· < ·) := by
  have hle : (sorted_set texts).Pairwise (· ≤ ·) := List.pairwise_insertionSort _ _
  have hne : (sorted_set texts).Nodup :=
    (List.perm_insertionSort _ _).nodup_iff.mpr (List.nodup_dedup texts)
  exact (hle.and hne).imp fun h => lt_of_le_of_ne h.1 h.2

theorem max_version_none {versions : List (List Nat)} (h : max_version versions = none) :
    versions = [] := by
  cases versions with
  | nil => rfl
  | cons version rest => cases h

/-- The greatest version is one of the versions, and none is greater. -/
theorem max_version_some {versions : List (List Nat)} {most : List Nat}
    (h : max_version versions = some most) :
    most ∈ versions ∧ ∀ version ∈ versions, version ≤ most := by
  have hfold : ∀ (rest : List (List Nat)) (version : List Nat),
      let top := rest.foldl (fun most v => if most < v then v else most) version
      (top = version ∨ top ∈ rest) ∧ version ≤ top ∧ ∀ v ∈ rest, v ≤ top := by
    intro rest
    induction rest with
    | nil => exact fun version => ⟨.inl rfl, le_refl _, fun _ h => absurd h List.not_mem_nil⟩
    | cons v rest ih =>
      intro version
      have hrest := ih (if version < v then v else version)
      by_cases hlt : version < v
      · rw [if_pos hlt] at hrest
        obtain ⟨hmem, hle, hall⟩ := hrest
        refine ⟨.inr ?_, ?_, ?_⟩
        · rw [List.foldl_cons, if_pos hlt, List.mem_cons]
          exact hmem
        · rw [List.foldl_cons, if_pos hlt]
          exact le_trans hlt.le hle
        · rw [List.foldl_cons, if_pos hlt]
          intro v' hv'
          rcases List.mem_cons.mp hv' with rfl | hv'
          · exact hle
          · exact hall v' hv'
      · rw [if_neg hlt] at hrest
        obtain ⟨hmem, hle, hall⟩ := hrest
        refine ⟨?_, ?_, ?_⟩
        · rw [List.foldl_cons, if_neg hlt]
          exact hmem.imp id (List.mem_cons_of_mem _)
        · rw [List.foldl_cons, if_neg hlt]
          exact hle
        · rw [List.foldl_cons, if_neg hlt]
          intro v' hv'
          rcases List.mem_cons.mp hv' with rfl | hv'
          · exact le_trans (not_lt.mp hlt) hle
          · exact hall v' hv'
  cases versions with
  | nil => cases h
  | cons version rest =>
    obtain rfl := Option.some.inj h
    obtain ⟨hmem, hle, hall⟩ := hfold rest version
    refine ⟨List.mem_cons.mpr hmem, ?_⟩
    intro v hv
    rcases List.mem_cons.mp hv with rfl | hv
    · exact hle
    · exact hall v hv

/-- A number with as many digits as `int` takes is printed. -/
theorem str_number {part : Text} (hdigits : part.all isdigit = true)
    (hshort : ¬ part.length > max_str_digits) : str (number part) = .ok (decimal (number part)) := by
  have hlt : number part < 10 ^ max_str_digits :=
    lt_of_lt_of_le (number_lt hdigits) (Nat.pow_le_pow_right (by decide) (not_lt.mp hshort))
  have hlength : (decimal (number part)).length ≤ max_str_digits :=
    (Nat.length_toDigits_le_iff (by decide) (by decide)).mpr hlt
  unfold str
  rw [if_neg (not_lt.mpr hlength)]
  rfl

theorem strs_numbers {parts : List Text} (hdigits : ∀ part ∈ parts, part.all isdigit = true)
    (hshort : ∀ part ∈ parts, ¬ part.length > max_str_digits) :
    strs (parts.map number) = .ok ((parts.map number).map decimal) := by
  induction parts with
  | nil => rfl
  | cons part rest ih =>
    show (str (number part) >>= _) = _
    rw [str_number (hdigits part List.mem_cons_self) (hshort part List.mem_cons_self)]
    show (strs (rest.map number) >>= _) = _
    rw [ih (fun p hp => hdigits p (List.mem_cons_of_mem _ hp))
      (fun p hp => hshort p (List.mem_cons_of_mem _ hp))]
    rfl

/-- The floor over versions: the greatest of them. -/
def FloorOf (versions : List Nat → Prop) : Option Text → Prop
  | none => ∀ version, ¬ versions version
  | some text => ∃ version, versions version ∧ (∀ version', versions version' → version' ≤ version) ∧
      text = dotted (version.map decimal)

theorem outcome_symbol_floor {numeric : List (List Nat)}
    (h : ∀ version ∈ numeric, ∃ name, VersionOf name version ∧ ¬ TooLong name) :
    Outcome (FloorOf (· ∈ numeric)) IsPackage (symbol_floor numeric) := by
  unfold symbol_floor
  cases hmost : max_version numeric with
  | none =>
    rw [max_version_none hmost]
    exact fun _ h => absurd h List.not_mem_nil
  | some version =>
    obtain ⟨hmem, hall⟩ := max_version_some hmost
    obtain ⟨name, ⟨parts, hparts, hversion⟩, hshort⟩ := h version hmem
    have hprinted : strs version = .ok (version.map decimal) := by
      rw [hversion]
      apply strs_numbers (version_parts_digits hparts).2
      exact fun part hpart hlong => hshort ⟨parts, hparts, part, hpart, hlong⟩
    show Outcome _ _ (strs version >>= fun parts => pure (some (dotted parts)))
    rw [hprinted]
    exact ⟨version, hmem, hall, rfl⟩

/-! ## Names and search paths -/

section inspection

variable {data : Bytes} (label : String)

theorem outcome_needed_names (strings : Bytes) (l : List Nat) :
    Outcome (fun names => ∀ name, name ∈ names ↔ ∃ value ∈ l, CString strings value name) IsPackage
      (needed_names label strings l) := by
  induction l with
  | nil =>
    apply outcome_pure
    intro name
    simp
  | cons value rest ih =>
    apply (outcome_cstring label strings value).bind
    intro first _ hfirst
    apply ih.bind
    intro names _ hnames
    apply outcome_pure
    intro name
    rw [List.mem_cons, hnames name, List.exists_mem_cons_iff]
    have hone : name = first ↔ CString strings value name := by
      constructor
      · intro h
        rw [h]
        exact hfirst
      · intro h
        exact h.unique hfirst
    rw [hone]

theorem outcome_search_path (t : Tables) (tag : Int) :
    Outcome (fun _ => True) IsPackage (search_path label t tag) := by
  unfold search_path
  cases values t.tags tag with
  | nil => exact outcome_pure trivial
  | cons value rest =>
    apply (outcome_require _ _).bind
    intro _ _ hinside
    have hbyte : byte_at t.strings value = .ok t.strings[value] := by
      unfold byte_at
      rw [List.getElem?_eq_getElem hinside]
      rfl
    rw [hbyte]
    show Outcome _ _ (if t.strings[value] = 0 then pure (some []) else
      cstring label t.strings value >>= fun path => pure (some path))
    by_cases hempty : t.strings[value] = 0
    · rw [if_pos hempty]
      exact outcome_pure trivial
    · rw [if_neg hempty]
      apply (outcome_cstring label t.strings value).bind
      intro path _ _
      exact outcome_pure trivial

/-! ## Version requirements -/

theorem first_of_tag {tags : List (Int × Nat)} {tag : Int} (h : has_tag tags tag = true) :
    ∃ value, first tags tag = .ok value ∧ (values tags tag).head? = some value := by
  unfold first
  cases hvalues : values tags tag with
  | nil =>
    unfold has_tag at h
    rw [hvalues] at h
    cases h
  | cons value rest => exact ⟨value, rfl, rfl⟩

/-- Where the version requirements are, and how many there are. -/
def Chain (t : Tables) (count address : Nat) : Prop :=
  (values t.tags verneednum).head? = some count ∧ (values t.tags verneed).head? = some address ∧
    0 < count ∧ count ≤ 256

/-- The versions that the walk along the version requirements meets. -/
def Met (data : Bytes) (t : Tables) (needed : List Text) (library name : Text) : Prop :=
  has_tag t.tags verneed = has_tag t.tags verneednum ∧
    ∃ count address, Chain t count address ∧ NeedNames data t needed address count library name

theorem outcome_read_versions {t : Tables} (ht : InFile data t.loads) (needed : List Text) :
    Outcome (fun v => (∀ key ∈ v.required.map Prod.fst, key ∈ needed) ∧
        Grown {} v (Met data t needed))
      (WalkFails False fun name => ∃ library, Met data t needed library name)
      (read_versions data label t needed) := by
  have hnone : ∀ {e : PyError}, IsPackage e → (∀ library name, ¬ Met data t needed library name) →
      WalkFails False (fun name => ∃ library, Met data t needed library name) e := by
    intro e he hnone
    refine .inl ⟨he, not_false, ?_⟩
    intro name h
    obtain ⟨library, h⟩ := h
    exact absurd h (hnone library name)
  unfold read_versions
  by_cases hboth : has_tag t.tags verneed = has_tag t.tags verneednum
  swap
  · unfold require
    rw [if_neg hboth]
    exact hnone ⟨_, rfl⟩ fun _ _ h => hboth h.1
  unfold require
  rw [if_pos hboth]
  show Outcome _ _ (if has_tag t.tags verneed = true then _ else _)
  by_cases hthere : has_tag t.tags verneed = true
  swap
  · rw [if_neg hthere]
    -- nothing is met where there is no table
    have hno_chain : ∀ library name, ¬ Met data t needed library name := by
      intro library name h
      obtain ⟨-, count, address, ⟨-, haddress, -⟩, -⟩ := h
      apply hthere
      apply decide_eq_true
      intro hnil
      rw [hnil] at haddress
      cases haddress
    refine outcome_pure ⟨fun _ h => absurd h List.not_mem_nil, ?_, ?_, ?_⟩
    · intro library name
      rw [or_iff_left (hno_chain library name)]
    · intro version
      constructor
      · exact .inl
      · intro h
        rcases h with h | ⟨library, name, hmet, -⟩
        · exact h
        · exact absurd hmet (hno_chain library name)
    · intro library name h
      exact absurd h (hno_chain library name)
  rw [if_pos hthere]
  obtain ⟨count, hcount, hcounts⟩ := first_of_tag (hboth ▸ hthere)
  obtain ⟨address, haddress, haddresses⟩ := first_of_tag hthere
  rw [hcount]
  show Outcome _ _ ((if 0 < count ∧ count ≤ 256 then pure () else throw _ : Py Unit) >>= _)
  have hchain : ∀ count' address', Chain t count' address' →
      count' = count ∧ address' = address ∧ 0 < count ∧ count ≤ 256 := by
    intro count' address' h
    obtain ⟨hcount', haddress', hrange⟩ := h
    rw [hcounts] at hcount'
    rw [haddresses] at haddress'
    obtain rfl := Option.some.inj hcount'
    exact ⟨rfl, (Option.some.inj haddress').symm, hrange⟩
  by_cases hrange : 0 < count ∧ count ≤ 256
  swap
  · rw [if_neg hrange]
    refine hnone ⟨_, rfl⟩ ?_
    intro library name h
    obtain ⟨-, count', address', h, -⟩ := h
    exact hrange (hchain count' address' h).2.2
  rw [if_pos hrange]
  show Outcome _ _ (first t.tags verneed >>= _)
  rw [haddress]
  have hmet : ∀ library name, Met data t needed library name ↔
      NeedNames data t needed address count library name := by
    intro library name
    constructor
    · intro h
      obtain ⟨-, count', address', h, hnames⟩ := h
      obtain ⟨rfl, rfl, -⟩ := hchain count' address' h
      exact hnames
    · intro h
      exact ⟨hboth, count, address, ⟨hcounts, haddresses, hrange⟩, h⟩
  have hsame : Met data t needed = NeedNames data t needed address count := by
    funext library name
    exact propext (hmet library name)
  rw [hsame]
  apply (outcome_need_loop ht).mono
  · intro v hv
    refine ⟨?_, hv.2⟩
    intro key hkey
    rcases hv.1 key hkey with h | h
    · exact absurd h List.not_mem_nil
    · exact h
  · exact fun _ h => h

/-! ## The whole inspection -/

/-- The checks in front of the version requirements are passed: these are
    the tables of the file, and the libraries it needs. -/
def Reached (data : Bytes) (label : String) (t : Tables) (needed : List Text) : Prop :=
  ∃ s d rest names rpath runpath, segments data label = .ok s ∧ s.dynamics = d :: rest ∧
    tables data label s.loads d.1 d.2.1 d.2.2 = .ok t ∧
    needed_names label t.strings (values t.tags 1) = .ok names ∧ needed = sorted_set names ∧
    search_path label t 15 = .ok rpath ∧ search_path label t 29 = .ok runpath

/-- A version that the file requires of a library. -/
def Requires (data : Bytes) (label : String) (library name : Text) : Prop :=
  ∃ t needed, Reached data label t needed ∧ Met data t needed library name

/-- The libraries that a file needs, in order: the strings of the `DT_NEEDED`
    entries of its dynamic table, if it has one. -/
def Needed (data : Bytes) (libraries : List Text) : Prop :=
  (((List.range (phcount data)).map (header data)).filterMap (dynamic_of data) = [] ∧
      libraries = []) ∨
    ∃ t, TablesOf data t ∧ libraries.Pairwise (· < ·) ∧
      ∀ name, name ∈ libraries ↔ ∃ value, (1, value) ∈ t.tags ∧ CString t.strings value name

/-- A result says what stands in the file. -/
structure Inspected (data : Bytes) (label : String) (r : Runtime) : Prop where
  needed : Needed data r.needed_libraries
  declared : ∀ e ∈ r.required_symbol_versions, e.1 ∈ r.needed_libraries
  required : ∀ library name, Has r.required_symbol_versions library name ↔
    Requires data label library name
  floor : FloorOf (fun version => ∃ library name, Requires data label library name ∧
    VersionOf name version) r.glibc_symbol_floor

/-- Every failure is a `PackageError`, and every result says what stands in
    the file. -/
def Total (data : Bytes) (label : String) : Prop :=
  Outcome (Inspected data label) IsPackage (elf_runtime data label)

theorem mem_values {tags : List (Int × Nat)} {tag : Int} {value : Nat} :
    value ∈ values tags tag ↔ (tag, value) ∈ tags := by
  unfold values
  rw [List.mem_map]
  constructor
  · intro h
    obtain ⟨e, he, rfl⟩ := h
    obtain ⟨he, htag⟩ := List.mem_filter.mp he
    rw [← of_decide_eq_true htag]
    exact he
  · intro h
    exact ⟨(tag, value), List.mem_filter.mpr ⟨h, decide_eq_true rfl⟩, rfl⟩

/-- The dictionary of the result has the names of the one collected. -/
theorem has_sorted (required : List (Text × List Text)) (library name : Text) :
    Has (required.map fun e => (e.1, sorted_set e.2)) library name ↔ Has required library name := by
  constructor
  · intro h
    obtain ⟨names, hmem, hname⟩ := h
    obtain ⟨e, he, heq⟩ := List.mem_map.mp hmem
    obtain ⟨rfl, rfl⟩ := Prod.mk.inj heq
    exact ⟨e.2, he, mem_sorted_set.mp hname⟩
  · intro h
    obtain ⟨names, hmem, hname⟩ := h
    exact ⟨sorted_set names, List.mem_map.mpr ⟨_, hmem, rfl⟩, mem_sorted_set.mpr hname⟩

/-- How an inspection may fail: with a `PackageError` if no version that is
    required is too long, and else as `int` does. -/
def Fails (data : Bytes) (label : String) (e : PyError) : Prop :=
  (IsPackage e ∧ ∀ library name, Requires data label library name → ¬ TooLong name) ∨
    (e = .value ∧ ∃ library name, Requires data label library name ∧ TooLong name)

/-- A step of an inspection that cannot fail but with a `PackageError`, in
    front of the version requirements. -/
theorem fails_before {e : PyError} (he : IsPackage e)
    (hnone : ∀ t needed, ¬ Reached data label t needed) : Fails data label e := by
  refine .inl ⟨he, ?_⟩
  intro library name h
  obtain ⟨t, needed, hreached, -⟩ := h
  exact absurd hreached (hnone t needed)

/-- There is one dynamic table that is reached. -/
theorem Reached.unique {t t' : Tables} {needed needed' : List Text}
    (h : Reached data label t needed) (h' : Reached data label t' needed') :
    t = t' ∧ needed = needed' := by
  obtain ⟨s, d, rest, names, rpath, runpath, hs, hd, ht, hnames, rfl, -⟩ := h
  obtain ⟨s', d', rest', names', rpath', runpath', hs', hd', ht', hnames', rfl, -⟩ := h'
  rw [hs] at hs'
  obtain rfl := Except.ok.inj hs'
  rw [hd] at hd'
  obtain ⟨rfl, -⟩ := List.cons.inj hd'
  rw [ht] at ht'
  obtain rfl := Except.ok.inj ht'
  rw [hnames] at hnames'
  exact ⟨rfl, congrArg sorted_set (Except.ok.inj hnames')⟩

theorem requires_iff {t : Tables} {needed : List Text} (h : Reached data label t needed)
    (library name : Text) : Requires data label library name ↔ Met data t needed library name := by
  constructor
  · intro hrequires
    obtain ⟨t', needed', hreached, hmet⟩ := hrequires
    obtain ⟨rfl, rfl⟩ := h.unique label hreached
    exact hmet
  · intro hmet
    exact ⟨t, needed, h, hmet⟩

/-- Behind the string table. -/
theorem outcome_runtime_of {s : Segments} {d : Nat × Nat × Bytes} {rest : List (Nat × Nat × Bytes)}
    {t : Tables} (hs : segments data label = .ok s) (hd : s.dynamics = d :: rest)
    (ht : tables data label s.loads d.1 d.2.1 d.2.2 = .ok t) (interpreter : Option Text) :
    Outcome (fun r => Inspected data label r ∧
        ∀ library name, Requires data label library name → ¬ TooLong name)
      (Fails data label) (runtime_of data label interpreter t) := by
  have hlisted : Listed data s := (outcome_segments label).of_ok hs
  have htables : TablesOf data t := (outcome_tables label hlisted hd).of_ok ht
  -- what is reached at all is reached from here
  have hhere : ∀ t' needed, Reached data label t' needed → ∃ names rpath runpath,
      needed_names label t.strings (values t.tags 1) = .ok names ∧
      search_path label t 15 = .ok rpath ∧ search_path label t 29 = .ok runpath := by
    intro t' needed h
    obtain ⟨s', d', rest', names, rpath, runpath, hs', hd', ht', hnames, -, hrpath, hrunpath⟩ := h
    rw [hs] at hs'
    obtain rfl := Except.ok.inj hs'
    rw [hd] at hd'
    obtain ⟨rfl, -⟩ := List.cons.inj hd'
    rw [ht] at ht'
    obtain rfl := Except.ok.inj ht'
    exact ⟨names, rpath, runpath, hnames, hrpath, hrunpath⟩
  unfold runtime_of
  cases hnames : needed_names label t.strings (values t.tags 1) with
  | error e =>
    apply fails_before label ((outcome_needed_names label _ _).of_error hnames)
    intro t' needed h
    obtain ⟨_, _, _, hnames', -, -⟩ := hhere t' needed h
    rw [hnames] at hnames'
    cases hnames'
  | ok names =>
  show Outcome _ _ (search_path label t 15 >>= _)
  cases hrpath : search_path label t 15 with
  | error e =>
    apply fails_before label ((outcome_search_path label t 15).of_error hrpath)
    intro t' needed h
    obtain ⟨_, _, _, -, hrpath', -⟩ := hhere t' needed h
    rw [hrpath] at hrpath'
    cases hrpath'
  | ok rpath =>
  show Outcome _ _ (search_path label t 29 >>= _)
  cases hrunpath : search_path label t 29 with
  | error e =>
    apply fails_before label ((outcome_search_path label t 29).of_error hrunpath)
    intro t' needed h
    obtain ⟨_, _, _, -, -, hrunpath'⟩ := hhere t' needed h
    rw [hrunpath] at hrunpath'
    cases hrunpath'
  | ok runpath =>
  have hreached : Reached data label t (sorted_set names) :=
    ⟨s, d, rest, names, rpath, runpath, hs, hd, ht, hnames, rfl, hrpath, hrunpath⟩
  have hrequires := requires_iff label hreached
  show Outcome _ _ (read_versions data label t (sorted_set names) >>= _)
  apply ((outcome_read_versions label htables.in_file (sorted_set names)).mono (fun _ h => h) ?_).bind
  · intro v _ hv
    obtain ⟨hdeclared, hgrown⟩ := hv
    have hnumeric : ∀ version, version ∈ v.numeric ↔
        ∃ library name, Requires data label library name ∧ VersionOf name version := by
      intro version
      rw [hgrown.numeric version, or_iff_right List.not_mem_nil]
      simp only [hrequires]
    have hshort : ∀ library name, Requires data label library name → ¬ TooLong name := by
      intro library name h
      exact hgrown.short library name ((hrequires library name).mp h)
    have hversions : ∀ version ∈ v.numeric, ∃ name, VersionOf name version ∧ ¬ TooLong name := by
      intro version hversion
      obtain ⟨library, name, hmet, hof⟩ := (hnumeric version).mp hversion
      exact ⟨name, hof, hshort library name hmet⟩
    apply ((outcome_symbol_floor hversions).mono (fun _ h => h) ?_).bind
    · intro floor _ hfloor
      refine outcome_pure ⟨⟨.inr ⟨t, htables, sorted_set_pairwise names, ?_⟩, ?_, ?_, ?_⟩, hshort⟩
      · intro name
        have hread := (outcome_needed_names label _ _).of_ok hnames
        rw [mem_sorted_set, hread name]
        simp only [mem_values]
      · intro e he
        obtain ⟨e', he', rfl⟩ := List.mem_map.mp he
        exact hdeclared e'.1 (List.mem_map.mpr ⟨e', he', rfl⟩)
      · intro library name
        have hempty : ¬ Has ([] : List (Text × List Text)) library name := by
          intro h
          obtain ⟨names', hmem, -⟩ := h
          exact absurd hmem List.not_mem_nil
        show Has (v.required.map fun e => (e.1, sorted_set e.2)) library name ↔ _
        rw [has_sorted, hgrown.has library name, hrequires, or_iff_right hempty]
      · have hsame : (· ∈ v.numeric) = fun version => ∃ library name,
            Requires data label library name ∧ VersionOf name version := by
          funext version
          exact propext (hnumeric version)
        rw [← hsame]
        exact hfloor
    · exact fun e he => .inl ⟨he, hshort⟩
  · intro e he
    rcases he with ⟨hpackage, -, hnone⟩ | ⟨rfl, name, ⟨library, hmet⟩, hlong⟩
    · refine .inl ⟨hpackage, ?_⟩
      intro library name h
      exact hnone name ⟨library, (hrequires library name).mp h⟩
    · exact .inr ⟨rfl, library, name, (hrequires library name).mpr hmet, hlong⟩

/-- Without a dynamic segment there is nothing more to read. -/
theorem elf_runtime_nil {s : Segments} (hs : segments data label = .ok s) (hd : s.dynamics = []) :
    elf_runtime data label = .ok { interpreter := s.interpreters.head? } := by
  unfold elf_runtime
  simp only [hs, hd, bind, Except.bind]
  rfl

theorem elf_runtime_cons {s : Segments} {d : Nat × Nat × Bytes} {rest : List (Nat × Nat × Bytes)}
    (hs : segments data label = .ok s) (hd : s.dynamics = d :: rest) :
    elf_runtime data label =
      tables data label s.loads d.1 d.2.1 d.2.2 >>= fun t =>
        runtime_of data label s.interpreters.head? t := by
  unfold elf_runtime
  simp only [hs, hd, bind, Except.bind]

/-- What an inspection comes to, on any bytes. -/
theorem outcome_elf_runtime :
    Outcome (fun r => Inspected data label r ∧
        ∀ library name, Requires data label library name → ¬ TooLong name)
      (Fails data label) (elf_runtime data label) := by
  cases hs : segments data label with
  | error e =>
    unfold elf_runtime
    rw [hs]
    apply fails_before label ((outcome_segments label).of_error hs)
    intro t needed h
    obtain ⟨s', d, rest, names, rpath, runpath, hs', -⟩ := h
    rw [hs] at hs'
    cases hs'
  | ok s =>
  have hlisted : Listed data s := (outcome_segments label).of_ok hs
  cases hd : s.dynamics with
  | nil =>
    rw [elf_runtime_nil label hs hd]
    have hnone : ∀ library name, ¬ Requires data label library name := by
      intro library name h
      obtain ⟨t, needed, ⟨s', d, rest, names, rpath, runpath, hs', hd', -⟩, -⟩ := h
      rw [hs] at hs'
      obtain rfl := Except.ok.inj hs'
      rw [hd] at hd'
      cases hd'
    refine outcome_pure ⟨⟨.inl ⟨hlisted.dynamics.symm.trans hd, rfl⟩, ?_, ?_, ?_⟩, ?_⟩
    · exact fun _ h => absurd h List.not_mem_nil
    · intro library name
      rw [iff_false_right (hnone library name)]
      intro h
      obtain ⟨names, hmem, -⟩ := h
      exact absurd hmem List.not_mem_nil
    · intro version h
      obtain ⟨library, name, hrequires, -⟩ := h
      exact hnone library name hrequires
    · intro library name h
      exact absurd h (hnone library name)
  | cons d rest =>
  rw [elf_runtime_cons label hs hd]
  cases ht : tables data label s.loads d.1 d.2.1 d.2.2 with
  | error e =>
    apply fails_before label ((outcome_tables label hlisted hd).of_error ht)
    intro t needed h
    obtain ⟨s', d', rest', names, rpath, runpath, hs', hd', ht', -⟩ := h
    rw [hs] at hs'
    obtain rfl := Except.ok.inj hs'
    rw [hd] at hd'
    obtain ⟨rfl, -⟩ := List.cons.inj hd'
    rw [ht] at ht'
    cases ht'
  | ok t => exact outcome_runtime_of label hs hd ht _

end inspection

theorem short_of_total {data : Bytes} {label : String} (htotal : Total data label) :
    ∀ library name, Requires data label library name → ¬ TooLong name := by
  have houtcome := @outcome_elf_runtime data label
  cases hresult : elf_runtime data label with
  | ok r => exact (houtcome.of_ok hresult).2
  | error e =>
    obtain ⟨message, he⟩ := htotal.of_error hresult
    rcases houtcome.of_error hresult with ⟨-, hshort⟩ | ⟨hvalue, -⟩
    · exact hshort
    · rw [he] at hvalue
      cases hvalue

/-- The inspection is total but for versions with more digits in a row than
    `int` takes. -/
theorem elf_runtime_total_iff (data : Bytes) (label : String) : Total data label ↔
    ∀ library name, Requires data label library name → ¬ TooLong name := by
  constructor
  · exact short_of_total
  · intro hshort
    apply (outcome_elf_runtime label).mono
    · exact fun r hr => hr.1
    · intro e he
      rcases he with ⟨hpackage, -⟩ | ⟨-, library, name, hrequires, hlong⟩
      · exact hpackage
      · exact absurd hlong (hshort library name hrequires)

/-! ## A version with 4301 digits in a row -/

def bytes_of : Nat → Nat → Bytes
  | 0, _ => []
  | size + 1, n => UInt8.ofNat n :: bytes_of size (n / 256)

/-- A program header of a segment that is loaded where it is in the file. -/
def segment (kind offset size : Nat) : Bytes :=
  bytes_of 4 kind ++ bytes_of 4 4 ++ bytes_of 8 offset ++ bytes_of 8 offset ++ bytes_of 8 offset ++
    bytes_of 8 size ++ bytes_of 8 size ++ bytes_of 8 8

/-- The dynamic table: the library, the strings, the version requirements. -/
def dynamic_table : Bytes :=
  bytes_of 8 1 ++ bytes_of 8 0 ++ bytes_of 8 5 ++ bytes_of 8 304 ++ bytes_of 8 10 ++
    bytes_of 8 4315 ++ bytes_of 8 0x6ffffffe ++ bytes_of 8 272 ++ bytes_of 8 0x6fffffff ++
    bytes_of 8 1 ++ bytes_of 16 0

/-- A file up to its strings, which are 4315 bytes at offset 304: the header,
    two program headers, the dynamic table, and a version requirement. -/
@[irreducible] def front : Bytes :=
  elf_magic ++ bytes_of 25 0 ++ bytes_of 8 64 ++ bytes_of 14 0 ++ bytes_of 2 56 ++ bytes_of 2 2 ++
    bytes_of 6 0 ++
    segment 1 0 4619 ++ segment 2 176 96 ++
  -- at 176
    dynamic_table ++
  -- at 272: the requirement, and its auxiliary entry
    bytes_of 2 1 ++ bytes_of 2 1 ++ bytes_of 4 0 ++ bytes_of 4 16 ++ bytes_of 4 0 ++
    bytes_of 8 0 ++ bytes_of 4 5 ++ bytes_of 4 0

def libc : Bytes := [0x6c, 0x69, 0x62, 0x63]

/-- `GLIBC_1...1.1` -/
def long_version : Bytes :=
  [0x47, 0x4c, 0x49, 0x42, 0x43, 0x5f] ++ (List.replicate 4301 0x31 ++ [0x2e, 0x31])

/-- The strings: `libc`, and the version. -/
def long_strings : Bytes := libc ++ 0 :: (long_version ++ [0])

def long_file : Bytes := front ++ long_strings

section long_file

variable {tail : Bytes}

theorem front_length : front.length = 304 := by decide +kernel

theorem slice_front {offset size : Nat} (h : offset + size ≤ 304) :
    slice (front ++ tail) offset size = slice front offset size := by
  have hlength := front_length
  unfold slice
  rw [List.drop_append_of_le_length (by omega), List.take_append_of_le_length]
  rw [List.length_drop]
  omega

def loads : List Load := [⟨0, 0, 4619⟩]

def dynamic_entries : List (Int × Nat) :=
  [(1, 0), (5, 304), (10, 4315), (verneed, 272), (verneednum, 1)]

theorem require_of {p : Prop} [Decidable p] (h : p) (message : String) :
    require p message = .ok () := by
  unfold require
  rw [if_pos h]
  rfl

theorem ok_then {α β : Type} (a : α) (f : α → Py β) : (Except.ok a >>= f) = f a := rfl

theorem segments_front (label : String) (htail : tail.length = 4315) :
    segments (front ++ tail) label =
      .ok { loads := loads, dynamics := [(176, 176, dynamic_table)] } := by
  have hlength : (front ++ tail).length = 4619 := by
    rw [List.length_append, front_length, htail]
  have hmagic : (front ++ tail).take 7 = elf_magic := by
    have h := @slice_front tail 0 7 (by decide)
    rw [show slice front 0 7 = elf_magic by decide +kernel] at h
    exact h
  have hunpack : ∀ {size offset : Nat}, offset + size ≤ 304 →
      unpack_from size (front ++ tail) offset = .ok (slice front offset size) := by
    intro size offset h
    unfold unpack_from
    rw [if_pos (by omega)]
    exact congrArg Except.ok (slice_front h)
  have hspan : ∀ {size offset : Nat}, offset + size ≤ 4619 →
      span (front ++ tail) label offset size = .ok (slice (front ++ tail) offset size) := by
    intro size offset h
    unfold span
    rw [require_of (by omega)]
    rfl
  have hload : program_header (front ++ tail) label {} (slice front 64 56) =
      .ok { loads := loads } := by
    have hkind : field (slice front 64 56) 0 4 = 1 := by decide +kernel
    have hoffset : field (slice front 64 56) 8 8 = 0 := by decide +kernel
    have haddress : field (slice front 64 56) 16 8 = 0 := by decide +kernel
    have hfilesz : field (slice front 64 56) 32 8 = 4619 := by decide +kernel
    have hmemsz : field (slice front 64 56) 40 8 = 4619 := by decide +kernel
    unfold program_header
    simp only [hkind, hoffset, haddress, hfilesz, hmemsz]
    rw [if_neg (by decide), hspan (by decide)]
    rfl
  have hdynamic : program_header (front ++ tail) label { loads := loads } (slice front 120 56) =
      .ok { loads := loads, dynamics := [(176, 176, dynamic_table)] } := by
    have htable : slice front 176 96 = dynamic_table := by decide +kernel
    have hkind : field (slice front 120 56) 0 4 = 2 := by decide +kernel
    have hoffset : field (slice front 120 56) 8 8 = 176 := by decide +kernel
    have haddress : field (slice front 120 56) 16 8 = 176 := by decide +kernel
    have hfilesz : field (slice front 120 56) 32 8 = 96 := by decide +kernel
    have hmemsz : field (slice front 120 56) 40 8 = 96 := by decide +kernel
    unfold program_header
    simp only [hkind, hoffset, haddress, hfilesz, hmemsz]
    rw [if_neg (by decide), hspan (by decide), slice_front (by decide), htable]
    rfl
  have hheaders : program_headers (front ++ tail) label 64 2 0 {} =
      .ok { loads := loads, dynamics := [(176, 176, dynamic_table)] } := by
    show (unpack_from 56 (front ++ tail) 64 >>= _) = _
    rw [hunpack (by decide)]
    show (program_header (front ++ tail) label {} (slice front 64 56) >>= _) = _
    rw [hload]
    show (unpack_from 56 (front ++ tail) 120 >>= _) = _
    rw [hunpack (by decide)]
    show (program_header (front ++ tail) label { loads := loads } (slice front 120 56) >>= _) = _
    rw [hdynamic]
    rfl
  have hphoff : field (slice front 32 8) 0 8 = 64 := by decide +kernel
  have hphsize : field (slice front 54 4) 0 2 = 56 := by decide +kernel
  have hphcount : field (slice front 54 4) 2 2 = 2 := by decide +kernel
  unfold segments
  rw [require_of ⟨by omega, hmagic⟩]
  show (unpack_from 8 (front ++ tail) 32 >>= _) = _
  rw [hunpack (by decide)]
  show (unpack_from 4 (front ++ tail) 54 >>= _) = _
  rw [hunpack (by decide)]
  show (require (field (slice front 54 4) 0 2 = 56 ∧ 0 < field (slice front 54 4) 2 2 ∧
      field (slice front 54 4) 2 2 < 65535) _ >>= fun _ =>
    span (front ++ tail) label (field (slice front 32 8) 0 8)
      (field (slice front 54 4) 0 2 * field (slice front 54 4) 2 2) >>= fun _ =>
    program_headers (front ++ tail) label (field (slice front 32 8) 0 8)
      (field (slice front 54 4) 2 2) 0 {} >>= _) = _
  rw [hphoff, hphsize, hphcount, require_of (by decide)]
  show (span (front ++ tail) label 64 112 >>= _) = _
  rw [hspan (by decide)]
  show (program_headers (front ++ tail) label 64 2 0 {} >>= _) = _
  rw [hheaders]
  rfl

/-- Everything is where it is in the file. -/
theorem mapped_at {address size : Nat} (h : address + size ≤ 4619) :
    Mapped loads address size address ∧
      ∀ offset', Mapped loads address size offset' → offset' = address := by
  refine ⟨⟨⟨0, 0, 4619⟩, List.mem_cons_self, Nat.zero_le _, ?_, ?_⟩, ?_⟩
  · show address + size ≤ 0 + 4619
    omega
  · show address = 0 + (address - 0)
    omega
  · intro offset' h'
    obtain ⟨l, hl, -, -, rfl⟩ := h'
    rw [List.mem_singleton.mp hl]
    show 0 + (address - 0) = address
    omega

theorem tables_front (label : String) (htail : tail.length = 4315) :
    tables (front ++ tail) label loads 176 176 dynamic_table =
      .ok ⟨loads, dynamic_entries, tail⟩ := by
  have haddress : ∀ {address size : Nat}, address + size ≤ 4619 →
      file_address label loads address size = .ok address := by
    intro address size h
    exact file_address_of label (mapped_at h).1 (mapped_at h).2
  have hlength : dynamic_table.length = 96 := by decide +kernel
  have hentries : dynamic_tags label dynamic_table (96 / 16) 0 [] = .ok dynamic_entries := rfl
  have hsingle : check_single label dynamic_entries single_tags = .ok () := rfl
  have haddress_tag : first dynamic_entries 5 = .ok 304 := rfl
  have hsize_tag : first dynamic_entries 10 = .ok 4315 := rfl
  have hstrings : slice (front ++ tail) 304 4315 = tail := by
    unfold slice
    rw [List.drop_left' front_length, List.take_of_length_le (by omega)]
  unfold tables
  rw [hlength, haddress (by decide), ok_then, require_of rfl, ok_then, require_of (by decide),
    ok_then, hentries, ok_then, hsingle, ok_then, require_of (by decide), ok_then, haddress_tag,
    ok_then, hsize_tag, ok_then, haddress (by decide), ok_then]
  unfold span
  rw [List.length_append, front_length, htail, require_of (by decide)]
  exact congrArg (fun strings => Except.ok (Tables.mk loads dynamic_entries strings)) hstrings

end long_file

theorem long_strings_length : long_strings.length = 4315 := by
  unfold long_strings long_version libc
  simp only [List.length_append, List.length_cons, List.length_replicate, List.length_nil]

theorem long_version_printable : ∀ b ∈ long_version, 32 ≤ b ∧ b < 127 := by
  intro b hb
  unfold long_version at hb
  rcases List.mem_append.mp hb with hb | hb
  · exact printable_of (by decide) b hb
  · rcases List.mem_append.mp hb with hb | hb
    · rw [List.eq_of_mem_replicate hb]
      decide
    · exact printable_of (by decide) b hb

theorem long_name_at : CString long_strings 5 (decode long_version) :=
  ⟨long_version, [], rfl, List.append_ne_nil_of_left_ne_nil (List.cons_ne_nil _ _) _,
    long_version_printable, rfl⟩

theorem library_at : CString long_strings 0 (decode libc) :=
  ⟨libc, long_version ++ [0], rfl, by decide, printable_of (by decide), rfl⟩

theorem long_version_too_long : TooLong (decode long_version) := by
  have hname : decode long_version = ("GLIBC_" : Text) ++ (List.replicate 4301 '1' ++ '.' :: ['1']) := by
    unfold decode long_version
    rw [List.map_append, List.map_append, List.map_replicate]
    rfl
  have hparts : ((decode long_version).drop 6).splitOn '.' = [List.replicate 4301 '1', ['1']] := by
    rw [hname, List.drop_left' (by decide), List.splitOn_append_cons_self_of_not_mem]
    · rfl
    · intro h
      exact absurd (List.eq_of_mem_replicate h) (by decide)
  refine ⟨[List.replicate 4301 '1', ['1']], ?_, List.replicate 4301 '1', List.mem_cons_self, ?_⟩
  · unfold version_parts
    simp only [hparts]
    rw [if_pos]
    refine ⟨?_, by decide, ?_⟩
    · rw [hname, List.isPrefixOf_iff_prefix]
      exact List.prefix_append _ _
    · rw [List.all_cons, List.all_replicate]
      decide
  · rw [List.length_replicate]
    decide

theorem long_file_requires (label : String) :
    Requires long_file label (decode libc) (decode long_version) := by
  refine ⟨⟨loads, dynamic_entries, long_strings⟩, [decode libc], ?_, rfl, 1, 272,
    ⟨rfl, rfl, by decide, by decide⟩, ?_⟩
  · refine ⟨_, _, _, [decode libc], none, none,
      segments_front label long_strings_length, rfl, tables_front label long_strings_length, ?_, ?_,
      rfl, rfl⟩
    · show (cstring label long_strings 0 >>= _) = _
      rw [cstring_of label library_at]
      rfl
    · decide
  · have hneed : NeedAt long_file ⟨loads, dynamic_entries, long_strings⟩
        [decode libc] 272 ⟨decode libc, 1, 16, 0⟩ := by
      have hrecord : slice long_file 272 16 = slice front 272 16 := slice_front (by decide)
      unfold NeedAt
      refine ⟨272, mapped_at (by decide), ?_⟩
      rw [hrecord]
      have hlibrary : field (slice front 272 16) 4 4 = 0 := by decide +kernel
      rw [hlibrary]
      refine ⟨by decide +kernel, by decide +kernel, by decide, by decide, library_at,
        List.mem_cons_self, by decide +kernel, by decide, by decide +kernel⟩
    have haux : AuxAt long_file ⟨loads, dynamic_entries, long_strings⟩ 288 (decode long_version) 0 := by
      have hrecord : slice long_file 288 16 = slice front 288 16 := slice_front (by decide)
      unfold AuxAt
      refine ⟨288, mapped_at (by decide), ?_⟩
      rw [hrecord]
      have hname : field (slice front 288 16) 8 4 = 5 := by decide +kernel
      rw [hname]
      exact ⟨long_name_at, by decide +kernel⟩
    exact .here hneed (.here haux)

theorem elf_runtime_not_total : ¬ Total long_file "application" := by
  intro htotal
  exact short_of_total htotal _ _ (long_file_requires _) long_version_too_long

end UgreenNas.Package
