import UgreenNas.Network.Wol

/-! # Which interfaces are selected (`network/wol.c`)

    Either all mapped interfaces are there and physical, and they are the ones
    selected; or it is all physical ones of the machine, in the order of their
    slots, if there are as many as expected.
-/

namespace UgreenNas.Network

open DiskMap
open Led (Failure failure)

variable {strerror : Errno → String} {inventory : Inventory} {firmware selected : List Text}
  {renamed : Nat}

/-! ## The order -/

instance : Std.Total before where
  total := by
    intro first second
    unfold before
    rcases lt_trichotomy first.pci_slot second.pci_slot with hlt | heq | hgt
    · exact .inl (.inl hlt)
    · rcases le_total first.name second.name with hle | hle
      · exact .inl (.inr ⟨heq, hle⟩)
      · exact .inr (.inr ⟨heq.symm, hle⟩)
    · exact .inr (.inl hgt)

instance : IsTrans RuntimeInterface before where
  trans := by
    intro a b c hab hbc
    unfold before at *
    rcases hab with hlt | ⟨heq, hle⟩
    · left
      rcases hbc with hlt' | ⟨heq', -⟩
      · exact lt_trans hlt hlt'
      · rw [← heq']
        exact hlt
    · rcases hbc with hlt' | ⟨heq', hle'⟩
      · left
        rw [heq]
        exact hlt'
      · exact .inr ⟨heq.trans heq', le_trans hle hle'⟩

/-! ## The physical interfaces -/

/-- The physical interfaces among some entries. -/
def physical (inventory : Inventory) (entries : List Text) : List RuntimeInterface :=
  entries.filterMap (candidate inventory)

/-- An interface keeps its name. -/
theorem candidate_name {d_name : Text} {found : RuntimeInterface}
    (h : candidate inventory d_name = some found) :
    found.name = d_name ∧ d_name.length < IFNAMSIZ := by
  unfold candidate at h
  by_cases hskip : d_name.head? = some '.' ∨ d_name.length ≥ IFNAMSIZ
  · rw [if_pos hskip] at h
    cases h
  · rw [if_neg hskip] at h
    rw [not_or, not_le] at hskip
    unfold read_pci_ethernet_interface at h
    simp only [Option.bind_eq_bind, Option.bind_eq_some_iff, Option.pure_def, Option.some.injEq] at h
    obtain ⟨-, -, -, -, -, -, -, -, rfl⟩ := h
    refine ⟨?_, hskip.2⟩
    show d_name.take (IFNAMSIZ - 1) = d_name
    have hlt := hskip.2
    exact List.take_of_length_le (by omega)

theorem physical_name {entries : List Text} {found : RuntimeInterface}
    (h : found ∈ physical inventory entries) :
    found.name ∈ entries ∧ found.name.length < IFNAMSIZ := by
  obtain ⟨d_name, hmem, hfound⟩ := List.mem_filterMap.mp h
  obtain ⟨hname, hlength⟩ := candidate_name hfound
  rw [hname]
  exact ⟨hmem, hlength⟩

/-- The loop finds all of them, if they are not too many. -/
theorem discover_loop_eq (candidates : List RuntimeInterface) (entries : List Text)
    (hroom : candidates.length ≤ MAX_RUNTIME_INTERFACES) :
    discover_loop inventory candidates entries =
      if candidates.length + (physical inventory entries).length ≤ MAX_RUNTIME_INTERFACES then
        .ok (candidates ++ physical inventory entries)
      else
        .error (failure .E2BIG
          "too many physical PCI Ethernet interfaces to map Wake-on-LAN safely") := by
  induction entries generalizing candidates with
  | nil =>
    unfold discover_loop physical
    rw [List.filterMap_nil, List.append_nil, if_pos (by simpa using hroom)]
  | cons d_name rest ih =>
    unfold discover_loop
    cases hcandidate : candidate inventory d_name with
    | none =>
      have hsame : physical inventory (d_name :: rest) = physical inventory rest :=
        List.filterMap_cons_none hcandidate
      rw [hsame]
      exact ih candidates hroom
    | some found =>
      have hmore : physical inventory (d_name :: rest) = found :: physical inventory rest :=
        List.filterMap_cons_some hcandidate
      rw [hmore, List.length_cons]
      by_cases hfull : candidates.length ≥ MAX_RUNTIME_INTERFACES
      · simp only [if_pos hfull]
        rw [if_neg (by omega)]
      · simp only [if_neg hfull]
        have hlength : (candidates ++ [found]).length = candidates.length + 1 := by simp
        rw [ih (candidates ++ [found]) (by omega), hlength, List.append_assoc, List.singleton_append]
        have hsum : candidates.length + 1 + (physical inventory rest).length =
            candidates.length + ((physical inventory rest).length + 1) := by omega
        rw [hsum]

/-- The interfaces of a machine in the order of their slots, if there are as
    many as expected. -/
structure AllPhysical (inventory : Inventory) (count : Nat) (selected : List Text) : Prop where
  listed : ∃ entries, inventory.entries = .ok entries ∧ ∃ found : List RuntimeInterface,
    found.Perm (physical inventory entries) ∧ found.Pairwise before ∧
      selected = found.map RuntimeInterface.name
  count : selected.length = count

theorem discover_iff (hcount : renamed ≤ MAX_RUNTIME_INTERFACES) :
    discover_renamed_interfaces strerror inventory renamed = .ok selected ↔
      ∃ entries, inventory.entries = .ok entries ∧ (physical inventory entries).length = renamed ∧
        selected = ((physical inventory entries).insertionSort before).map RuntimeInterface.name := by
  unfold discover_renamed_interfaces
  cases hentries : inventory.entries with
  | error e =>
    apply iff_of_false
    · intro h
      cases h
    · intro h
      obtain ⟨entries, h, -⟩ := h
      cases h
  | ok entries =>
    have hnames : ((physical inventory entries).insertionSort before).map
        (fun found => snprintf IFNAMSIZ found.name) =
        ((physical inventory entries).insertionSort before).map RuntimeInterface.name := by
      apply List.map_congr_left
      intro found hfound
      have hlength := (physical_name ((List.mem_insertionSort before).mp hfound)).2
      exact List.take_of_length_le (by omega)
    have hloop := @discover_loop_eq inventory [] entries (Nat.zero_le _)
    simp only [Except.mapError, bind, Except.bind, hloop, List.length_nil, Nat.zero_add,
      List.nil_append, Except.ok.injEq, exists_eq_left']
    by_cases hfew : (physical inventory entries).length ≤ MAX_RUNTIME_INTERFACES
    · simp only [if_pos hfew]
      by_cases hexpected : (physical inventory entries).length = renamed
      · rw [if_neg (not_not.mpr hexpected), hnames, Except.ok.injEq]
        constructor
        · intro h
          exact ⟨hexpected, h.symm⟩
        · intro h
          exact h.2.symm
      · rw [if_pos hexpected]
        apply iff_of_false
        · intro h
          cases h
        · exact fun h => hexpected h.1
    · simp only [if_neg hfew]
      apply iff_of_false
      · intro h
        cases h
      · exact fun h => hfew (h.1 ▸ hcount)

/-! ## The selection -/

/-- Names that may be mapped. -/
structure Valid (interfaces : List Text) : Prop where
  some : interfaces ≠ []
  names : ∀ interface ∈ interfaces, interface ≠ [] ∧ interface.length < IFNAMSIZ

theorem validate_iff {interfaces : List Text} :
    validate_interfaces interfaces = .ok () ↔ Valid interfaces := by
  unfold validate_interfaces
  by_cases hnil : interfaces = []
  · rw [if_pos hnil]
    apply iff_of_false
    · intro h
      cases h
    · exact fun h => h.some hnil
  · rw [if_neg hnil]
    by_cases hbad : interfaces.any (fun interface => interface = [] ∨ interface.length ≥ IFNAMSIZ) = true
    · rw [if_pos hbad]
      apply iff_of_false
      · intro h
        cases h
      · intro h
        obtain ⟨interface, hmem, hinterface⟩ := List.any_eq_true.mp hbad
        obtain ⟨hname, hlength⟩ := h.names interface hmem
        rcases of_decide_eq_true hinterface with heq | hle
        · exact hname heq
        · exact absurd hlength (not_lt.mpr hle)
    · rw [if_neg hbad]
      apply iff_of_true rfl
      refine ⟨hnil, ?_⟩
      intro interface hmem
      have hgood : ¬ (interface = [] ∨ interface.length ≥ IFNAMSIZ) :=
        fun h => hbad (List.any_eq_true.mpr ⟨interface, hmem, decide_eq_true h⟩)
      rw [not_or, not_le] at hgood
      exact hgood

/-- All interfaces of a list are there, and physical ones. -/
def AllPresent (inventory : Inventory) (interfaces : List Text) : Prop :=
  ∀ interface ∈ interfaces, inventory.has interface = true

theorem select_iff (hvalid : Valid firmware) (hpos : 0 < renamed)
    (hcount : renamed ≤ MAX_RUNTIME_INTERFACES) :
    select_interfaces strerror inventory firmware renamed = .ok selected ↔
      (AllPresent inventory firmware ∧ selected = firmware) ∨
        (¬ AllPresent inventory firmware ∧
          discover_renamed_interfaces strerror inventory renamed = .ok selected) := by
  have hmapped : mapped_interfaces_are_present_and_physical inventory firmware = true ↔
      AllPresent inventory firmware := List.all_eq_true
  have hallowed : ¬ (renamed = 0 ∨ renamed > MAX_RUNTIME_INTERFACES) := by omega
  unfold select_interfaces
  rw [validate_iff.mpr hvalid]
  simp only [bind, Except.bind, if_neg hallowed]
  by_cases hall : AllPresent inventory firmware
  · rw [if_pos (hmapped.mpr hall), Except.ok.injEq]
    constructor
    · intro h
      exact .inl ⟨hall, h.symm⟩
    · intro h
      rcases h with ⟨-, heq⟩ | ⟨hnot, -⟩
      · exact heq.symm
      · exact absurd hall hnot
  · rw [if_neg (fun h => hall (hmapped.mp h))]
    constructor
    · intro h
      exact .inr ⟨hall, h⟩
    · intro h
      rcases h with ⟨hyes, -⟩ | ⟨-, hfound⟩
      · exact absurd hyes hall
      · exact hfound

theorem select_valid (h : select_interfaces strerror inventory firmware renamed = .ok selected) :
    Valid firmware ∧ 0 < renamed ∧ renamed ≤ MAX_RUNTIME_INTERFACES := by
  unfold select_interfaces at h
  cases hvalidate : validate_interfaces firmware with
  | error e =>
    rw [hvalidate] at h
    cases h
  | ok _ =>
    rw [hvalidate] at h
    simp only [bind, Except.bind] at h
    by_cases hcount : renamed = 0 ∨ renamed > MAX_RUNTIME_INTERFACES
    · rw [if_pos hcount] at h
      cases h
    · rw [not_or, not_lt] at hcount
      exact ⟨validate_iff.mp hvalidate, Nat.pos_of_ne_zero hcount.1, hcount.2⟩

/-- What a selection gives: the mapped interfaces, if all of them are there
    and physical, and else all physical ones. -/
def Selection (inventory : Inventory) (firmware : List Text) (renamed : Nat)
    (selected : List Text) : Prop :=
  (AllPresent inventory firmware ∧ selected = firmware) ∨
    (¬ AllPresent inventory firmware ∧ AllPhysical inventory renamed selected)

theorem selection (h : select_interfaces strerror inventory firmware renamed = .ok selected) :
    Selection inventory firmware renamed selected := by
  obtain ⟨hvalid, hpos, hcount⟩ := select_valid h
  rcases (select_iff hvalid hpos hcount).mp h with hmapped | ⟨hnot, hfound⟩
  · exact .inl hmapped
  · obtain ⟨entries, hentries, hlength, hselected⟩ := (discover_iff hcount).mp hfound
    refine .inr ⟨hnot, ⟨entries, hentries, _, List.perm_insertionSort before _,
      List.pairwise_insertionSort before _, hselected⟩, ?_⟩
    rw [hselected, List.length_map, List.length_insertionSort]
    exact hlength

/-- Up to the order it gives every one. -/
theorem select_of_selection (hvalid : Valid firmware) (hpos : 0 < renamed)
    (hcount : renamed ≤ MAX_RUNTIME_INTERFACES) {chosen : List Text}
    (h : Selection inventory firmware renamed chosen) :
    ∃ selected, select_interfaces strerror inventory firmware renamed = .ok selected ∧
      selected.Perm chosen := by
  rcases h with ⟨hall, rfl⟩ | ⟨hnot, hphysical⟩
  · exact ⟨_, (select_iff hvalid hpos hcount).mpr (.inl ⟨hall, rfl⟩), List.Perm.refl _⟩
  · obtain ⟨⟨entries, hentries, found, hperm, -, rfl⟩, hlength⟩ := hphysical
    rw [List.length_map, hperm.length_eq] at hlength
    have hdiscover : discover_renamed_interfaces strerror inventory renamed = .ok _ :=
      (discover_iff hcount).mpr ⟨entries, hentries, hlength, rfl⟩
    refine ⟨_, (select_iff hvalid hpos hcount).mpr (.inr ⟨hnot, hdiscover⟩), ?_⟩
    exact ((List.perm_insertionSort before _).trans hperm.symm).map _

/-- What was selected may be mapped again. -/
theorem selected_valid (h : select_interfaces strerror inventory firmware renamed = .ok selected)
    (hfew : firmware.length ≤ MAX_RUNTIME_INTERFACES) :
    Valid selected ∧ 0 < selected.length ∧ selected.length ≤ MAX_RUNTIME_INTERFACES := by
  obtain ⟨hvalid, hpos, hcount⟩ := select_valid h
  rcases (select_iff hvalid hpos hcount).mp h with ⟨-, rfl⟩ | ⟨-, hfound⟩
  · exact ⟨hvalid, List.length_pos_iff.mpr hvalid.some, hfew⟩
  · obtain ⟨entries, hentries, hlength, rfl⟩ := (discover_iff hcount).mp hfound
    have hsame : (((physical inventory entries).insertionSort before).map
        RuntimeInterface.name).length = renamed := by
      rw [List.length_map, List.length_insertionSort]
      exact hlength
    refine ⟨⟨?_, ?_⟩, by omega, by omega⟩
    · intro hnil
      rw [hnil] at hsame
      exact absurd hsame.symm (Nat.ne_of_gt hpos)
    · intro interface hmem
      obtain ⟨found, hfound, rfl⟩ := List.mem_map.mp hmem
      obtain ⟨hlisted, hshort⟩ := physical_name ((List.mem_insertionSort before).mp hfound)
      refine ⟨?_, hshort⟩
      intro hempty
      rw [hempty] at hlisted
      exact inventory.named entries hentries hlisted

end UgreenNas.Network
