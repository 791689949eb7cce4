import UgreenNas.Disk.Bijection
import UgreenNas.Disk.Placed

/-! # One connector rule at most

    A SATA disk of a PCI function has at most one factory number, however
    often the inventory is listed and in whatever order.  No two SATA rules
    of a table ask for the same number or port, so it meets one rule at most.
-/

namespace UgreenNas.DiskMap

open Effect Effect.Prog

variable {tree : Tree} {root : Text}

/-- What every step of a pass over attributes keeps holds after the pass. -/
theorem get_walk_invariant {ι β ε : Type} {J : β → Prop} {body : β → ι → Attributes (Except ε β)}
    {l : List ι} (hbody : ∀ b i b', J b → tree.get (body b i) = .ok b' → J b') {b b' : β}
    (hb : J b) (h : tree.get (Prog.walk body b l) = .ok b') : J b' := by
  induction l generalizing b with
  | nil =>
    cases h
    exact hb
  | cons i rest ih =>
    rw [Prog.walk, get_bind] at h
    cases hstep : tree.get (body b i) with
    | error e =>
      rw [hstep] at h
      cases h
    | ok next =>
      rw [hstep] at h
      exact ih (hbody b i next hb hstep) h

/-! ## ARM boards -/

/-- What the local port of libata number `ata` reads as. -/
def Tree.port_no (tree : Tree) (controller : Text) (ata : Nat) : Option Nat :=
  (tree.get (read_text (snprintf PATH_MAX (ata_port_path controller ata ++ "/port_no")) 32)).bind
    parse_number

/-- The path of an entry of the PCI inventory. -/
def Tree.pci_path (tree : Tree) (root entry : Text) : Option Text :=
  tree.realpath (snprintf PATH_MAX (devices_path root ++ "/" ++ entry))

/-- The factory number of a port of the add-on controller of a DH4300 Plus. -/
def AddOnNumber (tree : Tree) (root : Text) (disk : Disk) (n : Nat) : Prop :=
  ∃ controller port, tree.pci_path root disk.pci = some controller ∧
    tree.port_no controller disk.ata = some port ∧ n = 2 + port

theorem get_arm_port {four : Bool} {nodes : List (Text × Nat)} {pci controller entry : Text}
    {disk : Disk} {st st' : ArmPorts} (hpci : disk.pci ≠ [])
    (hcontroller : pci ≠ [] → tree.pci_path root pci = some controller)
    (hst : st.result = 0 ∨ AddOnNumber tree root disk st.result)
    (h : tree.get (arm_port root four nodes pci controller disk st entry) = .ok st') :
    st'.result = 0 ∨ AddOnNumber tree root disk st'.result := by
  unfold arm_port at h
  split at h
  · cases h
    exact hst
  cases hata : ata_number entry with
  | none =>
    rw [hata] at h
    cases h
  | some ata =>
    simp only [hata, get_bind] at h
    split at h
    · next resolved _ =>
      split at h
      · next before _ _ =>
        split at h
        · cases h
        · next hpath =>
          rw [not_not] at hpath
          rw [get_bind] at h
          split at h
          · next port hport =>
            split at h
            · cases h
            split at h
            · next hadd_on =>
              split at h
              · cases h
              · simp only [get_pure, Except.ok.injEq] at h
                subst h
                dsimp only
                split
                · next hours =>
                  simp only [Bool.and_eq_true, decide_eq_true_eq] at hadd_on hours
                  rw [hadd_on.2, hours.1] at hpath
                  rw [← hpath] at hport
                  right
                  refine ⟨controller, port, ?_, hport, rfl⟩
                  rw [← hours.2]
                  exact hcontroller (by rw [hours.2]; exact hpci)
                · exact hst
            · rw [get_bind] at h
              split at h
              · split at h
                · cases h
                · simp only [get_pure, Except.ok.injEq] at h
                  subst h
                  -- A native port is none of a PCI function.
                  simpa [hpci] using hst
              · cases h
          · cases h
      · cases h
    · cases h

/-- The controller found on PCI is at the path of its name. -/
theorem runs_arm_pci {four : Bool} {n : Nat} {pci controller : Text} {s s' : Unit}
    (h : Runs tree.env (arm_pci root four) s (.ok (n, pci, controller)) s') :
    pci ≠ [] → tree.pci_path root pci = some controller := by
  unfold arm_pci at h
  obtain ⟨opened, _, -, h⟩ := Runs.of_bind h
  cases opened with
  | error errno =>
    dsimp only at h
    split at h
    · cases h
    · cases h
      exact fun hne => absurd rfl hne
  | ok functions =>
    apply Runs.walk_invariant
      (J := fun (st : Nat × Text × Text) => st.2.1 ≠ [] → tree.pci_path root st.2.1 = some st.2.2)
      _ _ h
    · intro st entry _ st' s s' hst hstep
      unfold arm_function at hstep
      dsimp only at hstep
      split at hstep
      · cases hstep
        exact hst
      obtain ⟨class_code, _, -, hstep⟩ := Runs.of_bind hstep
      cases class_code with
      | none => cases hstep
      | some class_code =>
        dsimp only at hstep
        split at hstep
        · cases hstep
          exact hst
        split at hstep
        · cases hstep
        obtain ⟨vendor, _, -, hstep⟩ := Runs.of_bind hstep
        split at hstep
        · cases hstep
        obtain ⟨device, _, -, hstep⟩ := Runs.of_bind hstep
        split at hstep
        · cases hstep
        obtain ⟨path, _, hpath, hstep⟩ := Runs.of_bind hstep
        have hpath' : path = tree.pci_path root entry := runs_get hpath
        cases path with
        | none => cases hstep
        | some path =>
          obtain ⟨below, _, -, hstep⟩ := Runs.of_bind hstep
          split at hstep
          · cases hstep
          obtain ⟨ports, _, -, hstep⟩ := Runs.of_bind hstep
          split at hstep
          · cases hstep
          cases hstep
          exact fun _ => hpath'.symm
    · exact fun hne => absurd rfl hne

/-- On an ARM board a disk of a PCI function has one number at most. -/
theorem runs_arm_index {model : Text} {disk : Disk} {n : Nat} {s s' : Unit} (hpci : disk.pci ≠ [])
    (h : Runs tree.env (firmware_arm_ata_index root model disk) s n s') :
    n = 0 ∨ AddOnNumber tree root disk n := by
  unfold firmware_arm_ata_index at h
  dsimp only at h
  generalize decide (model = ("DH4300 Plus" : Text)) = four at h
  split at h
  · cases h
    exact .inl rfl
  obtain ⟨known, _, -, h⟩ := Runs.of_bind h
  split at h
  · cases h
    exact .inl rfl
  obtain ⟨found, _, hfound, h⟩ := Runs.of_bind h
  cases found with
  | error _ =>
    cases h
    exact .inl rfl
  | ok found =>
    obtain ⟨controllers, pci, controller⟩ := found
    have hcontroller := runs_arm_pci hfound
    dsimp only at h
    by_cases hcount : controllers = if four = true then 1 else 0
    · rw [if_neg (not_not.mpr hcount)] at h
      obtain ⟨opened, _, -, h⟩ := Runs.of_bind h
      cases opened with
      | error errno =>
        cases h
        exact .inl rfl
      | ok ata_ports =>
        obtain ⟨seen, _, hseen, h⟩ := Runs.of_bind h
        have hseen' := runs_get hseen
        cases seen with
        | error _ =>
          cases h
          exact .inl rfl
        | ok ports =>
          have hports : ports.result = 0 ∨ AddOnNumber tree root disk ports.result := by
            apply get_walk_invariant
              (J := fun (st : ArmPorts) => st.result = 0 ∨ AddOnNumber tree root disk st.result)
              _ _ hseen'.symm
            · exact fun st entry st' hst hstep => get_arm_port hpci hcontroller hst hstep
            · exact .inl rfl
          dsimp only at h
          by_cases hcomplete : (ports.count = (if four = true then 4 else 2) && ports.native_mask = 3 &&
              ports.pci_ports = (if four = true then 3 else 0)) = true
          · rw [if_pos hcomplete] at h
            cases h
            exact hports
          · rw [if_neg hcomplete] at h
            cases h
            exact .inl rfl
    · rw [if_pos hcount] at h
      cases h
      exact .inl rfl

theorem AddOnNumber.unique {disk : Disk} {n m : Nat} (h : AddOnNumber tree root disk n)
    (h' : AddOnNumber tree root disk m) : n = m := by
  obtain ⟨controller, port, hpath, hport, rfl⟩ := h
  obtain ⟨controller', port', hpath', hport', rfl⟩ := h'
  rw [hpath, Option.some.injEq] at hpath'
  rw [← hpath', hport, Option.some.injEq] at hport'
  rw [hport']

/-! ## Several controllers -/

/-- The numbers of a recognised inventory do not depend on its order. -/
theorem FactoryShape.index_perm {expected : Nat} {controllers listed : List Controller}
    (h : FactoryShape expected controllers) (hapart : (controllers.map Controller.pci).Nodup)
    (hperm : controllers.Perm listed) (disk : Disk) :
    factory_index expected listed.length disk (with_other listed) =
      factory_index expected controllers.length disk (with_other controllers) := by
  have hpair : ∀ c d : Controller, Row expected c d → c.pci ≠ d.pci →
      factory_index expected 2 disk (with_other [d, c]) =
        factory_index expected 2 disk (with_other [c, d]) := by
    intro c d hrow hne
    obtain ⟨hc, hd⟩ := hrow.factory_base
    show factory_index expected 2 disk [(d, some c), (c, some d)] =
      factory_index expected 2 disk [(c, some d), (d, some c)]
    simp only [factory_index, hc, hd]
    by_cases hfirst : c.pci = disk.pci
    · have hsecond : d.pci ≠ disk.pci := fun heq => hne (hfirst.trans heq.symm)
      rw [if_neg hsecond, if_pos hfirst, if_pos hfirst]
    · rw [if_neg hfirst, if_neg hfirst]
  cases h with
  | alone h => rw [List.perm_singleton.mp hperm.symm]
  | @row c d hrow =>
    have hne : c.pci ≠ d.pci := by simpa using hapart
    rcases List.perm_pair.mp hperm.symm with rfl | rfl
    · rfl
    · exact hpair c d hrow hne
  | @reversed c d hrow =>
    have hne : d.pci ≠ c.pci := by simpa using hapart
    rcases List.perm_pair.mp hperm.symm with rfl | rfl
    · rfl
    · exact (hpair c d hrow hne.symm).symm

/-- A number is only given to a SATA disk with a local port, and it is that
    of an ARM board, of a single controller or of several. -/
theorem firmware_ata_index_cases {layout : FirmwareLayout} {disk : Disk} (hpci : disk.pci ≠ [])
    {n : Nat} {s s' : Unit} (h : Runs tree.env (firmware_ata_index root layout disk) s n s')
    (hn : n ≠ 0) :
    disk.interface_type = "sata" ∧ disk.ata_port ≠ 0 ∧
      if (layout.model = "DH2300" || layout.model = "DH4300 Plus") = true then
        AddOnNumber tree root disk n
      else
        (layout.model = "DXP2800" || layout.model = "DXP4800 Plus" ||
          layout.model = "DXP4800 Pro") = true → n = disk.ata_port := by
  unfold firmware_ata_index at h
  split at h
  · cases h
    exact absurd rfl hn
  next hother =>
    simp only [Bool.or_eq_true, decide_eq_true_eq, not_or, not_not] at hother
    refine ⟨hother.1, hother.2, ?_⟩
    by_cases harm : (layout.model = "DH2300" || layout.model = "DH4300 Plus") = true
    · rw [if_pos harm] at h ⊢
      rcases runs_arm_index hpci h with hzero | hadd_on
      · exact absurd hzero hn
      · exact hadd_on
    · rw [if_neg harm] at h ⊢
      intro hsingle
      rw [if_pos hsingle] at h
      obtain ⟨profile, _, -, h⟩ := Runs.of_bind h
      cases profile with
      | none =>
        cases h
        exact absurd rfl hn
      | some profile =>
        obtain ⟨found, _, -, h⟩ := Runs.of_bind h
        cases found with
        | error reason =>
          cases h
          exact absurd rfl hn
        | ok pci =>
          cases h
          split at hn
          · next heq => rw [if_pos heq]
          · exact absurd rfl hn

/-- A disk of a PCI function has one factory number at most, in whatever
    order the inventory is listed each time. -/
theorem firmware_ata_index_unique {layout : FirmwareLayout} {disk : Disk} (hpci : disk.pci ≠ [])
    {n m : Nat} {s s' t t' : Unit} (h : Runs tree.env (firmware_ata_index root layout disk) s n s')
    (h' : Runs tree.env (firmware_ata_index root layout disk) t m t') (hn : n ≠ 0) (hm : m ≠ 0) :
    n = m := by
  obtain ⟨hsata, hport, hcase⟩ := firmware_ata_index_cases hpci h hn
  obtain ⟨-, -, hcase'⟩ := firmware_ata_index_cases hpci h' hm
  by_cases harm : (layout.model = "DH2300" || layout.model = "DH4300 Plus") = true
  · rw [if_pos harm] at hcase hcase'
    exact hcase.unique hcase'
  rw [if_neg harm] at hcase hcase'
  by_cases hsingle : (layout.model = "DXP2800" || layout.model = "DXP4800 Plus" ||
      layout.model = "DXP4800 Pro") = true
  · rw [hcase hsingle, hcase' hsingle]
  have hgeneric : layout.model ∉ (["DH2300", "DH4300 Plus", "DXP2800", "DXP4800 Plus",
      "DXP4800 Pro"] : List Text) := by
    simp only [Bool.or_eq_true, decide_eq_true_eq, not_or] at harm hsingle
    simp only [List.mem_cons, List.not_mem_nil, or_false, not_or]
    exact ⟨harm.1, harm.2, hsingle.1.1, hsingle.1.2, hsingle.2⟩
  obtain ⟨controllers, hinventory⟩ := (runs_firmware_ata_index hgeneric h).1 hn
  obtain ⟨listed, hperm, hindex⟩ :=
    (runs_firmware_ata_index hgeneric h).2 controllers hinventory hsata hport
  obtain ⟨listed', hperm', hindex'⟩ :=
    (runs_firmware_ata_index hgeneric h').2 controllers hinventory hsata hport
  obtain ⟨directory, -, hlists⟩ := hinventory.listed
  have hapart : (controllers.map Controller.pci).Nodup := by
    rw [hlists.pcis]
    exact directory.nodup.filter _
  rw [hindex, hindex', hinventory.shape.index_perm hapart hperm,
    hinventory.shape.index_perm hapart hperm']

/-! ## SATA rules -/

/-- What a SATA rule asks of a disk: the kind, and a factory number or a
    local port. -/
def FirmwareRule.asks (rule : FirmwareRule) : Text × Option Nat :=
  if rule.kind = "ata_id" then (rule.kind, ata_number rule.identity)
  else (rule.kind, ((strchr rule.identity '|').map Prod.snd).bind fun connector =>
    parse_number (snprintf 32 (connector.drop 3)))

def FirmwareRule.sata (rule : FirmwareRule) : Bool := rule.interface_type = "sata"

/-- No two SATA rules of a table ask for the same, and none asks for number 0. -/
theorem sata_rules_apart : ∀ layout ∈ layouts,
    ((layout.rules.filter FirmwareRule.sata).map FirmwareRule.asks).Nodup ∧
    (∀ r ∈ layout.rules, ∀ r' ∈ layout.rules, r.sata = true → r'.sata = true → r.kind = r'.kind) ∧
    ∀ r ∈ layout.rules, r.sata = true → ata_number r.identity ≠ some 0 := by
  decide +kernel

section matching

variable {layout : FirmwareLayout} {disk : Disk} {resolved : Text} {revision_known : Bool}

/-- Why a SATA disk meets a rule: by its number, or by its port. -/
def Meets (tree : Tree) (root : Text) (layout : FirmwareLayout) (disk : Disk)
    (rule : FirmwareRule) : Prop :=
  if rule.kind = "ata_id" then
    ∃ n s s', ata_number rule.identity = some n ∧
      Runs tree.env (firmware_ata_index root layout disk) s n s'
  else
    rule.asks = (rule.kind, some disk.ata_port)

theorem runs_syspath_matches {rule : FirmwareRule} (hnvme : disk.interface_type ≠ "nvme")
    (hkind : rule.kind ≠ "ata_id") {s s' : Unit}
    (h : Runs tree.env (syspath_matches root resolved layout rule disk revision_known) s true s') :
    rule.asks = (rule.kind, some disk.ata_port) := by
  unfold syspath_matches at h
  split at h
  · next port_path connector hidentity =>
    split at h
    · cases h
    split at h
    · cases h
    split at h
    · cases h
    dsimp only at h
    split at h
    · cases h
    · next port hport =>
      split at h
      · next heq =>
        unfold FirmwareRule.asks
        rw [if_neg hkind, hidentity, heq]
        exact congrArg (Prod.mk rule.kind) hport
      · cases h
  · cases h

theorem runs_rule_matches {rule : FirmwareRule} (hnvme : disk.interface_type ≠ "nvme") {s s' : Unit}
    (h : Runs tree.env (firmware_rule_matches root resolved layout rule disk revision_known) s true
      s') :
    rule.sata = true ∧ Meets tree root layout disk rule := by
  unfold firmware_rule_matches at h
  simp only [hnvme, decide_false, Bool.not_false, Bool.and_true, Bool.and_false] at h
  split at h
  · cases h
  next hsata =>
    have hsata' : rule.sata = true := by simpa [FirmwareRule.sata] using hsata
    refine ⟨hsata', ?_⟩
    unfold Meets
    split at h
    · cases h
    by_cases hkind : rule.kind = "ata_id"
    · rw [if_pos (by simpa using hkind)] at h
      rw [if_pos hkind]
      split at h
      · cases h
      · next index hindex =>
        obtain ⟨n, t, hrun, h⟩ := Runs.of_bind h
        have heq : decide (n = index) = true := by
          generalize decide (n = index) = same at h
          cases h
          rfl
        rw [← of_decide_eq_true heq] at hindex
        exact ⟨n, s, t, hindex, hrun⟩
    · rw [if_neg (by simpa using hkind)] at h
      rw [if_neg hkind]
      split at h
      · cases h
      split at h
      · cases h
      split at h
      · exact runs_syspath_matches hnvme hkind h
      · cases h

theorem runs_matching_rules (hnvme : disk.interface_type ≠ "nvme") {rules matched : List FirmwareRule}
    {s s' : Unit}
    (h : Runs tree.env (matching_rules root resolved layout disk revision_known rules) s matched s') :
    matched.Sublist rules ∧ ∀ rule ∈ matched, rule.sata = true ∧ Meets tree root layout disk rule := by
  induction rules generalizing matched s with
  | nil =>
    cases h
    exact ⟨List.Sublist.refl _, fun rule hrule => nomatch hrule⟩
  | cons rule rest ih =>
    obtain ⟨found, _, hfound, h⟩ := Runs.of_bind h
    obtain ⟨others, _, hothers, h⟩ := Runs.of_bind h
    obtain ⟨hsublist, hall⟩ := ih hothers
    cases found with
    | false =>
      cases h
      exact ⟨hsublist.cons rule, hall⟩
    | true =>
      cases h
      refine ⟨hsublist.cons_cons rule, ?_⟩
      rw [if_pos rfl, List.forall_mem_cons]
      exact ⟨runs_rule_matches hnvme hfound, hall⟩

/-- A SATA disk of a PCI function meets one rule at most. -/
theorem runs_connector_rules {name : Text} (hlayout : layout ∈ layouts) (hpci : disk.pci ≠ [])
    (hnvme : disk.interface_type ≠ "nvme") {matched : List FirmwareRule} {s s' : Unit}
    (h : Runs tree.env (connector_rules root name layout disk revision_known) s matched s') :
    matched.length ≤ 1 := by
  obtain ⟨hapart, hkinds, hzero⟩ := sata_rules_apart layout hlayout
  obtain ⟨resolved, _, -, h⟩ := Runs.of_bind h
  cases resolved with
  | none =>
    cases h
    exact Nat.zero_le 1
  | some resolved =>
    obtain ⟨hsublist, hall⟩ := runs_matching_rules hnvme h
    have hself : matched.filter FirmwareRule.sata = matched :=
      List.filter_eq_self.mpr fun rule hrule => (hall rule hrule).1
    have hnodup : (matched.map FirmwareRule.asks).Nodup := by
      rw [← hself]
      exact hapart.sublist ((hsublist.filter _).map _)
    by_contra hmany
    obtain ⟨r, r', rest, rfl⟩ : ∃ r r' rest, matched = r :: r' :: rest := by
      match matched with
      | [] => simp at hmany
      | [r] => simp at hmany
      | r :: r' :: rest => exact ⟨r, r', rest, rfl⟩
    obtain ⟨hsata, hmeets⟩ := hall r (by simp)
    obtain ⟨hsata', hmeets'⟩ := hall r' (by simp)
    have hrule := hsublist.subset (show r ∈ r :: r' :: rest by simp)
    have hrule' := hsublist.subset (show r' ∈ r :: r' :: rest by simp)
    have hkind := hkinds r hrule r' hrule' hsata hsata'
    have hne : r.asks ≠ r'.asks := by
      intro heq
      simp [heq] at hnodup
    apply hne
    unfold Meets at hmeets hmeets'
    by_cases hata : r.kind = "ata_id"
    · have hata' : r'.kind = "ata_id" := hkind.symm.trans hata
      rw [if_pos hata] at hmeets
      rw [if_pos hata'] at hmeets'
      obtain ⟨n, t, t', hnumber, hrun⟩ := hmeets
      obtain ⟨n', u, u', hnumber', hrun'⟩ := hmeets'
      have hn : n ≠ 0 := by
        intro heq
        rw [heq] at hnumber
        exact hzero r hrule hsata hnumber
      have hn' : n' ≠ 0 := by
        intro heq
        rw [heq] at hnumber'
        exact hzero r' hrule' hsata' hnumber'
      have hsame := firmware_ata_index_unique hpci hrun hrun' hn hn'
      unfold FirmwareRule.asks
      rw [if_pos hata, if_pos hata', hkind, hnumber, hnumber', hsame]
    · rw [if_neg hata] at hmeets
      rw [if_neg (fun heq => hata (hkind.trans heq))] at hmeets'
      rw [hmeets, hmeets', hkind]

end matching

end UgreenNas.DiskMap
