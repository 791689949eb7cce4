import Mathlib.Data.List.Forall2
import Mathlib.Data.List.Permutation
import Mathlib.Data.Set.Function
import Mathlib.Order.Interval.Set.Basic
import UgreenNas.Disk.Inventory

/-! # The factory's numbers are one for each port (`disk/disk.c`)

    The lookup decides controller by controller whether the inventory is one
    that the factory ships.  Still it numbers all ports of an inventory, each
    with a number of its own, or none.
-/

namespace UgreenNas.DiskMap

open Effect Effect.Prog

variable {tree : Tree} {root : Text}

/-! ## The controllers of a tree -/

def devices_path (root : Text) : Text := snprintf PATH_MAX (root ++ "/bus/pci/devices")

def Tree.class_at (tree : Tree) (root entry : Text) : Option Nat :=
  tree.get (read_hex (snprintf PATH_MAX (devices_path root ++ "/" ++ entry ++ "/class")))

/-- The entry is a PCI function for SATA. -/
def Tree.is_sata (tree : Tree) (root entry : Text) : Bool :=
  !dot entry && (tree.class_at root entry).any (· / 256 = 0x0106)

/-- The record that the inventory makes of a controller. -/
structure IsController (tree : Tree) (root : Text) (c : Controller) : Prop where
  not_dot : dot c.pci = false
  class_code : tree.class_at root c.pci = some 0x010601
  is_pci : is_pci c.pci = true
  path : tree.realpath (snprintf PATH_MAX (devices_path root ++ "/" ++ c.pci)) = some c.path
  vendor : tree.get (read_hex (snprintf PATH_MAX (c.path ++ "/vendor"))) = some c.vendor
  device : tree.get (read_hex (snprintf PATH_MAX (c.path ++ "/device"))) = some c.device
  ports : HasPorts tree root c.pci c.ports
  bridge : tree.get (bridge_role c.path) = c.bridge

/-- A PCI function has one record. -/
theorem IsController.unique {c c' : Controller} (h : IsController tree root c)
    (h' : IsController tree root c') (hpci : c.pci = c'.pci) : c = c' := by
  obtain ⟨pci, path, vendor, device, ports, bridge⟩ := c
  obtain ⟨pci', path', vendor', device', ports', bridge'⟩ := c'
  dsimp only at hpci
  subst hpci
  have hpath := h.path.symm.trans h'.path
  cases hpath
  have hvendor := h.vendor.symm.trans h'.vendor
  cases hvendor
  have hdevice := h.device.symm.trans h'.device
  cases hdevice
  have hports : ports = ports' := h.ports.unique h'.ports
  have hbridge : bridge = bridge' := h.bridge.symm.trans h'.bridge
  rw [hports, hbridge]

theorem IsController.is_sata {c : Controller} (h : IsController tree root c) :
    tree.is_sata root c.pci = true := by
  unfold Tree.is_sata
  rw [h.not_dot, h.class_code]
  rfl

/-- A controller is behind no bridge, the first or the second. -/
theorem IsController.bridge_le {c : Controller} (h : IsController tree root c) : c.bridge ≤ 2 := by
  rw [← h.bridge]
  unfold bridge_role
  simp only [get_bind]
  split
  · exact Nat.le_refl 2
  · split
    · exact Nat.le_succ 1
    · exact Nat.zero_le 2

theorem runs_port_count {pci : Text} {wanted : List Nat} {n : Nat} {s s' : Unit}
    (h : Runs tree.env (port_count root pci wanted) s n s') :
    (n ∈ wanted ∧ HasPorts tree root pci n) ∨ (n = 0 ∧ ∀ m ∈ wanted, ¬ HasPorts tree root pci m) := by
  induction wanted generalizing s with
  | nil =>
    cases h
    exact .inr ⟨rfl, fun m hm => nomatch hm⟩
  | cons m rest ih =>
    obtain ⟨found, _, hfound, h⟩ := Runs.of_bind h
    have hiff := runs_controller_ports hfound
    cases found with
    | true =>
      cases h
      exact .inl ⟨List.mem_cons_self, hiff.mp rfl⟩
    | false =>
      rcases ih h with ⟨hmem, hports⟩ | ⟨rfl, hnone⟩
      · exact .inl ⟨List.mem_cons_of_mem m hmem, hports⟩
      · refine .inr ⟨rfl, fun k hk => ?_⟩
        rcases List.mem_cons.mp hk with rfl | hk
        · exact fun hports => by simpa using hiff.mpr hports
        · exact hnone k hk

/-- The entry is not looked at any further. -/
def Tree.passes (tree : Tree) (root entry : Text) : Prop :=
  dot entry = true ∨ ∃ class_code, tree.class_at root entry = some class_code ∧
    class_code / 256 ≠ 0x0106

theorem runs_factory_function {controllers : List Controller} {entry : Text}
    {r : Except Unit (List Controller)} {s s' : Unit}
    (h : Runs tree.env (factory_function root controllers entry) s r s') :
    (tree.passes root entry ∧ r = .ok controllers) ∨
    (∃ c, IsController tree root c ∧ c.pci = entry ∧ controllers.length ≠ 4 ∧
      r = .ok (controllers ++ [c])) ∨
    (r = .error () ∧ ¬ tree.passes root entry ∧
      ∀ c, IsController tree root c → c.pci = entry → controllers.length = 4) := by
  unfold factory_function at h
  dsimp only at h
  split at h
  · next hdot =>
    cases h
    exact .inl ⟨.inl hdot, rfl⟩
  · next hdot =>
    obtain ⟨class_code, _, hclass, h⟩ := Runs.of_bind h
    have hclass' : class_code = tree.class_at root entry := runs_get hclass
    cases class_code with
    | none =>
      cases h
      refine .inr (.inr ⟨rfl, ?_, fun c hc hpci => ?_⟩)
      · intro hpasses
        rcases hpasses with h | ⟨class_code, hsome, -⟩
        · exact hdot h
        · rw [← hclass'] at hsome
          cases hsome
      · have hsome := hc.class_code
        rw [hpci, ← hclass'] at hsome
        cases hsome
    | some class_code =>
      dsimp only at h
      split at h
      · next hother =>
        cases h
        exact .inl ⟨.inr ⟨class_code, hclass'.symm, hother⟩, rfl⟩
      · next hsata =>
        have hnot : ¬ tree.passes root entry := by
          intro hpasses
          rcases hpasses with h | ⟨class_code', hsome, hother⟩
          · exact hdot h
          · rw [← hclass'] at hsome
            cases hsome
            exact hsata hother
        split at h
        · next hrefused =>
          cases h
          refine .inr (.inr ⟨rfl, hnot, fun c hc hpci => ?_⟩)
          have hcode := hc.class_code
          have hshape := hc.is_pci
          rw [hpci] at hcode hshape
          rw [← hclass'] at hcode
          cases hcode
          simpa [hshape] using hrefused
        · next haccepted =>
          simp only [Bool.or_eq_true, decide_eq_true_eq, Bool.not_eq_true', not_or,
            Bool.not_eq_false, not_not] at haccepted
          obtain ⟨⟨hcode, hroom⟩, hshape⟩ := haccepted
          -- What cannot be read leaves no record of the controller.
          obtain ⟨path, _, hpath, h⟩ := Runs.of_bind h
          have hpath' : path = tree.realpath (snprintf PATH_MAX (devices_path root ++ "/" ++ entry)) :=
            runs_get hpath
          cases path with
          | none =>
            cases h
            refine .inr (.inr ⟨rfl, hnot, fun c hc hpci => ?_⟩)
            have hsome := hc.path
            rw [hpci, ← hpath'] at hsome
            cases hsome
          | some path =>
            obtain ⟨vendor, _, hvendor, h⟩ := Runs.of_bind h
            have hvendor' : vendor = tree.get (read_hex (snprintf PATH_MAX (path ++ "/vendor"))) :=
              runs_get hvendor
            have hsame : ∀ c, IsController tree root c → c.pci = entry → c.path = path := by
              intro c hc hpci
              have hsome := hc.path
              rw [hpci, ← hpath'] at hsome
              cases hsome
              rfl
            cases vendor with
            | none =>
              cases h
              refine .inr (.inr ⟨rfl, hnot, fun c hc hpci => ?_⟩)
              have hsome := hc.vendor
              rw [hsame c hc hpci, ← hvendor'] at hsome
              cases hsome
            | some vendor =>
              obtain ⟨device, _, hdevice, h⟩ := Runs.of_bind h
              have hdevice' : device = tree.get (read_hex (snprintf PATH_MAX (path ++ "/device"))) :=
                runs_get hdevice
              cases device with
              | none =>
                cases h
                refine .inr (.inr ⟨rfl, hnot, fun c hc hpci => ?_⟩)
                have hsome := hc.device
                rw [hsame c hc hpci, ← hdevice'] at hsome
                cases hsome
              | some device =>
                obtain ⟨ports, _, hports, h⟩ := Runs.of_bind h
                rcases runs_port_count hports with ⟨hmem, hhas⟩ | ⟨hzero, hnone⟩
                · have hpos := hhas.pos
                  rw [if_neg (by omega)] at h
                  obtain ⟨bridge, _, hbridge, h⟩ := Runs.of_bind h
                  have hbridge' : bridge = tree.get (bridge_role path) := runs_get hbridge
                  cases h
                  refine .inr (.inl ⟨⟨entry, path, vendor, device, ports, bridge⟩, ?_, rfl, hroom,
                    rfl⟩)
                  exact ⟨by simpa using hdot, by rw [← hclass', hcode], hshape, hpath'.symm,
                    hvendor'.symm, hdevice'.symm, hhas, hbridge'.symm⟩
                · rw [if_pos hzero] at h
                  cases h
                  refine .inr (.inr ⟨rfl, hnot, fun c hc hpci => ?_⟩)
                  have hhas := hc.ports
                  rw [hpci] at hhas
                  have hpos := hhas.pos
                  have hle := hhas.le
                  refine absurd hhas (hnone c.ports ?_)
                  have hmem : c.ports ∈ List.range' 1 8 := by
                    rw [List.mem_range'_1]
                    omega
                  exact hmem

/-- `found` are the records of the SATA controllers among the entries. -/
structure Lists (tree : Tree) (root : Text) (entries : List Text) (found : List Controller) :
    Prop where
  pcis : found.map Controller.pci = entries.filter (tree.is_sata root)
  records : ∀ c ∈ found, IsController tree root c
  readable : ∀ entry ∈ entries, tree.passes root entry ∨ tree.is_sata root entry = true

theorem not_sata_of_passes {entry : Text} (h : tree.passes root entry) :
    tree.is_sata root entry = false := by
  unfold Tree.is_sata
  rcases h with hdot | ⟨class_code, hsome, hother⟩
  · rw [hdot]
    rfl
  · rw [hsome]
    simp [hother]

theorem lists_cons_passes {entry : Text} {entries : List Text} {found : List Controller}
    (h : tree.passes root entry) :
    Lists tree root (entry :: entries) found ↔ Lists tree root entries found := by
  have hfilter : (entry :: entries).filter (tree.is_sata root) =
      entries.filter (tree.is_sata root) := by
    rw [List.filter_cons_of_neg (by simp [not_sata_of_passes h])]
  constructor
  · intro hlists
    refine ⟨hfilter ▸ hlists.pcis, hlists.records, fun e he => ?_⟩
    exact hlists.readable e (List.mem_cons_of_mem entry he)
  · intro hlists
    refine ⟨hfilter ▸ hlists.pcis, hlists.records, fun e he => ?_⟩
    rcases List.mem_cons.mp he with rfl | he
    · exact .inl h
    · exact hlists.readable e he

theorem lists_cons_controller {c : Controller} (hc : IsController tree root c)
    {entries : List Text} {found : List Controller} :
    Lists tree root (c.pci :: entries) found ↔
      ∃ rest, found = c :: rest ∧ Lists tree root entries rest := by
  have hfilter : (c.pci :: entries).filter (tree.is_sata root) =
      c.pci :: entries.filter (tree.is_sata root) :=
    List.filter_cons_of_pos hc.is_sata
  constructor
  · intro hlists
    have hpcis := hlists.pcis
    rw [hfilter] at hpcis
    cases found with
    | nil => cases hpcis
    | cons d rest =>
      rw [List.map_cons, List.cons.injEq] at hpcis
      have hd := hlists.records d List.mem_cons_self
      rw [hd.unique hc hpcis.1]
      exact ⟨rest, rfl, hpcis.2, fun e he => hlists.records e (List.mem_cons_of_mem d he),
        fun e he => hlists.readable e (List.mem_cons_of_mem _ he)⟩
  · intro h
    obtain ⟨rest, rfl, hlists⟩ := h
    refine ⟨?_, ?_, ?_⟩
    · rw [List.map_cons, hfilter, hlists.pcis]
    · exact List.forall_mem_cons.mpr ⟨hc, hlists.records⟩
    · exact List.forall_mem_cons.mpr ⟨.inr hc.is_sata, hlists.readable⟩

/-- The loop lists the controllers, or fails where there is no such list. -/
theorem runs_walk_controllers {controllers : List Controller} {entries : List Text}
    {r : Except Unit (List Controller)} {s s' : Unit} (hroom : controllers.length ≤ 4)
    (h : Runs tree.env (Prog.walk (factory_function root) controllers entries) s r s') :
    (∃ found, r = .ok (controllers ++ found) ∧ Lists tree root entries found ∧
      controllers.length + found.length ≤ 4) ∨
    (r = .error () ∧ ∀ found, Lists tree root entries found →
      4 < controllers.length + found.length) := by
  induction entries generalizing controllers s with
  | nil =>
    cases h
    left
    exact ⟨[], by simp, ⟨rfl, by simp, by simp⟩, by simpa using hroom⟩
  | cons entry rest ih =>
    obtain ⟨step, _, hstep, h⟩ := Runs.of_bind h
    rcases runs_factory_function hstep with ⟨hpasses, rfl⟩ | ⟨c, hc, rfl, hfew, rfl⟩ |
      ⟨rfl, hnot, hfull⟩
    · simp only [lists_cons_passes hpasses]
      exact ih hroom h
    · simp only [lists_cons_controller hc]
      have hroom' : (controllers ++ [c]).length ≤ 4 := by
        rw [List.length_append, List.length_singleton]
        omega
      rcases ih hroom' h with ⟨found, rfl, hlists, hle⟩ | ⟨rfl, hmany⟩
      · left
        refine ⟨c :: found, by simp, ⟨found, rfl, hlists⟩, ?_⟩
        simp only [List.length_append, List.length_cons, List.length_nil] at hle ⊢
        omega
      · right
        refine ⟨rfl, fun found hfound => ?_⟩
        obtain ⟨rest', rfl, hlists⟩ := hfound
        have hlong := hmany rest' hlists
        simp only [List.length_append, List.length_cons, List.length_nil] at hlong ⊢
        omega
    · cases h
      right
      refine ⟨rfl, fun found hlists => ?_⟩
      have hsata : tree.is_sata root entry = true :=
        (hlists.readable entry List.mem_cons_self).resolve_left hnot
      have hmem : entry ∈ found.map Controller.pci := by
        rw [hlists.pcis]
        exact List.mem_filter.mpr ⟨List.mem_cons_self, hsata⟩
      obtain ⟨c, hc, hpci⟩ := List.mem_map.mp hmem
      have hlength := hfull c (hlists.records c hc) hpci
      have hpos := List.length_pos_of_mem hc
      omega

/-! ## Inventories that the factory ships -/

/-- A controller that has all bays of `expected`. -/
inductive Alone : Nat → Controller → Prop where
  | intel {c : Controller} (vendor : c.vendor = 0x8086) (ports : c.ports = 2) : Alone 2 c
  | asm1164 {c : Controller} (vendor : c.vendor = 0x1b21) (device : c.device = 0x1164)
      (ports : c.ports = 4) : Alone 4 c
  | asm1166 {c : Controller} (vendor : c.vendor = 0x1b21) (device : c.device = 0x1166)
      (ports : c.ports = 6) : Alone 6 c

/-- Two controllers, the one with the first bays first. -/
inductive Row : Nat → Controller → Controller → Prop where
  | asm106x {c d : Controller} (vendor : c.vendor = 0x8086) (ports : c.ports = 2)
      (vendor' : d.vendor = 0x1b21) (device' : d.device = 0x0612 ∨ d.device = 0x1062)
      (ports' : d.ports = 2) : Row 4 c d
  | asm1164 {c d : Controller} (vendor : c.vendor = 0x8086) (ports : c.ports = 2)
      (vendor' : d.vendor = 0x1b21) (device' : d.device = 0x1164) (ports' : d.ports = 4) : Row 6 c d
  | bridged {c d : Controller} (vendor : c.vendor = 0x1b21) (device : c.device = 0x1164)
      (ports : c.ports = 4) (bridge : c.bridge = 1) (vendor' : d.vendor = 0x1b21)
      (device' : d.device = 0x1164) (ports' : d.ports = 4) (bridge' : d.bridge = 2) : Row 8 c d

/-- The controllers of a recognised inventory, in the order they are listed. -/
inductive FactoryShape : Nat → List Controller → Prop where
  | alone {expected : Nat} {c : Controller} (h : Alone expected c) : FactoryShape expected [c]
  | row {expected : Nat} {c d : Controller} (h : Row expected c d) : FactoryShape expected [c, d]
  | reversed {expected : Nat} {c d : Controller} (h : Row expected c d) :
      FactoryShape expected [d, c]

theorem Alone.ports_eq {expected : Nat} {c : Controller} (h : Alone expected c) :
    c.ports = expected := by
  cases h with
  | intel _ ports => exact ports
  | asm1164 _ _ ports => exact ports
  | asm1166 _ _ ports => exact ports

theorem Row.ports_eq {expected : Nat} {c d : Controller} (h : Row expected c d) :
    c.ports + d.ports = expected := by
  cases h with
  | asm106x _ ports _ _ ports' => omega
  | asm1164 _ ports _ _ ports' => omega
  | bridged _ _ ports _ _ _ ports' _ => omega

theorem FactoryShape.ports_eq {expected : Nat} {controllers : List Controller}
    (h : FactoryShape expected controllers) :
    (controllers.map Controller.ports).sum = expected := by
  cases h with
  | alone h => simpa using h.ports_eq
  | row h => simpa using h.ports_eq
  | reversed h =>
    have hports := h.ports_eq
    simp only [List.map_cons, List.map_nil, List.sum_cons, List.sum_nil]
    omega

theorem FactoryShape.perm {expected : Nat} {controllers controllers' : List Controller}
    (h : FactoryShape expected controllers) (hperm : controllers.Perm controllers') :
    FactoryShape expected controllers' := by
  cases h with
  | alone h =>
    rw [List.perm_singleton.mp hperm.symm]
    exact .alone h
  | row h =>
    rcases List.perm_pair.mp hperm.symm with rfl | rfl
    · exact .row h
    · exact .reversed h
  | reversed h =>
    rcases List.perm_pair.mp hperm.symm with rfl | rfl
    · exact .reversed h
    · exact .row h

theorem FactoryShape.bounds {expected : Nat} {controllers : List Controller}
    (h : FactoryShape expected controllers) : expected ≠ 0 ∧ controllers.length ≤ 2 := by
  cases h with
  | alone h => cases h <;> simp
  | row h => cases h <;> simp
  | reversed h => cases h <;> simp

theorem factory_base_alone {expected : Nat} {c : Controller} {other : Option Controller} :
    factory_base expected 1 c other ≠ none → c.ports = expected → Alone expected c := by
  intro h hports
  unfold factory_base at h
  rw [if_pos rfl] at h
  split at h
  · next hcases =>
    simp only [Bool.or_eq_true, Bool.and_eq_true, decide_eq_true_eq] at hcases
    rcases hcases with ⟨⟨hvendor, htwo⟩, rfl⟩ | ⟨hvendor, ⟨rfl, hdevice⟩ | ⟨rfl, hdevice⟩⟩
    · exact .intel hvendor htwo
    · exact .asm1164 hvendor hdevice hports
    · exact .asm1166 hvendor hdevice hports
  · exact absurd rfl h

theorem Alone.factory_base {expected : Nat} {c : Controller} (h : Alone expected c)
    (other : Option Controller) : DiskMap.factory_base expected 1 c other = some 0 := by
  cases h with
  | intel vendor ports => simp [DiskMap.factory_base, vendor, ports]
  | asm1164 vendor device _ => simp [DiskMap.factory_base, vendor, device]
  | asm1166 vendor device _ => simp [DiskMap.factory_base, vendor, device]

/-- A controller that has a place next to another is in a row with it. -/
theorem row_of_factory_base {expected base : Nat} {c d : Controller} (hc : c.bridge ≤ 2)
    (hd : d.bridge ≤ 2) (h : factory_base expected 2 c (some d) = some base) :
    Row expected c d ∨ Row expected d c := by
  unfold factory_base at h
  rw [if_neg (by decide)] at h
  dsimp only at h
  split at h
  · split at h
    · next hfirst =>
      simp only [Bool.or_eq_true, Bool.and_eq_true, decide_eq_true_eq] at hfirst
      obtain ⟨⟨⟨⟨hvendor, hports⟩, hvendor'⟩, hports'⟩, ⟨rfl, hdevice⟩ | ⟨rfl, hdevice⟩⟩ := hfirst
      · exact .inl (.asm106x hvendor hports hvendor' hdevice hports')
      · exact .inl (.asm1164 hvendor hports hvendor' hdevice hports')
    · split at h
      · next hsecond =>
        simp only [Bool.or_eq_true, Bool.and_eq_true, decide_eq_true_eq] at hsecond
        obtain ⟨⟨⟨⟨hvendor', hvendor⟩, hports⟩, hports'⟩, ⟨rfl, hdevice⟩ | ⟨rfl, hdevice⟩⟩ := hsecond
        · exact .inr (.asm106x hvendor hports hvendor' hdevice hports')
        · exact .inr (.asm1164 hvendor hports hvendor' hdevice hports')
      · cases h
  · split at h
    · next hbridged =>
      simp only [Bool.and_eq_true, decide_eq_true_eq, ne_eq] at hbridged
      obtain ⟨⟨⟨⟨⟨⟨⟨⟨⟨rfl, hvendor⟩, hdevice⟩, hports⟩, hbridge⟩, hvendor'⟩, hdevice'⟩, hports'⟩,
        hbridge'⟩, hne⟩ := hbridged
      by_cases hone : c.bridge = 1
      · exact .inl (.bridged hvendor hdevice hports hone hvendor' hdevice' hports' (by omega))
      · exact .inr (.bridged hvendor' hdevice' hports' (by omega) hvendor hdevice hports (by omega))
    · cases h

/-- In a row each has its place. -/
theorem Row.factory_base {expected : Nat} {c d : Controller} (h : Row expected c d) :
    DiskMap.factory_base expected 2 c (some d) = some 0 ∧
      DiskMap.factory_base expected 2 d (some c) = some c.ports := by
  cases h with
  | asm106x vendor ports vendor' device' ports' =>
    rcases device' with device' | device'
    · simp [DiskMap.factory_base, vendor, ports, vendor', device', ports']
    · simp [DiskMap.factory_base, vendor, ports, vendor', device', ports']
  | asm1164 vendor ports vendor' device' ports' =>
    simp [DiskMap.factory_base, vendor, ports, vendor', device', ports']
  | bridged vendor device ports bridge vendor' device' ports' bridge' =>
    simp [DiskMap.factory_base, vendor, device, ports, bridge, vendor', device', ports', bridge']

/-- Only a recognised inventory has numbers. -/
theorem shape_of_factory_index {expected : Nat} {disk : Disk} {controllers : List Controller}
    (hsum : (controllers.map Controller.ports).sum = expected)
    (hbridge : ∀ c ∈ controllers, c.bridge ≤ 2)
    (h : factory_index expected controllers.length disk (with_other controllers) ≠ 0) :
    FactoryShape expected controllers := by
  match controllers with
  | [] => exact absurd rfl h
  | [c] =>
    apply FactoryShape.alone
    refine @factory_base_alone expected c none ?_ (by simpa using hsum)
    intro hnone
    apply h
    show factory_index expected 1 disk [(c, none)] = 0
    rw [factory_index, hnone]
  | [c, d] =>
    have hc := hbridge c (by simp)
    have hd := hbridge d (by simp)
    cases hbase : factory_base expected 2 c (some d) with
    | none =>
      exfalso
      apply h
      show factory_index expected 2 disk [(c, some d), (d, some c)] = 0
      rw [factory_index, hbase]
    | some base =>
      rcases row_of_factory_base hc hd hbase with hrow | hrow
      · exact .row hrow
      · exact .reversed hrow
  | c :: d :: e :: rest =>
    exfalso
    apply h
    show factory_index expected (rest.length + 1 + 1 + 1) disk ((c, none) :: _) = 0
    rw [factory_index]
    have hmany : factory_base expected (rest.length + 1 + 1 + 1) c none = none := by
      unfold factory_base
      rw [if_neg (by omega)]
    rw [hmany]

/-! ## Numbers -/

/-- The ports of a list of controllers. -/
def ports_of (controllers : List Controller) : Set (Text × Nat) :=
  {port | ∃ c ∈ controllers, port.1 = c.pci ∧ 1 ≤ port.2 ∧ port.2 ≤ c.ports}

/-- `number` gives the ports of the controllers the numbers `1 .. expected`,
    and the lookup finds them in whatever order the controllers are listed. -/
structure Numbers (expected : Nat) (controllers : List Controller) (number : Text × Nat → Nat) :
    Prop where
  bijective : Set.BijOn number (ports_of controllers) (Set.Icc 1 expected)
  lookup : ∀ listed, controllers.Perm listed → ∀ disk : Disk,
    (disk.pci, disk.ata_port) ∈ ports_of controllers →
    factory_index expected listed.length disk (with_other listed) = number (disk.pci, disk.ata_port)

theorem Numbers.perm {expected : Nat} {controllers controllers' : List Controller}
    {number : Text × Nat → Nat} (h : Numbers expected controllers number)
    (hperm : controllers.Perm controllers') : Numbers expected controllers' number := by
  have hports : ports_of controllers = ports_of controllers' := by
    ext port
    unfold ports_of
    simp only [Set.mem_ofPred_eq, hperm.mem_iff]
  constructor
  · rw [← hports]
    exact h.bijective
  · intro listed hlisted
    rw [← hports]
    exact h.lookup listed (hperm.trans hlisted)

theorem Alone.numbers {expected : Nat} {c : Controller} (h : Alone expected c) :
    Numbers expected [c] Prod.snd := by
  have hports := h.ports_eq
  have hmem : ∀ port, port ∈ ports_of [c] ↔ port.1 = c.pci ∧ 1 ≤ port.2 ∧ port.2 ≤ expected := by
    intro port
    simp [ports_of, hports]
  constructor
  · refine ⟨?_, ?_, ?_⟩
    · intro port hport
      exact ((hmem port).mp hport).2
    · intro port hport port' hport' heq
      exact Prod.ext (((hmem port).mp hport).1.trans ((hmem port').mp hport').1.symm) heq
    · intro n hn
      exact ⟨(c.pci, n), (hmem _).mpr ⟨rfl, hn⟩, rfl⟩
  · intro listed hperm disk hdisk
    rw [List.perm_singleton.mp hperm.symm]
    have hpci : c.pci = disk.pci := ((hmem _).mp hdisk).1.symm
    show factory_index expected 1 disk [(c, none)] = _
    rw [factory_index, h.factory_base]
    dsimp only
    rw [if_pos hpci, Nat.zero_add]

/-- The second controller goes on counting where the first one ends. -/
def row_number (c : Controller) (port : Text × Nat) : Nat :=
  if port.1 = c.pci then port.2 else c.ports + port.2

theorem Row.numbers {expected : Nat} {c d : Controller} (h : Row expected c d)
    (hne : c.pci ≠ d.pci) : Numbers expected [c, d] (row_number c) := by
  have hports := h.ports_eq
  have hmem : ∀ port, port ∈ ports_of [c, d] ↔
      (port.1 = c.pci ∧ 1 ≤ port.2 ∧ port.2 ≤ c.ports) ∨
      (port.1 = d.pci ∧ 1 ≤ port.2 ∧ port.2 ≤ d.ports) := by
    intro port
    simp [ports_of]
  have hfirst : ∀ {port : Text × Nat}, port.1 = c.pci → row_number c port = port.2 := by
    intro port hpci
    exact if_pos hpci
  have hsecond : ∀ {port : Text × Nat}, port.1 = d.pci → row_number c port = c.ports + port.2 := by
    intro port hpci
    exact if_neg fun heq => hne (heq.symm.trans hpci)
  constructor
  · refine ⟨?_, ?_, ?_⟩
    · intro port hport
      rcases (hmem port).mp hport with ⟨hpci, hlow, hhigh⟩ | ⟨hpci, hlow, hhigh⟩
      · rw [hfirst hpci, Set.mem_Icc]
        omega
      · rw [hsecond hpci, Set.mem_Icc]
        omega
    · intro port hport port' hport' heq
      rcases (hmem port).mp hport with ⟨hpci, hlow, hhigh⟩ | ⟨hpci, hlow, hhigh⟩
      · rcases (hmem port').mp hport' with ⟨hpci', hlow', hhigh'⟩ | ⟨hpci', hlow', hhigh'⟩
        · rw [hfirst hpci, hfirst hpci'] at heq
          exact Prod.ext (hpci.trans hpci'.symm) heq
        · rw [hfirst hpci, hsecond hpci'] at heq
          omega
      · rcases (hmem port').mp hport' with ⟨hpci', hlow', hhigh'⟩ | ⟨hpci', hlow', hhigh'⟩
        · rw [hsecond hpci, hfirst hpci'] at heq
          omega
        · rw [hsecond hpci, hsecond hpci'] at heq
          exact Prod.ext (hpci.trans hpci'.symm) (by omega)
    · intro n hn
      rw [Set.mem_Icc] at hn
      by_cases hfew : n ≤ c.ports
      · exact ⟨(c.pci, n), (hmem _).mpr (.inl ⟨rfl, hn.1, hfew⟩), hfirst rfl⟩
      · refine ⟨(d.pci, n - c.ports), (hmem _).mpr (.inr ⟨rfl, ?_, ?_⟩), ?_⟩
        · dsimp only
          omega
        · dsimp only
          omega
        · rw [hsecond rfl]
          dsimp only
          omega
  · intro listed hperm disk hdisk
    have hfound : disk.pci = c.pci ∨ disk.pci = d.pci := by
      rcases (hmem _).mp hdisk with h | h
      · exact .inl h.1
      · exact .inr h.1
    obtain ⟨hbase, hbase'⟩ := h.factory_base
    rcases List.perm_pair.mp hperm.symm with rfl | rfl
    · show factory_index expected 2 disk [(c, some d), (d, some c)] = _
      rw [factory_index, hbase, factory_index, hbase']
      dsimp only
      rcases hfound with hpci | hpci
      · rw [if_pos hpci.symm, hfirst hpci, Nat.zero_add]
      · rw [if_neg fun heq => hne (heq.trans hpci), if_pos hpci.symm, hsecond hpci]
    · show factory_index expected 2 disk [(d, some c), (c, some d)] = _
      rw [factory_index, hbase', factory_index, hbase]
      dsimp only
      rcases hfound with hpci | hpci
      · rw [if_neg fun heq => hne (hpci.symm.trans heq.symm), if_pos hpci.symm, hfirst hpci,
          Nat.zero_add]
      · rw [if_pos hpci.symm, hsecond hpci]

theorem FactoryShape.numbers {expected : Nat} {controllers : List Controller}
    (h : FactoryShape expected controllers) (hnodup : (controllers.map Controller.pci).Nodup) :
    ∃ number, Numbers expected controllers number := by
  cases h with
  | alone h => exact ⟨_, h.numbers⟩
  | @row c d h => exact ⟨_, h.numbers (by simpa using hnodup)⟩
  | @reversed c d h =>
    have hne : c.pci ≠ d.pci := fun heq => by simp [heq] at hnodup
    exact ⟨_, (h.numbers hne).perm (List.Perm.swap d c [])⟩

/-! ## Recognised trees -/

/-- The number of SATA bays that the layout names by ATA numbers. -/
def factory_bays (layout : FirmwareLayout) : Nat :=
  (layout.rules.filter fun (rule : FirmwareRule) => rule.interface_type = "sata" && rule.kind = "ata_id").length

/-- The tree is a complete inventory of a factory shape, and these are its
    controllers. -/
structure FactoryInventory (tree : Tree) (root : Text) (expected : Nat)
    (controllers : List Controller) : Prop where
  listed : ∃ directory, tree.directory (devices_path root) = .ok directory ∧
    Lists tree root directory.entries controllers
  ports : ∃ directory, tree.directory (ata_ports_path root) = .ok directory ∧
    (directory.entries.filter (!dot ·)).length = expected
  shape : FactoryShape expected controllers

/-- The local ports of the SATA controllers of a tree. -/
def sata_ports (tree : Tree) (root : Text) : Set (Text × Nat) :=
  {port | ∃ directory controller directory', tree.directory (devices_path root) = .ok directory ∧
    port.1 ∈ directory.entries ∧ tree.is_sata root port.1 = true ∧
    tree.controller root port.1 = some controller ∧
    tree.directory (ata_ports_path root) = .ok directory' ∧
    port.2 ∈ tree.local_ports root controller directory'.entries}

theorem FactoryInventory.sata_ports {expected : Nat} {controllers : List Controller}
    (h : FactoryInventory tree root expected controllers) :
    DiskMap.sata_ports tree root = ports_of controllers := by
  obtain ⟨directory, hdirectory, hlists⟩ := h.listed
  ext port
  have hmem : port.1 ∈ controllers.map Controller.pci ↔
      port.1 ∈ directory.entries ∧ tree.is_sata root port.1 = true := by
    rw [hlists.pcis, List.mem_filter]
  constructor
  · intro hport
    obtain ⟨directory₁, controller, directory', hdirectory₁, hentry, hsata, hcontroller, hports,
      hlocal⟩ := hport
    rw [hdirectory] at hdirectory₁
    cases hdirectory₁
    obtain ⟨c, hc, hpci⟩ := List.mem_map.mp (hmem.mpr ⟨hentry, hsata⟩)
    obtain ⟨controller', directory₂, hcontroller', -, -, hports', -, hperm⟩ :=
      (hlists.records c hc).ports.ports
    rw [hpci, hcontroller] at hcontroller'
    cases hcontroller'
    rw [hports] at hports'
    cases hports'
    rw [hperm.mem_iff, List.mem_range'_1] at hlocal
    exact ⟨c, hc, hpci.symm, hlocal.1, by omega⟩
  · intro hport
    obtain ⟨c, hc, hpci, hlow, hhigh⟩ := hport
    obtain ⟨hentry, hsata⟩ := hmem.mp (List.mem_map.mpr ⟨c, hc, hpci.symm⟩)
    obtain ⟨controller, directory', hcontroller, -, -, hports, -, hperm⟩ :=
      (hlists.records c hc).ports.ports
    refine ⟨directory, controller, directory', hdirectory, hentry, hsata, ?_, hports, ?_⟩
    · rw [hpci]
      exact hcontroller
    · rw [hperm.mem_iff, List.mem_range'_1]
      omega

theorem FactoryInventory.numbers {expected : Nat} {controllers : List Controller}
    (h : FactoryInventory tree root expected controllers) :
    ∃ number, Numbers expected controllers number := by
  obtain ⟨directory, -, hlists⟩ := h.listed
  apply h.shape.numbers
  rw [hlists.pcis]
  exact directory.nodup.filter _

/-- A listing in another order lists the same controllers. -/
theorem Lists.perm {entries entries' : List Text} {found : List Controller}
    (h : Lists tree root entries found) (hperm : entries.Perm entries') :
    ∃ found', found.Perm found' ∧ Lists tree root entries' found' := by
  have hrecords : List.Forall₂ (fun pci (c : Controller) => c.pci = pci)
      (found.map Controller.pci) found := by
    rw [List.forall₂_map_left_iff, List.forall₂_same]
    exact fun _ _ => rfl
  have hpcis : (entries'.filter (tree.is_sata root)).Perm (found.map Controller.pci) := by
    rw [h.pcis]
    exact (hperm.filter _).symm
  obtain ⟨found', hfound', hperm'⟩ := List.perm_comp_forall₂ hpcis hrecords
  refine ⟨found', hperm'.symm, ?_, ?_, ?_⟩
  · have hmap : ∀ {pcis : List Text} {cs : List Controller},
        List.Forall₂ (fun pci (c : Controller) => c.pci = pci) pcis cs →
          cs.map Controller.pci = pcis := by
      intro pcis cs hall
      induction hall with
      | nil => rfl
      | cons hpci _ ih => rw [List.map_cons, hpci, ih]
    exact hmap hfound'
  · exact fun c hc => h.records c (hperm'.mem_iff.mp hc)
  · exact fun e he => h.readable e (hperm.mem_iff.mpr he)

theorem records_unique {found found' : List Controller}
    (h : ∀ c ∈ found, IsController tree root c) (h' : ∀ c ∈ found', IsController tree root c)
    (hpcis : found.map Controller.pci = found'.map Controller.pci) : found = found' := by
  induction found generalizing found' with
  | nil => exact (List.map_eq_nil_iff.mp hpcis.symm).symm
  | cons c rest ih =>
    cases found' with
    | nil => cases hpcis
    | cons c' rest' =>
      rw [List.map_cons, List.map_cons, List.cons.injEq] at hpcis
      rw [List.forall_mem_cons] at h h'
      rw [h.1.unique h'.1 hpcis.1, ih h.2 h'.2 hpcis.2]

/-- What the lookup comes to, in whatever order it lists the tree. -/
theorem runs_firmware_ata_index {layout : FirmwareLayout} {disk : Disk} {n : Nat} {s s' : Unit}
    (hgeneric : layout.model ∉ (["DH2300", "DH4300 Plus", "DXP2800", "DXP4800 Plus",
      "DXP4800 Pro"] : List Text))
    (h : Runs tree.env (firmware_ata_index root layout disk) s n s') :
    (n ≠ 0 → ∃ controllers, FactoryInventory tree root (factory_bays layout) controllers) ∧
    ∀ controllers, FactoryInventory tree root (factory_bays layout) controllers →
      disk.interface_type = "sata" → disk.ata_port ≠ 0 →
      ∃ listed, controllers.Perm listed ∧
        n = factory_index (factory_bays layout) listed.length disk (with_other listed) := by
  simp only [List.mem_cons, List.not_mem_nil, or_false, not_or] at hgeneric
  obtain ⟨h₁, h₂, h₃, h₄, h₅⟩ := hgeneric
  unfold firmware_ata_index at h
  split at h
  · next hother =>
    cases h
    refine ⟨fun hne => absurd rfl hne, fun _ _ hsata hport => ?_⟩
    simp [hsata, hport] at hother
  have harm : ¬ (layout.model = "DH2300" || layout.model = "DH4300 Plus") = true := by
    simp only [Bool.or_eq_true, decide_eq_true_eq, not_or]
    exact ⟨h₁, h₂⟩
  have hsingle : ¬ (layout.model = "DXP2800" || layout.model = "DXP4800 Plus" ||
      layout.model = "DXP4800 Pro") = true := by
    simp only [Bool.or_eq_true, decide_eq_true_eq, not_or]
    exact ⟨⟨h₃, h₄⟩, h₅⟩
  rw [if_neg harm, if_neg hsingle] at h
  dsimp only at h
  have hbays : (layout.rules.filter fun (rule : FirmwareRule) =>
      rule.interface_type = "sata" && rule.kind = "ata_id").length = factory_bays layout := rfl
  simp only [hbays] at h
  generalize factory_bays layout = expected at h ⊢
  split at h
  · next hzero =>
    cases h
    exact ⟨fun hne => absurd rfl hne, fun _ hinventory => absurd hzero hinventory.shape.bounds.1⟩
  obtain ⟨opened, _, hopened, h⟩ := Runs.of_bind h
  rcases runs_opendir hopened with ⟨errno, hdirectory, rfl⟩ |
    ⟨directory, listing, hdirectory, rfl, hperm⟩
  · cases h
    refine ⟨fun hne => absurd rfl hne, fun _ hinventory => ?_⟩
    obtain ⟨directory, hok, -⟩ := hinventory.listed
    rw [devices_path, hdirectory] at hok
    cases hok
  have hsame : ∀ controllers, FactoryInventory tree root expected controllers →
      ∃ listed, controllers.Perm listed ∧ Lists tree root listing.entries listed := by
    intro controllers hinventory
    obtain ⟨directory', hok, hlists⟩ := hinventory.listed
    rw [devices_path, hdirectory] at hok
    cases hok
    exact hlists.perm hperm.symm
  obtain ⟨walked, _, hwalked, h⟩ := Runs.of_bind h
  rcases runs_walk_controllers (by simp) hwalked with ⟨found, rfl, hlists, -⟩ | ⟨rfl, hmany⟩
  swap
  · cases h
    refine ⟨fun hne => absurd rfl hne, fun controllers hinventory => ?_⟩
    obtain ⟨listed, hlisted, hlists⟩ := hsame controllers hinventory
    have hlong := hmany listed hlists
    have hfew := hinventory.shape.bounds.2
    rw [hlisted.length_eq] at hfew
    simp only [List.length_nil] at hlong
    omega
  rw [List.nil_append] at h
  -- Every recognised inventory is the one that was found.
  have hfound : ∀ controllers, FactoryInventory tree root expected controllers →
      controllers.Perm found := by
    intro controllers hinventory
    obtain ⟨listed, hlisted, hlists'⟩ := hsame controllers hinventory
    have heq := records_unique hlists'.records hlists.records
      (hlists'.pcis.trans hlists.pcis.symm)
    rw [← heq]
    exact hlisted
  dsimp only at h
  split at h
  · next hsum =>
    cases h
    refine ⟨fun hne => absurd rfl hne, fun controllers hinventory => ?_⟩
    have hports := hinventory.shape.ports_eq
    rw [((hfound controllers hinventory).map Controller.ports).sum_nat] at hports
    exact absurd hports hsum
  next hsum =>
  rw [ne_eq, not_not] at hsum
  obtain ⟨opened, _, hopened, h⟩ := Runs.of_bind h
  rcases runs_opendir hopened with ⟨errno, hata, rfl⟩ | ⟨directory', listing', hata, rfl, hperm'⟩
  · cases h
    refine ⟨fun hne => absurd rfl hne, fun _ hinventory => ?_⟩
    obtain ⟨directory', hok, -⟩ := hinventory.ports
    rw [ata_ports_path, hata] at hok
    cases hok
  dsimp only at h
  rw [(hperm'.filter _).length_eq] at h
  split at h
  · next hcount =>
    cases h
    refine ⟨fun hne => absurd rfl hne, fun _ hinventory => ?_⟩
    obtain ⟨directory', hok, hlength⟩ := hinventory.ports
    rw [ata_ports_path, hata] at hok
    cases hok
    exact absurd hlength hcount
  · next hcount =>
    rw [ne_eq, not_not] at hcount
    cases h
    constructor
    · intro hne
      have hshape := shape_of_factory_index hsum (fun c hc => (hlists.records c hc).bridge_le) hne
      obtain ⟨found', hperm'', hlists'⟩ := hlists.perm hperm
      refine ⟨found', ⟨directory, hdirectory, hlists'⟩, ⟨directory', hata, hcount⟩, ?_⟩
      exact hshape.perm hperm''
    · intro controllers hinventory _ _
      exact ⟨found, hfound controllers hinventory, rfl⟩

/-! ## The law -/

/-- Once the lookup has answered for any SATA disk of a tree, it answers for
    every local port of every SATA controller, each time the same: the
    numbers `1 .. expected`, each for one port.  On a tree that is not of a
    factory shape it answers for no disk. -/
theorem factory_numbers_bijective (tree : Tree) (root : Text) (layout : FirmwareLayout)
    (hgeneric : layout.model ∉ (["DH2300", "DH4300 Plus", "DXP2800", "DXP4800 Plus",
      "DXP4800 Pro"] : List Text)) :
    (∀ (disk : Disk) n, disk.interface_type = "sata" →
      Runs tree.env (firmware_ata_index root layout disk) () n () → n ≠ 0 →
      ∃ number : Text × Nat → Nat,
        Set.BijOn number (sata_ports tree root) (Set.Icc 1 (factory_bays layout)) ∧
        ∀ (disk' : Disk) n', disk'.interface_type = "sata" →
          (disk'.pci, disk'.ata_port) ∈ sata_ports tree root →
          Runs tree.env (firmware_ata_index root layout disk') () n' () →
          n' = number (disk'.pci, disk'.ata_port)) ∧
    ((∀ controllers, ¬ FactoryInventory tree root (factory_bays layout) controllers) →
      ∀ disk n, Runs tree.env (firmware_ata_index root layout disk) () n () → n = 0) := by
  constructor
  · intro disk n _ hrun hne
    obtain ⟨controllers, hinventory⟩ := (runs_firmware_ata_index hgeneric hrun).1 hne
    obtain ⟨number, hnumbers⟩ := hinventory.numbers
    rw [hinventory.sata_ports]
    refine ⟨number, hnumbers.bijective, ?_⟩
    intro disk' n' hsata hport hrun'
    have hpos : disk'.ata_port ≠ 0 := by
      obtain ⟨c, -, -, hlow, -⟩ := hport
      exact Nat.ne_of_gt hlow
    obtain ⟨listed, hperm, rfl⟩ :=
      (runs_firmware_ata_index hgeneric hrun').2 controllers hinventory hsata hpos
    exact hnumbers.lookup listed hperm disk' hport
  · intro hnone disk n hrun
    by_contra hne
    obtain ⟨controllers, hinventory⟩ := (runs_firmware_ata_index hgeneric hrun).1 hne
    exact hnone controllers hinventory

/-! ## A DX4600

    Two ports of the chipset and two of an add-on controller, listed in the
    other order.
-/

def dx4600_links : List (Text × Text) := [
  ("/s/bus/pci/devices/0000:01:00.0", "/s/devices/pci0000:00/0000:00:1c.0/0000:01:00.0"),
  ("/s/bus/pci/devices/0000:00:17.0", "/s/devices/pci0000:00/0000:00:17.0"),
  ("/s/devices/pci0000:00/0000:00:1c.0/0000:01:00.0/driver", "/s/bus/pci/drivers/ahci"),
  ("/s/devices/pci0000:00/0000:00:17.0/driver", "/s/bus/pci/drivers/ahci"),
  ("/s/class/ata_port/ata1", "/s/devices/pci0000:00/0000:00:17.0/ata1/ata_port/ata1"),
  ("/s/class/ata_port/ata2", "/s/devices/pci0000:00/0000:00:17.0/ata2/ata_port/ata2"),
  ("/s/class/ata_port/ata3",
    "/s/devices/pci0000:00/0000:00:1c.0/0000:01:00.0/ata3/ata_port/ata3"),
  ("/s/class/ata_port/ata4",
    "/s/devices/pci0000:00/0000:00:1c.0/0000:01:00.0/ata4/ata_port/ata4")]

def dx4600_files : List (Text × Text) := [
  ("/s/bus/pci/devices/0000:01:00.0/class", "0x010601"),
  ("/s/bus/pci/devices/0000:00:17.0/class", "0x010601"),
  ("/s/devices/pci0000:00/0000:00:1c.0/0000:01:00.0/class", "0x010601"),
  ("/s/devices/pci0000:00/0000:00:1c.0/0000:01:00.0/vendor", "0x1b21"),
  ("/s/devices/pci0000:00/0000:00:1c.0/0000:01:00.0/device", "0x1062"),
  ("/s/devices/pci0000:00/0000:00:17.0/class", "0x010601"),
  ("/s/devices/pci0000:00/0000:00:17.0/vendor", "0x8086"),
  ("/s/devices/pci0000:00/0000:00:17.0/device", "0x4d56"),
  ("/s/devices/pci0000:00/0000:00:17.0/ata1/ata_port/ata1/port_no", "1"),
  ("/s/devices/pci0000:00/0000:00:17.0/ata2/ata_port/ata2/port_no", "2"),
  ("/s/devices/pci0000:00/0000:00:1c.0/0000:01:00.0/ata3/ata_port/ata3/port_no", "1"),
  ("/s/devices/pci0000:00/0000:00:1c.0/0000:01:00.0/ata4/ata_port/ata4/port_no", "2")]

def dx4600_functions : Directory :=
  ⟨⟨[("0000:01:00.0" : Text), "0000:00:17.0"], false⟩, by decide +kernel⟩

def dx4600_ports : Directory :=
  ⟨⟨[("ata4" : Text), "ata1", "ata3", "ata2"], false⟩, by decide +kernel⟩

def dx4600_tree : Tree where
  realpath path := dx4600_links.lookup path
  file path := (dx4600_files.lookup path).map fun text => ⟨text, false⟩
  exists_at _ := false
  directory path :=
    if path = "/s/bus/pci/devices" then .ok dx4600_functions
    else if path = "/s/class/ata_port" then .ok dx4600_ports
    else .error Errno.ENOENT
  opened _ := .error Errno.ENOENT

/-- The disk in the second bay of the add-on controller is the fourth; below
    an empty root there is none. -/
theorem factory_numbers_bijective_dx4600 :
    (∃ number, Set.BijOn number (sata_ports dx4600_tree "/s") (Set.Icc 1 4)) ∧
    value dx4600_tree.handler (firmware_ata_index "/t" ⟨"DX4600", "rev1", rows_6_0⟩
      { interface_type := "sata", pci := "0000:01:00.0", ata_port := 2 }) = 0 := by
  have hgeneric : ("DX4600" : Text) ∉ (["DH2300", "DH4300 Plus", "DXP2800", "DXP4800 Plus",
      "DXP4800 Pro"] : List Text) := by decide +kernel
  have hindex : value dx4600_tree.handler (firmware_ata_index "/s" ⟨"DX4600", "rev1", rows_6_0⟩
      { interface_type := "sata", pci := "0000:01:00.0", ata_port := 2 }) = 4 := by
    decide +kernel
  constructor
  · have hrun := dx4600_tree.runs (firmware_ata_index "/s" ⟨"DX4600", "rev1", rows_6_0⟩
      { interface_type := "sata", pci := "0000:01:00.0", ata_port := 2 })
    obtain ⟨number, hnumber, -⟩ := (factory_numbers_bijective dx4600_tree "/s"
      ⟨"DX4600", "rev1", rows_6_0⟩ hgeneric).1 _ _ rfl hrun (by rw [hindex]; decide)
    exact ⟨number, hnumber⟩
  · apply (factory_numbers_bijective dx4600_tree "/t" ⟨"DX4600", "rev1", rows_6_0⟩ hgeneric).2 _ _ _
      (dx4600_tree.runs _)
    intro controllers hinventory
    obtain ⟨directory, hdirectory, -⟩ := hinventory.listed
    have herror : dx4600_tree.directory (devices_path "/t") = .error Errno.ENOENT := by rfl
    rw [herror] at hdirectory
    cases hdirectory

end UgreenNas.DiskMap
