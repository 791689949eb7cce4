import Mathlib.Data.List.Nodup
import Mathlib.Data.List.Perm.Subperm
import Mathlib.Data.Nat.Bitwise
import UgreenNas.Disk.Factory

/-! # The controllers and ports of a tree (`disk/disk.c`)

    The inventory is listed anew for every question, each time in any order.
    What the scanner makes of a tree that stands still does not depend on
    that order; here it is said without any.
-/

namespace UgreenNas.DiskMap

open Effect Effect.Prog

/-! ## Attributes of a tree -/

def Tree.looks (tree : Tree) : Prog.Handler attributes Unit := fun _ o => (tree.look o, ())

/-- What a program that only looks at single paths returns. -/
def Tree.get {α : Type} (tree : Tree) (p : Attributes α) : α := Prog.value tree.looks p

section get

variable {α β : Type} (tree : Tree)

@[simp] theorem get_pure (a : α) : tree.get (Pure.pure a) = a := rfl

@[simp] theorem get_bind (p : Attributes α) (f : α → Attributes β) :
    tree.get (p >>= f) = tree.get (f (tree.get p)) :=
  Prog.value_bind p f

@[simp] theorem get_realpath (path : Text) : tree.get (realpath path) = tree.realpath path := rfl

theorem value_inl (p : Attributes α) : Prog.value tree.handler p.inl = tree.get p := by
  induction p with
  | pure a => rfl
  | op o k ih => exact ih _

theorem runs_get {tree : Tree} {p : Attributes α} {a : α} {s s' : Unit}
    (h : Runs tree.env p.inl s a s') : a = tree.get p := by
  rw [← value_inl]
  exact (tree.settled p).runs h

end get

/-! ## Ports of a controller -/

/-- The directory of a PCI function. -/
def Tree.controller (tree : Tree) (root pci : Text) : Option Text :=
  tree.realpath (snprintf PATH_MAX (root ++ "/bus/pci/devices/" ++ pci))

def ata_ports_path (root : Text) : Text := snprintf PATH_MAX (root ++ "/class/ata_port")

/-- What an entry of `class/ata_port` says about the controller: nothing, a
    local port, or something that is no port at all. -/
def Tree.port_at (tree : Tree) (root controller entry : Text) : Except Unit (Option Nat) :=
  if dot entry then
    .ok none
  else
    match tree.realpath (snprintf PATH_MAX (ata_ports_path root ++ "/" ++ entry)) with
    | none => .error ()
    | some resolved =>
      if !(controller ++ "/" : Text).isPrefixOf resolved then
        .ok none
      else
        match ata_number entry with
        | none => .error ()
        | some ata =>
          if ata_port_path controller ata ≠ resolved then
            .error ()
          else
            match (tree.get (read_text (snprintf PATH_MAX (resolved ++ "/port_no")) 32)).bind
                parse_number with
            | none => .error ()
            | some port => .ok (some port)

/-- The local ports that a listing names. -/
def Tree.local_ports (tree : Tree) (root controller : Text) (entries : List Text) : List Nat :=
  entries.filterMap fun entry => ((tree.port_at root controller entry).toOption).join

/-- The controller has exactly the local ports `1 .. n`. -/
structure HasPorts (tree : Tree) (root pci : Text) (n : Nat) : Prop where
  pos : 1 ≤ n
  le : n ≤ 8
  ports : ∃ controller directory, tree.controller root pci = some controller ∧
    tree.get (read_hex (snprintf PATH_MAX (controller ++ "/class"))) = some 0x010601 ∧
    reads (tree.get (driver_name controller)) "ahci" = true ∧
    tree.directory (ata_ports_path root) = .ok directory ∧
    (∀ entry ∈ directory.entries, ∃ port, tree.port_at root controller entry = .ok port) ∧
    (tree.local_ports root controller directory.entries).Perm (List.range' 1 n)

/-- The number of ports is one number. -/
theorem HasPorts.unique {tree : Tree} {root pci : Text} {n m : Nat}
    (h : HasPorts tree root pci n) (h' : HasPorts tree root pci m) : n = m := by
  obtain ⟨controller, directory, hcontroller, -, -, hdirectory, -, hports⟩ := h.ports
  obtain ⟨controller', directory', hcontroller', -, -, hdirectory', -, hports'⟩ := h'.ports
  rw [hcontroller] at hcontroller'
  cases hcontroller'
  rw [hdirectory] at hdirectory'
  cases hdirectory'
  simpa using (hports.symm.trans hports').length_eq

section mask

variable {tree : Tree} {root controller : Text} {wanted : Nat}

/-- The mask of a list of ports. -/
def port_mask (mask : Nat) (ports : List Nat) : Nat :=
  ports.foldl (fun mask port => mask ||| 2 ^ (port - 1)) mask

theorem testBit_port_mask {ports : List Nat} (hpos : ∀ port ∈ ports, 1 ≤ port) (mask i : Nat) :
    (port_mask mask ports).testBit i = (mask.testBit i || decide (i + 1 ∈ ports)) := by
  induction ports generalizing mask with
  | nil => simp [port_mask]
  | cons port rest ih =>
    rw [List.forall_mem_cons] at hpos
    have hbit : (2 ^ (port - 1)).testBit i = decide (i + 1 = port) := by
      rw [Nat.testBit_two_pow]
      have hport := hpos.1
      apply decide_eq_decide.mpr
      omega
    unfold port_mask at ih ⊢
    rw [List.foldl_cons, ih hpos.2, Nat.testBit_or, hbit]
    simp [Bool.or_assoc]

/-- One pass of the loop, in terms of what the entry says. -/
theorem get_controller_port (st : Nat × Nat) (entry : Text) :
    tree.get (controller_port root controller wanted st entry) =
      match tree.port_at root controller entry with
      | .error () => .error ()
      | .ok none => .ok st
      | .ok (some port) =>
        if port = 0 || port > wanted || st.2.testBit (port - 1) then
          .error ()
        else
          .ok (st.1 + 1, st.2 ||| 2 ^ (port - 1)) := by
  unfold controller_port Tree.port_at ata_ports_path
  cases hdot : dot entry with
  | true => rfl
  | false =>
    simp only [Bool.false_eq_true, if_false, get_bind, get_realpath]
    cases hpath : tree.realpath (snprintf PATH_MAX
        (snprintf PATH_MAX (root ++ "/class/ata_port") ++ "/" ++ entry)) with
    | none => rfl
    | some resolved =>
      dsimp only
      cases hbelow : (controller ++ "/" : Text).isPrefixOf resolved with
      | false => rfl
      | true =>
        cases hata : ata_number entry with
        | none => rfl
        | some ata =>
          simp only [Bool.not_true, Bool.false_eq_true, if_false]
          by_cases hsame : ata_port_path controller ata ≠ resolved
          · rw [if_pos hsame, if_pos hsame]
            rfl
          · rw [if_neg hsame, if_neg hsame, get_bind]
            cases (tree.get (read_text (snprintf PATH_MAX (resolved ++ "/port_no")) 32)).bind
                parse_number with
            | none => rfl
            | some port =>
              dsimp only
              split
              · rfl
              · rfl

theorem local_ports_cons (entry : Text) (rest : List Text) :
    tree.local_ports root controller (entry :: rest) =
      (match tree.port_at root controller entry with
        | .ok (some port) => [port]
        | _ => []) ++ tree.local_ports root controller rest := by
  unfold Tree.local_ports
  rw [List.filterMap_cons]
  cases tree.port_at root controller entry with
  | error _ => rfl
  | ok port => cases port <;> rfl

/-- The loop accepts new local ports up to the wanted one, in any order. -/
theorem get_walk_ports (entries : List Text) (st st' : Nat × Nat) :
    tree.get (Prog.walk (controller_port root controller wanted) st entries) = .ok st' ↔
      (∀ entry ∈ entries, ∃ port, tree.port_at root controller entry = .ok port) ∧
      (tree.local_ports root controller entries).Nodup ∧
      (∀ port ∈ tree.local_ports root controller entries,
        1 ≤ port ∧ port ≤ wanted ∧ st.2.testBit (port - 1) = false) ∧
      st' = (st.1 + (tree.local_ports root controller entries).length,
        port_mask st.2 (tree.local_ports root controller entries)) := by
  induction entries generalizing st with
  | nil =>
    constructor
    · intro h
      cases h
      exact ⟨by simp, List.nodup_nil, by simp [Tree.local_ports], rfl⟩
    · intro h
      rw [h.2.2.2]
      rfl
  | cons entry rest ih =>
    rw [Prog.walk, get_bind, get_controller_port, local_ports_cons, List.forall_mem_cons]
    cases hentry : tree.port_at root controller entry with
    | error _ =>
      refine iff_of_false (fun h => nomatch h) fun h => ?_
      obtain ⟨port, hport⟩ := h.1.1
      cases hport
    | ok found =>
      cases found with
      | none => simp [ih]
      | some port =>
        dsimp only
        by_cases hbad : port = 0 ∨ port > wanted ∨ st.2.testBit (port - 1) = true
        · rw [if_pos (by simpa [or_assoc] using hbad)]
          refine iff_of_false (fun h => nomatch h) fun h => ?_
          have hport := h.2.2.1 port (by simp)
          rcases hbad with h | h | h
          · omega
          · omega
          · rw [hport.2.2] at h
            cases h
        · rw [if_neg (by simpa [or_assoc] using hbad)]
          rw [not_or, not_or, Bool.not_eq_true] at hbad
          dsimp only
          rw [ih]
          have hmask : ∀ q, 1 ≤ q → ((st.2 ||| 2 ^ (port - 1)).testBit (q - 1) = false ↔
              st.2.testBit (q - 1) = false ∧ port ≠ q) := by
            intro q hq
            rw [Nat.testBit_or, Nat.testBit_two_pow, Bool.or_eq_false_iff]
            simp only [decide_eq_false_iff_not]
            constructor
            · intro h
              exact ⟨h.1, fun heq => h.2 (by rw [heq])⟩
            · intro h
              exact ⟨h.1, fun heq => h.2 (by omega)⟩
          constructor
          · intro h
            obtain ⟨hall, hnodup, hports, heq⟩ := h
            refine ⟨⟨⟨some port, rfl⟩, hall⟩, ?_, ?_, ?_⟩
            · rw [List.singleton_append, List.nodup_cons]
              refine ⟨fun hmem => ?_, hnodup⟩
              have hnew := hports port hmem
              exact ((hmask port hnew.1).mp hnew.2.2).2 rfl
            · intro q hq
              rcases List.mem_append.mp hq with hq | hq
              · rw [List.mem_singleton.mp hq]
                exact ⟨by omega, by omega, hbad.2.2⟩
              · have hold := hports q hq
                exact ⟨hold.1, hold.2.1, ((hmask q hold.1).mp hold.2.2).1⟩
            · rw [heq]
              simp only [List.singleton_append, List.length_cons, Prod.mk.injEq]
              exact ⟨by omega, rfl⟩
          · intro h
            obtain ⟨⟨-, hall⟩, hnodup, hports, heq⟩ := h
            rw [List.singleton_append, List.nodup_cons] at hnodup
            refine ⟨hall, hnodup.2, ?_, ?_⟩
            · intro q hq
              have hold := hports q (List.mem_append_right _ hq)
              refine ⟨hold.1, hold.2.1, (hmask q hold.1).mpr ⟨hold.2.2, fun heq => ?_⟩⟩
              rw [heq] at hnodup
              exact hnodup.1 hq
            · rw [heq]
              simp only [List.singleton_append, List.length_cons, Prod.mk.injEq]
              exact ⟨by omega, rfl⟩

/-- The ports `1 .. wanted` are those that fill the mask. -/
theorem ports_complete_iff {ports : List Nat} :
    (ports.Nodup ∧ (∀ port ∈ ports, 1 ≤ port ∧ port ≤ wanted) ∧
      (ports.length, port_mask 0 ports) = (wanted, 2 ^ wanted - 1)) ↔
    ports.Perm (List.range' 1 wanted) := by
  constructor
  · intro h
    obtain ⟨hnodup, hrange, heq⟩ := h
    rw [Prod.mk.injEq] at heq
    apply (hnodup.subperm _).perm_of_length_le
    · simp [heq.1]
    · intro port hport
      rw [List.mem_range'_1]
      have hbounds := hrange port hport
      omega
  · intro h
    have hmem : ∀ port, port ∈ ports ↔ 1 ≤ port ∧ port ≤ wanted := by
      intro port
      rw [h.mem_iff, List.mem_range'_1]
      omega
    refine ⟨h.nodup_iff.mpr List.nodup_range', fun port hport => (hmem port).mp hport, ?_⟩
    rw [Prod.mk.injEq]
    refine ⟨by simpa using h.length_eq, Nat.eq_of_testBit_eq fun i => ?_⟩
    rw [testBit_port_mask (fun port hport => ((hmem port).mp hport).1),
      Nat.testBit_two_pow_sub_one, Nat.zero_testBit, Bool.false_or]
    apply decide_eq_decide.mpr
    rw [hmem]
    omega

end mask

/-- Two listings of a directory of the tree. -/
theorem listing_cases {tree : Tree} {path : Text} {r : Except Errno Listing}
    (h : SameListing (tree.listing path) r) :
    (∃ errno, tree.directory path = .error errno ∧ r = .error errno) ∨
      ∃ directory listing, tree.directory path = .ok directory ∧ r = .ok listing ∧
        listing.entries.Perm directory.entries := by
  unfold Tree.listing at h
  cases hdirectory : tree.directory path with
  | error errno =>
    rw [hdirectory] at h
    cases h
    exact .inl ⟨errno, rfl, rfl⟩
  | ok directory =>
    rw [hdirectory] at h
    cases h with
    | @ok l l' hperm herror => exact .inr ⟨directory, l', rfl, rfl, hperm.symm⟩

theorem runs_opendir {tree : Tree} {path : Text} {r : Except Errno Listing} {s s' : Unit}
    (h : Runs tree.env (opendir path) s r s') :
    (∃ errno, tree.directory path = .error errno ∧ r = .error errno) ∨
      ∃ directory listing, tree.directory path = .ok directory ∧ r = .ok listing ∧
        listing.entries.Perm directory.entries := by
  cases h with
  | op hstep hrest =>
    cases hrest
    exact listing_cases hstep

/-- Whatever the order of the listing, the answer is that of the tree. -/
theorem runs_controller_ports {tree : Tree} {root pci : Text} {n : Nat} {b : Bool} {s s' : Unit}
    (h : Runs tree.env (controller_ports root pci n) s b s') :
    b = true ↔ HasPorts tree root pci n := by
  unfold controller_ports at h
  by_cases hn : n = 0 ∨ n > 8
  · rw [if_pos (by simpa using hn)] at h
    cases h
    refine iff_of_false (by simp) fun hports => ?_
    have hpos := hports.pos
    have hle := hports.le
    omega
  rw [if_neg (by simpa using hn)] at h
  obtain ⟨controller, _, hcontroller, h⟩ := Runs.of_bind h
  have hcontroller' : controller = tree.controller root pci := runs_get hcontroller
  cases controller with
  | none =>
    cases h
    refine iff_of_false (by simp) fun hports => ?_
    obtain ⟨controller, _, hsome, -⟩ := hports.ports
    rw [← hcontroller'] at hsome
    cases hsome
  | some controller =>
    obtain ⟨class_code, _, hclass, h⟩ := Runs.of_bind h
    have hclass' : class_code = tree.get (read_hex (snprintf PATH_MAX (controller ++ "/class"))) :=
      runs_get hclass
    split at h
    · next hother =>
      cases h
      refine iff_of_false (by simp) fun hports => ?_
      obtain ⟨controller', _, hsome, hsata, -⟩ := hports.ports
      rw [← hcontroller'] at hsome
      cases hsome
      exact hother (hclass'.trans hsata)
    · next hsata =>
      rw [not_not] at hsata
      obtain ⟨driver, _, hdriver, h⟩ := Runs.of_bind h
      have hdriver' : driver = tree.get (driver_name controller) := runs_get hdriver
      split at h
      · next hother =>
        cases h
        refine iff_of_false (by simp) fun hports => ?_
        obtain ⟨controller', _, hsome, -, hahci, -⟩ := hports.ports
        rw [← hcontroller'] at hsome
        cases hsome
        rw [hdriver', hahci] at hother
        cases hother
      · next hahci =>
        rw [Bool.not_eq_true, Bool.not_eq_false', hdriver'] at hahci
        obtain ⟨opened, _, hopened, h⟩ := Runs.of_bind h
        rcases runs_opendir hopened with ⟨errno, hdirectory, rfl⟩ |
          ⟨directory, listing, hdirectory, rfl, hperm⟩
        · cases h
          refine iff_of_false (by simp) fun hports => ?_
          obtain ⟨controller', directory, -, -, -, hok, -⟩ := hports.ports
          rw [ata_ports_path, hdirectory] at hok
          cases hok
        · obtain ⟨seen, _, hseen, h⟩ := Runs.of_bind h
          have hseen' : seen = tree.get (Prog.walk (controller_port root controller n) (0, 0)
            listing.entries) := runs_get hseen
          cases h
          rw [decide_eq_true_iff]
          have hok : seen.toOption = some (n, 2 ^ n - 1) ↔ seen = .ok (n, 2 ^ n - 1) := by
            cases seen with
            | error _ => simp [Except.toOption]
            | ok st => simp [Except.toOption]
          have hlisted : tree.local_ports root controller listing.entries |>.Perm
              (tree.local_ports root controller directory.entries) := hperm.filterMap _
          rw [hok, hseen', get_walk_ports]
          simp only [Nat.zero_testBit, and_true, Nat.zero_add]
          constructor
          · intro hall
            obtain ⟨hall, hnodup, hrange, heq⟩ := hall
            refine ⟨by omega, by omega, controller, directory, hcontroller'.symm,
              hclass'.symm.trans hsata, hahci, hdirectory, ?_, ?_⟩
            · exact fun entry hentry => hall entry (hperm.mem_iff.mpr hentry)
            · exact hlisted.symm.trans (ports_complete_iff.mp ⟨hnodup, hrange, heq.symm⟩)
          · intro hports
            obtain ⟨controller', directory', hsome, -, -, hok, hall, hports⟩ := hports.ports
            rw [← hcontroller'] at hsome
            cases hsome
            rw [ata_ports_path, hdirectory] at hok
            cases hok
            obtain ⟨hnodup, hrange, heq⟩ := ports_complete_iff.mpr (hlisted.trans hports)
            exact ⟨fun entry hentry => hall entry (hperm.mem_iff.mp hentry), hnodup, hrange,
              heq.symm⟩

end UgreenNas.DiskMap
