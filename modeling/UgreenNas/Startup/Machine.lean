import UgreenNas.Startup.Marks
import UgreenNas.Storage.Volume

/-! # The machine under the coordinators

    Several coordinators share a volume, a lock and the hardware; each has
    descriptors of its own.  Every operation may fail.  A directory goes by
    the way that leads to it: no part of it is a symbolic link, and nobody
    renames it.
-/

namespace UgreenNas.Startup

open Effect Storage

/-! ## State -/

abbrev Directory : Type := List String

/-- A name in a directory. -/
abbrev Place : Type := Directory × String

/-- What a coordinator leaves to the others: the policy of the hardware, what
    the files contain, and what they may contain behind a crash. -/
structure Legacy where
  hardware : String
  content : Place → Option (List UInt8)
  survives : Place → Option (List UInt8) → Prop

/-- `P` are the processes; a descriptor is one of a process. -/
structure Machine (P : Type) where
  volume : Volume Place (P × Nat)
  /-- Directories that are lost in a crash, since the one above them was not
      synchronised. -/
  made : List Directory
  directories : P × Nat → Option Directory
  /-- The file that is read, and how far it was read. -/
  readers : P × Nat → Option (Nat × Nat)
  /-- The file that is opened for locking. -/
  locks : P × Nat → Option Nat
  /-- The descriptor through which a file is locked. -/
  holder : Nat → Option (P × Nat)
  /-- The policy that the hardware has. -/
  hardware : String
  /-- What a process left when it gave the lock up. -/
  left : P → Option Legacy

namespace Machine

variable {P : Type}

/-- What may be found at a place behind a crash. -/
def Found (s : Machine P) (place : Place) (content : Option (List UInt8)) : Prop :=
  s.volume.Survives place content ∨ (content = none ∧ ∃ d ∈ s.made, d <+: place.1)

def legacy (s : Machine P) : Legacy := ⟨s.hardware, s.volume.content, s.volume.Survives⟩

/-- Nobody runs, and everything is on the medium. -/
structure AtRest (s : Machine P) : Prop where
  directories : ∀ h, s.directories h = none
  readers : ∀ h, s.readers h = none
  locks : ∀ h, s.locks h = none
  writers : ∀ h, s.volume.writer h = none
  holder : ∀ i, s.holder i = none
  left : ∀ i, s.left i = none
  made : s.made = []
  earlier : s.volume.earlier = []
  entries : ∀ place i, s.volume.entry place = some i →
    i < s.volume.next ∧ (s.volume.inode i).synced = true

variable [DecidableEq P]

/-- Give a lock up, and leave things as they are. -/
def unlock (s : Machine P) (h : P × Nat) : Machine P :=
  match s.locks h with
  | none => s
  | some i =>
    if s.holder i = some h then
      { s with
        holder := Function.update s.holder i none
        left := Function.update s.left h.1 (some s.legacy) }
    else
      s

/-- The end of a process closes all its descriptors. -/
def kill (p : P) (s : Machine P) : Machine P where
  volume := { s.volume with writer := fun h => if h.1 = p then none else s.volume.writer h }
  made := s.made
  directories h := if h.1 = p then none else s.directories h
  readers h := if h.1 = p then none else s.readers h
  locks h := if h.1 = p then none else s.locks h
  holder i := (s.holder i).filter fun h => h.1 ≠ p
  hardware := s.hardware
  left := s.left

/-! ## Operations -/

/-- The directory that a name leads to. -/
def lookup (s : Machine P) (p : P) (name : String) (dir_fd : Option (Fd .directory)) :
    Option Directory :=
  match dir_fd with
  | none => if name = "/" then some [] else none
  | some fd => (s.directories (p, fd.number)).map fun d => d ++ [name]

/-- The place of a name relative to a descriptor. -/
def place (s : Machine P) (p : P) (name : String) (fd : Fd .directory) : Option Place :=
  (s.directories (p, fd.number)).map fun d => (d, name)

/-- `n` becomes a descriptor for what is opened. -/
def Opened (s : Machine P) (h : P × Nat) (name : String) (dir_fd : Option (Fd .directory)) :
    Purpose → Machine P → Prop
  | .directory, s' => s.directories h = none ∧ ∃ d, s.lookup h.1 name dir_fd = some d ∧
      s' = { s with directories := Function.update s.directories h (some d) }
  | .lock, s' => s.locks h = none ∧ ∃ fd q, dir_fd = some fd ∧ s.place h.1 name fd = some q ∧
      ((∃ i, s.volume.entry q = some i ∧
          s' = { s with locks := Function.update s.locks h (some i) }) ∨
        (s.volume.entry q = none ∧
          s' = { s with
            volume := s.volume.create q
            locks := Function.update s.locks h (some s.volume.next) }))
  | .state, s' => s.readers h = none ∧ ∃ fd q i, dir_fd = some fd ∧
      s.place h.1 name fd = some q ∧ s.volume.entry q = some i ∧
      s' = { s with readers := Function.update s.readers h (some (i, 0)) }
  | .temporary, s' => s.volume.writer h = none ∧ ∃ fd q, dir_fd = some fd ∧
      s.place h.1 name fd = some q ∧ s.volume.entry q = none ∧ s.volume.Unused s.volume.next ∧
      s' = { s with volume := s.volume.draft q h }

/-- A descriptor is gone, even where closing it fails. -/
def closed (s : Machine P) (h : P × Nat) : Purpose → Machine P
  | .directory => { s with directories := Function.update s.directories h none }
  | .lock =>
    let s := s.unlock h
    { s with locks := Function.update s.locks h none }
  | .state => { s with readers := Function.update s.readers h none }
  | .temporary => { s with volume := s.volume.release h }

/-- The command of `Backend.get`. -/
def is_get (command : List String) : Bool := ["power", "startup", "get"].isSuffixOf command

/-- What `ugreenctl` prints when it could read the policy. -/
def Prints (policy : String) : Except String Completed → Prop
  | .error _ => True
  | .ok completed => completed.returncode = 0 → completed.stdout = encode_utf8 (policy ++ "\n")

end Machine

open Machine

variable {P : Type} [DecidableEq P]

/-- The operations of the process `p`.  What is not told of an answer may be
    anything. -/
def machine (p : P) : Env startup (Machine P) := fun s o => match o with
  | .open_file purpose name dir_fd => fun r s' => match r with
    | .ok n => s.Opened (p, n) name dir_fd purpose s'
    | .error _ => s' = s
  | .mkdir name _ fd => fun r s' => match r with
    | .ok _ => ∃ d, s.lookup p name (some fd) = some d ∧
        (∀ q : Place, d <+: q.1 → s.volume.entry q = none) ∧ s' = { s with made := d :: s.made }
    | .error _ => s' = s
  | .fsync .directory fd => fun r s' => match r with
    | .ok _ => ∃ d, s.directories (p, fd.number) = some d ∧
        s' = { s with
          volume := s.volume.settle fun q => q.1 = d
          made := s.made.filter fun child => child.dropLast ≠ d }
    | .error _ => s' = s
  | .fsync .temporary fd => fun r s' => match r with
    | .ok _ => s' = { s with volume := s.volume.sync (p, fd.number) }
    | .error _ => s' = s
  | .close purpose fd => fun _ s' => s' = s.closed (p, fd.number) purpose
  | .flock fd .exclusive => fun r s' => match r with
    | .ok _ => ∃ i, s.locks (p, fd.number) = some i ∧
        (s.holder i = none ∨ s.holder i = some (p, fd.number)) ∧
        s' = { s with holder := Function.update s.holder i (some (p, fd.number)) }
    | .error _ => s' = s
  | .flock fd .unlock => fun r s' => match r with
    | .ok _ => s' = s.unlock (p, fd.number)
    | .error _ => s' = s ∨ s' = s.unlock (p, fd.number)
  | .read fd size => fun r s' => match r with
    | .ok bytes => ∃ i offset, s.readers (p, fd.number) = some (i, offset) ∧
        bytes.length ≤ size ∧ bytes <+: (s.volume.inode i).data.drop offset ∧
        (bytes = [] → size = 0 ∨ (s.volume.inode i).data.length ≤ offset) ∧
        s' = { s with
          readers := Function.update s.readers (p, fd.number) (some (i, offset + bytes.length)) }
    | .error _ => s' = s
  -- a failed write may have written a part
  | .write fd data => fun r s' => ∃ written, written ≤ data.length ∧
      (∀ n, r = .ok n → n = written) ∧
      s' = { s with volume := s.volume.append (p, fd.number) (data.take written) }
  | .replace source target fd => fun r s' => match r with
    | .ok _ => ∃ q q', s.place p source fd = some q ∧ s.place p target fd = some q' ∧
        (s.volume.entry q).isSome ∧ s' = { s with volume := s.volume.move q q' }
    | .error _ => s' = s
  | .unlink name fd => fun r s' => match r with
    | .ok _ => ∃ q, s.place p name fd = some q ∧ s' = { s with volume := s.volume.remove q }
    | .error _ => s' = s
  -- a write that fails may leave any policy
  | .run command => fun r s' =>
      if is_set command then
        ∃ policy, s' = { s with hardware := policy }
      else
        s' = s ∧ (is_get command = true → Prints s.hardware r)
  | _ => fun _ s' => s' = s

end UgreenNas.Startup
