import UgreenNas.Disk.Text
import UgreenNas.Effect.Settle
import UgreenNas.Effect.Sum

/-! # Reading sysfs (`disk/disk.c`)

    The scanner resolves links, reads small attributes and lists
    directories; it never writes.  Programs that only look at single paths
    are `Attributes`, those that also list directories `Sysfs`.  What the
    file system answers, and whether it changes meanwhile, is the matter of
    the environment.
-/

namespace UgreenNas.DiskMap

open Effect

/-! ## Accesses -/

/-- What can be read from a file, and whether a read error comes after it. -/
structure File where
  bytes : Text
  error : Bool
  deriving DecidableEq, Repr

inductive AttributeOp where
  | realpath (path : Text)
  | fopen (path : Text)
  | access (path : Text)

@[reducible] def AttributeOp.Ans : AttributeOp → Type
  | .realpath _ => Option Text
  | .fopen _ => Option File
  | .access _ => Bool

/-- What `readdir` goes on to deliver, and whether it fails after that. -/
structure Listing where
  entries : List Text
  error : Bool
  deriving DecidableEq, Repr

/-- A file opened for calibration: what `fstat` says, and what `fdopen` gives. -/
structure OpenFile where
  is_regular : Bool
  uid : Nat
  /-- `st_mode & (S_IWGRP | S_IWOTH)` -/
  others_write : Bool
  stream : Option File
  deriving DecidableEq, Repr

inductive InventoryOp where
  | opendir (path : Text)
  | open_file (path : Text)

@[reducible] def InventoryOp.Ans : InventoryOp → Type
  | .opendir _ => Except Errno Listing
  | .open_file _ => Except Errno OpenFile

abbrev attributes : Sig := ⟨AttributeOp, AttributeOp.Ans⟩
abbrev inventory : Sig := ⟨InventoryOp, InventoryOp.Ans⟩
abbrev sysfs : Sig := attributes.sum inventory

abbrev Attributes (α : Type) : Type := Prog attributes α
abbrev Sysfs (α : Type) : Type := Prog sysfs α

instance : MonadLift Attributes Sysfs := ⟨Prog.inl⟩

def realpath (path : Text) : Attributes (Option Text) := Prog.call (S := attributes) (.realpath path)

def fopen (path : Text) : Attributes (Option File) := Prog.call (S := attributes) (.fopen path)

def access (path : Text) : Attributes Bool := Prog.call (S := attributes) (.access path)

def opendir (path : Text) : Sysfs (Except Errno Listing) :=
  Prog.call (S := sysfs) (.inr (.opendir path))

def open_file (path : Text) : Sysfs (Except Errno OpenFile) :=
  Prog.call (S := sysfs) (.inr (.open_file path))

/-! ## Attributes -/

/-- What `read_text` makes of a file, with a buffer of `size` bytes. -/
def File.text (file : File) (size : Nat) : Option Text :=
  if file.bytes.length > size - 1 || (file.bytes.length < size - 1 && file.error) then
    none
  else if file.bytes.any fun c => iscntrl c && c ≠ '\n' && c ≠ '\r' && c ≠ '\t' then
    none
  else
    let start := trim file.bytes
    if '\n' ∈ start || '\r' ∈ start || '\t' ∈ start then none else some start

def read_text (path : Text) (size : Nat) : Attributes (Option Text) := do
  match ← fopen path with
  | none => return none
  | some file => return file.text size

/-- What `read_vpd_serial` makes of a file: a page header, the length of
    the payload in two bytes, and the payload. -/
def File.vpd_serial (file : File) (size : Nat) : Option Text :=
  match file.bytes with
  | peripheral :: page :: high :: low :: payload =>
    let length := high.toNat * 256 + low.toNat
    if peripheral.toNat ≠ 0 || page.toNat ≠ 0x80 || length = 0 || length ≥ size ||
        payload.length ≠ length || file.error ||
        payload.any fun c => c.toNat < 0x20 || c.toNat > 0x7e then
      none
    else
      let start := trim payload
      if start.isEmpty then none else some start
  | _ => none

def read_vpd_serial (path : Text) (size : Nat) : Attributes (Option Text) := do
  match ← fopen path with
  | none => return none
  | some file => return file.vpd_serial size

/-- The serial of the device behind `link`; empty when there is none. -/
def read_serial (link : Text) (size : Nat) : Attributes Text := do
  let serial ← read_text (snprintf PATH_MAX (link ++ "/device/serial")) size
  if printable_identity (serial.getD []) then
    return serial.getD []
  let vpd ← read_vpd_serial (snprintf PATH_MAX (link ++ "/device/vpd_pg80")) size
  return vpd.getD []

def read_wwid (link : Text) (size : Nat) : Attributes Text := do
  match ← read_text (snprintf PATH_MAX (link ++ "/wwid")) size with
  | some wwid => return if printable_identity wwid then wwid else []
  | none =>
    let wwid ← read_text (snprintf PATH_MAX (link ++ "/device/wwid")) size
    return if printable_identity (wwid.getD []) then wwid.getD [] else []

def read_hex (path : Text) : Attributes (Option Nat) := do
  match ← read_text path 32 with
  | none => return none
  | some text =>
    let (number, out_of_range, rest) := strtoul text 16
    if text.isEmpty || out_of_range || !rest.isEmpty || number > UINT_MAX then return none
    return some number

/-- The file has exactly these bytes. -/
def property_equals (path expected : Text) : Attributes Bool := do
  match ← fopen path with
  | none => return false
  | some file => return expected.length ≤ 256 && file.bytes = expected && !file.error

/-- The last component of the driver's path; `none` when it is not bound. -/
def driver_name (device : Text) : Attributes (Option Text) := do
  match ← realpath (snprintf PATH_MAX (device ++ "/driver")) with
  | none => return none
  | some resolved => return (strrchr resolved '/').map Prod.snd

/-! ## Trees that stand still -/

/-- A directory names no entry twice. -/
structure Directory extends Listing where
  nodup : entries.Nodup

/-- A sysfs tree: what every path resolves to, reads as and lists. -/
structure Tree where
  realpath : Text → Option Text
  file : Text → Option File
  exists_at : Text → Bool
  directory : Text → Except Errno Directory
  opened : Text → Except Errno OpenFile

/-- A listing in the order the tree has it in. -/
def Tree.listing (tree : Tree) (path : Text) : Except Errno Listing :=
  (tree.directory path).map Directory.toListing

def Tree.look (tree : Tree) : (o : AttributeOp) → o.Ans
  | .realpath path => tree.realpath path
  | .fopen path => tree.file path
  | .access path => tree.exists_at path

def Tree.list (tree : Tree) : (o : InventoryOp) → o.Ans
  | .opendir path => tree.listing path
  | .open_file path => tree.opened path

/-- The tree as it is, every directory in its own order. -/
def Tree.handler (tree : Tree) : Prog.Handler sysfs Unit
  | _, .inl o => (tree.look o, ())
  | _, .inr o => (tree.list o, ())

/-- Two listings of one directory. -/
inductive SameListing : Except Errno Listing → Except Errno Listing → Prop where
  | error (errno : Errno) : SameListing (.error errno) (.error errno)
  | ok {l l' : Listing} : l.entries.Perm l'.entries → l.error = l'.error →
      SameListing (.ok l) (.ok l')

/-- The tree as it is, every opening of a directory in some order. -/
def Tree.env (tree : Tree) : Env sysfs Unit := fun _ o b _ =>
  match o, b with
  | .inl o, b => b = tree.look o
  | .inr (.opendir path), b => SameListing (tree.listing path) b
  | .inr (.open_file path), b => b = tree.opened path

/-- Links and attributes of a tree have one answer. -/
theorem Tree.settled {α : Type} (tree : Tree) (p : Attributes α) :
    Prog.Settled tree.env tree.handler p.inl :=
  Prog.settled_inl (fun _ _ h => h) p

theorem same_listing_refl (listing : Except Errno Listing) : SameListing listing listing := by
  cases listing with
  | error errno => exact .error errno
  | ok l => exact .ok (List.Perm.refl _) rfl

/-- A program has a run in which every directory is listed as the tree has it. -/
theorem Tree.runs {α : Type} (tree : Tree) (p : Sysfs α) :
    Prog.Runs tree.env p () (p.value tree.handler) () := by
  have hE : ∀ s o, tree.env s o (tree.handler s o).1 (tree.handler s o).2 := by
    intro s o
    match o with
    | .inl o => rfl
    | .inr (.opendir path) => exact same_listing_refl _
    | .inr (.open_file path) => rfl
  exact Prog.runs_exec hE p ()

end UgreenNas.DiskMap
