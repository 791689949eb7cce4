import UgreenNas.Wake.Profiles

/-! # Wake-on-LAN of one named interface (`network/wol_interface.c`)

    The interface has to be a physical one, and the same one from the first
    look at it to the last.
-/

namespace UgreenNas.Wake

open DiskMap Effect Effect.Proc
open Led (Failure failure)
open Network (IFNAMSIZ WAKE_MAGIC WolInfo WolOp WolPolicy desired)

/-! ## The identity of an interface -/

/-- What is found of an interface below `/sys/class/net`. -/
structure Attributes where
  type : Option File
  wireless : Bool
  uevent : Option File

/-- `isalnum` in the C locale. -/
def isalnum (c : Char) : Bool := ('A' ≤ c && c ≤ 'Z') || ('a' ≤ c && c ≤ 'z') || DiskMap.isdigit c

def valid_name (name : Text) : Bool :=
  name ≠ [] && name.length < IFNAMSIZ &&
    name.all (fun c => isalnum c || c = '_' || c = '-' || c = '.') &&
    name ≠ ".".toList && name ≠ "..".toList

def SLOT_SIZE : Nat := 80
def OF_PATH_SIZE : Nat := 256
def IDENTITY_SIZE : Nat := 256

/-- The variables of the loop over the lines. -/
structure DeviceState where
  pci_class : Nat := 0
  slot : Text := []
  of_path : Text := []
  dt_compatible : Bool := false

def pci_class (value : Text) : Nat :=
  let (pci_class, out_of_range, behind) := strtoul value 16
  if out_of_range ∨ behind.length = value.length ∨ behind ≠ [] then 0 else pci_class

/-- The line names the compatible device that is looked for. -/
def names_compatible (ethernet_compatible : Option Text) (line : Text) : Bool :=
  match ethernet_compatible with
  | some compatible => line.dropWhile (· ≠ '=') = '=' :: compatible
  | none => false

/-- The body of the loop over the lines; a name that does not fit is passed
    over. -/
def device_line (entry : WolEntry) (s : DeviceState) (line : Text) : DeviceState :=
  if "PCI_CLASS=".toList.isPrefixOf line then
    { s with pci_class := pci_class (line.drop 10) }
  else if "PCI_SLOT_NAME=".toList.isPrefixOf line then
    if (line.drop 14).length < SLOT_SIZE then { s with slot := line.drop 14 } else s
  else if "OF_FULLNAME=".toList.isPrefixOf line then
    if (line.drop 12).length < OF_PATH_SIZE then { s with of_path := line.drop 12 } else s
  else if "OF_COMPATIBLE_".toList.isPrefixOf line then
    if names_compatible entry.ethernet_compatible line then { s with dt_compatible := true } else s
  else
    s

/-- The lines of a `uevent`, without what ends them. -/
def device_lines (file : File) : List Text :=
  (fgets_lines 512 file.error [] file.bytes).map fun line =>
    (c_string line.1).takeWhile fun c => c ≠ '\r' ∧ c ≠ '\n'

/-- `type` is that of an Ethernet device. -/
def is_ethernet_type (file : File) : Bool :=
  match scan_unsigned file.bytes 10 with
  | some (type, _) => type = 1
  | none => false

def unsupported (name : Text) : Failure :=
  failure .ENODEV
    s!"{String.ofList name} is not a physical PCI Ethernet device or the model's evidenced DT MAC"

/-- `ugreenctl_wol_interface_identity_at`, with what it finds. -/
def interface_identity (entry : WolEntry) (name : Text) (found : Attributes) : Except Failure Text :=
  if !valid_name name then
    .error ⟨.EINVAL, .silent⟩
  else if !found.type.any is_ethernet_type || found.wireless then
    .error (unsupported name)
  else
    match found.uevent with
    | none => .error (unsupported name)
    | some file =>
      let s := (device_lines file).foldl (device_line entry) {}
      if s.pci_class >>> 8 = 0x0200 ∧ s.slot ≠ [] then
        .ok ("pci:".toList ++ s.slot)
      else if entry.ethernet_of_path = some s.of_path ∧ s.dt_compatible = true then
        if 3 + s.of_path.length ≥ IDENTITY_SIZE then .error ⟨.ENAMETOOLONG, .silent⟩
        else .ok ("dt:".toList ++ s.of_path)
      else
        .error (unsupported name)

/-! ## Accesses -/

inductive NetOp where
  /-- What an identity is made of. -/
  | attributes (name : Text)
  /-- 0 where there is no such interface. -/
  | if_nametoindex (name : Text)
  | wol (o : WolOp)

@[reducible] def NetOp.Ans : NetOp → Type
  | .attributes _ => Attributes
  | .if_nametoindex _ => Nat
  | .wol o => o.Ans

abbrev net_io : Sig := ⟨NetOp, NetOp.Ans⟩

abbrev Net (α : Type) : Type := Proc net_io Unit Failure α

def net (o : NetOp) : Net o.Ans := @ask net_io Unit Failure o

/-- An access that failed, of which nothing is said yet. -/
def silently {α : Type} (r : Except Errno α) : Net α := lift (r.mapError fun e => ⟨e, .silent⟩)

def read_identity (entry : WolEntry) (name : Text) : Net Text := do
  let found : Attributes ← net (.attributes name)
  lift (interface_identity entry name found)

/-- It is still the interface that was looked at first. -/
def same_interface (entry : WolEntry) (name before : Text) (index : Nat) : Net Unit := do
  let after ← read_identity entry name
  bail (after ≠ before) ⟨.ESTALE, .silent⟩
  let now : Nat ← net (.if_nametoindex name)
  bail (now ≠ index) ⟨.ESTALE, .silent⟩

/-- The policy is set and read back, between two looks at the interface. -/
def store_policy (entry : WolEntry) (name : Text) (policy : WolPolicy) (before : Text)
    (index : Nat) : Net WolInfo := do
  same_interface entry name before index
  let stored : Except Errno Unit ← net (.wol (.set name (desired policy)))
  silently stored
  let read : Except Errno WolInfo ← net (.wol (.get name))
  let wol ← silently read
  bail (wol.supported &&& WAKE_MAGIC = 0 ∨ wol.wolopts ≠ desired policy) ⟨Errno.EIO, .silent⟩
  same_interface entry name before index
  pure wol

/-- What is done while the socket is open. -/
def ask_interface (entry : WolEntry) (name : Text) (write : Bool) (policy : WolPolicy)
    (before : Text) (index : Nat) : Net WolPolicy := do
  let read : Except Errno WolInfo ← net (.wol (.get name))
  let wol ← silently read
  bail (wol.supported &&& WAKE_MAGIC = 0) ⟨.EOPNOTSUPP, .silent⟩
  if write then do
    let wol ← store_policy entry name policy before index
    pure wol.policy
  else
    pure wol.policy

/-- What is said at the end of a failure of which nothing was said. -/
def not_confirmed (strerror : Errno → String) (write : Bool) (name : Text) (error : Failure) :
    Failure :=
  let what := if write then "write/readback" else "query"
  ⟨error.errno, error.report.otherwise (.text
    s!"WOL {what} failed on {String.ofList name}: {strerror error.errno}; state not confirmed")⟩

/-- `ugreenctl_wol_interface` -/
def wol_interface (strerror : Errno → String) (entry : WolEntry) (name : Text) (write : Bool)
    (policy : WolPolicy) : Net WolPolicy := do
  bail (write = true ∧ policy ≠ .on ∧ policy ≠ .off) ⟨.EINVAL, .silent⟩
  let before ← read_identity entry name
  let index : Nat ← net (.if_nametoindex name)
  bail (index = 0) ⟨.ENODEV, .silent⟩
  let fd : Except Errno Unit ← net (.wol .socket)
  silently fd
  let result ← attempt (ask_interface entry name write policy before index)
  net (.wol .close)
  lift (result.mapError (not_confirmed strerror write name))

end UgreenNas.Wake
