import Mathlib.Data.Char
import Mathlib.Data.List.Lex
import Mathlib.Data.List.Sort
import UgreenNas.Disk.Sysfs
import UgreenNas.Effect.Each
import UgreenNas.Effect.Finally
import UgreenNas.Led.Basic

/-! # Wake-on-LAN (`network/wol.c`)

    The policy of a machine is that of its mapped interfaces, or, where these
    were renamed, that of all its physical PCI interfaces.  It is set on all
    of them once every one was asked, and read back.
-/

namespace UgreenNas.Network

open DiskMap Effect Effect.Proc
open Led (Failure failure)

/-! ## Interfaces -/

def IFNAMSIZ : Nat := 16

def MAX_RUNTIME_INTERFACES : Nat := 8

/-- `struct runtime_interface` -/
structure RuntimeInterface where
  name : Text
  pci_slot : Text
  deriving DecidableEq

/-- What a selection finds of the interfaces: which names `if_nametoindex`
    knows, the `uevent` of the device of a name, and the entries of
    `/sys/class/net`. -/
structure Inventory where
  present : Text → Bool
  uevent : Text → Option File
  entries : Except Errno (List Text)
  /-- `readdir` delivers no empty names. -/
  named : ∀ names, entries = .ok names → [] ∉ names

/-- The class of a PCI device is Ethernet. -/
def is_ethernet (value : Text) : Bool :=
  let (pci_class, out_of_range, behind) := strtoul value 16
  !out_of_range && behind.length ≠ value.length && pci_class >>> 8 = 0x0200

/-- The slot of a PCI device, if it fits. -/
def slot_name (value : Text) : Option Text :=
  let slot := value.takeWhile fun c => c ≠ '\r' ∧ c ≠ '\n'
  if 0 < slot.length ∧ slot.length < 32 then some slot else none

/-- The variables of the loop over the lines. -/
structure UeventState where
  is_pci_ethernet : Bool := false
  pci_slot : Option Text := none

/-- The body of the loop over the lines. -/
def uevent_line (s : UeventState) (line : Text) : UeventState :=
  if "PCI_CLASS=".toList.isPrefixOf line then
    if is_ethernet (line.drop 10) then { s with is_pci_ethernet := true } else s
  else if "PCI_SLOT_NAME=".toList.isPrefixOf line then
    match slot_name (line.drop 14) with
    | some slot => { s with pci_slot := some slot }
    | none => s
  else
    s

/-- `read_pci_ethernet_interface` -/
def read_pci_ethernet_interface (inventory : Inventory) (interface : Text) :
    Option RuntimeInterface := do
  let path := "/sys/class/net/".toList ++ interface ++ "/device/uevent".toList
  guard (path.length < 512)
  let file ← inventory.uevent interface
  let lines := (fgets_lines 256 file.error [] file.bytes).map fun line => c_string line.1
  let s := lines.foldl uevent_line {}
  guard (s.is_pci_ethernet = true)
  let slot ← s.pci_slot
  pure { name := snprintf IFNAMSIZ interface, pci_slot := slot }

/-- An interface that is there and is a physical one. -/
def Inventory.has (inventory : Inventory) (interface : Text) : Bool :=
  inventory.present interface && (read_pci_ethernet_interface inventory interface).isSome

def mapped_interfaces_are_present_and_physical (inventory : Inventory) (interfaces : List Text) :
    Bool :=
  interfaces.all inventory.has

/-- `compare_runtime_interfaces` is not positive. -/
def before (first second : RuntimeInterface) : Prop :=
  first.pci_slot < second.pci_slot ∨
    (first.pci_slot = second.pci_slot ∧ first.name ≤ second.name)

instance : DecidableRel before := fun first second =>
  inferInstanceAs (Decidable (first.pci_slot < second.pci_slot ∨
    (first.pci_slot = second.pci_slot ∧ first.name ≤ second.name)))

/-- The candidate that an entry of the directory is. -/
def candidate (inventory : Inventory) (d_name : Text) : Option RuntimeInterface :=
  if d_name.head? = some '.' ∨ d_name.length ≥ IFNAMSIZ then none
  else read_pci_ethernet_interface inventory d_name

/-- The loop over the entries. -/
def discover_loop (inventory : Inventory) :
    List RuntimeInterface → List Text → Except Failure (List RuntimeInterface)
  | candidates, [] => .ok candidates
  | candidates, d_name :: rest =>
    match candidate inventory d_name with
    | none => discover_loop inventory candidates rest
    | some found =>
      if candidates.length ≥ MAX_RUNTIME_INTERFACES then
        .error (failure .E2BIG
          "too many physical PCI Ethernet interfaces to map Wake-on-LAN safely")
      else
        discover_loop inventory (candidates ++ [found]) rest

/-- `discover_renamed_interfaces` -/
def discover_renamed_interfaces (strerror : Errno → String) (inventory : Inventory)
    (expected_count : Nat) : Except Failure (List Text) := do
  let entries ← inventory.entries.mapError fun e =>
    failure e s!"cannot inspect physical Ethernet interfaces: {strerror e}"
  let candidates ← discover_loop inventory [] entries
  if candidates.length ≠ expected_count then
    .error (failure .ENODEV
      s!"firmware Wake-on-LAN names are absent and found {candidates.length} physical PCI Ethernet interfaces (expected {expected_count})")
  else
    .ok ((candidates.insertionSort before).map fun found => snprintf IFNAMSIZ found.name)

def validate_interfaces (interfaces : List Text) : Except Failure Unit :=
  if interfaces = [] then
    .error (failure .ENODEV "no Wake-on-LAN interfaces are mapped for this model")
  else if interfaces.any fun interface => interface = [] ∨ interface.length ≥ IFNAMSIZ then
    .error (failure .EINVAL "invalid Wake-on-LAN interface mapping")
  else
    .ok ()

/-- `select_interfaces` -/
def select_interfaces (strerror : Errno → String) (inventory : Inventory)
    (firmware_interfaces : List Text) (renamed_interface_count : Nat) :
    Except Failure (List Text) := do
  validate_interfaces firmware_interfaces
  if renamed_interface_count = 0 ∨ renamed_interface_count > MAX_RUNTIME_INTERFACES then
    .error (failure .EINVAL "invalid renamed Wake-on-LAN interface count for this model")
  else if mapped_interfaces_are_present_and_physical inventory firmware_interfaces then
    .ok firmware_interfaces
  else
    discover_renamed_interfaces strerror inventory renamed_interface_count

/-! ## Requests -/

def WAKE_MAGIC : UInt32 := 0x20

/-- `struct ethtool_wolinfo` -/
structure WolInfo where
  supported : UInt32
  wolopts : UInt32

inductive WolOp where
  | socket
  /-- `ETHTOOL_GWOL` -/
  | get (interface : Text)
  /-- `ETHTOOL_SWOL` -/
  | set (interface : Text) (wolopts : UInt32)
  | close

@[reducible] def WolOp.Ans : WolOp → Type
  | .socket => Except Errno Unit
  | .get _ => Except Errno WolInfo
  | .set _ _ => Except Errno Unit
  | .close => Unit

abbrev wol_io : Sig := ⟨WolOp, WolOp.Ans⟩

abbrev Wol (α : Type) : Type := Proc wol_io Unit Failure α

def io (o : WolOp) : Wol o.Ans := @ask wol_io Unit Failure o

/-- `enum ugreenctl_wol_policy` -/
inductive WolPolicy where
  | unknown
  | off
  | on
  deriving DecidableEq

def WolInfo.policy (info : WolInfo) : WolPolicy :=
  if info.wolopts &&& WAKE_MAGIC ≠ 0 then .on else .off

def query_interface (strerror : Errno → String) (interface : Text) : Wol WolInfo := do
  let answer : Except Errno WolInfo ← io (.get interface)
  let wol ← lift (answer.mapError fun e => failure e
    s!"cannot read Wake-on-LAN on {String.ofList interface}: {strerror e}")
  bail (wol.supported &&& WAKE_MAGIC = 0) (failure .EOPNOTSUPP
    s!"interface {String.ofList interface} does not support magic-packet Wake-on-LAN")
  pure wol

def open_socket (strerror : Errno → String) : Wol Unit := do
  let fd : Except Errno Unit ← io .socket
  lift (fd.mapError fun e =>
    failure e s!"cannot open Wake-on-LAN control socket: {strerror e}")

/-- The body of the loop that reads: all interfaces have one policy. -/
def observe (strerror : Errno → String) (observed : WolPolicy) (interface : Text) :
    Wol WolPolicy := do
  let wol ← query_interface strerror interface
  bail (observed ≠ .unknown ∧ observed ≠ wol.policy) (failure .EUCLEAN
    "Wake-on-LAN state is mixed across the model's mapped interfaces")
  pure wol.policy

def too_many (interface_count renamed_interface_count : Nat) : Prop :=
  interface_count > MAX_RUNTIME_INTERFACES ∨ renamed_interface_count > MAX_RUNTIME_INTERFACES

instance (interface_count renamed_interface_count : Nat) :
    Decidable (too_many interface_count renamed_interface_count) :=
  inferInstanceAs (Decidable (_ ∨ _))

def too_many_interfaces : Failure :=
  failure .E2BIG "too many Wake-on-LAN interfaces are mapped for this model"

/-- `ugreenctl_wol_read_policy_with_renamed_count`, with what its selection
    finds. -/
def read_policy_with_renamed_count (strerror : Errno → String) (inventory : Inventory)
    (interfaces : List Text) (renamed_interface_count : Nat) : Wol WolPolicy := do
  bail (too_many interfaces.length renamed_interface_count) too_many_interfaces
  let mapped ← lift (select_interfaces strerror inventory interfaces renamed_interface_count)
  open_socket strerror
  always (fold (observe strerror) .unknown mapped) (io .close)

/-- `ugreenctl_wol_read_policy` -/
def read_policy (strerror : Errno → String) (inventory : Inventory) (interfaces : List Text) :
    Wol WolPolicy :=
  read_policy_with_renamed_count strerror inventory interfaces interfaces.length

def desired (policy : WolPolicy) : UInt32 := if policy = .on then WAKE_MAGIC else 0

def check_interface (strerror : Errno → String) (interface : Text) : Wol Unit := do
  let _ ← query_interface strerror interface

def write_interface (strerror : Errno → String) (policy : WolPolicy) (interface : Text) :
    Wol Unit := do
  let answer : Except Errno Unit ← io (.set interface (desired policy))
  lift (answer.mapError fun e => failure e
    s!"cannot set Wake-on-LAN on {String.ofList interface}: {strerror e}")

/-- The two loops: every interface is asked before one is written. -/
def write_all (strerror : Errno → String) (policy : WolPolicy) (mapped : List Text) : Wol Unit := do
  each (check_interface strerror) mapped
  each (write_interface strerror policy) mapped

/-- `ugreenctl_wol_set_policy_with_renamed_count`, with what its selection
    finds, and what that of the readback does. -/
def set_policy_with_renamed_count (strerror : Errno → String) (first second : Inventory)
    (interfaces : List Text) (renamed_interface_count : Nat) (policy : WolPolicy) : Wol Unit := do
  bail (policy = .unknown) (failure .EINVAL "Wake-on-LAN policy must be on or off")
  bail (too_many interfaces.length renamed_interface_count) too_many_interfaces
  let mapped ← lift (select_interfaces strerror first interfaces renamed_interface_count)
  open_socket strerror
  always (write_all strerror policy mapped) (io .close)
  let observed ← read_policy strerror second mapped
  bail (desired observed ≠ desired policy)
    (failure Errno.EIO "Wake-on-LAN readback did not match requested policy")

end UgreenNas.Network
