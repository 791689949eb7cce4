import Mathlib.Data.List.DropRight
import UgreenNas.Errno
import UgreenNas.Seq.Buffer

/-! # The identity of the machine (`core/identity.c`)

    A machine is told by the files of `/sys`: by DMI on a PC, by the device
    tree on an ARM board.  The list of compatible names of a device tree is
    kept in one C string, with a bar between the names.
-/

namespace UgreenNas.Core

open Errno

/-! ## C strings -/

/-- The bytes in front of the NUL. -/
structure CString where
  bytes : List UInt8
  no_nul : 0 ∉ bytes
  deriving DecidableEq

/-- The string at the start of an array. -/
def c_string (array : List UInt8) : CString where
  bytes := array.takeWhile (· ≠ 0)
  no_nul := by
    intro h
    have hne := List.mem_takeWhile_imp h
    simp at hne

def literal (text : String) : CString := c_string text.toUTF8.data.toList

def empty : CString := ⟨[], by simp⟩

def bar : UInt8 := 124

/-- `isspace` in the C locale. -/
def isspace (c : UInt8) : Bool := c = 32 || (9 ≤ c && c ≤ 13)

/-! ## Files -/

/-- An open file: what can be read of it, and whether reading fails then. -/
structure Stream where
  content : List UInt8
  fails : Bool

abbrev Sysfs : Type := String → Except Errno Stream

def PATH_SIZE : Nat := 4096

/-- `raw_read` -/
def raw_read (sysfs : Sysfs) (root field : String) (capacity : Nat) :
    Except Errno (List UInt8) :=
  let path := root ++ "/" ++ field
  if path.utf8ByteSize ≥ PATH_SIZE then
    .error ENAMETOOLONG
  else
    match sysfs path with
    | .error e => .error e
    | .ok stream =>
      if stream.content.length > capacity then .error EOVERFLOW
      else if stream.fails then .error EIO
      else .ok stream.content

/-- The bytes that no identity contains. -/
def unreadable (c : UInt8) : Bool := c = 0 || (c < 0x20 && c ≠ 10 && c ≠ 13 && c ≠ 9)

/-- `text_read`: the string that is left in `out`. -/
def text_read (sysfs : Sysfs) (root field : String) (capacity : Nat) (dt : Bool) :
    Except Errno CString :=
  match raw_read sysfs root field (capacity - 1) with
  | .error e => .error e
  | .ok bytes =>
    let bytes := if dt && bytes.getLast? = some 0 then bytes.dropLast else bytes
    if bytes.any unreadable then .error EBADMSG else .ok (c_string (bytes.rdropWhile isspace))

/-! ## The compatible list -/

/-- The variables of the loop of `compatible_read`. -/
structure Encoding where
  used : Nat
  start : Nat
  out : List UInt8

/-- A run that may write past the end of a buffer (`none`). -/
abbrev Run (α : Type) : Type := ExceptT Errno Option α

def copy (buffer : List UInt8) (place : Nat) (source : List UInt8) : Run (List UInt8) :=
  ExceptT.lift (Buffer.copy buffer place source)

/-- One round of the loop, for the byte at `i`. -/
def encode_byte (raw : List UInt8) (capacity i : Nat) (c : UInt8) (s : Encoding) : Run Encoding :=
  if c ≠ 0 then
    if c < 0x21 || c > 0x7e || c = bar then throw EBADMSG else pure s
  else if i = s.start ∨ s.used + (if s.used ≠ 0 then 1 else 0) + i - s.start ≥ capacity then
    throw EBADMSG
  else do
    let out ← if s.used ≠ 0 then copy s.out s.used [bar] else pure s.out
    let used := if s.used ≠ 0 then s.used + 1 else s.used
    let out ← copy out used ((raw.drop s.start).take (i - s.start))
    return { used := used + (i - s.start), start := i + 1, out := out }

/-- The loop, from the byte at `i` on. -/
def encode_bytes (raw : List UInt8) (capacity : Nat) : Nat → List UInt8 → Encoding → Run Encoding
  | _, [], s => pure s
  | i, c :: rest, s => do
    let s ← encode_byte raw capacity i c s
    encode_bytes raw capacity (i + 1) rest s

def RAW_SIZE : Nat := 512

/-- `compatible_read`, whose `capacity` is that of `out`. -/
def compatible_read (sysfs : Sysfs) (root : String) (out : List UInt8) : Run (List UInt8) := do
  let found := raw_read sysfs root "firmware/devicetree/base/compatible" RAW_SIZE
  let out' ← copy out 0 [0]
  let raw ← match found with
    | .error e => throw e
    | .ok raw => pure raw
  if raw.getLast? ≠ some 0 then
    throw EBADMSG
  else do
    let s ← encode_bytes raw out.length 0 raw ⟨0, 0, out'⟩
    copy s.out s.used [0]

/-! ## The identity -/

/-- `struct ugreenctl_machine_identity` -/
structure MachineIdentity where
  source : CString := empty
  product_name : CString := empty
  product_version : CString := empty
  manufacturer : CString := empty
  board_version : CString := empty
  compatible : CString := empty
  bios_vendor : CString := empty
  bios_version : CString := empty
  bios_date : CString := empty

def FIELD_SIZE : Nat := 128
def COMPATIBLE_SIZE : Nat := 512

/-- A failure with the field that could not be read. -/
structure Failure where
  errno : Errno
  field : String

/-- `failure`, with the text that `strerror` has for the error. -/
def Failure.text (strerror : Errno → String) (failure : Failure) : String :=
  "cannot read machine identity " ++ failure.field ++ ": " ++ strerror failure.errno

/-- A DMI file that may be missing. -/
def dmi_read (sysfs : Sysfs) (root field : String) (missing : List Errno) : Except Failure CString :=
  match text_read sysfs root ("class/dmi/id/" ++ field) FIELD_SIZE false with
  | .ok text => .ok text
  | .error e => if e ∈ missing then .ok empty else .error ⟨e, "DMI " ++ field⟩

/-- `ugreenctl_identity_read_at` -/
def identity_read_at (sysfs : Sysfs) (root : String) :
    ExceptT Failure Option MachineIdentity := do
  let product_name ← ExceptT.mk (some (dmi_read sysfs root "product_name" [ENOENT, ENOTDIR]))
  if product_name ≠ empty then do
    let product_version ← ExceptT.mk (some (dmi_read sysfs root "product_version" [ENOENT]))
    let manufacturer ← ExceptT.mk (some (dmi_read sysfs root "sys_vendor" [ENOENT]))
    let board_version ← ExceptT.mk (some (dmi_read sysfs root "board_version" [ENOENT]))
    let bios_vendor ← ExceptT.mk (some (dmi_read sysfs root "bios_vendor" [ENOENT]))
    let bios_version ← ExceptT.mk (some (dmi_read sysfs root "bios_version" [ENOENT]))
    let bios_date ← ExceptT.mk (some (dmi_read sysfs root "bios_date" [ENOENT]))
    return { source := literal "dmi", product_name, product_version, manufacturer, board_version,
             bios_vendor, bios_version, bios_date }
  else do
    let model ← ExceptT.mk (some ((text_read sysfs root "firmware/devicetree/base/model" FIELD_SIZE
      true).mapError fun e => ⟨e, "device-tree model"⟩))
    if model = empty then
      throw ⟨ENODEV, "empty device-tree model"⟩
    else do
      let out ← (compatible_read sysfs root (List.replicate COMPATIBLE_SIZE 0)).adapt fun e =>
        (⟨e, "device-tree compatible"⟩ : Failure)
      return { source := literal "devicetree", product_name := model, compatible := c_string out }

/-! ## Matching -/

/-- The loop of `ugreenctl_identity_has_compatible`, from `start` on. -/
def find_token (token start : List UInt8) : Bool :=
  if start = [] then
    false
  else if bar ∉ start then
    start.length = token.length && start.take token.length = token
  else
    let segment := start.takeWhile (· ≠ bar)
    if segment.length = token.length && start.take token.length = token then true
    else find_token token (start.dropWhile (· ≠ bar)).tail
termination_by start.length
decreasing_by
  have hle := (start.dropWhile_suffix (· ≠ bar)).length_le
  have hpos := List.length_pos_of_ne_nil ‹start ≠ []›
  rw [List.length_tail]
  omega

def identity_has_compatible (identity : Option MachineIdentity) (token : Option CString) : Bool :=
  match identity, token with
  | some identity, some token =>
    if token.bytes = [] || bar ∈ token.bytes then false
    else find_token token.bytes identity.compatible.bytes
  | _, _ => false

/-- `ugreenctl_identity_model` -/
def identity_model (identity : Option MachineIdentity) : CString :=
  match identity with
  | none => empty
  | some found =>
    if found.source = literal "devicetree" ∧
        found.product_name = literal "UGREEN RK3576 DH2300 Board" ∧
        identity_has_compatible identity (some (literal "rockchip,rk3576")) = true then
      literal "DH2300"
    else if found.source = literal "devicetree" ∧
        found.product_name = literal "UGREEN RK3588C DH4300Plus Board" ∧
        identity_has_compatible identity (some (literal "rockchip,rk3588")) = true then
      literal "DH4300 Plus"
    else
      found.product_name

end UgreenNas.Core
