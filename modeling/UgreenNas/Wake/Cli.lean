import UgreenNas.Effect.Part
import UgreenNas.Power.RtcTransaction
import UgreenNas.Wake.Interface

/-! # The wake commands (`core/wake_cli.c`)

    `power rtc-wake` and `network wol` share their options, their lock and
    the check that a write is made on the machine it was asked for.
-/

namespace UgreenNas.Wake

open DiskMap Effect Effect.Proc
open Core (MachineIdentity)
open Network (Inventory WolPolicy wol_io)
open Power (AlarmCall RtcOp RtcProfile rtc_io validate_epoch wake_parse)

/-! ## Arguments -/

def takes_argument (a : Text) : Bool :=
  a = "--model".toList || a = "--interface".toList || a = "--plugin-dir".toList

def is_long_option (a : Text) : Bool := "--".toList.isPrefixOf a

/-- The command, which is not the last argument, and the one behind it. -/
def find_command : List Text → Option (Text × Text)
  | [] => none
  | [_] => none
  | a :: next :: rest =>
    if takes_argument a then find_command rest
    else if is_long_option a then find_command (next :: rest)
    else some (a, next)

/-- Whether it is the RTC that is asked for; `none` for the commands of
    `main.c`. -/
def find_subsystem (argv : List Text) : Option Bool :=
  match find_command argv with
  | none => none
  | some (command, next) =>
    if command = "power".toList ∧ next = "rtc-wake".toList then some true
    else if command = "network".toList ∧ next = "wol".toList then some false
    else none

structure WakeArgs where
  model : Option Text := none
  interface : Option Text := none
  apply : Bool := false
  force : Bool := false
  positionals : List Text := []

/-- An option with its argument; the wake tables do not load plugins. -/
def option_argument (s : WakeArgs) (a value : Text) : Except String WakeArgs :=
  if a = "--model".toList then
    if s.model.isSome then .error "duplicate --model" else .ok { s with model := some value }
  else if a = "--interface".toList then
    if s.interface.isSome then .error "duplicate --interface"
    else .ok { s with interface := some value }
  else
    .ok s

/-- The loop over the arguments. -/
def parse_args (s : WakeArgs) : List Text → Except String WakeArgs
  | [] => .ok s
  | a :: rest =>
    if a = "--force".toList then parse_args { s with force := true } rest
    else if a = "--apply".toList then parse_args { s with apply := true } rest
    else if takes_argument a then
      match rest with
      | [] => .error "missing wake option argument"
      | value :: rest =>
        match option_argument s a value with
        | .error e => .error e
        | .ok s => parse_args s rest
    else if is_long_option a ∨ s.positionals.length = 4 then
      .error "invalid wake arguments"
    else
      parse_args { s with positionals := s.positionals ++ [a] } rest

inductive RtcRequest where
  | get
  | set (epoch : Nat)
  | clear

inductive WolRequest where
  | get
  | set (policy : WolPolicy)

inductive WakeRequest where
  | models
  | rtc (request : RtcRequest)
  | wol (request : WolRequest)

def parse_epoch (value : Text) : Except String Nat :=
  if ¬ value.all isdigit then
    .error "RTC requires a positive Unix epoch"
  else
    match wake_parse value with
    | .error _ => .error "invalid RTC epoch"
    | .ok epoch => if epoch = 0 then .error "invalid RTC epoch" else .ok epoch

def parse_policy (value : Text) : Except String WolPolicy :=
  if value = "on".toList then .ok .on
  else if value = "off".toList then .ok .off
  else .error "WOL policy must be on or off"

/-- What the arguments behind the command ask for. -/
def wake_action (rtc : Bool) (action : Text) (operands : List Text) : Except String WakeRequest :=
  if action = "set".toList then
    match operands with
    | [value] =>
      if rtc then (parse_epoch value).map fun epoch => .rtc (.set epoch)
      else (parse_policy value).map fun policy => .wol (.set policy)
    | _ => .error "invalid wake command"
  else if rtc = true ∧ action = "clear".toList ∧ operands = [] then
    .ok (.rtc .clear)
  else if action = "get".toList ∧ operands = [] then
    .ok (if rtc then .rtc .get else .wol .get)
  else
    .error "invalid wake command"

def wake_request (rtc : Bool) (args : WakeArgs) : Except String WakeRequest :=
  if rtc = true ∧ args.interface.isSome then
    .error "--interface only applies to WOL"
  else
    match args.positionals with
    | _ :: _ :: action :: operands =>
      if action = "models".toList ∧ operands = [] then
        if args.model.isSome ∨ args.interface.isSome ∨ args.apply = true ∨ args.force = true then
          .error "models listing takes no hardware options"
        else
          .ok .models
      else
        wake_action rtc action operands
    | _ => .error "use get, set, clear (RTC), or models"

/-- The families are those of the plugins. -/
def model_option_matches (requested : Option Text) (id product : String) : Bool :=
  match requested with
  | none => true
  | some requested =>
    requested = id.toList || requested = product.toList ||
      (requested = "dx4600".toList && (product = "DX4600+" || product = "DX4600 Pro")) ||
      (requested = "dxp4800plus".toList && product = "DXP4800 Pro")

/-! ## The machine -/

/-- The identity in the memory of a `struct ugreenctl_machine_identity`. -/
def identity_of (memory : List UInt8) : MachineIdentity where
  source := Core.c_string (memory.take 16)
  product_name := Core.c_string ((memory.drop 16).take 128)
  product_version := Core.c_string ((memory.drop 144).take 128)
  manufacturer := Core.c_string ((memory.drop 272).take 128)
  board_version := Core.c_string ((memory.drop 400).take 128)
  compatible := Core.c_string ((memory.drop 528).take 512)
  bios_vendor := Core.c_string ((memory.drop 1040).take 128)
  bios_version := Core.c_string ((memory.drop 1168).take 128)
  bios_date := Core.c_string ((memory.drop 1296).take 128)

/-- `struct stat`, of a lock. -/
structure LockStat where
  st_mode : Nat
  st_uid : Nat
  st_nlink : Nat

def LockStat.trusted (st : LockStat) : Bool :=
  st.st_mode &&& 0o170000 = 0o100000 && st.st_uid = 0 && st.st_nlink = 1 && st.st_mode &&& 0o022 = 0

inductive WakeOp where
  /-- `ugreenctl_identity_read`, and the memory it leaves. -/
  | identity
  | time
  | open_lock (path : Text)
  | fstat_lock
  | flock
  | close_lock
  | rtc (o : RtcOp)
  | net (o : NetOp)

@[reducible] def WakeOp.Ans : WakeOp → Type
  | .identity => Except Core.Failure (List UInt8)
  | .time => Option Nat
  | .open_lock _ => Bool
  | .fstat_lock => Option LockStat
  | .flock => Bool
  | .close_lock => Unit
  | .rtc o => o.Ans
  | .net o => o.Ans

abbrev wake_io : Sig := ⟨WakeOp, WakeOp.Ans⟩

/-- A failure is what is said after `error: `. -/
abbrev Cli (α : Type) : Type := Proc wake_io Unit String α

def wake (o : WakeOp) : Cli o.Ans := @ask wake_io Unit String o

def rtc_part : Part rtc_io wake_io := ⟨.rtc, fun _ b => b, fun _ b => b, fun _ _ => rfl⟩

def net_part : Part net_io wake_io := ⟨.net, fun _ b => b, fun _ b => b, fun _ _ => rfl⟩

def wol_part : Part wol_io net_io := ⟨.wol, fun _ b => b, fun _ b => b, fun _ _ => rfl⟩

/-- What is said of an operation that failed. -/
def operation_error (strerror : Errno → String) (error : Led.Failure) : String :=
  let text := Led.cut 255 (error.report.render strerror)
  if text = "" then "wake operation failed; state not confirmed" else text

def identity_read (strerror : Errno → String) : Cli (List UInt8) := do
  let read : Except Core.Failure (List UInt8) ← wake .identity
  lift (read.mapError fun e => Led.cut 255 (e.text strerror))

/-! ## Writing -/

def lock_path (rtc : Bool) : Text :=
  if rtc then "/run/ugreenctl-rtc.lock".toList else "/run/ugreenctl-wol.lock".toList

def lock_error (rtc : Bool) : String :=
  "cannot obtain trusted exclusive wake lock " ++ String.ofList (lock_path rtc)

/-- A trusted file that is open is locked. -/
def lock_trusted : Cli Bool := do
  let st : Option LockStat ← wake .fstat_lock
  if st.any LockStat.trusted then wake .flock else pure false

def wake_lock (rtc : Bool) : Cli Unit := do
  let fd : Bool ← wake (.open_lock (lock_path rtc))
  bail (fd = false) (lock_error rtc)
  let locked ← lock_trusted
  if locked then
    pure ()
  else do
    wake .close_lock
    fail (lock_error rtc)

/-- It is still the machine that was found first. -/
def same_machine (again : Except Core.Failure (List UInt8)) (memory : List UInt8) : Bool :=
  match again with
  | .error _ => false
  | .ok found => found = memory

/-- A write, under the lock. -/
def locked_write {α : Type} (rtc : Bool) (force : Bool) (memory : List UInt8) (operation : Cli α) :
    Cli α := do
  bail (force = false) "wake control is experimental; requires --force --apply"
  wake_lock rtc
  let again : Except Core.Failure (List UInt8) ← wake .identity
  if same_machine again memory then
    always operation (wake .close_lock)
  else do
    wake .close_lock
    fail "machine/board/BIOS identity changed before wake write"

/-- Without `--apply` nothing is done. -/
def write_request (apply : Bool) (operation : Cli String) : Cli String :=
  if apply then operation
  else pure "dry-run: wake request validated against exact model; no hardware access; use --force --apply"

/-! ## The RTC -/

/-- `ugreenctl_rtc_wake_read` -/
def wake_read (strerror : Errno → String) (profile : RtcProfile) : Power.Rtc Nat := do
  let path ← Power.select_at strerror "/sys".toList profile PATH_MAX
  Power.read_alarm strerror path

def rtc_operation {α : Type} (strerror : Errno → String) (m : Power.Rtc α) : Cli α :=
  mapError (m.via rtc_part) (operation_error strerror)

def rtc_written (epoch : Nat) : String :=
  let done := if epoch = 0 then "cleared" else "set"
  s!"RTC alarm {done}: {epoch}; interface readback verified; actual power-on unverified"

/-- An epoch that is asked for is compared with the time. -/
def check_epoch (strerror : Errno → String) (profile : RtcProfile) (epoch : Nat) : Cli Unit := do
  let now : Option Nat ← wake .time
  lift ((validate_epoch profile epoch now).mapError (operation_error strerror))

def rtc_request (strerror : Errno → String) (args : WakeArgs) (memory : List UInt8)
    (entry : RtcEntry) : RtcRequest → Cli String
  | .get => do
    let epoch ← rtc_operation strerror (wake_read strerror entry.profile)
    pure s!"{epoch}"
  | .set epoch => do
    check_epoch strerror entry.profile epoch
    write_request args.apply do
      locked_write true args.force memory
        (rtc_operation strerror ((AlarmCall.set epoch).perform strerror entry.profile))
      pure (rtc_written epoch)
  | .clear =>
    write_request args.apply do
      locked_write true args.force memory
        (rtc_operation strerror (AlarmCall.clear.perform strerror entry.profile))
      pure (rtc_written 0)

/-- The entry of the machine, which `--model` may only name. -/
def select_entry {α : Type} (entry : Option α) (key : α → ModelKey) (model : Option Text)
    (unmapped other : String) : Cli α :=
  match entry with
  | none => fail unmapped
  | some entry => do
    bail (model_option_matches model (key entry).id (key entry).product = false) other
    pure entry

def rtc_command (strerror : Errno → String) (args : WakeArgs) (request : RtcRequest) :
    Cli String := do
  let memory ← identity_read strerror
  let entry ← select_entry (rtc_match (identity_of memory)) RtcEntry.key args.model
    "RTC is not independently firmware-mapped for this exact machine"
    "selected RTC model does not match machine identity"
  rtc_request strerror args memory entry request

/-! ## Wake-on-LAN -/

def stock : List Text := ["eth0".toList, "eth1".toList]

/-- A policy is set on the stock interfaces; `first` and `second` are what the
    selections find. -/
def set_stock (strerror : Errno → String) (first second : Inventory) (entry : WolEntry)
    (policy : WolPolicy) : Network.Wol WolPolicy := do
  Network.set_policy_with_renamed_count strerror first second stock entry.automatic_pci_count policy
  pure policy

/-- What is done where `interface` is named, or none is. -/
def wol_operation (strerror : Errno → String) (first second : Inventory) (entry : WolEntry)
    (interface : Option Text) (request : WolRequest) : Net WolPolicy :=
  match interface, request with
  | some name, .get => wol_interface strerror entry name false .unknown
  | some name, .set policy => wol_interface strerror entry name true policy
  | none, .get =>
    (Network.read_policy_with_renamed_count strerror first stock entry.automatic_pci_count).via wol_part
  | none, .set policy => (set_stock strerror first second entry policy).via wol_part

def wol_call (strerror : Errno → String) (first second : Inventory) (entry : WolEntry)
    (interface : Option Text) (request : WolRequest) : Cli WolPolicy :=
  mapError ((wol_operation strerror first second entry interface request).via net_part)
    (operation_error strerror)

def policy_name (policy : WolPolicy) : String := if policy = .on then "on" else "off"

def wol_written (policy : WolPolicy) : String :=
  s!"WOL {policy_name policy}; driver readback verified; shutdown wake unverified"

def wol_request (strerror : Errno → String) (first second : Inventory) (args : WakeArgs)
    (memory : List UInt8) (entry : WolEntry) : WolRequest → Cli String
  | .get => do
    let policy ← wol_call strerror first second entry args.interface .get
    pure (policy_name policy)
  | .set policy =>
    write_request args.apply do
      let policy ← locked_write false args.force memory
        (wol_call strerror first second entry args.interface (.set policy))
      pure (wol_written policy)

def wol_command (strerror : Errno → String) (first second : Inventory) (args : WakeArgs)
    (request : WolRequest) : Cli String := do
  let memory ← identity_read strerror
  let entry ← select_entry (wol_match (identity_of memory)) WolEntry.key args.model
    "WOL is not firmware-mapped for this exact machine"
    "selected WOL model does not match machine identity"
  bail (args.interface = none ∧ entry.automatic_pci_count = 0)
    "automatic NIC mapping is unconfirmed; specify --interface <physical-ethernet-name>"
  wol_request strerror first second args memory entry request

/-! ## The command line -/

def rtc_models : List String :=
  rtc_profiles.map fun entry =>
    s!"{entry.key.id}\t{entry.key.product}\trtc={String.ofList entry.profile.rtc_name}\tfirmware-evidence; actual wake unverified"

def wol_models : List String :=
  wol_profiles.map fun entry =>
    let wol :=
      if entry.automatic_pci_count = 0 then "explicit-interface-required" else "automatic-or-explicit"
    s!"{entry.key.id}\t{entry.key.product}\twol={wol}\tactual wake unverified"

/-- `ugreenctl_wake_cli`, with what it prints; `none` where it is not for it.
    `argv` is without the name of the program. -/
def wake_cli (strerror : Errno → String) (first second : Inventory) (argv : List Text) :
    Cli (Option (List String)) :=
  match find_subsystem argv with
  | none => pure none
  | some rtc => do
    let args ← lift (parse_args {} argv)
    let request ← lift (wake_request rtc args)
    match request with
    | .models => pure (some (if rtc then rtc_models else wol_models))
    | .rtc request => do
      let line ← rtc_command strerror args request
      pure (some [line])
    | .wol request => do
      let line ← wol_command strerror first second args request
      pure (some [line])

end UgreenNas.Wake
