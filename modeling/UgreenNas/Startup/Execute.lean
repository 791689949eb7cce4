import UgreenNas.Startup.Store

/-! # The coordinator (`LinuxRuntime`, `Backend`, `execute`, `main`)

    A run that writes takes the lock, reads the saved record again, reads
    the policy and the identity, asks `ugreenctl` to set the policy, and
    only then confirms it and saves the record.  `main` prints the result,
    or a report made from what was raised.
-/

namespace UgreenNas.Startup

open Effect Effect.Proc

variable {κ : Type}

/-! ## `LinuxRuntime` -/

def require_root : Py κ Unit := do
  let platform : String ← io .platform
  bail (platform ≠ "linux") (.startup (startup_error "this optional Python helper runs only on Linux"))
  let euid : Nat ← io .geteuid
  bail (euid ≠ 0) (.startup (startup_error "startup state operations require root"))

/-- A DMI field without its newline. -/
def dmi_text (data : List UInt8) : Except StartupError String :=
  match decode_utf8 (if data.getLast? = some 10 then data.dropLast else data) with
  | some text => .ok text
  | none => .error (startup_error "DMI identity is not UTF-8")

def identity_fields : List String → Py κ Identity
  | [] => pure []
  | field :: fields => do
    let r : Except OsError (List UInt8) ← io (.read_dmi field (MAX_DMI_BYTES + 2))
    let data ← os r
    let text ← check (dmi_text data)
    let rest ← identity_fields fields
    return (field, text) :: rest

/-- `validate_identity(runtime.identity())`, which validates twice. -/
def observe_identity : Py κ Identity := do
  let fields ← identity_fields IDENTITY_FIELDS
  let identity ← check (validate_identity (Identity.value fields))
  check (validate_identity (Identity.value identity))

/-! ## `Backend` -/

/-- The command line in front of every operation. -/
structure Backend where
  front : List String

def Backend.new (binary : String) (plugin_dir : Option String) : Except StartupError Backend := do
  let _ ← absolute_parts binary
  match plugin_dir with
  | none => return ⟨[binary]⟩
  | some plugin_dir =>
    let _ ← absolute_parts plugin_dir
    return ⟨[binary, "--plugin-dir", plugin_dir]⟩

/-- What is raised where an operation may have been done in part: nobody
    knows what was written, but a write was attempted. -/
def backend_failed (message : String) (write : Bool) : PyError :=
  .startup (.new message (if write then none else some false) false write)

/-- `Backend._run` -/
def backend_run (backend : Backend) (tail : List String) (write : Bool) : Py κ (List UInt8) := do
  let command := backend.front ++ (if write then ["--force", "--apply"] else []) ++ tail
  let r : Except String Completed ← io (.run command)
  match r with
  | .error text => fail (backend_failed ("ugreenctl execution failed: " ++ text) write)
  | .ok result =>
    bail (result.returncode ≠ 0) (backend_failed
      ("ugreenctl rejected the operation (exit " ++ toString result.returncode ++ ")") write)
    return result.stdout

/-- The policy that `ugreenctl` printed. -/
def policy_of (values : List String) (data : List UInt8) : Option String :=
  values.find? fun value => data = encode_utf8 value || data = encode_utf8 (value ++ "\n")

def backend_get (backend : Backend) (allow_unknown : Bool) : Py κ String := do
  let data ← backend_run backend ["power", "startup", "get"] false
  match policy_of (POLICIES ++ if allow_unknown then ["unknown"] else []) data with
  | some value => return value
  | none => refuse "ugreenctl returned an unknown or malformed startup policy"

def backend_set (backend : Backend) (policy : String) : Py κ Unit := do
  let _ ← backend_run backend ["power", "startup", "set", policy] true

/-! ## `execute` -/

/-- The command line of `execute`: a policy for `set`, none for the others. -/
def requested_policy (command : String) (policy : Option String) :
    Except StartupError (Option String) :=
  if command = "set" then
    let policy := if policy = some "last" then some "restore" else policy
    match policy with
    | some wanted =>
      if wanted ∈ POLICIES then .ok (some wanted)
      else .error (startup_error "set requires on, off, restore, or last")
    | none => .error (startup_error "set requires on, off, restore, or last")
  else if (command ≠ "apply" ∧ command ≠ "show") ∨ policy.isSome then
    .error (startup_error "invalid command or policy")
  else
    .ok none

/-- The dictionary `result`, before anything was done. -/
def initial_result (command : String) (writing : Bool) : Result where
  schema_version := SCHEMA_VERSION
  command := command
  dry_run := !writing
  hardware_written := false
  hardware_write_attempted := false
  state_saved := false
  current_hardware_policy := "not_read"
  configured := false
  desired_policy := none
  action := "no_saved_policy"
  preview := none

def identity_changed : String :=
  "DMI/BIOS identity changed; administrator must explicitly set again"

/-- A run that does not write. -/
def preview (command : String) (policy : Option String) (result : Result)
    (saved : Option Record) : Py κ Result := do
  let identity ← observe_identity
  let same := match saved with
    | none => true
    | some record => record.identity = identity
  bail (command = "apply" ∧ same = false) (.startup (startup_error identity_changed))
  return { result with
    configured := saved.isSome
    desired_policy := saved.map Record.desired_policy
    action := if command = "show" then "show_saved_desire" else "would_set_and_verify"
    preview := some {
      requested_policy := if command = "set" then policy else none
      identity_matches := same
      observed_identity := identity
      saved_identity := saved.map Record.identity } }

/-- What follows the write: the policy read back, once everything about it
    is confirmed and, for `set`, saved. -/
def confirm (json : Json) (backend : Backend) (directory : Fd .directory) (command wanted : String)
    (identity : Identity) : Py κ String := do
  let readback ← backend_get backend false
  bail (readback ≠ wanted)
    (.startup (startup_error "startup policy readback does not match the desired policy"))
  let again ← observe_identity
  bail (again ≠ identity) (.startup (startup_error "DMI/BIOS identity changed after the write"))
  if command = "set" then
    save json directory ⟨SCHEMA_VERSION, wanted, identity⟩
  else
    pure ()
  return readback

/-- `getattr(error, "persistence_uncertain", False)` -/
def PyError.persistence_uncertain : PyError → Bool
  | .startup error => error.persistence_uncertain
  | .os _ => false

/-- A failure behind the write. -/
def unconfirmed (error : PyError) : PyError :=
  .startup (.new ("hardware was written but the operation was not confirmed/saved: " ++ error.str)
    (some true) error.persistence_uncertain false)

/-- The write and its confirmation. -/
def set_and_verify (json : Json) (backend : Backend) (directory : Fd .directory) (command wanted : String)
    (identity : Identity) (result : Result) : Py κ Result := do
  backend_set backend wanted
  let readback ← mapError (confirm json backend directory command wanted identity) unconfirmed
  return { result with
    configured := true
    desired_policy := some wanted
    hardware_written := true
    state_saved := command = "set"
    hardware_write_attempted := true
    current_hardware_policy := readback
    action := "set_and_verified" }

/-- What a run that writes checks under the lock, and the policy it wants;
    `none` where there is no record to apply. -/
def prepare (json : Json) (backend : Backend) (directory : Fd .directory) (command : String)
    (policy : Option String) : Py κ (Option (String × Identity)) := do
  -- another administrator may have set since
  let saved ← load json directory
  let desired := if command = "set" then policy else saved.map Record.desired_policy
  match desired with
  | none => return none
  | some wanted =>
    let identity ← observe_identity
    bail (command = "apply" ∧ saved.map Record.identity ≠ some identity)
      (.startup (startup_error identity_changed))
    let _ ← backend_get backend true
    let again ← observe_identity
    bail (again ≠ identity) (.startup (startup_error "DMI/BIOS identity changed before the write"))
    return some (wanted, identity)

/-- What a run that writes does under the lock. -/
def write_locked (json : Json) (backend : Backend) (directory : Fd .directory) (command : String)
    (policy : Option String) (result : Result) : Py κ Result := do
  let prepared ← prepare json backend directory command policy
  match prepared with
  | none => return result
  | some (wanted, identity) =>
    set_and_verify json backend directory command wanted identity result

/-- What is done in the state directory.  Only a run that writes has a
    backend, and `open` has created its directory for `set`. -/
def in_directory (json : Json) (writer : Option Backend) (command : String)
    (policy : Option String) (result : Result) (directory : Option (Fd .directory)) : Py Unit Result := do
  let saved ← match directory with
    | some fd => load json fd
    | none => pure none
  if saved.isNone ∧ command ≠ "set" then
    return result
  else
    match writer, directory with
    | some backend, some fd =>
      locked fd (write_locked json backend fd command policy result)
    | _, _ => preview command policy result saved

def execute (json : Json) (command : String) (policy : Option String) (force apply : Bool)
    (state_dir : String) (backend : Option Backend) : Py Unit Result := do
  require_root
  bail (force ≠ apply) (.startup (startup_error "writes require --force and --apply together"))
  let writing := force && apply && command ≠ "show"
  let policy ← check (requested_policy command policy)
  bail (writing = true ∧ backend.isNone = true)
    (.startup (startup_error "--binary requires an absolute ugreenctl executable path"))
  store_open state_dir (writing && command = "set")
    (in_directory json (if writing then backend else none) command policy
      (initial_result command writing))

/-! ## `main` -/

structure Args where
  command : String
  policy : Option String
  binary : Option String
  plugin_dir : Option String
  state_dir : String
  force : Bool
  apply : Bool

/-- The truth of an optional text. -/
def given (text : Option String) : Bool := text.getD "" ≠ ""

/-- `Backend(args.binary, args.plugin_dir) if args.binary else None` -/
def Args.backend (args : Args) : Except StartupError (Option Backend) :=
  match args.binary with
  | some binary =>
    if binary = "" then .ok none else (Backend.new binary args.plugin_dir).map some
  | none => .ok none

/-- The `try` of `main`. -/
def main_steps (json : Json) (args : Args) : Py Unit Result := do
  let backend ← check args.backend
  bail (given args.plugin_dir = true ∧ given args.binary = false)
    (.startup (startup_error "--plugin-dir requires --binary"))
  let result ← execute json args.command args.policy args.force args.apply args.state_dir backend
  let r : Except OsError Unit ← io (.print_result result)
  os r
  return result

/-- The dictionary that `main` prints for an error. -/
structure Report where
  error : String
  hardware_written : Option Bool
  hardware_write_attempted : Bool
  hardware_may_have_changed : Bool
  state_saved : Bool
  persistence_uncertain : Bool
  deriving DecidableEq, Repr

/-- An `OSError` has none of the flags. -/
def PyError.report (error : PyError) : Report where
  error := error.str
  hardware_written := match error with
    | .startup error => error.hardware_written
    | .os _ => some false
  hardware_write_attempted := match error with
    | .startup error => error.hardware_write_attempted
    | .os _ => false
  hardware_may_have_changed := match error with
    | .startup error => error.hardware_write_attempted
    | .os _ => false
  state_saved := false
  persistence_uncertain := error.persistence_uncertain

/-- A run of the script: the result it printed, or its report. -/
def main (json : Json) (args : Args) : Prog startup (Except Report Result) :=
  ((main_steps json args).run ()).bind fun r => .pure (r.1.mapError PyError.report)

end UgreenNas.Startup
