import Mathlib.Data.List.Basic

/-! # Startup records (`scripts/ugreenctl-startup.py`)

    The helper keeps the administrator's desired startup policy in a JSON
    record, together with the DMI identity of the machine it is meant for.
    The JSON library and its hooks are a parameter.
-/

namespace UgreenNas.Startup

/-! ## Errors -/

/-- The subclasses of `OSError` that the script tells apart. -/
inductive OsErrorKind where
  | file_not_found
  | file_exists
  | blocking
  | other
  deriving DecidableEq, Repr

/-- An `OSError`, with its `str`. -/
structure OsError where
  kind : OsErrorKind
  text : String
  deriving DecidableEq, Repr

/-- `class StartupError`; `hardware_written` is `None` where nobody knows. -/
structure StartupError where
  message : String
  hardware_written : Option Bool
  persistence_uncertain : Bool
  hardware_write_attempted : Bool
  deriving DecidableEq, Repr

/-- `StartupError.__init__`: what was written was attempted. -/
def StartupError.new (message : String) (hardware_written : Option Bool)
    (persistence_uncertain hardware_write_attempted : Bool) : StartupError where
  message := message
  hardware_written := hardware_written
  persistence_uncertain := persistence_uncertain
  hardware_write_attempted := hardware_write_attempted || hardware_written = some true

/-- `StartupError(message)` -/
def startup_error (message : String) : StartupError := .new message (some false) false false

/-- The exceptions that `main` catches. -/
inductive PyError where
  | startup (error : StartupError)
  | os (error : OsError)
  deriving DecidableEq, Repr

/-- `str(error)` -/
def PyError.str : PyError → String
  | .startup error => error.message
  | .os error => error.text

/-! ## JSON -/

/-- A decoded value, as far as the script looks into it.  A text that has no
    UTF-8 encoding (a lone surrogate) is among the others: it is no policy,
    and `_text` refuses it like a value of another type. -/
inductive Value where
  | dict (pairs : List (String × Value))
  | int (n : Int)
  | str (text : String)
  | other

/-- The `json` module.  `loads` takes the hooks for objects and for
    non-finite numbers; it fails with what a hook raises, or with a
    `ValueError` or `RecursionError` of its own (`none`). -/
structure Json where
  loads : (List (String × Value) → Except StartupError Value) →
    (String → Except StartupError Value) → String → Except (Option StartupError) Value
  dumps : Value → String

/-! ## Identity -/

def SCHEMA_VERSION : Int := 1
def MAX_STATE_BYTES : Nat := 4096
def MAX_DMI_BYTES : Nat := 256
def STATE_FILE : String := "desired-policy.json"
def LOCK_FILE : String := "startup.lock"
def POLICIES : List String := ["on", "off", "restore"]

def IDENTITY_FIELDS : List String :=
  ["product_name", "product_version", "board_version", "bios_vendor", "bios_version", "bios_date"]

/-- The values of `IDENTITY_FIELDS`, under their names and in their order. -/
abbrev Identity : Type := List (String × String)

/-- `_text` -/
def text_field (value : Value) (name : String) (allow_empty : Bool) : Except StartupError String :=
  match value with
  | .str text =>
    if text.utf8ByteSize > MAX_DMI_BYTES || (!allow_empty && text.isEmpty) ||
        text.toList.any fun c => c.toNat < 32 || c.toNat = 127 then
      .error (startup_error ("invalid identity field: " ++ name))
    else
      .ok text
  | _ => .error (startup_error ("invalid identity field: " ++ name))

/-- `set(record) == set(names)` -/
def has_keys (pairs : List (String × Value)) (names : List String) : Bool :=
  (pairs.all fun pair => pair.1 ∈ names) && names.all fun name => name ∈ pairs.map Prod.fst

def validate_identity (identity : Value) : Except StartupError Identity :=
  match identity with
  | .dict pairs =>
    if has_keys pairs IDENTITY_FIELDS then
      IDENTITY_FIELDS.mapM fun name => do
        let text ← text_field ((pairs.lookup name).getD .other) name (name ≠ "product_name")
        return (name, text)
    else
      .error (startup_error "state requires the exact DMI/BIOS identity fields")
  | _ => .error (startup_error "state requires the exact DMI/BIOS identity fields")

/-! ## Records -/

structure Record where
  schema_version : Int
  desired_policy : String
  identity : Identity

def Identity.value (identity : Identity) : Value :=
  .dict (identity.map fun (name, text) => (name, .str text))

/-- The dictionary that `execute` saves. -/
def Record.value (record : Record) : Value :=
  .dict [("schema_version", .int record.schema_version),
    ("desired_policy", .str record.desired_policy), ("identity", record.identity.value)]

/-- `_unique_object` -/
def unique_object (pairs : List (String × Value)) : Except StartupError Value := do
  let result ← pairs.foldlM (fun result pair =>
    if pair.1 ∈ result.map Prod.fst then
      .error (startup_error ("duplicate JSON key: " ++ pair.1))
    else
      .ok (result ++ [pair])) ([] : List (String × Value))
  return .dict result

/-- `_reject_constant` -/
def reject_constant (value : String) : Except StartupError Value :=
  .error (startup_error ("non-finite JSON number is not allowed: " ++ value))

/-- The checks of `decode_state` behind the parser. -/
def check_record (record : Value) : Except StartupError Record :=
  match record with
  | .dict pairs =>
    match has_keys pairs ["schema_version", "desired_policy", "identity"],
      pairs.lookup "schema_version" with
    | true, some (.int version) =>
      if version ≠ SCHEMA_VERSION then
        .error (startup_error "unsupported or malformed startup state schema")
      else
        match pairs.lookup "desired_policy" with
        | some (.str policy) =>
          if policy ∉ POLICIES then
            .error (startup_error "invalid saved desired_policy")
          else do
            let identity ← validate_identity ((pairs.lookup "identity").getD .other)
            return ⟨version, policy, identity⟩
        | _ => .error (startup_error "invalid saved desired_policy")
    | _, _ => .error (startup_error "unsupported or malformed startup state schema")
  | _ => .error (startup_error "unsupported or malformed startup state schema")

/-- `data.decode("utf-8")` -/
def decode_utf8 (data : List UInt8) : Option String := String.fromUTF8? ⟨data.toArray⟩

/-- `text.encode("utf-8")` -/
def encode_utf8 (text : String) : List UInt8 := text.toUTF8.data.toList

def decode_state (json : Json) (data : List UInt8) : Except StartupError Record :=
  if data.isEmpty || data.length > MAX_STATE_BYTES then
    .error (startup_error "state is empty or exceeds 4096 bytes")
  else
    match decode_utf8 data with
    | none => .error (startup_error "invalid state JSON")
    | some text =>
      match json.loads unique_object reject_constant text with
      | .error none => .error (startup_error "invalid state JSON")
      | .error (some error) => .error error
      | .ok record => check_record record

/-- `_absolute_parts` -/
def absolute_parts (path : String) : Except StartupError (List String) :=
  match path.toList with
  | '/' :: rest =>
    if '\x00' ∈ rest then
      .error (startup_error "an absolute Linux path is required")
    else
      let parts := (rest.splitOn '/').map String.ofList
      if parts.any fun part => part = "" || part = "." || part = ".." then
        .error (startup_error "path must contain only explicit nonempty components")
      else
        .ok parts
  | _ => .error (startup_error "an absolute Linux path is required")

/-! ## Results -/

/-- What the dictionary of a run without writes tells in addition. -/
structure Preview where
  requested_policy : Option String
  identity_matches : Bool
  observed_identity : Identity
  saved_identity : Option Identity

/-- The dictionary that `execute` returns. -/
structure Result where
  schema_version : Int
  command : String
  dry_run : Bool
  hardware_written : Bool
  hardware_write_attempted : Bool
  state_saved : Bool
  current_hardware_policy : String
  configured : Bool
  desired_policy : Option String
  action : String
  preview : Option Preview

end UgreenNas.Startup
