import UgreenNas.Effect.Finally
import UgreenNas.Startup.State

/-! # The state store (`LinuxStateStore`, `StateDirectory`)

    The state lives in one directory.  Every access to it is relative to a
    descriptor whose file was checked: root's, and closed to others.  Two
    context managers surround what is done there, `open` for the directory
    and `locked` for the lock file in it.
-/

namespace UgreenNas.Startup

open Effect Effect.Proc

/-! ## Operations -/

/-- What a file is opened for, which fixes the flags and the mode. -/
inductive Purpose where
  /-- `O_RDONLY | O_DIRECTORY | O_NOFOLLOW | O_CLOEXEC` -/
  | directory
  /-- `O_RDWR | O_CREAT | O_NOFOLLOW | O_CLOEXEC | O_NONBLOCK`, 0600 -/
  | lock
  /-- `O_RDONLY | O_NOFOLLOW | O_CLOEXEC | O_NONBLOCK` -/
  | state
  /-- `O_WRONLY | O_CREAT | O_EXCL | O_NOFOLLOW | O_CLOEXEC`, 0600 -/
  | temporary
  deriving DecidableEq, Repr

structure Fd (purpose : Purpose) where
  number : Nat
  deriving DecidableEq, Repr

structure StatResult where
  st_mode : Nat
  st_uid : Nat
  st_nlink : Nat
  st_size : Nat
  deriving DecidableEq, Repr

/-- `LOCK_EX | LOCK_NB` and `LOCK_UN`. -/
inductive LockOperation where
  | exclusive
  | unlock
  deriving DecidableEq, Repr

/-- `subprocess.CompletedProcess` -/
structure Completed where
  returncode : Int
  stdout : List UInt8
  deriving DecidableEq, Repr

inductive StartupOp where
  | platform
  | geteuid
  | open_file (purpose : Purpose) (name : String) (dir_fd : Option (Fd .directory))
  | mkdir (name : String) (mode : Nat) (dir_fd : Fd .directory)
  | fsync (purpose : Purpose) (fd : Fd purpose)
  | close (purpose : Purpose) (fd : Fd purpose)
  | fstat (purpose : Purpose) (fd : Fd purpose)
  | flock (fd : Fd .lock) (operation : LockOperation)
  | read (fd : Fd .state) (size : Nat)
  | write (fd : Fd .temporary) (data : List UInt8)
  | replace (source target : String) (dir_fd : Fd .directory)
  | unlink (name : String) (dir_fd : Fd .directory)
  | token_hex (size : Nat)
  /-- Open, read and close a file of `/sys/class/dmi/id`. -/
  | read_dmi (field : String) (size : Nat)
  /-- The runner: it fails with an `OSError` or with `TimeoutExpired`. -/
  | run (command : List String)
  | print_result (result : Result)

@[reducible] def StartupOp.Ans : StartupOp → Type
  | .platform => String
  | .geteuid => Nat
  | .open_file _ _ _ => Except OsError Nat
  | .mkdir _ _ _ => Except OsError Unit
  | .fsync _ _ => Except OsError Unit
  | .close _ _ => Except OsError Unit
  | .fstat _ _ => Except OsError StatResult
  | .flock _ _ => Except OsError Unit
  | .read _ _ => Except OsError (List UInt8)
  | .write _ _ => Except OsError Nat
  | .replace _ _ _ => Except OsError Unit
  | .unlink _ _ => Except OsError Unit
  | .token_hex _ => String
  | .read_dmi _ _ => Except OsError (List UInt8)
  | .run _ => Except String Completed
  | .print_result _ => Except OsError Unit

abbrev startup : Sig := ⟨StartupOp, StartupOp.Ans⟩

/-- A procedure with the local variables `κ`. -/
abbrev Py (κ α : Type) : Type := Proc startup κ PyError α

variable {κ α : Type} {purpose : Purpose}

def io (o : StartupOp) : Py κ o.Ans := @ask startup κ PyError o

/-- Raise the `OSError` of a call. -/
def os (r : Except OsError α) : Py κ α := lift (r.mapError .os)

/-- Raise a `StartupError`. -/
def check (r : Except StartupError α) : Py κ α := lift (r.mapError .startup)

/-- `raise StartupError(message)` -/
def refuse (message : String) : Py κ α := fail (.startup (startup_error message))

def os_open (purpose : Purpose) (name : String) (dir_fd : Option (Fd .directory)) :
    Py κ (Fd purpose) := do
  let r : Except OsError Nat ← io (.open_file purpose name dir_fd)
  let number ← os r
  return ⟨number⟩

def os_close (fd : Fd purpose) : Py κ Unit := do
  let r : Except OsError Unit ← io (.close purpose fd)
  os r

def os_fsync (fd : Fd purpose) : Py κ Unit := do
  let r : Except OsError Unit ← io (.fsync purpose fd)
  os r

def os_fstat (fd : Fd purpose) : Py κ StatResult := do
  let r : Except OsError StatResult ← io (.fstat purpose fd)
  os r

def os_mkdir (name : String) (mode : Nat) (dir_fd : Fd .directory) : Py κ Unit := do
  let r : Except OsError Unit ← io (.mkdir name mode dir_fd)
  os r

def os_flock (fd : Fd .lock) (operation : LockOperation) : Py κ Unit := do
  let r : Except OsError Unit ← io (.flock fd operation)
  os r

def os_read (fd : Fd .state) (size : Nat) : Py κ (List UInt8) := do
  let r : Except OsError (List UInt8) ← io (.read fd size)
  os r

def os_write (fd : Fd .temporary) (data : List UInt8) : Py κ Nat := do
  let r : Except OsError Nat ← io (.write fd data)
  os r

def os_replace (source target : String) (dir_fd : Fd .directory) : Py κ Unit := do
  let r : Except OsError Unit ← io (.replace source target dir_fd)
  os r

def os_unlink (name : String) (dir_fd : Fd .directory) : Py κ Unit := do
  let r : Except OsError Unit ← io (.unlink name dir_fd)
  os r

/-! ## Checks -/

/-- `_check_directory` -/
def check_directory (info : StatResult) (is_private : Bool) : Except StartupError Unit :=
  if info.st_mode &&& 0o170000 ≠ 0o040000 || info.st_uid ≠ 0 ||
      info.st_mode &&& (if is_private then 0o077 else 0o022) ≠ 0 then
    .error (startup_error ("state path must be root-owned and not writable by others; " ++
      "the state directory must be private (0700)"))
  else
    .ok ()

/-- `stat.S_IMODE` -/
def s_imode (mode : Nat) : Nat := mode &&& 0o7777

/-- `_check_regular` -/
def check_regular (info : StatResult) (label : String) : Except StartupError Unit :=
  if info.st_mode &&& 0o170000 ≠ 0o100000 || info.st_uid ≠ 0 || info.st_nlink ≠ 1 ||
      s_imode info.st_mode ∉ [0o400, 0o600] then
    .error (startup_error
      (label ++ " must be a root-owned regular single-link file (0600/0400)"))
  else
    .ok ()

/-! ## `LinuxStateStore.open` -/

/-- `except` with a subclass of `OSError`. -/
def PyError.is_a (kind : OsErrorKind) : PyError → Bool
  | .startup _ => false
  | .os error => error.kind = kind

/-- The directory `part` of the directory `fd`; `none` where it is missing
    and not to be created. -/
def open_component (create : Bool) (part : String) (fd : Fd .directory) :
    Py κ (Option (Fd .directory)) :=
  recover (do
    let child ← os_open .directory part (some fd)
    return some child) fun error =>
      if error.is_a .file_not_found then
        if create then do
          recover (do
            os_mkdir part 0o700 fd
            os_fsync fd) fun error => if error.is_a .file_exists then pure () else fail error
          let child ← os_open .directory part (some fd)
          return some child
        else
          pure none
      else
        fail error

/-- The way down from `fd`, which the variable `fd` of `open` follows. -/
def open_parts (create : Bool) :
    List String → Fd .directory → Py (Option (Fd .directory)) (Option (Fd .directory))
  | [], fd => pure (some fd)
  | part :: parts, fd => do
    let child ← open_component create part fd
    match child with
    | none =>
      os_close fd
      update fun _ => none
      return none
    | some child =>
      os_close fd
      update fun _ => some child
      let info ← os_fstat child
      check (check_directory info false)
      open_parts create parts child

/-- The directory that `open` yields. -/
def open_directory (create : Bool) (parts : List String) :
    Py (Option (Fd .directory)) (Option (Fd .directory)) := do
  let fd ← os_open .directory "/" none
  update fun _ => some fd
  let info ← os_fstat fd
  check (check_directory info false)
  let directory ← open_parts create parts fd
  match directory with
  | none => return none
  | some fd =>
    let info ← os_fstat fd
    check (check_directory info true)
    return some fd

/-- `except OSError as error: raise StartupError(...)`, which passes a
    `StartupError` on. -/
def inaccessible : PyError → PyError
  | .os error => .startup (startup_error ("unsafe or inaccessible state path: " ++ error.text))
  | .startup error => .startup error

/-- `if fd is not None: api.close(fd)` -/
def close_some (fd : Option (Fd purpose)) : Py κ Unit :=
  match fd with
  | none => pure ()
  | some fd => os_close fd

/-- `with store.open(create) as directory: body` -/
def store_open (path : String) (create : Bool) (body : Option (Fd .directory) → Py Unit α) :
    Py Unit α := do
  let parts ← check (absolute_parts path)
  block none (always
    (mapError (do
      let directory ← open_directory create parts
      block () (body directory)) inaccessible)
    (do
      let fd ← ctx
      close_some fd))

/-! ## `StateDirectory` -/

/-- A lock that somebody else holds is no `OSError` any more. -/
def lock_held (error : PyError) : PyError :=
  if error.is_a .blocking then
    .startup (startup_error "another startup-policy operation holds the lock")
  else
    error

/-- Check the lock file and lock it; the variable is `acquired`. -/
def acquire (fd : Fd .lock) : Py Bool Unit := do
  let info ← os_fstat fd
  check (check_regular info "lock")
  bail (s_imode info.st_mode ≠ 0o600) (.startup (startup_error "lock must have mode 0600"))
  mapError (os_flock fd .exclusive) lock_held
  update fun _ => true

/-- The two `finally` clauses of `locked`. -/
def unlock (fd : Fd .lock) : Py Bool Unit :=
  always
    (do
      let acquired ← ctx
      if acquired then os_flock fd .unlock else pure ())
    (os_close fd)

/-- `with directory.locked(): body` -/
def locked (directory : Fd .directory) (body : Py Unit α) : Py Unit α := do
  let fd ← os_open .lock LOCK_FILE (some directory)
  block false (always
    (do
      acquire fd
      block () body)
    (unlock fd))

/-- The loop of `load`.  Every chunk has a byte at least, so that no more
    than `MAX_STATE_BYTES + 1` rounds are made. -/
def read_chunks (fd : Fd .state) : Nat → List UInt8 → Py κ (List UInt8)
  | 0, data => pure data
  | rounds + 1, data =>
    if data.length ≤ MAX_STATE_BYTES then do
      let chunk ← os_read fd (MAX_STATE_BYTES + 1 - data.length)
      if chunk.isEmpty then pure data else read_chunks fd rounds (data ++ chunk)
    else
      pure data

/-- What `load` does with its descriptor. -/
def read_record (json : Json) (fd : Fd .state) : Py κ Record := do
  let info ← os_fstat fd
  check (check_regular info "state")
  bail (info.st_size = 0 ∨ info.st_size > MAX_STATE_BYTES)
    (.startup (startup_error "state is empty or exceeds 4096 bytes"))
  let data ← read_chunks fd (MAX_STATE_BYTES + 1) []
  let after ← os_fstat fd
  check (check_regular after "state")
  bail (after.st_size ≠ data.length ∨ info.st_size ≠ after.st_size)
    (.startup (startup_error "state changed while being read"))
  check (decode_state json data)

def load (json : Json) (directory : Fd .directory) : Py κ (Option Record) := do
  let opened : Except PyError (Fd .state) ← attempt (os_open .state STATE_FILE (some directory))
  match opened with
  | .error error => if error.is_a .file_not_found then pure none else fail error
  | .ok fd =>
    let record ← always (read_record json fd) (os_close fd)
    return some record

/-- The loop of `save`.  Every round writes a byte at least. -/
def write_data (fd : Fd .temporary) : Nat → List UInt8 → Py κ Unit
  | 0, _ => pure ()
  | rounds + 1, data =>
    if data.isEmpty then
      pure ()
    else do
      let written ← os_write fd data
      bail (written = 0) (.os ⟨.other, "short state write"⟩)
      write_data fd rounds (data.drop written)

/-- The variables of `save`. -/
structure Saving where
  fd : Option (Fd .temporary)
  replaced : Bool

/-- The checked temporary file gets its contents. -/
def fill_temporary (fd : Fd .temporary) (data : List UInt8) : Py κ Unit := do
  let info ← os_fstat fd
  check (check_regular info "temporary state")
  write_data fd data.length data
  os_fsync fd
  let info ← os_fstat fd
  check (check_regular info "temporary state")

/-- The `try` of `save`. -/
def replace_state (directory : Fd .directory) (name : String) (data : List UInt8) :
    Py Saving Unit := do
  let fd ← os_open .temporary name (some directory)
  update fun saving => { saving with fd := some fd }
  fill_temporary fd data
  os_close fd
  update fun saving => { saving with fd := none }
  os_replace name STATE_FILE directory
  update fun saving => { saving with replaced := true }
  os_fsync directory

/-- Its `except`. -/
def saving_failed (error : PyError) : Py Saving Unit := do
  let saving ← ctx
  fail (.startup (.new
    ("hardware was written, but saving the desired policy failed: " ++ error.str)
    (some true) saving.replaced false))

/-- Its `finally`: a leftover that cannot be removed is left. -/
def discard_temporary (directory : Fd .directory) (name : String) : Py Saving Unit := do
  let saving ← ctx
  close_some saving.fd
  if saving.replaced then
    pure ()
  else
    recover (os_unlink name directory) fun _ => pure ()

def save (json : Json) (directory : Fd .directory) (record : Record) : Py κ Unit := do
  let data := encode_utf8 (json.dumps record.value ++ "\n")
  let _ ← check (decode_state json data)
  -- refuse an unsafe replacement target even if it changed since
  let _ ← load json directory
  let token : String ← io (.token_hex 16)
  let name := ".startup-" ++ token ++ ".tmp"
  block ⟨none, false⟩ (always
    (recover (replace_state directory name data) saving_failed)
    (discard_temporary directory name))

end UgreenNas.Startup
