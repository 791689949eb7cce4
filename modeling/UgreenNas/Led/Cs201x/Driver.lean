import UgreenNas.Led.Cs201x.Device

/-! # The CS2011 transport (`led/led_cs201x.c`)

    The functions of the transport, translated one by one.  A function that
    fails below the level of reports fails with an `Errno`; one that writes
    to its caller's error buffer fails with a `Failure`.
-/

namespace UgreenNas.Led.Cs201x

open Effect Effect.Proc

/-! ## The context -/

/-- What the guards keep up to date. -/
structure Link where
  identity : Identity := {}
  base : Nat := 0
  chip_id : Nat := 0
  revision : Nat := 0
  locked : Bool := false
  config_permission : Bool := false
  runtime_permission : Bool := false
  confirmed : Bool := false

/-- What a holder and its sessions remember. -/
structure Memory where
  access : Access
  holder : Bool
  restore_pending : Bool := false
  identify_saved : Bool := false
  original_flow : UInt8 := 0
  identify_id : Nat := 0
  original : Nat → Raw := fun _ _ => 0
  identify_original : Raw := fun _ => 0
  client_pid : Nat := 0

/-- `struct ugreenctl_led_cs201x` -/
structure Context extends Link, Memory

/-- The functions that report only an error number. -/
abbrev Io (α : Type) : Type := Proc cs_io Context Errno α

/-- The functions that write to an error buffer. -/
abbrev Fun (α : Type) : Type := Proc cs_io Context Failure α

/-! ## Ports -/

/-- One operation of `c->io`. -/
def io {ε : Type} (o : CsOp) : Proc cs_io Context ε o.Ans := @ask cs_io Context ε o

def pause_ms {ε : Type} (milliseconds : Nat) : Proc cs_io Context ε Unit := do
  let _ ← io (CsOp.pause_ms milliseconds)

def port_write (port : Nat) (value : UInt8) : Io Unit := do
  let r : Except Errno Unit ← io (CsOp.write_port port value)
  lift r

def port_read (port : Nat) : Io UInt8 := do
  let r : Except Errno UInt8 ← io (CsOp.read_port port)
  lift r

def owners (base : Nat) : Io Unit := do
  let c ← ctx
  let r : Except Errno Unit ← io (CsOp.owners base c.client_pid)
  lift r

def permission (port count : Nat) (enable : Bool) : Io Unit := do
  let r : Except Errno Unit ← io (CsOp.permission port count enable)
  lift r

def lock : Io Unit := do
  let r : Except Errno Unit ← io CsOp.lock
  lift r

def detect : Fun Identity := do
  let r : Except (Errno × String) Identity ← io CsOp.detect
  lift (r.mapError fun e => failure e.1 e.2)

/-! ## Configuration registers -/

def sio_read (index : UInt8) : Io UInt8 := do
  port_write CS_INDEX index
  port_read CS_VALUE

def sio_word (index : UInt8) : Io Nat := do
  let high ← sio_read index
  let low ← sio_read (index + 1)
  pure (high.toNat * 256 + low.toNat)

def sane_base (base : Nat) : Bool := base ≥ 0x100 && base ≤ 0xfff0 && base % 16 = 0

/-- `if (!r && cleanup < 0) r = cleanup;` -/
def first_error {α : Type} (r : Except Errno α) (cleanup : Except Errno Unit) : Except Errno α :=
  match r, cleanup with
  | .ok _, .error errno => .error errno
  | r, _ => r

/-- The unlock sequence; the pause follows a failed write, too. -/
def enter : List UInt8 → Io Unit
  | [] => pure ()
  | value :: rest => do
    let r ← attempt (port_write CS_INDEX value)
    pause_ms 1
    lift r
    enter rest

/-- The lock sequence, written whatever went wrong before. -/
def leave {α : Type} : List UInt8 → Except Errno α → Io (Except Errno α)
  | [], r => pure r
  | value :: rest, r => do
    let cleanup ← attempt (port_write CS_INDEX value)
    leave rest (first_error r cleanup)

/-- The part of `probe` that looks at logical device `0x0a`. -/
def probe_selected : Io Nat := do
  port_write CS_VALUE 0x0a
  let active ← sio_read 0x30
  bail (active ≠ 1) .ENODEV
  let base ← sio_word 0x60
  bail (sane_base base = false) .ENODEV
  pure base

/-- Select the logical device that was selected before. -/
def reselect (old_ldn : UInt8) : Io Unit := do
  port_write CS_INDEX 0x07
  port_write CS_VALUE old_ldn

/-- The part of `probe` between `enter` and `leave`. -/
def probe_chip : Io (Nat × Nat × Nat) := do
  enter [0xa5, 0x69, 0x87]
  let chip ← sio_word 0x20
  bail (chip ≠ 0x2011) .ENODEV
  let revision ← sio_word 0x22
  let old_ldn ← sio_read 0x07
  port_write CS_INDEX 0x07
  let r ← attempt probe_selected
  let cleanup ← attempt (reselect old_ldn)
  let base ← lift (first_error r cleanup)
  pure (chip, revision, base)

def probe : Io Nat := do
  let r ← attempt probe_chip
  let r ← leave [0x87, 0x69, 0xa5] r
  let (chip, revision, base) ← lift r
  update fun c => { c with chip_id := chip, revision := revision }
  pure base

/-! ## Runtime registers -/

/-- The address bytes of `reg`, high byte first. -/
def address_bytes (base reg : Nat) : List Nat → Io Unit
  | [] => pure ()
  | byte :: rest => do
    port_write ((base + 4 + byte) % 65536) (UInt8.ofNat (reg / 256 ^ byte))
    address_bytes base reg rest

def address (reg : Nat) : Io Unit := do
  let c ← ctx
  port_write ((c.base + 1) % 65536) 0
  address_bytes c.base reg [3, 2, 1, 0]

def ec_read (reg : Nat) : Io UInt8 := do
  address reg
  pause_ms 1
  let c ← ctx
  port_read ((c.base + 8) % 65536)

/-- Address `reg` and write the data port. -/
def ec_write (reg : Nat) (value : UInt8) : Io Unit := do
  address reg
  let c ← ctx
  port_write ((c.base + 8) % 65536) value

/-! ## The guard -/

/-- The identity of the one supported machine. -/
def is_exact (identity : Identity) : Bool :=
  identity.product_name = "DXP2800 GT" && identity.source = "dmi" &&
  match identity.profile with
  | some profile => profile.protocol = "cs201x-sio"
  | none => false

/-- The first guard of a context takes the runtime ports. -/
def acquire (base : Nat) : Fun Unit := do
  let c ← ctx
  if c.runtime_permission then
    pure ()
  else do
    mapError (owners base) (reported "CS2011 runtime ports have an owner")
    mapError (permission base 13 true) (reported "cannot acquire CS2011 runtime I/O permission")
    update fun c => { c with base := base, runtime_permission := true }

/-- `guard_flow`: the observed flow.  Without `expected_flow` (-1) both
    published values are accepted. -/
def guard_flow (writing : Bool) (expected_flow : Option UInt8) : Fun UInt8 := do
  update fun c => { c with confirmed := false }
  let c ← ctx
  bail (writing ∧ ¬ (c.access.apply ∧ c.access.force))
    (failure .EPERM "CS2011 experimental writes require --force --apply")
  let identity ← detect
  bail (¬ is_exact identity ∨
      (c.identity.product_name ≠ "" ∧ ¬ same_identity identity c.identity))
    (failure .ENOTSUP "CS2011 requires unchanged exact real DMI DXP2800 GT")
  mapError (owners c.base) (reported "CS2011 controller owner or reserved I/O resource is active")
  let base ← mapError probe
    (reported "CS2011 chip identity, active LDN or runtime base check failed")
  bail (c.base ≠ 0 ∧ c.base ≠ base) (failure .ESTALE "CS2011 runtime base changed")
  acquire base
  let flow ← mapError (ec_read CS_FLOW) (reported "cannot read CS2011 autonomous flow control")
  bail (flow > 1)
    (failure .EBADMSG "CS2011 flow value is outside the published 0/1 states")
  bail (∃ expected ∈ expected_flow, flow ≠ expected)
    (failure .EBUSY "CS2011 LED flow state changed; FLOW=0 requires ugreenctl-ledd --takeover-flow --force --apply with an already active LDN")
  update fun c => { c with identity := identity, confirmed := true }
  pure flow

def guard (writing : Bool) : Fun Unit := do
  let _ ← guard_flow writing (some 1)

/-! ## Snapshots -/

/-- The limits of the effects: blinking and breathing need some time on and
    some time off. -/
def valid_raw (raw : Raw) : Bool :=
  let mode := (raw .mode).toNat
  let on := (raw .duty).toNat * 50
  let period := (raw .period).toNat * 50
  let least_on := if mode = 2 then 100 else 1000
  let least_off := if mode = 2 then 100 else 500
  mode ≤ 3 && (mode < 2 || (period > on && on ≥ least_on && period - on ≥ least_off))

/-- Read the listed fields of an LED into `raw`. -/
def read_fields (id : Nat) : List Field → Raw → Io Raw
  | [], raw => pure raw
  | field :: rest, raw => do
    let value ← ec_read (reg_address id field)
    read_fields id rest (Function.update raw field value)

/-- A buffer before anything is read into it. -/
def zero_raw : Raw := fun _ => 0

def snapshot (id : Nat) : Fun Raw := do
  bail (id ≥ 4) (failure .EINVAL "CS2011 LED id must be 0..3")
  guard false
  let raw ← mapError (read_fields id Field.all zero_raw)
    (reported "cannot read complete CS2011 LED snapshot")
  let again ← mapError (read_fields id Field.all zero_raw)
    (reported "cannot verify CS2011 LED snapshot")
  bail (raw ≠ again ∨ valid_raw raw = false)
    (failure .EBADMSG "CS2011 LED snapshot is unstable or invalid; refusing writes")
  guard false
  pure raw

/-- The four LEDs. -/
def leds : List Nat := [0, 1, 2, 3]

/-- `memcmp` on the bytes of all LEDs. -/
def same_leds (a b : Nat → Raw) : Bool := leds.all fun id => a id = b id

/-- Read the listed LEDs into `raw`. -/
def read_leds : List Nat → (Nat → Raw) → Io (Nat → Raw)
  | [], raw => pure raw
  | id :: rest, raw => do
    let led ← read_fields id Field.all zero_raw
    read_leds rest (Function.update raw id led)

def snapshot_all (flow : UInt8) : Fun (Nat → Raw) := do
  let _ ← guard_flow false (some flow)
  let raw ← mapError (read_leds leds fun _ => zero_raw)
    (reported "cannot read complete 28-byte CS2011 holder snapshot")
  let again ← mapError (read_leds leds fun _ => zero_raw)
    (reported "cannot verify complete CS2011 holder snapshot")
  bail (same_leds raw again = false)
    (failure .EBADMSG "CS2011 holder snapshot is unstable")
  bail (∃ id ∈ leds, valid_raw (raw id) = false)
    (failure .EBADMSG "CS2011 holder snapshot has an invalid LED mode or timing")
  let _ ← guard_flow false (some flow)
  pure raw

/-! ## Writes -/

/-- Write a register and read it back: what `write_byte` and `change_flow`
    do between their guards. -/
def verified_write (reg : Nat) (value : UInt8) (message mismatch : String) : Fun Unit := do
  mapError (ec_write reg value) (reported message)
  pause_ms 1
  let actual ← mapError (ec_read reg) (reported mismatch)
  bail (actual ≠ value) (failure Errno.EIO mismatch)

def change_flow (before wanted : UInt8) : Fun Unit := do
  let c ← ctx
  bail (¬ (c.holder ∧ c.restore_pending) ∨ before > 1 ∨ wanted > 1)
    (failure .EPERM "CS2011 flow writes require an explicit snapshotted holder lifecycle")
  let _ ← guard_flow true (some before)
  verified_write CS_FLOW wanted "CS2011 global flow write failed; state may have changed"
    "CS2011 global flow readback mismatch"
  let _ ← guard_flow false (some wanted)

def write_byte (id : Nat) (field : Field) (value : UInt8) : Fun Unit := do
  guard true
  verified_write (reg_address id field) value
    "CS2011 target write failed; state may have changed"
    "CS2011 target register readback mismatch"

def write_order : List Field := [.red, .green, .blue, .brightness, .period, .duty, .mode]

/-- The loop of `commit` over the fields. -/
def write_fields (id : Nat) (wanted before : Raw) (restore quiesce : Bool) :
    List Field → Fun Unit
  | [] => pure ()
  | field :: rest =>
    if restore ∨ wanted field ≠ before field ∨ (quiesce ∧ field = .mode) then do
      write_byte id field (wanted field)
      write_fields id wanted before restore quiesce rest
    else
      write_fields id wanted before restore quiesce rest

/-- Whether a transaction first switches the effect off. -/
def quiesces (wanted before : Raw) (restore : Bool) : Bool :=
  restore || (before .mode ≥ 2 && (wanted .period ≠ before .period || wanted .duty ≠ before .duty))

/-- Switch the effect off. -/
def quiesce (id : Nat) (needed : Bool) : Fun Unit :=
  if needed then write_byte id .mode 0 else pure ()

def commit (id : Nat) (wanted before : Raw) (restore : Bool) : Fun Unit := do
  quiesce id (quiesces wanted before restore)
  write_fields id wanted before restore (quiesces wanted before restore) write_order
  let actual ← snapshot id
  bail (actual ≠ wanted) (failure Errno.EIO "CS2011 complete target state changed after writing")

def restore_after_error (id : Nat) (before wanted : Raw) (cause : Failure) : Fun Unit := do
  let r ← attempt (commit id before wanted true)
  match r with
  | .error e => fail ⟨e.errno, .restoration_failed cause.report e.report⟩
  | .ok () => fail ⟨cause.errno, .restored cause.report⟩

/-- A forward transaction, undone if it fails. -/
def commit_or_restore (id : Nat) (wanted before : Raw) : Fun Unit :=
  recover (commit id wanted before false) (restore_after_error id before wanted)

/-! ## Reading and applying -/

def decode (raw : Raw) : Value :=
  let value : Value :=
    { mode := (raw .mode).toUInt32, brightness := (raw .brightness).toUInt32,
      red := (raw .red).toUInt32, green := (raw .green).toUInt32, blue := (raw .blue).toUInt32 }
  if raw .period ≥ raw .duty then
    { value with on_ms := (raw .duty).toUInt32 * 50,
                 off_ms := ((raw .period).toUInt32 - (raw .duty).toUInt32) * 50 }
  else
    { value with unknown_fields := PATCH_TIMING }

/-- The transport's own `validate_patch`. -/
def validate_patch (patch : Patch) : Except Failure Unit :=
  let allowed := PATCH_MODE ||| PATCH_RGB ||| PATCH_BRIGHTNESS ||| PATCH_TIMING
  let on_ms := patch.value.on_ms
  let off_ms := patch.value.off_ms
  if patch.fields = 0 ∨ patch.fields &&& ~~~allowed ≠ 0 then
    .error (failure .EINVAL "unsupported CS2011 patch fields")
  else if patch.has PATCH_RGB ∧
      (patch.value.red > 255 ∨ patch.value.green > 255 ∨ patch.value.blue > 255) then
    .error (failure .EINVAL "CS2011 RGB must be 0..255")
  else if patch.has PATCH_BRIGHTNESS ∧ patch.value.brightness > 255 then
    .error (failure .EINVAL "CS2011 brightness must be 0..255")
  else if patch.has PATCH_MODE ∧ patch.value.mode > 3 then
    .error (failure .EINVAL "CS2011 mode must be off/on/blink/breath")
  else if patch.has PATCH_TIMING ∧ (on_ms = 0 ∨ off_ms = 0 ∨ on_ms > 12750 ∨ off_ms > 12750 ∨
      on_ms + off_ms > 12750 ∨ on_ms % 50 ≠ 0 ∨ off_ms % 50 ≠ 0) then
    .error (failure .EINVAL "CS2011 timing requires 50 ms multiples and total <=12750 ms")
  else
    .ok ()

/-- The bytes `patch` asks for on an LED with the bytes `before`. -/
def patched (patch : Patch) (before : Raw) : Raw
  | .red => if patch.has PATCH_RGB then patch.value.red.toUInt8 else before .red
  | .green => if patch.has PATCH_RGB then patch.value.green.toUInt8 else before .green
  | .blue => if patch.has PATCH_RGB then patch.value.blue.toUInt8 else before .blue
  | .brightness =>
    if patch.has PATCH_BRIGHTNESS then patch.value.brightness.toUInt8 else before .brightness
  | .mode => if patch.has PATCH_MODE then patch.value.mode.toUInt8 else before .mode
  | .period =>
    if patch.has PATCH_TIMING then ((patch.value.on_ms + patch.value.off_ms) / 50).toUInt8
    else before .period
  | .duty => if patch.has PATCH_TIMING then (patch.value.on_ms / 50).toUInt8 else before .duty

def read (id : Nat) : Fun Value := do
  let raw ← snapshot id
  pure (decode raw)

/-- `apply` up to its first write: the bytes before and the bytes wanted. -/
def prepare (id : Nat) (patch : Patch) : Fun (Raw × Raw) := do
  let c ← ctx
  bail (id ≥ 4) ⟨.EINVAL, .silent⟩
  bail (c.identify_saved = true)
    (failure .EBUSY "CS2011 identify must be restored before another write")
  lift (validate_patch patch)
  guard true
  let before ← snapshot id
  bail (valid_raw (patched patch before) = false)
    (failure .EINVAL "CS2011 blink/breath timing does not meet mode limits")
  pure (before, patched patch before)

def apply (id : Nat) (patch : Patch) : Fun Value := do
  let (before, wanted) ← prepare id patch
  commit_or_restore id wanted before
  pure (decode wanted)

/-! ## Identify -/

/-- A blue blink of 200 ms on and 200 ms off. -/
def identify_effect : Raw
  | .mode => 2
  | .brightness => 255
  | .period => 8
  | .duty => 4
  | .red => 0
  | .green => 0
  | .blue => 255

/-- Remember the bytes of LED `id`. -/
def save_identify (id : Nat) (original : Raw) (c : Context) : Context :=
  { c with identify_original := original, identify_id := id, identify_saved := true }

def begin_identify (id : Nat) : Fun Unit := do
  let c ← ctx
  bail (id ≥ 4) ⟨.EINVAL, .silent⟩
  bail (c.identify_saved = true)
    (failure .EBUSY "CS2011 already has a saved identify state")
  guard true
  let original ← snapshot id
  update (save_identify id original)
  commit_or_restore id identify_effect original

def end_identify (id : Nat) : Fun Unit := do
  let c ← ctx
  bail (id ≥ 4) ⟨.EINVAL, .silent⟩
  bail (c.identify_saved = false) (failure .ENOENT "CS2011 has no saved identify state")
  bail (id ≠ c.identify_id)
    (failure .EINVAL "CS2011 identify target does not match the saved raw state")
  mapError (commit id c.identify_original c.identify_original true) fun e =>
    ⟨e.errno, .identify_restoration_failed e.report⟩
  update fun c => { c with identify_saved := false }

/-- The loop of `identify`: `cancelled n` is what the flag holds when it is
    read for the `n`-th time; how often it has been read afterwards. -/
def wait_ticks (cancelled : Nat → Bool) : Nat → Nat → Fun Nat
  | 0, n => pure n
  | ticks + 1, n =>
    if cancelled n then
      pure (n + 1)
    else do
      pause_ms 50
      wait_ticks cancelled ticks (n + 1)

/-- `ugreenctl_led_cs201x_identify` -/
def identify (id seconds : Nat) (cancelled : Nat → Bool) : Fun Unit := do
  let c ← ctx
  bail (id ≥ 4 ∨ seconds < 1 ∨ seconds > 60) ⟨.EINVAL, .silent⟩
  bail (c.identify_saved = true)
    (failure .EBUSY "CS2011 already has a saved identify state")
  guard true
  bail (cancelled 0 = true) (failure .EINTR "CS2011 identify cancelled before writing")
  let before ← snapshot id
  commit_or_restore id identify_effect before
  let n ← wait_ticks cancelled (seconds * 20) 1
  mapError (commit id before identify_effect true) fun e =>
    ⟨e.errno, .identify_end_failed e.report⟩
  bail (cancelled n = true)
    (failure .EINTR "CS2011 identify interrupted; complete previous state restored")

/-! ## The holder -/

/-- Finish an interrupted identify; its result is not looked at. -/
def finish_identify : Fun Unit := do
  let c ← ctx
  if c.identify_saved then do
    let _ ← attempt (end_identify c.identify_id)
  else
    pure ()

def restore_leds (original : Nat → Raw) : List Nat → Fun Unit
  | [] => pure ()
  | id :: rest => do
    commit id (original id) (original id) true
    restore_leds original rest

/-- The flow is autonomous again: the controller must be as it was. -/
def restore_autonomous : Fun Unit := do
  let c ← ctx
  bail (c.original_flow ≠ 0)
    (failure .EBUSY "CS2011 flow changed during holder lifetime; restoration refused")
  let actual ← snapshot_all 0
  bail (same_leds actual c.original = false)
    (failure .EBUSY "CS2011 flow is autonomous and saved LED state differs; refusing a second takeover")

/-- The holder still has the flow: write everything back, the flow last. -/
def restore_held : Fun Unit := do
  let c ← ctx
  restore_leds c.original leds
  let actual ← snapshot_all 1
  bail (same_leds actual c.original = false)
    (failure Errno.EIO "CS2011 complete 28-byte baseline did not restore")
  if c.original_flow = 0 then change_flow 1 0 else pure ()

def restore_holder : Fun Unit := do
  let c ← ctx
  if c.holder && c.restore_pending then do
    finish_identify
    let flow ← guard_flow true none
    if flow = 0 then restore_autonomous else restore_held
    update fun c => { c with restore_pending := false, identify_saved := false }
  else
    pure ()

/-- Give a permission back, if it was granted. -/
def give_back {ε : Type} (granted : Bool) (port count : Nat) : Proc cs_io Context ε Unit :=
  if granted then do
    let _ ← (attempt (permission port count false) : Proc cs_io Context ε (Except Errno Unit))
  else
    pure ()

def unlock {ε : Type} (locked : Bool) : Proc cs_io Context ε Unit :=
  if locked then io CsOp.unlock else pure ()

def release_context {ε : Type} : Proc cs_io Context ε Unit := do
  let c ← ctx
  give_back c.runtime_permission c.base 13
  give_back c.config_permission CS_INDEX 2
  unlock c.locked

/-! ## Opening and closing -/

/-- The checks, locks and permissions of `open_context`. -/
def open_ports : Fun Unit := do
  let identity ← detect
  bail (¬ is_exact identity)
    (failure .ENOTSUP "CS2011 transport requires exact real DMI DXP2800 GT")
  update fun c => { c with identity := identity }
  mapError (owners 0) fun errno => ⟨errno, .silent⟩
  mapError lock fun errno => ⟨errno, .silent⟩
  update fun c => { c with locked := true }
  mapError (owners 0) fun errno => ⟨errno, .silent⟩
  mapError (permission CS_INDEX 2 true) fun errno => ⟨errno, .silent⟩
  update fun c => { c with config_permission := true }

/-- Take the flow over if it is autonomous. -/
def take_flow (original_flow : UInt8) : Fun Unit :=
  if original_flow = 0 then change_flow 0 1 else pure ()

/-- Take the flow over and see that no LED changed. -/
def take_over (original_flow : UInt8) (original : Nat → Raw) : Fun Unit := do
  take_flow original_flow
  let actual ← snapshot_all 1
  bail (same_leds actual original = false)
    (failure Errno.EIO "CS2011 flow takeover changed LED registers; refusing holder startup")

/-- The holder's part of `open_context`. -/
def open_holder (takeover_flow : Bool) : Fun Unit := do
  let flow ← guard_flow false none
  update fun c => { c with original_flow := flow }
  bail (flow = 0 ∧ takeover_flow = false)
    (failure .EBUSY "CS2011 FLOW=0 needs the explicit holder --takeover-flow option")
  let original ← snapshot_all flow
  update fun c => { c with original := original, restore_pending := true }
  take_over flow original

/-- `open_context` up to the label `failed`. -/
def open_steps (takeover_flow : Bool) : Fun Unit := do
  open_ports
  let c ← ctx
  if c.holder then open_holder takeover_flow else guard false

/-- The report a failed start leaves in a context with nothing to restore. -/
def open_report (e : Failure) : Report := e.report.otherwise (.open_failed e.errno)

/-- The cause that a failed start of a holder is reported with. -/
def startup_cause (e : Failure) : Report :=
  e.report.otherwise (.text "CS2011 holder startup failed")

/-- The label `failed` of `open_context`. -/
def open_failed (e : Failure) : Fun Unit := do
  let c ← ctx
  if c.restore_pending then do
    let r ← attempt restore_holder
    release_context
    match r with
    | .error e' => fail ⟨e'.errno, .baseline_restoration_failed (startup_cause e) e'.report⟩
    | .ok () => fail ⟨e.errno, .holder_restored (startup_cause e)⟩
  else do
    release_context
    fail ⟨e.errno, open_report e⟩

def open_context (access : Access) (holder takeover_flow : Bool) :
    Prog cs_io (Except Failure Context) :=
  (Prog.call CsOp.calloc).bind fun (allocated : Bool) =>
    if ¬ allocated then
      .pure (.error ⟨.ENOMEM, .silent⟩)
    else if holder ∧ ¬ (access.force ∧ access.apply) then
      .pure (.error (failure .EPERM "starting a CS2011 holder requires --force --apply"))
    else
      let opening := recover (open_steps takeover_flow) open_failed
      (opening.run { access := access, holder := holder }).bind fun r => .pure (r.1.map fun _ => r.2)

/-- `ugreenctl_led_cs201x_set_client` -/
def set_client (authenticated_pid : Int) (c : Context) : Context :=
  { c with client_pid := authenticated_pid.toNat }

/-- `ugreenctl_led_cs201x_close`: the result of a restoration is not looked at. -/
def close : Fun Unit := do
  let c ← ctx
  let _ ← attempt (if c.holder then restore_holder
    else if c.identify_saved then end_identify c.identify_id else pure ())
  release_context

def restore_close : Fun Unit := do
  let c ← ctx
  let r ← attempt (if c.holder then restore_holder
    else if c.identify_saved then end_identify c.identify_id else pure ())
  release_context
  match r with
  | .error e => fail ⟨e.errno, .holder_restoration_failed e.report⟩
  | .ok () => pure ()

end UgreenNas.Led.Cs201x
