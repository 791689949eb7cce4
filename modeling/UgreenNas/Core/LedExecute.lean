import UgreenNas.Core.HardwareCli
import UgreenNas.Effect.Each
import UgreenNas.Effect.Finally
import UgreenNas.Led.N76.Protocol

/-! # LED commands (`core/hardware_cli.c`)

    What the command line does with options that were parsed: it selects the
    LEDs, makes a patch of every action, checks all of them before the first
    write, and then writes one LED after the other.  The session with the
    controller is the environment; what is printed is left out.
-/

namespace UgreenNas.Core

open DiskMap Led Effect Effect.Proc

/-! ## Patches -/

/-- `patch_for_action` -/
def patch_for_action (action : CliAction) (led : Target) : Patch :=
  match action.kind with
  | .on => { fields := PATCH_MODE, value := { mode := 1 } }
  | .off => { fields := PATCH_MODE, value := { mode := 0 } }
  | .color =>
    if action.named_color ∧
        (¬ led.rgb ∨ action.color = COLOR_WHITE_ORANGE ∨ action.color ≥ COLOR_CHANNEL1) then
      { fields := PATCH_COLOR, value := { color := action.color } }
    else
      { fields := PATCH_RGB,
        value := { red := action.red.toUInt32, green := action.green.toUInt32,
                   blue := action.blue.toUInt32 } }
  | .brightness =>
    { fields := PATCH_BRIGHTNESS,
      value :=
        { brightness :=
            if action.brightness_percent then
              (action.brightness.toUInt32 * led.max_brightness + 50) / 100
            else
              action.brightness.toUInt32 } }
  | .blink =>
    { fields := PATCH_MODE ||| PATCH_TIMING,
      value := { mode := MODE_BLINK, on_ms := action.on_ms.toUInt32,
                 off_ms := action.off_ms.toUInt32 } }
  | .breath =>
    { fields := PATCH_MODE ||| PATCH_TIMING,
      value := { mode := MODE_BREATH, on_ms := action.on_ms.toUInt32,
                 off_ms := action.off_ms.toUInt32 } }
  | .status => { fields := 0, value := {} }

/-- The body of the loop of `merged_patch`. -/
def merge (patch next : Patch) : Patch :=
  let fields := if next.has PATCH_RGB then patch.fields &&& ~~~PATCH_COLOR else patch.fields
  let fields := if next.has PATCH_COLOR then fields &&& ~~~PATCH_RGB else fields
  { fields := fields ||| next.fields
    value :=
      { patch.value with
        red := if next.has PATCH_RGB then next.value.red else patch.value.red
        green := if next.has PATCH_RGB then next.value.green else patch.value.green
        blue := if next.has PATCH_RGB then next.value.blue else patch.value.blue
        color := if next.has PATCH_COLOR then next.value.color else patch.value.color
        brightness :=
          if next.has PATCH_BRIGHTNESS then next.value.brightness else patch.value.brightness
        mode := if next.has PATCH_MODE then next.value.mode else patch.value.mode
        on_ms := if next.has PATCH_TIMING then next.value.on_ms else patch.value.on_ms
        off_ms := if next.has PATCH_TIMING then next.value.off_ms else patch.value.off_ms } }

/-- `merged_patch` -/
def merged_patch (actions : List CliAction) (led : Target) : Patch :=
  actions.foldl (fun patch action => merge patch (patch_for_action action led))
    { fields := 0, value := {} }

/-! ## Targets -/

def MAX_LEDS : Nat := 16

/-- `ugreenctl_led_descriptors`: the count, and what it stores. -/
def led_descriptors (model : Model) (capacity : Nat) : Nat × List Target :=
  if model.leds.length > MAX_LEDS then (0, [])
  else (model.leds.length, model.leds.take capacity)

/-- `selected[(*count)++]=led`, in an array of `MAX_LEDS` descriptors: what
    the array holds up to `count`. -/
def store_selected (selected : List Target) (led : Target) : Option (List Target) :=
  if selected.length < MAX_LEDS then some (selected ++ [led]) else none

/-- The loop over the names.  The result is `none` where it stores behind the
    end of the array. -/
def select_loop (model : Model) (descriptors : List Target) :
    List Target → List Text → Option (Except Failure (List Target))
  | selected, [] => some (.ok selected)
  | selected, name :: rest =>
    match descriptors.find? fun led => led.name.toList = name with
    | none =>
      some (.error (failure .ENOTSUP
        s!"LED '{String.ofList name}' is unsupported by exact profile '{model.id}'"))
    | some led => (store_selected selected led).bind fun selected =>
      select_loop model descriptors selected rest

/-- `select_targets`; `none` also where it compares a target that is not
    there. -/
def select_targets (o : HardwareOptions) (model : Model) : Option (Except Failure (List Target)) :=
  let (n, descriptors) := led_descriptors model MAX_LEDS
  if n = 0 ∨ n > MAX_LEDS then
    some (.error (failure .ENOTSUP "profile has no usable LED layout"))
  else if o.command = .led_list then
    some (.ok descriptors)
  else
    match o.targets with
    | [] => none
    | first :: rest =>
      if first = "all" then some (.ok descriptors)
      else select_loop model descriptors [] (first :: rest)

/-! ## Sessions -/

inductive SessionOp where
  | detect
  | open (force apply n76_direct : Bool) (n76_bus n76_address : Nat)
  | read (id : Nat)
  | preflight (id : Nat) (before : Value) (patch : Patch)
  | apply (id : Nat) (patch : Patch)
  | identify (id seconds : Nat)
  | calloc (records : Nat)
  | close

/-- A detected identity has a profile. -/
@[reducible] def SessionOp.Ans : SessionOp → Type
  | .detect => Except Failure Model
  | .open .. => Except Failure Unit
  | .read _ => Except Failure Value
  | .preflight .. => Except Failure Unit
  | .apply .. => Except Failure Value
  | .identify .. => Except Failure Unit
  | .calloc _ => Bool
  | .close => Unit

abbrev session_io : Sig := ⟨SessionOp, SessionOp.Ans⟩

/-- How a command ends that does not return 0. -/
inductive Exit where
  /-- `backend_failure` -/
  | backend (cause : Failure) (completed : Nat)
  /-- `failure` -/
  | refused (code message : String) (exit_code : Nat)
  /-- An index was behind the end of an array. -/
  | out_of_bounds
  deriving DecidableEq, Repr

/-- The context counts the operations that were completed. -/
abbrev Command (α : Type) : Type := Proc session_io Nat Exit α

def io (o : SessionOp) : Command o.Ans := @ask session_io Nat Exit o

/-- `if (result) return backend_failure(o,result,error,completed);` -/
def checked {α : Type} (r : Except Failure α) : Command α := do
  let completed ← ctx
  match r with
  | .ok a => pure a
  | .error cause => fail (.backend cause completed)

/-- `xs[i]` -/
def at_index {α : Type} (xs : List α) (i : Nat) : Command α :=
  match xs[i]? with
  | some x => pure x
  | none => fail .out_of_bounds

/-! ## Requests -/

/-- The variables of `led_execute` that are set once: the options, the
    profile, and the LEDs that were selected. -/
structure LedRequest where
  o : HardwareOptions
  model : Model
  leds : List Target

namespace LedRequest

variable (q : LedRequest)

def identify : Bool := q.o.command = .led_identify

def combined : Bool := !q.o.compatibility && q.o.command = .led_set

/-- `request.actions`; a status command has one of its own. -/
def actions : List CliAction :=
  if q.o.command = .led_status then [{ q.o.actions.head?.getD {} with kind := .status }]
  else q.o.actions

def action_count : Nat := if q.combined then 1 else q.actions.length

/-- `!combined && request.actions[a].kind==UGREENCTL_CLI_STATUS` -/
def is_status (a : Nat) : Command Bool :=
  if q.combined then pure false
  else do
    let action ← at_index q.actions a
    pure (action.kind = .status)

/-- The patch of action `a` for one LED, if there is such an action. -/
def patch_value (a : Nat) (led : Target) : Option Patch :=
  if q.combined then some (merged_patch q.actions led)
  else q.actions[a]?.map fun action => patch_for_action action led

def patch (a : Nat) (led : Target) : Command Patch :=
  match q.patch_value a led with
  | some patch => pure patch
  | none => fail .out_of_bounds

/-- What the actions are for. -/
structure Purpose where
  writes : Bool := false
  reads : Bool := false

/-- The checks of one patch that need no controller. -/
def check_patch (a t : Nat) : Command Unit := do
  let led ← at_index q.leds t
  let patch ← q.patch a led
  checked (validate_target_patch (some led) patch)
  if q.o.n76_direct then
    checked (N76.n76_plan (some q.model) led.id patch).1

/-- The first loop over the actions. -/
def plan_action (purpose : Purpose) (a : Nat) : Command Purpose := do
  if ← q.is_status a then
    pure { purpose with reads := true }
  else
    each (q.check_patch a) (List.range q.leds.length)
    pure { purpose with writes := true }

/-- `initial[t]` is read before the first write. -/
def read_initial (t : Nat) : Command Value := do
  let led ← at_index q.leds t
  -- `initial` has room for `MAX_LEDS` values
  bail (MAX_LEDS ≤ t) .out_of_bounds
  let value ← io (.read led.id)
  checked value

/-- A binary LED without a register for a colour that is off. -/
def no_dormant_color (led : Target) (planned : Value) (patch : Patch) : Bool :=
  q.combined && !q.o.n76_direct && !led.rgb && led.max_brightness == 1 &&
    patch.has PATCH_COLOR && planned.unknown_fields &&& PATCH_COLOR != 0 &&
    !(patch.has PATCH_MODE && patch.value.mode == 1) &&
    !(patch.has PATCH_BRIGHTNESS && patch.value.brightness != 0)

/-- What a patch is expected to leave. -/
def planned_value (planned : Value) (patch : Patch) : Value :=
  { planned with
    mode := if patch.has PATCH_MODE then patch.value.mode else planned.mode
    color := if patch.has PATCH_COLOR then patch.value.color else planned.color
    brightness := if patch.has PATCH_BRIGHTNESS then patch.value.brightness else planned.brightness
    unknown_fields := planned.unknown_fields &&& ~~~patch.fields }

def preflight_action (led : Target) (planned : Value) (a : Nat) : Command Value := do
  if ← q.is_status a then
    pure planned
  else
    let patch ← q.patch a led
    let result ← io (.preflight led.id planned patch)
    checked result
    bail (q.no_dormant_color led planned patch = true) (.refused "unsupported"
      "a binary GPIO LED has no dormant color register; include --mode on when selecting its color"
      3)
    pure (planned_value planned patch)

def preflight_target (initial : List Value) (t : Nat) : Command Unit := do
  let led ← at_index q.leds t
  let planned ← at_index initial t
  let _ ← fold (q.preflight_action led) planned (List.range q.action_count)

/-- The order of the operations: the legacy tool completes the actions of one
    LED before it goes on to the next. -/
def step_of (step : Nat) : Nat × Nat :=
  if q.o.compatibility then (step % q.action_count, step / q.action_count)
  else (step / q.leds.length, step % q.leds.length)

def steps : List (Nat × Nat) :=
  (List.range (q.action_count * q.leds.length)).map q.step_of

/-- Action `a` for one LED. -/
def run_action (a : Nat) (led : Target) : Command Unit := do
  if ← q.is_status a then
    let result ← io (.read led.id)
    let _ ← checked result
  else if q.o.apply then
    let patch ← q.patch a led
    let result ← io (.apply led.id patch)
    let _ ← checked result
    update (· + 1)

/-- The body of the loop over the steps. -/
def run_step (step : Nat × Nat) : Command Unit := do
  let led ← at_index q.leds step.2
  q.run_action step.1 led

/-- All steps, with their records. -/
def run_steps : Command Unit := do
  let records ← io (.calloc (q.action_count * q.leds.length))
  bail (records = false) (.refused "out_of_memory" "cannot allocate operation results" 5)
  each q.run_step q.steps

/-- Every patch is checked by the backend before the first write. -/
def preflight (writes : Bool) (initial : List Value) : Command Unit :=
  if writes && q.o.apply && !q.identify then
    each (q.preflight_target initial) (List.range q.leds.length)
  else
    pure ()

def identify_led : Command Unit := do
  let led ← at_index q.leds 0
  let result ← io (.identify led.id q.o.seconds)
  checked result

/-- What is done with an open session. -/
def in_session (writes : Bool) : Command Unit := do
  let initial ← collect q.read_initial (List.range q.leds.length)
  q.preflight writes initial
  if q.identify then q.identify_led else q.run_steps

/-- The LED of `identify` has to be one that can go on and off. -/
def check_identify : Command Unit :=
  if q.identify then do
    let led ← at_index q.leds 0
    bail (led.mode_mask &&& 3 ≠ 3 ∨ led.max_brightness = 0 ∨ (¬ led.rgb ∧ led.color_mask = 0))
      (.refused "unsupported" "this LED cannot perform a reversible on/off identification" 3)
  else
    pure ()

/-- The command, once its purpose is known. -/
def run_command (writes reads : Bool) : Command Unit :=
  if reads || (writes && q.o.apply) then do
    let result ← io (.open q.o.force q.o.apply q.o.n76_direct q.o.n76_bus q.o.n76_address)
    checked result
    always (q.in_session writes) (io .close)
  else if q.identify then
    pure ()
  else
    -- a preview: nothing is open, and no step accesses anything
    q.run_steps

/-- Everything behind the selection. -/
def execute : Command Unit := do
  q.check_identify
  if q.o.command = .led_list then
    pure ()
  else do
    let purpose ← fold q.plan_action {} (List.range q.action_count)
    let writes := purpose.writes || q.identify
    bail (writes = true ∧ q.o.apply = true ∧ q.model.experimental = true ∧ q.o.force = false)
      (.refused "experimental_confirmation" "experimental LED writes require --force --apply" 4)
    q.run_command writes purpose.reads

end LedRequest

/-- `led_execute` -/
def led_execute (o : HardwareOptions) : Command Unit := do
  let detected ← io .detect
  let model ← checked detected
  bail (o.n76_direct = true ∧ model.protocol ≠ "sysfs-n76")
    (.refused "unsupported" "--n76-direct is restricted to exact DH2600/DXP480T Plus" 3)
  match select_targets o model with
  | none => fail .out_of_bounds
  | some selected => do
    let leds ← checked selected
    LedRequest.execute { o := o, model := model, leds := leds }

end UgreenNas.Core
