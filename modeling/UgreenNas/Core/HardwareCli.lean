import UgreenNas.Disk.Text
import UgreenNas.Led.Basic

/-! # The command line (`core/hardware_cli.c`)

    Two grammars share one set of options: the ordered flags of
    `ugreen_leds_cli`, and the subcommands of `ugreenctl`.  Parsing reads the
    arguments from left to right and performs no hardware access.
-/

namespace UgreenNas.Core

open DiskMap Led

/-! ## Options -/

def CLI_MAX_TARGETS : Nat := 32
def CLI_MAX_ACTIONS : Nat := 64

inductive HardwareCommand where
  | help
  | led_list
  | led_status
  | led_set
  | led_identify
  | disk_list
  | disk_locate
  | led_compat
  deriving DecidableEq, Repr

inductive ActionKind where
  | on
  | off
  | color
  | brightness
  | blink
  | breath
  | status
  deriving DecidableEq, Repr

def COLOR_NONE : UInt32 := 0
def COLOR_WHITE : UInt32 := 1
def COLOR_ORANGE : UInt32 := 2
def COLOR_WHITE_ORANGE : UInt32 := 3
def COLOR_RED : UInt32 := 4
def COLOR_GREEN : UInt32 := 5
def COLOR_BLUE : UInt32 := 6
def COLOR_CHANNEL1 : UInt32 := 7
def COLOR_CHANNEL2 : UInt32 := 8
def COLOR_BOTH : UInt32 := 9

/-- `struct ugreenctl_led_cli_action` -/
structure CliAction where
  kind : ActionKind := .on
  red : UInt8 := 0
  green : UInt8 := 0
  blue : UInt8 := 0
  /-- Raw units, or 0 to 100 where `brightness_percent` is set. -/
  brightness : UInt8 := 0
  on_ms : UInt16 := 0
  off_ms : UInt16 := 0
  named_color : Bool := false
  brightness_percent : Bool := false
  color : UInt32 := COLOR_NONE
  deriving DecidableEq, Repr

/-- `struct ugreenctl_hardware_options`; the counts are the lengths. -/
structure HardwareOptions where
  command : HardwareCommand := .help
  json : Bool := false
  apply : Bool := false
  force : Bool := false
  compatibility : Bool := false
  targets : List Text := []
  actions : List CliAction := []
  seconds : Nat := 0
  map_file : Option Text := none
  n76_direct : Bool := false
  n76_bus : Nat := 0
  n76_address : Nat := 0
  deriving DecidableEq, Repr

/-- Why there are no options. -/
inductive ParseError where
  /-- `-1`: a command of `main.c` -/
  | not_hardware
  /-- `-2` -/
  | syntax_error (message : String)
  deriving DecidableEq, Repr

/-- `syntax` -/
def syntax_of {α : Type} (message : String) : Except ParseError α := .error (.syntax_error message)

/-! ## Values -/

def number (text : Text) (maximum : Nat) : Option Nat :=
  if text.isEmpty then
    none
  else
    text.foldlM (fun value c =>
      if !isdigit c then none
      else if value * 10 + digit_value c > maximum then none
      else some (value * 10 + digit_value c)) 0

/-- The number in `diskN` or `netdevN`. -/
def target_suffix (value : Text) : Option Text :=
  if ("netdev" : Text).isPrefixOf value then some (value.drop 6)
  else if ("disk" : Text).isPrefixOf value then some (value.drop 4)
  else none

def is_target (value : Text) : Bool :=
  value = "power" || value = "netdev" || value = "all" ||
    match (target_suffix value).bind fun suffix => number suffix 16 with
    | none | some 0 => false
    | some _ => true

def target (o : HardwareOptions) (value : Text) : Except ParseError HardwareOptions :=
  if is_target value = false then
    syntax_of "invalid LED target; use power, netdev, diskN, or all"
  else
    -- the first of the earlier targets that decides
    match o.targets.find? fun t => t = value ∨ t = "all" ∨ value = "all" with
    | some t =>
      if t = value then pure o
      else syntax_of "all cannot be combined with individual LED targets"
    | none =>
      if o.targets.length = CLI_MAX_TARGETS then syntax_of "too many LED targets"
      else pure { o with targets := o.targets ++ [value] }

def add_action (o : HardwareOptions) (action : CliAction) : Except ParseError HardwareOptions :=
  if o.actions.length = CLI_MAX_ACTIONS then syntax_of "too many LED actions"
  else pure { o with actions := o.actions ++ [action] }

/-- The names with RGB components; the palette colour of those that have one. -/
def colors : List (Text × UInt8 × UInt8 × UInt8 × Option UInt32) :=
  [("red", 255, 0, 0, some COLOR_RED), ("green", 0, 255, 0, some COLOR_GREEN),
    ("blue", 0, 0, 255, some COLOR_BLUE), ("white", 255, 255, 255, some COLOR_WHITE),
    ("black", 0, 0, 0, some COLOR_NONE), ("yellow", 255, 255, 0, none),
    ("cyan", 0, 255, 255, none), ("magenta", 255, 0, 255, none), ("purple", 128, 0, 128, none),
    ("orange", 255, 128, 0, some COLOR_ORANGE)]

/-- The names of palette colours only. -/
def palette : List (Text × UInt32) :=
  [("white-orange", COLOR_WHITE_ORANGE), ("none", COLOR_NONE), ("channel1", COLOR_CHANNEL1),
    ("channel2", COLOR_CHANNEL2), ("both", COLOR_BOTH)]

/-- One component of `#RRGGBB`. -/
def hex_byte (high low : Char) : Option UInt8 :=
  if isxdigit high ∧ isxdigit low then some (.ofNat (digit_value high * 16 + digit_value low))
  else none

def color (text : Text) (a : CliAction) : Option CliAction :=
  match colors.find? fun entry => entry.1 = text with
  | some (_, red, green, blue, some color) =>
    some { a with red := red, green := green, blue := blue, named_color := true, color := color }
  | some (_, red, green, blue, none) =>
    some { a with red := red, green := green, blue := blue, named_color := false }
  | none =>
    match palette.find? fun entry => entry.1 = text with
    | some (_, color) => some { a with named_color := true, color := color }
    | none =>
      match text with
      | ['#', r, r', g, g', b, b'] => do
        let red ← hex_byte r r'
        let green ← hex_byte g g'
        let blue ← hex_byte b b'
        some { a with red := red, green := green, blue := blue }
      | _ => do
        if text.length ≥ 32 then none
        let (first, rest) ← strchr text ','
        let (second, third) ← strchr rest ','
        let r ← number first 255
        let g ← number second 255
        let b ← number third 255
        some { a with red := .ofNat r, green := .ofNat g, blue := .ofNat b }

def brightness (text : Text) : Option UInt8 :=
  if text.getLast? = some '%' then
    if text.length ≥ 8 then none
    else (number text.dropLast 100).map .ofNat
  else
    (number text 255).map .ofNat

/-! ## The legacy grammar -/

/-- What a legacy flag makes of the arguments behind it: the action, and how
    many of them belong to it. -/
def legacy_flag (arg : Text) (rest : List Text) : Except ParseError (CliAction × Nat) :=
  if arg = "-on" then pure ({ kind := .on }, 0)
  else if arg = "-off" then pure ({ kind := .off }, 0)
  else if arg = "-status" then pure ({ kind := .status }, 0)
  else if arg = "-color" then
    match rest with
    | r :: g :: b :: _ =>
      match number r 255, number g 255, number b 255 with
      | some r, some g, some b =>
        pure ({ kind := .color, red := .ofNat r, green := .ofNat g, blue := .ofNat b }, 3)
      | _, _, _ => syntax_of "-color requires three integers from 0 to 255"
    | _ => syntax_of "-color requires three integers from 0 to 255"
  else if arg = "-brightness" then
    match rest.head?.bind fun value => number value 255 with
    | some value => pure ({ kind := .brightness, brightness := .ofNat value }, 1)
    | none => syntax_of "-brightness requires an integer from 0 to 255"
  else if arg = "-blink" ∨ arg = "-breath" then
    match rest with
    | on :: off :: _ =>
      match number on 65535, number off 65535 with
      | some on, some off =>
        if on + off > 65535 ∨ on + off = 0 then
          syntax_of "blink/breath needs ON_MS OFF_MS with a total from 1 to 65535 ms"
        else
          pure ({ kind := if arg = "-blink" then .blink else .breath,
                  on_ms := .ofNat on, off_ms := .ofNat off }, 2)
      | _, _ => syntax_of "blink/breath needs ON_MS OFF_MS with a total from 1 to 65535 ms"
    | _ => syntax_of "blink/breath needs ON_MS OFF_MS with a total from 1 to 65535 ms"
  else
    syntax_of "unknown legacy flag; see ugreen_leds_cli --help"

/-- `arg[0] == '-'` -/
def is_option (arg : Text) : Bool := arg.head? = some '-'

/-- The body of the loop of `compat_parse`: the options, and how many of the
    arguments behind this one are done. -/
def compat_arg (o : HardwareOptions) (arg : Text) (rest : List Text) :
    Except ParseError (HardwareOptions × Nat) := do
  if !is_option arg then
    if o.actions.length ≠ 0 then
      syntax_of "put all LED targets before legacy action flags"
    else
      let o ← target o arg
      pure (o, 0)
  else
    let (action, used) ← legacy_flag arg rest
    let o ← add_action o action
    pure (o, used)

/-- The loop over the arguments; `skip` of them are done already. -/
def compat_loop (o : HardwareOptions) : Nat → List Text → Except ParseError HardwareOptions
  | _, [] => pure o
  | skip + 1, _ :: rest => compat_loop o skip rest
  | 0, arg :: rest =>
    match compat_arg o arg rest with
    | .error e => .error e
    | .ok (o, used) => compat_loop o used rest

def compat_parse (args : List Text) (o : HardwareOptions) : Except ParseError HardwareOptions := do
  let o ← compat_loop o 0 args
  if o.targets.length = 0 then syntax_of "specify at least one LED target"
  else if o.actions.length = 0 then add_action o { kind := .status }
  else pure o

/-! ## The subcommands -/

/-- The variables of `new_parse`; its `verb` does not change. -/
structure NewState where
  o : HardwareOptions
  mode : CliAction := {}
  mode_seen : Bool := false
  timing_seen : Bool := false
  on : Nat := 500
  off : Nat := 500

/-- The command that `args[0]` and `args[1]` name, and the mode it implies. -/
def new_command (disk : Bool) (verb : Text) : Except ParseError (HardwareCommand × Option ActionKind) :=
  if disk then
    if verb = "list" ∨ verb = "map" then pure (.disk_list, none)
    else if verb = "locate" then pure (.disk_locate, none)
    else syntax_of "unknown disk action; use list, map, or locate"
  else if verb = "list" then pure (.led_list, none)
  else if verb = "status" then pure (.led_status, none)
  else if verb = "set" then pure (.led_set, none)
  else if verb = "on" then pure (.led_set, some .on)
  else if verb = "off" then pure (.led_set, some .off)
  else if verb = "identify" then pure (.led_identify, none)
  else syntax_of "unknown LED action; use list, status, set, on, off, or identify"

/-- The value of `--mode`. -/
def mode_kind (value : Text) : Except ParseError ActionKind :=
  if value = "on" then pure .on
  else if value = "off" then pure .off
  else if value = "blink" then pure .blink
  else if value = "breath" then pure .breath
  else syntax_of "--mode needs on, off, blink, or breath"

/-- An argument that is no option. -/
def new_target (s : NewState) (arg : Text) : Except ParseError NewState :=
  if s.o.command = .disk_locate then
    if s.o.targets.length ≠ 0 then syntax_of "disk locate takes exactly one disk selector"
    else pure { s with o := { s.o with targets := s.o.targets ++ [arg] } }
  else if s.o.command = .led_list ∨ s.o.command = .disk_list then
    syntax_of "list/map does not take targets"
  else do
    let o ← target s.o arg
    pure { s with o := o }

/-- An option of `led set` and its value. -/
def set_option_of (s : NewState) (arg : Text) (value : Option Text) : Except ParseError NewState :=
  if arg = "--color" then
    match value.bind fun value => color value {} with
    | none => syntax_of "--color requires a named color, #RRGGBB, or R,G,B"
    | some a => do
      let o ← add_action s.o { a with kind := .color }
      pure { s with o := o }
  else if arg = "--brightness" then
    match value, value.bind brightness with
    | some text, some level => do
      let o ← add_action s.o { kind := .brightness, brightness := level,
                               brightness_percent := text.getLast? = some '%' }
      pure { s with o := o }
    | _, _ => syntax_of "--brightness requires 0..255 or 0%..100%"
  else if arg = "--mode" then
    if s.mode_seen then
      syntax_of "specify --mode only once"
    else
      match value with
      | none => syntax_of "--mode needs on, off, blink, or breath"
      | some value => do
        let kind ← mode_kind value
        pure { s with mode := { s.mode with kind := kind }, mode_seen := true }
  else if arg = "--on-ms" ∨ arg = "--off-ms" then
    match value.bind fun value => number value 65535 with
    | none => syntax_of "timing must be an integer from 0 to 65535 ms"
    | some ms =>
      if arg = "--on-ms" then pure { s with on := ms, timing_seen := true }
      else pure { s with off := ms, timing_seen := true }
  else
    syntax_of "unknown LED set option"

/-- The body of the loop of `new_parse`. -/
def new_arg (verb : Text) (s : NewState) (arg : Text) (rest : List Text) :
    Except ParseError (NewState × Nat) :=
  if !is_option arg then do
    let s ← new_target s arg
    pure (s, 0)
  else if arg = "--seconds" ∧ (s.o.command = .led_identify ∨ s.o.command = .disk_locate) then
    match rest.head?.bind fun value => number value 60 with
    | none | some 0 => syntax_of "--seconds requires an integer from 1 to 60"
    | some seconds => pure ({ s with o := { s.o with seconds := seconds } }, 1)
  else if s.o.command ≠ .led_set ∨ verb ≠ "set" then
    syntax_of "unexpected option for this action"
  else do
    let s ← set_option_of s arg rest.head?
    pure (s, 1)

def new_loop (verb : Text) (s : NewState) : Nat → List Text → Except ParseError NewState
  | _, [] => pure s
  | skip + 1, _ :: rest => new_loop verb s skip rest
  | 0, arg :: rest =>
    match new_arg verb s arg rest with
    | .error e => .error e
    | .ok (s, used) => new_loop verb s used rest

/-- The mode becomes the last action. -/
def finish_mode (s : NewState) : Except ParseError HardwareOptions :=
  if s.mode_seen then
    if s.on + s.off > 65535 ∨ s.on + s.off = 0 then
      syntax_of "blink/breath period must be from 1 to 65535 ms"
    else
      add_action s.o { s.mode with on_ms := .ofNat s.on, off_ms := .ofNat s.off }
  else
    pure s.o

/-- The checks behind the loop, for `led set`, `led on` and `led off`. -/
def finish_set (s : NewState) : Except ParseError HardwareOptions :=
  if s.o.targets.length = 0 then
    syntax_of "specify at least one LED target"
  else if s.timing_seen ∧ (¬ s.mode_seen ∨ (s.mode.kind ≠ .blink ∧ s.mode.kind ≠ .breath)) then
    syntax_of "--on-ms/--off-ms require --mode blink or breath"
  else do
    let o ← finish_mode s
    if o.actions.length = 0 then syntax_of "led set needs --color, --brightness, or --mode"
    else pure o

def new_finish (s : NewState) : Except ParseError HardwareOptions :=
  if (s.o.command = .led_identify ∨ s.o.command = .disk_locate) ∧
      (s.o.targets.length ≠ 1 ∨ s.o.targets.head? = some "all".toList) then
    syntax_of "identify/locate requires exactly one target"
  else if s.o.command = .led_status ∧ s.o.targets.length = 0 then
    pure { s.o with targets := [("all" : Text)] }
  else if s.o.command = .led_set then
    finish_set s
  else
    pure s.o

def new_parse (args : List Text) (o : HardwareOptions) : Except ParseError HardwareOptions :=
  match args with
  | first :: verb :: rest => do
    let (command, mode) ← new_command (first = "disk") verb
    let start : NewState :=
      { o := { o with command := command }, mode := { kind := mode.getD .on },
        mode_seen := mode.isSome }
    let s ← new_loop verb start 0 rest
    new_finish s
  | _ => syntax_of "missing action; use led --help or disk --help"

/-- Where the command is among the arguments, if it is `led` or `disk`. -/
def hardware_command_position : Nat → List Text → Option Nat
  | _, [] => none
  | i, arg :: rest =>
    if arg = "--version" then none
    else if arg = "--model" then
      match rest with
      | [] => none
      | _ :: rest => hardware_command_position (i + 2) rest
    else if is_option arg then hardware_command_position (i + 1) rest
    else if arg = "led" ∨ arg = "disk" then some i
    else none

/-! ## All arguments -/

/-- What the first pass has collected: the options, the remaining arguments,
    and whether help is asked for. -/
structure Globals where
  o : HardwareOptions
  args : List Text := []
  help : Bool := false

/-- The value of `--n76-direct`. -/
def n76_address (value : Option Text) : Except ParseError (Nat × Nat) :=
  match value.bind fun text => strchr text ':' with
  | none => syntax_of "--n76-direct requires one explicit BUS:0x31 or BUS:0x26"
  | some (bus, address) =>
    if bus.length = 0 ∨ bus.length ≥ 8 then
      syntax_of "--n76-direct requires one explicit BUS:0x31 or BUS:0x26"
    else
      match number bus 65535 with
      | none => syntax_of "N76 bus must be numeric and address exactly 0x31 or 0x26"
      | some bus =>
        if address = "0x31" then pure (bus, 0x31)
        else if address = "0x26" then pure (bus, 0x26)
        else syntax_of "N76 bus must be numeric and address exactly 0x31 or 0x26"

def global_arg (g : Globals) (arg : Text) (rest : List Text) : Except ParseError (Globals × Nat) :=
  if arg = "--json" then pure ({ g with o := { g.o with json := true } }, 0)
  else if arg = "--apply" then pure ({ g with o := { g.o with apply := true } }, 0)
  else if arg = "--force" then pure ({ g with o := { g.o with force := true } }, 0)
  else if arg = "--n76-direct" then
    if g.o.n76_direct then
      syntax_of "--n76-direct requires one explicit BUS:0x31 or BUS:0x26"
    else do
      let (bus, address) ← n76_address rest.head?
      pure ({ g with o := { g.o with n76_direct := true, n76_bus := bus,
                                     n76_address := address } }, 1)
  else if arg = "--plugin-dir" then
    match rest with
    | [] => syntax_of "--plugin-dir requires a directory"
    | _ :: _ => pure (g, 1)
  else if arg = "--map-file" then
    match rest with
    | [] => syntax_of "--map-file requires a calibration file"
    | file :: _ => pure ({ g with o := { g.o with map_file := some file } }, 1)
  else if arg = "--help" ∨ arg = "-h" then pure ({ g with help := true }, 0)
  else pure ({ g with args := g.args ++ [arg] }, 0)

def global_loop (g : Globals) : Nat → List Text → Except ParseError Globals
  | _, [] => pure g
  | skip + 1, _ :: rest => global_loop g skip rest
  | 0, arg :: rest =>
    match global_arg g arg rest with
    | .error e => .error e
    | .ok (g, used) => global_loop g used rest

/-- Options that only some commands take. -/
def check_scope (o : HardwareOptions) : Except ParseError HardwareOptions :=
  if o.map_file.isSome ∧ o.command ≠ .disk_list ∧ o.command ≠ .disk_locate then
    syntax_of "--map-file is only available for disk commands"
  else if o.n76_direct ∧ o.command ≠ .led_list ∧ o.command ≠ .led_status ∧
      o.command ≠ .led_set ∧ o.command ≠ .led_compat then
    syntax_of "N76 direct supports LED list/status/set only; unknown state cannot be restored by identify/locate"
  else
    pure o

/-- Who handles the command. -/
def check_command (compatibility : Bool) (args : List Text) : Except ParseError Unit :=
  if compatibility then
    pure ()
  else
    match hardware_command_position 0 args with
    | none => .error .not_hardware
    | some 0 => pure ()
    | some _ => syntax_of "unexpected option before LED/disk command"

def parse_command (g : Globals) (compatibility : Bool) : Except ParseError HardwareOptions :=
  if g.help || (compatibility && g.args.length == 0) then
    pure { g.o with command := .help }
  else if compatibility then
    compat_parse g.args { g.o with command := .led_compat } >>= check_scope
  else
    new_parse g.args g.o >>= check_scope

def hardware_parse (argv : List Text) (compatibility : Bool) :
    Except ParseError HardwareOptions := do
  let g ← global_loop { o := { compatibility := compatibility, seconds := 5 } } 0 argv.tail
  check_command compatibility g.args
  parse_command g compatibility

end UgreenNas.Core
