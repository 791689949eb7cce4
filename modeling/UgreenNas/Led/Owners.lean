import UgreenNas.Disk.Text

/-! # Processes that own the LEDs (`led/led.c`)

    Another process that drives the LEDs is found by its name, or by that of
    the script that an interpreter runs.
-/

namespace UgreenNas.Led

open DiskMap

def owner_names : List Text :=
  ["ugreen_leds_cli".toList, "ugreen-diskiomon".toList, "ugreen-netdevmon".toList,
    "ugreen-netdevmon-multi".toList, "ugreen-power-led".toList, "ugreen-blink-disk".toList,
    "ugreen_led".toList, "ugreen-led".toList, "ledmon".toList, "ledctl".toList, "nas_led".toList,
    "led_ctrl".toList, "hwmonitor".toList, "hwmonitor-amd".toList, "hwmonitor-480t".toList]

def process_basename (name : Text) : Text :=
  match strrchr name '/' with
  | none => name
  | some (_, base) => base

/-- Linux comm truncates at 15 bytes. -/
def process_name_is_owner (name : Option Text) (truncated_comm : Bool) : Bool :=
  match name with
  | none => false
  | some name =>
    let base := process_basename name
    owner_names.any fun owner =>
      base = owner || (truncated_comm && base.length = 15 && base.isPrefixOf owner)

def is_shell (program : Text) : Bool :=
  program = "sh".toList || program = "bash".toList || program = "dash".toList ||
    program = "ash".toList || program = "ksh".toList || program = "zsh".toList

def is_python (program : Text) : Bool :=
  program = "python".toList || program = "python3".toList ||
    ("python3.".toList.isPrefixOf program && (program[8]?).any isdigit)

/-! ## The words of a command -/

def is_option (shell : Bool) (argument : Text) : Bool :=
  argument.head? = some '-' || (shell && argument.head? = some '+')

/-- `-c` executes text and `-s` reads stdin, `-m` runs a module. -/
def runs_no_script (shell : Bool) (argument : Text) : Bool :=
  if shell then
    argument = "--command".toList ||
      (argument.head? = some '-' && argument.tail.head? ≠ some '-' &&
        (argument.tail.contains 'c' || argument.tail.contains 's'))
  else
    argument = "-c".toList || argument = "-m".toList ||
      "-c".toList.isPrefixOf argument || "-m".toList.isPrefixOf argument

def takes_argument (shell : Bool) (argument : Text) : Bool :=
  if shell then
    argument = "-o".toList || argument = "+o".toList || argument = "--rcfile".toList ||
      argument = "--init-file".toList
  else
    argument = "-W".toList || argument = "-X".toList ||
      argument = "--check-hash-based-pycs".toList

/-- The loop over the arguments behind the program. -/
def script_loop (shell : Bool) : List (Option Text) → Bool
  | [] => false
  | none :: _ => false
  | some argument :: rest =>
    if argument = "--".toList then
      match rest with
      | [] => false
      | next :: _ => process_name_is_owner next false
    else if !is_option shell argument then
      process_name_is_owner (some argument) false
    else if runs_no_script shell argument then
      false
    else if takes_argument shell argument then
      match rest with
      | [] => false
      | _ :: rest => script_loop shell rest
    else
      script_loop shell rest

/-- `command_is_owner`, with the arguments from `argv[0]` on. -/
def command_is_owner (comm executable : Option Text) (arguments : List (Option Text)) : Bool :=
  if process_name_is_owner comm true || process_name_is_owner executable false then
    true
  else
    match arguments with
    | [] => false
    | none :: _ => false
    | some name :: rest =>
      let program := process_basename name
      if process_name_is_owner (some name) false then true
      else if !is_shell program && !is_python program then false
      else script_loop (is_shell program) rest

example : command_is_owner (some "sudo".toList) (some "/usr/bin/sudo".toList)
    [some "sudo".toList, some "ugreen_leds_cli".toList, some "all".toList] = false := by decide

example : command_is_owner (some "bash".toList) (some "/bin/bash".toList)
    [some "/bin/bash".toList, some "-o".toList, some "pipefail".toList, some "-x".toList,
      some "--".toList, some "/usr/bin/ugreen-netdevmon".toList] = true := by decide

end UgreenNas.Led
