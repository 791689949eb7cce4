import UgreenNas.Led.Profiles

/-! # Plans for the N76 controller (`led/led_n76_protocol.c`)

    A patch becomes a list of byte writes for one lamp of the controller, or is
    refused.  Nothing is sent here.
-/

namespace UgreenNas.Led.N76

/-! ## Plans -/

/-- `struct ugreenctl_n76_command` -/
structure Command where
  reg : UInt8
  value : UInt8
  settle_ms : Nat
  deriving DecidableEq, Repr

/-- `struct ugreenctl_n76_plan`; `count` is the length of the list. -/
structure Plan where
  commands : List Command := []
  mode_registers : UInt8 × UInt8 := (0, 0)
  expected_modes : UInt8 × UInt8 := (0, 0)
  unverified_fields : UInt32 := 0
  deriving DecidableEq, Repr

def reject {α : Type} (message : String) : Except Failure α := .error (failure .ENOTSUP message)

/-- `append`, of the register and the value it is called with. -/
def append (call : UInt32 × UInt32) : Command where
  reg := call.1.toUInt8
  value := call.2.toUInt8
  settle_ms := if call.1 = 0xa0 ∨ call.1 = 0xb1 then 2 else 10

def MODE_OFF : UInt32 := 0

/-! ## What is accepted -/

/-- `dh2600` -/
def is_dh2600 (model : Model) : Bool :=
  model.product_name = "DH2600" && model.id = "dh2600-n76"

/-- The loop over the LEDs keeps the last one with that number. -/
def last_target (model : Model) (id : Nat) : Option Target :=
  (model.leds.filter fun target => target.id = id).getLast?

/-- The checks of `ugreenctl_n76_plan`; the model, if there is nothing to
    refuse. -/
def accepted (profile : Option Model) (id : Nat) (patch : Patch) : Except Failure Model :=
  match profile with
  | none => reject "no exact N76 model profile"
  | some model =>
    if model.protocol ≠ "sysfs-n76" then
      reject "no exact N76 model profile"
    else if ¬ is_dh2600 model ∧ (model.product_name ≠ "DXP480T Plus" ∨ model.id ≠ "dxp480t-n76") then
      reject "N76 model is not independently mapped"
    else if (is_dh2600 model ∧ id > 2) ∨ (¬ is_dh2600 model ∧ id ≠ 0) then
      reject "N76 target has no physical LED"
    else
      match validate_target_patch (last_target model id) patch with
      | .error e => .error e
      | .ok () =>
        if ¬ patch.has PATCH_MODE then
          reject "N76 direct plan requires an explicit mode; current output is unknown"
        else if patch.value.mode = MODE_BREATH then
          reject "N76 arbitrary breath timing has no verified protocol"
        else if patch.value.mode = MODE_OFF ∧ patch.fields ≠ PATCH_MODE then
          reject "N76 off plan accepts only mode off"
        else if patch.value.mode ≠ MODE_OFF ∧ ¬ patch.has PATCH_COLOR then
          reject "N76 direct on/blink requires an explicit palette color"
        else if is_dh2600 model ∧ patch.has PATCH_BRIGHTNESS ∧ patch.value.brightness ≠ 1 then
          reject "DH2600 has binary brightness; use mode off to extinguish it"
        else if patch.value.mode = MODE_BLINK ∧ patch.value.color ≠ 1 ∧ patch.value.color ≠ 2 then
          reject "N76 combined-color blink has no verified protocol"
        else
          .ok model

/-! ## Composition -/

/-- Power bit 0, disk1 bit 4, disk2 bit 2. -/
def lamp_bit (id : Nat) : UInt32 := if id = 1 then 4 else if id = 2 then 2 else 0

/-- The timing registers of a colour, counted from the lamp's first. -/
def timing_channel (color : UInt32) : UInt32 := if color = 2 then 2 else 0

/-- The mode register of a colour, counted from the lamp's first. -/
def mode_channel (color : UInt32) : UInt32 := if color = 2 then 1 else 0

def timing_calls (bit : UInt32) (value : Value) : List (UInt32 × UInt32) :=
  let channel := timing_channel value.color
  [(0xc0 + bit * 2 + channel, value.on_ms &&& 255),
    (0xc1 + bit * 2 + channel, value.on_ms >>> 8),
    (0xd0 + bit * 2 + channel, value.off_ms &&& 255),
    (0xd1 + bit * 2 + channel, value.off_ms >>> 8)]

def brightness_calls (value : Value) : List (UInt32 × UInt32) :=
  [(0xe0, value.brightness), (0xe1, value.brightness)]

/-- Both effects are stopped and both colours turned off. -/
def stop_calls (bit : UInt32) : List (UInt32 × UInt32) :=
  [(0x50 + bit, 0), (0x51 + bit, 0), (0xb1, 3 <<< bit)]

/-- What is set while the lamp is off. -/
def setting_calls (dh2600 : Bool) (bit : UInt32) (patch : Patch) : List (UInt32 × UInt32) :=
  (if patch.has PATCH_TIMING then timing_calls bit patch.value else []) ++
  if ¬ dh2600 ∧ patch.has PATCH_BRIGHTNESS then brightness_calls patch.value else []

def blink_calls (bit : UInt32) (value : Value) : List (UInt32 × UInt32) :=
  if value.mode = MODE_BLINK then [(0x50 + bit + mode_channel value.color, 1)] else []

/-- The calls of `append`, in their order. -/
def calls (dh2600 : Bool) (bit : UInt32) (patch : Patch) : List (UInt32 × UInt32) :=
  stop_calls bit ++
  if patch.value.mode = MODE_OFF then []
  else
    setting_calls dh2600 bit patch ++
    (0xa0, patch.value.color <<< bit) :: blink_calls bit patch.value

def expected_modes (value : Value) : UInt8 × UInt8 :=
  if value.mode = MODE_BLINK then
    if mode_channel value.color = 0 then (1, 0) else (0, 1)
  else (0, 0)

def compose (dh2600 : Bool) (bit : UInt32) (patch : Patch) : Plan where
  commands := (calls dh2600 bit patch).map append
  mode_registers := ((0x50 + bit).toUInt8, (0x51 + bit).toUInt8)
  expected_modes := expected_modes patch.value
  unverified_fields := PATCH_MODE ||| PATCH_COLOR ||| PATCH_BRIGHTNESS ||| PATCH_TIMING

/-- `ugreenctl_n76_plan`: what it returns, and what it leaves in `out`. -/
def n76_plan (profile : Option Model) (id : Nat) (patch : Patch) : Except Failure Unit × Plan :=
  match accepted profile id patch with
  | .error e => (.error e, {})
  | .ok model => (.ok (), compose (is_dh2600 model) (lamp_bit id) patch)

end UgreenNas.Led.N76
