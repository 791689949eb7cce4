import UgreenNas.Led.Basic

/-! # LED profiles (`models/led_profiles.c`, `led/led_protocol.c`)

    Which LEDs a machine has, what they can do, and which transport they are
    behind; and the check of a patch against one of them.
-/

namespace UgreenNas.Led

/-! ## Targets -/

def MODES_ALL : UInt32 := 0x0f

def mode_bit (mode : UInt32) : UInt32 := 1 <<< mode

def color_bit (color : UInt32) : UInt32 := 1 <<< color

/-- `struct ugreenctl_led_descriptor`, as far as the patch check reads it. -/
structure Target extends Descriptor where
  rgb : Bool := false
  mode_mask : UInt32 := 0
  max_brightness : UInt32 := 0
  color_mask : UInt32 := 0
  min_on_ms : UInt32 := 0
  min_off_ms : UInt32 := 0
  min_brightness : UInt32 := 0
  min_breath_on_ms : UInt32 := 0
  min_breath_off_ms : UInt32 := 0
  max_cycle_ms : UInt32 := 0
  timing_quantum_ms : UInt32 := 0
  deriving DecidableEq, Repr

/-- `ugreenctl_led_validate_target_patch` -/
def validate_target_patch (target : Option Target) (patch : Patch) : Except Failure Unit := do
  validate_patch patch
  match target with
  | none => .error (failure .ENOTSUP "LED target is unavailable")
  | some target =>
    let value := patch.value
    if patch.has PATCH_RGB ∧ ¬ target.rgb then
      .error (failure .ENOTSUP "this LED has no RGB hardware; use its supported palette colors")
    else if patch.has PATCH_COLOR ∧ target.color_mask &&& color_bit value.color = 0 then
      .error (failure .ENOTSUP "palette color is not supported by this LED")
    else if patch.has PATCH_MODE ∧ target.mode_mask &&& mode_bit value.mode = 0 then
      .error (failure .ENOTSUP "mode is not supported by this LED")
    else if patch.has PATCH_BRIGHTNESS ∧ target.max_brightness = 0 then
      .error (failure .ENOTSUP "brightness control is not supported by this LED")
    else if patch.has PATCH_BRIGHTNESS ∧ value.brightness > target.max_brightness then
      .error (failure .ENOTSUP "brightness exceeds this LED's supported range")
    else if patch.has PATCH_BRIGHTNESS ∧ value.brightness < target.min_brightness then
      .error (failure .ENOTSUP
        "brightness is below this LED's supported range; use mode off to turn it off")
    else if ¬ target.rgb ∧ target.max_brightness = 1 ∧ patch.has PATCH_MODE ∧
        patch.has PATCH_BRIGHTNESS ∧ value.mode ≤ 1 ∧
        ¬ (value.mode = 1 ↔ value.brightness ≠ 0) then
      .error (failure .ENOTSUP "binary LED cannot represent contradictory mode and brightness")
    else if patch.has PATCH_TIMING ∧ value.mode = MODE_BLINK ∧
        (value.on_ms < target.min_on_ms ∨ value.off_ms < target.min_off_ms) then
      .error (failure .ENOTSUP "on/off durations are below this LED driver's supported minimum")
    else if patch.has PATCH_TIMING ∧ value.mode = MODE_BREATH ∧
        (value.on_ms < target.min_breath_on_ms ∨ value.off_ms < target.min_breath_off_ms) then
      .error (failure .ENOTSUP "breath durations are below this LED driver's supported minimum")
    else if patch.has PATCH_TIMING ∧ target.max_cycle_ms ≠ 0 ∧
        value.on_ms + value.off_ms > target.max_cycle_ms then
      .error (failure .ENOTSUP "on/off cycle exceeds this LED controller's supported range")
    else if patch.has PATCH_TIMING ∧ target.timing_quantum_ms ≠ 0 ∧
        (value.on_ms % target.timing_quantum_ms ≠ 0 ∨
          value.off_ms % target.timing_quantum_ms ≠ 0) then
      .error (failure .ENOTSUP
        "on/off durations must be exact multiples of this LED controller's timing quantum")
    else
      .ok ()

/-! ## The table -/

/-- `struct ugreenctl_led_profile`, as far as the microcontroller transport
    reads it. -/
structure Model where
  id : String
  product_name : String
  /-- Without one, any revision. -/
  product_version : Option String := none
  protocol : String
  experimental : Bool := true
  leds : List Target
  expected_chip_id : Nat := 0
  chip_register : Nat := 0
  deriving DecidableEq, Repr

/-- What the identities carry of it. -/
def Model.profile (model : Model) : Profile where
  id := model.id
  product_name := model.product_name
  protocol := model.protocol
  leds := model.leds.map Target.toDescriptor

def rgb_led (name : String) (id : Nat) : Target :=
  { name := name, id := id, rgb := true, mode_mask := MODES_ALL, max_brightness := 255 }

def common_rgb : List Target := [rgb_led "power" 0, rgb_led "netdev" 1]

def rgb2 : List Target := common_rgb ++ [rgb_led "disk1" 2, rgb_led "disk2" 3]

def rgb4 : List Target := rgb2 ++ [rgb_led "disk3" 4, rgb_led "disk4" 5]

def rgb6 : List Target := rgb4 ++ [rgb_led "disk5" 6, rgb_led "disk6" 7]

def rgb8 : List Target := rgb6 ++ [rgb_led "disk7" 8, rgb_led "disk8" 9]

/-- The second network LED comes before the disks. -/
def idx6 : List Target :=
  common_rgb ++ [rgb_led "netdev2" 2, rgb_led "disk1" 3, rgb_led "disk2" 4, rgb_led "disk3" 5,
    rgb_led "disk4" 6, rgb_led "disk5" 7, rgb_led "disk6" 8]

/-- White, orange, and both. -/
def n76_colors : UInt32 := color_bit 1 ||| color_bit 2 ||| color_bit 3

def n76_led (name : String) (id : Nat) : Target :=
  { name := name, id := id, mode_mask := 7, max_brightness := 254, color_mask := n76_colors,
    min_on_ms := 20, min_off_ms := 20, min_brightness := 2 }

def n76_power : List Target := [n76_led "power" 0]

def dh2600_led (name : String) (id : Nat) : Target :=
  { name := name, id := id, mode_mask := 7, max_brightness := 1, color_mask := n76_colors,
    min_on_ms := 20, min_off_ms := 20 }

def n76_dh2600 : List Target :=
  [dh2600_led "power" 0, dh2600_led "disk1" 1, dh2600_led "disk2" 2]

/-- White, a second colour, and the two channels. -/
def gpio_colors (second : UInt32) : UInt32 :=
  color_bit 1 ||| color_bit second ||| color_bit 7 ||| color_bit 8

def gpio_led (second : UInt32) (name : String) (id : Nat) : Target :=
  { name := name, id := id, mode_mask := 3, max_brightness := 1, color_mask := gpio_colors second }

/-- With orange as the second colour. -/
def gpio2 : List Target :=
  [gpio_led 2 "power" 0, gpio_led 2 "netdev" 1, gpio_led 2 "disk1" 2, gpio_led 2 "disk2" 3]

/-- With red as the second colour. -/
def gpio4 : List Target :=
  [gpio_led 4 "power" 0, gpio_led 4 "netdev" 1, gpio_led 4 "disk1" 2, gpio_led 4 "disk2" 3,
    gpio_led 4 "disk3" 4, gpio_led 4 "disk4" 5]

def cs201x_led (name : String) (id : Nat) : Target :=
  { name := name, id := id, rgb := true, mode_mask := MODES_ALL, max_brightness := 255,
    min_on_ms := 100, min_off_ms := 100, min_breath_on_ms := 1000, min_breath_off_ms := 500,
    max_cycle_ms := 12750, timing_quantum_ms := 50 }

def cs201x2 : List Target :=
  [cs201x_led "power" 0, cs201x_led "netdev" 1, cs201x_led "disk1" 2, cs201x_led "disk2" 3]

def mcu_profile (key model : String) (revision : Option String) (proto : String)
    (layout : List Target) : Model :=
  { id := key, product_name := model, product_version := revision, protocol := proto,
    leds := layout, expected_chip_id := 0xc5b2, chip_register := 0x5a }

def legacy (key model : String) (layout : List Target) : Model :=
  mcu_profile key model none "legacy-i2c-block" layout

def n76_profile (key model : String) (layout : List Target) : Model :=
  { id := key, product_name := model, protocol := "sysfs-n76", leds := layout,
    expected_chip_id := 0xa5b5, chip_register := 0x5a }

def gpio_profile (key model : String) (layout : List Target) : Model :=
  { id := key, product_name := model, protocol := "sysfs-gpio", leds := layout }

def profiles : List Model := [
  legacy "dx4600-legacy" "DX4600" rgb4,
  legacy "dx4600plus-legacy" "DX4600+" rgb4,
  legacy "dx4600pro-legacy" "DX4600 Pro" rgb4,
  legacy "dx4700-legacy" "DX4700" rgb4,
  legacy "dx4700plus-legacy" "DX4700+" rgb4,
  mcu_profile "dxp2800-em-legacy" "DXP2800" (some "EM_DXP2800_V1.0.24") "legacy-i2c-block" rgb2,
  mcu_profile "dxp2800-v12-block" "DXP2800" (some "DXP2800 V1.2 251215") "smbus-block-le" rgb2,
  { id := "dxp2800gt-cs201x", product_name := "DXP2800 GT", protocol := "cs201x-sio",
    leds := cs201x2, expected_chip_id := 0x2011 },
  legacy "dxp4800-legacy" "DXP4800" rgb4,
  legacy "dxp4800s-legacy" "DXP4800S" rgb4,
  legacy "dxp4800plus-legacy" "DXP4800 Plus" rgb4,
  legacy "dxp4800pro-legacy" "DXP4800 Pro" rgb4,
  mcu_profile "dxp4800gt-block" "DXP4800 GT" none "smbus-block-be" rgb4,
  mcu_profile "dxp6800-block" "DXP6800" none "smbus-block-be" rgb6,
  legacy "dxp6800plus-legacy" "DXP6800 Plus" rgb6,
  legacy "dxp6800pro-legacy" "DXP6800 Pro" rgb6,
  legacy "dxp6800ultra-legacy" "DXP6800 Ultra" rgb6,
  legacy "dxp8800-legacy" "DXP8800" rgb8,
  legacy "dxp8800plus-legacy" "DXP8800 Plus" rgb8,
  legacy "dxp8800pro-legacy" "DXP8800 Pro" rgb8,
  legacy "dxp8800ultra-legacy" "DXP8800 Ultra" rgb8,
  mcu_profile "idx6011pro-block" "iDX6011 Pro" none "smbus-block-be" idx6,
  n76_profile "dxp480t-n76" "DXP480T Plus" n76_power,
  n76_profile "dh2600-n76" "DH2600" n76_dh2600,
  gpio_profile "dh2300-gpio" "DH2300" gpio2,
  gpio_profile "dh4300plus-gpio" "DH4300 Plus" gpio4]

/-- `find_target` -/
def Model.find_target (model : Model) (id : Nat) : Option Target :=
  model.leds.find? fun target => target.id = id

/-! ## Patches for an RGB LED -/

/-- An LED with all colours and modes, and no limits but those of a frame. -/
structure FullRgb (target : Target) : Prop where
  rgb : target.rgb = true
  mode_mask : target.mode_mask = MODES_ALL
  max_brightness : target.max_brightness = 255
  color_mask : target.color_mask = 0
  min_brightness : target.min_brightness = 0
  min_on_ms : target.min_on_ms = 0
  min_off_ms : target.min_off_ms = 0
  min_breath_on_ms : target.min_breath_on_ms = 0
  min_breath_off_ms : target.min_breath_off_ms = 0
  max_cycle_ms : target.max_cycle_ms = 0
  timing_quantum_ms : target.timing_quantum_ms = 0

/-- What the generic check lets through. -/
structure KnownPatch (patch : Patch) : Prop where
  nonempty : patch.fields ≠ 0
  known : patch.fields &&&
    ~~~(PATCH_MODE ||| PATCH_RGB ||| PATCH_BRIGHTNESS ||| PATCH_TIMING ||| PATCH_COLOR) = 0
  rgb : patch.has PATCH_RGB = true →
    patch.value.red ≤ 255 ∧ patch.value.green ≤ 255 ∧ patch.value.blue ≤ 255
  brightness : patch.has PATCH_BRIGHTNESS = true → patch.value.brightness ≤ 255
  color : patch.has PATCH_COLOR = true →
    patch.value.color ≤ COLOR_MAX ∧ ¬ patch.has PATCH_RGB = true
  mode : patch.has PATCH_MODE = true → patch.value.mode ≤ MODE_BREATH
  timing : patch.has PATCH_TIMING = true → patch.has PATCH_MODE = true ∧
    (patch.value.mode = MODE_BLINK ∨ patch.value.mode = MODE_BREATH)
  timed : patch.has PATCH_MODE = true → patch.value.mode = MODE_BLINK ∨
    patch.value.mode = MODE_BREATH → patch.has PATCH_TIMING = true
  cycle : patch.has PATCH_TIMING = true →
    patch.value.on_ms.toNat + patch.value.off_ms.toNat ≤ 65535

theorem check_ok_iff {p : Prop} [Decidable p] {e : Failure} {x : Except Failure Unit} :
    (if p then .error e else x) = .ok () ↔ ¬ p ∧ x = .ok () := by
  split <;> simp [*]

theorem cycle_fits_iff (on_ms off_ms : UInt32) :
    ¬ (on_ms > 65535 ∨ off_ms > 65535 ∨ on_ms > 65535 - off_ms) ↔
      on_ms.toNat + off_ms.toNat ≤ 65535 := by
  simp only [not_or, gt_iff_lt, UInt32.not_lt, UInt32.le_iff_toNat_le]
  constructor
  · intro h
    obtain ⟨hon, hoff, hsum⟩ := h
    rw [UInt32.toNat_sub_of_le _ _ (UInt32.le_iff_toNat_le.mpr hoff)] at hsum
    simp only [UInt32.reduceToNat] at hon hoff hsum
    omega
  · intro h
    have hoff : off_ms.toNat ≤ (65535 : UInt32).toNat := by
      simp only [UInt32.reduceToNat]
      omega
    rw [UInt32.toNat_sub_of_le _ _ (UInt32.le_iff_toNat_le.mpr hoff)]
    simp only [UInt32.reduceToNat]
    omega

theorem validate_patch_ok_iff (patch : Patch) :
    validate_patch patch = .ok () ↔ KnownPatch patch := by
  have hcycle := cycle_fits_iff patch.value.on_ms patch.value.off_ms
  simp only [validate_patch, check_ok_iff]
  constructor
  · intro h
    have hfits := h.2.2.2.2.2.2.2.1
    simp only [not_or, not_and, not_not, gt_iff_lt, UInt32.not_lt] at h
    obtain ⟨hknown, hrgb, hbrightness, hcolor, hmode, htiming, htimed, _⟩ := h
    exact ⟨hknown.1, hknown.2, hrgb, hbrightness, hcolor, hmode,
      fun h => ⟨(htiming h).1, or_iff_not_imp_left.mpr (htiming h).2⟩, htimed,
      fun h => hcycle.mp fun hover => hfits ⟨h, hover⟩⟩
  · intro h
    simp only [not_or, not_and, not_not, gt_iff_lt, UInt32.not_lt] at hcycle ⊢
    exact ⟨⟨h.nonempty, h.known⟩, h.rgb, h.brightness, h.color, h.mode,
      fun htiming => ⟨(h.timing htiming).1, or_iff_not_imp_left.mp (h.timing htiming).2⟩, h.timed,
      fun htiming => hcycle.mpr (h.cycle htiming), trivial⟩

/-- What the check of a target lets through. -/
structure TargetPatch (target : Target) (patch : Patch) : Prop extends KnownPatch patch where
  on_rgb : patch.has PATCH_RGB = true → target.rgb = true
  on_palette : patch.has PATCH_COLOR = true → target.color_mask &&& color_bit patch.value.color ≠ 0
  in_modes : patch.has PATCH_MODE = true → target.mode_mask &&& mode_bit patch.value.mode ≠ 0
  dimmable : patch.has PATCH_BRIGHTNESS = true → target.max_brightness ≠ 0
  not_brighter : patch.has PATCH_BRIGHTNESS = true → patch.value.brightness ≤ target.max_brightness
  not_darker : patch.has PATCH_BRIGHTNESS = true → target.min_brightness ≤ patch.value.brightness
  binary : target.rgb = false → target.max_brightness = 1 → patch.has PATCH_MODE = true →
    patch.has PATCH_BRIGHTNESS = true → patch.value.mode ≤ 1 →
    (patch.value.mode = 1 ↔ patch.value.brightness ≠ 0)
  blink : patch.has PATCH_TIMING = true → patch.value.mode = MODE_BLINK →
    target.min_on_ms ≤ patch.value.on_ms ∧ target.min_off_ms ≤ patch.value.off_ms
  breath : patch.has PATCH_TIMING = true → patch.value.mode = MODE_BREATH →
    target.min_breath_on_ms ≤ patch.value.on_ms ∧ target.min_breath_off_ms ≤ patch.value.off_ms
  in_cycle : patch.has PATCH_TIMING = true → target.max_cycle_ms ≠ 0 →
    patch.value.on_ms + patch.value.off_ms ≤ target.max_cycle_ms
  in_quanta : patch.has PATCH_TIMING = true → target.timing_quantum_ms ≠ 0 →
    patch.value.on_ms % target.timing_quantum_ms = 0 ∧
      patch.value.off_ms % target.timing_quantum_ms = 0

theorem validate_target_patch_ok_iff (target : Target) (patch : Patch) :
    validate_target_patch (some target) patch = .ok () ↔ TargetPatch target patch := by
  cases hcheck : validate_patch patch with
  | error e =>
    have hunknown : ¬ KnownPatch patch := by
      rw [← validate_patch_ok_iff, hcheck]
      simp
    constructor
    · intro haccepted
      simp [validate_target_patch, hcheck, bind, Except.bind] at haccepted
    · intro hpatch
      exact absurd hpatch.toKnownPatch hunknown
  | ok _ =>
    have hknown := (validate_patch_ok_iff patch).mp hcheck
    simp only [validate_target_patch, hcheck, bind, Except.bind, check_ok_iff]
    constructor
    · intro h
      simp only [not_or, not_and, not_not, gt_iff_lt, UInt32.not_lt, Bool.not_eq_true] at h
      obtain ⟨hrgb, hcolor, hmode, hdim, hbright, hdark, hbinary, hblink, hbreath, hcycle,
        hquantum, _⟩ := h
      exact ⟨hknown, by simpa using hrgb, hcolor, hmode, hdim, hbright, hdark, hbinary, hblink,
        hbreath, hcycle, hquantum⟩
    · intro h
      simp only [not_or, not_and, not_not, gt_iff_lt, UInt32.not_lt, Bool.not_eq_true]
      exact ⟨by simpa using h.on_rgb, h.on_palette, h.in_modes, h.dimmable, h.not_brighter,
        h.not_darker, h.binary, h.blink, h.breath, h.in_cycle, h.in_quanta, trivial⟩

/-- Without a target nothing is accepted. -/
theorem accepted_target {target : Option Target} {patch : Patch}
    (h : validate_target_patch target patch = .ok ()) :
    ∃ led, target = some led ∧ TargetPatch led patch := by
  cases target with
  | none =>
    cases hcheck : validate_patch patch with
    | error e => simp [validate_target_patch, hcheck, bind, Except.bind] at h
    | ok _ => simp [validate_target_patch, hcheck, bind, Except.bind] at h
  | some led => exact ⟨led, rfl, (validate_target_patch_ok_iff led patch).mp h⟩

/-- What a patch for a full RGB LED may ask for. -/
structure RgbPatch (patch : Patch) : Prop extends KnownPatch patch where
  colorless : patch.has PATCH_COLOR = false

theorem mode_in_mask {mode : UInt32} (h : mode ≤ MODE_BREATH) : MODES_ALL &&& mode_bit mode ≠ 0 := by
  have hlt : mode.toNat ≤ 3 := UInt32.le_iff_toNat_le.mp h
  have hcases : mode = 0 ∨ mode = 1 ∨ mode = 2 ∨ mode = 3 := by
    simp only [← UInt32.toNat_inj, UInt32.reduceToNat]
    omega
  rcases hcases with rfl | rfl | rfl | rfl <;> decide

/-- The check of a full RGB LED accepts these patches and no others. -/
theorem FullRgb.accepts_iff {target : Target} (h : FullRgb target) (patch : Patch) :
    validate_target_patch (some target) patch = .ok () ↔ RgbPatch patch := by
  rw [validate_target_patch_ok_iff]
  constructor
  · intro hpatch
    have hcolor := hpatch.on_palette
    rw [h.color_mask] at hcolor
    exact ⟨hpatch.toKnownPatch, by simpa using hcolor⟩
  · intro hpatch
    have hknown := hpatch.toKnownPatch
    refine ⟨hknown, fun _ => h.rgb, ?_, ?_, ?_, ?_, ?_, ?_, ?_, ?_, ?_, ?_⟩
    · simp [hpatch.colorless]
    · intro hhas
      rw [h.mode_mask]
      exact mode_in_mask (hknown.mode hhas)
    · simp [h.max_brightness]
    · rw [h.max_brightness]
      exact hknown.brightness
    · simp [h.min_brightness]
    · simp [h.rgb]
    · simp [h.min_on_ms, h.min_off_ms]
    · simp [h.min_breath_on_ms, h.min_breath_off_ms]
    · simp [h.max_cycle_ms]
    · simp [h.timing_quantum_ms]

theorem rgb_led_full (name : String) (id : Nat) : FullRgb (rgb_led name id) :=
  ⟨rfl, rfl, rfl, rfl, rfl, rfl, rfl, rfl, rfl, rfl, rfl⟩

/-- The three framings of the microcontroller. -/
def Model.is_mcu (model : Model) : Bool :=
  model.protocol = "legacy-i2c-block" || model.protocol = "smbus-block-be" ||
    model.protocol = "smbus-block-le"

theorem mcu_leds : ∀ model ∈ profiles, model.is_mcu = true →
    ∀ target ∈ model.leds, target = rgb_led target.name target.id ∧ target.id ≤ 9 := by
  decide +kernel

/-- Every LED behind a microcontroller is a full RGB LED... -/
theorem mcu_leds_full_rgb {model : Model} (hmodel : model ∈ profiles) (hmcu : model.is_mcu = true)
    {target : Target} (htarget : target ∈ model.leds) : FullRgb target := by
  rw [(mcu_leds model hmodel hmcu target htarget).1]
  exact rgb_led_full _ _

/-- ... that fits into a command frame. -/
theorem mcu_id_le {model : Model} (hmodel : model ∈ profiles) (hmcu : model.is_mcu = true)
    {id : Nat} {target : Target} (hfind : model.find_target id = some target) : id ≤ 9 := by
  have hid := List.find?_some hfind
  have hle := (mcu_leds model hmodel hmcu target (List.mem_of_find?_eq_some hfind)).2
  simp only [decide_eq_true_eq] at hid
  omega

end UgreenNas.Led
