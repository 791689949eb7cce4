import Mathlib.Logic.Function.Basic
import Mathlib.Tactic.Basic
import UgreenNas.Led.N76.Protocol

/-! # A plan changes one lamp

    The registers of the controller, and what the writes of a plan do to them:
    the lamp is stopped first, ends as requested, and the other lamps keep
    their modes, their timing and their colours.
-/

namespace UgreenNas.Led.N76

/-! ## The controller -/

/-- The byte registers, and which outputs are enabled. -/
structure Registers where
  bytes : UInt8 → UInt8
  enabled : UInt8

/-- Register 0xa0 enables the outputs of a mask, and 0xb1 disables them. -/
def Registers.write (registers : Registers) (command : Command) : Registers :=
  if command.reg = 0xa0 then
    { registers with enabled := registers.enabled ||| command.value }
  else if command.reg = 0xb1 then
    { registers with enabled := registers.enabled &&& ~~~command.value }
  else
    { registers with bytes := Function.update registers.bytes command.reg command.value }

def Registers.run (registers : Registers) (commands : List Command) : Registers :=
  commands.foldl Registers.write registers

@[simp] theorem Registers.run_nil (registers : Registers) : registers.run [] = registers := rfl

@[simp] theorem Registers.run_cons (registers : Registers) (command : Command)
    (commands : List Command) :
    registers.run (command :: commands) = (registers.write command).run commands := rfl

theorem Registers.run_append (registers : Registers) (first second : List Command) :
    registers.run (first ++ second) = (registers.run first).run second := by
  simp [Registers.run]

/-! ## Lamps -/

/-- Where the three lamps of the controller have their bits. -/
def lamp_bits : List UInt32 := [0, 4, 2]

def mode_registers (bit : UInt32) : List UInt8 := [0x50 + bit.toUInt8, 0x51 + bit.toUInt8]

/-- Two channels of an on time and two of an off time. -/
def timing_registers (bit : UInt32) : List UInt8 :=
  let base := bit.toUInt8 * 2
  [0xc0 + base, 0xc1 + base, 0xc2 + base, 0xc3 + base,
    0xd0 + base, 0xd1 + base, 0xd2 + base, 0xd3 + base]

def lamp_registers (bit : UInt32) : List UInt8 := mode_registers bit ++ timing_registers bit

def lamp_mask (bit : UInt32) : UInt8 := (3 <<< bit).toUInt8

/-- What the controller holds for one lamp. -/
structure Lamp where
  modes : List UInt8
  timing : List UInt8
  enabled : UInt8
  deriving DecidableEq, Repr

def Registers.lamp (registers : Registers) (bit : UInt32) : Lamp where
  modes := (mode_registers bit).map registers.bytes
  timing := (timing_registers bit).map registers.bytes
  enabled := registers.enabled &&& lamp_mask bit

theorem lamp_bit_mem (id : Nat) : lamp_bit id ∈ lamp_bits := by
  unfold lamp_bit
  by_cases h1 : id = 1
  · simp [h1, lamp_bits]
  · by_cases h2 : id = 2
    · simp [h2, lamp_bits]
    · simp [h1, h2, lamp_bits]

theorem lamp_registers_disjoint : ∀ bit ∈ lamp_bits, ∀ other ∈ lamp_bits, other ≠ bit →
    ∀ reg ∈ lamp_registers bit ++ [0xe0, 0xe1], reg ∉ lamp_registers other := by
  simp [lamp_bits, lamp_registers, mode_registers, timing_registers]

theorem mask_registers : ∀ bit ∈ lamp_bits, ∀ reg ∈ lamp_registers bit ++ [0xe0, 0xe1],
    reg ≠ 0xa0 ∧ reg ≠ 0xb1 := by
  simp [lamp_bits, lamp_registers, mode_registers, timing_registers]

theorem lamp_masks_disjoint : ∀ bit ∈ lamp_bits, ∀ other ∈ lamp_bits, other ≠ bit →
    lamp_mask bit &&& lamp_mask other = 0 := by
  simp [lamp_bits, lamp_mask]
  decide

/-! ## Confined commands -/

/-- A command for the lamp at `bit`: one of its registers, the shared
    brightness, or outputs of its own. -/
inductive Confined (bit : UInt32) (command : Command) : Prop
  | register : command.reg ∈ lamp_registers bit ++ [0xe0, 0xe1] → Confined bit command
  | outputs : command.reg = 0xa0 ∨ command.reg = 0xb1 →
      command.value &&& lamp_mask bit = command.value → Confined bit command

theorem own_outputs {value mine other : UInt8} (hmine : value &&& mine = value)
    (hdisjoint : mine &&& other = 0) : value &&& other = 0 := by
  rw [← hmine, UInt8.and_assoc, hdisjoint, UInt8.and_zero]

theorem enable_other {enabled value other : UInt8} (h : value &&& other = 0) :
    (enabled ||| value) &&& other = enabled &&& other := by
  rw [← UInt8.toBitVec_inj] at h ⊢
  ext i hi
  have hbit := congrArg (fun v => v.getLsbD i) h
  simp at hbit ⊢
  grind

theorem disable_other {enabled value other : UInt8} (h : value &&& other = 0) :
    (enabled &&& ~~~value) &&& other = enabled &&& other := by
  rw [← UInt8.toBitVec_inj] at h ⊢
  ext i hi
  have hbit := congrArg (fun v => v.getLsbD i) h
  simp at hbit ⊢
  grind

theorem update_other {bytes : UInt8 → UInt8} {reg value : UInt8} {others : List UInt8}
    (h : reg ∉ others) : others.map (Function.update bytes reg value) = others.map bytes := by
  apply List.map_congr_left
  intro other hother
  have hne : other ≠ reg := by
    intro heq
    exact h (heq ▸ hother)
  exact Function.update_of_ne hne value bytes

/-- A command for one lamp does nothing to another. -/
theorem lamp_write {bit other : UInt32} (hbit : bit ∈ lamp_bits) (hother : other ∈ lamp_bits)
    (hne : other ≠ bit) {command : Command} (h : Confined bit command) (registers : Registers) :
    (registers.write command).lamp other = registers.lamp other := by
  cases h with
  | register hreg =>
    have hout := lamp_registers_disjoint bit hbit other hother hne command.reg hreg
    have hmask : command.reg ≠ 0xa0 ∧ command.reg ≠ 0xb1 := mask_registers bit hbit _ hreg
    simp only [lamp_registers, List.mem_append, not_or] at hout
    simp [Registers.write, Registers.lamp, hmask, update_other hout.1, update_other hout.2]
  | outputs hreg hmine =>
    have hvalue := own_outputs hmine (lamp_masks_disjoint bit hbit other hother hne)
    by_cases henable : command.reg = 0xa0
    · simp [Registers.write, Registers.lamp, henable, enable_other hvalue]
    · have hdisable : command.reg = 0xb1 := hreg.resolve_left henable
      simp [Registers.write, Registers.lamp, hdisable, disable_other hvalue]

theorem lamp_run {bit other : UInt32} (hbit : bit ∈ lamp_bits) (hother : other ∈ lamp_bits)
    (hne : other ≠ bit) {commands : List Command} (h : ∀ command ∈ commands, Confined bit command)
    (registers : Registers) : (registers.run commands).lamp other = registers.lamp other := by
  induction commands generalizing registers with
  | nil => rfl
  | cons command rest ih =>
    rw [Registers.run_cons, ih (fun c hc => h c (List.mem_cons_of_mem _ hc)),
      lamp_write hbit hother hne (h command List.mem_cons_self)]

/-! ## Accepted patches -/

/-- An LED behind an N76 controller is white, orange, or both. -/
def N76Palette (model : Model) : Prop :=
  model.protocol = "sysfs-n76" →
    ∀ target ∈ model.leds, target.color_mask &&& ~~~n76_colors = 0

/-- So it is in the whole table. -/
theorem n76_palettes : ∀ model ∈ profiles, N76Palette model := by
  unfold N76Palette
  decide +kernel

theorem checked_ok_iff {α : Type} {p : Prop} [Decidable p] {e : Failure} {x : Except Failure α}
    {a : α} : (if p then .error e else x) = .ok a ↔ ¬ p ∧ x = .ok a := by
  split <;> simp [*]

/-- What the checks leave. -/
structure Accepted (patch : Patch) : Prop where
  known : KnownPatch patch
  sets_mode : patch.has PATCH_MODE = true
  mode : patch.value.mode = MODE_OFF ∨ patch.value.mode = 1 ∨ patch.value.mode = MODE_BLINK
  off : patch.value.mode = MODE_OFF → patch.fields = PATCH_MODE
  color : patch.value.mode ≠ MODE_OFF →
    patch.value.color = 1 ∨ patch.value.color = 2 ∨ patch.value.color = 3
  blink : patch.value.mode = MODE_BLINK → patch.value.color = 1 ∨ patch.value.color = 2

theorem color_bits : ∀ n : Fin 10, n.val = 1 ∨ n.val = 2 ∨ n.val = 3 ∨
    ~~~n76_colors &&& color_bit (UInt32.ofNat n.val) = color_bit (UInt32.ofNat n.val) := by
  decide +kernel

theorem palette_color {mask color : UInt32} (hmask : mask &&& ~~~n76_colors = 0)
    (hcolor : mask &&& color_bit color ≠ 0) (hmax : color ≤ COLOR_MAX) :
    color = 1 ∨ color = 2 ∨ color = 3 := by
  have hlt : color.toNat < 10 := Nat.lt_succ_of_le (UInt32.le_iff_toNat_le.mp hmax)
  have hbits := color_bits ⟨color.toNat, hlt⟩
  simp only [UInt32.ofNat_toNat] at hbits
  rcases hbits with h | h | h | hout
  · exact .inl (UInt32.toNat_inj.mp h)
  · exact .inr (.inl (UInt32.toNat_inj.mp h))
  · exact .inr (.inr (UInt32.toNat_inj.mp h))
  · -- a colour outside the palette is not in the mask
    rw [← hout, ← UInt32.and_assoc, hmask, UInt32.zero_and] at hcolor
    exact absurd rfl hcolor

theorem last_target_mem {model : Model} {id : Nat} {target : Target}
    (h : last_target model id = some target) : target ∈ model.leds :=
  (List.mem_filter.mp (List.mem_of_getLast? h)).1

theorem steady_mode {mode : UInt32} (hmax : mode ≤ MODE_BREATH) (hbreath : mode ≠ MODE_BREATH) :
    mode = MODE_OFF ∨ mode = 1 ∨ mode = MODE_BLINK := by
  have hlt : mode.toNat ≤ 3 := UInt32.le_iff_toNat_le.mp hmax
  simp only [ne_eq, MODE_BREATH, MODE_OFF, MODE_BLINK, ← UInt32.toNat_inj,
    UInt32.reduceToNat] at hbreath ⊢
  omega

theorem accepted_spec {profile : Option Model} {id : Nat} {patch : Patch} {model : Model}
    (hpalette : ∀ model, profile = some model → N76Palette model)
    (h : accepted profile id patch = .ok model) : profile = some model ∧ Accepted patch := by
  cases profile with
  | none => simp [accepted, reject] at h
  | some m =>
    simp only [accepted, reject, checked_ok_iff] at h
    obtain ⟨hprotocol, _, _, h⟩ := h
    rw [not_not] at hprotocol
    cases hcheck : validate_target_patch (last_target m id) patch with
    | error e => simp [hcheck] at h
    | ok _ =>
      simp only [hcheck, checked_ok_iff, Except.ok.injEq] at h
      obtain ⟨hsteady, hbreath, hoff, hlit, _, hblink, rfl⟩ := h
      obtain ⟨led, hled, htarget⟩ := accepted_target hcheck
      have hknown := htarget.toKnownPatch
      simp only [not_not] at hsteady
      have hhas : patch.value.mode ≠ MODE_OFF → patch.has PATCH_COLOR = true := by
        intro hmode
        by_contra hnone
        exact hlit ⟨hmode, hnone⟩
      refine ⟨rfl, hknown, hsteady, ?_, ?_, ?_, ?_⟩
      · exact steady_mode (hknown.mode hsteady) hbreath
      · intro hmode
        by_contra hfields
        exact hoff ⟨hmode, hfields⟩
      · intro hmode
        exact palette_color (hpalette m rfl hprotocol led (last_target_mem hled))
          (htarget.on_palette (hhas hmode))
          (hknown.color (hhas hmode)).1
      · intro hmode
        by_contra hneither
        rw [not_or] at hneither
        exact hblink ⟨hmode, hneither⟩

/-! ## The commands of a plan -/

/-- A call of `append` that loses nothing in its casts and is for the lamp. -/
structure Proper (bit : UInt32) (call : UInt32 × UInt32) : Prop where
  reg : call.1 < 256
  value : call.2 < 256
  confined : Confined bit (append call)

theorem stop_registers : ∀ bit ∈ lamp_bits,
    0x50 + bit < 256 ∧ 0x51 + bit < 256 ∧ 3 <<< bit < 256 ∧
      (0x50 + bit).toUInt8 ∈ mode_registers bit ∧ (0x51 + bit).toUInt8 ∈ mode_registers bit := by
  simp [lamp_bits, mode_registers]
  decide

theorem timing_channels : ∀ bit ∈ lamp_bits, ∀ channel ∈ [(0 : UInt32), 2],
    ∀ base ∈ [(0xc0 : UInt32), 0xc1, 0xd0, 0xd1],
      base + bit * 2 + channel < 256 ∧
        (base + bit * 2 + channel).toUInt8 ∈ timing_registers bit := by
  simp [lamp_bits, timing_registers]

theorem mode_channels : ∀ bit ∈ lamp_bits, ∀ channel ∈ [(0 : UInt32), 1],
    0x50 + bit + channel < 256 ∧ (0x50 + bit + channel).toUInt8 ∈ mode_registers bit := by
  simp [lamp_bits, mode_registers]

theorem color_outputs : ∀ bit ∈ lamp_bits, ∀ color ∈ [(1 : UInt32), 2, 3],
    color <<< bit < 256 ∧ (color <<< bit).toUInt8 &&& lamp_mask bit = (color <<< bit).toUInt8 := by
  simp [lamp_bits, lamp_mask]
  decide

theorem timing_channel_mem (color : UInt32) : timing_channel color ∈ [(0 : UInt32), 2] := by
  unfold timing_channel
  by_cases h : color = 2 <;> simp [h]

theorem mode_channel_mem (color : UInt32) : mode_channel color ∈ [(0 : UInt32), 1] := by
  unfold mode_channel
  by_cases h : color = 2 <;> simp [h]

theorem Proper.mode {bit reg value : UInt32} (hreg : reg < 256) (hvalue : value < 256)
    (hmem : reg.toUInt8 ∈ mode_registers bit) : Proper bit (reg, value) where
  reg := hreg
  value := hvalue
  confined := by
    apply Confined.register
    simp [append, lamp_registers, hmem]

theorem Proper.timing {bit reg value : UInt32} (hreg : reg < 256) (hvalue : value < 256)
    (hmem : reg.toUInt8 ∈ timing_registers bit) : Proper bit (reg, value) where
  reg := hreg
  value := hvalue
  confined := by
    apply Confined.register
    simp [append, lamp_registers, hmem]

theorem low_byte (n : UInt32) : n &&& 255 < 256 := by
  rw [UInt32.lt_iff_toNat_lt, UInt32.toNat_and]
  exact Nat.lt_succ_of_le Nat.and_le_right

theorem high_byte {n : UInt32} (h : n.toNat ≤ 65535) : n >>> 8 < 256 := by
  rw [UInt32.lt_iff_toNat_lt, UInt32.toNat_shiftRight]
  simp only [UInt32.reduceToNat, Nat.reduceMod, Nat.shiftRight_eq_div_pow, Nat.reducePow]
  omega

theorem stop_calls_proper {bit : UInt32} (hbit : bit ∈ lamp_bits) :
    ∀ call ∈ stop_calls bit, Proper bit call := by
  obtain ⟨hfirst, hsecond, hmask, hmem, hmem'⟩ := stop_registers bit hbit
  intro call hcall
  simp only [stop_calls, List.mem_cons, List.not_mem_nil, or_false] at hcall
  rcases hcall with rfl | rfl | rfl
  · exact .mode hfirst (by decide) hmem
  · exact .mode hsecond (by decide) hmem'
  · exact ⟨by simp, hmask, .outputs (.inr rfl) (by simp [append, lamp_mask])⟩

theorem timing_calls_proper {bit : UInt32} (hbit : bit ∈ lamp_bits) {value : Value}
    (hon : value.on_ms.toNat ≤ 65535) (hoff : value.off_ms.toNat ≤ 65535) :
    ∀ call ∈ timing_calls bit value, Proper bit call := by
  have hregs := timing_channels bit hbit _ (timing_channel_mem value.color)
  intro call hcall
  simp only [timing_calls, List.mem_cons, List.not_mem_nil, or_false] at hcall
  rcases hcall with rfl | rfl | rfl | rfl
  · exact .timing (hregs 0xc0 (by simp)).1 (low_byte _) (hregs 0xc0 (by simp)).2
  · exact .timing (hregs 0xc1 (by simp)).1 (high_byte hon) (hregs 0xc1 (by simp)).2
  · exact .timing (hregs 0xd0 (by simp)).1 (low_byte _) (hregs 0xd0 (by simp)).2
  · exact .timing (hregs 0xd1 (by simp)).1 (high_byte hoff) (hregs 0xd1 (by simp)).2

theorem brightness_calls_proper (bit : UInt32) {value : Value} (h : value.brightness ≤ 255) :
    ∀ call ∈ brightness_calls value, Proper bit call := by
  have hlt : value.brightness < 256 := by
    simp only [UInt32.lt_iff_toNat_lt, UInt32.le_iff_toNat_le, UInt32.reduceToNat] at h ⊢
    omega
  intro call hcall
  simp only [brightness_calls, List.mem_cons, List.not_mem_nil, or_false] at hcall
  rcases hcall with rfl | rfl
  · exact ⟨by simp, hlt, .register (by simp [append])⟩
  · exact ⟨by simp, hlt, .register (by simp [append])⟩

theorem Accepted.color_mem {patch : Patch} (h : Accepted patch)
    (hmode : patch.value.mode ≠ MODE_OFF) : patch.value.color ∈ [(1 : UInt32), 2, 3] := by
  simpa using h.color hmode

theorem enable_call_proper {bit : UInt32} (hbit : bit ∈ lamp_bits) {patch : Patch}
    (h : Accepted patch) (hmode : patch.value.mode ≠ MODE_OFF) :
    Proper bit (0xa0, patch.value.color <<< bit) where
  reg := by simp
  value := (color_outputs bit hbit _ (h.color_mem hmode)).1
  confined := .outputs (.inl rfl) (color_outputs bit hbit _ (h.color_mem hmode)).2

theorem blink_call_proper {bit : UInt32} (hbit : bit ∈ lamp_bits) (color : UInt32) :
    Proper bit (0x50 + bit + mode_channel color, 1) :=
  have hreg := mode_channels bit hbit _ (mode_channel_mem color)
  .mode hreg.1 (by decide) hreg.2

theorem setting_calls_proper {bit : UInt32} (hbit : bit ∈ lamp_bits) {patch : Patch}
    (h : Accepted patch) (dh2600 : Bool) :
    ∀ call ∈ setting_calls dh2600 bit patch, Proper bit call := by
  intro call hcall
  rcases List.mem_append.mp hcall with htiming | hbrightness
  · by_cases hhas : patch.has PATCH_TIMING = true
    · have hcycle := h.known.cycle hhas
      rw [if_pos hhas] at htiming
      exact timing_calls_proper hbit (by omega) (by omega) call htiming
    · simp [hhas] at htiming
  · by_cases hhas : ¬ dh2600 = true ∧ patch.has PATCH_BRIGHTNESS = true
    · rw [if_pos hhas] at hbrightness
      exact brightness_calls_proper bit (h.known.brightness hhas.2) call hbrightness
    · simp only [hhas, if_false, List.not_mem_nil] at hbrightness

theorem blink_calls_proper {bit : UInt32} (hbit : bit ∈ lamp_bits) (value : Value) :
    ∀ call ∈ blink_calls bit value, Proper bit call := by
  have hreg := mode_channels bit hbit _ (mode_channel_mem value.color)
  intro call hcall
  by_cases hmode : value.mode = MODE_BLINK
  · rw [blink_calls, if_pos hmode, List.mem_singleton] at hcall
    rw [hcall]
    exact .mode hreg.1 (by decide) hreg.2
  · simp [blink_calls, hmode] at hcall

theorem calls_proper {bit : UInt32} (hbit : bit ∈ lamp_bits) {patch : Patch} (h : Accepted patch)
    (dh2600 : Bool) : ∀ call ∈ calls dh2600 bit patch, Proper bit call := by
  intro call hcall
  rcases List.mem_append.mp hcall with hstop | hcall
  · exact stop_calls_proper hbit call hstop
  by_cases hmode : patch.value.mode = MODE_OFF
  · simp [hmode] at hcall
  rw [if_neg hmode, List.mem_append, List.mem_cons] at hcall
  rcases hcall with hsetting | rfl | hblink
  · exact setting_calls_proper hbit h dh2600 call hsetting
  · exact enable_call_proper hbit h hmode
  · exact blink_calls_proper hbit patch.value call hblink

theorem setting_calls_length (dh2600 : Bool) (bit : UInt32) (patch : Patch) :
    (setting_calls dh2600 bit patch).length ≤ 6 := by
  have htiming : (if patch.has PATCH_TIMING then timing_calls bit patch.value else []).length ≤ 4 := by
    split <;> simp [timing_calls]
  have hbrightness : (if ¬ dh2600 ∧ patch.has PATCH_BRIGHTNESS then brightness_calls patch.value
      else []).length ≤ 2 := by
    split <;> simp [brightness_calls]
  rw [setting_calls, List.length_append]
  omega

theorem calls_length (dh2600 : Bool) (bit : UInt32) (patch : Patch) :
    (calls dh2600 bit patch).length ≤ 11 := by
  have hsetting := setting_calls_length dh2600 bit patch
  have hblink : (blink_calls bit patch.value).length ≤ 1 := by
    by_cases hmode : patch.value.mode = MODE_BLINK <;> simp [blink_calls, hmode]
  by_cases hmode : patch.value.mode = MODE_OFF
  · simp [calls, hmode, stop_calls]
  · simp only [calls, hmode, stop_calls, if_false, List.length_append, List.length_cons,
      List.length_nil]
    omega

/-! ## Their execution -/

theorem bytes_run {reg : UInt8} {commands : List Command}
    (h : ∀ command ∈ commands, command.reg ≠ reg) (registers : Registers) :
    (registers.run commands).bytes reg = registers.bytes reg := by
  induction commands generalizing registers with
  | nil => rfl
  | cons command rest ih =>
    have hne : reg ≠ command.reg := (h command List.mem_cons_self).symm
    rw [Registers.run_cons, ih fun c hc => h c (List.mem_cons_of_mem _ hc)]
    by_cases henable : command.reg = 0xa0
    · simp [Registers.write, henable]
    · by_cases hdisable : command.reg = 0xb1
      · simp [Registers.write, hdisable]
      · simp [Registers.write, henable, hdisable, hne]

theorem enabled_run {commands : List Command}
    (h : ∀ command ∈ commands, command.reg ≠ 0xa0 ∧ command.reg ≠ 0xb1) (registers : Registers) :
    (registers.run commands).enabled = registers.enabled := by
  induction commands generalizing registers with
  | nil => rfl
  | cons command rest ih =>
    have hne := h command List.mem_cons_self
    rw [Registers.run_cons, ih fun c hc => h c (List.mem_cons_of_mem _ hc)]
    simp [Registers.write, hne]

/-- The lamp at `bit` without effects and without colours. -/
def Registers.stopped (registers : Registers) (bit : UInt32) : Registers where
  bytes := Function.update (Function.update registers.bytes (0x50 + bit).toUInt8 0)
    (0x51 + bit).toUInt8 0
  enabled := registers.enabled &&& ~~~lamp_mask bit

theorem run_stop {bit : UInt32} (hbit : bit ∈ lamp_bits) (registers : Registers) :
    registers.run ((stop_calls bit).map append) = registers.stopped bit := by
  simp only [lamp_bits, List.mem_cons, List.not_mem_nil, or_false] at hbit
  rcases hbit with rfl | rfl | rfl <;>
    simp [stop_calls, append, Registers.write, Registers.stopped, lamp_mask]

theorem setting_registers : ∀ bit ∈ lamp_bits, ∀ reg ∈ timing_registers bit ++ [0xe0, 0xe1],
    reg ∉ mode_registers bit ∧ reg ≠ 0xa0 ∧ reg ≠ 0xb1 := by
  simp [lamp_bits, mode_registers, timing_registers]

theorem setting_reg_mem {bit : UInt32} (hbit : bit ∈ lamp_bits) {dh2600 : Bool} {patch : Patch}
    {command : Command} (h : command ∈ (setting_calls dh2600 bit patch).map append) :
    command.reg ∈ timing_registers bit ++ [0xe0, 0xe1] := by
  have hregs := timing_channels bit hbit _ (timing_channel_mem patch.value.color)
  obtain ⟨call, hcall, rfl⟩ := List.mem_map.mp h
  rcases List.mem_append.mp hcall with htiming | hbrightness
  · by_cases hhas : patch.has PATCH_TIMING = true
    · simp only [hhas, if_true, timing_calls, List.mem_cons, List.not_mem_nil, or_false] at htiming
      rcases htiming with rfl | rfl | rfl | rfl
      · exact List.mem_append_left _ (hregs 0xc0 (by simp)).2
      · exact List.mem_append_left _ (hregs 0xc1 (by simp)).2
      · exact List.mem_append_left _ (hregs 0xd0 (by simp)).2
      · exact List.mem_append_left _ (hregs 0xd1 (by simp)).2
    · simp [hhas] at htiming
  · by_cases hhas : ¬ dh2600 = true ∧ patch.has PATCH_BRIGHTNESS = true
    · rw [if_pos hhas] at hbrightness
      simp only [brightness_calls, List.mem_cons, List.not_mem_nil, or_false] at hbrightness
      rcases hbrightness with rfl | rfl <;> simp [append]
    · simp only [hhas, if_false, List.not_mem_nil] at hbrightness

theorem blink_reg_mem {bit : UInt32} (hbit : bit ∈ lamp_bits) {value : Value} {command : Command}
    (h : command ∈ (blink_calls bit value).map append) : command.reg ∈ mode_registers bit := by
  have hreg := mode_channels bit hbit _ (mode_channel_mem value.color)
  obtain ⟨call, hcall, rfl⟩ := List.mem_map.mp h
  by_cases hmode : value.mode = MODE_BLINK
  · rw [blink_calls, if_pos hmode, List.mem_singleton] at hcall
    rw [hcall]
    exact hreg.2
  · simp [blink_calls, hmode] at hcall

/-- The registers when the settings of a lit lamp are made. -/
def Registers.set (registers : Registers) (dh2600 : Bool) (bit : UInt32) (patch : Patch) :
    Registers :=
  (registers.stopped bit).run ((setting_calls dh2600 bit patch).map append)

theorem run_lit {bit : UInt32} (hbit : bit ∈ lamp_bits) {patch : Patch}
    (hmode : patch.value.mode ≠ MODE_OFF) (dh2600 : Bool) (registers : Registers) :
    registers.run ((calls dh2600 bit patch).map append) =
      ((registers.set dh2600 bit patch).write (append (0xa0, patch.value.color <<< bit))).run
        ((blink_calls bit patch.value).map append) := by
  rw [calls, if_neg hmode, List.map_append, Registers.run_append, run_stop hbit, List.map_append,
    Registers.run_append, List.map_cons, Registers.run_cons, Registers.set]

theorem run_off {bit : UInt32} (hbit : bit ∈ lamp_bits) {patch : Patch}
    (hmode : patch.value.mode = MODE_OFF) (dh2600 : Bool) (registers : Registers) :
    registers.run ((calls dh2600 bit patch).map append) = registers.stopped bit := by
  rw [calls, if_pos hmode, List.append_nil, run_stop hbit]

@[simp] theorem write_enable_bytes (registers : Registers) (value : UInt32) :
    (registers.write (append (0xa0, value))).bytes = registers.bytes := rfl

@[simp] theorem write_enable_enabled (registers : Registers) (value : UInt32) :
    (registers.write (append (0xa0, value))).enabled = registers.enabled ||| value.toUInt8 := rfl

theorem stopped_modes {bit : UInt32} (hbit : bit ∈ lamp_bits) (registers : Registers) {reg : UInt8}
    (hreg : reg ∈ mode_registers bit) : (registers.stopped bit).bytes reg = 0 := by
  simp only [lamp_bits, List.mem_cons, List.not_mem_nil, or_false] at hbit
  simp only [mode_registers, List.mem_cons, List.not_mem_nil, or_false] at hreg
  rcases hbit with rfl | rfl | rfl <;> rcases hreg with rfl | rfl <;>
    simp [Registers.stopped, Function.update]

theorem set_modes {bit : UInt32} (hbit : bit ∈ lamp_bits) {dh2600 : Bool} {patch : Patch}
    (registers : Registers) {reg : UInt8} (hreg : reg ∈ mode_registers bit) :
    (registers.set dh2600 bit patch).bytes reg = 0 := by
  rw [Registers.set, bytes_run, stopped_modes hbit registers hreg]
  intro command hcommand heq
  exact (setting_registers bit hbit _ (setting_reg_mem hbit hcommand)).1 (heq ▸ hreg)

theorem set_enabled {bit : UInt32} (hbit : bit ∈ lamp_bits) {dh2600 : Bool} {patch : Patch}
    (registers : Registers) : (registers.set dh2600 bit patch).enabled =
      registers.enabled &&& ~~~lamp_mask bit := by
  rw [Registers.set, enabled_run]
  · rfl
  · intro command hcommand
    exact (setting_registers bit hbit _ (setting_reg_mem hbit hcommand)).2

theorem outputs_set {enabled mask value : UInt8} (h : value &&& mask = value) :
    (enabled &&& ~~~mask ||| value) &&& mask = value := by
  rw [← UInt8.toBitVec_inj] at h ⊢
  ext i hi
  have hbit := congrArg (fun v => v.getLsbD i) h
  simp at hbit ⊢
  grind

theorem run_modes {bit : UInt32} (hbit : bit ∈ lamp_bits) (dh2600 : Bool) (patch : Patch)
    (registers : Registers) :
    let after := registers.run ((calls dh2600 bit patch).map append)
    (after.bytes (0x50 + bit).toUInt8, after.bytes (0x51 + bit).toUInt8) =
      expected_modes patch.value := by
  obtain ⟨_, _, _, hfirst, hsecond⟩ := stop_registers bit hbit
  intro after
  unfold after
  by_cases hoff : patch.value.mode = MODE_OFF
  · rw [run_off hbit hoff, stopped_modes hbit _ hfirst, stopped_modes hbit _ hsecond, expected_modes,
      hoff, if_neg (by decide)]
  by_cases hblink : patch.value.mode = MODE_BLINK
  · have hset := fun reg => @set_modes bit hbit dh2600 patch registers reg
    simp only [run_lit hbit hoff, blink_calls, hblink, if_true, List.map_cons, List.map_nil,
      Registers.run_cons, Registers.run_nil, expected_modes, mode_channel]
    simp only [lamp_bits, List.mem_cons, List.not_mem_nil, or_false] at hbit
    by_cases hcolor : patch.value.color = 2
    · rcases hbit with rfl | rfl | rfl <;>
        simp [hcolor, append, Registers.write, hset, mode_registers]
    · rcases hbit with rfl | rfl | rfl <;>
        simp [hcolor, append, Registers.write, hset, mode_registers]
  · rw [run_lit hbit hoff, blink_calls, if_neg hblink, List.map_nil, Registers.run_nil,
      write_enable_bytes, set_modes hbit _ hfirst, set_modes hbit _ hsecond, expected_modes,
      if_neg hblink]

theorem run_enabled {bit : UInt32} (hbit : bit ∈ lamp_bits) {patch : Patch} (h : Accepted patch)
    (hmode : patch.value.mode ≠ MODE_OFF) (dh2600 : Bool) (registers : Registers) :
    (registers.run ((calls dh2600 bit patch).map append)).enabled &&& lamp_mask bit =
      (patch.value.color <<< bit).toUInt8 := by
  rw [run_lit hbit hmode, enabled_run, write_enable_enabled, set_enabled hbit, outputs_set]
  · exact (color_outputs bit hbit _ (h.color_mem hmode)).2
  · intro command hcommand
    exact mask_registers bit hbit _
      (List.mem_append_left _ (List.mem_append_left _ (blink_reg_mem hbit hcommand)))

/-- Two registers, the low byte first. -/
def Registers.word (registers : Registers) (reg : UInt8) : Nat :=
  (registers.bytes reg).toNat + 256 * (registers.bytes (reg + 1)).toNat

theorem little_endian {n : UInt32} (h : n.toNat ≤ 65535) :
    (n &&& 255).toUInt8.toNat + 256 * (n >>> 8).toUInt8.toNat = n.toNat := by
  have hlow : (n &&& 255).toNat = n.toNat % 256 := by
    rw [UInt32.toNat_and]
    exact Nat.and_two_pow_sub_one_eq_mod n.toNat 8
  have hhigh : (n >>> 8).toNat = n.toNat / 256 := by
    rw [UInt32.toNat_shiftRight]
    exact Nat.shiftRight_eq_div_pow n.toNat 8
  rw [UInt32.toNat_toUInt8, UInt32.toNat_toUInt8, hlow, hhigh]
  omega

/-- The timing registers of the selected channel. -/
def timing_base (bit color : UInt32) : UInt8 := (0xc0 + bit * 2 + timing_channel color).toUInt8

theorem run_timing_calls {bit : UInt32} (hbit : bit ∈ lamp_bits) {value : Value}
    (hon : value.on_ms.toNat ≤ 65535) (hoff : value.off_ms.toNat ≤ 65535) (registers : Registers) :
    let after := registers.run ((timing_calls bit value).map append)
    after.word (timing_base bit value.color) = value.on_ms.toNat ∧
      after.word (timing_base bit value.color + 0x10) = value.off_ms.toNat := by
  rw [← little_endian hon, ← little_endian hoff]
  simp only [lamp_bits, List.mem_cons, List.not_mem_nil, or_false] at hbit
  by_cases hcolor : value.color = 2
  · rcases hbit with rfl | rfl | rfl <;>
      simp [timing_calls, timing_base, timing_channel, hcolor, append, Registers.write,
        Registers.word, Function.update]
  · rcases hbit with rfl | rfl | rfl <;>
      simp [timing_calls, timing_base, timing_channel, hcolor, append, Registers.write,
        Registers.word, Function.update]

theorem timing_bases : ∀ bit ∈ lamp_bits, ∀ channel ∈ [(0 : UInt32), 2],
    ∀ offset ∈ [(0 : UInt8), 1, 0x10, 0x10 + 1],
      (0xc0 + bit * 2 + channel).toUInt8 + offset ∈ timing_registers bit := by
  simp [lamp_bits, timing_registers]

theorem timing_registers_apart : ∀ bit ∈ lamp_bits, ∀ reg ∈ mode_registers bit ++ [0xe0, 0xe1],
    reg ∉ timing_registers bit := by
  simp [lamp_bits, mode_registers, timing_registers]

theorem word_run {reg : UInt8} {commands : List Command}
    (hlow : ∀ command ∈ commands, command.reg ≠ reg)
    (hhigh : ∀ command ∈ commands, command.reg ≠ reg + 1) (registers : Registers) :
    (registers.run commands).word reg = registers.word reg := by
  rw [Registers.word, bytes_run hlow, bytes_run hhigh, Registers.word]

/-- Whatever follows the timing leaves it as it is. -/
theorem run_lit_word {bit : UInt32} (hbit : bit ∈ lamp_bits) {patch : Patch}
    (hmode : patch.value.mode ≠ MODE_OFF) (htiming : patch.has PATCH_TIMING = true) (dh2600 : Bool)
    (registers : Registers) {reg : UInt8} (hlow : reg ∈ timing_registers bit)
    (hhigh : reg + 1 ∈ timing_registers bit) :
    (registers.run ((calls dh2600 bit patch).map append)).word reg =
      ((registers.stopped bit).run ((timing_calls bit patch.value).map append)).word reg := by
  have hblink : ∀ r ∈ timing_registers bit,
      ∀ command ∈ (blink_calls bit patch.value).map append, command.reg ≠ r := by
    intro r hr command hcommand heq
    exact timing_registers_apart bit hbit _ (List.mem_append_left _ (blink_reg_mem hbit hcommand))
      (heq ▸ hr)
  have hbrightness : ∀ r ∈ timing_registers bit, ∀ command ∈ (if ¬ dh2600 ∧
      patch.has PATCH_BRIGHTNESS then brightness_calls patch.value else []).map append,
      command.reg ≠ r := by
    intro r hr command hcommand heq
    have hmem : command.reg ∈ [(0xe0 : UInt8), 0xe1] := by
      split at hcommand
      · simp only [brightness_calls, List.map_cons, List.map_nil, List.mem_cons,
          List.not_mem_nil, or_false] at hcommand
        rcases hcommand with rfl | rfl <;> simp [append]
      · simp at hcommand
    exact timing_registers_apart bit hbit _ (List.mem_append_right _ hmem) (heq ▸ hr)
  rw [run_lit hbit hmode, word_run (hblink reg hlow) (hblink (reg + 1) hhigh)]
  rw [Registers.word, write_enable_bytes, ← Registers.word, Registers.set, setting_calls,
    if_pos htiming, List.map_append, Registers.run_append,
    word_run (hbrightness reg hlow) (hbrightness (reg + 1) hhigh)]

theorem run_timing {bit : UInt32} (hbit : bit ∈ lamp_bits) {patch : Patch} (h : Accepted patch)
    (htiming : patch.has PATCH_TIMING = true) (dh2600 : Bool) (registers : Registers) :
    let after := registers.run ((calls dh2600 bit patch).map append)
    after.word (timing_base bit patch.value.color) = patch.value.on_ms.toNat ∧
      after.word (timing_base bit patch.value.color + 0x10) = patch.value.off_ms.toNat := by
  have hmode : patch.value.mode ≠ MODE_OFF := by
    rcases (h.known.timing htiming).2 with hblink | hbreath
    · simp [hblink, MODE_BLINK, MODE_OFF]
    · simp [hbreath, MODE_BREATH, MODE_OFF]
  have hcycle := h.known.cycle htiming
  have hbase := timing_bases bit hbit _ (timing_channel_mem patch.value.color)
  have hstored := @run_timing_calls bit hbit patch.value (by omega) (by omega)
    (registers.stopped bit)
  intro after
  unfold after
  rw [run_lit_word hbit hmode htiming, run_lit_word hbit hmode htiming]
  · exact hstored
  · exact hbase 0x10 (by simp)
  · have hnext := hbase (0x10 + 1) (by simp)
    rwa [← UInt8.add_assoc] at hnext
  · have hfirst := hbase 0 (by simp)
    rwa [UInt8.add_zero] at hfirst
  · exact hbase 1 (by simp)

/-! ## Plans -/

/-- A plan for the lamp at `bit`, and for no other. -/
structure OneLamp (dh2600 : Bool) (bit : UInt32) (patch : Patch) (plan : Plan) : Prop where
  bounded : plan.commands.length ≤ 12
  /-- Nothing is lost when the commands are stored in bytes. -/
  bytes : plan.commands = (calls dh2600 bit patch).map append ∧
    ∀ call ∈ calls dh2600 bit patch, call.1 < 256 ∧ call.2 < 256
  registers : plan.mode_registers = ((0x50 + bit).toUInt8, (0x51 + bit).toUInt8)
  stops : ∀ registers : Registers,
    registers.run (plan.commands.take 3) = registers.stopped bit
  others : ∀ (registers : Registers) (n : Nat), ∀ other ∈ lamp_bits, other ≠ bit →
    (registers.run (plan.commands.take n)).lamp other = registers.lamp other
  modes : ∀ registers : Registers,
    ((registers.run plan.commands).bytes plan.mode_registers.1,
      (registers.run plan.commands).bytes plan.mode_registers.2) = plan.expected_modes
  outputs : patch.value.mode ≠ MODE_OFF → ∀ registers : Registers,
    (registers.run plan.commands).enabled &&& lamp_mask bit = (patch.value.color <<< bit).toUInt8
  timing : patch.has PATCH_TIMING = true → ∀ registers : Registers,
    (registers.run plan.commands).word (timing_base bit patch.value.color) =
        patch.value.on_ms.toNat ∧
      (registers.run plan.commands).word (timing_base bit patch.value.color + 0x10) =
        patch.value.off_ms.toNat

theorem compose_one_lamp {bit : UInt32} (hbit : bit ∈ lamp_bits) {patch : Patch}
    (h : Accepted patch) (dh2600 : Bool) :
    OneLamp dh2600 bit patch (compose dh2600 bit patch) where
  bounded := by
    have hlength := calls_length dh2600 bit patch
    simp only [compose, List.length_map]
    omega
  bytes := ⟨rfl, fun call hcall =>
    ⟨(calls_proper hbit h dh2600 call hcall).reg, (calls_proper hbit h dh2600 call hcall).value⟩⟩
  registers := rfl
  stops registers := by
    rw [← run_stop hbit]
    simp [compose, calls, stop_calls]
  others registers n other hother hne := by
    apply lamp_run hbit hother hne
    intro command hcommand
    obtain ⟨call, hcall, rfl⟩ := List.mem_map.mp (List.mem_of_mem_take hcommand)
    exact (calls_proper hbit h dh2600 call hcall).confined
  modes registers := run_modes hbit dh2600 patch registers
  outputs hmode registers := run_enabled hbit h hmode dh2600 registers
  timing htiming registers := run_timing hbit h htiming dh2600 registers

/-- A plan is empty and refused, or it is for one lamp, which it stops first
    and leaves as requested. -/
theorem n76_plan_one_lamp (profile : Option Model)
    (hpalette : ∀ model, profile = some model → N76Palette model) (id : Nat) (patch : Patch) :
    (∃ e, n76_plan profile id patch = (.error e, {})) ∨
    ∃ model, profile = some model ∧ (n76_plan profile id patch).1 = .ok () ∧
      OneLamp (is_dh2600 model) (lamp_bit id) patch (n76_plan profile id patch).2 := by
  cases haccepted : accepted profile id patch with
  | error e =>
    left
    exact ⟨e, by simp [n76_plan, haccepted]⟩
  | ok model =>
    right
    obtain ⟨hprofile, hpatch⟩ := accepted_spec hpalette haccepted
    have hplan : n76_plan profile id patch =
        (.ok (), compose (is_dh2600 model) (lamp_bit id) patch) := by
      simp [n76_plan, haccepted]
    rw [hplan]
    exact ⟨model, hprofile, rfl, compose_one_lamp (lamp_bit_mem id) hpatch _⟩

def dh2600 : Model := n76_profile "dh2600-n76" "DH2600" n76_dh2600

def orange_blink : Patch where
  fields := PATCH_MODE ||| PATCH_COLOR ||| PATCH_TIMING
  value := { mode := MODE_BLINK, color := 2, on_ms := 0x1234, off_ms := 0x4321 }

/-- The first disk of a DH2600 blinks orange. -/
theorem n76_plan_one_lamp_dh2600 :
    (n76_plan (some dh2600) 1 orange_blink).1 = .ok () ∧
      OneLamp true 4 orange_blink (n76_plan (some dh2600) 1 orange_blink).2 := by
  have hpalette : ∀ model, some dh2600 = some model → N76Palette model := by
    intro model hmodel
    cases hmodel
    exact n76_palettes dh2600 (by decide)
  have haccepted : (n76_plan (some dh2600) 1 orange_blink).1 = .ok () := by decide
  rcases n76_plan_one_lamp (some dh2600) hpalette 1 orange_blink with ⟨e, he⟩ | ⟨model, hmodel, h⟩
  · simp [he] at haccepted
  · cases hmodel
    exact h

end UgreenNas.Led.N76
