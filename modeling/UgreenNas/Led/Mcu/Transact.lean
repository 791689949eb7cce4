import UgreenNas.Effect.Exec
import UgreenNas.Led.Mcu.Driver

/-! # Transactions with a microcontroller

    Against a microcontroller that takes the commands of its framing and
    stores them, a patch changes the fields it asks for and nothing else,
    and an identify leaves everything as it was.
-/

namespace UgreenNas.Led.Mcu

open Effect Effect.Proc

/-! ## The machine -/

/-- A bus on which nothing fails, with the chip on it. -/
def answer (framing : Framing) (identity : Identity) (chip_id : Nat) : Prog.Handler mcu_io Chip
  | m, .owners => (.ok (), m)
  | m, .read_identity => (.ok identity, m)
  | m, .read_byte _ => (.ok (if m.acknowledged then 1 else 0), m)
  | m, .read_word _ => (.ok chip_id, m)
  | m, .read_block command => (.ok (m.leds (command - 0x81)).status, m)
  | m, .write_block transfer id data => (.ok (), m.write framing transfer id data)
  | m, .pause_ms _ => ((), m)

/-- A session that was opened for writing on a microcontroller of this
    framing, on a machine that has not changed since. -/
structure Works (framing : Framing) (session : Session) : Prop where
  listed : session.model ∈ profiles
  protocol : session.model.protocol = framing.protocol
  locked : session.locked = true
  apply : session.access.apply = true
  force : session.model.experimental = true → session.access.force = true
  profile : session.identity.profile = some session.model.profile
  chip_id : session.chip_id = session.model.expected_chip_id

/-- The machine of the session. -/
abbrev machine (framing : Framing) (session : Session) : Prog.Handler mcu_io Chip :=
  answer framing session.identity session.model.expected_chip_id

namespace Works

variable {framing : Framing} {session : Session}

theorem is_mcu (h : Works framing session) : session.model.is_mcu = true := by
  unfold Model.is_mcu
  rw [h.protocol]
  cases framing <;> decide

theorem same_identity (h : Works framing session) :
    Led.same_identity session.identity session.identity = true := by
  simp [Led.same_identity, h.profile]

theorem known_chip (h : Works framing session) : session.model.expected_chip_id ≠ 0 := by
  have hall : ∀ model ∈ profiles, model.is_mcu = true → model.expected_chip_id ≠ 0 := by
    decide +kernel
  exact hall session.model h.listed h.is_mcu

end Works

section commands

variable {framing : Framing} {session : Session} {m : Chip} {id : Nat}

theorem does_io {ε : Type} (o : McuOp) : Does (machine framing session)
    (io o : Proc mcu_io Session ε o.Ans) session m (machine framing session m o).1 session
      (machine framing session m o).2 := rfl

/-! ## Reading -/

theorem does_verify (h : Works framing session) :
    Does (machine framing session) verify_session_identity session m () session m := by
  apply does_ctx.bind
  apply (does_io McuOp.read_identity).bind
  apply (does_lift session.identity).bind
  exact does_bail (not_not.mpr h.same_identity) _

theorem does_owners : Does (machine framing session) owners session m () session m :=
  (does_io McuOp.owners).bind (does_lift ())

theorem does_pause {ε : Type} (milliseconds : Nat) :
    Does (machine framing session) (pause_ms milliseconds : Proc mcu_io Session ε Unit) session m
      () session m :=
  (does_io (McuOp.pause_ms milliseconds)).bind (does_pure ())

theorem does_read_status : Does (machine framing session) (read_status id) session m
    (m.leds id).status session m := by
  apply (does_io (McuOp.read_block (0x81 + id))).bind
  have hid : 0x81 + id - 0x81 = id := by omega
  simp only [answer, hid]
  apply (does_lift (m.leds id).status).bind
  exact Does.bail_then (by simp [Registers.status, Registers.bytes]) (does_pure _)

/-- A readable LED is read at the first attempt... -/
theorem does_read (h : Works framing session) (hfind : session.model.find_target id ≠ none)
    (hreadable : (m.leds id).Readable) :
    Does (machine framing session) (read id) session m (m.leds id).value session m := by
  have hvalue : Does (machine framing session) (read_value id) session m (m.leds id).value
      session m := by
    apply does_read_status.bind
    rw [Registers.decode_status, if_pos hreadable]
    exact does_lift _
  apply does_ctx.bind
  apply Does.bail_then (by simp [h.locked, hfind])
  apply (does_verify h).bind
  apply does_owners.mapError.bind
  apply (does_pause 8).bind
  apply hvalue.attempt.bind
  exact does_pure _

/-- ... and one that is not, at none. -/
theorem fails_read (h : Works framing session) (hfind : session.model.find_target id ≠ none)
    (hunreadable : ¬ (m.leds id).Readable) :
    Fails (machine framing session) (read id) session m (status_failure id .EBADMSG) session m := by
  have hvalue : Fails (machine framing session) (read_value id) session m .EBADMSG session m := by
    apply does_read_status.then_fails
    rw [Registers.decode_status, if_neg hunreadable]
    exact fails_lift _
  have hretry : ¬ (Errno.EBADMSG = .EBUSY ∨ Errno.EBADMSG = .EACCES ∨ Errno.EBADMSG = .EPERM) := by
    decide
  have hattempts : ∀ pauses, Fails (machine framing session) (read_attempts id pauses .EBADMSG)
      session m (status_failure id .EBADMSG) session m := by
    intro pauses
    induction pauses with
    | nil => exact fails_fail _
    | cons pause rest ih =>
      apply (does_pause pause).then_fails
      apply hvalue.attempt.then_fails
      simp only [hretry, if_false]
      exact ih
  apply does_ctx.then_fails
  apply (does_bail (by simp [h.locked, hfind]) _).then_fails
  apply (does_verify h).then_fails
  apply does_owners.mapError.then_fails
  exact hattempts [8, 3, 3]

/-! ## Commands -/

theorem does_authorize (h : Works framing session) :
    Does (machine framing session) authorize_write session m () session m := by
  have hchip : Does (machine framing session) read_chip_id session m
      session.model.expected_chip_id session m :=
    does_ctx.bind ((does_io (McuOp.read_word session.model.chip_register)).bind (does_lift _))
  have hforce : ¬ (¬ session.access.apply = true ∨
      (session.model.experimental = true ∧ ¬ session.access.force = true)) := by
    intro hrefused
    rcases hrefused with happly | hexperimental
    · exact happly h.apply
    · exact hexperimental.2 (h.force hexperimental.1)
  apply does_ctx.bind
  apply Does.bail_then (by simp [h.locked])
  apply Does.bail_then hforce
  apply (does_verify h).bind
  apply does_owners.mapError.bind
  apply hchip.attempt.bind
  apply (does_lift session.model.expected_chip_id).bind
  apply Does.bail_then (by simp [h.known_chip, h.chip_id])
  apply Does.bail_then (by simp [h.chip_id])
  exact does_bail (by simp [h.is_mcu]) _

/-- The chip after a command it took. -/
def stored (m : Chip) (id : Nat) (command : UInt8) (p : Parameters) : Chip where
  leds := Function.update m.leds id ((m.leds id).store command p)
  acknowledged := true

theorem write_bytes (hid : id ≤ 9) (command : UInt8) (p : Parameters) :
    m.write framing (framing.bytes id command p).1 id (framing.bytes id command p).2 =
      stored m id command p := by
  unfold Chip.write
  rw [framing.parse_bytes hid]
  rfl

/-- The driver sends what a microcontroller of this framing takes. -/
theorem does_write_command (h : Works framing session) (hid : id ≤ 9) {command : UInt8}
    (hcommand : 1 ≤ command ∧ command ≤ 5) (p : Parameters) :
    ∃ frame, command_frame session.model.protocol id command p = .ok frame ∧
      Does (machine framing session) (write_command id frame) session m () session
        (stored m id command p) := by
  have hbytes := @write_bytes framing m id hid command p
  have hknown : ∀ id' ≤ 9, ¬ (id' > 9 ∨ command < 1 ∨ command > 5) := by
    intro id' hid'
    rw [not_or, not_or]
    exact ⟨by omega, UInt8.not_lt.mpr hcommand.1, UInt8.not_lt.mpr hcommand.2⟩
  have hencode : ∀ id' ≤ 9, encode id' command p = .ok ([UInt8.ofNat id'] ++
      command_bytes command p ++ [UInt8.ofNat (checksum (command_bytes command p) / 256),
        UInt8.ofNat (checksum (command_bytes command p))]) :=
    fun id' hid' => if_neg (hknown id' hid')
  have hprotocol := h.protocol
  cases framing with
  | legacy_i2c_block =>
    have hsmbus : is_smbus session.model.protocol = false := by
      rw [hprotocol]
      decide
    refine ⟨(Framing.legacy_i2c_block.bytes id command p).2, ?_, ?_⟩
    · rw [command_frame, hsmbus]
      exact hencode id hid
    · apply does_ctx.bind
      simp only [hsmbus]
      apply (does_io (McuOp.write_block .i2c_block id _)).bind
      rw [← hbytes]
      exact does_lift ()
  | smbus_block_be =>
    have hsmbus : is_smbus session.model.protocol = true := by
      rw [hprotocol]
      decide
    have horder : decide (session.model.protocol = "smbus-block-le") = false := by
      rw [hprotocol]
      decide
    refine ⟨(Framing.smbus_block_be.bytes id command p).2 ++ [0], ?_, ?_⟩
    · rw [command_frame, hsmbus, horder, if_pos rfl, encode_smbus, hencode 0 (by omega)]
      rfl
    · apply does_ctx.bind
      simp only [hsmbus]
      apply (does_io (McuOp.write_block .smbus_block id _)).bind
      rw [← hbytes]
      exact does_lift ()
  | smbus_block_le =>
    have hsmbus : is_smbus session.model.protocol = true := by
      rw [hprotocol]
      decide
    have horder : decide (session.model.protocol = "smbus-block-le") = true := by
      rw [hprotocol]
      decide
    refine ⟨(Framing.smbus_block_le.bytes id command p).2 ++ [0], ?_, ?_⟩
    · rw [command_frame, hsmbus, horder, if_pos rfl, encode_smbus, hencode 0 (by omega)]
      rfl
    · apply does_ctx.bind
      simp only [hsmbus]
      apply (does_io (McuOp.write_block .smbus_block id _)).bind
      rw [← hbytes]
      exact does_lift ()

/-- A command that leaves the LED readable and as expected succeeds. -/
theorem does_change (h : Works framing session) (hfind : session.model.find_target id ≠ none)
    (hid : id ≤ 9) {command : UInt8} (hcommand : 1 ≤ command ∧ command ≤ 5) {p : Parameters}
    {expected : Patch} (hreadable : ((m.leds id).store command p).Readable)
    (hretained : Retained expected ((m.leds id).store command p).value) :
    Does (machine framing session) (change id command p expected) session m
      ((m.leds id).store command p).value session (stored m id command p) := by
  obtain ⟨frame, hframe, hwrite⟩ := does_write_command (m := m) h hid hcommand p
  have hled : (stored m id command p).leds id = (m.leds id).store command p :=
    Function.update_self _ _ _
  have hack : Does (machine framing session) read_ack session (stored m id command p) () session
      (stored m id command p) :=
    (does_io (McuOp.read_byte 0x80)).bind ((does_lift 1).bind (does_bail (by decide) _))
  have hread := does_read (m := stored m id command p) h hfind (by rw [hled]; exact hreadable)
  rw [hled] at hread
  apply (does_authorize h).bind
  apply does_ctx.bind
  rw [hframe]
  apply (does_lift frame).bind
  apply (does_pause 1).bind
  apply hwrite.mapError.bind
  apply (does_pause 2).bind
  apply hack.mapError.bind
  apply hread.bind
  exact Does.bail_then (not_not.mpr hretained) (does_pure _)

end commands

/-! ## What a patch makes of an LED -/

/-- The value `patch` asks for on an LED that shows `value`. -/
def merged (patch : Patch) (value : Value) : Value :=
  { value with
    mode := if patch.has PATCH_MODE then patch.value.mode else value.mode
    brightness := if patch.has PATCH_BRIGHTNESS then patch.value.brightness else value.brightness
    red := if patch.has PATCH_RGB then patch.value.red else value.red
    green := if patch.has PATCH_RGB then patch.value.green else value.green
    blue := if patch.has PATCH_RGB then patch.value.blue else value.blue
    on_ms := if patch.has PATCH_TIMING then patch.value.on_ms else value.on_ms
    off_ms := if patch.has PATCH_TIMING then patch.value.off_ms else value.off_ms }

theorem retained_merged (patch : Patch) (value : Value) : Retained patch (merged patch value) := by
  refine ⟨fun h => ?_, fun h => ?_, fun h => ?_, fun h => ?_⟩ <;> simp [merged, h]

section parts

variable {patch : Patch} {r : Registers}

/-- A value that fits into a byte is what is read back. -/
theorem byte_roundtrip {x : UInt32} (h : x ≤ 255) : x.toUInt8.toUInt32 = x := by
  have hle : x.toNat ≤ 255 := UInt32.le_iff_toNat_le.mp h
  apply UInt32.toNat_inj.mp
  simp only [UInt8.toNat_toUInt32, UInt32.toNat_toUInt8]
  omega

/-- The two bytes of a value that fits into a word. -/
theorem word_roundtrip {x : UInt32} (h : x.toNat ≤ 65535) :
    word (x >>> 8).toUInt8 x.toUInt8 = x.toNat := by
  simp only [word, UInt32.toNat_toUInt8, UInt32.toNat_shiftRight, UInt32.reduceToNat,
    Nat.shiftRight_eq_div_pow, Nat.reduceMod, Nat.reducePow]
  omega

def rgb_parameters (patch : Patch) : Parameters :=
  ⟨patch.value.red.toUInt8, patch.value.green.toUInt8, patch.value.blue.toUInt8, 0⟩

def timing_parameters (patch : Patch) : Parameters :=
  let cycle := patch.value.on_ms + patch.value.off_ms
  ⟨(cycle >>> 8).toUInt8, cycle.toUInt8, (patch.value.on_ms >>> 8).toUInt8,
    patch.value.on_ms.toUInt8⟩

/-- The command of `change_mode` for a mode, and its parameters. -/
def mode_command (patch : Patch) : UInt8 × Parameters :=
  if patch.value.mode ≤ 1 then (3, ⟨patch.value.mode.toUInt8, 0, 0, 0⟩)
  else (if patch.value.mode = MODE_BLINK then 4 else 5, timing_parameters patch)

def patch_rgb (patch : Patch) (r : Registers) : Registers :=
  if patch.has PATCH_RGB then r.store 2 (rgb_parameters patch) else r

def patch_brightness (patch : Patch) (r : Registers) : Registers :=
  if patch.has PATCH_BRIGHTNESS then r.store 1 ⟨patch.value.brightness.toUInt8, 0, 0, 0⟩ else r

def patch_mode (patch : Patch) (r : Registers) : Registers :=
  if patch.has PATCH_MODE then r.store (mode_command patch).1 (mode_command patch).2 else r

/-- The registers after all commands of a patch. -/
def patched (patch : Patch) (r : Registers) : Registers :=
  patch_mode patch (patch_brightness patch (patch_rgb patch r))

theorem cycle_toNat (h : RgbPatch patch) (htiming : patch.has PATCH_TIMING = true) :
    (patch.value.on_ms + patch.value.off_ms).toNat =
      patch.value.on_ms.toNat + patch.value.off_ms.toNat := by
  have hcycle := h.cycle htiming
  rw [UInt32.toNat_add]
  omega

theorem patch_rgb_value (h : RgbPatch patch) (r : Registers) :
    (patch_rgb patch r).value = { r.value with
      red := if patch.has PATCH_RGB then patch.value.red else r.value.red
      green := if patch.has PATCH_RGB then patch.value.green else r.value.green
      blue := if patch.has PATCH_RGB then patch.value.blue else r.value.blue } := by
  by_cases hrgb : patch.has PATCH_RGB = true
  · obtain ⟨hred, hgreen, hblue⟩ := h.rgb hrgb
    simp only [patch_rgb, hrgb, if_true, Registers.store, rgb_parameters, Registers.value,
      byte_roundtrip hred, byte_roundtrip hgreen, byte_roundtrip hblue]
    rfl
  · simp only [patch_rgb, hrgb, Bool.false_eq_true, if_false]

theorem patch_rgb_readable (patch : Patch) (r : Registers) :
    (patch_rgb patch r).Readable ↔ r.Readable := by
  unfold patch_rgb
  split <;> exact Iff.rfl

theorem patch_brightness_value (h : RgbPatch patch) (r : Registers) :
    (patch_brightness patch r).value = { r.value with
      brightness :=
        if patch.has PATCH_BRIGHTNESS then patch.value.brightness else r.value.brightness } := by
  by_cases hbrightness : patch.has PATCH_BRIGHTNESS = true
  · simp only [patch_brightness, hbrightness, if_true, Registers.store, Registers.value,
      byte_roundtrip (h.brightness hbrightness)]
    rfl
  · simp only [patch_brightness, hbrightness, Bool.false_eq_true, if_false]

theorem patch_brightness_readable (patch : Patch) (r : Registers) :
    (patch_brightness patch r).Readable ↔ r.Readable := by
  unfold patch_brightness
  split <;> exact Iff.rfl

/-- A mode is steady without timing, or an effect with timing. -/
theorem mode_cases (h : RgbPatch patch) (hmode : patch.has PATCH_MODE = true) :
    (patch.value.mode ≤ 1 ∧ patch.has PATCH_TIMING = false) ∨
    (¬ patch.value.mode ≤ 1 ∧ patch.has PATCH_TIMING = true ∧
      (patch.value.mode = MODE_BLINK ∨ patch.value.mode = MODE_BREATH)) := by
  have hle : patch.value.mode.toNat ≤ 3 := UInt32.le_iff_toNat_le.mp (h.mode hmode)
  by_cases hsteady : patch.value.mode ≤ 1
  · left
    refine ⟨hsteady, ?_⟩
    by_contra htiming
    obtain ⟨_, heffect⟩ := h.timing (by simpa using htiming)
    rcases heffect with heq | heq <;> rw [heq] at hsteady <;> revert hsteady <;> decide
  · right
    have heffect : patch.value.mode = MODE_BLINK ∨ patch.value.mode = MODE_BREATH := by
      have hlarge : ¬ patch.value.mode.toNat ≤ 1 := fun h => hsteady (UInt32.le_iff_toNat_le.mpr h)
      simp only [← UInt32.toNat_inj, MODE_BLINK, MODE_BREATH, UInt32.reduceToNat]
      omega
    exact ⟨hsteady, h.timed hmode heffect, heffect⟩

theorem timing_words (h : RgbPatch patch) (htiming : patch.has PATCH_TIMING = true) :
    word (timing_parameters patch).p0 (timing_parameters patch).p1 =
      patch.value.on_ms.toNat + patch.value.off_ms.toNat ∧
    word (timing_parameters patch).p2 (timing_parameters patch).p3 = patch.value.on_ms.toNat := by
  have hcycle := h.cycle htiming
  have hsum := cycle_toNat h htiming
  constructor
  · rw [← hsum]
    exact word_roundtrip (by omega)
  · exact word_roundtrip (by omega)

/-- Storing an effect stores its mode and its timing. -/
theorem store_effect (h : RgbPatch patch) (htiming : patch.has PATCH_TIMING = true)
    (heffect : patch.value.mode = MODE_BLINK ∨ patch.value.mode = MODE_BREATH) (r : Registers) :
    (r.store (if patch.value.mode = MODE_BLINK then 4 else 5) (timing_parameters patch)).Readable ∧
    (r.store (if patch.value.mode = MODE_BLINK then 4 else 5) (timing_parameters patch)).value =
      { r.value with mode := patch.value.mode, on_ms := patch.value.on_ms,
                     off_ms := patch.value.off_ms } := by
  obtain ⟨hcycle, hon⟩ := timing_words h htiming
  generalize timing_parameters patch = p at hcycle hon ⊢
  have hstored : ∀ mode : UInt8, mode ≤ 3 → mode.toUInt32 = patch.value.mode →
      ({ r with mode := mode, cycle_high := p.p0, cycle_low := p.p1, on_high := p.p2,
                on_low := p.p3 } : Registers).Readable ∧
      ({ r with mode := mode, cycle_high := p.p0, cycle_low := p.p1, on_high := p.p2,
                on_low := p.p3 } : Registers).value =
        { r.value with mode := patch.value.mode, on_ms := patch.value.on_ms,
                       off_ms := patch.value.off_ms } := by
    intro mode hle hmode
    constructor
    · refine ⟨hle, ?_⟩
      show word p.p2 p.p3 ≤ word p.p0 p.p1
      omega
    · simp only [Registers.value, Registers.on, Registers.cycle, hmode, hcycle, hon,
        Nat.add_sub_cancel_left, UInt32.ofNat_toNat]
  rcases heffect with heq | heq
  · rw [if_pos heq]
    exact hstored 2 (by decide) heq.symm
  · rw [if_neg (by rw [heq]; decide)]
    exact hstored 3 (by decide) heq.symm

theorem patch_mode_spec (h : RgbPatch patch) (hreadable : r.Readable) :
    (patch_mode patch r).Readable ∧ (patch_mode patch r).value = { r.value with
      mode := if patch.has PATCH_MODE then patch.value.mode else r.value.mode
      on_ms := if patch.has PATCH_TIMING then patch.value.on_ms else r.value.on_ms
      off_ms := if patch.has PATCH_TIMING then patch.value.off_ms else r.value.off_ms } := by
  by_cases hmode : patch.has PATCH_MODE = true
  · rcases mode_cases h hmode with ⟨hsteady, htiming⟩ | ⟨heffect, htiming, hcases⟩
    · have hle : patch.value.mode ≤ 255 := UInt32.le_trans hsteady (by decide)
      have hbyte : patch.value.mode.toUInt8 ≤ 3 := by
        rw [UInt32.le_iff_toNat_le] at hsteady
        rw [UInt8.le_iff_toNat_le, UInt32.toNat_toUInt8]
        simp only [UInt32.reduceToNat, UInt8.reduceToNat] at hsteady ⊢
        omega
      simp only [patch_mode, mode_command, hmode, hsteady, htiming, if_true, Bool.false_eq_true,
        if_false, Registers.store]
      refine ⟨⟨hbyte, hreadable.2⟩, ?_⟩
      simp only [Registers.value, byte_roundtrip hle]
      rfl
    · simp only [patch_mode, mode_command, hmode, heffect, htiming, if_true, if_false]
      exact store_effect h htiming hcases r
  · have htiming : patch.has PATCH_TIMING = false := by
      by_contra htiming
      exact hmode (h.timing (by simpa using htiming)).1
    simp only [patch_mode, hmode, htiming, Bool.false_eq_true, if_false]
    exact ⟨hreadable, trivial⟩

/-- The commands of a patch make of a readable LED what the patch asks for. -/
theorem patched_spec (h : RgbPatch patch) (hreadable : r.Readable) :
    (patched patch r).Readable ∧ (patched patch r).value = merged patch r.value := by
  have hrgb := (patch_rgb_readable patch r).mpr hreadable
  have hbrightness := (patch_brightness_readable patch (patch_rgb patch r)).mpr hrgb
  obtain ⟨hmode, hvalue⟩ := patch_mode_spec h hbrightness
  refine ⟨hmode, ?_⟩
  rw [patched, hvalue, patch_brightness_value h, patch_rgb_value h]
  rfl

end parts

/-! ## Applying a patch -/

section transactions

variable {framing : Framing} {session : Session} {m : Chip} {id : Nat} {patch : Patch}

/-- One part of a patch: its command, if the patch asks for it. -/
theorem does_part (h : Works framing session) (hfind : session.model.find_target id ≠ none)
    (hid : id ≤ 9) {has : Bool} {command : UInt8} (hcommand : 1 ≤ command ∧ command ≤ 5)
    {p : Parameters} {expected : Patch}
    (hreadable : has = true → ((m.leds id).store command p).Readable)
    (hretained : has = true → Retained expected ((m.leds id).store command p).value) :
    ∃ m', Does (machine framing session)
        (if has then change id command p expected else pure (m.leds id).value) session m
        (m'.leds id).value session m' ∧
      m'.leds = Function.update m.leds id
        (if has then (m.leds id).store command p else m.leds id) := by
  cases has with
  | false =>
    refine ⟨m, does_pure _, ?_⟩
    exact (Function.update_eq_self id m.leds).symm
  | true =>
    refine ⟨stored m id command p, ?_, rfl⟩
    have hled : (stored m id command p).leds id = (m.leds id).store command p :=
      Function.update_self _ _ _
    rw [hled]
    exact does_change h hfind hid hcommand (hreadable rfl) (hretained rfl)

theorem change_mode_eq (id : Nat) (patch : Patch) (readback : Value) :
    change_mode id patch readback =
      if patch.has PATCH_MODE then
        change id (mode_command patch).1 (mode_command patch).2
          ⟨if patch.value.mode ≤ 1 then PATCH_MODE else PATCH_MODE ||| PATCH_TIMING, patch.value⟩
      else pure readback := by
  unfold change_mode mode_command
  split
  · split <;> rfl
  · rfl

theorem mode_command_known (patch : Patch) :
    1 ≤ (mode_command patch).1 ∧ (mode_command patch).1 ≤ 5 := by
  have hall : ∀ command ∈ [(3 : UInt8), 4, 5], 1 ≤ command ∧ command ≤ 5 := by simp
  apply hall
  unfold mode_command
  split
  · simp
  · split <;> simp

theorem lacks {fields field : UInt32} {value : Value} (h : fields &&& field = 0) :
    ¬ (Patch.mk fields value).has field = true := by
  simp [Patch.has, h]

theorem retained_mode {wanted value : Value} (h : value.mode = wanted.mode) :
    Retained ⟨PATCH_MODE, wanted⟩ value := by
  refine ⟨fun hrgb => ?_, fun hbrightness => ?_, fun _ => h, fun htiming => ?_⟩
  · exact absurd hrgb (lacks (by decide))
  · exact absurd hbrightness (lacks (by decide))
  · exact absurd htiming (lacks (by decide))

theorem retained_effect {wanted value : Value} (hmode : value.mode = wanted.mode)
    (hon : value.on_ms = wanted.on_ms) (hoff : value.off_ms = wanted.off_ms) :
    Retained ⟨PATCH_MODE ||| PATCH_TIMING, wanted⟩ value := by
  refine ⟨fun hrgb => ?_, fun hbrightness => ?_, fun _ => hmode, fun _ => ⟨hon, hoff⟩⟩
  · exact absurd hrgb (lacks (by decide))
  · exact absurd hbrightness (lacks (by decide))

theorem retained_brightness {wanted value : Value} (h : value.brightness = wanted.brightness) :
    Retained ⟨PATCH_BRIGHTNESS, wanted⟩ value := by
  refine ⟨fun hrgb => ?_, fun _ => h, fun hmode => ?_, fun htiming => ?_⟩
  · exact absurd hrgb (lacks (by decide))
  · exact absurd hmode (lacks (by decide))
  · exact absurd htiming (lacks (by decide))

theorem retained_rgb {wanted value : Value} (hred : value.red = wanted.red)
    (hgreen : value.green = wanted.green) (hblue : value.blue = wanted.blue) :
    Retained ⟨PATCH_RGB, wanted⟩ value := by
  refine ⟨fun _ => ⟨hred, hgreen, hblue⟩, fun hbrightness => ?_, fun hmode => ?_,
    fun htiming => ?_⟩
  · exact absurd hbrightness (lacks (by decide))
  · exact absurd hmode (lacks (by decide))
  · exact absurd htiming (lacks (by decide))

theorem does_change_rgb (h : Works framing session) (hfind : session.model.find_target id ≠ none)
    (hid : id ≤ 9) (hpatch : RgbPatch patch) (hreadable : (m.leds id).Readable) :
    ∃ m', Does (machine framing session) (change_rgb id patch (m.leds id).value) session m
        (m'.leds id).value session m' ∧
      m'.leds = Function.update m.leds id (patch_rgb patch (m.leds id)) := by
  apply does_part h hfind hid (by decide)
  · intro hrgb
    have hled := (patch_rgb_readable patch (m.leds id)).mpr hreadable
    rwa [patch_rgb, if_pos hrgb] at hled
  · intro hrgb
    have hvalue := patch_rgb_value hpatch (m.leds id)
    rw [patch_rgb, if_pos hrgb] at hvalue
    show Retained _ ((m.leds id).store 2 (rgb_parameters patch)).value
    rw [hvalue]
    exact retained_rgb (if_pos hrgb) (if_pos hrgb) (if_pos hrgb)

theorem does_change_brightness (h : Works framing session)
    (hfind : session.model.find_target id ≠ none) (hid : id ≤ 9) (hpatch : RgbPatch patch)
    (hreadable : (m.leds id).Readable) :
    ∃ m', Does (machine framing session) (change_brightness id patch (m.leds id).value) session m
        (m'.leds id).value session m' ∧
      m'.leds = Function.update m.leds id (patch_brightness patch (m.leds id)) := by
  apply does_part h hfind hid (by decide)
  · intro hbrightness
    have hled := (patch_brightness_readable patch (m.leds id)).mpr hreadable
    rwa [patch_brightness, if_pos hbrightness] at hled
  · intro hbrightness
    have hvalue := patch_brightness_value hpatch (m.leds id)
    rw [patch_brightness, if_pos hbrightness] at hvalue
    rw [hvalue]
    exact retained_brightness (if_pos hbrightness)

theorem does_change_mode (h : Works framing session)
    (hfind : session.model.find_target id ≠ none) (hid : id ≤ 9) (hpatch : RgbPatch patch)
    (hreadable : (m.leds id).Readable) :
    ∃ m', Does (machine framing session) (change_mode id patch (m.leds id).value) session m
        (m'.leds id).value session m' ∧
      m'.leds = Function.update m.leds id (patch_mode patch (m.leds id)) := by
  rw [change_mode_eq]
  obtain ⟨hled, hvalue⟩ := patch_mode_spec hpatch hreadable
  apply does_part h hfind hid (mode_command_known patch)
  · intro hmode
    rwa [patch_mode, if_pos hmode] at hled
  · intro hmode
    rw [patch_mode, if_pos hmode] at hvalue
    rw [hvalue]
    rcases mode_cases hpatch hmode with ⟨hsteady, _⟩ | ⟨heffect, htiming, _⟩
    · rw [if_pos hsteady]
      exact retained_mode (if_pos hmode)
    · rw [if_neg heffect]
      exact retained_effect (if_pos hmode) (if_pos htiming) (if_pos htiming)

/-- A patch for a readable LED changes what it asks for... -/
theorem does_apply (h : Works framing session) {target : Target}
    (hfind : session.model.find_target id = some target)
    (hvalid : validate_target_patch (some target) patch = .ok ()) (hreadable : (m.leds id).Readable) :
    ∃ m', Does (machine framing session) (apply id patch) session m (m'.leds id).value session m' ∧
      m'.leds = Function.update m.leds id (patched patch (m.leds id)) := by
  have hfound : session.model.find_target id ≠ none := by simp [hfind]
  have hid := mcu_id_le h.listed h.is_mcu hfind
  have hfull := mcu_leds_full_rgb h.listed h.is_mcu (List.mem_of_find?_eq_some hfind)
  have hpatch := (hfull.accepts_iff patch).mp hvalid
  obtain ⟨m₁, hrgb, hleds₁⟩ := does_change_rgb h hfound hid hpatch hreadable
  have hled₁ : m₁.leds id = patch_rgb patch (m.leds id) := by
    rw [hleds₁, Function.update_self]
  have hreadable₁ : (m₁.leds id).Readable := by
    rw [hled₁]
    exact (patch_rgb_readable patch _).mpr hreadable
  obtain ⟨m₂, hbrightness, hleds₂⟩ := does_change_brightness h hfound hid hpatch hreadable₁
  have hled₂ : m₂.leds id = patch_brightness patch (m₁.leds id) := by
    rw [hleds₂, Function.update_self]
  have hreadable₂ : (m₂.leds id).Readable := by
    rw [hled₂]
    exact (patch_brightness_readable patch _).mpr hreadable₁
  obtain ⟨m₃, hmode, hleds₃⟩ := does_change_mode h hfound hid hpatch hreadable₂
  have hleds : m₃.leds = Function.update m.leds id (patched patch (m.leds id)) := by
    rw [hleds₃, hled₂, hled₁, hleds₂, hleds₁, Function.update_idem, Function.update_idem]
    rfl
  have hretained : Retained patch (m₃.leds id).value := by
    rw [hleds, Function.update_self, (patched_spec hpatch hreadable).2]
    exact retained_merged patch _
  refine ⟨m₃, ?_, hleds⟩
  apply does_ctx.bind
  apply Does.bail_then hfound
  rw [hfind, hvalid]
  apply (does_lift ()).bind
  apply (does_authorize h).bind
  apply (does_read h hfound hreadable).bind
  apply hrgb.bind
  apply hbrightness.bind
  apply hmode.bind
  exact Does.bail_then (not_not.mpr hretained) (does_pure _)

/-- ... and for an unreadable one, nothing. -/
theorem fails_apply (h : Works framing session) {target : Target}
    (hfind : session.model.find_target id = some target)
    (hvalid : validate_target_patch (some target) patch = .ok ())
    (hunreadable : ¬ (m.leds id).Readable) :
    Fails (machine framing session) (apply id patch) session m (status_failure id .EBADMSG)
      session m := by
  have hfound : session.model.find_target id ≠ none := by simp [hfind]
  apply does_ctx.then_fails
  apply (does_bail hfound _).then_fails
  rw [hfind, hvalid]
  apply (does_lift ()).then_fails
  apply (does_authorize h).then_fails
  exact (fails_read h hfound hunreadable).bind

/-! ## Identifying -/

theorem rgb_identify_patch : RgbPatch identify_patch :=
  ⟨(validate_patch_ok_iff identify_patch).mp (by decide +kernel), by decide +kernel⟩

/-- The first restoring patch asks for everything but a colour. -/
theorem restore_patch_has (original : Value) :
    (restore_patch original).has PATCH_RGB = true ∧
    (restore_patch original).has PATCH_BRIGHTNESS = true ∧
    (restore_patch original).has PATCH_MODE = true ∧
    (restore_patch original).has PATCH_TIMING = true ∧
    (restore_patch original).has PATCH_COLOR = false := by
  have hfields : (restore_patch original).fields =
      PATCH_RGB ||| PATCH_BRIGHTNESS ||| PATCH_MODE ||| PATCH_TIMING := rfl
  unfold Patch.has
  rw [hfields]
  decide

theorem byte_le (b : UInt8) : b.toUInt32 ≤ 255 := by
  have hlt := b.toNat_lt
  rw [UInt32.le_iff_toNat_le, UInt8.toNat_toUInt32]
  simp only [UInt32.reduceToNat]
  omega

/-- Its mode is an effect, the original one where that is one. -/
theorem restore_patch_mode {r : Registers} (hreadable : r.Readable) :
    (restore_patch r.value).value.mode = MODE_BLINK ∨
      (restore_patch r.value).value.mode = MODE_BREATH := by
  have hmode : r.mode.toNat ≤ 3 := UInt8.le_iff_toNat_le.mp hreadable.1
  unfold restore_patch
  split
  · exact .inl rfl
  · next hsteady =>
    have hlarge : ¬ r.mode.toNat ≤ 1 := by
      intro hle
      apply hsteady
      rw [UInt32.le_iff_toNat_le, Registers.value, UInt8.toNat_toUInt32]
      exact hle
    simp only [← UInt32.toNat_inj, MODE_BLINK, MODE_BREATH, UInt32.reduceToNat, Registers.value,
      UInt8.toNat_toUInt32]
    omega

theorem restore_patch_value (original : Value) : (restore_patch original).value =
    { original with mode := (restore_patch original).value.mode } := by
  unfold restore_patch
  split <;> rfl

theorem rgb_restore_patch {r : Registers} (hreadable : r.Readable) :
    RgbPatch (restore_patch r.value) := by
  obtain ⟨hrgb, hbrightness, hmode, htiming, hcolor⟩ := restore_patch_has r.value
  have heffect := restore_patch_mode hreadable
  have hvalue := restore_patch_value r.value
  have hcycle := word_lt r.cycle_high r.cycle_low
  have hfits : r.value.on_ms.toNat + r.value.off_ms.toNat ≤ 65535 := by
    rw [Registers.on_ms_toNat, Registers.off_ms_toNat]
    have hle := hreadable.2
    have hlt : r.cycle < 65536 := hcycle
    omega
  refine ⟨⟨?_, ?_, fun _ => ?_, fun _ => ?_, fun h => ?_, fun _ => ?_, fun _ => ⟨hmode, heffect⟩,
    fun _ _ => htiming, fun _ => ?_⟩, hcolor⟩
  · show PATCH_RGB ||| PATCH_BRIGHTNESS ||| PATCH_MODE ||| PATCH_TIMING ≠ 0
    decide
  · show (PATCH_RGB ||| PATCH_BRIGHTNESS ||| PATCH_MODE ||| PATCH_TIMING) &&& _ = 0
    decide
  · rw [hvalue]
    exact ⟨byte_le r.red, byte_le r.green, byte_le r.blue⟩
  · rw [hvalue]
    exact byte_le r.brightness
  · rw [hcolor] at h
    cases h
  · rcases heffect with heq | heq <;> rw [heq] <;> decide
  · rw [hvalue]
    exact hfits

theorem merged_restore_patch {r r₀ : Registers} : merged (restore_patch r₀.value) r.value =
    { r₀.value with mode := (restore_patch r₀.value).value.mode } := by
  obtain ⟨hrgb, hbrightness, hmode, htiming, _⟩ := restore_patch_has r₀.value
  simp only [merged, hrgb, hbrightness, hmode, htiming, if_true]
  rw [restore_patch_value]
  rfl

theorem mode_patch_has (original : Value) : (mode_patch original).has PATCH_MODE = true ∧
    (mode_patch original).has PATCH_RGB = false ∧
    (mode_patch original).has PATCH_BRIGHTNESS = false ∧
    (mode_patch original).has PATCH_TIMING = false ∧
    (mode_patch original).has PATCH_COLOR = false := by
  have hfields : (mode_patch original).fields = PATCH_MODE := rfl
  unfold Patch.has
  rw [hfields]
  decide

/-- The second patch is for a steady mode only. -/
theorem rgb_mode_patch {original : Value} (hsteady : original.mode ≤ 1) :
    RgbPatch (mode_patch original) := by
  obtain ⟨hmode, hrgb, hbrightness, htiming, hcolor⟩ := mode_patch_has original
  have hmode_value : (mode_patch original).value.mode ≤ 1 := hsteady
  refine ⟨⟨?_, ?_, fun h => ?_, fun h => ?_, fun h => ?_, fun _ => ?_, fun h => ?_, fun _ h => ?_,
    fun h => ?_⟩, hcolor⟩
  · show PATCH_MODE ≠ 0
    decide
  · show PATCH_MODE &&& _ = 0
    decide
  · rw [hrgb] at h
    cases h
  · rw [hbrightness] at h
    cases h
  · rw [hcolor] at h
    cases h
  · exact UInt32.le_trans hmode_value (by decide)
  · rw [htiming] at h
    cases h
  · rcases h with heq | heq
    · rw [heq] at hmode_value
      exact absurd hmode_value (by decide)
    · rw [heq] at hmode_value
      exact absurd hmode_value (by decide)
  · rw [htiming] at h
    cases h

theorem merged_mode_patch (original value : Value) :
    merged (mode_patch original) value = { value with mode := original.mode } := by
  obtain ⟨hmode, hrgb, hbrightness, htiming, _⟩ := mode_patch_has original
  simp only [merged, hmode, hrgb, hbrightness, htiming, if_true, Bool.false_eq_true, if_false]
  rfl

theorem does_wait_ticks (ticks n : Nat) :
    Does (machine framing session) (wait_ticks (fun _ => false) ticks n) session m () session m := by
  induction ticks generalizing n with
  | zero => exact does_pure ()
  | succ ticks ih => exact (does_pause 100).bind (ih (n + 1))

/-- The two restoring patches bring a readable LED back. -/
theorem does_restore (h : Works framing session) {target : Target}
    (hfind : session.model.find_target id = some target) {r₀ : Registers} (hr₀ : r₀.Readable)
    (hreadable : (m.leds id).Readable) :
    ∃ m₁ m₂, Does (machine framing session) (restore id (restore_patch r₀.value)) session m
        (m₁.leds id).value session m₁ ∧
      Does (machine framing session) (restore_mode id r₀.value (m₁.leds id).value) session m₁
        r₀.value session m₂ ∧
      m₂.leds = Function.update m.leds id r₀ := by
  have hfull := mcu_leds_full_rgb h.listed h.is_mcu (List.mem_of_find?_eq_some hfind)
  have hpatch := rgb_restore_patch hr₀
  obtain ⟨m₁, happly₁, hleds₁⟩ :=
    does_apply h hfind ((hfull.accepts_iff _).mpr hpatch) hreadable
  have hled₁ : m₁.leds id = patched (restore_patch r₀.value) (m.leds id) := by
    rw [hleds₁, Function.update_self]
  obtain ⟨hreadable₁, hvalue₁⟩ := patched_spec hpatch hreadable
  rw [← hled₁] at hreadable₁ hvalue₁
  rw [merged_restore_patch] at hvalue₁
  by_cases hmode : (restore_patch r₀.value).value.mode = r₀.value.mode
  · -- an effect is back at once
    have hback : (m₁.leds id).value = r₀.value := by
      rw [hvalue₁, hmode]
    have hr : m₁.leds id = r₀ := Registers.value_inj hreadable₁ hr₀ hback
    refine ⟨m₁, m₁, happly₁.mapError, ?_, ?_⟩
    · unfold restore_mode
      rw [if_neg (not_not.mpr hmode), hback]
      exact does_pure _
    · rw [← hr, hled₁]
      exact hleds₁
  · -- a steady mode takes the second patch
    have hsteady : r₀.value.mode ≤ 1 := by
      by_contra hnot
      exact hmode (by unfold restore_patch; rw [if_neg hnot])
    have hpatch₂ := rgb_mode_patch hsteady
    obtain ⟨m₂, happly₂, hleds₂⟩ :=
      does_apply h hfind ((hfull.accepts_iff _).mpr hpatch₂) hreadable₁
    obtain ⟨hreadable₂, hvalue₂⟩ := patched_spec hpatch₂ hreadable₁
    have hled₂ : m₂.leds id = patched (mode_patch r₀.value) (m₁.leds id) := by
      rw [hleds₂, Function.update_self]
    rw [← hled₂] at hreadable₂ hvalue₂
    have hback : (m₂.leds id).value = r₀.value := by
      rw [hvalue₂, merged_mode_patch, hvalue₁]
    have hr : m₂.leds id = r₀ := Registers.value_inj hreadable₂ hr₀ hback
    refine ⟨m₁, m₂, happly₁.mapError, ?_, ?_⟩
    · rw [hback] at happly₂
      unfold restore_mode
      rw [if_pos hmode]
      exact happly₂.mapError
    · rw [← hr, hled₂, hleds₂, hleds₁, Function.update_idem]

/-- An identify of a readable LED leaves all LEDs as they were. -/
theorem does_identify (h : Works framing session) {target : Target}
    (hfind : session.model.find_target id = some target) (hreadable : (m.leds id).Readable)
    {seconds : Nat} (hseconds : 1 ≤ seconds ∧ seconds ≤ 60) :
    ∃ m', Does (machine framing session) (identify id seconds fun _ => false) session m ()
      session m' ∧ m'.leds = m.leds := by
  have hfound : session.model.find_target id ≠ none := by simp [hfind]
  have hfull := mcu_leds_full_rgb h.listed h.is_mcu (List.mem_of_find?_eq_some hfind)
  obtain ⟨m₁, happly, hleds₁⟩ :=
    does_apply h hfind ((hfull.accepts_iff _).mpr rgb_identify_patch) hreadable
  have hreadable₁ : (m₁.leds id).Readable := by
    rw [hleds₁, Function.update_self]
    exact (patched_spec rgb_identify_patch hreadable).1
  obtain ⟨m₂, m₃, hrestore, hmode, hleds₃⟩ := does_restore h hfind hreadable hreadable₁
  refine ⟨m₃, ?_, ?_⟩
  · apply Does.bail_then (by omega)
    apply (does_authorize h).bind
    apply does_ctx.bind
    apply Does.bail_then hfound
    apply (does_read h hfound hreadable).bind
    apply happly.attempt.bind
    apply (does_wait_ticks (seconds * 10) 0).bind
    apply hrestore.bind
    apply hmode.bind
    apply Does.bail_then (not_not.mpr ⟨rfl, rfl, rfl, rfl, rfl, rfl, rfl⟩)
    exact (does_lift _).bind (does_pure ())
  · rw [hleds₃, hleds₁, Function.update_idem, Function.update_eq_self]

/-- What both transactions report is what they do. -/
theorem transactions_as_reported (h : Works framing session) {target : Target}
    (hfind : session.model.find_target id = some target) (m : Chip) :
    (∀ patch, validate_target_patch (some target) patch = .ok () →
      ((m.leds id).Readable → ∃ m', Does (machine framing session) (apply id patch) session m
          (m'.leds id).value session m' ∧
        (m'.leds id).Readable ∧ (m'.leds id).value = merged patch (m.leds id).value ∧
        ∀ other, other ≠ id → m'.leds other = m.leds other) ∧
      (¬ (m.leds id).Readable → Fails (machine framing session) (apply id patch) session m
        (status_failure id .EBADMSG) session m)) ∧
    ((m.leds id).Readable → ∀ seconds, 1 ≤ seconds → seconds ≤ 60 →
      ∃ m', Does (machine framing session) (identify id seconds fun _ => false) session m ()
        session m' ∧ m'.leds = m.leds) := by
  have hfull := mcu_leds_full_rgb h.listed h.is_mcu (List.mem_of_find?_eq_some hfind)
  constructor
  · intro patch hvalid
    constructor
    · intro hreadable
      obtain ⟨m', happly, hleds⟩ := does_apply h hfind hvalid hreadable
      obtain ⟨hreadable', hvalue⟩ := patched_spec ((hfull.accepts_iff patch).mp hvalid) hreadable
      have hled : m'.leds id = patched patch (m.leds id) := by
        rw [hleds, Function.update_self]
      refine ⟨m', happly, ?_, ?_, ?_⟩
      · rw [hled]
        exact hreadable'
      · rw [hled]
        exact hvalue
      · intro other hother
        rw [hleds, Function.update_of_ne hother]
    · exact fails_apply h hfind hvalid
  · intro hreadable seconds hpos hle
    exact does_identify h hfind hreadable ⟨hpos, hle⟩

end transactions

/-! ## A machine -/

def dxp4800plus : Model := legacy "dxp4800plus-legacy" "DXP4800 Plus" rgb4

/-- A session on it, open for writing. -/
def open_session : Session where
  identity := { product_name := "DXP4800 Plus", source := "dmi", profile := some dxp4800plus.profile }
  model := dxp4800plus
  access := ⟨true, true⟩
  locked := true
  chip_id := 0xc5b2

theorem open_session_works : Works .legacy_i2c_block open_session :=
  ⟨by decide +kernel, rfl, rfl, rfl, fun _ => rfl, rfl, rfl⟩

/-- Steady white, with the given dormant timing. -/
def steady_chip (on_low : UInt8) : Chip where
  leds := fun _ => ⟨1, 180, 255, 255, 255, 0, 40, 0, on_low⟩
  acknowledged := false

def red_patch : Patch := ⟨PATCH_RGB, { red := 255 }⟩

theorem red_patch_valid :
    validate_target_patch (some (rgb_led "power" 0)) red_patch = .ok () := by
  decide +kernel

/-- The power LED turns red, and an identify leaves it alone. -/
theorem steady_led_as_reported :
    (∃ m', Does (machine .legacy_i2c_block open_session) (apply 0 red_patch) open_session
        (steady_chip 20) (m'.leds 0).value open_session m' ∧ (m'.leds 0).value.red = 255 ∧
      (m'.leds 0).value.green = 0) ∧
    ∃ m', Does (machine .legacy_i2c_block open_session) (identify 0 5 fun _ => false) open_session
      (steady_chip 20) () open_session m' ∧ m'.leds = (steady_chip 20).leds := by
  have hfind : open_session.model.find_target 0 = some (rgb_led "power" 0) := rfl
  obtain ⟨happly, hidentify⟩ :=
    transactions_as_reported open_session_works hfind (steady_chip 20)
  constructor
  · obtain ⟨m', hdoes, _, hvalue, _⟩ := (happly red_patch red_patch_valid).1 (by decide)
    exact ⟨m', hdoes, by rw [hvalue]; rfl, by rw [hvalue]; rfl⟩
  · exact hidentify (by decide) 5 (by decide) (by decide)

/-- The same patch is refused where the chip holds an on time longer than
    its cycle. -/
theorem unreadable_led_refused :
    validate_target_patch (some (rgb_led "power" 0)) red_patch = .ok () ∧
    Works .legacy_i2c_block open_session ∧
    Fails (machine .legacy_i2c_block open_session) (apply 0 red_patch) open_session
      (steady_chip 41) (status_failure 0 .EBADMSG) open_session (steady_chip 41) :=
  ⟨red_patch_valid, open_session_works,
    fails_apply open_session_works rfl red_patch_valid (by decide)⟩

end UgreenNas.Led.Mcu
