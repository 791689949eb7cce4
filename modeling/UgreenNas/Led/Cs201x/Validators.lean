import UgreenNas.Effect.Returns
import UgreenNas.Led.Cs201x.Driver
import UgreenNas.Led.Profiles

/-! # The two patch checks of a CS2011 LED

    The generic check counts milliseconds and knows the LED from its
    descriptor; the transport counts steps of 50 ms and looks at the bytes it
    would write.  Both accept the patches described here by `CsPatch`.
-/

namespace UgreenNas.Led.Cs201x

open Effect Effect.Proc

/-! ## What both accept -/

/-- The times of an effect, in milliseconds. -/
structure CsTiming (value : Value) : Prop where
  cycle : value.on_ms.toNat + value.off_ms.toNat ≤ 12750
  on_quantum : value.on_ms.toNat % 50 = 0
  off_quantum : value.off_ms.toNat % 50 = 0
  blink : value.mode = MODE_BLINK → 100 ≤ value.on_ms.toNat ∧ 100 ≤ value.off_ms.toNat
  breath : value.mode = MODE_BREATH → 1000 ≤ value.on_ms.toNat ∧ 500 ≤ value.off_ms.toNat

structure CsPatch (patch : Patch) : Prop extends KnownPatch patch where
  colorless : patch.has PATCH_COLOR = false
  times : patch.has PATCH_TIMING = true → CsTiming patch.value

theorem add_toNat {a b : UInt32} (h : a.toNat + b.toNat ≤ 65535) :
    (a + b).toNat = a.toNat + b.toNat := by
  rw [UInt32.toNat_add]
  omega

theorem mod_eq_zero_iff (a : UInt32) : a % 50 = 0 ↔ a.toNat % 50 = 0 := by
  rw [← UInt32.toNat_inj, UInt32.toNat_mod]
  rfl

/-- The generic check of a CS2011 LED. -/
theorem generic_accepts_iff (name : String) (id : Nat) (patch : Patch) :
    validate_target_patch (some (cs201x_led name id)) patch = .ok () ↔ CsPatch patch := by
  rw [validate_target_patch_ok_iff]
  constructor
  · intro h
    have hcolor := h.on_palette
    refine ⟨h.toKnownPatch, by simpa [cs201x_led] using hcolor, ?_⟩
    intro htiming
    have hsum := add_toNat (h.cycle htiming)
    have hcycle := h.in_cycle htiming (by simp [cs201x_led])
    have hquanta := h.in_quanta htiming (by simp [cs201x_led])
    have hblink := h.blink htiming
    have hbreath := h.breath htiming
    simp only [cs201x_led, mod_eq_zero_iff, UInt32.le_iff_toNat_le, UInt32.reduceToNat]
      at hcycle hquanta hblink hbreath
    exact ⟨by omega, hquanta.1, hquanta.2, hblink, hbreath⟩
  · intro h
    have hknown := h.toKnownPatch
    refine ⟨hknown, fun _ => rfl, ?_, ?_, ?_, ?_, ?_, ?_, ?_, ?_, ?_, ?_⟩
    · simp [h.colorless]
    · exact fun hhas => mode_in_mask (hknown.mode hhas)
    · simp [cs201x_led]
    · exact hknown.brightness
    · simp [cs201x_led]
    · simp [cs201x_led]
    · intro htiming hmode
      exact (h.times htiming).blink hmode
    · intro htiming hmode
      exact (h.times htiming).breath hmode
    · intro htiming _
      have hsum := add_toNat (hknown.cycle htiming)
      rw [UInt32.le_iff_toNat_le, hsum]
      exact (h.times htiming).cycle
    · intro htiming _
      have htimes := h.times htiming
      exact ⟨(mod_eq_zero_iff _).mpr htimes.on_quantum, (mod_eq_zero_iff _).mpr htimes.off_quantum⟩

/-! ## The transport -/

theorem and_or_eq_zero_iff (fields a b : UInt32) :
    fields &&& (a ||| b) = 0 ↔ fields &&& a = 0 ∧ fields &&& b = 0 := by
  rw [← UInt32.or_eq_zero_iff]
  simp only [← UInt32.toBitVec_inj, UInt32.toBitVec_and, UInt32.toBitVec_or,
    BitVec.and_or_distrib_left]

/-- The transport allows the known fields but the colour. -/
theorem allowed_iff (patch : Patch) :
    patch.fields &&& ~~~(PATCH_MODE ||| PATCH_RGB ||| PATCH_BRIGHTNESS ||| PATCH_TIMING) = 0 ↔
      patch.fields &&& ~~~(PATCH_MODE ||| PATCH_RGB ||| PATCH_BRIGHTNESS ||| PATCH_TIMING |||
        PATCH_COLOR) = 0 ∧ patch.has PATCH_COLOR = false := by
  have hunion : ~~~(PATCH_MODE ||| PATCH_RGB ||| PATCH_BRIGHTNESS ||| PATCH_TIMING) =
      ~~~(PATCH_MODE ||| PATCH_RGB ||| PATCH_BRIGHTNESS ||| PATCH_TIMING ||| PATCH_COLOR) |||
        PATCH_COLOR := by decide
  rw [hunion, and_or_eq_zero_iff]
  simp [Patch.has]

theorem times_in_range_iff (on_ms off_ms : UInt32) :
    ¬ (on_ms = 0 ∨ off_ms = 0 ∨ on_ms > 12750 ∨ off_ms > 12750 ∨ on_ms + off_ms > 12750 ∨
        on_ms % 50 ≠ 0 ∨ off_ms % 50 ≠ 0) ↔
      0 < on_ms.toNat ∧ 0 < off_ms.toNat ∧ on_ms.toNat + off_ms.toNat ≤ 12750 ∧
        on_ms.toNat % 50 = 0 ∧ off_ms.toNat % 50 = 0 := by
  simp only [not_or, gt_iff_lt, UInt32.not_lt, ne_eq, not_not, UInt32.le_iff_toNat_le,
    ← UInt32.toNat_inj, UInt32.toNat_mod, UInt32.reduceToNat]
  constructor
  · intro h
    obtain ⟨hon, hoff, honmax, hoffmax, hsum, honq, hoffq⟩ := h
    rw [add_toNat (by omega)] at hsum
    omega
  · intro h
    rw [add_toNat (by omega)]
    omega

/-- The transport's own check. -/
structure TransportPatch (patch : Patch) : Prop where
  nonempty : patch.fields ≠ 0
  known : patch.fields &&&
    ~~~(PATCH_MODE ||| PATCH_RGB ||| PATCH_BRIGHTNESS ||| PATCH_TIMING ||| PATCH_COLOR) = 0
  colorless : patch.has PATCH_COLOR = false
  rgb : patch.has PATCH_RGB = true →
    patch.value.red ≤ 255 ∧ patch.value.green ≤ 255 ∧ patch.value.blue ≤ 255
  brightness : patch.has PATCH_BRIGHTNESS = true → patch.value.brightness ≤ 255
  mode : patch.has PATCH_MODE = true → patch.value.mode ≤ MODE_BREATH
  times : patch.has PATCH_TIMING = true → 0 < patch.value.on_ms.toNat ∧
    0 < patch.value.off_ms.toNat ∧ patch.value.on_ms.toNat + patch.value.off_ms.toNat ≤ 12750 ∧
    patch.value.on_ms.toNat % 50 = 0 ∧ patch.value.off_ms.toNat % 50 = 0

theorem transport_accepts_iff (patch : Patch) :
    validate_patch patch = .ok () ↔ TransportPatch patch := by
  have htimes := times_in_range_iff patch.value.on_ms patch.value.off_ms
  have hallowed := allowed_iff patch
  simp only [validate_patch, check_ok_iff]
  constructor
  · intro h
    obtain ⟨hfields, hrgb, hbrightness, hmode, htiming, _⟩ := h
    simp only [not_or, not_and, not_not, gt_iff_lt, UInt32.not_lt] at hfields hrgb hbrightness hmode
    obtain ⟨hknown, hcolor⟩ := hallowed.mp hfields.2
    exact ⟨hfields.1, hknown, hcolor, hrgb, hbrightness, hmode,
      fun hhas => htimes.mp fun hout => htiming ⟨hhas, hout⟩⟩
  · intro h
    refine ⟨?_, ?_, ?_, ?_, ?_, trivial⟩
    · simp only [not_or, not_not]
      exact ⟨h.nonempty, hallowed.mpr ⟨h.known, h.colorless⟩⟩
    · simp only [not_or, not_and, gt_iff_lt, UInt32.not_lt]
      exact h.rgb
    · simp only [not_and, gt_iff_lt, UInt32.not_lt]
      exact h.brightness
    · simp only [not_and, gt_iff_lt, UInt32.not_lt]
      exact h.mode
    · intro hout
      exact htimes.mpr (h.times hout.1) hout.2

/-! ## The bytes -/

theorem steps_toNat {ms : UInt32} (h : ms.toNat ≤ 12750) :
    (ms / 50).toUInt8.toNat = ms.toNat / 50 := by
  simp only [UInt32.toNat_toUInt8, UInt32.toNat_div, UInt32.reduceToNat]
  omega

/-- The limits of the bytes are those of the times they stand for. -/
theorem valid_patched_iff {patch : Patch} {raw : Raw} (hmode : patch.has PATCH_MODE = true)
    (htiming : patch.has PATCH_TIMING = true)
    (heffect : patch.value.mode = MODE_BLINK ∨ patch.value.mode = MODE_BREATH)
    (hcycle : patch.value.on_ms.toNat + patch.value.off_ms.toNat ≤ 12750)
    (hon : patch.value.on_ms.toNat % 50 = 0) (hoff : patch.value.off_ms.toNat % 50 = 0) :
    valid_raw (patched patch raw) = true ↔ 0 < patch.value.off_ms.toNat ∧
      (patch.value.mode = MODE_BLINK →
        100 ≤ patch.value.on_ms.toNat ∧ 100 ≤ patch.value.off_ms.toNat) ∧
      (patch.value.mode = MODE_BREATH →
        1000 ≤ patch.value.on_ms.toNat ∧ 500 ≤ patch.value.off_ms.toNat) := by
  have hsum := add_toNat (a := patch.value.on_ms) (b := patch.value.off_ms) (by omega)
  have hduty := @steps_toNat patch.value.on_ms (by omega)
  have hperiod := @steps_toNat (patch.value.on_ms + patch.value.off_ms) (by omega)
  rw [hsum] at hperiod
  simp only [valid_raw, patched, hmode, htiming, if_true, hduty, hperiod, Bool.and_eq_true,
    Bool.or_eq_true, decide_eq_true_eq]
  rcases heffect with h | h
  · simp [h, MODE_BLINK, MODE_BREATH]
    omega
  · simp [h, MODE_BLINK, MODE_BREATH]
    omega

theorem valid_raw_of_off {raw : Raw} (h : (raw .mode).toNat < 2) : valid_raw raw = true := by
  simp only [valid_raw, Bool.and_eq_true, Bool.or_eq_true, decide_eq_true_eq]
  exact ⟨by omega, .inl h⟩

/-- Only the mode and the timing matter. -/
theorem valid_raw_congr {raw raw' : Raw} (hmode : raw .mode = raw' .mode)
    (hperiod : raw .period = raw' .period) (hduty : raw .duty = raw' .duty) :
    valid_raw raw = valid_raw raw' := by
  simp only [valid_raw, hmode, hperiod, hduty]

/-! ## Agreement -/

theorem CsPatch.transport {patch : Patch} (h : CsPatch patch) : TransportPatch patch := by
  refine ⟨h.nonempty, h.known, h.colorless, h.rgb, h.brightness, h.mode, ?_⟩
  intro hhas
  have htimes := h.times hhas
  have hblink := htimes.blink
  have hbreath := htimes.breath
  rcases (h.timing hhas).2 with heffect | heffect
  · exact ⟨by have := hblink heffect; omega, by have := hblink heffect; omega, htimes.cycle,
      htimes.on_quantum, htimes.off_quantum⟩
  · exact ⟨by have := hbreath heffect; omega, by have := hbreath heffect; omega, htimes.cycle,
      htimes.on_quantum, htimes.off_quantum⟩

/-- A patch leaves the mode and the timing as they were, switches the effect
    off, or sets an effect together with its timing. -/
theorem CsPatch.valid {patch : Patch} (h : CsPatch patch) {raw : Raw} (hraw : valid_raw raw = true) :
    valid_raw (patched patch raw) = true := by
  by_cases htiming : patch.has PATCH_TIMING = true
  · obtain ⟨hmode, heffect⟩ := h.timing htiming
    have htimes := h.times htiming
    rw [valid_patched_iff hmode htiming heffect htimes.cycle htimes.on_quantum htimes.off_quantum]
    exact ⟨(h.transport.times htiming).2.1, htimes.blink, htimes.breath⟩
  by_cases hmode : patch.has PATCH_MODE = true
  · apply valid_raw_of_off
    have hmax : patch.value.mode.toNat ≤ 3 := UInt32.le_iff_toNat_le.mp (h.mode hmode)
    have hsteady : ¬ (patch.value.mode = MODE_BLINK ∨ patch.value.mode = MODE_BREATH) :=
      fun heffect => htiming (h.timed hmode heffect)
    simp only [patched, hmode, if_true, UInt32.toNat_toUInt8]
    simp only [not_or, MODE_BLINK, MODE_BREATH, ← UInt32.toNat_inj, UInt32.reduceToNat] at hsteady
    omega
  · rw [← hraw]
    apply valid_raw_congr <;> simp [patched, hmode, htiming]

/-! ## Execution -/

/-- What a snapshot returns passed the check of the bytes. -/
theorem snapshot_valid (id : Nat) : Yields (valid_raw · = true) (snapshot id) := by
  unfold snapshot
  apply yields_after
  intro _
  apply yields_after
  intro _
  apply yields_after
  intro raw
  apply yields_after
  intro again
  apply yields_bail
  intro hvalid
  simp only [not_or, Bool.not_eq_false] at hvalid
  apply yields_after
  intro _
  exact yields_pure hvalid.2

/-- `prepare` without its two checks of the patch. -/
def unchecked_prepare (id : Nat) (patch : Patch) : Fun (Raw × Raw) := do
  let c ← ctx
  bail (id ≥ 4) ⟨.EINVAL, .silent⟩
  bail (c.identify_saved = true)
    (failure .EBUSY "CS2011 identify must be restored before another write")
  guard true
  let before ← snapshot id
  pure (before, patched patch before)

/-- A patch that both accept passes the checks of `prepare`, whatever the
    controller answers. -/
theorem CsPatch.prepare_unchecked {patch : Patch} (h : CsPatch patch) (id : Nat) :
    prepare id patch = unchecked_prepare id patch := by
  have haccepted := (transport_accepts_iff patch).mpr h.transport
  have hlimits : (do
      let before ← snapshot id
      bail (valid_raw (patched patch before) = false)
        (failure .EINVAL "CS2011 blink/breath timing does not meet mode limits")
      pure (before, patched patch before) : Fun (Raw × Raw)) = (do
      let before ← snapshot id
      pure (before, patched patch before)) := by
    apply (snapshot_valid id).bind_congr
    intro before hbefore
    exact bail_neg (by simp [h.valid hbefore]) _ _
  unfold prepare unchecked_prepare
  simp only [haccepted, hlimits]
  rfl

/-- The transport refuses no patch that the generic check has let through, and
    where a patch sets an effect and its timing the two agree. -/
theorem validators_agree (name : String) (id : Nat) (raw : Raw) (hraw : valid_raw raw = true)
    (patch : Patch) :
    let generic := validate_target_patch (some (cs201x_led name id)) patch = .ok ()
    let transport := validate_patch patch = .ok () ∧ valid_raw (patched patch raw) = true
    (generic → transport ∧ prepare id patch = unchecked_prepare id patch) ∧
    (patch.has PATCH_MODE = true → patch.has PATCH_TIMING = true →
      patch.value.mode = MODE_BLINK ∨ patch.value.mode = MODE_BREATH →
      (generic ↔ transport)) := by
  intro generic transport
  have hforward : generic → CsPatch patch := (generic_accepts_iff name id patch).mp
  constructor
  · intro haccepted
    have hpatch := hforward haccepted
    exact ⟨⟨(transport_accepts_iff patch).mpr hpatch.transport, hpatch.valid hraw⟩,
      hpatch.prepare_unchecked id⟩
  · intro hmode htiming heffect
    constructor
    · intro haccepted
      have hpatch := hforward haccepted
      exact ⟨(transport_accepts_iff patch).mpr hpatch.transport, hpatch.valid hraw⟩
    · intro haccepted
      have h := (transport_accepts_iff patch).mp haccepted.1
      obtain ⟨_, _, hcycle, hon, hoff⟩ := h.times htiming
      obtain ⟨_, hblink, hbreath⟩ :=
        (valid_patched_iff hmode htiming heffect hcycle hon hoff).mp haccepted.2
      refine (generic_accepts_iff name id patch).mpr ⟨?_, h.colorless, fun _ => ?_⟩
      · exact ⟨h.nonempty, h.known, h.rgb, h.brightness, by simp [h.colorless], h.mode,
          fun _ => ⟨hmode, heffect⟩, fun _ _ => htiming, fun _ => by omega⟩
      · exact ⟨hcycle, hon, hoff, hblink, hbreath⟩

/-- A breathing LED is asked for a slower breath. -/
theorem validators_agree_breath :
    let raw : Raw := fun field => match field with
      | .mode => 3
      | .period => 30
      | .duty => 20
      | _ => 255
    let patch : Patch := ⟨PATCH_MODE ||| PATCH_TIMING, { mode := 3, on_ms := 8000, off_ms := 4750 }⟩
    validate_patch patch = .ok () ∧ valid_raw (patched patch raw) = true := by
  intro raw patch
  exact ((validators_agree "power" 0 raw (by decide) patch).1 (by decide)).1

end UgreenNas.Led.Cs201x
