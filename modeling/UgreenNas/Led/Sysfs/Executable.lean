import UgreenNas.Led.Sysfs.Driver

/-! # Requests that pass their preflight

    N76 carries a patch out with the mode of the LED where the patch names
    none.  The patch that is checked and the one that is carried out then
    differ, and the second is refused where the LED is only on or off and its
    mode says otherwise than the brightness that is asked for.
-/

namespace UgreenNas.Led.Sysfs

open DiskMap Effect Effect.Proc

/-! ## The LEDs of N76 -/

/-- An LED behind N76: dimmed, or only switched. -/
structure N76Target (target : Target) : Prop where
  rgb : target.rgb = false
  mode_mask : target.mode_mask = 7
  color_mask : target.color_mask = n76_colors
  range : (target.max_brightness = 254 ∧ target.min_brightness = 2) ∨ target.max_brightness = 1

theorem n76_targets : ∀ model ∈ profiles, model.protocol = "sysfs-n76" → ∀ target ∈ model.leds,
    target.rgb = false ∧ target.mode_mask = 7 ∧ target.color_mask = n76_colors ∧
      ((target.max_brightness = 254 ∧ target.min_brightness = 2) ∨ target.max_brightness = 1) := by
  decide +kernel

theorem Context.find_mem {k : Context} {id index : Nat} {target : Target}
    (h : k.find id = some (index, target)) : target ∈ k.profile.leds := by
  unfold Context.find at h
  cases hindex : k.target_index id with
  | none =>
    rw [hindex] at h
    cases h
  | some i =>
    rw [hindex] at h
    cases htarget : k.profile.leds[i]? with
    | none =>
      simp [htarget] at h
    | some t =>
      simp [htarget] at h
      obtain ⟨-, rfl⟩ := h
      exact List.mem_of_getElem? htarget

theorem find_n76 {k : Context} (hk : k.profile ∈ profiles) (hn76 : k.n76 = true) {id index : Nat}
    {target : Target} (h : k.find id = some (index, target)) : N76Target target := by
  obtain ⟨hrgb, hmode, hcolor, hrange⟩ :=
    n76_targets k.profile hk (of_decide_eq_true hn76) target (Context.find_mem h)
  exact ⟨hrgb, hmode, hcolor, hrange⟩

/-! ## The patch that is carried out -/

/-- A patch that names a brightness and no mode, for an LED that is only on
    or off: the brightness says otherwise than the mode does. -/
def Contradictory (target : Target) (before : Value) (patch : Patch) : Prop :=
  target.max_brightness = 1 ∧ patch.has PATCH_MODE = false ∧ patch.has PATCH_BRIGHTNESS = true ∧
    ¬ (before.mode = MODE_ON ↔ patch.value.brightness ≠ 0)

/-- What the check against a state makes sure of. -/
structure StatePatch (target : Target) (before : Value) (patch : Patch) : Prop where
  target : TargetPatch target patch
  switched : patch.has PATCH_MODE = false → before.mode = MODE_ON ∨ before.mode = MODE_OFF

theorem state_patch {k : Context} (hn76 : k.n76 = true) {target : Target} {before : Value}
    {patch : Patch} (h : validate_state_patch k target before patch = .ok ()) :
    StatePatch target before patch := by
  unfold validate_state_patch at h
  cases htarget : validate_target_patch (some target) patch with
  | error e =>
    rw [htarget] at h
    cases h
  | ok _ =>
    rw [htarget] at h
    refine ⟨(validate_target_patch_ok_iff target patch).mp htarget, ?_⟩
    intro hnone
    simp only [bind, Except.bind, hn76, not_true_eq_false, if_false, check_ok_iff] at h
    have hmode : mode_after before patch = before.mode := by
      unfold mode_after
      rw [hnone]
      rfl
    have hknown := h.1
    rw [hnone, hmode] at hknown
    by_contra hother
    rw [not_or] at hother
    exact hknown ⟨by decide, .inr hother⟩

theorem effective_has {k : Context} {before : Value} {patch : Patch} {field : UInt32}
    (hfield : PATCH_MODE &&& field = 0) :
    (effective k before patch).has field = patch.has field := by
  unfold effective
  split
  · have hother : Patch.has ⟨PATCH_MODE, patch.value⟩ field = false := by
      unfold Patch.has
      rw [hfield]
      rfl
    rw [has_or _ _ _ _ patch.value patch.value, hother, Bool.or_false]
  · rfl

theorem effective_has_mode {k : Context} (hn76 : k.n76 = true) (before : Value) (patch : Patch) :
    (effective k before patch).has PATCH_MODE = true := by
  unfold effective
  by_cases hmode : patch.has PATCH_MODE = true
  · rw [if_neg (fun h => h.2 hmode)]
    exact hmode
  · rw [if_pos ⟨hn76, hmode⟩, has_or _ _ _ _ patch.value patch.value, Bool.or_eq_true]
    right
    show (PATCH_MODE &&& PATCH_MODE != 0) = true
    decide

/-- The patch that is carried out passes the check of its target unless the
    brightness that is asked for contradicts the mode. -/
theorem effective_accepted_iff {k : Context} (hn76 : k.n76 = true) {target : Target}
    (htarget : N76Target target) {before : Value} {patch : Patch}
    (h : StatePatch target before patch) :
    validate_target_patch (some target) (effective k before patch) = .ok () ↔
      ¬ Contradictory target before patch := by
  rw [validate_target_patch_ok_iff]
  by_cases hmode : patch.has PATCH_MODE = true
  · have hsame : effective k before patch = patch := by
      unfold effective
      rw [if_neg (fun h => h.2 hmode)]
    rw [hsame]
    apply iff_of_true h.target
    intro hcontra
    rw [hcontra.2.1] at hmode
    cases hmode
  · have hmode : patch.has PATCH_MODE = false := Bool.eq_false_iff.mpr hmode
    have hswitched := h.switched hmode
    have hpatch := h.target
    have huntimed : patch.has PATCH_TIMING = false := by
      by_contra htiming
      have htiming := (hpatch.timing (Bool.not_eq_false _ ▸ htiming)).1
      rw [hmode] at htiming
      cases htiming
    have hrgb := @effective_has k before patch PATCH_RGB (by decide)
    have hbrightness := @effective_has k before patch PATCH_BRIGHTNESS (by decide)
    have hcolor := @effective_has k before patch PATCH_COLOR (by decide)
    have htiming := @effective_has k before patch PATCH_TIMING (by decide)
    have hnamed := effective_has_mode hn76 before patch
    rw [huntimed] at htiming
    have heffective : effective k before patch =
        ⟨patch.fields ||| PATCH_MODE, { patch.value with mode := before.mode }⟩ := by
      unfold effective
      rw [if_pos ⟨hn76, by rw [hmode]; decide⟩]
    rw [heffective] at hrgb hbrightness hcolor htiming hnamed ⊢
    have hslow : ¬ (before.mode = MODE_BLINK ∨ before.mode = MODE_BREATH) := by
      rcases hswitched with heq | heq <;> rw [heq] <;> decide
    constructor
    · intro heff hcontra
      obtain ⟨hbinary, -, hhas, hcontra⟩ := hcontra
      have hle : before.mode ≤ 1 := by
        rcases hswitched with heq | heq <;> rw [heq] <;> decide
      exact hcontra (heff.binary htarget.rgb hbinary hnamed (hbrightness.trans hhas) hle)
    · intro hconsistent
      have hno_timing : ∀ {p : Prop}, Patch.has ⟨patch.fields ||| PATCH_MODE,
          { patch.value with mode := before.mode }⟩ PATCH_TIMING = true → p := by
        intro p h
        rw [htiming] at h
        cases h
      have hknown : (patch.fields ||| PATCH_MODE) &&&
          ~~~(PATCH_MODE ||| PATCH_RGB ||| PATCH_BRIGHTNESS ||| PATCH_TIMING ||| PATCH_COLOR) = 0 := by
        have hdistrib : ∀ a b c : UInt32, (a ||| b) &&& c = (a &&& c) ||| (b &&& c) := fun _ _ _ =>
          UInt32.toBitVec_inj.mp BitVec.and_or_distrib_right
        rw [hdistrib, hpatch.known]
        decide
      refine ⟨⟨?_, hknown, ?_, ?_, ?_, ?_, hno_timing, ?_, hno_timing⟩, ?_, ?_, ?_, ?_, ?_, ?_, ?_,
        hno_timing, hno_timing, hno_timing, hno_timing⟩
      · intro hzero
        have hzero : patch.fields ||| PATCH_MODE = 0 := hzero
        unfold Patch.has at hnamed
        rw [hzero] at hnamed
        have hnamed : (0 &&& PATCH_MODE != 0) = true := hnamed
        exact absurd hnamed (by decide)
      · intro h
        exact hpatch.rgb (hrgb.symm.trans h)
      · intro h
        exact hpatch.brightness (hbrightness.symm.trans h)
      · intro h
        rw [hrgb]
        exact hpatch.color (hcolor.symm.trans h)
      · intro _
        show before.mode ≤ MODE_BREATH
        rcases hswitched with heq | heq <;> rw [heq] <;> decide
      · intro _ h
        exact absurd h hslow
      · intro h
        exact hpatch.on_rgb (hrgb.symm.trans h)
      · intro h
        exact hpatch.on_palette (hcolor.symm.trans h)
      · intro _
        show target.mode_mask &&& mode_bit before.mode ≠ 0
        rw [htarget.mode_mask]
        rcases hswitched with heq | heq <;> rw [heq] <;> decide
      · intro h
        exact hpatch.dimmable (hbrightness.symm.trans h)
      · intro h
        exact hpatch.not_brighter (hbrightness.symm.trans h)
      · intro h
        exact hpatch.not_darker (hbrightness.symm.trans h)
      · intro _ hbinary _ hhas _
        by_contra hcontra
        exact hconsistent ⟨hbinary, hmode, hbrightness.symm.trans hhas, hcontra⟩

/-! ## Carrying a patch out -/

/-- A step that writes the files of one directory: what it makes of them. -/
def Writes (k : Context) (index : Nat) (target : Target) (directory : Text) (step : Fun Unit)
    (change : (Text → Except Errno Text) → Text → Except Errno Text) : Prop :=
  ∀ (c : Directories) (m : Machine k.root), Bound k target m directory → c index = directory →
    ∃ m', Does stored step c m () c m' ∧ Only directory m m' ∧
      m'.files directory = change (m.files directory) ∧ Bound k target m' directory

section steps

variable {k : Context} {index : Nat} {target : Target} {directory : Text}

theorem writes_nothing : Writes k index target directory (pure ()) id := by
  intro c m hbound _
  exact ⟨m, does_pure (), Only.refl directory m, rfl, hbound⟩

theorem Writes.then {first second : Fun Unit}
    {change change' : (Text → Except Errno Text) → Text → Except Errno Text}
    (h : Writes k index target directory first change)
    (h' : Writes k index target directory second change') :
    Writes k index target directory (first >>= fun _ => second) (change' ∘ change) := by
  intro c m hbound hknown
  obtain ⟨m₁, hdoes, honly, hfiles, hbound₁⟩ := h c m hbound hknown
  obtain ⟨m₂, hdoes', honly', hfiles', hbound₂⟩ := h' c m₁ hbound₁ hknown
  refine ⟨m₂, hdoes.bind hdoes', honly.trans honly', ?_, hbound₂⟩
  rw [hfiles', hfiles]
  rfl

theorem writes_attribute {name text : Text} (hlength : name.length ≤ 10)
    (hmaximum : ("max_brightness" : Text) ≠ name) :
    Writes k index target directory (set_attribute k index target name text)
      (store_files · name text) := by
  intro c m hbound hknown
  refine ⟨m.store directory name text, does_set_attribute hbound hknown hlength,
    only_store m directory name text, files_store m directory name text, ?_⟩
  have hlinks : (m.store directory name text).links = m.links := rfl
  apply hbound.only hlinks
  rw [files_store]
  exact store_files_other hmaximum fun _ => by decide

/-- A step that is made under a condition only. -/
theorem Writes.ite {step : Fun Unit}
    {change : (Text → Except Errno Text) → Text → Except Errno Text} {b : Bool}
    (h : Writes k index target directory step change) :
    Writes k index target directory (if b then step else pure ())
      (fun files => if b then change files else files) := by
  cases b with
  | true => exact h
  | false => exact writes_nothing

/-! ### What the steps write -/

abbrev Files : Type := Text → Except Errno Text

/-- `number_attribute` -/
def store_number (files : Files) (name : Text) (value : UInt32) : Files :=
  store_files files name (decimal value.toNat)

def colored (patch : Patch) (files : Files) : Files :=
  if patch.has PATCH_COLOR then store_number files "color" patch.value.color else files

def brightened (patch : Patch) (files : Files) : Files :=
  if patch.has PATCH_BRIGHTNESS then store_number files "brightness" patch.value.brightness
  else files

def recolored (detour : Bool) (color : UInt32) (files : Files) : Files :=
  if detour then store_number files "color" color else files

def triggered (selected : UInt32) (trigger : Text) (files : Files) : Files :=
  let detour : Bool := trigger = ("normal" : Text) && !is_channel selected
  recolored detour selected (store_files (store_files (recolored detour 1 files) "trigger" "none")
    "trigger" trigger)

/-- The brightness or the durations that go with a mode. -/
def timed (k : Context) (target : Target) (before : Value) (patch : Patch) (files : Files) : Files :=
  if patch.value.mode = MODE_OFF ∨ patch.value.mode = MODE_ON then
    store_number files "brightness" (switch_brightness k target before patch)
  else
    store_number (store_number files "delay_on" patch.value.on_ms) "delay_off" patch.value.off_ms

/-- The files after a patch was carried out. -/
def written (k : Context) (target : Target) (before : Value) (patch : Patch) (files : Files) : Files :=
  timed k target before patch (triggered (color_after before patch)
    (trigger_for k patch.value.mode) (brightened patch (colored patch files)))

theorem writes_number {name : Text} (hlength : name.length ≤ 10)
    (hmaximum : ("max_brightness" : Text) ≠ name) (value : UInt32) :
    Writes k index target directory (number_attribute k index target name value)
      (store_number · name value) :=
  writes_attribute hlength hmaximum

variable (hn76 : k.n76 = true)

include hn76

theorem not_gpio : k.gpio = false := by
  have hprotocol : k.profile.protocol = "sysfs-n76" := of_decide_eq_true hn76
  unfold Context.gpio
  rw [hprotocol]
  decide

theorem writes_color (patch : Patch) :
    Writes k index target directory (write_color k index target patch) (colored patch) := by
  unfold write_color colored
  rw [not_gpio hn76]
  exact Writes.ite (writes_number (by decide) (by decide) _)

theorem writes_trigger (selected : UInt32) (trigger : Text) :
    Writes k index target directory (write_trigger k index target selected trigger)
      (triggered selected trigger) := by
  unfold write_trigger triggered
  rw [if_pos hn76]
  have hrecolor : ∀ detour color, Writes k index target directory
      (recolor k index target detour color) (recolored detour color) := by
    intro detour color
    exact Writes.ite (writes_number (by decide) (by decide) _)
  exact (hrecolor _ 1).then ((writes_attribute (by decide) (by decide)).then
    ((writes_attribute (by decide) (by decide)).then (hrecolor _ selected)))

theorem writes_mode (before : Value) {patch : Patch} (hmode : patch.has PATCH_MODE = true) :
    Writes k index target directory (write_mode k index target before patch)
      (timed k target before patch ∘ triggered (color_after before patch)
        (trigger_for k patch.value.mode)) := by
  unfold write_mode
  rw [if_pos hmode]
  apply (writes_trigger hn76 _ _).then
  unfold timed
  by_cases hswitched : patch.value.mode = MODE_OFF ∨ patch.value.mode = MODE_ON
  · simp only [if_pos hswitched]
    exact writes_number (by decide) (by decide) _
  · simp only [if_neg hswitched]
    exact (writes_number (by decide) (by decide) _).then (writes_number (by decide) (by decide) _)

omit hn76

/-! ### What is in the files then -/

theorem toNat_le (value : UInt32) : value.toNat ≤ UINT_MAX := by
  have hlt := value.toNat_lt
  show value.toNat ≤ 2 ^ 32 - 1
  omega

/-- A number is read as it was written. -/
theorem number_in_store {files : Files} {name : Text} (hne : name ≠ ("rbrightness" : Text))
    (value : UInt32) : number_in (store_number files name value) name = .ok value.toNat :=
  number_in_decimal (toNat_le value) (store_files_same hne)

/-- Files that are the same are read the same. -/
theorem number_in_congr {files files' : Files} {name : Text} (h : files name = files' name) :
    number_in files name = number_in files' name := by
  unfold number_in
  rw [h]

theorem text_in_congr {files files' : Files} {name : Text} (h : files name = files' name)
    (capacity : Nat) : text_in files name capacity = text_in files' name capacity := by
  unfold text_in
  rw [h]

theorem store_cached {files : Files} {value : UInt32} (h : 2 ≤ value.toNat) :
    store_number files "brightness" value "rbrightness" = .ok (decimal value.toNat) := by
  have hconfigures : configures "brightness" (decimal value.toNat) = true := by
    unfold configures
    rw [parse_number_decimal (toNat_le value)]
    simpa using h
  unfold store_number store_files
  rw [if_pos hconfigures]
  exact Function.update_self ..

/-- Off and on leave the brightness that is configured. -/
theorem store_switched {files : Files} {value : UInt32} (h : value.toNat < 2) :
    store_number files "brightness" value "rbrightness" = files "rbrightness" := by
  have hconfigures : configures "brightness" (decimal value.toNat) = false := by
    unfold configures
    rw [parse_number_decimal (toNat_le value)]
    simpa using h
  unfold store_number store_files
  rw [if_neg (by rw [hconfigures]; decide)]
  exact Function.update_of_ne (by decide) _ _

theorem does_wait {files : Files} {expected : UInt32} {c : Directories} {m : Machine k.root}
    (hfiles : m.files directory = files)
    (h : target.max_brightness ≠ 1 → number_in files "rbrightness" = .ok expected.toNat)
    (hknown : c index = directory) :
    Does stored (wait_configured_brightness k index target expected) c m () c m := by
  unfold wait_configured_brightness
  by_cases hdone : ¬ k.n76 = true ∨ target.max_brightness = 1
  · rw [if_pos hdone]
    exact does_pure ()
  · rw [if_neg hdone]
    rw [not_or] at hdone
    have hcache := h hdone.2
    rw [← hfiles] at hcache
    refine (does_node index).bind ?_
    rw [hknown]
    refine (Does.mapError (does_read_number hcache)).bind ?_
    rw [if_pos rfl]
    exact does_pure ()

/-- A brightness that may be configured. -/
def Settable (target : Target) (patch : Patch) : Prop :=
  patch.has PATCH_BRIGHTNESS = true → target.max_brightness = 1 ∨ 2 ≤ patch.value.brightness.toNat

theorem writes_brightness {patch : Patch} (h : Settable target patch) :
    Writes k index target directory (write_brightness k index target patch) (brightened patch) := by
  unfold write_brightness brightened
  by_cases hhas : patch.has PATCH_BRIGHTNESS = true
  · intro c m hbound hknown
    obtain ⟨m', hdoes, honly, hfiles, hbound'⟩ :=
      @writes_number k index target directory "brightness" (by decide) (by decide)
        patch.value.brightness c m hbound hknown
    simp only [if_pos hhas]
    refine ⟨m', hdoes.bind (does_wait hfiles ?_ hknown), honly, hfiles, hbound'⟩
    intro hdimmed
    exact number_in_decimal (toNat_le _) (store_cached ((h hhas).resolve_left hdimmed))
  · simp only [if_neg hhas]
    exact writes_nothing

end steps

/-! ### The files of a complete patch -/

/-- A patch with a mode that the LED can be read in afterwards. -/
structure Complete (target : Target) (patch : Patch) : Prop where
  named : patch.has PATCH_MODE = true
  mode : patch.value.mode = MODE_OFF ∨ patch.value.mode = MODE_ON ∨ patch.value.mode = MODE_BLINK
  timing : patch.has PATCH_TIMING = true → patch.value.mode = MODE_BLINK
  palette : patch.has PATCH_COLOR = true →
    patch.value.color = 1 ∨ patch.value.color = 2 ∨ patch.value.color = 3
  colorless : patch.has PATCH_RGB = false
  settable : Settable target patch
  brightness : patch.has PATCH_BRIGHTNESS = true → patch.value.brightness.toNat ≤ 255
  binary : target.max_brightness = 1 → patch.has PATCH_BRIGHTNESS = true →
    patch.value.brightness.toNat ≤ 1 ∧ (patch.value.mode ≠ MODE_BLINK →
      (patch.value.mode = MODE_ON ↔ patch.value.brightness ≠ 0))

theorem complete {target : Target} (htarget : N76Target target) {patch : Patch}
    (h : TargetPatch target patch) (hnamed : patch.has PATCH_MODE = true) :
    Complete target patch where
  named := hnamed
  mode := by
    have hmode := h.in_modes hnamed
    have hle : patch.value.mode.toNat ≤ 3 := UInt32.le_iff_toNat_le.mp (h.mode hnamed)
    rw [htarget.mode_mask] at hmode
    have hcases : patch.value.mode = 0 ∨ patch.value.mode = 1 ∨ patch.value.mode = 2 ∨
        patch.value.mode = 3 := by
      simp only [← UInt32.toNat_inj, UInt32.reduceToNat]
      omega
    rcases hcases with heq | heq | heq | heq
    · exact .inl heq
    · exact .inr (.inl heq)
    · exact .inr (.inr heq)
    · rw [heq] at hmode
      exact absurd (by decide) hmode
  timing := by
    intro htiming
    have hmode := h.in_modes hnamed
    rw [htarget.mode_mask] at hmode
    rcases (h.timing htiming).2 with heq | heq
    · exact heq
    · rw [heq] at hmode
      exact absurd (by decide) hmode
  palette := by
    intro hcolor
    have hmask := h.on_palette hcolor
    have hle : patch.value.color.toNat ≤ 9 := UInt32.le_iff_toNat_le.mp (h.color hcolor).1
    rw [htarget.color_mask] at hmask
    have hall : ∀ n < 10, n76_colors &&& color_bit (UInt32.ofNat n) ≠ 0 → n = 1 ∨ n = 2 ∨ n = 3 := by
      decide
    have hsame : UInt32.ofNat patch.value.color.toNat = patch.value.color := UInt32.ofNat_toNat
    have hnumber := hall patch.value.color.toNat (by omega) (by rw [hsame]; exact hmask)
    simp only [← UInt32.toNat_inj, UInt32.reduceToNat]
    exact hnumber
  colorless := by
    by_contra hrgb
    have hrgb := h.on_rgb (Bool.not_eq_false _ ▸ hrgb)
    rw [htarget.rgb] at hrgb
    cases hrgb
  settable := by
    intro hbrightness
    rcases htarget.range with ⟨-, hmin⟩ | hbinary
    · right
      have hdark := h.not_darker hbrightness
      rw [hmin] at hdark
      exact UInt32.le_iff_toNat_le.mp hdark
    · exact .inl hbinary
  brightness := fun hbrightness => UInt32.le_iff_toNat_le.mp (h.brightness hbrightness)
  binary := by
    intro hbinary hbrightness
    have hle := h.not_brighter hbrightness
    rw [hbinary] at hle
    refine ⟨UInt32.le_iff_toNat_le.mp hle, ?_⟩
    intro hslow
    apply h.binary htarget.rgb hbinary hnamed hbrightness
    have hmode := h.in_modes hnamed
    have hmost : patch.value.mode.toNat ≤ 3 := UInt32.le_iff_toNat_le.mp (h.mode hnamed)
    rw [htarget.mode_mask] at hmode
    rw [UInt32.le_iff_toNat_le]
    show patch.value.mode.toNat ≤ 1
    by_contra hmore
    have hcases : patch.value.mode = 2 ∨ patch.value.mode = 3 := by
      simp only [← UInt32.toNat_inj, UInt32.reduceToNat]
      omega
    rcases hcases with heq | heq
    · exact hslow heq
    · rw [heq] at hmode
      exact absurd (by decide) hmode

/-! ### What is read after a patch -/

section after

variable {k : Context} {target : Target} {before : Value} {patch : Patch} {files : Files}

theorem store_number_other {name other : Text} (h : other ≠ name)
    (hcache : name = ("brightness" : Text) → other ≠ ("rbrightness" : Text)) (value : UInt32) :
    store_number files name value other = files other :=
  store_files_other h hcache

theorem recolored_other {detour : Bool} {color : UInt32} {other : Text} (h : other ≠ ("color" : Text)) :
    recolored detour color files other = files other := by
  unfold recolored
  split
  · exact store_files_other h fun hname => absurd hname (by decide)
  · rfl

theorem triggered_other {selected : UInt32} {trigger other : Text} (hcolor : other ≠ ("color" : Text))
    (htrigger : other ≠ ("trigger" : Text)) : triggered selected trigger files other = files other := by
  have hcache : ("trigger" : Text) = ("brightness" : Text) → other ≠ ("rbrightness" : Text) :=
    fun hname => absurd hname (by decide)
  unfold triggered
  rw [recolored_other hcolor, store_files_other htrigger hcache, store_files_other htrigger hcache,
    recolored_other hcolor]

theorem triggered_trigger (selected : UInt32) (trigger : Text) :
    triggered selected trigger files "trigger" = .ok trigger := by
  unfold triggered
  rw [recolored_other (by decide)]
  exact store_files_same (by decide)

/-- The colour stays, also where it is left out for a while. -/
theorem triggered_color {selected : UInt32} (trigger : Text)
    (h : files "color" = .ok (decimal selected.toNat)) :
    triggered selected trigger files "color" = .ok (decimal selected.toNat) := by
  have hcache : ("trigger" : Text) = ("brightness" : Text) → ("color" : Text) ≠ ("rbrightness" : Text) :=
    fun hname => absurd hname (by decide)
  unfold triggered recolored
  split
  · exact store_files_same (by decide)
  · rw [store_files_other (by decide) hcache, store_files_other (by decide) hcache]
    exact h

theorem timed_other {other : Text} (hbrightness : other ≠ ("brightness" : Text))
    (hcache : other ≠ ("rbrightness" : Text)) (hon : other ≠ ("delay_on" : Text))
    (hoff : other ≠ ("delay_off" : Text)) : timed k target before patch files other = files other := by
  unfold timed
  split
  · exact store_number_other hbrightness (fun _ => hcache) _
  · rw [store_number_other hoff (fun hname => absurd hname (by decide)),
      store_number_other hon (fun hname => absurd hname (by decide))]

theorem brightened_other {other : Text} (hbrightness : other ≠ ("brightness" : Text))
    (hcache : other ≠ ("rbrightness" : Text)) : brightened patch files other = files other := by
  unfold brightened
  split
  · exact store_files_other hbrightness fun _ => hcache
  · rfl

theorem colored_other {other : Text} (h : other ≠ ("color" : Text)) :
    colored patch files other = files other := by
  unfold colored
  split
  · exact store_files_other h fun hname => absurd hname (by decide)
  · rfl

theorem written_trigger :
    written k target before patch files "trigger" = .ok (trigger_for k patch.value.mode) := by
  unfold written
  rw [timed_other (by decide) (by decide) (by decide) (by decide)]
  exact triggered_trigger _ _

theorem written_color (h : patch.has PATCH_COLOR = true) :
    written k target before patch files "color" = .ok (decimal patch.value.color.toNat) := by
  have hselected : color_after before patch = patch.value.color := by
    unfold color_after
    rw [if_pos h]
  unfold written
  rw [timed_other (by decide) (by decide) (by decide) (by decide), hselected]
  apply triggered_color
  rw [brightened_other (by decide) (by decide)]
  unfold colored
  rw [if_pos h]
  exact store_files_same (by decide)

/-- What a patch leaves of the files of the brightness, before it writes the
    brightness or the durations that go with its mode. -/
theorem before_timed {other : Text} (hcolor : other ≠ ("color" : Text))
    (htrigger : other ≠ ("trigger" : Text)) :
    triggered (color_after before patch) (trigger_for k patch.value.mode)
      (brightened patch (colored patch files)) other = brightened patch (colored patch files) other :=
  triggered_other hcolor htrigger

theorem brightened_number {number : Nat} (h : number_in files "brightness" = .ok number) :
    number_in (brightened patch (colored patch files)) "brightness" =
      .ok (if patch.has PATCH_BRIGHTNESS then patch.value.brightness.toNat else number) := by
  unfold brightened
  split
  · exact number_in_store (by decide) _
  · rw [number_in_congr (colored_other (by decide))]
    exact h

theorem brightened_cache {number : Nat} (hsettable : patch.has PATCH_BRIGHTNESS = true →
      2 ≤ patch.value.brightness.toNat) (h : number_in files "rbrightness" = .ok number) :
    number_in (brightened patch (colored patch files)) "rbrightness" =
      .ok (if patch.has PATCH_BRIGHTNESS then patch.value.brightness.toNat else number) := by
  unfold brightened
  by_cases hhas : patch.has PATCH_BRIGHTNESS = true
  · rw [if_pos hhas, if_pos hhas]
    exact number_in_decimal (toNat_le _) (store_cached (hsettable hhas))
  · rw [if_neg hhas, if_neg hhas, number_in_congr (colored_other (by decide))]
    exact h

theorem switch_on (hn76 : k.n76 = true) (h : patch.value.mode = MODE_ON) :
    switch_brightness k target before patch = 1 := by
  unfold switch_brightness
  rw [if_pos ⟨hn76, h⟩]

theorem switch_off (h : patch.value.mode = MODE_OFF) :
    switch_brightness k target before patch = 0 := by
  unfold switch_brightness
  rw [h, if_neg (fun hon => absurd hon.2 (by decide)), if_pos rfl]

/-- The number that switches an LED as its mode says. -/
def switch_number (patch : Patch) : Nat := if patch.value.mode = MODE_ON then 1 else 0

theorem switch_number_eq (hn76 : k.n76 = true)
    (h : patch.value.mode = MODE_OFF ∨ patch.value.mode = MODE_ON) :
    (switch_brightness k target before patch).toNat = switch_number patch := by
  unfold switch_number
  rcases h with hoff | hon
  · rw [switch_off hoff, hoff]
    rfl
  · rw [switch_on hn76 hon, hon]
    rfl

/-- The brightness of the class device after a patch. -/
theorem written_brightness (hn76 : k.n76 = true) {number : Nat}
    (h : number_in files "brightness" = .ok number) :
    number_in (written k target before patch files) "brightness" =
      .ok (if patch.value.mode = MODE_OFF ∨ patch.value.mode = MODE_ON then switch_number patch
        else if patch.has PATCH_BRIGHTNESS then patch.value.brightness.toNat else number) := by
  have hbefore := @brightened_number patch files number h
  unfold written timed
  by_cases hswitched : patch.value.mode = MODE_OFF ∨ patch.value.mode = MODE_ON
  · rw [if_pos hswitched, if_pos hswitched, number_in_store (by decide),
      switch_number_eq hn76 hswitched]
  · rw [if_neg hswitched, if_neg hswitched, ← hbefore]
    apply number_in_congr
    rw [store_number_other (by decide) (fun hname => absurd hname (by decide)),
      store_number_other (by decide) (fun hname => absurd hname (by decide)),
      before_timed (by decide) (by decide)]

/-- The brightness that is configured after a patch. -/
theorem written_cache (hn76 : k.n76 = true) {number : Nat} (hsettable : patch.has PATCH_BRIGHTNESS = true →
      2 ≤ patch.value.brightness.toNat) (h : number_in files "rbrightness" = .ok number) :
    number_in (written k target before patch files) "rbrightness" =
      .ok (if patch.has PATCH_BRIGHTNESS then patch.value.brightness.toNat else number) := by
  rw [← brightened_cache hsettable h]
  apply number_in_congr
  unfold written timed
  by_cases hswitched : patch.value.mode = MODE_OFF ∨ patch.value.mode = MODE_ON
  · have hlow : (switch_brightness k target before patch).toNat < 2 := by
      rw [switch_number_eq hn76 hswitched]
      unfold switch_number
      split <;> decide
    rw [if_pos hswitched, store_switched hlow, before_timed (by decide) (by decide)]
  · rw [if_neg hswitched, store_number_other (by decide) (fun hname => absurd hname (by decide)),
      store_number_other (by decide) (fun hname => absurd hname (by decide)),
      before_timed (by decide) (by decide)]

theorem written_timing (h : patch.value.mode = MODE_BLINK) :
    timing_in (written k target before patch files) = (patch.value.on_ms, patch.value.off_ms, true) := by
  have hslow : ¬ (patch.value.mode = MODE_OFF ∨ patch.value.mode = MODE_ON) := by
    rw [h]
    decide
  unfold written timed timing_in
  have hother : ("delay_off" : Text) = ("brightness" : Text) →
      ("delay_on" : Text) ≠ ("rbrightness" : Text) := fun hname => absurd hname (by decide)
  rw [if_neg hslow, number_in_congr (store_number_other (by decide) hother _),
    number_in_store (by decide), number_in_store (by decide)]
  simp only [UInt32.ofNat_toNat]

theorem trigger_in_written :
    text_in (written k target before patch files) "trigger" 1024 =
      .ok (trigger_for k patch.value.mode) := by
  have hplain : (trigger_for k patch.value.mode).all (fun c => !isspace c && c != '\x00') = true := by
    unfold trigger_for
    split_ifs <;> decide
  have hshort : (trigger_for k patch.value.mode).length + 1 < 1024 := by
    unfold trigger_for
    split_ifs <;> decide
  apply text_in_plain _ hshort written_trigger
  intro c hc
  have hc := List.all_eq_true.mp hplain c hc
  rw [Bool.and_eq_true, Bool.not_eq_true', bne_iff_ne] at hc
  exact hc

theorem active_trigger_for (mode : UInt32) :
    active_trigger (trigger_for k mode) = some (trigger_for k mode) := by
  unfold trigger_for
  split_ifs <;> decide

/-- The trigger and the brightness give back the mode. -/
theorem mode_written (hn76 : k.n76 = true) (hmode : patch.value.mode = MODE_OFF ∨
      patch.value.mode = MODE_ON ∨ patch.value.mode = MODE_BLINK) (number : Nat) :
    mode_of (trigger_for k patch.value.mode) (core target
        (if patch.value.mode = MODE_OFF ∨ patch.value.mode = MODE_ON then switch_number patch
          else number)) = some patch.value.mode := by
  have htimer : mode_of ("timer" : Text) (core target number) = some MODE_BLINK := by
    unfold mode_of
    rw [if_neg (by decide), if_pos (by decide)]
  have hnormal : ∀ core_brightness, mode_of ("normal" : Text) core_brightness =
      some (if core_brightness ≠ 0 then MODE_ON else MODE_OFF) := by
    intro core_brightness
    unfold mode_of
    rw [if_pos (by decide)]
  have hzero : core target 0 = 0 := by
    unfold core
    split <;> decide
  have hone : core target 1 = 1 := by
    unfold core
    split <;> decide
  rcases hmode with heq | heq | heq
  · have hswitch : switch_number patch = 0 := by
      unfold switch_number
      rw [heq]
      rfl
    rw [if_pos (.inl heq), hswitch, heq]
    unfold trigger_for
    rw [if_neg (by decide), if_neg (by decide), if_pos hn76]
    rw [hnormal, hzero, if_neg (not_not.mpr rfl)]
  · have hswitch : switch_number patch = 1 := by
      unfold switch_number
      rw [heq]
      rfl
    rw [if_pos (.inr heq), hswitch, heq]
    unfold trigger_for
    rw [if_neg (by decide), if_neg (by decide), if_pos hn76]
    rw [hnormal, hone, if_pos (by decide)]
  · rw [heq, if_neg (by decide)]
    unfold trigger_for
    rw [if_pos rfl]
    exact htimer

/-- The brightness that was asked for is the one that is read. -/
theorem brightness_written (hn76 : k.n76 = true) (htarget : N76Target target)
    (hpatch : Complete target patch) (number : Nat) {core_brightness brightness : UInt32}
    (hbrightness : Configured k target files core_brightness brightness) :
    ∃ after, Configured k target (written k target before patch files) (core target
        (if patch.value.mode = MODE_OFF ∨ patch.value.mode = MODE_ON then switch_number patch
          else if patch.has PATCH_BRIGHTNESS then patch.value.brightness.toNat else number)) after ∧
      (patch.has PATCH_BRIGHTNESS = true → after = patch.value.brightness) := by
  by_cases hcache : k.n76 ∧ target.max_brightness > 1
  · obtain ⟨n, hn, hle, -⟩ := (configured_cached hcache).mp hbrightness
    have hdimmed : target.max_brightness ≠ 1 := fun hone => absurd hcache.2 (by rw [hone]; decide)
    have hread := @written_cache k target before patch files hn76 n
      (fun hhas => (hpatch.settable hhas).resolve_left hdimmed) hn
    refine ⟨_, (configured_cached hcache).mpr ⟨_, hread, ?_, rfl⟩, ?_⟩
    · split
      · next hhas => exact hpatch.brightness hhas
      · exact hle
    · intro hhas
      rw [if_pos hhas]
      exact UInt32.ofNat_toNat
  · refine ⟨_, (configured_core hcache).mpr rfl, ?_⟩
    intro hhas
    have hbinary : target.max_brightness = 1 := by
      rcases htarget.range with ⟨hmax, -⟩ | hone
      · exact absurd ⟨hn76, by rw [hmax]; decide⟩ hcache
      · exact hone
    obtain ⟨hle, hswitch⟩ := hpatch.binary hbinary hhas
    have hvalue : patch.value.brightness = 0 ∨ patch.value.brightness = 1 := by
      simp only [← UInt32.toNat_inj, UInt32.reduceToNat]
      omega
    unfold core
    rw [if_pos hbinary]
    rcases hpatch.mode with heq | heq | heq
    · have hoff := hswitch (by rw [heq]; decide)
      have hzero : patch.value.brightness = 0 := by
        by_contra hne
        have hon := hoff.mpr hne
        rw [heq] at hon
        exact absurd hon (by decide)
      rw [hzero]
      unfold switch_number
      rw [heq]
      rfl
    · have hon := (hswitch (by rw [heq]; decide)).mp heq
      rw [hvalue.resolve_left hon]
      unfold switch_number
      rw [heq]
      rfl
    · rw [heq, if_neg (by decide : ¬ (MODE_BLINK = MODE_OFF ∨ MODE_BLINK = MODE_ON)), if_pos hhas]
      rcases hvalue with hzero | hone
      · rw [hzero]
        rfl
      · rw [hone]
        rfl

/-- The colour that was asked for is the one that is read. -/
theorem color_written (hn76 : k.n76 = true) (hhas : patch.has PATCH_COLOR = true)
    (hpalette : patch.value.color = 1 ∨ patch.value.color = 2 ∨ patch.value.color = 3) :
    color_in k (written k target before patch files) = some patch.value.color := by
  have hfile := @written_color k target before patch files hhas
  have hnumber := number_in_decimal (toNat_le patch.value.color) hfile
  have hlength := decimal_length (toNat_le patch.value.color)
  have htext : text_in (written k target before patch files) "color" 128 =
      .ok (decimal patch.value.color.toNat) :=
    text_in_plain (fun c hc => digit_plain (isdigit_decimal c hc)) (by omega) hfile
  have hunnamed : named_color (decimal patch.value.color.toNat) = none := by
    rcases hpalette with heq | heq | heq <;> rw [heq] <;> decide
  have hle : patch.value.color.toNat ≤ 3 := by
    rcases hpalette with heq | heq | heq <;> rw [heq] <;> decide
  unfold color_in
  simp only [not_gpio hn76, Bool.false_eq_true, if_false, htext, hunnamed, hnumber, if_pos hle,
    UInt32.ofNat_toNat]

/-- The value that is read after a patch has every field as it was asked for. -/
theorem seen_written (hn76 : k.n76 = true) (htarget : N76Target target)
    (hpatch : Complete target patch) {value : Value} (hseen : Seen k target files value) :
    ∃ after, Seen k target (written k target before patch files) after ∧
      confirmed patch after = true := by
  obtain ⟨number, brightness, -, -, hnumber, hbrightness, -, -, -⟩ := hseen
  obtain ⟨bright, hconfigured, hbright⟩ :=
    @brightness_written k target before patch files hn76 htarget hpatch number _ _ hbrightness
  have hmode := @mode_written k target patch hn76 hpatch.mode
    (if patch.has PATCH_BRIGHTNESS then patch.value.brightness.toNat else number)
  refine ⟨_, ⟨_, bright, _, _, written_brightness hn76 hnumber, hconfigured, trigger_in_written,
    active_trigger_for _, rfl⟩, ?_⟩
  rw [hmode]
  have hcolor : patch.has PATCH_COLOR = true →
      color_in k (written k target before patch files) = some patch.value.color :=
    fun hhas => color_written hn76 hhas (hpatch.palette hhas)
  have htiming : patch.has PATCH_TIMING = true → timing_in (written k target before patch files) =
      (patch.value.on_ms, patch.value.off_ms, true) :=
    fun hhas => written_timing (hpatch.timing hhas)
  generalize color_in k (written k target before patch files) = color at hcolor
  generalize timing_in (written k target before patch files) = timing at htiming
  have hknown : (value_of (some patch.value.mode) bright color timing).unknown_fields &&&
      patch.fields = 0 := by
    have hunset : ∀ field, patch.has field = false → field &&& patch.fields = 0 := by
      intro field hfield
      unfold Patch.has at hfield
      rw [UInt32.and_comm]
      exact of_not_not fun hne => by rw [bne_iff_ne.mpr hne] at hfield; cases hfield
    have hdistrib : ∀ a b c : UInt32, (a ||| b) &&& c = (a &&& c) ||| (b &&& c) := fun _ _ _ =>
      UInt32.toBitVec_inj.mp BitVec.and_or_distrib_right
    have hcolored : (if color.isNone then PATCH_COLOR else 0) &&& patch.fields = 0 := by
      by_cases hhas : patch.has PATCH_COLOR = true
      · rw [hcolor hhas]
        exact UInt32.zero_and
      · split
        · exact hunset _ (Bool.eq_false_iff.mpr hhas)
        · exact UInt32.zero_and
    have htimed : (if timing.2.2 then 0 else PATCH_TIMING) &&& patch.fields = 0 := by
      by_cases hhas : patch.has PATCH_TIMING = true
      · rw [htiming hhas]
        exact UInt32.zero_and
      · split
        · exact UInt32.zero_and
        · exact hunset _ (Bool.eq_false_iff.mpr hhas)
    show (PATCH_RGB ||| (if color.isNone then PATCH_COLOR else 0) |||
      (if timing.2.2 then 0 else PATCH_TIMING) ||| 0) &&& patch.fields = 0
    rw [hdistrib, hdistrib, hdistrib, hunset _ hpatch.colorless, hcolored, htimed, UInt32.zero_and]
    rfl
  have himplies : ∀ {a b : Bool}, (a = true → b = true) → (!a || b) = true := by
    intro a b hab
    cases a with
    | false => rfl
    | true => exact hab rfl
  unfold confirmed
  rw [hknown]
  simp only [Bool.and_eq_true, decide_true, true_and]
  refine ⟨⟨⟨himplies ?_, himplies ?_⟩, himplies ?_⟩, himplies ?_⟩
  · intro hhas
    rw [hcolor hhas]
    unfold same_color
    simp [value_of]
  · intro hhas
    exact decide_eq_true (hbright hhas)
  · intro _
    exact decide_eq_true rfl
  · intro hhas
    rw [htiming hhas]
    simp [value_of]

/-- A complete patch is carried out. -/
theorem does_carry_out (hn76 : k.n76 = true) (htarget : N76Target target)
    (hpatch : Complete target patch) {index : Nat} {directory : Text} {c : Directories}
    {m : Machine k.root} (hbound : Bound k target m directory) (hknown : c index = directory)
    {value : Value} (hseen : Seen k target (m.files directory) value) :
    ∃ after m', Does stored (carry_out k index target before patch) c m after c m' ∧
      Only directory m m' := by
  obtain ⟨m₁, hcolor, honly₁, hfiles₁, hbound₁⟩ := writes_color hn76 patch c m hbound hknown
  obtain ⟨m₂, hbright, honly₂, hfiles₂, hbound₂⟩ :=
    writes_brightness hpatch.settable c m₁ hbound₁ hknown
  obtain ⟨m₃, hmode, honly₃, hfiles₃, hbound₃⟩ :=
    writes_mode hn76 before hpatch.named c m₂ hbound₂ hknown
  obtain ⟨after, hafter, hconfirmed⟩ :=
    @seen_written k target before patch _ hn76 htarget hpatch value hseen
  have hfiles : m₃.files directory = written k target before patch (m.files directory) := by
    rw [hfiles₃, hfiles₂, hfiles₁]
    rfl
  rw [← hfiles] at hafter
  have hread := does_read_target hbound₃ (.inr hknown) hafter
  have hsame : Function.update c index directory = c := by
    rw [← hknown]
    exact Function.update_eq_self ..
  rw [hsame] at hread
  have hmatches : ¬ patch.has PATCH_BRIGHTNESS = true ∨
      after.brightness = patch.value.brightness := by
    unfold confirmed at hconfirmed
    simp only [Bool.and_eq_true, Bool.or_eq_true, Bool.not_eq_true', decide_eq_true_eq] at hconfirmed
    rw [Bool.not_eq_true]
    exact hconfirmed.1.1.2
  refine ⟨after, m₃, ?_, honly₁.trans (honly₂.trans honly₃)⟩
  refine hcolor.bind (hbright.bind (hmode.bind ?_))
  have hback : Does stored (read_back k index target patch 20) c m₃ after c m₃ := by
    refine hread.bind ?_
    rw [if_pos hmatches]
    exact does_pure after
  exact hback.bind (Does.bail_then (not_not.mpr hconfirmed) (does_pure after))

end after

end UgreenNas.Led.Sysfs
