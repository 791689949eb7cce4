import UgreenNas.Core.LedExecute
import UgreenNas.Core.Parsed

/-! # Patches of parsed requests

    Every patch that the command line makes of a request it has accepted
    passes the generic check, whatever the options and their order.  The
    options of one `led set` are merged; the last colour and the last
    brightness decide.
-/

namespace UgreenNas.Core

open DiskMap Led

/-! ## Fields -/

section fields

variable (patch next : Patch)

/-- The fields of a patch before those of the next one are added. -/
def kept_fields (patch next : Patch) : UInt32 :=
  let fields := if next.has PATCH_RGB then patch.fields &&& ~~~PATCH_COLOR else patch.fields
  if next.has PATCH_COLOR then fields &&& ~~~PATCH_RGB else fields

theorem merge_has_kept (field : UInt32) : (merge patch next).has field =
    (Patch.has ⟨kept_fields patch next, patch.value⟩ field || next.has field) :=
  has_or _ _ _ _ _ _

/-- Colours clear no other field. -/
theorem merge_has {field : UInt32} (hcolor : ~~~PATCH_COLOR &&& field = field)
    (hrgb : ~~~PATCH_RGB &&& field = field) :
    (merge patch next).has field = (patch.has field || next.has field) := by
  rw [merge_has_kept]
  congr 1
  unfold kept_fields
  cases next.has PATCH_COLOR <;> cases next.has PATCH_RGB <;>
    simp [Patch.has, UInt32.and_assoc, hcolor, hrgb]

/-- A palette colour takes the place of RGB components... -/
theorem merge_has_rgb : (merge patch next).has PATCH_RGB =
    ((patch.has PATCH_RGB && !next.has PATCH_COLOR) || next.has PATCH_RGB) := by
  rw [merge_has_kept]
  congr 1
  have hkept : ~~~PATCH_COLOR &&& PATCH_RGB = PATCH_RGB := by decide
  have hcleared : ~~~PATCH_RGB &&& PATCH_RGB = 0 := by decide
  unfold kept_fields
  cases next.has PATCH_COLOR <;> cases next.has PATCH_RGB <;>
    simp [Patch.has, UInt32.and_assoc, hkept, hcleared]

/-- ... and these that of a palette colour. -/
theorem merge_has_color : (merge patch next).has PATCH_COLOR =
    ((patch.has PATCH_COLOR && !next.has PATCH_RGB) || next.has PATCH_COLOR) := by
  rw [merge_has_kept]
  congr 1
  have hkept : ~~~PATCH_RGB &&& PATCH_COLOR = PATCH_COLOR := by decide
  have hcleared : ~~~PATCH_COLOR &&& PATCH_COLOR = 0 := by decide
  unfold kept_fields
  cases next.has PATCH_COLOR <;> cases next.has PATCH_RGB <;>
    simp [Patch.has, UInt32.and_assoc, hkept, hcleared]

theorem merge_has_mode :
    (merge patch next).has PATCH_MODE = (patch.has PATCH_MODE || next.has PATCH_MODE) :=
  merge_has patch next (by decide) (by decide)

theorem merge_has_brightness : (merge patch next).has PATCH_BRIGHTNESS =
    (patch.has PATCH_BRIGHTNESS || next.has PATCH_BRIGHTNESS) :=
  merge_has patch next (by decide) (by decide)

theorem merge_has_timing : (merge patch next).has PATCH_TIMING =
    (patch.has PATCH_TIMING || next.has PATCH_TIMING) :=
  merge_has patch next (by decide) (by decide)

end fields

/-! ## Patches of actions -/

/-- Nothing is set. -/
theorem has_zero (value : Value) (field : UInt32) : Patch.has ⟨0, value⟩ field = false := by
  simp [Patch.has]

theorem toUInt32_le (x : UInt8) : x.toUInt32 ≤ 255 := by
  rw [UInt32.le_iff_toNat_le, UInt8.toNat_toUInt32]
  have hlt := x.toNat_lt
  show x.toNat ≤ 255
  omega

/-- A percentage of the range of an LED. -/
theorem scaled_le {percent : UInt8} {maximum : UInt32} (hpercent : percent.toNat ≤ 100)
    (hmaximum : maximum ≤ 255) : (percent.toUInt32 * maximum + 50) / 100 ≤ maximum := by
  have hmaximum' : maximum.toNat ≤ 255 := UInt32.le_iff_toNat_le.mp hmaximum
  have hproduct : percent.toNat * maximum.toNat ≤ 100 * maximum.toNat :=
    Nat.mul_le_mul_right _ hpercent
  rw [UInt32.le_iff_toNat_le, UInt32.toNat_div, UInt32.toNat_add, UInt32.toNat_mul,
    UInt8.toNat_toUInt32]
  show (percent.toNat * maximum.toNat % 2 ^ 32 + 50) % 2 ^ 32 / 100 ≤ maximum.toNat
  omega

section known

variable {value : Value}

theorem not_has {fields field : UInt32} (h : fields &&& field = 0) :
    Patch.has ⟨fields, value⟩ field = false := by
  unfold Patch.has
  rw [h]
  rfl

theorem has_self {field : UInt32} (h : field ≠ 0) : Patch.has ⟨field, value⟩ field = true := by
  unfold Patch.has
  rw [UInt32.and_self]
  exact bne_iff_ne.mpr h

/-- Nothing is asked of a field that is not set. -/
theorem unset {fields field : UInt32} {p : Prop} (h : fields &&& field = 0) :
    Patch.has ⟨fields, value⟩ field = true → p := by
  rw [not_has h]
  intro hset
  cases hset

theorem known_mode (h : value.mode ≤ 1) : KnownPatch ⟨PATCH_MODE, value⟩ where
  nonempty := show PATCH_MODE ≠ 0 by decide
  known := show PATCH_MODE &&& ~~~(PATCH_MODE ||| PATCH_RGB ||| PATCH_BRIGHTNESS ||| PATCH_TIMING |||
    PATCH_COLOR) = 0 by decide
  rgb := unset (by decide)
  brightness := unset (by decide)
  color := unset (by decide)
  mode := fun _ => UInt32.le_trans h (by decide)
  timing := unset (by decide)
  timed := by
    intro _ htimed
    rcases htimed with heq | heq
    · rw [heq] at h
      exact absurd h (by decide)
    · rw [heq] at h
      exact absurd h (by decide)
  cycle := unset (by decide)

theorem known_color (h : value.color ≤ COLOR_MAX) : KnownPatch ⟨PATCH_COLOR, value⟩ where
  nonempty := show PATCH_COLOR ≠ 0 by decide
  known := show PATCH_COLOR &&& ~~~(PATCH_MODE ||| PATCH_RGB ||| PATCH_BRIGHTNESS ||| PATCH_TIMING |||
    PATCH_COLOR) = 0 by decide
  rgb := unset (by decide)
  brightness := unset (by decide)
  color := fun _ => ⟨h, by rw [not_has (by decide)]; exact Bool.false_ne_true⟩
  mode := unset (by decide)
  timing := unset (by decide)
  timed := unset (by decide)
  cycle := unset (by decide)

theorem known_rgb (hred : value.red ≤ 255) (hgreen : value.green ≤ 255)
    (hblue : value.blue ≤ 255) : KnownPatch ⟨PATCH_RGB, value⟩ where
  nonempty := show PATCH_RGB ≠ 0 by decide
  known := show PATCH_RGB &&& ~~~(PATCH_MODE ||| PATCH_RGB ||| PATCH_BRIGHTNESS ||| PATCH_TIMING |||
    PATCH_COLOR) = 0 by decide
  rgb := fun _ => ⟨hred, hgreen, hblue⟩
  brightness := unset (by decide)
  color := unset (by decide)
  mode := unset (by decide)
  timing := unset (by decide)
  timed := unset (by decide)
  cycle := unset (by decide)

theorem known_brightness (h : value.brightness ≤ 255) : KnownPatch ⟨PATCH_BRIGHTNESS, value⟩ where
  nonempty := show PATCH_BRIGHTNESS ≠ 0 by decide
  known := show PATCH_BRIGHTNESS &&& ~~~(PATCH_MODE ||| PATCH_RGB ||| PATCH_BRIGHTNESS ||| PATCH_TIMING |||
    PATCH_COLOR) = 0 by decide
  rgb := unset (by decide)
  brightness := fun _ => h
  color := unset (by decide)
  mode := unset (by decide)
  timing := unset (by decide)
  timed := unset (by decide)
  cycle := unset (by decide)

theorem effect_has_timing (value : Value) :
    Patch.has ⟨PATCH_MODE ||| PATCH_TIMING, value⟩ PATCH_TIMING = true :=
  show ((PATCH_MODE ||| PATCH_TIMING) &&& PATCH_TIMING != 0) = true by decide

theorem known_effect (hmode : value.mode = MODE_BLINK ∨ value.mode = MODE_BREATH)
    (hcycle : value.on_ms.toNat + value.off_ms.toNat ≤ 65535) :
    KnownPatch ⟨PATCH_MODE ||| PATCH_TIMING, value⟩ where
  nonempty := show PATCH_MODE ||| PATCH_TIMING ≠ 0 by decide
  known := show (PATCH_MODE ||| PATCH_TIMING) &&& ~~~(PATCH_MODE ||| PATCH_RGB ||| PATCH_BRIGHTNESS ||| PATCH_TIMING |||
    PATCH_COLOR) = 0 by decide
  rgb := unset (by decide)
  brightness := unset (by decide)
  color := unset (by decide)
  mode := by
    intro _
    show value.mode ≤ MODE_BREATH
    rcases hmode with heq | heq
    · rw [heq]
      decide
    · rw [heq]
      exact UInt32.le_refl _
  timing := fun _ =>
    ⟨show ((PATCH_MODE ||| PATCH_TIMING) &&& PATCH_MODE != 0) = true by decide, hmode⟩
  timed := fun _ _ => effect_has_timing _
  cycle := fun _ => hcycle

end known

section actions

variable {action : CliAction} {led : Target}

/-- The brightness of a patch stays in the range of a byte, and a percentage
    in that of the LED. -/
theorem brightness_fits (hvalid : action.Valid) (hled : led.max_brightness ≤ 255)
    (hkind : action.kind = .brightness) :
    (patch_for_action action led).value.brightness ≤ 255 ∧
      (action.brightness_percent = true →
        (patch_for_action action led).value.brightness ≤ led.max_brightness) := by
  unfold patch_for_action
  rw [hkind]
  simp only
  split
  · rename_i hpercent
    have hle := scaled_le (hvalid.percent hpercent) hled
    exact ⟨UInt32.le_trans hle hled, fun _ => hle⟩
  · rename_i hraw
    exact ⟨toUInt32_le _, fun h => absurd h hraw⟩

theorem cycle_of_valid (hvalid : action.Valid) :
    action.on_ms.toUInt32.toNat + action.off_ms.toUInt32.toNat ≤ 65535 := by
  rw [UInt16.toNat_toUInt32, UInt16.toNat_toUInt32]
  exact hvalid.cycle

/-- Every patch of a valid action is one the generic check knows. -/
theorem patch_for_action_known (hvalid : action.Valid) (hled : led.max_brightness ≤ 255)
    (hkind : action.kind ≠ .status) : KnownPatch (patch_for_action action led) := by
  have hcycle := cycle_of_valid hvalid
  cases hcase : action.kind with
  | status => exact absurd hcase hkind
  | on =>
    unfold patch_for_action
    rw [hcase]
    exact known_mode (UInt32.le_refl _)
  | off =>
    unfold patch_for_action
    rw [hcase]
    exact known_mode (show (0 : UInt32) ≤ 1 by decide)
  | color =>
    unfold patch_for_action
    rw [hcase]
    simp only
    split
    · exact known_color hvalid.color
    · exact known_rgb (toUInt32_le _) (toUInt32_le _) (toUInt32_le _)
  | brightness =>
    have hfits := (brightness_fits hvalid hled hcase).1
    unfold patch_for_action at hfits ⊢
    rw [hcase] at hfits ⊢
    exact known_brightness hfits
  | blink =>
    unfold patch_for_action
    rw [hcase]
    exact known_effect (.inl rfl) hcycle
  | breath =>
    unfold patch_for_action
    rw [hcase]
    exact known_effect (.inr rfl) hcycle

end actions

/-! ## Merged patches -/

/-- A patch that the next one may be merged into: nothing yet, or known. -/
def Mergeable (patch : Patch) : Prop := patch.fields = 0 ∨ KnownPatch patch

section merge

variable {patch next : Patch}

theorem Mergeable.known (h : Mergeable patch) {field : UInt32} (hset : patch.has field = true) :
    KnownPatch patch := by
  rcases h with hzero | hknown
  · unfold Patch.has at hset
    rw [hzero] at hset
    simp at hset
  · exact hknown

theorem Mergeable.no_unknown (h : Mergeable patch) : patch.fields &&&
    ~~~(PATCH_MODE ||| PATCH_RGB ||| PATCH_BRIGHTNESS ||| PATCH_TIMING ||| PATCH_COLOR) = 0 := by
  rcases h with hzero | hknown
  · rw [hzero]
    decide
  · exact hknown.known

/-- Clearing bits sets none. -/
theorem kept_no_unknown {mask : UInt32} (h : patch.fields &&& mask = 0) :
    kept_fields patch next &&& mask = 0 := by
  have hclear : ∀ a b : UInt32, a &&& mask = 0 → a &&& b &&& mask = 0 := by
    intro a b ha
    rw [UInt32.and_assoc, UInt32.and_comm b mask, ← UInt32.and_assoc, ha, UInt32.zero_and]
  unfold kept_fields
  cases next.has PATCH_COLOR <;> cases next.has PATCH_RGB <;>
    simp only [Bool.false_eq_true, if_false, if_true, h, hclear]

/-- The step lemma: merging known patches gives a known one, as long as only
    one of them has a mode. -/
theorem merge_known (hpatch : Mergeable patch) (hnext : KnownPatch next)
    (hmode : next.has PATCH_MODE = true → patch.has PATCH_MODE = false) :
    KnownPatch (merge patch next) where
  nonempty := by
    intro hzero
    exact hnext.nonempty (UInt32.or_eq_zero_iff.mp hzero).2
  known := by
    show (kept_fields patch next ||| next.fields) &&& _ = 0
    have hdistrib : ∀ a b m : UInt32, (a ||| b) &&& m = (a &&& m) ||| (b &&& m) :=
      fun a b m => UInt32.toBitVec_inj.mp BitVec.and_or_distrib_right
    rw [hdistrib, kept_no_unknown hpatch.no_unknown, hnext.known]
    decide
  rgb := by
    intro hset
    rw [merge_has_rgb] at hset
    cases hnew : next.has PATCH_RGB with
    | true =>
      simp only [merge, hnew, if_true]
      exact hnext.rgb hnew
    | false =>
      rw [hnew, Bool.or_false, Bool.and_eq_true] at hset
      simp only [merge, hnew, Bool.false_eq_true, if_false]
      exact (hpatch.known hset.1).rgb hset.1
  brightness := by
    intro hset
    rw [merge_has_brightness] at hset
    cases hnew : next.has PATCH_BRIGHTNESS with
    | true =>
      simp only [merge, hnew, if_true]
      exact hnext.brightness hnew
    | false =>
      rw [hnew, Bool.or_false] at hset
      simp only [merge, hnew, Bool.false_eq_true, if_false]
      exact (hpatch.known hset).brightness hset
  color := by
    intro hset
    rw [merge_has_color] at hset
    rw [merge_has_rgb]
    cases hnew : next.has PATCH_COLOR with
    | true =>
      obtain ⟨hle, hrgb⟩ := hnext.color hnew
      simp only [merge, hnew, if_true]
      exact ⟨hle, by simp [hrgb]⟩
    | false =>
      rw [hnew, Bool.or_false, Bool.and_eq_true, Bool.not_eq_true'] at hset
      obtain ⟨hle, hrgb⟩ := (hpatch.known hset.1).color hset.1
      simp only [merge, hnew, Bool.false_eq_true, if_false]
      exact ⟨hle, by simp [hrgb, hset.2]⟩
  mode := by
    intro hset
    rw [merge_has_mode] at hset
    cases hnew : next.has PATCH_MODE with
    | true =>
      simp only [merge, hnew, if_true]
      exact hnext.mode hnew
    | false =>
      rw [hnew, Bool.or_false] at hset
      simp only [merge, hnew, Bool.false_eq_true, if_false]
      exact (hpatch.known hset).mode hset
  timing := by
    intro hset
    rw [merge_has_timing] at hset
    rw [merge_has_mode]
    cases hnew : next.has PATCH_TIMING with
    | true =>
      obtain ⟨hhas, heffect⟩ := hnext.timing hnew
      simp only [merge, hhas, if_true, Bool.or_true]
      exact ⟨trivial, heffect⟩
    | false =>
      rw [hnew, Bool.or_false] at hset
      obtain ⟨hhas, heffect⟩ := (hpatch.known hset).timing hset
      -- a new mode would not fit to the old one
      have hold : next.has PATCH_MODE = false := by
        by_contra hnext_mode
        rw [hmode (by simpa using hnext_mode)] at hhas
        cases hhas
      simp only [merge, hhas, hold, Bool.false_eq_true, if_false, Bool.or_false]
      exact ⟨trivial, heffect⟩
  timed := by
    intro hset heffect
    rw [merge_has_mode] at hset
    rw [merge_has_timing]
    cases hnew : next.has PATCH_MODE with
    | true =>
      simp only [merge, hnew, if_true] at heffect
      simp [hnext.timed hnew heffect]
    | false =>
      rw [hnew, Bool.or_false] at hset
      simp only [merge, hnew, Bool.false_eq_true, if_false] at heffect
      simp [(hpatch.known hset).timed hset heffect]
  cycle := by
    intro hset
    rw [merge_has_timing] at hset
    cases hnew : next.has PATCH_TIMING with
    | true =>
      simp only [merge, hnew, if_true]
      exact hnext.cycle hnew
    | false =>
      rw [hnew, Bool.or_false] at hset
      simp only [merge, hnew, Bool.false_eq_true, if_false]
      exact (hpatch.known hset).cycle hset

end merge

/-! ## Parsed actions -/

/-- The options among the arguments of a subcommand, each with its value. -/
def options : List Text → List (Text × Text)
  | [] => []
  | [_] => []
  | arg :: value :: rest =>
    if is_option arg then (arg, value) :: options rest else options (value :: rest)

/-- The value of the last of the options with this name. -/
def last_value (name : Text) (args : List Text) : Option Text :=
  ((options args).filter fun option => option.1 = name).getLast?.map fun option => option.2

/-- The action that an option adds, if it adds one. -/
def option_action : Text × Text → Option CliAction
  | (name, value) =>
    if name = "--color" then (color value {}).map fun a => { a with kind := .color }
    else if name = "--brightness" then
      (brightness value).map fun level =>
        { kind := .brightness, brightness := level,
          brightness_percent := value.getLast? = some '%' }
    else none

/-- The kinds of `--mode`, and of `led on` and `led off`. -/
def ActionKind.is_mode : ActionKind → Bool
  | .on | .off | .blink | .breath => true
  | _ => false

/-- The kinds of the other options. -/
def ActionKind.is_setting : ActionKind → Bool
  | .color | .brightness => true
  | _ => false

/-- Options that the parser has let through: colours and brightnesses are
    such. -/
def Understood (option : Text × Text) : Prop :=
  (option.1 = "--color" → (color option.2 {}).isSome = true) ∧
    (option.1 = "--brightness" → (brightness option.2).isSome = true)

theorem options_target {arg : Text} (h : is_option arg = false) (rest : List Text) :
    options (arg :: rest) = options rest := by
  cases rest with
  | nil => rfl
  | cons value rest =>
    rw [options, if_neg (by simp [h])]

theorem options_option {arg : Text} (h : is_option arg = true) (value : Text) (rest : List Text) :
    options (arg :: value :: rest) = (arg, value) :: options rest := by
  rw [options, if_pos h]

theorem option_action_color {value : Text} {a : CliAction} (h : color value {} = some a) :
    option_action ("--color".toList, value) = some { a with kind := .color } := by
  rw [option_action, if_pos rfl, h]
  rfl

theorem option_action_brightness {value : Text} {level : UInt8} (h : brightness value = some level) :
    option_action ("--brightness".toList, value) =
      some { kind := .brightness, brightness := level,
             brightness_percent := value.getLast? = some '%' } := by
  have hother : ¬ ("--brightness".toList = "--color".toList) := by decide
  rw [option_action, if_neg hother, if_pos rfl, h]
  rfl

theorem option_action_other {name value : Text} (hcolor : name ≠ "--color")
    (hbrightness : name ≠ "--brightness") : option_action (name, value) = none := by
  rw [option_action, if_neg hcolor, if_neg hbrightness]

theorem option_action_valid {option : Text × Text} {a : CliAction}
    (h : option_action option = some a) : a.Valid ∧ a.kind.is_setting = true := by
  have hnone : COLOR_NONE ≤ COLOR_MAX := by decide
  obtain ⟨name, value⟩ := option
  rw [option_action] at h
  split at h
  · obtain ⟨a₁, hcolor, rfl⟩ := Option.map_eq_some_iff.mp h
    obtain ⟨red, green, blue, named, c, hc, rfl⟩ := color_ok hcolor
    exact ⟨⟨hc, fun h => (by cases h), by simp⟩, rfl⟩
  split at h
  · obtain ⟨level, hlevel, rfl⟩ := Option.map_eq_some_iff.mp h
    refine ⟨⟨hnone, ?_, by simp⟩, rfl⟩
    intro hpercent
    exact brightness_le hlevel (of_decide_eq_true hpercent)
  · cases h

/-- What one argument has to do with the options on the command line: these
    are its own, and those behind it. -/
structure ReadsOptions (item : List Text) (actions actions' : List CliAction)
    (found : List (Text × Text)) : Prop where
  split : ∀ rest, options (item ++ rest) = found ++ options rest
  actions : actions' = actions ++ found.filterMap option_action
  understood : ∀ option ∈ found, Understood option

/-- An option that adds an action. -/
theorem own_option {name value : Text} (actions : List CliAction) {a : CliAction}
    (hoption : is_option name = true) (haction : option_action (name, value) = some a)
    (hunderstood : Understood (name, value)) :
    ReadsOptions [name, value] actions (actions ++ [a]) [(name, value)] where
  split := options_option hoption value
  actions := by rw [List.filterMap_cons, haction]; rfl
  understood := by
    intro option hmem
    rw [List.mem_singleton.mp hmem]
    exact hunderstood

/-- An option that adds no action. -/
theorem other_option {name : Text} (value : Text) (actions : List CliAction)
    (hoption : is_option name = true) (hcolor : name ≠ "--color")
    (hbrightness : name ≠ "--brightness") :
    ReadsOptions [name, value] actions actions [(name, value)] where
  split := options_option hoption value
  actions := by rw [List.filterMap_cons, option_action_other hcolor hbrightness]; simp
  understood := by
    intro option hmem
    rw [List.mem_singleton.mp hmem]
    exact ⟨fun h => absurd h hcolor, fun h => absurd h hbrightness⟩

/-- The step lemma: an argument adds its action behind the others. -/
theorem ReadsItem.actions {verb : Text} {s s' : NewState} {item : List Text}
    (h : ReadsItem verb s item s') : ∃ found, ReadsOptions item s.o.actions s'.o.actions found := by
  cases h with
  | target hno_option htarget =>
    refine ⟨[], options_target hno_option, ?_, fun _ hmem => absurd hmem List.not_mem_nil⟩
    rcases new_target_cases htarget with ⟨-, rfl⟩ | ⟨o, ho, rfl⟩
    · simp
    · simp [target_actions ho]
  | seconds => exact ⟨_, other_option _ _ (by decide) (by decide) (by decide)⟩
  | option _ _ hoption =>
    cases hoption with
    | color hcolor =>
      refine ⟨_, own_option _ (by decide) (option_action_color hcolor) ⟨?_, ?_⟩⟩
      · intro _
        rw [hcolor]
        rfl
      · intro hother
        exact absurd (show "--color".toList = "--brightness".toList from hother) (by decide)
    | brightness hlevel =>
      refine ⟨_, own_option _ (by decide) (option_action_brightness hlevel) ⟨?_, ?_⟩⟩
      · intro hother
        exact absurd (show "--brightness".toList = "--color".toList from hother) (by decide)
      · intro _
        rw [hlevel]
        rfl
    | mode => exact ⟨_, other_option _ _ (by decide) (by decide) (by decide)⟩
    | on_ms => exact ⟨_, other_option _ _ (by decide) (by decide) (by decide)⟩
    | off_ms => exact ⟨_, other_option _ _ (by decide) (by decide) (by decide)⟩

/-- The run lemma: the actions stand in the order of the command line. -/
theorem ReadsItems.actions {verb : Text} {s s' : NewState} {items : List (List Text)}
    (h : ReadsItems verb s items s') :
    s'.o.actions = s.o.actions ++ (options items.flatten).filterMap option_action ∧
      ∀ option ∈ options items.flatten, Understood option := by
  induction h with
  | nil => exact ⟨(List.append_nil _).symm, fun _ hmem => absurd hmem List.not_mem_nil⟩
  | cons hitem _ ih =>
    obtain ⟨found, hfound⟩ := hitem.actions
    obtain ⟨hactions, hunderstood⟩ := ih
    rw [List.flatten_cons, hfound.split, List.filterMap_append, ← List.append_assoc,
      ← hfound.actions]
    refine ⟨hactions, ?_⟩
    intro option hmem
    exact (List.mem_append.mp hmem).elim (hfound.understood option) (hunderstood option)

theorem mode_kind_is_mode {value : Text} {kind : ActionKind} (h : mode_kind value = .ok kind) :
    kind.is_mode = true := by
  unfold mode_kind at h
  split at h
  · cases h
    rfl
  split at h
  · cases h
    rfl
  split at h
  · cases h
    rfl
  split at h
  · cases h
    rfl
  · cases h

/-- The mode holds nothing but its kind, until the end. -/
def PlainMode (s : NewState) : Prop := ∃ kind : ActionKind, kind.is_mode = true ∧
  s.mode = { kind := kind }

theorem ReadsItem.plain_mode {verb : Text} {s s' : NewState} {item : List Text}
    (h : ReadsItem verb s item s') (hs : PlainMode s) : PlainMode s' := by
  cases h with
  | target _ htarget =>
    rcases new_target_cases htarget with ⟨-, rfl⟩ | ⟨o, ho, rfl⟩
    · exact hs
    · exact hs
  | seconds => exact hs
  | option _ _ hoption =>
    cases hoption with
    | color => exact hs
    | brightness => exact hs
    | mode _ hkind =>
      obtain ⟨_, -, hmode⟩ := hs
      exact ⟨_, mode_kind_is_mode hkind, by rw [hmode]⟩
    | on_ms => exact hs
    | off_ms => exact hs

/-- The mode that becomes the last action. -/
theorem mode_action_valid {kind : ActionKind} {on off : Nat}
    (hperiod : ¬ (on + off > 65535 ∨ on + off = 0)) :
    CliAction.Valid { ({ kind := kind } : CliAction) with on_ms := .ofNat on, off_ms := .ofNat off } :=
  ⟨show COLOR_NONE ≤ COLOR_MAX by decide, fun h => (by cases h), period_fits hperiod⟩

/-- Behind the loop of `led set`, `led on` and `led off`. -/
theorem finish_set_actions {s : NewState} {o : HardwareOptions} (h : finish_set s = .ok o)
    (hs : PlainMode s) : ∃ modes : List CliAction, o.actions = s.o.actions ++ modes ∧
      modes.length ≤ 1 ∧ ∀ m ∈ modes, m.Valid ∧ m.kind.is_mode = true := by
  obtain ⟨kind, hkind, hmode⟩ := hs
  obtain ⟨-, -, ⟨-, rfl⟩ | ⟨-, hperiod, rfl⟩⟩ := finish_set_cases h
  · exact ⟨[], (List.append_nil _).symm, Nat.zero_le _, fun _ h => absurd h List.not_mem_nil⟩
  · refine ⟨_, rfl, Nat.le_refl _, ?_⟩
    intro m hm
    rw [List.mem_singleton.mp hm, hmode]
    exact ⟨mode_action_valid hperiod, hkind⟩

theorem start_plain_mode {o : HardwareOptions} {disk : Bool} {verb : Text}
    {command : HardwareCommand} {mode : Option ActionKind}
    (h : new_command disk verb = .ok (command, mode)) :
    PlainMode { o := o, mode := { kind := mode.getD .on }, mode_seen := mode.isSome } := by
  refine ⟨mode.getD .on, ?_, rfl⟩
  rcases (new_command_ok h).2 with rfl | rfl | rfl <;> rfl

/-- What the options of an accepted `led set`, `led on` or `led off` have to do
    with the arguments behind the verb. -/
structure SetRequest (args : List Text) (o : HardwareOptions) : Prop where
  understood : ∀ option ∈ options args, Understood option
  actions : ∃ modes : List CliAction, o.actions = (options args).filterMap option_action ++ modes ∧
    modes.length ≤ 1 ∧ ∀ m ∈ modes, m.Valid ∧ m.kind.is_mode = true
  some_action : o.actions ≠ []

theorem legacy_command {args : List Text} {o o' : HardwareOptions} (h : compat_parse args o = .ok o') :
    o'.command = o.command := by
  obtain ⟨o₁, hloop, -, hdone⟩ := compat_parse_cases h
  have hsame : o₁.command = o.command := by
    refine compat_loop_invariant (I := fun o' => o'.command = o.command) ?_ hloop rfl
    intro o₂ o₃ arg rest used harg hcommand
    rcases compat_arg_cases harg with htarget | ⟨action, -, rfl⟩
    · exact (target_command htarget).trans hcommand
    · exact hcommand
  rcases hdone with rfl | rfl
  · exact hsame
  · exact hsame

theorem accepted_set {argv : List Text} {o : HardwareOptions} (h : Accepted argv o)
    (hset : o.command = .led_set) :
    ∃ g, global_loop { o := { seconds := 5 } } 0 argv.tail = .ok g ∧ SetRequest (g.args.drop 2) o := by
  cases h with
  | legacy _ _ _ hparse =>
    rw [legacy_command hparse] at hset
    cases hset
  | @subcommand g first verb items command mode s hglobal htargets hactions hargs hcommand hitems
      hfinish =>
    have hplain : PlainMode s :=
      hitems.invariant (fun _ _ _ hitem hs => hitem.plain_mode hs) (start_plain_mode hcommand)
    obtain ⟨hdone, hunderstood⟩ := hitems.actions
    have hstart : g.o.actions ++ (options items.flatten).filterMap option_action =
        (options items.flatten).filterMap option_action := by
      rw [hactions, List.nil_append]
    rcases new_finish_cases hfinish with ⟨-, hfinish⟩ | ⟨hstatus, -, rfl⟩ | ⟨rfl, hother, -⟩
    · obtain ⟨modes, hmodes, hone, hvalid⟩ := finish_set_actions hfinish hplain
      rw [hdone.trans hstart] at hmodes
      refine ⟨g, hglobal, ?_⟩
      rw [hargs]
      exact ⟨hunderstood, ⟨modes, hmodes, hone, hvalid⟩, (finish_set_cases hfinish).2.1⟩
    · rw [hstatus] at hset
      cases hset
    · exact absurd hset hother

theorem SetRequest.valid {args : List Text} {o : HardwareOptions} (h : SetRequest args o) :
    ∀ a ∈ o.actions, a.Valid := by
  obtain ⟨modes, hactions, -, hmodes⟩ := h.actions
  intro a ha
  rw [hactions] at ha
  rcases List.mem_append.mp ha with ha | ha
  · obtain ⟨option, -, hoption⟩ := List.mem_filterMap.mp ha
    exact (option_action_valid hoption).1
  · exact (hmodes a ha).1

theorem status_valid : CliAction.Valid { kind := .status } :=
  ⟨show COLOR_NONE ≤ COLOR_MAX by decide, fun h => (by cases h), show (0 : Nat) ≤ 65535 by decide⟩

theorem legacy_valid {args : List Text} {o o' : HardwareOptions} (h : compat_parse args o = .ok o')
    (ho : o.actions = []) : ∀ a ∈ o'.actions, a.Valid := by
  obtain ⟨o₁, hloop, -, hdone⟩ := compat_parse_cases h
  have hvalid : ∀ a ∈ o₁.actions, a.Valid := by
    refine compat_loop_invariant (I := fun o' => ∀ a ∈ o'.actions, a.Valid) ?_ hloop ?_
    · intro o₂ o₃ arg rest used harg hactions
      rcases compat_arg_cases harg with htarget | ⟨action, haction, rfl⟩
      · rw [target_actions htarget]
        exact hactions
      · intro a ha
        rcases List.mem_append.mp ha with ha | ha
        · exact hactions a ha
        · rw [List.mem_singleton.mp ha]
          exact haction
    · intro a ha
      rw [ho] at ha
      exact absurd ha List.not_mem_nil
  rcases hdone with rfl | rfl
  · exact hvalid
  · intro a ha
    rcases List.mem_append.mp ha with ha | ha
    · exact hvalid a ha
    · rw [List.mem_singleton.mp ha]
      exact status_valid

theorem accepted_valid {argv : List Text} {o : HardwareOptions} (h : Accepted argv o)
    (hcommand : o.command = .led_set ∨ o.command = .led_compat) : ∀ a ∈ o.actions, a.Valid := by
  rcases hcommand with hset | hcompat
  · obtain ⟨_, -, hrequest⟩ := accepted_set h hset
    exact hrequest.valid
  · cases h with
    | legacy _ _ hactions hparse => exact legacy_valid hparse hactions
    | subcommand _ _ _ _ hnew hitems hfinish =>
      -- no subcommand is the legacy grammar
      have hkept := hitems.command
      have hother := (new_command_ok hnew).1
      rcases new_finish_cases hfinish with ⟨hset, hfinish⟩ | ⟨hstatus, -, rfl⟩ | ⟨rfl, -⟩
      · rcases finish_set_cases hfinish with ⟨-, -, ⟨-, rfl⟩ | ⟨-, -, rfl⟩⟩
        · rw [hset] at hcompat
          cases hcompat
        · rw [show HardwareOptions.command _ = _ from hset] at hcompat
          cases hcompat
      · rw [show HardwareOptions.command _ = _ from hstatus] at hcompat
        cases hcompat
      · exact absurd (hkept.symm.trans hcompat) hother

/-! ## The last of several -/

/-- Two patches set the same colour. -/
structure SameColor (patch patch' : Patch) : Prop where
  has_rgb : patch.has PATCH_RGB = patch'.has PATCH_RGB
  has_color : patch.has PATCH_COLOR = patch'.has PATCH_COLOR
  rgb : patch'.has PATCH_RGB = true → patch.value.red = patch'.value.red ∧
    patch.value.green = patch'.value.green ∧ patch.value.blue = patch'.value.blue
  color : patch'.has PATCH_COLOR = true → patch.value.color = patch'.value.color

/-- Two patches set the same brightness. -/
structure SameBrightness (patch patch' : Patch) : Prop where
  has_brightness : patch.has PATCH_BRIGHTNESS = patch'.has PATCH_BRIGHTNESS
  brightness : patch'.has PATCH_BRIGHTNESS = true →
    patch.value.brightness = patch'.value.brightness

/-- The patch of the last action of a kind. -/
def last_patch (kind : ActionKind) (actions : List CliAction) (led : Target) : Patch :=
  match (actions.filter fun a => a.kind = kind).getLast? with
  | none => { fields := 0, value := {} }
  | some a => patch_for_action a led

section last

variable {patch next : Patch} {actions : List CliAction} {led : Target}

/-- The patch of a colour sets one of its two forms. -/
theorem color_patch_has {a : CliAction} (h : a.kind = .color) :
    (patch_for_action a led).has PATCH_RGB = !(patch_for_action a led).has PATCH_COLOR := by
  unfold patch_for_action
  rw [h]
  simp only
  split
  · rw [not_has (by decide), has_self (by decide)]
    rfl
  · rw [has_self (by decide), not_has (by decide)]
    rfl

theorem other_patch_has {a : CliAction} (h : a.kind ≠ .color) :
    (patch_for_action a led).has PATCH_RGB = false ∧
      (patch_for_action a led).has PATCH_COLOR = false := by
  unfold patch_for_action
  cases hkind : a.kind with
  | color => exact absurd hkind h
  | _ => exact ⟨not_has (by decide), not_has (by decide)⟩

theorem setting_has_mode {a : CliAction} (h : a.kind.is_setting = true) :
    (patch_for_action a led).has PATCH_MODE = false := by
  unfold patch_for_action
  cases hkind : a.kind with
  | color =>
    simp only
    split
    · exact not_has (by decide)
    · exact not_has (by decide)
  | brightness => exact not_has (by decide)
  | _ =>
    rw [hkind] at h
    cases h

theorem brightness_patch_has (a : CliAction) (led : Target) :
    (patch_for_action a led).has PATCH_BRIGHTNESS = decide (a.kind = .brightness) := by
  unfold patch_for_action
  cases hkind : a.kind with
  | brightness => exact has_self (by decide)
  | color =>
    simp only
    split
    · exact not_has (by decide)
    · exact not_has (by decide)
  | _ => exact not_has (by decide)

/-- A new colour takes the place of the old one... -/
theorem merge_new_color (h : next.has PATCH_RGB = !next.has PATCH_COLOR) :
    SameColor (merge patch next) next where
  has_rgb := by
    rw [merge_has_rgb, h]
    cases next.has PATCH_COLOR <;> simp
  has_color := by
    rw [merge_has_color, h]
    cases next.has PATCH_COLOR <;> simp
  rgb := by
    intro hset
    simp only [merge, hset, if_true]
    exact ⟨trivial, trivial, trivial⟩
  color := by
    intro hset
    simp only [merge, hset, if_true]

/-- ... which stays if there is none. -/
theorem merge_old_color (hrgb : next.has PATCH_RGB = false) (hcolor : next.has PATCH_COLOR = false) :
    SameColor (merge patch next) patch where
  has_rgb := by rw [merge_has_rgb, hrgb, hcolor]; simp
  has_color := by rw [merge_has_color, hrgb, hcolor]; simp
  rgb := by
    intro _
    simp only [merge, hrgb, Bool.false_eq_true, if_false]
    exact ⟨trivial, trivial, trivial⟩
  color := by
    intro _
    simp only [merge, hcolor, Bool.false_eq_true, if_false]

theorem SameColor.trans {patch patch' patch'' : Patch} (h : SameColor patch patch')
    (h' : SameColor patch' patch'') : SameColor patch patch'' where
  has_rgb := h.has_rgb.trans h'.has_rgb
  has_color := h.has_color.trans h'.has_color
  rgb := by
    intro hset
    obtain ⟨hred, hgreen, hblue⟩ := h.rgb (h'.has_rgb.trans hset)
    obtain ⟨hred', hgreen', hblue'⟩ := h'.rgb hset
    exact ⟨hred.trans hred', hgreen.trans hgreen', hblue.trans hblue'⟩
  color := fun hset => (h.color (h'.has_color.trans hset)).trans (h'.color hset)

theorem merged_patch_append (actions : List CliAction) (a : CliAction) (led : Target) :
    merged_patch (actions ++ [a]) led = merge (merged_patch actions led) (patch_for_action a led) :=
  List.foldl_append

theorem last_patch_same {kind : ActionKind} {a : CliAction} (h : a.kind = kind) :
    last_patch kind (actions ++ [a]) led = patch_for_action a led := by
  unfold last_patch
  rw [List.filter_append, List.filter_cons_of_pos (by simpa using h), List.filter_nil,
    List.getLast?_concat]

theorem last_patch_other {kind : ActionKind} {a : CliAction} (h : a.kind ≠ kind) :
    last_patch kind (actions ++ [a]) led = last_patch kind actions led := by
  unfold last_patch
  rw [List.filter_append, List.filter_cons_of_neg (by simpa using h), List.filter_nil,
    List.append_nil]

/-- Of several colours the last one decides. -/
theorem merged_color (actions : List CliAction) (led : Target) :
    SameColor (merged_patch actions led) (last_patch .color actions led) := by
  induction actions using List.reverseRecOn with
  | nil => exact ⟨rfl, rfl, fun _ => ⟨rfl, rfl, rfl⟩, fun _ => rfl⟩
  | append_singleton actions a ih =>
    rw [merged_patch_append]
    by_cases hcolor : a.kind = .color
    · rw [last_patch_same hcolor]
      exact merge_new_color (color_patch_has hcolor)
    · obtain ⟨hrgb, hpalette⟩ := @other_patch_has led a hcolor
      rw [last_patch_other hcolor]
      exact (merge_old_color hrgb hpalette).trans ih

/-- Of several brightnesses the last one decides. -/
theorem merged_brightness (actions : List CliAction) (led : Target) :
    SameBrightness (merged_patch actions led) (last_patch .brightness actions led) := by
  induction actions using List.reverseRecOn with
  | nil => exact ⟨rfl, fun _ => rfl⟩
  | append_singleton actions a ih =>
    have hhas := brightness_patch_has a led
    rw [merged_patch_append]
    by_cases hbrightness : a.kind = .brightness
    · rw [last_patch_same hbrightness]
      simp only [hbrightness, decide_true] at hhas
      refine ⟨by rw [merge_has_brightness, hhas, Bool.or_true], ?_⟩
      intro _
      simp only [merge, hhas, if_true]
    · rw [last_patch_other hbrightness]
      simp only [hbrightness, decide_false] at hhas
      refine ⟨by rw [merge_has_brightness, hhas, Bool.or_false]; exact ih.has_brightness, ?_⟩
      intro hset
      simp only [merge, hhas, Bool.false_eq_true, if_false]
      exact ih.brightness hset

/-- Actions of an accepted `led set`: at most one of them has a mode. -/
theorem merged_settings (hled : led.max_brightness ≤ 255)
    (hactions : ∀ a ∈ actions, a.Valid ∧ a.kind.is_setting = true) :
    Mergeable (merged_patch actions led) ∧ (merged_patch actions led).has PATCH_MODE = false ∧
      (actions ≠ [] → KnownPatch (merged_patch actions led)) := by
  induction actions using List.reverseRecOn with
  | nil => exact ⟨.inl rfl, has_zero _ _, fun h => absurd rfl h⟩
  | append_singleton actions a ih =>
    obtain ⟨hmergeable, hmode, -⟩ := ih fun a' ha' => hactions a' (List.mem_append_left _ ha')
    obtain ⟨hvalid, hsetting⟩ := hactions a (List.mem_append_right _ List.mem_cons_self)
    have hkind : a.kind ≠ .status := by
      intro hstatus
      rw [hstatus] at hsetting
      cases hsetting
    have hno_mode : (patch_for_action a led).has PATCH_MODE = false := setting_has_mode hsetting
    have hknown := merge_known hmergeable (patch_for_action_known hvalid hled hkind)
      (fun hset => by rw [hno_mode] at hset; cases hset)
    rw [merged_patch_append]
    exact ⟨.inr hknown, by rw [merge_has_mode, hmode, hno_mode]; rfl, fun _ => hknown⟩

/-- The mode behind the settings does not count. -/
theorem last_patch_modes {kind : ActionKind} (hkind : kind.is_mode = false) {modes : List CliAction}
    (hmodes : ∀ m ∈ modes, m.kind.is_mode = true) :
    last_patch kind (actions ++ modes) led = last_patch kind actions led := by
  have hnone : modes.filter (fun a => a.kind = kind) = [] := by
    rw [List.filter_eq_nil_iff]
    intro m hm
    have hmode := hmodes m hm
    intro hsame
    rw [of_decide_eq_true hsame, hkind] at hmode
    cases hmode
  unfold last_patch
  rw [List.filter_append, hnone, List.append_nil]

/-- The last option of a name makes the last action of its kind. -/
theorem last_option {name : Text} {kind : ActionKind} {found : List (Text × Text)}
    (hown : ∀ option ∈ found, option.1 = name → ∃ a, option_action option = some a ∧ a.kind = kind)
    (hother : ∀ option a, option.1 ≠ name → option_action option = some a → a.kind ≠ kind) :
    match (found.filter fun option => option.1 = name).getLast? with
    | none => last_patch kind (found.filterMap option_action) led = { fields := 0, value := {} }
    | some option => ∃ a, option_action option = some a ∧
        last_patch kind (found.filterMap option_action) led = patch_for_action a led := by
  induction found using List.reverseRecOn with
  | nil => rfl
  | append_singleton found option ih =>
    rw [List.filter_append, List.filterMap_append]
    by_cases hname : option.1 = name
    · obtain ⟨a, haction, hkind⟩ := hown option (List.mem_append_right _ List.mem_cons_self) hname
      rw [List.filter_cons_of_pos (by simpa using hname), List.filter_nil, List.getLast?_concat]
      refine ⟨a, haction, ?_⟩
      rw [List.filterMap_cons, haction]
      exact last_patch_same hkind
    · rw [List.filter_cons_of_neg (by simpa using hname), List.filter_nil, List.append_nil]
      have hbefore := ih fun option' hmem => hown option' (List.mem_append_left _ hmem)
      cases haction : option_action option with
      | none =>
        rw [List.filterMap_cons, haction, List.filterMap_nil, List.append_nil]
        exact hbefore
      | some a =>
        rw [List.filterMap_cons, haction, List.filterMap_nil,
          last_patch_other (hother option a hname haction)]
        exact hbefore

end last

theorem understood_color {option : Text × Text} (h : Understood option)
    (hname : option.1 = "--color") :
    ∃ a, color option.2 {} = some a ∧ option_action option = some { a with kind := .color } := by
  obtain ⟨name, value⟩ := option
  obtain rfl : name = "--color".toList := hname
  obtain ⟨a, ha⟩ := Option.isSome_iff_exists.mp (h.1 rfl)
  exact ⟨a, ha, option_action_color ha⟩

/-- The action of `--brightness`. -/
def brightness_action (value : Text) (level : UInt8) : CliAction :=
  { kind := .brightness, brightness := level, brightness_percent := value.getLast? = some '%' }

theorem understood_brightness {option : Text × Text} (h : Understood option)
    (hname : option.1 = "--brightness") :
    ∃ level, brightness option.2 = some level ∧
      option_action option = some (brightness_action option.2 level) := by
  obtain ⟨name, value⟩ := option
  obtain rfl : name = "--brightness".toList := hname
  obtain ⟨level, hlevel⟩ := Option.isSome_iff_exists.mp (h.2 rfl)
  exact ⟨level, hlevel, option_action_brightness hlevel⟩

theorem option_kind {option : Text × Text} {a : CliAction} (h : option_action option = some a) :
    (option.1 = "--color" ∧ a.kind = .color) ∨ (option.1 = "--brightness" ∧ a.kind = .brightness) := by
  obtain ⟨name, value⟩ := option
  rw [option_action] at h
  split at h
  · rename_i hname
    obtain ⟨a₁, -, rfl⟩ := Option.map_eq_some_iff.mp h
    exact .inl ⟨hname, rfl⟩
  split at h
  · rename_i hname
    obtain ⟨level, -, rfl⟩ := Option.map_eq_some_iff.mp h
    exact .inr ⟨hname, rfl⟩
  · cases h

/-! ## Requests -/

/-- What a patch is that the generic check lets through. -/
structure WellFormed (patch : Patch) : Prop where
  checked : validate_patch patch = .ok ()
  one_color : ¬ (patch.has PATCH_RGB = true ∧ patch.has PATCH_COLOR = true)
  timed_iff : patch.has PATCH_TIMING = true ↔ patch.has PATCH_MODE = true ∧
    (patch.value.mode = MODE_BLINK ∨ patch.value.mode = MODE_BREATH)
  cycle : patch.has PATCH_TIMING = true →
    patch.value.on_ms.toNat + patch.value.off_ms.toNat ≤ 65535

theorem WellFormed.of_known {patch : Patch} (h : KnownPatch patch) : WellFormed patch where
  checked := (validate_patch_ok_iff patch).mpr h
  one_color := fun hboth => (h.color hboth.2).2 hboth.1
  timed_iff := ⟨h.timing, fun heffect => h.timed heffect.1 heffect.2⟩
  cycle := h.cycle

/-- The last `--color` and the last `--brightness` among the arguments decide
    what a patch sets. -/
structure LastDecides (args : List Text) (led : Target) (patch : Patch) : Prop where
  color : ∀ value, last_value "--color" args = some value →
    ∃ a, color value {} = some a ∧ SameColor patch (patch_for_action { a with kind := .color } led)
  no_color : last_value "--color" args = none →
    patch.has PATCH_RGB = false ∧ patch.has PATCH_COLOR = false
  brightness : ∀ value, last_value "--brightness" args = some value →
    ∃ level, brightness value = some level ∧
      SameBrightness patch (patch_for_action (brightness_action value level) led)
  no_brightness : last_value "--brightness" args = none → patch.has PATCH_BRIGHTNESS = false

/-- The option behind a last value. -/
theorem last_value_some {name value : Text} {args : List Text} (h : last_value name args = some value) :
    ∃ option, ((options args).filter fun option => option.1 = name).getLast? = some option ∧
      option.2 = value ∧ option ∈ options args ∧ option.1 = name := by
  obtain ⟨option, hlast, hvalue⟩ := Option.map_eq_some_iff.mp h
  obtain ⟨hmem, hname⟩ := List.mem_filter.mp (List.mem_of_getLast? hlast)
  exact ⟨option, hlast, hvalue, hmem, of_decide_eq_true hname⟩

section request

variable {args : List Text} {o : HardwareOptions} (h : SetRequest args o) (led : Target)
include h

theorem SetRequest.last_color :
    match ((options args).filter fun option => option.1 = "--color".toList).getLast? with
    | none => last_patch .color o.actions led = { fields := 0, value := {} }
    | some option => ∃ a, option_action option = some a ∧
        last_patch .color o.actions led = patch_for_action a led := by
  obtain ⟨modes, hactions, -, hmodes⟩ := h.actions
  rw [hactions, last_patch_modes rfl fun m hm => (hmodes m hm).2]
  apply last_option
  · intro option hmem hname
    obtain ⟨a, -, haction⟩ := understood_color (h.understood option hmem) hname
    exact ⟨_, haction, rfl⟩
  · intro option a hname haction hkind
    rcases option_kind haction with ⟨hcolor, -⟩ | ⟨-, hbrightness⟩
    · exact hname hcolor
    · rw [hkind] at hbrightness
      cases hbrightness

theorem SetRequest.last_brightness :
    match ((options args).filter fun option => option.1 = "--brightness".toList).getLast? with
    | none => last_patch .brightness o.actions led = { fields := 0, value := {} }
    | some option => ∃ a, option_action option = some a ∧
        last_patch .brightness o.actions led = patch_for_action a led := by
  obtain ⟨modes, hactions, -, hmodes⟩ := h.actions
  rw [hactions, last_patch_modes rfl fun m hm => (hmodes m hm).2]
  apply last_option
  · intro option hmem hname
    obtain ⟨level, -, haction⟩ := understood_brightness (h.understood option hmem) hname
    exact ⟨_, haction, rfl⟩
  · intro option a hname haction hkind
    rcases option_kind haction with ⟨-, hcolor⟩ | ⟨hbrightness, -⟩
    · rw [hkind] at hcolor
      cases hcolor
    · exact hname hbrightness

theorem SetRequest.last_decides : LastDecides args led (merged_patch o.actions led) := by
  have hmerged_color := merged_color o.actions led
  have hmerged_brightness := merged_brightness o.actions led
  have hcolor := h.last_color led
  have hbrightness := h.last_brightness led
  constructor
  · intro value hvalue
    obtain ⟨option, hlast, rfl, hmem, hname⟩ := last_value_some hvalue
    obtain ⟨a, ha, haction⟩ := understood_color (h.understood option hmem) hname
    rw [hlast] at hcolor
    obtain ⟨a', haction', hpatch⟩ := hcolor
    rw [haction] at haction'
    rw [hpatch, ← Option.some.inj haction'] at hmerged_color
    exact ⟨a, ha, hmerged_color⟩
  · intro hnone
    rw [Option.map_eq_none_iff.mp hnone] at hcolor
    rw [hcolor] at hmerged_color
    exact ⟨hmerged_color.has_rgb.trans (has_zero _ _), hmerged_color.has_color.trans (has_zero _ _)⟩
  · intro value hvalue
    obtain ⟨option, hlast, rfl, hmem, hname⟩ := last_value_some hvalue
    obtain ⟨level, hlevel, haction⟩ := understood_brightness (h.understood option hmem) hname
    rw [hlast] at hbrightness
    obtain ⟨a', haction', hpatch⟩ := hbrightness
    rw [haction] at haction'
    rw [hpatch, ← Option.some.inj haction'] at hmerged_brightness
    exact ⟨level, hlevel, hmerged_brightness⟩
  · intro hnone
    rw [Option.map_eq_none_iff.mp hnone] at hbrightness
    rw [hbrightness] at hmerged_brightness
    exact hmerged_brightness.has_brightness.trans (has_zero _ _)

theorem SetRequest.merged_known (hled : led.max_brightness ≤ 255) :
    KnownPatch (merged_patch o.actions led) := by
  obtain ⟨modes, hactions, hone, hmodes⟩ := h.actions
  have hsettings : ∀ a ∈ (options args).filterMap option_action, a.Valid ∧ a.kind.is_setting = true := by
    intro a ha
    obtain ⟨option, -, hoption⟩ := List.mem_filterMap.mp ha
    exact option_action_valid hoption
  obtain ⟨hmergeable, hno_mode, hknown⟩ := merged_settings hled hsettings
  have hsome := h.some_action
  rw [hactions] at hsome ⊢
  match modes, hone, hmodes with
  | [], _, _ =>
    rw [List.append_nil] at hsome ⊢
    exact hknown hsome
  | [m], _, hmodes =>
    obtain ⟨hvalid, hmode⟩ := hmodes m List.mem_cons_self
    have hkind : m.kind ≠ .status := by
      intro hstatus
      rw [hstatus] at hmode
      cases hmode
    rw [merged_patch_append]
    exact merge_known hmergeable (patch_for_action_known hvalid hled hkind) fun _ => hno_mode

end request

/-- The patch of an effect has times, and no other patch has. -/
theorem timing_iff_effect (action : CliAction) (led : Target) :
    (patch_for_action action led).has PATCH_TIMING = true ↔
      action.kind = .blink ∨ action.kind = .breath := by
  unfold patch_for_action
  cases action.kind with
  | color =>
    simp only
    split
    · rw [not_has (by decide)]
      simp
    · rw [not_has (by decide)]
      simp
  | blink => exact ⟨fun _ => .inl rfl, fun _ => effect_has_timing _⟩
  | breath => exact ⟨fun _ => .inr rfl, fun _ => effect_has_timing _⟩
  | _ =>
    rw [not_has (by decide)]
    simp

/-- Whatever `led set`, `led on`, `led off` or the legacy command accept, the
    patches they make of it are well formed for every LED, and so is the one
    that `led set` merges. -/
theorem parsed_patches_well_formed {argv : List Text} {compatibility : Bool} {o : HardwareOptions}
    (hparse : hardware_parse argv compatibility = .ok o)
    (hcommand : o.command = .led_set ∨ o.command = .led_compat)
    {led : Target} (hled : led.max_brightness ≤ 255) :
    (∀ action ∈ o.actions, action.kind ≠ .status →
      WellFormed (patch_for_action action led) ∧
        ((patch_for_action action led).has PATCH_TIMING = true ↔
          action.kind = .blink ∨ action.kind = .breath) ∧
        (action.kind = .brightness → action.brightness_percent = true →
          (patch_for_action action led).value.brightness ≤ led.max_brightness)) ∧
    (o.command = .led_set → WellFormed (merged_patch o.actions led) ∧
      ∃ g, global_loop { o := { seconds := 5 } } 0 argv.tail = .ok g ∧
        LastDecides (g.args.drop 2) led (merged_patch o.actions led)) := by
  have hled_command : o.command.is_led = true := by
    rcases hcommand with h | h
    · rw [h]
      rfl
    · rw [h]
      rfl
  have haccepted := hardware_parse_cases hparse hled_command
  constructor
  · intro action haction hkind
    have hvalid := accepted_valid haccepted hcommand action haction
    exact ⟨.of_known (patch_for_action_known hvalid hled hkind), timing_iff_effect action led,
      fun hbrightness => (brightness_fits hvalid hled hbrightness).2⟩
  · intro hset
    obtain ⟨g, hglobal, hrequest⟩ := accepted_set haccepted hset
    exact ⟨.of_known (hrequest.merged_known led hled), g, hglobal, hrequest.last_decides led⟩

def set_twice : List Text :=
  ["ugreenctl", "led", "set", "power", "--color", "red", "--brightness", "50%", "--apply",
    "--color", "#00ff00", "--mode", "blink"]

theorem parsed_patches_well_formed_set_twice :
    ∃ o, hardware_parse set_twice false = .ok o ∧ o.command = .led_set ∧ o.actions.length = 4 ∧
      validate_patch (merged_patch o.actions (rgb_led "power" 0)) = .ok () := by
  have hparse : hardware_parse set_twice false = .ok _ := rfl
  refine ⟨_, hparse, rfl, rfl, ?_⟩
  have hled : (rgb_led "power" 0).max_brightness ≤ 255 := by decide
  exact ((parsed_patches_well_formed hparse (.inl rfl) hled).2 rfl).1.checked

end UgreenNas.Core
