import UgreenNas.Effect.Exec
import UgreenNas.Led.Sysfs.Transport

/-! # A driver that stores what is written

    The sysfs transport against a driver whose attributes hold the text that
    was written last.  A brightness from 2 on is also the one configured; 0
    and 1 only switch.  What an LED is then read as depends on the files of
    its own directory.
-/

namespace UgreenNas.Led.Sysfs

open DiskMap Effect Effect.Proc

/-! ## The driver -/

/-- The links and attributes of the sysfs at `root`. -/
structure Machine (root : Text) where
  links : Text → Except Errno Text
  files : Text → Text → Except Errno Text
  /-- The attributes of a class device have paths that fit. -/
  fits : ∀ name directory, '/' ∉ name → links (root ++ "/class/leds/".toList ++ name) = .ok directory →
    directory.length + 15 < PATH_MAX
  /-- Class devices have directories of their own. -/
  distinct : ∀ name name' directory, '/' ∉ name → '/' ∉ name' →
    links (root ++ "/class/leds/".toList ++ name) = .ok directory →
    links (root ++ "/class/leds/".toList ++ name') = .ok directory → name = name'

/-- An attribute holds what was written. -/
def put (files : Text → Except Errno Text) (name text : Text) : Text → Except Errno Text :=
  Function.update files name (.ok text)

/-- A brightness that is more than off and on. -/
def configures (name text : Text) : Bool :=
  name = ("brightness" : Text) && (parse_number text).any (2 ≤ ·)

/-- The attributes of a directory after a write. -/
def store_files (files : Text → Except Errno Text) (name text : Text) :
    Text → Except Errno Text :=
  if configures name text then put (put files name text) "rbrightness" text else put files name text

def Machine.store {root : Text} (m : Machine root) (directory name text : Text) : Machine root :=
  { m with files := Function.update m.files directory (store_files (m.files directory) name text) }

/-- The driver, to which every access is allowed. -/
def stored {root : Text} : Prog.Handler sysfs_io (Machine root) := fun m o =>
  match o with
  | .authorize => (.ok (), m)
  | .realpath path => (m.links path, m)
  | .read_file directory name count => ((m.files directory name).map fun text => text.take count, m)
  | .write_file directory name text => (.ok text.length, m.store directory name text)
  | .nanosleep => ((), m)

/-! ## Files -/

/-- The text and the number of an attribute. -/
def text_in (files : Text → Except Errno Text) (name : Text) (capacity : Nat) : Except Errno Text :=
  text_of capacity ((files name).map fun text => text.take (capacity - 1))

def number_in (files : Text → Except Errno Text) (name : Text) : Except Errno Nat :=
  number_of ((files name).map fun text => text.take 63)

variable {k : Context} {m : Machine k.root} {c : Directories} {directory name : Text}

theorem does_read_text {capacity : Nat} {text : Text}
    (h : text_in (m.files directory) name capacity = .ok text) :
    Does stored (read_text directory name capacity) c m text c m := by
  refine (does_ask (S := sysfs_io) (.read_file directory name (capacity - 1))).bind ?_
  show Does stored (lift (text_in (m.files directory) name capacity)) c m text c m
  rw [h]
  exact does_lift text

theorem fails_read_text {capacity : Nat} {e : Errno}
    (h : text_in (m.files directory) name capacity = .error e) :
    Fails stored (read_text directory name capacity) c m e c m := by
  refine (does_ask (S := sysfs_io) (.read_file directory name (capacity - 1))).then_fails ?_
  show Fails stored (lift (text_in (m.files directory) name capacity)) c m e c m
  rw [h]
  exact fails_lift e

theorem read_text_does {capacity : Nat} {text : Text} {c' : Directories} {m' : Machine k.root}
    (h : Does stored (read_text directory name capacity) c m text c' m') :
    text_in (m.files directory) name capacity = .ok text ∧ c = c' ∧ m = m' := by
  obtain ⟨r, c₁, m₁, hask, hrest⟩ := h.of_bind
  obtain ⟨rfl, rfl, rfl⟩ := hask.of_ask
  exact hrest.of_lift

theorem does_read_number {n : Nat} (h : number_in (m.files directory) name = .ok n) :
    Does stored (read_number directory name) c m n c m := by
  refine (does_ask (S := sysfs_io) (.read_file directory name 63)).bind ?_
  show Does stored (lift (number_in (m.files directory) name)) c m n c m
  rw [h]
  exact does_lift n

theorem fails_read_number {e : Errno} (h : number_in (m.files directory) name = .error e) :
    Fails stored (read_number directory name) c m e c m := by
  refine (does_ask (S := sysfs_io) (.read_file directory name 63)).then_fails ?_
  show Fails stored (lift (number_in (m.files directory) name)) c m e c m
  rw [h]
  exact fails_lift e

theorem read_number_does {n : Nat} {c' : Directories} {m' : Machine k.root}
    (h : Does stored (read_number directory name) c m n c' m') :
    number_in (m.files directory) name = .ok n ∧ c = c' ∧ m = m' := by
  obtain ⟨r, c₁, m₁, hask, hrest⟩ := h.of_bind
  obtain ⟨rfl, rfl, rfl⟩ := hask.of_ask
  exact hrest.of_lift

/-! ## The binding -/

/-- The module of the driver, or the driver where it is built in, is the
    expected one. -/
def DriverBound (k : Context) (links : Text → Except Errno Text) (directory : Text) : Prop :=
  match links (snprintf PATH_MAX (directory ++ ("/device/driver/module" : Text))) with
  | .ok binding =>
    (snprintf PATH_MAX (k.root ++ ("/module/" : Text))).isPrefixOf binding = true ∧
      module_matches (base_name binding) k.profile.sysfs_driver.toList = true
  | .error e =>
    e = Errno.ENOENT ∧ k.gpio = true ∧ ∃ driver,
      links (snprintf PATH_MAX (directory ++ ("/device/driver" : Text))) = .ok driver ∧
      module_matches (base_name driver) k.profile.sysfs_driver.toList = true

theorem verify_binding_does {target : Target} {c' : Directories} {m' : Machine k.root}
    (h : Does stored (verify_binding k target directory) c m () c' m') :
    DriverBound k m.links directory ∧ c = c' ∧ m = m' := by
  obtain ⟨binding, c₁, m₁, hask, hrest⟩ := h.of_bind
  obtain ⟨hbinding, rfl, rfl⟩ := hask.of_ask
  have hbinding : binding =
      m.links (snprintf PATH_MAX (directory ++ ("/device/driver/module" : Text))) := hbinding
  unfold DriverBound
  rw [← hbinding]
  cases binding with
  | ok binding =>
    obtain ⟨hexpected, hc, hm⟩ := hrest.of_bail
    rw [not_or, not_not, not_not] at hexpected
    exact ⟨hexpected, hc, hm⟩
  | error e =>
    obtain ⟨hbuilt_in, hrest⟩ := Does.of_bail_then hrest
    rw [not_or, not_not, not_not] at hbuilt_in
    obtain ⟨driver, c₂, m₂, hask, hrest⟩ := hrest.of_bind
    obtain ⟨hdriver, rfl, rfl⟩ := hask.of_ask
    have hdriver : driver =
        m.links (snprintf PATH_MAX (directory ++ ("/device/driver" : Text))) := hdriver
    cases driver with
    | ok driver =>
      obtain ⟨hexpected, hc, hm⟩ := hrest.of_bail
      exact ⟨⟨hbuilt_in.1, hbuilt_in.2, driver, hdriver.symm, not_not.mp hexpected⟩, hc, hm⟩
    | error e' => cases hrest

theorem does_verify_binding {target : Target}
    (h : DriverBound k m.links directory) :
    Does stored (verify_binding k target directory) c m () c m := by
  unfold DriverBound at h
  refine (does_ask (S := sysfs_io) (.realpath
    (snprintf PATH_MAX (directory ++ ("/device/driver/module" : Text))))).bind ?_
  show Does stored (match m.links
    (snprintf PATH_MAX (directory ++ ("/device/driver/module" : Text))) with
    | .ok binding => _
    | .error e => _) c m () c m
  cases hbinding : m.links (snprintf PATH_MAX (directory ++ ("/device/driver/module" : Text))) with
  | ok binding =>
    rw [hbinding] at h
    apply does_bail
    rw [not_or, not_not, not_not]
    exact h
  | error e =>
    rw [hbinding] at h
    obtain ⟨he, hgpio, driver, hdriver, hmatches⟩ := h
    apply Does.bail_then
    · rw [not_or, not_not, not_not]
      exact ⟨he, hgpio⟩
    · refine (does_ask (S := sysfs_io) (.realpath
        (snprintf PATH_MAX (directory ++ ("/device/driver" : Text))))).bind ?_
      show Does stored (match m.links
        (snprintf PATH_MAX (directory ++ ("/device/driver" : Text))) with
        | .ok driver => _
        | .error e => _) c m () c m
      rw [hdriver]
      apply does_bail
      rw [not_not]
      exact hmatches

/-- An LED that is bound as `verify_target` wants it, and its directory. -/
structure Bound (k : Context) (target : Target) (m : Machine k.root) (directory : Text) : Prop where
  plain : '/' ∉ target.sysfs_name.toList
  short : (k.root ++ "/class/leds/".toList ++ target.sysfs_name.toList).length < PATH_MAX
  link : m.links (k.root ++ "/class/leds/".toList ++ target.sysfs_name.toList) = .ok directory
  inside : k.root.isPrefixOf directory = true
  device : ("/devices/" : Text).isPrefixOf (directory.drop k.root.length) = true
  driver : DriverBound k m.links directory
  maximum : ∃ n, number_in (m.files directory) "max_brightness" = .ok n ∧
    maximum_matches k target n = true

/-- The directory is that of an earlier look, if there was one. -/
def Fresh (c : Directories) (index : Nat) (directory : Text) : Prop :=
  c index = [] ∨ c index = directory

theorem verify_target_does {index : Nat} {target : Target} {c' : Directories}
    {m' : Machine k.root} (h : Does stored (verify_target k index target) c m () c' m') :
    ∃ directory, Bound k target m directory ∧ Fresh c index directory ∧
      Function.update c index directory = c' ∧ m = m' := by
  obtain ⟨hplain, h⟩ := Does.of_bail_then h
  obtain ⟨hshort, h⟩ := Does.of_bail_then h
  obtain ⟨resolved, c₁, m₁, hask, h⟩ := h.of_bind
  obtain ⟨hresolved, rfl, rfl⟩ := hask.of_ask
  obtain ⟨directory, c₁, m₁, hlift, h⟩ := h.of_bind
  obtain ⟨hdirectory, rfl, rfl⟩ := hlift.of_lift
  have hlink : resolved = .ok directory := by
    cases hok : resolved with
    | ok d =>
      rw [hok] at hdirectory
      cases hdirectory
      rfl
    | error e =>
      rw [hok] at hdirectory
      cases hdirectory
  obtain ⟨htree, h⟩ := Does.of_bail_then h
  rw [not_or, not_not, not_not] at htree
  obtain ⟨known, c₁, m₁, hctx, h⟩ := h.of_bind
  cases hctx
  obtain ⟨hsame, h⟩ := Does.of_bail_then h
  obtain ⟨_, c₁, m₁, hbinding, h⟩ := h.of_bind
  obtain ⟨hdriver, rfl, rfl⟩ := verify_binding_does hbinding
  obtain ⟨maximum, c₁, m₁, hread, h⟩ := h.of_bind
  obtain ⟨hmaximum, rfl, rfl⟩ := read_number_does hread.of_mapError
  obtain ⟨hmatches, h⟩ := Does.of_bail_then h
  cases h
  have hfresh : Fresh c index directory := by
    by_cases hempty : c index = []
    · exact .inl hempty
    · right
      by_contra hother
      exact hsame ⟨hempty, hother⟩
  exact ⟨directory, ⟨hplain, not_le.mp hshort, hresolved.symm.trans hlink, htree.1, htree.2, hdriver,
    maximum, hmaximum, not_not.mp hmatches⟩, hfresh, rfl, rfl⟩

theorem does_verify_target {index : Nat} {target : Target}
    (h : Bound k target m directory) (hfresh : Fresh c index directory) :
    Does stored (verify_target k index target) c m () (Function.update c index directory) m := by
  obtain ⟨n, hmaximum, hmatches⟩ := h.maximum
  refine Does.bail_then h.plain (Does.bail_then (not_le.mpr h.short) ?_)
  refine (does_ask (S := sysfs_io) (.realpath _)).bind ?_
  show Does stored (lift ((m.links _).mapError _) >>= _) c m () _ m
  rw [h.link]
  refine (does_lift directory).bind ?_
  apply Does.bail_then
  · rw [not_or, not_not, not_not]
    exact ⟨h.inside, h.device⟩
  refine does_ctx.bind ?_
  apply Does.bail_then
  · intro hboth
    rcases hfresh with hempty | hknown
    · exact hboth.1 hempty
    · exact hboth.2 hknown
  refine (does_verify_binding h.driver).bind ?_
  refine (Does.mapError (does_read_number hmaximum)).bind ?_
  apply Does.bail_then
  · rw [not_not]
    exact hmatches
  rfl

theorem does_node (index : Nat) : Does stored (node index) c m (c index) c m := rfl

/-! ## Reading -/

/-- The colour that the files of an LED give. -/
def color_in (k : Context) (files : Text → Except Errno Text) : Option UInt32 :=
  let name : Text := if k.gpio then "state".toList else "color".toList
  match text_in files name 128 with
  | .error _ => none
  | .ok color =>
    if k.gpio then gpio_color k.profile.product_name color
    else match named_color color with
      | some color => some color
      | none => match number_in files name with
        | .ok number => if number ≤ 3 then some (UInt32.ofNat number) else none
        | .error _ => none

/-- The durations that the files of an LED give. -/
def timing_in (files : Text → Except Errno Text) : UInt32 × UInt32 × Bool :=
  match number_in files "delay_on" with
  | .error _ => (0, 0, false)
  | .ok on_ms => match number_in files "delay_off" with
    | .error _ => (UInt32.ofNat on_ms, 0, false)
    | .ok off_ms => (UInt32.ofNat on_ms, UInt32.ofNat off_ms, true)

theorem does_read_color :
    Does stored (read_color k directory) c m (color_in k (m.files directory)) c m := by
  unfold read_color color_in
  simp only
  cases hcolor : text_in (m.files directory)
      (if k.gpio = true then "state".toList else "color".toList) 128 with
  | error e => exact (Fails.attempt (fails_read_text hcolor)).bind (does_pure none)
  | ok color =>
    refine (Does.attempt (does_read_text hcolor)).bind ?_
    by_cases hgpio : k.gpio = true
    · simp only [hgpio, if_true]
      exact does_pure _
    · simp only [hgpio, Bool.false_eq_true, if_false] at hcolor ⊢
      cases hnamed : named_color color with
      | some named => exact does_pure _
      | none =>
        cases hnumber : number_in (m.files directory) "color" with
        | error e => exact (Fails.attempt (fails_read_number hnumber)).bind (does_pure none)
        | ok number => exact (Does.attempt (does_read_number hnumber)).bind (does_pure _)

theorem does_read_timing :
    Does stored (read_timing directory) c m (timing_in (m.files directory)) c m := by
  unfold timing_in
  cases hon : number_in (m.files directory) "delay_on" with
  | error e => exact (Fails.attempt (fails_read_number hon)).bind (does_pure _)
  | ok on_ms =>
    refine (Does.attempt (does_read_number hon)).bind ?_
    cases hoff : number_in (m.files directory) "delay_off" with
    | error e => exact (Fails.attempt (fails_read_number hoff)).bind (does_pure _)
    | ok off_ms => exact (Does.attempt (does_read_number hoff)).bind (does_pure _)

/-- The brightness of the class device. -/
def core (target : Target) (number : Nat) : UInt32 :=
  if target.max_brightness = 1 then (if number ≠ 0 then 1 else 0) else UInt32.ofNat number

/-- The brightness that is configured. -/
def Configured (k : Context) (target : Target) (files : Text → Except Errno Text)
    (core_brightness brightness : UInt32) : Prop :=
  if k.n76 ∧ target.max_brightness > 1 then
    ∃ n, number_in files "rbrightness" = .ok n ∧ n ≤ 255 ∧ brightness = UInt32.ofNat n
  else
    brightness = core_brightness

theorem configured_cached {target : Target} {files : Text → Except Errno Text}
    {core_brightness brightness : UInt32} (h : k.n76 ∧ target.max_brightness > 1) :
    Configured k target files core_brightness brightness ↔
      ∃ n, number_in files "rbrightness" = .ok n ∧ n ≤ 255 ∧ brightness = UInt32.ofNat n := by
  unfold Configured
  rw [if_pos h]

theorem configured_core {target : Target} {files : Text → Except Errno Text}
    {core_brightness brightness : UInt32} (h : ¬ (k.n76 ∧ target.max_brightness > 1)) :
    Configured k target files core_brightness brightness ↔ brightness = core_brightness := by
  unfold Configured
  rw [if_neg h]

/-- The files of an LED read as a value. -/
def Seen (k : Context) (target : Target) (files : Text → Except Errno Text) (value : Value) : Prop :=
  ∃ number brightness trigger active, number_in files "brightness" = .ok number ∧
    Configured k target files (core target number) brightness ∧
    text_in files "trigger" 1024 = .ok trigger ∧ active_trigger trigger = some active ∧
    value = value_of (mode_of active (core target number)) brightness (color_in k files)
      (timing_in files)

theorem read_brightness_does {target : Target} {core_brightness brightness : UInt32}
    {c' : Directories} {m' : Machine k.root}
    (h : Does stored (read_brightness k target directory core_brightness) c m brightness c' m') :
    Configured k target (m.files directory) core_brightness brightness ∧ c = c' ∧ m = m' := by
  unfold read_brightness at h
  by_cases hcache : k.n76 ∧ target.max_brightness > 1
  · rw [configured_cached hcache]
    rw [if_pos hcache] at h
    obtain ⟨n, c₁, m₁, hread, h⟩ := h.of_bind
    obtain ⟨hn, rfl, rfl⟩ := read_number_does hread.of_mapError
    obtain ⟨hle, h⟩ := Does.of_bail_then h
    cases h
    exact ⟨⟨n, hn, not_lt.mp hle, rfl⟩, rfl, rfl⟩
  · rw [configured_core hcache]
    rw [if_neg hcache] at h
    cases h
    exact ⟨rfl, rfl, rfl⟩

theorem does_read_brightness {target : Target} {core_brightness brightness : UInt32}
    (h : Configured k target (m.files directory) core_brightness brightness) :
    Does stored (read_brightness k target directory core_brightness) c m brightness c m := by
  unfold read_brightness
  by_cases hcache : k.n76 ∧ target.max_brightness > 1
  · rw [configured_cached hcache] at h
    rw [if_pos hcache]
    obtain ⟨n, hn, hle, rfl⟩ := h
    refine (Does.mapError (does_read_number hn)).bind ?_
    exact Does.bail_then (not_lt.mpr hle) (does_pure _)
  · rw [configured_core hcache] at h
    rw [if_neg hcache, h]
    exact does_pure _

theorem read_target_does {index : Nat} {target : Target} {value : Value}
    {c' : Directories} {m' : Machine k.root}
    (h : Does stored (read_target k index target) c m value c' m') :
    ∃ directory, Bound k target m directory ∧ Fresh c index directory ∧
      Function.update c index directory = c' ∧ m = m' ∧ Seen k target (m.files directory) value := by
  obtain ⟨_, c₁, m₁, hverify, h⟩ := h.of_bind
  obtain ⟨directory, hbound, hfresh, rfl, rfl⟩ := verify_target_does hverify
  obtain ⟨found, c₁, m₁, hnode, h⟩ := h.of_bind
  cases hnode
  rw [Function.update_self] at h
  obtain ⟨number, c₁, m₁, hread, h⟩ := h.of_bind
  obtain ⟨hnumber, rfl, rfl⟩ := read_number_does hread.of_mapError
  obtain ⟨brightness, c₁, m₁, hread, h⟩ := h.of_bind
  obtain ⟨hbrightness, rfl, rfl⟩ := read_brightness_does hread
  obtain ⟨trigger, c₁, m₁, hread, h⟩ := h.of_bind
  obtain ⟨htrigger, rfl, rfl⟩ := read_text_does hread.of_mapError
  cases hactive : active_trigger trigger with
  | none =>
    rw [hactive] at h
    cases h
  | some active =>
    rw [hactive] at h
    obtain ⟨color, c₁, m₁, hread, h⟩ := h.of_bind
    obtain ⟨rfl, rfl, rfl⟩ := does_read_color.unique hread
    obtain ⟨timing, c₁, m₁, hread, h⟩ := h.of_bind
    obtain ⟨rfl, rfl, rfl⟩ := does_read_timing.unique hread
    cases h
    exact ⟨directory, hbound, hfresh, rfl, rfl, number, brightness, trigger, active, hnumber,
      hbrightness, htrigger, hactive, rfl⟩

theorem does_read_target {index : Nat} {target : Target} {value : Value}
    (hbound : Bound k target m directory) (hfresh : Fresh c index directory)
    (h : Seen k target (m.files directory) value) :
    Does stored (read_target k index target) c m value (Function.update c index directory) m := by
  obtain ⟨number, brightness, trigger, active, hnumber, hbrightness, htrigger, hactive, rfl⟩ := h
  refine (does_verify_target hbound hfresh).bind ?_
  refine (does_node index).bind ?_
  rw [Function.update_self]
  refine (Does.mapError (does_read_number hnumber)).bind ?_
  refine (does_read_brightness hbrightness).bind ?_
  refine (Does.mapError (does_read_text htrigger)).bind ?_
  rw [hactive]
  refine does_read_color.bind ?_
  refine does_read_timing.bind ?_
  exact does_pure _

/-! ## Writing -/

/-- A machine that differs in the files of one directory only. -/
structure Only {k : Context} (directory : Text) (m m' : Machine k.root) : Prop where
  links : m'.links = m.links
  files : ∀ other, other ≠ directory → m'.files other = m.files other

theorem Only.refl (directory : Text) (m : Machine k.root) : Only directory m m := ⟨rfl, fun _ _ => rfl⟩

theorem Only.trans {m m' m'' : Machine k.root} (h : Only directory m m') (h' : Only directory m' m'') :
    Only directory m m'' :=
  ⟨h'.links.trans h.links, fun other hne => (h'.files other hne).trans (h.files other hne)⟩

theorem only_store (m : Machine k.root) (directory name text : Text) :
    Only directory m (m.store directory name text) :=
  ⟨rfl, fun _ hne => Function.update_of_ne hne _ _⟩

theorem files_store (m : Machine k.root) (directory name text : Text) :
    (m.store directory name text).files directory = store_files (m.files directory) name text :=
  Function.update_self ..

/-- An attribute that is not written stays as it is. -/
theorem store_files_other {files : Text → Except Errno Text} {name text other : Text}
    (hne : other ≠ name) (hcache : name = ("brightness" : Text) → other ≠ ("rbrightness" : Text)) :
    store_files files name text other = files other := by
  unfold store_files put
  by_cases hconfigures : configures name text = true
  · have hbrightness : name = ("brightness" : Text) := by
      unfold configures at hconfigures
      rw [Bool.and_eq_true, decide_eq_true_eq] at hconfigures
      exact hconfigures.1
    rw [if_pos hconfigures, Function.update_of_ne (hcache hbrightness), Function.update_of_ne hne]
  · rw [if_neg hconfigures, Function.update_of_ne hne]

theorem store_files_same {files : Text → Except Errno Text} {name text : Text}
    (hne : name ≠ ("rbrightness" : Text)) : store_files files name text name = .ok text := by
  unfold store_files put
  split
  · rw [Function.update_of_ne hne, Function.update_self]
  · rw [Function.update_self]

/-- The maximum of a driver is not written. -/
theorem Bound.only {target : Target} {m' : Machine k.root}
    (h : Bound k target m directory) (hlinks : m'.links = m.links)
    (hmaximum : m'.files directory "max_brightness" = m.files directory "max_brightness") :
    Bound k target m' directory where
  plain := h.plain
  short := h.short
  link := by
    rw [hlinks]
    exact h.link
  inside := h.inside
  device := h.device
  driver := by
    rw [hlinks]
    exact h.driver
  maximum := by
    obtain ⟨n, hn, hmatches⟩ := h.maximum
    refine ⟨n, ?_, hmatches⟩
    unfold number_in at hn ⊢
    rw [hmaximum]
    exact hn

/-- What a write of an attribute does, in the directory that is known. -/
theorem does_set_attribute {index : Nat} {target : Target} {text : Text}
    (hbound : Bound k target m directory) (hknown : c index = directory)
    (hlength : name.length ≤ 10) :
    Does stored (set_attribute k index target name text) c m () c (m.store directory name text) := by
  have hsame : Function.update c index directory = c := by
    rw [← hknown]
    exact Function.update_eq_self ..
  have hverify := @does_verify_target k m c directory index target hbound (.inr hknown)
  rw [hsame] at hverify
  have hfits := m.fits _ _ hbound.plain hbound.link
  refine (does_ask (S := sysfs_io) .authorize).bind ?_
  refine (does_lift ()).bind ?_
  refine hverify.bind ?_
  refine (does_node index).bind ?_
  rw [hknown]
  apply Does.bail_then
  · omega
  apply Does.mapError
  refine (does_ask (S := sysfs_io) (.write_file directory name text)).bind ?_
  refine (does_lift text.length).bind ?_
  exact does_bail (not_not.mpr rfl) _

/-! ## Numbers and texts that were written -/

/-- A short text without blanks and NUL is read as it was written. -/
theorem text_of_plain {text : Text} {capacity : Nat} (hplain : ∀ c ∈ text, isspace c = false ∧ c ≠ '\x00')
    (hshort : text.length + 1 < capacity) : text_of capacity (.ok (text.take (capacity - 1))) = .ok text := by
  have htake : text.take (capacity - 1) = text := List.take_of_length_le (by omega)
  have htrim : trim_end text = text := by
    unfold trim_end
    have hkeep : text.reverse.dropWhile isspace = text.reverse := by
      cases hreverse : text.reverse with
      | nil => rfl
      | cons c rest =>
        have hmem : c ∈ text := by
          rw [← List.mem_reverse, hreverse]
          exact List.mem_cons_self
        exact List.dropWhile_cons_of_neg (by rw [(hplain c hmem).1]; decide)
    rw [hkeep, List.reverse_reverse]
  have hstring : c_string text = text :=
    c_string_of_no_nul fun hnul => (hplain _ hnul).2 rfl
  rw [htake]
  unfold text_of
  show (if text.length ≥ capacity - 1 then throw Errno.EOVERFLOW
    else pure (c_string (trim_end text)) : Except Errno Text) = _
  rw [if_neg (by omega), htrim, hstring]
  rfl

theorem decimal_length {n : Nat} (h : n ≤ UINT_MAX) : (decimal n).length ≤ 10 :=
  (Nat.length_toDigits_le_iff (by decide) (by decide)).mpr (lt_of_le_of_lt h (by decide))

/-- A number is read as it was written. -/
theorem number_in_decimal {files : Text → Except Errno Text} {n : Nat} (h : n ≤ UINT_MAX)
    (hfile : files name = .ok (decimal n)) : number_in files name = .ok n := by
  have hlength := decimal_length h
  have htext : text_of 64 (.ok ((decimal n).take 63)) = .ok (decimal n) :=
    text_of_plain (fun c hc => digit_plain (isdigit_decimal c hc)) (by omega)
  unfold number_in
  rw [hfile]
  show number_of (.ok ((decimal n).take 63)) = .ok n
  unfold number_of
  simp only [htext, bind, Except.bind, parse_number_decimal h]
  rfl

theorem text_in_plain {files : Text → Except Errno Text} {text : Text} {capacity : Nat}
    (hplain : ∀ c ∈ text, isspace c = false ∧ c ≠ '\x00') (hshort : text.length + 1 < capacity)
    (hfile : files name = .ok text) : text_in files name capacity = .ok text := by
  unfold text_in
  rw [hfile]
  exact text_of_plain hplain hshort

end UgreenNas.Led.Sysfs
