import UgreenNas.Plugins.Command

/-! # Plugins are given back (`core/loader.c`, `core/main.c`)

    A shared object stays in memory as long as it was opened more often than it
    was closed, and its functions are there only that long.  `dlopen` may give
    one handle several times.
-/

namespace UgreenNas.Plugins

open DiskMap Effect Effect.Proc
open Fan.It8613 (FanStatus)
open Network (WolPolicy)
open SuperIo (StartupPolicy)

/-! ## The linker -/

/-- An object has the fields of the version that it says it has. -/
structure PluginData.Complete (found : PluginData) : Prop where
  v4 : found.abi_version ≥ ABI_V4 → ∃ fields, found.v4 = some fields
  v5 : found.abi_version ≥ ABI_V5 → ∃ fields, found.v5 = some fields

/-- How often an object is open, how many directories are, and whether
    something was used that was not. -/
structure Loaded where
  refs : Handle → Nat
  directories : Nat
  crashed : Bool

/-- An object is used. -/
def Loaded.use (s : Loaded) (handle : Handle) : Loaded :=
  { s with crashed := s.crashed || s.refs handle = 0 }

/-- What becomes of the objects and directories. -/
def linker : Env core_io Loaded := fun s o b s' =>
  match o, b with
  | .opendir _, .ok _ => s' = { s with directories := s.directories + 1 }
  | .opendir _, .error _ => s' = s
  | .closedir, _ =>
    s' = { s with directories := s.directories - 1, crashed := s.crashed || s.directories = 0 }
  | .dlopen _, none => s' = s
  | .dlopen _, some handle =>
    s' = { s with refs := Function.update s.refs handle (s.refs handle + 1) }
  | .dlsym handle _, _ => s' = s.use handle
  | .entrypoint handle _, found => s' = s.use handle ∧ ∀ data, found = some data → data.Complete
  | .dlclose handle, _ =>
    s' = { s.use handle with refs := Function.update s.refs handle (s.refs handle - 1) }
  | .call handle _, _ => s' = s.use handle
  | .dmi, _ => s' = s
  | .thermal, _ => s' = s

/-! ## States -/

variable {s : Loaded} {handle : Handle} {c : Unit} {items : List LoadedPlugin} {item : LoadedPlugin}
  {strerror : Nat → Text}

/-- A state with these plugins on top of what was open. -/
def Loaded.with (s : Loaded) (items : List LoadedPlugin) : Loaded :=
  { s with refs := fun handle => s.refs handle + items.countP fun item => item.handle = handle }

@[simp] theorem with_crashed : (s.with items).crashed = s.crashed := rfl

@[simp] theorem with_directories : (s.with items).directories = s.directories := rfl

theorem with_nil : s.with [] = s := rfl

theorem refs_of_mem (h : item ∈ items) : 0 < (s.with items).refs item.handle := by
  have hpos : 0 < items.countP fun other => other.handle = item.handle :=
    List.countP_pos_iff.mpr ⟨item, h, by simp⟩
  show 0 < s.refs item.handle + _
  omega

theorem use_of_refs (h : 0 < s.refs handle) : s.use handle = s := by
  have hne : ¬ s.refs handle = 0 := by omega
  unfold Loaded.use
  simp [hne]

/-- One more. -/
def Loaded.opened (s : Loaded) (handle : Handle) : Loaded :=
  { s with refs := Function.update s.refs handle (s.refs handle + 1) }

theorem opened_refs : 0 < (s.opened handle).refs handle := by
  show 0 < Function.update s.refs handle (s.refs handle + 1) handle
  rw [Function.update_self]
  omega

theorem opened_close :
    { s.opened handle with
      refs := Function.update (s.opened handle).refs handle ((s.opened handle).refs handle - 1) } = s := by
  obtain ⟨refs, directories, crashed⟩ := s
  simp [Loaded.opened]

theorem opened_with : s.opened item.handle = s.with [item] := by
  have hrefs : (s.opened item.handle).refs = (s.with [item]).refs := by
    funext handle
    show Function.update s.refs item.handle _ handle = s.refs handle + [item].countP _
    rw [List.countP_singleton]
    by_cases h : handle = item.handle
    · rw [h, Function.update_self]
      simp
    · rw [Function.update_of_ne h]
      simp [Ne.symm h]
  unfold Loaded.opened Loaded.with at hrefs ⊢
  dsimp only at hrefs
  rw [hrefs]

theorem with_with {more : List LoadedPlugin} : (s.with items).with more = s.with (items ++ more) := by
  unfold Loaded.with
  simp only [List.countP_append, Nat.add_assoc]

theorem with_close {rest : List LoadedPlugin} :
    { s.with (item :: rest) with
      refs := Function.update (s.with (item :: rest)).refs item.handle
        ((s.with (item :: rest)).refs item.handle - 1) } = s.with rest := by
  have hrefs : ∀ handle, Function.update (s.with (item :: rest)).refs item.handle
      ((s.with (item :: rest)).refs item.handle - 1) handle = (s.with rest).refs handle := by
    intro handle
    by_cases h : handle = item.handle
    · rw [h, Function.update_self]
      simp [Loaded.with]
    · rw [Function.update_of_ne h]
      simp [Loaded.with, Ne.symm h]
  rw [funext hrefs]
  rfl

/-! ## Steps -/

/-- Nothing was used that was not open. -/
abbrev Intact (s : Loaded) : Prop := s.crashed = false

/-- A procedure that ends in the state it has started in. -/
abbrev Restores {α : Type} (m : Core α) (P : Except Stop α → Prop) (s : Loaded) : Prop :=
  wp linker Intact m (fun r _ s' => s' = s ∧ P r) () s

/-- An operation comes first. -/
theorem core_seq {α : Type} {o : CoreOp} {g : o.Ans → Core α}
    {Q : Except Stop α → Unit → Loaded → Prop}
    (h : ∀ b s', linker s o b s' → Intact s' ∧ wp linker Intact (g b) Q () s') :
    wp linker Intact (core o >>= g) Q () s := h

theorem restores_use {α : Type} {o : CoreOp} {g : o.Ans → Core α} {P : Except Stop α → Prop}
    (hs : Intact s) (hrefs : 0 < s.refs handle) (ho : ∀ b s', linker s o b s' → s' = s.use handle)
    (h : ∀ b, linker s o b s → Restores (g b) P s) : Restores (core o >>= g) P s := by
  intro b s' hstep
  have hs' : s' = s := (ho b s' hstep).trans (use_of_refs hrefs)
  subst hs'
  exact ⟨hs, h b hstep⟩

/-- Looking for an entry point leaves the object open. -/
theorem restores_find (hs : Intact s) (hrefs : 0 < s.refs handle) (symbols : List (Text × Nat)) :
    Restores (find_entrypoint handle symbols) (fun r => ∃ version, r = .ok version) s := by
  induction symbols with
  | nil => exact ⟨rfl, none, rfl⟩
  | cons entry rest ih =>
    obtain ⟨symbol, version⟩ := entry
    have hsymbol : ∀ b s', linker s (.dlsym handle symbol) b s' → s' = s.use handle :=
      fun _ _ hstep => hstep
    apply restores_use hs hrefs hsymbol
    intro found _
    cases found with
    | true => exact ⟨rfl, some version, rfl⟩
    | false => exact ih

theorem complete_of_accepted {found : Option PluginData} {version : Nat} {plugin : Plugin}
    (h : accepted found version = some plugin) (hcomplete : ∀ data, found = some data → data.Complete) :
    plugin.Complete := by
  unfold accepted at h
  cases found with
  | none => cases h
  | some data =>
    dsimp only at h
    split at h
    · cases h
    · split at h
      · obtain rfl := Option.some.inj h
        exact hcomplete data rfl
      · cases h

/-- An object that was opened is kept with its plugin, or given back. -/
theorem load_entrypoint_spec (hs : Intact s) (version : Option Nat) :
    wp linker Intact (load_entrypoint handle version) (fun r _ s' => ∃ item, r = .ok item ∧
      s' = s.with item.toList ∧ ∀ found, item = some found → found.plugin.Complete) ()
      (s.opened handle) := by
  have hclose : wp linker Intact (core (.dlclose handle) >>= fun _ => pure none)
      (fun r _ s' => ∃ item : Option LoadedPlugin, r = .ok item ∧
        s' = s.with item.toList ∧ ∀ found, item = some found → found.plugin.Complete) ()
      (s.opened handle) := by
    apply core_seq
    intro b s' hstep
    have hs' : s' = s := by
      rw [show s' = _ from hstep, use_of_refs opened_refs]
      exact opened_close
    subst hs'
    exact ⟨hs, none, rfl, with_nil.symm, fun found h => by cases h⟩
  unfold load_entrypoint
  cases version with
  | none => exact hclose
  | some version =>
    apply core_seq
    intro found s' hstep
    obtain ⟨hs', hcomplete⟩ := hstep
    rw [use_of_refs opened_refs] at hs'
    subst hs'
    refine ⟨hs, ?_⟩
    cases haccepted : accepted found version with
    | none => exact hclose
    | some plugin =>
      refine ⟨some ⟨handle, plugin⟩, rfl, ?_, ?_⟩
      · have hopened := @opened_with s ⟨handle, plugin⟩
        exact hopened
      · intro item hitem
        obtain rfl := Option.some.inj hitem
        exact complete_of_accepted haccepted hcomplete

theorem load_plugin_spec (hs : Intact s) (path : Text) :
    wp linker Intact (load_plugin path) (fun r _ s' => ∃ item, r = .ok item ∧
      s' = s.with item.toList ∧ ∀ found, item = some found → found.plugin.Complete) () s := by
  apply core_seq
  intro handle s' hstep
  cases handle with
  | none =>
    obtain rfl : s' = s := hstep
    exact ⟨hs, none, rfl, with_nil.symm, fun found h => by cases h⟩
  | some handle =>
    obtain rfl : s' = s.opened handle := hstep
    refine ⟨hs, ?_⟩
    apply wp_seq (restores_find (s := s.opened handle) hs opened_refs entrypoints)
    · intro version _ s' h
      obtain ⟨rfl, -⟩ := h
      exact load_entrypoint_spec hs version
    · intro e _ _ h
      obtain ⟨-, version, h⟩ := h
      cases h

theorem plugins_close_spec (hs : Intact s) (items : List LoadedPlugin) :
    wp linker Intact (plugins_close items) (fun r _ s' => r = .ok () ∧ s' = s) () (s.with items) := by
  induction items with
  | nil => exact ⟨rfl, with_nil⟩
  | cons item rest ih =>
    apply core_seq
    intro b s' hstep
    have hs' : s' = s.with rest := by
      rw [show s' = _ from hstep, use_of_refs (refs_of_mem List.mem_cons_self)]
      exact with_close
    subst hs'
    exact ⟨hs, ih⟩

/-- The plugins of a list are open, and have their fields. -/
def AllComplete (items : List LoadedPlugin) : Prop := ∀ item ∈ items, item.plugin.Complete

/-- One more directory is open. -/
def Loaded.listing (s : Loaded) : Loaded := { s with directories := s.directories + 1 }

/-- The loop: the plugins are open behind it, or none is. -/
theorem load_loop_spec (hs : Intact s) (directory : Text) (items : List LoadedPlugin) (entries : List Text)
    (hitems : AllComplete items) :
    wp linker Intact (load_loop directory items entries) (fun r _ s' =>
      (∃ items', r = .ok (.ok items') ∧ s' = s.with items' ∧ AllComplete items') ∨
        (∃ e, r = .ok (.error e) ∧ s' = s)) () (s.listing.with items) := by
  have hclosedir : ∀ {items s'}, linker (s.listing.with items) .closedir () s' → s' = s.with items := by
    intro items s' hstep
    rw [show s' = _ from hstep]
    simp [Loaded.listing, Loaded.with]
  have hgive_up : ∀ items (e : Text), wp linker Intact (do
      core .closedir
      plugins_close items
      pure (.error e : Except Text (List LoadedPlugin)))
      (fun r _ s' => (∃ items', r = .ok (.ok items') ∧ s' = s.with items' ∧ AllComplete items') ∨
        (∃ e, r = .ok (.error e) ∧ s' = s)) () (s.listing.with items) := by
    intro items e
    apply core_seq
    intro b s' hstep
    obtain rfl := hclosedir hstep
    refine ⟨hs, ?_⟩
    apply wp_seq (plugins_close_spec hs items)
    · intro _ _ s' h
      exact .inr ⟨e, rfl, h.2⟩
    · intro e _ _ h
      cases h.1
  induction entries generalizing items with
  | nil =>
    apply core_seq
    intro b s' hstep
    obtain rfl := hclosedir hstep
    exact ⟨hs, .inl ⟨items, rfl, rfl, hitems⟩⟩
  | cons d_name rest ih =>
    unfold load_loop
    by_cases hsuffix : has_shared_object_suffix d_name = true
    · rw [if_pos hsuffix]
      by_cases hmany : items.length = MAX_PLUGINS
      · rw [if_pos hmany]
        exact hgive_up _ _
      rw [if_neg hmany]
      by_cases hlong : (plugin_path directory d_name).length ≥ PATH_MAX
      · rw [if_pos hlong]
        exact hgive_up _ _
      rw [if_neg hlong]
      apply wp_seq (load_plugin_spec (s := s.listing.with items) hs _)
      · intro item _ s' h
        obtain ⟨_, hok, rfl, hcomplete⟩ := h
        obtain rfl := Except.ok.inj hok
        rw [with_with]
        apply ih
        intro found hfound
        rcases List.mem_append.mp hfound with hfound | hfound
        · exact hitems found hfound
        · exact hcomplete found (Option.mem_toList.mp hfound)
      · intro e _ _ h
        obtain ⟨_, h, -⟩ := h
        cases h
    · rw [if_neg hsuffix]
      exact ih items hitems

theorem plugins_open_spec (hs : Intact s) (directory : Text) :
    wp linker Intact (plugins_open strerror directory) (fun r _ s' =>
      (∃ items, r = .ok (.ok items) ∧ s' = s.with items ∧ AllComplete items) ∨
        (∃ e, r = .ok (.error e) ∧ s' = s)) () s := by
  apply core_seq
  intro entries s' hstep
  cases entries with
  | error e =>
    obtain rfl : s' = s := hstep
    exact ⟨hs, .inr ⟨_, rfl, rfl⟩⟩
  | ok entries =>
    obtain rfl : s' = s.listing := hstep
    have hnone : AllComplete [] := fun _ h => absurd h List.not_mem_nil
    refine ⟨hs, ?_⟩
    apply wp_seq (load_loop_spec hs directory [] entries hnone)
    · intro found _ s' h
      rcases h with ⟨items, hok, rfl, hcomplete⟩ | ⟨e, hok, rfl⟩
      · obtain rfl := Except.ok.inj hok
        cases items with
        | nil => exact .inr ⟨_, rfl, rfl⟩
        | cons item rest => exact .inl ⟨item :: rest, rfl, rfl, hcomplete⟩
      · obtain rfl := Except.ok.inj hok
        exact .inr ⟨e, rfl, rfl⟩
    · intro e _ _ h
      rcases h with ⟨_, h, -⟩ | ⟨_, h, -⟩ <;> cases h

/-! ## The commands -/

/-- Whatever is done, it is not a read behind the end of an object. -/
def Sane {α : Type} (r : Except Stop α) : Prop := r ≠ .error .fault

/-- It ends in a value. -/
def Returned {α : Type} (r : Except Stop α) : Prop := ∃ a, r = .ok a

section commands

variable {α β : Type}

theorem restores_failed {line : Text} : Restores (failed line : Core α) Sane s :=
  ⟨rfl, by simp [Sane]⟩

theorem restores_seq {m : Core α} {g : α → Core β} {P : Except Stop α → Prop} {Q : Except Stop β → Prop}
    (hm : Restores m P s) (hok : ∀ a, P (.ok a) → Restores (g a) Q s)
    (herr : ∀ e, P (.error e) → Q (.error e)) : Restores (m >>= g) Q s := by
  apply wp_seq hm
  · intro a _ s' h
    obtain ⟨rfl, hP⟩ := h
    exact hok a hP
  · intro e _ s' h
    exact ⟨h.1, herr e h.2⟩

/-- What ends in a value is gone on with. -/
theorem restores_then {m : Core α} {g : α → Core β} {Q : Except Stop β → Prop}
    (hm : Restores m Returned s) (hg : ∀ a, Restores (g a) Q s) : Restores (m >>= g) Q s := by
  apply restores_seq hm
  · exact fun a _ => hg a
  · intro e h
    obtain ⟨a, h⟩ := h
    cases h

theorem restores_fields {found : Option α} (h : ∃ fields, found = some fields) :
    Restores (fields found) Returned s := by
  obtain ⟨data, rfl⟩ := h
  exact ⟨rfl, data, rfl⟩

theorem restores_call (hs : Intact s) (hrefs : 0 < s.refs handle) (call : PluginCall) :
    Restores (core (.call handle call)) Returned s := by
  intro b s' hstep
  have hs' : s' = s := (show s' = s.use handle from hstep).trans (use_of_refs hrefs)
  subst hs'
  exact ⟨hs, rfl, b, rfl⟩

theorem restores_has_v4 {plugin : Plugin} (hcomplete : plugin.Complete) (function : FieldsV4 → Bool) :
    Restores (has_v4 plugin function) Returned s := by
  unfold has_v4
  by_cases habi : plugin.abi_version ≥ ABI_V4
  · rw [if_pos habi]
    exact restores_then (restores_fields (hcomplete.v4 habi)) fun _ => ⟨rfl, _, rfl⟩
  · rw [if_neg habi]
    exact ⟨rfl, _, rfl⟩

theorem restores_has_v5 {plugin : Plugin} (hcomplete : plugin.Complete) :
    Restores (has_v5 plugin) Returned s := by
  unfold has_v5
  by_cases habi : plugin.abi_version ≥ ABI_V5
  · rw [if_pos habi]
    exact restores_then (restores_fields (hcomplete.v5 habi)) fun _ => ⟨rfl, _, rfl⟩
  · rw [if_neg habi]
    exact ⟨rfl, _, rfl⟩

theorem restores_controller_name {plugin : Plugin} (hcomplete : plugin.Complete) :
    Restores (plugin_controller_name plugin) Returned s := by
  unfold plugin_controller_name
  by_cases habi : plugin.abi_version ≥ ABI_V4
  · rw [if_pos habi]
    apply restores_then (restores_fields (hcomplete.v4 habi))
    intro v4
    split <;> exact ⟨rfl, _, rfl⟩
  · rw [if_neg habi]
    exact ⟨rfl, _, rfl⟩

theorem restores_read_fans (hs : Intact s) (hrefs : 0 < s.refs item.handle)
    (hcomplete : item.plugin.Complete) (force : Bool) :
    Restores (plugin_read_fans item force) Returned s := by
  apply restores_then (restores_has_v4 hcomplete _)
  intro separate
  cases separate with
  | true => exact restores_call hs hrefs _
  | false =>
    by_cases hstatus : item.plugin.read_status = true
    · rw [if_neg (by decide), if_pos hstatus]
      exact restores_then (restores_call hs hrefs _) fun _ => ⟨rfl, _, rfl⟩
    · rw [if_neg (by decide), if_neg hstatus]
      exact ⟨rfl, _, rfl⟩

theorem restores_read_startup (hs : Intact s) (hrefs : 0 < s.refs item.handle)
    (hcomplete : item.plugin.Complete) (force : Bool) :
    Restores (plugin_read_startup_policy item force) Returned s := by
  apply restores_then (restores_has_v4 hcomplete _)
  intro separate
  cases separate with
  | true => exact restores_call hs hrefs _
  | false =>
    by_cases hstatus : item.plugin.read_status = true
    · rw [if_neg (by decide), if_pos hstatus]
      exact restores_then (restores_call hs hrefs _) fun _ => ⟨rfl, _, rfl⟩
    · rw [if_neg (by decide), if_neg hstatus]
      exact ⟨rfl, _, rfl⟩

theorem restores_read_wol (hs : Intact s) (hrefs : 0 < s.refs item.handle)
    (hcomplete : item.plugin.Complete) (force : Bool) :
    Restores (plugin_read_wol_policy item force) Returned s := by
  apply restores_then (restores_has_v5 hcomplete)
  intro there
  cases there with
  | true => exact restores_call hs hrefs _
  | false => exact ⟨rfl, _, rfl⟩

theorem restores_print {action : Text} {r : Except PluginError α} {out : α → List Text} :
    Restores (print_result strerror action r out) Sane s := by
  cases r with
  | ok a => exact ⟨rfl, by simp [Sane]⟩
  | error e => exact restores_failed

theorem restores_require_apply {options : CliOptions} {description : Text} {write : Core Printed}
    (h : Restores write Sane s) : Restores (require_apply options description write) Sane s := by
  unfold require_apply
  by_cases happly : options.apply = true
  · rw [if_pos happly]
    exact h
  · rw [if_neg happly]
    exact ⟨rfl, by simp [Sane]⟩

theorem restores_info (hs : Intact s) (hrefs : 0 < s.refs item.handle)
    (hcomplete : item.plugin.Complete) (force : Bool) : Restores (info strerror item force) Sane s := by
  apply restores_then (restores_controller_name hcomplete)
  intro controller
  apply restores_then (restores_read_fans hs hrefs hcomplete force)
  intro fans
  apply restores_then (restores_read_startup hs hrefs hcomplete force)
  intro startup
  apply restores_then (restores_read_wol hs hrefs hcomplete force)
  intro wol
  split <;> exact ⟨rfl, by simp [Sane]⟩

/-- A command leaves the plugins as they are. -/
theorem restores_run_command (hs : Intact s) (hrefs : 0 < s.refs item.handle)
    (hcomplete : item.plugin.Complete) (options : CliOptions) (command : CliCommand) :
    Restores (run_command strerror item options command) Sane s := by
  cases command with
  | models => exact restores_failed
  | invalid => exact restores_failed
  | led_list => exact restores_failed
  | thermal_status =>
    apply core_seq
    intro r s' hstep
    obtain rfl : s' = s := hstep
    exact ⟨hs, restores_print⟩
  | info => exact restores_info hs hrefs hcomplete _
  | fan_status =>
    exact restores_then (restores_read_fans hs hrefs hcomplete _) fun _ => restores_print
  | startup_get =>
    exact restores_then (restores_read_startup hs hrefs hcomplete _) fun _ => restores_print
  | fan_set fan_id value =>
    show Restores (fan_set strerror item options fan_id value) Sane s
    unfold fan_set
    split
    · exact restores_require_apply (restores_then (restores_call hs hrefs _) fun _ => restores_print)
    · exact restores_failed
  | startup_set value =>
    show Restores (startup_set strerror item options value) Sane s
    unfold startup_set
    split
    · exact restores_failed
    · exact restores_require_apply (restores_then (restores_call hs hrefs _) fun _ => restores_print)

theorem restores_choose_plugin (hs : Intact s) (options : CliOptions) :
    Restores (choose_plugin items options)
      (fun r => (∃ item ∈ items, r = .ok item) ∨ ∃ lines, r = .error (.failed lines)) s := by
  have hfailed : ∀ line, Restores (failed line : Core LoadedPlugin)
      (fun r => (∃ item ∈ items, r = .ok item) ∨ ∃ lines, r = .error (.failed lines)) s :=
    fun line => ⟨rfl, .inr ⟨_, rfl⟩⟩
  have hfound : ∀ {p : LoadedPlugin → Bool} {item}, items.find? p = some item →
      Restores (pure item : Core LoadedPlugin)
        (fun r => (∃ item ∈ items, r = .ok item) ∨ ∃ lines, r = .error (.failed lines)) s :=
    fun h => ⟨rfl, .inl ⟨_, List.mem_of_find?_eq_some h, rfl⟩⟩
  have hdmi : Restores read_dmi_product Returned s := by
    apply core_seq
    intro file s' hstep
    obtain rfl : s' = s := hstep
    exact ⟨hs, rfl, _, rfl⟩
  apply restores_then hdmi
  intro product
  split
  · split
    · exact hfailed _
    · next hfind =>
      split
      · exact hfailed _
      · split
        · exact hfound hfind
        · exact hfailed _
  · split
    · exact hfailed _
    · split
      · next hmatch => exact hfound hmatch
      · exact hfailed _

theorem restores_with_plugins (hs : Intact s) (hcomplete : AllComplete items) (options : CliOptions)
    (command : CliCommand) :
    Restores (with_plugins strerror items options command) Sane (s.with items) := by
  have hplugin : Restores (choose_plugin items options >>= fun item =>
      run_command strerror item options command) Sane (s.with items) := by
    apply restores_seq (restores_choose_plugin (s := s.with items) hs options)
    · intro item h
      rcases h with ⟨item', hmem, hok⟩ | ⟨_, h⟩
      · obtain rfl := Except.ok.inj hok
        exact restores_run_command (s := s.with items) hs (refs_of_mem hmem) (hcomplete _ hmem) options
          command
      · cases h
    · intro e h
      rcases h with ⟨_, -, h⟩ | ⟨lines, h⟩
      · cases h
      · obtain rfl := Except.error.inj h
        simp [Sane]
  cases command with
  | models => exact ⟨rfl, by simp [Sane]⟩
  | thermal_status | info | fan_status | fan_set | startup_get | startup_set | led_list | invalid =>
    exact hplugin

end commands

/-! ## The program -/

/-- Whatever the arguments and the files are and whatever fails: as long as
    every object has the fields of the version that it says it has, no object
    is used that is not open, no field is read that an object does not have,
    and at the end every object and every directory is open as often as at the
    start. -/
theorem plugins_released (refs : Handle → Nat) (directories : Nat) (argv : List Text) :
    wp linker Intact (main strerror argv)
      (fun r _ s => r ≠ .error .fault ∧ s.refs = refs ∧ s.directories = directories) ()
      ⟨refs, directories, false⟩ := by
  have hs : Intact ⟨refs, directories, false⟩ := rfl
  have hdone : ∀ {r : Except Stop Printed} {s : Loaded},
      s = ⟨refs, directories, false⟩ ∧ Sane r → r ≠ .error .fault ∧ s.refs = refs ∧
        s.directories = directories := by
    intro r s h
    obtain ⟨rfl, hsane⟩ := h
    exact ⟨hsane, rfl, rfl⟩
  unfold main
  split
  · exact hdone ⟨rfl, by simp [Sane]⟩
  · exact hdone ⟨rfl, by simp [Sane]⟩
  · exact hdone ⟨rfl, by simp [Sane]⟩
  · exact hdone ⟨rfl, by simp [Sane]⟩
  · next options args _ =>
    apply wp_seq (plugins_open_spec hs options.model_directory)
    · intro found _ s h
      rcases h with ⟨items, hok, rfl, hcomplete⟩ | ⟨e, hok, rfl⟩
      · obtain rfl := Except.ok.inj hok
        apply wp_always (restores_with_plugins hs hcomplete options (cli_command args))
        intro r _ s h
        obtain ⟨rfl, hsane⟩ := h
        apply wp_mono (plugins_close_spec hs items) (fun _ hs => hs)
        intro u _ s h
        obtain ⟨rfl, rfl⟩ := h
        exact hdone ⟨rfl, hsane⟩
      · obtain rfl := Except.ok.inj hok
        exact hdone ⟨rfl, by simp [Sane]⟩
    · intro e _ _ h
      rcases h with ⟨_, h, -⟩ | ⟨_, h, -⟩ <;> cases h

end UgreenNas.Plugins
