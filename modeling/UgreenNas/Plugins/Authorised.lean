import UgreenNas.Effect.Each
import UgreenNas.Effect.Part
import UgreenNas.Plugins.Command

/-! # What a plugin is asked to write (`core/main.c`)

    A plugin is asked to write at most once, with `--apply`, and only the one
    that the machine's own product name belongs to.
-/

namespace UgreenNas.Plugins

open DiskMap Effect Effect.Proc
open Fan.It8613 (FanStatus)
open Network (WolPolicy)
open SuperIo (StartupPolicy)

abbrev CoreLog : Type := List (Event core_io)

def PluginCall.writes : PluginCall → Bool
  | .set_fan_pwm _ _ _ => true
  | .set_startup_policy _ _ => true
  | _ => false

/-- The hardware is written. -/
def CoreOp.writes : CoreOp → Bool
  | .call _ c => c.writes
  | _ => false

variable {strerror : Nat → Text} {argv : List Text} {items : List LoadedPlugin} {item : LoadedPlugin}
  {handle : Handle} {c c' : Unit} {log more : CoreLog}

/-! ## Loading -/

/-- A version is the newest that an object has an entry point for. -/
def Newest (handle : Handle) (symbols : List (Text × Nat)) (version : Nat) (log : CoreLog) : Prop :=
  ∃ newer symbol older, symbols = newer ++ (symbol, version) :: older ∧
    (∀ entry ∈ newer, (⟨.dlsym handle entry.1, false⟩ : Event core_io) ∈ log) ∧
    (⟨.dlsym handle symbol, true⟩ : Event core_io) ∈ log

/-- A plugin is what the newest entry point of an open object has given. -/
structure From (log : CoreLog) (item : LoadedPlugin) : Prop where
  opened : ∃ path, (⟨.dlopen path, some item.handle⟩ : Event core_io) ∈ log
  entry : ∃ version data, (⟨.entrypoint item.handle version, some data⟩ : Event core_io) ∈ log ∧
    accepted (some data) version = some item.plugin ∧ Newest item.handle entrypoints version log

theorem Newest.mono {symbols : List (Text × Nat)} {version : Nat} {log log' : CoreLog}
    (h : Newest handle symbols version log) (hsub : log ⊆ log') :
    Newest handle symbols version log' := by
  obtain ⟨newer, symbol, older, hsymbols, hnewer, hfound⟩ := h
  exact ⟨newer, symbol, older, hsymbols, fun entry hentry => hsub (hnewer entry hentry), hsub hfound⟩

theorem From.mono {log log' : CoreLog} (h : From log item) (hsub : log ⊆ log') : From log' item where
  opened := by
    obtain ⟨path, hpath⟩ := h.opened
    exact ⟨path, hsub hpath⟩
  entry := by
    obtain ⟨version, data, hentry, haccepted, hnewest⟩ := h.entry
    exact ⟨version, data, hsub hentry, haccepted, hnewest.mono hsub⟩

theorem find_entrypoint_logs {symbols : List (Text × Nat)} {r : Except Stop (Option Nat)}
    (h : Logs (find_entrypoint handle symbols) c r c' log) :
    ∃ version, r = .ok version ∧ ∀ v, version = some v → Newest handle symbols v log := by
  induction symbols generalizing log c with
  | nil =>
    obtain ⟨rfl, -, -⟩ := Logs.of_pure (a := none) h
    exact ⟨none, rfl, fun v h => by cases h⟩
  | cons entry rest ih =>
    obtain ⟨symbol, version⟩ := entry
    obtain ⟨found, tail, rfl, htail⟩ := h.of_ask_then
    cases found with
    | true =>
      obtain ⟨rfl, -, rfl⟩ := Logs.of_pure (a := some version) htail
      refine ⟨some version, rfl, ?_⟩
      intro v hv
      obtain rfl := Option.some.inj hv
      exact ⟨[], symbol, rest, rfl, fun _ h => absurd h List.not_mem_nil, List.mem_cons_self⟩
    | false =>
      obtain ⟨version', rfl, hnewest⟩ := ih htail
      refine ⟨version', rfl, ?_⟩
      intro v hv
      obtain ⟨newer, symbol', older, rfl, hnewer, hfound⟩ := hnewest v hv
      refine ⟨(symbol, version) :: newer, symbol', older, rfl, ?_, List.mem_cons_of_mem _ hfound⟩
      intro entry hentry
      rcases List.mem_cons.mp hentry with rfl | hentry
      · exact List.mem_cons_self
      · exact List.mem_cons_of_mem _ (hnewer entry hentry)

theorem load_plugin_logs {path : Text} {found : Option LoadedPlugin}
    (h : Logs (load_plugin path) c (.ok found) c' log) (hfound : found = some item) : From log item := by
  obtain ⟨opened, tail, rfl, htail⟩ := h.of_ask_then
  cases opened with
  | none =>
    obtain ⟨hr, -, -⟩ := Logs.of_pure (a := none) htail
    rw [hfound] at hr
    cases hr
  | some handle =>
    obtain ⟨version, c₁, symbols, last, rfl, hsymbols, hlast⟩ := htail.of_bind_ok
    obtain ⟨version', hok, hnewest⟩ := find_entrypoint_logs hsymbols
    obtain rfl := Except.ok.inj hok
    unfold load_entrypoint at hlast
    cases version with
    | none =>
      obtain ⟨_, nothing, rfl, hnone⟩ := hlast.of_ask_then
      obtain ⟨hr, -, -⟩ := hnone.of_pure
      rw [hfound] at hr
      cases hr
    | some version =>
      obtain ⟨data, nothing, rfl, hdata⟩ := hlast.of_ask_then
      cases haccepted : accepted data version with
      | none =>
        simp only [haccepted] at hdata
        obtain ⟨_, nothing, rfl, hnone⟩ := hdata.of_ask_then
        obtain ⟨hr, -, -⟩ := hnone.of_pure
        rw [hfound] at hr
        cases hr
      | some plugin =>
        simp only [haccepted] at hdata
        obtain ⟨hr, -, rfl⟩ := hdata.of_pure
        rw [hfound] at hr
        obtain rfl := Option.some.inj (Except.ok.inj hr)
        cases data with
        | none => cases haccepted
        | some data =>
          refine ⟨⟨path, List.mem_cons_self⟩, version, data, by simp, haccepted, ?_⟩
          exact (hnewest version rfl).mono (by simp)

/-- Every plugin of the list was loaded. -/
theorem load_loop_logs {directory : Text} {entries : List Text} {found : List LoadedPlugin}
    (h : Logs (load_loop directory items entries) c (.ok (.ok found)) c' log)
    (hitem : item ∈ found) : item ∈ items ∨ From log item := by
  induction entries generalizing items log c with
  | nil =>
    obtain ⟨_, tail, rfl, htail⟩ := h.of_ask_then
    obtain ⟨hr, -, -⟩ := htail.of_pure
    obtain rfl := Except.ok.inj (Except.ok.inj hr)
    exact .inl hitem
  | cons d_name rest ih =>
    have hgave_up : ∀ {e : Text} {log : CoreLog}, ¬ Logs (core .closedir >>= fun _ =>
        plugins_close items >>= fun _ =>
          pure (.error e : Except Text (List LoadedPlugin))) c (.ok (.ok found)) c' log := by
      intro e log h
      obtain ⟨_, tail, rfl, htail⟩ := h.of_ask_then
      obtain ⟨_, c₁, close, nothing, rfl, -, hpure⟩ := htail.of_bind_ok
      obtain ⟨hr, -, -⟩ := hpure.of_pure
      cases hr
    unfold load_loop at h
    by_cases hsuffix : has_shared_object_suffix d_name = true
    · rw [if_pos hsuffix] at h
      by_cases hmany : items.length = MAX_PLUGINS
      · rw [if_pos hmany] at h
        exact absurd h hgave_up
      rw [if_neg hmany] at h
      by_cases hlong : (plugin_path directory d_name).length ≥ PATH_MAX
      · rw [if_pos hlong] at h
        exact absurd h hgave_up
      rw [if_neg hlong] at h
      obtain ⟨one, c₁, load, tail, rfl, hload, htail⟩ := h.of_bind_ok
      rcases ih htail with hmem | hfrom
      · rcases List.mem_append.mp hmem with hmem | hmem
        · exact .inl hmem
        · have hfrom := load_plugin_logs hload (Option.mem_toList.mp hmem)
          exact .inr (hfrom.mono (List.subset_append_left _ _))
      · exact .inr (hfrom.mono (List.subset_append_right _ _))
    · rw [if_neg hsuffix] at h
      exact ih h

theorem plugins_open_logs {directory : Text}
    (h : Logs (plugins_open strerror directory) c (.ok (.ok items)) c' log) :
    ∀ item ∈ items, From log item := by
  intro item hitem
  obtain ⟨entries, tail, rfl, htail⟩ := h.of_ask_then
  cases entries with
  | error e =>
    obtain ⟨hr, -, -⟩ := Logs.of_pure (a := Except.error _) htail
    cases hr
  | ok entries =>
    obtain ⟨found, c₁, loop, nothing, rfl, hloop, hlast⟩ := htail.of_bind_ok
    cases found with
    | error e =>
      obtain ⟨hr, -, -⟩ := Logs.of_pure (a := Except.error _) hlast
      cases hr
    | ok found =>
      cases found with
      | nil =>
        obtain ⟨hr, -, -⟩ := Logs.of_pure (a := Except.error _) hlast
        cases hr
      | cons first rest =>
        obtain ⟨hr, -, rfl⟩ := Logs.of_pure (a := Except.ok (first :: rest)) hlast
        obtain rfl := Except.ok.inj (Except.ok.inj hr)
        rcases load_loop_logs hloop hitem with hmem | hfrom
        · exact absurd hmem List.not_mem_nil
        · rw [List.append_nil]
          exact hfrom.mono (by simp)

/-! ## What is only read -/

/-- Nothing is written. -/
abbrev ReadOnly {α : Type} (m : Core α) : Prop := Asks (fun o : CoreOp => o.writes = false) m

section reads

variable {α : Type}

theorem reads_core {o : CoreOp} (ho : o.writes = false) : ReadOnly (core o) :=
  asks_ask (S := core_io) ho

theorem reads_failed {line : Text} : ReadOnly (failed line : Core α) := asks_fail _

theorem reads_fields {found : Option α} : ReadOnly (fields found) := by
  cases found with
  | none => exact asks_fail _
  | some found => exact asks_pure found

theorem reads_find {symbols : List (Text × Nat)} : ReadOnly (find_entrypoint handle symbols) := by
  induction symbols with
  | nil => exact asks_pure none
  | cons entry rest ih =>
    apply (reads_core (o := .dlsym handle entry.1) rfl).bind
    intro found
    cases found with
    | true => exact asks_pure _
    | false => exact ih

theorem reads_load {path : Text} : ReadOnly (load_plugin path) := by
  have hclose : ∀ handle, ReadOnly (core (.dlclose handle) >>= fun _ =>
      pure (none : Option LoadedPlugin)) :=
    fun handle => (reads_core rfl).bind fun _ => asks_pure none
  apply (reads_core (o := .dlopen path) rfl).bind
  intro opened
  cases opened with
  | none => exact asks_pure none
  | some handle =>
    apply reads_find.bind
    intro version
    cases version with
    | none => exact hclose handle
    | some version =>
      apply (reads_core (o := .entrypoint handle version) rfl).bind
      intro found
      cases accepted found version with
      | none => exact hclose handle
      | some plugin => exact asks_pure _

theorem reads_close : ReadOnly (plugins_close items) := by
  induction items with
  | nil => exact asks_pure ()
  | cons item rest ih => exact (reads_core rfl).bind fun _ => ih

theorem reads_loop {directory : Text} {entries : List Text} :
    ReadOnly (load_loop directory items entries) := by
  induction entries generalizing items with
  | nil => exact (reads_core (o := .closedir) rfl).bind fun _ => asks_pure _
  | cons d_name rest ih =>
    have hgave_up : ∀ e : Text, ReadOnly (core .closedir >>= fun _ => plugins_close items >>= fun _ =>
        pure (.error e : Except Text (List LoadedPlugin))) :=
      fun e => (reads_core (o := .closedir) rfl).bind fun _ => reads_close.bind fun _ => asks_pure _
    unfold load_loop
    by_cases hsuffix : has_shared_object_suffix d_name = true
    · rw [if_pos hsuffix]
      by_cases hmany : items.length = MAX_PLUGINS
      · rw [if_pos hmany]
        exact hgave_up _
      rw [if_neg hmany]
      by_cases hlong : (plugin_path directory d_name).length ≥ PATH_MAX
      · rw [if_pos hlong]
        exact hgave_up _
      rw [if_neg hlong]
      exact reads_load.bind fun _ => ih
    · rw [if_neg hsuffix]
      exact ih

theorem reads_open {directory : Text} : ReadOnly (plugins_open strerror directory) := by
  apply (reads_core (o := .opendir directory) rfl).bind
  intro entries
  cases entries with
  | error e => exact asks_pure _
  | ok entries =>
    apply reads_loop.bind
    intro found
    cases found with
    | error e => exact asks_pure _
    | ok found => cases found <;> exact asks_pure _

theorem reads_choose {options : CliOptions} : ReadOnly (choose_plugin items options) := by
  have hdmi : ReadOnly read_dmi_product := (reads_core (o := .dmi) rfl).bind fun _ => asks_pure _
  apply hdmi.bind
  intro product
  split
  · split
    · exact reads_failed
    · split
      · exact reads_failed
      · split
        · exact asks_pure _
        · exact reads_failed
  · split
    · exact reads_failed
    · split
      · exact asks_pure _
      · exact reads_failed

theorem reads_has_v4 {plugin : Plugin} {function : FieldsV4 → Bool} :
    ReadOnly (has_v4 plugin function) := by
  unfold has_v4
  split
  · exact reads_fields.bind fun _ => asks_pure _
  · exact asks_pure _

theorem reads_fans {force : Bool} : ReadOnly (plugin_read_fans item force) := by
  apply reads_has_v4.bind
  intro separate
  split
  · exact reads_core rfl
  · split
    · exact (reads_core rfl).bind fun _ => asks_pure _
    · exact asks_pure _

theorem reads_startup {force : Bool} : ReadOnly (plugin_read_startup_policy item force) := by
  apply reads_has_v4.bind
  intro separate
  split
  · exact reads_core rfl
  · split
    · exact (reads_core rfl).bind fun _ => asks_pure _
    · exact asks_pure _

theorem reads_wol {force : Bool} : ReadOnly (plugin_read_wol_policy item force) := by
  have hv5 : ReadOnly (has_v5 item.plugin) := by
    unfold has_v5
    split
    · exact reads_fields.bind fun _ => asks_pure _
    · exact asks_pure _
  apply hv5.bind
  intro there
  split
  · exact reads_core rfl
  · exact asks_pure _

theorem reads_controller_name {plugin : Plugin} : ReadOnly (plugin_controller_name plugin) := by
  unfold plugin_controller_name
  split
  · apply reads_fields.bind
    intro v4
    split <;> exact asks_pure _
  · exact asks_pure _

theorem reads_print {action : Text} {r : Except PluginError α} {out : α → List Text} :
    ReadOnly (print_result strerror action r out) := by
  cases r with
  | ok a => exact asks_pure _
  | error e => exact reads_failed

theorem reads_info {force : Bool} : ReadOnly (info strerror item force) := by
  apply reads_controller_name.bind
  intro controller
  apply reads_fans.bind
  intro fans
  apply reads_startup.bind
  intro startup
  apply reads_wol.bind
  intro wol
  split
  · exact asks_fail _
  · exact asks_pure _

end reads

/-! ## The plugin of the machine -/

/-- A plugin is that of the product whose name was read. -/
structure Chosen (items : List LoadedPlugin) (options : CliOptions) (log : CoreLog)
    (item : LoadedPlugin) : Prop where
  loaded : item ∈ items
  product : ∃ file product_name, (⟨.dmi, some file⟩ : Event core_io) ∈ log ∧
    product_of file = some product_name ∧ product_matches item.plugin product_name = true ∧
    (options.model_id = none → match_product items product_name = some item)
  model : ∀ id, options.model_id = some id → find_plugin items id = some item

theorem choose_plugin_logs {options : CliOptions}
    (h : Logs (choose_plugin items options) c (.ok item) c' log) : Chosen items options log item := by
  obtain ⟨product, c₁, first, last, rfl, hdmi, hlast⟩ := h.of_bind_ok
  obtain ⟨file, nothing, rfl, hfile⟩ := hdmi.of_ask_then
  obtain ⟨hproduct, -, rfl⟩ := hfile.of_pure
  obtain rfl := Except.ok.inj hproduct
  have hnot : ∀ {line : Text} {c : Unit} {log : CoreLog},
      ¬ Logs (failed line : Core LoadedPlugin) c (.ok item) c' log := by
    intro line c log h
    obtain ⟨hr, -, -⟩ := Logs.of_fail (e := Stop.failed [line]) h
    cases hr
  have hread : ∀ {name : Text}, file.bind product_of = some name →
      ∃ data, (⟨.dmi, some data⟩ : Event core_io) ∈ [⟨.dmi, file⟩] ++ last ∧
        product_of data = some name := by
    intro name hname
    obtain ⟨data, rfl, hdata⟩ := Option.bind_eq_some_iff.mp hname
    exact ⟨data, List.mem_cons_self, hdata⟩
  cases hmodel : options.model_id with
  | some id =>
    simp only [hmodel] at hlast
    cases hfind : find_plugin items id with
    | none =>
      simp only [hfind] at hlast
      exact absurd hlast hnot
    | some found =>
      simp only [hfind] at hlast
      cases hname : file.bind product_of with
      | none =>
        simp only [hname] at hlast
        exact absurd hlast hnot
      | some product_name =>
        simp only [hname] at hlast
        -- the model that was named is checked against the product, too
        by_cases hmatches : product_matches found.plugin product_name = true
        · rw [if_pos hmatches] at hlast
          obtain ⟨hr, -, -⟩ := hlast.of_pure
          obtain rfl := Except.ok.inj hr
          obtain ⟨data, hmem, hdata⟩ := hread hname
          exact {
            loaded := List.mem_of_find?_eq_some hfind
            product := ⟨data, product_name, hmem, hdata, hmatches, fun h => by rw [hmodel] at h; cases h⟩
            model := fun id' h => by rw [← Option.some.inj (hmodel.symm.trans h)]; exact hfind }
        · rw [if_neg hmatches] at hlast
          exact absurd hlast hnot
  | none =>
    simp only [hmodel] at hlast
    cases hname : file.bind product_of with
    | none =>
      simp only [hname] at hlast
      exact absurd hlast hnot
    | some product_name =>
      simp only [hname] at hlast
      cases hmatch : match_product items product_name with
      | none =>
        simp only [hmatch] at hlast
        exact absurd hlast hnot
      | some found =>
        simp only [hmatch] at hlast
        obtain ⟨hr, -, -⟩ := hlast.of_pure
        obtain rfl := Except.ok.inj hr
        obtain ⟨data, hmem, hdata⟩ := hread hname
        have hmatches : product_matches item.plugin product_name = true :=
          List.find?_some (p := fun item : LoadedPlugin => product_matches item.plugin product_name) hmatch
        exact {
          loaded := List.mem_of_find?_eq_some hmatch
          product := ⟨data, product_name, hmem, hdata, hmatches, fun _ => hmatch⟩
          model := fun id h => by rw [hmodel] at h; cases h }

/-! ## The write -/

/-- What the arguments ask a plugin to write, and whether it says it did. -/
inductive Wanted (options : CliOptions) (args : List Text) (item : LoadedPlugin) :
    Event core_io → Bool → Prop where
  | fan {fan_id value : Text} {pwm : UInt8} {result : Except PluginError Unit} :
      args = ["fan".toList, "set".toList, fan_id, value] → parse_pwm value = some pwm →
      item.plugin.set_fan_pwm = true →
      Wanted options args item ⟨.call item.handle (.set_fan_pwm options.force fan_id pwm), result⟩
        result.isOk
  | startup {value : Text} {policy : StartupPolicy} {result : Except PluginError Unit} :
      args = ["power".toList, "startup".toList, "set".toList, value] →
      parse_startup_policy value = policy → policy ≠ .unknown →
      item.plugin.set_startup_policy = true →
      Wanted options args item ⟨.call item.handle (.set_startup_policy options.force policy), result⟩
        result.isOk

/-- A command that writes. -/
def CliCommand.sets : CliCommand → Bool
  | .fan_set _ _ => true
  | .startup_set _ => true
  | _ => false

theorem args_of_fan_set {args : List Text} {fan_id value : Text}
    (h : cli_command args = .fan_set fan_id value) :
    args = ["fan".toList, "set".toList, fan_id, value] := by
  unfold cli_command at h
  repeat' split at h
  all_goals cases h
  next hwords _ _ _ _ _ _ => rw [hwords.1, hwords.2]

theorem args_of_startup_set {args : List Text} {value : Text}
    (h : cli_command args = .startup_set value) :
    args = ["power".toList, "startup".toList, "set".toList, value] := by
  unfold cli_command at h
  repeat' split at h
  all_goals cases h
  next hwords _ _ _ _ _ _ => rw [hwords.1, hwords.2.1, hwords.2.2]

/-- What is written by a command with `--apply`, or that nothing is. -/
structure Written (options : CliOptions) (args : List Text) (item : LoadedPlugin) (log : CoreLog)
    (done : Bool) : Prop where
  write : ∀ e ∈ log, e.1.writes = true → options.apply = true ∧ log = [e] ∧ Wanted options args item e done
  success : done = true → options.apply = true → (cli_command args).sets = true →
    ∃ e ∈ log, e.1.writes = true

/-- A command that only reads. -/
theorem written_of_reads {m : Core Printed} {options : CliOptions} {args : List Text}
    {r : Except Stop Printed} (hm : ReadOnly m) (hsets : (cli_command args).sets = false)
    (h : Logs m c r c' log) : Written options args item log r.isOk where
  write e hmem hwrites := by
    have hreads : e.1.writes = false := hm.log h e hmem
    rw [hreads] at hwrites
    cases hwrites
  success _ _ hset := by
    rw [hsets] at hset
    cases hset

/-- One that stops before it has done anything. -/
theorem written_of_failed {options : CliOptions} {args : List Text} {r : Except Stop Printed}
    {line : Text} (h : Logs (failed line) c r c' log) : Written options args item log r.isOk := by
  obtain ⟨rfl, -, rfl⟩ := Logs.of_fail (e := Stop.failed [line]) h
  exact ⟨fun _ h => absurd h List.not_mem_nil, fun hdone => by cases hdone⟩

/-- Nothing is done without `--apply`. -/
theorem written_of_apply {options : CliOptions} {args : List Text} {r : Except Stop Printed}
    {description : Text} {write : Core Printed}
    (hwrite : ∀ {log}, Logs write c r c' log →
      ∃ e, log = [e] ∧ e.1.writes = true ∧ Wanted options args item e r.isOk)
    (h : Logs (require_apply options description write) c r c' log) :
    Written options args item log r.isOk := by
  unfold require_apply at h
  by_cases happly : options.apply = true
  · rw [if_pos happly] at h
    obtain ⟨e, rfl, hwrites, hwanted⟩ := hwrite h
    refine ⟨?_, fun _ _ _ => ⟨e, List.mem_cons_self, hwrites⟩⟩
    intro e' hmem _
    obtain rfl := List.mem_singleton.mp hmem
    exact ⟨happly, rfl, hwanted⟩
  · rw [if_neg happly] at h
    obtain ⟨-, -, rfl⟩ := h.of_pure
    exact ⟨fun _ h => absurd h List.not_mem_nil, fun _ h => absurd h happly⟩

theorem print_result_logs {α : Type} {action : Text} {result : Except PluginError α}
    {out : α → List Text} {r : Except Stop Printed}
    (h : Logs (print_result strerror action result out) c r c' log) :
    log = [] ∧ result.isOk = r.isOk := by
  cases result with
  | ok a =>
    obtain ⟨rfl, -, rfl⟩ := h.of_pure
    exact ⟨rfl, rfl⟩
  | error e =>
    obtain ⟨rfl, -, rfl⟩ := Logs.of_fail (e := Stop.failed [report_plugin_error strerror action e]) h
    exact ⟨rfl, rfl⟩

theorem fan_set_logs {options : CliOptions} {args : List Text} {fan_id value : Text}
    {r : Except Stop Printed} (hargs : args = ["fan".toList, "set".toList, fan_id, value])
    (h : Logs (fan_set strerror item options fan_id value) c r c' log) :
    Written options args item log r.isOk := by
  unfold fan_set at h
  split at h
  · next pwm hpwm hfunction =>
    apply written_of_apply _ h
    intro log hlog
    obtain ⟨result, last, rfl, hlast⟩ := hlog.of_ask_then
    obtain ⟨rfl, hdone⟩ := print_result_logs hlast
    refine ⟨_, rfl, rfl, ?_⟩
    rw [← hdone]
    exact .fan hargs hpwm hfunction
  · exact written_of_failed h

theorem startup_set_logs {options : CliOptions} {args : List Text} {value : Text}
    {r : Except Stop Printed} (hargs : args = ["power".toList, "startup".toList, "set".toList, value])
    (h : Logs (startup_set strerror item options value) c r c' log) :
    Written options args item log r.isOk := by
  unfold startup_set at h
  split at h
  · exact written_of_failed h
  · next hvalid =>
    obtain ⟨hpolicy, hfunction⟩ := not_or.mp hvalid
    apply written_of_apply _ h
    intro log hlog
    obtain ⟨result, last, rfl, hlast⟩ := hlog.of_ask_then
    obtain ⟨rfl, hdone⟩ := print_result_logs hlast
    refine ⟨_, rfl, rfl, ?_⟩
    rw [← hdone]
    exact .startup hargs rfl hpolicy (Bool.eq_true_of_not_eq_false hfunction)

theorem run_command_logs {options : CliOptions} {args : List Text} {r : Except Stop Printed}
    (h : Logs (run_command strerror item options (cli_command args)) c r c' log) :
    Written options args item log r.isOk := by
  cases hcommand : cli_command args with
  | fan_set fan_id value =>
    rw [hcommand] at h
    exact fan_set_logs (args_of_fan_set hcommand) h
  | startup_set value =>
    rw [hcommand] at h
    exact startup_set_logs (args_of_startup_set hcommand) h
  | models | invalid | led_list =>
    rw [hcommand] at h
    exact written_of_failed h
  | thermal_status =>
    have hreads : ReadOnly (run_command strerror item options .thermal_status) :=
      (reads_core rfl).bind fun _ => reads_print
    rw [hcommand] at h
    exact written_of_reads hreads (by rw [hcommand]; rfl) h
  | info =>
    rw [hcommand] at h
    exact written_of_reads reads_info (by rw [hcommand]; rfl) h
  | fan_status =>
    have hreads : ReadOnly (run_command strerror item options .fan_status) :=
      reads_fans.bind fun _ => reads_print
    rw [hcommand] at h
    exact written_of_reads hreads (by rw [hcommand]; rfl) h
  | startup_get =>
    have hreads : ReadOnly (run_command strerror item options .startup_get) :=
      reads_startup.bind fun _ => reads_print
    rw [hcommand] at h
    exact written_of_reads hreads (by rw [hcommand]; rfl) h

/-! ## The program -/

theorem plugins_close_logs {r : Except Stop Unit} (h : Logs (plugins_close items) c r c' log) :
    r = .ok () ∧ log.map Sigma.fst = items.map fun item => .dlclose item.handle := by
  induction items generalizing log c with
  | nil =>
    obtain ⟨rfl, -, rfl⟩ := Logs.of_pure (a := ()) h
    exact ⟨rfl, rfl⟩
  | cons item rest ih =>
    obtain ⟨_, tail, rfl, htail⟩ := h.of_ask_then
    obtain ⟨rfl, hrest⟩ := ih htail
    refine ⟨rfl, ?_⟩
    rw [List.map_cons, hrest]
    rfl

theorem Chosen.mono {options : CliOptions} {log log' : CoreLog} (h : Chosen items options log item)
    (hsub : log ⊆ log') : Chosen items options log' item where
  loaded := h.loaded
  product := by
    obtain ⟨file, name, hread, hrest⟩ := h.product
    exact ⟨file, name, hsub hread, hrest⟩
  model := h.model

/-- What was found out before a write, which is the only one, and what is
    still done behind it. -/
structure Authorised (options : CliOptions) (args : List Text) (log : CoreLog) (e : Event core_io)
    (done : Bool) (items : List LoadedPlugin) (item : LoadedPlugin) (first last : CoreLog) : Prop where
  apply : options.apply = true
  log_eq : log = first ++ e :: last
  quiet : ∀ e' ∈ first, e'.1.writes = false
  loaded : ∀ item' ∈ items, From first item'
  chosen : Chosen items options first item
  wanted : Wanted options args item e done
  released : last.map Sigma.fst = items.map fun item' => .dlclose item'.handle

theorem with_plugins_logs {options : CliOptions} {args : List Text} {r : Except Stop Printed}
    (h : Logs (with_plugins strerror items options (cli_command args)) c r c' log) :
    (∀ e ∈ log, e.1.writes = true → ∃ item first, options.apply = true ∧ log = first ++ [e] ∧
      (∀ e' ∈ first, e'.1.writes = false) ∧ Chosen items options first item ∧
      Wanted options args item e r.isOk) ∧
    (r.isOk = true → options.apply = true → (cli_command args).sets = true →
      ∃ e ∈ log, e.1.writes = true) := by
  by_cases hmodels : cli_command args = .models
  · rw [hmodels] at h ⊢
    obtain ⟨-, -, rfl⟩ := h.of_pure
    exact ⟨fun _ h => absurd h List.not_mem_nil, fun _ _ h => by cases h⟩
  · have hplugin : Logs (choose_plugin items options >>= fun item =>
        run_command strerror item options (cli_command args)) c r c' log := by
      unfold with_plugins at h
      split at h
      · next hcommand => exact absurd hcommand hmodels
      · exact h
    rcases hplugin.of_bind with ⟨item, c₁, first, second, rfl, hchoose, hrun⟩ | ⟨e, rfl, hfailed⟩
    · have hwritten := run_command_logs hrun
      have hquiet : ∀ e ∈ first, e.1.writes = false := reads_choose.log hchoose
      constructor
      · intro e hmem hwrites
        rcases List.mem_append.mp hmem with hmem | hmem
        · rw [hquiet e hmem] at hwrites
          cases hwrites
        · obtain ⟨happly, rfl, hwanted⟩ := hwritten.write e hmem hwrites
          exact ⟨item, first, happly, rfl, hquiet, choose_plugin_logs hchoose, hwanted⟩
      · intro hdone happly hsets
        obtain ⟨e, hmem, hwrites⟩ := hwritten.success hdone happly hsets
        exact ⟨e, List.mem_append_right _ hmem, hwrites⟩
    · constructor
      · intro e' hmem hwrites
        rw [reads_choose.log hfailed e' hmem] at hwrites
        cases hwrites
      · intro hdone
        cases hdone

/-- What a command may write. -/
def CommandWrites (options : CliOptions) (args : List Text) (log : CoreLog) (done : Bool) : Prop :=
  (∀ e ∈ log, e.1.writes = true →
    ∃ items item first last, Authorised options args log e done items item first last) ∧
  (done = true → options.apply = true → (cli_command args).sets = true →
    ∃ e ∈ log, e.1.writes = true)

theorem command_writes_of_failed {options : CliOptions} {args : List Text}
    (hquiet : ∀ e ∈ log, e.1.writes = false) : CommandWrites options args log false := by
  constructor
  · intro e hmem hwrites
    rw [hquiet e hmem] at hwrites
    cases hwrites
  · intro hdone
    cases hdone

theorem command_logs {options : CliOptions} {args : List Text} {r : Except Stop Printed}
    (h : Logs (plugins_open strerror options.model_directory >>= fun items =>
      match items with
      | .error e => failed ("error: load model plugins: ".toList ++ e)
      | .ok items => always (with_plugins strerror items options (cli_command args))
          (plugins_close items)) c r c' log) : CommandWrites options args log r.isOk := by
  rcases h.of_bind with ⟨found, c₁, opening, rest, rfl, hopen, hrest⟩ | ⟨e, rfl, hfailed⟩
  · have hquiet : ∀ e ∈ opening, e.1.writes = false := reads_open.log hopen
    cases found with
    | error e =>
      obtain ⟨rfl, -, rfl⟩ := Logs.of_fail (e := Stop.failed [_]) hrest
      rw [List.append_nil]
      exact command_writes_of_failed hquiet
    | ok items =>
      obtain ⟨x, c₂, first, last, rfl, hwith, hclose⟩ := hrest.of_always
      -- the objects are closed whatever became of the command
      have hreleased : r = x ∧ last.map Sigma.fst = items.map fun item => .dlclose item.handle := by
        rcases hclose with ⟨hclose, hr⟩ | ⟨e, hclose, -⟩
        · exact ⟨hr, (plugins_close_logs hclose).2⟩
        · cases (plugins_close_logs hclose).1
      obtain ⟨rfl, hlast⟩ := hreleased
      have hclosed : ∀ e ∈ last, e.1.writes = false := by
        intro e hmem
        have hop : e.1 ∈ items.map fun item => CoreOp.dlclose item.handle := by
          rw [← hlast]
          exact List.mem_map_of_mem hmem
        obtain ⟨item, -, hitem⟩ := List.mem_map.mp hop
        rw [← hitem]
        rfl
      obtain ⟨hwrite, hsuccess⟩ := with_plugins_logs hwith
      constructor
      · intro e hmem hwrites
        rcases List.mem_append.mp hmem with hmem | hmem
        · rw [hquiet e hmem] at hwrites
          cases hwrites
        rcases List.mem_append.mp hmem with hmem | hmem
        · obtain ⟨item, before, happly, rfl, hbefore, hchosen, hwanted⟩ := hwrite e hmem hwrites
          refine ⟨items, item, opening ++ before, last, ?_⟩
          exact {
            apply := happly
            log_eq := by simp
            quiet := fun e' hmem => (List.mem_append.mp hmem).elim (hquiet e') (hbefore e')
            loaded := fun item' hitem =>
              (plugins_open_logs hopen item' hitem).mono (List.subset_append_left _ _)
            chosen := hchosen.mono (List.subset_append_right _ _)
            wanted := hwanted
            released := hlast }
        · rw [hclosed e hmem] at hwrites
          cases hwrites
      · intro hdone happly hsets
        obtain ⟨e, hmem, hwrites⟩ := hsuccess hdone happly hsets
        exact ⟨e, List.mem_append_right _ (List.mem_append_left _ hmem), hwrites⟩
  · exact command_writes_of_failed (reads_open.log hfailed)

/-- Whatever the arguments, the files and the plugins are and whatever fails:
    a plugin is asked to write only with `--apply`, what the arguments ask for,
    once; it has come from the newest entry point of an object that was opened,
    and the product name of the machine was read and is one of its.  Behind it
    the objects are closed, and nothing else is done.  The program succeeds
    with it exactly if the plugin says that it has, and a command that sets
    something does not succeed with `--apply` without it. -/
theorem writes_authorised {r : Except Stop Printed} (h : Logs (main strerror argv) c r c' log) :
    (∀ e ∈ log, e.1.writes = true → ∃ options args, parse_options {} argv = .command options args ∧
      ∃ items item first last, Authorised options args log e r.isOk items item first last) ∧
    (∀ options args, parse_options {} argv = .command options args → r.isOk = true →
      options.apply = true → (cli_command args).sets = true → ∃ e ∈ log, e.1.writes = true) := by
  unfold main at h
  cases harguments : parse_options {} argv with
  | help | version =>
    simp only [harguments] at h
    obtain ⟨-, -, rfl⟩ := h.of_pure
    exact ⟨fun _ h => absurd h List.not_mem_nil, fun _ _ h => by cases h⟩
  | unknown option =>
    simp only [harguments] at h
    obtain ⟨-, -, rfl⟩ := Logs.of_fail (e := Stop.failed [_]) h
    exact ⟨fun _ h => absurd h List.not_mem_nil, fun _ _ h => by cases h⟩
  | missing =>
    simp only [harguments] at h
    obtain ⟨-, -, rfl⟩ := Logs.of_fail (e := Stop.failed []) h
    exact ⟨fun _ h => absurd h List.not_mem_nil, fun _ _ h => by cases h⟩
  | command options args =>
    simp only [harguments] at h
    obtain ⟨hwrites, hsuccess⟩ := command_logs h
    constructor
    · intro e hmem hwrite
      exact ⟨options, args, rfl, hwrites e hmem hwrite⟩
    · intro options' args' heq hdone happly hsets
      cases heq
      exact hsuccess hdone happly hsets

/-- A model with one fan. -/
def a_plugin : PluginData where
  abi_version := ABI_V5
  id := some "dxp4800".toList
  display_name := some "DXP4800".toList
  dmi_product_names := some ["DXP4800".toList]
  capabilities := CAP_FAN
  read_status := true
  set_fan_pwm := true
  set_startup_policy := false
  v4 := some ⟨true, true, none⟩
  v5 := some ⟨false⟩

/-- A machine with that model, whose reads fail. -/
def core_answer : (o : CoreOp) → o.Ans
  | .opendir _ => .ok ["README".toList, "dxp4800.so".toList]
  | .closedir => ()
  | .dlopen _ => some ⟨1⟩
  | .dlsym _ _ => true
  | .entrypoint _ _ => some a_plugin
  | .dlclose _ => ()
  | .dmi => some ⟨"DXP4800\n".toList, false⟩
  | .call _ (.read_status _) => (.error ⟨-5, []⟩ : Except PluginError Status)
  | .call _ (.read_fans _) => (.error ⟨-5, []⟩ : Except PluginError (List FanStatus))
  | .call _ (.read_startup_policy _) => (.error ⟨-5, []⟩ : Except PluginError StartupPolicy)
  | .call _ (.read_wol_policy _) => (.error ⟨-5, []⟩ : Except PluginError WolPolicy)
  | .call _ (.set_fan_pwm _ _ _) => (.ok () : Except PluginError Unit)
  | .call _ (.set_startup_policy _ _) => (.error ⟨-5, []⟩ : Except PluginError Unit)
  | .thermal => .error ⟨-5, []⟩

def core_machine : Prog.Handler core_io CoreLog :=
  fun log o => (core_answer o, log ++ [⟨o, core_answer o⟩])

def fan_argv : List Text :=
  ["--apply".toList, "fan".toList, "set".toList, "fan1".toList, "128".toList]

def fan_run : (Except Stop Printed × Unit) × CoreLog :=
  Prog.exec core_machine ((main (fun _ => []) fan_argv).run ()) []

theorem fan_run_logs {run : (Except Stop Printed × Unit) × CoreLog}
    (h : run = Prog.exec core_machine ((main (fun _ => []) fan_argv).run ()) []) :
    Logs (main (fun _ => []) fan_argv) () run.1.1 () run.2 := by
  rw [h]
  exact runs_handled (E := recorded core_io) (h := core_machine) (fun _ _ => rfl) _ []

theorem writes_authorised_fan :
    fan_run.1.1.isOk = true ∧ (fan_run.2.any fun e => e.1.writes) = true ∧
      ∀ e ∈ fan_run.2, e.1.writes = true → ∃ options args,
        parse_options {} fan_argv = .command options args ∧ ∃ items item first last,
          Authorised options args fan_run.2 e fan_run.1.1.isOk items item first last := by
  refine ⟨by decide +kernel, by decide +kernel, ?_⟩
  exact (writes_authorised (fan_run_logs rfl)).1

end UgreenNas.Plugins
