import UgreenNas.Core.LedExecute
import UgreenNas.Core.Parsed

/-! # Selected LEDs

    The arrays of `led_execute` have no checks of their own.  They are long
    enough because the parser keeps no target twice and `all` alone, and
    because the names of a profile are different.
-/

namespace UgreenNas.Core

open DiskMap Led Effect Effect.Proc

/-! ## What the parser keeps -/

/-- No target twice, and `all` only alone. -/
structure Selective (targets : List Text) : Prop where
  nodup : targets.Nodup
  all_alone : ("all" : Text) ∈ targets → targets = [("all" : Text)]

theorem selective_nil : Selective [] := ⟨List.nodup_nil, fun h => absurd h List.not_mem_nil⟩

theorem selective_singleton (t : Text) : Selective [t] := by
  refine ⟨List.nodup_singleton t, ?_⟩
  intro hmem
  rw [List.mem_singleton.mp hmem]

theorem Selective.target {o o' : HardwareOptions} {value : Text} (h : target o value = .ok o')
    (ho : Selective o.targets) : Selective o'.targets := by
  rcases target_ok h with rfl | ⟨rfl, hother⟩
  · exact ho
  · constructor
    · apply List.Nodup.append ho.nodup (List.nodup_singleton value)
      intro t ht hvalue
      exact (hother t ht).1 (List.mem_singleton.mp hvalue)
    · intro hall
      rcases List.mem_append.mp hall with hall | hall
      · exact absurd rfl (hother _ hall).2.1
      · have hvalue := List.mem_singleton.mp hall
        cases htargets : o.targets with
        | nil => rw [hvalue]; rfl
        | cons t rest =>
          have ht : t ∈ o.targets := by rw [htargets]; exact List.mem_cons_self
          exact absurd hvalue.symm (hother t ht).2.2

theorem compat_arg_selective {o o' : HardwareOptions} {arg : Text} {rest : List Text} {used : Nat}
    (h : compat_arg o arg rest = .ok (o', used)) (ho : Selective o.targets) :
    Selective o'.targets := by
  rcases compat_arg_cases h with htarget | ⟨action, -, rfl⟩
  · exact ho.target htarget
  · exact ho

theorem reads_item_selective {verb : Text} {s s' : NewState} {item : List Text}
    (h : ReadsItem verb s item s') (hled : s.o.command ≠ .disk_locate)
    (hs : Selective s.o.targets) : Selective s'.o.targets := by
  cases h with
  | target _ htarget =>
    rcases new_target_cases htarget with ⟨hlocate, -⟩ | ⟨o, ho, rfl⟩
    · exact absurd hlocate hled
    · exact hs.target ho
  | seconds => exact hs
  | option _ _ hoption => cases hoption <;> exact hs

/-- Every LED command but `led list` has targets, and they are selective. -/
theorem accepted_targets {argv : List Text} {o : HardwareOptions} (h : Accepted argv o)
    (hled : o.command.is_led = true) :
    Selective o.targets ∧ (o.command ≠ .led_list → o.targets ≠ []) := by
  cases h with
  | @legacy g hglobal htargets hactions hparse =>
    obtain ⟨o₁, hloop, hne, hend⟩ := compat_parse_cases hparse
    have ho₁ : Selective o₁.targets := by
      apply compat_loop_invariant (I := fun o => Selective o.targets) _ hloop
      · rw [htargets]
        exact selective_nil
      · intro o o' arg rest used harg ho
        exact compat_arg_selective harg ho
    rcases hend with rfl | rfl
    · exact ⟨ho₁, fun _ => hne⟩
    · exact ⟨ho₁, fun _ => hne⟩
  | @subcommand g first verb items command mode s hglobal htargets hactions hargs hcommand hitems
      hfinish =>
    have hselective : s.o.command ≠ .disk_locate → Selective s.o.targets := by
      apply hitems.invariant
        (I := fun s => s.o.command ≠ .disk_locate → Selective s.o.targets)
      · intro s item s' hitem hs hlocate
        rw [hitem.command] at hlocate
        exact reads_item_selective hitem hlocate (hs hlocate)
      · intro _
        show Selective g.o.targets
        rw [htargets]
        exact selective_nil
    rcases new_finish_cases hfinish with ⟨hset, hfinish⟩ | ⟨hstatus, -, rfl⟩ | ⟨rfl, hset, hstatus, hone⟩
    · obtain ⟨hne, -, hend⟩ := finish_set_cases hfinish
      have hs := hselective (by rw [hset]; decide)
      rcases hend with ⟨-, rfl⟩ | ⟨-, -, rfl⟩
      · exact ⟨hs, fun _ => hne⟩
      · exact ⟨hs, fun _ => hne⟩
    · exact ⟨selective_singleton _, fun _ => List.cons_ne_nil _ _⟩
    · have hlocate : s.o.command ≠ .disk_locate := by
        intro hlocate
        rw [hlocate] at hled
        cases hled
      refine ⟨hselective hlocate, ?_⟩
      intro hlist
      cases hcommand' : s.o.command with
      | led_status => exact hstatus hcommand'
      | led_identify =>
        intro hnil
        have hlength := hone hcommand'
        rw [hnil] at hlength
        cases hlength
      | led_compat =>
        have hkept : s.o.command = command := hitems.command
        rw [hcommand'] at hkept
        exact absurd hkept.symm (new_command_ok hcommand).1
      | led_set => exact absurd hcommand' hset
      | led_list => exact absurd hcommand' hlist
      | help => rw [hcommand'] at hled; cases hled
      | disk_list => rw [hcommand'] at hled; cases hled
      | disk_locate => exact absurd hcommand' hlocate

/-! ## What a profile offers -/

/-- The layouts fit into the arrays, and their names and numbers differ. -/
theorem layouts_fit : ∀ model ∈ profiles, model.leds.length ≤ MAX_LEDS ∧ model.leds ≠ [] ∧
    (model.leds.map fun led => led.name).Nodup ∧ (model.leds.map fun led => led.id).Nodup := by
  decide +kernel

section select

variable {model : Model} {o : HardwareOptions} {descriptors selected : List Target}

/-- The step lemma of the loop over the names: what is found has the name. -/
theorem select_loop_names {names : List Text} {before : List Target}
    (h : select_loop model descriptors before names = some (.ok selected)) :
    ∃ found, selected = before ++ found ∧ found.map (fun led => led.name.toList) = names ∧
      ∀ led ∈ found, led ∈ descriptors := by
  induction names generalizing before with
  | nil =>
    cases h
    exact ⟨[], (List.append_nil _).symm, rfl, fun _ h => absurd h List.not_mem_nil⟩
  | cons name rest ih =>
    unfold select_loop at h
    split at h
    · cases h
    · rename_i led hled
      obtain ⟨next, hstore, hrest⟩ := Option.bind_eq_some_iff.mp h
      obtain ⟨found, hselected, hnames, hfound⟩ := ih hrest
      unfold store_selected at hstore
      split at hstore
      · obtain rfl := Option.some.inj hstore
        refine ⟨led :: found, by rw [hselected, List.append_assoc]; rfl, ?_, ?_⟩
        · have hname := List.find?_some hled
          rw [List.map_cons, hnames, of_decide_eq_true hname]
        · intro led' hled'
          rcases List.mem_cons.mp hled' with rfl | hled'
          · exact List.mem_of_find?_eq_some hled
          · exact hfound led' hled'
      · cases hstore

/-- The loop never stores behind the end: the names differ, so there are no
    more of them than LEDs. -/
theorem select_loop_in_bounds {names : List Text} {before : List Target}
    (hroom : descriptors.length ≤ MAX_LEDS)
    (hnodup : (before.map (fun led => led.name.toList) ++ names).Nodup)
    (hbefore : ∀ led ∈ before, led ∈ descriptors) :
    select_loop model descriptors before names ≠ none := by
  induction names generalizing before with
  | nil => simp [select_loop]
  | cons name rest ih =>
    unfold select_loop
    split
    · simp
    · rename_i led hled
      have hname := List.find?_some hled
      rw [decide_eq_true_eq] at hname
      have hmem := List.mem_of_find?_eq_some hled
      have hnext : ((before ++ [led]).map (fun led => led.name.toList) ++ rest).Nodup := by
        rw [List.map_append, List.map_singleton, List.append_assoc, List.singleton_append, hname]
        exact hnodup
      have hall : ∀ led' ∈ before ++ [led], led' ∈ descriptors := by
        intro led' hled'
        rcases List.mem_append.mp hled' with hled' | hled'
        · exact hbefore led' hled'
        · rw [List.mem_singleton.mp hled']
          exact hmem
      have hlength : (before ++ [led]).length ≤ descriptors.length := by
        apply List.Subperm.length_le
        apply List.subperm_of_subset _ hall
        exact List.Nodup.of_map _ (List.nodup_append.mp hnext).1
      have hspace : before.length < MAX_LEDS := by
        rw [List.length_append, List.length_singleton] at hlength
        omega
      unfold store_selected
      rw [if_pos hspace]
      exact ih hnext hall

/-- The LEDs that a command works on: some of the profile's, each once. -/
structure Fits (model : Model) (selected : List Target) : Prop where
  some_led : selected ≠ []
  of_profile : ∀ led ∈ selected, led ∈ model.leds
  count : selected.length ≤ model.leds.length
  room : model.leds.length ≤ MAX_LEDS
  distinct : (selected.map fun led => led.id).Nodup

theorem fits_all (hmodel : model ∈ profiles) : Fits model model.leds := by
  obtain ⟨hroom, hsome, -, hids⟩ := layouts_fit model hmodel
  exact ⟨hsome, fun _ h => h, Nat.le_refl _, hroom, hids⟩

/-- LEDs whose names differ. -/
theorem fits_named (hmodel : model ∈ profiles) (hsome : selected ≠ [])
    (hmem : ∀ led ∈ selected, led ∈ model.leds)
    (hnames : (selected.map fun led => led.name.toList).Nodup) : Fits model selected := by
  obtain ⟨hroom, -, -, hids⟩ := layouts_fit model hmodel
  have hnodup : selected.Nodup := List.Nodup.of_map _ hnames
  refine ⟨hsome, hmem, (List.subperm_of_subset hnodup hmem).length_le, hroom, ?_⟩
  apply hnodup.map_on
  intro led hled led' hled' hid
  exact List.inj_on_of_nodup_map hids (hmem led hled) (hmem led' hled') hid

theorem descriptors_of_profile (hmodel : model ∈ profiles) :
    led_descriptors model MAX_LEDS = (model.leds.length, model.leds) := by
  obtain ⟨hroom, -⟩ := layouts_fit model hmodel
  unfold led_descriptors
  rw [if_neg (by omega), List.take_of_length_le hroom]

/-- Selective targets are selected without leaving the arrays. -/
theorem select_targets_fit (hmodel : model ∈ profiles) (hselective : Selective o.targets)
    (hne : o.command ≠ .led_list → o.targets ≠ []) :
    select_targets o model ≠ none ∧
      ∀ selected, select_targets o model = some (.ok selected) → Fits model selected := by
  obtain ⟨hroom, hsome, -, -⟩ := layouts_fit model hmodel
  have hcount : ¬ (model.leds.length = 0 ∨ model.leds.length > MAX_LEDS) := by
    intro h
    rcases h with h | h
    · exact hsome (List.length_eq_zero_iff.mp h)
    · omega
  unfold select_targets
  rw [descriptors_of_profile hmodel]
  simp only
  rw [if_neg hcount]
  split
  · refine ⟨by simp, ?_⟩
    intro selected hselected
    cases hselected
    exact fits_all hmodel
  · rename_i hlist
    split
    · rename_i hnil
      exact absurd hnil (hne hlist)
    · rename_i first rest hcons
      split
      · refine ⟨by simp, ?_⟩
        intro selected hselected
        cases hselected
        exact fits_all hmodel
      · have hnodup := hselective.nodup
        rw [hcons] at hnodup
        refine ⟨select_loop_in_bounds hroom hnodup (fun _ h => absurd h List.not_mem_nil), ?_⟩
        intro selected hselected
        obtain ⟨found, hfound, hnames, hmem⟩ := select_loop_names hselected
        rw [List.nil_append] at hfound
        subst hfound
        apply fits_named hmodel
        · intro hnil
          rw [hnil] at hnames
          cases hnames
        · exact hmem
        · rw [hnames]
          exact hnodup

end select

/-! ## The steps -/

section steps

variable {q : LedRequest}

theorem step_in_range {step : Nat × Nat} (h : step ∈ q.steps) :
    step.1 < q.action_count ∧ step.2 < q.leds.length := by
  unfold LedRequest.steps at h
  obtain ⟨n, hn, rfl⟩ := List.mem_map.mp h
  have hlt := List.mem_range.mp hn
  unfold LedRequest.step_of
  have hpos : 0 < q.action_count ∧ 0 < q.leds.length := by
    constructor
    · exact Nat.pos_of_ne_zero fun h0 => by simp [h0] at hlt
    · exact Nat.pos_of_ne_zero fun h0 => by simp [h0] at hlt
  split
  · exact ⟨Nat.mod_lt _ hpos.1, Nat.div_lt_of_lt_mul hlt⟩
  · rw [Nat.mul_comm] at hlt
    exact ⟨Nat.div_lt_of_lt_mul hlt, Nat.mod_lt _ hpos.2⟩

/-- A step is determined by its action and its LED. -/
theorem steps_nodup : q.steps.Nodup := by
  unfold LedRequest.steps
  apply List.Nodup.map_on _ List.nodup_range
  intro n _ n' _ hsame
  unfold LedRequest.step_of at hsame
  split at hsame
  · obtain ⟨hmod, hdiv⟩ := Prod.mk.inj hsame
    rw [← Nat.div_add_mod n q.action_count, hdiv, hmod, Nat.div_add_mod]
  · obtain ⟨hdiv, hmod⟩ := Prod.mk.inj hsame
    rw [← Nat.div_add_mod n q.leds.length, hdiv, hmod, Nat.div_add_mod]

end steps

/-! ## No index behind an end -/

def InBounds (e : Exit) : Prop := e ≠ .out_of_bounds

theorem ends_checked {α : Type} (r : Except Failure α) :
    Ends (fun _ => True) InBounds (checked r) := by
  intro c
  cases r with
  | ok a => exact trivial
  | error cause => exact fun h => by cases h

theorem ends_io (o : SessionOp) : Ends (fun _ => True) InBounds (io o) := ends_ask

theorem ends_at_index {α : Type} {xs : List α} {i : Nat} (h : i < xs.length) :
    Ends (fun x => x ∈ xs) InBounds (at_index xs i) := by
  unfold at_index
  rw [List.getElem?_eq_getElem h]
  exact ends_pure (List.getElem_mem h)

/-- A check with an exit of its own. -/
theorem ends_refusal {p : Prop} [Decidable p] {code message : String} {exit_code : Nat} :
    Ends (fun _ => True) InBounds (bail p (.refused code message exit_code) : Command Unit) :=
  (ends_bail fun _ h => by cases h).mono fun _ _ => trivial

section bounds

variable {q : LedRequest}

theorem is_status_in_bounds {a : Nat} (ha : a < q.action_count) :
    Ends (fun _ => True) InBounds (q.is_status a) := by
  unfold LedRequest.is_status
  unfold LedRequest.action_count at ha
  split
  · exact ends_pure trivial
  · rename_i hcombined
    rw [if_neg hcombined] at ha
    exact (ends_at_index ha).bind fun _ _ => ends_pure trivial

theorem patch_in_bounds {a : Nat} (ha : a < q.action_count) (led : Target) :
    Ends (fun _ => True) InBounds (q.patch a led) := by
  have hsome : ∃ patch, q.patch_value a led = some patch := by
    unfold LedRequest.patch_value
    unfold LedRequest.action_count at ha
    split
    · exact ⟨_, rfl⟩
    · rename_i hcombined
      rw [if_neg hcombined] at ha
      exact ⟨_, by rw [List.getElem?_eq_getElem ha]; rfl⟩
  obtain ⟨patch, hpatch⟩ := hsome
  unfold LedRequest.patch
  rw [hpatch]
  exact ends_pure trivial

theorem check_patch_in_bounds {a t : Nat} (ha : a < q.action_count) (ht : t < q.leds.length) :
    Ends (fun _ => True) InBounds (q.check_patch a t) := by
  unfold LedRequest.check_patch
  refine (ends_at_index ht).bind fun led _ => (patch_in_bounds ha led).seq fun patch =>
    (ends_checked _).seq fun _ => ?_
  split
  · exact ends_checked _
  · exact ends_pure trivial

theorem plan_action_in_bounds {a : Nat} (ha : a < q.action_count) (purpose : LedRequest.Purpose) :
    Ends (fun _ => True) InBounds (q.plan_action purpose a) := by
  unfold LedRequest.plan_action
  apply (is_status_in_bounds ha).seq
  intro status
  split
  · exact ends_pure trivial
  · apply (ends_each fun t ht => check_patch_in_bounds ha (List.mem_range.mp ht)).seq
    intro _
    exact ends_pure trivial

theorem read_initial_in_bounds {t : Nat} (hroom : q.leds.length ≤ MAX_LEDS)
    (ht : t < q.leds.length) : Ends (fun _ => True) InBounds (q.read_initial t) := by
  unfold LedRequest.read_initial
  apply (ends_at_index ht).bind
  intro led _
  apply (ends_bail fun hover => absurd hover (by omega)).bind
  intro _ _
  exact (ends_io _).seq fun _ => ends_checked _

theorem preflight_action_in_bounds {a : Nat} (ha : a < q.action_count) (led : Target)
    (planned : Value) : Ends (fun _ => True) InBounds (q.preflight_action led planned a) := by
  unfold LedRequest.preflight_action
  apply (is_status_in_bounds ha).seq
  intro status
  split
  · exact ends_pure trivial
  · refine (patch_in_bounds ha led).seq fun patch => (ends_io _).seq fun _ =>
      (ends_checked _).seq fun _ => ends_refusal.seq fun _ => ?_
    exact ends_pure trivial

theorem preflight_target_in_bounds {initial : List Value} (hinitial : initial.length = q.leds.length)
    {t : Nat} (ht : t < q.leds.length) :
    Ends (fun _ => True) InBounds (q.preflight_target initial t) := by
  have hplanned : t < initial.length := by omega
  unfold LedRequest.preflight_target
  apply (ends_at_index ht).bind
  intro led _
  apply (ends_at_index hplanned).bind
  intro planned _
  apply (ends_fold fun planned a ha =>
    preflight_action_in_bounds (List.mem_range.mp ha) led planned).seq
  intro _
  exact ends_pure trivial

theorem run_step_in_bounds {step : Nat × Nat} (hstep : step ∈ q.steps) :
    Ends (fun _ => True) InBounds (q.run_step step) := by
  obtain ⟨ha, ht⟩ := step_in_range hstep
  unfold LedRequest.run_step
  apply (ends_at_index ht).bind
  intro led _
  unfold LedRequest.run_action
  apply (is_status_in_bounds ha).seq
  intro status
  split
  · refine (ends_io _).seq fun _ => (ends_checked _).seq fun _ => ends_pure trivial
  · split
    · refine (patch_in_bounds ha led).seq fun patch => (ends_io _).seq fun _ =>
        (ends_checked _).seq fun _ => ends_update
    · exact ends_pure trivial

theorem run_steps_in_bounds : Ends (fun _ => True) InBounds q.run_steps := by
  unfold LedRequest.run_steps
  refine (ends_io _).seq fun _ => ends_refusal.seq fun _ => ?_
  exact ends_each fun step hstep => run_step_in_bounds hstep

theorem in_session_in_bounds (hfits : Fits q.model q.leds) (writes : Bool) :
    Ends (fun _ => True) InBounds (q.in_session writes) := by
  have hroom : q.leds.length ≤ MAX_LEDS := hfits.count.trans hfits.room
  have hsome : 0 < q.leds.length := List.length_pos_iff.mpr hfits.some_led
  unfold LedRequest.in_session
  apply (ends_collect fun t ht => read_initial_in_bounds hroom (List.mem_range.mp ht)).bind
  intro initial hinitial
  rw [List.length_range] at hinitial
  have hpreflight : Ends (fun _ => True) InBounds (q.preflight writes initial) := by
    unfold LedRequest.preflight
    split
    · exact ends_each fun t ht => preflight_target_in_bounds hinitial (List.mem_range.mp ht)
    · exact ends_pure trivial
  apply hpreflight.seq
  intro _
  split
  · exact (ends_at_index hsome).bind fun _ _ => (ends_io _).seq fun _ => ends_checked _
  · exact run_steps_in_bounds

theorem check_identify_in_bounds (hfits : Fits q.model q.leds) :
    Ends (fun _ => True) InBounds q.check_identify := by
  unfold LedRequest.check_identify
  split
  · exact (ends_at_index (List.length_pos_iff.mpr hfits.some_led)).bind fun _ _ => ends_refusal
  · exact ends_pure trivial

theorem execute_in_bounds (hfits : Fits q.model q.leds) :
    Ends (fun _ => True) InBounds q.execute := by
  unfold LedRequest.execute
  apply (check_identify_in_bounds hfits).seq
  intro _
  split
  · exact ends_pure trivial
  · apply (ends_fold fun purpose a ha =>
      plan_action_in_bounds (List.mem_range.mp ha) purpose).seq
    intro purpose
    apply ends_refusal.seq
    intro _
    unfold LedRequest.run_command
    split
    · refine (ends_io _).seq fun _ => (ends_checked _).seq fun _ => ?_
      exact ends_always (in_session_in_bounds hfits _) (ends_io _)
    · split
      · exact ends_pure trivial
      · exact run_steps_in_bounds

end bounds

/-! ## What is written -/

/-- The LEDs and patches of the writes in a log. -/
def writes (log : List (Event session_io)) : List (Nat × Patch) :=
  log.filterMap fun
    | ⟨.apply id patch, _⟩ => some (id, patch)
    | _ => none

theorem writes_append (log log' : List (Event session_io)) :
    writes (log ++ log') = writes log ++ writes log' := List.filterMap_append

def is_apply : SessionOp → Bool
  | .apply .. => true
  | _ => false

/-- Every other operation. -/
abbrev NoWrite (o : SessionOp) : Prop := is_apply o = false

/-- A procedure that never asks for a write writes nothing. -/
theorem writes_of_asks {α : Type} {m : Command α} (hm : Asks (S := session_io) NoWrite m)
    {c c' : Nat} {r : Except Exit α} {log : List (Event session_io)} (h : Logs m c r c' log) :
    writes log = [] := by
  unfold writes
  rw [List.filterMap_eq_nil_iff]
  intro event hmem
  have hask := hm.log h event hmem
  obtain ⟨o, b⟩ := event
  cases o with
  | apply id patch => cases hask
  | _ => rfl

section written

variable {q : LedRequest}

/-- What a step writes. -/
def StepWrites (q : LedRequest) (step : Nat × Nat) (write : Nat × Patch) : Prop :=
  ∃ led, q.leds[step.2]? = some led ∧ write.1 = led.id ∧ q.patch_value step.1 led = some write.2

/-- A procedure that writes for some of the steps, in their order. -/
def WritesSteps {α : Type} (q : LedRequest) (m : Command α) : Prop :=
  ∀ c r c' log, Logs m c r c' log →
    ∃ shown, shown.Sublist q.steps ∧ List.Forall₂ (StepWrites q) shown (writes log)

theorem WritesSteps.of_asks {α : Type} {m : Command α}
    (hm : Asks (S := session_io) NoWrite m) : WritesSteps q m := by
  intro c r c' log h
  rw [writes_of_asks hm h]
  exact ⟨[], List.nil_sublist _, .nil⟩

/-- Nothing is written before. -/
theorem WritesSteps.after {α β : Type} {m : Command α} {f : α → Command β}
    (hm : Asks (S := session_io) NoWrite m) (hf : ∀ a, WritesSteps q (f a)) :
    WritesSteps q (m >>= f) := by
  intro c r c' log h
  rcases h.of_bind with ⟨a, c₁, first, second, rfl, hfirst, hsecond⟩ | ⟨e, -, hfailed⟩
  · rw [writes_append, writes_of_asks hm hfirst]
    exact hf a c₁ r c' second hsecond
  · rw [writes_of_asks hm hfailed]
    exact ⟨[], List.nil_sublist _, .nil⟩

theorem asks_checked {α : Type} (r : Except Failure α) :
    Asks (S := session_io) NoWrite (checked r) := by
  apply asks_ctx.bind
  intro completed
  cases r with
  | ok a => exact asks_pure a
  | error cause => exact asks_fail _

theorem asks_at_index {α : Type} (xs : List α) (i : Nat) :
    Asks (S := session_io) NoWrite (at_index xs i) := by
  unfold at_index
  cases xs[i]? with
  | some x => exact asks_pure x
  | none => exact asks_fail _

theorem asks_io {o : SessionOp} (h : NoWrite o) :
    Asks (S := session_io) NoWrite (io o) := asks_ask h

theorem asks_is_status (a : Nat) :
    Asks (S := session_io) NoWrite (q.is_status a) := by
  unfold LedRequest.is_status
  split
  · exact asks_pure _
  · exact (asks_at_index _ _).bind fun _ => asks_pure _

theorem asks_patch (a : Nat) (led : Target) :
    Asks (S := session_io) NoWrite (q.patch a led) := by
  unfold LedRequest.patch
  cases q.patch_value a led with
  | some patch => exact asks_pure patch
  | none => exact asks_fail _

/-- What an action writes for one LED. -/
theorem run_action_writes {a : Nat} {led : Target} {c c' : Nat} {r : Except Exit Unit}
    {log : List (Event session_io)} (h : Logs (q.run_action a led) c r c' log) :
    writes log = [] ∨
      ∃ patch, q.patch_value a led = some patch ∧ writes log = [(led.id, patch)] := by
  unfold LedRequest.run_action at h
  rcases h.of_bind with ⟨status, c₁, first, second, rfl, hfirst, hsecond⟩ | ⟨e, -, hfailed⟩
  · rw [writes_append, writes_of_asks (asks_is_status a) hfirst, List.nil_append]
    split at hsecond
    · obtain ⟨result, rest, rfl, hrest⟩ := Logs.of_ask_then hsecond
      have hsilent := writes_of_asks ((asks_checked result).bind fun _ => asks_pure ()) hrest
      exact .inl hsilent
    split at hsecond
    · unfold LedRequest.patch at hsecond
      cases hpatch : q.patch_value a led with
      | none =>
        rw [hpatch] at hsecond
        exact .inl (writes_of_asks (asks_fail _) hsecond)
      | some patch =>
        rw [hpatch] at hsecond
        obtain ⟨result, rest, rfl, hrest⟩ := Logs.of_ask_then hsecond
        have hsilent := writes_of_asks ((asks_checked result).bind fun _ => asks_update _) hrest
        refine .inr ⟨patch, rfl, ?_⟩
        show (led.id, patch) :: writes rest = [(led.id, patch)]
        rw [hsilent]
    · exact .inl (writes_of_asks (asks_pure ()) hsecond)
  · exact .inl (writes_of_asks (asks_is_status a) hfailed)

/-- The step lemma: a step writes its own patch to its own LED, or nothing. -/
theorem run_step_writes {step : Nat × Nat} {c c' : Nat} {r : Except Exit Unit}
    {log : List (Event session_io)} (h : Logs (q.run_step step) c r c' log) :
    writes log = [] ∨ ∃ write, StepWrites q step write ∧ writes log = [write] := by
  unfold LedRequest.run_step at_index at h
  cases hled : q.leds[step.2]? with
  | none =>
    rw [hled] at h
    exact .inl (writes_of_asks (asks_fail _) h)
  | some led =>
    rw [hled] at h
    rcases run_action_writes h with hnone | ⟨patch, hpatch, hwrite⟩
    · exact .inl hnone
    · exact .inr ⟨(led.id, patch), ⟨led, hled, rfl, hpatch⟩, hwrite⟩

theorem run_steps_write : WritesSteps q q.run_steps := by
  unfold LedRequest.run_steps
  apply WritesSteps.after (asks_io rfl)
  intro records
  apply WritesSteps.after (asks_bail _ _)
  intro _ c r c' log h
  exact Logs.each_sublist rfl writes_append
    (fun step _ c r c' log hstep => run_step_writes hstep) h

theorem asks_read_initial (t : Nat) :
    Asks (S := session_io) NoWrite (q.read_initial t) := by
  unfold LedRequest.read_initial
  exact (asks_at_index _ _).bind fun _ => (asks_bail _ _).bind fun _ =>
    (asks_io rfl).bind fun _ => asks_checked _

theorem asks_preflight_action (led : Target) (planned : Value) (a : Nat) :
    Asks (S := session_io) NoWrite (q.preflight_action led planned a) := by
  unfold LedRequest.preflight_action
  apply (asks_is_status a).bind
  intro status
  split
  · exact asks_pure _
  · exact (asks_patch a led).bind fun _ => (asks_io rfl).bind fun _ =>
      (asks_checked _).bind fun _ => (asks_bail _ _).bind fun _ => asks_pure _

theorem asks_preflight (writes : Bool) (initial : List Value) :
    Asks (S := session_io) NoWrite (q.preflight writes initial) := by
  unfold LedRequest.preflight
  split
  · apply asks_each
    intro t
    unfold LedRequest.preflight_target
    exact (asks_at_index _ _).bind fun led => (asks_at_index _ _).bind fun planned =>
      (asks_fold fun planned a => asks_preflight_action led planned a).bind fun _ => asks_pure _
  · exact asks_pure _

theorem asks_check_patch (a t : Nat) :
    Asks (S := session_io) NoWrite (q.check_patch a t) := by
  unfold LedRequest.check_patch
  refine (asks_at_index _ _).bind fun led => (asks_patch a led).bind fun patch =>
    (asks_checked _).bind fun _ => ?_
  split
  · exact asks_checked _
  · exact asks_pure _

theorem asks_plan_action (purpose : LedRequest.Purpose) (a : Nat) :
    Asks (S := session_io) NoWrite (q.plan_action purpose a) := by
  unfold LedRequest.plan_action
  apply (asks_is_status a).bind
  intro status
  split
  · exact asks_pure _
  · exact (asks_each fun t => asks_check_patch a t).bind fun _ => asks_pure _

theorem in_session_writes (writes : Bool) : WritesSteps q (q.in_session writes) := by
  unfold LedRequest.in_session
  apply WritesSteps.after (asks_collect fun t => asks_read_initial t)
  intro initial
  apply WritesSteps.after (asks_preflight writes initial)
  intro _
  split
  · apply WritesSteps.of_asks
    unfold LedRequest.identify_led
    exact (asks_at_index _ _).bind fun _ => (asks_io rfl).bind fun _ => asks_checked _
  · exact run_steps_write

/-- Closing writes nothing either. -/
theorem WritesSteps.always {m : Command Unit} (hm : WritesSteps q m) :
    WritesSteps q (always m (io .close)) := by
  intro c r c' log h
  unfold Proc.always at h
  rcases h.of_bind with ⟨x, c₁, first, second, rfl, hfirst, hsecond⟩ | ⟨e, -, hfailed⟩
  · obtain ⟨x', -, hbody⟩ := hfirst.of_attempt
    obtain ⟨shown, hsub, hshown⟩ := hm _ _ _ _ hbody
    have hclose := (asks_io (o := .close) rfl).bind fun _ => asks_lift x
    rw [writes_append, writes_of_asks hclose hsecond, List.append_nil]
    exact ⟨shown, hsub, hshown⟩
  · obtain ⟨x', -, hbody⟩ := hfailed.of_attempt
    exact hm _ _ _ _ hbody

theorem execute_writes : WritesSteps q q.execute := by
  have hcheck : Asks (S := session_io) NoWrite q.check_identify := by
    unfold LedRequest.check_identify
    split
    · exact (asks_at_index _ _).bind fun _ => asks_bail _ _
    · exact asks_pure ()
  unfold LedRequest.execute
  apply WritesSteps.after hcheck
  intro _
  split
  · exact WritesSteps.of_asks (asks_pure ())
  · apply WritesSteps.after (asks_fold fun purpose a => asks_plan_action purpose a)
    intro purpose
    apply WritesSteps.after (asks_bail _ _)
    intro _
    unfold LedRequest.run_command
    split
    · apply WritesSteps.after (asks_io rfl)
      intro result
      apply WritesSteps.after (asks_checked result)
      intro _
      exact (in_session_writes _).always
    · split
      · exact WritesSteps.of_asks (asks_pure ())
      · exact run_steps_write

end written

/-! ## The whole command -/

/-- The profile of a detected machine is one of the built-in ones. -/
def BuiltIn : Event session_io → Prop
  | ⟨.detect, .ok model⟩ => model ∈ profiles
  | _ => True

/-- The steps that wrote, with their LEDs. -/
theorem done_of_shown {q : LedRequest} {shown : List (Nat × Nat)} {written : List (Nat × Patch)}
    (hshown : List.Forall₂ (StepWrites q) shown written) :
    ∃ done : List (Nat × Target),
      done.map (fun d => (d.1, some d.2.id)) =
        shown.map (fun step => (step.1, q.leds[step.2]?.map fun led => led.id)) ∧
      List.Forall₂ (fun d write => write.1 = d.2.id ∧ q.patch_value d.1 d.2 = some write.2)
        done written := by
  induction hshown with
  | nil => exact ⟨[], rfl, .nil⟩
  | @cons step write _ _ hstep _ ih =>
    obtain ⟨done, hsame, hdone⟩ := ih
    obtain ⟨led, hled, hid, hpatch⟩ := hstep
    refine ⟨(step.1, led) :: done, ?_, .cons ⟨hid, hpatch⟩ hdone⟩
    rw [List.map_cons, List.map_cons, hsame, hled]
    rfl

/-- No action writes an LED twice: its steps are for different LEDs, and
    these have different numbers. -/
theorem shown_distinct {q : LedRequest} (hfits : Fits q.model q.leds) {shown : List (Nat × Nat)}
    (hsub : shown.Sublist q.steps) :
    (shown.map fun step => (step.1, q.leds[step.2]?.map fun led => led.id)).Nodup := by
  apply (hsub.nodup steps_nodup).map_on
  intro step hstep step' hstep' hsame
  obtain ⟨haction, hid⟩ := Prod.mk.inj hsame
  have ht := (step_in_range (hsub.subset hstep)).2
  have ht' := (step_in_range (hsub.subset hstep')).2
  rw [List.getElem?_eq_getElem ht, List.getElem?_eq_getElem ht'] at hid
  have hsame_id : q.leds[step.2].id = q.leds[step'.2].id := Option.some.inj hid
  have hled : q.leds[step.2] = q.leds[step'.2] :=
    List.inj_on_of_nodup_map hfits.distinct (List.getElem_mem ht) (List.getElem_mem ht') hsame_id
  have hindex : step.2 = step'.2 :=
    (List.Nodup.getElem_inj_iff (List.Nodup.of_map _ hfits.distinct)).mp hled
  exact Prod.ext haction hindex

theorem writes_distinct {q : LedRequest} (hfits : Fits q.model q.leds) {shown : List (Nat × Nat)}
    {written : List (Nat × Patch)} (hsub : shown.Sublist q.steps)
    (hshown : List.Forall₂ (StepWrites q) shown written) :
    ∃ done : List (Nat × Target), (done.map fun d => (d.1, d.2.id)).Nodup ∧
      List.Forall₂ (fun d write => write.1 = d.2.id ∧ q.patch_value d.1 d.2 = some write.2)
        done written := by
  obtain ⟨done, hsame, hdone⟩ := done_of_shown hshown
  have hnodup := shown_distinct hfits hsub
  rw [← hsame] at hnodup
  refine ⟨done, ?_, hdone⟩
  apply List.Nodup.of_map (fun pair => (pair.1, some pair.2))
  rw [List.map_map]
  exact hnodup

theorem of_checked_then {α β : Type} {x : Except Failure α} {f : α → Command β} {c c' : Nat}
    {r : Except Exit β} {log : List (Event session_io)} (h : Logs (checked x >>= f) c r c' log) :
    (∃ a, x = .ok a ∧ Logs (f a) c r c' log) ∨
      ∃ cause completed, r = .error (.backend cause completed) ∧ log = [] := by
  cases x with
  | ok a => exact .inl ⟨a, rfl, h⟩
  | error cause =>
    obtain ⟨hr, -, hlog⟩ := Logs.of_fail (α := β) (e := Exit.backend cause c) h
    exact .inr ⟨cause, c, hr, hlog⟩

/-- A run of the command ends before the selection, or is a run behind it. -/
theorem led_execute_cases {o : HardwareOptions} {c c' : Nat} {r : Except Exit Unit}
    {log : List (Event session_io)} (h : Logs (led_execute o) c r c' log) :
    (r ≠ .error .out_of_bounds ∧ writes log = []) ∨
      ∃ model rest, log = ⟨.detect, .ok model⟩ :: rest ∧ (select_targets o model = none ∨
        ∃ leds, select_targets o model = some (.ok leds) ∧
          Logs (LedRequest.execute ⟨o, model, leds⟩) c r c' rest) := by
  obtain ⟨detected, rest, rfl, hdetected⟩ := Logs.of_ask_then h
  rcases of_checked_then hdetected with ⟨model, rfl, hmodel⟩ | ⟨cause, completed, rfl, rfl⟩
  · by_cases hdirect : o.n76_direct = true ∧ model.protocol ≠ "sysfs-n76"
    · rw [bail_pos hdirect] at hmodel
      obtain ⟨rfl, -, rfl⟩ := Logs.of_fail hmodel
      exact .inl ⟨fun h => (by cases h), rfl⟩
    · rw [bail_neg hdirect] at hmodel
      cases hselect : select_targets o model with
      | none => exact .inr ⟨model, rest, rfl, .inl hselect⟩
      | some selected =>
        rw [hselect] at hmodel
        rcases of_checked_then hmodel with ⟨leds, rfl, hleds⟩ | ⟨cause, completed, rfl, rfl⟩
        · exact .inr ⟨model, rest, rfl, .inr ⟨leds, hselect, hleds⟩⟩
        · exact .inl ⟨fun h => (by cases h), rfl⟩
  · exact .inl ⟨fun h => (by cases h), rfl⟩

def blink_two : List Text :=
  ["ugreenctl", "led", "set", "power", "--apply", "disk1", "power", "--mode", "blink"]

end UgreenNas.Core
