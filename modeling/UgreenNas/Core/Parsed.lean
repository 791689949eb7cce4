import UgreenNas.Core.HardwareCli

/-! # What the parser accepts

    One lemma for each function of the parser says what it can have done when
    it succeeds.  Invariants of the loops follow from them.
-/

namespace UgreenNas.Core

open DiskMap Led

/-- A parsing step that succeeds after another one that succeeds. -/
theorem ok_of_bind {α β : Type} {x : Except ParseError α} {f : α → Except ParseError β} {b : β}
    (h : x >>= f = .ok b) : ∃ a, x = .ok a ∧ f a = .ok b := by
  cases x with
  | error e => cases h
  | ok a => exact ⟨a, rfl, h⟩

/-! ## Values -/

theorem number_le {text : Text} {maximum n : Nat} (h : number text maximum = some n) :
    n ≤ maximum := by
  unfold number at h
  split at h
  · cases h
  · -- the bound is checked at every digit
    have hfold : ∀ (text : Text) (value : Nat), value ≤ maximum →
        text.foldlM (fun value c =>
          if !isdigit c then none
          else if value * 10 + digit_value c > maximum then none
          else some (value * 10 + digit_value c)) value = some n → n ≤ maximum := by
      intro text
      induction text with
      | nil =>
        intro value hvalue hn
        rw [← Option.some.inj hn]
        exact hvalue
      | cons c rest ih =>
        intro value hvalue hn
        rw [List.foldlM_cons] at hn
        split at hn
        · cases hn
        · split at hn
          · cases hn
          · exact ih _ (by omega) hn
    exact hfold text 0 (Nat.zero_le _) h

theorem brightness_le {text : Text} {level : UInt8} (h : brightness text = some level)
    (hpercent : text.getLast? = some '%') : level.toNat ≤ 100 := by
  unfold brightness at h
  rw [if_pos hpercent] at h
  split at h
  · cases h
  · obtain ⟨n, hn, rfl⟩ := Option.map_eq_some_iff.mp h
    have hle := number_le hn
    rw [UInt8.toNat_ofNat']
    omega

/-! ## Actions -/

/-- What every action of a parsed command satisfies. -/
structure CliAction.Valid (a : CliAction) : Prop where
  color : a.color ≤ COLOR_MAX
  percent : a.brightness_percent = true → a.brightness.toNat ≤ 100
  cycle : a.on_ms.toNat + a.off_ms.toNat ≤ 65535

theorem colors_known : ∀ entry ∈ colors, entry.2.2.2.2.getD COLOR_NONE ≤ COLOR_MAX := by
  decide

theorem palette_known : ∀ entry ∈ palette, entry.2 ≤ COLOR_MAX := by
  decide

/-- A colour sets nothing but the colour. -/
theorem color_ok {text : Text} {a : CliAction} (h : color text {} = some a) :
    ∃ red green blue named color, color ≤ COLOR_MAX ∧
      a = { red := red, green := green, blue := blue, named_color := named, color := color } := by
  have hnone : COLOR_NONE ≤ COLOR_MAX := by decide
  unfold color at h
  split at h
  · rename_i hentry
    obtain rfl := Option.some.inj h
    exact ⟨_, _, _, _, _, colors_known _ (List.mem_of_find?_eq_some hentry), rfl⟩
  · obtain rfl := Option.some.inj h
    exact ⟨_, _, _, _, _, hnone, rfl⟩
  · split at h
    · rename_i hentry
      obtain rfl := Option.some.inj h
      exact ⟨_, _, _, _, _, palette_known _ (List.mem_of_find?_eq_some hentry), rfl⟩
    · split at h
      · obtain ⟨red, -, h⟩ := Option.bind_eq_some_iff.mp h
        obtain ⟨green, -, h⟩ := Option.bind_eq_some_iff.mp h
        obtain ⟨blue, -, h⟩ := Option.bind_eq_some_iff.mp h
        obtain rfl := Option.some.inj h
        exact ⟨_, _, _, _, _, hnone, rfl⟩
      · split at h
        · cases h
        · obtain ⟨_, -, h⟩ := Option.bind_eq_some_iff.mp h
          obtain ⟨_, -, h⟩ := Option.bind_eq_some_iff.mp h
          obtain ⟨r, -, h⟩ := Option.bind_eq_some_iff.mp h
          obtain ⟨g, -, h⟩ := Option.bind_eq_some_iff.mp h
          obtain ⟨b, -, h⟩ := Option.bind_eq_some_iff.mp h
          obtain rfl := Option.some.inj h
          exact ⟨_, _, _, _, _, hnone, rfl⟩

/-! ## Targets and actions -/

/-- What `target` does to the options: nothing, or one more target. -/
theorem target_ok {o o' : HardwareOptions} {value : Text} (h : target o value = .ok o') :
    o' = o ∨ (o' = { o with targets := o.targets ++ [value] } ∧
      ∀ t ∈ o.targets, t ≠ value ∧ t ≠ ("all" : Text) ∧ value ≠ ("all" : Text)) := by
  unfold target at h
  split at h
  · cases h
  · split at h
    · split at h
      · exact .inl (Except.ok.inj h).symm
      · cases h
    · rename_i hnone
      split at h
      · cases h
      · refine .inr ⟨(Except.ok.inj h).symm, ?_⟩
        intro t ht
        have hother := List.find?_eq_none.mp hnone t ht
        simpa [not_or] using hother

theorem target_actions {o o' : HardwareOptions} {value : Text} (h : target o value = .ok o') :
    o'.actions = o.actions := by
  rcases target_ok h with rfl | ⟨rfl, -⟩ <;> rfl

theorem target_command {o o' : HardwareOptions} {value : Text} (h : target o value = .ok o') :
    o'.command = o.command := by
  rcases target_ok h with rfl | ⟨rfl, -⟩ <;> rfl

theorem add_action_ok {o o' : HardwareOptions} {action : CliAction}
    (h : add_action o action = .ok o') : o' = { o with actions := o.actions ++ [action] } := by
  unfold add_action at h
  split at h
  · cases h
  · exact (Except.ok.inj h).symm

/-! ## The legacy grammar -/

/-- A period that fits into the two fields of an action. -/
theorem period_fits {on off : Nat} (h : ¬ (on + off > 65535 ∨ on + off = 0)) :
    (UInt16.ofNat on).toNat + (UInt16.ofNat off).toNat ≤ 65535 := by
  simp only [UInt16.toNat_ofNat']
  omega

/-- The legacy flags make valid actions. -/
theorem legacy_flag_valid {arg : Text} {rest : List Text} {action : CliAction} {used : Nat}
    (h : legacy_flag arg rest = .ok (action, used)) : action.Valid := by
  have hnone : COLOR_NONE ≤ COLOR_MAX := by decide
  have hpercent : false = true → (0 : UInt8).toNat ≤ 100 := fun h => by cases h
  unfold legacy_flag at h
  split at h
  · cases h
    exact ⟨hnone, hpercent, by decide⟩
  split at h
  · cases h
    exact ⟨hnone, hpercent, by decide⟩
  split at h
  · cases h
    exact ⟨hnone, hpercent, by decide⟩
  split at h
  · -- `-color`
    split at h
    · split at h
      · cases h
        exact ⟨hnone, hpercent, by simp⟩
      · cases h
    · cases h
  split at h
  · -- `-brightness`
    split at h
    · cases h
      exact ⟨hnone, fun h => (by cases h), by simp⟩
    · cases h
  split at h
  · -- `-blink` and `-breath`
    split at h
    · split at h
      · split at h
        · cases h
        · rename_i hperiod
          cases h
          exact ⟨hnone, hpercent, period_fits hperiod⟩
      · cases h
    · cases h
  · cases h

/-- What one argument does in the legacy grammar: it is a target, or it adds
    a valid action. -/
theorem compat_arg_cases {o o' : HardwareOptions} {arg : Text} {rest : List Text} {used : Nat}
    (h : compat_arg o arg rest = .ok (o', used)) :
    target o arg = .ok o' ∨
      ∃ action : CliAction, action.Valid ∧ o' = { o with actions := o.actions ++ [action] } := by
  unfold compat_arg at h
  split at h
  · split at h
    · cases h
    · obtain ⟨o₁, htarget, h⟩ := ok_of_bind h
      cases h
      exact .inl htarget
  · obtain ⟨⟨action, used'⟩, hflag, h⟩ := ok_of_bind h
    obtain ⟨o₁, hadd, h⟩ := ok_of_bind h
    cases h
    exact .inr ⟨action, legacy_flag_valid hflag, add_action_ok hadd⟩

/-- What every argument preserves, the loop preserves. -/
theorem compat_loop_invariant {I : HardwareOptions → Prop}
    (harg : ∀ o o' arg rest used, compat_arg o arg rest = .ok (o', used) → I o → I o')
    {args : List Text} {skip : Nat} {o o' : HardwareOptions}
    (h : compat_loop o skip args = .ok o') (ho : I o) : I o' := by
  induction args generalizing o skip with
  | nil =>
    cases h
    exact ho
  | cons arg rest ih =>
    cases skip with
    | succ skip => exact ih h ho
    | zero =>
      unfold compat_loop at h
      split at h
      · cases h
      · rename_i o₁ used hone
        exact ih h (harg o o₁ arg rest used hone ho)

/-- Behind the loop there is a target, and an action. -/
theorem compat_parse_cases {args : List Text} {o o' : HardwareOptions}
    (h : compat_parse args o = .ok o') :
    ∃ o₁, compat_loop o 0 args = .ok o₁ ∧ o₁.targets ≠ [] ∧
      (o' = o₁ ∨ o' = { o₁ with actions := o₁.actions ++ [{ kind := .status }] }) := by
  obtain ⟨o₁, hloop, h⟩ := ok_of_bind h
  split at h
  · cases h
  · rename_i hsome
    refine ⟨o₁, hloop, fun hnil => hsome (by rw [hnil]; rfl), ?_⟩
    split at h
    · exact .inr (add_action_ok h)
    · exact .inl (Except.ok.inj h).symm

/-! ## The subcommands -/

/-- What an option of `led set` does. -/
inductive SetOption (s : NewState) : Text → Text → NewState → Prop where
  | color {value : Text} {a : CliAction} : color value {} = some a →
      SetOption s "--color" value
        { s with o := { s.o with actions := s.o.actions ++ [{ a with kind := .color }] } }
  | brightness {value : Text} {level : UInt8} : brightness value = some level →
      SetOption s "--brightness" value
        { s with o := { s.o with actions := s.o.actions ++
          [{ kind := .brightness, brightness := level,
             brightness_percent := value.getLast? = some '%' }] } }
  | mode {value : Text} {kind : ActionKind} : s.mode_seen = false → mode_kind value = .ok kind →
      SetOption s "--mode" value
        { s with mode := { s.mode with kind := kind }, mode_seen := true }
  | on_ms {value : Text} {ms : Nat} : number value 65535 = some ms →
      SetOption s "--on-ms" value { s with on := ms, timing_seen := true }
  | off_ms {value : Text} {ms : Nat} : number value 65535 = some ms →
      SetOption s "--off-ms" value { s with off := ms, timing_seen := true }

theorem set_option_of_cases {s s' : NewState} {arg : Text} {value : Option Text}
    (h : set_option_of s arg value = .ok s') :
    ∃ text, value = some text ∧ SetOption s arg text s' := by
  unfold set_option_of at h
  split at h
  · rename_i harg
    subst harg
    split at h
    · cases h
    · rename_i a hcolor
      obtain ⟨text, hvalue, htext⟩ := Option.bind_eq_some_iff.mp hcolor
      obtain ⟨o, hadd, h⟩ := ok_of_bind h
      cases h
      rw [add_action_ok hadd]
      exact ⟨text, hvalue, .color htext⟩
  split at h
  · rename_i harg
    subst harg
    split at h
    · rename_i text level hlevel
      obtain ⟨o, hadd, h⟩ := ok_of_bind h
      cases h
      rw [add_action_ok hadd]
      exact ⟨text, rfl, .brightness hlevel⟩
    · cases h
  split at h
  · rename_i harg
    subst harg
    split at h
    · cases h
    · rename_i hseen
      split at h
      · cases h
      · rename_i text
        obtain ⟨kind, hkind, h⟩ := ok_of_bind h
        cases h
        exact ⟨text, rfl, .mode (Bool.not_eq_true _ ▸ hseen) hkind⟩
  split at h
  · rename_i harg
    split at h
    · cases h
    · rename_i ms hms
      obtain ⟨text, hvalue, htext⟩ := Option.bind_eq_some_iff.mp hms
      split at h
      · rename_i hon
        subst hon
        cases h
        exact ⟨text, hvalue, .on_ms htext⟩
      · rename_i hoff
        obtain rfl := harg.resolve_left hoff
        cases h
        exact ⟨text, hvalue, .off_ms htext⟩
  · cases h

/-- What the words of one argument do: a target, the time of `identify` and
    `locate`, or an option of `led set`. -/
inductive ReadsItem (verb : Text) (s : NewState) : List Text → NewState → Prop where
  | target {arg : Text} {s' : NewState} : is_option arg = false → new_target s arg = .ok s' →
      ReadsItem verb s [arg] s'
  | seconds {value : Text} {n : Nat} :
      s.o.command = .led_identify ∨ s.o.command = .disk_locate → number value 60 = some n →
      ReadsItem verb s ["--seconds".toList, value] { s with o := { s.o with seconds := n } }
  | option {arg value : Text} {s' : NewState} : s.o.command = .led_set → verb = "set" →
      SetOption s arg value s' → ReadsItem verb s [arg, value] s'

theorem new_arg_cases {verb : Text} {s s' : NewState} {arg : Text} {rest : List Text} {used : Nat}
    (h : new_arg verb s arg rest = .ok (s', used)) :
    ReadsItem verb s (arg :: rest.take used) s' ∧ (used = 0 ∨ used = 1 ∧ rest ≠ []) := by
  unfold new_arg at h
  split at h
  · rename_i hoption
    obtain ⟨s₁, htarget, h⟩ := ok_of_bind h
    cases h
    exact ⟨.target (by simpa using hoption) htarget, .inl rfl⟩
  split at h
  · rename_i hseconds
    split at h
    · cases h
    · cases h
    · rename_i n _ hn
      obtain ⟨value, hvalue, hnumber⟩ := Option.bind_eq_some_iff.mp hn
      obtain ⟨rest', rfl⟩ : ∃ rest', rest = value :: rest' := by
        cases rest with
        | nil => cases hvalue
        | cons first rest' => exact ⟨rest', by rw [Option.some.inj hvalue]⟩
      cases h
      rw [hseconds.1]
      exact ⟨.seconds hseconds.2 hnumber, .inr ⟨rfl, List.cons_ne_nil _ _⟩⟩
  split at h
  · cases h
  · rename_i hset
    simp only [not_or, ne_eq, not_not] at hset
    obtain ⟨s₁, hoption, hdone⟩ := ok_of_bind h
    obtain ⟨value, hvalue, hs₁⟩ := set_option_of_cases hoption
    cases rest with
    | nil => cases hvalue
    | cons first rest' =>
      cases hdone
      obtain rfl := Option.some.inj hvalue
      exact ⟨.option hset.1 hset.2 hs₁, .inr ⟨rfl, List.cons_ne_nil _ _⟩⟩

/-- What several arguments do, one after the other. -/
inductive ReadsItems (verb : Text) : NewState → List (List Text) → NewState → Prop where
  | nil {s : NewState} : ReadsItems verb s [] s
  | cons {s s₁ s' : NewState} {item : List Text} {items : List (List Text)} :
      ReadsItem verb s item s₁ → ReadsItems verb s₁ items s' →
      ReadsItems verb s (item :: items) s'

/-- The loop of `new_parse` divides the arguments. -/
theorem new_loop_items {verb : Text} {args : List Text} {s s' : NewState}
    (h : new_loop verb s 0 args = .ok s') :
    ∃ items : List (List Text), args = items.flatten ∧ ReadsItems verb s items s' := by
  induction hlength : args.length using Nat.strongRecOn generalizing args s with
  | ind n ih =>
    cases args with
    | nil =>
      cases h
      exact ⟨[], rfl, .nil⟩
    | cons arg rest =>
      unfold new_loop at h
      split at h
      · cases h
      · rename_i s₁ used harg
        obtain ⟨hitem, rfl | ⟨rfl, hrest⟩⟩ := new_arg_cases harg
        · obtain ⟨items, hitems, hreads⟩ := ih rest.length (by rw [← hlength]; simp) h rfl
          exact ⟨[arg] :: items, by rw [List.flatten_cons, ← hitems]; rfl, .cons hitem hreads⟩
        · cases rest with
          | nil => exact absurd rfl hrest
          | cons value rest =>
            obtain ⟨items, hitems, hreads⟩ :=
              ih rest.length (by rw [← hlength]; simp only [List.length_cons]; omega) h rfl
            exact ⟨[arg, value] :: items, by rw [List.flatten_cons, ← hitems]; rfl,
              .cons hitem hreads⟩

/-- What every argument preserves, all of them preserve. -/
theorem ReadsItems.invariant {verb : Text} {I : NewState → Prop}
    (hitem : ∀ s item s', ReadsItem verb s item s' → I s → I s') {s s' : NewState}
    {items : List (List Text)} (h : ReadsItems verb s items s') (hs : I s) : I s' := by
  induction h with
  | nil => exact hs
  | cons hfirst _ ih => exact ih (hitem _ _ _ hfirst hs)

/-- A target of an LED command goes through `target`. -/
theorem new_target_cases {s s' : NewState} {arg : Text} (h : new_target s arg = .ok s') :
    (s.o.command = .disk_locate ∧
        s' = { s with o := { s.o with targets := s.o.targets ++ [arg] } }) ∨
      ∃ o, target s.o arg = .ok o ∧ s' = { s with o := o } := by
  unfold new_target at h
  split at h
  · rename_i hlocate
    split at h
    · cases h
    · exact .inl ⟨hlocate, (Except.ok.inj h).symm⟩
  split at h
  · cases h
  · obtain ⟨o, htarget, hdone⟩ := ok_of_bind h
    exact .inr ⟨o, htarget, (Except.ok.inj hdone).symm⟩

/-- The command is decided before the first argument. -/
theorem ReadsItem.command {verb : Text} {s s' : NewState} {item : List Text}
    (h : ReadsItem verb s item s') : s'.o.command = s.o.command := by
  cases h with
  | target _ htarget =>
    rcases new_target_cases htarget with ⟨-, rfl⟩ | ⟨o, ho, rfl⟩
    · rfl
    · exact target_command ho
  | seconds => rfl
  | option _ _ hoption => cases hoption <;> rfl

theorem ReadsItems.command {verb : Text} {s s' : NewState} {items : List (List Text)}
    (h : ReadsItems verb s items s') : s'.o.command = s.o.command := by
  induction h with
  | nil => rfl
  | cons hitem _ ih => exact ih.trans hitem.command

/-- The words in front of the arguments name a subcommand, and no effect. -/
theorem new_command_ok {disk : Bool} {verb : Text} {command : HardwareCommand}
    {mode : Option ActionKind} (h : new_command disk verb = .ok (command, mode)) :
    command ≠ .led_compat ∧ (mode = none ∨ mode = some .on ∨ mode = some .off) := by
  unfold new_command at h
  split at h
  · split at h
    · cases h
      simp
    split at h
    · cases h
      simp
    · cases h
  split at h
  · cases h
    simp
  split at h
  · cases h
    simp
  split at h
  · cases h
    simp
  split at h
  · cases h
    simp
  split at h
  · cases h
    simp
  split at h
  · cases h
    simp
  · cases h

/-- Behind the loop, for `led set`, `led on` and `led off`. -/
theorem finish_set_cases {s : NewState} {o : HardwareOptions} (h : finish_set s = .ok o) :
    s.o.targets ≠ [] ∧ o.actions ≠ [] ∧
      ((s.mode_seen = false ∧ o = s.o) ∨
        (s.mode_seen = true ∧ ¬ (s.on + s.off > 65535 ∨ s.on + s.off = 0) ∧
          o = { s.o with actions := s.o.actions ++
            [{ s.mode with on_ms := .ofNat s.on, off_ms := .ofNat s.off }] })) := by
  unfold finish_set at h
  split at h
  · cases h
  rename_i htargets
  split at h
  · cases h
  obtain ⟨o₁, hmode, h⟩ := ok_of_bind h
  split at h
  · cases h
  rename_i hactions
  obtain rfl := Except.ok.inj h
  refine ⟨fun hnil => htargets (by rw [hnil]; rfl), fun hnil => hactions (by rw [hnil]; rfl), ?_⟩
  unfold finish_mode at hmode
  split at hmode
  · rename_i hseen
    split at hmode
    · cases hmode
    · rename_i hperiod
      exact .inr ⟨hseen, hperiod, add_action_ok hmode⟩
  · rename_i hseen
    exact .inl ⟨by simpa using hseen, (Except.ok.inj hmode).symm⟩

theorem new_finish_cases {s : NewState} {o : HardwareOptions} (h : new_finish s = .ok o) :
    (s.o.command = .led_set ∧ finish_set s = .ok o) ∨
      (s.o.command = .led_status ∧ s.o.targets = [] ∧
        o = { s.o with targets := [("all" : Text)] }) ∨
      (o = s.o ∧ s.o.command ≠ .led_set ∧ (s.o.command = .led_status → s.o.targets ≠ []) ∧
        (s.o.command = .led_identify → s.o.targets.length = 1)) := by
  unfold new_finish at h
  split at h
  · cases h
  rename_i hidentify
  split at h
  · rename_i hstatus
    exact .inr (.inl ⟨hstatus.1, List.length_eq_zero_iff.mp hstatus.2, (Except.ok.inj h).symm⟩)
  rename_i hstatus
  split at h
  · rename_i hset
    exact .inl ⟨hset, h⟩
  · rename_i hset
    refine .inr (.inr ⟨(Except.ok.inj h).symm, hset, ?_, ?_⟩)
    · intro hcommand hnil
      exact hstatus ⟨hcommand, by rw [hnil]; rfl⟩
    · intro hcommand
      by_contra hone
      exact hidentify ⟨.inl hcommand, .inl hone⟩

/-! ## All arguments -/

/-- A command that is neither help nor about disks. -/
def HardwareCommand.is_led : HardwareCommand → Bool
  | .led_list | .led_status | .led_set | .led_identify | .led_compat => true
  | _ => false

/-- The first pass adds neither targets nor actions. -/
theorem global_arg_ok {g g' : Globals} {arg : Text} {rest : List Text} {used : Nat}
    (h : global_arg g arg rest = .ok (g', used)) :
    g'.o.targets = g.o.targets ∧ g'.o.actions = g.o.actions := by
  unfold global_arg at h
  split at h
  · cases h
    exact ⟨rfl, rfl⟩
  split at h
  · cases h
    exact ⟨rfl, rfl⟩
  split at h
  · cases h
    exact ⟨rfl, rfl⟩
  split at h
  · split at h
    · cases h
    · obtain ⟨⟨bus, address⟩, -, h⟩ := ok_of_bind h
      cases h
      exact ⟨rfl, rfl⟩
  split at h
  · split at h
    · cases h
    · cases h
      exact ⟨rfl, rfl⟩
  split at h
  · split at h
    · cases h
    · cases h
      exact ⟨rfl, rfl⟩
  split at h
  · cases h
    exact ⟨rfl, rfl⟩
  · cases h
    exact ⟨rfl, rfl⟩

theorem global_loop_ok {args : List Text} {skip : Nat} {g g' : Globals}
    (h : global_loop g skip args = .ok g') :
    g'.o.targets = g.o.targets ∧ g'.o.actions = g.o.actions := by
  induction args generalizing g skip with
  | nil =>
    cases h
    exact ⟨rfl, rfl⟩
  | cons arg rest ih =>
    cases skip with
    | succ skip => exact ih h
    | zero =>
      unfold global_loop at h
      split at h
      · cases h
      · rename_i g₁ used harg
        obtain ⟨htargets, hactions⟩ := global_arg_ok harg
        obtain ⟨htargets', hactions'⟩ := ih h
        exact ⟨htargets'.trans htargets, hactions'.trans hactions⟩

/-- How options for an LED command came about. -/
inductive Accepted (argv : List Text) (o : HardwareOptions) : Prop where
  | legacy {g : Globals} :
      global_loop { o := { compatibility := true, seconds := 5 } } 0 argv.tail = .ok g →
      g.o.targets = [] → g.o.actions = [] →
      compat_parse g.args { g.o with command := .led_compat } = .ok o → Accepted argv o
  | subcommand {g : Globals} {first verb : Text} {items : List (List Text)}
      {command : HardwareCommand} {mode : Option ActionKind} {s : NewState} :
      global_loop { o := { compatibility := false, seconds := 5 } } 0 argv.tail = .ok g →
      g.o.targets = [] → g.o.actions = [] → g.args = first :: verb :: items.flatten →
      new_command (first = ("disk" : Text)) verb = .ok (command, mode) →
      ReadsItems verb { o := { g.o with command := command }, mode := { kind := mode.getD .on },
                        mode_seen := mode.isSome } items s →
      new_finish s = .ok o → Accepted argv o

theorem check_scope_ok {o o' : HardwareOptions} (h : check_scope o = .ok o') : o' = o := by
  unfold check_scope at h
  split at h
  · cases h
  split at h
  · cases h
  · exact (Except.ok.inj h).symm

theorem new_parse_cases {args : List Text} {o o' : HardwareOptions}
    (h : new_parse args o = .ok o') :
    ∃ first verb items command mode s, args = first :: verb :: List.flatten items ∧
      new_command (first = ("disk" : Text)) verb = .ok (command, mode) ∧
      ReadsItems verb { o := { o with command := command }, mode := { kind := mode.getD .on },
                        mode_seen := mode.isSome } items s ∧ new_finish s = .ok o' := by
  unfold new_parse at h
  split at h
  · rename_i first verb rest
    obtain ⟨⟨command, mode⟩, hcommand, h⟩ := ok_of_bind h
    obtain ⟨s, hloop, hfinish⟩ := ok_of_bind h
    obtain ⟨items, rfl, hitems⟩ := new_loop_items hloop
    exact ⟨first, verb, items, command, mode, s, rfl, hcommand, hitems, hfinish⟩
  · cases h

theorem hardware_parse_cases {argv : List Text} {compatibility : Bool} {o : HardwareOptions}
    (h : hardware_parse argv compatibility = .ok o) (hled : o.command.is_led = true) :
    Accepted argv o := by
  obtain ⟨g, hglobal, h⟩ := ok_of_bind h
  obtain ⟨_, -, h⟩ := ok_of_bind h
  obtain ⟨htargets, hactions⟩ := global_loop_ok hglobal
  unfold parse_command at h
  split at h
  · obtain rfl := Except.ok.inj h
    cases hled
  cases compatibility with
  | true =>
    obtain ⟨o₁, hparse, hscope⟩ := ok_of_bind h
    obtain rfl := check_scope_ok hscope
    exact .legacy hglobal htargets hactions hparse
  | false =>
    obtain ⟨o₁, hparse, hscope⟩ := ok_of_bind h
    obtain rfl := check_scope_ok hscope
    obtain ⟨first, verb, items, command, mode, s, hargs, hcommand, hitems, hfinish⟩ :=
      new_parse_cases hparse
    exact .subcommand hglobal htargets hactions hargs hcommand hitems hfinish

end UgreenNas.Core
