import UgreenNas.Led.Cs201x.Guard

/-! # Transactions on one LED

    A transaction writes some of the seven bytes of an LED, each with a
    verified readback.  Whatever goes wrong, the chip is left in a state
    that differs from the one before on that LED only, and every state in
    between satisfies a predicate that the caller may choose, as long as the
    predicate holds of every prefix of the writes.
-/

namespace UgreenNas.Led.Cs201x

open Effect Effect.Proc

variable {c : Context} {d : Device}

/-! ## Calm steps of a procedure that is not calm -/

namespace Calm

variable {ε α β : Type} {I : Device → Prop}

theorem wp_of {m : Proc cs_io Context ε α} {P : α → Context → Device → Prop}
    {Q : Except ε α → Context → Device → Prop} (hm : Calm m P c d) (hI : ∀ d', Quiet d d' → I d')
    (hok : ∀ a c' d', Stays d c c' d' → P a c' d' → Q (.ok a) c' d')
    (herr : ∀ e c' d', Stays d c c' d' → Q (.error e) c' d') : wp access I m Q c d := by
  refine wp_mono hm hI ?_
  rintro (e | a) c' d' ⟨hstays, hP⟩
  · exact herr e c' d' hstays
  · exact hok a c' d' hstays (hP a rfl)

theorem wp_then {m : Proc cs_io Context ε α} {f : α → Proc cs_io Context ε β}
    {P : α → Context → Device → Prop} {Q : Except ε β → Context → Device → Prop}
    (hm : Calm m P c d) (hI : ∀ d', Quiet d d' → I d')
    (hok : ∀ a c' d', Stays d c c' d' → P a c' d' → wp access I (f a) Q c' d')
    (herr : ∀ e c' d', Stays d c c' d' → Q (.error e) c' d') : wp access I (m >>= f) Q c d := by
  rw [wp_bind]
  exact hm.wp_of hI hok herr

end Calm

/-! ## One register -/

/-- Register `reg` may have been written. -/
structure Poked (reg : Nat) (value : UInt8) (d d' : Device) : Prop where
  config : d'.config = d.config
  mem : d'.mem = d.mem ∨ d'.mem = Function.update d.mem reg value

/-- What any write of the transport leaves of the context. -/
structure Kept (c c' : Context) (d' : Device) : Prop where
  memory : c'.toMemory = c.toMemory
  bound : Bound d' c'

theorem Kept.trans {c c' c'' : Context} {d' d'' : Device} (h : Kept c c' d')
    (h' : Kept c' c'' d'') : Kept c c'' d'' :=
  ⟨h'.memory.trans h.memory, h'.bound⟩

theorem Stays.kept {c' : Context} {d' : Device} (h : Stays d c c' d') : Kept c c' d' :=
  ⟨h.memory, h.bound⟩

section register

variable {reg : Nat} {value : UInt8}

theorem Quiet.poked {d' : Device} (h : Quiet d d') : Poked reg value d d' :=
  ⟨h.config, .inl h.mem⟩

theorem Poked.of_quiet {d' d'' : Device} (h : Quiet d d') (h' : Poked reg value d' d'') :
    Poked reg value d d'' := by
  refine ⟨h'.config.trans h.config, ?_⟩
  rw [← h.mem]
  exact h'.mem

theorem Poked.quiet {d' d'' : Device} (h : Poked reg value d d') (h' : Quiet d' d'') :
    Poked reg value d d'' := by
  refine ⟨h'.config.trans h.config, ?_⟩
  rw [h'.mem]
  exact h.mem

/-- The one write that may or may not take effect. -/
theorem wp_write_data (h : Bound d c) (hpermission : c.runtime_permission = true)
    (hselected : d.selected = reg) :
    wp access (Poked reg value d) (port_write ((c.base + 8) % 65536) value)
      (fun _ c' d' => Poked reg value d d' ∧ c' = c) c d := by
  obtain ⟨hbase, hsane⟩ := h hpermission
  rw [hbase]
  have hport := port_data hsane
  have hwritten : Poked reg value d (d.write ((d.base + 8) % 65536) value) := by
    simp only [Device.write, hport, hselected]
    exact ⟨rfl, .inr rfl⟩
  have hignored : Poked reg value d (d.ignore ((d.base + 8) % 65536)) := by
    simp only [Device.ignore, hport]
    exact ⟨rfl, .inl rfl⟩
  refine (wp_port_write _ value _ _).mpr ?_
  intro r d' hstep
  have hpoked : Poked reg value d d' := by
    cases r with
    | ok u =>
      have hd' : d' = d.write ((d.base + 8) % 65536) value ∨
          d.port ((d.base + 8) % 65536) = .data ∧ d' = d.ignore ((d.base + 8) % 65536) := hstep
      rcases hd' with rfl | ⟨-, rfl⟩
      · exact hwritten
      · exact hignored
    | error e =>
      have hd' : d' = d.write ((d.base + 8) % 65536) value ∨
          d' = d.ignore ((d.base + 8) % 65536) := hstep
      rcases hd' with rfl | rfl
      · exact hwritten
      · exact hignored
  exact ⟨hpoked, hpoked, rfl⟩

theorem ec_write_spec (h : Bound d c) (hpermission : c.runtime_permission = true)
    (hreg : reg < 2 ^ 32) :
    wp access (Poked reg value d) (ec_write reg value) (fun r c' d' => Poked reg value d d' ∧
      Kept c c' d' ∧ (r = .ok () → c' = c)) c d := by
  refine (calm_address h hpermission hreg).wp_then (fun _ hquiet => hquiet.poked) ?_ ?_
  · rintro _ c₁ d₁ hstays₁ ⟨rfl, hselected⟩
    refine (Calm.ctx hstays₁.bound).wp_then (fun _ hquiet => hstays₁.quiet.poked.quiet hquiet) ?_ ?_
    · rintro _ c₂ d₂ hstays₂ ⟨rfl, rfl, rfl⟩
      refine wp_mono (wp_write_data hstays₁.bound hpermission hselected)
        (fun _ hpoked => hpoked.of_quiet hstays₁.quiet) ?_
      rintro r c₃ d₃ ⟨hpoked, rfl⟩
      refine ⟨hpoked.of_quiet hstays₁.quiet, ⟨rfl, ?_⟩, fun _ => rfl⟩
      exact hstays₁.bound.of_config hpoked.config
    · intro e c₂ d₂ hstays₂
      have hstays := hstays₁.trans hstays₂
      exact ⟨hstays.quiet.poked, hstays.kept, nofun⟩
  · intro e c₁ d₁ hstays₁
    exact ⟨hstays₁.quiet.poked, hstays₁.kept, nofun⟩

/-- A write that was read back took effect. -/
theorem Poked.mem_eq {d' : Device} (h : Poked reg value d d') (hback : d'.mem reg = value) :
    d'.mem = Function.update d.mem reg value := by
  rcases h.mem with hsame | hwritten
  · rw [hsame] at hback ⊢
    rw [← hback, Function.update_eq_self]
  · exact hwritten

/-- A verified write: it may have happened, and success means that it has. -/
theorem verified_write_spec (h : Bound d c) (hpermission : c.runtime_permission = true)
    (hreg : reg < 2 ^ 32) (message mismatch : String) :
    wp access (Poked reg value d) (verified_write reg value message mismatch)
      (fun r c' d' => Poked reg value d d' ∧ Kept c c' d' ∧
        (r = .ok () → d'.mem = Function.update d.mem reg value)) c d := by
  refine wp_seq (R := fun r c' d' => Poked reg value d d' ∧ Kept c c' d' ∧
    (r = .ok () → c' = c)) (wp_mapError (ec_write_spec h hpermission hreg) ?_ ?_) ?_ ?_
  · exact fun _ _ _ ⟨hpoked, hkept, hc⟩ => ⟨hpoked, hkept, fun _ => hc rfl⟩
  · exact fun _ _ _ ⟨hpoked, hkept, _⟩ => ⟨hpoked, hkept, nofun⟩
  · rintro _ c₁ d₁ ⟨hpoked, hkept, hc⟩
    obtain rfl := hc rfl
    refine (calm_pause_ms hkept.bound 1).wp_then (fun _ hquiet => hpoked.quiet hquiet) ?_ ?_
    · rintro _ c₂ d₂ hstays₂ ⟨rfl, rfl⟩
      refine (calm_ec_read hkept.bound hpermission hreg).mapError.wp_then
        (fun _ hquiet => hpoked.quiet hquiet) ?_ ?_
      · rintro actual c₃ d₃ hstays₃ ⟨rfl, hactual⟩
        have hpoked₃ := hpoked.quiet hstays₃.quiet
        have hkept₃ := hkept.trans hstays₃.kept
        refine (Calm.bail hkept₃.bound).wp_of (fun _ hquiet => hpoked₃.quiet hquiet) ?_ ?_
        · rintro _ c₄ d₄ - ⟨rfl, rfl, hback⟩
          refine ⟨hpoked₃, hkept₃, fun _ => hpoked₃.mem_eq ?_⟩
          rw [hstays₃.quiet.mem, ← hactual]
          exact not_ne_iff.mp hback
        · intro e c₄ d₄ hstays₄
          exact ⟨hpoked₃.quiet hstays₄.quiet, hkept₃.trans hstays₄.kept, nofun⟩
      · intro e c₃ d₃ hstays₃
        exact ⟨hpoked.quiet hstays₃.quiet, hkept.trans hstays₃.kept, nofun⟩
    · intro e c₂ d₂ hstays₂
      exact ⟨hpoked.quiet hstays₂.quiet, hkept.trans hstays₂.kept, nofun⟩
  · rintro e c₁ d₁ ⟨hpoked, hkept, -⟩
    exact ⟨hpoked, hkept, nofun⟩

/-- The same after a guard. -/
theorem guarded_write_spec {α : Type} {guarding : Fun α} {message mismatch : String}
    (hreg : reg < 2 ^ 32) {P : α → Context → Device → Prop} (hguard : Calm guarding P c d)
    (hpermission : ∀ a c' d', P a c' d' → c'.runtime_permission = true) :
    wp access (Poked reg value d) (guarding >>= fun _ => verified_write reg value message mismatch)
      (fun r c' d' => Poked reg value d d' ∧ Kept c c' d' ∧
        (r = .ok () → d'.mem = Function.update d.mem reg value)) c d := by
  refine hguard.wp_then (fun _ hquiet => hquiet.poked) ?_ ?_
  · intro a c₁ d₁ hstays₁ hP
    refine wp_mono (verified_write_spec hstays₁.bound (hpermission a c₁ d₁ hP) hreg message
      mismatch) (fun _ hpoked => hpoked.of_quiet hstays₁.quiet) ?_
    rintro r c₂ d₂ ⟨hpoked, hkept, hwritten⟩
    refine ⟨hpoked.of_quiet hstays₁.quiet, hstays₁.kept.trans hkept, ?_⟩
    rw [← hstays₁.quiet.mem]
    exact hwritten
  · intro e c₁ d₁ hstays₁
    exact ⟨hstays₁.quiet.poked, hstays₁.kept, nofun⟩

theorem write_byte_spec (h : Bound d c) {id : Nat} (hid : id < 4) (field : Field) :
    wp access (Poked (reg_address id field) value d) (write_byte id field value)
      (fun r c' d' => Poked (reg_address id field) value d d' ∧ Kept c c' d' ∧
        (r = .ok () → d'.mem = Function.update d.mem (reg_address id field) value)) c d :=
  guarded_write_spec (reg_address_lt hid field) (calm_guard h true)
    fun _ _ _ hguard => hguard.2.1

end register

/-! ## One LED -/

theorem reg_address_inj {id id' : Nat} {field field' : Field} (hid : id < 4) (hid' : id' < 4)
    (h : reg_address id field = reg_address id' field') : id = id' ∧ field = field' := by
  cases field <;> cases field' <;>
    simp [reg_address, Field.register, Field.is_rgb] at h ⊢ <;> omega

theorem reg_address_ne_flow {id : Nat} (hid : id < 4) (field : Field) :
    reg_address id field ≠ CS_FLOW := by
  cases field <;> simp [reg_address, Field.register, Field.is_rgb, CS_FLOW] <;> omega

/-- Only the LED `id` may differ from what it was in `d₀`; its bytes
    satisfy `P`. -/
structure OnLed (d₀ : Device) (id : Nat) (P : Raw → Prop) (d : Device) : Prop where
  config : d.config = d₀.config
  frame : ∀ reg, (∀ field, reg ≠ reg_address id field) → d.mem reg = d₀.mem reg
  led : P (d.raw id)

namespace OnLed

variable {d₀ d' : Device} {id : Nat} {P R : Raw → Prop} {raw : Raw}

theorem mono (h : OnLed d₀ id P d) (hPR : ∀ raw, P raw → R raw) : OnLed d₀ id R d :=
  ⟨h.config, h.frame, hPR _ h.led⟩

theorem refl (hP : P (d.raw id)) : OnLed d id P d := ⟨rfl, fun _ _ => rfl, hP⟩

theorem of_quiet (h : OnLed d₀ id P d) (hquiet : Quiet d d') : OnLed d₀ id P d' := by
  refine ⟨hquiet.config.trans h.config, fun reg hreg => ?_, ?_⟩
  · rw [hquiet.mem]
    exact h.frame reg hreg
  · rw [hquiet.raw]
    exact h.led

/-- Another LED. -/
theorem other (h : OnLed d₀ id P d) (hid : id < 4) {id' : Nat} (hid' : id' < 4) (hne : id' ≠ id) :
    d.raw id' = d₀.raw id' := by
  funext field
  refine h.frame _ fun field' heq => ?_
  exact hne (reg_address_inj hid' hid heq).1

theorem flow (h : OnLed d₀ id P d) (hid : id < 4) : d.flow = d₀.flow :=
  h.frame _ fun field heq => reg_address_ne_flow hid field heq.symm

/-- A byte of the LED that may have been written. -/
theorem poked (h : OnLed d₀ id (· = raw) d) (hid : id < 4) {field : Field} {value : UInt8}
    (hpoked : Poked (reg_address id field) value d d') (hP : P raw)
    (hP' : P (Function.update raw field value)) : OnLed d₀ id P d' := by
  have hraw : d'.raw id = raw ∨ d'.raw id = Function.update raw field value := by
    rw [← h.led]
    rcases hpoked.mem with hmem | hmem
    · left
      funext f
      simp only [Device.raw, hmem]
    · right
      funext f
      simp only [Device.raw, hmem]
      by_cases hf : f = field
      · subst hf
        simp
      · have hne : reg_address id f ≠ reg_address id field :=
          fun heq => hf (reg_address_inj hid hid heq).2
        simp [hne, hf, Device.raw]
  refine ⟨hpoked.config.trans h.config, fun reg hreg => ?_, ?_⟩
  · rw [← h.frame reg hreg]
    rcases hpoked.mem with hmem | hmem
    · rw [hmem]
    · rw [hmem, Function.update_of_ne (hreg field)]
  · rcases hraw with hraw | hraw
    · rw [hraw]
      exact hP
    · rw [hraw]
      exact hP'

end OnLed

section led

variable {d₀ : Device} {id : Nat} {P : Raw → Prop}

/-- One byte of a transaction. -/
theorem write_byte_led (h : Bound d c) (hid : id < 4) {raw : Raw} (hd : OnLed d₀ id (· = raw) d)
    {field : Field} {value : UInt8} (hP : P raw) (hP' : P (Function.update raw field value)) :
    wp access (OnLed d₀ id P) (write_byte id field value) (fun r c' d' => Kept c c' d' ∧
      OnLed d₀ id P d' ∧
      (r = .ok () → OnLed d₀ id (· = Function.update raw field value) d')) c d := by
  refine wp_mono (write_byte_spec h hid field) (fun _ hpoked => hd.poked hid hpoked hP hP') ?_
  rintro r c' d' ⟨hpoked, hkept, hwritten⟩
  refine ⟨hkept, hd.poked hid hpoked hP hP', ?_⟩
  intro hr
  have hled : OnLed d₀ id (fun _ => True) d' := hd.poked hid hpoked trivial trivial
  refine ⟨hled.config, hled.frame, ?_⟩
  rw [← hd.led]
  funext f
  simp only [Device.raw, hwritten hr]
  by_cases hf : f = field
  · subst hf
    simp
  · have hne : reg_address id f ≠ reg_address id field :=
      fun heq => hf (reg_address_inj hid hid heq).2
    simp [hne, hf, Device.raw]

/-- The bytes of an LED when the fields in `rest` are still to be written. -/
def mix (rest : List Field) (start wanted : Raw) : Raw := fun field =>
  if field ∈ rest then start field else wanted field

theorem mix_nil (start wanted : Raw) : mix [] start wanted = wanted := by
  funext field
  simp [mix]

theorem mix_write_order (start wanted : Raw) : mix write_order start wanted = start := by
  funext field
  cases field <;> rfl

theorem update_mix {field : Field} {rest : List Field} (hfield : field ∉ rest)
    (start wanted : Raw) :
    Function.update (mix (field :: rest) start wanted) field (wanted field) =
      mix rest start wanted := by
  funext f
  by_cases hf : f = field
  · subst hf
    simp [mix, hfield]
  · simp [mix, hf]

theorem mix_skip {field : Field} {rest : List Field} {start wanted : Raw}
    (h : start field = wanted field) : mix (field :: rest) start wanted = mix rest start wanted := by
  funext f
  by_cases hf : f = field
  · subst hf
    by_cases hmem : f ∈ rest <;> simp [mix, hmem, h]
  · simp [mix, hf]

/-- The loop of `commit`: the bytes already written are the wanted ones. -/
theorem write_fields_spec (h : Bound d c) (hid : id < 4) {start wanted before : Raw}
    {restore quiesce : Bool} {rest : List Field} (hnodup : rest.Nodup)
    (hd : OnLed d₀ id (· = mix rest start wanted) d)
    (hmix : ∀ suffix, suffix <:+ rest → P (mix suffix start wanted))
    (hskip : ∀ field ∈ rest,
      ¬ (restore ∨ wanted field ≠ before field ∨ (quiesce ∧ field = .mode)) →
        start field = wanted field) :
    wp access (OnLed d₀ id P) (write_fields id wanted before restore quiesce rest)
      (fun r c' d' => Kept c c' d' ∧ OnLed d₀ id P d' ∧
        (r = .ok () → OnLed d₀ id (· = wanted) d')) c d := by
  induction rest generalizing c d with
  | nil =>
    rw [mix_nil] at hd
    have hP : P wanted := by
      have := hmix [] (List.suffix_refl _)
      rwa [mix_nil] at this
    refine (wp_pure () _).mpr ⟨⟨rfl, h⟩, hd.mono ?_, fun _ => hd⟩
    rintro _ rfl
    exact hP
  | cons field rest ih =>
    obtain ⟨hfield, hnodup⟩ := List.nodup_cons.mp hnodup
    have hnow := hmix (field :: rest) (List.suffix_refl _)
    have hnext := hmix rest (List.suffix_cons field rest)
    have hmix' : ∀ suffix, suffix <:+ rest → P (mix suffix start wanted) :=
      fun suffix hsuffix => hmix suffix (hsuffix.trans (List.suffix_cons field rest))
    have hskip' := fun f hf => hskip f (List.mem_cons_of_mem field hf)
    unfold write_fields
    split
    · -- the field is written, and verified before the next one
      rw [← update_mix hfield] at hnext
      refine wp_seq (write_byte_led h hid hd hnow hnext) ?_ ?_
      · rintro _ c₁ d₁ ⟨hkept, -, hwritten⟩
        have hd₁ := hwritten rfl
        rw [update_mix hfield] at hd₁
        refine wp_mono (ih hkept.bound hnodup hd₁ hmix' hskip') (fun _ hI => hI) ?_
        rintro r c₂ d₂ ⟨hkept', hrest⟩
        exact ⟨hkept.trans hkept', hrest⟩
      · rintro e c₁ d₁ ⟨hkept, hled, -⟩
        exact ⟨hkept, hled, nofun⟩
    · rename_i hunchanged
      rw [mix_skip (hskip field List.mem_cons_self hunchanged)] at hd
      exact ih h hnodup hd hmix' hskip'

/-- The bytes after the effect has been switched off, if it is. -/
def quiesced (needed : Bool) (raw : Raw) : Raw :=
  if needed then Function.update raw .mode 0 else raw

theorem quiesce_spec (h : Bound d c) (hid : id < 4) {raw : Raw} (hd : OnLed d₀ id (· = raw) d)
    (needed : Bool) (hP : P raw) (hP' : P (quiesced needed raw)) :
    wp access (OnLed d₀ id P) (quiesce id needed) (fun r c' d' => Kept c c' d' ∧
      OnLed d₀ id P d' ∧ (r = .ok () → OnLed d₀ id (· = quiesced needed raw) d')) c d := by
  cases needed with
  | true => exact write_byte_led h hid hd hP hP'
  | false =>
    refine (wp_pure () _).mpr ⟨⟨rfl, h⟩, hd.mono ?_, fun _ => hd⟩
    rintro _ rfl
    exact hP

/-- A field is skipped only in the forward pass, where it is what it was. -/
theorem skipped_field {raw wanted before : Raw} {restore : Bool} {field : Field}
    (hbefore : restore = false → raw = before)
    (hskip : ¬ (restore ∨ wanted field ≠ before field ∨
      (quiesces wanted before restore ∧ field = .mode))) :
    quiesced (quiesces wanted before restore) raw field = wanted field := by
  simp only [ne_eq, not_or, not_not, not_and] at hskip
  obtain ⟨hforward, hsame, hmode⟩ := hskip
  have hraw : raw field = before field := congrFun (hbefore (by simpa using hforward)) field
  rw [hsame, ← hraw]
  cases hneeded : quiesces wanted before restore with
  | false => rfl
  | true => exact Function.update_of_ne (hmode hneeded) _ _

/-- A transaction: `P` holds all the way, and success means the wanted bytes. -/
theorem commit_spec (h : Bound d c) (hid : id < 4) {raw wanted before : Raw} {restore : Bool}
    (hd : OnLed d₀ id (· = raw) d) (hbefore : restore = false → raw = before) (hP : P raw)
    (hmix : ∀ suffix, suffix <:+ write_order →
      P (mix suffix (quiesced (quiesces wanted before restore) raw) wanted)) :
    wp access (OnLed d₀ id P) (commit id wanted before restore) (fun r c' d' => Kept c c' d' ∧
      OnLed d₀ id P d' ∧ (r = .ok () → d'.raw id = wanted)) c d := by
  have hquiesced := hmix write_order (List.suffix_refl _)
  rw [mix_write_order] at hquiesced
  refine wp_seq (quiesce_spec h hid hd _ hP hquiesced) ?_ ?_
  · rintro _ c₁ d₁ ⟨hkept₁, -, hd₁⟩
    have hd₁ := hd₁ rfl
    rw [← mix_write_order (quiesced (quiesces wanted before restore) raw) wanted] at hd₁
    refine wp_seq (write_fields_spec hkept₁.bound hid (by decide) hd₁ hmix ?_) ?_ ?_
    · exact fun field _ hskip => skipped_field hbefore hskip
    · rintro _ c₂ d₂ ⟨hkept₂, hled₂, -⟩
      refine (calm_snapshot hkept₂.bound id).wp_then (fun _ hquiet => hled₂.of_quiet hquiet) ?_ ?_
      · rintro _ c₃ d₃ hstays₃ ⟨-, rfl, -⟩
        have hkept := (hkept₁.trans hkept₂).trans hstays₃.kept
        have hled₃ := hled₂.of_quiet hstays₃.quiet
        refine (Calm.bail hstays₃.bound).wp_of (fun _ hquiet => hled₃.of_quiet hquiet) ?_ ?_
        · rintro _ c₄ d₄ - ⟨rfl, rfl, hactual⟩
          refine ⟨hkept, hled₃, fun _ => ?_⟩
          rw [hstays₃.quiet.raw]
          exact not_ne_iff.mp hactual
        · intro e c₄ d₄ hstays₄
          exact ⟨hkept.trans hstays₄.kept, hled₃.of_quiet hstays₄.quiet, nofun⟩
      · intro e c₃ d₃ hstays₃
        exact ⟨(hkept₁.trans hkept₂).trans hstays₃.kept, hled₂.of_quiet hstays₃.quiet, nofun⟩
    · rintro e c₂ d₂ ⟨hkept₂, hled₂, -⟩
      exact ⟨hkept₁.trans hkept₂, hled₂, nofun⟩
  · rintro e c₁ d₁ ⟨hkept₁, hled₁, -⟩
    exact ⟨hkept₁, hled₁, nofun⟩

/-- A restoration needs to know nothing about the LED. -/
theorem restore_spec (h : Bound d c) (hid : id < 4) (hd : OnLed d₀ id (fun _ => True) d)
    (wanted before : Raw) :
    wp access (OnLed d₀ id fun _ => True) (commit id wanted before true) (fun r c' d' =>
      Kept c c' d' ∧ OnLed d₀ id (fun _ => True) d' ∧ (r = .ok () → d'.raw id = wanted)) c d := by
  have hraw : OnLed d₀ id (· = d.raw id) d := ⟨hd.config, hd.frame, rfl⟩
  exact commit_spec h hid hraw nofun trivial fun _ _ => trivial

end led

/-! ## Forward and back -/

/-- `P` can be kept by a transaction from `before` to `wanted` and by its
    undoing, wherever the first one stopped. -/
structure Admits (P : Raw → Prop) (wanted before : Raw) : Prop where
  start : P before
  forward : ∀ suffix, suffix <:+ write_order →
    P (mix suffix (quiesced (quiesces wanted before false) before) wanted)
  back : ∀ raw suffix, suffix <:+ write_order →
    P (mix suffix (Function.update raw .mode 0) before)

theorem admits_true (wanted before : Raw) : Admits (fun _ => True) wanted before :=
  ⟨trivial, fun _ _ => trivial, fun _ _ _ => trivial⟩

section back

variable {d₀ : Device} {id : Nat} {P : Raw → Prop} {wanted before : Raw}

/-- An error report says truly that the previous state is back, or that it
    may not be. -/
def Undone (id : Nat) (before : Raw) (e : Failure) (d : Device) : Prop :=
  (∃ original, e.report = .restored original) ∧ d.raw id = before ∨
    ∃ original restore_error, e.report = .restoration_failed original restore_error

theorem restore_after_error_spec (h : Bound d c) (hid : id < 4) (hP : Admits P wanted before)
    (hd : OnLed d₀ id P d) (cause : Failure) :
    wp access (OnLed d₀ id P) (restore_after_error id before wanted cause) (fun r c' d' =>
      Kept c c' d' ∧ OnLed d₀ id P d' ∧ ∃ e, r = .error e ∧ Undone id before e d') c d := by
  have hraw : OnLed d₀ id (· = d.raw id) d := ⟨hd.config, hd.frame, rfl⟩
  have hback := @commit_spec c d d₀ id P h hid (d.raw id) before wanted true hraw nofun hd.led
    (hP.back (d.raw id))
  unfold restore_after_error
  rw [wp_bind, wp_attempt]
  refine wp_mono hback (fun _ hI => hI) ?_
  rintro (e | _) c' d' ⟨hkept, hled, hrestored⟩
  · exact ⟨hkept, hled, _, rfl, .inr ⟨_, _, rfl⟩⟩
  · exact ⟨hkept, hled, _, rfl, .inl ⟨⟨_, rfl⟩, hrestored rfl⟩⟩

/-- The writing part of `apply` and of `begin_identify`. -/
theorem commit_or_restore_spec (h : Bound d c) (hid : id < 4) (hP : Admits P wanted before)
    (hd : OnLed d₀ id (· = before) d) :
    wp access (OnLed d₀ id P) (commit_or_restore id wanted before) (fun r c' d' =>
      Kept c c' d' ∧ OnLed d₀ id P d' ∧ (r = .ok () → d'.raw id = wanted) ∧
      ∀ e, r = .error e → Undone id before e d') c d := by
  refine wp_handle (commit_spec h hid hd (fun _ => rfl) hP.start hP.forward) ?_ ?_
  · rintro _ c' d' ⟨hkept, hled, hwanted⟩
    exact ⟨hkept, hled, hwanted, nofun⟩
  · rintro cause c' d' ⟨hkept, hled, -⟩
    refine wp_mono (restore_after_error_spec hkept.bound hid hP hled cause) (fun _ hI => hI) ?_
    rintro r c'' d'' ⟨hkept', hled', e, rfl, hundone⟩
    refine ⟨hkept.trans hkept', hled', nofun, ?_⟩
    rintro _ ⟨⟩
    exact hundone

end back

end UgreenNas.Led.Cs201x
