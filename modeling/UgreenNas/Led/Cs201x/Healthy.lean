import UgreenNas.Led.Cs201x.Transaction

/-! # A chip that answers

    The guards fail closed, so nothing above says that they ever pass.  They
    do: behind a chip that answers the probe, on the machine the context has
    identified, each step of the transport may succeed, up to a whole
    `apply`.
-/

namespace UgreenNas.Led.Cs201x

open Effect Effect.Proc

variable {c c' : Context} {d d' : Device}

/-! ## Successful runs -/

/-- `m` succeeds on a steady machine, and satisfies `Q` then. -/
def Can {ε α : Type} (identity : Identity) (m : Proc cs_io Context ε α)
    (Q : α → Context → Device → Prop) (c : Context) (d : Device) : Prop :=
  May (steady identity) m (fun r c' d' => ∃ a, r = .ok a ∧ Q a c' d') c d

variable {identity : Identity}

namespace Can

variable {ε δ α β : Type} {Q R : α → Context → Device → Prop}

theorem pure {a : α} (hQ : Q a c d) :
    Can identity (Pure.pure a : Proc cs_io Context ε α) Q c d :=
  may_pure ⟨a, rfl, hQ⟩

theorem ctx : Can identity (Proc.ctx : Proc cs_io Context ε Context)
    (fun a c' d' => a = c ∧ c' = c ∧ d' = d) c d :=
  may_ctx ⟨c, rfl, rfl, rfl, rfl⟩

theorem update (f : Context → Context) :
    Can identity (Proc.update f : Proc cs_io Context ε Unit) (fun _ c' d' => c' = f c ∧ d' = d)
      c d :=
  may_update ⟨(), rfl, rfl, rfl⟩

theorem bail {p : Prop} [Decidable p] {e : ε} (hp : ¬ p) :
    Can identity (Proc.bail p e) (fun _ c' d' => c' = c ∧ d' = d) c d := by
  unfold Proc.bail
  rw [if_neg hp]
  exact pure ⟨rfl, rfl⟩

theorem lift {a : α} (hQ : Q a c d) :
    Can identity (Proc.lift (.ok a) : Proc cs_io Context ε α) Q c d :=
  may_lift ⟨a, rfl, hQ⟩

theorem io {o : CsOp} {b : o.Ans} {d' : Device} (hstep : steady identity d o b d') :
    Can identity (Cs201x.io o : Proc cs_io Context ε _)
      (fun a c' d'' => a = b ∧ c' = c ∧ d'' = d') c d :=
  @may_ask cs_io _ _ _ (steady identity) c d o b d' _ hstep ⟨b, rfl, rfl, rfl, rfl⟩

theorem mono {m : Proc cs_io Context ε α} (h : Can identity m Q c d)
    (hQR : ∀ a c' d', Q a c' d' → R a c' d') : Can identity m R c d :=
  may_mono h fun _ c' d' ⟨a, ha, hQ⟩ => ⟨a, ha, hQR a c' d' hQ⟩

theorem bind {m : Proc cs_io Context ε α} {f : α → Proc cs_io Context ε β}
    {P : β → Context → Device → Prop} (hm : Can identity m Q c d)
    (hf : ∀ a c' d', Q a c' d' → Can identity (f a) P c' d') : Can identity (m >>= f) P c d := by
  refine may_seq hm ?_ ?_
  · rintro a c' d' ⟨_, ⟨⟩, hQ⟩
    exact hf a c' d' hQ
  · rintro e c' d' ⟨_, ⟨⟩, -⟩

theorem attempt {m : Proc cs_io Context ε α} (h : Can identity m Q c d) :
    Can identity (Proc.attempt m : Proc cs_io Context δ _)
      (fun r c' d' => ∃ a, r = .ok a ∧ Q a c' d') c d :=
  may_attempt (may_mono h fun r _ _ hQ => ⟨r, rfl, hQ⟩)

theorem mapError {m : Proc cs_io Context ε α} {f : ε → δ} (h : Can identity m Q c d) :
    Can identity (Proc.mapError m f) Q c d := by
  refine may_handle h ?_ ?_
  · rintro a c' d' ⟨_, ⟨⟩, hQ⟩
    exact ⟨a, rfl, hQ⟩
  · rintro e c' d' ⟨_, ⟨⟩, -⟩

/-- What holds after every run holds after this one. -/
theorem and_wp {I : Device → Prop} {m : Proc cs_io Context ε α}
    {P : Except ε α → Context → Device → Prop} (h : Can identity m Q c d)
    (hwp : wp access I m P c d) :
    Can identity m (fun a c' d' => P (.ok a) c' d' ∧ Q a c' d') c d := by
  obtain ⟨r, c', d', hrun, a, rfl, hQ⟩ := h
  exact ⟨_, c', d', hrun, a, rfl, wp_runs hwp (Prog.Runs.mono steady_access hrun), hQ⟩

/-- Success of a calm procedure. -/
theorem calm {m : Proc cs_io Context ε α} {P : α → Context → Device → Prop}
    (h : Can identity m Q c d) (hcalm : Calm m P c d) :
    Can identity m (fun a c' d' => Stays d c c' d' ∧ P a c' d' ∧ Q a c' d') c d :=
  (h.and_wp hcalm).mono fun a _ _ ⟨⟨hstays, hP⟩, hQ⟩ => ⟨hstays, hP a rfl, hQ⟩

/-- On a machine that may fail, too, it may succeed. -/
theorem may {m : Proc cs_io Context ε α} (h : Can identity m Q c d) :
    May access m (fun r c' d' => ∃ a, r = .ok a ∧ Q a c' d') c d :=
  May.widen steady_access h

/-- On a steady machine it is bound to. -/
theorem succeeds {m : Proc cs_io Context ε α} (h : Can identity m Q c d) :
    Succeeds (steady identity) m c d := by
  have halways := May.always (steady_deterministic identity) h
  obtain ⟨_, c', d', hrun, a, rfl, -⟩ := h
  refine ⟨⟨a, c', d', hrun⟩, ?_⟩
  intro r c₁ d₁ hrun₁
  obtain ⟨a₁, hr, -⟩ := wp_runs halways hrun₁
  exact ⟨a₁, hr⟩

end Can

/-! ## Ports -/

theorem can_port_write (p : Nat) (value : UInt8) :
    Can identity (port_write p value) (fun _ c' d' => c' = c ∧ d' = d.write p value) c d := by
  refine (@Can.io c d identity Errno (.write_port p value) (.ok ()) _ ⟨rfl, rfl⟩).bind ?_
  rintro _ c' d' ⟨rfl, rfl, rfl⟩
  exact .lift ⟨rfl, rfl⟩

theorem can_port_read (p : Nat) :
    Can identity (port_read p) (fun _ c' d' => c' = c ∧ d' = d) c d := by
  refine (@Can.io c d identity Errno (.read_port p) (.ok (d.value p)) d ⟨rfl, rfl⟩).bind ?_
  rintro _ c' d' ⟨rfl, rfl, rfl⟩
  exact .lift ⟨rfl, rfl⟩

theorem can_pause_ms {ε : Type} (milliseconds : Nat) :
    Can identity (pause_ms milliseconds : Proc cs_io Context ε Unit)
      (fun _ c' d' => c' = c ∧ d' = d) c d := by
  refine (@Can.io c d identity ε (.pause_ms milliseconds) () d rfl).bind ?_
  rintro _ c' d' ⟨-, rfl, rfl⟩
  exact .pure ⟨rfl, rfl⟩

theorem can_owners (base : Nat) :
    Can identity (owners base) (fun _ c' d' => c' = c ∧ d' = d) c d := by
  refine Can.ctx.bind ?_
  rintro _ c' d' ⟨rfl, rfl, rfl⟩
  refine (@Can.io c' d' identity Errno (.owners base c'.client_pid) (.ok ()) d' ⟨rfl, rfl⟩).bind ?_
  rintro _ c'' d'' ⟨rfl, rfl, rfl⟩
  exact .lift ⟨rfl, rfl⟩

theorem can_permission (port count : Nat) (enable : Bool) :
    Can identity (permission port count enable) (fun _ c' d' => c' = c ∧ d' = d) c d := by
  refine (@Can.io c d identity Errno (.permission port count enable) (.ok ()) d ⟨rfl, rfl⟩).bind ?_
  rintro _ c' d' ⟨rfl, rfl, rfl⟩
  exact .lift ⟨rfl, rfl⟩

theorem can_lock : Can identity lock (fun _ c' d' => c' = c ∧ d' = d) c d := by
  refine (@Can.io c d identity Errno .lock (.ok ()) d ⟨rfl, rfl⟩).bind ?_
  rintro _ c' d' ⟨rfl, rfl, rfl⟩
  exact .lift ⟨rfl, rfl⟩

theorem can_detect :
    Can identity detect (fun a c' d' => a = identity ∧ c' = c ∧ d' = d) c d := by
  refine (@Can.io c d identity Failure .detect (.ok identity) d ⟨rfl, rfl⟩).bind ?_
  rintro _ c' d' ⟨rfl, rfl, rfl⟩
  exact .lift ⟨rfl, rfl, rfl⟩

/-! ## The probe -/

/-- The chip is the one the transport looks for, and its controller is
    active at a sane base. -/
structure Answers (d : Device) : Prop where
  chip : ∀ ldn, (d.config ldn 0x20).toNat * 256 + (d.config ldn 0x21).toNat = 0x2011
  active : d.config 0x0a 0x30 = 1
  sane : sane_base d.base = true

theorem Answers.of_config (h : Answers d) (hconfig : d'.config = d.config) : Answers d' := by
  have hbase : d'.base = d.base := by simp only [Device.base, hconfig]
  refine ⟨?_, ?_, ?_⟩
  · rw [hconfig]
    exact h.chip
  · rw [hconfig]
    exact h.active
  · rw [hbase]
    exact h.sane

section probe

theorem can_sio_read (index : UInt8) : Can identity (sio_read index) (fun _ c' _ => c' = c) c d := by
  refine (can_port_write CS_INDEX index).bind ?_
  rintro _ c₁ d₁ ⟨rfl, -⟩
  exact (can_port_read CS_VALUE).mono fun _ _ _ h => h.1

theorem can_sio_word (index : UInt8) : Can identity (sio_word index) (fun _ c' _ => c' = c) c d := by
  refine (can_sio_read index).bind ?_
  rintro high c₁ d₁ rfl
  refine (can_sio_read (index + 1)).bind ?_
  rintro low c₂ d₂ rfl
  exact .pure rfl

theorem can_enter (values : List UInt8) : Can identity (enter values) (fun _ c' _ => c' = c) c d := by
  induction values generalizing d with
  | nil => exact .pure rfl
  | cons value rest ih =>
    refine (can_port_write CS_INDEX value).attempt.bind ?_
    rintro _ c₁ d₁ ⟨_, rfl, rfl, -⟩
    refine (can_pause_ms 1).bind ?_
    rintro _ c₂ d₂ ⟨rfl, -⟩
    refine (Can.lift (Q := fun _ c' _ => c' = c₂) rfl).bind ?_
    rintro _ c₃ d₃ rfl
    exact ih

theorem can_leave {α : Type} (values : List UInt8) (a : α) :
    Can identity (leave values (.ok a)) (fun r c' _ => r = .ok a ∧ c' = c) c d := by
  induction values generalizing d with
  | nil => exact .pure ⟨rfl, rfl⟩
  | cons value rest ih =>
    refine (can_port_write CS_INDEX value).attempt.bind ?_
    rintro _ c₁ d₁ ⟨_, rfl, rfl, -⟩
    exact ih

theorem can_probe_selected (h : Bound d c) (hanswers : Answers d) (hindex : d.index = 0x07) :
    Can identity probe_selected (fun _ c' _ => c' = c) c d := by
  refine ((can_port_write CS_VALUE 0x0a).calm (calm_select h 0x0a hindex)).bind ?_
  rintro _ c₁ d₁ ⟨hstays₁, ⟨rfl, rfl⟩, -⟩
  refine ((can_sio_read 0x30).calm (calm_sio_read hstays₁.bound 0x30)).bind ?_
  rintro active c₂ d₂ ⟨hstays₂, ⟨rfl, rfl, rfl⟩, -⟩
  refine (Can.bail (by simp [hanswers.active])).bind ?_
  rintro _ c₃ d₃ ⟨rfl, rfl⟩
  refine ((can_sio_word 0x60).calm (calm_sio_word hstays₂.bound (by decide))).bind ?_
  rintro base c₄ d₄ ⟨hstays₄, ⟨rfl, -, rfl⟩, -⟩
  have hsane := hanswers.sane
  unfold Device.base at hsane
  refine (Can.bail (by simp [hsane])).bind ?_
  rintro _ c₅ d₅ ⟨rfl, rfl⟩
  exact .pure rfl

theorem can_reselect (old_ldn : UInt8) : Can identity (reselect old_ldn) (fun _ c' _ => c' = c) c d := by
  refine (can_port_write CS_INDEX 0x07).bind ?_
  rintro _ c₁ d₁ ⟨rfl, -⟩
  exact (can_port_write CS_VALUE old_ldn).mono fun _ _ _ h => h.1

theorem can_probe_chip (h : Bound d c) (hanswers : Answers d) :
    Can identity probe_chip (fun _ c' _ => c' = c) c d := by
  refine ((can_enter [0xa5, 0x69, 0x87]).calm (calm_enter h _)).bind ?_
  rintro _ c₁ d₁ ⟨hstays₁, rfl, -⟩
  have hanswers₁ := hanswers.of_config hstays₁.quiet.config
  refine ((can_sio_word 0x20).calm (calm_sio_word hstays₁.bound (by decide))).bind ?_
  rintro chip c₂ d₂ ⟨hstays₂, ⟨rfl, -, rfl⟩, -⟩
  refine (Can.bail (by simpa using hanswers₁.chip d₁.ldn)).bind ?_
  rintro _ c₃ d₃ ⟨rfl, rfl⟩
  refine ((can_sio_word 0x22).calm (calm_sio_word hstays₂.bound (by decide))).bind ?_
  rintro revision c₄ d₄ ⟨hstays₄, ⟨rfl, -, rfl⟩, -⟩
  refine ((can_sio_read 0x07).calm (calm_sio_read hstays₄.bound 0x07)).bind ?_
  rintro old_ldn c₅ d₅ ⟨hstays₅, ⟨rfl, rfl, -⟩, -⟩
  refine ((can_port_write CS_INDEX 0x07).calm (calm_write_index hstays₅.bound 0x07)).bind ?_
  rintro _ c₆ d₆ ⟨hstays₆, ⟨rfl, rfl⟩, -⟩
  have hconfig := ((hstays₂.trans hstays₄).trans (hstays₅.trans hstays₆)).quiet.config
  refine (can_probe_selected hstays₆.bound (hanswers₁.of_config hconfig) rfl).attempt.bind ?_
  rintro _ c₇ d₇ ⟨base, rfl, rfl⟩
  refine (can_reselect old_ldn).attempt.bind ?_
  rintro _ c₈ d₈ ⟨_, rfl, rfl⟩
  refine (Can.lift (Q := fun _ c' _ => c' = c₈) rfl).bind ?_
  rintro _ c₉ d₉ rfl
  exact .pure rfl

/-- A probe changes the chip id and the revision of the context. -/
theorem can_probe (h : Bound d c) (hanswers : Answers d) :
    Can identity probe (fun _ c' _ => c'.identity = c.identity ∧ c'.base = c.base) c d := by
  refine (can_probe_chip h hanswers).attempt.bind ?_
  rintro _ c₁ d₁ ⟨found, rfl, rfl⟩
  refine (can_leave [0x87, 0x69, 0xa5] found).bind ?_
  rintro _ c₂ d₂ ⟨rfl, rfl⟩
  refine (Can.lift (Q := fun _ c' _ => c' = c₂) rfl).bind ?_
  rintro _ c₃ d₃ rfl
  refine (Can.update _).bind ?_
  rintro _ c₄ d₄ ⟨rfl, -⟩
  exact .pure ⟨rfl, rfl⟩

end probe

/-! ## The guard -/

section guards

theorem can_address_bytes (base reg : Nat) (bytes : List Nat) :
    Can identity (address_bytes base reg bytes) (fun _ c' _ => c' = c) c d := by
  induction bytes generalizing d with
  | nil => exact .pure rfl
  | cons byte rest ih =>
    refine (can_port_write _ _).bind ?_
    rintro _ c₁ d₁ ⟨rfl, -⟩
    exact ih

theorem can_address (reg : Nat) : Can identity (address reg) (fun _ c' _ => c' = c) c d := by
  refine Can.ctx.bind ?_
  rintro _ c₁ d₁ ⟨rfl, rfl, rfl⟩
  refine (can_port_write _ 0).bind ?_
  rintro _ c₂ d₂ ⟨rfl, -⟩
  exact can_address_bytes c₂.base reg [3, 2, 1, 0]

theorem can_ec_read (reg : Nat) : Can identity (ec_read reg) (fun _ c' _ => c' = c) c d := by
  refine (can_address reg).bind ?_
  rintro _ c₁ d₁ rfl
  refine (can_pause_ms 1).bind ?_
  rintro _ c₂ d₂ ⟨rfl, -⟩
  refine Can.ctx.bind ?_
  rintro _ c₃ d₃ ⟨rfl, rfl, rfl⟩
  exact (can_port_read _).mono fun _ _ _ h => h.1

/-- The context was made for this chip and, if it has an identity, on the
    machine `identity`. -/
structure Fits (identity : Identity) (c : Context) (d : Device) : Prop where
  exact_machine : is_exact identity = true
  answers : Answers d
  bound : Bound d c
  base : c.base = 0 ∨ c.base = d.base
  same : c.identity.product_name = "" ∨ c.identity = identity

theorem Fits.of_stays (h : Fits identity c d) (hstays : Stays d c c' d')
    (hbase : c'.base = c.base) (hidentity : c'.identity = c.identity) : Fits identity c' d' := by
  refine ⟨h.exact_machine, h.answers.of_config hstays.quiet.config, hstays.bound, ?_, ?_⟩
  · rw [hbase, hstays.quiet.base]
    exact h.base
  · rw [hidentity]
    exact h.same

theorem can_acquire (hbase : c.base = 0 ∨ c.base = d.base) (h : Bound d c) :
    Can identity (acquire d.base) (fun _ c' d' => c'.identity = c.identity ∧ c'.base = d.base ∧ d' = d)
      c d := by
  refine Can.ctx.bind ?_
  rintro _ c₁ d₁ ⟨rfl, rfl, rfl⟩
  by_cases hpermission : c₁.runtime_permission = true
  · simp only [hpermission, if_true]
    exact .pure ⟨rfl, (h hpermission).1, rfl⟩
  · simp only [hpermission]
    refine (can_owners d₁.base).mapError.bind ?_
    rintro _ c₂ d₂ ⟨rfl, rfl⟩
    refine (can_permission d₂.base 13 true).mapError.bind ?_
    rintro _ c₃ d₃ ⟨rfl, rfl⟩
    exact (Can.update _).mono fun _ _ _ ⟨hc, hd⟩ => ⟨by rw [hc], by rw [hc], hd⟩

/-- A guard passes on the machine, with the flow it expects. -/
theorem can_guard_flow (h : Fits identity c d) {writing : Bool}
    {expected_flow : Option UInt8} (haccess : writing = true → c.access.apply ∧ c.access.force)
    (hpublished : d.flow ≤ 1) (hexpected : ∀ expected ∈ expected_flow, d.flow = expected) :
    Can identity (guard_flow writing expected_flow) (fun _ c' d' => Fits identity c' d' ∧
      c'.identity = identity) c d := by
  refine ((Can.update _).calm (Calm.update rfl h.bound)).bind ?_
  rintro _ c₁ d₁ ⟨hstays₁, -, hc₁, rfl⟩
  have hfits₁ := h.of_stays hstays₁ (by rw [hc₁]) (by rw [hc₁])
  refine Can.ctx.bind ?_
  rintro _ c₂ d₂ ⟨rfl, rfl, rfl⟩
  have haccess₁ : c₂.access = c.access := by rw [hc₁]
  refine (Can.bail ?_).bind ?_
  · rw [haccess₁]
    exact fun hdenied => hdenied.2 (haccess hdenied.1)
  rintro _ c₃ d₃ ⟨rfl, rfl⟩
  refine (can_detect).bind ?_
  rintro _ c₄ d₄ ⟨rfl, rfl, rfl⟩
  refine (Can.bail ?_).bind ?_
  · rintro (hother | ⟨hnamed, hchanged⟩)
    · exact hother h.exact_machine
    · refine hchanged ?_
      rw [hfits₁.same.resolve_left hnamed]
      exact same_identity_refl h.exact_machine
  rintro _ c₅ d₅ ⟨rfl, rfl⟩
  refine (can_owners c₅.base).mapError.bind ?_
  rintro _ c₆ d₆ ⟨rfl, rfl⟩
  refine ((can_probe hfits₁.bound hfits₁.answers).mapError.calm
    (calm_probe hfits₁.bound).mapError).bind ?_
  rintro base c₇ d₇ ⟨hstays₇, ⟨rfl, hsane⟩, hidentity₇, hbase₇⟩
  have hfits₇ := hfits₁.of_stays hstays₇ hbase₇ hidentity₇
  rw [← hstays₇.quiet.base] at hsane ⊢
  refine (Can.bail ?_).bind ?_
  · rw [← hbase₇]
    exact fun hstale => hstale.2 (hfits₇.base.resolve_left hstale.1)
  rintro _ c₈ d₈ ⟨rfl, rfl⟩
  refine ((can_acquire hfits₇.base hfits₇.bound).calm (calm_acquire hfits₇.bound hsane)).bind ?_
  rintro _ c₉ d₉ ⟨hstays₉, hpermission, hidentity₉, hbase₉, rfl⟩
  refine ((can_ec_read CS_FLOW).mapError.calm
    (calm_ec_read hstays₉.bound hpermission (by decide)).mapError).bind ?_
  rintro flow c₁₀ d₁₀ ⟨hstays₁₀, ⟨rfl, rfl⟩, -⟩
  have hflow : d₉.mem CS_FLOW = _ := hstays₇.quiet.flow
  rw [hflow]
  refine (Can.bail (UInt8.not_lt.mpr hpublished)).bind ?_
  rintro _ c₁₁ d₁₁ ⟨rfl, rfl⟩
  refine (Can.bail ?_).bind ?_
  · rintro ⟨expected, hmem, hne⟩
    exact hne (hexpected expected hmem)
  rintro _ c₁₂ d₁₂ ⟨rfl, rfl⟩
  refine ((Can.update _).calm (Calm.update rfl hstays₁₀.bound)).bind ?_
  rintro _ c₁₃ d₁₃ ⟨hstays₁₃, -, rfl, rfl⟩
  have hanswers := hfits₇.answers.of_config (hstays₉.trans hstays₁₀).quiet.config
  refine .pure ⟨⟨h.exact_machine, hanswers, hstays₁₃.bound, .inr ?_, .inr rfl⟩, rfl⟩
  rw [hstays₁₀.quiet.base]
  exact hbase₉

theorem can_guard (h : Fits identity c d) {writing : Bool}
    (haccess : writing = true → c.access.apply ∧ c.access.force) (hflow : d.flow = 1) :
    Can identity (guard writing) (fun _ c' d' => Fits identity c' d') c d := by
  refine (can_guard_flow h haccess ?_ ?_).bind ?_
  · rw [hflow]
    exact UInt8.le_refl 1
  · rintro _ ⟨⟩
    exact hflow
  rintro _ c₁ d₁ ⟨hfits₁, -⟩
  exact .pure hfits₁

theorem can_look (h : Fits identity c d) (hflow : d.flow = 1) :
    Can identity (guard false) (fun _ c' d' => Fits identity c' d') c d :=
  can_guard h nofun hflow

end guards

/-! ## Snapshots -/

section snapshots


theorem can_read_fields (id : Nat) (fields : List Field) (raw : Raw) :
    Can identity (read_fields id fields raw) (fun _ c' _ => c' = c) c d := by
  induction fields generalizing d raw with
  | nil => exact .pure rfl
  | cons field rest ih =>
    refine (can_ec_read _).bind ?_
    rintro value c₁ d₁ rfl
    exact ih _

theorem can_snapshot (h : Fits identity c d) {id : Nat} (hid : id < 4) (hflow : d.flow = 1)
    (hvalid : valid_raw (d.raw id) = true) :
    Can identity (snapshot id) (fun _ c' d' => Fits identity c' d') c d := by
  refine (Can.bail (by omega)).bind ?_
  rintro _ c₁ d₁ ⟨rfl, rfl⟩
  refine ((can_look h hflow).calm (calm_guard h.bound false)).bind ?_
  rintro _ c₂ d₂ ⟨hstays₂, ⟨-, hpermission, -⟩, hfits₂⟩
  refine ((can_read_fields id _ _).mapError.calm
    (calm_read_all_fields hstays₂.bound hpermission hid).mapError).bind ?_
  rintro raw c₃ d₃ ⟨hstays₃, ⟨rfl, rfl⟩, -⟩
  refine ((can_read_fields id _ _).mapError.calm
    (calm_read_all_fields hstays₃.bound hpermission hid).mapError).bind ?_
  rintro again c₄ d₄ ⟨hstays₄, ⟨rfl, rfl⟩, -⟩
  refine (Can.bail ?_).bind ?_
  · rw [hstays₃.quiet.raw, hstays₂.quiet.raw, hvalid]
    simp
  rintro _ c₅ d₅ ⟨rfl, rfl⟩
  have hstays := hstays₃.trans hstays₄
  have hfits₄ := hfits₂.of_stays hstays rfl rfl
  refine (can_look hfits₄ ?_).bind ?_
  · rw [hstays.quiet.flow, hstays₂.quiet.flow]
    exact hflow
  rintro _ c₆ d₆ hfits₆
  exact .pure hfits₆

theorem can_read (h : Fits identity c d) {id : Nat} (hid : id < 4) (hflow : d.flow = 1)
    (hvalid : valid_raw (d.raw id) = true) :
    Can identity (read id) (fun _ c' d' => Fits identity c' d') c d := by
  refine (can_snapshot h hid hflow hvalid).bind ?_
  rintro raw c₁ d₁ hfits₁
  exact .pure hfits₁

end snapshots

/-! ## Opening -/

section opening


theorem can_read_leds (ids : List Nat) (raw : Nat → Raw) :
    Can identity (read_leds ids raw) (fun _ c' _ => c' = c) c d := by
  induction ids generalizing d raw with
  | nil => exact .pure rfl
  | cons id rest ih =>
    refine (can_read_fields id _ _).bind ?_
    rintro led c₁ d₁ rfl
    exact ih _

/-- A snapshot of a whole controller whose LEDs are all valid. -/
theorem can_snapshot_all (h : Fits identity c d) {flow : UInt8} (hpublished : flow ≤ 1)
    (hflow : d.flow = flow) (hvalid : ∀ id < 4, valid_raw (d.raw id) = true) :
    Can identity (snapshot_all flow) (fun _ c' d' => Fits identity c' d' ∧ Stays d c c' d' ∧
      c'.confirmed = true) c d := by
  have hids : ∀ id ∈ leds, id < 4 := fun id hid => mem_leds.mp hid
  have hguard : ∀ {c₁ : Context} {d₁ : Device}, Fits identity c₁ d₁ → d₁.flow = flow →
      Can identity (guard_flow false (some flow)) (fun _ c' d' => Stays d₁ c₁ c' d' ∧
        c'.runtime_permission = true ∧ c'.confirmed = true ∧ Fits identity c' d') c₁ d₁ := by
    intro c₁ d₁ hfits₁ hflow₁
    have hcan := @can_guard_flow c₁ d₁ identity hfits₁ false (some flow) nofun
      (by rw [hflow₁]; exact hpublished) (by rintro _ ⟨⟩; exact hflow₁)
    refine (hcan.calm (calm_guard_flow hfits₁.bound false (some flow))).mono ?_
    rintro _ c' d' ⟨hstays, ⟨-, -, -, hpermission, hconfirmed⟩, hfits, -⟩
    exact ⟨hstays, hpermission, hconfirmed, hfits⟩
  refine (hguard h hflow).bind ?_
  rintro observed c₁ d₁ ⟨hstays₁, hpermission, -, hfits₁⟩
  refine ((can_read_leds leds _).mapError.calm
    (calm_read_leds hstays₁.bound hpermission hids _).mapError).bind ?_
  rintro raw c₂ d₂ ⟨hstays₂, ⟨rfl, hraw⟩, -⟩
  refine ((can_read_leds leds _).mapError.calm
    (calm_read_leds hstays₂.bound hpermission hids _).mapError).bind ?_
  rintro again c₃ d₃ ⟨hstays₃, ⟨rfl, hagain⟩, -⟩
  have hraw' : ∀ id < 4, raw id = d.raw id := by
    intro id hid
    rw [hraw id, if_pos (mem_leds.mpr hid), hstays₁.quiet.raw]
  have hagain' : ∀ id < 4, again id = d.raw id := by
    intro id hid
    rw [hagain id, if_pos (mem_leds.mpr hid), hstays₂.quiet.raw, hstays₁.quiet.raw]
  refine (Can.bail ?_).bind ?_
  · have hsame : same_leds raw again = true :=
      (same_leds_iff _ _).mpr fun id hid => (hraw' id hid).trans (hagain' id hid).symm
    simp [hsame]
  rintro _ c₄ d₄ ⟨rfl, rfl⟩
  refine (Can.bail ?_).bind ?_
  · rintro ⟨id, hid, hinvalid⟩
    rw [hraw' id (mem_leds.mp hid), hvalid id (mem_leds.mp hid)] at hinvalid
    cases hinvalid
  rintro _ c₅ d₅ ⟨rfl, rfl⟩
  have hstays := hstays₂.trans hstays₃
  have hflow₅ := (hstays₁.trans hstays).quiet.flow.trans hflow
  refine (hguard (hfits₁.of_stays hstays rfl rfl) hflow₅).bind ?_
  rintro _ c₆ d₆ ⟨hstays₆, -, hconfirmed, hfits₆⟩
  exact .pure ⟨hfits₆, (hstays₁.trans hstays).trans hstays₆, hconfirmed⟩

/-- A context that no guard has seen yet. -/
structure Unlinked (c : Context) : Prop where
  base : c.base = 0
  permission : c.runtime_permission = false

theorem can_open_ports (hmachine : is_exact identity = true) (hanswers : Answers d)
    (hunlinked : Unlinked c) :
    Can identity open_ports (fun _ c' d' => Fits identity c' d' ∧ c'.toMemory = c.toMemory ∧ d' = d) c d := by
  refine (can_detect).bind ?_
  rintro _ c₁ d₁ ⟨rfl, rfl, rfl⟩
  refine (Can.bail (not_not.mpr hmachine)).bind ?_
  rintro _ c₂ d₂ ⟨rfl, rfl⟩
  refine (Can.update _).bind ?_
  rintro _ c₃ d₃ ⟨rfl, rfl⟩
  refine (can_owners 0).mapError.bind ?_
  rintro _ c₄ d₄ ⟨rfl, rfl⟩
  refine can_lock.mapError.bind ?_
  rintro _ c₅ d₅ ⟨rfl, rfl⟩
  refine (Can.update _).bind ?_
  rintro _ c₆ d₆ ⟨rfl, rfl⟩
  refine (can_owners 0).mapError.bind ?_
  rintro _ c₇ d₇ ⟨rfl, rfl⟩
  refine (can_permission CS_INDEX 2 true).mapError.bind ?_
  rintro _ c₈ d₈ ⟨rfl, rfl⟩
  refine (Can.update _).mono ?_
  rintro _ c₉ d₉ ⟨rfl, rfl⟩
  refine ⟨⟨hmachine, hanswers, fun hpermission => ?_, .inl hunlinked.base, .inr rfl⟩, rfl, rfl⟩
  have hnone : c₂.runtime_permission = true := hpermission
  rw [hunlinked.permission] at hnone
  cases hnone

/-- A holder opens on a controller whose flow is already held. -/
theorem can_open_holder (h : Fits identity c d) (hflow : d.flow = 1)
    (hvalid : ∀ id < 4, valid_raw (d.raw id) = true) (takeover_flow : Bool) :
    Can identity (open_holder takeover_flow) (fun _ c' d' => Fits identity c' d' ∧ Quiet d d' ∧
      c'.access = c.access ∧ c'.confirmed = true) c d := by
  have hpublished : d.flow ≤ 1 := by
    rw [hflow]
    exact UInt8.le_refl 1
  refine ((@can_guard_flow c d identity h false none nofun hpublished nofun).calm
    (calm_guard_flow h.bound false none)).bind ?_
  rintro flow c₁ d₁ ⟨hstays₁, ⟨rfl, -⟩, hfits₁, -⟩
  rw [hflow]
  refine (Can.update _).bind ?_
  rintro _ c₂ d₂ ⟨rfl, rfl⟩
  refine (Can.bail (by simp)).bind ?_
  rintro _ c₃ d₃ ⟨rfl, rfl⟩
  have hflow₁ := hstays₁.quiet.flow.trans hflow
  have hvalid₁ : ∀ id < 4, valid_raw (d₃.raw id) = true := by
    rw [hstays₁.quiet.raw]
    exact hvalid
  have hfits₃ : Fits identity { c₁ with original_flow := 1 } d₃ :=
    ⟨h.exact_machine, hfits₁.answers, hfits₁.bound, hfits₁.base, hfits₁.same⟩
  refine ((can_snapshot_all hfits₃ (UInt8.le_refl 1) hflow₁ hvalid₁).calm
    (calm_snapshot_all hfits₃.bound 1)).bind ?_
  rintro original c₄ d₄ ⟨hstays₄, ⟨horiginal, -⟩, hfits₄, -⟩
  refine (Can.update _).bind ?_
  rintro _ c₅ d₅ ⟨rfl, rfl⟩
  -- the flow is not written, and the LEDs have not changed
  refine (Can.pure (Q := fun _ c' d' =>
    c' = { c₄ with original := original, restore_pending := true } ∧ d' = d₅) ⟨rfl, rfl⟩).bind ?_
  rintro _ c₆ d₆ ⟨rfl, rfl⟩
  have hfits₆ : Fits identity { c₄ with original := original, restore_pending := true } d₆ :=
    ⟨h.exact_machine, hfits₄.answers, hfits₄.bound, hfits₄.base, hfits₄.same⟩
  have hflow₆ := hstays₄.quiet.flow.trans hflow₁
  have hvalid₆ : ∀ id < 4, valid_raw (d₆.raw id) = true := by
    rw [hstays₄.quiet.raw]
    exact hvalid₁
  refine ((can_snapshot_all hfits₆ (UInt8.le_refl 1) hflow₆ hvalid₆).calm
    (calm_snapshot_all hfits₆.bound 1)).bind ?_
  rintro actual c₇ d₇ ⟨hstays₇, ⟨hactual, -⟩, hfits₇, -, hconfirmed₇⟩
  refine (Can.bail ?_).mono ?_
  · have hsame : same_leds actual original = true := by
      apply (same_leds_iff _ _).mpr
      intro id hid
      rw [hactual id hid, horiginal id hid, hstays₄.quiet.raw]
    simp [hsame]
  rintro _ c₈ d₈ ⟨rfl, rfl⟩
  refine ⟨hfits₇, (hstays₁.quiet.trans hstays₄.quiet).trans hstays₇.quiet, ?_, hconfirmed₇⟩
  have haccess₇ : c₈.toMemory.access = c₄.toMemory.access := by rw [hstays₇.memory]
  have haccess₄ : c₄.toMemory.access = c₁.toMemory.access := by rw [hstays₄.memory]
  have haccess₁ : c₁.toMemory.access = c.toMemory.access := by rw [hstays₁.memory]
  exact (haccess₇.trans haccess₄).trans haccess₁

/-- `open_context` may succeed as a holder. -/
theorem can_open_context (hmachine : is_exact identity = true) (hanswers : Answers d)
    (hflow : d.flow = 1) (hvalid : ∀ id < 4, valid_raw (d.raw id) = true) (takeover_flow : Bool) :
    ∃ c' d', Prog.Runs access (open_context ⟨true, true⟩ true takeover_flow) d (.ok c') d' ∧
      Fits identity c' d' ∧ Quiet d d' ∧ c'.access = ⟨true, true⟩ ∧ c'.confirmed = true := by
  have hopen : Can identity (open_steps takeover_flow) (fun _ c' d' => Fits identity c' d' ∧ Quiet d d' ∧
      c'.access = ⟨true, true⟩ ∧ c'.confirmed = true)
      { access := ⟨true, true⟩, holder := true } d := by
    refine (can_open_ports hmachine hanswers ⟨rfl, rfl⟩).bind ?_
    rintro _ c₁ d₁ ⟨hfits₁, hmemory₁, rfl⟩
    refine Can.ctx.bind ?_
    rintro _ c₂ d₂ ⟨rfl, rfl, rfl⟩
    have hholder : c₂.holder = true := congrArg Memory.holder hmemory₁
    have haccess : c₂.access = ⟨true, true⟩ := congrArg Memory.access hmemory₁
    rw [if_pos hholder]
    refine (can_open_holder hfits₁ hflow hvalid takeover_flow).mono ?_
    rintro _ c₃ d₃ ⟨hfits₃, hquiet₃, haccess₃, hconfirmed₃⟩
    exact ⟨hfits₃, hquiet₃, haccess₃.trans haccess, hconfirmed₃⟩
  obtain ⟨_, c', d', hrun, _, rfl, hopened⟩ := hopen
  refine ⟨c', d', ?_, hopened⟩
  have hopening : Proc.Runs access (recover (open_steps takeover_flow) open_failed)
      { access := ⟨true, true⟩, holder := true } d (.ok ()) c' d' :=
    Prog.Runs.bind (Prog.Runs.mono steady_access hrun) .pure
  have hcalloc : Prog.Runs access (Prog.call CsOp.calloc) d true d := .op rfl .pure
  refine Prog.Runs.bind hcalloc ?_
  rw [if_neg (by decide), if_neg (by decide)]
  exact Prog.Runs.bind hopening .pure

end opening

/-! ## Writes -/

section writes


theorem can_ec_write (h : Bound d c) (hpermission : c.runtime_permission = true) {reg : Nat}
    (hreg : reg < 2 ^ 32) (value : UInt8) :
    Can identity (ec_write reg value) (fun _ c' d' => c' = c ∧ d'.config = d.config ∧
      d'.mem = Function.update d.mem reg value) c d := by
  refine ((can_address reg).calm (calm_address h hpermission hreg)).bind ?_
  rintro _ c₁ d₁ ⟨hstays₁, ⟨rfl, hselected⟩, -⟩
  refine Can.ctx.bind ?_
  rintro _ c₂ d₂ ⟨rfl, rfl, rfl⟩
  obtain ⟨hbase, hsane⟩ := hstays₁.bound hpermission
  refine (can_port_write _ value).mono ?_
  rintro _ c₃ d₃ ⟨rfl, rfl⟩
  rw [hbase]
  simp only [Device.write, port_data hsane, hselected]
  exact ⟨trivial, hstays₁.quiet.config, by rw [hstays₁.quiet.mem]⟩

theorem can_verified_write (h : Bound d c) (hpermission : c.runtime_permission = true) {reg : Nat}
    (hreg : reg < 2 ^ 32) (value : UInt8) (message mismatch : String) :
    Can identity (verified_write reg value message mismatch)
      (fun _ c' d' => c' = c ∧ d'.config = d.config) c d := by
  refine (can_ec_write h hpermission hreg value).mapError.bind ?_
  rintro _ c₁ d₁ ⟨rfl, hconfig₁, hmem₁⟩
  refine (can_pause_ms 1).bind ?_
  rintro _ c₂ d₂ ⟨rfl, rfl⟩
  have hbound := h.of_config hconfig₁
  refine ((can_ec_read reg).mapError.calm (calm_ec_read hbound hpermission hreg).mapError).bind ?_
  rintro actual c₃ d₃ ⟨hstays₃, ⟨rfl, rfl⟩, -⟩
  refine (Can.bail ?_).mono ?_
  · rw [hmem₁]
    simp
  · rintro _ c₄ d₄ ⟨rfl, rfl⟩
    exact ⟨rfl, hstays₃.quiet.config.trans hconfig₁⟩

theorem can_write_byte (h : Fits identity c d) (haccess : c.access.apply ∧ c.access.force)
    (hflow : d.flow = 1) {id : Nat} (hid : id < 4) (field : Field) (value : UInt8) :
    Can identity (write_byte id field value) (fun _ c' d' => Fits identity c' d') c d := by
  refine ((can_guard h (fun _ => haccess) hflow).calm (calm_guard h.bound true)).bind ?_
  rintro _ c₁ d₁ ⟨hstays₁, ⟨-, hpermission, -⟩, hfits₁⟩
  refine (can_verified_write hstays₁.bound hpermission (reg_address_lt hid field) value _ _).mono ?_
  rintro _ c₂ d₂ ⟨rfl, hconfig⟩
  have hbase : d₂.base = d₁.base := by simp only [Device.base, hconfig]
  refine ⟨h.exact_machine, hfits₁.answers.of_config hconfig, hfits₁.bound.of_config hconfig, ?_,
    hfits₁.same⟩
  rw [hbase]
  exact hfits₁.base

/-- What is left of an LED transaction can go on. -/
structure Going (identity : Identity) (d₀ : Device) (id : Nat) (c c' : Context) (d' : Device) :
    Prop where
  fits : Fits identity c' d'
  led : OnLed d₀ id (fun _ => True) d'
  memory : c'.toMemory = c.toMemory

variable {d₀ : Device} {id : Nat}

theorem Going.access (h : Going identity d₀ id c c' d') (haccess : c.access.apply ∧ c.access.force) :
    c'.access.apply ∧ c'.access.force := by
  have hsame : c'.access = c.access := congrArg Memory.access h.memory
  rw [hsame]
  exact haccess

theorem can_write_byte_led (h : Going identity d₀ id c c' d')
    (haccess : c.access.apply ∧ c.access.force) (hflow : d₀.flow = 1) (hid : id < 4)
    (field : Field) (value : UInt8) :
    Can identity (write_byte id field value) (fun _ => Going identity d₀ id c) c' d' := by
  have hflow' : d'.flow = 1 := (h.led.flow hid).trans hflow
  have hled : OnLed d₀ id (· = d'.raw id) d' := ⟨h.led.config, h.led.frame, rfl⟩
  refine ((can_write_byte h.fits (h.access haccess) hflow' hid field value).and_wp
    (@write_byte_led _ _ d₀ id (fun _ => True) h.fits.bound hid _ hled field value trivial
      trivial)).mono ?_
  rintro _ c₁ d₁ ⟨⟨hkept, hled₁, -⟩, hfits₁⟩
  exact ⟨hfits₁, hled₁, hkept.memory.trans h.memory⟩

theorem can_write_fields (h : Going identity d₀ id c c' d')
    (haccess : c.access.apply ∧ c.access.force) (hflow : d₀.flow = 1) (hid : id < 4)
    (wanted before : Raw) (restore quiesce : Bool) (fields : List Field) :
    Can identity (write_fields id wanted before restore quiesce fields)
      (fun _ => Going identity d₀ id c) c' d' := by
  induction fields generalizing c' d' with
  | nil => exact .pure h
  | cons field rest ih =>
    unfold write_fields
    split
    · refine (can_write_byte_led h haccess hflow hid field (wanted field)).bind ?_
      intro _ c₁ d₁ h₁
      exact ih h₁
    · exact ih h

theorem can_quiesce (h : Going identity d₀ id c c' d')
    (haccess : c.access.apply ∧ c.access.force) (hflow : d₀.flow = 1) (hid : id < 4)
    (needed : Bool) : Can identity (quiesce id needed) (fun _ => Going identity d₀ id c) c' d' := by
  cases needed with
  | true => exact can_write_byte_led h haccess hflow hid .mode 0
  | false => exact .pure h

/-- A transaction towards valid bytes. -/
theorem can_commit (h : Going identity d₀ id c c' d')
    (haccess : c.access.apply ∧ c.access.force) (hflow : d₀.flow = 1) (hid : id < 4)
    {wanted before : Raw} {restore : Bool} (hbefore : restore = false → d'.raw id = before)
    (hwanted : valid_raw wanted = true) :
    Can identity (commit id wanted before restore) (fun _ => Going identity d₀ id c) c' d' := by
  have hled : OnLed d₀ id (· = d'.raw id) d' := ⟨h.led.config, h.led.frame, rfl⟩
  refine ((can_quiesce h haccess hflow hid _).and_wp
    (@quiesce_spec _ _ d₀ id (fun _ => True) h.fits.bound hid _ hled _ trivial trivial)).bind ?_
  rintro _ c₁ d₁ ⟨⟨hkept₁, -, hled₁⟩, h₁⟩
  have hled₁ := hled₁ rfl
  rw [← mix_write_order (quiesced (quiesces wanted before restore) (d'.raw id)) wanted] at hled₁
  refine ((can_write_fields h₁ haccess hflow hid wanted before restore _ write_order).and_wp
    (@write_fields_spec _ _ d₀ id (fun _ => True) h₁.fits.bound hid _ _ _ _ _ _ (by decide) hled₁
      (fun _ _ => trivial) fun field _ hskip => skipped_field hbefore hskip)).bind ?_
  rintro _ c₂ d₂ ⟨⟨hkept₂, -, hled₂⟩, h₂⟩
  have hraw₂ : d₂.raw id = wanted := (hled₂ rfl).led
  have hflow₂ : d₂.flow = 1 := (h₂.led.flow hid).trans hflow
  refine ((can_snapshot h₂.fits hid hflow₂ (by rw [hraw₂]; exact hwanted)).calm
    (calm_snapshot h₂.fits.bound id)).bind ?_
  rintro _ c₃ d₃ ⟨hstays₃, ⟨-, rfl, -⟩, hfits₃⟩
  refine (Can.bail (not_ne_iff.mpr hraw₂)).mono ?_
  rintro _ c₄ d₄ ⟨rfl, rfl⟩
  exact ⟨hfits₃, h₂.led.of_quiet hstays₃.quiet, hstays₃.memory.trans h₂.memory⟩

theorem can_commit_or_restore (h : Going identity d₀ id c c' d')
    (haccess : c.access.apply ∧ c.access.force) (hflow : d₀.flow = 1) (hid : id < 4)
    {wanted : Raw} (hwanted : valid_raw wanted = true) :
    Can identity (commit_or_restore id wanted (d'.raw id)) (fun _ => Going identity d₀ id c) c' d' := by
  refine may_handle (can_commit h haccess hflow hid (fun _ => rfl) hwanted) ?_ ?_
  · rintro _ c₁ d₁ ⟨_, ⟨⟩, h₁⟩
    exact ⟨(), rfl, h₁⟩
  · rintro _ _ _ ⟨_, ⟨⟩, -⟩

/-- A patch that passes the checks may be applied. -/
theorem can_apply (h : Fits identity c d) (haccess : c.access.apply ∧ c.access.force)
    (hflow : d.flow = 1) (hid : id < 4) (hunsaved : c.identify_saved = false) {patch : Patch}
    (hpatch : validate_patch patch = .ok ()) (hbefore : valid_raw (d.raw id) = true)
    (hwanted : valid_raw (patched patch (d.raw id)) = true) :
    Can identity (apply id patch) (fun _ c' d' => Fits identity c' d') c d := by
  have hprepare : Can identity (prepare id patch) (fun p c' d' => Fits identity c' d' ∧
      p = (d'.raw id, patched patch (d.raw id)) ∧ Stays d c c' d') c d := by
    refine Can.ctx.bind ?_
    rintro _ c₁ d₁ ⟨rfl, rfl, rfl⟩
    refine (Can.bail (by omega)).bind ?_
    rintro _ c₂ d₂ ⟨rfl, rfl⟩
    refine (Can.bail (by simp [hunsaved])).bind ?_
    rintro _ c₃ d₃ ⟨rfl, rfl⟩
    rw [hpatch]
    refine (Can.lift (Q := fun _ c' d' => c' = c₃ ∧ d' = d₃) ⟨rfl, rfl⟩).bind ?_
    rintro _ c₄ d₄ ⟨rfl, rfl⟩
    refine ((can_guard h (fun _ => haccess) hflow).calm (calm_guard h.bound true)).bind ?_
    rintro _ c₅ d₅ ⟨hstays₅, -, hfits₅⟩
    have hraw₅ := hstays₅.quiet.raw
    have hflow₅ := hstays₅.quiet.flow.trans hflow
    refine ((can_snapshot hfits₅ hid hflow₅ (by rw [hraw₅]; exact hbefore)).calm
      (calm_snapshot hfits₅.bound id)).bind ?_
    rintro _ c₆ d₆ ⟨hstays₆, ⟨-, rfl, -⟩, hfits₆⟩
    rw [hraw₅]
    refine (Can.bail (by simp [hwanted])).bind ?_
    rintro _ c₇ d₇ ⟨rfl, rfl⟩
    refine .pure ⟨hfits₆, ?_, hstays₅.trans hstays₆⟩
    rw [hstays₆.quiet.raw, hraw₅]
  refine hprepare.bind ?_
  rintro _ c₁ d₁ ⟨hfits₁, rfl, hstays₁⟩
  have hgoing : Going identity d id c c₁ d₁ :=
    ⟨hfits₁, (OnLed.refl trivial).of_quiet hstays₁.quiet, hstays₁.memory⟩
  refine (can_commit_or_restore hgoing haccess hflow hid hwanted).bind ?_
  rintro _ c₂ d₂ h₂
  exact .pure h₂.fits

end writes

/-! ## The machine -/

/-- The one supported model. -/
def gt_profile : Profile where
  id := "dxp2800gt-cs201x"
  product_name := "DXP2800 GT"
  protocol := "cs201x-sio"
  leds := [⟨"power", 0⟩, ⟨"netdev", 1⟩, ⟨"disk1", 2⟩, ⟨"disk2", 3⟩]

def gt_identity : Identity :=
  { product_name := "DXP2800 GT", source := "dmi", profile := some gt_profile }

/-- A chip at base `0x0a20` whose flow is held, with the power LED blinking
    once in two seconds. -/
def gt_device : Device where
  index := 0
  ldn := 0
  config := fun _ index =>
    match index with
    | 0x20 => 0x20
    | 0x21 => 0x11
    | 0x30 => 1
    | 0x60 => 0x0a
    | 0x61 => 0x20
    | _ => 0
  latch := fun _ => 0
  mem := fun reg =>
    if reg = CS_FLOW then 1
    else if reg = reg_address 0 .mode then 2
    else if reg = reg_address 0 .period then 40
    else if reg = reg_address 0 .duty then 20
    else 0
  data_writes := 0

/-- A holder's context before its first guard. -/
def gt_context : Context := { access := ⟨true, true⟩, holder := true }

theorem gt_answers : Answers gt_device := by
  refine ⟨fun _ => ?_, rfl, by decide⟩
  show (0x20 : UInt8).toNat * 256 + (0x11 : UInt8).toNat = 0x2011
  decide

theorem gt_fits : Fits gt_identity gt_context gt_device :=
  ⟨by decide, gt_answers, nofun, .inl rfl, .inl rfl⟩

theorem gt_valid : ∀ id < 4, valid_raw (gt_device.raw id) = true := by
  decide

end UgreenNas.Led.Cs201x
