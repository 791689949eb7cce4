import UgreenNas.Led.Cs201x.Healthy

/-! # A machine that is lost

    The other side of `Healthy`: whatever has gone well so far, the next
    guard may fail with any error number, because the machine can no longer
    be detected, and the transport stops where it is.
-/

namespace UgreenNas.Led.Cs201x

open Effect Effect.Proc

variable {c : Context} {d : Device}

/-! ## Failing runs -/

/-- `m` may fail with `errno`, and satisfy `P` then. -/
def Lost {α : Type} (errno : Errno) (m : Fun α) (P : Context → Device → Prop) (c : Context)
    (d : Device) : Prop :=
  May access m (fun r c' d' => (∃ e, r = .error e ∧ e.errno = errno) ∧ P c' d') c d

namespace Lost

variable {α β : Type} {errno : Errno} {P : Context → Device → Prop}

theorem first {m : Fun α} {f : α → Fun β} (h : Lost errno m P c d) :
    Lost errno (m >>= f) P c d := by
  apply may_seq h
  · intro a c' d' hlost
    obtain ⟨⟨e, heq, -⟩, -⟩ := hlost
    cases heq
  · intro e c' d' hlost
    obtain ⟨⟨e', heq, herrno⟩, hP⟩ := hlost
    cases heq
    exact ⟨⟨e, rfl, herrno⟩, hP⟩

/-- What comes first may succeed. -/
theorem later {m : Fun α} {f : α → Fun β} {identity : Identity} {Q : α → Context → Device → Prop}
    (hm : Can identity m Q c d) (hf : ∀ a c' d', Q a c' d' → Lost errno (f a) P c' d') :
    Lost errno (m >>= f) P c d := by
  apply may_seq hm.may
  · intro a c' d' hcan
    obtain ⟨_, heq, hQ⟩ := hcan
    cases heq
    exact hf a c' d' hQ
  · intro e c' d' hcan
    obtain ⟨_, heq, -⟩ := hcan
    cases heq

theorem ctx {f : Context → Fun β} (h : Lost errno (f c) P c d) :
    Lost errno (Proc.ctx >>= f) P c d := by
  apply later (@Can.ctx c d gt_identity _)
  intro _ c' d' hctx
  obtain ⟨rfl, rfl, rfl⟩ := hctx
  exact h

theorem update {g : Context → Context} {f : Unit → Fun β} (h : Lost errno (f ()) P (g c) d) :
    Lost errno (Proc.update g >>= f) P c d := by
  apply later (@Can.update c d gt_identity _ g)
  intro _ c' d' hupdate
  obtain ⟨rfl, rfl⟩ := hupdate
  exact h

theorem bail {p : Prop} [Decidable p] {e : Failure} {f : Unit → Fun β} (hp : ¬ p)
    (h : Lost errno (f ()) P c d) : Lost errno (Proc.bail p e >>= f) P c d := by
  apply later (@Can.bail c d gt_identity _ p _ e hp)
  intro _ c' d' hbail
  obtain ⟨rfl, rfl⟩ := hbail
  exact h

theorem mono {m : Fun α} {R : Context → Device → Prop} (h : Lost errno m P c d)
    (hPR : ∀ c' d', P c' d' → R c' d') : Lost errno m R c d :=
  may_mono h fun _ c' d' hlost => ⟨hlost.1, hPR c' d' hlost.2⟩

theorem mapError {m : Fun α} {f : Failure → Failure} (h : Lost errno m P c d)
    (hf : ∀ e, (f e).errno = e.errno) : Lost errno (Proc.mapError m f) P c d := by
  apply may_handle h
  · intro a c' d' hlost
    obtain ⟨⟨e, heq, -⟩, -⟩ := hlost
    cases heq
  · intro e c' d' hlost
    obtain ⟨⟨e', heq, herrno⟩, hP⟩ := hlost
    cases heq
    exact may_fail ⟨⟨f e, rfl, (hf e).trans herrno⟩, hP⟩

end Lost

/-- A context whose last guard failed. -/
def unconfirmed (c : Context) : Context := { c with confirmed := false }

/-! ## Guards that fail -/

section lost

variable {errno : Errno} {id : Nat}

/-- A guard that cannot detect the machine has touched nothing. -/
theorem lost_guard {writing : Bool} (haccess : writing = true → c.access.apply ∧ c.access.force) :
    Lost errno (guard writing) (fun c' d' => c' = unconfirmed c ∧ d' = d) c d := by
  have hdetect : Lost errno detect (fun c' d' => c' = unconfirmed c ∧ d' = d) (unconfirmed c) d := by
    refine ⟨.error (failure errno "DMI is unavailable"), unconfirmed c, d, ?_,
      ⟨_, rfl, rfl⟩, rfl, rfl⟩
    exact @Prog.Runs.op cs_io _ _ access .detect _ d d _
      (.error (errno, "DMI is unavailable")) _ rfl .pure
  apply Lost.first
  apply Lost.update
  apply Lost.ctx
  apply Lost.bail fun hdenied => hdenied.2 (haccess hdenied.1)
  exact hdetect.first

theorem lost_snapshot (hid : id < 4) :
    Lost errno (snapshot id) (fun c' d' => c' = unconfirmed c ∧ d' = d) c d := by
  apply Lost.bail (by omega)
  apply Lost.first
  exact lost_guard nofun

/-- A restoration starts with a guard. -/
theorem lost_restore (haccess : c.access.apply ∧ c.access.force) (wanted before : Raw) :
    Lost errno (commit id wanted before true) (fun c' d' => c' = unconfirmed c ∧ d' = d) c d := by
  have hwrite : Lost errno (write_byte id .mode 0) (fun c' d' => c' = unconfirmed c ∧ d' = d) c d :=
    (lost_guard fun _ => haccess).first
  exact Lost.first hwrite

theorem lost_restore_after_error (haccess : c.access.apply ∧ c.access.force) (before wanted : Raw)
    (cause : Failure) :
    Lost errno (restore_after_error id before wanted cause)
      (fun c' d' => c' = unconfirmed c ∧ d' = d) c d := by
  have hattempt : May access (attempt (commit id before wanted true) : Fun (Except Failure Unit))
      (fun r c' d' => ∃ e, r = .ok (.error e) ∧ e.errno = errno ∧ c' = unconfirmed c ∧ d' = d)
      c d := by
    apply may_attempt
    apply may_mono (lost_restore haccess before wanted)
    intro r c' d' hlost
    obtain ⟨⟨e, rfl, herrno⟩, hsame⟩ := hlost
    exact ⟨e, rfl, herrno, hsame⟩
  apply may_seq hattempt
  · intro r c' d' hr
    obtain ⟨e, heq, herrno, hsame⟩ := hr
    cases heq
    exact may_fail ⟨⟨_, rfl, herrno⟩, hsame⟩
  · intro e c' d' hr
    obtain ⟨_, heq, -⟩ := hr
    cases heq

/-- An END that cannot even start keeps its snapshot. -/
theorem lost_end (haccess : c.access.apply ∧ c.access.force) (hid : id < 4)
    (hsaved : c.identify_saved = true) (hmatch : c.identify_id = id) :
    Lost errno (end_identify id) (fun c' d' => c' = unconfirmed c ∧ d' = d) c d := by
  apply Lost.ctx
  apply Lost.bail (by omega)
  apply Lost.bail (by simp [hsaved])
  apply Lost.bail (not_ne_iff.mpr hmatch.symm)
  apply Lost.first
  exact (lost_restore haccess _ _).mapError fun _ => rfl

/-- A transaction may fail when everything is written. -/
theorem lost_commit {identity : Identity} (h : Fits identity c d)
    (haccess : c.access.apply ∧ c.access.force) (hflow : d.flow = 1) (hid : id < 4)
    (wanted : Raw) :
    Lost errno (commit id wanted (d.raw id) false) (fun c' d' => c'.toMemory = c.toMemory ∧
      d'.raw id = wanted) c d := by
  have hgoing : Going identity d id c c d := ⟨h, .refl trivial, rfl⟩
  have hled : OnLed d id (· = d.raw id) d := .refl rfl
  apply Lost.later ((can_quiesce hgoing haccess hflow hid _).and_wp
    (@quiesce_spec _ _ d id (fun _ => True) h.bound hid _ hled _ trivial trivial))
  intro _ c₁ d₁ h₁
  obtain ⟨⟨-, -, hled₁⟩, hgoing₁⟩ := h₁
  have hled₁ := hled₁ rfl
  rw [← mix_write_order (quiesced (quiesces wanted (d.raw id) false) (d.raw id)) wanted] at hled₁
  apply Lost.later ((can_write_fields hgoing₁ haccess hflow hid wanted (d.raw id) false _
    write_order).and_wp (@write_fields_spec _ _ d id (fun _ => True) hgoing₁.fits.bound hid _ _ _ _
      _ _ (by decide) hled₁ (fun _ _ => trivial) fun field _ hskip =>
        skipped_field (fun _ => rfl) hskip))
  intro _ c₂ d₂ h₂
  obtain ⟨⟨-, -, hled₂⟩, hgoing₂⟩ := h₂
  -- the final snapshot is the one that fails
  apply Lost.first
  apply (lost_snapshot hid).mono
  intro c₃ d₃ h₃
  obtain ⟨rfl, rfl⟩ := h₃
  exact ⟨hgoing₂.memory, (hled₂ rfl).led⟩

/-- A BEGIN may fail when the effect is on, and leave it on. -/
theorem lost_begin {identity : Identity} (h : Fits identity c d)
    (haccess : c.access.apply ∧ c.access.force) (hflow : d.flow = 1) (hid : id < 4)
    (hunsaved : c.identify_saved = false) (hvalid : valid_raw (d.raw id) = true) :
    Lost errno (begin_identify id) (fun c' d' => c'.access = c.access ∧ c'.identify_saved = true ∧
      c'.identify_id = id ∧ d'.raw id = identify_effect) c d := by
  apply Lost.ctx
  apply Lost.bail (by omega)
  apply Lost.bail (by simp [hunsaved])
  apply Lost.later ((can_guard h (fun _ => haccess) hflow).calm (calm_guard h.bound true))
  intro _ c₄ d₄ h₄
  obtain ⟨hstays₄, -, hfits₄⟩ := h₄
  have hraw₄ := hstays₄.quiet.raw
  have hflow₄ := hstays₄.quiet.flow.trans hflow
  apply Lost.later ((can_snapshot hfits₄ hid hflow₄ (by rw [hraw₄]; exact hvalid)).calm
    (calm_snapshot hfits₄.bound id))
  intro original c₅ d₅ h₅
  obtain ⟨hstays₅, ⟨-, rfl, -⟩, hfits₅⟩ := h₅
  apply Lost.update
  have hflow₆ := hstays₅.quiet.flow.trans hflow₄
  have hmemory₅ := (hstays₄.trans hstays₅).memory
  have haccess₅ : c₅.toMemory.access = c.toMemory.access := by rw [hmemory₅]
  have haccess₆ : c₅.access.apply ∧ c₅.access.force := by
    rw [haccess₅]
    exact haccess
  rw [← hstays₅.quiet.raw]
  have hfits₆ : Fits identity (save_identify id (d₅.raw id) c₅) d₅ :=
    ⟨h.exact_machine, hfits₅.answers, hfits₅.bound, hfits₅.base, hfits₅.same⟩
  apply may_handle (@lost_commit _ _ errno id _ hfits₆ haccess₆ hflow₆ hid identify_effect)
  · intro _ c₇ d₇ hlost
    obtain ⟨⟨e, heq, -⟩, -⟩ := hlost
    cases heq
  · intro e c₇ d₇ hlost
    obtain ⟨-, hmemory₇, hraw₇⟩ := hlost
    have haccess₇ : c₇.toMemory.access = c₅.toMemory.access := by
      rw [hmemory₇]
      rfl
    have haccess₈ : c₇.access.apply ∧ c₇.access.force := by
      rw [haccess₇]
      exact haccess₆
    -- and so does the restoration
    apply (lost_restore_after_error haccess₈ (d₅.raw id) identify_effect e).mono
    intro c₈ d₈ h₈
    obtain ⟨rfl, rfl⟩ := h₈
    refine ⟨haccess₇.trans haccess₅, ?_, ?_, hraw₇⟩
    · exact congrArg Memory.identify_saved hmemory₇
    · exact congrArg Memory.identify_id hmemory₇

end lost

end UgreenNas.Led.Cs201x
