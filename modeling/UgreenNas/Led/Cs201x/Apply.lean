import UgreenNas.Led.Cs201x.Healthy
import UgreenNas.Led.Cs201x.Validators
import Mathlib.Data.List.Infix

/-! # Applying a patch

    `apply` is atomic on its LED, and the effect of an LED is valid in every
    state that a transaction or its undoing passes through.
-/

namespace UgreenNas.Led.Cs201x

open Effect Effect.Proc

variable {c : Context} {d : Device}

/-! ## Valid effects -/

/-- The mode is written last. -/
theorem mode_mem_or_nil {suffix : List Field} (h : suffix <:+ write_order) :
    .mode ∈ suffix ∨ suffix = [] := by
  have hall : ∀ rest ∈ write_order.tails, Field.mode ∈ rest ∨ rest = [] := by decide
  exact hall suffix ((List.mem_tails suffix write_order).mpr h)

/-- While the mode is still to be written the effect is off, or it is on
    with a timing that does not change. -/
theorem valid_mix {suffix : List Field} (h : suffix <:+ write_order) {start wanted : Raw}
    (hstart : valid_raw start = true) (hwanted : valid_raw wanted = true)
    (hquiet : (start .mode).toNat < 2 ∨
      wanted .period = start .period ∧ wanted .duty = start .duty) :
    valid_raw (mix suffix start wanted) = true := by
  rcases mode_mem_or_nil h with hmode | rfl
  · have hmix : mix suffix start wanted .mode = start .mode := by simp [mix, hmode]
    rcases hquiet with hoff | ⟨hperiod, hduty⟩
    · apply valid_raw_of_off
      rw [hmix]
      exact hoff
    · rw [← hstart]
      apply valid_raw_congr hmix
      · simp [mix, hperiod]
      · simp [mix, hduty]
  · rw [mix_nil]
    exact hwanted

theorem admits_valid {wanted before : Raw} (hbefore : valid_raw before = true)
    (hwanted : valid_raw wanted = true) : Admits (valid_raw · = true) wanted before := by
  refine ⟨hbefore, fun suffix hsuffix => ?_, fun raw suffix hsuffix => ?_⟩
  · cases hneeded : quiesces wanted before false with
    | true =>
      have hoff : (quiesced true before .mode).toNat < 2 := by simp [quiesced]
      exact valid_mix hsuffix (valid_raw_of_off hoff) hwanted (.inl hoff)
    | false =>
      refine valid_mix hsuffix hbefore hwanted ?_
      -- not quiescing: no effect is on, or its timing stays
      simp only [quiesces, Bool.false_or, Bool.and_eq_false_iff, Bool.or_eq_false_iff,
        decide_eq_false_iff_not, ne_eq, not_not] at hneeded
      rcases hneeded with hoff | htiming
      · left
        have hlt : before .mode < 2 := UInt8.not_le.mp hoff
        exact UInt8.lt_iff_toNat_lt.mp hlt
      · exact .inr htiming
  · have hoff : (Function.update raw .mode 0 Field.mode).toNat < 2 := by simp
    exact valid_mix hsuffix (valid_raw_of_off hoff) hbefore (.inl hoff)

/-- From a valid LED towards valid bytes, and back if that fails: the LED is
    valid in every state in between. -/
theorem transaction_valid {id : Nat} {before wanted : Raw} {p : Prog cs_io (Except Failure Unit × Context)}
    {d' : Device} (h : Bound d c) (hid : id < 4) (hd : d.raw id = before)
    (hbefore : valid_raw before = true) (hwanted : valid_raw wanted = true)
    (hreach : Prog.Reaches access (commit_or_restore id wanted before c) d p d') :
    valid_raw (d'.raw id) = true := by
  have hled : OnLed d id (· = before) d := .refl hd
  have hspec := commit_or_restore_spec h hid (admits_valid hbefore hwanted) hled
  have hstart : OnLed d id (valid_raw · = true) d := by
    refine .refl ?_
    rw [hd]
    exact hbefore
  exact (Prog.wp_reaches hstart hspec hreach).1.led

/-- The blinking power LED, on its way to the identify effect. -/
theorem transaction_valid_identify : ∃ c' d',
    Proc.Runs access (commit_or_restore 0 identify_effect (gt_device.raw 0)) gt_context gt_device
      (.ok ()) c' d' ∧ valid_raw (d'.raw 0) = true := by
  have hgoing : Going gt_identity gt_device 0 gt_context gt_context gt_device :=
    ⟨gt_fits, .refl trivial, rfl⟩
  obtain ⟨_, c', d', hrun, _, rfl, -⟩ :=
    (can_commit_or_restore hgoing ⟨rfl, rfl⟩ rfl (by decide)
      (show valid_raw identify_effect = true by decide)).may
  exact ⟨c', d', hrun, transaction_valid gt_fits.bound (by decide) rfl (by decide) (by decide)
    hrun.reaches⟩

/-! ## Atomicity -/

/-- `apply` up to its first write looks at the LED and computes the bytes. -/
theorem calm_prepare (h : Bound d c) (id : Nat) (patch : Patch) :
    Calm (prepare id patch) (fun p _ _ => id < 4 ∧ p = (d.raw id, patched patch (d.raw id)) ∧
      valid_raw p.1 = true ∧ valid_raw p.2 = true) c d := by
  refine (Calm.ctx h).bind ?_
  rintro _ c₁ d₁ hstays₁ ⟨rfl, rfl, rfl⟩
  refine (Calm.bail h).bind ?_
  rintro _ c₂ d₂ hstays₂ ⟨rfl, rfl, -⟩
  refine (Calm.bail h).bind ?_
  rintro _ c₃ d₃ hstays₃ ⟨rfl, rfl, -⟩
  refine (Calm.lift (P := fun _ c' d' => c' = c₃ ∧ d' = d₃) h fun _ _ => ⟨rfl, rfl⟩).bind ?_
  rintro _ c₄ d₄ hstays₄ ⟨rfl, rfl⟩
  refine (calm_guard h true).bind ?_
  rintro _ c₅ d₅ hstays₅ -
  refine (calm_snapshot hstays₅.bound id).bind ?_
  rintro before c₆ d₆ hstays₆ ⟨hid, rfl, hvalid, -⟩
  refine (Calm.bail hstays₆.bound).bind ?_
  rintro _ c₇ d₇ hstays₇ ⟨rfl, rfl, hlimits⟩
  rw [hstays₅.quiet.raw] at hvalid hlimits ⊢
  exact .pure hstays₆.bound ⟨hid, rfl, hvalid, by simpa using hlimits⟩

/-- How `apply` may end. -/
theorem apply_spec (h : Bound d c) (id : Nat) (patch : Patch) :
    wp access (fun _ => True) (apply id patch) (fun r c' d' => Kept c c' d' ∧
      (∀ readback, r = .ok readback → OnLed d id (fun _ => True) d' ∧ id < 4 ∧
        d'.raw id = patched patch (d.raw id) ∧ readback = decode (d'.raw id)) ∧
      (∀ e, r = .error e → Quiet d d' ∨
        OnLed d id (fun _ => True) d' ∧ id < 4 ∧ Undone id (d.raw id) e d')) c d := by
  unfold apply
  refine (calm_prepare h id patch).wp_then (fun _ _ => trivial) ?_ ?_
  · rintro _ c₁ d₁ hstays₁ ⟨hid, rfl, -⟩
    have hunchanged : OnLed d id (· = d.raw id) d := .refl rfl
    have hd := hunchanged.of_quiet hstays₁.quiet
    have hwrite := commit_or_restore_spec hstays₁.bound hid
      (admits_true (patched patch (d.raw id)) (d.raw id)) hd
    refine wp_seq (wp_mono hwrite (fun _ _ => trivial) fun _ _ _ hR => hR) ?_ ?_
    · rintro _ c₂ d₂ ⟨hkept, hled, hwanted, -⟩
      refine (wp_pure _ _).mpr ⟨hstays₁.kept.trans hkept, ?_, nofun⟩
      rintro _ ⟨⟩
      have hraw := hwanted rfl
      exact ⟨hled, hid, hraw, by rw [hraw]⟩
    · rintro e c₂ d₂ ⟨hkept, hled, -, hundone⟩
      refine ⟨hstays₁.kept.trans hkept, nofun, ?_⟩
      rintro _ ⟨⟩
      exact .inr ⟨hled, hid, hundone e rfl⟩
  · intro e c₁ d₁ hstays₁
    refine ⟨hstays₁.kept, nofun, ?_⟩
    rintro _ ⟨⟩
    exact .inl hstays₁.quiet

/-- Success means the patched bytes and nothing else; the report of a
    restoration is true; and a failure before the transaction, which
    `prepare` consists of, has written nothing. -/
theorem apply_atomic {id : Nat} {patch : Patch} {r : Except Failure Value} {c' : Context}
    {d' : Device} (h : Bound d c) (hrun : Proc.Runs access (apply id patch) c d r c' d') :
    (∀ readback, r = .ok readback →
      d'.raw id = patched patch (d.raw id) ∧ readback = decode (d'.raw id) ∧
      (∀ id' < 4, id' ≠ id → d'.raw id' = d.raw id') ∧ d'.flow = d.flow) ∧
    (∀ e original, r = .error e → e.report = .restored original →
      (∀ id' < 4, d'.raw id' = d.raw id') ∧ d'.flow = d.flow) ∧
    (∀ e, Proc.Runs access (prepare id patch) c d (.error e) c' d' →
      Proc.Runs access (apply id patch) c d (.error e) c' d' ∧
      d'.mem = d.mem ∧ d'.data_writes = d.data_writes) ∧
    (∀ e, r = .error e → (∀ original, e.report ≠ .restored original) →
      (∀ original restore_error, e.report ≠ .restoration_failed original restore_error) →
      d'.mem = d.mem ∧ d'.data_writes = d.data_writes) := by
  obtain ⟨-, hok, herror⟩ := wp_runs (apply_spec h id patch) hrun
  refine ⟨?_, ?_, ?_, ?_⟩
  · intro readback hr
    obtain ⟨hled, hid, hraw, hreadback⟩ := hok readback hr
    exact ⟨hraw, hreadback, fun id' hid' hne => hled.other hid hid' hne, hled.flow hid⟩
  · intro e original hr hreport
    rcases herror e hr with hquiet | ⟨hled, hid, ⟨-, hraw⟩ | ⟨_, _, hfailed⟩⟩
    · exact ⟨fun id' _ => congrFun hquiet.raw id', hquiet.flow⟩
    · refine ⟨fun id' hid' => ?_, hled.flow hid⟩
      by_cases hne : id' = id
      · rw [hne, hraw]
      · exact hled.other hid hid' hne
    · rw [hreport] at hfailed
      cases hfailed
  · intro e hprepare
    have hquiet := (wp_runs (calm_prepare h id patch) hprepare).1.quiet
    exact ⟨Prog.Runs.bind hprepare .pure, hquiet.mem, hquiet.data_writes⟩
  · intro e hr hrestored hfailed
    rcases herror e hr with hquiet | ⟨-, -, ⟨⟨original, hreport⟩, -⟩ | ⟨original, re, hreport⟩⟩
    · exact ⟨hquiet.mem, hquiet.data_writes⟩
    · exact absurd hreport (hrestored original)
    · exact absurd hreport (hfailed original re)

/-- The power LED is switched to steady light. -/
theorem apply_atomic_on : ∃ readback c' d',
    Proc.Runs access (apply 0 ⟨PATCH_MODE, { mode := 1 }⟩) gt_context gt_device (.ok readback)
      c' d' ∧ readback.mode = 1 ∧ d'.flow = 1 := by
  obtain ⟨_, c', d', hrun, readback, rfl, -⟩ :=
    (can_apply gt_fits ⟨rfl, rfl⟩ rfl (show 0 < 4 by decide) rfl
      (show validate_patch ⟨PATCH_MODE, { mode := 1 }⟩ = .ok () by decide) (by decide)
      (by decide)).may
  obtain ⟨hraw, hreadback, -, hflow⟩ := (apply_atomic gt_fits.bound hrun).1 readback rfl
  refine ⟨readback, c', d', hrun, ?_, hflow⟩
  rw [hreadback, hraw]
  decide

end UgreenNas.Led.Cs201x
