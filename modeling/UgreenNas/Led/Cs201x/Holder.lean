import UgreenNas.Led.Cs201x.Apply

/-! # The life of a holder

    A holder snapshots the whole controller when it opens.  Whatever its
    clients did to the LEDs in between, and however badly, a close that
    reports success has verified that every byte is as it was.
-/

namespace UgreenNas.Led.Cs201x

open Effect Effect.Proc

variable {c c' c'' : Context} {d d₀ : Device}

/-! ## What a session cannot forget -/

/-- The baseline of a holder is not touched. -/
structure SameHolder (c c' : Context) : Prop where
  access : c'.access = c.access
  holder : c'.holder = c.holder
  restore_pending : c'.restore_pending = c.restore_pending
  original : c'.original = c.original
  original_flow : c'.original_flow = c.original_flow

theorem SameHolder.refl (c : Context) : SameHolder c c := ⟨rfl, rfl, rfl, rfl, rfl⟩

theorem SameHolder.trans (h : SameHolder c c') (h' : SameHolder c' c'') : SameHolder c c'' :=
  ⟨h'.access.trans h.access, h'.holder.trans h.holder,
    h'.restore_pending.trans h.restore_pending, h'.original.trans h.original,
    h'.original_flow.trans h.original_flow⟩

theorem SameHolder.of_memory (h : c'.toMemory = c.toMemory) : SameHolder c c' := by
  refine ⟨?_, ?_, ?_, ?_, ?_⟩
  · exact congrArg Memory.access h
  · exact congrArg Memory.holder h
  · exact congrArg Memory.restore_pending h
  · exact congrArg Memory.original h
  · exact congrArg Memory.original_flow h

/-- What every call of a session leaves: the baseline and good ports. -/
structure Holds (c c' : Context) (d' : Device) : Prop where
  same : SameHolder c c'
  bound : Bound d' c'

theorem Holds.trans {d' d'' : Device} (h : Holds c c' d') (h' : Holds c' c'' d'') :
    Holds c c'' d'' :=
  ⟨h.same.trans h'.same, h'.bound⟩

theorem Kept.holds {d' : Device} (h : Kept c c' d') : Holds c c' d' :=
  ⟨.of_memory h.memory, h.bound⟩

theorem Stays.holds {d' : Device} (h : Stays d c c' d') : Holds c c' d' := h.kept.holds

/-! ## Calls of a session -/

theorem read_spec (h : Bound d c) (id : Nat) :
    wp access (fun _ => True) (read id) (fun _ c' d' => Holds c c' d') c d := by
  refine (calm_snapshot h id).wp_then (fun _ _ => trivial) ?_ ?_
  · intro _ c₁ d₁ hstays₁ _
    exact (wp_pure _ _).mpr hstays₁.holds
  · intro e c₁ d₁ hstays₁
    exact hstays₁.holds

/-- How BEGIN may end: without having done anything, or with the bytes of
    the LED saved and nothing else touched. -/
structure Begun (c : Context) (d : Device) (id : Nat) (c' : Context) (d' : Device) : Prop where
  unsaved : c.identify_saved = false
  lt : id < 4
  memory : c'.toMemory = (save_identify id (d.raw id) c).toMemory
  bound : Bound d' c'
  led : OnLed d id (fun _ => True) d'

theorem begin_identify_spec (h : Bound d c) (id : Nat) :
    wp access (fun _ => True) (begin_identify id) (fun r c' d' =>
      Stays d c c' d' ∧ (∃ e, r = .error e) ∨ Begun c d id c' d') c d := by
  have hfail : ∀ {c₁ c₂ : Context} {d₁ d₂ : Device} {e : Failure}, Stays d c c₁ d₁ →
      Stays d₁ c₁ c₂ d₂ → Stays d c c₂ d₂ ∧ (∃ e', (.error e : Except Failure Unit) = .error e') ∨
        Begun c d id c₂ d₂ :=
    fun hstays hstays' => .inl ⟨hstays.trans hstays', _, rfl⟩
  refine (Calm.ctx h).wp_then (fun _ _ => trivial) ?_ fun _ _ _ => hfail (.refl h)
  rintro _ c₁ d₁ hstays₁ ⟨rfl, rfl, rfl⟩
  refine (Calm.bail h).wp_then (fun _ _ => trivial) ?_ fun _ _ _ => hfail (.refl h)
  rintro _ c₂ d₂ hstays₂ ⟨rfl, rfl, hid⟩
  have hid : id < 4 := by omega
  refine (Calm.bail h).wp_then (fun _ _ => trivial) ?_ fun _ _ _ => hfail (.refl h)
  rintro _ c₃ d₃ hstays₃ ⟨rfl, rfl, hunsaved⟩
  refine (calm_guard h true).wp_then (fun _ _ => trivial) ?_ fun _ _ _ => hfail (.refl h)
  rintro _ c₄ d₄ hstays₄ -
  refine (calm_snapshot hstays₄.bound id).wp_then (fun _ _ => trivial) ?_
    fun _ _ _ => hfail hstays₄
  rintro original c₅ d₅ hstays₅ ⟨-, rfl, -⟩
  have hstays := hstays₄.trans hstays₅
  -- from here on the LED is written, but its bytes are saved
  rw [wp_bind, wp_update, hstays₄.quiet.raw]
  have hled : OnLed d₃ id (· = d₃.raw id) d₃ := .refl rfl
  have hbound : Bound d₅ (save_identify id (d₃.raw id) c₅) := hstays₅.bound
  have hwrite := commit_or_restore_spec hbound hid (admits_true identify_effect (d₃.raw id))
    (hled.of_quiet hstays.quiet)
  refine wp_mono hwrite (fun _ _ => trivial) ?_
  intro r c₆ d₆ hwritten
  obtain ⟨hkept, hled₆, -⟩ := hwritten
  refine .inr ⟨by simpa using hunsaved, hid, ?_, hkept.bound, hled₆⟩
  have hmemory := hstays.memory
  rw [hkept.memory]
  simp only [save_identify, hmemory]

theorem Begun.holds {id : Nat} {d' : Device} (h : Begun c d id c' d') : Holds c c' d' := by
  have hsaved : SameHolder c (save_identify id (d.raw id) c) := ⟨rfl, rfl, rfl, rfl, rfl⟩
  exact ⟨hsaved.trans (.of_memory h.memory), h.bound⟩

/-- How END may end. -/
structure Ended (c : Context) (d : Device) (id : Nat) (r : Except Failure Unit) (c' : Context)
    (d' : Device) : Prop where
  bound : Bound d' c'
  restored : r = .ok () → c.identify_saved = true ∧ id = c.identify_id ∧ id < 4 ∧
    c'.toMemory = { c.toMemory with identify_saved := false } ∧ d'.raw id = c.identify_original
  kept : (∃ e, r = .error e) → c'.toMemory = c.toMemory
  idle : c.identify_saved = false → Quiet d d' ∧ ∃ e, r = .error e

theorem Stays.ended {id : Nat} {e : Failure} {d' : Device} (h : Stays d c c' d') :
    Ended c d id (.error e) c' d' :=
  ⟨h.bound, nofun, fun _ => h.memory, fun _ => ⟨h.quiet, e, rfl⟩⟩

theorem end_identify_spec (h : Bound d c) (id : Nat) :
    wp access (fun _ => True) (end_identify id) (Ended c d id) c d := by
  refine (Calm.ctx h).wp_then (fun _ _ => trivial) ?_ fun _ _ _ hstays => hstays.ended
  rintro _ c₁ d₁ hstays₁ ⟨rfl, rfl, rfl⟩
  refine (Calm.bail h).wp_then (fun _ _ => trivial) ?_ fun _ _ _ hstays => hstays.ended
  rintro _ c₂ d₂ hstays₂ ⟨rfl, rfl, hid⟩
  have hid : id < 4 := by omega
  refine (Calm.bail h).wp_then (fun _ _ => trivial) ?_ fun _ _ _ hstays => hstays.ended
  rintro _ c₃ d₃ hstays₃ ⟨rfl, rfl, hsaved⟩
  have hsaved : c₃.identify_saved = true := by simpa using hsaved
  refine (Calm.bail h).wp_then (fun _ _ => trivial) ?_ fun _ _ _ hstays => hstays.ended
  rintro _ c₄ d₄ hstays₄ ⟨rfl, rfl, hmatch⟩
  have hled : OnLed d₄ id (fun _ => True) d₄ := .refl trivial
  have hrestore := restore_spec h hid hled c₄.identify_original c₄.identify_original
  refine wp_seq (R := fun r c' d' => Kept c₄ c' d' ∧ (r = .ok () → d'.raw id = c₄.identify_original))
    (wp_mapError (wp_mono hrestore (fun _ _ => trivial) fun _ _ _ hR => hR) ?_ ?_) ?_ ?_
  · exact fun _ _ _ hR => ⟨hR.1, fun _ => hR.2.2 rfl⟩
  · exact fun _ _ _ hR => ⟨hR.1, nofun⟩
  · intro _ c₅ d₅ hrestored
    obtain ⟨hkept, hraw⟩ := hrestored
    refine (wp_update _ _).mpr ⟨hkept.bound, fun _ => ?_, nofun, ?_⟩
    · refine ⟨hsaved, not_ne_iff.mp hmatch, hid, ?_, hraw rfl⟩
      have hmemory := hkept.memory
      simp only [hmemory]
    · intro hunsaved
      rw [hsaved] at hunsaved
      cases hunsaved
  · intro e c₅ d₅ hfailed
    refine ⟨hfailed.1.bound, nofun, fun _ => hfailed.1.memory, ?_⟩
    intro hunsaved
    rw [hsaved] at hunsaved
    cases hunsaved

theorem Ended.holds {id : Nat} {r : Except Failure Unit} {d' : Device}
    (h : Ended c d id r c' d') : Holds c c' d' := by
  refine ⟨?_, h.bound⟩
  cases r with
  | error e => exact .of_memory (h.kept ⟨e, rfl⟩)
  | ok u =>
    obtain ⟨-, -, -, hmemory, -⟩ := h.restored rfl
    have hcleared : SameHolder c { c with identify_saved := false } := ⟨rfl, rfl, rfl, rfl, rfl⟩
    exact hcleared.trans (.of_memory hmemory)

theorem end_identify_holds (h : Bound d c) (id : Nat) :
    wp access (fun _ => True) (end_identify id) (fun _ c' d' => Holds c c' d') c d :=
  wp_mono (end_identify_spec h id) (fun _ hI => hI) fun _ _ _ hended => hended.holds

/-- The calls a client of the service can cause, with any arguments. -/
inductive Call where
  | read (id : Nat)
  | apply (id : Nat) (patch : Patch)
  | begin_identify (id : Nat)
  | end_identify (id : Nat)

/-- Make a call and drop its result. -/
def Call.run : Call → Fun Unit
  | .read id => do let _ ← attempt (Cs201x.read id)
  | .apply id patch => do let _ ← attempt (Cs201x.apply id patch)
  | .begin_identify id => do let _ ← attempt (Cs201x.begin_identify id)
  | .end_identify id => do let _ ← attempt (Cs201x.end_identify id)

def run_calls : List Call → Fun Unit
  | [] => pure ()
  | call :: rest => do
    call.run
    run_calls rest

theorem attempt_spec {α : Type} {m : Fun α}
    (h : wp access (fun _ => True) m (fun _ c' d' => Holds c c' d') c d) :
    wp access (fun _ => True) (do let _ ← (attempt m : Fun (Except Failure α)))
      (fun _ c' d' => Holds c c' d') c d := by
  rw [wp_bind, wp_attempt]
  exact h

theorem call_spec (h : Bound d c) (call : Call) :
    wp access (fun _ => True) call.run (fun _ c' d' => Holds c c' d') c d := by
  cases call with
  | read id => exact attempt_spec (read_spec h id)
  | apply id patch =>
    exact attempt_spec (wp_mono (apply_spec h id patch) (fun _ hI => hI)
      fun _ _ _ hR => hR.1.holds)
  | begin_identify id =>
    apply attempt_spec
    apply wp_mono (begin_identify_spec h id) (fun _ hI => hI)
    intro r c' d' hbegun
    rcases hbegun with ⟨hstays, -⟩ | hbegun
    · exact hstays.holds
    · exact hbegun.holds
  | end_identify id => exact attempt_spec (end_identify_holds h id)

theorem run_calls_spec (h : Bound d c) (calls : List Call) :
    wp access (fun _ => True) (run_calls calls) (fun _ c' d' => Holds c c' d') c d := by
  induction calls generalizing c d with
  | nil => exact (wp_pure _ _).mpr ⟨.refl c, h⟩
  | cons call rest ih =>
    refine wp_seq (call_spec h call) ?_ fun _ _ _ hholds => hholds
    intro _ c₁ d₁ hholds
    refine wp_mono (ih hholds.bound) (fun _ hI => hI) ?_
    exact fun _ _ _ hrest => hholds.trans hrest

/-! ## Restoring the baseline -/

/-- Every LED and the flow are as the context remembers them. -/
def Baseline (c : Context) (d : Device) : Prop :=
  (∀ id < 4, d.raw id = c.original id) ∧ d.flow = c.original_flow

theorem finish_identify_spec (h : Bound d c) :
    wp access (fun _ => True) finish_identify (fun _ c' d' => Holds c c' d') c d := by
  refine (Calm.ctx h).wp_then (fun _ _ => trivial) ?_ fun _ _ _ hstays => hstays.holds
  rintro _ c₁ d₁ - ⟨rfl, rfl, rfl⟩
  by_cases hsaved : c₁.identify_saved = true
  · simp only [hsaved, if_true]
    exact attempt_spec (end_identify_holds h c₁.identify_id)
  · simp only [hsaved]
    exact (wp_pure _ _).mpr ⟨.refl c₁, h⟩

theorem raw_of_flow_poked {value : UInt8} {d' : Device} (h : Poked CS_FLOW value d d') {id : Nat}
    (hid : id < 4) : d'.raw id = d.raw id := by
  funext field
  have hne := reg_address_ne_flow hid field
  rcases h.mem with hmem | hmem
  · simp only [Device.raw, hmem]
  · simp only [Device.raw, hmem, Function.update_of_ne hne]

theorem change_flow_spec (h : Bound d c) (before wanted : UInt8) :
    wp access (fun _ => True) (change_flow before wanted) (fun r c' d' => Kept c c' d' ∧
      Poked CS_FLOW wanted d d' ∧ (r = .ok () → d'.flow = wanted)) c d := by
  have hstay : ∀ e c' d', Stays d c c' d' → Kept c c' d' ∧ Poked CS_FLOW wanted d d' ∧
      ((.error e : Except Failure Unit) = .ok () → d'.flow = wanted) :=
    fun _ _ _ hstays => ⟨hstays.kept, hstays.quiet.poked, nofun⟩
  refine (Calm.ctx h).wp_then (fun _ _ => trivial) ?_ hstay
  rintro _ c₁ d₁ - ⟨rfl, rfl, rfl⟩
  refine (Calm.bail h).wp_then (fun _ _ => trivial) ?_ hstay
  rintro _ c₂ d₂ - ⟨rfl, rfl, -⟩
  refine (calm_guard_flow h true (some before)).wp_then (fun _ _ => trivial) ?_ hstay
  rintro _ c₃ d₃ hstays₃ ⟨-, -, -, hpermission, -⟩
  refine wp_seq (wp_mono (verified_write_spec hstays₃.bound hpermission (by decide) _ _)
    (fun _ _ => trivial) fun _ _ _ hR => hR) ?_ ?_
  · rintro _ c₄ d₄ ⟨hpoked, hkept, -⟩
    have hpoked₄ := hpoked.of_quiet hstays₃.quiet
    have hkept₄ := hstays₃.kept.trans hkept
    refine (calm_guard_flow hkept.bound false (some wanted)).wp_then (fun _ _ => trivial) ?_ ?_
    · rintro flow c₅ d₅ hstays₅ ⟨hflow, -, hexpected, -⟩
      refine (wp_pure _ _).mpr ⟨hkept₄.trans hstays₅.kept, hpoked₄.quiet hstays₅.quiet, fun _ => ?_⟩
      rw [hstays₅.quiet.flow, ← hflow]
      exact hexpected wanted rfl
    · intro e c₅ d₅ hstays₅
      exact ⟨hkept₄.trans hstays₅.kept, hpoked₄.quiet hstays₅.quiet, nofun⟩
  · rintro e c₄ d₄ ⟨hpoked, hkept, -⟩
    exact ⟨hstays₃.kept.trans hkept, hpoked.of_quiet hstays₃.quiet, nofun⟩

theorem restore_leds_spec (h : Bound d c) (original : Nat → Raw) {ids : List Nat}
    (hids : ∀ id ∈ ids, id < 4) :
    wp access (fun _ => True) (restore_leds original ids) (fun _ c' d' => Kept c c' d') c d := by
  induction ids generalizing c d with
  | nil => exact (wp_pure _ _).mpr ⟨rfl, h⟩
  | cons id rest ih =>
    have hled : OnLed d id (fun _ => True) d := .refl trivial
    have hrestore := restore_spec h (hids id List.mem_cons_self) hled (original id) (original id)
    refine wp_seq (wp_mono hrestore (fun _ _ => trivial) fun _ _ _ hR => hR) ?_ ?_
    · rintro _ c₁ d₁ ⟨hkept, -⟩
      refine wp_mono (ih hkept.bound fun i hi => hids i (List.mem_cons_of_mem id hi))
        (fun _ hI => hI) ?_
      exact fun _ _ _ hkept' => hkept.trans hkept'
    · exact fun _ _ _ hR => hR.1

/-- The flow is autonomous and the controller as it was. -/
theorem calm_restore_autonomous (h : Bound d c) :
    Calm restore_autonomous (fun _ _ _ => Baseline c d) c d := by
  refine (Calm.ctx h).bind ?_
  rintro _ c₁ d₁ - ⟨rfl, rfl, rfl⟩
  refine (Calm.bail h).bind ?_
  rintro _ c₂ d₂ - ⟨rfl, rfl, hflow⟩
  refine (calm_snapshot_all h 0).bind ?_
  rintro actual c₃ d₃ hstays₃ ⟨hactual, -, hautonomous, -⟩
  refine (Calm.bail hstays₃.bound).mono ?_
  rintro _ c₄ d₄ - ⟨-, -, hsame⟩
  have hsame : same_leds actual c₂.original = true := by simpa using hsame
  refine ⟨fun id hid => ?_, ?_⟩
  · rw [← hactual id hid]
    exact (same_leds_iff _ _).mp hsame id hid
  · rw [hautonomous]
    exact (not_ne_iff.mp hflow).symm

/-- The holder writes everything back, verifies it, and gives the flow back. -/
theorem restore_held_spec (h : Bound d c) (hpublished : c.original_flow ≤ 1) :
    wp access (fun _ => True) restore_held (fun r c' d' => Kept c c' d' ∧
      (r = .ok () → Baseline c d')) c d := by
  refine (Calm.ctx h).wp_then (fun _ _ => trivial) ?_ fun _ _ _ hstays => ⟨hstays.kept, nofun⟩
  rintro _ c₁ d₁ - ⟨rfl, rfl, rfl⟩
  refine wp_seq (restore_leds_spec h c₁.original fun id hid => mem_leds.mp hid) ?_
    fun _ _ _ hkept => ⟨hkept, nofun⟩
  intro _ c₂ d₂ hkept₂
  refine (calm_snapshot_all hkept₂.bound 1).wp_then (fun _ _ => trivial) ?_
    fun _ _ _ hstays => ⟨hkept₂.trans hstays.kept, nofun⟩
  rintro actual c₃ d₃ hstays₃ ⟨hactual, -, hheld, -⟩
  have hkept₃ := hkept₂.trans hstays₃.kept
  refine (Calm.bail hstays₃.bound).wp_then (fun _ _ => trivial) ?_
    fun _ _ _ hstays => ⟨hkept₃.trans hstays.kept, nofun⟩
  rintro _ c₄ d₄ - ⟨rfl, rfl, hsame⟩
  have hsame : same_leds actual c₁.original = true := by simpa using hsame
  have hleds : ∀ id < 4, d₄.raw id = c₁.original id := by
    intro id hid
    rw [hstays₃.quiet.raw, ← hactual id hid]
    exact (same_leds_iff _ _).mp hsame id hid
  by_cases hflow : c₁.original_flow = 0
  · rw [if_pos hflow]
    refine wp_mono (change_flow_spec hstays₃.bound 1 0) (fun _ hI => hI) ?_
    rintro r c₅ d₅ ⟨hkept₅, hpoked, hgiven⟩
    refine ⟨hkept₃.trans hkept₅, fun hr => ⟨fun id hid => ?_, ?_⟩⟩
    · rw [raw_of_flow_poked hpoked hid]
      exact hleds id hid
    · rw [hgiven hr, hflow]
  · rw [if_neg hflow]
    refine (wp_pure _ _).mpr ⟨hkept₃, fun _ => ⟨hleds, ?_⟩⟩
    rw [hstays₃.quiet.flow, hheld]
    have hle := UInt8.le_iff_toNat_le.mp hpublished
    have hne : c₁.original_flow.toNat ≠ 0 := fun h0 => hflow (UInt8.toNat_inj.mp h0)
    apply UInt8.toNat_inj.mp
    simp at hle ⊢
    omega

/-- A restoration of a holder that succeeds has restored everything. -/
theorem restore_holder_spec (h : Bound d c) (hholder : c.holder = true)
    (hpending : c.restore_pending = true) (hpublished : c.original_flow ≤ 1) :
    wp access (fun _ => True) restore_holder (fun r c' d' => Bound d' c' ∧
      (r = .ok () → Baseline c d')) c d := by
  unfold restore_holder
  rw [wp_bind, wp_ctx]
  simp only [hholder, hpending, Bool.and_self, if_true]
  refine wp_seq (finish_identify_spec h) ?_ fun _ _ _ hholds => ⟨hholds.bound, nofun⟩
  intro _ c₂ d₂ hholds₂
  refine (calm_guard_flow hholds₂.bound true none).wp_then (fun _ _ => trivial) ?_
    fun _ _ _ hstays => ⟨hstays.bound, nofun⟩
  rintro flow c₃ d₃ hstays₃ -
  have hsame := hholds₂.same.trans (.of_memory hstays₃.memory)
  have hbaseline : ∀ d', Baseline c₃ d' → Baseline c d' := by
    intro d' hd'
    unfold Baseline at hd' ⊢
    rwa [hsame.original, hsame.original_flow] at hd'
  by_cases hflow : flow = 0
  · simp only [hflow, if_true]
    refine (calm_restore_autonomous hstays₃.bound).wp_then (fun _ _ => trivial) ?_
      fun _ _ _ hstays => ⟨hstays.bound, nofun⟩
    intro _ c₄ d₄ hstays₄ hd₃
    refine (wp_update _ _).mpr ⟨hstays₄.bound, fun _ => hbaseline d₄ ⟨fun id hid => ?_, ?_⟩⟩
    · rw [hstays₄.quiet.raw]
      exact hd₃.1 id hid
    · rw [hstays₄.quiet.flow]
      exact hd₃.2
  · simp only [hflow, if_false]
    have hpublished₃ : c₃.original_flow ≤ 1 := by
      rw [hsame.original_flow]
      exact hpublished
    refine wp_seq (restore_held_spec hstays₃.bound hpublished₃) ?_
      fun _ _ _ hR => ⟨hR.1.bound, nofun⟩
    rintro _ c₄ d₄ ⟨hkept, hrestored⟩
    exact (wp_update _ _).mpr ⟨hkept.bound, fun _ => hbaseline d₄ (hrestored rfl)⟩

/-- A calm procedure that cannot fail. -/
def Surely {ε : Type} (m : Proc cs_io Context ε Unit) (c : Context) (d : Device) : Prop :=
  wp access (Quiet d) m (fun r c' d' => Stays d c c' d' ∧ r = .ok ()) c d

theorem Surely.bind {ε : Type} {m n : Proc cs_io Context ε Unit} (hm : Surely m c d)
    (hn : ∀ c' d', Bound d' c' → Surely n c' d') : Surely (m >>= fun _ => n) c d := by
  refine wp_seq hm ?_ fun _ _ _ hR => nomatch hR.2
  rintro _ c₁ d₁ ⟨hstays₁, -⟩
  refine wp_mono (hn c₁ d₁ hstays₁.bound) (fun _ hI => hstays₁.quiet.trans hI) ?_
  rintro r c₂ d₂ ⟨hstays₂, hr⟩
  exact ⟨hstays₁.trans hstays₂, hr⟩

theorem surely_give_back {ε : Type} (h : Bound d c) (granted : Bool) (port count : Nat) :
    Surely (give_back granted port count : Proc cs_io Context ε Unit) c d := by
  cases granted with
  | true =>
    show wp access (Quiet d) (attempt (permission port count false) >>= fun _ => pure ()) _ c d
    rw [wp_bind, wp_attempt]
    refine wp_mono (calm_permission h port count false) (fun _ hI => hI) ?_
    rintro r c₁ d₁ ⟨hstays₁, -⟩
    exact ⟨hstays₁, rfl⟩
  | false => exact ⟨.refl h, rfl⟩

theorem surely_unlock {ε : Type} (h : Bound d c) (locked : Bool) :
    Surely (unlock locked : Proc cs_io Context ε Unit) c d := by
  cases locked with
  | true =>
    intro b d' hstep
    obtain rfl : d' = d := hstep
    exact ⟨.refl d', .refl h, rfl⟩
  | false => exact ⟨.refl h, rfl⟩

theorem surely_release {ε : Type} (h : Bound d c) :
    Surely (release_context : Proc cs_io Context ε Unit) c d := by
  show wp access (Quiet d) (ctx >>= _) _ c d
  rw [wp_bind, wp_ctx]
  refine Surely.bind (surely_give_back h c.runtime_permission c.base 13) ?_
  intro c₁ d₁ h₁
  refine Surely.bind (surely_give_back h₁ c.config_permission CS_INDEX 2) ?_
  exact fun c₂ d₂ h₂ => surely_unlock h₂ c.locked

/-- After a release the chip is what it was before it. -/
theorem wp_release {ε α : Type} {n : Proc cs_io Context ε α} (h : Bound d c)
    {Q : Except ε α → Context → Device → Prop}
    (hn : ∀ c' d', Quiet d d' → wp access (fun _ => True) n Q c' d') :
    wp access (fun _ => True) (release_context >>= fun _ => n) Q c d := by
  refine wp_seq (wp_mono (surely_release h) (fun _ _ => trivial) fun _ _ _ hR => hR) ?_
    fun _ _ _ hR => nomatch hR.2
  exact fun _ c₁ d₁ hR => hn c₁ d₁ hR.1.quiet

/-! ## Opening -/

/-- The four LEDs and the flow are the same. -/
def SameLeds (d d' : Device) : Prop := (∀ id < 4, d'.raw id = d.raw id) ∧ d'.flow = d.flow

theorem SameLeds.quiet {d' d'' : Device} (h : SameLeds d d') (hquiet : Quiet d' d'') :
    SameLeds d d'' := by
  unfold SameLeds
  rw [hquiet.raw, hquiet.flow]
  exact h

theorem Quiet.same_leds {d' : Device} (h : Quiet d d') : SameLeds d d' :=
  ⟨fun id _ => congrFun h.raw id, h.flow⟩

/-- The baseline of `c` is what the controller was in `d₀`. -/
structure Remembers (d₀ : Device) (c : Context) : Prop where
  leds : ∀ id < 4, c.original id = d₀.raw id
  flow : c.original_flow = d₀.flow
  published : c.original_flow ≤ 1

theorem Remembers.same (h : Remembers d₀ c) (hsame : SameHolder c c') : Remembers d₀ c' := by
  refine ⟨?_, ?_, ?_⟩
  · rw [hsame.original]
    exact h.leds
  · rw [hsame.original_flow]
    exact h.flow
  · rw [hsame.original_flow]
    exact h.published

theorem Baseline.same_leds {d' : Device} (h : Remembers d₀ c) (hd' : Baseline c d') :
    SameLeds d₀ d' :=
  ⟨fun id hid => (hd'.1 id hid).trans (h.leds id hid), hd'.2.trans h.flow⟩

/-- The context of a holder that has nothing to restore. -/
structure Fresh (c : Context) : Prop where
  holder : c.holder = true
  pending : c.restore_pending = false
  unsaved : c.identify_saved = false

theorem Fresh.of_memory (h : Fresh c) (hmemory : c'.toMemory = c.toMemory) : Fresh c' := by
  have hsame := SameHolder.of_memory hmemory
  refine ⟨hsame.holder.trans h.holder, hsame.restore_pending.trans h.pending, ?_⟩
  have hsaved : c'.identify_saved = c.identify_saved := congrArg Memory.identify_saved hmemory
  exact hsaved.trans h.unsaved

/-- How far a holder has come when it opens or fails to. -/
structure Opening (d₀ : Device) (c' : Context) (d' : Device) : Prop where
  holder : c'.holder = true
  unsaved : c'.identify_saved = false
  bound : Bound d' c'
  untouched : c'.restore_pending = false → Quiet d₀ d'
  remembers : c'.restore_pending = true → Remembers d₀ c'

theorem Stays.opening {d' : Device} (hquiet : Quiet d₀ d) (h : Stays d c c' d') (hfresh : Fresh c) :
    Opening d₀ c' d' := by
  have hfresh' := hfresh.of_memory h.memory
  refine ⟨hfresh'.holder, hfresh'.unsaved, h.bound, fun _ => hquiet.trans h.quiet, fun hc' => ?_⟩
  rw [hfresh'.pending] at hc'
  cases hc'

theorem calm_open_ports (h : Bound d c) : Calm open_ports (fun _ _ _ => True) c d := by
  refine (calm_detect h).bind ?_
  rintro identity c₁ d₁ - ⟨rfl, rfl⟩
  refine (Calm.bail h).bind ?_
  rintro _ c₂ d₂ - ⟨rfl, rfl, -⟩
  refine (Calm.update rfl h).bind ?_
  rintro _ c₃ d₃ hstays₃ -
  refine (calm_owners hstays₃.bound 0).mapError.bind ?_
  rintro _ c₄ d₄ hstays₄ -
  refine (calm_lock hstays₄.bound).mapError.bind ?_
  rintro _ c₅ d₅ hstays₅ -
  refine (Calm.update rfl hstays₅.bound).bind ?_
  rintro _ c₆ d₆ hstays₆ -
  refine (calm_owners hstays₆.bound 0).mapError.bind ?_
  rintro _ c₇ d₇ hstays₇ -
  refine (calm_permission hstays₇.bound CS_INDEX 2 true).mapError.bind ?_
  rintro _ c₈ d₈ hstays₈ -
  exact (Calm.update rfl hstays₈.bound).mono fun _ _ _ _ _ => trivial

theorem take_over_spec (h : Bound d c) (original_flow : UInt8) (original : Nat → Raw) :
    wp access (fun _ => True) (take_over original_flow original) (fun _ c' d' => Kept c c' d')
      c d := by
  refine @wp_seq cs_io Device Context Failure Unit Unit access (fun _ => True) c d
    (take_flow original_flow) _ (fun _ c' d' => Kept c c' d') _ ?_ ?_ fun _ _ _ hkept => hkept
  · unfold take_flow
    by_cases hflow : original_flow = 0
    · rw [if_pos hflow]
      exact wp_mono (change_flow_spec h 0 1) (fun _ hI => hI) fun _ _ _ hR => hR.1
    · rw [if_neg hflow]
      exact (wp_pure _ _).mpr ⟨rfl, h⟩
  · intro _ c₁ d₁ hkept₁
    refine (calm_snapshot_all hkept₁.bound 1).wp_then (fun _ _ => trivial) ?_
      fun _ _ _ hstays => hkept₁.trans hstays.kept
    rintro actual c₂ d₂ hstays₂ -
    refine (Calm.bail hstays₂.bound).wp_of (fun _ _ => trivial) ?_ ?_
    · exact fun _ _ _ hstays _ => hkept₁.trans (hstays₂.kept.trans hstays.kept)
    · exact fun _ _ _ hstays => hkept₁.trans (hstays₂.kept.trans hstays.kept)

theorem open_holder_spec (hquiet : Quiet d₀ d) (h : Bound d c) (hfresh : Fresh c)
    (takeover_flow : Bool) :
    wp access (fun _ => True) (open_holder takeover_flow) (fun r c' d' => Opening d₀ c' d' ∧
      (r = .ok () → c'.restore_pending = true)) c d := by
  refine (calm_guard_flow h false none).wp_then (fun _ _ => trivial) ?_
    fun _ _ _ hstays => ⟨hstays.opening hquiet hfresh, nofun⟩
  rintro flow c₁ d₁ hstays₁ ⟨hflow, hpublished, -⟩
  have hquiet₁ := hquiet.trans hstays₁.quiet
  have hfresh₁ := hfresh.of_memory hstays₁.memory
  rw [wp_bind, wp_update]
  have hbound₁ : Bound d₁ { c₁ with original_flow := flow } := hstays₁.bound
  have hfresh₂ : Fresh { c₁ with original_flow := flow } :=
    ⟨hfresh₁.holder, hfresh₁.pending, hfresh₁.unsaved⟩
  refine (Calm.bail hbound₁).wp_then (fun _ _ => trivial) ?_
    fun _ _ _ hstays => ⟨hstays.opening hquiet₁ hfresh₂, nofun⟩
  rintro _ c₂ d₂ - ⟨rfl, rfl, -⟩
  refine (calm_snapshot_all hbound₁ flow).wp_then (fun _ _ => trivial) ?_
    fun _ _ _ hstays => ⟨hstays.opening hquiet₁ hfresh₂, nofun⟩
  rintro original c₃ d₃ hstays₃ ⟨horiginal, -⟩
  have hsame₃ := SameHolder.of_memory hstays₃.memory
  have hfresh₃ := hfresh₂.of_memory hstays₃.memory
  rw [wp_bind, wp_update]
  have hremembers : Remembers d₀ { c₃ with original := original, restore_pending := true } := by
    have hflow₃ : c₃.original_flow = flow := hsame₃.original_flow
    refine ⟨fun id hid => ?_, ?_, ?_⟩
    · rw [← hquiet₁.raw]
      exact horiginal id hid
    · show c₃.original_flow = d₀.flow
      rw [hflow₃, hflow, hquiet.flow]
    · show c₃.original_flow ≤ 1
      rw [hflow₃]
      exact hpublished
  have hbound₃ : Bound d₃ { c₃ with original := original, restore_pending := true } :=
    hstays₃.bound
  -- the baseline is saved: whatever happens now, it can be restored
  refine wp_mono (take_over_spec hbound₃ flow original) (fun _ hI => hI) ?_
  intro r c₄ d₄ hkept
  have hsame₄ := SameHolder.of_memory hkept.memory
  have hsaved₄ : c₄.toMemory.identify_saved = c₃.identify_saved := by rw [hkept.memory]
  refine ⟨⟨hsame₄.holder.trans hfresh₃.holder, hsaved₄.trans hfresh₃.unsaved, hkept.bound, ?_, ?_⟩,
    ?_⟩
  · intro hfalse
    rw [hsame₄.restore_pending] at hfalse
    cases hfalse
  · exact fun _ => hremembers.same hsame₄
  · exact fun _ => hsame₄.restore_pending

theorem open_steps_spec (h : Bound d c) (hfresh : Fresh c) (takeover_flow : Bool) :
    wp access (fun _ => True) (open_steps takeover_flow) (fun r c' d' => Opening d c' d' ∧
      (r = .ok () → c'.restore_pending = true)) c d := by
  refine (calm_open_ports h).wp_then (fun _ _ => trivial) ?_
    fun _ _ _ hstays => ⟨hstays.opening (.refl d) hfresh, nofun⟩
  intro _ c₁ d₁ hstays₁ _
  have hfresh₁ := hfresh.of_memory hstays₁.memory
  rw [wp_bind, wp_ctx]
  simp only [hfresh₁.holder, if_true]
  exact open_holder_spec hstays₁.quiet hstays₁.bound hfresh₁ takeover_flow

/-- A failed start that reports the previous state restored has restored it. -/
theorem open_failed_spec (h : Opening d₀ c d) (e : Failure) :
    wp access (fun _ => True) (open_failed e) (fun r _ d' => ∃ e', r = .error e' ∧
      ∀ cause, e'.report = .holder_restored cause → SameLeds d₀ d') c d := by
  unfold open_failed
  rw [wp_bind, wp_ctx]
  by_cases hpending : c.restore_pending = true
  · have hremembers := h.remembers hpending
    simp only [if_pos hpending]
    rw [wp_bind, wp_attempt]
    refine wp_mono (restore_holder_spec h.bound h.holder hpending hremembers.published)
      (fun _ hI => hI) ?_
    rintro (e' | _) c₁ d₁ ⟨hbound₁, hrestored⟩
    · refine wp_release hbound₁ fun c₂ d₂ _ => ?_
      exact (wp_fail _ _).mpr ⟨_, rfl, nofun⟩
    · refine wp_release hbound₁ fun c₂ d₂ hquiet => ?_
      refine (wp_fail _ _).mpr ⟨_, rfl, fun _ _ => ?_⟩
      exact ((hrestored rfl).same_leds hremembers).quiet hquiet
  · simp only [if_neg hpending]
    refine wp_release h.bound fun c₁ d₁ hquiet => ?_
    refine (wp_fail _ _).mpr ⟨_, rfl, fun _ _ => ?_⟩
    exact ((h.untouched (by simpa using hpending)).trans hquiet).same_leds

/-- A context that opened as a holder, and the controller behind it. -/
structure Opened (d₀ : Device) (c : Context) (d : Device) : Prop where
  holder : c.holder = true
  pending : c.restore_pending = true
  bound : Bound d c
  remembers : Remembers d₀ c

theorem opening_spec (a : Access) (takeover_flow : Bool) (d₀ : Device) :
    wp access (fun _ => True) (recover (open_steps takeover_flow) open_failed)
      (fun r c' d' => match r with
        | .ok () => Opened d₀ c' d' ∧ c'.identify_saved = false
        | .error e => ∀ cause, e.report = .holder_restored cause → SameLeds d₀ d')
      { access := a, holder := true } d₀ := by
  have hbound : Bound d₀ { access := a, holder := true } := nofun
  refine wp_handle (open_steps_spec hbound ⟨rfl, rfl, rfl⟩ takeover_flow) ?_ ?_
  · rintro _ c₁ d₁ ⟨hopening, hpending⟩
    have hpending := hpending rfl
    exact ⟨⟨hopening.holder, hpending, hopening.bound, hopening.remembers hpending⟩,
      hopening.unsaved⟩
  · rintro e c₁ d₁ ⟨hopening, -⟩
    refine wp_mono (open_failed_spec hopening e) (fun _ hI => hI) ?_
    rintro _ c₂ d₂ ⟨e', rfl, hreport⟩
    exact hreport

theorem open_context_spec (a : Access) (takeover_flow : Bool) (d₀ : Device) :
    Prog.wp access (fun _ => True) (open_context a true takeover_flow) (fun r d' =>
      (∀ c, r = .ok c → Opened d₀ c d' ∧ c.identify_saved = false) ∧
      ∀ e cause, r = .error e → e.report = .holder_restored cause → SameLeds d₀ d') d₀ := by
  unfold open_context
  rw [Prog.wp_bind, Prog.wp_call]
  intro allocated d₁ hstep
  obtain rfl : d₁ = d₀ := hstep
  refine ⟨trivial, ?_⟩
  by_cases hallocated : ¬ allocated = true
  · rw [if_pos hallocated, Prog.wp_pure]
    simp only [reduceCtorEq, false_implies, implies_true, true_and]
    exact fun _ _ _ _ => (Quiet.refl d₁).same_leds
  rw [if_neg hallocated]
  by_cases hdenied : true = true ∧ ¬ (a.force = true ∧ a.apply = true)
  · rw [if_pos hdenied, Prog.wp_pure]
    simp only [reduceCtorEq, false_implies, implies_true, true_and]
    exact fun _ _ _ _ => (Quiet.refl d₁).same_leds
  rw [if_neg hdenied]
  dsimp only
  rw [Prog.wp_bind, wp_run]
  refine wp_mono (opening_spec a takeover_flow d₁) (fun _ hI => hI) ?_
  intro r c₂ d₂ hR
  rw [Prog.wp_pure]
  cases r with
  | error e =>
    simp only [Except.map, reduceCtorEq, false_implies, implies_true, true_and, Except.error.injEq]
    rintro _ cause rfl hreport
    exact hR cause hreport
  | ok u =>
    simp only [Except.map, reduceCtorEq, false_implies, implies_true, and_true, Except.ok.injEq]
    rintro _ rfl
    exact hR

/-! ## The whole life -/

theorem restore_close_spec (h : Opened d₀ c d) :
    wp access (fun _ => True) restore_close (fun r _ d' => r = .ok () → SameLeds d₀ d') c d := by
  unfold restore_close
  rw [wp_bind, wp_ctx]
  simp only [h.holder, if_true]
  rw [wp_bind, wp_attempt]
  refine wp_mono (restore_holder_spec h.bound h.holder h.pending h.remembers.published)
    (fun _ hI => hI) ?_
  rintro (e | _) c₁ d₁ ⟨hbound₁, hrestored⟩
  · refine wp_release hbound₁ fun c₂ d₂ _ => ?_
    exact (wp_fail _ _).mpr nofun
  · refine wp_release hbound₁ fun c₂ d₂ hquiet => ?_
    refine (wp_pure _ _).mpr fun _ => ?_
    exact ((hrestored rfl).same_leds h.remembers).quiet hquiet

theorem Opened.holds (h : Opened d₀ c d) {d' : Device} (hholds : Holds c c' d') :
    Opened d₀ c' d' :=
  ⟨hholds.same.holder.trans h.holder, hholds.same.restore_pending.trans h.pending, hholds.bound,
    h.remembers.same hholds.same⟩

/-- A holder that opened, was called in any way and closed with success has
    left the controller as it found it; so has one that failed to open and
    reports so. -/
theorem holder_restores (a : Access) (takeover_flow : Bool) (calls : List Call) (d₀ : Device) :
    (∀ c d₁ r c₂ d₂ c₃ d₃,
      Prog.Runs access (open_context a true takeover_flow) d₀ (.ok c) d₁ →
      Proc.Runs access (run_calls calls) c d₁ r c₂ d₂ →
      Proc.Runs access restore_close c₂ d₂ (.ok ()) c₃ d₃ → SameLeds d₀ d₃) ∧
    (∀ e cause d₁, Prog.Runs access (open_context a true takeover_flow) d₀ (.error e) d₁ →
      e.report = .holder_restored cause → SameLeds d₀ d₁) := by
  have hopen := open_context_spec a takeover_flow d₀
  constructor
  · intro c d₁ r c₂ d₂ c₃ d₃ hrun hcalls hclose
    have hopened := ((Prog.wp_runs hopen hrun).1 c rfl).1
    have hholds := wp_runs (run_calls_spec hopened.bound calls) hcalls
    exact wp_runs (restore_close_spec (hopened.holds hholds)) hclose rfl
  · intro e cause d₁ hrun hreport
    exact (Prog.wp_runs hopen hrun).2 e cause rfl hreport

end UgreenNas.Led.Cs201x
