import UgreenNas.SuperIo.Access

/-! # Opening and closing the chip

    `it86x_open` takes the lock, gets permission for the ports, opens the
    configuration and checks what chip it is; whatever fails, everything is
    given back.  The chip may have been left in any state by a process that
    was killed.
-/

namespace UgreenNas.SuperIo

open Effect Effect.Proc
open UgreenNas.Fan.It8613 (FanError Taking)

variable {P : Type} {p : P} {s s' : Board P} {takes : Taking} {strerror : Errno → String}
  {start now : Registers} {reg value : UInt8} {c : Device} {move : Move ports (Board P)}

/-! ## States of a process -/

/-- `p` has not taken the lock yet. -/
structure Idle (p : P) (s : Board P) : Prop where
  holder : s.holder ≠ some p
  taken : s.taken p = none
  left : s.left p = none

/-- `p` holds the lock that it took at `start`. -/
structure Hold (p : P) (start now : Registers) (s : Board P) : Prop where
  holder : s.holder = some p
  taken : s.taken p = some start
  view : s.chip.view = now

/-- `p` has given the lock up. -/
structure Gone (p : P) (start now : Registers) (s : Board P) : Prop where
  holder : s.holder ≠ some p
  taken : s.taken p = some start
  left : s.left p = some now

theorem Idle.rely (h : Idle p s) (hrely : Rely p s s') : Idle p s' where
  holder heq := h.holder (hrely.own.holder.mp heq)
  taken := hrely.own.taken.trans h.taken
  left := hrely.own.left.trans h.left

theorem Gone.rely (h : Gone p start now s) (hrely : Rely p s s') : Gone p start now s' where
  holder heq := h.holder (hrely.own.holder.mp heq)
  taken := hrely.own.taken.trans h.taken
  left := hrely.own.left.trans h.left

theorem Hold.rely (h : Hold p start now s) (hrely : Rely p s s') : Hold p start now s' where
  holder := hrely.own.holder.mpr h.holder
  taken := hrely.own.taken.trans h.taken
  view := by
    rw [hrely.chip h.holder]
    exact h.view

theorem Hold.kept (h : Hold p start now s) (hkept : Kept p s s')
    (hview : s'.chip.view = s.chip.view) : Hold p start now s' :=
  ⟨hkept.holder, hkept.taken.trans h.taken, hview.trans h.view⟩

theorem Inside.hold (h : Inside p start now s) : Hold p start now s := ⟨h.holder, h.taken, h.view⟩

variable [DecidableEq P]

/-! ## The sequences -/

/-- The four bytes open the configuration, whatever was sent before. -/
theorem does_enter (hhold : Hold p start now move.after) (hpermitted : Permitted p move.after) :
    Does takes p sio_enter (fun _ s' => Hold p start now s' ∧ Permitted p s' ∧
      s'.chip.entered = true) c move := by
  have hout : ∀ {s s' : Board P} {value : UInt8}, s.chip.Takes takes SIO_INDEX value s'.chip →
      s'.chip = if s.chip.entered then { s.chip with index := value } else s.chip.press value := by
    intro s s' value h
    simpa [Chip.Takes] using h
  have hview : ∀ {chip : Chip} {value : UInt8},
      (if chip.entered then { chip with index := value } else chip.press value).view = chip.view := by
    intro chip value
    split
    · rfl
    · unfold Chip.press
      dsimp only
      split <;> rfl
  have hnext : ∀ {s s' : Board P} {value : UInt8}, Hold p start now s → Kept p s s' →
      s.chip.Takes takes SIO_INDEX value s'.chip → Hold p start now s' := by
    intro s s' value h hkept htakes
    apply h.kept hkept
    rw [hout htakes]
    exact hview
  apply (does_out hhold.holder (hpermitted _ (by simp))).bind
  intro _ move₁ h₁
  have hpermitted₁ := hpermitted.kept h₁.1
  have hhold₁ := hnext hhold h₁.1 h₁.2
  apply (does_out hhold₁.holder (hpermitted₁ _ (by simp))).bind
  intro _ move₂ h₂
  have hpermitted₂ := hpermitted₁.kept h₂.1
  have hhold₂ := hnext hhold₁ h₂.1 h₂.2
  apply (does_out hhold₂.holder (hpermitted₂ _ (by simp))).bind
  intro _ move₃ h₃
  have hpermitted₃ := hpermitted₂.kept h₃.1
  have hhold₃ := hnext hhold₂ h₃.1 h₃.2
  apply (does_out hhold₃.holder (hpermitted₃ _ (by simp))).mono
  intro _ s₄ h₄
  refine ⟨hnext hhold₃ h₄.1 h₄.2, hpermitted₃.kept h₄.1, ?_⟩
  rw [hout h₄.2, hout h₃.2, hout h₂.2, hout h₁.2]
  cases hentered : move.after.chip.entered with
  | true => simp [hentered]
  | false => simp [hentered, Chip.press]

theorem does_exit (hhold : Hold p start now move.after) (hpermitted : Permitted p move.after)
    (hentered : move.after.chip.entered = true) :
    Does takes p sio_exit (fun _ s' => Hold p start now s') c move := by
  apply (does_out hhold.holder (hpermitted _ (by simp))).bind
  intro _ move₁ h₁
  obtain ⟨hkept₁, htakes₁⟩ := h₁
  have hchip₁ := takes_sio_index hentered htakes₁
  have hhold₁ : Hold p start now move₁.after := hhold.kept hkept₁ (by rw [hchip₁]; rfl)
  apply (does_out hhold₁.holder ((hpermitted.kept hkept₁) _ (by simp))).mono
  intro _ s₂ h₂
  obtain ⟨hkept₂, htakes₂⟩ := h₂
  apply hhold₁.kept hkept₂
  have hchip₂ : s₂.chip = { move₁.after.chip with entered := false } := by
    have hindex : move₁.after.chip.index = 0x02 := by rw [hchip₁]
    have hentered₁ : move₁.after.chip.entered = true := by
      rw [hchip₁]
      exact hentered
    simpa [Chip.Takes, SIO_DATA, SIO_INDEX, hindex, hentered₁] using htakes₂
  rw [hchip₂]
  rfl

/-- Permission is given or withdrawn. -/
theorem does_ioperm {n : Nat} {turn_on : Bool} (hhold : Hold p start now move.after) :
    Does takes p (port (.ioperm n turn_on)) (fun r s' => Hold p start now s' ∧
      (∀ u, r = .ok u → s'.allowed p = fun m =>
        if m = n ∨ m = n + 1 then turn_on else move.after.allowed p m)) c move := by
  intro b move' hmove
  obtain ⟨before, after, log⟩ := move'
  obtain ⟨hrely, hstep, -⟩ := hmove
  have hhold' := hhold.rely hrely
  refine ⟨fair_step hstep (fun _ _ h => by cases h) (fun h => by cases h), rfl, b, rfl, ?_⟩
  cases b with
  | ok u =>
    obtain rfl : after = before.permit p n turn_on := hstep
    refine ⟨⟨hhold'.holder, hhold'.taken, hhold'.view⟩, ?_⟩
    intro _ _
    show Function.update before.allowed p _ p = _
    rw [Function.update_self, hrely.own.allowed]
  | error e =>
    obtain rfl : after = before := hstep
    exact ⟨hhold', fun _ h => (by cases h)⟩

/-! ## `it86x_close` -/

/-- Everything is given back, and the registers are left as they are. -/
theorem spec_close (hhold : Hold p start now move.after) (hlocked : c.locked = true)
    (hopen : c.config_open = true → Permitted p move.after ∧ move.after.chip.entered = true) :
    Spec takes p it86x_close (fun r c' move' => r = .ok () ∧ c' = .none ∧
      Gone p start now move'.after) c move := by
  unfold it86x_close
  rw [Spec, wp_ctx_then]
  have hconfig : Does takes p (close_config c) (fun _ s' => Hold p start now s') c move := by
    unfold close_config
    split
    · next h => exact does_exit hhold (hopen h).1 (hopen h).2
    · exact ⟨rfl, (), rfl, hhold⟩
  apply hconfig.seq
  intro _ move₁ hhold₁
  have hports : Does takes p (close_ports c) (fun _ s' => Hold p start now s') c move₁ := by
    unfold close_ports
    split
    · apply (does_ioperm hhold₁).bind
      intro _ move₂ h₂
      apply (does_ioperm h₂.1).bind
      intro _ move₃ h₃
      exact ⟨rfl, (), rfl, h₃.1⟩
    · exact ⟨rfl, (), rfl, hhold₁⟩
  apply hports.seq
  intro _ move₂ hhold₂
  rw [close_lock, if_pos hlocked]
  apply among_call
  intro b s s' hrely hstep
  have hhold' := hhold₂.rely hrely
  obtain rfl : s' = s.release p := hstep
  refine ⟨fair_release, rfl, rfl, ?_⟩
  simp only [Board.release, hhold'.holder, if_true]
  refine ⟨by simp, hhold'.taken, ?_⟩
  show Function.update s.left p (some s.chip.view) p = some now
  rw [Function.update_self, hhold'.view]

theorem spec_abandon {α : Type} {error : FanError} (hhold : Hold p start now move.after)
    (hlocked : c.locked = true)
    (hopen : c.config_open = true → Permitted p move.after ∧ move.after.chip.entered = true) :
    Spec takes p (abandon error : Sio α) (fun r _ move' => r = .error error ∧
      Gone p start now move'.after) c move := by
  apply wp_seq (spec_close hhold hlocked hopen)
  · intro _ _ _ h
    exact ⟨rfl, h.2.2⟩
  · intro _ _ _ h
    cases h.1

/-! ## `it86x_open` -/

/-- The registers of the chip that is known, with its hardware monitor
    active. -/
structure Verified (regs : Registers) : Prop where
  high : regs.sio 0x20 = 0x86
  low : regs.sio 0x21 = 0x13
  active : regs.sio 0x30 &&& 0x01 ≠ 0

theorem verified_id {high low : UInt8} (h : high.toNat * 256 + low.toNat = IT8613_ID) :
    high = 0x86 ∧ low = 0x13 := by
  unfold IT8613_ID at h
  have hlow := low.toNat_lt
  have hhigh := high.toNat_lt
  constructor
  · apply UInt8.toNat_inj.mp
    show high.toNat = 134
    omega
  · apply UInt8.toNat_inj.mp
    show low.toNat = 19
    omega

/-- What is known when `it86x_open` returns. -/
def Opened (p : P) (r : Except FanError Unit) (c : Device) (s : Board P) : Prop :=
  match r with
  | .ok _ => (c.locked = true ∧ c.config_open = true) ∧
      ∃ start, Verified start ∧ Inside p start start s
  | .error _ => Idle p s ∨ ∃ start, Gone p start start s

theorem spec_refuse {α : Type} {error : FanError} (hhold : Hold p start start move.after)
    (hlocked : c.locked = true)
    (hopen : c.config_open = true → Permitted p move.after ∧ move.after.chip.entered = true) :
    Spec takes p (abandon error : Sio α) (fun r _ move' => (∃ e, r = .error e) ∧
      ∃ start, Gone p start start move'.after) c move := by
  apply wp_mono (spec_abandon hhold hlocked hopen) (fun _ h => h)
  intro r _ _ h
  exact ⟨⟨error, h.1⟩, start, h.2⟩

/-- The configuration is open, with any logical device selected. -/
structure Entered (p : P) (start : Registers) (s : Board P) : Prop where
  hold : Hold p start start s
  permitted : Permitted p s
  entered : s.chip.entered = true

theorem does_entered_read (h : Entered p start move.after) :
    Does takes p (it86x_sio_read reg) (fun b s' => Entered p start s' ∧
      s'.chip.device = move.after.chip.device ∧
      b = move.after.chip.config move.after.chip.device reg) c move := by
  apply (does_sio_read h.hold.holder h.permitted h.entered).mono
  intro b s' h'
  obtain ⟨hkept, hchip, hb⟩ := h'
  refine ⟨⟨h.hold.kept hkept ?_, h.permitted.kept hkept, ?_⟩, ?_, hb⟩
  · rw [hchip]
    rfl
  · rw [hchip]
    exact h.entered
  · rw [hchip]

/-- The registers below 0x30 are those of the chip. -/
theorem does_shared_read (h : Entered p start move.after) (hshared : reg < 0x30)
    (hreg : reg ≠ 0x07) :
    Does takes p (it86x_sio_read reg) (fun b s' => Entered p start s' ∧ b = start.sio reg) c
      move := by
  apply (does_entered_read h).mono
  intro b s' h'
  refine ⟨h'.1, ?_⟩
  rw [h'.2.2, ← h.hold.view]
  simp [Chip.view, Chip.config, hshared, hreg]

/-- The logical device of the hardware monitor is selected. -/
theorem does_select (h : Entered p start move.after) :
    Does takes p (it86x_sio_write 0x07 0x04) (fun _ s' => Entered p start s' ∧
      s'.chip.device = 0x04) c move := by
  apply (does_sio_write h.hold.holder h.permitted h.entered).mono
  intro _ s' h'
  obtain ⟨hkept, htakes⟩ := h'
  have hchip : s'.chip = { move.after.chip with index := 0x07, device := 0x04 } := by
    simpa [Chip.Takes, SIO_DATA, SIO_INDEX, h.entered] using htakes
  refine ⟨⟨h.hold.kept hkept ?_, h.permitted.kept hkept, ?_⟩, ?_⟩
  · rw [hchip]
    rfl
  · rw [hchip]
    exact h.entered
  · rw [hchip]

theorem spec_identify (hhold : Hold p start start move.after) (hpermitted : Permitted p move.after)
    (hlocked : c.locked = true) :
    Spec takes p identify (fun r c' move' => Opened p r c' move'.after) c move := by
  unfold identify
  apply (does_enter hhold hpermitted).seq
  intro _ move₁ h₁
  have hentered₁ : Entered p start move₁.after := ⟨h₁.1, h₁.2.1, h₁.2.2⟩
  rw [Spec, wp_update_then]
  apply (does_shared_read hentered₁ (by decide) (by decide)).seq
  intro high move₂ h₂
  obtain ⟨hentered₂, hhigh⟩ := h₂
  apply (does_shared_read hentered₂ (by decide) (by decide)).seq
  intro low move₃ h₃
  obtain ⟨hentered₃, hlow⟩ := h₃
  rw [Spec, wp_update_then]
  apply (does_entered_read hentered₃).seq
  intro revision move₄ h₄
  rw [Spec, wp_update_then]
  apply (does_select h₄.1).seq
  intro _ move₅ h₅
  obtain ⟨hentered₅, hdevice₅⟩ := h₅
  apply (does_entered_read hentered₅).seq
  intro active move₆ h₆
  obtain ⟨hentered₆, hdevice₆, hactive⟩ := h₆
  have hrefused : ∀ (c' : Device) (error : FanError), c'.locked = true →
      Spec takes p (abandon error : Sio Unit) (fun r c' move' => Opened p r c' move'.after) c'
        move₆ := by
    intro c' error hlocked'
    have hrefuse : Spec takes p (abandon error : Sio Unit) (fun r _ move' =>
        (∃ e, r = .error e) ∧ ∃ start, Gone p start start move'.after) c' move₆ :=
      spec_refuse hentered₆.hold hlocked' fun _ => ⟨hentered₆.permitted, hentered₆.entered⟩
    apply wp_mono hrefuse (fun _ h => h)
    intro r c'' move' h
    obtain ⟨⟨e, he⟩, hgone⟩ := h
    rw [he]
    exact .inr hgone
  by_cases hinactive : active &&& 0x01 = 0
  · rw [if_pos hinactive]
    exact hrefused _ _ hlocked
  rw [if_neg hinactive]
  by_cases hother : high.toNat * 256 + low.toNat ≠ IT8613_ID
  · rw [if_pos hother]
    exact hrefused _ _ hlocked
  rw [if_neg hother]
  obtain ⟨hhigh', hlow'⟩ := verified_id (not_not.mp hother)
  refine ⟨⟨hlocked, rfl⟩, start, ⟨hhigh.symm.trans hhigh', hlow.symm.trans hlow', ?_⟩, ?_⟩
  · rw [hactive, hdevice₅] at hinactive
    rw [← hentered₅.hold.view]
    exact hinactive
  · exact ⟨hentered₆.hold.holder, hentered₆.permitted, hentered₆.hold.taken, hentered₆.entered,
      hdevice₆.trans hdevice₅, hentered₆.hold.view⟩

theorem spec_enable_ports (hhold : Hold p start start move.after) (hlocked : c.locked = true)
    (hclosed : c.config_open = false) :
    Spec takes p (enable_ports strerror) (fun r c' move' => match r with
      | .ok _ => c'.locked = true ∧ Hold p start start move'.after ∧ Permitted p move'.after
      | .error _ => ∃ start, Gone p start start move'.after) c move := by
  have hrefused : ∀ (error : FanError) (move : Move ports (Board P)), Hold p start start move.after →
      Spec takes p (abandon error : Sio Unit) (fun r c' move' => match r with
        | .ok _ => c'.locked = true ∧ Hold p start start move'.after ∧ Permitted p move'.after
        | .error _ => ∃ start, Gone p start start move'.after) c move := by
    intro error move hhold
    apply wp_mono (spec_refuse hhold hlocked fun h => by rw [hclosed] at h; cases h) (fun _ h => h)
    intro r c' move' h
    obtain ⟨⟨e, he⟩, hgone⟩ := h
    rw [he]
    exact hgone
  unfold enable_ports
  apply (does_ioperm hhold).seq
  intro sio move₁ h₁
  obtain ⟨hhold₁, hsio⟩ := h₁
  cases sio with
  | error e => exact hrefused _ move₁ hhold₁
  | ok _ =>
    apply (does_ioperm hhold₁).seq
    intro hwm move₂ h₂
    obtain ⟨hhold₂, hhwm⟩ := h₂
    cases hwm with
    | error e =>
      apply (does_ioperm hhold₂).seq
      intro _ move₃ h₃
      exact hrefused _ move₃ h₃.1
    | ok _ =>
      refine ⟨hlocked, hhold₂, ?_⟩
      intro n hn
      rw [hhwm _ rfl, hsio _ rfl]
      simp only [List.mem_cons, List.not_mem_nil, or_false] at hn
      obtain rfl | rfl | rfl | rfl := hn <;> rfl

theorem does_first_present (paths : List String) (hidle : Idle p move.after) :
    Does takes p (first_present paths) (fun _ s' => Idle p s') c move := by
  induction paths generalizing move with
  | nil => exact ⟨rfl, none, rfl, hidle⟩
  | cons path paths ih =>
    have haccess : Does takes p (port (.access path)) (fun _ s' => Idle p s') c move := by
      intro b move' hmove
      obtain ⟨before, after, log⟩ := move'
      obtain ⟨hrely, hsame, -⟩ := hmove
      obtain rfl : after = before := hsame
      exact ⟨.refl p after, rfl, b, rfl, hidle.rely hrely⟩
    apply haccess.bind
    intro present move₁ hidle₁
    cases present with
    | true => exact ⟨rfl, some path, rfl, hidle₁⟩
    | false => exact ih hidle₁

/-- The lock could not be taken: only its file is closed. -/
theorem spec_unlocked {α : Type} {error : FanError} (hidle : Idle p move.after)
    (hconfig : c.config_open = false) (hports : c.ports_enabled = false) :
    Spec takes p (abandon error : Sio α) (fun r _ move' => r = .error error ∧
      Idle p move'.after) c move := by
  have hclose : Spec takes p it86x_close (fun r c' move' => r = .ok () ∧ Idle p move'.after) c
      move := by
    unfold it86x_close
    rw [Spec, wp_ctx_then]
    have hlock : Does takes p (close_lock c) (fun _ s' => Idle p s') c move := by
      unfold close_lock
      split
      · intro b move' hmove
        obtain ⟨before, after, log⟩ := move'
        obtain ⟨hrely, hstep, -⟩ := hmove
        obtain rfl : after = before.release p := hstep
        have hidle' := hidle.rely hrely
        refine ⟨fair_release, rfl, (), rfl, ?_⟩
        simp only [Board.release, if_neg hidle'.holder]
        exact ⟨hidle'.holder, hidle'.taken, hidle'.left⟩
      · exact ⟨rfl, (), rfl, hidle⟩
    simp only [close_config, close_ports, hconfig, hports]
    apply hlock.seq
    intro _ _ hidle'
    exact ⟨rfl, hidle'⟩
  apply wp_seq hclose
  · intro _ _ _ h
    exact ⟨rfl, h.2⟩
  · intro _ _ _ h
    cases h.1

theorem spec_open (hidle : Idle p move.after) :
    Spec takes p (it86x_open strerror) (fun r c' move' => Opened p r c' move'.after) c move := by
  unfold it86x_open
  rw [Spec, wp_update_then]
  apply (does_first_present owner_paths hidle).seq
  intro owner move₁ hidle₁
  cases owner with
  | some path => exact .inl hidle₁
  | none =>
    apply among_call
    intro opened s s' hrely hstep
    have hidle₂ := hidle₁.rely hrely
    refine ⟨fair_step hstep (fun _ _ h => by cases h) (fun h => by cases h), ?_⟩
    cases opened with
    | error e =>
      obtain rfl := hstep
      exact .inl hidle₂
    | ok _ =>
      obtain rfl := hstep
      rw [wp_update_then]
      apply among_call
      intro flocked s₁ s₂ hrely₂ hstep₂
      have hidle₃ : Idle p s₁ := by
        have hopened : Idle p { s with opened := Function.update s.opened p true } :=
          ⟨hidle₂.holder, hidle₂.taken, hidle₂.left⟩
        exact hopened.rely hrely₂
      refine ⟨fair_step hstep₂ (fun _ _ h => by cases h) (fun _ =>
        ⟨hidle₃.holder, hidle₃.taken, hidle₃.left⟩), ?_⟩
      cases flocked with
      | error e =>
        obtain rfl := hstep₂
        apply wp_mono (spec_unlocked hidle₃ rfl rfl) (fun _ h => h)
        intro r c' move' h
        rw [h.1]
        exact .inl h.2
      | ok _ =>
        obtain ⟨_, _, rfl⟩ := hstep₂
        have hhold : Hold p s₁.chip.view s₁.chip.view { s₁ with
            holder := some p
            taken := Function.update s₁.taken p (some s₁.chip.view) } :=
          ⟨rfl, Function.update_self _ _ _, rfl⟩
        apply wp_seq (spec_enable_ports hhold rfl rfl)
        · intro _ c' move' h
          exact spec_identify h.2.1 h.2.2 h.1
        · intro _ _ _ h
          exact .inr h

end UgreenNas.SuperIo
