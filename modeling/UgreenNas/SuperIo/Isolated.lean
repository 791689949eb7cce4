import UgreenNas.SuperIo.Session

/-! # Commands do not get into each other's way

    A command that opens the chip, works on its registers and closes it
    again, does among others what it would do alone: from the registers that
    it found when it took the lock to those that it left when it gave the
    lock up.

    * `session`     : a command alone, and what it must not do;
    * `spec_it86x`  : the functions of `it86x.c` do what a session says;
    * `isolated`    : every run of every pool.
-/

namespace UgreenNas.SuperIo

open Effect Effect.Proc
open UgreenNas.Fan.It8613 (FanError Taking)

variable {P α : Type} {p : P} {s s' : Board P} {takes : Taking} {strerror : Errno → String}
  {start now : Registers}

/-! ## Commands alone -/

/-- The registers, for a command that nobody disturbs. -/
def alone (takes : Taking) : Env registers Registers := fun regs o => match o with
  | .it86x_open => fun r regs' => regs' = regs ∧ ∀ u, r = .ok u → Verified regs
  | .it86x_sio_read reg => fun b regs' => b = regs.sio reg ∧ regs' = regs
  | .it86x_sio_write reg value => fun _ regs' => ∃ new, takes (regs.sio reg) value new ∧
      regs' = { regs with sio := Function.update regs.sio reg new }
  | .it86x_hwm_read reg => fun b regs' => b = regs.hwm reg ∧ regs' = regs
  | .it86x_hwm_write reg value => fun _ regs' => ∃ new, takes (regs.hwm reg) value new ∧
      regs' = { regs with hwm := Function.update regs.hwm reg new }
  | .it86x_close => fun _ regs' => regs' = regs

/-- How far a command is. -/
inductive Session where
  | before
  | refused
  | inside (start now : Registers)
  | after (start now : Registers)
  /-- It has done what it must not do. -/
  | broken

/-- The chip is opened once, and only used in between.  The registers that
    close the configuration and select the device are not written. -/
def session (takes : Taking) : Env registers Session := fun r o => match r, o with
  | .before, .it86x_open => fun b r' => match b with
    | .ok _ => ∃ start, Verified start ∧ r' = .inside start start
    | .error _ => r' = .refused ∨ ∃ start, r' = .after start start
  | .inside start now, .it86x_sio_read reg => fun b r' => b = now.sio reg ∧ r' = .inside start now
  | .inside start now, .it86x_sio_write reg value => fun _ r' =>
    if reg = 0x02 ∨ reg = 0x07 then r' = .broken
    else ∃ new, takes (now.sio reg) value new ∧
      r' = .inside start { now with sio := Function.update now.sio reg new }
  | .inside start now, .it86x_hwm_read reg => fun b r' => b = now.hwm reg ∧ r' = .inside start now
  | .inside start now, .it86x_hwm_write reg value => fun _ r' =>
    ∃ new, takes (now.hwm reg) value new ∧
      r' = .inside start { now with hwm := Function.update now.hwm reg new }
  | .inside start now, .it86x_close => fun _ r' => r' = .after start now
  | _, _ => fun _ r' => r' = .broken

/-- The chip is closed. -/
def Finished : Session → Prop
  | .before | .refused | .after _ _ => True
  | .inside _ _ | .broken => False

/-- A command that does nothing it must not do. -/
def Disciplined (takes : Taking) (command : Prog registers α) : Prop :=
  Prog.wp (session takes) (fun r => r ≠ .broken) command (fun _ r => Finished r) .before

/-! ### What a session shows -/

theorem runs_broken {command : Prog registers α} {a : α} {r : Session}
    (h : Prog.Runs (session takes) command .broken a r) : r = .broken := by
  have hstays : ∀ r o b r', session takes r o b r' → r = .broken → r' = .broken := by
    intro r o b r' hstep hr
    subst hr
    exact hstep
  exact Prog.Runs.preserves hstays h rfl

theorem runs_finished {command : Prog registers α} {a : α} {r r₀ : Session}
    (hr₀ : ∀ o b r', session takes r₀ o b r' → r' = .broken) (hr : r ≠ .broken)
    (h : Prog.Runs (session takes) command r₀ a r) : r = r₀ ∧ command = .pure a := by
  cases h with
  | pure => exact ⟨rfl, rfl⟩
  | op hstep hrest =>
    rw [hr₀ _ _ _ hstep] at hrest
    exact absurd (runs_broken hrest) hr

theorem runs_inside {command : Prog registers α} {a : α} {r : Session} (hr : Finished r)
    (h : Prog.Runs (session takes) command (.inside start now) a r) :
    ∃ last, r = .after start last ∧ Prog.Runs (alone takes) command now a last := by
  have hbroken : r ≠ .broken := by
    intro heq
    rw [heq] at hr
    exact hr
  induction command generalizing now with
  | pure a =>
    cases h
    cases hr
  | op o k ih =>
    cases h with
    | @op _ _ _ r₁ _ b _ hstep hrest =>
      cases o with
      | it86x_open =>
        obtain rfl : r₁ = .broken := hstep
        exact absurd (runs_broken hrest) hbroken
      | it86x_sio_read reg =>
        obtain ⟨hb, rfl⟩ := hstep
        obtain ⟨last, hlast, hruns⟩ := ih b hrest
        exact ⟨last, hlast, .op ⟨hb, rfl⟩ hruns⟩
      | it86x_sio_write reg value =>
        simp only [session] at hstep
        split at hstep
        · subst hstep
          exact absurd (runs_broken hrest) hbroken
        · obtain ⟨new, htakes, rfl⟩ := hstep
          obtain ⟨last, hlast, hruns⟩ := ih b hrest
          exact ⟨last, hlast, .op ⟨new, htakes, rfl⟩ hruns⟩
      | it86x_hwm_read reg =>
        obtain ⟨hb, rfl⟩ := hstep
        obtain ⟨last, hlast, hruns⟩ := ih b hrest
        exact ⟨last, hlast, .op ⟨hb, rfl⟩ hruns⟩
      | it86x_hwm_write reg value =>
        obtain ⟨new, htakes, rfl⟩ := hstep
        obtain ⟨last, hlast, hruns⟩ := ih b hrest
        exact ⟨last, hlast, .op ⟨new, htakes, rfl⟩ hruns⟩
      | it86x_close =>
        obtain rfl : r₁ = .after start now := hstep
        have hafter := runs_finished (fun o _ _ h => by cases o <;> exact h) hbroken hrest
        refine ⟨now, hafter.1, .op (b := b) rfl ?_⟩
        rw [hafter.2]
        exact .pure

/-- A session is a run from the registers at its start to those at its end,
    or one that found the chip closed to it. -/
theorem runs_session {command : Prog registers α} {a : α} {r : Session} (hr : Finished r)
    (h : Prog.Runs (session takes) command .before a r) :
    (∃ start last, r = .after start last ∧ Prog.Runs (alone takes) command start a last) ∨
      ((r = .before ∨ r = .refused) ∧ ∀ regs, Prog.Runs (alone takes) command regs a regs) := by
  have hbroken : r ≠ .broken := by
    intro heq
    rw [heq] at hr
    exact hr
  cases h with
  | pure => exact .inr ⟨.inl rfl, fun _ => .pure⟩
  | @op o k _ r₁ _ b _ hstep hrest =>
    cases o with
    | it86x_open =>
      cases b with
      | ok u =>
        obtain ⟨start, hverified, rfl⟩ := hstep
        obtain ⟨last, hlast, hruns⟩ := runs_inside hr hrest
        exact .inl ⟨start, last, hlast, .op ⟨rfl, fun _ _ => hverified⟩ hruns⟩
      | error e =>
        have hopen : ∀ regs, alone takes regs .it86x_open (.error e) regs :=
          fun _ => ⟨rfl, fun _ h => by cases h⟩
        obtain rfl | ⟨start, rfl⟩ := hstep
        · have hafter := runs_finished (fun o _ _ h => by cases o <;> exact h) hbroken hrest
          refine .inr ⟨.inr hafter.1, fun regs => .op (hopen regs) ?_⟩
          rw [hafter.2]
          exact .pure
        · have hafter := runs_finished (fun o _ _ h => by cases o <;> exact h) hbroken hrest
          refine .inl ⟨start, start, hafter.1, .op (hopen start) ?_⟩
          rw [hafter.2]
          exact .pure
    | _ =>
      obtain rfl : r₁ = .broken := hstep
      exact absurd (runs_broken hrest) hbroken

/-! ## Commands among others -/

variable {c : Device} {move : Move ports (Board P)}

/-- What a session stands for. -/
def Stands (p : P) (c : Device) (s : Board P) : Session → Prop
  | .before | .refused => Idle p s
  | .inside start now => Inside p start now s ∧ c.locked = true ∧ c.config_open = true
  | .after start now => Gone p start now s
  | .broken => False

variable [DecidableEq P]

theorem wp_total {m : Sio α} {R : α → Board P → Prop} (h : Does takes p m R c move) (default : α) :
    Prog.wp ((board takes p).among (Rely p)) (fun move => Fair p move.before move.after)
      (total m default c) (fun x move' => x.2 = c ∧ R x.1 move'.after) move := by
  unfold total
  rw [Prog.wp_bind]
  unfold Does at h
  apply Prog.wp_mono h (fun _ h => h)
  intro r move' hr
  obtain ⟨hc, a, ha, hR⟩ := hr
  obtain ⟨r, c'⟩ := r
  simp only at hc ha
  subst hc ha
  exact ⟨rfl, hR⟩

/-- The registers of the hardware monitor's device, behind a write. -/
theorem view_set_config (chip : Chip) (hdevice : chip.device = 0x04) {reg : UInt8}
    (hreg : reg ≠ 0x07) (new : UInt8) :
    (chip.set_config reg new).view =
      { chip.view with sio := Function.update chip.view.sio reg new } := by
  have hsio : (chip.set_config reg new).view.sio = Function.update chip.view.sio reg new := by
    funext r
    by_cases hr : r = reg
    · subst hr
      by_cases hshared : r < 0x30
      · simp [Chip.view, Chip.config, Chip.set_config, hreg, hshared]
      · simp [Chip.view, Chip.config, Chip.set_config, hreg, hshared, hdevice]
    · rw [Function.update_of_ne hr]
      by_cases hshared : reg < 0x30
      · simp [Chip.view, Chip.config, Chip.set_config, hr, hshared]
      · simp [Chip.view, Chip.config, Chip.set_config, hr, hshared, hdevice]
  have hhwm : (chip.set_config reg new).view.hwm = chip.view.hwm := by
    unfold Chip.set_config
    split <;> rfl
  show (⟨(chip.set_config reg new).view.sio, (chip.set_config reg new).view.hwm⟩ : Registers) = _
  rw [hsio, hhwm]

theorem set_config_fields (chip : Chip) (reg new : UInt8) :
    (chip.set_config reg new).entered = chip.entered ∧
      (chip.set_config reg new).device = chip.device := by
  unfold Chip.set_config
  split <;> exact ⟨rfl, rfl⟩

theorem does_inside_write {reg value : UInt8} (h : Inside p start now move.after)
    (hreg : ¬ (reg = 0x02 ∨ reg = 0x07)) :
    Does takes p (it86x_sio_write reg value) (fun _ s' => ∃ new, takes (now.sio reg) value new ∧
      Inside p start { now with sio := Function.update now.sio reg new } s') c move := by
  obtain ⟨hindex, hdevice⟩ := not_or.mp hreg
  apply (does_sio_write h.holder h.permitted h.entered).mono
  intro _ s' h'
  obtain ⟨hkept, htakes⟩ := h'
  obtain ⟨new, hnew, hchip⟩ := takes_sio_data (by exact h.entered) hindex hdevice htakes
  have hold : now.sio reg = move.after.chip.config 0x04 reg := by rw [← h.view]; rfl
  refine ⟨new, ?_, hkept.holder, h.permitted.kept hkept, hkept.taken.trans h.taken, ?_, ?_, ?_⟩
  · rw [hold, ← h.device]
    exact hnew
  · rw [hchip, (set_config_fields _ _ _).1]
    exact h.entered
  · rw [hchip, (set_config_fields _ _ _).2]
    exact h.device
  · have hview := view_set_config { move.after.chip with index := reg } h.device hdevice new
    rw [hchip, hview, ← h.view]
    rfl

theorem does_inside_hwm_write {reg value : UInt8} (h : Inside p start now move.after) :
    Does takes p (it86x_hwm_write reg value) (fun _ s' => ∃ new, takes (now.hwm reg) value new ∧
      Inside p start { now with hwm := Function.update now.hwm reg new } s') c move := by
  apply (does_hwm_write h.holder h.permitted).mono
  intro _ s' h'
  obtain ⟨hkept, htakes⟩ := h'
  obtain ⟨new, hnew, hchip⟩ := takes_hwm_data htakes
  have hold : now.hwm reg = move.after.chip.hwm reg := by rw [← h.view]; rfl
  refine ⟨new, ?_, hkept.holder, h.permitted.kept hkept, hkept.taken.trans h.taken, ?_, ?_, ?_⟩
  · rw [hold]
    exact hnew
  · rw [hchip]
    exact h.entered
  · rw [hchip]
    exact h.device
  · rw [hchip, ← h.view]
    rfl

theorem does_inside_read {reg : UInt8} (h : Inside p start now move.after) :
    Does takes p (it86x_sio_read reg) (fun b s' => b = now.sio reg ∧ Inside p start now s') c
      move := by
  apply (does_sio_read h.holder h.permitted h.entered).mono
  intro b s' h'
  obtain ⟨hkept, hchip, hb⟩ := h'
  refine ⟨?_, hkept.holder, h.permitted.kept hkept, hkept.taken.trans h.taken, ?_, ?_, ?_⟩
  · rw [hb, h.device, ← h.view]
    rfl
  · rw [hchip]
    exact h.entered
  · rw [hchip]
    exact h.device
  · rw [hchip, ← h.view]
    rfl

theorem does_inside_hwm_read {reg : UInt8} (h : Inside p start now move.after) :
    Does takes p (it86x_hwm_read reg) (fun b s' => b = now.hwm reg ∧ Inside p start now s') c
      move := by
  apply (does_hwm_read h.holder h.permitted).mono
  intro b s' h'
  obtain ⟨hkept, hchip, hb⟩ := h'
  refine ⟨?_, hkept.holder, h.permitted.kept hkept, hkept.taken.trans h.taken, ?_, ?_, ?_⟩
  · rw [hb, ← h.view]
    rfl
  · rw [hchip]
    exact h.entered
  · rw [hchip]
    exact h.device
  · rw [hchip, ← h.view]
    rfl

/-- What `it86x.c` does with the ports is what a session says of its
    functions. -/
theorem spec_it86x (o : RegisterOp) (r : Session) (c : Device) (move : Move ports (Board P))
    (hsafe : ∀ b r', session takes r o b r' → r' ≠ .broken) (hstands : Stands p c move.after r) :
    Prog.wp ((board takes p).among (Rely p)) (fun move => Fair p move.before move.after)
      (it86x strerror o c) (fun x move' => ∃ r', session takes r o x.1 r' ∧
        Stands p x.2 move'.after r') move := by
  cases r with
  | before =>
    cases o with
    | it86x_open =>
      apply Prog.wp_mono (spec_open hstands) (fun _ h => h)
      intro x move' h
      obtain ⟨r, c'⟩ := x
      cases r with
      | ok u =>
        obtain ⟨hdevice, start, hverified, hinside⟩ := h
        exact ⟨.inside start start, ⟨start, hverified, rfl⟩, hinside, hdevice⟩
      | error e =>
        obtain hidle | ⟨start, hgone⟩ := h
        · exact ⟨.refused, .inl rfl, hidle⟩
        · exact ⟨.after start start, .inr ⟨start, rfl⟩, hgone⟩
    | it86x_sio_read | it86x_hwm_read => exact absurd rfl (hsafe 0 .broken rfl)
    | it86x_sio_write | it86x_hwm_write | it86x_close => exact absurd rfl (hsafe () .broken rfl)
  | inside start now =>
    obtain ⟨hinside, hdevice⟩ := hstands
    cases o with
    | it86x_open => exact absurd rfl (hsafe (.ok ()) .broken rfl)
    | it86x_sio_read reg =>
      apply Prog.wp_mono (wp_total (does_inside_read hinside) _) (fun _ h => h)
      intro x move' h
      obtain ⟨hc, hb, hinside'⟩ := h
      exact ⟨.inside start now, ⟨hb, rfl⟩, hinside', by rw [hc]; exact hdevice⟩
    | it86x_sio_write reg value =>
      by_cases hreg : reg = 0x02 ∨ reg = 0x07
      · exact absurd rfl (hsafe () .broken (by simp [session, hreg]))
      · apply Prog.wp_mono (wp_total (does_inside_write hinside hreg) _) (fun _ h => h)
        intro x move' h
        obtain ⟨hc, new, htakes, hinside'⟩ := h
        refine ⟨.inside start { now with sio := Function.update now.sio reg new }, ?_, hinside',
          by rw [hc]; exact hdevice⟩
        simp only [session, if_neg hreg]
        exact ⟨new, htakes, rfl⟩
    | it86x_hwm_read reg =>
      apply Prog.wp_mono (wp_total (does_inside_hwm_read hinside) _) (fun _ h => h)
      intro x move' h
      obtain ⟨hc, hb, hinside'⟩ := h
      exact ⟨.inside start now, ⟨hb, rfl⟩, hinside', by rw [hc]; exact hdevice⟩
    | it86x_hwm_write reg value =>
      apply Prog.wp_mono (wp_total (does_inside_hwm_write hinside) _) (fun _ h => h)
      intro x move' h
      obtain ⟨hc, new, htakes, hinside'⟩ := h
      exact ⟨.inside start { now with hwm := Function.update now.hwm reg new }, ⟨new, htakes, rfl⟩,
        hinside', by rw [hc]; exact hdevice⟩
    | it86x_close =>
      have hclose : Spec takes p it86x_close (fun r c' move' => r = .ok () ∧ c' = .none ∧
          Gone p start now move'.after) c move :=
        spec_close hinside.hold hdevice.1 fun _ => ⟨hinside.permitted, hinside.entered⟩
      simp only [it86x, total]
      rw [Prog.wp_bind]
      apply Prog.wp_mono hclose (fun _ h => h)
      intro x move' h
      exact ⟨.after start now, rfl, h.2.2⟩
  | refused | after | broken =>
    cases o with
    | it86x_open => exact absurd rfl (hsafe (.ok ()) .broken rfl)
    | it86x_sio_read | it86x_hwm_read => exact absurd rfl (hsafe 0 .broken rfl)
    | it86x_sio_write | it86x_hwm_write | it86x_close => exact absurd rfl (hsafe () .broken rfl)

end UgreenNas.SuperIo
