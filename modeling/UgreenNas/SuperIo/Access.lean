import UgreenNas.SuperIo.Board

/-! # Access under the lock

    A process that holds the lock is the only one that sends anything to the
    ports, so the index port holds what the process wrote there.

    * `Rely`, `Fair` : what the others may do, and what a process may do;
    * `Kept`         : what a process knows of itself stays;
    * `spec_…`       : what the functions of `it86x.c` do under the lock.
-/

namespace UgreenNas.SuperIo

open Effect Effect.Proc
open UgreenNas.Fan.It8613 (FanError Taking)

variable {P α β : Type} {p q : P} {s s' s'' : Board P} {takes : Taking} {chip chip' : Chip}
  {strerror : Errno → String} {start now : Registers} {reg value : UInt8}

/-! ## Relations -/

/-- What belongs to `p` is as it was. -/
structure Own (p : P) (s s' : Board P) : Prop where
  opened : s'.opened p = s.opened p
  allowed : s'.allowed p = s.allowed p
  holder : s'.holder = some p ↔ s.holder = some p
  taken : s'.taken p = s.taken p
  left : s'.left p = s.left p

/-- What the others may do between two operations of `p`. -/
structure Rely (p : P) (s s' : Board P) : Prop where
  own : Own p s s'
  chip : s.holder = some p → s'.chip = s.chip

/-- What an operation of `p` has to do with the lock. -/
inductive Turn (p : P) (s s' : Board P) : Prop where
  /-- The chip is used, if at all, by the process that has the lock. -/
  | use (holder : s'.holder = s.holder) (taken : s'.taken = s.taken) (left : s'.left = s.left)
      (chip : s'.chip = s.chip ∨ s.holder = some p)
  /-- The lock is taken, for the first time. -/
  | take (free : s.holder = none) (fresh : s.taken p = none ∧ s.left p = none)
      (chip : s'.chip = s.chip) (holder : s'.holder = some p)
      (taken : s'.taken p = some s.chip.view) (left : s'.left p = none)
  | give (held : s.holder = some p) (chip : s'.chip = s.chip) (holder : s'.holder = none)
      (taken : s'.taken p = s.taken p) (left : s'.left p = some s.chip.view)

/-- What `p` may do in an operation. -/
structure Fair (p : P) (s s' : Board P) : Prop where
  others : ∀ q, q ≠ p → Own q s s'
  turn : Turn p s s'

theorem Own.refl (p : P) (s : Board P) : Own p s s := ⟨rfl, rfl, Iff.rfl, rfl, rfl⟩

theorem Own.trans (h : Own p s s') (h' : Own p s' s'') : Own p s s'' where
  opened := h'.opened.trans h.opened
  allowed := h'.allowed.trans h.allowed
  holder := h'.holder.trans h.holder
  taken := h'.taken.trans h.taken
  left := h'.left.trans h.left

theorem Rely.refl (p : P) (s : Board P) : Rely p s s := ⟨.refl p s, fun _ => rfl⟩

theorem Rely.trans (h : Rely p s s') (h' : Rely p s' s'') : Rely p s s'' where
  own := h.own.trans h'.own
  chip hholder := (h'.chip (h.own.holder.mpr hholder)).trans (h.chip hholder)

theorem Turn.refl (p : P) (s : Board P) : Turn p s s := .use rfl rfl rfl (.inl rfl)

theorem Turn.chip_eq (h : Turn p s s') : s'.chip = s.chip ∨ s.holder = some p := by
  cases h with
  | use _ _ _ hchip => exact hchip
  | take _ _ hchip => exact .inl hchip
  | give _ hchip => exact .inl hchip

theorem Fair.refl (p : P) (s : Board P) : Fair p s s := ⟨fun q _ => .refl q s, .refl p s⟩

theorem Fair.rely (h : Fair p s s') (hne : q ≠ p) : Rely q s s' where
  own := h.others q hne
  chip hholder := by
    obtain hsame | hp := h.turn.chip_eq
    · exact hsame
    · rw [hholder] at hp
      exact absurd (Option.some.inj hp) hne

/-- What `p` knows of itself is as it was, and it holds the lock. -/
structure Kept (p : P) (s s' : Board P) : Prop where
  holder : s'.holder = some p
  allowed : s'.allowed p = s.allowed p
  taken : s'.taken p = s.taken p
  left : s'.left p = s.left p

theorem Kept.trans (h : Kept p s s') (h' : Kept p s' s'') : Kept p s s'' :=
  ⟨h'.holder, h'.allowed.trans h.allowed, h'.taken.trans h.taken, h'.left.trans h.left⟩

theorem Rely.kept (h : Rely p s s') (hholder : s.holder = some p) : Kept p s s' :=
  ⟨h.own.holder.mpr hholder, h.own.allowed, h.own.taken, h.own.left⟩

/-- `p` may use the pairs of ports. -/
def Permitted (p : P) (s : Board P) : Prop :=
  ∀ n ∈ [SIO_INDEX, SIO_DATA, HWM_INDEX, HWM_DATA], s.allowed p n = true

theorem Permitted.kept (h : Permitted p s) (hkept : Kept p s s') : Permitted p s' := by
  intro n hn
  rw [hkept.allowed]
  exact h n hn

/-- The configuration registers of the hardware monitor are open to `p`. -/
structure Inside (p : P) (start now : Registers) (s : Board P) : Prop where
  holder : s.holder = some p
  permitted : Permitted p s
  taken : s.taken p = some start
  entered : s.chip.entered = true
  device : s.chip.device = 0x04
  view : s.chip.view = now

theorem Inside.rely (h : Inside p start now s) (hrely : Rely p s s') : Inside p start now s' := by
  have hkept := hrely.kept h.holder
  have hchip := hrely.chip h.holder
  refine ⟨hkept.holder, h.permitted.kept hkept, hkept.taken.trans h.taken, ?_, ?_, ?_⟩
  · rw [hchip]
    exact h.entered
  · rw [hchip]
    exact h.device
  · rw [hchip]
    exact h.view

/-! ## Steps -/

section steps

variable [DecidableEq P]

theorem fair_release : Fair p s (s.release p) := by
  unfold Board.release
  split
  · next hholder =>
    constructor
    · intro q hne
      have hother : s.holder ≠ some q := by
        rw [hholder]
        exact fun heq => hne (Option.some.inj heq).symm
      exact ⟨Function.update_of_ne hne _ _, rfl, by simp [hother], rfl,
        Function.update_of_ne hne _ _⟩
    · exact .give hholder rfl rfl rfl (Function.update_self _ _ _)
  · constructor
    · intro q hne
      exact { Own.refl q s with opened := Function.update_of_ne hne _ _ }
    · exact .use rfl rfl rfl (.inl rfl)

theorem fair_kill : Fair p s (s.kill p) := by
  obtain ⟨hothers, hturn⟩ := fair_release (p := p) (s := s)
  constructor
  · intro q hne
    exact { hothers q hne with allowed := Function.update_of_ne hne _ _ }
  · cases hturn with
    | use holder taken left chip => exact .use holder taken left chip
    | take free fresh chip holder taken left => exact .take free fresh chip holder taken left
    | give held chip holder taken left => exact .give held chip holder taken left

/-- Without the lock nothing is sent to a port, and the lock is not taken
    twice. -/
theorem fair_step {o : PortOp} {b : o.Ans} (h : board takes p s o b s')
    (hout : ∀ value port, o = .outb value port → s.holder = some p)
    (hflock : o = .flock → s.holder ≠ some p ∧ s.taken p = none ∧ s.left p = none) :
    Fair p s s' := by
  have hsame : s' = s → Fair p s s' := by
    rintro rfl
    exact .refl p s'
  cases o with
  | access path => exact hsame h
  | open_lock path =>
    cases b with
    | ok u =>
      obtain rfl := h
      refine ⟨?_, .use rfl rfl rfl (.inl rfl)⟩
      intro q hne
      exact { Own.refl q s with opened := Function.update_of_ne hne _ _ }
    | error e => exact hsame h
  | flock =>
    cases b with
    | ok u =>
      obtain ⟨_, hfree, rfl⟩ := h
      obtain ⟨hholder, htaken, hleft⟩ := hflock rfl
      have hnone : s.holder = none := hfree.resolve_right hholder
      constructor
      · intro q hne
        exact { Own.refl q s with
          holder := by simp [hnone, Ne.symm hne]
          taken := Function.update_of_ne hne _ _ }
      · exact .take hnone ⟨htaken, hleft⟩ rfl rfl (Function.update_self _ _ _) hleft
    | error e => exact hsame h
  | ioperm port turn_on =>
    cases b with
    | ok u =>
      obtain rfl := h
      refine ⟨?_, .use rfl rfl rfl (.inl rfl)⟩
      intro q hne
      exact { Own.refl q s with allowed := Function.update_of_ne hne _ _ }
    | error e => exact hsame h
  | outb value port =>
    have hholder := hout value port rfl
    simp only [board] at h
    split at h
    · obtain ⟨chip, _, rfl⟩ := h
      exact ⟨fun q _ => { Own.refl q s with }, .use rfl rfl rfl (.inr hholder)⟩
    · exact hsame h
  | inb port => exact hsame h.1
  | close_lock =>
    obtain rfl : s' = s.release p := h
    exact fair_release

/-! ## Calls -/

/-- The weakest precondition of a process among others. -/
abbrev Spec (takes : Taking) (p : P) (m : Sio α)
    (Q : Except FanError α → Device → Move ports (Board P) → Prop) (c : Device)
    (move : Move ports (Board P)) : Prop :=
  wp ((board takes p).among (Rely p)) (fun move => Fair p move.before move.after) m Q c move

/-- `m` cannot fail, leaves its variables alone, and has the result `R`
    from a state that it leaves behind. -/
def Does (takes : Taking) (p : P) (m : Sio α) (R : α → Board P → Prop) (c : Device)
    (move : Move ports (Board P)) : Prop :=
  Spec takes p m (fun r c' move' => c' = c ∧ ∃ a, r = .ok a ∧ R a move'.after) c move

variable {c : Device} {move : Move ports (Board P)} {m : Sio α} {g : α → Sio β}
  {R : α → Board P → Prop}

theorem Does.seq {Q : Except FanError β → Device → Move ports (Board P) → Prop}
    (hm : Does takes p m R c move)
    (hg : ∀ a move', R a move'.after → Spec takes p (g a) Q c move') :
    Spec takes p (m >>= g) Q c move := by
  unfold Does at hm
  apply wp_seq hm
  · intro a c' move' h
    obtain ⟨rfl, a', ha, hR⟩ := h
    obtain rfl := Except.ok.inj ha
    exact hg a move' hR
  · intro e c' move' h
    obtain ⟨_, a', ha, _⟩ := h
    cases ha

theorem Does.bind {R' : β → Board P → Prop} (hm : Does takes p m R c move)
    (hg : ∀ a move', R a move'.after → Does takes p (g a) R' c move') :
    Does takes p (m >>= g) R' c move := by
  unfold Does at hg ⊢
  exact hm.seq hg

theorem Does.mono {R' : α → Board P → Prop} (hm : Does takes p m R c move)
    (h : ∀ a s, R a s → R' a s) : Does takes p m R' c move := by
  unfold Does at hm ⊢
  apply wp_mono hm (fun _ h => h)
  intro r c' move' hR
  obtain ⟨hc, a, ha, hR⟩ := hR
  exact ⟨hc, a, ha, h a _ hR⟩

/-- A byte is sent to a port. -/
theorem does_out {n : Nat} (hholder : move.after.holder = some p)
    (hallowed : move.after.allowed p n = true) :
    Does takes p (outb value n) (fun _ s' => Kept p move.after s' ∧
      move.after.chip.Takes takes n value s'.chip) c move := by
  intro b move' hmove
  obtain ⟨hrely, hstep, -⟩ := hmove
  have hkept := hrely.kept hholder
  refine ⟨fair_step hstep (fun _ _ _ => hkept.holder) (fun h => by cases h), rfl, (), rfl, ?_⟩
  have hpermitted : move'.before.allowed p n = true := by
    rw [hkept.allowed]
    exact hallowed
  simp only [board, hpermitted, if_true] at hstep
  obtain ⟨chip, htakes, hafter⟩ := hstep
  rw [hrely.chip hholder] at htakes
  rw [hafter]
  exact ⟨⟨hkept.holder, hkept.allowed, hkept.taken, hkept.left⟩, htakes⟩

/-- A byte is read from a port. -/
theorem does_in {n : Nat} (hholder : move.after.holder = some p)
    (hallowed : move.after.allowed p n = true) :
    Does takes p (inb n) (fun b s' => Kept p move.after s' ∧ s'.chip = move.after.chip ∧
      move.after.chip.Gives n b) c move := by
  intro b move' hmove
  obtain ⟨before, after, log⟩ := move'
  obtain ⟨hrely, ⟨hsame, hgives⟩, -⟩ := hmove
  obtain rfl : after = before := hsame
  have hkept := hrely.kept hholder
  have hpermitted : after.allowed p n = true := by
    rw [hkept.allowed]
    exact hallowed
  refine ⟨.refl p after, rfl, b, rfl, hkept, hrely.chip hholder, ?_⟩
  rw [← hrely.chip hholder]
  exact hgives hpermitted

/-! ## Registers -/

theorem takes_sio_index (hentered : chip.entered = true)
    (h : chip.Takes takes SIO_INDEX value chip') : chip' = { chip with index := value } := by
  simpa [Chip.Takes, hentered] using h

theorem takes_sio_data (hentered : chip.entered = true) (hindex : chip.index ≠ 0x02)
    (hdevice : chip.index ≠ 0x07) (h : chip.Takes takes SIO_DATA value chip') :
    ∃ new, takes (chip.config chip.device chip.index) value new ∧
      chip' = chip.set_config chip.index new := by
  simpa [Chip.Takes, SIO_DATA, SIO_INDEX, hentered, hindex, hdevice] using h

theorem takes_hwm_index (h : chip.Takes takes HWM_INDEX value chip') :
    chip' = { chip with hwm_index := value } := by
  simpa [Chip.Takes, HWM_INDEX, SIO_INDEX, SIO_DATA] using h

theorem takes_hwm_data (h : chip.Takes takes HWM_DATA value chip') :
    ∃ new, takes (chip.hwm chip.hwm_index) value new ∧
      chip' = { chip with hwm := Function.update chip.hwm chip.hwm_index new } := by
  simpa [Chip.Takes, HWM_DATA, HWM_INDEX, SIO_INDEX, SIO_DATA] using h

theorem does_sio_read (hholder : move.after.holder = some p) (hpermitted : Permitted p move.after)
    (hentered : move.after.chip.entered = true) :
    Does takes p (it86x_sio_read reg) (fun b s' => Kept p move.after s' ∧
      s'.chip = { move.after.chip with index := reg } ∧
      b = move.after.chip.config move.after.chip.device reg) c move := by
  apply (does_out hholder (hpermitted _ (by simp))).bind
  intro _ move₁ h₁
  obtain ⟨hkept₁, htakes⟩ := h₁
  have hchip₁ := takes_sio_index hentered htakes
  apply (does_in hkept₁.holder ((hpermitted.kept hkept₁) _ (by simp))).mono
  intro b s' h₂
  obtain ⟨hkept₂, hchip₂, hgives⟩ := h₂
  refine ⟨hkept₁.trans hkept₂, hchip₂.trans hchip₁, ?_⟩
  have hvalue := hgives.1 rfl (by rw [hchip₁]; exact hentered)
  rw [hchip₁] at hvalue
  exact hvalue

theorem does_hwm_read (hholder : move.after.holder = some p) (hpermitted : Permitted p move.after) :
    Does takes p (it86x_hwm_read reg) (fun b s' => Kept p move.after s' ∧
      s'.chip = { move.after.chip with hwm_index := reg } ∧ b = move.after.chip.hwm reg) c move := by
  apply (does_out hholder (hpermitted _ (by simp))).bind
  intro _ move₁ h₁
  obtain ⟨hkept₁, htakes⟩ := h₁
  have hchip₁ := takes_hwm_index htakes
  apply (does_in hkept₁.holder ((hpermitted.kept hkept₁) _ (by simp))).mono
  intro b s' h₂
  obtain ⟨hkept₂, hchip₂, hgives⟩ := h₂
  refine ⟨hkept₁.trans hkept₂, hchip₂.trans hchip₁, ?_⟩
  have hvalue := hgives.2 rfl
  rw [hchip₁] at hvalue
  exact hvalue

theorem does_sio_write (hholder : move.after.holder = some p) (hpermitted : Permitted p move.after)
    (hentered : move.after.chip.entered = true) :
    Does takes p (it86x_sio_write reg value) (fun _ s' => Kept p move.after s' ∧
      ({ move.after.chip with index := reg } : Chip).Takes takes SIO_DATA value s'.chip) c move := by
  apply (does_out hholder (hpermitted _ (by simp))).bind
  intro _ move₁ h₁
  obtain ⟨hkept₁, htakes⟩ := h₁
  have hchip₁ := takes_sio_index hentered htakes
  apply (does_out hkept₁.holder ((hpermitted.kept hkept₁) _ (by simp))).mono
  intro _ s' h₂
  obtain ⟨hkept₂, htakes₂⟩ := h₂
  rw [hchip₁] at htakes₂
  exact ⟨hkept₁.trans hkept₂, htakes₂⟩

theorem does_hwm_write (hholder : move.after.holder = some p) (hpermitted : Permitted p move.after) :
    Does takes p (it86x_hwm_write reg value) (fun _ s' => Kept p move.after s' ∧
      ({ move.after.chip with hwm_index := reg } : Chip).Takes takes HWM_DATA value s'.chip) c
        move := by
  apply (does_out hholder (hpermitted _ (by simp))).bind
  intro _ move₁ h₁
  obtain ⟨hkept₁, htakes⟩ := h₁
  have hchip₁ := takes_hwm_index htakes
  apply (does_out hkept₁.holder ((hpermitted.kept hkept₁) _ (by simp))).mono
  intro _ s' h₂
  obtain ⟨hkept₂, htakes₂⟩ := h₂
  rw [hchip₁] at htakes₂
  exact ⟨hkept₁.trans hkept₂, htakes₂⟩

end steps

end UgreenNas.SuperIo
