import UgreenNas.Effect.Along
import UgreenNas.Effect.Logs
import UgreenNas.Led.Cs201x.Trace

/-! # What a probe leaves of the Super I/O

    The configuration registers of the chip answer in configuration mode
    only.  A probe enters this mode, selects another logical device, and
    goes back.  Whatever fails on the way, the chip is as it was before if
    nothing fails on the way back.
-/

namespace UgreenNas.Led.Cs201x

open Effect Effect.Proc

/-! ## Configuration mode -/

def enter_keys : List UInt8 := [0xa5, 0x69, 0x87]

def leave_keys : List UInt8 := [0x87, 0x69, 0xa5]

/-- How a chip goes from mode to mode with the bytes written to its index
    port.  Of the chip only its two sequences are known: whatever was written
    before them, one opens the configuration mode and the other one closes
    it, and indices of registers leave it open. -/
structure Keys (K : Type) where
  key : K → UInt8 → K
  opened : K → Bool
  enters : ∀ k, opened (enter_keys.foldl key k) = true
  leaves : ∀ k, opened (leave_keys.foldl key k) = false
  selects : ∀ k index, opened k = true → index ∉ enter_keys → opened (key k index) = true

/-- A chip that compares the last three bytes with its sequences. -/
def last_three : Keys (Bool × UInt8 × UInt8) where
  key := fun k byte =>
    let last := [k.2.1, k.2.2, byte]
    (if last = enter_keys then true else if last = leave_keys then false else k.1, k.2.2, byte)
  opened := fun k => k.1
  enters := by
    intro k
    rfl
  leaves := by
    intro k
    rfl
  selects := by
    intro k index hopened hindex
    have hother : [k.2.1, k.2.2, index] ≠ leave_keys := by
      intro hsame
      obtain rfl : index = 0xa5 := by
        simp only [leave_keys, List.cons.injEq, and_true] at hsame
        exact hsame.2.2
      exact hindex (by decide)
    simp only [hother, if_false, hopened]
    split
    · rfl
    · rfl

/-- A chip, and where it is between its modes. -/
structure SuperIo (K : Type) where
  device : Device
  keys : K

section chip

variable {K : Type} (L : Keys K)

/-- A write that takes effect: registers are written in configuration mode
    only. -/
def SuperIo.write (s : SuperIo K) (p : Nat) (value : UInt8) : SuperIo K :=
  match s.device.port p with
  | .index => { device := s.device.write p value, keys := L.key s.keys value }
  | .value => if L.opened s.keys then { s with device := s.device.write p value } else s
  | _ => { s with device := s.device.write p value }

/-- Any access may fail, and a write that fails may have taken effect.  Out
    of configuration mode a register may read as anything. -/
def super_io : Env cs_io (SuperIo K)
  | s, .read_port p, .ok value, s' =>
    s' = s ∧ (p = CS_VALUE → L.opened s.keys = true → value = s.device.config_value)
  | s, .write_port p value, .ok (), s' => s' = s.write L p value
  | s, .write_port p value, .error _, s' => s' = s.write L p value ∨ s' = s
  | s, _, _, s' => s' = s

end chip

/-! ## Logs -/

/-- A write to the data port of the configuration registers; the only ones
    of a probe are those to the selector. -/
def Selects (event : Event cs_io) : Prop := ∃ value, event.1 = .write_port CS_VALUE value

/-- The selector has been read, and this is what it was. -/
def SelectorRead (ldn : UInt8) (log : Log) : Prop := sio_read_log 0x07 ldn <:+: log

/-- A write that reports success. -/
def Written (event : Event cs_io) : Prop :=
  ∃ p value, event = ⟨.write_port p value, .ok ()⟩

def leave_ops : List CsOp := leave_keys.map (CsOp.write_port CS_INDEX)

/-- The writes of the cleanup: the device selected before, if another one may
    have been selected, is selected again, and configuration mode is left.
    Without the index of the selector its value is not written. -/
inductive Cleanup : Bool → Log → Prop where
  | leave {log : Log} : log.map Sigma.fst = leave_ops → Cleanup false log
  | reselect {old : UInt8} {log : Log} :
      log.map Sigma.fst =
        CsOp.write_port CS_INDEX 0x07 :: CsOp.write_port CS_VALUE old :: leave_ops →
      Cleanup true log
  | lost {e : Errno} {log : Log} : log.map Sigma.fst = leave_ops →
      Cleanup true (⟨CsOp.write_port CS_INDEX 0x07, .error e⟩ :: log)

/-! ## Accesses -/

section accesses

variable {K : Type} {L : Keys K} {c : Context} {s s' : SuperIo K × Log}

/-- The selector stays, and nothing is written to it. -/
structure Looked (s s' : SuperIo K × Log) : Prop where
  ldn : s'.1.device.ldn = s.1.device.ldn
  log : ∃ new, s'.2 = s.2 ++ new ∧ ∀ event ∈ new, ¬ Selects event

instance : Std.Refl (@Looked K) where
  refl _ := ⟨rfl, [], (List.append_nil _).symm, fun _ h => absurd h List.not_mem_nil⟩

instance : IsTrans (SuperIo K × Log) Looked where
  trans s s' s'' h h' := by
    obtain ⟨new, hnew, hlooks⟩ := h.log
    obtain ⟨new', hnew', hlooks'⟩ := h'.log
    refine ⟨h'.ldn.trans h.ldn, new ++ new', by rw [hnew', hnew, List.append_assoc], ?_⟩
    intro event hevent
    exact (List.mem_append.mp hevent).elim (hlooks event) (hlooks' event)

/-- Configuration mode stays open, and the log goes on. -/
structure Open (L : Keys K) (s s' : SuperIo K × Log) : Prop where
  opened : L.opened s.1.keys = true → L.opened s'.1.keys = true
  log : s.2 <+: s'.2

instance : Std.Refl (Open L) where
  refl _ := ⟨id, List.prefix_rfl⟩

instance : IsTrans (SuperIo K × Log) (Open L) where
  trans _ _ _ h h' := ⟨fun hopened => h'.opened (h.opened hopened), h.log.trans h'.log⟩

theorem super_write_index (s : SuperIo K) (value : UInt8) : s.write L CS_INDEX value =
    { device := { s.device with index := value }, keys := L.key s.keys value } := by
  unfold SuperIo.write
  rw [port_index, write_index]

theorem super_write_selector {s : SuperIo K} (hopened : L.opened s.keys = true)
    (hindex : s.device.index = 0x07) (value : UInt8) :
    s.write L CS_VALUE value = { s with device := { s.device with ldn := value } } := by
  unfold SuperIo.write
  rw [port_value]
  simp only [hopened, if_true, write_value value hindex]

/-- The steps of writes: they are written down, and take effect if they
    succeed. -/
theorem write_step {p : Nat} {value : UInt8} {r : Except Errno Unit}
    (h : (super_io L).logged s (.write_port p value) r s') :
    s'.2 = s.2 ++ [⟨.write_port p value, r⟩] ∧ (r = .ok () → s'.1 = s.1.write L p value) ∧
      (s'.1 = s.1.write L p value ∨ s'.1 = s.1) := by
  obtain ⟨hstep, hlog⟩ := h
  refine ⟨hlog, ?_⟩
  cases r with
  | ok u => exact ⟨fun _ => hstep, .inl hstep⟩
  | error e => exact ⟨fun h => (by cases h), hstep⟩

theorem not_selects_index (value : UInt8) (r : Except Errno Unit) :
    ¬ Selects ⟨.write_port CS_INDEX value, r⟩ := by
  intro h
  obtain ⟨value', hvalue⟩ := h
  injection hvalue with hport
  exact absurd hport (by decide)

theorem looked_write_index {value : UInt8} {r : Except Errno Unit}
    (h : (super_io L).logged s (.write_port CS_INDEX value) r s') : Looked s s' := by
  obtain ⟨hlog, -, heffect⟩ := write_step h
  refine ⟨?_, _, hlog, ?_⟩
  · rcases heffect with heq | heq
    · rw [heq, super_write_index]
    · rw [heq]
  · intro event hevent
    rw [List.mem_singleton.mp hevent]
    exact not_selects_index value r

theorem open_write_index {value : UInt8} {r : Except Errno Unit} (hvalue : value ∉ enter_keys)
    (h : (super_io L).logged s (.write_port CS_INDEX value) r s') : Open L s s' := by
  obtain ⟨hlog, -, heffect⟩ := write_step h
  refine ⟨?_, _, hlog.symm⟩
  intro hopened
  rcases heffect with heq | heq
  · rw [heq, super_write_index]
    exact L.selects _ _ hopened hvalue
  · rw [heq]
    exact hopened

theorem wp_port_write_super (p : Nat) (value : UInt8) (I : SuperIo K × Log → Prop)
    (Q : Except Errno Unit → Context → SuperIo K × Log → Prop) :
    wp (super_io L).logged I (port_write p value) Q c s ↔
      ∀ r s', (super_io L).logged s (.write_port p value) r s' → I s' ∧ Q r c s' := Iff.rfl

/-- Reads change nothing. -/
theorem read_step {p : Nat} {r : Except Errno UInt8}
    (h : (super_io L).logged s (.read_port p) r s') :
    s'.1 = s.1 ∧ s'.2 = s.2 ++ [⟨.read_port p, r⟩] ∧
      ∀ value, r = .ok value → p = CS_VALUE → L.opened s.1.keys = true →
        value = s.1.device.config_value := by
  obtain ⟨hstep, hlog⟩ := h
  cases r with
  | ok value =>
    obtain ⟨hsame, hvalue⟩ := hstep
    refine ⟨hsame, hlog, ?_⟩
    intro value' hvalue'
    obtain rfl := Except.ok.inj hvalue'
    exact hvalue
  | error e => exact ⟨hstep, hlog, fun _ h => (by cases h)⟩

theorem looked_read {r : Except Errno UInt8}
    (h : (super_io L).logged s (.read_port CS_VALUE) r s') : Looked s s' := by
  obtain ⟨hsame, hlog, -⟩ := read_step h
  refine ⟨by rw [hsame], _, hlog, ?_⟩
  intro event hevent hselects
  obtain ⟨value, hvalue⟩ := hselects
  rw [List.mem_singleton.mp hevent] at hvalue
  cases hvalue

theorem open_read {r : Except Errno UInt8}
    (h : (super_io L).logged s (.read_port CS_VALUE) r s') : Open L s s' := by
  obtain ⟨hsame, hlog, -⟩ := read_step h
  exact ⟨fun hopened => by rw [hsame]; exact hopened, _, hlog.symm⟩

section along

variable {R : SuperIo K × Log → SuperIo K × Log → Prop}

theorem along_port_write {p : Nat} {value : UInt8}
    (h : ∀ r s', (super_io L).logged s (.write_port p value) r s' → R s s') :
    Along (super_io L).logged R (port_write p value) (fun _ s' =>
      s'.2 = s.2 ++ [wrote p value] ∧ s'.1 = s.1.write L p value) c s := by
  intro r s' hstep
  refine ⟨h r s' hstep, rfl, h r s' hstep, ?_⟩
  intro u hr
  obtain ⟨hlog, heffect, -⟩ := write_step hstep
  have hdone : r = .ok () := hr
  rw [hdone] at hlog
  exact ⟨hlog, heffect hdone⟩

theorem along_port_read (h : ∀ r s', (super_io L).logged s (.read_port CS_VALUE) r s' → R s s') :
    Along (super_io L).logged R (port_read CS_VALUE) (fun value s' => s'.1 = s.1 ∧
      s'.2 = s.2 ++ [got CS_VALUE value] ∧
      (L.opened s.1.keys = true → value = s.1.device.config_value)) c s := by
  intro r s' hstep
  refine ⟨h r s' hstep, rfl, h r s' hstep, ?_⟩
  intro value hr
  obtain ⟨hsame, hlog, hvalue⟩ := read_step hstep
  have hread : r = .ok value := hr
  rw [hread] at hlog
  exact ⟨hsame, hlog, hvalue value hread rfl⟩

variable [IsTrans (SuperIo K × Log) R]

/-- In configuration mode the register behind an index is read. -/
theorem along_sio_read {index : UInt8} (hindex : index ∉ enter_keys)
    (hwrite : ∀ s r s', (super_io L).logged s (.write_port CS_INDEX index) r s' → R s s')
    (hread : ∀ s r s', (super_io L).logged s (.read_port CS_VALUE) r s' → R s s') :
    Along (super_io L).logged R (sio_read index) (fun value s' => L.opened s.1.keys = true →
      L.opened s'.1.keys = true ∧ s'.1.device = { s.1.device with index := index } ∧
        s'.2 = s.2 ++ sio_read_log index value ∧ value = s'.1.device.config_value) c s := by
  apply (along_port_write (hwrite s)).bind
  intro _ s₁ _ hwritten
  obtain ⟨hlog₁, hs₁⟩ := hwritten
  apply (along_port_read (hread s₁)).mono
  intro value s₂ _ hgot hopened
  obtain ⟨hs₂, hlog₂, hvalue⟩ := hgot
  rw [super_write_index] at hs₁
  have hopened₁ : L.opened s₁.1.keys = true := by
    rw [hs₁]
    exact L.selects _ _ hopened hindex
  rw [hs₂]
  refine ⟨hopened₁, by rw [hs₁], ?_, hvalue hopened₁⟩
  rw [hlog₂, hlog₁, List.append_assoc]
  rfl

theorem along_sio_word {index : UInt8} (hindex : index ∉ enter_keys)
    (hindex' : index + 1 ∉ enter_keys)
    (hwrite : ∀ index s r s', index ∉ enter_keys →
      (super_io L).logged s (.write_port CS_INDEX index) r s' → R s s')
    (hread : ∀ s r s', (super_io L).logged s (.read_port CS_VALUE) r s' → R s s')
    [Std.Refl R] :
    Along (super_io L).logged R (sio_word index) (fun _ s' =>
      L.opened s.1.keys = true → L.opened s'.1.keys = true) c s := by
  apply (along_sio_read hindex (fun s r s' => hwrite index s r s' hindex) hread).bind
  intro high s₁ _ hhigh
  apply (along_sio_read hindex' (fun s r s' => hwrite _ s r s' hindex') hread).bind
  intro low s₂ _ hlow
  apply Along.pure
  intro hopened
  exact (hlow (hhigh hopened).1).1

end along

/-- The unlock sequence opens configuration mode if all of it is written. -/
theorem looked_enter (values : List UInt8) :
    Along (super_io L).logged Looked (enter values) (fun _ s' =>
      s'.1.keys = values.foldl L.key s.1.keys) c s := by
  induction values generalizing s with
  | nil => exact Along.pure rfl
  | cons value rest ih =>
    apply (along_port_write fun r s' h => looked_write_index h).attempt.bind
    intro r s₁ _ hwritten
    have hpause : Along (super_io L).logged Looked (pause_ms 1 : Io Unit)
        (fun _ s' => s'.1 = s₁.1) c s₁ := by
      apply Along.bind (P := fun _ s' => s'.1 = s₁.1)
      · apply Along.ask
        intro b s' hstep
        obtain ⟨hsame, hlog⟩ := hstep
        have hsame : s'.1 = s₁.1 := hsame
        refine ⟨⟨by rw [hsame], _, hlog, ?_⟩, hsame⟩
        intro event hevent hselects
        obtain ⟨_, hvalue⟩ := hselects
        rw [List.mem_singleton.mp hevent] at hvalue
        cases hvalue
      · intro _ s' _ hsame
        exact Along.pure hsame
    apply hpause.bind
    intro _ s₂ _ hpaused
    apply (Along.lift (P := fun _ s' => s'.1.keys = L.key s.1.keys value) ?_).bind
    · intro _ s₃ _ hkey
      rw [List.foldl_cons, ← hkey]
      exact ih
    · intro u hr
      rw [hpaused, (hwritten u hr).2, super_write_index]

theorem open_write_value {value : UInt8} {r : Except Errno Unit}
    (h : (super_io L).logged s (.write_port CS_VALUE value) r s') : Open L s s' := by
  obtain ⟨hlog, -, heffect⟩ := write_step h
  refine ⟨?_, _, hlog.symm⟩
  intro hopened
  rcases heffect with heq | heq
  · rw [heq]
    unfold SuperIo.write
    rw [port_value]
    simp only [hopened, if_true]
  · rw [heq]
    exact hopened

end accesses

/-! ## The parts of a probe -/

/-- The writes of `reselect`. -/
inductive Reselected (old : UInt8) : Log → Prop where
  | done {r : Except Errno Unit} :
      Reselected old [wrote CS_INDEX 0x07, ⟨.write_port CS_VALUE old, r⟩]
  | lost {e : Errno} : Reselected old [⟨.write_port CS_INDEX 0x07, .error e⟩]

section parts

variable {K : Type} {L : Keys K} {c : Context} {s : SuperIo K × Log}

theorem not_written_error {e : Errno} {p : Nat} {value : UInt8} :
    ¬ Written ⟨.write_port p value, .error e⟩ := by
  intro h
  obtain ⟨p', value', heq⟩ := h
  simp only [Sigma.mk.injEq] at heq
  obtain ⟨hop, hr⟩ := heq
  injection hop with hport hvalue
  subst hport hvalue
  cases eq_of_heq hr

theorem ok_of_written {r : Except Errno Unit} {p : Nat} {value : UInt8}
    (h : Written ⟨.write_port p value, r⟩) : r = .ok () := by
  cases r with
  | ok u => rfl
  | error e => exact absurd h not_written_error

/-- The selector gets its value back in configuration mode. -/
theorem wp_reselect (hopened : L.opened s.1.keys = true) (old : UInt8) :
    wp (super_io L).logged (fun s' => s.2 <+: s'.2) (reselect old) (fun _ c' s' => c' = c ∧
      ∃ head, s'.2 = s.2 ++ head ∧ Reselected old head ∧
        ((∀ event ∈ head, Written event) → s'.1.device.ldn = old)) c s := by
  apply (wp_bind _ _ _).mpr
  apply (wp_port_write_super _ _ _ _).mpr
  intro r s₁ hindex
  obtain ⟨hlog₁, heffect, -⟩ := write_step hindex
  refine ⟨⟨_, hlog₁.symm⟩, ?_⟩
  cases r with
  | error e =>
    refine ⟨rfl, _, hlog₁, .lost, ?_⟩
    intro hwritten
    exact absurd (hwritten _ List.mem_cons_self) not_written_error
  | ok u =>
    have hs₁ := heffect rfl
    rw [super_write_index] at hs₁
    have hopened₁ : L.opened s₁.1.keys = true := by
      rw [hs₁]
      exact L.selects _ _ hopened (by decide)
    apply (wp_port_write_super _ _ _ _).mpr
    intro r s₂ hvalue
    obtain ⟨hlog₂, heffect₂, -⟩ := write_step hvalue
    rw [hlog₁, List.append_assoc] at hlog₂
    refine ⟨⟨_, hlog₂.symm⟩, rfl, _, hlog₂, .done, ?_⟩
    intro hwritten
    have hr := ok_of_written (hwritten _ (List.mem_cons_of_mem _ List.mem_cons_self))
    have hindex₁ : s₁.1.device.index = 0x07 := by rw [hs₁]
    rw [heffect₂ hr, super_write_selector hopened₁ hindex₁]

/-- The lock sequence is written to its end, whatever fails. -/
theorem wp_leave {α : Type} (values : List UInt8) (r : Except Errno α) :
    wp (super_io L).logged (fun s' => Looked s s') (leave values r) (fun r' c' s' => c' = c ∧
      Looked s s' ∧ (∀ found, r' = .ok (.ok found) → r = .ok found) ∧
        ∃ tail, s'.2 = s.2 ++ tail ∧ tail.map Sigma.fst = values.map (CsOp.write_port CS_INDEX) ∧
          ((∀ event ∈ tail, Written event) → s'.1.keys = values.foldl L.key s.1.keys)) c s := by
  induction values generalizing s r with
  | nil =>
    refine ⟨rfl, Std.Refl.refl s, ?_, [], (List.append_nil _).symm, rfl, fun _ => rfl⟩
    intro found hfound
    exact Except.ok.inj hfound
  | cons value rest ih =>
    apply (wp_bind _ _ _).mpr
    apply (wp_attempt _ _).mpr
    apply (wp_port_write_super _ _ _ _).mpr
    intro cleanup s₁ hwrite
    have hlooked := looked_write_index hwrite
    obtain ⟨hlog₁, heffect, -⟩ := write_step hwrite
    refine ⟨hlooked, ?_⟩
    refine wp_mono (ih (first_error r cleanup)) (fun s' h => IsTrans.trans _ _ _ hlooked h) ?_
    intro r' c' s₂ hrest
    obtain ⟨hc, hlooked₂, hfound, tail, hlog₂, hops, hkeys⟩ := hrest
    refine ⟨hc, IsTrans.trans _ _ _ hlooked hlooked₂, ?_, ⟨_, cleanup⟩ :: tail, ?_, ?_, ?_⟩
    · intro found hr'
      exact (first_error_eq_ok (hfound found hr')).1
    · rw [hlog₂, hlog₁, List.append_assoc]
      rfl
    · rw [List.map_cons, hops]
      rfl
    · intro hwritten
      have hdone := ok_of_written (hwritten _ List.mem_cons_self)
      rw [hkeys fun event hevent => hwritten event (List.mem_cons_of_mem _ hevent),
        heffect hdone, super_write_index]
      rfl

/-- Behind the write to the selector: nothing of the mode is lost. -/
theorem wp_probe_selected :
    wp (super_io L).logged (fun s' => s.2 <+: s'.2) probe_selected (fun _ c' s' => c' = c ∧
      (L.opened s.1.keys = true → L.opened s'.1.keys = true) ∧
        ∃ new, s'.2 = s.2 ++ new ∧ ∃ event ∈ new, Selects event) c s := by
  apply (wp_bind _ _ _).mpr
  apply (wp_port_write_super _ _ _ _).mpr
  intro r s₁ hwrite
  have hopen := open_write_value hwrite
  obtain ⟨hlog₁, -, -⟩ := write_step hwrite
  have hselects : Selects ⟨.write_port CS_VALUE 0x0a, r⟩ := ⟨0x0a, rfl⟩
  refine ⟨⟨_, hlog₁.symm⟩, ?_⟩
  cases r with
  | error e =>
    exact ⟨rfl, hopen.opened, _, hlog₁, _, List.mem_singleton.mpr rfl, hselects⟩
  | ok u =>
    have hrest : Along (super_io L).logged (Open L) (do
        let active ← sio_read 0x30
        bail (active ≠ 1) Errno.ENODEV
        let base ← sio_word 0x60
        bail (sane_base base = false) Errno.ENODEV
        pure base) (fun _ _ => True) c s₁ := by
      apply (along_sio_read (by decide) (fun _ _ _ => open_write_index (by decide))
        fun _ _ _ => open_read).bind
      intro active s₂ _ _
      apply Along.bail.bind
      intro _ s₃ _ _
      apply (along_sio_word (by decide) (by decide) (fun _ _ _ _ => open_write_index)
        fun _ _ _ => open_read).bind
      intro base s₄ _ _
      apply Along.bail.bind
      intro _ s₅ _ _
      exact Along.pure trivial
    refine wp_mono hrest (fun s' h => hopen.log.trans h.log) ?_
    intro r c' s' hr
    obtain ⟨hc, hopen', -⟩ := hr
    obtain ⟨new, hnew⟩ := hopen'.log
    refine ⟨hc, fun h => hopen'.opened (hopen.opened h), _ :: new, ?_, _, List.mem_cons_self,
      hselects⟩
    rw [← hnew, hlog₁, List.append_assoc]
    rfl

end parts

/-! ## The probe -/

/-- The selector has its value, or this value is known. -/
def Known {K : Type} (s : SuperIo K) (s' : SuperIo K × Log) : Prop :=
  s'.1.device.ldn = s.device.ldn ∨ SelectorRead s.device.ldn s'.2

/-- How `probe_chip` leaves a chip that it has found in `s`. -/
inductive Checked {K : Type} (s : SuperIo K) (s' : SuperIo K × Log) : Prop where
  | unselected : Looked (s, []) s' → Checked s s'
  | selected {old : UInt8} {checks head : Log} : s'.2 = checks ++ head →
      (∃ event ∈ checks, Selects event) → Reselected old head →
      ((∀ event ∈ head, Written event) → s'.1.device.ldn = s.device.ldn) → Checked s s'

section probe

variable {K : Type} {L : Keys K} {c : Context} (s : SuperIo K)

theorem Looked.known {s : SuperIo K} {s' : SuperIo K × Log} (h : Looked (s, []) s') : Known s s' :=
  .inl h.ldn

/-- The events of a probe that has looked only. -/
theorem Looked.no_selects {s : SuperIo K} {s' : SuperIo K × Log} (h : Looked (s, []) s') :
    ∀ event ∈ s'.2, ¬ Selects event := by
  obtain ⟨new, hnew, hlooks⟩ := h.log
  rw [hnew]
  exact hlooks

/-- The selected part of the probe, from where the selector may change. -/
theorem wp_selected {α : Type} {s₁ : SuperIo K × Log} (hopened : L.opened s₁.1.keys = true)
    (hread : SelectorRead s.device.ldn s₁.2) (found : Nat → α) :
    wp (super_io L).logged (Known s) (do
        let r ← attempt probe_selected
        let cleanup ← attempt (reselect s.device.ldn)
        let base ← lift (first_error r cleanup)
        pure (found base) : Io α)
      (fun r c' s' => c' = c ∧ (∀ a, r = .ok a → ∃ base, a = found base) ∧ Checked s s') c s₁ := by
  have hknown : ∀ {s₂ s' : SuperIo K × Log}, s₁.2 <+: s₂.2 → s₂.2 <+: s'.2 → Known s s' :=
    fun hbefore hlog => .inr (hread.trans (hbefore.trans hlog).isInfix)
  apply (wp_bind _ _ _).mpr
  apply (wp_attempt _ _).mpr
  refine wp_mono wp_probe_selected (fun s' hlog => hknown List.prefix_rfl hlog) ?_
  intro r c₂ s₂ hselected
  obtain ⟨rfl, hkeeps, new, hnew, hselects⟩ := hselected
  apply (wp_bind _ _ _).mpr
  apply (wp_attempt _ _).mpr
  refine wp_mono (wp_reselect (hkeeps hopened) s.device.ldn)
    (fun s' hlog => hknown ⟨new, hnew.symm⟩ hlog) ?_
  intro cleanup c₃ s₃ hreselect
  obtain ⟨rfl, head, hhead, hreselected, hback⟩ := hreselect
  have hchecked : Checked s s₃ := by
    refine .selected (hhead.trans (by rw [hnew])) ?_ hreselected hback
    obtain ⟨event, hevent, hselects⟩ := hselects
    exact ⟨event, List.mem_append_right _ hevent, hselects⟩
  apply (wp_bind _ _ _).mpr
  apply (wp_lift _ _).mpr
  cases hfirst : first_error r cleanup with
  | error e => exact ⟨rfl, fun _ h => (by cases h), hchecked⟩
  | ok base =>
    refine ⟨rfl, ?_, hchecked⟩
    intro a ha
    exact ⟨base, (Except.ok.inj ha).symm⟩

theorem wp_probe_chip : wp (super_io L).logged (Known s) probe_chip (fun r c' s' => c' = c ∧
    (∀ found, r = .ok found → found.1 = 0x2011) ∧ Checked s s') c (s, []) := by
  -- up to the write to the selector a failure leaves it alone
  have hfailed : ∀ (e : Errno) (s' : SuperIo K × Log), Looked (s, []) s' → c = c ∧
      (∀ found : Nat × Nat × Nat, Except.error e = Except.ok found → found.1 = 0x2011) ∧
      Checked s s' :=
    fun e s' hlooked => ⟨rfl, fun _ h => (by cases h), .unselected hlooked⟩
  apply (looked_enter enter_keys).wp_then (fun s' h => h.known) _ hfailed
  intro _ s₁ hlooked₁ hkeys
  have hopened₁ : L.opened s₁.1.keys = true := by
    rw [hkeys]
    exact L.enters _
  have hword : ∀ {index : UInt8} {s' : SuperIo K × Log}, index ∉ enter_keys →
      index + 1 ∉ enter_keys → Along (super_io L).logged Looked (sio_word index)
        (fun _ s'' => L.opened s'.1.keys = true → L.opened s''.1.keys = true) c s' :=
    fun hindex hindex' => along_sio_word hindex hindex' (fun _ _ _ _ _ => looked_write_index)
      fun _ _ _ => looked_read
  apply (hword (by decide) (by decide)).wp_then
    (fun s' h => (IsTrans.trans _ _ _ hlooked₁ h).known) _
    (fun e s' h => hfailed e s' (IsTrans.trans _ _ _ hlooked₁ h))
  intro chip s₂ hlooked hopened₂
  have hlooked₂ := IsTrans.trans _ _ _ hlooked₁ hlooked
  apply Along.bail.wp_then (R := Looked) (fun s' h => (IsTrans.trans _ _ _ hlooked₂ h).known) _
    (fun e s' h => hfailed e s' (IsTrans.trans _ _ _ hlooked₂ h))
  intro _ s₃ _ hchip
  obtain ⟨rfl, hchip⟩ := hchip
  apply (hword (by decide) (by decide)).wp_then
    (fun s' h => (IsTrans.trans _ _ _ hlooked₂ h).known) _
    (fun e s' h => hfailed e s' (IsTrans.trans _ _ _ hlooked₂ h))
  intro revision s₄ hlooked hopened₄
  have hlooked₄ := IsTrans.trans _ _ _ hlooked₂ hlooked
  apply (along_sio_read (by decide) (fun _ _ _ => looked_write_index)
    fun _ _ _ => looked_read).wp_then
    (fun s' h => (IsTrans.trans _ _ _ hlooked₄ h).known) _
    (fun e s' h => hfailed e s' (IsTrans.trans _ _ _ hlooked₄ h))
  intro old_ldn s₅ hlooked hread
  have hlooked₅ := IsTrans.trans _ _ _ hlooked₄ hlooked
  obtain ⟨hopened₅, hdevice, hlog₅, hvalue⟩ := hread (hopened₄ (hopened₂ hopened₁))
  -- what was read is the selector
  have hold : old_ldn = s.device.ldn := by
    rw [hvalue, ← hlooked₅.ldn]
    unfold Device.config_value
    rw [if_pos (by rw [hdevice])]
  subst hold
  apply (along_port_write fun r s' h => looked_write_index h).wp_then
    (fun s' h => (IsTrans.trans _ _ _ hlooked₅ h).known) _
    (fun e s' h => hfailed e s' (IsTrans.trans _ _ _ hlooked₅ h))
  intro _ s₆ hlooked hwritten
  obtain ⟨hlog₆, hs₆⟩ := hwritten
  rw [super_write_index] at hs₆
  have hopened₆ : L.opened s₆.1.keys = true := by
    rw [hs₆]
    exact L.selects _ _ hopened₅ (by decide)
  have hread₆ : SelectorRead s.device.ldn s₆.2 := by
    rw [hlog₆, hlog₅]
    exact ⟨s₄.2, [wrote CS_INDEX 0x07], rfl⟩
  refine wp_mono (wp_selected s hopened₆ hread₆ fun base => (chip, revision, base))
    (fun _ h => h) ?_
  intro r c' s' hr
  obtain ⟨hc, hfound, hchecked⟩ := hr
  refine ⟨hc, ?_, hchecked⟩
  intro found hok
  obtain ⟨base, rfl⟩ := hfound found hok
  exact not_not.mp hchip

/-- How a probe leaves a chip that it has found in `s`: the log ends with a
    cleanup, and if its writes succeed, the selector has its old value and
    configuration mode is left. -/
def Restored (L : Keys K) (s : SuperIo K) (s' : SuperIo K × Log) : Prop :=
  ∃ checks cleanup selected, s'.2 = checks ++ cleanup ∧
    (selected = true ↔ ∃ event ∈ checks, Selects event) ∧ Cleanup selected cleanup ∧
      ((∀ event ∈ cleanup, Written event) →
        s'.1.device.ldn = s.device.ldn ∧ L.opened s'.1.keys = false)

/-- Configuration mode is left behind `probe_chip`. -/
theorem Checked.restored {s : SuperIo K} {s₁ s' : SuperIo K × Log} (h : Checked s s₁)
    (hldn : s'.1.device.ldn = s₁.1.device.ldn) {tail : Log} (hlog : s'.2 = s₁.2 ++ tail)
    (hops : tail.map Sigma.fst = leave_ops)
    (hkeys : (∀ event ∈ tail, Written event) → s'.1.keys = leave_keys.foldl L.key s₁.1.keys) :
    Restored L s s' := by
  have hclosed : (∀ event ∈ tail, Written event) → L.opened s'.1.keys = false := by
    intro hwritten
    rw [hkeys hwritten]
    exact L.leaves _
  cases h with
  | unselected hlooked =>
    refine ⟨s₁.2, tail, false, hlog, ?_, .leave hops, ?_⟩
    · constructor
      · intro h
        cases h
      · intro hsome
        obtain ⟨event, hevent, hselects⟩ := hsome
        exact absurd hselects (hlooked.no_selects event hevent)
    · intro hwritten
      exact ⟨hldn.trans hlooked.ldn, hclosed hwritten⟩
  | @selected old checks head hsplit hselects hreselected hback =>
    refine ⟨checks, head ++ tail, true, by rw [hlog, hsplit, List.append_assoc],
      ⟨fun _ => hselects, fun _ => rfl⟩, ?_, ?_⟩
    · cases hreselected with
      | done => exact .reselect (by rw [List.map_append, hops]; rfl)
      | lost => exact .lost hops
    · intro hwritten
      have hhead := hback fun event hevent => hwritten event (List.mem_append_left _ hevent)
      exact ⟨hldn.trans hhead,
        hclosed fun event hevent => hwritten event (List.mem_append_right _ hevent)⟩

theorem wp_probe : wp (super_io L).logged (Known s) probe (fun r c' s' => Restored L s s' ∧
    (∀ e, r = .error e → c' = c) ∧
      ∀ base, r = .ok base →
        ∃ revision, c' = { c with chip_id := 0x2011, revision := revision }) c (s, []) := by
  have hstart : Known s (s, []) := .inl rfl
  apply (wp_bind _ _ _).mpr
  apply (wp_attempt _ _).mpr
  refine wp_mono (wp_keeps hstart (wp_probe_chip s)) (fun _ h => h) ?_
  intro r c₁ s₁ hchip
  obtain ⟨hknown, rfl, hfound, hchecked⟩ := hchip
  apply (wp_bind _ _ _).mpr
  refine wp_mono (wp_leave leave_keys r) ?_ ?_
  · intro s' hlooked
    obtain ⟨new, hnew, -⟩ := hlooked.log
    rcases hknown with hldn | hread
    · exact .inl (hlooked.ldn.trans hldn)
    · rw [Known, hnew]
      exact .inr (hread.trans (List.prefix_append _ _).isInfix)
  · intro r' c₂ s₂ hleave
    obtain ⟨rfl, hlooked, hok, tail, hlog, hops, hkeys⟩ := hleave
    have hrestored := hchecked.restored hlooked.ldn hlog hops hkeys
    cases r' with
    | error e => exact ⟨hrestored, fun _ _ => rfl, fun _ h => (by cases h)⟩
    | ok found =>
      cases found with
      | error e => exact ⟨hrestored, fun _ _ => rfl, fun _ h => (by cases h)⟩
      | ok found =>
        obtain ⟨chip, revision, base⟩ := found
        obtain rfl : chip = 0x2011 := hfound _ (hok _ rfl)
        exact ⟨hrestored, fun _ h => (by cases h), fun _ _ => ⟨revision, rfl⟩⟩

end probe

/-! ## What is stored -/

/-- What the context remembers of the chip is what it was before, or what a
    complete probe has found. -/
def Stored (c c' : Context) (log : Log) : Prop :=
  (c'.base = c.base ∧ c'.chip_id = c.chip_id ∧ c'.revision = c.revision) ∨
    ∃ p : Probed, sane_base p.base = true ∧ probe_log p <:+: log ∧
      (c'.base = c.base ∨ c'.base = p.base)

section stored

variable {c c' : Context} {log : Log}

/-- Nothing but the context is seen. -/
theorem silent_io {ε : Type} (o : CsOp) :
    Silent (recorded cs_io) (fun _ => ()) (io o : Proc cs_io Context ε _) :=
  silent_ask fun _ _ _ _ => rfl

theorem silent_port_write (p : Nat) (value : UInt8) :
    Silent (recorded cs_io) (fun _ => ()) (port_write p value) :=
  (silent_io _).bind fun _ => silent_lift _

theorem silent_owners (base : Nat) : Silent (recorded cs_io) (fun _ => ()) (owners base) :=
  silent_ctx.bind fun _ => (silent_io _).bind fun _ => silent_lift _

theorem silent_permission (port count : Nat) (enable : Bool) :
    Silent (recorded cs_io) (fun _ => ()) (permission port count enable) :=
  (silent_io _).bind fun _ => silent_lift _

theorem silent_detect : Silent (recorded cs_io) (fun _ => ()) detect :=
  (silent_io _).bind fun _ => silent_lift _

theorem silent_ec_read (reg : Nat) : Silent (recorded cs_io) (fun _ => ()) (ec_read reg) := by
  have hbytes : ∀ base bytes, Silent (recorded cs_io) (fun _ => ()) (address_bytes base reg bytes) := by
    intro base bytes
    induction bytes with
    | nil => exact silent_pure ()
    | cons byte rest ih => exact (silent_port_write _ _).bind fun _ => ih
  have haddress : Silent (recorded cs_io) (fun _ => ()) (address reg) :=
    silent_ctx.bind fun _ => (silent_port_write _ _).bind fun _ => hbytes _ _
  exact haddress.bind fun _ => ((silent_io _).bind fun _ => silent_pure ()).bind fun _ =>
    silent_ctx.bind fun _ => (silent_io _).bind fun _ => silent_lift _

theorem silent_enter (values : List UInt8) : Silent (recorded cs_io) (fun _ => ()) (enter values) := by
  induction values with
  | nil => exact silent_pure ()
  | cons value rest ih =>
    exact (silent_port_write _ _).attempt.bind fun _ =>
      ((silent_io _).bind fun _ => silent_pure ()).bind fun _ => (silent_lift _).bind fun _ => ih

theorem silent_leave {α : Type} (values : List UInt8) (r : Except Errno α) :
    Silent (recorded cs_io) (fun _ => ()) (leave values r) := by
  induction values generalizing r with
  | nil => exact silent_pure r
  | cons value rest ih => exact (silent_port_write _ _).attempt.bind fun _ => ih _

theorem silent_sio_word (index : UInt8) :
    Silent (recorded cs_io) (fun _ => ()) (sio_word index) := by
  have hread : ∀ index, Silent (recorded cs_io) (fun _ => ()) (sio_read index) :=
    fun index => (silent_port_write _ _).bind fun _ => (silent_io _).bind fun _ => silent_lift _
  exact (hread _).bind fun _ => (hread _).bind fun _ => silent_pure _

theorem silent_probe_chip : Silent (recorded cs_io) (fun _ => ()) probe_chip := by
  have hread : ∀ index, Silent (recorded cs_io) (fun _ => ()) (sio_read index) :=
    fun index => (silent_port_write _ _).bind fun _ => (silent_io _).bind fun _ => silent_lift _
  have hselected : Silent (recorded cs_io) (fun _ => ()) probe_selected :=
    (silent_port_write _ _).bind fun _ => (hread _).bind fun _ => (silent_bail _ _).bind fun _ =>
      (silent_sio_word _).bind fun _ => (silent_bail _ _).bind fun _ => silent_pure _
  have hreselect : ∀ old, Silent (recorded cs_io) (fun _ => ()) (reselect old) :=
    fun old => (silent_port_write _ _).bind fun _ => silent_port_write _ _
  apply (silent_enter _).bind; intro _
  apply (silent_sio_word _).bind; intro chip
  apply (silent_bail _ _).bind; intro _
  apply (silent_sio_word _).bind; intro revision
  apply (hread _).bind; intro old_ldn
  apply (silent_port_write _ _).bind; intro _
  apply hselected.attempt.bind; intro r
  apply (hreselect old_ldn).attempt.bind; intro cleanup
  exact (silent_lift _).bind fun _ => silent_pure _

/-- A probe that fails stores nothing. -/
theorem probe_error {e : Errno} (h : Logs probe c (.error e) c' log) : c' = c := by
  rcases Logs.of_silent_then silent_probe_chip.attempt h with heq | ⟨r, _, second, -, hleave⟩
  · exact heq
  · rcases Logs.of_silent_then (silent_leave _ r) hleave with heq | ⟨r', _, third, -, hstore⟩
    · exact heq
    · cases r' with
      | error e' => exact (Logs.of_fail hstore).2.1
      | ok found =>
        obtain ⟨chip, revision, base⟩ := found
        cases hstore

theorem acquire_base {base : Nat} {r : Except Failure Unit} (h : Logs (acquire base) c r c' log) :
    c'.base = c.base ∨ c'.base = base := by
  have hacquire := Logs.of_ctx_then h
  split at hacquire
  · rw [(Logs.of_pure hacquire).2.1]
    exact .inl rfl
  · rcases Logs.of_silent_then ((silent_owners base).mapError _) hacquire with rfl | ⟨_, _, _, -, h₁⟩
    · exact .inl rfl
    rcases Logs.of_silent_then ((silent_permission base 13 true).mapError _) h₁ with
      rfl | ⟨_, _, _, -, h₂⟩
    · exact .inl rfl
    rw [(Logs.of_update h₂).2.1]
    exact .inr rfl

/-- Behind the probe of a guard the base is stored, if anything is; the checks
    make no difference. -/
theorem guard_tail_base {base : Nat} {identity : Identity} {p : Prop} [Decidable p]
    {q q' : UInt8 → Prop} [DecidablePred q] [DecidablePred q'] {e e' e'' : Failure}
    {report : Errno → Failure} {r : Except Failure UInt8}
    (h : Logs (do
      bail p e
      acquire base
      let flow ← mapError (ec_read CS_FLOW) report
      bail (q flow) e'
      bail (q' flow) e''
      update fun c => { c with identity := identity, confirmed := true }
      pure flow) c r c' log) : c'.base = c.base ∨ c'.base = base := by
  rcases Logs.of_silent_then (silent_bail _ _) h with rfl | ⟨_, _, _, -, h₁⟩
  · exact .inl rfl
  rcases h₁.of_bind with ⟨_, c₁, _, _, -, hacquire, h₂⟩ | ⟨_, -, hacquire⟩
  · have hbase := acquire_base hacquire
    rcases Logs.of_silent_then ((silent_ec_read CS_FLOW).mapError _) h₂ with
      rfl | ⟨flow, _, _, -, h₃⟩
    · exact hbase
    rcases Logs.of_silent_then (silent_bail _ _) h₃ with rfl | ⟨_, _, _, -, h₄⟩
    · exact hbase
    rcases Logs.of_silent_then (silent_bail _ _) h₄ with rfl | ⟨_, _, _, -, h₅⟩
    · exact hbase
    rw [(Logs.of_pure (Logs.of_update_then (k := fun _ => pure flow) h₅)).2.1]
    exact hbase
  · exact acquire_base hacquire

/-- A guard stores what a complete probe has found, or nothing. -/
theorem guard_flow_stores {writing : Bool} {expected_flow : Option UInt8}
    {r : Except Failure UInt8} (h : Logs (guard_flow writing expected_flow) c r c' log) :
    Stored c c' log := by
  have hsame : ∀ {c'' : Context} {log : Log}, c'' = { c with confirmed := false } →
      Stored c c'' log := by
    intro c'' log heq
    rw [heq]
    exact .inl ⟨rfl, rfl, rfl⟩
  rcases Logs.of_silent_then (silent_bail _ _) (Logs.of_ctx_then (Logs.of_update_then h)) with
    heq | ⟨_, first₁, second₁, hlog₁, h₁⟩
  · exact hsame heq
  rcases Logs.of_silent_then silent_detect h₁ with heq | ⟨identity, first₂, second₂, hlog₂, h₂⟩
  · exact hsame heq
  rcases Logs.of_silent_then (silent_bail _ _) h₂ with heq | ⟨_, first₃, second₃, hlog₃, h₃⟩
  · exact hsame heq
  rcases Logs.of_silent_then ((silent_owners _).mapError _) h₃ with
    heq | ⟨_, first₄, second₄, hlog₄, h₄⟩
  · exact hsame heq
  rcases h₄.of_bind with ⟨base, c₁, probed, rest, hlog₅, hprobe, hrest⟩ | ⟨e, -, hprobe⟩
  · obtain ⟨-, _, hnew, -, hP⟩ := wp_runs (trace_probe (c := { c with confirmed := false }) [])
      (Logs.of_mapError hprobe)
    obtain ⟨hsane, ⟨chip, revision, rfl⟩, p, rfl, rfl⟩ := hP base rfl
    have hinfix : probe_log p <:+: log := by
      rw [hlog₁, hlog₂, hlog₃, hlog₄, hlog₅, hnew]
      refine ⟨first₁ ++ (first₂ ++ (first₃ ++ first₄)), rest, ?_⟩
      simp only [List.append_assoc, List.nil_append]
    have hbase := guard_tail_base hrest
    exact .inr ⟨p, hsane, hinfix, hbase⟩
  · obtain ⟨e', hfailed⟩ := Logs.of_mapError_error hprobe
    exact hsame (probe_error hfailed)

end stored

/-! ## Result -/

/-- Wherever a probe is cut off, the selector has its value or this value has
    been read.  A probe that returns, whatever failed, leaves the selector
    and the mode as they were, if its cleanup writes succeed; it stores the
    ids if all checks were passed, and nothing otherwise. -/
theorem probe_restores {K : Type} (L : Keys K) (s : SuperIo K) (c : Context) :
    (∀ p s', Prog.Reaches (super_io L).logged (probe.run c) (s, []) p s' → Known s s') ∧
    (∀ r c' s' log, Proc.Runs (super_io L).logged probe c (s, []) r c' (s', log) →
      Restored L s (s', log) ∧ (∀ e, r = .error e → c' = c) ∧
        ∀ base, r = .ok base → ∃ (p : Probed) (revision : Nat), base = p.base ∧
          sane_base base = true ∧ log = probe_log p ∧
          c' = { c with chip_id := 0x2011, revision := revision }) ∧
    ∀ writing expected_flow r c' log, Logs (guard_flow writing expected_flow) c r c' log →
      Stored c c' log := by
  refine ⟨?_, ?_, ?_⟩
  · intro p s' hreaches
    have hstart : Known s (s, []) := .inl rfl
    exact (Prog.wp_reaches hstart (wp_probe (L := L) (c := c) s) hreaches).1
  · intro r c' s' log hruns
    obtain ⟨hrestored, herror, hok⟩ := wp_runs (wp_probe s) hruns
    refine ⟨hrestored, herror, ?_⟩
    intro base hbase
    obtain ⟨revision, hc⟩ := hok base hbase
    have hlogs : Logs probe c r c' log := Prog.Runs.recorded hruns
    obtain ⟨-, new, hnew, -, hP⟩ := wp_runs (trace_probe []) hlogs
    obtain ⟨hsane, -, p, hp, hprobe⟩ := hP base hbase
    exact ⟨p, revision, hp, hsane, by rw [hnew, hprobe]; rfl, hc⟩
  · intro writing expected_flow r c' log hlogs
    exact guard_flow_stores hlogs

/-- A chip whose accesses all succeed. -/
def answering {K : Type} (L : Keys K) : Prog.Handler cs_io (SuperIo K)
  | s, .calloc => (true, s)
  | s, .detect => (.error (.ENOTSUP, ""), s)
  | s, .owners _ _ => (.ok (), s)
  | s, .lock => (.ok (), s)
  | s, .unlock => ((), s)
  | s, .permission _ _ _ => (.ok (), s)
  | s, .read_port p => (.ok (s.device.value p), s)
  | s, .write_port p value => (.ok (), s.write L p value)
  | s, .pause_ms _ => ((), s)

theorem super_io_answering {K : Type} (L : Keys K) (s : SuperIo K) (o : CsOp) :
    super_io L s o (answering L s o).1 (answering L s o).2 := by
  cases o with
  | read_port p =>
    refine ⟨rfl, ?_⟩
    intro hp _
    rw [hp]
    show s.device.value CS_VALUE = _
    unfold Device.value
    rw [port_value]
  | _ => rfl

/-- A closed CS2011 at the base `0x0e00`, on logical device 3. -/
def closed_chip : SuperIo (Bool × UInt8 × UInt8) where
  device :=
    { index := 0, ldn := 3,
      config := fun _ index =>
        if index = 0x20 then 0x20 else if index = 0x21 then 0x11
        else if index = 0x30 then 1 else if index = 0x60 then 0x0e else 0,
      latch := fun _ => 0, mem := fun _ => 0, data_writes := 0 }
  keys := (false, 0, 0)

def fresh_context : Context where
  access := ⟨false, false⟩
  holder := false

/-- The probe of that chip: what it returns, the chip, the log. -/
def probe_closed_chip : (Except Errno Nat × Context) × SuperIo (Bool × UInt8 × UInt8) × Log :=
  Prog.exec (answering last_three).logged (probe.run fresh_context) (closed_chip, [])

theorem probe_restores_closed_chip : probe_closed_chip.1.1 = .ok 0x0e00 ∧
    probe_closed_chip.2.1.device.ldn = 3 ∧ probe_closed_chip.2.1.keys.1 = false ∧
    Restored last_three closed_chip probe_closed_chip.2 := by
  have hrun := Prog.runs_logged (E := super_io last_three) (h := answering last_three)
    (super_io_answering last_three) (probe.run fresh_context) closed_chip
  have hall := (probe_restores last_three closed_chip fresh_context).2.1 probe_closed_chip.1.1
    probe_closed_chip.1.2 probe_closed_chip.2.1 probe_closed_chip.2.2 hrun
  exact ⟨by decide +kernel, by decide +kernel, by decide +kernel, hall.1⟩

end UgreenNas.Led.Cs201x
