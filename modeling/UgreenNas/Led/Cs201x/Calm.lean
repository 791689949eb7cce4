import UgreenNas.Led.Cs201x.Driver
import Mathlib.Tactic.Common

/-! # The part of the transport that only looks

    Guards, probes and snapshots write ports, but never the data port.  A
    *calm* procedure leaves the registers of the embedded controller and the
    configuration of the chip alone, in every state it passes through and
    whatever fails, and does not forget what the context remembers.
-/

namespace UgreenNas.Led.Cs201x

open Effect Effect.Proc

/-! ## Calm procedures -/

/-- Nothing but the selectors and latches of the ports has moved. -/
structure Quiet (d d' : Device) : Prop where
  config : d'.config = d.config
  mem : d'.mem = d.mem
  data_writes : d'.data_writes = d.data_writes

namespace Quiet

variable {d d' d'' : Device}

theorem refl (d : Device) : Quiet d d := ⟨rfl, rfl, rfl⟩

theorem trans (h : Quiet d d') (h' : Quiet d' d'') : Quiet d d'' :=
  ⟨h'.config.trans h.config, h'.mem.trans h.mem, h'.data_writes.trans h.data_writes⟩

theorem base (h : Quiet d d') : d'.base = d.base := by
  simp only [Device.base, h.config]

theorem raw (h : Quiet d d') : d'.raw = d.raw := by
  funext id field
  simp only [Device.raw, h.mem]

theorem flow (h : Quiet d d') : d'.flow = d.flow := by
  simp only [Device.flow, h.mem]

end Quiet

/-- A context with permission for the runtime ports has the right ones. -/
def Bound (d : Device) (c : Context) : Prop :=
  c.runtime_permission = true → c.base = d.base ∧ sane_base d.base = true

/-- How a calm procedure leaves the context and the chip. -/
structure Stays (d : Device) (c c' : Context) (d' : Device) : Prop where
  quiet : Quiet d d'
  memory : c'.toMemory = c.toMemory
  bound : Bound d' c'

theorem Bound.of_config {d d' : Device} {c : Context} (h : Bound d c)
    (hconfig : d'.config = d.config) : Bound d' c := by
  intro hpermission
  have hbase : d'.base = d.base := by simp only [Device.base, hconfig]
  rw [hbase]
  exact h hpermission

namespace Stays

variable {d d' d'' : Device} {c c' c'' : Context}

theorem refl (h : Bound d c) : Stays d c c d := ⟨.refl d, rfl, h⟩

theorem trans (h : Stays d c c' d') (h' : Stays d' c' c'' d'') : Stays d c c'' d'' :=
  ⟨h.quiet.trans h'.quiet, h'.memory.trans h.memory, h'.bound⟩

/-- Only the ports have moved. -/
theorem of_quiet (h : Bound d c) (hquiet : Quiet d d') : Stays d c c d' :=
  ⟨hquiet, rfl, h.of_config hquiet.config⟩

end Stays

/-- `m` is calm, and what it returns, if it succeeds, satisfies `P`. -/
def Calm {ε α : Type} (m : Proc cs_io Context ε α) (P : α → Context → Device → Prop)
    (c : Context) (d : Device) : Prop :=
  wp access (Quiet d)
    m (fun r c' d' => Stays d c c' d' ∧ ∀ a, r = .ok a → P a c' d') c d

namespace Calm

variable {ε δ α β : Type} {c : Context} {d : Device}

theorem pure {a : α} {P : α → Context → Device → Prop} (h : Bound d c) (hP : P a c d) :
    Calm (Pure.pure a : Proc cs_io Context ε α) P c d := by
  refine (wp_pure a _).mpr ⟨.refl h, ?_⟩
  rintro _ ⟨⟩
  exact hP

theorem lift {x : Except ε α} {P : α → Context → Device → Prop} (h : Bound d c)
    (hP : ∀ a, x = .ok a → P a c d) : Calm (Proc.lift x) P c d :=
  (wp_lift x _).mpr ⟨.refl h, hP⟩

theorem bail {p : Prop} [Decidable p] {e : ε} (h : Bound d c) :
    Calm (Proc.bail p e) (fun _ c' d' => c' = c ∧ d' = d ∧ ¬ p) c d := by
  refine (wp_bail p e _).mpr ⟨fun _ => ⟨.refl h, nofun⟩, fun hp => ⟨.refl h, ?_⟩⟩
  rintro _ ⟨⟩
  exact ⟨rfl, rfl, hp⟩

theorem ctx (h : Bound d c) :
    Calm (Proc.ctx : Proc cs_io Context ε Context) (fun a c' d' => a = c ∧ c' = c ∧ d' = d) c d := by
  refine (wp_ctx _).mpr ⟨.refl h, ?_⟩
  rintro _ ⟨⟩
  exact ⟨rfl, rfl, rfl⟩

/-- An assignment to what the guards keep up to date. -/
theorem update {f : Context → Context} (hmemory : (f c).toMemory = c.toMemory)
    (hbound : Bound d (f c)) :
    Calm (Proc.update f : Proc cs_io Context ε Unit) (fun _ c' d' => c' = f c ∧ d' = d) c d := by
  refine (wp_update f _).mpr ⟨⟨.refl d, hmemory, hbound⟩, ?_⟩
  rintro _ ⟨⟩
  exact ⟨rfl, rfl⟩

theorem mono {m : Proc cs_io Context ε α} {P R : α → Context → Device → Prop}
    (h : Calm m P c d) (hPR : ∀ a c' d', Stays d c c' d' → P a c' d' → R a c' d') :
    Calm m R c d :=
  wp_mono h (fun _ hI => hI) fun _ c' d' ⟨hstays, hP⟩ =>
    ⟨hstays, fun a ha => hPR a c' d' hstays (hP a ha)⟩

theorem bind {m : Proc cs_io Context ε α} {f : α → Proc cs_io Context ε β}
    {P : α → Context → Device → Prop} {R : β → Context → Device → Prop} (hm : Calm m P c d)
    (hf : ∀ a c' d', Stays d c c' d' → P a c' d' → Calm (f a) R c' d') :
    Calm (m >>= f) R c d := by
  refine wp_seq hm ?_ ?_
  · rintro a c' d' ⟨hstays, hP⟩
    refine wp_mono (hf a c' d' hstays (hP a rfl)) (fun _ hI => hstays.quiet.trans hI) ?_
    rintro r c'' d'' ⟨hstays', hR⟩
    exact ⟨hstays.trans hstays', hR⟩
  · rintro e c' d' ⟨hstays, -⟩
    exact ⟨hstays, nofun⟩

theorem attempt {m : Proc cs_io Context ε α} {P : α → Context → Device → Prop}
    (hm : Calm m P c d) :
    Calm (Proc.attempt m : Proc cs_io Context δ _) (fun r c' d' => ∀ a, r = .ok a → P a c' d') c d := by
  refine (wp_attempt m _).mpr (wp_mono hm (fun _ hI => hI) ?_)
  rintro r c' d' ⟨hstays, hP⟩
  refine ⟨hstays, ?_⟩
  rintro _ ⟨⟩
  exact hP

theorem mapError {m : Proc cs_io Context ε α} {f : ε → δ} {P : α → Context → Device → Prop}
    (hm : Calm m P c d) : Calm (Proc.mapError m f) P c d := by
  refine wp_mapError hm ?_ ?_
  · rintro a c' d' ⟨hstays, hP⟩
    refine ⟨hstays, ?_⟩
    rintro _ ⟨⟩
    exact hP a rfl
  · rintro e c' d' ⟨hstays, -⟩
    exact ⟨hstays, nofun⟩

/-- An operation that does not touch the chip. -/
theorem io (o : CsOp) (h : Bound d c) (ho : ∀ b d', access d o b d' → d' = d) :
    Calm (Cs201x.io o : Proc cs_io Context ε _) (fun _ c' d' => c' = c ∧ d' = d) c d := by
  show wp access (Quiet d) (@ask cs_io Context ε o) _ c d
  rw [wp_ask]
  intro b d' hstep
  obtain rfl := ho b d' hstep
  refine ⟨.refl d', .refl h, ?_⟩
  rintro _ ⟨⟩
  exact ⟨rfl, rfl⟩

end Calm

/-! ## Ports -/

section ports

variable {c : Context} {d : Device}

/-- A write to any port but the data port. -/
theorem quiet_write {p : Nat} {value : UInt8} (hport : d.port p ≠ .data)
    (hvalue : d.port p = .value → d.index = 0x07) : Quiet d (d.write p value) := by
  unfold Device.write
  cases hp : d.port p with
  | index => exact ⟨rfl, rfl, rfl⟩
  | value =>
    simp only [hvalue hp, if_true]
    exact ⟨rfl, rfl, rfl⟩
  | address byte => exact ⟨rfl, rfl, rfl⟩
  | data => exact absurd hp hport
  | other => exact .refl d

theorem ignore_eq {p : Nat} (hport : d.port p ≠ .data) : d.ignore p = d := by
  unfold Device.ignore
  split
  · contradiction
  · rfl

theorem wp_io {ε : Type} (o : CsOp) (I : Device → Prop)
    (Q : Except ε o.Ans → Context → Device → Prop) :
    wp access I (io o) Q c d ↔ ∀ b d', access d o b d' → I d' ∧ Q (.ok b) c d' := Iff.rfl

theorem wp_port_write (p : Nat) (value : UInt8) (I : Device → Prop)
    (Q : Except Errno Unit → Context → Device → Prop) :
    wp access I (port_write p value) Q c d ↔
      ∀ r d', access d (.write_port p value) r d' → I d' ∧ Q r c d' := Iff.rfl

theorem wp_port_read (p : Nat) (I : Device → Prop)
    (Q : Except Errno UInt8 → Context → Device → Prop) :
    wp access I (port_read p) Q c d ↔
      ∀ r d', access d (.read_port p) r d' → I d' ∧ Q r c d' := Iff.rfl

theorem calm_port_write {p : Nat} {value : UInt8} (h : Bound d c) (hport : d.port p ≠ .data)
    (hvalue : d.port p = .value → d.index = 0x07) :
    Calm (port_write p value) (fun _ c' d' => c' = c ∧ d' = d.write p value) c d := by
  have hquiet : Quiet d (d.write p value) := quiet_write hport hvalue
  refine (wp_port_write p value _ _).mpr ?_
  intro r d' hstep
  cases r with
  | error e =>
    have hd' : d' = d.write p value ∨ d' = d.ignore p := hstep
    rw [ignore_eq hport] at hd'
    rcases hd' with rfl | rfl
    · exact ⟨hquiet, .of_quiet h hquiet, nofun⟩
    · exact ⟨.refl d', .refl h, nofun⟩
  | ok u =>
    have hd' : d' = d.write p value ∨ d.port p = .data ∧ d' = d.ignore p := hstep
    have hwritten : d' = d.write p value := by
      rcases hd' with hwritten | ⟨hdata, -⟩
      · exact hwritten
      · exact absurd hdata hport
    subst hwritten
    refine ⟨hquiet, .of_quiet h hquiet, ?_⟩
    intro a ha
    exact ⟨rfl, rfl⟩

theorem calm_port_read {p : Nat} (h : Bound d c) :
    Calm (port_read p) (fun value c' d' => c' = c ∧ d' = d ∧ d.reads p value) c d := by
  refine (wp_port_read p _ _).mpr ?_
  rintro (e | value) d' hstep
  · obtain rfl : d' = d := hstep
    exact ⟨.refl d', .refl h, nofun⟩
  · obtain ⟨rfl, hreads⟩ := hstep
    refine ⟨.refl d', .refl h, ?_⟩
    rintro _ ⟨⟩
    exact ⟨rfl, rfl, hreads⟩

theorem calm_pause_ms {ε : Type} (h : Bound d c) (milliseconds : Nat) :
    Calm (pause_ms milliseconds : Proc cs_io Context ε Unit) (fun _ c' d' => c' = c ∧ d' = d)
      c d := by
  refine (Calm.io (.pause_ms milliseconds) h fun _ _ hstep => hstep).bind ?_
  rintro a c' d' hstays ⟨rfl, rfl⟩
  exact .pure h ⟨rfl, rfl⟩

/-- Owners, permissions and locks are no business of the chip. -/
theorem calm_owners (h : Bound d c) (base : Nat) :
    Calm (owners base) (fun _ c' d' => c' = c ∧ d' = d) c d := by
  refine (Calm.ctx h).bind ?_
  rintro _ c' d' hstays ⟨rfl, rfl, rfl⟩
  refine (Calm.io (.owners base c'.client_pid) h fun _ _ hstep => hstep).bind ?_
  rintro a c'' d'' hstays' ⟨rfl, rfl⟩
  exact .lift h fun _ _ => ⟨rfl, rfl⟩

theorem calm_permission (h : Bound d c) (port count : Nat) (enable : Bool) :
    Calm (permission port count enable) (fun _ c' d' => c' = c ∧ d' = d) c d := by
  refine (Calm.io (.permission port count enable) h fun _ _ hstep => hstep).bind ?_
  rintro a c' d' hstays ⟨rfl, rfl⟩
  exact .lift h fun _ _ => ⟨rfl, rfl⟩

theorem calm_lock (h : Bound d c) : Calm lock (fun _ c' d' => c' = c ∧ d' = d) c d := by
  refine (Calm.io (.lock) h fun _ _ hstep => hstep).bind ?_
  rintro a c' d' hstays ⟨rfl, rfl⟩
  exact .lift h fun _ _ => ⟨rfl, rfl⟩

theorem calm_detect (h : Bound d c) : Calm detect (fun _ c' d' => c' = c ∧ d' = d) c d := by
  refine (Calm.io (.detect) h fun _ _ hstep => hstep).bind ?_
  rintro a c' d' hstays ⟨rfl, rfl⟩
  exact .lift h fun _ _ => ⟨rfl, rfl⟩

end ports

/-! ## The probe -/

section probe

variable {c : Context} {d : Device}

theorem port_index : d.port CS_INDEX = .index := by
  simp [Device.port]

theorem port_value : d.port CS_VALUE = .value := by
  simp [Device.port, CS_INDEX, CS_VALUE]

theorem write_index (value : UInt8) : d.write CS_INDEX value = { d with index := value } := by
  simp [Device.write, port_index]

theorem write_value (value : UInt8) (h : d.index = 0x07) :
    d.write CS_VALUE value = { d with ldn := value } := by
  simp [Device.write, port_value, h]

theorem calm_write_index (h : Bound d c) (value : UInt8) :
    Calm (port_write CS_INDEX value) (fun _ c' d' => c' = c ∧ d' = { d with index := value })
      c d := by
  have hcalm := @calm_port_write c d CS_INDEX value h (by simp [port_index]) (by simp [port_index])
  rwa [write_index] at hcalm

theorem calm_select (h : Bound d c) (value : UInt8) (hindex : d.index = 0x07) :
    Calm (port_write CS_VALUE value) (fun _ c' d' => c' = c ∧ d' = { d with ldn := value })
      c d := by
  have hcalm := @calm_port_write c d CS_VALUE value h (by simp [port_value]) (fun _ => hindex)
  rwa [write_value value hindex] at hcalm

/-- The register behind an index. -/
theorem calm_sio_read (h : Bound d c) (index : UInt8) :
    Calm (sio_read index) (fun value c' d' => c' = c ∧ d' = { d with index := index } ∧
      value = if index = 0x07 then d.ldn else d.config d.ldn index) c d := by
  refine (calm_write_index h index).bind ?_
  rintro _ c' d' hstays ⟨rfl, rfl⟩
  refine (calm_port_read hstays.bound).mono ?_
  rintro value c'' d'' - ⟨rfl, rfl, hreads⟩
  refine ⟨rfl, rfl, ?_⟩
  simp only [Device.reads, port_value] at hreads
  exact hreads

/-- A word of registers other than the selector. -/
theorem calm_sio_word (h : Bound d c) {index : UInt8} (hindex : index ≠ 0x07 ∧ index + 1 ≠ 0x07) :
    Calm (sio_word index) (fun word c' d' => c' = c ∧ d'.ldn = d.ldn ∧
      word = (d.config d.ldn index).toNat * 256 + (d.config d.ldn (index + 1)).toNat) c d := by
  refine (calm_sio_read h index).bind ?_
  rintro high c' d' hstays ⟨rfl, rfl, rfl⟩
  refine (calm_sio_read hstays.bound (index + 1)).bind ?_
  rintro low c'' d'' hstays' ⟨rfl, rfl, rfl⟩
  refine .pure hstays'.bound ⟨rfl, rfl, ?_⟩
  simp [hindex.1, hindex.2]

theorem calm_enter (h : Bound d c) (values : List UInt8) :
    Calm (enter values) (fun _ c' _ => c' = c) c d := by
  induction values generalizing d with
  | nil => exact .pure h rfl
  | cons value rest ih =>
    refine (calm_write_index h value).attempt.bind ?_
    rintro r c₁ d₁ hstays₁ hwritten
    refine (calm_pause_ms hstays₁.bound 1).bind ?_
    rintro _ c₂ d₂ hstays₂ ⟨rfl, rfl⟩
    refine (Calm.lift (P := fun _ c' _ => c' = c) hstays₁.bound fun a ha => (hwritten a ha).1).bind ?_
    rintro _ c₃ d₃ hstays₃ rfl
    exact ih hstays₃.bound

theorem calm_probe_selected (h : Bound d c) (hindex : d.index = 0x07) :
    Calm probe_selected (fun base _ _ => base = d.base ∧ sane_base base = true) c d := by
  refine (calm_select h 0x0a hindex).bind ?_
  rintro _ c₁ d₁ hstays₁ ⟨rfl, rfl⟩
  refine (calm_sio_read hstays₁.bound 0x30).bind ?_
  rintro active c₂ d₂ hstays₂ ⟨rfl, rfl, -⟩
  refine (Calm.bail hstays₂.bound).bind ?_
  rintro _ c₃ d₃ hstays₃ ⟨rfl, rfl, -⟩
  refine (calm_sio_word hstays₃.bound (by decide)).bind ?_
  rintro base c₄ d₄ hstays₄ ⟨rfl, -, rfl⟩
  refine (Calm.bail hstays₄.bound).bind ?_
  rintro _ c₅ d₅ hstays₅ ⟨rfl, rfl, hsane⟩
  exact .pure hstays₅.bound ⟨rfl, by simpa using hsane⟩

theorem calm_reselect (h : Bound d c) (old_ldn : UInt8) :
    Calm (reselect old_ldn) (fun _ _ _ => True) c d := by
  refine (calm_write_index h 0x07).bind ?_
  rintro _ c₁ d₁ hstays₁ ⟨rfl, rfl⟩
  refine (calm_select hstays₁.bound old_ldn rfl).mono ?_
  intros
  trivial

theorem first_error_ok {α : Type} {r : Except Errno α} {cleanup : Except Errno Unit} {a : α}
    (h : first_error r cleanup = .ok a) : r = .ok a := by
  unfold first_error at h
  split at h
  · cases h
  · exact h

theorem calm_leave {α : Type} (h : Bound d c) (values : List UInt8) (r : Except Errno α) :
    Calm (leave values r) (fun r' _ _ => ∀ a, r' = .ok a → r = .ok a) c d := by
  induction values generalizing c d r with
  | nil => exact .pure h fun a ha => ha
  | cons value rest ih =>
    refine (calm_write_index h value).attempt.bind ?_
    rintro cleanup c' d' hstays -
    refine (ih hstays.bound (first_error r cleanup)).mono ?_
    intro r' _ _ _ hr' a ha
    exact first_error_ok (hr' a ha)

theorem calm_probe_chip (h : Bound d c) :
    Calm probe_chip (fun found _ _ => found.2.2 = d.base ∧ sane_base d.base = true) c d := by
  refine (calm_enter h [0xa5, 0x69, 0x87]).bind ?_
  rintro _ c₁ d₁ hstays₁ rfl
  refine (calm_sio_word hstays₁.bound (by decide)).bind ?_
  rintro chip c₂ d₂ hstays₂ ⟨rfl, -, -⟩
  refine (Calm.bail hstays₂.bound).bind ?_
  rintro _ c₃ d₃ hstays₃ ⟨rfl, rfl, -⟩
  refine (calm_sio_word hstays₃.bound (by decide)).bind ?_
  rintro revision c₄ d₄ hstays₄ ⟨rfl, -, -⟩
  refine (calm_sio_read hstays₄.bound 0x07).bind ?_
  rintro old_ldn c₅ d₅ hstays₅ ⟨rfl, rfl, -⟩
  refine (calm_write_index hstays₅.bound 0x07).bind ?_
  rintro _ c₆ d₆ hstays₆ ⟨rfl, rfl⟩
  have hconfig : Quiet d _ := ((((hstays₁.trans hstays₂).trans hstays₃).trans hstays₄).trans
    hstays₅).trans hstays₆ |>.quiet
  refine (calm_probe_selected hstays₆.bound rfl).attempt.bind ?_
  rintro r c₇ d₇ hstays₇ hselected
  refine (calm_reselect hstays₇.bound old_ldn).attempt.bind ?_
  rintro cleanup c₈ d₈ hstays₈ -
  refine (Calm.lift (P := fun base _ _ => base = d.base ∧ sane_base d.base = true)
    hstays₈.bound ?_).bind ?_
  · intro base hbase
    obtain ⟨rfl, hsane⟩ := hselected base (first_error_ok hbase)
    rw [hconfig.base] at hsane ⊢
    exact ⟨rfl, hsane⟩
  · rintro base c₉ d₉ hstays₉ ⟨rfl, hsane⟩
    exact .pure hstays₉.bound ⟨rfl, hsane⟩

/-- The probe finds the base that is configured. -/
theorem calm_probe (h : Bound d c) :
    Calm probe (fun base _ _ => base = d.base ∧ sane_base d.base = true) c d := by
  refine (calm_probe_chip h).attempt.bind ?_
  rintro r c₁ d₁ hstays₁ hchip
  refine (calm_leave hstays₁.bound [0x87, 0x69, 0xa5] r).bind ?_
  rintro r' c₂ d₂ hstays₂ hleft
  refine (Calm.lift (P := fun found _ _ => found.2.2 = d.base ∧ sane_base d.base = true)
    hstays₂.bound fun found hfound => hchip found (hleft found hfound)).bind ?_
  rintro ⟨chip, revision, base⟩ c₃ d₃ hstays₃ ⟨rfl, hsane⟩
  refine (Calm.update rfl hstays₃.bound).bind ?_
  rintro _ c₄ d₄ hstays₄ ⟨rfl, rfl⟩
  exact .pure hstays₄.bound ⟨rfl, hsane⟩

end probe

end UgreenNas.Led.Cs201x
