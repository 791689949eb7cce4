import UgreenNas.Led.Cs201x.Guard

/-! # What the transport writes down

    Each call of the transport leaves a log: its accesses with the answers
    they got, from whatever machine.  The procedures that only look never
    write the data port of the runtime interface, and what they log when
    they succeed is known access by access.
-/

namespace UgreenNas.Led.Cs201x

open Effect Effect.Proc

abbrev Log : Type := List (Event cs_io)

/-! ## Harmless accesses -/

/-- Port `p` is not the data port of any runtime base. -/
def NotData (p : Nat) : Prop := ∀ base, sane_base base = true → p ≠ (base + 8) % 65536

/-- The log has no write to a data port. -/
def Harmless (log : Log) : Prop :=
  ∀ event ∈ log, ∀ p value, event.1 = .write_port p value → NotData p

theorem Harmless.nil : Harmless [] := by
  intro event hevent
  cases hevent

theorem Harmless.append {log log' : Log} (h : Harmless log) (h' : Harmless log') :
    Harmless (log ++ log') := by
  intro event hevent
  rcases List.mem_append.mp hevent with hfirst | hsecond
  · exact h event hfirst
  · exact h' event hsecond

theorem Harmless.singleton {event : Event cs_io}
    (h : ∀ p value, event.1 = .write_port p value → NotData p) : Harmless [event] := by
  intro event' hevent
  rw [List.mem_singleton.mp hevent]
  exact h

theorem not_data_index : NotData CS_INDEX := by
  intro base hsane
  obtain ⟨_, _, hmod⟩ := (sane_base_iff base).mp hsane
  unfold CS_INDEX
  omega

theorem not_data_value : NotData CS_VALUE := by
  intro base hsane
  obtain ⟨_, _, hmod⟩ := (sane_base_iff base).mp hsane
  unfold CS_VALUE
  omega

/-- The other runtime ports are no data ports, of this base or another. -/
theorem not_data_offset {base offset : Nat} (hsane : sane_base base = true) (hoffset : offset < 8) :
    NotData ((base + offset) % 65536) := by
  intro base' hsane'
  obtain ⟨_, _, hmod⟩ := (sane_base_iff base).mp hsane
  obtain ⟨_, _, hmod'⟩ := (sane_base_iff base').mp hsane'
  omega

/-! ## Contexts -/

theorem same_identity_trans {a b c : Identity} (h : same_identity a b = true)
    (h' : same_identity b c = true) : same_identity a c = true := by
  unfold same_identity at h h' ⊢
  cases ha : a.profile <;> cases hb : b.profile <;> cases hc : c.profile <;>
    simp_all

/-- What a procedure that only looks leaves of a context, whether it
    succeeds or not. -/
structure Tracks (c c' : Context) : Prop where
  memory : c'.toMemory = c.toMemory
  ports : c.runtime_permission = true → c'.runtime_permission = true ∧ c'.base = c.base
  identity : is_exact c.identity = true →
    is_exact c'.identity = true ∧ same_identity c'.identity c.identity = true

theorem Tracks.refl (c : Context) : Tracks c c :=
  ⟨rfl, fun h => ⟨h, rfl⟩, fun h => ⟨h, same_identity_refl h⟩⟩

theorem Tracks.trans {c c' c'' : Context} (h : Tracks c c') (h' : Tracks c' c'') :
    Tracks c c'' := by
  refine ⟨h'.memory.trans h.memory, fun hpermission => ?_, fun hexact => ?_⟩
  · obtain ⟨hports, hbase⟩ := h.ports hpermission
    obtain ⟨hports', hbase'⟩ := h'.ports hports
    exact ⟨hports', hbase'.trans hbase⟩
  · obtain ⟨hexact', hsame⟩ := h.identity hexact
    obtain ⟨hexact'', hsame'⟩ := h'.identity hexact'
    exact ⟨hexact'', same_identity_trans hsame' hsame⟩

/-! ## Traces -/

/-- `m` only looks, and what it logs when it succeeds satisfies `P`. -/
def Trace {ε α : Type} (m : Proc cs_io Context ε α) (P : α → Context → Log → Prop) (c : Context) :
    Prop :=
  ∀ log, wp (recorded cs_io) (fun log' => ∃ new, log' = log ++ new ∧ Harmless new) m
    (fun r c' log' => Tracks c c' ∧ ∃ new, log' = log ++ new ∧ Harmless new ∧
      ∀ a, r = .ok a → P a c' new) c log

namespace Trace

variable {ε δ α β : Type} {c : Context}

theorem pure {a : α} {P : α → Context → Log → Prop} (h : P a c []) :
    Trace (Pure.pure a : Proc cs_io Context ε α) P c := by
  intro log
  refine (wp_pure a _).mpr ⟨.refl c, [], by simp, .nil, ?_⟩
  intro b hb
  cases hb
  exact h

theorem lift {x : Except ε α} {P : α → Context → Log → Prop} (h : ∀ a, x = .ok a → P a c []) :
    Trace (Proc.lift x) P c :=
  fun log => (wp_lift x _).mpr ⟨.refl c, [], by simp, .nil, h⟩

theorem bail {p : Prop} [Decidable p] {e : ε} :
    Trace (Proc.bail p e) (fun _ c' new => c' = c ∧ new = [] ∧ ¬ p) c := by
  intro log
  refine (wp_bail p e _).mpr ⟨fun _ => ⟨.refl c, [], by simp, .nil, ?_⟩,
    fun hp => ⟨.refl c, [], by simp, .nil, ?_⟩⟩
  · intro a ha
    cases ha
  · intro a _
    exact ⟨rfl, rfl, hp⟩

theorem ctx : Trace (Proc.ctx : Proc cs_io Context ε Context)
    (fun a c' new => a = c ∧ c' = c ∧ new = []) c := by
  intro log
  refine (wp_ctx _).mpr ⟨.refl c, [], by simp, .nil, ?_⟩
  intro a ha
  cases ha
  exact ⟨rfl, rfl, rfl⟩

theorem update {f : Context → Context} (h : Tracks c (f c)) :
    Trace (Proc.update f : Proc cs_io Context ε Unit) (fun _ c' new => c' = f c ∧ new = []) c := by
  intro log
  refine (wp_update f _).mpr ⟨h, [], by simp, .nil, ?_⟩
  intro a _
  exact ⟨rfl, rfl⟩

theorem mono {m : Proc cs_io Context ε α} {P R : α → Context → Log → Prop} (h : Trace m P c)
    (hPR : ∀ a c' new, Tracks c c' → P a c' new → R a c' new) : Trace m R c := by
  intro log
  apply wp_mono (h log) (fun _ hI => hI)
  intro r c' log' hpost
  obtain ⟨htracks, new, hlog, hharmless, hP⟩ := hpost
  exact ⟨htracks, new, hlog, hharmless, fun a ha => hPR a c' new htracks (hP a ha)⟩

/-- Logs follow each other. -/
theorem bind {m : Proc cs_io Context ε α} {f : α → Proc cs_io Context ε β}
    {P : α → Context → Log → Prop} {R : β → Context → Log → Prop} (hm : Trace m P c)
    (hf : ∀ a c' new, Tracks c c' → P a c' new →
      Trace (f a) (fun b c'' new' => R b c'' (new ++ new')) c') : Trace (m >>= f) R c := by
  intro log
  apply wp_seq (hm log)
  · intro a c' log' hpost
    obtain ⟨htracks, new, rfl, hharmless, hP⟩ := hpost
    apply wp_mono (hf a c' new htracks (hP a rfl) (log ++ new))
    · intro log'' hI
      obtain ⟨new', rfl, hharmless'⟩ := hI
      exact ⟨new ++ new', by simp, hharmless.append hharmless'⟩
    · intro r c'' log'' hpost'
      obtain ⟨htracks', new', rfl, hharmless', hR⟩ := hpost'
      exact ⟨htracks.trans htracks', new ++ new', by simp, hharmless.append hharmless', hR⟩
  · intro e c' log' hpost
    obtain ⟨htracks, new, hlog, hharmless, _⟩ := hpost
    exact ⟨htracks, new, hlog, hharmless, fun a ha => by cases ha⟩

/-- The first part logs nothing. -/
theorem bind_nil {m : Proc cs_io Context ε α} {f : α → Proc cs_io Context ε β}
    {P : α → Context → Prop} {R : β → Context → Log → Prop}
    (hm : Trace m (fun a c' new => new = [] ∧ P a c') c)
    (hf : ∀ a c', Tracks c c' → P a c' → Trace (f a) R c') : Trace (m >>= f) R c := by
  apply hm.bind
  intro a c' new htracks hP
  obtain ⟨rfl, hP⟩ := hP
  exact hf a c' htracks hP

theorem bail_then {p : Prop} [Decidable p] {e : ε} {f : Unit → Proc cs_io Context ε β}
    {R : β → Context → Log → Prop} (hf : ¬ p → Trace (f ()) R c) :
    Trace (Proc.bail p e >>= f) R c := by
  apply bail.bind
  intro _ c' new _ hbail
  obtain ⟨rfl, rfl, hp⟩ := hbail
  exact hf hp

theorem ctx_then {f : Context → Proc cs_io Context ε β} {R : β → Context → Log → Prop}
    (hf : Trace (f c) R c) : Trace (Proc.ctx >>= f) R c := by
  apply ctx.bind
  intro _ c' new _ hctx
  obtain ⟨rfl, rfl, rfl⟩ := hctx
  exact hf

theorem update_then {g : Context → Context} {f : Unit → Proc cs_io Context ε β}
    {R : β → Context → Log → Prop} (h : Tracks c (g c)) (hf : Trace (f ()) R (g c)) :
    Trace (Proc.update g >>= f) R c := by
  apply (update h).bind
  intro _ c' new _ hupdate
  obtain ⟨rfl, rfl⟩ := hupdate
  exact hf

theorem attempt {m : Proc cs_io Context ε α} {P : α → Context → Log → Prop} (hm : Trace m P c) :
    Trace (Proc.attempt m : Proc cs_io Context δ _)
      (fun r c' new => ∀ a, r = .ok a → P a c' new) c := by
  intro log
  refine (wp_attempt m _).mpr (wp_mono (hm log) (fun _ hI => hI) ?_)
  intro r c' log' hpost
  obtain ⟨htracks, new, hlog, hharmless, hP⟩ := hpost
  refine ⟨htracks, new, hlog, hharmless, ?_⟩
  intro a ha
  cases ha
  exact hP

theorem mapError {m : Proc cs_io Context ε α} {f : ε → δ} {P : α → Context → Log → Prop}
    (hm : Trace m P c) : Trace (Proc.mapError m f) P c := by
  intro log
  apply wp_mapError (hm log)
  · intro a c' log' hpost
    obtain ⟨htracks, new, hlog, hharmless, hP⟩ := hpost
    refine ⟨htracks, new, hlog, hharmless, ?_⟩
    intro b hb
    cases hb
    exact hP a rfl
  · intro e c' log' hpost
    obtain ⟨htracks, new, hlog, hharmless, _⟩ := hpost
    exact ⟨htracks, new, hlog, hharmless, fun a ha => by cases ha⟩

theorem io (o : CsOp) (h : ∀ p value, o = .write_port p value → NotData p) :
    Trace (Cs201x.io o : Proc cs_io Context ε _) (fun b c' new => c' = c ∧ new = [⟨o, b⟩]) c := by
  intro log b log' hstep
  obtain rfl : log' = log ++ [(⟨o, b⟩ : Event cs_io)] := hstep
  have hharmless : Harmless [⟨o, b⟩] := .singleton h
  refine ⟨⟨_, rfl, hharmless⟩, .refl c, [⟨o, b⟩], rfl, hharmless, ?_⟩
  intro a ha
  cases ha
  exact ⟨rfl, rfl⟩

end Trace

/-! ## Ports -/

def wrote (port : Nat) (value : UInt8) : Event cs_io := ⟨.write_port port value, .ok ()⟩

def got (port : Nat) (value : UInt8) : Event cs_io := ⟨.read_port port, .ok value⟩

def paused (milliseconds : Nat) : Event cs_io := ⟨.pause_ms milliseconds, ()⟩

section ports

variable {c : Context}

theorem trace_port_write {p : Nat} {value : UInt8} (h : NotData p) :
    Trace (port_write p value) (fun _ c' new => c' = c ∧ new = [wrote p value]) c := by
  apply (Trace.io (.write_port p value) (fun q v heq => by cases heq; exact h)).bind
  intro r c₁ new htracks hio
  obtain ⟨rfl, rfl⟩ := hio
  apply Trace.lift
  intro a ha
  subst ha
  exact ⟨rfl, rfl⟩

theorem trace_port_read (p : Nat) :
    Trace (port_read p) (fun value c' new => c' = c ∧ new = [got p value]) c := by
  apply (Trace.io (.read_port p) (fun q v heq => by cases heq)).bind
  intro r c₁ new htracks hio
  obtain ⟨rfl, rfl⟩ := hio
  apply Trace.lift
  intro a ha
  subst ha
  exact ⟨rfl, rfl⟩

theorem trace_pause_ms {ε : Type} (milliseconds : Nat) :
    Trace (pause_ms milliseconds : Proc cs_io Context ε Unit)
      (fun _ c' new => c' = c ∧ new = [paused milliseconds]) c := by
  apply (Trace.io (.pause_ms milliseconds) (fun q v heq => by cases heq)).bind
  intro r c₁ new htracks hio
  obtain ⟨rfl, rfl⟩ := hio
  exact Trace.pure ⟨rfl, rfl⟩

theorem trace_owners (base : Nat) :
    Trace (owners base) (fun _ c' new => c' = c ∧ new = [⟨.owners base c.client_pid, .ok ()⟩]) c := by
  apply Trace.ctx_then
  apply (Trace.io (.owners base c.client_pid) (fun q v heq => by cases heq)).bind
  intro r c₂ new htracks hio
  obtain ⟨rfl, rfl⟩ := hio
  apply Trace.lift
  intro a ha
  subst ha
  exact ⟨rfl, rfl⟩

theorem trace_permission (port count : Nat) (enable : Bool) :
    Trace (permission port count enable)
      (fun _ c' new => c' = c ∧ new = [⟨.permission port count enable, .ok ()⟩]) c := by
  apply (Trace.io (.permission port count enable) (fun q v heq => by cases heq)).bind
  intro r c₁ new htracks hio
  obtain ⟨rfl, rfl⟩ := hio
  apply Trace.lift
  intro a ha
  subst ha
  exact ⟨rfl, rfl⟩

theorem trace_lock : Trace lock (fun _ c' new => c' = c ∧ new = [⟨.lock, .ok ()⟩]) c := by
  apply (Trace.io .lock (fun q v heq => by cases heq)).bind
  intro r c₁ new htracks hio
  obtain ⟨rfl, rfl⟩ := hio
  apply Trace.lift
  intro a ha
  subst ha
  exact ⟨rfl, rfl⟩

theorem trace_detect :
    Trace detect (fun identity c' new => c' = c ∧ new = [⟨.detect, .ok identity⟩]) c := by
  apply (Trace.io .detect (fun q v heq => by cases heq)).bind
  intro r c₁ new htracks hio
  obtain ⟨rfl, rfl⟩ := hio
  apply Trace.lift
  intro a ha
  cases r with
  | ok identity =>
    cases ha
    exact ⟨rfl, rfl⟩
  | error e => cases ha

end ports

/-! ## The probe -/

def sio_read_log (index value : UInt8) : Log := [wrote CS_INDEX index, got CS_VALUE value]

def sio_word_log (index high low : UInt8) : Log :=
  sio_read_log index high ++ sio_read_log (index + 1) low

def enter_log (values : List UInt8) : Log :=
  values.flatMap fun value => [wrote CS_INDEX value, paused 1]

def leave_log (values : List UInt8) : Log := values.map fun value => wrote CS_INDEX value

/-- What a probe reads off a CS2011. -/
structure Probed where
  revision_high : UInt8
  revision_low : UInt8
  old_ldn : UInt8
  base_high : UInt8
  base_low : UInt8

def Probed.base (p : Probed) : Nat := p.base_high.toNat * 256 + p.base_low.toNat

/-- A complete probe: the chip id is `0x2011`, logical device `0x0a` is
    active, and the device selected before is selected again. -/
def probe_log (p : Probed) : Log :=
  enter_log [0xa5, 0x69, 0x87] ++ sio_word_log 0x20 0x20 0x11 ++
    sio_word_log 0x22 p.revision_high p.revision_low ++ sio_read_log 0x07 p.old_ldn ++
    [wrote CS_INDEX 0x07, wrote CS_VALUE 0x0a] ++ sio_read_log 0x30 1 ++
    sio_word_log 0x60 p.base_high p.base_low ++
    [wrote CS_INDEX 0x07, wrote CS_VALUE p.old_ldn] ++ leave_log [0x87, 0x69, 0xa5]

section probe

variable {c : Context}

theorem trace_sio_read (index : UInt8) :
    Trace (sio_read index) (fun value c' new => c' = c ∧ new = sio_read_log index value) c := by
  apply (trace_port_write not_data_index).bind
  intro _ c₁ new htracks hwrite
  obtain ⟨rfl, rfl⟩ := hwrite
  apply (trace_port_read CS_VALUE).mono
  intro value c₂ new htracks hread
  obtain ⟨rfl, rfl⟩ := hread
  exact ⟨rfl, rfl⟩

theorem trace_sio_word (index : UInt8) :
    Trace (sio_word index) (fun word c' new => c' = c ∧ ∃ high low : UInt8,
      word = high.toNat * 256 + low.toNat ∧ new = sio_word_log index high low) c := by
  apply (trace_sio_read index).bind
  intro high c₁ new htracks hread
  obtain ⟨rfl, rfl⟩ := hread
  apply (trace_sio_read (index + 1)).bind
  intro low c₂ new htracks hread
  obtain ⟨rfl, rfl⟩ := hread
  exact Trace.pure ⟨rfl, high, low, rfl, by simp [sio_word_log]⟩

theorem trace_enter (values : List UInt8) :
    Trace (enter values) (fun _ c' new => c' = c ∧ new = enter_log values) c := by
  induction values with
  | nil => exact Trace.pure ⟨rfl, rfl⟩
  | cons value rest ih =>
    apply (trace_port_write not_data_index).attempt.bind
    intro r c₁ new htracks hwrite
    apply (trace_pause_ms 1).bind
    intro _ c₂ new₂ htracks₂ hpause
    obtain ⟨rfl, rfl⟩ := hpause
    -- a write that failed is found out after the pause
    apply Trace.bind_nil (P := fun _ c' => c' = c₂ ∧ r = .ok ())
    · apply Trace.lift
      intro a ha
      exact ⟨rfl, rfl, ha⟩
    · intro _ c₃ htracks₃ hlift
      obtain ⟨rfl, hok⟩ := hlift
      obtain ⟨rfl, rfl⟩ := hwrite () hok
      apply ih.mono
      intro _ c₄ new₄ htracks₄ hrest
      obtain ⟨rfl, rfl⟩ := hrest
      exact ⟨rfl, rfl⟩

theorem first_error_eq_ok {α : Type} {r : Except Errno α} {cleanup : Except Errno Unit} {a : α}
    (h : first_error r cleanup = .ok a) : r = .ok a ∧ cleanup = .ok () := by
  cases r with
  | error e => cases h
  | ok b =>
    cases cleanup with
    | error e => cases h
    | ok u => exact ⟨h, rfl⟩

theorem trace_leave {α : Type} (values : List UInt8) (r : Except Errno α) :
    Trace (leave values r) (fun r' c' new => ∀ a, r' = .ok a →
      r = .ok a ∧ c' = c ∧ new = leave_log values) c := by
  induction values generalizing c r with
  | nil => exact Trace.pure fun a ha => ⟨ha, rfl, rfl⟩
  | cons value rest ih =>
    apply (trace_port_write not_data_index).attempt.bind
    intro cleanup c₁ new htracks hwrite
    apply (ih (first_error r cleanup)).mono
    intro r' c₂ new₂ htracks₂ hrest a ha
    obtain ⟨hfirst, rfl, rfl⟩ := hrest a ha
    obtain ⟨hr, hcleanup⟩ := first_error_eq_ok hfirst
    obtain ⟨rfl, rfl⟩ := hwrite () hcleanup
    exact ⟨hr, rfl, rfl⟩

theorem trace_probe_selected :
    Trace probe_selected (fun base c' new => c' = c ∧ sane_base base = true ∧
      ∃ high low : UInt8, base = high.toNat * 256 + low.toNat ∧
        new = [wrote CS_VALUE 0x0a] ++ sio_read_log 0x30 1 ++ sio_word_log 0x60 high low) c := by
  apply (trace_port_write not_data_value).bind
  intro _ c₁ new htracks hwrite
  obtain ⟨rfl, rfl⟩ := hwrite
  apply (trace_sio_read 0x30).bind
  intro active c₂ new htracks hread
  obtain ⟨rfl, rfl⟩ := hread
  apply Trace.bail_then
  intro hactive
  obtain rfl : active = 1 := not_not.mp hactive
  apply (trace_sio_word 0x60).bind
  intro base c₃ new htracks hword
  obtain ⟨rfl, high, low, hbase, rfl⟩ := hword
  apply Trace.bail_then
  intro hsane
  exact Trace.pure ⟨rfl, by simpa using hsane, high, low, hbase, by simp⟩

theorem trace_reselect (old_ldn : UInt8) :
    Trace (reselect old_ldn)
      (fun _ c' new => c' = c ∧ new = [wrote CS_INDEX 0x07, wrote CS_VALUE old_ldn]) c := by
  apply (trace_port_write not_data_index).bind
  intro _ c₁ new htracks hwrite
  obtain ⟨rfl, rfl⟩ := hwrite
  apply (trace_port_write not_data_value).mono
  intro _ c₂ new htracks hwrite
  obtain ⟨rfl, rfl⟩ := hwrite
  exact ⟨rfl, rfl⟩

/-- The probe up to its lock sequence. -/
def probe_chip_log (p : Probed) : Log :=
  enter_log [0xa5, 0x69, 0x87] ++ sio_word_log 0x20 0x20 0x11 ++
    sio_word_log 0x22 p.revision_high p.revision_low ++ sio_read_log 0x07 p.old_ldn ++
    [wrote CS_INDEX 0x07, wrote CS_VALUE 0x0a] ++ sio_read_log 0x30 1 ++
    sio_word_log 0x60 p.base_high p.base_low ++
    [wrote CS_INDEX 0x07, wrote CS_VALUE p.old_ldn]

theorem chip_id_bytes {high low : UInt8} (h : high.toNat * 256 + low.toNat = 0x2011) :
    high = 0x20 ∧ low = 0x11 := by
  have hlow := low.toNat_lt
  have hhigh : high.toNat = 0x20 := by omega
  have hlow' : low.toNat = 0x11 := by omega
  exact ⟨UInt8.toNat_inj.mp hhigh, UInt8.toNat_inj.mp hlow'⟩

theorem trace_probe_chip :
    Trace probe_chip (fun found c' new => c' = c ∧ sane_base found.2.2 = true ∧
      ∃ p : Probed, found.2.2 = p.base ∧ new = probe_chip_log p) c := by
  apply (trace_enter [0xa5, 0x69, 0x87]).bind
  intro _ c₁ new htracks henter
  obtain ⟨rfl, rfl⟩ := henter
  apply (trace_sio_word 0x20).bind
  intro chip c₂ new htracks hword
  obtain ⟨rfl, high, low, hchip, rfl⟩ := hword
  apply Trace.bail_then
  intro hid
  obtain ⟨rfl, rfl⟩ := chip_id_bytes (hchip.symm.trans (not_not.mp hid))
  apply (trace_sio_word 0x22).bind
  intro revision c₃ new htracks hword
  obtain ⟨rfl, revision_high, revision_low, _, rfl⟩ := hword
  apply (trace_sio_read 0x07).bind
  intro old_ldn c₄ new htracks hread
  obtain ⟨rfl, rfl⟩ := hread
  apply (trace_port_write not_data_index).bind
  intro _ c₅ new htracks hwrite
  obtain ⟨rfl, rfl⟩ := hwrite
  apply trace_probe_selected.attempt.bind
  intro r c₆ new₆ htracks₆ hselected
  apply (trace_reselect old_ldn).attempt.bind
  intro cleanup c₇ new₇ htracks₇ hreselect
  apply Trace.bind_nil (P := fun base c' => c' = c₇ ∧ r = .ok base ∧ cleanup = .ok ())
  · apply Trace.lift
    intro base hbase
    exact ⟨rfl, rfl, first_error_eq_ok hbase⟩
  · intro base c₈ htracks₈ hlift
    obtain ⟨rfl, hr, hcleanup⟩ := hlift
    obtain ⟨rfl, hsane, base_high, base_low, hbase, rfl⟩ := hselected base hr
    obtain ⟨rfl, rfl⟩ := hreselect () hcleanup
    refine Trace.pure ⟨rfl, hsane,
      ⟨revision_high, revision_low, old_ldn, base_high, base_low⟩, hbase, ?_⟩
    simp [probe_chip_log]

/-- The context after a complete probe differs in the ids only. -/
theorem trace_probe :
    Trace probe (fun base c' new => sane_base base = true ∧
      (∃ chip revision, c' = { c with chip_id := chip, revision := revision }) ∧
      ∃ p : Probed, base = p.base ∧ new = probe_log p) c := by
  apply trace_probe_chip.attempt.bind
  intro r c₁ new₁ htracks₁ hchip
  apply (trace_leave [0x87, 0x69, 0xa5] r).bind
  intro r' c₂ new₂ htracks₂ hleave
  apply Trace.bind_nil (P := fun found c' => c' = c₂ ∧ r' = .ok found)
  · apply Trace.lift
    intro found hfound
    exact ⟨rfl, rfl, hfound⟩
  · intro found c₃ htracks₃ hlift
    obtain ⟨rfl, hfound⟩ := hlift
    obtain ⟨hr, rfl, rfl⟩ := hleave found hfound
    obtain ⟨rfl, hsane, p, hbase, rfl⟩ := hchip found hr
    obtain ⟨chip, revision, base⟩ := found
    apply Trace.update_then
    · exact ⟨rfl, fun h => ⟨h, rfl⟩, fun h => ⟨h, same_identity_refl h⟩⟩
    · exact Trace.pure ⟨hsane, ⟨chip, revision, rfl⟩, p, hbase, by simp [probe_log, probe_chip_log]⟩

end probe

/-! ## Runtime registers -/

/-- The five writes that address a register. -/
def address_log (base reg : Nat) : Log :=
  wrote ((base + 1) % 65536) 0 :: [3, 2, 1, 0].map fun byte =>
    wrote ((base + 4 + byte) % 65536) (UInt8.ofNat (reg / 256 ^ byte))

def ec_read_log (base reg : Nat) (value : UInt8) : Log :=
  address_log base reg ++ [paused 1, got ((base + 8) % 65536) value]

section runtime

variable {c : Context}

theorem trace_address_bytes {base : Nat} (hsane : sane_base base = true) (reg : Nat)
    {bytes : List Nat} (hbytes : ∀ byte ∈ bytes, byte < 4) :
    Trace (address_bytes base reg bytes) (fun _ c' new => c' = c ∧
      new = bytes.map fun byte =>
        wrote ((base + 4 + byte) % 65536) (UInt8.ofNat (reg / 256 ^ byte))) c := by
  induction bytes with
  | nil => exact Trace.pure ⟨rfl, rfl⟩
  | cons byte rest ih =>
    have hbyte := hbytes byte List.mem_cons_self
    have hport : NotData ((base + 4 + byte) % 65536) := by
      rw [Nat.add_assoc]
      exact not_data_offset hsane (by omega)
    apply (trace_port_write hport).bind
    intro _ c₁ new htracks hwrite
    obtain ⟨rfl, rfl⟩ := hwrite
    apply (ih fun b hb => hbytes b (List.mem_cons_of_mem _ hb)).mono
    intro _ c₂ new htracks hrest
    obtain ⟨rfl, rfl⟩ := hrest
    exact ⟨rfl, rfl⟩

theorem trace_address (hsane : sane_base c.base = true) (reg : Nat) :
    Trace (address reg) (fun _ c' new => c' = c ∧ new = address_log c.base reg) c := by
  apply Trace.ctx_then
  apply (trace_port_write (not_data_offset hsane (by omega))).bind
  intro _ c₁ new htracks hwrite
  obtain ⟨rfl, rfl⟩ := hwrite
  apply (trace_address_bytes hsane reg (by decide)).mono
  intro _ c₂ new htracks hbytes
  obtain ⟨rfl, rfl⟩ := hbytes
  exact ⟨rfl, rfl⟩

theorem trace_ec_read (hsane : sane_base c.base = true) (reg : Nat) :
    Trace (ec_read reg) (fun value c' new => c' = c ∧ new = ec_read_log c.base reg value) c := by
  apply (trace_address hsane reg).bind
  intro _ c₁ new htracks haddress
  obtain ⟨rfl, rfl⟩ := haddress
  apply (trace_pause_ms 1).bind
  intro _ c₂ new htracks hpause
  obtain ⟨rfl, rfl⟩ := hpause
  apply Trace.ctx_then
  apply (trace_port_read _).mono
  intro value c₃ new htracks hread
  obtain ⟨rfl, rfl⟩ := hread
  exact ⟨rfl, by simp [ec_read_log]⟩

end runtime

/-! ## The guard -/

/-- The runtime ports a context has permission for are those of a base. -/
def SanePorts (c : Context) : Prop := c.runtime_permission = true → sane_base c.base = true

/-- A complete guard of the context `c`: identity, owners, probe, and the
    flow; the first one of a context takes the runtime ports. -/
def guard_log (c : Context) (identity : Identity) (p : Probed) (flow : UInt8) : Log :=
  [⟨.detect, .ok identity⟩, ⟨.owners c.base c.client_pid, .ok ()⟩] ++ probe_log p ++
    (if c.runtime_permission then []
      else [⟨.owners p.base c.client_pid, .ok ()⟩, ⟨.permission p.base 13 true, .ok ()⟩]) ++
    ec_read_log p.base CS_FLOW flow

/-- What a complete guard of `c` has seen. -/
structure Guarded (c : Context) (writing : Bool) (expected_flow : Option UInt8) (flow : UInt8)
    (new : Log) (identity : Identity) (p : Probed) : Prop where
  log : new = guard_log c identity p flow
  access : writing = true → c.access.apply = true ∧ c.access.force = true
  exact : is_exact identity = true
  same : c.identity.product_name ≠ "" → same_identity identity c.identity = true
  sane : sane_base p.base = true
  base : c.runtime_permission = true → p.base = c.base
  expected : ∀ expected ∈ expected_flow, flow = expected
  published : flow ≤ 1

section guard

variable {c : Context}

theorem trace_acquire (base : Nat) :
    Trace (acquire base) (fun _ c' new =>
      c' = (if c.runtime_permission then c else { c with base := base, runtime_permission := true }) ∧
      new = if c.runtime_permission then []
        else [⟨.owners base c.client_pid, .ok ()⟩, ⟨.permission base 13 true, .ok ()⟩]) c := by
  apply Trace.ctx_then
  by_cases hpermission : c.runtime_permission = true
  · simp only [hpermission, if_true]
    exact Trace.pure ⟨rfl, rfl⟩
  · simp only [hpermission]
    apply (trace_owners base).mapError.bind
    intro _ c₁ new htracks howners
    obtain ⟨rfl, rfl⟩ := howners
    apply (trace_permission base 13 true).mapError.bind
    intro _ c₂ new htracks hpermitted
    obtain ⟨rfl, rfl⟩ := hpermitted
    have htracks : Tracks c₂ { c₂ with base := base, runtime_permission := true } :=
      ⟨rfl, fun h => absurd h hpermission, fun h => ⟨h, same_identity_refl h⟩⟩
    apply (Trace.update htracks).mono
    intro _ c₃ new htracks hupdate
    obtain ⟨rfl, rfl⟩ := hupdate
    exact ⟨rfl, rfl⟩

theorem exact_product_name {identity : Identity} (h : is_exact identity = true) :
    identity.product_name ≠ "" := by
  unfold is_exact at h
  simp only [Bool.and_eq_true, decide_eq_true_eq] at h
  rw [h.1.1]
  decide

/-- A guard that succeeds is complete. -/
theorem trace_guard_flow (hsane : SanePorts c) (writing : Bool) (expected_flow : Option UInt8) :
    Trace (guard_flow writing expected_flow) (fun flow c' new => ∃ identity p,
      Guarded c writing expected_flow flow new identity p ∧ c'.runtime_permission = true ∧
        c'.base = p.base ∧ c'.identity = identity) c := by
  apply Trace.update_then
  · exact ⟨rfl, fun h => ⟨h, rfl⟩, fun h => ⟨h, same_identity_refl h⟩⟩
  apply Trace.ctx_then
  apply Trace.bail_then
  intro haccess
  apply trace_detect.bind
  intro identity c₁ new htracks hdetect
  obtain ⟨rfl, rfl⟩ := hdetect
  apply Trace.bail_then
  intro hidentity
  apply (trace_owners _).mapError.bind
  intro _ c₂ new htracks howners
  obtain ⟨rfl, rfl⟩ := howners
  apply trace_probe.mapError.bind
  intro base c₃ new htracks hprobe
  obtain ⟨hbase_sane, ⟨chip, revision, rfl⟩, p, rfl, rfl⟩ := hprobe
  apply Trace.bail_then
  intro hbase
  have hsame_base : c.runtime_permission = true → p.base = c.base := by
    intro hpermission
    have hlow := (sane_base_iff c.base).mp (hsane hpermission)
    by_contra hne
    exact hbase ⟨by dsimp only; omega, fun heq => hne heq.symm⟩
  apply (trace_acquire p.base).bind
  intro _ c₄ new htracks hacquire
  obtain ⟨hc₄, hnew⟩ := hacquire
  have hpermission₄ : c₄.runtime_permission = true := by
    rw [hc₄]
    split
    · assumption
    · rfl
  have hbase₄ : c₄.base = p.base := by
    rw [hc₄]
    split
    · rename_i hpermission
      exact (hsame_base hpermission).symm
    · rfl
  have hidentity₄ : c₄.identity = c.identity := by
    rw [hc₄]
    split <;> rfl
  apply (trace_ec_read (by rw [hbase₄]; exact hbase_sane) CS_FLOW).mapError.bind
  intro flow c₅ new₅ htracks₅ hread
  obtain ⟨rfl, rfl⟩ := hread
  apply Trace.bail_then
  intro hpublished
  apply Trace.bail_then
  intro hexpected
  have hguarded : is_exact identity = true ∧
      (c.identity.product_name ≠ "" → same_identity identity c.identity = true) := by
    rw [not_or] at hidentity
    obtain ⟨hexact, hsame⟩ := hidentity
    refine ⟨not_not.mp hexact, fun hname => ?_⟩
    by_contra hne
    exact hsame ⟨hname, hne⟩
  apply Trace.update_then
  · refine ⟨rfl, fun h => ⟨h, rfl⟩, fun h => ⟨hguarded.1, ?_⟩⟩
    rw [hidentity₄] at h ⊢
    exact hguarded.2 (exact_product_name h)
  refine Trace.pure ⟨identity, p, ⟨?_, ?_, hguarded.1, hguarded.2, hbase_sane, hsame_base, ?_, ?_⟩,
    hpermission₄, hbase₄, rfl⟩
  · rw [hnew, hbase₄]
    simp [guard_log]
  · intro hwriting
    have hboth : c.access.apply = true ∧ c.access.force = true := by
      by_contra hne
      exact haccess ⟨hwriting, hne⟩
    exact hboth
  · intro expected hmem
    by_contra hne
    exact hexpected ⟨expected, hmem, hne⟩
  · exact UInt8.not_lt.mp hpublished

end guard

/-! ## Contexts of a session -/

/-- A context that has passed its first guard. -/
structure Ready (c : Context) : Prop where
  permission : c.runtime_permission = true
  sane : sane_base c.base = true
  exact : is_exact c.identity = true

theorem Ready.sane_ports {c : Context} (h : Ready c) : SanePorts c := fun _ => h.sane

theorem Tracks.ready {c c' : Context} (h : Tracks c c') (hready : Ready c) : Ready c' := by
  obtain ⟨hpermission, hbase⟩ := h.ports hready.permission
  exact ⟨hpermission, by rw [hbase]; exact hready.sane, (h.identity hready.exact).1⟩

/-- A complete guard with runtime base `base` and client `pid`. -/
def session_guard_log (base pid : Nat) (identity : Identity) (p : Probed) (flow : UInt8) : Log :=
  [⟨.detect, .ok identity⟩, ⟨.owners base pid, .ok ()⟩] ++ probe_log p ++
    ec_read_log base CS_FLOW flow

theorem Guarded.session_log {c : Context} {writing : Bool} {expected_flow : Option UInt8}
    {flow : UInt8} {new : Log} {identity : Identity} {p : Probed}
    (h : Guarded c writing expected_flow flow new identity p) (hready : Ready c) :
    new = session_guard_log c.base c.client_pid identity p flow := by
  rw [h.log, guard_log, session_guard_log, hready.permission, h.base hready.permission]
  simp

/-! ## Snapshots -/

/-- The accesses that read the listed fields of an LED. -/
def fields_log (base id : Nat) (raw : Raw) (fields : List Field) : Log :=
  fields.flatMap fun field => ec_read_log base (reg_address id field) (raw field)

/-- The accesses that read all bytes of the listed LEDs. -/
def leds_log (base : Nat) (raw : Nat → Raw) (ids : List Nat) : Log :=
  ids.flatMap fun id => fields_log base id (raw id) Field.all

/-- A stable snapshot of the 28 bytes: read twice with the same values,
    between two complete guards that saw `flow`. -/
def snapshot_all_log (base pid : Nat) (before after : Identity × Probed) (flow : UInt8)
    (raw : Nat → Raw) : Log :=
  session_guard_log base pid before.1 before.2 flow ++ leds_log base raw leds ++
    leds_log base raw leds ++ session_guard_log base pid after.1 after.2 flow

section snapshots

variable {c : Context}

theorem trace_read_fields (hsane : sane_base c.base = true) (id : Nat) {fields : List Field}
    (hnodup : fields.Nodup) (raw : Raw) :
    Trace (read_fields id fields raw) (fun raw' c' new => c' = c ∧
      (∀ field, field ∉ fields → raw' field = raw field) ∧
      new = fields_log c.base id raw' fields) c := by
  induction fields generalizing raw with
  | nil => exact Trace.pure ⟨rfl, fun _ _ => rfl, rfl⟩
  | cons field rest ih =>
    obtain ⟨hfield, hnodup⟩ := List.nodup_cons.mp hnodup
    apply (trace_ec_read hsane (reg_address id field)).bind
    intro value c₁ new htracks hread
    obtain ⟨rfl, rfl⟩ := hread
    apply (ih hnodup (Function.update raw field value)).mono
    intro raw' c₂ new htracks hrest
    obtain ⟨rfl, hothers, rfl⟩ := hrest
    have hvalue : raw' field = value := by
      rw [hothers field hfield, Function.update_self]
    refine ⟨rfl, fun f hf => ?_, ?_⟩
    · rw [List.mem_cons, not_or] at hf
      rw [hothers f hf.2, Function.update_of_ne hf.1]
    · rw [← hvalue]
      rfl

theorem trace_read_all_fields (hsane : sane_base c.base = true) (id : Nat) :
    Trace (read_fields id Field.all zero_raw)
      (fun raw c' new => c' = c ∧ new = fields_log c.base id raw Field.all) c := by
  apply (trace_read_fields hsane id (by decide) zero_raw).mono
  intro raw c' new htracks hread
  exact ⟨hread.1, hread.2.2⟩

theorem trace_read_leds (hsane : sane_base c.base = true) {ids : List Nat} (hnodup : ids.Nodup)
    (raw : Nat → Raw) :
    Trace (read_leds ids raw) (fun raw' c' new => c' = c ∧
      (∀ id, id ∉ ids → raw' id = raw id) ∧ new = leds_log c.base raw' ids) c := by
  induction ids generalizing raw with
  | nil => exact Trace.pure ⟨rfl, fun _ _ => rfl, rfl⟩
  | cons id rest ih =>
    obtain ⟨hid, hnodup⟩ := List.nodup_cons.mp hnodup
    apply (trace_read_all_fields hsane id).bind
    intro led c₁ new htracks hread
    obtain ⟨rfl, rfl⟩ := hread
    apply (ih hnodup (Function.update raw id led)).mono
    intro raw' c₂ new htracks hrest
    obtain ⟨rfl, hothers, rfl⟩ := hrest
    have hled : raw' id = led := by
      rw [hothers id hid, Function.update_self]
    refine ⟨rfl, fun i hi => ?_, ?_⟩
    · rw [List.mem_cons, not_or] at hi
      rw [hothers i hi.2, Function.update_of_ne hi.1]
    · rw [← hled]
      rfl

theorem leds_log_congr {base : Nat} {a b : Nat → Raw} (h : same_leds a b = true) :
    leds_log base a leds = leds_log base b leds := by
  have hall := (same_leds_iff a b).mp h
  simp only [leds_log, List.flatMap_def]
  apply congrArg List.flatten
  apply List.map_congr_left
  intro id hid
  rw [hall id (mem_leds.mp hid)]

theorem trace_guard (hsane : SanePorts c) (writing : Bool) :
    Trace (guard writing) (fun _ c' new => ∃ identity p,
      Guarded c writing (some 1) 1 new identity p ∧ c'.runtime_permission = true ∧
        c'.base = p.base ∧ c'.identity = identity) c := by
  apply (trace_guard_flow hsane writing (some 1)).bind
  intro flow c₁ new htracks hguard
  obtain ⟨identity, p, hguarded, hpermission, hbase, hidentity⟩ := hguard
  obtain rfl : flow = 1 := hguarded.expected 1 rfl
  refine Trace.pure ⟨identity, p, ?_, hpermission, hbase, hidentity⟩
  rw [List.append_nil]
  exact hguarded

/-- A snapshot of one LED only looks. -/
theorem trace_snapshot (hready : Ready c) (id : Nat) :
    Trace (snapshot id) (fun _ _ _ => True) c := by
  apply Trace.bail_then
  intro hid
  apply (trace_guard hready.sane_ports false).bind
  intro _ c₁ new₁ htracks₁ hguard
  have hready₁ := htracks₁.ready hready
  apply (trace_read_all_fields hready₁.sane id).mapError.bind
  intro raw c₂ new₂ htracks₂ hread
  obtain ⟨rfl, rfl⟩ := hread
  apply (trace_read_all_fields hready₁.sane id).mapError.bind
  intro again c₃ new₃ htracks₃ hread
  obtain ⟨rfl, rfl⟩ := hread
  apply Trace.bail_then
  intro hstable
  apply (trace_guard hready₁.sane_ports false).bind
  intro _ c₄ new₄ htracks₄ hguard
  exact Trace.pure trivial

/-- A snapshot of all LEDs that succeeds is stable. -/
theorem trace_snapshot_all (hready : Ready c) (flow : UInt8) :
    Trace (snapshot_all flow) (fun raw _ new => ∃ before after,
      new = snapshot_all_log c.base c.client_pid before after flow raw) c := by
  apply (trace_guard_flow hready.sane_ports false (some flow)).bind
  intro observed c₁ new₁ htracks₁ hguard
  obtain ⟨identity, p, hguarded, _⟩ := hguard
  have hready₁ := htracks₁.ready hready
  have hbase₁ := (htracks₁.ports hready.permission).2
  have hpid₁ : c₁.client_pid = c.client_pid := congrArg Memory.client_pid htracks₁.memory
  obtain rfl : observed = flow := hguarded.expected flow rfl
  apply (trace_read_leds hready₁.sane (by decide) _).mapError.bind
  intro raw c₂ new₂ htracks₂ hread
  obtain ⟨rfl, _, rfl⟩ := hread
  apply (trace_read_leds hready₁.sane (by decide) _).mapError.bind
  intro again c₃ new₃ htracks₃ hread
  obtain ⟨rfl, _, rfl⟩ := hread
  apply Trace.bail_then
  intro hstable
  apply Trace.bail_then
  intro hvalid
  apply (trace_guard_flow hready₁.sane_ports false (some observed)).bind
  intro observed' c₄ new₄ htracks₄ hguard
  obtain ⟨identity', p', hguarded', _⟩ := hguard
  obtain rfl : observed' = observed := hguarded'.expected observed rfl
  refine Trace.pure ⟨(identity, p), (identity', p'), ?_⟩
  have hsame : same_leds raw again = true := by simpa using hstable
  rw [hguarded.session_log hready, hguarded'.session_log hready₁, ← leds_log_congr hsame, hbase₁,
    hpid₁]
  simp [snapshot_all_log]

end snapshots

end UgreenNas.Led.Cs201x
