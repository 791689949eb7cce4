import UgreenNas.Led.Cs201x.Healthy
import UgreenNas.Led.Cs201x.Trace

/-! # Writes to the data port

    The only writes that can change anything go to the data port of the
    runtime interface.  Each of them directly follows a complete guard and
    the five writes that address a register, all in the same call.  An LED
    register is written under a flow of 1.  The flow itself is written by a
    holder only, that found it at 0: once after its snapshot of all LEDs, to
    take it over, and once all LEDs are as in that snapshot, to give it back.
-/

namespace UgreenNas.Led.Cs201x

open Effect Effect.Proc

/-! ## Opening logs -/

/-- The accesses of a successful `open_ports`. -/
def opening_log (opened : Identity) : Log :=
  [⟨.calloc, true⟩, ⟨.detect, .ok opened⟩, ⟨.owners 0 0, .ok ()⟩, ⟨.lock, .ok ()⟩,
    ⟨.owners 0 0, .ok ()⟩, ⟨.permission CS_INDEX 2 true, .ok ()⟩]

/-- The first guard, which takes the runtime ports. -/
def first_guard_log (identity : Identity) (p : Probed) (flow : UInt8) : Log :=
  [⟨.detect, .ok identity⟩, ⟨.owners 0 0, .ok ()⟩] ++ probe_log p ++
    [⟨.owners p.base 0, .ok ()⟩, ⟨.permission p.base 13 true, .ok ()⟩] ++
    ec_read_log p.base CS_FLOW flow

/-- What a holder that finds the flow at 0 has seen before its first write. -/
structure Lending where
  opened : Identity
  identity : Identity
  p : Probed
  before : Identity × Probed
  after : Identity × Probed
  raw : Nat → Raw

/-- Opening, first guard, snapshot of all LEDs. -/
def Lending.log (l : Lending) : Log :=
  opening_log l.opened ++ first_guard_log l.identity l.p 0 ++
    snapshot_all_log l.p.base 0 l.before l.after 0 l.raw

/-! ## Justified writes -/

/-- `LendsFlow base log flow value`: after the accesses `log`, with the flow
    at `flow`, a holder may write `value` to it. -/
inductive LendsFlow (base : Nat) : Log → UInt8 → UInt8 → Prop where
  | takeover (l : Lending) : l.p.base = base → LendsFlow base l.log 0 1
  | restoration (l : Lending) (rest : Log) (pid : Nat) (before after : Identity × Probed)
      (raw : Nat → Raw) : l.p.base = base → same_leds raw l.raw = true →
      LendsFlow base (l.log ++ rest ++ snapshot_all_log base pid before after 1 raw) 1 0

/-- A guard and the register addressed after it. -/
structure Guarding where
  before : Log
  pid : Nat
  identity : Identity
  p : Probed
  flow : UInt8
  reg : Nat

/-- `mid`, the log of a call that started after `start`, ends with a guard
    that allows to write `value` to the data port. -/
structure Justifies (access : Access) (holder : Bool) (start mid : Log) (base : Nat)
    (value : UInt8) (g : Guarding) : Prop where
  split : mid = g.before ++ session_guard_log base g.pid g.identity g.p g.flow ++
    address_log base g.reg
  access : access.apply = true ∧ access.force = true
  exact : is_exact g.identity = true
  same : ∃ opened, opening_log opened <+: start ++ g.before ∧
    same_identity g.identity opened = true
  ports : g.p.base = base
  target : (g.flow = 1 ∧ ∃ id < 4, ∃ field, g.reg = reg_address id field) ∨
    (g.reg = CS_FLOW ∧ holder = true ∧ LendsFlow base (start ++ g.before) g.flow value)

def Justified (access : Access) (holder : Bool) (start mid : Log) (base : Nat) (value : UInt8) :
    Prop :=
  ∃ g, Justifies access holder start mid base value g

/-- Every write to a data port in the log of a call is justified. -/
def Disciplined (access : Access) (holder : Bool) (start mid : Log) : Prop :=
  ∀ (pre : Log) (base : Nat) (value : UInt8) (r : Except Errno Unit) (post : Log),
    mid = pre ++ ⟨.write_port ((base + 8) % 65536) value, r⟩ :: post → sane_base base = true →
    Justified access holder start pre base value

section disciplined

variable {access : Access} {holder : Bool} {start mid : Log}

theorem Disciplined.nil : Disciplined access holder start [] := by
  intro pre base value r post hsplit
  simp at hsplit

theorem Disciplined.append {new : Log} (h : Disciplined access holder start mid)
    (hnew : Harmless new) : Disciplined access holder start (mid ++ new) := by
  intro pre base value r post hsplit hsane
  have hnot : (⟨.write_port ((base + 8) % 65536) value, r⟩ : Event cs_io) ∉ new :=
    fun hmem => hnew _ hmem _ _ rfl base hsane rfl
  rcases List.append_eq_append_iff.mp hsplit with ⟨as, _, htail⟩ | ⟨cs, hmid, htail⟩
  · exact absurd (by rw [htail]; simp) hnot
  · cases cs with
    | nil => exact absurd (by rw [List.nil_append] at htail; rw [← htail]; simp) hnot
    | cons e rest =>
      obtain ⟨rfl, -⟩ := List.cons_eq_cons.mp htail
      exact h pre base value r rest hmid hsane

theorem data_port_inj {base base' : Nat} (hsane : sane_base base = true)
    (hsane' : sane_base base' = true) (h : (base + 8) % 65536 = (base' + 8) % 65536) :
    base = base' := by
  obtain ⟨_, _, _⟩ := (sane_base_iff base).mp hsane
  obtain ⟨_, _, _⟩ := (sane_base_iff base').mp hsane'
  omega

theorem Disciplined.write {base : Nat} {value : UInt8} {r : Except Errno Unit}
    (h : Disciplined access holder start mid) (hsane : sane_base base = true)
    (hjustified : Justified access holder start mid base value) :
    Disciplined access holder start
      (mid ++ [⟨.write_port ((base + 8) % 65536) value, r⟩]) := by
  intro pre base' value' r' post hsplit hsane'
  rcases List.append_eq_append_iff.mp hsplit with ⟨as, hpre, htail⟩ | ⟨cs, hmid, htail⟩
  · -- the write is the new one
    obtain ⟨rfl, hcons⟩ : as = [] ∧ _ := by
      cases as with
      | nil => exact ⟨rfl, htail⟩
      | cons e rest => simp at htail
    rw [List.append_nil] at hpre
    rw [List.nil_append, List.cons_eq_cons] at hcons
    have hport := hcons.1
    simp only [Sigma.mk.injEq, CsOp.write_port.injEq] at hport
    obtain rfl := data_port_inj hsane hsane' hport.1.1
    rw [hpre, ← hport.1.2]
    exact hjustified
  · cases cs with
    | nil =>
      rw [List.nil_append, List.cons_eq_cons] at htail
      rw [List.append_nil] at hmid
      have hport := htail.1
      simp only [Sigma.mk.injEq, CsOp.write_port.injEq] at hport
      obtain rfl := data_port_inj hsane' hsane hport.1.1
      rw [hport.1.2, ← hmid]
      exact hjustified
    | cons e rest =>
      obtain ⟨rfl, -⟩ := List.cons_eq_cons.mp htail
      exact h pre base' value' r' rest hmid hsane'

end disciplined

/-! ## Open contexts -/

/-- The context of an open transport, and the log it has got there with. -/
structure Linked (access : Access) (holder : Bool) (c : Context) (log : Log) : Prop where
  ready : Ready c
  access : c.access = access
  holder : c.holder = holder
  opened : ∃ opened, opening_log opened <+: log ∧ same_identity c.identity opened = true
  lent : c.restore_pending = true → c.original_flow = 0 →
    ∃ l : Lending, l.log <+: log ∧ l.p.base = c.base ∧ l.raw = c.original

/-- Looking keeps it linked. -/
theorem Linked.tracks {access : Access} {holder : Bool} {c c' : Context} {log : Log}
    (h : Linked access holder c log) (htracks : Tracks c c') (new : Log) :
    Linked access holder c' (log ++ new) := by
  obtain ⟨_, hbase⟩ := htracks.ports h.ready.permission
  have hmemory := htracks.memory
  have hextends := List.prefix_append log new
  refine ⟨htracks.ready h.ready, ?_, ?_, ?_, ?_⟩
  · rw [← h.access]
    exact congrArg Memory.access hmemory
  · rw [← h.holder]
    exact congrArg Memory.holder hmemory
  · obtain ⟨opened, hopened, hsame⟩ := h.opened
    obtain ⟨_, hsame'⟩ := htracks.identity h.ready.exact
    exact ⟨opened, hopened.trans hextends, same_identity_trans hsame' hsame⟩
  · intro hpending hflow
    rw [congrArg Memory.restore_pending hmemory] at hpending
    rw [congrArg Memory.original_flow hmemory] at hflow
    obtain ⟨l, hlog, hl, hraw⟩ := h.lent hpending hflow
    rw [hbase, congrArg Memory.original hmemory]
    exact ⟨l, hlog.trans hextends, hl, hraw⟩

/-- What the baseline of a holder is makes no difference but for what is lent. -/
theorem Linked.with_baseline {access : Access} {holder : Bool} {c c' : Context} {log : Log}
    (h : Linked access holder c log) (hlink : c'.toLink = c.toLink) (haccess : c'.access = c.access)
    (hholder : c'.holder = c.holder)
    (hlent : c'.restore_pending = true → c'.original_flow = 0 →
      ∃ l : Lending, l.log <+: log ∧ l.p.base = c.base ∧ l.raw = c'.original) :
    Linked access holder c' log := by
  have hpermission := congrArg Link.runtime_permission hlink
  have hbase := congrArg Link.base hlink
  have hidentity := congrArg Link.identity hlink
  refine ⟨⟨?_, ?_, ?_⟩, haccess.trans h.access, hholder.trans h.holder, ?_, ?_⟩
  · exact hpermission.trans h.ready.permission
  · rw [hbase]
    exact h.ready.sane
  · rw [hidentity]
    exact h.ready.exact
  · rw [hidentity]
    exact h.opened
  · rw [hbase]
    exact hlent

/-- Linked, and disciplined so far. -/
structure Safe (access : Access) (holder : Bool) (start : Log) (c : Context) (mid : Log) :
    Prop where
  disciplined : Disciplined access holder start mid
  linked : Linked access holder c (start ++ mid)

theorem Safe.tracks {access : Access} {holder : Bool} {start mid new : Log} {c c' : Context}
    (h : Safe access holder start c mid) (htracks : Tracks c c') (hnew : Harmless new) :
    Safe access holder start c' (mid ++ new) := by
  refine ⟨h.disciplined.append hnew, ?_⟩
  rw [← List.append_assoc]
  exact h.linked.tracks htracks new

/-! ## Procedures that keep the discipline -/

/-- The baseline of a holder is not touched, but it may be given up. -/
structure SameBaseline (c c' : Context) : Prop where
  restore_pending : c'.restore_pending = true → c.restore_pending = true
  original : c'.original = c.original
  original_flow : c'.original_flow = c.original_flow

theorem SameBaseline.refl (c : Context) : SameBaseline c c := ⟨fun h => h, rfl, rfl⟩

theorem SameBaseline.trans {c c' c'' : Context} (h : SameBaseline c c')
    (h' : SameBaseline c' c'') : SameBaseline c c'' :=
  ⟨fun hpending => h.restore_pending (h'.restore_pending hpending),
    h'.original.trans h.original, h'.original_flow.trans h.original_flow⟩

theorem Tracks.baseline {c c' : Context} (h : Tracks c c') : SameBaseline c c' := by
  have hpending := congrArg Memory.restore_pending h.memory
  refine ⟨fun hpending' => ?_, congrArg Memory.original h.memory,
    congrArg Memory.original_flow h.memory⟩
  rw [← hpending]
  exact hpending'

/-- From `c`, after the accesses `mid` of a call, `m` keeps the discipline. -/
def Keeps (access : Access) (holder : Bool) (start : Log) {ε α : Type}
    (m : Proc cs_io Context ε α) (c : Context) (mid : Log) : Prop :=
  Safe access holder start c mid →
    wp (recorded cs_io) (Disciplined access holder start) m
      (fun _ c' mid' => Safe access holder start c' mid' ∧ SameBaseline c c') c mid

namespace Keeps

variable {access : Access} {holder : Bool} {start mid : Log} {c : Context} {ε δ α β : Type}

theorem pure (a : α) :
    Keeps access holder start (Pure.pure a : Proc cs_io Context ε α) c mid :=
  fun h => ⟨h, .refl c⟩

theorem fail (e : ε) :
    Keeps access holder start (Proc.fail e : Proc cs_io Context ε α) c mid :=
  fun h => ⟨h, .refl c⟩

theorem lift (x : Except ε α) : Keeps access holder start (Proc.lift x) c mid :=
  fun h => ⟨h, .refl c⟩

theorem bind {m : Proc cs_io Context ε α} {f : α → Proc cs_io Context ε β}
    (hm : Keeps access holder start m c mid)
    (hf : ∀ a c' mid', SameBaseline c c' → Keeps access holder start (f a) c' mid') :
    Keeps access holder start (m >>= f) c mid := by
  intro h
  apply wp_seq (hm h)
  · intro a c' mid' hpost
    obtain ⟨hsafe, hsame⟩ := hpost
    apply wp_mono (hf a c' mid' hsame hsafe) (fun _ hI => hI)
    intro r c'' mid'' hpost'
    exact ⟨hpost'.1, hsame.trans hpost'.2⟩
  · intro e c' mid' hpost
    exact hpost

theorem recover {m : Proc cs_io Context ε α} {f : ε → Proc cs_io Context δ α}
    (hm : Keeps access holder start m c mid)
    (hf : ∀ e c' mid', Keeps access holder start (f e) c' mid') :
    Keeps access holder start (Proc.recover m f) c mid := by
  intro h
  apply wp_handle (hm h)
  · intro a c' mid' hpost
    exact hpost
  · intro e c' mid' hpost
    obtain ⟨hsafe, hsame⟩ := hpost
    apply wp_mono (hf e c' mid' hsafe) (fun _ hI => hI)
    intro r c'' mid'' hpost'
    exact ⟨hpost'.1, hsame.trans hpost'.2⟩

theorem mapError {m : Proc cs_io Context ε α} {f : ε → δ}
    (hm : Keeps access holder start m c mid) :
    Keeps access holder start (Proc.mapError m f) c mid :=
  hm.recover fun _ _ _ => fail _

theorem attempt {m : Proc cs_io Context ε α} (hm : Keeps access holder start m c mid) :
    Keeps access holder start (Proc.attempt m : Proc cs_io Context δ _) c mid :=
  fun h => (wp_attempt m _).mpr (hm h)

theorem bail_then {p : Prop} [Decidable p] {e : ε} {f : Unit → Proc cs_io Context ε β}
    (hf : ¬ p → Keeps access holder start (f ()) c mid) :
    Keeps access holder start (Proc.bail p e >>= f) c mid := by
  intro h
  rw [wp_bind, wp_bail]
  exact ⟨fun _ => ⟨h, .refl c⟩, fun hp => hf hp h⟩

theorem ctx_then {f : Context → Proc cs_io Context ε β} (hf : Keeps access holder start (f c) c mid) :
    Keeps access holder start (Proc.ctx >>= f) c mid :=
  fun h => (wp_bind _ _ _).mpr (hf h)

theorem update {g : Context → Context} (hsame : SameBaseline c (g c))
    (hg : Linked access holder c (start ++ mid) → Linked access holder (g c) (start ++ mid)) :
    Keeps access holder start (Proc.update g : Proc cs_io Context ε Unit) c mid :=
  fun h => ⟨⟨h.disciplined, hg h.linked⟩, hsame⟩

/-- First look, and go on with what was seen. -/
theorem trace_then {m : Proc cs_io Context ε α} {P : α → Context → Log → Prop}
    {f : α → Proc cs_io Context ε β} (hm : Ready c → Trace m P c)
    (hf : ∀ a c' new, Linked access holder c (start ++ mid) → Tracks c c' → P a c' new →
      Keeps access holder start (f a) c' (mid ++ new)) :
    Keeps access holder start (m >>= f) c mid := by
  intro h
  have hlook := wp_mono (J := Disciplined access holder start) (hm h.linked.ready mid)
    (fun mid' hI => by
      obtain ⟨new, rfl, hnew⟩ := hI
      exact h.disciplined.append hnew) (fun _ _ _ hpost => hpost)
  apply wp_seq hlook
  · intro a c' mid' hpost
    obtain ⟨htracks, new, rfl, hnew, hP⟩ := hpost
    apply wp_mono (hf a c' new h.linked htracks (hP a rfl) (h.tracks htracks hnew))
      (fun _ hI => hI)
    intro r c'' mid'' hpost'
    exact ⟨hpost'.1, htracks.baseline.trans hpost'.2⟩
  · intro e c' mid' hpost
    obtain ⟨htracks, new, rfl, hnew, _⟩ := hpost
    exact ⟨h.tracks htracks hnew, htracks.baseline⟩

/-- What only looks keeps the discipline. -/
theorem of_trace {m : Proc cs_io Context ε α} {P : α → Context → Log → Prop}
    (hm : Ready c → Trace m P c) : Keeps access holder start m c mid := by
  intro h
  apply wp_mono (hm h.linked.ready mid)
  · intro mid' hI
    obtain ⟨new, rfl, hnew⟩ := hI
    exact h.disciplined.append hnew
  · intro r c' mid' hpost
    obtain ⟨htracks, new, rfl, hnew, _⟩ := hpost
    exact ⟨h.tracks htracks hnew, htracks.baseline⟩

end Keeps

/-! ## Writes -/

section writes

variable {access : Access} {holder : Bool} {start mid : Log} {c : Context}

/-- The one place that writes the data port. -/
theorem keeps_verified_write {reg : Nat} {value : UInt8} (message mismatch : String)
    (hjustified : Linked access holder c (start ++ mid) →
      Justified access holder start (mid ++ address_log c.base reg) c.base value) :
    Keeps access holder start (verified_write reg value message mismatch) c mid := by
  intro hsafe
  have hsane := hsafe.linked.ready.sane
  have hwrite : Keeps access holder start (ec_write reg value) c mid := by
    apply Keeps.trace_then (fun _ => trace_address hsane reg)
    intro _ c₁ new hlinked htracks haddress
    obtain ⟨rfl, rfl⟩ := haddress
    apply Keeps.ctx_then
    intro hsafe₁ r mid' hstep
    obtain rfl : mid' = _ ++ [(⟨.write_port ((c₁.base + 8) % 65536) value, r⟩ : Event cs_io)] := hstep
    have hdisciplined := hsafe₁.disciplined.write (r := r) hsane (hjustified hlinked)
    refine ⟨hdisciplined, ⟨hdisciplined, ?_⟩, .refl c₁⟩
    rw [← List.append_assoc]
    exact hsafe₁.linked.tracks (Tracks.refl c₁) _
  apply hwrite.mapError.bind _ hsafe
  intro _ c₁ mid₁ _
  apply (Keeps.of_trace fun _ => trace_pause_ms 1).bind
  intro _ c₂ mid₂ _
  apply (Keeps.of_trace fun hready => (trace_ec_read hready.sane reg).mapError).bind
  intro actual c₃ mid₃ _
  exact Keeps.of_trace fun _ => Trace.bail

/-- What a guard for writing says about the write that follows. -/
theorem Guarded.justifies {c c' : Context} {expected_flow : Option UInt8} {flow value : UInt8}
    {new : Log} {identity : Identity} {p : Probed} {reg : Nat}
    (h : Guarded c true expected_flow flow new identity p)
    (hlinked : Linked access holder c (start ++ mid)) (hbase : c'.base = c.base)
    (htarget : (flow = 1 ∧ ∃ id < 4, ∃ field, reg = reg_address id field) ∨
      (reg = CS_FLOW ∧ holder = true ∧ LendsFlow c.base (start ++ mid) flow value)) :
    Justified access holder start (mid ++ new ++ address_log c'.base reg) c'.base value := by
  obtain ⟨opened, hopened, hsame⟩ := hlinked.opened
  have hidentity := h.same (exact_product_name hlinked.ready.exact)
  refine ⟨⟨mid, c.client_pid, identity, p, flow, reg⟩, ?_, ?_, h.exact, ?_, ?_, ?_⟩
  · rw [hbase, h.session_log hlinked.ready]
  · rw [← hlinked.access]
    exact h.access rfl
  · exact ⟨opened, hopened, same_identity_trans hidentity hsame⟩
  · rw [hbase]
    exact h.base hlinked.ready.permission
  · rw [hbase]
    exact htarget

theorem keeps_write_byte {id : Nat} (hid : id < 4) (field : Field) (value : UInt8) :
    Keeps access holder start (write_byte id field value) c mid := by
  apply Keeps.trace_then (fun hready => trace_guard hready.sane_ports true)
  intro _ c₁ new hlinked htracks hguard
  obtain ⟨identity, p, hguarded, _⟩ := hguard
  apply keeps_verified_write
  intro _
  have hbase := (htracks.ports hlinked.ready.permission).2
  exact hguarded.justifies hlinked hbase (.inl ⟨rfl, id, hid, field, rfl⟩)

theorem keeps_change_flow {before wanted : UInt8}
    (hlends : Linked access holder c (start ++ mid) → c.restore_pending = true →
      LendsFlow c.base (start ++ mid) before wanted) :
    Keeps access holder start (change_flow before wanted) c mid := by
  apply Keeps.ctx_then
  apply Keeps.bail_then
  intro hallowed
  rw [not_or, not_not] at hallowed
  apply Keeps.trace_then (fun hready => trace_guard_flow hready.sane_ports true (some before))
  intro flow c₁ new hlinked htracks hguard
  obtain ⟨identity, p, hguarded, _⟩ := hguard
  obtain rfl : flow = before := hguarded.expected before rfl
  have hbase := (htracks.ports hlinked.ready.permission).2
  have hholder : holder = true := by
    rw [← hlinked.holder]
    exact hallowed.1.1
  apply Keeps.bind
  · apply keeps_verified_write
    intro _
    exact hguarded.justifies hlinked hbase
      (.inr ⟨rfl, hholder, hlends hlinked hallowed.1.2⟩)
  · intro _ c₂ mid₂ _
    apply Keeps.bind
    · exact Keeps.of_trace fun hready => trace_guard_flow hready.sane_ports false (some wanted)
    · intro _ c₃ mid₃ _
      exact Keeps.pure _

/-! ## Transactions -/

theorem keeps_write_fields {id : Nat} (hid : id < 4) (wanted before : Raw) (restore quiesce : Bool)
    (fields : List Field) :
    Keeps access holder start (write_fields id wanted before restore quiesce fields) c mid := by
  induction fields generalizing c mid with
  | nil => exact Keeps.pure _
  | cons field rest ih =>
    unfold write_fields
    split
    · apply (keeps_write_byte hid field (wanted field)).bind
      intro _ c₁ mid₁ _
      exact ih
    · exact ih

theorem keeps_snapshot (id : Nat) : Keeps access holder start (snapshot id) c mid :=
  Keeps.of_trace fun hready => trace_snapshot hready id

theorem keeps_guard (writing : Bool) : Keeps access holder start (guard writing) c mid :=
  Keeps.of_trace fun hready => trace_guard hready.sane_ports writing

theorem keeps_commit {id : Nat} (hid : id < 4) (wanted before : Raw) (restore : Bool) :
    Keeps access holder start (commit id wanted before restore) c mid := by
  have hquiesce : Keeps access holder start
      (quiesce id (quiesces wanted before restore)) c mid := by
    unfold quiesce
    split
    · exact keeps_write_byte hid .mode 0
    · exact Keeps.pure _
  apply hquiesce.bind
  intro _ c₁ mid₁ _
  apply (keeps_write_fields hid wanted before restore _ write_order).bind
  intro _ c₂ mid₂ _
  apply (keeps_snapshot id).bind
  intro actual c₃ mid₃ _
  exact Keeps.of_trace fun _ => Trace.bail

theorem keeps_commit_or_restore {id : Nat} (hid : id < 4) (wanted before : Raw) :
    Keeps access holder start (commit_or_restore id wanted before) c mid := by
  apply (keeps_commit hid wanted before false).recover
  intro cause c₁ mid₁
  apply (keeps_commit hid before wanted true).attempt.bind
  intro r c₂ mid₂ _
  cases r with
  | ok a => exact Keeps.fail _
  | error e => exact Keeps.fail _

/-! ## Public operations -/

theorem keeps_read (id : Nat) : Keeps access holder start (read id) c mid := by
  apply (keeps_snapshot id).bind
  intro raw c₁ mid₁ _
  exact Keeps.pure _

/-- All of `apply` up to its first write only looks. -/
theorem trace_prepare (hready : Ready c) (id : Nat) (patch : Patch) :
    Trace (prepare id patch) (fun _ _ _ => id < 4) c := by
  apply Trace.ctx_then
  apply Trace.bail_then
  intro hid
  apply Trace.bail_then
  intro _
  apply (Trace.lift (P := fun _ _ _ => True) fun _ _ => trivial).bind
  intro _ c₁ new₁ htracks₁ _
  have hready₁ := htracks₁.ready hready
  apply (trace_guard hready₁.sane_ports true).bind
  intro _ c₂ new₂ htracks₂ _
  apply (trace_snapshot (htracks₂.ready hready₁) id).bind
  intro before c₃ new₃ htracks₃ _
  apply Trace.bail_then
  intro _
  exact Trace.pure (by omega)

theorem keeps_apply (id : Nat) (patch : Patch) :
    Keeps access holder start (apply id patch) c mid := by
  apply Keeps.trace_then (fun hready => trace_prepare hready id patch)
  intro prepared c₁ new hlinked htracks hid
  apply (keeps_commit_or_restore hid prepared.2 prepared.1).bind
  intro _ c₂ mid₂ _
  exact Keeps.pure _

theorem Linked.save_identify {log : Log} (h : Linked access holder c log) (id : Nat)
    (original : Raw) : Linked access holder (save_identify id original c) log :=
  h.with_baseline rfl rfl rfl h.lent

theorem keeps_begin_identify (id : Nat) :
    Keeps access holder start (begin_identify id) c mid := by
  apply Keeps.ctx_then
  apply Keeps.bail_then
  intro hid
  apply Keeps.bail_then
  intro _
  apply (keeps_guard true).bind
  intro _ c₁ mid₁ _
  apply (keeps_snapshot id).bind
  intro original c₂ mid₂ _
  apply (Keeps.update ⟨fun hpending => hpending, rfl, rfl⟩
    fun hlinked => hlinked.save_identify id original).bind
  intro _ c₃ mid₃ _
  exact keeps_commit_or_restore (by omega) identify_effect original

theorem keeps_end_identify (id : Nat) :
    Keeps access holder start (end_identify id) c mid := by
  apply Keeps.ctx_then
  apply Keeps.bail_then
  intro hid
  apply Keeps.bail_then
  intro _
  apply Keeps.bail_then
  intro _
  apply (keeps_commit (by omega) c.identify_original c.identify_original true).mapError.bind
  intro _ c₁ mid₁ _
  apply Keeps.update ⟨fun hpending => hpending, rfl, rfl⟩
  intro hlinked
  exact hlinked.with_baseline rfl rfl rfl hlinked.lent

theorem keeps_wait_ticks (cancelled : Nat → Bool) (ticks n : Nat) :
    Keeps access holder start (wait_ticks cancelled ticks n) c mid := by
  induction ticks generalizing n c mid with
  | zero => exact Keeps.pure _
  | succ ticks ih =>
    unfold wait_ticks
    split
    · exact Keeps.pure _
    · apply (Keeps.of_trace fun _ => trace_pause_ms 50).bind
      intro _ c₁ mid₁ _
      exact ih (n + 1)

theorem keeps_identify (id seconds : Nat) (cancelled : Nat → Bool) :
    Keeps access holder start (identify id seconds cancelled) c mid := by
  apply Keeps.ctx_then
  apply Keeps.bail_then
  intro hid
  apply Keeps.bail_then
  intro _
  apply (keeps_guard true).bind
  intro _ c₁ mid₁ _
  apply Keeps.bail_then
  intro _
  apply (keeps_snapshot id).bind
  intro before c₂ mid₂ _
  have hlt : id < 4 := by omega
  apply (keeps_commit_or_restore hlt identify_effect before).bind
  intro _ c₃ mid₃ _
  apply (keeps_wait_ticks cancelled _ 1).bind
  intro n c₄ mid₄ _
  apply (keeps_commit hlt before identify_effect true).mapError.bind
  intro _ c₅ mid₅ _
  exact Keeps.of_trace fun _ => Trace.bail

/-! ## Restoring a holder -/

theorem keeps_restore_leds (original : Nat → Raw) {ids : List Nat} (hids : ∀ id ∈ ids, id < 4) :
    Keeps access holder start (restore_leds original ids) c mid := by
  induction ids generalizing c mid with
  | nil => exact Keeps.pure _
  | cons id rest ih =>
    apply (keeps_commit (hids id List.mem_cons_self) (original id) (original id) true).bind
    intro _ c₁ mid₁ _
    exact ih fun id' hid' => hids id' (List.mem_cons_of_mem _ hid')

theorem keeps_restore_autonomous : Keeps access holder start restore_autonomous c mid := by
  apply Keeps.ctx_then
  apply Keeps.bail_then
  intro _
  apply (Keeps.of_trace fun hready => trace_snapshot_all hready 0).bind
  intro actual c₁ mid₁ _
  exact Keeps.of_trace fun _ => Trace.bail

/-- The flow is given back right after a snapshot equal to the first one. -/
theorem keeps_restore_held : Keeps access holder start restore_held c mid := by
  apply Keeps.ctx_then
  apply (keeps_restore_leds c.original fun id hid => mem_leds.mp hid).bind
  intro _ c₁ mid₁ hsame₁
  apply Keeps.trace_then (fun hready => trace_snapshot_all hready 1)
  intro actual c₂ new hlinked htracks₂ hsnapshot
  obtain ⟨before, after, rfl⟩ := hsnapshot
  apply Keeps.bail_then
  intro hrestored
  have hbase := (htracks₂.ports hlinked.ready.permission).2
  split
  · next hflow =>
    apply keeps_change_flow
    intro _ hpending
    -- the snapshot the holder started with is in the log
    obtain ⟨l, ⟨rest, hlog⟩, hl, hraw⟩ := hlinked.lent (htracks₂.baseline.restore_pending hpending)
      (by rw [hsame₁.original_flow]; exact hflow)
    have hsame : same_leds actual l.raw = true := by
      rw [hraw, hsame₁.original]
      simpa using hrestored
    rw [hbase, ← List.append_assoc, ← hlog]
    exact .restoration l rest _ before after actual hl hsame
  · exact Keeps.pure _

theorem keeps_restore_holder : Keeps access holder start restore_holder c mid := by
  apply Keeps.ctx_then
  split
  · have hfinish : Keeps access holder start finish_identify c mid := by
      apply Keeps.ctx_then
      split
      · apply (keeps_end_identify c.identify_id).attempt.bind
        intro _ c₁ mid₁ _
        exact Keeps.pure _
      · exact Keeps.pure _
    apply hfinish.bind
    intro _ c₁ mid₁ _
    apply (Keeps.of_trace fun hready => trace_guard_flow hready.sane_ports true none).bind
    intro flow c₂ mid₂ _
    have hclear : ∀ c₃ mid₃, Keeps access holder start
        (Proc.update fun c : Context => { c with restore_pending := false, identify_saved := false } :
          Fun Unit) c₃ mid₃ := by
      intro c₃ mid₃
      apply Keeps.update ⟨fun hpending => (by cases hpending), rfl, rfl⟩
      intro hlinked
      exact hlinked.with_baseline rfl rfl rfl fun hpending => by cases hpending
    by_cases hflow : flow = 0
    · simp only [hflow, if_true]
      exact keeps_restore_autonomous.bind fun _ c₃ mid₃ _ => hclear c₃ mid₃
    · simp only [hflow, if_false]
      exact keeps_restore_held.bind fun _ c₃ mid₃ _ => hclear c₃ mid₃
  · exact Keeps.pure _

end writes

/-! ## Closing -/

section closing

variable {c : Context}

theorem trace_give_back {ε : Type} (granted : Bool) (port count : Nat) :
    Trace (give_back granted port count : Proc cs_io Context ε Unit) (fun _ _ _ => True) c := by
  unfold give_back
  split
  · apply (trace_permission port count false).attempt.bind
    intro r c₁ new htracks _
    exact Trace.pure trivial
  · exact Trace.pure trivial

theorem trace_unlock {ε : Type} (locked : Bool) :
    Trace (unlock locked : Proc cs_io Context ε Unit) (fun _ _ _ => True) c := by
  unfold unlock
  split
  · apply (Trace.io .unlock (fun p value heq => by cases heq)).mono
    intro _ c₁ new htracks _
    trivial
  · exact Trace.pure trivial

theorem trace_release {ε : Type} :
    Trace (release_context : Proc cs_io Context ε Unit) (fun _ _ _ => True) c := by
  apply Trace.ctx_then
  apply (trace_give_back c.runtime_permission c.base 13).bind
  intro _ c₁ new₁ _ _
  apply (trace_give_back c.config_permission CS_INDEX 2).bind
  intro _ c₂ new₂ _ _
  exact trace_unlock c.locked

variable {access : Access} {holder : Bool} {start mid : Log}

/-- What `close` and `restore_close` try to put back. -/
theorem keeps_restore : Keeps access holder start
    (if c.holder then restore_holder
      else if c.identify_saved then end_identify c.identify_id else pure ()) c mid := by
  split
  · exact keeps_restore_holder
  · split
    · exact keeps_end_identify c.identify_id
    · exact Keeps.pure _

theorem keeps_close : Keeps access holder start close c mid := by
  apply Keeps.ctx_then
  apply keeps_restore.attempt.bind
  intro _ c₁ mid₁ _
  exact Keeps.of_trace fun _ => trace_release

theorem keeps_restore_close : Keeps access holder start restore_close c mid := by
  apply Keeps.ctx_then
  apply keeps_restore.attempt.bind
  intro r c₁ mid₁ _
  apply (Keeps.of_trace fun _ => trace_release).bind
  intro _ c₂ mid₂ _
  cases r with
  | ok a => exact Keeps.pure _
  | error e => exact Keeps.fail _

end closing

/-! ## Opening -/

section opening

variable {access : Access} {holder : Bool} {mid : Log} {c : Context}

/-- A context nothing has been done with. -/
structure New (c : Context) : Prop where
  identity : c.identity = {}
  base : c.base = 0
  client_pid : c.client_pid = 0
  runtime_permission : c.runtime_permission = false
  restore_pending : c.restore_pending = false

/-- What `open_ports` leaves of a new context. -/
def ports_open (opened : Identity) (c : Context) : Context :=
  { c with identity := opened, locked := true, config_permission := true }

/-- Opening only looks, and then the session's identity is known. -/
theorem trace_open_ports (hnew : New c) :
    Trace open_ports (fun _ c' new => ∃ opened, is_exact opened = true ∧
      c' = ports_open opened c ∧ (⟨.calloc, true⟩ : Event cs_io) :: new = opening_log opened) c := by
  have hinexact : ¬ is_exact c.identity = true := by
    rw [hnew.identity]
    decide
  have hports : ¬ c.runtime_permission = true := by
    rw [hnew.runtime_permission]
    decide
  apply trace_detect.bind
  intro opened c₁ new htracks hdetect
  obtain ⟨rfl, rfl⟩ := hdetect
  apply Trace.bail_then
  intro hexact
  rw [not_not] at hexact
  apply Trace.update_then
  · exact ⟨rfl, fun h => absurd h hports, fun h => absurd h hinexact⟩
  apply (trace_owners 0).mapError.bind
  intro _ c₂ new htracks howners
  obtain ⟨rfl, rfl⟩ := howners
  apply trace_lock.mapError.bind
  intro _ c₃ new htracks hlock
  obtain ⟨rfl, rfl⟩ := hlock
  apply Trace.update_then
  · exact ⟨rfl, fun h => ⟨h, rfl⟩, fun h => ⟨h, same_identity_refl h⟩⟩
  apply (trace_owners 0).mapError.bind
  intro _ c₄ new htracks howners
  obtain ⟨rfl, rfl⟩ := howners
  apply (trace_permission CS_INDEX 2 true).mapError.bind
  intro _ c₅ new htracks hpermission
  obtain ⟨rfl, rfl⟩ := hpermission
  apply (Trace.update ?_).mono
  · intro _ c₆ new htracks hupdate
    obtain ⟨rfl, rfl⟩ := hupdate
    refine ⟨opened, hexact, rfl, ?_⟩
    simp [opening_log, hnew.client_pid]
  · exact ⟨rfl, fun h => ⟨h, rfl⟩, fun h => ⟨h, same_identity_refl h⟩⟩

/-- Where the opening may stop: linked, or with nothing to restore. -/
structure Started (access : Access) (holder : Bool) (r : Except Failure Unit) (c : Context)
    (mid : Log) : Prop where
  disciplined : Disciplined access holder [] mid
  linked : r = .ok () ∨ c.restore_pending = true → Linked access holder c mid

theorem Safe.started {r : Except Failure Unit} (h : Safe access holder [] c mid) :
    Started access holder r c mid :=
  ⟨h.disciplined, fun _ => h.linked⟩

/-- While there is nothing to restore, an opening that looks may stop. -/
theorem started_look {α : Type} {m : Fun α} {P : α → Context → Log → Prop}
    {f : α → Fun Unit} (hm : Trace m P c) (hpending : c.restore_pending = false)
    (hmid : Disciplined access holder [] mid)
    (hf : ∀ a c' new, Tracks c c' → P a c' new → Disciplined access holder [] (mid ++ new) →
      wp (recorded cs_io) (Disciplined access holder []) (f a) (Started access holder) c'
        (mid ++ new)) :
    wp (recorded cs_io) (Disciplined access holder []) (m >>= f) (Started access holder) c mid := by
  have hlook := wp_mono (J := Disciplined access holder []) (hm mid)
    (fun mid' hI => by
      obtain ⟨new, rfl, hnew⟩ := hI
      exact hmid.append hnew) (fun _ _ _ hpost => hpost)
  apply wp_seq hlook
  · intro a c' mid' hpost
    obtain ⟨htracks, new, rfl, hnew, hP⟩ := hpost
    exact hf a c' new htracks (hP a rfl) (hmid.append hnew)
  · intro e c' mid' hpost
    obtain ⟨htracks, new, rfl, hnew, _⟩ := hpost
    refine ⟨hmid.append hnew, fun hlinked => ?_⟩
    rcases hlinked with heq | hpending'
    · cases heq
    · rw [congrArg Memory.restore_pending htracks.memory, hpending] at hpending'
      cases hpending'

/-- Before the first guard: the identity is known, the ports are not. -/
structure Unguarded (access : Access) (holder : Bool) (opened : Identity) (c : Context)
    (mid : Log) : Prop where
  log : mid = opening_log opened
  access : c.access = access
  holder : c.holder = holder
  exact : is_exact opened = true
  identity : c.identity = opened
  base : c.base = 0
  client_pid : c.client_pid = 0
  runtime_permission : c.runtime_permission = false
  restore_pending : c.restore_pending = false

theorem Unguarded.sane_ports {opened : Identity} (h : Unguarded access holder opened c mid) :
    SanePorts c := by
  intro hpermission
  rw [h.runtime_permission] at hpermission
  cases hpermission

theorem Unguarded.disciplined {opened : Identity} (h : Unguarded access holder opened c mid) :
    Disciplined access holder [] mid := by
  rw [h.log]
  apply Disciplined.nil.append
  intro event hevent p value heq
  simp only [List.mem_cons, List.not_mem_nil, or_false] at hevent
  rcases hevent with rfl | rfl | rfl | rfl | rfl | rfl <;> cases heq

section first

variable {c' : Context} {opened identity : Identity} {p : Probed} {flow : UInt8} {new : Log}
  {expected_flow : Option UInt8}

/-- The first guard leaves a linked context. -/
theorem Unguarded.guarded (h : Unguarded access holder opened c mid) (htracks : Tracks c c')
    (hguarded : Guarded c false expected_flow flow new identity p)
    (hpermission : c'.runtime_permission = true) (hbase : c'.base = p.base)
    (hidentity : c'.identity = identity) : Linked access holder c' (mid ++ new) := by
  have hmemory := htracks.memory
  refine ⟨⟨hpermission, ?_, ?_⟩, ?_, ?_, ⟨opened, ?_, ?_⟩, ?_⟩
  · rw [hbase]
    exact hguarded.sane
  · rw [hidentity]
    exact hguarded.exact
  · rw [← h.access]
    exact congrArg Memory.access hmemory
  · rw [← h.holder]
    exact congrArg Memory.holder hmemory
  · rw [h.log]
    exact List.prefix_append _ _
  · have hsame := hguarded.same (by rw [h.identity]; exact exact_product_name h.exact)
    rw [hidentity, ← h.identity]
    exact hsame
  · intro hpending
    rw [congrArg Memory.restore_pending hmemory, h.restore_pending] at hpending
    cases hpending

theorem Unguarded.guard_log (h : Unguarded access holder opened c mid)
    (hguarded : Guarded c false expected_flow flow new identity p) :
    new = first_guard_log identity p flow := by
  rw [hguarded.log, Cs201x.guard_log, first_guard_log, h.runtime_permission, h.base, h.client_pid]
  simp

end first

/-- The flow is taken over right after the snapshot. -/
theorem keeps_take_over {original_flow : UInt8} {original : Nat → Raw}
    (hlends : original_flow = 0 → LendsFlow c.base mid 0 1) :
    Keeps access holder [] (take_over original_flow original) c mid := by
  have htake : Keeps access holder [] (take_flow original_flow) c mid := by
    unfold take_flow
    split
    · next hflow =>
      apply keeps_change_flow
      intro _ _
      exact hlends hflow
    · exact Keeps.pure _
  apply htake.bind
  intro _ c₁ mid₁ _
  apply (Keeps.of_trace fun hready => trace_snapshot_all hready 1).bind
  intro actual c₂ mid₂ _
  exact Keeps.of_trace fun _ => Trace.bail

theorem wp_started {m : Fun Unit} (hm : Keeps access holder [] m c mid)
    (hdisciplined : Disciplined access holder [] mid) (hlinked : Linked access holder c mid) :
    wp (recorded cs_io) (Disciplined access holder []) m (Started access holder) c mid := by
  apply wp_mono (hm ⟨hdisciplined, hlinked⟩) (fun _ hI => hI)
  intro r c' mid' hpost
  exact hpost.1.started

theorem started_open_holder {opened : Identity} (h : Unguarded access holder opened c mid)
    (takeover_flow : Bool) :
    wp (recorded cs_io) (Disciplined access holder []) (open_holder takeover_flow)
      (Started access holder) c mid := by
  apply started_look (trace_guard_flow h.sane_ports false none) h.restore_pending h.disciplined
  intro flow c₁ new₁ htracks₁ hguard hdisciplined₁
  obtain ⟨identity, p, hguarded, hpermission, hbase, hidentity⟩ := hguard
  have hlinked₁ := h.guarded htracks₁ hguarded hpermission hbase hidentity
  have hpending₁ : c₁.restore_pending = false := by
    rw [← h.restore_pending]
    exact congrArg Memory.restore_pending htracks₁.memory
  have hpid₁ : c₁.client_pid = 0 := by
    rw [← h.client_pid]
    exact congrArg Memory.client_pid htracks₁.memory
  rw [wp_bind, wp_update, wp_bind, wp_bail]
  have hunpending : ∀ {P : Prop}, c₁.restore_pending = true → P := by
    intro P hpending
    rw [hpending₁] at hpending
    cases hpending
  have hobserved : Linked access holder { c₁ with original_flow := flow } (mid ++ new₁) :=
    hlinked₁.with_baseline rfl rfl rfl fun hpending => hunpending hpending
  constructor
  · intro _
    exact ⟨hdisciplined₁, fun _ => hobserved⟩
  · intro _
    apply started_look (trace_snapshot_all hobserved.ready flow) hpending₁ hdisciplined₁
    intro original c₂ new₂ htracks₂ hsnapshot hdisciplined₂
    obtain ⟨before, after, rfl⟩ := hsnapshot
    obtain ⟨_, hbase₂⟩ := htracks₂.ports hobserved.ready.permission
    have hflow₂ : c₂.original_flow = flow := congrArg Memory.original_flow htracks₂.memory
    have hlinked₂ := hobserved.tracks htracks₂ (snapshot_all_log c₁.base c₁.client_pid before after
      flow original)
    rw [wp_bind, wp_update]
    -- a holder that found the flow at 0 now has all it must have seen
    let l : Lending := ⟨opened, identity, p, before, after, original⟩
    have hlog : flow = 0 → mid ++ new₁ ++
        snapshot_all_log c₁.base c₁.client_pid before after flow original = l.log := by
      intro hflow
      rw [h.guard_log hguarded, h.log, hflow, hpid₁, hbase]
      rfl
    apply wp_started
    · apply keeps_take_over
      intro hflow
      show LendsFlow c₂.base (mid ++ new₁ ++
        snapshot_all_log c₁.base c₁.client_pid before after flow original) 0 1
      rw [hlog hflow]
      exact .takeover l (hbase.symm.trans hbase₂.symm)
    · exact hdisciplined₂
    · refine @Linked.with_baseline _ _ _ { c₂ with original := original, restore_pending := true } _
        hlinked₂ rfl rfl rfl ?_
      intro _ hflow
      refine ⟨l, ?_, hbase.symm.trans hbase₂.symm, rfl⟩
      have hends := hlog (hflow₂.symm.trans hflow)
      exact ⟨[], by rw [List.append_nil, hends]⟩

theorem started_open_steps (hnew : New c) (haccess : c.access = access) (hholder : c.holder = holder)
    (takeover_flow : Bool) :
    wp (recorded cs_io) (Disciplined access holder []) (open_steps takeover_flow)
      (Started access holder) c [⟨.calloc, true⟩] := by
  have hcalloc : Harmless [(⟨.calloc, true⟩ : Event cs_io)] :=
    .singleton fun p value heq => by cases heq
  have hstart : Disciplined access holder [] [(⟨.calloc, true⟩ : Event cs_io)] :=
    Disciplined.nil.append hcalloc
  apply started_look (trace_open_ports hnew) hnew.restore_pending hstart
  intro _ c₁ new₁ htracks₁ hports hdisciplined₁
  obtain ⟨opened, hexact, rfl, hlog⟩ := hports
  have hunguarded : Unguarded access holder opened (ports_open opened c)
      ([⟨.calloc, true⟩] ++ new₁) :=
    ⟨hlog, haccess, hholder, hexact, rfl, hnew.base, hnew.client_pid, hnew.runtime_permission,
      hnew.restore_pending⟩
  apply (wp_ctx_then _ _).mpr
  by_cases hhold : (ports_open opened c).holder = true
  · rw [if_pos hhold]
    exact started_open_holder hunguarded takeover_flow
  · -- without a holder the first guard is all
    rw [if_neg hhold]
    apply started_look (trace_guard_flow hunguarded.sane_ports false (some 1))
      hunguarded.restore_pending hdisciplined₁
    intro _ c₂ new₂ htracks₂ hguard hdisciplined₂
    obtain ⟨identity, p, hguarded, hpermission, hbase, hidentity⟩ := hguard
    exact ⟨hdisciplined₂,
      fun _ => hunguarded.guarded htracks₂ hguarded hpermission hbase hidentity⟩

/-- The failure path of an opening: restore what is pending. -/
theorem started_open_failed {r : Except Failure Unit} (h : Started access holder r c mid)
    (e : Failure) :
    wp (recorded cs_io) (Disciplined access holder []) (open_failed e)
      (fun r' _ mid' => Disciplined access holder [] mid' ∧ r' ≠ .ok ()) c mid := by
  apply (wp_ctx_then _ _).mpr
  by_cases hpending : c.restore_pending = true
  · rw [if_pos hpending]
    have hsafe : Safe access holder [] c mid := ⟨h.disciplined, h.linked (.inr hpending)⟩
    apply wp_seq (keeps_restore_holder.attempt hsafe)
    · intro r c₁ mid₁ hpost
      apply wp_seq (Keeps.of_trace (fun _ => trace_release) hpost.1)
      · intro _ c₂ mid₂ hpost₂
        cases r with
        | ok a => exact ⟨hpost₂.1.disciplined, by simp⟩
        | error e' => exact ⟨hpost₂.1.disciplined, by simp⟩
      · intro e' c₂ mid₂ hpost₂
        exact ⟨hpost₂.1.disciplined, by simp⟩
    · intro e' c₁ mid₁ hpost
      exact ⟨hpost.1.disciplined, by simp⟩
  · rw [if_neg hpending]
    have hrelease := wp_mono (J := Disciplined access holder [])
      ((trace_release : Trace (release_context : Fun Unit) _ c) mid)
      (fun mid' hI => by
        obtain ⟨new, rfl, hnew⟩ := hI
        exact h.disciplined.append hnew) (fun _ _ _ hpost => hpost)
    apply wp_seq hrelease
    · intro _ c₁ mid₁ hpost
      obtain ⟨_, new, rfl, hnew, _⟩ := hpost
      exact ⟨h.disciplined.append hnew, by simp⟩
    · intro e' c₁ mid₁ hpost
      obtain ⟨_, new, rfl, hnew, _⟩ := hpost
      exact ⟨h.disciplined.append hnew, by simp⟩

/-- An opening is disciplined, and what it opens is linked. -/
theorem open_context_disciplined (access : Access) (holder takeover_flow : Bool) :
    Prog.wp (recorded cs_io) (Disciplined access holder [])
      (open_context access holder takeover_flow)
      (fun r mid => ∀ c, r = .ok c → Linked access holder c mid) [] := by
  let c₀ : Context := { access := access, holder := holder }
  have hnew : New c₀ := ⟨rfl, rfl, rfl, rfl, rfl⟩
  have hopening : wp (recorded cs_io) (Disciplined access holder [])
      (recover (open_steps takeover_flow) open_failed)
      (fun r c mid => r = .ok () → Linked access holder c mid) c₀ [⟨.calloc, true⟩] := by
    apply wp_handle (started_open_steps hnew rfl rfl takeover_flow)
    · intro _ c mid hstarted _
      exact hstarted.linked (.inl rfl)
    · intro e c mid hstarted
      apply wp_mono (started_open_failed hstarted e) (fun _ hI => hI)
      intro r c' mid' hpost heq
      exact absurd heq hpost.2
  intro allocated mid hstep
  obtain rfl : mid = [] ++ [(⟨.calloc, allocated⟩ : Event cs_io)] := hstep
  have hcalloc : Harmless [(⟨.calloc, allocated⟩ : Event cs_io)] :=
    .singleton fun p value heq => by cases heq
  refine ⟨Disciplined.nil.append hcalloc, ?_⟩
  show Prog.wp _ _ (if ¬ allocated = true then _ else _) _ _
  cases allocated with
  | false =>
    intro c heq
    cases heq
  | true =>
    rw [if_neg (by simp)]
    split
    · intro c heq
      cases heq
    · refine (Prog.wp_bind _ _ _ _).mpr (Prog.wp_mono hopening (fun _ hI => hI) ?_)
      intro r mid hpost c heq
      obtain ⟨r, c'⟩ := r
      cases r with
      | ok a =>
        cases heq
        exact hpost rfl
      | error e => cases heq

end opening

/-! ## Sessions -/

/-- A call of an open context. -/
inductive PublicCall where
  | read (id : Nat)
  | apply (id : Nat) (patch : Patch)
  | identify (id seconds : Nat) (cancelled : Nat → Bool)
  | begin_identify (id : Nat)
  | end_identify (id : Nat)
  | set_client (authenticated_pid : Int)
  | close
  | restore_close

/-- The call; the values it returns are for its caller. -/
def PublicCall.run : PublicCall → Fun Unit
  | .read id => do
    let _ ← Cs201x.read id
  | .apply id patch => do
    let _ ← Cs201x.apply id patch
  | .identify id seconds cancelled => Cs201x.identify id seconds cancelled
  | .begin_identify id => Cs201x.begin_identify id
  | .end_identify id => Cs201x.end_identify id
  | .set_client authenticated_pid => update (Cs201x.set_client authenticated_pid)
  | .close => Cs201x.close
  | .restore_close => Cs201x.restore_close

/-- After these the context is freed. -/
def PublicCall.frees : PublicCall → Bool
  | .close | .restore_close => true
  | _ => false

theorem keeps_public_call {access : Access} {holder : Bool} {start mid : Log} {c : Context}
    (call : PublicCall) : Keeps access holder start call.run c mid := by
  cases call with
  | read id => exact (keeps_read id).bind fun _ _ _ _ => Keeps.pure _
  | apply id patch => exact (keeps_apply id patch).bind fun _ _ _ _ => Keeps.pure _
  | identify id seconds cancelled => exact keeps_identify id seconds cancelled
  | begin_identify id => exact keeps_begin_identify id
  | end_identify id => exact keeps_end_identify id
  | set_client authenticated_pid =>
    apply Keeps.update ⟨fun hpending => hpending, rfl, rfl⟩
    intro hlinked
    exact hlinked.with_baseline rfl rfl rfl hlinked.lent
  | close => exact keeps_close
  | restore_close => exact keeps_restore_close

section sessions

variable {σ : Type} (E : Env cs_io σ) (access : Access) (holder takeover_flow : Bool)

/-- `Session c log`: an opening and some complete calls have left the open
    context `c` and the log `log`.  Between two calls the machine may become
    any other. -/
inductive Session : Context → Log → Prop where
  | opened {s s' : σ} {c : Context} {log : Log} :
      Prog.Runs E.logged (open_context access holder takeover_flow) (s, []) (.ok c) (s', log) →
      Session c log
  | called {c c' : Context} {log new : Log} {s s' : σ} {r : Except Failure Unit}
      (call : PublicCall) : Session c log → call.frees = false →
      Runs E.logged call.run c (s, []) r c' (s', new) → Session c' (log ++ new)

/-- `Visits start mid`: some run of a session, after calls that have logged
    `start`, is in a call that has logged `mid`. -/
inductive Visits : Log → Log → Prop where
  | opening {s s' : σ} {p : Prog cs_io (Except Failure Context)} {mid : Log} :
      Prog.Reaches E.logged (open_context access holder takeover_flow) (s, []) p (s', mid) →
      Visits [] mid
  | calling {c : Context} {log mid : Log} {s s' : σ} {p : Prog cs_io (Except Failure Unit × Context)}
      (call : PublicCall) : Session E access holder takeover_flow c log →
      Prog.Reaches E.logged (call.run.run c) (s, []) p (s', mid) → Visits log mid

variable {E access holder takeover_flow}

theorem Visits.of_opening {s : σ} {x : σ × Log} {p : Prog cs_io (Except Failure Context)}
    (h : Prog.Reaches E.logged (open_context access holder takeover_flow) (s, []) p x) :
    Visits E access holder takeover_flow [] x.2 :=
  .opening h

theorem Session.linked {c : Context} {log : Log} (h : Session E access holder takeover_flow c log) :
    Linked access holder c log := by
  induction h with
  | opened hopen =>
    exact Prog.wp_runs (open_context_disciplined access holder takeover_flow) hopen.recorded _ rfl
  | @called c c' log new s s' r call _ _ hcall ih =>
    have hsafe : Safe access holder log c [] := ⟨Disciplined.nil, by rwa [List.append_nil]⟩
    obtain ⟨hsafe', _⟩ := wp_runs (keeps_public_call call hsafe) (Prog.Runs.recorded hcall)
    exact hsafe'.linked

/-- Wherever a run of a session is, every write to a data port was
    justified. -/
theorem data_writes_disciplined {start mid : Log}
    (h : Visits E access holder takeover_flow start mid) :
    Disciplined access holder start mid := by
  have hforget : ∀ (s : σ × Log) (o : CsOp) (b : cs_io.Ans o) (s' : σ × Log),
      E.logged s o b s' → recorded cs_io s.2 o b s'.2 := fun _ _ _ _ hstep => hstep.2
  cases h with
  | opening hreaches =>
    exact (Prog.wp_reaches Disciplined.nil (open_context_disciplined access holder takeover_flow)
      (hreaches.map (f := Prod.snd) hforget)).1
  | calling call hsession hreaches =>
    have hsafe : Safe access holder start _ [] :=
      ⟨Disciplined.nil, by rw [List.append_nil]; exact hsession.linked⟩
    exact (Prog.wp_reaches Disciplined.nil (keeps_public_call call hsafe)
      (hreaches.map (f := Prod.snd) hforget)).1

end sessions

/-- A controller whose flow is autonomous. -/
def autonomous_device : Device :=
  { gt_device with mem := Function.update gt_device.mem CS_FLOW 0 }

/-- The machine around it, where no read succeeds any more after the first
    write to the data port. -/
def fragile : Prog.Handler cs_io Device
  | d, .calloc => (true, d)
  | d, .detect => (.ok gt_identity, d)
  | d, .owners _ _ => (.ok (), d)
  | d, .lock => (.ok (), d)
  | d, .unlock => ((), d)
  | d, .permission _ _ _ => (.ok (), d)
  | d, .read_port p => if d.data_writes = 0 then (.ok (d.value p), d) else (.error Errno.EIO, d)
  | d, .write_port p value => (.ok (), d.write p value)
  | d, .pause_ms _ => ((), d)

theorem access_fragile (d : Device) (o : CsOp) :
    Cs201x.access d o (fragile d o).1 (fragile d o).2 := by
  cases o with
  | read_port p =>
    by_cases hunwritten : d.data_writes = 0
    · simp only [fragile, hunwritten, if_true]
      exact ⟨rfl, d.reads_value p⟩
    · simp only [fragile, hunwritten, if_false]
      rfl
  | write_port p value => exact .inl rfl
  | calloc => rfl
  | detect => rfl
  | owners => rfl
  | lock => rfl
  | unlock => rfl
  | permission => rfl
  | pause_ms => rfl

/-- The opening of a holder there: what it returns, the controller, the log. -/
def takeover : Except Failure Context × Device × Log :=
  Prog.exec fragile.logged (open_context ⟨true, true⟩ true true) (autonomous_device, [])

theorem takeover_runs : Prog.Runs Cs201x.access.logged (open_context ⟨true, true⟩ true true)
    (autonomous_device, []) takeover.1 takeover.2 :=
  Prog.runs_logged access_fragile _ _

/-- It takes the flow over with its one write, and can do no more. -/
theorem takeover_disciplined : takeover.2.1.flow = 1 ∧ takeover.2.1.data_writes = 1 ∧
    Disciplined ⟨true, true⟩ true [] takeover.2.2 :=
  ⟨by decide +kernel, by decide +kernel,
    data_writes_disciplined (Visits.of_opening takeover_runs.reaches)⟩

end UgreenNas.Led.Cs201x
