import UgreenNas.Effect.History
import UgreenNas.Led.N76.Confined
import UgreenNas.Led.N76.Session

/-! # N76 sessions are fail-stop

    Calls on one session, in any order, against a bus, a machine and other
    owners that may fail at any time: a byte is written only right behind a
    complete authorization, the bytes of a call are those of its plan, and
    after a failed write phase there are none.
-/

namespace UgreenNas.Led.N76

open Effect Effect.Proc

/-! ## Calls -/

inductive Call where
  | apply (id : Nat) (patch : Patch)
  | read (id : Nat)
  | preflight (id : Nat) (before : Option Value) (patch : Patch)

def perform : Call → Fun (Option Readback)
  | .apply id patch => do
    let value ← apply id patch
    pure (some value)
  | .read id => do
    let value ← read id
    pure (some value)
  | .preflight id before patch => do
    preflight id before patch
    pure none

abbrev Log : Type := List (Event n76_io)

/-- The bytes that were sent, whatever came of it. -/
def attempted : Log → List (UInt8 × UInt8) :=
  List.filterMap fun event => match event with
    | ⟨.write_byte reg value, _⟩ => some (reg, value)
    | _ => none

/-- The bytes that arrived. -/
def written : Log → List (UInt8 × UInt8) :=
  List.filterMap fun event => match event with
    | ⟨.write_byte reg value, .ok _⟩ => some (reg, value)
    | _ => none

/-- The bytes of a plan. -/
def Plan.bytes (plan : Plan) : List (UInt8 × UInt8) :=
  plan.commands.map fun command => (command.reg, command.value)

theorem attempted_append (first second : Log) :
    attempted (first ++ second) = attempted first ++ attempted second := by
  simp [attempted]

theorem written_append (first second : Log) :
    written (first ++ second) = written first ++ written second := by
  simp [written]

/-! ## What does not write -/

/-- Nothing is written, and the session stays as it is. -/
abbrev Quiet {κ ε α : Type} (m : Proc n76_io κ ε α) : Prop := Silent (recorded n76_io) attempted m

theorem quiet_io {κ ε : Type} {o : N76Op} (ho : ∀ reg value, o ≠ .write_byte reg value) :
    Quiet (io o : Proc n76_io κ ε o.Ans) := by
  apply silent_ask
  intro log b log' hstep
  rw [show log' = log ++ [⟨o, b⟩] from hstep, attempted_append]
  cases o with
  | write_byte reg value => exact absurd rfl (ho reg value)
  | _ => simp [attempted]

theorem quiet_owners {κ : Type} : Quiet (owners : Proc n76_io κ Errno Unit) :=
  (quiet_io (by simp)).bind fun r => silent_lift r

theorem quiet_read_byte {κ : Type} (reg : UInt8) :
    Quiet (read_byte reg : Proc n76_io κ Errno UInt8) :=
  (quiet_io (by simp)).bind fun r => silent_lift r

theorem quiet_pause_ms {κ ε : Type} (milliseconds : Nat) :
    Quiet (pause_ms milliseconds : Proc n76_io κ ε Unit) :=
  (quiet_io (by simp)).bind fun _ => silent_pure ()

theorem quiet_read_chip_id {κ : Type} : Quiet (read_chip_id : Proc n76_io κ Errno Nat) :=
  (quiet_read_byte 0x5a).bind fun _ => (quiet_read_byte 0x5b).bind fun _ => silent_pure _

theorem quiet_verify_identity {κ : Type} (identity : Identity) :
    Quiet (verify_identity identity : Proc n76_io κ Failure Unit) :=
  (quiet_io (by simp)).bind fun _ => (silent_lift _).bind fun _ => silent_bail _ _

theorem quiet_read_modes (bit : UInt32) : Quiet (read_modes bit) :=
  silent_ctx.bind fun _ =>
  quiet_read_chip_id.bind fun _ =>
  (quiet_read_byte 0x5d).bind fun _ =>
  (silent_bail _ _).bind fun _ =>
  (quiet_read_byte _).bind fun _ =>
  (quiet_read_byte _).bind fun _ =>
  (silent_bail _ _).bind fun _ =>
  silent_pure _

theorem quiet_read (id : Nat) : Quiet (read id) :=
  silent_ctx.bind fun session =>
  (silent_bail _ _).bind fun _ =>
  (quiet_verify_identity session.identity).bind fun _ =>
  (quiet_owners.mapError _).bind fun _ =>
  ((quiet_read_modes (lamp_bit id)).mapError _).bind fun _ =>
  silent_pure _

theorem quiet_authorize_write : Quiet authorize_write :=
  silent_ctx.bind fun session =>
  (silent_bail _ _).bind fun _ =>
  (silent_bail _ _).bind fun _ =>
  (quiet_verify_identity session.identity).bind fun _ =>
  (quiet_owners.mapError _).bind fun _ =>
  (quiet_read_chip_id.mapError _).bind fun _ =>
  (silent_bail _ _).bind fun _ =>
  (silent_bail _ _).bind fun _ =>
  (silent_bail _ _).bind fun _ =>
  ((quiet_read_byte 0x5d).mapError _).bind fun _ =>
  silent_bail _ _

theorem quiet_prepare (id : Nat) (patch : Patch) : Quiet (prepare id patch) :=
  silent_ctx.bind fun _ =>
  (silent_bail _ _).bind fun _ =>
  (silent_lift _).bind fun _ =>
  quiet_authorize_write.bind fun _ =>
  (silent_lift _).bind fun _ =>
  (quiet_read id).bind fun _ =>
  silent_pure _

theorem quiet_preflight (id : Nat) (before : Option Value) (patch : Patch) :
    Quiet (preflight id before patch) :=
  silent_ctx.bind fun _ => (silent_bail _ _).bind fun _ => silent_lift _

/-! ## Authorization -/

/-- A complete authorization: `events` are its accesses, all of which
    succeeded and found the machine and the controller as they were when the
    session was opened. -/
structure Authorized (session : Session) (events : Log) : Prop where
  applied : session.access.apply = true
  forced : session.access.force = true
  accesses : ∃ identity high low,
    same_identity session.identity identity = true ∧
    chip_word high low = session.chip_id ∧
    chip_word high low = session.model.expected_chip_id ∧
    events = [⟨N76Op.read_identity, .ok identity⟩, ⟨N76Op.owners, .ok ()⟩,
      ⟨N76Op.read_byte 0x5a, .ok high⟩, ⟨N76Op.read_byte 0x5b, .ok low⟩,
      ⟨N76Op.read_byte 0x5d, .ok session.n76_version⟩]

theorem owners_ok {κ : Type} {c c' : κ} {log : Log}
    (h : Logs (owners : Proc n76_io κ Errno Unit) c (.ok ()) c' log) :
    c' = c ∧ log = [⟨N76Op.owners, .ok ()⟩] := by
  obtain ⟨b, rest, hlog, h⟩ := h.of_ask_then
  obtain ⟨hb, hc, hrest⟩ := h.of_lift
  rw [hlog, hrest, ← hb]
  exact ⟨hc, rfl⟩

theorem read_byte_ok {κ : Type} {c c' : κ} {reg value : UInt8} {log : Log}
    (h : Logs (read_byte reg : Proc n76_io κ Errno UInt8) c (.ok value) c' log) :
    c' = c ∧ log = [⟨N76Op.read_byte reg, .ok value⟩] := by
  obtain ⟨b, rest, hlog, h⟩ := h.of_ask_then
  obtain ⟨hb, hc, hrest⟩ := h.of_lift
  rw [hlog, hrest, ← hb]
  exact ⟨hc, rfl⟩

theorem read_chip_id_ok {κ : Type} {c c' : κ} {chip : Nat} {log : Log}
    (h : Logs (read_chip_id : Proc n76_io κ Errno Nat) c (.ok chip) c' log) :
    c' = c ∧ ∃ high low, chip = chip_word high low ∧
      log = [⟨N76Op.read_byte 0x5a, .ok high⟩, ⟨N76Op.read_byte 0x5b, .ok low⟩] := by
  obtain ⟨high, c₁, first, log₁, hlog, hhigh, h⟩ := h.of_bind_ok
  obtain ⟨low, c₂, second, log₂, hlog₁, hlow, h⟩ := h.of_bind_ok
  obtain ⟨hchip, hc, hlog₂⟩ := h.of_pure
  obtain ⟨hc₁, hfirst⟩ := read_byte_ok hhigh
  obtain ⟨hc₂, hsecond⟩ := read_byte_ok hlow
  refine ⟨by rw [hc, hc₂, hc₁], high, low, by simpa using hchip, ?_⟩
  rw [hlog, hlog₁, hfirst, hsecond, hlog₂]
  rfl

theorem verify_identity_ok {κ : Type} {c c' : κ} {identity : Identity} {log : Log}
    (h : Logs (verify_identity identity : Proc n76_io κ Failure Unit) c (.ok ()) c' log) :
    c' = c ∧ ∃ current, same_identity identity current = true ∧
      log = [⟨N76Op.read_identity, .ok current⟩] := by
  obtain ⟨b, rest, hlog, h⟩ := h.of_ask_then
  obtain ⟨current, hb, h⟩ := h.of_lift_then
  obtain ⟨hsame, hc, hrest⟩ := h.of_bail
  cases b with
  | error e => cases hb
  | ok answer =>
    cases hb
    rw [hlog, hrest]
    exact ⟨hc, current, by simpa using hsame, rfl⟩

theorem authorize_write_ok {session session' : Session} {log : Log}
    (hexperimental : session.model.experimental = true)
    (h : Logs authorize_write session (.ok ()) session' log) :
    session.n76_failed = false ∧ Authorized session log := by
  have h := h.of_ctx_then
  obtain ⟨_, h⟩ := h.of_bail_then
  obtain ⟨haccess, h⟩ := h.of_bail_then
  obtain ⟨_, _, identity_log, log₁, hlog, hidentity, h⟩ := h.of_bind_ok
  obtain ⟨_, _, owners_log, log₂, hlog₁, howners, h⟩ := h.of_bind_ok
  obtain ⟨chip, _, chip_log, log₃, hlog₂, hchip, h⟩ := h.of_bind_ok
  obtain ⟨_, h⟩ := h.of_bail_then
  obtain ⟨hexpected, h⟩ := h.of_bail_then
  obtain ⟨hfailed, h⟩ := h.of_bail_then
  obtain ⟨version, _, version_log, log₄, hlog₃, hversion, h⟩ := h.of_bind_ok
  obtain ⟨hversion', _, hlog₄⟩ := h.of_bail
  obtain ⟨_, identity, hidentity', hfirst⟩ := verify_identity_ok hidentity
  obtain ⟨_, hsecond⟩ := owners_ok howners.of_mapError
  obtain ⟨_, high, low, hword, hthird⟩ := read_chip_id_ok hchip.of_mapError
  obtain ⟨_, hfourth⟩ := read_byte_ok hversion.of_mapError
  simp only [not_or, not_and, not_not] at haccess hexpected hversion'
  refine ⟨by simpa using hfailed, haccess.1, haccess.2 hexperimental, identity, high, low,
    hidentity', ?_, ?_, ?_⟩
  · rw [← hword, hexpected.2]
  · rw [← hword, hexpected.1]
  · rw [hlog, hlog₁, hlog₂, hlog₃, hlog₄, hfirst, hsecond, hthird, hfourth, hversion']
    rfl

/-! ## Bytes -/

/-- Every byte is sent right behind a complete authorization. -/
def Covered (session : Session) (log : Log) : Prop :=
  ∀ before reg value answer after,
    log = before ++ ⟨N76Op.write_byte reg value, answer⟩ :: after →
    ∃ earlier events, before = earlier ++ events ∧ Authorized session events

theorem covered_quiet {session : Session} {log : Log} (h : attempted log = []) :
    Covered session log := by
  intro before reg value answer after hlog
  rw [hlog, attempted_append] at h
  simp [attempted] at h

theorem Covered.append {session : Session} {first second : Log} (hfirst : Covered session first)
    (hsecond : Covered session second) : Covered session (first ++ second) := by
  intro before reg value answer after hlog
  rcases List.append_eq_append_iff.mp hlog with ⟨between, hbefore, hrest⟩ | ⟨between, hlog, hrest⟩
  · -- the byte is in the second log
    obtain ⟨earlier, events, hevents, hauthorized⟩ := hsecond _ _ _ _ _ hrest
    exact ⟨first ++ earlier, events, by rw [hbefore, hevents, List.append_assoc], hauthorized⟩
  · cases between with
    | nil =>
      obtain ⟨earlier, events, hevents, hauthorized⟩ := hsecond [] _ _ _ _ hrest.symm
      refine ⟨first ++ earlier, events, ?_, hauthorized⟩
      rw [List.append_nil] at hlog
      rw [List.append_assoc, ← hevents, List.append_nil, hlog]
    | cons event between =>
      rw [List.cons_append, List.cons.injEq] at hrest
      rw [← hrest.1] at hlog
      exact hfirst _ _ _ _ _ hlog

/-- An authorization and the byte behind it. -/
theorem covered_write {session : Session} {events : Log} (h : Authorized session events)
    (hquiet : attempted events = []) (reg value : UInt8) (answer : Except Errno Unit) :
    Covered session (events ++ [⟨N76Op.write_byte reg value, answer⟩]) := by
  intro before reg' value' answer' after hlog
  rcases List.append_eq_append_iff.mp hlog with ⟨between, hbefore, hrest⟩ | ⟨between, hlog, hrest⟩
  · cases between with
    | nil => exact ⟨[], events, by simpa using hbefore, h⟩
    | cons event between => simp at hrest
  · cases between with
    | nil =>
      rw [List.append_nil] at hlog
      exact ⟨[], events, by rw [hlog, List.nil_append], h⟩
    | cons event between =>
      rw [List.cons_append, List.cons.injEq] at hrest
      rw [hlog, ← hrest.1, attempted_append] at hquiet
      simp [attempted] at hquiet

/-- What a part of the write phase does that is to send `bytes`: it sends a
    first part of them, all but the last of which arrived. -/
structure Sent {α ε : Type} (session : Session) (bytes : List (UInt8 × UInt8)) (r : Except ε α)
    (session' : Session) (log : Log) : Prop where
  same : session' = session
  covered : Covered session log
  sent : attempted log <+: bytes
  arrived : written log <+: attempted log
  whole : ∀ a, r = .ok a → written log = bytes

theorem written_quiet {log : Log} (h : attempted log = []) : written log = [] := by
  simp only [attempted, List.filterMap_eq_nil_iff] at h
  simp only [written, List.filterMap_eq_nil_iff]
  intro event hmem
  have hnone := h event hmem
  obtain ⟨o, answer⟩ := event
  cases o <;> simp_all

theorem Sent.of_quiet {α ε : Type} {m : Proc n76_io Session ε α} (hm : Quiet m)
    {session session' : Session} {r : Except ε α} {log : Log} (h : Logs m session r session' log) :
    Sent session [] r session' log := by
  obtain ⟨hsame, hquiet⟩ := h.silent hm
  have hattempted : attempted log = [] := hquiet
  have hwritten := written_quiet hattempted
  exact ⟨hsame, covered_quiet hattempted, by rw [hattempted], by rw [hwritten]; simp,
    fun _ _ => hwritten⟩

/-- A failed part is one of any larger one. -/
theorem Sent.fails {α β ε δ : Type} {session session' : Session}
    {bytes : List (UInt8 × UInt8)} {e : ε} {log : Log}
    (h : Sent session bytes (.error e : Except ε α) session' log)
    (rest : List (UInt8 × UInt8)) (e' : δ) :
    Sent session (bytes ++ rest) (.error e' : Except δ β) session' log :=
  ⟨h.same, h.covered, h.sent.trans (List.prefix_append bytes rest), h.arrived, by simp⟩

theorem Sent.append {α β ε δ : Type} {session session' session'' : Session}
    {bytes rest : List (UInt8 × UInt8)} {a : α} {r : Except δ β} {first second : Log}
    (h : Sent session bytes (.ok a : Except ε α) session' first)
    (hrest : Sent session' rest r session'' second) :
    Sent session (bytes ++ rest) r session'' (first ++ second) := by
  have hsame := h.same
  subst hsame
  have hwritten := h.whole a rfl
  have hattempted : attempted first = bytes := by
    have hback := h.arrived
    rw [hwritten] at hback
    exact h.sent.eq_of_length (Nat.le_antisymm h.sent.length_le hback.length_le)
  refine ⟨hrest.same, h.covered.append hrest.covered, ?_, ?_, ?_⟩
  · rw [attempted_append, hattempted, List.prefix_append_right_inj]
    exact hrest.sent
  · rw [attempted_append, written_append, hattempted, hwritten, List.prefix_append_right_inj]
    exact hrest.arrived
  · intro b hb
    rw [written_append, hwritten, hrest.whole b hb]

/-! ## The write phase -/

/-- What follows a byte reads at most. -/
theorem quiet_readback (plan : Plan) (command : Command) :
    Quiet (do
      pause_ms command.settle_ms
      if command.reg = plan.mode_registers.1 ∨ command.reg = plan.mode_registers.2 then do
        let actual ← read_byte command.reg
        bail (actual ≠ command.value) Errno.EIO
      else pure () : Io Unit) := by
  apply (quiet_pause_ms command.settle_ms).bind
  intro _
  split
  · exact (quiet_read_byte command.reg).bind fun _ => silent_bail _ _
  · exact silent_pure ()

theorem write_byte_logs {κ : Type} {c c' : κ} {reg value : UInt8} {r : Except Errno Unit}
    {log : Log} (h : Logs (write_byte reg value : Proc n76_io κ Errno Unit) c r c' log) :
    c' = c ∧ log = [⟨N76Op.write_byte reg value, r⟩] := by
  obtain ⟨b, rest, hlog, h⟩ := h.of_ask_then
  obtain ⟨hb, hc, hrest⟩ := h.of_lift
  rw [hlog, hrest, hb]
  exact ⟨hc, rfl⟩

/-- The authorization and the byte behind it. -/
theorem write_sent {session : Session} {events : Log} (h : Authorized session events)
    (hquiet : attempted events = []) (reg value : UInt8) (r : Except Errno Unit) :
    Sent session [(reg, value)] r session (events ++ [⟨N76Op.write_byte reg value, r⟩]) := by
  have hwritten := written_quiet hquiet
  have hattempted : attempted (events ++ [⟨N76Op.write_byte reg value, r⟩]) = [(reg, value)] := by
    rw [attempted_append, hquiet]
    rfl
  refine ⟨rfl, covered_write h hquiet reg value r, by rw [hattempted], ?_, ?_⟩
  · rw [hattempted, written_append, hwritten]
    cases r <;> simp [written]
  · intro a ha
    rw [written_append, hwritten, ha]
    rfl

theorem send_command_sent {plan : Plan} {command : Command} {session session' : Session}
    {r : Except Errno Unit} {log : Log} (hexperimental : session.model.experimental = true)
    (h : Logs (send_command plan command) session r session' log) :
    Sent session [(command.reg, command.value)] r session' log := by
  rcases h.of_bind with ⟨_, session₁, events, rest, hlog, hauthorize, hwrite⟩ | ⟨e, hr, hauthorize⟩
  · obtain ⟨hsame, hquiet⟩ := hauthorize.silent (quiet_authorize_write.mapError _)
    obtain ⟨_, hauthorized⟩ := authorize_write_ok hexperimental hauthorize.of_mapError
    subst hsame
    have hsent := fun r => write_sent hauthorized hquiet command.reg command.value r
    rcases hwrite.of_bind with ⟨_, session₂, first, second, hrest, hwrite, hback⟩ | ⟨e, hr, hwrite⟩
    · obtain ⟨hsame, hfirst⟩ := write_byte_logs hwrite
      subst hsame
      have htail := Sent.of_quiet (quiet_readback plan command) hback
      rw [hlog, hrest, ← List.append_assoc, hfirst]
      exact (hsent (.ok ())).append htail
    · obtain ⟨hsame, hfirst⟩ := write_byte_logs hwrite
      rw [hlog, hfirst, hr, hsame]
      exact hsent (.error e)
  · rw [hr]
    exact (Sent.of_quiet (quiet_authorize_write.mapError _) hauthorize).fails
      [(command.reg, command.value)] e

/-- The induction over the plan: the first command, then the rest. -/
theorem send_sent {plan : Plan} {commands : List Command} {session session' : Session}
    {r : Except Errno Unit} {log : Log} (hexperimental : session.model.experimental = true)
    (h : Logs (send plan commands) session r session' log) :
    Sent session (commands.map fun command => (command.reg, command.value)) r session' log := by
  induction commands generalizing session log with
  | nil => exact Sent.of_quiet (silent_pure ()) h
  | cons command rest ih =>
    rcases h.of_bind with ⟨_, session₁, first, second, hlog, hfirst, hrest⟩ | ⟨e, hr, hfirst⟩
    · have hsent := send_command_sent hexperimental hfirst
      have hsame := hsent.same
      subst hsame
      rw [hlog]
      exact hsent.append (ih hexperimental hrest)
    · rw [hr]
      exact (send_command_sent hexperimental hfirst).fails _ e

/-- The last reads of a transaction: the mode registers hold what the plan
    expects. -/
def ModesRead (bit : UInt32) (modes : UInt8 × UInt8) (log : Log) : Prop :=
  ∃ earlier, log = earlier ++ [⟨N76Op.read_byte (0x50 + bit).toUInt8, .ok modes.1⟩,
    ⟨N76Op.read_byte (0x51 + bit).toUInt8, .ok modes.2⟩]

theorem ModesRead.append {bit : UInt32} {modes : UInt8 × UInt8} {log : Log}
    (h : ModesRead bit modes log) (before : Log) : ModesRead bit modes (before ++ log) := by
  obtain ⟨earlier, hlog⟩ := h
  exact ⟨before ++ earlier, by rw [hlog, List.append_assoc]⟩

theorem read_modes_ok {bit : UInt32} {session session' : Session}
    {modes : UInt8 × (UInt8 × UInt8)} {log : Log}
    (h : Logs (read_modes bit) session (.ok modes) session' log) : ModesRead bit modes.2 log := by
  have h := h.of_ctx_then
  obtain ⟨_, _, chip_log, log₁, hlog, _, h⟩ := h.of_bind_ok
  obtain ⟨_, _, version_log, log₂, hlog₁, _, h⟩ := h.of_bind_ok
  obtain ⟨_, h⟩ := h.of_bail_then
  obtain ⟨first, _, first_log, log₃, hlog₂, hfirst, h⟩ := h.of_bind_ok
  obtain ⟨second, _, second_log, log₄, hlog₃, hsecond, h⟩ := h.of_bind_ok
  obtain ⟨_, h⟩ := h.of_bail_then
  obtain ⟨hmodes, _, hlog₄⟩ := h.of_pure
  obtain ⟨_, hfirst⟩ := read_byte_ok hfirst
  obtain ⟨_, hsecond⟩ := read_byte_ok hsecond
  cases hmodes
  refine ⟨chip_log ++ version_log, ?_⟩
  rw [hlog, hlog₁, hlog₂, hlog₃, hlog₄, hfirst, hsecond]
  simp

theorem read_ok {id : Nat} {session session' : Session} {value : Readback} {log : Log}
    (h : Logs (read id) session (.ok value) session' log) :
    ModesRead (lamp_bit id) value.n76_modes log := by
  have h := h.of_ctx_then
  obtain ⟨_, h⟩ := h.of_bail_then
  obtain ⟨_, _, identity_log, log₁, hlog, _, h⟩ := h.of_bind_ok
  obtain ⟨_, _, owners_log, log₂, hlog₁, _, h⟩ := h.of_bind_ok
  obtain ⟨modes, _, modes_log, log₃, hlog₂, hmodes, h⟩ := h.of_bind_ok
  obtain ⟨hvalue, _, hlog₃⟩ := h.of_pure
  cases hvalue
  rw [hlog, hlog₁, hlog₂, hlog₃, List.append_nil]
  exact ((read_modes_ok hmodes.of_mapError).append _).append _

theorem transact_sent {id : Nat} {plan : Plan} {session session' : Session}
    {r : Except Errno Readback} {log : Log} (hexperimental : session.model.experimental = true)
    (h : Logs (transact id plan) session r session' log) :
    Sent session plan.bytes r session' log ∧
      ∀ value, r = .ok value → value.n76_modes = plan.expected_modes ∧
        ModesRead (lamp_bit id) plan.expected_modes log := by
  rcases h.of_bind with ⟨_, session₁, sent_log, rest, hlog, hsend, hback⟩ | ⟨e, hr, hsend⟩
  · have hsent := send_sent hexperimental hsend
    have hsame := hsent.same
    subst hsame
    have hquiet : Quiet (do
        let value ← mapError (read id) fun e => e.errno
        bail (value.n76_modes ≠ plan.expected_modes) Errno.EIO
        pure value : Io Readback) :=
      ((quiet_read id).mapError _).bind fun _ => (silent_bail _ _).bind fun _ => silent_pure _
    have hall := hsent.append (Sent.of_quiet hquiet hback)
    rw [List.append_nil] at hall
    rw [hlog]
    refine ⟨hall, ?_⟩
    intro value hvalue
    rw [hvalue] at hback
    obtain ⟨value', _, read_log, log₁, hrest, hread, hcheck⟩ := hback.of_bind_ok
    obtain ⟨hmodes, hcheck⟩ := hcheck.of_bail_then
    obtain ⟨hsame, _, hlog₁⟩ := hcheck.of_pure
    cases hsame
    rw [not_not] at hmodes
    rw [hrest, hlog₁, List.append_nil, ← hmodes]
    exact ⟨rfl, (read_ok hread.of_mapError).append _⟩
  · have hfailed : Sent session (plan.bytes ++ []) (.error e : Except Errno Readback) session' log :=
      (send_sent hexperimental hsend).fails [] e
    rw [List.append_nil] at hfailed
    rw [hr]
    exact ⟨hfailed, by simp⟩

/-! ## Calls of a session -/

theorem prepare_ok {id : Nat} {patch : Patch} {plan : Plan} {session session' : Session} {log : Log}
    (hexperimental : session.model.experimental = true)
    (h : Logs (prepare id patch) session (.ok plan) session' log) :
    session.n76_failed = false ∧ n76_plan (some session.model) id patch = (.ok (), plan) := by
  have h := h.of_ctx_then
  obtain ⟨_, h⟩ := h.of_bail_then
  obtain ⟨_, _, h⟩ := h.of_lift_then
  obtain ⟨_, session₁, _, _, _, hauthorize, h⟩ := h.of_bind_ok
  have hsame := (hauthorize.silent quiet_authorize_write).1
  obtain ⟨_, hplanned, h⟩ := h.of_lift_then
  obtain ⟨_, _, _, _, _, _, h⟩ := h.of_bind_ok
  obtain ⟨hplan, _, _⟩ := h.of_pure
  refine ⟨(authorize_write_ok hexperimental hauthorize).1, ?_⟩
  cases hplan
  exact Prod.ext hplanned rfl

/-- What one `apply` does: nothing is sent, or a plan is, and the session is
    lost unless all of it was. -/
inductive Applied (session : Session) (id : Nat) (patch : Patch) (r : Except Failure Readback) :
    Session → Log → Prop where
  | refused {e : Failure} {log : Log} : r = .error e →
      Logs (prepare id patch) session (.error e) session log → attempted log = [] →
      Applied session id patch r session log
  | sent {plan : Plan} {value : Readback} {before log : Log} :
      n76_plan (some session.model) id patch = (.ok (), plan) →
      Logs (prepare id patch) session (.ok plan) session before →
      Sent session plan.bytes (.ok value : Except Errno Readback) session log →
      r = .ok { value with unverified_write := true } →
      value.n76_modes = plan.expected_modes →
      ModesRead (lamp_bit id) plan.expected_modes log →
      Applied session id patch r session (before ++ log)
  | lost {plan : Plan} {e : Failure} {errno : Errno} {before log : Log} :
      n76_plan (some session.model) id patch = (.ok (), plan) →
      Logs (prepare id patch) session (.ok plan) session before →
      Sent session plan.bytes (.error errno : Except Errno Readback) session log →
      r = .error e →
      Applied session id patch r { session with n76_failed := true } (before ++ log)

theorem apply_applied {id : Nat} {patch : Patch} {session session' : Session}
    {r : Except Failure Readback} {log : Log} (hexperimental : session.model.experimental = true)
    (h : Logs (apply id patch) session r session' log) :
    Applied session id patch r session' log := by
  rcases h.of_bind with ⟨plan, session₁, before, rest, hlog, hprepare, htransact⟩ |
    ⟨e, hr, hprepare⟩
  · obtain ⟨_, hplan⟩ := prepare_ok hexperimental hprepare
    have hsame := (hprepare.silent (quiet_prepare id patch)).1
    subst hsame
    rw [hlog]
    rcases htransact.of_bind with ⟨x, session₂, middle, last, hrest, hattempt, hend⟩ |
      ⟨e, _, hattempt⟩
    · obtain ⟨y, hy, hsend⟩ := hattempt.of_attempt
      obtain ⟨hsent, hread⟩ := transact_sent hexperimental hsend
      have hsame := hsent.same
      subst hsame
      cases hy
      cases x with
      | ok value =>
        obtain ⟨hr, hsame, hlast⟩ := hend.of_pure
        obtain ⟨hmodes, hread⟩ := hread value rfl
        rw [hrest, hlast, List.append_nil, hsame]
        exact .sent hplan hprepare hsent hr hmodes hread
      | error errno =>
        rcases hend.of_bind with ⟨_, session₃, up, fin, hup, hupdate, hfail⟩ | ⟨e, _, hupdate⟩
        · obtain ⟨_, hsession₃, hupnil⟩ := hupdate.of_update
          obtain ⟨hr, hsame, hfin⟩ := hfail.of_fail
          rw [hrest, hup, hupnil, hfin, hsame, hsession₃, List.append_nil, List.append_nil]
          exact .lost hplan hprepare hsent hr
        · have hnever := hupdate.of_update.1
          cases hnever
    · obtain ⟨y, hy, _⟩ := hattempt.of_attempt
      cases hy
  · obtain ⟨hsame, hquiet⟩ := hprepare.silent (quiet_prepare id patch)
    subst hsame
    exact .refused hr hprepare hquiet

/-- What `n76_open` has made sure of. -/
structure Opened (session : Session) : Prop where
  listed : session.model ∈ profiles
  direct : n76_profile session.model = true
  locked : session.locked = true
  chip : session.chip_id = 0xa5b5

theorem n76_open_opened {access : DirectAccess} {session : Session} {log : Log}
    (h : Logs (n76_open access) () (.ok session) () log) : Opened session := by
  obtain ⟨answer, _, _, h⟩ := h.of_ask_then
  obtain ⟨identity, _, h⟩ := h.of_lift_then
  cases hmodel : model_of identity with
  | none =>
    simp only [hmodel] at h
    cases h
  | some model =>
    simp only [hmodel] at h
    obtain ⟨hprofile, h⟩ := h.of_bail_then
    obtain ⟨_, _, _, _, _, _, h⟩ := h.of_bind_ok
    obtain ⟨_, _, _, _, _, _, h⟩ := h.of_bind_ok
    obtain ⟨probed, _, _, _, _, hprobe, h⟩ := h.of_bind_ok
    obtain ⟨hsession, _, _⟩ := h.of_pure
    cases hsession
    refine ⟨?_, ?_, rfl, ?_⟩
    · obtain ⟨profile, _, hfind⟩ := Option.bind_eq_some_iff.mp hmodel
      exact List.mem_of_find?_eq_some hfind
    · simp only [not_or, not_not] at hprofile
      exact hprofile.1
    · have hprobe := hprobe.of_mapError
      obtain ⟨_, _, _, _, _, _, hprobe⟩ := hprobe.of_bind_ok
      obtain ⟨_, _, _, _, _, _, hprobe⟩ := hprobe.of_bind_ok
      obtain ⟨chip, _, _, _, _, _, hprobe⟩ := hprobe.of_bind_ok
      obtain ⟨hchip, hprobe⟩ := hprobe.of_bail_then
      obtain ⟨_, _, _, _, _, _, hprobe⟩ := hprobe.of_bind_ok
      obtain ⟨hprobed, _, _⟩ := hprobe.of_pure
      cases hprobed
      simpa using hchip

theorem n76_experimental : ∀ model ∈ profiles, n76_profile model = true →
    model.experimental = true := by
  decide +kernel

theorem Opened.experimental {session : Session} (h : Opened session) :
    session.model.experimental = true :=
  n76_experimental session.model h.listed h.direct

/-- The session as it was opened, but for the mark of a failure. -/
def Remains (opened session : Session) : Prop :=
  session = { opened with n76_failed := session.n76_failed }

theorem Remains.covered {opened session : Session} (h : Remains opened session) {log : Log}
    (hcovered : Covered session log) : Covered opened log := by
  intro before reg value answer after hlog
  obtain ⟨earlier, events, hevents, hauthorized⟩ := hcovered _ _ _ _ _ hlog
  rw [h] at hauthorized
  exact ⟨earlier, events, hevents, hauthorized.applied, hauthorized.forced, hauthorized.accesses⟩

/-- What a call of a session opened as `opened` shows: every byte is covered,
    reads and preflights send none, and the bytes of an `apply` are those of
    its plan, all of them and with the expected modes if it succeeds. -/
structure Disciplined (opened : Session) (call : Call)
    (result : Except Failure (Option Readback)) (log : Log) : Prop where
  covered : Covered opened log
  reads : (∀ id patch, call ≠ .apply id patch) → attempted log = []
  sent : ∀ id patch, call = .apply id patch →
    attempted log <+: (n76_plan (some opened.model) id patch).2.bytes
  arrived : written log <+: attempted log
  whole : ∀ id patch, call = .apply id patch → ∀ value, result = .ok value →
    ∃ plan readback, n76_plan (some opened.model) id patch = (.ok (), plan) ∧
      written log = plan.bytes ∧ value = some readback ∧
      readback.n76_modes = plan.expected_modes ∧
      ModesRead (lamp_bit id) plan.expected_modes log

theorem Disciplined.of_quiet {opened session session' : Session} {call : Call}
    {result : Except Failure (Option Readback)} {log : Log} (hopened : Remains opened session)
    (hcall : ∀ id patch, call ≠ .apply id patch) (hquiet : Quiet (perform call))
    (h : Logs (perform call) session result session' log) :
    Remains opened session' ∧ Disciplined opened call result log := by
  obtain ⟨hsame, hattempted⟩ := h.silent hquiet
  have hnone : attempted log = [] := hattempted
  rw [hsame]
  refine ⟨hopened, covered_quiet hnone, fun _ => hnone, ?_, ?_, ?_⟩
  · exact fun id patch heq => absurd heq (hcall id patch)
  · rw [written_quiet hnone]
    exact List.nil_prefix
  · exact fun id patch heq => absurd heq (hcall id patch)

theorem perform_apply {id : Nat} {patch : Patch} {session session' : Session}
    {result : Except Failure (Option Readback)} {log : Log}
    (h : Logs (perform (.apply id patch)) session result session' log) :
    ∃ r, Logs (apply id patch) session r session' log ∧ result = r.map some := by
  rcases h.of_bind with ⟨value, session₁, first, rest, hlog, happly, hend⟩ | ⟨e, hr, happly⟩
  · obtain ⟨hr, hsame, hrest⟩ := hend.of_pure
    rw [hlog, hrest, List.append_nil, hsame]
    exact ⟨.ok value, happly, hr⟩
  · exact ⟨.error e, happly, hr⟩

theorem Disciplined.of_applied {opened session session' : Session} {id : Nat} {patch : Patch}
    {r : Except Failure Readback} {log : Log} (hopened : Remains opened session)
    (h : Applied session id patch r session' log) :
    Remains opened session' ∧ Disciplined opened (.apply id patch) (r.map some) log := by
  have hmodel : session.model = opened.model := by rw [hopened]
  cases h with
  | refused hr hprepare hnone =>
    refine ⟨hopened, covered_quiet hnone, fun _ => hnone, ?_, ?_, ?_⟩
    · intro _ _ _
      rw [hnone]
      exact List.nil_prefix
    · rw [written_quiet hnone]
      exact List.nil_prefix
    · intro _ _ _ value hvalue
      rw [hr] at hvalue
      cases hvalue
  | @sent plan readback before log hplan hprepare hsent hr hmodes hread =>
    have hall := (Sent.of_quiet (quiet_prepare id patch) hprepare).append hsent
    rw [hmodel] at hplan
    refine ⟨hopened, hopened.covered hall.covered, ?_, ?_, hall.arrived, ?_⟩
    · exact fun hcall => absurd rfl (hcall id patch)
    · intro _ _ hcall
      cases hcall
      rw [hplan]
      exact hall.sent
    · intro _ _ hcall value hvalue
      cases hcall
      rw [hr] at hvalue
      cases hvalue
      exact ⟨plan, _, hplan, hall.whole _ rfl, rfl, hmodes, hread.append before⟩
  | @lost plan e errno before log hplan hprepare hsent hr =>
    have hall := (Sent.of_quiet (quiet_prepare id patch) hprepare).append hsent
    rw [hmodel] at hplan
    have hremains : Remains opened { session with n76_failed := true } := by rw [hopened]; rfl
    refine ⟨hremains, hopened.covered hall.covered, ?_, ?_, hall.arrived, ?_⟩
    · exact fun hcall => absurd rfl (hcall id patch)
    · intro _ _ hcall
      cases hcall
      rw [hplan]
      exact hall.sent
    · intro _ _ _ value hvalue
      rw [hr] at hvalue
      cases hvalue

theorem quiet_perform_read (id : Nat) : Quiet (perform (.read id)) :=
  (quiet_read id).bind fun _ => silent_pure _

theorem quiet_perform_preflight (id : Nat) (before : Option Value) (patch : Patch) :
    Quiet (perform (.preflight id before patch)) :=
  (quiet_preflight id before patch).bind fun _ => silent_pure _

/-- One call keeps the discipline. -/
theorem perform_disciplined {opened session session' : Session} (h : Opened opened)
    (hopened : Remains opened session) {call : Call}
    {result : Except Failure (Option Readback)} {log : Log}
    (hcall : Logs (perform call) session result session' log) :
    Remains opened session' ∧ Disciplined opened call result log := by
  have hexperimental : session.model.experimental = true := by
    rw [hopened]
    exact h.experimental
  cases call with
  | apply id patch =>
    obtain ⟨r, happly, hr⟩ := perform_apply hcall
    rw [hr]
    exact Disciplined.of_applied hopened (apply_applied hexperimental happly)
  | read id => exact Disciplined.of_quiet hopened (by simp) (quiet_perform_read id) hcall
  | preflight id before patch =>
    exact Disciplined.of_quiet hopened (by simp) (quiet_perform_preflight id before patch) hcall

/-- A failed session stays failed, and sends nothing. -/
theorem failed_sends_nothing {session session' : Session}
    (hexperimental : session.model.experimental = true) (hfailed : session.n76_failed = true)
    {call : Call} {result : Except Failure (Option Readback)} {log : Log}
    (hcall : Logs (perform call) session result session' log) :
    session' = session ∧ attempted log = [] := by
  cases call with
  | apply id patch =>
    obtain ⟨r, happly, _⟩ := perform_apply hcall
    cases apply_applied hexperimental happly with
    | refused _ _ hnone => exact ⟨rfl, hnone⟩
    | sent _ hprepare _ _ _ _ =>
      rw [(prepare_ok hexperimental hprepare).1] at hfailed
      cases hfailed
    | lost _ hprepare _ _ =>
      rw [(prepare_ok hexperimental hprepare).1] at hfailed
      cases hfailed
  | read id => exact hcall.silent (quiet_perform_read id)
  | preflight id before patch => exact hcall.silent (quiet_perform_preflight id before patch)

abbrev SessionEntry : Type := Entry n76_io Session Call Failure (Option Readback)

/-- An `apply` that failed after its preparation was through. -/
def LostInWritePhase (entry : SessionEntry) : Prop :=
  ∃ id patch plan e before rest, entry.call = .apply id patch ∧ entry.result = .error e ∧
    entry.log = before ++ rest ∧ Logs (prepare id patch) entry.before (.ok plan) entry.before before

/-- It leaves a failed session. -/
theorem lost_marks {session session' : Session} {call : Call}
    {result : Except Failure (Option Readback)} {log : Log}
    (hexperimental : session.model.experimental = true)
    (hcall : Logs (perform call) session result session' log)
    (hlost : LostInWritePhase ⟨session, call, result, log⟩) : session'.n76_failed = true := by
  obtain ⟨id, patch, plan, e, before, rest, happly, hresult, hlog, hprepare⟩ := hlost
  simp only at happly hresult hlog hprepare
  subst happly
  obtain ⟨r, happly, hr⟩ := perform_apply hcall
  cases apply_applied hexperimental happly with
  | refused _ hrefused _ =>
    -- the same answers cannot both end the preparation and fail it
    rw [hlog] at hrefused
    have hnever := (hprepare.same hrefused).1
    cases hnever
  | sent _ _ _ hok _ _ =>
    rw [hr, hok] at hresult
    cases hresult
  | lost => rfl

/-- An N76 session is fail-stop: whatever is called on it, and whatever the
    calls meet, each of them is disciplined, and once an `apply` has failed in
    its write phase no later call sends a byte. -/
theorem session_fail_stop {opened last : Session} (h : Opened opened)
    {entries : List SessionEntry} (hhistory : History perform opened entries last) :
    (∀ entry ∈ entries, Disciplined opened entry.call entry.result entry.log) ∧
    ∀ earlier entry later, entries = earlier ++ entry :: later → LostInWritePhase entry →
      ∀ next ∈ later, attempted next.log = [] := by
  constructor
  · have hevery := hhistory.every (I := Remains opened)
      (P := fun entry => Disciplined opened entry.call entry.result entry.log)
      (fun c call result c' log hc hcall => perform_disciplined h hc hcall) rfl
    exact hevery.2
  · intro earlier entry later hentries hlost
    rw [hentries] at hhistory
    obtain ⟨middle, hfirst, hsecond⟩ := hhistory.split
    have hmiddle : Remains opened middle :=
      (hfirst.every (I := Remains opened) (P := fun _ => True)
        (fun c call result c' log hc hcall => ⟨(perform_disciplined h hc hcall).1, trivial⟩) rfl).1
    have hexperimental : ∀ session, Remains opened session → session.model.experimental = true := by
      intro session hsession
      rw [hsession]
      exact h.experimental
    cases hsecond with
    | @cons _ session₁ _ call result log _ hcall hlater =>
      have hremains := (perform_disciplined h hmiddle hcall).1
      have hfailed := lost_marks (hexperimental middle hmiddle) hcall hlost
      have hevery := hlater.every
        (I := fun session => Remains opened session ∧ session.n76_failed = true)
        (P := fun next => attempted next.log = []) ?_ ⟨hremains, hfailed⟩
      · exact hevery.2
      · intro session call result session' log hsession hcall
        obtain ⟨hsame, hnone⟩ :=
          failed_sends_nothing (hexperimental session hsession.1) hsession.2 hcall
        rw [hsame]
        exact ⟨hsession, hnone⟩

/-! ## A bus that refuses to be written -/

def dh2600_session : Session where
  identity := { profile := some dh2600.profile }
  model := dh2600
  access := ⟨true, true⟩
  locked := true
  chip_id := 0xa5b5
  n76_version := 7
  n76_failed := false

/-- Every read succeeds, and no write. -/
def refusing : (o : N76Op) → o.Ans
  | .owners => .ok ()
  | .lock => .ok ()
  | .read_identity => .ok dh2600_session.identity
  | .open_bus _ => .ok ()
  | .fstat => .ok ⟨true, 89, 1⟩
  | .functions => .ok byte_data
  | .read_byte reg => .ok (if reg = 0x5a then 0xa5 else if reg = 0x5b then 0xb5 else
      if reg = 0x5d then 7 else 0)
  | .write_byte _ _ => .error Errno.EIO
  | .pause_ms _ => ()

def refusing_bus : Prog.Handler n76_io Log := fun log o => (refusing o, log ++ [⟨o, refusing o⟩])

def refused_run {ε α : Type} (m : Proc n76_io Session ε α) (session : Session) :
    (Except ε α × Session) × Log :=
  Prog.exec refusing_bus (m.run session) []

theorem refused_logs {ε α : Type} (m : Proc n76_io Session ε α) (session : Session) :
    Logs m session (refused_run m session).1.1 (refused_run m session).1.2
      (refused_run m session).2 :=
  Prog.runs_exec (E := recorded n76_io) (h := refusing_bus) (fun _ _ => rfl) (m.run session) []

def disk_blinks : Call := .apply 1 orange_blink

def first_blink : (Except Failure (Option Readback) × Session) × Log :=
  refused_run (perform disk_blinks) dh2600_session

def second_blink : (Except Failure (Option Readback) × Session) × Log :=
  refused_run (perform disk_blinks) first_blink.1.2

/-- One byte is tried, and none behind it. -/
theorem session_fail_stop_refused :
    attempted first_blink.2 = [(0x54, 0)] ∧ attempted second_blink.2 = [] := by
  have hopened : Opened dh2600_session := ⟨by decide, by decide, rfl, rfl⟩
  have hhistory : History perform dh2600_session
      [⟨dh2600_session, disk_blinks, first_blink.1.1, first_blink.2⟩,
        ⟨first_blink.1.2, disk_blinks, second_blink.1.1, second_blink.2⟩] second_blink.1.2 :=
    .cons (refused_logs _ _) (.cons (refused_logs _ _) .nil)
  have hlost : LostInWritePhase
      ⟨dh2600_session, disk_blinks, first_blink.1.1, first_blink.2⟩ := by
    refine ⟨1, orange_blink, _, _, _, first_blink.2.drop 12, rfl, rfl, ?_,
      refused_logs (prepare 1 orange_blink) _⟩
    rfl
  refine ⟨by decide, ?_⟩
  exact (session_fail_stop hopened hhistory).2 [] _ _ rfl hlost _ (List.mem_singleton.mpr rfl)

end UgreenNas.Led.N76
