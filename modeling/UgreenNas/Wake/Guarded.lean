import UgreenNas.Wake.Cli

/-! # What a wake command may touch (`core/wake_cli.c`)

    Whatever the accesses answer, the hardware of a machine is only accessed
    once the machine was found in the table, and only written under the lock,
    with both options given and the same machine found again.
-/

namespace UgreenNas.Wake

open DiskMap Effect Effect.Proc
open Core (MachineIdentity)
open Network (Inventory WolPolicy wol_io)
open Power (AlarmCall RtcOp RtcProfile rtc_io)

abbrev WakeLog : Type := List (Event wake_io)

/-! ## Operations -/

def rtc_writes : RtcOp → Bool
  | .open_write _ => true
  | .write _ _ => true
  | _ => false

def net_writes : NetOp → Bool
  | .wol (.set _ _) => true
  | _ => false

/-- The hardware is written. -/
def WakeOp.writes : WakeOp → Bool
  | .rtc o => rtc_writes o
  | .net o => net_writes o
  | _ => false

/-- The hardware is looked at, or written. -/
def WakeOp.hardware : WakeOp → Bool
  | .rtc _ => true
  | .net _ => true
  | _ => false

theorem hardware_of_writes {o : WakeOp} (h : o.writes = true) : o.hardware = true := by
  cases o with
  | rtc o => rfl
  | net o => rfl
  | identity | time | open_lock | fstat_lock | flock | close_lock => cases h

/-- The lock is taken, or given back. -/
def locks : Event wake_io → Bool
  | ⟨.open_lock _, opened⟩ => opened
  | ⟨.close_lock, _⟩ => true
  | _ => false

theorem locks_of_hardware {e : Event wake_io} (h : e.1.hardware = true) : locks e = false := by
  obtain ⟨o, b⟩ := e
  cases o with
  | rtc o => rfl
  | net o => rfl
  | identity | time | open_lock | fstat_lock | flock | close_lock => cases h

/-- The lock is not taken; or it is, and given back at the end. -/
inductive Returned : WakeLog → Prop where
  | never {log : WakeLog} (hlog : ∀ e ∈ log, locks e = false) : Returned log
  | once {front middle : WakeLog} {path : Text} (hfront : ∀ e ∈ front, locks e = false)
      (hmiddle : ∀ e ∈ middle, locks e = false) :
      Returned (front ++ ⟨.open_lock path, true⟩ :: middle ++ [⟨.close_lock, ()⟩])

theorem Returned.cons {e : Event wake_io} {log : WakeLog} (he : locks e = false) (h : Returned log) :
    Returned (e :: log) := by
  cases h with
  | never hlog => exact .never (List.forall_mem_cons.mpr ⟨he, hlog⟩)
  | @once front middle path hfront hmiddle =>
    have hfront' : ∀ e' ∈ e :: front, locks e' = false := List.forall_mem_cons.mpr ⟨he, hfront⟩
    exact .once hfront' hmiddle

/-- The lock is taken first. -/
theorem Returned.opened {middle : WakeLog} {path : Text} (h : ∀ e ∈ middle, locks e = false) :
    Returned (⟨.open_lock path, true⟩ :: middle ++ [⟨.close_lock, ()⟩]) := by
  have hnone : ∀ e ∈ ([] : WakeLog), locks e = false := fun _ he => absurd he List.not_mem_nil
  exact .once hnone h

/-- Nothing was touched. -/
structure Idle (log : WakeLog) : Prop where
  harmless : ∀ e ∈ log, e.1.hardware = false
  returned : Returned log

theorem Idle.nil : Idle [] := ⟨fun _ he => absurd he List.not_mem_nil, .never fun _ he =>
  absurd he List.not_mem_nil⟩

theorem Idle.cons {e : Event wake_io} {log : WakeLog} (he : e.1.hardware = false ∧ locks e = false)
    (h : Idle log) : Idle (e :: log) :=
  ⟨List.forall_mem_cons.mpr ⟨he.1, h.harmless⟩, h.returned.cons he.2⟩

/-! ## The lock -/

variable {strerror : Errno → String} {first second : Inventory} {argv : List Text} {args : WakeArgs}
  {rtc : Bool} {memory : List UInt8} {c c' : Unit} {log : WakeLog}

/-- A lock that is obtained. -/
def taken (rtc : Bool) (st : LockStat) : WakeLog :=
  [⟨.open_lock (lock_path rtc), true⟩, ⟨.fstat_lock, some st⟩, ⟨.flock, true⟩]

theorem lock_trusted_logs {r : Except String Bool} (h : Logs lock_trusted c r c' log) :
    (r = .ok false ∧ ∀ e ∈ log, e.1.hardware = false ∧ locks e = false) ∨
      (r = .ok true ∧ ∃ st, st.trusted = true ∧ log = [⟨.fstat_lock, some st⟩, ⟨.flock, true⟩]) := by
  obtain ⟨st, rest, rfl, hrest⟩ := h.of_ask_then
  by_cases htrusted : st.any LockStat.trusted = true
  · rw [if_pos htrusted] at hrest
    obtain ⟨locked, rfl, -, rfl⟩ := hrest.of_ask
    cases locked with
    | false => exact .inl ⟨rfl, by simp [WakeOp.hardware, locks]⟩
    | true =>
      cases st with
      | none => cases htrusted
      | some st => exact .inr ⟨rfl, st, htrusted, rfl⟩
  · rw [if_neg htrusted] at hrest
    obtain ⟨rfl, -, rfl⟩ := hrest.of_pure
    exact .inl ⟨rfl, by simp [WakeOp.hardware, locks]⟩

theorem wake_lock_logs {r : Except String Unit} (h : Logs (wake_lock rtc) c r c' log) :
    ((∃ e, r = .error e) ∧ Idle log) ∨
      (r = .ok () ∧ ∃ st, st.trusted = true ∧ log = taken rtc st) := by
  obtain ⟨fd, rest, rfl, hrest⟩ := h.of_ask_then
  cases fd with
  | false =>
    obtain ⟨rfl, -, rfl⟩ := Logs.of_fail (e := lock_error rtc) hrest
    exact .inl ⟨⟨_, rfl⟩, by simp [WakeOp.hardware], .never (by simp [locks])⟩
  | true =>
    rw [bail_neg (by decide)] at hrest
    rcases hrest.of_bind with ⟨locked, c₁, checks, last, rfl, hchecks, hlast⟩ | ⟨e, rfl, hchecks⟩
    · rcases lock_trusted_logs hchecks with ⟨hlocked, hquiet⟩ | ⟨hlocked, st, htrusted, rfl⟩
      · obtain rfl := Except.ok.inj hlocked
        obtain ⟨_, rest, rfl, hfail⟩ := hlast.of_ask_then
        obtain ⟨rfl, -, rfl⟩ := hfail.of_fail
        refine .inl ⟨⟨_, rfl⟩, ?_, ?_⟩
        · intro e he
          rcases List.mem_cons.mp he with rfl | he
          · rfl
          rcases List.mem_append.mp he with he | he
          · exact (hquiet e he).1
          · rw [List.mem_singleton.mp he]
            rfl
        · exact Returned.opened fun e he => (hquiet e he).2
      · obtain rfl := Except.ok.inj hlocked
        obtain ⟨rfl, -, rfl⟩ := hlast.of_pure
        exact .inr ⟨rfl, st, htrusted, rfl⟩
    · rcases lock_trusted_logs hchecks with ⟨h, -⟩ | ⟨h, -⟩ <;> cases h

/-- What is seen in front of a write: the lock, and the machine again. -/
def locked (rtc : Bool) (st : LockStat) (memory : List UInt8) : WakeLog :=
  taken rtc st ++ [⟨.identity, .ok memory⟩]

theorem locked_write_logs {α : Type} {force : Bool} {operation : Cli α} {r : Except String α}
    (h : Logs (locked_write rtc force memory operation) c r c' log) :
    ((∃ e, r = .error e) ∧ Idle log) ∨
      (force = true ∧ ∃ st body, st.trusted = true ∧
        log = locked rtc st memory ++ body ++ [⟨.close_lock, ()⟩] ∧ Logs operation c r c' body) := by
  unfold locked_write at h
  cases force with
  | false =>
    obtain ⟨rfl, -, rfl⟩ := Logs.of_fail (e := "wake control is experimental; requires --force --apply") h
    exact .inl ⟨⟨_, rfl⟩, .nil⟩
  | true =>
    rw [bail_neg (by decide)] at h
    rcases h.of_bind with ⟨_, c₁, lock, rest, rfl, hlock, hrest⟩ | ⟨e, rfl, hlock⟩
    · rcases wake_lock_logs hlock with ⟨⟨e, he⟩, -⟩ | ⟨-, st, htrusted, rfl⟩
      · cases he
      obtain ⟨again, next, rfl, hagain⟩ := hrest.of_ask_then
      by_cases hsame : same_machine again memory = true
      · rw [if_pos hsame] at hagain
        obtain ⟨x, c₂, body, close, rfl, hbody, hclose⟩ := hagain.of_always
        have hclosed : close = [⟨.close_lock, ()⟩] ∧ r = x := by
          rcases hclose with ⟨hclose, hx⟩ | ⟨e, hclose, -⟩
          · obtain ⟨_, -, -, hlog⟩ := hclose.of_ask
            exact ⟨hlog, hx⟩
          · obtain ⟨_, hr, -⟩ := hclose.of_ask
            cases hr
        obtain ⟨rfl, rfl⟩ := hclosed
        cases again with
        | error e => cases hsame
        | ok found =>
          obtain rfl : found = memory := of_decide_eq_true hsame
          exact .inr ⟨rfl, st, body, htrusted, by simp [locked], hbody⟩
      · rw [if_neg hsame] at hagain
        obtain ⟨_, last, rfl, hfail⟩ := hagain.of_ask_then
        obtain ⟨rfl, -, rfl⟩ := hfail.of_fail
        refine .inl ⟨⟨_, rfl⟩, by simp [taken, WakeOp.hardware], ?_⟩
        have hmiddle : ∀ e ∈ ([⟨.fstat_lock, some st⟩, ⟨.flock, true⟩, ⟨.identity, again⟩] : WakeLog),
            locks e = false := by simp [locks]
        exact Returned.opened hmiddle
    · rcases wake_lock_logs hlock with ⟨-, hidle⟩ | ⟨hr, -⟩
      · exact .inl ⟨⟨_, rfl⟩, hidle⟩
      · cases hr

/-! ## The operations -/

/-- `body` is what a run of `m` wrote down, which succeeded if `ok`. -/
def Ran {S : Sig} {α : Type} (part : Part S wake_io) (m : Proc S Unit Led.Failure α) (ok : Prop)
    (body : WakeLog) : Prop :=
  ∃ x log, body = part.events log ∧ Logs m () x () log ∧ (ok → ∃ a, x = .ok a)

theorem ran_of_logs {S : Sig} {α : Type} {part : Part S wake_io} {m : Proc S Unit Led.Failure α}
    {f : Led.Failure → String} {r : Except String α} (h : Logs (mapError (m.via part) f) c r c' log) :
    Ran part m (∃ a, r = .ok a) log := by
  obtain ⟨x, rfl, hvia⟩ := h.of_translated
  obtain ⟨new, rfl, hnew⟩ := hvia.of_via
  refine ⟨x, new, rfl, hnew, ?_⟩
  intro hok
  cases x with
  | ok a => exact ⟨a, rfl⟩
  | error e =>
    obtain ⟨a, ha⟩ := hok
    cases ha

theorem Ran.mono {S : Sig} {α : Type} {part : Part S wake_io} {m : Proc S Unit Led.Failure α}
    {ok ok' : Prop} (h : Ran part m ok log) (himp : ok' → ok) : Ran part m ok' log := by
  obtain ⟨x, new, hlog, hnew, hok⟩ := h
  exact ⟨x, new, hlog, hnew, fun h => hok (himp h)⟩

/-- What a log of the part keeps to, its events keep to. -/
theorem Ran.all {S : Sig} {α : Type} {part : Part S wake_io} {m : Proc S Unit Led.Failure α}
    {ok : Prop} {P : S.Op → Prop} (h : Ran part m ok log) (hm : Asks P m) {e : Event wake_io}
    (he : e ∈ log) : ∃ o, P o ∧ e.1 = part.op o := by
  obtain ⟨x, new, rfl, hnew, -⟩ := h
  obtain ⟨e', he', rfl⟩ := Part.mem_events.mp he
  exact ⟨e'.1, hm.log hnew e' he', rfl⟩

/-! ## The commands -/

/-- What the arguments ask for. -/
structure Requested (argv : List Text) (rtc : Bool) (args : WakeArgs) (request : WakeRequest) :
    Prop where
  subsystem : find_subsystem argv = some rtc
  parsed : parse_args {} argv = .ok args
  request : wake_request rtc args = .ok request

/-- The machine has one entry in the table, and `--model` names no other. -/
structure Mapped {α : Type} (table : List α) (key : α → ModelKey) (args : WakeArgs)
    (identity : MachineIdentity) (entry : α) : Prop where
  listed : entry ∈ table
  fits : (key entry).fits identity = true
  only : ∀ other ∈ table, (key other).fits identity = true → other = entry
  model : model_option_matches args.model (key entry).id (key entry).product = true

/-- The alarm that is to be written. -/
def RtcRequest.call : RtcRequest → Option AlarmCall
  | .get => none
  | .set epoch => some (.set epoch)
  | .clear => some .clear

def WolRequest.write : WolRequest → Bool
  | .get => false
  | .set _ => true

def WakeRequest.write : WakeRequest → Bool
  | .models => false
  | .rtc request => request.call.isSome
  | .wol request => request.write

/-- A command did its operation, for the entry of the machine. -/
inductive Performs (strerror : Errno → String) (first second : Inventory) (args : WakeArgs)
    (identity : MachineIdentity) (ok : Prop) : WakeRequest → WakeLog → Prop where
  | rtc_read {entry : RtcEntry} {body : WakeLog}
      (hentry : Mapped rtc_profiles RtcEntry.key args identity entry)
      (hran : Ran rtc_part (wake_read strerror entry.profile) ok body) :
      Performs strerror first second args identity ok (.rtc .get) body
  | rtc_write {entry : RtcEntry} {request : RtcRequest} {call : AlarmCall} {body : WakeLog}
      (hcall : request.call = some call)
      (hentry : Mapped rtc_profiles RtcEntry.key args identity entry)
      (hran : Ran rtc_part (call.perform strerror entry.profile) ok body) :
      Performs strerror first second args identity ok (.rtc request) body
  | wol {entry : WolEntry} {request : WolRequest} {body : WakeLog}
      (hentry : Mapped wol_profiles WolEntry.key args identity entry)
      (hran : Ran net_part (wol_operation strerror first second entry args.interface request) ok body) :
      Performs strerror first second args identity ok (.wol request) body

/-- A success of which the hardware knows nothing. -/
def Dry (args : WakeArgs) (request : WakeRequest) : Prop :=
  request = .models ∨ (request.write = true ∧ args.apply = false)

/-- What a run of a command comes to. -/
inductive Conduct (strerror : Errno → String) (first second : Inventory) (rtc : Bool)
    (args : WakeArgs) (request : WakeRequest) (ok : Prop) : WakeLog → Prop where
  | idle {log : WakeLog} (hidle : Idle log) (hdry : ok → Dry args request) :
      Conduct strerror first second rtc args request ok log
  | read {memory : List UInt8} {body : WakeLog} (hread : request.write = false)
      (hperforms : Performs strerror first second args (identity_of memory) ok request body) :
      Conduct strerror first second rtc args request ok (⟨.identity, .ok memory⟩ :: body)
  | write {memory : List UInt8} {st : LockStat} {checks body : WakeLog} (happly : args.apply = true)
      (hforce : args.force = true) (htrusted : st.trusted = true)
      (hchecks : ∀ e ∈ checks, e.1 = .time)
      (hperforms : Performs strerror first second args (identity_of memory) ok request body) :
      Conduct strerror first second rtc args request ok
        (⟨.identity, .ok memory⟩ :: checks ++ locked rtc st memory ++ body ++ [⟨.close_lock, ()⟩])

section commands

theorem Performs.mono {identity : MachineIdentity} {ok ok' : Prop} {request : WakeRequest}
    (h : Performs strerror first second args identity ok request log) (himp : ok' → ok) :
    Performs strerror first second args identity ok' request log := by
  cases h with
  | rtc_read hentry hran => exact .rtc_read hentry (hran.mono himp)
  | rtc_write hcall hentry hran => exact .rtc_write hcall hentry (hran.mono himp)
  | wol hentry hran => exact .wol hentry (hran.mono himp)

theorem Conduct.mono {request : WakeRequest} {ok ok' : Prop}
    (h : Conduct strerror first second rtc args request ok log) (himp : ok' → ok) :
    Conduct strerror first second rtc args request ok' log := by
  cases h with
  | idle hidle hdry => exact .idle hidle fun hok => hdry (himp hok)
  | read hread hperforms => exact .read hread (hperforms.mono himp)
  | write happly hforce htrusted hchecks hperforms =>
    exact .write happly hforce htrusted hchecks (hperforms.mono himp)

theorem identity_read_logs {r : Except String (List UInt8)}
    (h : Logs (identity_read strerror) c r c' log) :
    ∃ read, log = [⟨.identity, read⟩] ∧ ∀ memory, r = .ok memory → read = .ok memory := by
  obtain ⟨read, rest, rfl, hrest⟩ := h.of_ask_then
  obtain ⟨rfl, -, rfl⟩ := hrest.of_lift
  refine ⟨read, rfl, ?_⟩
  intro memory hmemory
  cases read with
  | error e => cases hmemory
  | ok found =>
    cases hmemory
    rfl

theorem select_entry_logs {α : Type} {entry : Option α} {key : α → ModelKey} {model : Option Text}
    {unmapped other : String} {r : Except String α}
    (h : Logs (select_entry entry key model unmapped other) c r c' log) :
    log = [] ∧ ∀ found, r = .ok found →
      entry = some found ∧ model_option_matches model (key found).id (key found).product = true := by
  cases entry with
  | none =>
    obtain ⟨rfl, -, rfl⟩ := Logs.of_fail (e := unmapped) h
    exact ⟨rfl, fun _ h => by cases h⟩
  | some entry =>
    unfold select_entry at h
    dsimp only at h
    by_cases hmodel : model_option_matches model (key entry).id (key entry).product = false
    · rw [bail_pos hmodel] at h
      obtain ⟨rfl, -, rfl⟩ := h.of_fail
      exact ⟨rfl, fun _ h => by cases h⟩
    · rw [bail_neg hmodel] at h
      obtain ⟨rfl, -, rfl⟩ := h.of_pure
      refine ⟨rfl, ?_⟩
      intro found hfound
      obtain rfl := Except.ok.inj hfound
      exact ⟨rfl, by simpa using hmodel⟩

/-- A write that is not a dry run goes through the lock. -/
theorem written_logs {α : Type} {operation : Cli α} {line : α → String} {r : Except String String}
    (h : Logs (write_request args.apply (locked_write rtc args.force memory operation >>= fun a =>
      pure (line a))) c r c' log) :
    (Idle log ∧ ((∃ l, r = .ok l) → args.apply = false)) ∨
      (args.apply = true ∧ args.force = true ∧ ∃ st body x c₁, st.trusted = true ∧
        log = locked rtc st memory ++ body ++ [⟨.close_lock, ()⟩] ∧ Logs operation c x c₁ body ∧
          ((∃ l, r = .ok l) → ∃ a, x = .ok a)) := by
  unfold write_request at h
  by_cases happly : args.apply = true
  · rw [if_pos happly] at h
    have hlocked : ∃ x c₁, Logs (locked_write rtc args.force memory operation) c x c₁ log ∧
        ((∃ l, r = .ok l) → ∃ a, x = .ok a) := by
      rcases h.of_bind with ⟨a, c₁, whole, rest, rfl, hwhole, hrest⟩ | ⟨e, rfl, hwhole⟩
      · obtain ⟨rfl, -, rfl⟩ := hrest.of_pure
        rw [List.append_nil]
        exact ⟨.ok a, c₁, hwhole, fun _ => ⟨a, rfl⟩⟩
      · exact ⟨.error e, c', hwhole, fun ⟨l, hl⟩ => by cases hl⟩
    obtain ⟨x, c₁, hwhole, hok⟩ := hlocked
    rcases locked_write_logs hwhole with ⟨⟨e, rfl⟩, hidle⟩ | ⟨hforce, st, body, htrusted, hlog, hbody⟩
    · refine .inl ⟨hidle, ?_⟩
      intro hr
      obtain ⟨a, ha⟩ := hok hr
      cases ha
    · exact .inr ⟨happly, hforce, st, body, x, c₁, htrusted, hlog, hbody, hok⟩
  · rw [if_neg happly] at h
    obtain ⟨rfl, -, rfl⟩ := h.of_pure
    exact .inl ⟨.nil, fun _ => by simpa using happly⟩

/-- What is asked before a machine is found is none of its hardware. -/
theorem idle_identity {read : Except Core.Failure (List UInt8)} (h : Idle log) :
    Idle (⟨.identity, read⟩ :: log) :=
  h.cons ⟨rfl, rfl⟩

theorem mapped_of_rtc {entry : RtcEntry} {identity : MachineIdentity}
    (h : rtc_match identity = some entry)
    (hmodel : model_option_matches args.model entry.key.id entry.key.product = true) :
    Mapped rtc_profiles RtcEntry.key args identity entry where
  listed := (rtc_match_iff.mp h).1
  fits := (rtc_match_iff.mp h).2
  only := by
    intro other hlisted hfits
    have hother := rtc_match_iff.mpr ⟨hlisted, hfits⟩
    exact Option.some.inj (hother.symm.trans h)
  model := hmodel

theorem mapped_of_wol {entry : WolEntry} {identity : MachineIdentity}
    (h : wol_match identity = some entry)
    (hmodel : model_option_matches args.model entry.key.id entry.key.product = true) :
    Mapped wol_profiles WolEntry.key args identity entry where
  listed := (wol_match_iff.mp h).1
  fits := (wol_match_iff.mp h).2
  only := by
    intro other hlisted hfits
    have hother := wol_match_iff.mpr ⟨hlisted, hfits⟩
    exact Option.some.inj (hother.symm.trans h)
  model := hmodel

/-- Both commands begin with the identity and its entry. -/
theorem found_logs {α β : Type} {table : MachineIdentity → Option α} {key : α → ModelKey}
    {unmapped other : String} {f : List UInt8 → α → Cli β} {r : Except String β}
    (h : Logs (identity_read strerror >>= fun memory =>
      select_entry (table (identity_of memory)) key args.model unmapped other >>= f memory) c r c' log) :
    ((∃ e, r = .error e) ∧ Idle log) ∨
      ∃ memory entry c₁ rest, log = ⟨.identity, .ok memory⟩ :: rest ∧
        table (identity_of memory) = some entry ∧
        model_option_matches args.model (key entry).id (key entry).product = true ∧
        Logs (f memory entry) c₁ r c' rest := by
  rcases h.of_bind with ⟨memory, c₁, one, rest, rfl, hread, hrest⟩ | ⟨e, rfl, hread⟩
  · obtain ⟨read, rfl, hmemory⟩ := identity_read_logs hread
    obtain rfl := hmemory memory rfl
    rcases hrest.of_bind with ⟨entry, c₂, two, last, rfl, hselect, hlast⟩ | ⟨e, rfl, hselect⟩
    · obtain ⟨rfl, hentry⟩ := select_entry_logs hselect
      obtain ⟨htable, hmodel⟩ := hentry entry rfl
      exact .inr ⟨memory, entry, c₂, last, rfl, htable, hmodel, hlast⟩
    · obtain ⟨rfl, -⟩ := select_entry_logs hselect
      exact .inl ⟨⟨e, rfl⟩, idle_identity .nil⟩
  · obtain ⟨read, rfl, -⟩ := identity_read_logs hread
    exact .inl ⟨⟨e, rfl⟩, idle_identity .nil⟩

theorem check_epoch_logs {profile : RtcProfile} {epoch : Nat} {r : Except String Unit}
    (h : Logs (check_epoch strerror profile epoch) c r c' log) : ∃ now, log = [⟨.time, now⟩] := by
  obtain ⟨now, rest, rfl, hrest⟩ := h.of_ask_then
  obtain ⟨-, -, rfl⟩ := hrest.of_lift
  exact ⟨now, rfl⟩

/-- A write of the alarm, behind the checks of its epoch. -/
theorem rtc_written_logs {request : RtcRequest} {call : AlarmCall} {entry : RtcEntry} {line : String}
    {checks : WakeLog} {r : Except String String} (hcall : request.call = some call)
    (hentry : Mapped rtc_profiles RtcEntry.key args (identity_of memory) entry)
    (hchecks : ∀ e ∈ checks, e.1 = .time)
    (h : Logs (write_request args.apply (locked_write true args.force memory
      (rtc_operation strerror (call.perform strerror entry.profile)) >>= fun _ => pure line)) c r c' log) :
    Conduct strerror first second true args (.rtc request) (∃ l, r = .ok l)
      (⟨.identity, .ok memory⟩ :: checks ++ log) := by
  have hwrites : WakeRequest.write (.rtc request) = true := by
    show request.call.isSome = true
    rw [hcall]
    rfl
  rcases written_logs h with ⟨hidle, hdry⟩ | ⟨happly, hforce, st, body, x, c₁, htrusted, rfl, hbody, hok⟩
  · apply Conduct.idle
    · apply idle_identity
      clear hdry h
      induction checks with
      | nil => exact hidle
      | cons e rest ih =>
        obtain ⟨he, hrest⟩ := List.forall_mem_cons.mp hchecks
        obtain ⟨o, b⟩ := e
        obtain rfl : o = .time := he
        exact (ih hrest).cons ⟨rfl, rfl⟩
    · exact fun hr => .inr ⟨hwrites, hdry hr⟩
  · have hran := (ran_of_logs hbody).mono hok
    have hperforms : Performs strerror first second args (identity_of memory) (∃ l, r = .ok l)
        (.rtc request) body := .rtc_write hcall hentry hran
    have hconduct : Conduct strerror first second true args (.rtc request) (∃ l, r = .ok l) _ :=
      .write happly hforce htrusted hchecks hperforms
    simpa only [List.append_assoc] using hconduct

theorem rtc_command_logs {request : RtcRequest} {r : Except String String}
    (h : Logs (rtc_command strerror args request) c r c' log) :
    Conduct strerror first second true args (.rtc request) (∃ l, r = .ok l) log := by
  rcases found_logs h with ⟨⟨e, rfl⟩, hidle⟩ | ⟨memory, entry, c₁, rest, rfl, htable, hmodel, hrest⟩
  · exact .idle hidle fun ⟨l, hl⟩ => by cases hl
  have hentry := mapped_of_rtc htable hmodel
  cases request with
  | get =>
    apply Conduct.read rfl
    rcases hrest.of_bind with ⟨epoch, c₂, body, last, rfl, hbody, hlast⟩ | ⟨e, rfl, hbody⟩
    · obtain ⟨-, -, rfl⟩ := hlast.of_pure
      rw [List.append_nil]
      exact .rtc_read hentry ((ran_of_logs hbody).mono fun _ => ⟨epoch, rfl⟩)
    · exact .rtc_read hentry ((ran_of_logs hbody).mono fun ⟨l, hl⟩ => by cases hl)
  | set epoch =>
    rcases hrest.of_bind with ⟨_, c₂, checks, last, rfl, hchecks, hlast⟩ | ⟨e, rfl, hchecks⟩
    · obtain ⟨now, rfl⟩ := check_epoch_logs hchecks
      exact rtc_written_logs rfl hentry (by simp) hlast
    · obtain ⟨now, rfl⟩ := check_epoch_logs hchecks
      refine .idle (idle_identity (Idle.nil.cons ⟨rfl, rfl⟩)) ?_
      exact fun ⟨l, hl⟩ => by cases hl
  | clear =>
    have hnone : ∀ e ∈ ([] : WakeLog), e.1 = .time := fun _ he => absurd he List.not_mem_nil
    exact rtc_written_logs rfl hentry hnone hrest

theorem wol_command_logs {request : WolRequest} {r : Except String String}
    (h : Logs (wol_command strerror first second args request) c r c' log) :
    Conduct strerror first second false args (.wol request) (∃ l, r = .ok l) log := by
  rcases found_logs h with ⟨⟨e, rfl⟩, hidle⟩ | ⟨memory, entry, c₁, rest, rfl, htable, hmodel, hrest⟩
  · exact .idle hidle fun ⟨l, hl⟩ => by cases hl
  have hentry := mapped_of_wol htable hmodel
  by_cases hnamed : args.interface = none ∧ entry.automatic_pci_count = 0
  · rw [bail_pos hnamed] at hrest
    obtain ⟨rfl, -, rfl⟩ := hrest.of_fail
    exact .idle (idle_identity .nil) fun ⟨l, hl⟩ => by cases hl
  rw [bail_neg hnamed] at hrest
  cases request with
  | get =>
    apply Conduct.read rfl
    rcases hrest.of_bind with ⟨policy, c₂, body, last, rfl, hbody, hlast⟩ | ⟨e, rfl, hbody⟩
    · obtain ⟨-, -, rfl⟩ := hlast.of_pure
      rw [List.append_nil]
      exact .wol hentry ((ran_of_logs hbody).mono fun _ => ⟨policy, rfl⟩)
    · exact .wol hentry ((ran_of_logs hbody).mono fun ⟨l, hl⟩ => by cases hl)
  | set policy =>
    rcases written_logs hrest with
      ⟨hidle, hdry⟩ | ⟨happly, hforce, st, body, x, c₂, htrusted, rfl, hbody, hok⟩
    · exact .idle (idle_identity hidle) fun hr => .inr ⟨rfl, hdry hr⟩
    · have hran := (ran_of_logs hbody).mono hok
      have hnone : ∀ e ∈ ([] : WakeLog), e.1 = .time := fun _ he => absurd he List.not_mem_nil
      have hconduct : Conduct strerror first second false args (.wol (.set policy)) (∃ l, r = .ok l) _ :=
        .write happly hforce htrusted hnone (.wol hentry hran)
      simpa only [List.append_assoc, List.cons_append, List.nil_append] using hconduct

/-- The request is one of the subsystem. -/
theorem action_kind {action : Text} {operands : List Text} {request : WakeRequest}
    (h : wake_action rtc action operands = .ok request) :
    (rtc = true ∧ ∃ q, request = .rtc q) ∨ (rtc = false ∧ ∃ q, request = .wol q) := by
  unfold wake_action at h
  split at h
  · split at h
    · next value =>
      cases rtc with
      | true =>
        cases hepoch : parse_epoch value with
        | error e => simp [hepoch, Except.map] at h
        | ok epoch =>
          simp only [hepoch, Except.map, if_true] at h
          exact .inl ⟨rfl, _, (Except.ok.inj h).symm⟩
      | false =>
        cases hpolicy : parse_policy value with
        | error e => simp [hpolicy, Except.map] at h
        | ok policy =>
          simp only [hpolicy, Except.map, Bool.false_eq_true, if_false] at h
          exact .inr ⟨rfl, _, (Except.ok.inj h).symm⟩
    · cases h
  · split at h
    · next hclear => exact .inl ⟨hclear.1, _, (Except.ok.inj h).symm⟩
    · split at h
      · cases rtc with
        | true => exact .inl ⟨rfl, _, (Except.ok.inj h).symm⟩
        | false => exact .inr ⟨rfl, _, (Except.ok.inj h).symm⟩
      · cases h

theorem request_kind {request : WakeRequest} (h : wake_request rtc args = .ok request) :
    request = .models ∨ (rtc = true ∧ ∃ q, request = .rtc q) ∨ (rtc = false ∧ ∃ q, request = .wol q) := by
  unfold wake_request at h
  split at h
  · cases h
  · split at h
    · split at h
      · split at h
        · cases h
        · exact .inl (Except.ok.inj h).symm
      · exact .inr (action_kind h)
    · cases h

/-- A run of the program does nothing, or what the arguments ask for. -/
theorem wake_cli_logs {r : Except String (Option (List String))}
    (h : Logs (wake_cli strerror first second argv) c r c' log) :
    (log = [] ∧ ∀ lines, r ≠ .ok (some lines)) ∨
      ∃ rtc args request, Requested argv rtc args request ∧
        Conduct strerror first second rtc args request (∃ lines, r = .ok (some lines)) log := by
  unfold wake_cli at h
  cases hsubsystem : find_subsystem argv with
  | none =>
    rw [hsubsystem] at h
    obtain ⟨rfl, -, rfl⟩ := Logs.of_pure (a := none) h
    exact .inl ⟨rfl, fun lines h => by cases h⟩
  | some rtc =>
    rw [hsubsystem] at h
    rcases h.of_lift_cases with ⟨args, hparsed, h⟩ | ⟨⟨e, rfl⟩, rfl⟩
    · rcases h.of_lift_cases with ⟨request, hrequest, h⟩ | ⟨⟨e, rfl⟩, rfl⟩
      · have hrequested : Requested argv rtc args request := ⟨hsubsystem, hparsed, hrequest⟩
        refine .inr ⟨rtc, args, request, hrequested, ?_⟩
        obtain rfl | ⟨rfl, q, rfl⟩ | ⟨rfl, q, rfl⟩ := request_kind hrequest
        · obtain ⟨rfl, -, rfl⟩ := Logs.of_pure (a := some _) h
          exact .idle .nil fun _ => .inl rfl
        · rcases h.of_bind with ⟨line, c₁, body, last, rfl, hbody, hlast⟩ | ⟨e, rfl, hbody⟩
          · obtain ⟨rfl, -, rfl⟩ := hlast.of_pure
            rw [List.append_nil]
            exact (rtc_command_logs hbody).mono fun _ => ⟨line, rfl⟩
          · exact (rtc_command_logs hbody).mono fun ⟨lines, hlines⟩ => by cases hlines
        · rcases h.of_bind with ⟨line, c₁, body, last, rfl, hbody, hlast⟩ | ⟨e, rfl, hbody⟩
          · obtain ⟨rfl, -, rfl⟩ := hlast.of_pure
            rw [List.append_nil]
            exact (wol_command_logs hbody).mono fun _ => ⟨line, rfl⟩
          · exact (wol_command_logs hbody).mono fun ⟨lines, hlines⟩ => by cases hlines
      · exact .inl ⟨rfl, fun lines h => by cases h⟩
    · exact .inl ⟨rfl, fun lines h => by cases h⟩

end commands

/-! ## Reading -/

theorem asks_wake_read {profile : RtcProfile} :
    Asks (S := rtc_io) (fun o => rtc_writes o = false) (wake_read strerror profile) := by
  have hio : ∀ {o : RtcOp}, rtc_writes o = false →
      Asks (S := rtc_io) (fun o => rtc_writes o = false) (Power.io o) := fun ho => asks_ask ho
  have hselect : Asks (S := rtc_io) (fun o => rtc_writes o = false)
      (Power.select_at strerror "/sys".toList profile PATH_MAX) :=
    (asks_bail _ _).bind fun _ => (hio rfl).bind fun _ => (asks_lift _).bind fun _ => asks_lift _
  exact hselect.bind fun _ => (hio rfl).bind fun _ => (asks_lift _).bind fun _ =>
    (hio rfl).bind fun _ => (asks_lift _).bind fun _ => asks_lift _

theorem asks_wol_read {entry : WolEntry} {interface : Option Text} :
    Asks (S := net_io) (fun o => net_writes o = false)
      (wol_operation strerror first second entry interface .get) := by
  have hio : ∀ {o : NetOp}, net_writes o = false →
      Asks (S := net_io) (fun o => net_writes o = false) (net o) := fun ho => asks_ask ho
  cases interface with
  | some name =>
    have hidentity : Asks (S := net_io) (fun o => net_writes o = false) (read_identity entry name) :=
      (hio rfl).bind fun _ => asks_lift _
    have hask : ∀ before index, Asks (S := net_io) (fun o => net_writes o = false)
        (ask_interface entry name false .unknown before index) :=
      fun _ _ => (hio rfl).bind fun _ => (asks_lift _).bind fun _ => (asks_bail _ _).bind fun _ =>
        asks_pure _
    exact (asks_bail _ _).bind fun _ => hidentity.bind fun before => (hio rfl).bind fun index =>
      (asks_bail _ _).bind fun _ => (hio rfl).bind fun _ => (asks_lift _).bind fun _ =>
        (hask before index).attempt.bind fun _ => (hio rfl).bind fun _ => asks_lift _
  | none =>
    have hio : ∀ {o : Network.WolOp}, net_writes (.wol o) = false →
        Asks (S := wol_io) (fun o => net_writes (.wol o) = false) (Network.io o) := fun ho => asks_ask ho
    have hquery : ∀ interface, Asks (S := wol_io) (fun o => net_writes (.wol o) = false)
        (Network.query_interface strerror interface) :=
      fun _ => (hio rfl).bind fun _ => (asks_lift _).bind fun _ => (asks_bail _ _).bind fun _ =>
        asks_pure _
    have hobserve : ∀ observed interface, Asks (S := wol_io) (fun o => net_writes (.wol o) = false)
        (Network.observe strerror observed interface) :=
      fun _ interface => (hquery interface).bind fun _ => (asks_bail _ _).bind fun _ => asks_pure _
    have hopen : Asks (S := wol_io) (fun o => net_writes (.wol o) = false)
        (Network.open_socket strerror) :=
      (hio rfl).bind fun _ => asks_lift _
    have hread : Asks (S := wol_io) (fun o => net_writes (.wol o) = false)
        (Network.read_policy_with_renamed_count strerror first stock entry.automatic_pci_count) :=
      (asks_bail _ _).bind fun _ => (asks_lift _).bind fun _ => hopen.bind fun _ =>
        (asks_fold hobserve).always (hio rfl)
    exact hread.via fun _ ho => ho

/-- The body of a command is hardware only. -/
theorem Performs.hardware {identity : MachineIdentity} {ok : Prop} {request : WakeRequest}
    (h : Performs strerror first second args identity ok request log) :
    ∀ e ∈ log, e.1.hardware = true := by
  intro e he
  cases h with
  | rtc_read hentry hran =>
    obtain ⟨o, -, ho⟩ := hran.all asks_wake_read he
    rw [ho]
    rfl
  | rtc_write hcall hentry hran =>
    obtain ⟨x, new, rfl, -, -⟩ := hran
    obtain ⟨e', -, rfl⟩ := Part.mem_events.mp he
    rfl
  | wol hentry hran =>
    obtain ⟨x, new, rfl, -, -⟩ := hran
    obtain ⟨e', -, rfl⟩ := Part.mem_events.mp he
    rfl

/-- A request that is none to write writes nothing. -/
theorem Performs.reads {identity : MachineIdentity} {ok : Prop} {request : WakeRequest}
    (h : Performs strerror first second args identity ok request log) (hread : request.write = false) :
    ∀ e ∈ log, e.1.writes = false := by
  intro e he
  cases h with
  | rtc_read hentry hran =>
    obtain ⟨o, ho, heq⟩ := hran.all asks_wake_read he
    rw [heq]
    exact ho
  | @rtc_write entry request call body hcall hentry hran =>
    have hsome : request.call.isSome = false := hread
    rw [hcall] at hsome
    cases hsome
  | @wol entry request body hentry hran =>
    cases request with
    | set policy => cases hread
    | get =>
      obtain ⟨o, ho, heq⟩ := hran.all asks_wol_read he
      rw [heq]
      exact ho

/-! ## The result -/

/-- The machine of an identity that was read has one entry in the table. -/
def Known (rtc : Bool) (args : WakeArgs) (memory : List UInt8) : Prop :=
  if rtc then ∃ entry, Mapped rtc_profiles RtcEntry.key args (identity_of memory) entry
  else ∃ entry, Mapped wol_profiles WolEntry.key args (identity_of memory) entry

/-- What is behind an access of the hardware. -/
structure Identified (argv : List Text) (before : WakeLog) : Prop where
  behind : ∃ rtc args memory rest, find_subsystem argv = some rtc ∧ parse_args {} argv = .ok args ∧
    before = ⟨.identity, .ok memory⟩ :: rest ∧ Known rtc args memory

/-- What is behind a write: both options, a machine that is known, the lock,
    and the same machine once more; and then nothing but the hardware. -/
structure Authorised (argv : List Text) (before : WakeLog) : Prop where
  behind : ∃ rtc args memory checks st body, find_subsystem argv = some rtc ∧
    parse_args {} argv = .ok args ∧ args.apply = true ∧ args.force = true ∧
    before = ⟨.identity, .ok memory⟩ :: checks ++ locked rtc st memory ++ body ∧
    Known rtc args memory ∧ st.trusted = true ∧ (∀ e ∈ checks, e.1 = .time) ∧
    ∀ e ∈ body, e.1.hardware = true

/-- What a run keeps to. -/
structure Guarded (argv : List Text) (log : WakeLog) : Prop where
  identified : ∀ before e after, log = before ++ e :: after → e.1.hardware = true →
    Identified argv before
  authorised : ∀ before e after, log = before ++ e :: after → e.1.writes = true →
    Authorised argv before
  returned : Returned log

theorem Performs.known {ok : Prop} {request : WakeRequest}
    (h : Performs strerror first second args (identity_of memory) ok request log)
    (hrequest : wake_request rtc args = .ok request) : Known rtc args memory := by
  have hkind := request_kind hrequest
  unfold Known
  cases h with
  | rtc_read hentry hran =>
    obtain h | ⟨rfl, -⟩ | ⟨-, q, h⟩ := hkind
    · cases h
    · exact ⟨_, hentry⟩
    · cases h
  | rtc_write hcall hentry hran =>
    obtain h | ⟨rfl, -⟩ | ⟨-, q, h⟩ := hkind
    · cases h
    · exact ⟨_, hentry⟩
    · cases h
  | wol hentry hran =>
    obtain h | ⟨-, q, h⟩ | ⟨rfl, -⟩ := hkind
    · cases h
    · cases h
    · exact ⟨_, hentry⟩

/-- An element that is neither in front of the middle nor behind it. -/
theorem middle_of_append {α : Type} {front middle back before after : List α} {e : α}
    (h : front ++ middle ++ back = before ++ e :: after) (hfront : e ∉ front) (hback : e ∉ back) :
    ∃ middle₁ middle₂, before = front ++ middle₁ ∧ middle = middle₁ ++ e :: middle₂ := by
  -- behind the front, and in front of the back
  have hlast : ∀ {m : List α}, middle ++ back = m ++ e :: after →
      ∃ middle₂, middle = m ++ e :: middle₂ := by
    intro m hm
    rcases List.append_eq_append_iff.mp hm with ⟨n, -, hback'⟩ | ⟨n, hmiddle, hafter⟩
    · exact absurd (by simp [hback']) hback
    · cases n with
      | nil =>
        have hback' : back = e :: after := hafter.symm
        exact absurd (by simp [hback']) hback
      | cons x n =>
        obtain ⟨rfl, -⟩ := List.cons.inj hafter
        exact ⟨n, hmiddle⟩
  rw [List.append_assoc] at h
  rcases List.append_eq_append_iff.mp h with ⟨m, hbefore, hrest⟩ | ⟨m, hfront', hrest⟩
  · obtain ⟨middle₂, hmiddle⟩ := hlast hrest
    exact ⟨m, middle₂, hbefore, hmiddle⟩
  · cases m with
    | nil =>
      obtain ⟨middle₂, hmiddle⟩ := hlast (m := []) hrest.symm
      exact ⟨[], middle₂, by simpa using hfront'.symm, hmiddle⟩
    | cons x m =>
      obtain ⟨rfl, -⟩ := List.cons.inj hrest
      exact absurd (by simp [hfront']) hfront

theorem Conduct.guarded {request : WakeRequest} {ok : Prop}
    (h : Conduct strerror first second rtc args request ok log)
    (hrequested : Requested argv rtc args request) : Guarded argv log := by
  cases h with
  | idle hidle hdry =>
    have hnone : ∀ before e after, log = before ++ e :: after → e.1.hardware = false := by
      intro before e after hlog
      exact hidle.harmless e (by simp [hlog])
    refine ⟨?_, ?_, hidle.returned⟩
    · intro before e after hlog he
      rw [hnone before e after hlog] at he
      cases he
    · intro before e after hlog he
      have he := hardware_of_writes he
      rw [hnone before e after hlog] at he
      cases he
  | @read memory body hread hperforms =>
    have hbody : ∀ before e after, ⟨.identity, .ok memory⟩ :: body = before ++ e :: after →
        e.1.hardware = true → ∃ rest, before = ⟨.identity, .ok memory⟩ :: rest ∧ e ∈ body := by
      intro before e after hlog he
      cases before with
      | nil =>
        obtain ⟨rfl, -⟩ := List.cons.inj hlog
        cases he
      | cons x rest =>
        obtain ⟨rfl, hrest⟩ := List.cons.inj hlog
        exact ⟨rest, rfl, by simp [hrest]⟩
    refine ⟨?_, ?_, .never ?_⟩
    · intro before e after hlog he
      obtain ⟨rest, rfl, -⟩ := hbody before e after hlog he
      exact ⟨rtc, args, memory, rest, hrequested.subsystem, hrequested.parsed, rfl,
        hperforms.known hrequested.request⟩
    · intro before e after hlog he
      obtain ⟨rest, -, hmem⟩ := hbody before e after hlog (hardware_of_writes he)
      rw [hperforms.reads hread e hmem] at he
      cases he
    · exact List.forall_mem_cons.mpr ⟨rfl, fun e he => locks_of_hardware (hperforms.hardware e he)⟩
  | @write memory st checks body happly hforce htrusted hchecks hperforms =>
    have hfront : ∀ e ∈ ⟨.identity, .ok memory⟩ :: checks ++ locked rtc st memory,
        e.1.hardware = false := by
      intro e he
      rcases List.mem_append.mp he with he | he
      · rcases List.mem_cons.mp he with rfl | he
        · rfl
        · rw [hchecks e he]
          rfl
      · simp only [locked, taken, List.cons_append, List.nil_append, List.mem_cons,
          List.not_mem_nil, or_false] at he
        rcases he with rfl | rfl | rfl | rfl <;> rfl
    have hbody : ∀ before e after, ⟨.identity, .ok memory⟩ :: checks ++ locked rtc st memory ++ body ++
        [⟨.close_lock, ()⟩] = before ++ e :: after → e.1.hardware = true →
        ∃ done rest, before = ⟨.identity, .ok memory⟩ :: checks ++ locked rtc st memory ++ done ∧
          body = done ++ e :: rest := by
      intro before e after hlog he
      apply middle_of_append hlog
      · intro hmem
        rw [hfront e hmem] at he
        cases he
      · intro hmem
        rw [List.mem_singleton.mp hmem] at he
        cases he
    have hknown := hperforms.known hrequested.request
    refine ⟨?_, ?_, ?_⟩
    · intro before e after hlog he
      obtain ⟨done, rest, rfl, -⟩ := hbody before e after hlog he
      refine ⟨rtc, args, memory, checks ++ locked rtc st memory ++ done, hrequested.subsystem,
        hrequested.parsed, ?_, hknown⟩
      simp only [List.cons_append, List.append_assoc]
    · intro before e after hlog he
      obtain ⟨done, rest, rfl, rfl⟩ := hbody before e after hlog (hardware_of_writes he)
      refine ⟨rtc, args, memory, checks, st, done, hrequested.subsystem, hrequested.parsed, happly,
        hforce, rfl, hknown, htrusted, hchecks, ?_⟩
      intro e' he'
      exact hperforms.hardware e' (List.mem_append_left _ he')
    · have hchecked : ∀ e ∈ ⟨.identity, .ok memory⟩ :: checks, locks e = false := by
        refine List.forall_mem_cons.mpr ⟨rfl, ?_⟩
        intro e he
        obtain ⟨o, b⟩ := e
        obtain rfl : o = .time := hchecks _ he
        rfl
      have hrest : ∀ e ∈ ([⟨.fstat_lock, some st⟩, ⟨.flock, true⟩, ⟨.identity, .ok memory⟩] : WakeLog) ++
          body, locks e = false := by
        intro e he
        rcases List.mem_append.mp he with he | he
        · simp only [List.mem_cons, List.not_mem_nil, or_false] at he
          rcases he with rfl | rfl | rfl <;> rfl
        · exact locks_of_hardware (hperforms.hardware e he)
      have honce : Returned (_ ++ ⟨.open_lock (lock_path rtc), true⟩ :: _ ++ [⟨.close_lock, ()⟩]) :=
        .once hchecked hrest
      simpa only [locked, taken, List.cons_append, List.nil_append, List.append_assoc] using honce

/-- Whatever the arguments are and whatever the accesses answer, the hardware
    is only accessed once the identity was read and the machine has one entry
    in the table of the subsystem.  It is only written when both `--force` and
    `--apply` are given, under the lock, and behind a second look that found
    the same machine; and the lock is given back at the end. -/
theorem hardware_guarded {r : Except String (Option (List String))}
    (h : Logs (wake_cli strerror first second argv) () r () log) : Guarded argv log := by
  rcases wake_cli_logs h with ⟨rfl, -⟩ | ⟨rtc, args, request, hrequested, hconduct⟩
  · have hnone : ∀ (before : WakeLog) e after, [] ≠ before ++ e :: after := by simp
    exact ⟨fun before e after hlog => absurd hlog (hnone before e after),
      fun before e after hlog => absurd hlog (hnone before e after), Idle.nil.returned⟩
  · exact hconduct.guarded hrequested

/-! ### An alarm is set -/

def padded (size : Nat) (text : String) : List UInt8 :=
  let bytes := text.toUTF8.data.toList
  bytes ++ List.replicate (size - bytes.length) 0

/-- The identity of a DH2600. -/
def dh2600 : List UInt8 := padded 16 "dmi" ++ padded 128 "DH2600" ++ List.replicate 1280 0

def rtc_events (log : WakeLog) : Power.RtcLog :=
  log.filterMap fun e => match e with
    | ⟨.rtc o, b⟩ => some ⟨o, b⟩
    | _ => none

/-- A machine with one RTC and no network. -/
def wake_answer (log : WakeLog) : (o : WakeOp) → o.Ans
  | .identity => .ok dh2600
  | .time => some 1760000000
  | .open_lock _ => true
  | .fstat_lock => some ⟨0o100600, 0, 1⟩
  | .flock => true
  | .close_lock => ()
  | .rtc o => Power.rtc_answer (rtc_events log) o
  | .net (.attributes _) => ⟨none, false, none⟩
  | .net (.if_nametoindex _) => (0 : Nat)
  | .net (.wol .socket) => (.error .ENODEV : Except Errno Unit)
  | .net (.wol (.get _)) => (.error .ENODEV : Except Errno Network.WolInfo)
  | .net (.wol (.set _ _)) => (.error .ENODEV : Except Errno Unit)
  | .net (.wol .close) => ()

def wake_machine : Prog.Handler wake_io WakeLog :=
  fun log o => (wake_answer log o, log ++ [⟨o, wake_answer log o⟩])

theorem exec_logs {α : Type} {m : Cli α} {run : (Except String α × Unit) × WakeLog}
    (h : run = Prog.exec wake_machine (m.run ()) []) : Logs m () run.1.1 () run.2 := by
  rw [h]
  exact runs_handled (E := recorded wake_io) (h := wake_machine) (fun _ _ => rfl) m []

def no_inventory : Inventory := ⟨fun _ => false, fun _ => none, .ok [], fun _ h => by cases h; simp⟩

def set_argv : List Text :=
  ["power".toList, "rtc-wake".toList, "set".toList, "1760003600".toList, "--force".toList,
    "--apply".toList]

def set_run : (Except String (Option (List String)) × Unit) × WakeLog :=
  Prog.exec wake_machine ((wake_cli (fun _ => "") no_inventory no_inventory set_argv).run ()) []

theorem hardware_guarded_set :
    (set_run.2.any fun e => e.1.writes) = true ∧ Guarded set_argv set_run.2 := by
  constructor
  · decide +kernel
  · have hlogs := exec_logs (show set_run = Prog.exec wake_machine
      ((wake_cli (fun _ => "") no_inventory no_inventory set_argv).run ()) [] from rfl)
    exact hardware_guarded hlogs

end UgreenNas.Wake
