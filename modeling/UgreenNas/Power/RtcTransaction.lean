import UgreenNas.Effect.Along
import UgreenNas.Effect.Logs
import UgreenNas.Power.RtcWake

/-! # The alarm as a transaction (`power/rtc_wake.c`)

    What a call does to the alarm is read off its log, whatever the accesses
    answer: nothing is written before all that is asked of the device, the
    alarm and the clock was seen, and then `0` and the epoch, the second one
    only when the first was read back.
-/

namespace UgreenNas.Power

open DiskMap Effect Effect.Proc
open Led (Failure failure)

/-! ## Calls and logs -/

/-- `ugreenctl_rtc_wake_set` and `ugreenctl_rtc_wake_clear`. -/
inductive AlarmCall where
  | set (epoch : Int)
  | clear

/-- What the alarm is to be. -/
def AlarmCall.epoch : AlarmCall → Int
  | .set epoch => epoch
  | .clear => 0

def AlarmCall.perform (strerror : Errno → String) (profile : RtcProfile) : AlarmCall → Rtc Unit
  | .set epoch => wake_set strerror profile epoch
  | .clear => wake_clear strerror profile

abbrev RtcLog : Type := List (Event rtc_io)

/-- The attribute that is opened, read or written. -/
def RtcOp.accessed : RtcOp → Option Text
  | .open_read path => some path
  | .read path => some path
  | .open_write path => some path
  | .write path _ => some path
  | .opendir _ => none
  | .time => none

def rtc_directory : Text := "/sys/class/rtc"

/-- One device of those listed belongs to the profile, and this is its alarm. -/
def Selected (profile : RtcProfile) (log : RtcLog) (path : Text) : Prop :=
  ∃ devices device, (⟨.opendir rtc_directory, .ok devices⟩ : Event rtc_io) ∈ log ∧
    devices.filter (device_matches profile rtc_directory) = [device] ∧
    path = wakealarm_path rtc_directory device

/-- A value of the alarm was read. -/
def Readable (log : RtcLog) (path : Text) : Prop :=
  ∃ text value, (⟨.read path, .ok text⟩ : Event rtc_io) ∈ log ∧ alarm_value text = .ok value

/-- What was read last is a value of the alarm. -/
def LastRead (log : RtcLog) (path : Text) (value : Nat) : Prop :=
  ∃ before text after, log = before ++ (⟨.read path, .ok text⟩ : Event rtc_io) :: after ∧
    alarm_value text = .ok value ∧ ∀ e ∈ after, ∀ p, e.1 ≠ .read p

/-- The clock of the device was read, and then the system time, and they
    agree. -/
def ClockChecked (log : RtcLog) (path : Text) : Prop :=
  ∃ before text rtc_now now after,
    log = before ++ (⟨.read (clock_path path), .ok text⟩ : Event rtc_io) :: ⟨.time, some now⟩ :: after ∧
    alarm_value text = .ok rtc_now ∧ 0 < rtc_now ∧ rtc_now ≤ now + 5 ∧ now ≤ rtc_now + 5

/-- An epoch that may be set: the log starts with the time it is compared
    with. -/
structure Scheduled (profile : RtcProfile) (epoch : Int) (log : RtcLog) (path : Text) : Prop where
  ahead : ∃ now rest, log = (⟨.time, some now⟩ : Event rtc_io) :: rest ∧ (now : Int) + 60 < epoch
  aligned : profile.resolution_seconds ≠ 0 ∧ epoch % profile.resolution_seconds = 0
  clock : ClockChecked log path

/-- What is seen before the alarm is written. -/
structure Permitted (profile : RtcProfile) (call : AlarmCall) (log : RtcLog) (path : Text) : Prop where
  selected : Selected profile log path
  readable : Readable log path
  scheduled : ∀ epoch, call = .set epoch → Scheduled profile epoch log path

/-- The values an alarm has while a log is written: a write takes its value
    or leaves the alarm as it is. -/
inductive Alarm (path : Text) : Nat → RtcLog → List Nat → Prop where
  | done (value : Nat) : Alarm path value [] [value]
  | write {value value' : Nat} {text : Text} {n : Except Errno Nat} {rest : RtcLog} {values : List Nat} :
      value' = value ∨ alarm_value text = .ok value' → Alarm path value' rest values →
      Alarm path value (⟨.write path text, n⟩ :: rest) (value :: values)
  | other {value : Nat} {e : Event rtc_io} {rest : RtcLog} {values : List Nat} :
      (∀ text, e.1 ≠ .write path text) → Alarm path value rest values →
      Alarm path value (e :: rest) (value :: values)

/-- What a call shows. -/
structure Transaction (profile : RtcProfile) (call : AlarmCall) (r : Except Failure Unit)
    (log : RtcLog) : Prop where
  /-- No alarm is written before all that is asked for was seen. -/
  permitted : ∀ before path text n after, log = before ++ ⟨.write path text, n⟩ :: after →
    Permitted profile call before path
  /-- All attributes are those of one device, the selected one. -/
  one_device : ∃ path, ∀ e ∈ log, ∀ p, e.1.accessed = some p →
    Selected profile log path ∧ (p = path ∨ p = clock_path path)
  /-- The epoch is written after a 0 was read back. -/
  cleared_first : ∀ before path text n after, log = before ++ ⟨.write path text, n⟩ :: after →
    text = "0".toList ∨ (text = snprintf 64 (lld call.epoch) ∧ LastRead before path 0)
  /-- An alarm is what it was, 0, or the epoch. -/
  values : ∀ path old values, Alarm path old log values →
    ∀ value ∈ values, value = old ∨ value = 0 ∨ (value : Int) = call.epoch
  /-- A call that succeeds has read back what was asked for. -/
  confirmed : r = .ok () → ∃ path value, Selected profile log path ∧ LastRead log path value ∧
    (value : Int) = call.epoch

/-! ## More of a log -/

section more

variable {profile : RtcProfile} {call : AlarmCall} {log more : RtcLog} {path : Text}

theorem Selected.append (h : Selected profile log path) : Selected profile (log ++ more) path := by
  obtain ⟨devices, device, hmem, hfilter, hpath⟩ := h
  exact ⟨devices, device, List.mem_append_left more hmem, hfilter, hpath⟩

theorem Readable.append (h : Readable log path) : Readable (log ++ more) path := by
  obtain ⟨text, value, hmem, hvalue⟩ := h
  exact ⟨text, value, List.mem_append_left more hmem, hvalue⟩

theorem LastRead.append {value : Nat} (h : LastRead log path value)
    (hmore : ∀ e ∈ more, ∀ p, e.1 ≠ .read p) : LastRead (log ++ more) path value := by
  obtain ⟨before, text, after, hlog, hvalue, hafter⟩ := h
  refine ⟨before, text, after ++ more, ?_, hvalue, ?_⟩
  · rw [hlog, List.append_assoc]
    rfl
  · intro e he
    rcases List.mem_append.mp he with he | he
    · exact hafter e he
    · exact hmore e he

theorem LastRead.readable {value : Nat} (h : LastRead log path value) : Readable log path := by
  obtain ⟨before, text, after, hlog, hvalue, -⟩ := h
  refine ⟨text, value, ?_, hvalue⟩
  rw [hlog]
  exact List.mem_append_right _ List.mem_cons_self

theorem ClockChecked.append (h : ClockChecked log path) : ClockChecked (log ++ more) path := by
  obtain ⟨before, text, rtc_now, now, after, hlog, hclock⟩ := h
  refine ⟨before, text, rtc_now, now, after ++ more, ?_, hclock⟩
  rw [hlog, List.append_assoc]
  rfl

theorem Scheduled.append {epoch : Int} (h : Scheduled profile epoch log path) :
    Scheduled profile epoch (log ++ more) path where
  ahead := by
    obtain ⟨now, rest, hlog, hahead⟩ := h.ahead
    exact ⟨now, rest ++ more, by rw [hlog]; rfl, hahead⟩
  aligned := h.aligned
  clock := h.clock.append

theorem Permitted.append (h : Permitted profile call log path) :
    Permitted profile call (log ++ more) path where
  selected := h.selected.append
  readable := h.readable.append
  scheduled := fun epoch hcall => (h.scheduled epoch hcall).append

end more

/-! ## What a call keeps to -/

/-- What is written of the alarm at `path`, and what is accessed. -/
structure Guarded (profile : RtcProfile) (call : AlarmCall) (path : Text) (log : RtcLog) : Prop where
  accesses : ∀ e ∈ log, ∀ p, e.1.accessed = some p → p = path ∨ p = clock_path path
  writes : ∀ before p text n after, log = before ++ ⟨.write p text, n⟩ :: after →
    p = path ∧ Permitted profile call before path ∧
      (text = "0".toList ∨ (text = snprintf 64 (lld call.epoch) ∧ LastRead before path 0))

section guarded

variable {profile : RtcProfile} {call : AlarmCall} {path : Text} {log : RtcLog}

/-- One more operation. -/
theorem Guarded.snoc {e : Event rtc_io} (h : Guarded profile call path log)
    (haccess : ∀ p, e.1.accessed = some p → p = path ∨ p = clock_path path)
    (hwrite : ∀ p text, e.1 = .write p text → p = path ∧ Permitted profile call log path ∧
      (text = "0".toList ∨ (text = snprintf 64 (lld call.epoch) ∧ LastRead log path 0))) :
    Guarded profile call path (log ++ [e]) where
  accesses := by
    intro e' he' p hp
    rcases List.mem_append.mp he' with he' | he'
    · exact h.accesses e' he' p hp
    · rw [List.mem_singleton.mp he'] at hp
      exact haccess p hp
  writes := by
    intro before p text n after hlog
    rcases List.eq_nil_or_concat after with hnil | ⟨after', last, hlast⟩
    · rw [hnil] at hlog
      obtain ⟨hbefore, he⟩ := List.append_inj' hlog rfl
      rw [← hbefore]
      exact hwrite p text (by rw [(List.cons.inj he).1])
    · rw [hlast, List.concat_eq_append, ← List.cons_append, ← List.append_assoc] at hlog
      exact h.writes before p text n after' (List.append_inj' hlog rfl).1

/-- A log that goes on and keeps to the rules. -/
def Moves (profile : RtcProfile) (call : AlarmCall) (path : Text) (log log' : RtcLog) : Prop :=
  log <+: log' ∧ (Guarded profile call path log → Guarded profile call path log')

instance (profile : RtcProfile) (call : AlarmCall) (path : Text) :
    Std.Refl (Moves profile call path) :=
  ⟨fun log => ⟨List.prefix_refl log, id⟩⟩

instance (profile : RtcProfile) (call : AlarmCall) (path : Text) :
    IsTrans RtcLog (Moves profile call path) :=
  ⟨fun _ _ _ h h' => ⟨h.1.trans h'.1, h'.2 ∘ h.2⟩⟩

/-- An operation that writes nothing. -/
theorem moves_snoc {e : Event rtc_io}
    (haccess : ∀ p, e.1.accessed = some p → p = path ∨ p = clock_path path)
    (hwrite : ∀ p text, e.1 ≠ .write p text) : Moves profile call path log (log ++ [e]) :=
  ⟨List.prefix_append log [e], fun h => h.snoc haccess fun p text he => absurd he (hwrite p text)⟩

variable {strerror : Errno → String} {c : Unit}

/-- An operation that writes nothing is written down. -/
theorem along_io {o : RtcOp} (haccess : ∀ p, o.accessed = some p → p = path ∨ p = clock_path path)
    (hwrite : ∀ p text, o ≠ .write p text) :
    Along (recorded rtc_io) (Moves profile call path) (io o)
      (fun b log' => log' = log ++ [⟨o, b⟩]) c log := by
  apply Along.ask
  intro b log' hlog
  rw [show log' = log ++ [⟨o, b⟩] from hlog]
  exact ⟨moves_snoc haccess hwrite, rfl⟩

/-- A result that was there says nothing new of the log. -/
theorem along_lift {α : Type} {x : Except Failure α} {P : α → RtcLog → Prop}
    (h : ∀ a, x = .ok a → P a log) :
    Along (recorded rtc_io) (Moves profile call path) (lift x : Rtc α) P c log :=
  Along.lift h

/-- An attribute is opened and read. -/
theorem along_read_alarm {p : Text} (hp : p = path ∨ p = clock_path path) :
    Along (recorded rtc_io) (Moves profile call path) (read_alarm strerror p)
      (fun value log' => ∃ text, alarm_value text = .ok value ∧
        log' = log ++ [⟨.open_read p, .ok ()⟩, ⟨.read p, .ok text⟩]) c log := by
  have haccess : ∀ q, some p = some q → q = path ∨ q = clock_path path := by
    intro q hq
    rw [← Option.some.inj hq]
    exact hp
  apply (along_io (o := .open_read p) haccess fun _ _ => RtcOp.noConfusion).bind
  intro fd log₁ _ hlog₁
  apply Along.bind (P := fun _ log' => log' = log ++ [⟨.open_read p, .ok ()⟩])
  · apply along_lift
    intro u hu
    cases fd with
    | error e => cases hu
    | ok u' => exact hlog₁
  intro _ log₂ _ hlog₂
  apply (along_io (o := .read p) haccess fun _ _ => RtcOp.noConfusion).bind
  intro count log₃ _ hlog₃
  rw [hlog₂, List.append_assoc] at hlog₃
  apply Along.bind
    (P := fun text log' => log' = log ++ [⟨.open_read p, .ok ()⟩, ⟨.read p, .ok text⟩])
  · apply along_lift
    intro text htext
    cases count with
    | error e => cases htext
    | ok text' =>
      cases htext
      exact hlog₃
  intro text log₄ _ hlog₄
  apply along_lift
  intro value hvalue
  exact ⟨text, hvalue, hlog₄⟩

theorem last_read {p text : Text} {value : Nat} (h : alarm_value text = .ok value) :
    LastRead (log ++ [⟨.open_read p, .ok ()⟩, ⟨.read p, .ok text⟩]) p value :=
  ⟨log ++ [⟨.open_read p, .ok ()⟩], text, [], by rw [List.append_assoc]; rfl, h,
    fun _ he => absurd he List.not_mem_nil⟩

/-- A text that may be written is written. -/
theorem along_write_wakealarm {text : Text} (hpermitted : Permitted profile call log path)
    (htext : text = "0".toList ∨ (text = snprintf 64 (lld call.epoch) ∧ LastRead log path 0)) :
    Along (recorded rtc_io) (Moves profile call path) (write_wakealarm strerror path text)
      (fun _ _ => True) c log := by
  have haccess : ∀ q, some path = some q → q = path ∨ q = clock_path path :=
    fun q hq => .inl (Option.some.inj hq).symm
  apply (along_io (o := .open_write path) haccess fun _ _ => RtcOp.noConfusion).bind
  intro fd log₁ _ hlog₁
  apply Along.bind (P := fun _ log' => log' = log₁)
  · exact along_lift fun _ _ => rfl
  intro _ log₂ _ hlog₂
  rw [hlog₂, hlog₁]
  apply Along.bind (P := fun _ _ => True)
  · apply Along.ask
    intro n log' hlog'
    rw [show log' = (log ++ [⟨.open_write path, fd⟩]) ++ [⟨.write path text, n⟩] from hlog']
    refine ⟨⟨List.prefix_append _ _, ?_⟩, trivial⟩
    intro h
    apply h.snoc (e := ⟨.write path text, n⟩) haccess
    intro q text' hwrite
    cases hwrite
    refine ⟨rfl, hpermitted.append, ?_⟩
    rcases htext with hzero | ⟨hepoch, hread⟩
    · exact .inl hzero
    · refine .inr ⟨hepoch, hread.append ?_⟩
      intro e he q
      rw [List.mem_singleton.mp he]
      exact RtcOp.noConfusion
  intro n log₃ _ _
  exact along_lift fun _ _ => trivial

/-- The clock of the device is compared with the system time. -/
theorem along_check_clock :
    Along (recorded rtc_io) (Moves profile call path) (check_clock strerror path)
      (fun _ log' => ClockChecked log' path) c log := by
  apply Along.bail.bind
  intro _ log₁ _ _
  apply (along_read_alarm (.inr rfl)).bind
  intro rtc_now log₂ _ hread
  obtain ⟨text, hvalue, hlog₂⟩ := hread
  apply (along_io (o := .time) (fun _ h => by cases h) fun _ _ => RtcOp.noConfusion).bind
  intro system_now log₃ _ hlog₃
  apply Along.bail.mono
  intro _ log₄ _ hbail
  obtain ⟨rfl, hagrees⟩ := hbail
  have hagrees := not_not.mp hagrees
  unfold clock_agrees at hagrees
  cases system_now with
  | none => cases hagrees
  | some now =>
    simp only [Bool.and_eq_true, decide_eq_true_eq] at hagrees
    refine ⟨log₁ ++ [⟨.open_read (clock_path path), .ok ()⟩], text, rtc_now, now, [], ?_, hvalue,
      hagrees.1.1, hagrees.1.2, hagrees.2⟩
    rw [hlog₃, hlog₂, List.append_assoc, List.append_assoc]
    rfl

/-- The alarm is cleared, and a 0 is read back. -/
theorem along_clear_alarm (hpermitted : Permitted profile call log path) :
    Along (recorded rtc_io) (Moves profile call path) (clear_alarm strerror path)
      (fun _ log' => LastRead log' path 0) c log := by
  apply (along_write_wakealarm hpermitted (.inl rfl)).bind
  intro _ log₁ _ _
  apply (along_read_alarm (.inl rfl)).bind
  intro observed log₂ _ hread
  obtain ⟨text, hvalue, hlog₂⟩ := hread
  apply Along.bail.mono
  intro _ log₃ _ hbail
  obtain ⟨rfl, hzero⟩ := hbail
  rw [not_not.mp hzero] at hvalue
  rw [hlog₂]
  exact last_read hvalue

/-- The epoch is written and read back. -/
theorem along_set_alarm (hpermitted : Permitted profile call log path)
    (hcleared : LastRead log path 0) :
    Along (recorded rtc_io) (Moves profile call path) (set_alarm strerror path call.epoch)
      (fun _ log' => ∃ value, LastRead log' path value ∧ (value : Int) = call.epoch) c log := by
  apply (along_write_wakealarm hpermitted (.inr ⟨rfl, hcleared⟩)).bind
  intro _ log₁ _ _
  apply (along_read_alarm (.inl rfl)).bind
  intro observed log₂ _ hread
  obtain ⟨text, hvalue, hlog₂⟩ := hread
  apply Along.bail.mono
  intro _ log₃ _ hbail
  obtain ⟨rfl, hepoch⟩ := hbail
  rw [hlog₂]
  exact ⟨observed, last_read hvalue, not_not.mp hepoch⟩

/-- What is known of an epoch before the alarm is read: the first half of
    `Scheduled`. -/
def Ahead (profile : RtcProfile) (call : AlarmCall) (log : RtcLog) : Prop :=
  ∀ epoch, call = .set epoch →
    (∃ now rest, log = (⟨.time, some now⟩ : Event rtc_io) :: rest ∧ (now : Int) + 60 < epoch) ∧
      profile.resolution_seconds ≠ 0 ∧ epoch % profile.resolution_seconds = 0

theorem Ahead.append {more : RtcLog} (h : Ahead profile call log) :
    Ahead profile call (log ++ more) := by
  intro epoch hcall
  obtain ⟨⟨now, rest, hlog, hahead⟩, haligned⟩ := h epoch hcall
  exact ⟨⟨now, rest ++ more, by rw [hlog]; rfl, hahead⟩, haligned⟩

/-- An epoch that is set is not 0. -/
theorem Ahead.nonzero (h : Ahead profile call log) {epoch : Int} (hcall : call = .set epoch) :
    call.epoch ≠ 0 := by
  obtain ⟨⟨now, rest, -, hahead⟩, -⟩ := h epoch hcall
  rw [hcall]
  show epoch ≠ 0
  omega

/-- What `update_alarm` does once the device is known. -/
def update_device (strerror : Errno → String) (path : Text) (epoch : Int) : Rtc Unit := do
  if_epoch epoch (check_clock strerror path)
  let _ ← read_alarm strerror path
  clear_alarm strerror path
  if_epoch epoch (set_alarm strerror path epoch)

theorem along_update_device (hselected : Selected profile log path) (hahead : Ahead profile call log) :
    Along (recorded rtc_io) (Moves profile call path) (update_device strerror path call.epoch)
      (fun _ log' => ∃ value, LastRead log' path value ∧ (value : Int) = call.epoch) c log := by
  have hclock : Along (recorded rtc_io) (Moves profile call path)
      (if_epoch call.epoch (check_clock strerror path))
      (fun _ log' => call.epoch ≠ 0 → ClockChecked log' path) c log := by
    unfold if_epoch
    by_cases hzero : call.epoch = 0
    · rw [if_pos hzero]
      exact Along.pure fun h => absurd hzero h
    · rw [if_neg hzero]
      exact along_check_clock.mono fun _ _ _ hchecked _ => hchecked
  apply hclock.bind
  intro _ log₁ hmoves₁ hchecked
  obtain ⟨more₁, rfl⟩ := hmoves₁.1
  apply (along_read_alarm (.inl rfl)).bind
  intro value log₂ _ hread
  obtain ⟨text, hvalue, hlog₂⟩ := hread
  have hpermitted : Permitted profile call log₂ path := by
    have hlast := @last_read (log ++ more₁) path text value hvalue
    rw [← hlog₂] at hlast
    refine ⟨?_, hlast.readable, ?_⟩
    · rw [hlog₂]
      exact hselected.append.append
    · intro epoch hcall
      have hahead₂ : Ahead profile call log₂ := by
        rw [hlog₂]
        exact hahead.append.append
      obtain ⟨hnow, haligned⟩ := hahead₂ epoch hcall
      refine ⟨hnow, haligned, ?_⟩
      rw [hlog₂]
      exact (hchecked (hahead.nonzero hcall)).append
  apply (along_clear_alarm hpermitted).bind
  intro _ log₃ hmoves₃ hcleared
  obtain ⟨more₃, rfl⟩ := hmoves₃.1
  unfold if_epoch
  by_cases hzero : call.epoch = 0
  · rw [if_pos hzero]
    exact Along.pure ⟨0, hcleared, hzero.symm⟩
  · rw [if_neg hzero]
    exact along_set_alarm hpermitted.append hcleared

end guarded

/-! ## The selection -/

/-- The loop counts the devices that match, and keeps the last one. -/
theorem select_loop_ok {profile : RtcProfile} {directory_path : Text} {path_size : Nat}
    {devices : List RtcDevice} {found found' : Nat} {path path' : Text}
    (h : select_loop profile directory_path path_size found path devices = .ok (found', path')) :
    found' = found + (devices.filter (device_matches profile directory_path)).length ∧
      path' = ((devices.filter (device_matches profile directory_path)).getLast?.map
        (wakealarm_path directory_path)).getD path := by
  induction devices generalizing found path with
  | nil =>
    cases h
    exact ⟨rfl, rfl⟩
  | cons device rest ih =>
    unfold select_loop at h
    by_cases hmatches : device_matches profile directory_path device = true
    · rw [if_pos hmatches] at h
      rw [List.filter_cons_of_pos hmatches]
      by_cases hlong : (wakealarm_path directory_path device).length ≥ path_size
      · rw [if_pos hlong] at h
        cases h
      · rw [if_neg hlong] at h
        obtain ⟨hfound, hpath⟩ := ih h
        refine ⟨?_, ?_⟩
        · rw [hfound, List.length_cons]
          omega
        · rw [hpath]
          cases rest.filter (device_matches profile directory_path) with
          | nil => rfl
          | cons d more => rw [List.getLast?_cons_cons, List.getLast?_eq_some_getLast (by simp)]; rfl
    · rw [if_neg hmatches] at h
      rw [List.filter_cons_of_neg hmatches]
      exact ih h

/-- A device is selected where one alone matches. -/
theorem select_device_ok {profile : RtcProfile} {directory_path path : Text} {path_size : Nat}
    {devices : List RtcDevice} (h : select_device profile directory_path path_size devices = .ok path) :
    ∃ device, devices.filter (device_matches profile directory_path) = [device] ∧
      path = wakealarm_path directory_path device := by
  unfold select_device at h
  cases hloop : select_loop profile directory_path path_size 0 [] devices with
  | error e =>
    rw [hloop] at h
    cases h
  | ok result =>
    obtain ⟨found, path'⟩ := result
    rw [hloop] at h
    simp only [bind, Except.bind] at h
    obtain ⟨hfound, hpath⟩ := select_loop_ok hloop
    by_cases hone : found ≠ 1
    · rw [if_pos hone] at h
      cases h
    · rw [if_neg hone] at h
      cases h
      have hlength : (devices.filter (device_matches profile directory_path)).length = 1 := by omega
      obtain ⟨device, hdevice⟩ := List.length_eq_one_iff.mp hlength
      rw [hdevice] at hpath
      exact ⟨device, hdevice, hpath⟩

/-! ## The values that are written -/

theorem digit_no_sign {c : Char} (h : isdigit c = true) : c ≠ '-' ∧ c ≠ '+' := by
  constructor
  · intro hsign
    rw [hsign] at h
    exact absurd h (by decide)
  · intro hsign
    rw [hsign] at h
    exact absurd h (by decide)

theorem strtoll_digits {digits : Text} (hne : digits ≠ []) (h : ∀ c ∈ digits, isdigit c = true) :
    strtoll digits = if number digits > LLONG_MAX then ((LLONG_MAX : Int), true, [])
      else ((number digits : Int), false, []) := by
  cases digits with
  | nil => exact absurd rfl hne
  | cons c rest =>
    have hc := h c List.mem_cons_self
    have hbody : (c :: rest).dropWhile isspace = c :: rest :=
      List.dropWhile_cons_of_neg (by rw [(digit_plain hc).1]; decide)
    have htake : (c :: rest).takeWhile isdigit = c :: rest := List.takeWhile_eq_self_iff.mpr h
    have hdrop : (c :: rest).dropWhile isdigit = [] := List.dropWhile_eq_nil_iff.mpr h
    unfold strtoll
    simp only [hbody, List.head?_cons, Option.some.injEq, (digit_no_sign hc).1,
      (digit_no_sign hc).2, decide_false, Bool.or_self, Bool.false_eq_true, if_false, htake, hdrop,
      List.isEmpty_cons]

theorem strtoll_negative {digits : Text} (hne : digits ≠ []) (h : ∀ c ∈ digits, isdigit c = true) :
    strtoll ('-' :: digits) = if number digits > LLONG_MAX + 1 then (-(LLONG_MAX + 1 : Int), true, [])
      else (-(number digits : Int), false, []) := by
  have hbody : ('-' :: digits).dropWhile isspace = '-' :: digits :=
    List.dropWhile_cons_of_neg (by decide)
  have htake : digits.takeWhile isdigit = digits := List.takeWhile_eq_self_iff.mpr h
  have hdrop : digits.dropWhile isdigit = [] := List.dropWhile_eq_nil_iff.mpr h
  have hempty : digits.isEmpty = false := by
    cases digits with
    | nil => exact absurd rfl hne
    | cons c rest => rfl
  unfold strtoll
  simp only [hbody, List.head?_cons, decide_true, Bool.true_or, if_true, List.tail_cons, htake, hdrop,
    hempty, Bool.false_eq_true, if_false]

/-- A number that was printed is parsed, if it is in range. -/
theorem wake_parse_decimal {n value : Nat} (h : wake_parse (decimal n) = .ok value) : value = n := by
  have hne : decimal n ≠ [] := Nat.toDigits_ne_nil
  have hcursor : (decimal n).dropWhile isspace = decimal n := by
    cases hdigits : decimal n with
    | nil => rfl
    | cons c rest =>
      have hc : isdigit c = true := isdigit_decimal (n := n) c (by rw [hdigits]; exact List.mem_cons_self)
      exact List.dropWhile_cons_of_neg (by rw [(digit_plain hc).1]; decide)
  unfold wake_parse at h
  simp only [hcursor, if_neg hne, strtoll_digits hne isdigit_decimal, number_decimal] at h
  by_cases hlarge : n > LLONG_MAX
  · simp [hlarge] at h
  · simp only [if_neg hlarge] at h
    split at h
    · cases h
    · split at h
      · cases h
      · exact (Except.ok.inj h).symm

/-- A negative number is refused. -/
theorem wake_parse_negative {n value : Nat} (hn : 0 < n) : wake_parse ('-' :: decimal n) ≠ .ok value := by
  intro h
  have hcursor : ('-' :: decimal n).dropWhile isspace = '-' :: decimal n :=
    List.dropWhile_cons_of_neg (by decide)
  have hparse := @strtoll_negative (decimal n) Nat.toDigits_ne_nil isdigit_decimal
  unfold wake_parse at h
  simp only [hcursor, if_neg (List.cons_ne_nil _ _), hparse, number_decimal] at h
  by_cases hlarge : n > LLONG_MAX + 1
  · simp [hlarge] at h
  · simp only [if_neg hlarge] at h
    split at h
    · cases h
    · rw [if_pos (by omega)] at h
      cases h

/-- The epoch that is written is the one that the alarm takes. -/
theorem alarm_value_lld {epoch : Int} {value : Nat}
    (h : alarm_value (snprintf 64 (lld epoch)) = .ok value) : (value : Int) = epoch := by
  unfold alarm_value at h
  by_cases hlong : (snprintf 64 (lld epoch)).length ≥ 63
  · rw [if_pos hlong] at h
    cases h
  · rw [if_neg hlong] at h
    have hwhole : snprintf 64 (lld epoch) = lld epoch := by
      unfold snprintf at hlong ⊢
      rw [List.length_take] at hlong
      exact List.take_of_length_le (by omega)
    rw [hwhole] at h
    by_cases hneg : epoch < 0
    · have htext : lld epoch = '-' :: decimal epoch.natAbs := by
        unfold lld
        rw [if_pos hneg]
      have hplain : '\x00' ∉ '-' :: decimal epoch.natAbs := by
        intro hmem
        rcases List.mem_cons.mp hmem with hsign | hdigit
        · exact absurd hsign (by decide)
        · exact (digit_plain (isdigit_decimal _ hdigit)).2 rfl
      rw [htext, c_string_of_no_nul hplain] at h
      exact absurd h (wake_parse_negative (by omega))
    · have htext : lld epoch = decimal epoch.natAbs := by
        unfold lld
        rw [if_neg hneg]
      have hplain : '\x00' ∉ decimal epoch.natAbs :=
        fun hdigit => (digit_plain (isdigit_decimal _ hdigit)).2 rfl
      rw [htext, c_string_of_no_nul hplain] at h
      rw [wake_parse_decimal h]
      omega

theorem alarm_value_zero {value : Nat} (h : alarm_value ("0" : Text) = .ok value) : value = 0 := by
  have hzero : alarm_value ("0" : Text) = .ok 0 := rfl
  rw [hzero] at h
  exact (Except.ok.inj h).symm

/-- An alarm that only ever gets `0` and the epoch has no other value. -/
theorem alarm_values {path : Text} {epoch : Int} {old value : Nat} {log : RtcLog} {values : List Nat}
    (h : Alarm path value log values)
    (hwrites : ∀ text n, (⟨.write path text, n⟩ : Event rtc_io) ∈ log →
      text = "0".toList ∨ text = snprintf 64 (lld epoch))
    (hvalue : value = old ∨ value = 0 ∨ (value : Int) = epoch) :
    ∀ v ∈ values, v = old ∨ v = 0 ∨ (v : Int) = epoch := by
  induction h with
  | done value =>
    intro v hv
    rw [List.mem_singleton.mp hv]
    exact hvalue
  | @write value value' text n rest values htaken _ ih =>
    intro v hv
    rcases List.mem_cons.mp hv with rfl | hv
    · exact hvalue
    · refine ih (fun text' n' hmem => hwrites text' n' (List.mem_cons_of_mem _ hmem)) ?_ v hv
      rcases htaken with hsame | hparsed
      · rw [hsame]
        exact hvalue
      · right
        rcases hwrites text n List.mem_cons_self with hzero | hepoch
        · rw [hzero] at hparsed
          exact .inl (alarm_value_zero hparsed)
        · rw [hepoch] at hparsed
          exact .inr (alarm_value_lld hparsed)
  | other _ _ ih =>
    intro v hv
    rcases List.mem_cons.mp hv with rfl | hv
    · exact hvalue
    · exact ih (fun text' n' hmem => hwrites text' n' (List.mem_cons_of_mem _ hmem)) hvalue v hv

/-! ## The result -/

section result

variable {profile : RtcProfile} {call : AlarmCall} {log : RtcLog} {r : Except Failure Unit}

/-- A log without an attribute of a device. -/
def Quiet (log : RtcLog) : Prop := ∀ e ∈ log, e.1.accessed = none

theorem Quiet.snoc {e : Event rtc_io} (h : Quiet log) (he : e.1.accessed = none) :
    Quiet (log ++ [e]) := by
  intro e' he'
  rcases List.mem_append.mp he' with he' | he'
  · exact h e' he'
  · rw [List.mem_singleton.mp he']
    exact he

theorem Quiet.guarded (h : Quiet log) (path : Text) : Guarded profile call path log where
  accesses := by
    intro e he p hp
    rw [h e he] at hp
    cases hp
  writes := by
    intro before p text n after hlog
    have hquiet := h ⟨.write p text, n⟩ (by rw [hlog]; exact List.mem_append_right _ List.mem_cons_self)
    cases hquiet

/-- What is kept to makes a transaction. -/
theorem Guarded.values {path : Text} (h : Guarded profile call path log) (p : Text) (old : Nat)
    (values : List Nat) (halarm : Alarm p old log values) :
    ∀ value ∈ values, value = old ∨ value = 0 ∨ (value : Int) = call.epoch := by
  apply alarm_values halarm _ (.inl rfl)
  intro text n hmem
  obtain ⟨before, after, hlog⟩ := List.append_of_mem hmem
  obtain ⟨-, -, htext⟩ := h.writes before p text n after hlog
  rcases htext with hzero | hepoch
  · exact .inl hzero
  · exact .inr hepoch.1

/-- A call that came to no device did nothing. -/
theorem Quiet.transaction (h : Quiet log) (hr : r ≠ .ok ()) : Transaction profile call r log where
  permitted := by
    intro before p text n after hlog
    obtain ⟨hp, hpermitted, -⟩ := (h.guarded p).writes before p text n after hlog
    exact hpermitted
  one_device := by
    refine ⟨[], ?_⟩
    intro e he p hp
    rw [h e he] at hp
    cases hp
  cleared_first := by
    intro before p text n after hlog
    have hguarded : Guarded profile call p log := h.guarded p
    obtain ⟨-, -, htext⟩ := hguarded.writes before p text n after hlog
    exact htext
  values := by
    have hguarded : Guarded profile call [] log := h.guarded []
    exact hguarded.values
  confirmed := fun hok => absurd hok hr

theorem Guarded.transaction {path : Text} (h : Guarded profile call path log)
    (hselected : Selected profile log path)
    (hok : r = .ok () → ∃ value, LastRead log path value ∧ (value : Int) = call.epoch) :
    Transaction profile call r log where
  permitted := by
    intro before p text n after hlog
    obtain ⟨hp, hpermitted, -⟩ := h.writes before p text n after hlog
    rw [hp]
    exact hpermitted
  one_device := ⟨path, fun e he p hp => ⟨hselected, h.accesses e he p hp⟩⟩
  cleared_first := by
    intro before p text n after hlog
    obtain ⟨hp, -, htext⟩ := h.writes before p text n after hlog
    rw [hp]
    exact htext
  values := h.values
  confirmed := by
    intro hr
    obtain ⟨value, hread, hvalue⟩ := hok hr
    exact ⟨path, value, hselected, hread, hvalue⟩

variable {strerror : Errno → String}

/-- The selection looks at the devices, and at nothing else. -/
theorem wp_select (hquiet : Quiet log) :
    wp (recorded rtc_io) (fun _ => True) (select_at strerror "/sys" profile PATH_MAX)
      (fun r _ log' => Quiet log' ∧ log <+: log' ∧ ∀ path, r = .ok path → Selected profile log' path)
      () log := by
  unfold select_at
  rw [bail_neg (by decide), wp_bind]
  refine (wp_ask _ _).mpr ?_
  intro entries log' hlog
  rw [show log' = log ++ [⟨.opendir rtc_directory, entries⟩] from hlog]
  have hquiet' : Quiet (log ++ [(⟨.opendir rtc_directory, entries⟩ : Event rtc_io)]) := hquiet.snoc rfl
  refine ⟨trivial, ?_⟩
  cases entries with
  | error e => exact ⟨hquiet', List.prefix_append _ _, fun path h => by cases h⟩
  | ok devices =>
    refine ⟨hquiet', List.prefix_append _ _, ?_⟩
    intro path hpath
    obtain ⟨device, hdevice, hpath⟩ := select_device_ok hpath
    exact ⟨devices, device, List.mem_append_right _ List.mem_cons_self, hdevice, hpath⟩

theorem wp_update_alarm (hquiet : Quiet log) (hahead : Ahead profile call log) :
    wp (recorded rtc_io) (fun _ => True) (update_alarm strerror profile call.epoch)
      (fun r _ log' => Transaction profile call r log') () log := by
  apply wp_seq (wp_select hquiet)
  · intro path c' log₁ hselect
    obtain ⟨hquiet₁, hprefix, hselected⟩ := hselect
    have hselected := hselected path rfl
    obtain ⟨more, rfl⟩ := hprefix
    have halong := @along_update_device profile call path _ strerror c' hselected hahead.append
    refine wp_mono halong (fun _ _ => trivial) ?_
    intro r c'' log₂ hresult
    obtain ⟨-, hmoves, hok⟩ := hresult
    obtain ⟨more₂, rfl⟩ := hmoves.1
    exact (hmoves.2 (hquiet₁.guarded path)).transaction hselected.append fun hr => hok () hr
  · intro e c' log₁ hselect
    exact hselect.1.transaction fun h => by cases h

/-- An update of the alarm is a transaction on one device: whatever the
    devices are and whatever fails, nothing is written before the device, the
    alarm, the epoch and the clock were found to be as they should; the alarm
    is cleared first, and only has its old value, 0 and the epoch; and a call
    that succeeds has read back what it was asked for. -/
theorem rtc_update_is_transaction {c' : Unit} (h : Logs (call.perform strerror profile) () r c' log) :
    Transaction profile call r log := by
  have hnil : Quiet [] := fun e he => absurd he List.not_mem_nil
  suffices hwp : wp (recorded rtc_io) (fun _ => True) (call.perform strerror profile)
      (fun r _ log => Transaction profile call r log) () [] from wp_runs hwp h
  cases call with
  | clear =>
    have hahead : Ahead profile .clear [] := fun epoch hcall => by cases hcall
    exact wp_update_alarm hnil hahead
  | set epoch =>
    show wp _ _ (wake_set strerror profile epoch) _ () []
    unfold wake_set
    rw [wp_bind]
    refine (wp_ask _ _).mpr ?_
    intro now log' hlog
    rw [show log' = [] ++ [⟨.time, now⟩] from hlog]
    have hquiet : Quiet ([] ++ [(⟨.time, now⟩ : Event rtc_io)]) := hnil.snoc rfl
    refine ⟨trivial, ?_⟩
    show wp _ _ (lift (validate_epoch profile epoch now) >>= fun _ => _) _ () _
    rw [wp_bind, wp_lift]
    cases hvalid : validate_epoch profile epoch now with
    | error e => exact hquiet.transaction fun h => by cases h
    | ok _ =>
      suffices hahead : Ahead profile (.set epoch) ([] ++ [(⟨.time, now⟩ : Event rtc_io)]) from
        wp_update_alarm hquiet hahead
      intro epoch' hcall
      cases hcall
      unfold validate_epoch at hvalid
      by_cases hnear : profile.resolution_seconds = 0 ∨
          now.all (fun now => epoch ≤ now || epoch - now ≤ 60) = true
      · rw [if_pos hnear] at hvalid
        cases hvalid
      · rw [if_neg hnear] at hvalid
        rw [not_or] at hnear
        cases now with
        | none => exact absurd rfl hnear.2
        | some now =>
          have hahead : ¬ (epoch ≤ now || epoch - now ≤ 60) = true := hnear.2
          simp only [Bool.or_eq_true, decide_eq_true_eq, not_or, not_le] at hahead
          by_cases haligned : epoch % profile.resolution_seconds ≠ 0
          · rw [if_pos haligned] at hvalid
            cases hvalid
          · refine ⟨⟨now, [], rfl, ?_⟩, hnear.1, not_not.mp haligned⟩
            omega

end result

/-! ### A call -/

def rtc_cmos : RtcProfile :=
  { product := "DH2600", rtc_name := "rtc_cmos".toList, resolution_seconds := 1 }

def rtc0 : RtcDevice where
  d_name := "rtc0".toList
  name := some ⟨"rtc_cmos 00:03\n".toList, false⟩
  uevent := none
  wakealarm := true

/-- What was written last, if it is not `0`. -/
def kept (log : RtcLog) : Text :=
  log.foldl (fun text e => match e.1 with
    | .write _ written => if written = "0".toList then [] else written
    | _ => text) []

/-- A device whose alarm is what was written last, and whose clock is right. -/
def rtc_answer (log : RtcLog) : (o : RtcOp) → o.Ans
  | .opendir _ => .ok [rtc0]
  | .time => some 1760000000
  | .open_read _ => .ok ()
  | .read path => .ok (if path = wakealarm_path rtc_directory rtc0 then kept log else "1760000001\n".toList)
  | .open_write _ => .ok ()
  | .write _ text => .ok text.length

def rtc_machine : Prog.Handler rtc_io RtcLog :=
  fun log o => (rtc_answer log o, log ++ [⟨o, rtc_answer log o⟩])

def set_run : (Except Failure Unit × Unit) × RtcLog :=
  Prog.exec rtc_machine ((AlarmCall.perform (fun _ => "") rtc_cmos (.set 1760003600)).run ()) []

theorem rtc_update_is_transaction_set :
    set_run.1.1 = .ok () ∧ Transaction rtc_cmos (.set 1760003600) set_run.1.1 set_run.2 := by
  constructor
  · decide +kernel
  · have hlogs : Logs (AlarmCall.perform (fun _ => "") rtc_cmos (.set 1760003600)) () set_run.1.1
        set_run.1.2 set_run.2 :=
      Prog.runs_exec (E := recorded rtc_io) (h := rtc_machine) (fun _ _ => rfl) _ []
    exact rtc_update_is_transaction hlogs

end UgreenNas.Power
