import UgreenNas.Network.Verified
import UgreenNas.Wake.Named

/-! # What a success means (`core/wake_cli.c`)

    A command that was to write and says that it succeeded has read back what
    it wrote, on the machine and the device that it was for, under the lock.
-/

namespace UgreenNas.Wake

open DiskMap Effect Effect.Proc
open Core (MachineIdentity)
open Led (Failure)
open Network (Inventory WolInfo WolPolicy desired wol_io)
open Power (AlarmCall LastRead RtcLog RtcProfile Selected)

variable {strerror : Errno → String} {first second : Inventory} {argv : List Text} {args : WakeArgs}
  {rtc : Bool}

/-! ## The alarm -/

theorem read_alarm_logs {path : Text} {value : Nat} {log : RtcLog}
    (h : Logs (Power.read_alarm strerror path) () (.ok value) () log) :
    ∃ text, log = [⟨.open_read path, .ok ()⟩, ⟨.read path, .ok text⟩] ∧
      Power.alarm_value text = .ok value := by
  obtain ⟨fd, rest, rfl, hrest⟩ := h.of_ask_then
  obtain ⟨_, hfd, hread⟩ := hrest.of_lift_then
  obtain ⟨count, last, rfl, hlast⟩ := hread.of_ask_then
  obtain ⟨text, htext, hlift⟩ := hlast.of_lift_then
  obtain ⟨hvalue, -, rfl⟩ := hlift.of_lift
  cases fd with
  | error e => cases hfd
  | ok _ =>
    cases count with
    | error e => cases htext
    | ok text' =>
      obtain rfl := Except.ok.inj htext
      exact ⟨_, rfl, hvalue.symm⟩

/-- A value was written and is what is read behind that. -/
theorem last_read_of_logs {path text : Text} {log : RtcLog} {p : Nat → Prop} [DecidablePred p]
    {e : Failure}
    (h : Logs (do
      Power.write_wakealarm strerror path text
      let observed ← Power.read_alarm strerror path
      bail (p observed) e) () (.ok ()) () log) :
    ∃ value, LastRead log path value ∧ ¬ p value := by
  obtain ⟨_, c₁, write, rest, rfl, -, hrest⟩ := h.of_bind_ok
  obtain ⟨value, c₂, read, nothing, rfl, hread, hbail⟩ := hrest.of_bind_ok
  obtain ⟨text', rfl, hvalue⟩ := read_alarm_logs hread
  obtain ⟨hp, -, rfl⟩ := hbail.of_bail
  rw [List.append_nil]
  exact ⟨value, Power.last_read hvalue, hp⟩

theorem last_read_prepend {path : Text} {value : Nat} {log : RtcLog} (h : LastRead log path value)
    (front : RtcLog) : LastRead (front ++ log) path value := by
  obtain ⟨before, text, after, rfl, hvalue, hafter⟩ := h
  exact ⟨front ++ before, text, after, by simp, hvalue, hafter⟩

/-- The epoch is what was read last of the alarm that belongs to the machine. -/
theorem update_alarm_confirmed {profile : RtcProfile} {epoch : Int} {log : RtcLog}
    (h : Logs (Power.update_alarm strerror profile epoch) () (.ok ()) () log) :
    ∃ path value, Selected profile log path ∧ LastRead log path value ∧ (value : Int) = epoch := by
  obtain ⟨path, c₁, select, rest, rfl, hselect, hrest⟩ := h.of_bind_ok
  have hquiet : Power.Quiet [] := fun _ he => absurd he List.not_mem_nil
  have hselected : Selected profile select path :=
    (wp_runs (Power.wp_select hquiet) hselect).2.2 path rfl
  obtain ⟨_, c₂, clock, rest, rfl, -, hrest⟩ := hrest.of_bind_ok
  obtain ⟨old, c₃, read, rest, rfl, -, hrest⟩ := hrest.of_bind_ok
  obtain ⟨_, c₄, clear, last, rfl, hclear, hlast⟩ := hrest.of_bind_ok
  refine ⟨path, ?_⟩
  unfold Power.if_epoch at hlast
  by_cases hzero : epoch = 0
  · rw [if_pos hzero] at hlast
    obtain ⟨-, -, rfl⟩ := hlast.of_pure
    obtain ⟨value, hread, hvalue⟩ := last_read_of_logs hclear
    rw [List.append_nil]
    refine ⟨value, hselected.append, ?_, ?_⟩
    · exact last_read_prepend (last_read_prepend (last_read_prepend hread _) _) _
    · rw [hzero]
      exact_mod_cast not_not.mp hvalue
  · rw [if_neg hzero] at hlast
    obtain ⟨value, hread, hvalue⟩ := last_read_of_logs hlast
    refine ⟨value, hselected.append, ?_, not_not.mp hvalue⟩
    exact last_read_prepend (last_read_prepend (last_read_prepend (last_read_prepend hread _) _) _) _

theorem selected_prepend {profile : RtcProfile} {path : Text} {log : RtcLog}
    (h : Selected profile log path) (front : RtcLog) : Selected profile (front ++ log) path := by
  obtain ⟨devices, device, hmem, hrest⟩ := h
  exact ⟨devices, device, List.mem_append_right front hmem, hrest⟩

theorem perform_confirmed {profile : RtcProfile} {call : AlarmCall} {log : RtcLog}
    (h : Logs (call.perform strerror profile) () (.ok ()) () log) :
    ∃ path value, Selected profile log path ∧ LastRead log path value ∧ (value : Int) = call.epoch := by
  cases call with
  | clear => exact update_alarm_confirmed h
  | set epoch =>
    obtain ⟨now, rest, rfl, hrest⟩ := h.of_ask_then
    obtain ⟨_, -, hupdate⟩ := hrest.of_lift_then
    obtain ⟨path, value, hselected, hread, hvalue⟩ := update_alarm_confirmed hupdate
    exact ⟨path, value, selected_prepend hselected [_], last_read_prepend hread [_], hvalue⟩

/-! ## The stock interfaces -/

/-- Every interface that was selected was written, and then every one that the
    second selection gives was read. -/
structure StockSet (first second : Inventory) (entry : WolEntry) (policy : WolPolicy)
    (log : List (Event wol_io)) : Prop where
  parts : ∃ selected again front reads,
    Network.Selection first stock entry.automatic_pci_count selected ∧
    Network.Selection second selected selected.length again ∧
    log = front ++ ⟨.socket, .ok ()⟩ :: reads ++ [⟨.close, ()⟩] ∧ Network.written front = selected ∧
    List.Forall₂ (Network.Seen policy) again reads

theorem set_stock_confirmed {entry : WolEntry} {policy p : WolPolicy} {log : List (Event wol_io)}
    (h : Logs (set_stock strerror first second entry policy) () (.ok p) () log) :
    p = policy ∧ StockSet first second entry policy log := by
  obtain ⟨_, c₁, set, nothing, rfl, hset, hpure⟩ := h.of_bind_ok
  obtain ⟨hp, -, rfl⟩ := hpure.of_pure
  refine ⟨Except.ok.inj hp, ?_⟩
  rw [List.append_nil]
  rcases Network.set_policy_logs hset with ⟨hne, -⟩ | ⟨selected, hbehind⟩
  · exact absurd rfl hne
  obtain ⟨queries, writes, tail, done, rfl, hasked, hwrote, -, htail, hok⟩ := hbehind.parts
  obtain ⟨rfl, reads, rfl, hreads⟩ := hok rfl
  obtain ⟨again, seen, hagain, rfl, hseen⟩ := Network.read_policy_logs hreads
  refine ⟨done, again, ⟨.socket, .ok ()⟩ :: queries ++ writes ++ [⟨.close, ()⟩], seen,
    Network.selection hbehind.select, Network.selection hagain, by simp, ?_, hseen⟩
  exact Network.written_parts rfl hasked hwrote rfl

/-! ## The result -/

/-- What the hardware showed of a request that was carried out. -/
inductive Confirmed (first second : Inventory) (args : WakeArgs) (identity : MachineIdentity) :
    WakeRequest → WakeLog → Prop where
  | alarm {entry : RtcEntry} {request : RtcRequest} {call : AlarmCall} {log : RtcLog} {path : Text}
      {value : Nat} (hcall : request.call = some call)
      (hentry : Mapped rtc_profiles RtcEntry.key args identity entry)
      (hselected : Selected entry.profile log path) (hread : LastRead log path value)
      (hvalue : (value : Int) = call.epoch) :
      Confirmed first second args identity (.rtc request) (rtc_part.events log)
  | named {entry : WolEntry} {name id : Text} {policy : WolPolicy} {index : Nat}
      {n : Except Errno Unit} {info : WolInfo} {front rest : List (Event net_io)}
      (hname : args.interface = some name)
      (hentry : Mapped wol_profiles WolEntry.key args identity entry)
      (hready : Ready entry name id index front) (hstored : Stored entry name id index policy n info rest) :
      Confirmed first second args identity (.wol (.set policy)) (net_part.events
        (front ++ ⟨.wol (.set name (desired policy)), n⟩ :: rest ++ [⟨.wol .close, ()⟩]))
  | stock {entry : WolEntry} {policy : WolPolicy} {log : List (Event wol_io)}
      (hname : args.interface = none)
      (hentry : Mapped wol_profiles WolEntry.key args identity entry)
      (hset : StockSet first second entry policy log) :
      Confirmed first second args identity (.wol (.set policy)) (net_part.events (wol_part.events log))

theorem Performs.confirmed {identity : MachineIdentity} {ok : Prop} {request : WakeRequest}
    {body : WakeLog} (h : Performs strerror first second args identity ok request body) (hok : ok)
    (hwrite : request.write = true) : Confirmed first second args identity request body := by
  cases h with
  | rtc_read hentry hran => cases hwrite
  | rtc_write hcall hentry hran =>
    obtain ⟨x, log, rfl, hlogs, hx⟩ := hran
    obtain ⟨_, rfl⟩ := hx hok
    obtain ⟨path, value, hselected, hread, hvalue⟩ := perform_confirmed hlogs
    exact .alarm hcall hentry hselected hread hvalue
  | @wol entry request body hentry hran =>
    obtain ⟨x, log, rfl, hlogs, hx⟩ := hran
    obtain ⟨p, rfl⟩ := hx hok
    cases request with
    | get => cases hwrite
    | set policy =>
      cases hname : args.interface with
      | some name =>
        rw [hname] at hlogs
        cases wol_interface_logs hlogs with
        | refused hr hlog hclosed =>
          obtain ⟨e, he⟩ := hr
          cases he
        | wrote hready hrest hstored =>
          obtain ⟨-, info, hstored⟩ := hstored p rfl
          exact .named hname hentry hready hstored
      | none =>
        rw [hname] at hlogs
        obtain ⟨log, rfl, hset⟩ := hlogs.of_via
        exact .stock hname hentry (set_stock_confirmed hset).2

theorem Requested.unique {rtc' : Bool} {args' : WakeArgs} {request request' : WakeRequest}
    (h : Requested argv rtc args request) (h' : Requested argv rtc' args' request') :
    rtc = rtc' ∧ args = args' ∧ request = request' := by
  obtain rfl := Option.some.inj (h.subsystem.symm.trans h'.subsystem)
  obtain rfl := Except.ok.inj (h.parsed.symm.trans h'.parsed)
  exact ⟨rfl, rfl, Except.ok.inj (h.request.symm.trans h'.request)⟩

/-- A command that is to write, has `--apply` and says that it succeeded has
    found its machine, taken the lock, found the machine again, and then the
    hardware has shown what was asked for: the alarm of the one RTC that belongs
    to the machine was read last with the epoch, the interface that was named is
    the one that was looked at and has the policy, or all interfaces of the
    second selection have it. -/
theorem success_confirmed {r : Except String (Option (List String))} {lines : List String}
    {log : WakeLog} {request : WakeRequest}
    (h : Logs (wake_cli strerror first second argv) () r () log) (hr : r = .ok (some lines))
    (hrequested : Requested argv rtc args request) (hwrite : request.write = true)
    (happly : args.apply = true) :
    ∃ memory st checks body, st.trusted = true ∧ (∀ e ∈ checks, e.1 = .time) ∧
      log = ⟨.identity, .ok memory⟩ :: checks ++ locked rtc st memory ++ body ++ [⟨.close_lock, ()⟩] ∧
      Confirmed first second args (identity_of memory) request body := by
  rcases wake_cli_logs h with ⟨-, hnone⟩ | ⟨rtc', args', request', hrequested', hconduct⟩
  · exact absurd hr (hnone lines)
  obtain ⟨rfl, rfl, rfl⟩ := hrequested.unique hrequested'
  have hok : ∃ lines, r = .ok (some lines) := ⟨lines, hr⟩
  cases hconduct with
  | idle hidle hdry =>
    rcases hdry hok with rfl | ⟨-, hfalse⟩
    · cases hwrite
    · rw [hfalse] at happly
      cases happly
  | read hread hperforms =>
    rw [hread] at hwrite
    cases hwrite
  | write _ hforce htrusted hchecks hperforms =>
    exact ⟨_, _, _, _, htrusted, hchecks, rfl, hperforms.confirmed hok hwrite⟩

/-- The arguments of the run in which an alarm is set. -/
def set_args : WakeArgs where
  apply := true
  force := true
  positionals := ["power".toList, "rtc-wake".toList, "set".toList, "1760003600".toList]

theorem requested_set : Requested set_argv true set_args (.rtc (.set 1760003600)) where
  subsystem := rfl
  parsed := rfl
  request := rfl

theorem success_confirmed_set :
    set_run.1.1 = .ok (some [rtc_written 1760003600]) ∧
      ∃ memory st checks body, st.trusted = true ∧ (∀ e ∈ checks, e.1 = .time) ∧
        set_run.2 = ⟨.identity, .ok memory⟩ :: checks ++ locked true st memory ++ body ++
          [⟨.close_lock, ()⟩] ∧
        Confirmed no_inventory no_inventory set_args (identity_of memory) (.rtc (.set 1760003600))
          body := by
  have hok : set_run.1.1 = .ok (some [rtc_written 1760003600]) := by decide +kernel
  have hruns := exec_logs (show set_run = Prog.exec wake_machine
    ((wake_cli (fun _ => "") no_inventory no_inventory set_argv).run ()) [] from rfl)
  exact ⟨hok, success_confirmed hruns hok requested_set rfl rfl⟩

end UgreenNas.Wake
