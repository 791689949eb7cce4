import UgreenNas.Network.Selection

/-! # A policy is set and read back (`network/wol.c`)

    Nothing is written before every selected interface was asked.  Behind the
    writes the interfaces are selected once more, from the ones that were
    written, and the machine may have changed: where one of them is gone and
    as many others are there, it is these that are read back.
-/

namespace UgreenNas.Network

open DiskMap Effect Effect.Proc
open Led (Failure failure)

variable {strerror : Errno → String} {first second : Inventory} {firmware selected : List Text}
  {renamed : Nat} {policy : WolPolicy} {c c' : Unit} {r : Except Failure Unit} {log : List (Event wol_io)}

/-! ## Logs -/

/-- The interfaces that are written. -/
def written (log : List (Event wol_io)) : List Text :=
  log.filterMap fun e => match e.1 with
    | .set interface _ => some interface
    | _ => none

theorem written_append (log log' : List (Event wol_io)) :
    written (log ++ log') = written log ++ written log' :=
  List.filterMap_append ..

def NoWrite (o : WolOp) : Prop := ∀ interface wolopts, o ≠ .set interface wolopts

theorem written_nil (h : ∀ e ∈ log, NoWrite e.1) : written log = [] := by
  unfold written
  rw [List.filterMap_eq_nil_iff]
  intro e he
  have hno := h e he
  obtain ⟨o, b⟩ := e
  cases o with
  | set interface wolopts => exact absurd rfl (hno interface wolopts)
  | socket => rfl
  | get interface => rfl
  | close => rfl

/-- An interface was asked, and supports magic packets. -/
def Asked (interface : Text) (e : Event wol_io) : Prop :=
  ∃ info, e = ⟨.get interface, .ok info⟩ ∧ info.supported &&& WAKE_MAGIC ≠ 0

/-- The policy of an interface was read. -/
def Seen (policy : WolPolicy) (interface : Text) (e : Event wol_io) : Prop :=
  ∃ info, e = ⟨.get interface, .ok info⟩ ∧ info.policy = policy

/-- A policy was asked for. -/
def Wrote (policy : WolPolicy) (interface : Text) (e : Event wol_io) : Prop :=
  ∃ n, e = ⟨.set interface (desired policy), n⟩

/-! ## One interface -/

theorem query_logs {interface : Text} {r : Except Failure WolInfo}
    (h : Logs (query_interface strerror interface) c r c' log) :
    ∃ answer, log = [⟨.get interface, answer⟩] ∧
      ∀ info, r = .ok info → answer = .ok info ∧ info.supported &&& WAKE_MAGIC ≠ 0 := by
  obtain ⟨answer, rest, rfl, hrest⟩ := h.of_ask_then
  cases answer with
  | error e =>
    cases hrest
    exact ⟨.error e, rfl, fun info hinfo => by cases hinfo⟩
  | ok info =>
    by_cases hmagic : info.supported &&& WAKE_MAGIC = 0
    · have hfails : (bail (info.supported &&& WAKE_MAGIC = 0) (failure .EOPNOTSUPP
          s!"interface {String.ofList interface} does not support magic-packet Wake-on-LAN") >>=
          fun _ => pure info : Wol WolInfo) = fail _ := bail_pos hmagic _ _
      have hrest : Logs (bail (info.supported &&& WAKE_MAGIC = 0) _ >>= fun _ => pure info : Wol WolInfo)
        c r c' rest := hrest
      rw [hfails] at hrest
      obtain ⟨rfl, -, rfl⟩ := hrest.of_fail
      exact ⟨.ok info, rfl, fun info hinfo => by cases hinfo⟩
    · have hrest : Logs (bail (info.supported &&& WAKE_MAGIC = 0) _ >>= fun _ => pure info : Wol WolInfo)
        c r c' rest := hrest
      rw [bail_neg hmagic] at hrest
      obtain ⟨rfl, -, rfl⟩ := hrest.of_pure
      refine ⟨.ok info, rfl, ?_⟩
      intro info' hinfo
      cases hinfo
      exact ⟨rfl, hmagic⟩

theorem check_logs {interface : Text}
    (h : Logs (check_interface strerror interface) c r c' log) :
    ∃ e, log = [e] ∧ NoWrite e.1 ∧ (r = .ok () → Asked interface e) := by
  have hno : ∀ answer, NoWrite (⟨.get interface, answer⟩ : Event wol_io).1 :=
    fun _ _ _ => WolOp.noConfusion
  rcases h.of_bind with ⟨info, c₁, one, two, rfl, hquery, hpure⟩ | ⟨e, rfl, hquery⟩
  · obtain ⟨answer, rfl, hanswer⟩ := query_logs hquery
    obtain ⟨-, -, rfl⟩ := hpure.of_pure
    obtain ⟨hok, hmagic⟩ := hanswer info rfl
    refine ⟨_, rfl, hno answer, ?_⟩
    intro _
    rw [hok]
    exact ⟨info, rfl, hmagic⟩
  · obtain ⟨answer, rfl, -⟩ := query_logs hquery
    exact ⟨_, rfl, hno answer, fun h => by cases h⟩

theorem write_logs {interface : Text}
    (h : Logs (write_interface strerror policy interface) c r c' log) :
    ∃ e, log = [e] ∧ Wrote policy interface e := by
  obtain ⟨answer, rest, rfl, hrest⟩ := h.of_ask_then
  obtain ⟨-, -, rfl⟩ := hrest.of_lift
  exact ⟨_, rfl, answer, rfl⟩

theorem asked_no_write {interface : Text} {e : Event wol_io} (h : Asked interface e) : NoWrite e.1 := by
  obtain ⟨info, rfl, -⟩ := h
  exact fun _ _ => WolOp.noConfusion

theorem written_wrote {interfaces : List Text} (h : List.Forall₂ (Wrote policy) interfaces log) :
    written log = interfaces := by
  induction h with
  | nil => rfl
  | cons hone _ ih =>
    obtain ⟨n, rfl⟩ := hone
    show _ :: written _ = _
    rw [ih]

theorem written_forall₂ {R : Text → Event wol_io → Prop} (hR : ∀ i e, R i e → NoWrite e.1)
    {interfaces : List Text} (h : List.Forall₂ R interfaces log) : written log = [] := by
  apply written_nil
  induction h with
  | nil => exact fun e he => absurd he List.not_mem_nil
  | cons hone _ ih =>
    intro e he
    rcases List.mem_cons.mp he with rfl | he
    · exact hR _ _ hone
    · exact ih e he

/-! ## The loops -/

/-- Both loops: without a write, or with a write of the first interfaces when
    all of them were asked. -/
theorem write_all_logs {mapped : List Text}
    (h : Logs (write_all strerror policy mapped) c r c' log) :
    (r ≠ .ok () ∧ written log = []) ∨
      ∃ queries writes done, log = queries ++ writes ∧ List.Forall₂ Asked mapped queries ∧
        List.Forall₂ (Wrote policy) done writes ∧ done <+: mapped ∧ (r = .ok () → done = mapped) := by
  have hasks : ∀ {l c r c' log}, Logs (each (check_interface strerror) l) c r c' log →
      (r = .ok () ∧ List.Forall₂ Asked l log) ∨ (r ≠ .ok () ∧ written log = []) := by
    intro l c r c' log h
    rcases h.each_single (R := fun i r e => NoWrite e.1 ∧ (r = .ok () → Asked i e))
      (fun i c r c' log h => check_logs h) with ⟨hr, hall⟩ | ⟨done, i, rest, front, e, x, -, rfl, hr, hdone, he⟩
    · exact .inl ⟨hr, hall.imp fun i e he => he.2 rfl⟩
    · refine .inr ⟨fun h => (by rw [hr] at h; cases h), ?_⟩
      rw [written_append, written_forall₂ (fun i e he => he.1) hdone,
        written_nil (fun e' he' => by rw [List.mem_singleton.mp he']; exact he.1)]
      rfl
  rcases h.of_bind with ⟨_, c₁, queries, writes, rfl, hqueries, hwrites⟩ | ⟨e, rfl, hqueries⟩
  · rcases hasks hqueries with ⟨-, hasked⟩ | ⟨hne, -⟩
    · right
      rcases hwrites.each_single (R := fun i _ e => Wrote policy i e)
        (fun i c r c' log h => write_logs h) with
        ⟨-, hall⟩ | ⟨done, i, rest, front, e, x, hl, rfl, hr, hdone, he⟩
      · exact ⟨queries, writes, mapped, rfl, hasked, hall, List.prefix_refl _, fun _ => rfl⟩
      · refine ⟨queries, front ++ [e], done ++ [i], rfl, hasked, ?_, ?_, ?_⟩
        · exact List.rel_append hdone (.cons he .nil)
        · rw [hl]
          exact ⟨rest, by rw [List.append_assoc]; rfl⟩
        · intro h
          rw [hr] at h
          cases h
    · exact absurd rfl hne
  · rcases hasks hqueries with ⟨h, -⟩ | ⟨hne, hnone⟩
    · cases h
    · exact .inl ⟨hne, hnone⟩

theorem observe_logs {observed : WolPolicy} {interface : Text} {policy : WolPolicy}
    (h : Logs (observe strerror observed interface) c (.ok policy) c' log) :
    ∃ e, log = [e] ∧ Seen policy interface e ∧ (observed = .unknown ∨ observed = policy) := by
  obtain ⟨info, c₁, one, two, rfl, hquery, hrest⟩ := h.of_bind_ok
  obtain ⟨answer, rfl, hanswer⟩ := query_logs hquery
  obtain ⟨hsame, hpure⟩ := hrest.of_bail_then
  obtain ⟨hpolicy, -, rfl⟩ := hpure.of_pure
  obtain ⟨rfl, -⟩ := hanswer info rfl
  have hpolicy : policy = info.policy := Except.ok.inj hpolicy
  refine ⟨_, rfl, ⟨info, rfl, hpolicy.symm⟩, ?_⟩
  rw [hpolicy]
  by_cases hunknown : observed = .unknown
  · exact .inl hunknown
  · right
    by_contra hother
    exact hsame ⟨hunknown, hother⟩

theorem policy_known (info : WolInfo) : info.policy ≠ .unknown := by
  unfold WolInfo.policy
  split
  · decide
  · decide

/-- All interfaces that are read have the policy that is returned. -/
theorem fold_logs {observed policy : WolPolicy} {interfaces : List Text}
    (h : Logs (fold (observe strerror) observed interfaces) c (.ok policy) c' log) :
    List.Forall₂ (Seen policy) interfaces log ∧
      (observed = policy ∨ (observed = .unknown ∧ interfaces ≠ [])) := by
  induction interfaces generalizing c log observed with
  | nil =>
    obtain ⟨hpolicy, -, rfl⟩ := h.of_pure
    exact ⟨.nil, .inl (Except.ok.inj hpolicy).symm⟩
  | cons interface rest ih =>
    obtain ⟨next, c₁, one, two, rfl, hone, hrest⟩ := h.of_bind_ok
    obtain ⟨e, rfl, hseen, hfits⟩ := observe_logs hone
    obtain ⟨hall, hnext⟩ := ih hrest
    obtain ⟨info, rfl, hinfo⟩ := hseen
    have hsame : next = policy := by
      rcases hnext with heq | ⟨hunknown, -⟩
      · exact heq
      · rw [hunknown] at hinfo
        exact absurd hinfo (policy_known info)
    rw [hsame] at hinfo hfits
    refine ⟨.cons ⟨info, rfl, hinfo⟩ hall, ?_⟩
    rcases hfits with hunknown | heq
    · exact .inr ⟨hunknown, List.cons_ne_nil _ _⟩
    · exact .inl heq

/-! ## The calls -/

/-- A policy that is read is that of the interfaces that its selection gives. -/
theorem read_policy_logs {interfaces : List Text}
    (h : Logs (read_policy strerror second interfaces) c (.ok policy) c' log) :
    ∃ again reads, select_interfaces strerror second interfaces interfaces.length = .ok again ∧
      log = ⟨.socket, .ok ()⟩ :: reads ++ [⟨.close, ()⟩] ∧ List.Forall₂ (Seen policy) again reads := by
  obtain ⟨-, hselect⟩ := h.of_bail_then
  obtain ⟨again, hagain, hopen⟩ := hselect.of_lift_then
  obtain ⟨_, c₁, one, two, rfl, hsocket, hrest⟩ := hopen.of_bind_ok
  obtain ⟨fd, rest, rfl, hfd⟩ := hsocket.of_ask_then
  obtain ⟨hfd, -, rfl⟩ := hfd.of_lift
  obtain ⟨x, c₂, reads, close, rfl, hreads, hclose⟩ := hrest.of_always
  rcases hclose with ⟨hclose, rfl⟩ | ⟨e, -, hr⟩
  · obtain ⟨-, -, -, rfl⟩ := hclose.of_ask
    cases fd with
    | error e => cases hfd
    | ok _ => exact ⟨again, reads, hagain, rfl, (fold_logs hreads).1⟩
  · cases hr

theorem asks_read_policy (interfaces : List Text) :
    Asks (S := wol_io) NoWrite (read_policy strerror second interfaces) := by
  have hio : ∀ {o : WolOp}, NoWrite o → Asks (S := wol_io) NoWrite (io o) := fun ho => asks_ask ho
  have hquery : ∀ interface, Asks (S := wol_io) NoWrite (query_interface strerror interface) :=
    fun interface => (hio fun _ _ => WolOp.noConfusion).bind fun _ => (asks_lift _).bind fun _ =>
      (asks_bail _ _).bind fun _ => asks_pure _
  have hobserve : ∀ observed interface,
      Asks (S := wol_io) NoWrite (observe strerror observed interface) :=
    fun _ interface => (hquery interface).bind fun _ => (asks_bail _ _).bind fun _ => asks_pure _
  have hclose : Asks (S := wol_io) NoWrite (io .close) := hio fun _ _ => WolOp.noConfusion
  have hopen : Asks (S := wol_io) NoWrite (open_socket strerror) :=
    (hio fun _ _ => WolOp.noConfusion).bind fun _ => asks_lift _
  exact (asks_bail _ _).bind fun _ => (asks_lift _).bind fun _ => hopen.bind fun _ =>
    (asks_fold hobserve).always hclose

/-- What was read is a policy. -/
theorem read_policy_known {interfaces : List Text}
    (hfew : interfaces.length ≤ MAX_RUNTIME_INTERFACES)
    (h : Logs (read_policy strerror second interfaces) c (.ok policy) c' log) : policy ≠ .unknown := by
  obtain ⟨again, reads, hagain, -, hall⟩ := read_policy_logs h
  cases hall with
  | nil => exact absurd rfl (selected_valid hagain hfew).1.some
  | cons hone _ =>
    obtain ⟨info, -, hinfo⟩ := hone
    rw [← hinfo]
    exact policy_known info

/-! ## A policy that is set -/

/-- What is behind a call that wrote: the interfaces that were selected and
    asked, those that were written, and, if it succeeded, the readback. -/
structure Behind (strerror : Errno → String) (first second : Inventory) (firmware : List Text)
    (renamed : Nat) (policy : WolPolicy) (r : Except Failure Unit) (log : List (Event wol_io))
    (selected : List Text) : Prop where
  select : select_interfaces strerror first firmware renamed = .ok selected
  known : policy ≠ .unknown
  few : firmware.length ≤ MAX_RUNTIME_INTERFACES
  parts : ∃ queries writes tail done, log = ⟨.socket, .ok ()⟩ :: queries ++ writes ++ tail ∧
    List.Forall₂ Asked selected queries ∧ List.Forall₂ (Wrote policy) done writes ∧
    done <+: selected ∧ written tail = [] ∧ (r = .ok () → done = selected ∧
      ∃ reads, tail = ⟨.close, ()⟩ :: reads ∧
        Logs (read_policy strerror second selected) () (.ok policy) () reads)

theorem desired_inj {observed : WolPolicy} (hobserved : observed ≠ .unknown) (hpolicy : policy ≠ .unknown)
    (h : desired observed = desired policy) : observed = policy := by
  cases observed with
  | unknown => exact absurd rfl hobserved
  | on =>
    cases policy with
    | unknown => exact absurd rfl hpolicy
    | on => rfl
    | off => exact absurd h (by decide)
  | off =>
    cases policy with
    | unknown => exact absurd rfl hpolicy
    | on => exact absurd h (by decide)
    | off => rfl

theorem set_policy_logs
    (h : Logs (set_policy_with_renamed_count strerror first second firmware renamed policy) c r c' log) :
    (r ≠ .ok () ∧ written log = []) ∨
      ∃ selected, Behind strerror first second firmware renamed policy r log selected := by
  have hfailed : ∀ {e : Failure} {r : Except Failure Unit}, r = .error e → r ≠ .ok () := by
    intro e r hr hok
    rw [hr] at hok
    cases hok
  unfold set_policy_with_renamed_count at h
  by_cases hknown : policy = .unknown
  · rw [bail_pos hknown] at h
    obtain ⟨hr, -, rfl⟩ := h.of_fail
    exact .inl ⟨hfailed hr, rfl⟩
  rw [bail_neg hknown] at h
  by_cases hmany : too_many firmware.length renamed
  · rw [bail_pos hmany] at h
    obtain ⟨hr, -, rfl⟩ := h.of_fail
    exact .inl ⟨hfailed hr, rfl⟩
  rw [bail_neg hmany] at h
  have hfew : firmware.length ≤ MAX_RUNTIME_INTERFACES := by
    unfold too_many at hmany
    omega
  cases hselect : select_interfaces strerror first firmware renamed with
  | error e =>
    rw [hselect] at h
    obtain ⟨hr, -, rfl⟩ := Logs.of_fail (e := e) h
    exact .inl ⟨hfailed hr, rfl⟩
  | ok selected =>
    rw [hselect] at h
    have h : Logs (open_socket strerror >>= fun _ => always (write_all strerror policy selected)
      (io .close) >>= fun _ => read_policy strerror second selected >>= fun observed =>
        bail (desired observed ≠ desired policy) (failure Errno.EIO
          "Wake-on-LAN readback did not match requested policy")) c r c' log := h
    rcases h.of_bind with ⟨_, c₁, one, rest, rfl, hsocket, hrest⟩ | ⟨e, hr, hsocket⟩
    · obtain ⟨fd, none, rfl, hfd⟩ := hsocket.of_ask_then
      obtain ⟨hfd, -, rfl⟩ := hfd.of_lift
      cases fd with
      | error e => cases hfd
      | ok _ =>
        rcases hrest.of_bind with ⟨_, c₂, body, reads, rfl, halways, hreadback⟩ | ⟨e, hr, halways⟩
        · right
          obtain ⟨x, c₃, loops, close, rfl, hloops, hclose⟩ := halways.of_always
          have hclosed : close = [⟨.close, ()⟩] ∧ x = .ok () := by
            rcases hclose with ⟨hclose, hx⟩ | ⟨e, -, hx⟩
            · obtain ⟨_, -, -, hlog⟩ := hclose.of_ask
              exact ⟨hlog, hx.symm⟩
            · cases hx
          obtain ⟨rfl, rfl⟩ := hclosed
          rcases write_all_logs hloops with ⟨hne, -⟩ | ⟨queries, writes, done, rfl, hasked, hwrote, -, hdone⟩
          · exact absurd rfl hne
          · obtain rfl := hdone rfl
            have hquiet : written reads = [] := written_nil
              (((asks_read_policy done).bind fun _ => asks_bail _ _).log hreadback)
            refine ⟨done, hselect, hknown, hfew, queries, writes, ⟨.close, ()⟩ :: reads, done, ?_,
              hasked, hwrote, List.prefix_refl _, hquiet, ?_⟩
            · simp only [List.append_assoc, List.cons_append, List.nil_append]
            · intro hr
              rw [hr] at hreadback
              obtain ⟨observed, c₄, read, last, rfl, hread, hbail⟩ := hreadback.of_bind_ok
              obtain ⟨hsame, -, rfl⟩ := hbail.of_bail
              have hobserved := read_policy_known (selected_valid hselect hfew).2.2 hread
              rw [desired_inj hobserved hknown (not_not.mp hsame)] at hread
              rw [List.append_nil]
              exact ⟨rfl, read, rfl, hread⟩
        · obtain ⟨x, c₃, loops, close, rfl, hloops, hclose⟩ := halways.of_always
          have hclosed : close = [⟨.close, ()⟩] ∧ x = .error e := by
            rcases hclose with ⟨hclose, hx⟩ | ⟨e', hclose, -⟩
            · obtain ⟨_, -, -, hlog⟩ := hclose.of_ask
              exact ⟨hlog, hx.symm⟩
            · obtain ⟨_, hr, -⟩ := hclose.of_ask
              cases hr
          obtain ⟨rfl, rfl⟩ := hclosed
          rcases write_all_logs hloops with ⟨-, hnone⟩ | ⟨queries, writes, done, rfl, hasked, hwrote, hprefix, -⟩
          · left
            refine ⟨hfailed hr, ?_⟩
            rw [written_append, written_append, hnone]
            rfl
          · right
            refine ⟨selected, hselect, hknown, hfew, queries, writes, [⟨.close, ()⟩], done, ?_, hasked,
              hwrote, hprefix, rfl, fun hok => absurd hok (hfailed hr)⟩
            simp only [List.append_assoc, List.cons_append, List.nil_append]
    · obtain ⟨fd, none, rfl, hfd⟩ := hsocket.of_ask_then
      obtain ⟨-, -, rfl⟩ := hfd.of_lift
      exact .inl ⟨hfailed hr, rfl⟩

/-! ## The result -/

/-- An interface that was written has the policy when it is read behind the
    last write. -/
def ReadBack (log : List (Event wol_io)) (interface : Text) (policy : WolPolicy) : Prop :=
  ∃ before info after, log = before ++ (⟨.get interface, .ok info⟩ : Event wol_io) :: after ∧
    info.policy = policy ∧ interface ∈ written before ∧ written after = []

/-- What a call that sets a policy should show. -/
structure PolicySet (first : Inventory) (firmware : List Text) (renamed : Nat) (policy : WolPolicy)
    (r : Except Failure Unit) (log : List (Event wol_io)) : Prop where
  /-- The interfaces that are written are those of the selection, and all of
      these were asked before and support magic packets. -/
  preflighted : (r ≠ .ok () ∧ written log = []) ∨
    ∃ selected, Selection first firmware renamed selected ∧ written log <+: selected ∧
      (r = .ok () → written log = selected) ∧
      ∀ before interface wolopts n after, log = before ++ ⟨.set interface wolopts, n⟩ :: after →
        wolopts = desired policy ∧ ∀ i ∈ selected, ∃ e ∈ before, Asked i e
  /-- A call that succeeds has read back every interface it wrote. -/
  verified : r = .ok () → ∀ interface ∈ written log, ReadBack log interface policy

/-- Behind the writes an interface is gone, and the physical ones are as many
    as were written, but not the same. -/
structure Replaced (first second : Inventory) (firmware : List Text) (renamed : Nat)
    (policy : WolPolicy) : Prop where
  known : policy ≠ .unknown
  few : firmware.length ≤ MAX_RUNTIME_INTERFACES
  valid : Valid firmware
  count : 0 < renamed ∧ renamed ≤ MAX_RUNTIME_INTERFACES
  lost : ∃ selected, Selection first firmware renamed selected ∧ ¬ AllPresent second selected ∧
    ∃ entries, second.entries = .ok entries ∧ (physical second entries).length = selected.length ∧
      ∃ interface ∈ selected, ∀ found ∈ physical second entries, found.name ≠ interface

/-- What a log goes on with behind its first part. -/
theorem behind_front {front rest before after : List (Event wol_io)} {e : Event wol_io}
    (h : front ++ rest = before ++ e :: after) (hnot : ¬ before ++ [e] <+: front) :
    ∃ middle, before = front ++ middle ∧ rest = middle ++ e :: after := by
  rcases List.append_eq_append_iff.mp h with ⟨middle, hbefore, hrest⟩ | ⟨more, hfront, hrest⟩
  · exact ⟨middle, hbefore, hrest⟩
  · cases more with
    | nil =>
      rw [List.append_nil] at hfront
      exact ⟨[], by rw [List.append_nil, hfront], hrest.symm⟩
    | cons x more =>
      rw [List.cons_append] at hrest
      obtain ⟨rfl, -⟩ := List.cons.inj hrest
      exact absurd ⟨more, by rw [hfront, List.append_assoc]; rfl⟩ hnot

theorem forall₂_mem {α β : Type} {R : α → β → Prop} {l : List α} {l' : List β}
    (h : List.Forall₂ R l l') : (∀ a ∈ l, ∃ b ∈ l', R a b) ∧ ∀ b ∈ l', ∃ a ∈ l, R a b := by
  induction h with
  | nil => exact ⟨fun a ha => absurd ha List.not_mem_nil, fun b hb => absurd hb List.not_mem_nil⟩
  | cons hone _ ih =>
    constructor
    · intro a ha
      rcases List.mem_cons.mp ha with rfl | ha
      · exact ⟨_, List.mem_cons_self, hone⟩
      · obtain ⟨b, hb, hR⟩ := ih.1 a ha
        exact ⟨b, List.mem_cons_of_mem _ hb, hR⟩
    · intro b hb
      rcases List.mem_cons.mp hb with rfl | hb
      · exact ⟨_, List.mem_cons_self, hone⟩
      · obtain ⟨a, ha, hR⟩ := ih.2 b hb
        exact ⟨a, List.mem_cons_of_mem _ ha, hR⟩

theorem written_parts {queries writes tail : List (Event wol_io)}
    {done : List Text} (hlog : log = ⟨.socket, .ok ()⟩ :: queries ++ writes ++ tail)
    (hasked : List.Forall₂ Asked selected queries) (hwrote : List.Forall₂ (Wrote policy) done writes)
    (htail : written tail = []) : written log = done := by
  have hqueries : written queries = [] := written_forall₂ (fun _ _ => asked_no_write) hasked
  rw [hlog, written_append, written_append, htail, written_wrote hwrote, List.append_nil]
  show written queries ++ done = done
  rw [hqueries, List.nil_append]

/-- A call that came to the writes had asked all interfaces. -/
theorem Behind.preflighted
    (h : Behind strerror first second firmware renamed policy r log selected) :
    Selection first firmware renamed selected ∧ written log <+: selected ∧
      (r = .ok () → written log = selected) ∧
      ∀ before interface wolopts n after, log = before ++ ⟨.set interface wolopts, n⟩ :: after →
        wolopts = desired policy ∧ ∀ i ∈ selected, ∃ e ∈ before, Asked i e := by
  obtain ⟨queries, writes, tail, done, hlog, hasked, hwrote, hprefix, htail, hok⟩ := h.parts
  have hwritten := written_parts hlog hasked hwrote htail
  rw [hwritten]
  refine ⟨selection h.select, hprefix, fun hr => (hok hr).1, ?_⟩
  intro before interface wolopts n after hsplit
  have hfront : (⟨.set interface wolopts, n⟩ : Event wol_io) ∉
      (⟨.socket, .ok ()⟩ : Event wol_io) :: queries := by
    intro hmem
    rcases List.mem_cons.mp hmem with heq | hmem
    · cases heq
    · obtain ⟨i, -, hi⟩ := (forall₂_mem hasked).2 _ hmem
      exact asked_no_write hi interface wolopts rfl
  rw [hlog, List.append_assoc] at hsplit
  obtain ⟨middle, rfl, hrest⟩ := behind_front hsplit fun h =>
    hfront (h.subset (List.mem_append_right _ List.mem_cons_self))
  constructor
  · have hmem : (⟨.set interface wolopts, n⟩ : Event wol_io) ∈ writes ++ tail := by
      rw [hrest]
      exact List.mem_append_right _ List.mem_cons_self
    rcases List.mem_append.mp hmem with hmem | hmem
    · obtain ⟨i, -, n', hi⟩ := (forall₂_mem hwrote).2 _ hmem
      cases hi
      rfl
    · have hnone : interface ∈ written tail := List.mem_filterMap.mpr ⟨_, hmem, rfl⟩
      rw [htail] at hnone
      exact absurd hnone List.not_mem_nil
  · intro i hi
    obtain ⟨e, he, hasks⟩ := (forall₂_mem hasked).1 i hi
    exact ⟨e, List.mem_append_left _ (List.mem_cons_of_mem _ he), hasks⟩

/-- The interfaces that are read back, when none was replaced. -/
theorem selected_again (hnot : ¬ Replaced first second firmware renamed policy)
    (h : Behind strerror first second firmware renamed policy r log selected) {again : List Text}
    (hagain : select_interfaces strerror second selected selected.length = .ok again) :
    ∀ interface ∈ selected, interface ∈ again := by
  obtain ⟨hvalid, hpos, hcount⟩ := selected_valid h.select h.few
  rcases (select_iff hvalid hpos hcount).mp hagain with ⟨-, rfl⟩ | ⟨hlost, hdiscover⟩
  · exact fun interface hmem => hmem
  · obtain ⟨entries, hentries, hlength, rfl⟩ := (discover_iff hcount).mp hdiscover
    intro interface hmem
    by_contra hgone
    have hfirst := select_valid h.select
    apply hnot
    refine ⟨h.known, h.few, hfirst.1, hfirst.2, selected, selection h.select, hlost, entries,
      hentries, hlength, interface, hmem, ?_⟩
    intro found hfound hname
    apply hgone
    rw [← hname]
    exact List.mem_map_of_mem ((List.mem_insertionSort before).mpr hfound)

/-- A call that succeeded has read back what it wrote, if none was replaced. -/
theorem Behind.verified (hnot : ¬ Replaced first second firmware renamed policy)
    (h : Behind strerror first second firmware renamed policy r log selected) (hr : r = .ok ()) :
    ∀ interface ∈ written log, ReadBack log interface policy := by
  obtain ⟨queries, writes, tail, done, hlog, hasked, hwrote, -, htail, hok⟩ := h.parts
  obtain ⟨rfl, readback, rfl, hread⟩ := hok hr
  have hwritten := written_parts hlog hasked hwrote htail
  obtain ⟨again, reads, hagain, hreads, hseen⟩ := read_policy_logs hread
  intro interface hmem
  rw [hwritten] at hmem
  obtain ⟨e, he, info, rfl, hinfo⟩ := (forall₂_mem hseen).1 _ (selected_again hnot h hagain _ hmem)
  obtain ⟨one, two, rfl⟩ := List.append_of_mem he
  -- the reads are behind the writes, and write nothing themselves
  refine ⟨⟨.socket, .ok ()⟩ :: queries ++ writes ++ ⟨.close, ()⟩ :: ⟨.socket, .ok ()⟩ :: one, info,
    two ++ [⟨.close, ()⟩], ?_, hinfo, ?_, ?_⟩
  · rw [hlog, hreads]
    simp only [List.append_assoc, List.cons_append]
  · rw [written_append, written_append, written_wrote hwrote]
    exact List.mem_append_left _ (List.mem_append_right _ hmem)
  · have hquiet : written (⟨.close, ()⟩ :: readback) = [] := htail
    rw [hreads] at hquiet
    have hparts : written (⟨.close, ()⟩ :: ⟨.socket, .ok ()⟩ :: one ++ [⟨.get interface, .ok info⟩]) ++
        written (two ++ [⟨.close, ()⟩]) = [] := by
      rw [← written_append, ← hquiet]
      simp only [List.append_assoc, List.cons_append, List.nil_append]
    exact (List.append_eq_nil_iff.mp hparts).2

/-! ## A call that reads others -/

/-- A machine on which everything succeeds, and the policy is there. -/
def obliging (policy : WolPolicy) : Prog.Handler wol_io Unit
  | _, .socket => (.ok (), ())
  | _, .get _ => (.ok { supported := WAKE_MAGIC, wolopts := desired policy }, ())
  | _, .set _ _ => (.ok (), ())
  | _, .close => ((), ())

/-- What it answers to a query. -/
def answered (policy : WolPolicy) : WolInfo := { supported := WAKE_MAGIC, wolopts := desired policy }

theorem answered_policy (hknown : policy ≠ .unknown) : (answered policy).policy = policy := by
  cases policy with
  | unknown => exact absurd rfl hknown
  | off => rfl
  | on => rfl

theorem does_query (interface : Text) :
    Does (obliging policy) (query_interface strerror interface) () () (answered policy) () () := by
  have hmagic : ¬ WAKE_MAGIC &&& WAKE_MAGIC = 0 := by decide
  exact (does_ask (S := wol_io) (.get interface)).bind
    ((does_lift (answered policy)).bind ((does_bail hmagic _).bind (does_pure _)))

theorem does_open : Does (obliging policy) (open_socket strerror) () () () () () :=
  (does_ask (S := wol_io) .socket).bind (does_lift ())

theorem does_write_all : Does (obliging policy) (write_all strerror policy selected) () () () () () := by
  have hcheck : ∀ interface ∈ selected,
      Does (obliging policy) (check_interface strerror interface) () () () () () :=
    fun interface _ => (does_query interface).bind (does_pure ())
  have hwrite : ∀ interface ∈ selected,
      Does (obliging policy) (write_interface strerror policy interface) () () () () () :=
    fun interface _ => (does_ask (S := wol_io) (.set interface (desired policy))).bind (does_lift ())
  exact (does_each hcheck).bind (does_each hwrite)

theorem does_read_policy {again : List Text} (hknown : policy ≠ .unknown)
    (hfew : selected.length ≤ MAX_RUNTIME_INTERFACES) (hsome : again ≠ [])
    (hagain : select_interfaces strerror second selected selected.length = .ok again) :
    Does (obliging policy) (read_policy strerror second selected) () () policy () () := by
  have hobserve : ∀ observed interface, observed = .unknown ∨ observed = policy →
      Does (obliging policy) (observe strerror observed interface) () () policy () () := by
    intro observed interface hobserved
    have hsame : ¬ (observed ≠ .unknown ∧ observed ≠ (answered policy).policy) := by
      rw [answered_policy hknown]
      tauto
    have hdone : Does (obliging policy) (observe strerror observed interface) () ()
        (answered policy).policy () () :=
      (does_query interface).bind (Does.bail_then hsame (does_pure _))
    rw [answered_policy hknown] at hdone
    exact hdone
  have hmany : ¬ too_many selected.length selected.length := by
    unfold too_many
    omega
  have hselect : Does (obliging policy) (lift (select_interfaces strerror second selected selected.length) :
      Wol (List Text)) () () again () () := by
    rw [hagain]
    exact does_lift again
  apply Does.bail_then hmany
  apply hselect.bind
  apply does_open.bind
  exact (does_fold hobserve (.inr rfl) (.inl rfl) hsome).always (does_ask (S := wol_io) .close)

theorem does_set_policy {again : List Text} (hknown : policy ≠ .unknown)
    (hfew : firmware.length ≤ MAX_RUNTIME_INTERFACES) (hsome : again ≠ [])
    (hselect : select_interfaces strerror first firmware renamed = .ok selected)
    (hagain : select_interfaces strerror second selected selected.length = .ok again) :
    Does (obliging policy)
      (set_policy_with_renamed_count strerror first second firmware renamed policy) () () () () () := by
  have hcount := (select_valid hselect).2.2
  have hmany : ¬ too_many firmware.length renamed := by
    unfold too_many
    omega
  have hlift : Does (obliging policy) (lift (select_interfaces strerror first firmware renamed) :
      Wol (List Text)) () () selected () () := by
    rw [hselect]
    exact does_lift selected
  have hmatch : ¬ desired policy ≠ desired policy := not_not.mpr rfl
  apply Does.bail_then hknown
  apply Does.bail_then hmany
  apply hlift.bind
  apply does_open.bind
  apply (does_write_all.always (does_ask (S := wol_io) .close)).bind
  exact (does_read_policy hknown (selected_valid hselect hfew).2.2 hsome hagain).bind
    (does_bail hmatch _)

/-- What is asked behind a write of a call that succeeds, is of the second
    selection. -/
theorem Behind.asked_again (h : Behind strerror first second firmware renamed policy r log selected)
    (hr : r = .ok ()) {interface : Text} {info : WolInfo} {earlier later : List (Event wol_io)}
    (hsplit : log = earlier ++ ⟨.get interface, .ok info⟩ :: later) (hsome : written earlier ≠ []) :
    ∃ again, select_interfaces strerror second selected selected.length = .ok again ∧
      interface ∈ again := by
  obtain ⟨queries, writes, tail, done, hparts, hasked, hwrote, -, -, hok⟩ := h.parts
  obtain ⟨rfl, readback, rfl, hread⟩ := hok hr
  obtain ⟨again, reads, hagain, hreads, hseen⟩ := read_policy_logs hread
  refine ⟨again, hagain, ?_⟩
  -- it is not one of the queries before the writes, nor a write
  rw [hparts, List.append_assoc] at hsplit
  obtain ⟨middle, rfl, hrest⟩ := behind_front hsplit fun hfront => by
    obtain ⟨more, hmore⟩ := hfront
    have hnone : written ((⟨.socket, .ok ()⟩ : Event wol_io) :: queries) = [] := by
      show written queries = []
      exact written_forall₂ (fun _ _ => asked_no_write) hasked
    rw [← hmore, written_append, written_append] at hnone
    exact hsome (List.append_eq_nil_iff.mp (List.append_eq_nil_iff.mp hnone).1).1
  obtain ⟨gap, -, hbehind⟩ := behind_front hrest fun hfront => by
    have hmem := hfront.subset (List.mem_append_right middle List.mem_cons_self)
    obtain ⟨i, -, n, hi⟩ := (forall₂_mem hwrote).2 _ hmem
    cases hi
  have hmem : (⟨.get interface, .ok info⟩ : Event wol_io) ∈
      ⟨.close, ()⟩ :: ⟨.socket, .ok ()⟩ :: (reads ++ [⟨.close, ()⟩]) := by
    have htail : (⟨.close, ()⟩ : Event wol_io) :: ⟨.socket, .ok ()⟩ :: (reads ++ [⟨.close, ()⟩]) =
        gap ++ ⟨.get interface, .ok info⟩ :: later := by
      rw [← hbehind, hreads]
      rfl
    rw [htail]
    exact List.mem_append_right _ List.mem_cons_self
  have hreadmem : (⟨.get interface, .ok info⟩ : Event wol_io) ∈ reads := by
    rcases List.mem_cons.mp hmem with heq | hmem
    · cases heq
    rcases List.mem_cons.mp hmem with heq | hmem
    · cases heq
    rcases List.mem_append.mp hmem with hmem | hmem
    · exact hmem
    · cases List.mem_singleton.mp hmem
  obtain ⟨i, hi, info', heq, -⟩ := (forall₂_mem hseen).2 _ hreadmem
  cases heq
  exact hi

/-- The second selection is the physical interfaces, when one was replaced. -/
theorem Replaced.selects (strerror : Errno → String)
    (h : Replaced first second firmware renamed policy) :
    ∃ selected again, select_interfaces strerror first firmware renamed = .ok selected ∧
      select_interfaces strerror second selected selected.length = .ok again ∧
      ∃ interface ∈ selected, interface ∉ again := by
  obtain ⟨chosen, hchosen, hlost, entries, hentries, hlength, interface, hmem, hgone⟩ := h.lost
  obtain ⟨selected, hselect, hperm⟩ := @select_of_selection strerror _ _ _ h.valid h.count.1
    h.count.2 chosen hchosen
  obtain ⟨hvalid, hpos, hcount⟩ := selected_valid hselect h.few
  rw [← hperm.length_eq] at hlength
  have hmissing : ¬ AllPresent second selected := fun hall =>
    hlost fun i hi => hall i (hperm.mem_iff.mpr hi)
  have hdiscover : discover_renamed_interfaces strerror second selected.length = .ok _ :=
    (discover_iff hcount).mpr ⟨entries, hentries, hlength, rfl⟩
  refine ⟨selected, _, hselect, (select_iff hvalid hpos hcount).mpr (.inr ⟨hmissing, hdiscover⟩),
    interface, hperm.mem_iff.mpr hmem, ?_⟩
  intro hagain
  obtain ⟨found, hfound, hname⟩ := List.mem_map.mp hagain
  exact hgone found ((List.mem_insertionSort before).mp hfound) hname

/-- A call may succeed and have read others. -/
theorem Replaced.unread (strerror : Errno → String)
    (h : Replaced first second firmware renamed policy) :
    ∃ log, Logs (set_policy_with_renamed_count strerror first second firmware renamed policy)
      () (.ok ()) () log ∧ ¬ PolicySet first firmware renamed policy (.ok ()) log := by
  obtain ⟨selected, again, hselect, hagain, interface, hmem, hgone⟩ :=
    h.selects strerror
  have hvalid := selected_valid hselect h.few
  have hsome : again ≠ [] := (selected_valid hagain hvalid.2.2).1.some
  obtain ⟨log, hlog⟩ := (does_set_policy h.known h.few hsome hselect hagain).logs
  refine ⟨log, hlog, fun hset => ?_⟩
  rcases set_policy_logs hlog with ⟨hne, -⟩ | ⟨selected', hbehind⟩
  · exact hne rfl
  obtain rfl : selected' = selected := Except.ok.inj (hbehind.select.symm.trans hselect)
  have hwritten : interface ∈ written log := by
    rw [hbehind.preflighted.2.2.1 rfl]
    exact hmem
  obtain ⟨earlier, info, later, hsplit, -, hearlier, -⟩ := hset.verified rfl interface hwritten
  obtain ⟨again', hagain', hread⟩ := hbehind.asked_again rfl hsplit (List.ne_nil_of_mem hearlier)
  rw [Except.ok.inj (hagain'.symm.trans hagain)] at hread
  exact hgone hread

/-- A call shows what it should, whatever the machine answers, unless an
    interface was replaced. -/
theorem policy_set_iff (strerror : Errno → String) (first second : Inventory) (firmware : List Text)
    (renamed : Nat) (policy : WolPolicy) :
    (∀ c' r log,
      Logs (set_policy_with_renamed_count strerror first second firmware renamed policy) () r c' log →
        PolicySet first firmware renamed policy r log) ↔
      ¬ Replaced first second firmware renamed policy := by
  constructor
  · intro hall hreplaced
    obtain ⟨log, hlog, hnot⟩ := hreplaced.unread strerror
    exact hnot (hall _ _ _ hlog)
  · intro hnot c' r log h
    rcases set_policy_logs h with hnone | ⟨selected, hbehind⟩
    · exact ⟨.inl hnone, fun hr => absurd hr hnone.1⟩
    · exact ⟨.inr ⟨selected, hbehind.preflighted⟩, hbehind.verified hnot⟩

/-! ## One that is renamed behind the writes -/

/-- A machine with one interface. -/
def one_interface (name : Text) (hname : name ≠ []) : Inventory where
  present interface := interface = name
  uevent interface :=
    if interface = name then
      some { bytes := "PCI_CLASS=20000\nPCI_SLOT_NAME=0000:02:00.0\n".toList, error := false }
    else
      none
  entries := .ok ["lo".toList, name]
  named := by
    intro names hnames hmem
    obtain rfl := Except.ok.inj hnames
    rcases List.mem_cons.mp hmem with heq | hmem
    · exact absurd heq (by decide)
    · exact hname (List.mem_singleton.mp hmem).symm

def with_eth0 : Inventory := one_interface "eth0".toList (by decide)

/-- The same behind the rules of `udev`. -/
def with_enp2s0 : Inventory := one_interface "enp2s0".toList (by decide)

theorem eth0_replaced : Replaced with_eth0 with_enp2s0 ["eth0".toList] 1 .on where
  known := by decide
  few := by decide
  valid := by
    constructor
    · decide
    · intro interface hmem
      rw [List.mem_singleton.mp hmem]
      decide
  count := by decide
  lost := by
    have hthere : with_eth0.has "eth0".toList = true := by decide
    have hgone : with_enp2s0.has "eth0".toList = false := by decide
    have hphysical : physical with_enp2s0 ["lo".toList, "enp2s0".toList] =
        [{ name := "enp2s0".toList, pci_slot := "0000:02:00.0".toList }] := by decide
    refine ⟨["eth0".toList], .inl ⟨?_, rfl⟩, ?_, _, rfl, ?_, "eth0".toList, List.mem_singleton_self _, ?_⟩
    · intro interface hmem
      rw [List.mem_singleton.mp hmem]
      exact hthere
    · intro hall
      rw [hall _ (List.mem_singleton_self _)] at hgone
      cases hgone
    · rw [hphysical]
      rfl
    · intro found hfound
      rw [hphysical] at hfound
      rw [List.mem_singleton.mp hfound]
      decide

/-- A call that returned 0 has not read back the interface that it wrote. -/
theorem renamed_interface_unread :
    ¬ ∀ (strerror : Errno → String) (c' : Unit) (r : Except Failure Unit) (log : List (Event wol_io)),
      Logs (set_policy_with_renamed_count strerror with_eth0 with_enp2s0 ["eth0".toList] 1 .on)
        () r c' log → PolicySet with_eth0 ["eth0".toList] 1 .on r log := by
  intro hall
  obtain ⟨log, hlog, hnot⟩ := eth0_replaced.unread fun _ => ""
  exact hnot (hall _ _ _ _ hlog)

end UgreenNas.Network
