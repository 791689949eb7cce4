import UgreenNas.Effect.Each
import UgreenNas.Wake.Guarded

/-! # A named interface is written (`network/wol_interface.c`)

    A name may come to stand for another interface at any time.  The policy
    is written once, when the name has stood for one physical interface for
    two looks, and a success has seen the same interface behind the readback.
-/

namespace UgreenNas.Wake

open DiskMap Effect Effect.Proc
open Led (Failure failure)
open Network (WAKE_MAGIC WolInfo WolOp WolPolicy desired)

variable {strerror : Errno → String} {entry : WolEntry} {name before : Text} {index : Nat}
  {policy : WolPolicy} {c c' : Unit} {log : List (Event net_io)}

/-! ## Looking -/

/-- A look at an interface. -/
def looked (name : Text) (found : Attributes) (index : Nat) : List (Event net_io) :=
  [⟨.attributes name, found⟩, ⟨.if_nametoindex name, index⟩]

def Reads (log : List (Event net_io)) : Prop := ∀ e ∈ log, net_writes e.1 = false

theorem Reads.nil : Reads [] := fun _ he => absurd he List.not_mem_nil

theorem Reads.cons {e : Event net_io} (he : net_writes e.1 = false) (h : Reads log) : Reads (e :: log) :=
  List.forall_mem_cons.mpr ⟨he, h⟩

theorem Reads.append {log' : List (Event net_io)} (h : Reads log) (h' : Reads log') :
    Reads (log ++ log') :=
  List.forall_mem_append.mpr ⟨h, h'⟩

theorem reads_looked {found : Attributes} : Reads (looked name found index) := by
  simp [Reads, looked, net_writes]

theorem read_identity_logs {r : Except Failure Text} (h : Logs (read_identity entry name) c r c' log) :
    ∃ found, log = [⟨.attributes name, found⟩] ∧ r = interface_identity entry name found := by
  obtain ⟨found, rest, rfl, hrest⟩ := h.of_ask_then
  obtain ⟨rfl, -, rfl⟩ := hrest.of_lift
  exact ⟨found, rfl, rfl⟩

/-- A look that found what was found before. -/
theorem same_interface_logs {r : Except Failure Unit}
    (h : Logs (same_interface entry name before index) c r c' log) :
    Reads log ∧ (r = .ok () → ∃ found, interface_identity entry name found = .ok before ∧
      log = looked name found index) := by
  rcases h.of_bind with ⟨after, c₁, one, rest, rfl, hread, hrest⟩ | ⟨e, rfl, hread⟩
  · obtain ⟨found, rfl, hfound⟩ := read_identity_logs hread
    by_cases hafter : after ≠ before
    · rw [bail_pos hafter] at hrest
      obtain ⟨rfl, -, rfl⟩ := hrest.of_fail
      exact ⟨Reads.nil.cons rfl, fun h => by cases h⟩
    rw [bail_neg hafter] at hrest
    obtain ⟨now, last, rfl, hlast⟩ := hrest.of_ask_then
    by_cases hnow : now ≠ index
    · have hlast : Logs (bail (now ≠ index) ⟨.ESTALE, .silent⟩ : Net Unit) c₁ r c' last := hlast
      unfold bail at hlast
      rw [if_pos hnow] at hlast
      obtain ⟨rfl, -, rfl⟩ := hlast.of_fail
      exact ⟨(Reads.nil.cons rfl).cons rfl, fun h => by cases h⟩
    · have hlast : Logs (bail (now ≠ index) ⟨.ESTALE, .silent⟩ : Net Unit) c₁ r c' last := hlast
      unfold bail at hlast
      rw [if_neg hnow] at hlast
      obtain ⟨rfl, -, rfl⟩ := hlast.of_pure
      refine ⟨(Reads.nil.cons rfl).cons rfl, ?_⟩
      intro _
      obtain rfl := not_not.mp hafter
      obtain rfl := not_not.mp hnow
      exact ⟨found, hfound.symm, rfl⟩
  · obtain ⟨found, rfl, -⟩ := read_identity_logs hread
    exact ⟨Reads.nil.cons rfl, fun h => by cases h⟩

/-! ## Writing -/

/-- The policy was read back, from the same interface. -/
structure Stored (entry : WolEntry) (name before : Text) (index : Nat) (policy : WolPolicy)
    (n : Except Errno Unit) (info : WolInfo) (rest : List (Event net_io)) : Prop where
  stored : n = .ok ()
  supported : info.supported &&& WAKE_MAGIC ≠ 0
  wolopts : info.wolopts = desired policy
  seen : ∃ found, interface_identity entry name found = .ok before ∧
    rest = ⟨.wol (.get name), .ok info⟩ :: looked name found index

/-- There is no write, or one, behind a second look. -/
theorem store_policy_logs {r : Except Failure WolInfo}
    (h : Logs (store_policy entry name policy before index) c r c' log) :
    ((∃ e, r = .error e) ∧ Reads log) ∨
      ∃ found n rest, interface_identity entry name found = .ok before ∧
        log = looked name found index ++ ⟨.wol (.set name (desired policy)), n⟩ :: rest ∧ Reads rest ∧
        ∀ info, r = .ok info → Stored entry name before index policy n info rest := by
  rcases h.of_bind with ⟨_, c₁, look, rest, rfl, hlook, hrest⟩ | ⟨e, rfl, hlook⟩
  · obtain ⟨-, hok⟩ := same_interface_logs hlook
    obtain ⟨found, hfound, rfl⟩ := hok rfl
    obtain ⟨n, tail, rfl, htail⟩ := hrest.of_ask_then
    right
    refine ⟨found, n, tail, hfound, rfl, ?_⟩
    rcases htail.of_lift_cases with ⟨_, hn, hquery⟩ | ⟨⟨e, rfl⟩, rfl⟩
    · obtain ⟨read, last, rfl, hread⟩ := hquery.of_ask_then
      rcases hread.of_lift_cases with ⟨wol, hwol, hcheck⟩ | ⟨⟨e, rfl⟩, rfl⟩
      · by_cases hbad : wol.supported &&& WAKE_MAGIC = 0 ∨ wol.wolopts ≠ desired policy
        · rw [bail_pos hbad] at hcheck
          obtain ⟨rfl, -, rfl⟩ := hcheck.of_fail
          exact ⟨Reads.nil.cons rfl, fun info h => by cases h⟩
        · rw [bail_neg hbad] at hcheck
          rcases hcheck.of_bind with ⟨_, c₂, again, nothing, rfl, hagain, hpure⟩ | ⟨e, rfl, hagain⟩
          · obtain ⟨hreads, hsame⟩ := same_interface_logs hagain
            obtain ⟨rfl, -, rfl⟩ := hpure.of_pure
            rw [List.append_nil]
            refine ⟨hreads.cons rfl, ?_⟩
            intro info hinfo
            obtain rfl := Except.ok.inj hinfo
            obtain ⟨found', hfound', rfl⟩ := hsame rfl
            rw [not_or, not_not] at hbad
            cases read with
            | error e => cases hwol
            | ok info =>
              obtain rfl := Except.ok.inj hwol
              cases n with
              | error e => cases hn
              | ok _ => exact ⟨rfl, hbad.1, hbad.2, found', hfound', rfl⟩
          · obtain ⟨hreads, -⟩ := same_interface_logs hagain
            exact ⟨hreads.cons rfl, fun info h => by cases h⟩
      · exact ⟨Reads.nil.cons rfl, fun info h => by cases h⟩
    · exact ⟨.nil, fun info h => by cases h⟩
  · exact .inl ⟨⟨e, rfl⟩, (same_interface_logs hlook).1⟩

/-- What is asked once the socket is open. -/
theorem ask_interface_logs {r : Except Failure WolPolicy}
    (h : Logs (ask_interface entry name true policy before index) c r c' log) :
    ((∃ e, r = .error e) ∧ Reads log) ∨
      ∃ info found n rest, info.supported &&& WAKE_MAGIC ≠ 0 ∧
        interface_identity entry name found = .ok before ∧
        log = ⟨.wol (.get name), .ok info⟩ :: looked name found index ++
          ⟨.wol (.set name (desired policy)), n⟩ :: rest ∧ Reads rest ∧
        ∀ p, r = .ok p → ∃ info', p = info'.policy ∧ Stored entry name before index policy n info' rest := by
  obtain ⟨read, rest, rfl, hread⟩ := h.of_ask_then
  rcases hread.of_lift_cases with ⟨wol, hwol, hcheck⟩ | ⟨⟨e, rfl⟩, rfl⟩
  · by_cases hmagic : wol.supported &&& WAKE_MAGIC = 0
    · rw [bail_pos hmagic] at hcheck
      obtain ⟨rfl, -, rfl⟩ := hcheck.of_fail
      exact .inl ⟨⟨_, rfl⟩, Reads.nil.cons rfl⟩
    rw [bail_neg hmagic] at hcheck
    have hstore : ∃ x, Logs (store_policy entry name policy before index) c x c' rest ∧
        ((∃ e, x = .error e) → ∃ e, r = .error e) ∧
        ∀ p, r = .ok p → ∃ info, x = .ok info ∧ p = info.policy := by
      rcases hcheck.of_bind with ⟨info, c₁, store, nothing, rfl, hstore, hpure⟩ | ⟨e, rfl, hstore⟩
      · obtain ⟨rfl, rfl, rfl⟩ := hpure.of_pure
        rw [List.append_nil]
        refine ⟨.ok info, hstore, fun ⟨e, he⟩ => (by cases he), ?_⟩
        intro p hp
        exact ⟨info, rfl, (Except.ok.inj hp).symm⟩
      · exact ⟨.error e, hstore, fun _ => ⟨e, rfl⟩, fun p hp => by cases hp⟩
    obtain ⟨x, hstore, herror, hok⟩ := hstore
    rcases store_policy_logs hstore with ⟨hx, hreads⟩ | ⟨found, n, tail, hfound, rfl, hreads, hstored⟩
    · exact .inl ⟨herror hx, hreads.cons rfl⟩
    · right
      cases read with
      | error e => cases hwol
      | ok info =>
        obtain rfl := Except.ok.inj hwol
        refine ⟨info, found, n, tail, hmagic, hfound, rfl, hreads, ?_⟩
        intro p hp
        obtain ⟨info', hx, hp⟩ := hok p hp
        exact ⟨info', hp, hstored info' hx⟩
  · exact .inl ⟨⟨e, rfl⟩, Reads.nil.cons rfl⟩

/-! ## The call -/

/-- An identity is that of a physical interface. -/
structure Physical (entry : WolEntry) (name id : Text) : Prop where
  valid : valid_name name = true
  device : (∃ slot, slot ≠ [] ∧ id = "pci:".toList ++ slot) ∨
    ∃ path, entry.ethernet_of_path = some path ∧ id = "dt:".toList ++ path

theorem interface_identity_ok {found : Attributes} {id : Text}
    (h : interface_identity entry name found = .ok id) :
    found.type.any is_ethernet_type = true ∧ found.wireless = false ∧ Physical entry name id := by
  unfold interface_identity at h
  by_cases hvalid : valid_name name = true
  · rw [if_neg (by simp [hvalid])] at h
    by_cases hbad : (!found.type.any is_ethernet_type || found.wireless) = true
    · rw [if_pos hbad] at h
      cases h
    · rw [if_neg hbad] at h
      simp only [Bool.or_eq_true, Bool.not_eq_true', not_or, Bool.not_eq_false,
        Bool.not_eq_true] at hbad
      refine ⟨hbad.1, hbad.2, hvalid, ?_⟩
      cases huevent : found.uevent with
      | none =>
        rw [huevent] at h
        cases h
      | some file =>
        rw [huevent] at h
        dsimp only at h
        split at h
        · next hpci => exact .inl ⟨_, hpci.2, (Except.ok.inj h).symm⟩
        · split at h
          · next hdt =>
            split at h
            · cases h
            · exact .inr ⟨_, hdt.1, (Except.ok.inj h).symm⟩
          · cases h
  · rw [if_pos (by simpa using hvalid)] at h
    cases h

/-- What stands in front of the write: the name stands for one physical
    interface, before and after it was asked for magic packets. -/
structure Ready (entry : WolEntry) (name id : Text) (index : Nat) (front : List (Event net_io)) :
    Prop where
  physical : Physical entry name id
  present : index ≠ 0
  looks : ∃ found found' info, interface_identity entry name found = .ok id ∧
    interface_identity entry name found' = .ok id ∧ info.supported &&& WAKE_MAGIC ≠ 0 ∧
    front = looked name found index ++ [⟨.wol .socket, .ok ()⟩, ⟨.wol (.get name), .ok info⟩] ++
      looked name found' index

/-- What a call that writes keeps to. -/
inductive Named (entry : WolEntry) (name : Text) (policy : WolPolicy) (r : Except Failure WolPolicy) :
    List (Event net_io) → Prop where
  /-- It came to no write. -/
  | refused {log : List (Event net_io)} (hr : ∃ e, r = .error e) (hlog : Reads log)
      (hclosed : ⟨.wol .socket, .ok ()⟩ ∈ log → ∃ front, log = front ++ [⟨.wol .close, ()⟩]) :
      Named entry name policy r log
  /-- It wrote once. -/
  | wrote {id : Text} {index : Nat} {n : Except Errno Unit} {front rest : List (Event net_io)}
      (hready : Ready entry name id index front) (hrest : Reads rest)
      (hok : ∀ p, r = .ok p → p = policy ∧ ∃ info, Stored entry name id index policy n info rest) :
      Named entry name policy r
        (front ++ ⟨.wol (.set name (desired policy)), n⟩ :: rest ++ [⟨.wol .close, ()⟩])

theorem policy_of_desired {info : WolInfo} (hpolicy : ¬ (policy ≠ .on ∧ policy ≠ .off))
    (h : info.wolopts = desired policy) : info.policy = policy := by
  unfold WolInfo.policy
  rw [h]
  cases policy with
  | unknown => exact absurd ⟨by decide, by decide⟩ hpolicy
  | on => decide
  | off => decide

theorem wol_interface_logs {r : Except Failure WolPolicy}
    (h : Logs (wol_interface strerror entry name true policy) c r c' log) :
    Named entry name policy r log := by
  unfold wol_interface at h
  by_cases hpolicy : true = true ∧ policy ≠ .on ∧ policy ≠ .off
  · rw [bail_pos hpolicy] at h
    obtain ⟨rfl, -, rfl⟩ := h.of_fail
    exact .refused ⟨_, rfl⟩ .nil fun h => absurd h List.not_mem_nil
  rw [bail_neg hpolicy] at h
  have hpolicy : ¬ (policy ≠ .on ∧ policy ≠ .off) := fun h => hpolicy ⟨rfl, h⟩
  rcases h.of_bind with ⟨id, c₁, first, rest, rfl, hlook, hrest⟩ | ⟨e, rfl, hlook⟩
  · obtain ⟨found, rfl, hfound⟩ := read_identity_logs hlook
    obtain ⟨index, tail, rfl, htail⟩ := hrest.of_ask_then
    by_cases hindex : index = 0
    · rw [bail_pos hindex] at htail
      obtain ⟨rfl, -, rfl⟩ := htail.of_fail
      exact .refused ⟨_, rfl⟩ reads_looked fun h => by simp at h
    rw [bail_neg hindex] at htail
    obtain ⟨fd, opened, rfl, hopened⟩ := htail.of_ask_then
    cases fd with
    | error e =>
      have hfailed : Logs (fail ⟨e, .silent⟩ : Net WolPolicy) c₁ r c' opened := hopened
      obtain ⟨rfl, -, rfl⟩ := hfailed.of_fail
      exact .refused ⟨_, rfl⟩ (reads_looked.append (Reads.nil.cons rfl)) fun h => by simp at h
    | ok _ =>
      have hbody : Logs (attempt (ask_interface entry name true policy id index) >>= fun result =>
        net (.wol .close) >>= fun _ =>
          lift (result.mapError (not_confirmed strerror true name))) c₁ r c' opened := hopened
      have hask : ∃ x body, opened = body ++ [⟨.wol .close, ()⟩] ∧
          r = x.mapError (not_confirmed strerror true name) ∧
          Logs (ask_interface entry name true policy id index) c₁ x c₁ body := by
        rcases hbody.of_bind with ⟨x, c₂, body, last, rfl, hattempt, hlast⟩ | ⟨e, -, hattempt⟩
        · obtain ⟨x', hx, hask⟩ := hattempt.of_attempt
          obtain rfl := Except.ok.inj hx
          obtain ⟨_, nothing, rfl, hlift⟩ := hlast.of_ask_then
          obtain ⟨rfl, -, rfl⟩ := hlift.of_lift
          exact ⟨x, body, rfl, rfl, hask⟩
        · obtain ⟨x', hx, -⟩ := hattempt.of_attempt
          cases hx
      obtain ⟨x, body, rfl, rfl, hask⟩ := hask
      rcases ask_interface_logs hask with
        ⟨⟨e, rfl⟩, hreads⟩ | ⟨info, found', n, rest, hmagic, hfound', rfl, hreads, hstored⟩
      · refine .refused ⟨_, rfl⟩ ?_ ?_
        · exact ((((hreads.append (Reads.nil.cons rfl)).cons rfl).cons rfl).cons rfl)
        · intro _
          exact ⟨⟨.attributes name, found⟩ :: ⟨.if_nametoindex name, index⟩ ::
            ⟨.wol .socket, .ok ()⟩ :: body, rfl⟩
      · have hready : Ready entry name id index (looked name found index ++
            [⟨.wol .socket, .ok ()⟩, ⟨.wol (.get name), .ok info⟩] ++ looked name found' index) :=
          ⟨(interface_identity_ok hfound.symm).2.2, hindex, found, found', info, hfound.symm, hfound', hmagic, rfl⟩
        have hok : ∀ p, x.mapError (not_confirmed strerror true name) = .ok p →
            p = policy ∧ ∃ info, Stored entry name id index policy n info rest := by
          intro p hp
          cases x with
          | error e => cases hp
          | ok p' =>
            obtain ⟨info', hp', hstored'⟩ := hstored p' rfl
            obtain rfl : p' = p := Except.ok.inj hp
            refine ⟨?_, info', hstored'⟩
            rw [hp']
            exact policy_of_desired hpolicy hstored'.wolopts
        have hnamed := Named.wrote hready hreads hok
        simpa only [looked, List.cons_append, List.nil_append, List.append_assoc] using hnamed
  · obtain ⟨found, rfl, -⟩ := read_identity_logs hlook
    exact .refused ⟨e, rfl⟩ (Reads.nil.cons rfl) fun h => by simp at h

theorem Ready.reads {id : Text} (h : Ready entry name id index log) : Reads log := by
  obtain ⟨found, found', info, -, -, -, rfl⟩ := h.looks
  exact (reads_looked.append ((Reads.nil.cons rfl).cons rfl)).append reads_looked

/-- The one write of a log. -/
theorem only_write {front rest before after : List (Event net_io)} {e e' : Event net_io}
    (h : front ++ e :: rest = before ++ e' :: after) (hfront : Reads front) (hrest : Reads rest)
    (he' : net_writes e'.1 = true) : before = front ∧ e' = e ∧ after = rest := by
  have hnot : ∀ {l : List (Event net_io)}, Reads l → e' ∉ l := by
    intro l hl hmem
    rw [hl e' hmem] at he'
    cases he'
  have hsplit : front ++ [e] ++ rest = before ++ e' :: after := by simpa using h
  obtain ⟨done, left, rfl, hone⟩ := middle_of_append hsplit (hnot hfront) (hnot hrest)
  cases done with
  | nil =>
    obtain ⟨rfl, rfl⟩ := List.cons.inj hone
    have htail : e :: rest = e :: after := by simpa using h
    exact ⟨by simp, rfl, (List.cons.inj htail).2.symm⟩
  | cons x done =>
    have hlength := congrArg List.length hone
    simp at hlength

/-- Whatever the name comes to stand for in between: a call that writes makes
    one write at most, of the policy and of this name, and only when the name
    stood for one physical interface, with one index, for two looks with a
    question about magic packets between them.  A success has read the policy
    back and has seen the same interface once more behind that.  A socket that
    was opened is closed at the end. -/
theorem interface_write_verified {r : Except Failure WolPolicy}
    (h : Logs (wol_interface strerror entry name true policy) () r () log) :
    (∀ before e after, log = before ++ e :: after → net_writes e.1 = true →
      e.1 = .wol (.set name (desired policy)) ∧ Reads after ∧
        ∃ id index, Ready entry name id index before) ∧
    (∀ p, r = .ok p → p = policy ∧ ∃ id index front n info rest, Ready entry name id index front ∧
      Stored entry name id index policy n info rest ∧
      log = front ++ ⟨.wol (.set name (desired policy)), n⟩ :: rest ++ [⟨.wol .close, ()⟩]) ∧
    (⟨.wol .socket, .ok ()⟩ ∈ log → ∃ front, log = front ++ [⟨.wol .close, ()⟩]) := by
  cases wol_interface_logs h with
  | refused hr hlog hclosed =>
    refine ⟨?_, ?_, hclosed⟩
    · intro before e after hsplit he
      rw [hlog e (by simp [hsplit])] at he
      cases he
    · intro p hp
      obtain ⟨e, he⟩ := hr
      rw [he] at hp
      cases hp
  | @wrote id index n front rest hready hrest hok =>
    refine ⟨?_, ?_, fun _ => ⟨_, rfl⟩⟩
    · intro before e after hsplit he
      have hclose : Reads (rest ++ [⟨.wol .close, ()⟩]) := hrest.append (Reads.nil.cons rfl)
      rw [List.append_assoc, List.cons_append] at hsplit
      obtain ⟨rfl, rfl, rfl⟩ := only_write hsplit hready.reads hclose he
      exact ⟨rfl, hclose, id, index, hready⟩
    · intro p hp
      obtain ⟨hpolicy, info, hstored⟩ := hok p hp
      exact ⟨hpolicy, id, index, front, n, info, rest, hready, hstored, rfl⟩

/-! ### A policy is set -/

/-- A PCI device. -/
def eth0 : Attributes where
  type := some ⟨"1\n".toList, false⟩
  wireless := false
  uevent := some ⟨"PCI_CLASS=20000\nPCI_SLOT_NAME=0000:01:00.0\n".toList, false⟩

/-- The policy that was written last. -/
def stored (log : List (Event net_io)) : UInt32 :=
  log.foldl (fun wolopts e => match e.1 with
    | .wol (.set _ wolopts) => wolopts
    | _ => wolopts) 0

def net_answer (log : List (Event net_io)) : (o : NetOp) → o.Ans
  | .attributes _ => eth0
  | .if_nametoindex _ => (2 : Nat)
  | .wol .socket => (.ok () : Except Errno Unit)
  | .wol (.get _) => (.ok ⟨WAKE_MAGIC, stored log⟩ : Except Errno WolInfo)
  | .wol (.set _ _) => (.ok () : Except Errno Unit)
  | .wol .close => ()

def net_machine : Prog.Handler net_io (List (Event net_io)) :=
  fun log o => (net_answer log o, log ++ [⟨o, net_answer log o⟩])

def on_run : (Except Failure WolPolicy × Unit) × List (Event net_io) :=
  Prog.exec net_machine ((wol_interface (fun _ => "") (WOL "dxp8800" "DXP8800" 0) "eth0".toList true
    .on).run ()) []

theorem interface_write_verified_on :
    on_run.1.1 = .ok .on ∧ ∃ id index front n info rest,
      Ready (WOL "dxp8800" "DXP8800" 0) "eth0".toList id index front ∧
      Stored (WOL "dxp8800" "DXP8800" 0) "eth0".toList id index .on n info rest ∧
      on_run.2 = front ++ ⟨.wol (.set "eth0".toList (desired .on)), n⟩ :: rest ++
        [⟨.wol .close, ()⟩] := by
  have hlogs := runs_handled (E := recorded net_io) (h := net_machine) (fun _ _ => rfl)
    (wol_interface (fun _ => "") (WOL "dxp8800" "DXP8800" 0) "eth0".toList true .on) []
  have hon : on_run.1.1 = .ok .on := by decide +kernel
  exact ⟨hon, ((interface_write_verified hlogs).2.1 .on hon).2⟩

end UgreenNas.Wake
