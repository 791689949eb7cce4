import UgreenNas.Startup.Run

/-! # Coordinators at the same time

    Any number of runs of the script share one store, each with a command
    line of its own; any of them may fail or be killed anywhere.

    * `changes_locked` : hardware and record are changed under the lock alone;
    * `no_lost_update` : a run that wrote and returned has left hardware and
                         record in agreement when it gave the lock up;
    * `crash_safe`     : a crash leaves what was there, or a complete record
                         that was confirmed.
-/

namespace UgreenNas.Startup

open Effect Effect.Proc Storage Machine

variable {P : Type} {home : Directory} {p : P} {s s' : Machine P} {json : Json} {args : P → Args}

/-! ## Contract -/

/-- A record that `p` saved. -/
def Saved (json : Json) (args : Args) (data : List UInt8) (log : Log) : Prop :=
  Saves json args.writer args.command args.requested data log

/-- What has been confirmed stays so. -/
theorem Saved.append {args : Args} {data : List UInt8} {log : Log} (h : Saved json args data log)
    (new : Log) : Saved json args data (log ++ new) := by
  obtain ⟨hcommand, writer, wanted, identity, hwriter, hwanted, hdata, hconfirmed⟩ := h
  refine ⟨hcommand, writer, wanted, identity, hwriter, hwanted, hdata, ?_⟩
  obtain ⟨before, first, between, setting, asked, second, after, hlog, hfirst, hsetting, hasked,
    hsecond⟩ := hconfirmed
  exact ⟨before, first, between, setting, asked, second, after ++ new, by simp [hlog], hfirst,
    hsetting, hasked, hsecond⟩

/-- The state file of `d` has contents that were there at first, or that
    were saved. -/
def Accounted (json : Json) (home : Directory) (args : P → Args) (initial : Machine P)
    (log : P → Log) (d : Directory) (content : Option (List UInt8)) : Prop :=
  content = initial.volume.content (d, STATE_FILE) ∨
    d = home ∧ ∃ p data, content = some data ∧ Saved json (args p) data (log p)

/-- What all coordinators rely on and guarantee. -/
def contract (json : Json) (home : Directory) (args : P → Args) (initial : Machine P) :
    Pool.Contract startup P (Machine P) (Except Report Result) where
  rely := Rely home
  guarantee p := Guarantee home p (Saved json (args p))
  done p r move := Sealed move.after ∧ ∀ result, r = .ok result →
    result.hardware_written = true →
      Left json home p (args p).command (args p).requested move.after
  always s log := Sealed s ∧ ∀ d content, s.Found (d, STATE_FILE) content →
    Accounted json home args initial log d content

/-- What is found behind a change is what was found before, or what it put
    there. -/
theorem Guarantee.found {New : List UInt8 → Log → Prop} {move : Move startup (Machine P)}
    (h : Guarantee home p New move) (hs : Sealed move.before) {d : Directory}
    {content : Option (List UInt8)} (hfound : move.after.Found (d, STATE_FILE) content) :
    move.before.Found (d, STATE_FILE) content ∨
      (d = home ∧ ∃ data, content = some data ∧ New data move.log) := by
  obtain hintact | hrenews := h.2
  · exact .inl (hintact.found hs hfound)
  · obtain ⟨_, name, i, data, hname, hentry, hinode, _, hnew, hafter⟩ := hrenews
    rw [hafter] at hfound
    have hne : ((d, STATE_FILE) : Place) ≠ (home, name) := spare_ne hname not_spare_state
    obtain hsurvives | hmade := hfound
    · by_cases hd : d = home
      · subst hd
        obtain hbefore | hcontent := Volume.survives_move hentry hinode hne hsurvives
        · exact .inl (.inl hbefore)
        · exact .inr ⟨rfl, data, hcontent, hnew⟩
      · have hne' : ((d, STATE_FILE) : Place) ≠ (home, STATE_FILE) := by simp [hd]
        exact .inl (.inl ((Volume.keeps_move _ hne hne').survives (hs d) hsurvives))
    · exact .inl (.inr hmade)

/-! ## From rest -/

theorem Machine.AtRest.sealed (h : s.AtRest) : Sealed s := by
  intro d i hi
  obtain hentry | hmem := hi
  · refine ⟨(h.entries _ _ hentry.symm).1, ?_⟩
    intro k hk
    rw [h.writers k] at hk
    cases hk
  · rw [h.earlier] at hmem
    cases hmem

/-- Nothing is lost where everything is on the medium. -/
theorem Machine.AtRest.found (h : s.AtRest) {place : Place} {content : Option (List UInt8)}
    (hfound : s.Found place content) : content = s.volume.content place := by
  obtain ⟨target, hrefers, hholds⟩ | ⟨_, d, hmem, _⟩ := hfound
  · obtain htarget | hmem := hrefers
    · subst htarget
      unfold Volume.content
      cases hentry : s.volume.entry place with
      | none =>
        rw [hentry] at hholds
        exact hholds
      | some i =>
        rw [hentry] at hholds
        obtain ⟨data, hcontent, hdata⟩ := hholds
        rw [hcontent, hdata (h.entries place i hentry).2]
        rfl
    · rw [h.earlier] at hmem
      cases hmem
  · rw [h.made] at hmem
    cases hmem

variable [DecidableEq P]

/-! ## The contract is kept -/

theorem Accounted.log {initial : Machine P} {log : P → Log} {d : Directory}
    {content : Option (List UInt8)} (h : Accounted json home args initial log d content) (p : P)
    (new : Log) :
    Accounted json home args initial (Function.update log p (log p ++ new)) d content := by
  obtain hinitial | ⟨hd, q, data, hdata, hsaved⟩ := h
  · exact .inl hinitial
  · refine .inr ⟨hd, q, data, hdata, ?_⟩
    by_cases hq : q = p
    · subst hq
      rw [Function.update_self]
      exact hsaved.append new
    · rw [Function.update_of_ne hq]
      exact hsaved

/-- A process that is killed loses its descriptors. -/
theorem private_kill (p : P) (s : Machine P) : Private p s (s.kill p) where
  others q hne := by
    refine ⟨?_, ?_, ?_, ?_, ?_, rfl⟩
    · intro n
      simp [Machine.kill, hne]
    · intro n
      simp [Machine.kill, hne]
    · intro n
      simp [Machine.kill, hne]
    · intro n
      simp [Machine.kill, hne]
    · intro i n
      simp [Machine.kill, hne]
  still := by
    refine ⟨rfl, rfl, rfl, rfl, fun _ h => h, ?_⟩
    intro h i hi
    simp only [Machine.kill] at hi
    split at hi
    · cases hi
    · exact hi
  made := rfl

theorem contract_fits (json : Json) (home : Directory) (args : P → Args) (initial : Machine P) :
    (contract json home args initial).Fits Machine.kill where
  refl := Rely.refl home
  trans _ _ _ _ h h' := h.trans h'
  relied _ _ _ hne hguarantee := hguarantee.1.rely hne hguarantee.sealed
  killed p q s hne := (private_kill p s).fair.rely hne (private_kill p s).intact.sealed
  always_act := by
    intro p s s' log event halways hguarantee
    obtain ⟨hs, hall⟩ := halways
    refine ⟨hguarantee.sealed hs, ?_⟩
    intro d content hfound
    obtain hbefore | ⟨hd, data, hdata, hsaved⟩ := hguarantee.found hs hfound
    · exact (hall d content hbefore).log p [event]
    · refine .inr ⟨hd, p, data, hdata, ?_⟩
      rw [Function.update_self]
      exact hsaved
  always_kill := by
    intro p s log halways
    obtain ⟨hs, hall⟩ := halways
    refine ⟨(private_kill p s).intact.sealed hs, ?_⟩
    intro d content hfound
    exact hall d content ((private_kill p s).intact.found hs hfound)

/-- The pools that runs of the script may get into. -/
abbrev Concurrently (json : Json) (args : P → Args) (initial : Machine P)
    (pool : Pool startup P (Machine P) (Except Report Result)) : Prop :=
  Pool.Reaches machine Machine.kill (Pool.start (fun p => main json (args p)) initial) pool

variable {initial : Machine P} {pool : Pool startup P (Machine P) (Except Report Result)}

theorem contract_holds (hjson : Faithful json)
    (hhome : ∀ p, absolute_parts (args p).state_dir = .ok home) (hrest : initial.AtRest)
    (h : Concurrently json args initial pool) :
    (contract json home args initial).Holds machine pool := by
  refine Pool.Contract.rule (contract_fits json home args initial) ?_ ?_ h
  · intro p
    exact spec_main hjson (hhome p) (hrest.sealed)
  · refine ⟨hrest.sealed, ?_⟩
    intro d content hfound
    exact .inl (hrest.found hfound)

/-! ## Two rivals

    A run of two coordinators, for which a function answers.
-/

/-- A number that `p` uses for no descriptor. -/
def vacant (s : Machine P) (p : P) : Option Nat :=
  (List.range 8).find? fun n => (s.directories (p, n)).isNone && (s.readers (p, n)).isNone &&
    (s.locks (p, n)).isNone && (s.volume.writer (p, n)).isNone

/-- What is opened, under the number `n`. -/
def Machine.opened (s : Machine P) (h : P × Nat) (name : String) (dir_fd : Option (Fd .directory)) :
    Purpose → Option (Machine P)
  | .directory => (s.lookup h.1 name dir_fd).map fun d =>
    { s with directories := Function.update s.directories h (some d) }
  | .lock => (dir_fd.bind (s.place h.1 name)).map fun q => match s.volume.entry q with
    | some i => { s with locks := Function.update s.locks h (some i) }
    | none => { s with
        volume := s.volume.create q
        locks := Function.update s.locks h (some s.volume.next) }
  | .state => (dir_fd.bind (s.place h.1 name)).bind fun q => (s.volume.entry q).map fun i =>
    { s with readers := Function.update s.readers h (some (i, 0)) }
  | .temporary => (dir_fd.bind (s.place h.1 name)).bind fun q =>
    if s.volume.entry q = none then some { s with volume := s.volume.draft q h } else none

/-- Whatever can succeed does. -/
def serve (p : P) (s : Machine P) : (o : StartupOp) → o.Ans × Machine P
  | .open_file purpose name dir_fd =>
    match vacant s p with
    | some n => match s.opened (p, n) name dir_fd purpose with
      | some s' => (.ok n, s')
      | none => (.error ⟨.file_not_found, "[Errno 2] No such file or directory"⟩, s)
    | none => (.error ⟨.other, "[Errno 24] Too many open files"⟩, s)
  | .mkdir _ _ _ => (.error ⟨.other, "[Errno 30] Read-only file system"⟩, s)
  | .fsync .directory fd => match s.directories (p, fd.number) with
    | some d => (.ok (), { s with
        volume := s.volume.settle fun q => q.1 = d
        made := s.made.filter fun child => child.dropLast ≠ d })
    | none => (.error input_output_error, s)
  | .fsync .temporary fd => (.ok (), { s with volume := s.volume.sync (p, fd.number) })
  | .close purpose fd => (.ok (), s.closed (p, fd.number) purpose)
  | .flock fd .exclusive => match s.locks (p, fd.number) with
    | some i =>
      if s.holder i = none ∨ s.holder i = some (p, fd.number) then
        (.ok (), { s with holder := Function.update s.holder i (some (p, fd.number)) })
      else
        (.error ⟨.blocking, "[Errno 11] Resource temporarily unavailable"⟩, s)
    | none => (.error input_output_error, s)
  | .flock fd .unlock => (.ok (), s.unlock (p, fd.number))
  | .read fd size => match s.readers (p, fd.number) with
    | some (i, offset) =>
      let bytes := ((s.volume.inode i).data.drop offset).take size
      (.ok bytes, { s with
        readers := Function.update s.readers (p, fd.number) (some (i, offset + bytes.length)) })
    | none => (.error input_output_error, s)
  | .write fd data => (.ok data.length, { s with volume := s.volume.append (p, fd.number) data })
  | .replace source target fd => match s.place p source fd, s.place p target fd with
    | some q, some q' =>
      if (s.volume.entry q).isSome then (.ok (), { s with volume := s.volume.move q q' })
      else (.error input_output_error, s)
    | _, _ => (.error input_output_error, s)
  | .unlink name fd => match s.place p name fd with
    | some q => (.ok (), { s with volume := s.volume.remove q })
    | none => (.error input_output_error, s)
  | .run command =>
    if is_set command then
      (.ok ⟨0, []⟩, { s with hardware := command.getLastD "" })
    else
      (.ok ⟨0, encode_utf8 (s.hardware ++ "\n")⟩, s)
  | o => (healthy o, s)


/-- The files that are written to exist. -/
def Fresh (s : Machine P) : Prop := ∀ h i, s.volume.writer h = some i → i < s.volume.next

theorem opened_sound {s s' : Machine P} {h : P × Nat} {name : String}
    {dir_fd : Option (Fd .directory)} {purpose : Purpose} (hs : Fresh s)
    (hvacant : vacant s h.1 = some h.2) (hopened : s.opened h name dir_fd purpose = some s') :
    s.Opened h name dir_fd purpose s' ∧ Fresh s' := by
  have hfree := List.find?_some hvacant
  simp only [Bool.and_eq_true, Option.isNone_iff_eq_none] at hfree
  obtain ⟨⟨⟨hdirectory, hreader⟩, hlock⟩, hwriter⟩ := hfree
  cases purpose with
  | directory =>
    obtain ⟨d, hd, rfl⟩ := Option.map_eq_some_iff.mp hopened
    exact ⟨⟨hdirectory, d, hd, rfl⟩, hs⟩
  | lock =>
    obtain ⟨q, hq, rfl⟩ := Option.map_eq_some_iff.mp hopened
    obtain ⟨fd, hfd, hq⟩ := Option.bind_eq_some_iff.mp hq
    cases hentry : s.volume.entry q with
    | some i => exact ⟨⟨hlock, fd, q, hfd, hq, .inl ⟨i, hentry, rfl⟩⟩, hs⟩
    | none =>
      refine ⟨⟨hlock, fd, q, hfd, hq, .inr ⟨hentry, rfl⟩⟩, ?_⟩
      intro k i hi
      exact Nat.lt_succ_of_lt (hs k i hi)
  | state =>
    obtain ⟨q, hq, hopened⟩ := Option.bind_eq_some_iff.mp hopened
    obtain ⟨fd, hfd, hq⟩ := Option.bind_eq_some_iff.mp hq
    obtain ⟨i, hi, rfl⟩ := Option.map_eq_some_iff.mp hopened
    exact ⟨⟨hreader, fd, q, i, hfd, hq, hi, rfl⟩, hs⟩
  | temporary =>
    obtain ⟨q, hq, hopened⟩ := Option.bind_eq_some_iff.mp hopened
    obtain ⟨fd, hfd, hq⟩ := Option.bind_eq_some_iff.mp hq
    split at hopened
    · next hentry =>
      obtain rfl := Option.some.inj hopened
      refine ⟨⟨hwriter, fd, q, hfd, hq, hentry, ?_, rfl⟩, ?_⟩
      · intro k hk
        exact Nat.lt_irrefl _ (hs k _ hk)
      · intro k i hi
        by_cases hk : k = h
        · subst hk
          obtain rfl : s.volume.next = i := by simpa [Volume.draft] using hi
          exact Nat.lt_succ_self _
        · have hbefore : s.volume.writer k = some i := by simpa [Volume.draft, hk] using hi
          exact Nat.lt_succ_of_lt (hs k i hbefore)
    · cases hopened

theorem serve_sound (p : P) (s : Machine P) (o : StartupOp) (hs : Fresh s) :
    machine p s o (serve p s o).1 (serve p s o).2 ∧ Fresh (serve p s o).2 := by
  cases o with
  | platform | geteuid | fstat | token_hex | read_dmi | print_result => exact ⟨rfl, hs⟩
  | open_file purpose name dir_fd =>
    simp only [serve]
    cases hvacant : vacant s p with
    | none => exact ⟨rfl, hs⟩
    | some n =>
      cases hopened : s.opened (p, n) name dir_fd purpose with
      | none =>
        simp only [hopened]
        exact ⟨rfl, hs⟩
      | some s' =>
        simp only [hopened]
        exact opened_sound hs hvacant hopened
  | mkdir => exact ⟨rfl, hs⟩
  | fsync purpose fd =>
    cases purpose with
    | directory =>
      simp only [serve]
      cases hd : s.directories (p, fd.number) with
      | none => exact ⟨rfl, hs⟩
      | some d => exact ⟨⟨d, hd, rfl⟩, hs⟩
    | temporary =>
      refine ⟨rfl, ?_⟩
      intro h i hi
      have hnext : (s.volume.sync (p, fd.number)).next = s.volume.next := by
        unfold Volume.sync
        split <;> rfl
      show i < (s.volume.sync (p, fd.number)).next
      rw [hnext]
      exact hs h i ((Volume.sync_writer s.volume _ h).symm.trans hi)
    | lock | state => exact ⟨rfl, hs⟩
  | close purpose fd =>
    refine ⟨rfl, ?_⟩
    have hstill := private_closed (p := p) (s := s) fd.number purpose
    intro h i hi
    exact hstill.still.next ▸ hs h i (hstill.still.writers h i hi)
  | flock fd operation =>
    cases operation with
    | exclusive =>
      simp only [serve]
      cases hlock : s.locks (p, fd.number) with
      | none => exact ⟨rfl, hs⟩
      | some i =>
        by_cases hfree : s.holder i = none ∨ s.holder i = some (p, fd.number)
        · simp only [if_pos hfree]
          exact ⟨⟨i, hlock, hfree, rfl⟩, hs⟩
        · simp only [if_neg hfree]
          exact ⟨rfl, hs⟩
    | unlock =>
      refine ⟨rfl, ?_⟩
      have hstill := private_unlock (p := p) (s := s) fd.number
      intro h i hi
      exact hstill.still.next ▸ hs h i (hstill.still.writers h i hi)
  | read fd size =>
    simp only [serve]
    cases hreader : s.readers (p, fd.number) with
    | none => exact ⟨rfl, hs⟩
    | some reader =>
      obtain ⟨i, offset⟩ := reader
      refine ⟨⟨i, offset, hreader, List.length_take_le _ _, List.take_prefix _ _, ?_, rfl⟩, hs⟩
      intro hnone
      simpa [List.take_eq_nil_iff] using hnone
  | write fd data =>
    refine ⟨⟨data.length, Nat.le_refl _, fun n hn => (Except.ok.inj hn).symm, ?_⟩, ?_⟩
    · rw [List.take_length]
      rfl
    · intro h i hi
      have hnext : (s.volume.append (p, fd.number) data).next = s.volume.next := by
        unfold Volume.append
        split <;> rfl
      show i < (s.volume.append (p, fd.number) data).next
      rw [hnext]
      exact hs h i ((Volume.append_writer s.volume _ data h).symm.trans hi)
  | replace source target fd =>
    simp only [serve]
    split
    · next q q' hq hq' =>
      by_cases hentry : (s.volume.entry q).isSome = true
      · rw [if_pos hentry]
        exact ⟨⟨q, q', hq, hq', hentry, rfl⟩, hs⟩
      · rw [if_neg hentry]
        exact ⟨rfl, hs⟩
    · exact ⟨rfl, hs⟩
  | unlink name fd =>
    simp only [serve]
    cases hq : s.place p name fd with
    | none => exact ⟨rfl, hs⟩
    | some q => exact ⟨⟨q, hq, rfl⟩, hs⟩
  | run command =>
    simp only [serve, machine]
    by_cases hset : is_set command = true
    · simp only [if_pos hset]
      exact ⟨⟨_, rfl⟩, hs⟩
    · simp only [if_neg hset]
      exact ⟨⟨trivial, fun _ _ => rfl⟩, hs⟩

/-- A machine with nothing on it. -/
def blank : Machine P where
  volume := ⟨fun _ => ⟨[], true⟩, 0, fun _ => none, [], fun _ => none⟩
  made := []
  directories _ := none
  readers _ := none
  locks _ := none
  holder _ := none
  hardware := "off"
  left _ := none

omit [DecidableEq P] in
theorem blank_rest : (blank : Machine P).AtRest where
  directories _ := rfl
  readers _ := rfl
  locks _ := rfl
  writers _ := rfl
  holder _ := rfl
  left _ := rfl
  made := rfl
  earlier := rfl
  entries _ _ h := by cases h

/-- Both want to set a policy, in the same store. -/
def rivals (p : Bool) : Args where
  command := "set"
  policy := some (if p then "on" else "last")
  binary := some "/usr/sbin/ugreenctl"
  plugin_dir := none
  state_dir := "/var/lib/ugreenctl/startup"
  force := true
  apply := true

theorem rivals_home : ∀ p, absolute_parts (rivals p).state_dir =
    .ok ["var", "lib", "ugreenctl", "startup"] := by
  decide +kernel

/-- One of them takes the lock, the other finds it taken, the first goes on:
    where they are after `n` operations. -/
def rivalry (n : Nat) : Pool startup Bool (Machine Bool) (Except Report Result) :=
  ((List.replicate 30 true ++ List.replicate 60 false ++ List.replicate 40 true).take n).foldl
    (Pool.turn serve) (Pool.start (fun p => main python_json (rivals p)) blank)

theorem rivalry_runs (n : Nat) : Concurrently python_json rivals blank (rivalry n) := by
  apply Pool.reaches_turns serve_sound
  intro h i hi
  cases hi

/-- The result of a run that returned. -/
def returned (pool : Pool startup P (Machine P) (Except Report Result)) (p : P) : Option Result :=
  match pool.task p with
  | some (.pure (.ok result)) => some result
  | _ => none

omit [DecidableEq P] in
theorem task_of_returned {result : Result} (h : returned pool p = some result) :
    pool.task p = some (.pure (.ok result)) := by
  unfold returned at h
  split at h
  · next htask => rw [htask, Option.some.inj h]
  · cases h

/-- The command that is to be run next. -/
def next_command (pool : Pool startup P (Machine P) (Except Report Result)) (p : P) :
    Option (List String) :=
  match pool.task p with
  | some (.op (.run command) _) => some command
  | _ => none

omit [DecidableEq P] in
theorem task_of_next_command {command : List String} (h : next_command pool p = some command) :
    ∃ k, pool.task p = some (.op (.run command) k) := by
  unfold next_command at h
  split at h
  · next k htask =>
    obtain rfl := Option.some.inj h
    exact ⟨k, htask⟩
  · cases h

/-! ## Results -/

/-- The hardware, and what the state file is or may be behind a crash, change
    in an operation of the one process that holds the lock. -/
theorem changes_locked (hjson : Faithful json)
    (hhome : ∀ p, absolute_parts (args p).state_dir = .ok home) (hrest : initial.AtRest)
    (h : Concurrently json args initial pool) {o : StartupOp}
    {k : o.Ans → Prog startup (Except Report Result)} {b : o.Ans}
    (htask : pool.task p = some (.op o k)) (hstep : machine p pool.state o b s')
    (hchange : s'.hardware ≠ pool.state.hardware ∨
      s'.volume.content (home, STATE_FILE) ≠ pool.state.volume.content (home, STATE_FILE) ∨
      ∃ content, s'.Found (home, STATE_FILE) content ∧
        ¬ pool.state.Found (home, STATE_FILE) content) :
    Locked home p pool.state ∧ ∀ q, Locked home q pool.state → q = p := by
  have hholds := contract_holds hjson hhome hrest h
  obtain ⟨hfair, hkeeps⟩ := hholds.guaranteed htask hstep
  have hs := hholds.always.1
  suffices hlocked : Locked home p pool.state from ⟨hlocked, fun q hq => hq.unique hlocked⟩
  obtain hintact | hrenews := hkeeps
  · obtain hhardware | hcontent | ⟨content, hfound, hnew⟩ := hchange
    · obtain hsame | hlocked := hfair.hardware
      · exact absurd hsame hhardware
      · exact hlocked
    · exact absurd ((hintact.keeps home).content (hs home)) hcontent
    · exact absurd (hintact.found hs hfound) hnew
  · exact hrenews.1

/-- At the operation that sets the policy. -/
theorem changes_locked_rivalry :
    Locked ["var", "lib", "ugreenctl", "startup"] true (rivalry 95).state ∧
      ∀ q, Locked ["var", "lib", "ugreenctl", "startup"] q (rivalry 95).state → q = true := by
  have hcommand : next_command (rivalry 95) true =
      some ["/usr/sbin/ugreenctl", "--force", "--apply", "power", "startup", "set", "on"] := by
    decide +kernel
  have hhardware : (rivalry 95).state.hardware = "off" := by
    decide +kernel
  obtain ⟨k, htask⟩ := task_of_next_command hcommand
  have hstep : machine true (rivalry 95).state
      (.run ["/usr/sbin/ugreenctl", "--force", "--apply", "power", "startup", "set", "on"])
      (Except.ok ⟨0, []⟩) { (rivalry 95).state with hardware := "on" } := ⟨"on", rfl⟩
  refine changes_locked python_faithful rivals_home blank_rest (rivalry_runs 95) htask hstep
    (.inl ?_)
  rw [hhardware]
  decide

/-- Whenever the machine crashes, a state file holds what was there before
    all runs, or the whole record of a `set` that had set its policy and read
    it back on a machine that stayed the same. -/
theorem crash_safe (hjson : Faithful json)
    (hhome : ∀ p, absolute_parts (args p).state_dir = .ok home) (hrest : initial.AtRest)
    (h : Concurrently json args initial pool) {d : Directory} {content : Option (List UInt8)}
    (hfound : pool.state.Found (d, STATE_FILE) content) :
    content = initial.volume.content (d, STATE_FILE) ∨
      d = home ∧ ∃ p writer wanted identity, (args p).command = "set" ∧
        (args p).writer = some writer ∧ (args p).requested = some wanted ∧
        content = some (state_bytes json ⟨SCHEMA_VERSION, wanted, identity⟩) ∧
        Confirmed writer wanted identity (pool.log p) := by
  obtain hinitial | ⟨hd, p, data, hdata, hcommand, writer, wanted, identity, hwriter, hwanted,
    hbytes, hconfirmed⟩ := (contract_holds hjson hhome hrest h).always.2 d content hfound
  · exact .inl hinitial
  · exact .inr ⟨hd, p, writer, wanted, identity, hcommand, hwriter, hwanted,
      hdata.trans (congrArg some hbytes), hconfirmed⟩

/-- Behind the rename, before the directory is synchronised. -/
theorem crash_safe_rivalry : ∃ p writer wanted identity, (rivals p).command = "set" ∧
    (rivals p).writer = some writer ∧ (rivals p).requested = some wanted ∧
    (rivalry 112).state.volume.content (["var", "lib", "ugreenctl", "startup"], STATE_FILE) =
      some (state_bytes python_json ⟨SCHEMA_VERSION, wanted, identity⟩) ∧
    Confirmed writer wanted identity ((rivalry 112).log p) := by
  have hsome : ((rivalry 112).state.volume.content
      (["var", "lib", "ugreenctl", "startup"], STATE_FILE)).isSome = true := by
    decide +kernel
  have hsafe := crash_safe python_faithful rivals_home blank_rest (rivalry_runs 112)
    (.inl (Volume.survives_content _ (["var", "lib", "ugreenctl", "startup"], STATE_FILE)))
  obtain hinitial | ⟨_, hsaved⟩ := hsafe
  · rw [hinitial] at hsome
    cases hsome
  · exact hsaved

end UgreenNas.Startup
