import UgreenNas.Startup.Marks

/-! # What a report tells about the hardware

    Once `Backend.set` was invoked, nobody can say for sure that the
    hardware is as it was, and a report has to admit it.  The flags travel
    in the `StartupError`, through two context managers whose clean-up may
    raise something else in its place.  They arrive exactly if no clean-up
    fails.
-/

namespace UgreenNas.Startup

open Effect Effect.Proc

variable {κ α β : Type} {purpose : Purpose}

/-! ## Outcomes -/

/-- The report admits what was done. -/
def Admits (report : Report) (m : Marks) : Prop :=
  report.hardware_write_attempted = true ∧ report.hardware_may_have_changed = true ∧
    (m.renamed = true → report.persistence_uncertain = true)

/-- Once the policy was set, an error admits it, unless a clean-up slipped:
    then there is an error, and it does not. -/
def Sound (r : Except PyError α) (m : Marks) : Prop :=
  m.set = true →
    (m.slipped = false ∧ ∀ error, r = .error error → Admits error.report m) ∨
    (m.slipped = true ∧ ∃ error, r = .error error ∧ error.report.hardware_write_attempted = false)

/-- Started afresh, `m` comes to a sound end. -/
def Sounds (m : Py κ α) : Prop :=
  ∀ c log, marks log = fresh → Post m (fun r _ log' => Sound r (marks log')) c log

theorem Sound.of_not_set {r : Except PyError α} {m : Marks} (h : m.set = false) : Sound r m := by
  simp [Sound, h]

theorem Sounds.of_quiet {m : Py κ α} (hm : Quiet m) : Sounds m := by
  intro c log hlog
  apply wp_mono (Early.of_quiet hm c log hlog) (fun _ h => h)
  intro r c' log' ⟨hset, _⟩
  exact .of_not_set hset

theorem Early.bind_sounds {m : Py κ α} {g : α → Py κ β} (hm : Early m) (hg : ∀ a, Sounds (g a)) :
    Sounds (m >>= g) := by
  intro c log hlog
  apply wp_seq (hm c log hlog)
  · intro a c' log' ⟨_, hok⟩
    exact hg a c' log' (hok a rfl)
  · intro e c' log' ⟨hset, _⟩
    exact .of_not_set hset

theorem Sounds.block {m : Py κ α} (hm : Sounds m) (inner : κ) : Sounds (block inner m : Py β α) := by
  intro c log hlog
  rw [Post, wp_block]
  exact hm inner log hlog

/-- A clean-up that fails leaves an `OSError` and a mark. -/
def Cleans (cleanup : Py κ Unit) : Prop :=
  ∀ c log, Post cleanup (fun u _ log' => match u with
    | .ok _ => marks log' = marks log
    | .error error => (∃ e, error = .os e) ∧ marks log' = { marks log with slipped := true }) c log

theorem Cleans.of_quiet_pure : Cleans (pure () : Py κ Unit) := fun _ _ => rfl

/-- Clean-up in two parts, the second whatever became of the first. -/
theorem Cleans.always {m cleanup : Py κ Unit} (hm : Cleans m) (hclean : Cleans cleanup) :
    Cleans (always m cleanup) := by
  intro c log
  apply wp_always (hm c log)
  intro r c' log' hr
  apply wp_mono (hclean c' log') (fun _ h => h)
  intro u c'' log'' hu
  cases u with
  | ok _ =>
    cases r with
    | ok _ => exact hu.trans hr
    | error error => exact ⟨hr.1, hu.trans hr.2⟩
  | error error =>
    obtain ⟨hos, hmarks⟩ := hu
    cases r with
    | ok _ => simpa [hos, hr] using hmarks
    | error _ => simpa [hos, hr.2] using hmarks

theorem cleans_close (fd : Fd purpose) (hpurpose : purpose = .lock ∨ purpose = .directory) :
    Cleans (os_close fd : Py κ Unit) := by
  intro c log
  apply post_call
  intro b
  cases b with
  | ok u => exact marks_close_ok fd log u
  | error e =>
    obtain rfl | rfl := hpurpose
    · simp [os, Except.mapError, marks_append, sets, renames, slips]
    · simp [os, Except.mapError, marks_append, sets, renames, slips]

theorem cleans_unlock (fd : Fd .lock) : Cleans (unlock fd) := by
  apply Cleans.always
  · intro c log
    rw [Post, wp_ctx_then]
    cases c with
    | false => rfl
    | true =>
      apply post_call
      intro b
      cases b with
      | ok _ => simp [os, Except.mapError, marks_append, sets, renames, slips]
      | error e => simp [os, Except.mapError, marks_append, sets, renames, slips]
  · exact cleans_close fd (.inl rfl)

/-- A failed clean-up takes the place of what it cleans up behind, also of
    an error that admits the write. -/
theorem Sounds.always {m : Py κ α} {cleanup : Py κ Unit} (hm : Sounds m) (hclean : Cleans cleanup) :
    Sounds (always m cleanup) := by
  intro c log hlog
  apply wp_always (hm c log hlog)
  intro r c' log' hr
  apply wp_mono (hclean c' log') (fun _ h => h)
  intro u c'' log'' hu
  cases u with
  | ok _ =>
    dsimp only at hu ⊢
    rw [hu]
    exact hr
  | error error =>
    obtain ⟨⟨e, rfl⟩, hmarks⟩ := hu
    dsimp only
    rw [hmarks]
    intro _
    exact .inr ⟨rfl, .os e, rfl, rfl⟩

/-- `open` passes on an error that admits the write, and no other one has to. -/
theorem Sounds.inaccessible {m : Py κ α} (hm : Sounds m) : Sounds (mapError m inaccessible) := by
  intro c log hlog
  apply wp_mapError (hm c log hlog)
  · intro a c' log' h
    exact h
  · intro error c' log' h hset
    obtain ⟨hslip, hadmits⟩ | ⟨hslip, error', heq, hflag⟩ := h hset
    · left
      cases error with
      | startup e => exact ⟨hslip, hadmits⟩
      | os e =>
        -- an `OSError` has no flags, so that it is no error behind the write
        have hno := (hadmits _ rfl).1
        simp [PyError.report] at hno
    · right
      cases heq
      cases error with
      | startup e => exact ⟨hslip, _, rfl, hflag⟩
      | os e => exact ⟨hslip, _, rfl, rfl⟩

theorem sounds_store_open (path : String) (create : Bool) (body : Option (Fd .directory) → Py Unit α)
    (hbody : ∀ directory, Sounds (body directory)) : Sounds (store_open path create body) := by
  apply (Early.of_quiet (quiet_check _)).bind_sounds
  intro parts
  apply Sounds.block
  apply Sounds.always
  · apply Sounds.inaccessible
    apply (early_open_directory create parts).bind_sounds
    intro directory
    exact (hbody directory).block ()
  · intro c log
    rw [Post, wp_ctx_then]
    cases c with
    | none => exact Cleans.of_quiet_pure none log
    | some fd => exact cleans_close fd (.inr rfl) (some fd) log

theorem early_acquire (fd : Fd .lock) : Early (acquire fd) :=
  (Early.of_quiet (quiet_fstat fd)).bind fun _ => (Early.of_quiet (quiet_check _)).bind fun _ =>
    (Early.of_quiet (silent_bail _ _)).bind fun _ =>
      (Early.of_quiet ((quiet_lock fd).mapError lock_held)).bind fun _ => early_update _

theorem sounds_locked (directory : Fd .directory) (body : Py Unit α) (hbody : Sounds body) :
    Sounds (locked directory body) := by
  apply (Early.of_quiet (quiet_open _ _ _)).bind_sounds
  intro fd
  apply Sounds.block
  apply Sounds.always
  · apply (early_acquire fd).bind_sounds
    intro _
    exact hbody.block ()
  · exact cleans_unlock fd

/-! ## Behind the write -/

/-- The marks behind the write: whether the file was replaced is open. -/
def written (renamed : Bool) : Marks := ⟨true, renamed, false⟩

/-- The variables of `save` and the marks agree. -/
def Agrees (saving : Saving) (m : Marks) : Prop :=
  m = written saving.replaced ∧ (saving.fd.isSome = true → saving.replaced = false)

/-- Renaming leaves its mark, unless it fails. -/
theorem post_replace (source target : String) (directory : Fd .directory) (c : κ) (log : Log) :
    Post (os_replace source target directory) (fun r c' log' => c' = c ∧
      marks log' = match r with
        | .ok _ => { marks log with renamed := true }
        | .error _ => marks log) c log := by
  apply post_call
  intro b
  cases b with
  | ok u => exact ⟨rfl, by simp [marks_append, sets, renames, slips, Except.mapError]⟩
  | error e => exact ⟨rfl, by simp [marks_append, sets, renames, slips, Except.mapError]⟩

theorem replace_state_agrees (directory : Fd .directory) (name : String) (data : List UInt8)
    (log : Log) (hlog : marks log = written false) :
    Post (replace_state directory name data) (fun _ c' log' => Agrees c' (marks log'))
      ⟨none, false⟩ log := by
  apply post_quiet (quiet_open _ _ _)
  · simp +contextual [Agrees, hlog]
  intro fd log₁ h₁
  rw [Post, wp_update_then]
  apply post_quiet (quiet_fill_temporary fd data)
  · simp +contextual [Agrees, hlog, h₁]
  intro _ log₂ h₂
  apply post_quiet (quiet_close_temporary fd)
  · simp +contextual [Agrees, hlog, h₁, h₂]
  intro _ log₃ h₃
  have hmarks : marks log₃ = written false := by rw [h₃, h₂, h₁, hlog]
  rw [Post, wp_update_then]
  apply wp_seq (post_replace _ _ _ _ log₃)
  · intro _ c₄ log₄ ⟨hc, h₄⟩
    rw [hc, wp_update_then]
    apply wp_mono (quiet_fsync directory _ log₄) (fun _ h => h)
    intro r c' log' ⟨hc', h⟩
    simp [Agrees, hc', h, h₄, hmarks, written]
  · intro e c₄ log₄ ⟨hc, h₄⟩
    simp [Agrees, hc, h₄, hmarks]

/-- An error behind the write says that the record may be lost if the file
    was replaced; nothing slipped. -/
def Kept (r : Except PyError α) (m : Marks) : Prop :=
  ∃ renamed, m = written renamed ∧
    ∀ error, r = .error error → renamed = true → error.persistence_uncertain = true

/-- What `finally` finds: the error says what the variables do. -/
theorem post_saving (directory : Fd .directory) (name : String) (data : List UInt8) (log : Log)
    (hlog : marks log = written false) :
    Post (recover (replace_state directory name data) saving_failed) (fun r c' log' =>
      Agrees c' (marks log') ∧ ∀ error, r = .error error →
        error.persistence_uncertain = c'.replaced) ⟨none, false⟩ log := by
  apply wp_handle (replace_state_agrees directory name data log hlog)
  · intro a c' log' h
    simp [h]
  · intro error c' log' h
    unfold saving_failed
    rw [wp_ctx_then]
    simp [h, PyError.persistence_uncertain, StartupError.new]

/-- `finally` is quiet, and fails only where nothing was replaced. -/
theorem post_discard (directory : Fd .directory) (name : String) (c : Saving) (log : Log)
    (h : Agrees c (marks log)) :
    Post (discard_temporary directory name) (fun u _ log' =>
      marks log' = marks log ∧ ∀ error, u = .error error → c.replaced = false) c log := by
  unfold discard_temporary
  rw [Post, wp_ctx_then]
  by_cases hreplaced : c.replaced = true
  · -- the descriptor was closed before the file was renamed
    have hclosed : c.fd = none := by
      cases hfd : c.fd with
      | none => rfl
      | some fd => simp [h.2 (by simp [hfd])] at hreplaced
    simp [hclosed, close_some, hreplaced, wp_bind]
  · have hquiet : Quiet (close_some c.fd >>= fun _ =>
        recover (os_unlink name directory) fun _ => pure () : Py Saving Unit) := by
      apply Silent.bind
      · cases c.fd with
        | none => exact silent_pure _
        | some fd => exact quiet_close_temporary fd
      · exact fun _ => (quiet_unlink name directory).recover fun _ => silent_pure _
    simp only [hreplaced, Bool.false_eq_true, if_false]
    apply wp_mono (hquiet c log) (fun _ h => h)
    intro u c' log' ⟨_, hmarks⟩
    simp [hmarks]

theorem save_kept (json : Json) (directory : Fd .directory) (record : Record) (c : κ) (log : Log)
    (hlog : marks log = written false) :
    Post (save json directory record) (fun r _ log' => Kept r (marks log')) c log := by
  have hfail : ∀ (e : PyError) log', marks log' = marks log →
      Kept (.error e : Except PyError Unit) (marks log') := by
    simp +contextual [Kept, hlog, written]
  apply post_quiet (quiet_check _) hfail
  intro _ log₁ h₁
  rw [← h₁] at hfail
  apply post_quiet (quiet_load json directory) hfail
  intro _ log₂ h₂
  rw [← h₂] at hfail
  apply post_quiet (quiet_io (by simp [Noted])) hfail
  intro token log₃ h₃
  have hmarks : marks log₃ = written false := by rw [h₃, h₂, h₁, hlog]
  rw [Post, wp_block]
  apply wp_always (post_saving directory _ _ log₃ hmarks)
  intro r c' log' h
  obtain ⟨hagrees, herror⟩ := h
  apply wp_mono (post_discard directory _ c' log' hagrees) (fun _ h => h)
  intro u c'' log'' h
  obtain ⟨hsame, hfinal⟩ := h
  have hwritten : marks log'' = written c'.replaced := hsame.trans hagrees.1
  cases u with
  | ok _ =>
    refine ⟨c'.replaced, hwritten, ?_⟩
    intro error heq hreplaced
    rw [herror error heq, hreplaced]
  | error e =>
    refine ⟨c'.replaced, hwritten, ?_⟩
    simp [hfinal e rfl]

/-- Everything behind the write keeps to that. -/
theorem confirm_kept (json : Json) (backend : Backend) (directory : Fd .directory)
    (command wanted : String) (identity : Identity) (c : κ) (log : Log)
    (hlog : marks log = written false) :
    Post (confirm json backend directory command wanted identity)
      (fun r _ log' => Kept r (marks log')) c log := by
  have hfail : ∀ (e : PyError) log', marks log' = marks log →
      Kept (.error e : Except PyError String) (marks log') := by
    simp +contextual [Kept, hlog, written]
  apply post_quiet (quiet_get backend false) hfail
  intro readback log₁ h₁
  rw [← h₁] at hfail
  apply post_quiet (silent_bail _ _) hfail
  intro _ log₂ h₂
  rw [← h₂] at hfail
  apply post_quiet quiet_observe_identity hfail
  intro again log₃ h₃
  rw [← h₃] at hfail
  apply post_quiet (silent_bail _ _) hfail
  intro _ log₄ h₄
  have hmarks : marks log₄ = written false := by rw [h₄, h₃, h₂, h₁, hlog]
  dsimp only
  split
  · apply wp_seq (save_kept json directory _ c log₄ hmarks)
    · intro _ c' log' ⟨renamed, hrenamed, _⟩
      exact ⟨renamed, hrenamed, by simp⟩
    · intro e c' log' ⟨renamed, hrenamed, herror⟩
      exact ⟨renamed, hrenamed, by simpa using herror⟩
  · exact ⟨false, hmarks, by simp⟩

/-- Invoking `Backend.set` leaves its mark, and its error admits it. -/
theorem post_set (backend : Backend) (policy : String) (c : κ) (log : Log)
    (hlog : marks log = fresh) :
    Post (backend_set backend policy) (fun r _ log' => marks log' = written false ∧
      ∀ error, r = .error error → Admits error.report (marks log')) c log := by
  have hadmits : ∀ message, Admits (backend_failed message true).report (written false) := by
    simp [Admits, backend_failed, PyError.report, StartupError.new, written]
  have hrun : Post (backend_run backend ["power", "startup", "set", policy] true)
      (fun r _ log' => marks log' = written false ∧
        ∀ error, r = .error error → Admits error.report (written false)) c log := by
    apply post_call
    intro r
    have hmarks : marks (log ++ [⟨.run (backend.front ++ ["--force", "--apply"] ++
        ["power", "startup", "set", policy]), r⟩]) = written false := by
      simp [marks_append, hlog, sets, renames, slips, is_set_set, fresh, written]
    cases r with
    | error text => exact ⟨hmarks, by simp [hadmits]⟩
    | ok result =>
      dsimp only
      rw [Post, wp_bind, wp_bail]
      constructor
      · exact fun _ => ⟨hmarks, by simp [hadmits]⟩
      · exact fun _ => ⟨hmarks, by simp⟩
  apply wp_seq hrun
  · intro _ c' log' h
    obtain ⟨hmarks, _⟩ := h
    exact ⟨hmarks, by simp⟩
  · intro e c' log' h
    obtain ⟨hmarks, herror⟩ := h
    rw [hmarks]
    exact ⟨rfl, by simpa using herror⟩

theorem sounds_set_and_verify (json : Json) (backend : Backend) (directory : Fd .directory)
    (command wanted : String) (identity : Identity) (result : Result) :
    Sounds (set_and_verify json backend directory command wanted identity result : Py κ Result) := by
  intro c log hlog
  apply wp_seq (post_set backend wanted c log hlog)
  · intro _ c₁ log₁ ⟨h₁, _⟩
    have hconfirm : Post (mapError (confirm json backend directory command wanted identity)
        unconfirmed) (fun r _ log' => Sound r (marks log')) c₁ log₁ := by
      apply wp_mapError (confirm_kept json backend directory command wanted identity c₁ log₁ h₁)
      · intro readback c' log' ⟨renamed, hmarks, _⟩ _
        exact .inl ⟨by rw [hmarks]; rfl, by simp⟩
      · intro error c' log' ⟨renamed, hmarks, herror⟩ _
        -- what is raised again carries both flags
        left
        rw [hmarks]
        refine ⟨rfl, ?_⟩
        intro error' heq
        cases heq
        simpa [Admits, unconfirmed, PyError.report, PyError.persistence_uncertain,
          StartupError.new, written] using herror error rfl
    apply wp_seq hconfirm
    · intro readback c' log' h hset
      obtain ⟨hslip, _⟩ | ⟨_, error, heq, _⟩ := h hset
      · exact .inl ⟨hslip, by simp⟩
      · cases heq
    · intro error c' log' h hset
      simpa using h hset
  · intro error c' log' ⟨hmarks, herror⟩ _
    exact .inl ⟨by rw [hmarks]; rfl, by simpa using herror⟩

/-! ## Whole runs -/

theorem sounds_write_locked (json : Json) (backend : Backend) (directory : Fd .directory)
    (command : String) (policy : Option String) (result : Result) :
    Sounds (write_locked json backend directory command policy result : Py κ Result) := by
  apply (Early.of_quiet (quiet_prepare json backend directory command policy)).bind_sounds
  intro prepared
  cases prepared with
  | none => exact .of_quiet (silent_pure _)
  | some prepared => exact sounds_set_and_verify json backend directory command _ _ result

theorem sounds_in_directory (json : Json) (writer : Option Backend) (command : String)
    (policy : Option String) (result : Result) (directory : Option (Fd .directory)) :
    Sounds (in_directory json writer command policy result directory) := by
  have hpreview : ∀ saved, Sounds (if saved.isNone = true ∧ command ≠ "set" then pure result
      else preview command policy result saved : Py Unit Result) := by
    intro saved
    split
    · exact .of_quiet (silent_pure _)
    · exact .of_quiet (quiet_preview command policy result saved)
  cases directory with
  | none =>
    have hsaved : Early (pure none : Py Unit (Option Record)) := .of_quiet (silent_pure none)
    cases writer with
    | none => exact hsaved.bind_sounds hpreview
    | some backend => exact hsaved.bind_sounds hpreview
  | some fd =>
    cases writer with
    | none => exact (Early.of_quiet (quiet_load json fd)).bind_sounds hpreview
    | some backend =>
      apply (Early.of_quiet (quiet_load json fd)).bind_sounds
      intro saved
      dsimp only
      split
      · exact .of_quiet (silent_pure _)
      · exact sounds_locked fd _ (sounds_write_locked json backend fd command policy result)

theorem sounds_execute (json : Json) (command : String) (policy : Option String)
    (force apply : Bool) (state_dir : String) (backend : Option Backend) :
    Sounds (execute json command policy force apply state_dir backend) := by
  apply (Early.of_quiet quiet_require_root).bind_sounds
  intro _
  apply (Early.of_quiet (silent_bail _ _)).bind_sounds
  intro _
  apply (Early.of_quiet (quiet_check _)).bind_sounds
  intro policy
  apply (Early.of_quiet (silent_bail _ _)).bind_sounds
  intro _
  exact sounds_store_open _ _ _ fun directory => sounds_in_directory json _ command policy _ directory

theorem sounds_main_steps (json : Json) (args : Args) : Sounds (main_steps json args) := by
  apply (Early.of_quiet (quiet_check _)).bind_sounds
  intro backend
  apply (Early.of_quiet (silent_bail _ _)).bind_sounds
  intro _ c log hlog
  apply wp_seq (sounds_execute json args.command args.policy args.force args.apply args.state_dir
    backend c log hlog)
  · intro result c' log' h
    apply post_call
    intro b
    cases b with
    | ok u =>
      have hsame : marks (log' ++ [⟨.print_result result, .ok u⟩]) = marks log' := by
        simp [marks_append, sets, renames, slips]
      intro hset
      rw [hsame] at hset
      obtain ⟨hslip, _⟩ | ⟨_, error, heq, _⟩ := h hset
      · exact .inl ⟨(congrArg Marks.slipped hsame).trans hslip, by simp⟩
      · cases heq
    | error e =>
      have hslip : (marks (log' ++ [⟨.print_result result, .error e⟩])).slipped = true := by
        simp [marks_append, slips]
      exact fun _ => .inr ⟨hslip, .os e, rfl, rfl⟩
  · intro error c' log' h hset
    simpa using h hset

/-- The reports of a run admit that the policy was set, and that the record
    may be lost. -/
def Truthful (outcome : Except Report Result) (log : Log) : Prop :=
  ∀ report, outcome = .error report →
    report.hardware_write_attempted = true ∧ report.hardware_may_have_changed = true ∧
      (log.any renames = true → report.persistence_uncertain = true)

/-- Where the policy was set, the report is truthful exactly if no clean-up
    slipped. -/
theorem truthful_iff (json : Json) (args : Args) (outcome : Except Report Result) (log : Log)
    (hrun : Prog.Runs (recorded startup) (main json args) [] outcome log)
    (hset : log.any sets = true) : Truthful outcome log ↔ log.any slips = false := by
  obtain ⟨⟨r, c⟩, log', hsteps, hend⟩ := Prog.Runs.of_bind hrun
  cases hend
  have hsound : Sound r (marks log) := wp_runs (sounds_main_steps json args () [] rfl) hsteps
  obtain ⟨hslip, hadmits⟩ | ⟨hslip, error, rfl, hflag⟩ := hsound hset
  · have hnone : log.any slips = false := hslip
    simp only [hnone, iff_true]
    intro report heq
    cases r with
    | ok result => cases heq
    | error error =>
      cases heq
      exact hadmits error rfl
  · have hsome : log.any slips = true := hslip
    simp only [hsome, Bool.true_eq_false, iff_false]
    intro htruthful
    have hflag' := (htruthful _ rfl).1
    rw [hflag] at hflag'
    cases hflag'

/-! ## A machine -/

/-- `set on` for `/usr/sbin/ugreenctl`, with nothing saved before. -/
def set_args : Args where
  command := "set"
  policy := some "on"
  binary := some "/usr/sbin/ugreenctl"
  plugin_dir := none
  state_dir := "/var/lib/ugreenctl/startup"
  force := true
  apply := true

def sample_text : String :=
  "\x7b\"desired_policy\":\"on\",\"identity\":\x7b\"bios_date\":\"a\",\"bios_vendor\":\"a\"," ++
    "\"bios_version\":\"a\",\"board_version\":\"a\",\"product_name\":\"a\"," ++
    "\"product_version\":\"a\"\x7d,\"schema_version\":1\x7d"

/-- The JSON library on the record of this machine. -/
def sample_json : Json where
  loads object _ text :=
    if text = sample_text ++ "\n" then
      Except.mapError some do
        let identity ← object [("bios_date", .str "a"), ("bios_vendor", .str "a"),
          ("bios_version", .str "a"), ("board_version", .str "a"), ("product_name", .str "a"),
          ("product_version", .str "a")]
        object [("desired_policy", .str "on"), ("identity", identity), ("schema_version", .int 1)]
    else
      .error none
  dumps _ := sample_text

/-- Every operation succeeds, and there is no state file yet. -/
def healthy : (o : StartupOp) → o.Ans
  | .platform => "linux"
  | .geteuid => 0
  | .open_file .state _ _ => .error ⟨.file_not_found, "[Errno 2] No such file or directory"⟩
  | .open_file _ _ _ => .ok 3
  | .mkdir _ _ _ => .ok ()
  | .fsync _ _ => .ok ()
  | .close _ _ => .ok ()
  | .fstat .directory _ => .ok ⟨0o040700, 0, 2, 4096⟩
  | .fstat _ _ => .ok ⟨0o100600, 0, 1, 0⟩
  | .flock _ _ => .ok ()
  | .read _ _ => .ok []
  | .write _ data => .ok data.length
  | .replace _ _ _ => .ok ()
  | .unlink _ _ => .ok ()
  | .token_hex _ => "00112233445566778899aabbccddeeff"
  | .read_dmi _ _ => .ok (encode_utf8 "a\n")
  | .run _ => .ok ⟨0, encode_utf8 "on\n"⟩
  | .print_result _ => .ok ()

/-- What an `EIO` looks like. -/
def input_output_error : OsError := ⟨.other, "[Errno 5] Input/output error"⟩

/-- The directory cannot be synced behind the rename. -/
def unsynced : (o : StartupOp) → o.Ans
  | .fsync .directory _ => .error input_output_error
  | o => healthy o

/-- The lock cannot be released. -/
def stuck : (o : StartupOp) → o.Ans
  | .flock _ .unlock => .error input_output_error
  | o => healthy o

/-- The run of the script against such answers. -/
def run_against (answer : (o : StartupOp) → o.Ans) : Except Report Result × Log :=
  Prog.exec (S := startup) (fun log o => (answer o, log ++ [⟨o, answer o⟩]))
    (main sample_json set_args) []

theorem runs_against (answer : (o : StartupOp) → o.Ans) :
    Prog.Runs (recorded startup) (main sample_json set_args) [] (run_against answer).1
      (run_against answer).2 :=
  Prog.runs_exec (fun _ _ => rfl) _ _

theorem truthful_iff_unsynced :
    (run_against unsynced).2.any renames = true ∧
      Truthful (run_against unsynced).1 (run_against unsynced).2 := by
  have hmarks : marks (run_against unsynced).2 = written true := by decide +kernel
  obtain ⟨hset, hrenamed, hslip⟩ := any_of_marks hmarks
  exact ⟨hrenamed, (truthful_iff sample_json set_args _ _ (runs_against unsynced) hset).mpr hslip⟩

def report_of : Except Report Result → Option Report
  | .error report => some report
  | .ok _ => none

/-- The policy was set and saved, and the report denies that anything was
    attempted. -/
theorem stuck_lock_denies_write :
    (run_against stuck).2.any sets = true ∧ (run_against stuck).2.any renames = true ∧
      ¬ Truthful (run_against stuck).1 (run_against stuck).2 := by
  have hstuck : marks (run_against stuck).2 = ⟨true, true, true⟩ ∧
      report_of (run_against stuck).1 = some ⟨
        "unsafe or inaccessible state path: [Errno 5] Input/output error",
        some false, false, false, false, false⟩ := by decide +kernel
  obtain ⟨hmarks, hreport⟩ := hstuck
  obtain ⟨hset, hrenamed, _⟩ := any_of_marks hmarks
  refine ⟨hset, hrenamed, ?_⟩
  intro htruthful
  cases hrun : (run_against stuck).1 with
  | ok result => simp [hrun, report_of] at hreport
  | error report =>
    simp only [hrun, report_of, Option.some.injEq] at hreport
    have hflag := (htruthful report hrun).1
    simp [hreport] at hflag

end UgreenNas.Startup
