import UgreenNas.Startup.Execute

/-! # What a run of the startup helper leaves in its log

    A run is judged by its log, of which three marks are enough: whether the
    policy was set, whether the state file was replaced, and whether a
    clean-up slipped.  Most procedures leave none of them: they are quiet.
-/

namespace UgreenNas.Startup

open Effect Effect.Proc

variable {κ α β : Type} {purpose : Purpose}

abbrev Log : Type := List (Event startup)

/-! ## Marks -/

/-- The command of `Backend.set`. -/
def is_set (command : List String) : Bool := ["power", "startup", "set"].isSuffixOf command.dropLast

/-- `Backend.set` was invoked. -/
def sets : Event startup → Bool
  | ⟨.run command, _⟩ => is_set command
  | _ => false

/-- The state file was renamed. -/
def renames : Event startup → Bool
  | ⟨.replace _ _ _, .ok _⟩ => true
  | _ => false

/-- Unlocking, closing the lock, closing a directory or printing the result
    failed. -/
def slips : Event startup → Bool
  | ⟨.flock _ .unlock, .error _⟩ => true
  | ⟨.close .lock _, .error _⟩ => true
  | ⟨.close .directory _, .error _⟩ => true
  | ⟨.print_result _, .error _⟩ => true
  | _ => false

structure Marks where
  set : Bool
  renamed : Bool
  slipped : Bool
  deriving DecidableEq, Repr

def marks (log : Log) : Marks := ⟨log.any sets, log.any renames, log.any slips⟩

theorem any_of_marks {log : Log} {m : Marks} (h : marks log = m) :
    log.any sets = m.set ∧ log.any renames = m.renamed ∧ log.any slips = m.slipped := by
  subst h
  exact ⟨rfl, rfl, rfl⟩

/-- Nothing of note happened. -/
def fresh : Marks := ⟨false, false, false⟩

theorem marks_append (log : Log) (event : Event startup) :
    marks (log ++ [event]) = ⟨(marks log).set || sets event, (marks log).renamed || renames event,
      (marks log).slipped || slips event⟩ := by
  simp [marks]

/-- The operations that may leave a mark. -/
def Noted : StartupOp → Prop
  | .run command => is_set command = true
  | .replace _ _ _ => True
  | .flock _ .unlock => True
  | .close .lock _ => True
  | .close .directory _ => True
  | .print_result _ => True
  | _ => False

theorem marks_of_not_noted {o : StartupOp} (ho : ¬ Noted o) (b : o.Ans) (log : Log) :
    marks (log ++ [⟨o, b⟩]) = marks log := by
  have hnone : sets ⟨o, b⟩ = false ∧ renames ⟨o, b⟩ = false ∧ slips ⟨o, b⟩ = false := by
    cases o with
    | flock _ operation => cases operation <;> simp_all [Noted, sets, renames, slips]
    | close purpose _ => cases purpose <;> simp_all [Noted, sets, renames, slips]
    | _ => simp_all [Noted, sets, renames, slips]
  simp [marks_append, hnone]

/-! ## Steps -/

/-- The weakest precondition over every answer of the machine. -/
abbrev Post (m : Py κ α) (Q : Except PyError α → κ → Log → Prop) (c : κ) (log : Log) : Prop :=
  wp (recorded startup) (fun _ => True) m Q c log

/-- A procedure that leaves its variables and the marks as they are. -/
abbrev Quiet (m : Py κ α) : Prop := Silent (recorded startup) marks m

/-- A call, and what is done with its answer. -/
theorem post_call {o : StartupOp} {g : o.Ans → Py κ α} {Q : Except PyError α → κ → Log → Prop}
    {c : κ} {log : Log} (h : ∀ b, Post (g b) Q c (log ++ [⟨o, b⟩])) : Post (io o >>= g) Q c log := by
  intro b log' hlog
  rw [hlog]
  exact ⟨trivial, h b⟩

theorem quiet_io {o : StartupOp} (ho : ¬ Noted o) : Quiet (io o : Py κ o.Ans) := by
  apply silent_ask
  intro log b log' hlog
  rw [hlog]
  exact marks_of_not_noted ho b log

theorem quiet_os (r : Except OsError α) : Quiet (os r : Py κ α) := silent_lift _

theorem quiet_check (r : Except StartupError α) : Quiet (check r : Py κ α) := silent_lift _

theorem quiet_refuse (message : String) : Quiet (refuse message : Py κ α) := silent_fail _

/-- A call whose failure is raised. -/
theorem quiet_call {o : StartupOp} (ho : ¬ Noted o) {g : o.Ans → Py κ α} (hg : ∀ b, Quiet (g b)) :
    Quiet (io o >>= g) :=
  (quiet_io ho).bind hg

theorem quiet_open (purpose : Purpose) (name : String) (dir_fd : Option (Fd .directory)) :
    Quiet (os_open purpose name dir_fd : Py κ (Fd purpose)) :=
  quiet_call (by simp [Noted]) fun r => (quiet_os r).bind fun _ => silent_pure _

theorem quiet_fstat (fd : Fd purpose) : Quiet (os_fstat fd : Py κ StatResult) :=
  quiet_call (by simp [Noted]) quiet_os

theorem quiet_fsync (fd : Fd purpose) : Quiet (os_fsync fd : Py κ Unit) :=
  quiet_call (by simp [Noted]) quiet_os

theorem quiet_mkdir (name : String) (mode : Nat) (fd : Fd .directory) :
    Quiet (os_mkdir name mode fd : Py κ Unit) :=
  quiet_call (by simp [Noted]) quiet_os

theorem quiet_read (fd : Fd .state) (size : Nat) : Quiet (os_read fd size : Py κ (List UInt8)) :=
  quiet_call (by simp [Noted]) quiet_os

theorem quiet_write (fd : Fd .temporary) (data : List UInt8) :
    Quiet (os_write fd data : Py κ Nat) :=
  quiet_call (by simp [Noted]) quiet_os

theorem quiet_unlink (name : String) (fd : Fd .directory) :
    Quiet (os_unlink name fd : Py κ Unit) :=
  quiet_call (by simp [Noted]) quiet_os

theorem quiet_lock (fd : Fd .lock) : Quiet (os_flock fd .exclusive : Py κ Unit) :=
  quiet_call (by simp [Noted]) quiet_os

theorem quiet_close_state (fd : Fd .state) : Quiet (os_close fd : Py κ Unit) :=
  quiet_call (by simp [Noted]) quiet_os

theorem quiet_close_temporary (fd : Fd .temporary) : Quiet (os_close fd : Py κ Unit) :=
  quiet_call (by simp [Noted]) quiet_os

/-! ## Procedures that only look -/

theorem quiet_read_chunks (fd : Fd .state) (rounds : Nat) (data : List UInt8) :
    Quiet (read_chunks fd rounds data : Py κ (List UInt8)) := by
  induction rounds generalizing data with
  | zero => exact silent_pure _
  | succ rounds ih =>
    unfold read_chunks
    split
    · apply (quiet_read fd _).bind
      intro chunk
      split
      · exact silent_pure _
      · exact ih _
    · exact silent_pure _

theorem quiet_read_record (json : Json) (fd : Fd .state) :
    Quiet (read_record json fd : Py κ Record) :=
  (quiet_fstat fd).bind fun _ => (quiet_check _).bind fun _ => (silent_bail _ _).bind fun _ =>
    (quiet_read_chunks fd _ _).bind fun _ => (quiet_fstat fd).bind fun _ =>
      (quiet_check _).bind fun _ => (silent_bail _ _).bind fun _ => quiet_check _

theorem quiet_load (json : Json) (directory : Fd .directory) :
    Quiet (load json directory : Py κ (Option Record)) := by
  apply (quiet_open .state STATE_FILE (some directory)).attempt.bind
  intro opened
  cases opened with
  | error error =>
    dsimp only
    split
    · exact silent_pure _
    · exact silent_fail _
  | ok fd =>
    exact ((quiet_read_record json fd).always (quiet_close_state fd)).bind fun _ => silent_pure _

theorem quiet_identity_fields (fields : List String) :
    Quiet (identity_fields fields : Py κ Identity) := by
  induction fields with
  | nil => exact silent_pure _
  | cons field fields ih =>
    exact quiet_call (by simp [Noted]) fun r => (quiet_os r).bind fun _ =>
      (quiet_check _).bind fun _ => ih.bind fun _ => silent_pure _

theorem quiet_observe_identity : Quiet (observe_identity : Py κ Identity) :=
  (quiet_identity_fields _).bind fun _ => (quiet_check _).bind fun _ => quiet_check _

theorem is_set_get (front : List String) :
    is_set (front ++ ["power", "startup", "get"]) = false := by
  simp [is_set, List.isSuffixOf, List.isPrefixOf]

theorem is_set_set (front : List String) (policy : String) :
    is_set (front ++ ["--force", "--apply", "power", "startup", "set", policy]) = true := by
  simp [is_set, List.isSuffixOf]

theorem quiet_get (backend : Backend) (allow_unknown : Bool) :
    Quiet (backend_get backend allow_unknown : Py κ String) := by
  have hrun : Quiet (backend_run backend ["power", "startup", "get"] false : Py κ (List UInt8)) := by
    apply quiet_call
    · simp [Noted, is_set_get]
    · intro r
      cases r with
      | error text => exact silent_fail _
      | ok result => exact (silent_bail _ _).bind fun _ => silent_pure _
  apply hrun.bind
  intro data
  split
  · exact silent_pure _
  · exact quiet_refuse _

theorem quiet_prepare (json : Json) (backend : Backend) (directory : Fd .directory)
    (command : String) (policy : Option String) :
    Quiet (prepare json backend directory command policy : Py κ (Option (String × Identity))) := by
  apply (quiet_load json directory).bind
  intro saved
  dsimp only
  split
  · exact silent_pure _
  · exact quiet_observe_identity.bind fun _ => (silent_bail _ _).bind fun _ =>
      (quiet_get backend true).bind fun _ => quiet_observe_identity.bind fun _ =>
        (silent_bail _ _).bind fun _ => silent_pure _

theorem quiet_preview (command : String) (policy : Option String) (result : Result)
    (saved : Option Record) : Quiet (preview command policy result saved : Py κ Result) :=
  quiet_observe_identity.bind fun _ => (silent_bail _ _).bind fun _ => silent_pure _

theorem quiet_require_root : Quiet (require_root : Py κ Unit) :=
  quiet_call (by simp [Noted]) fun _ => (silent_bail _ _).bind fun _ =>
    quiet_call (by simp [Noted]) fun _ => silent_bail _ _

theorem quiet_open_component (create : Bool) (part : String) (fd : Fd .directory) :
    Quiet (open_component create part fd : Py κ (Option (Fd .directory))) := by
  apply ((quiet_open _ _ _).bind fun _ => silent_pure _).recover
  intro error
  split
  · split
    · apply Silent.bind
      · apply ((quiet_mkdir _ _ _).bind fun _ => quiet_fsync _).recover
        intro error
        split
        · exact silent_pure _
        · exact silent_fail _
      · exact fun _ => (quiet_open _ _ _).bind fun _ => silent_pure _
    · exact silent_pure _
  · exact silent_fail _

theorem quiet_write_data (fd : Fd .temporary) (rounds : Nat) (data : List UInt8) :
    Quiet (write_data fd rounds data : Py κ Unit) := by
  induction rounds generalizing data with
  | zero => exact silent_pure _
  | succ rounds ih =>
    unfold write_data
    split
    · exact silent_pure _
    · exact (quiet_write fd data).bind fun _ => (silent_bail _ _).bind fun _ => ih _

theorem quiet_fill_temporary (fd : Fd .temporary) (data : List UInt8) :
    Quiet (fill_temporary fd data : Py κ Unit) :=
  (quiet_fstat fd).bind fun _ => (quiet_check _).bind fun _ =>
    (quiet_write_data fd _ data).bind fun _ => (quiet_fsync fd).bind fun _ =>
      (quiet_fstat fd).bind fun _ => quiet_check _

/-- A quiet step in front of others. -/
theorem post_quiet {m : Py κ α} {g : α → Py κ β} {Q : Except PyError β → κ → Log → Prop} {c : κ}
    {log : Log} (hm : Quiet m) (hfail : ∀ e log', marks log' = marks log → Q (.error e) c log')
    (hg : ∀ a log', marks log' = marks log → Post (g a) Q c log') : Post (m >>= g) Q c log := by
  apply wp_seq (hm c log)
  · intro a c' log' ⟨hc, hmarks⟩
    rw [hc]
    exact hg a log' hmarks
  · intro e c' log' ⟨hc, hmarks⟩
    rw [hc]
    exact hfail e log' hmarks

/-! ## Before the policy is set -/

/-- Started afresh, `m` does not set the policy, and unless it fails nothing
    of note has happened. -/
def Early (m : Py κ α) : Prop :=
  ∀ c log, marks log = fresh →
    Post m (fun r _ log' => (marks log').set = false ∧ ∀ a, r = .ok a → marks log' = fresh) c log

theorem Early.of_quiet {m : Py κ α} (hm : Quiet m) : Early m := by
  intro c log hlog
  apply wp_mono (hm c log) (fun _ h => h)
  intro r c' log' ⟨_, hmarks⟩
  rw [hmarks, hlog]
  simp [fresh]

theorem Early.bind {m : Py κ α} {g : α → Py κ β} (hm : Early m) (hg : ∀ a, Early (g a)) :
    Early (m >>= g) := by
  intro c log hlog
  apply wp_seq (hm c log hlog)
  · intro a c' log' ⟨_, hok⟩
    exact hg a c' log' (hok a rfl)
  · intro e c' log' ⟨hset, _⟩
    simp [hset]

theorem early_update (f : κ → κ) : Early (update f : Py κ Unit) := by
  intro c log hlog
  simp [Post, hlog, fresh]

theorem marks_close_ok (fd : Fd purpose) (log : Log) (u : Unit) :
    marks (log ++ [⟨.close purpose fd, .ok u⟩]) = marks log := by
  cases purpose <;> simp [marks_append, sets, renames, slips]

theorem early_close (fd : Fd purpose) : Early (os_close fd : Py κ Unit) := by
  intro c log hlog
  apply post_call
  intro b
  cases b with
  | ok u =>
    have hsame : marks (log ++ [⟨.close purpose fd, .ok u⟩]) = fresh :=
      (marks_close_ok fd log u).trans hlog
    exact ⟨congrArg Marks.set hsame, fun _ _ => hsame⟩
  | error e => simp [os, Except.mapError, marks_append, sets, hlog, fresh]

theorem early_open_parts (create : Bool) (parts : List String) (fd : Fd .directory) :
    Early (open_parts create parts fd) := by
  induction parts generalizing fd with
  | nil => exact .of_quiet (silent_pure _)
  | cons part parts ih =>
    apply (Early.of_quiet (quiet_open_component create part fd)).bind
    intro child
    cases child with
    | none => exact (early_close fd).bind fun _ => (early_update _).bind fun _ =>
        .of_quiet (silent_pure _)
    | some child => exact (early_close fd).bind fun _ => (early_update _).bind fun _ =>
        (Early.of_quiet (quiet_fstat child)).bind fun _ =>
          (Early.of_quiet (quiet_check _)).bind fun _ => ih child

theorem early_open_directory (create : Bool) (parts : List String) :
    Early (open_directory create parts) := by
  apply (Early.of_quiet (quiet_open _ _ _)).bind
  intro fd
  apply (early_update _).bind
  intro _
  apply (Early.of_quiet (quiet_fstat fd)).bind
  intro _
  apply (Early.of_quiet (quiet_check _)).bind
  intro _
  apply (early_open_parts create parts fd).bind
  intro directory
  cases directory with
  | none => exact .of_quiet (silent_pure _)
  | some fd => exact .of_quiet ((quiet_fstat fd).bind fun _ => (quiet_check _).bind fun _ =>
      silent_pure _)

end UgreenNas.Startup
