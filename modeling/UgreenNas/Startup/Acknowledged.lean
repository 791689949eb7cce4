import UgreenNas.Effect.Asks
import UgreenNas.Startup.Truthful

/-! # What a run is allowed to do

    Without both acknowledgements, and always for `show`, a run only looks.
    A run of `apply` sets the policy at most once: under the lock, by the
    record that was read again under it, on the machine that the record
    names, as it was identified before and after the policy was read.
-/

namespace UgreenNas.Startup

open Effect Effect.Proc

variable {κ α : Type} {purpose : Purpose} {P : StartupOp → Prop}

/-! ## Operations -/

/-- A method of the backend is invoked. -/
def Invokes : StartupOp → Prop
  | .run _ => True
  | _ => False

/-- A file or a directory is created, changed or removed. -/
def Changes : StartupOp → Prop
  | .open_file .lock _ _ => True
  | .open_file .temporary _ _ => True
  | .mkdir _ _ _ => True
  | .write _ _ => True
  | .replace _ _ _ => True
  | .unlink _ _ => True
  | _ => False

/-- Operations that only look. -/
def Looks : StartupOp → Prop
  | .platform => True
  | .geteuid => True
  | .open_file .directory _ _ => True
  | .open_file .state _ _ => True
  | .close .directory _ => True
  | .close .state _ => True
  | .fstat _ _ => True
  | .read _ _ => True
  | .read_dmi _ _ => True
  | _ => False

/-- Operations by which a missing directory is made. -/
def Makes : StartupOp → Prop
  | .mkdir _ _ _ => True
  | .fsync _ _ => True
  | _ => False

/-- Everything but setting the policy. -/
def Modest : StartupOp → Prop
  | .run command => is_set command = false
  | _ => True

theorem looks_harmless {o : StartupOp} (h : Looks o) : ¬ Invokes o ∧ ¬ Changes o := by
  cases o with
  | open_file purpose _ _ => cases purpose <;> simp_all [Looks, Invokes, Changes]
  | close purpose _ => simp [Invokes, Changes]
  | _ => simp_all [Looks, Invokes, Changes]

theorem looks_modest {o : StartupOp} (h : Looks o) : Modest o := by
  cases o <;> simp_all [Looks, Modest]

theorem makes_modest {o : StartupOp} (h : Makes o) : Modest o := by
  cases o <;> simp_all [Makes, Modest]

theorem sets_eq_false {event : Event startup} : sets event = false ↔ Modest event.1 := by
  obtain ⟨o, b⟩ := event
  cases o <;> simp [sets, Modest]

/-! ## What the procedures ask for -/

theorem asks_call {o : StartupOp} (ho : P o) {g : o.Ans → Py κ α} (hg : ∀ b, Asks P (g b)) :
    Asks P (io o >>= g) :=
  (asks_ask ho).bind hg

theorem asks_os (r : Except OsError α) : Asks P (os r : Py κ α) := asks_lift _

theorem asks_check (r : Except StartupError α) : Asks P (check r : Py κ α) := asks_lift _

theorem asks_open (purpose : Purpose) (name : String) (dir_fd : Option (Fd .directory))
    (hP : P (.open_file purpose name dir_fd)) :
    Asks P (os_open purpose name dir_fd : Py κ (Fd purpose)) :=
  asks_call hP fun r => (asks_os r).bind fun _ => asks_pure _

theorem asks_fstat (fd : Fd purpose) : Asks Looks (os_fstat fd : Py κ StatResult) :=
  asks_call trivial asks_os

theorem asks_close_state (fd : Fd .state) : Asks Looks (os_close fd : Py κ Unit) :=
  asks_call trivial asks_os

theorem asks_close_directory (fd : Fd .directory) : Asks Looks (os_close fd : Py κ Unit) :=
  asks_call trivial asks_os

theorem asks_require_root : Asks Looks (require_root : Py κ Unit) :=
  asks_call trivial fun _ => (asks_bail _ _).bind fun _ =>
    asks_call trivial fun _ => asks_bail _ _

theorem asks_read_chunks (fd : Fd .state) (rounds : Nat) (data : List UInt8) :
    Asks Looks (read_chunks fd rounds data : Py κ (List UInt8)) := by
  induction rounds generalizing data with
  | zero => exact asks_pure _
  | succ rounds ih =>
    unfold read_chunks
    split
    · have hread : Asks Looks (os_read fd (MAX_STATE_BYTES + 1 - data.length) : Py κ _) :=
        asks_call trivial asks_os
      apply hread.bind
      intro chunk
      split
      · exact asks_pure _
      · exact ih _
    · exact asks_pure _

theorem asks_read_record (json : Json) (fd : Fd .state) :
    Asks Looks (read_record json fd : Py κ Record) :=
  (asks_fstat fd).bind fun _ => (asks_check _).bind fun _ => (asks_bail _ _).bind fun _ =>
    (asks_read_chunks fd _ _).bind fun _ => (asks_fstat fd).bind fun _ =>
      (asks_check _).bind fun _ => (asks_bail _ _).bind fun _ => asks_check _

theorem asks_load (json : Json) (directory : Fd .directory) :
    Asks Looks (load json directory : Py κ (Option Record)) := by
  apply (asks_open .state STATE_FILE (some directory) trivial).attempt.bind
  intro opened
  cases opened with
  | error error =>
    dsimp only
    split
    · exact asks_pure _
    · exact asks_fail _
  | ok fd => exact ((asks_read_record json fd).always (asks_close_state fd)).bind fun _ => asks_pure _

theorem asks_identity_fields (fields : List String) :
    Asks Looks (identity_fields fields : Py κ Identity) := by
  induction fields with
  | nil => exact asks_pure _
  | cons field fields ih =>
    exact asks_call trivial fun r => (asks_os r).bind fun _ =>
      (asks_check _).bind fun _ => ih.bind fun _ => asks_pure _

theorem asks_observe_identity : Asks Looks (observe_identity : Py κ Identity) :=
  (asks_identity_fields _).bind fun _ => (asks_check _).bind fun _ => asks_check _

theorem asks_preview (command : String) (policy : Option String) (result : Result)
    (saved : Option Record) : Asks Looks (preview command policy result saved : Py κ Result) :=
  asks_observe_identity.bind fun _ => (asks_bail _ _).bind fun _ => asks_pure _

/-- Opening the store makes a directory only if it is told to. -/
def Opens (create : Bool) (o : StartupOp) : Prop := Looks o ∨ (create = true ∧ Makes o)

theorem asks_open_component (create : Bool) (part : String) (fd : Fd .directory) :
    Asks (Opens create) (open_component create part fd : Py κ (Option (Fd .directory))) := by
  have hopen : Asks (Opens create) (do
      let child ← os_open .directory part (some fd)
      return some child : Py κ (Option (Fd .directory))) :=
    (asks_open _ _ _ (.inl trivial)).bind fun _ => asks_pure _
  apply hopen.recover
  intro error
  split
  · split
    · next hcreate =>
      apply Asks.bind
      · have hmake : Asks (Opens create) (do
            os_mkdir part 0o700 fd
            os_fsync fd : Py κ Unit) :=
          (asks_call (.inr ⟨hcreate, trivial⟩) asks_os).bind fun _ =>
            asks_call (.inr ⟨hcreate, trivial⟩) asks_os
        apply hmake.recover
        intro error
        split
        · exact asks_pure _
        · exact asks_fail _
      · exact fun _ => hopen
    · exact asks_pure _
  · exact asks_fail _

theorem asks_open_parts (create : Bool) (parts : List String) (fd : Fd .directory) :
    Asks (Opens create) (open_parts create parts fd) := by
  have hlook : ∀ o, Looks o → Opens create o := fun _ => .inl
  induction parts generalizing fd with
  | nil => exact asks_pure _
  | cons part parts ih =>
    apply (asks_open_component create part fd).bind
    intro child
    cases child with
    | none => exact ((asks_close_directory fd).mono hlook).bind fun _ => (asks_update _).bind fun _ =>
        asks_pure _
    | some child => exact ((asks_close_directory fd).mono hlook).bind fun _ => (asks_update _).bind fun _ =>
        ((asks_fstat child).mono hlook).bind fun _ => (asks_check _).bind fun _ => ih child

theorem asks_open_directory (create : Bool) (parts : List String) :
    Asks (Opens create) (open_directory create parts) := by
  have hlook : ∀ o, Looks o → Opens create o := fun _ => .inl
  apply (asks_open .directory "/" none (.inl trivial)).bind
  intro fd
  apply (asks_update _).bind
  intro _
  apply ((asks_fstat fd).mono hlook).bind
  intro _
  apply (asks_check _).bind
  intro _
  apply (asks_open_parts create parts fd).bind
  intro directory
  cases directory with
  | none => exact asks_pure _
  | some fd => exact ((asks_fstat fd).mono hlook).bind fun _ => (asks_check _).bind fun _ =>
      asks_pure _

theorem asks_close_some (fd : Option (Fd purpose)) (hP : ∀ fd, P (.close purpose fd)) :
    Asks P (close_some fd : Py κ Unit) := by
  cases fd with
  | none => exact asks_pure _
  | some fd => exact asks_call (hP fd) asks_os

/-- What is asked for in a store: what opens it, and what the body asks for. -/
theorem asks_store_open {path : String} {create : Bool} {body : Option (Fd .directory) → Py Unit α}
    (hP : ∀ o, Opens create o → P o) (hbody : ∀ directory, Asks P (body directory)) :
    Asks P (store_open path create body) := by
  apply (asks_check _).bind
  intro parts
  apply Asks.block
  apply Asks.always
  · apply Asks.mapError
    apply ((asks_open_directory create parts).mono hP).bind
    intro directory
    exact (hbody directory).block ()
  · exact asks_ctx.bind fun fd => asks_close_some fd fun _ => hP _ (.inl trivial)

/-- A run that does not write only looks. -/
theorem asks_execute_looks (json : Json) (command : String) (policy : Option String)
    (force apply : Bool) (state_dir : String) (backend : Option Backend)
    (hreading : (force && apply && command ≠ "show") = false) :
    Asks Looks (execute json command policy force apply state_dir backend) := by
  apply asks_require_root.bind
  intro _
  apply (asks_bail _ _).bind
  intro _
  rw [hreading]
  apply (asks_check _).bind
  intro policy
  apply (asks_bail _ _).bind
  intro _
  apply asks_store_open
  · intro o ho
    simpa [Opens] using ho
  · intro directory
    have hrest : ∀ saved, Asks Looks (if saved.isNone = true ∧ command ≠ "set" then
        pure (initial_result command false)
        else preview command policy (initial_result command false) saved : Py Unit Result) := by
      intro saved
      split
      · exact asks_pure _
      · exact asks_preview _ _ _ _
    cases directory with
    | none => exact (asks_pure none).bind hrest
    | some fd => exact (asks_load json fd).bind hrest

/-! ## Everything but the write -/

/-- `Backend.get` -/
def Gets : StartupOp → Prop
  | .run command => is_set command = false
  | _ => False

theorem gets_modest {o : StartupOp} (h : Gets o) : Modest o := by
  cases o <;> simp_all [Gets, Modest]

theorem asks_get (backend : Backend) (allow_unknown : Bool) :
    Asks Gets (backend_get backend allow_unknown : Py κ String) := by
  have hrun : Asks Gets (backend_run backend ["power", "startup", "get"] false :
      Py κ (List UInt8)) := by
    apply asks_call
    · simp [Gets, is_set_get]
    · intro r
      cases r with
      | error text => exact asks_fail _
      | ok result => exact (asks_bail _ _).bind fun _ => asks_pure _
  apply hrun.bind
  intro data
  split
  · exact asks_pure _
  · exact asks_fail _

theorem modest_write_data (fd : Fd .temporary) (rounds : Nat) (data : List UInt8) :
    Asks Modest (write_data fd rounds data : Py κ Unit) := by
  induction rounds generalizing data with
  | zero => exact asks_pure _
  | succ rounds ih =>
    unfold write_data
    split
    · exact asks_pure _
    · have hwrite : Asks Modest (os_write fd data : Py κ Nat) := asks_call trivial asks_os
      exact hwrite.bind fun _ => (asks_bail _ _).bind fun _ => ih _

theorem modest_fstat (fd : Fd purpose) : Asks Modest (os_fstat fd : Py κ StatResult) :=
  (asks_fstat fd).mono fun _ => looks_modest

theorem modest_close (fd : Fd purpose) : Asks Modest (os_close fd : Py κ Unit) :=
  asks_call trivial asks_os

theorem modest_fsync (fd : Fd purpose) : Asks Modest (os_fsync fd : Py κ Unit) :=
  asks_call trivial asks_os

theorem modest_load (json : Json) (directory : Fd .directory) :
    Asks Modest (load json directory : Py κ (Option Record)) :=
  (asks_load json directory).mono fun _ => looks_modest

theorem modest_observe_identity : Asks Modest (observe_identity : Py κ Identity) :=
  asks_observe_identity.mono fun _ => looks_modest

theorem modest_replace_state (directory : Fd .directory) (name : String) (data : List UInt8) :
    Asks Modest (replace_state directory name data) := by
  apply (asks_open .temporary name (some directory) trivial).bind
  intro fd
  have hfill : Asks Modest (fill_temporary fd data : Py Saving Unit) :=
    (modest_fstat fd).bind fun _ => (asks_check _).bind fun _ =>
      (modest_write_data fd _ data).bind fun _ => (modest_fsync fd).bind fun _ =>
        (modest_fstat fd).bind fun _ => asks_check _
  have hreplace : Asks Modest (os_replace name STATE_FILE directory : Py Saving Unit) :=
    asks_call trivial asks_os
  exact (asks_update _).bind fun _ => hfill.bind fun _ => (modest_close fd).bind fun _ =>
    (asks_update _).bind fun _ => hreplace.bind fun _ => (asks_update _).bind fun _ =>
      modest_fsync directory

theorem modest_discard_temporary (directory : Fd .directory) (name : String) :
    Asks Modest (discard_temporary directory name) := by
  apply asks_ctx.bind
  intro saving
  apply (asks_close_some saving.fd fun _ => trivial).bind
  intro _
  split
  · exact asks_pure _
  · have hunlink : Asks Modest (os_unlink name directory : Py Saving Unit) :=
      asks_call trivial asks_os
    exact hunlink.recover fun _ => asks_pure _

theorem modest_save (json : Json) (directory : Fd .directory) (record : Record) :
    Asks Modest (save json directory record : Py κ Unit) := by
  apply (asks_check _).bind
  intro _
  apply (modest_load json directory).bind
  intro _
  apply asks_call trivial
  intro token
  apply Asks.block
  apply Asks.always
  · exact (modest_replace_state _ _ _).recover fun error => asks_ctx.bind fun _ => asks_fail _
  · exact modest_discard_temporary _ _

theorem modest_confirm (json : Json) (backend : Backend) (directory : Fd .directory)
    (command wanted : String) (identity : Identity) :
    Asks Modest (confirm json backend directory command wanted identity : Py κ String) := by
  apply ((asks_get backend false).mono fun _ => gets_modest).bind
  intro readback
  apply (asks_bail _ _).bind
  intro _
  apply modest_observe_identity.bind
  intro again
  apply (asks_bail _ _).bind
  intro _
  dsimp only
  split
  · exact (modest_save json directory _).bind fun _ => asks_pure _
  · exact asks_pure _

theorem modest_unlock (fd : Fd .lock) : Asks Modest (unlock fd) := by
  apply Asks.always
  · apply asks_ctx.bind
    intro acquired
    split
    · exact asks_call trivial asks_os
    · exact asks_pure _
  · exact modest_close fd

/-! ## The write -/

/-- A complete successful run of `m`, and what it writes down. -/
def Reads (m : Py Unit α) (a : α) (log : Log) : Prop := Runs (recorded startup) m () [] (.ok a) () log

/-- Operations that give the lock up. -/
def Releases : StartupOp → Prop
  | .flock _ .unlock => True
  | .close .lock _ => True
  | _ => False

theorem looks_holds {o : StartupOp} (h : Looks o) : ¬ Releases o := by
  cases o with
  | close purpose _ => cases purpose <;> simp_all [Looks, Releases]
  | _ => simp_all [Looks, Releases]

theorem gets_holds {o : StartupOp} (h : Gets o) : ¬ Releases o := by
  cases o <;> simp_all [Gets, Releases]

/-- Everything that has to come before the write: the lock, and while it is
    held the record, its machine, the policy of the hardware, and its
    machine again. -/
def Cleared (json : Json) (backend : Backend) (record : Record) (log : Log) : Prop :=
  ∃ (outside : Log) (lock : Fd .lock) (directory : Fd .directory) (policy : String)
    (loaded first asked second : Log),
    log = outside ++ ⟨.flock lock .exclusive, .ok ()⟩ :: (loaded ++ first ++ asked ++ second) ∧
    Reads (load json directory) (some record) loaded ∧
    Reads observe_identity record.identity first ∧
    Reads (backend_get backend true) policy asked ∧
    Reads observe_identity record.identity second ∧
    ∀ event ∈ loaded ++ first ++ asked ++ second, ¬ Releases event.1

/-- The command of `backend.set(record["desired_policy"])`. -/
def set_command (backend : Backend) (record : Record) : List String :=
  backend.front ++ ["--force", "--apply"] ++ ["power", "startup", "set", record.desired_policy]

/-- The policy was not set. -/
def Unset (log : Log) : Prop := ∀ event ∈ log, sets event = false

theorem Unset.append {log new : Log} (h : Unset log) (hnew : Unset new) : Unset (log ++ new) := by
  intro event hmem
  rcases List.mem_append.mp hmem with hmem | hmem
  · exact h event hmem
  · exact hnew event hmem

theorem Unset.snoc {log : Log} (h : Unset log) {event : Event startup}
    (hevent : sets event = false) : Unset (log ++ [event]) :=
  h.append fun e hmem => by rw [List.mem_singleton.mp hmem]; exact hevent

/-- The policy was set at most once, and only after everything was cleared. -/
def Guarded (json : Json) (backend : Option Backend) (log : Log) : Prop :=
  Unset log ∨
  ∃ (b : Backend) (record : Record) (answer : Except String Completed) (before after : Log),
    backend = some b ∧
    log = before ++ ⟨.run (set_command b record), answer⟩ :: after ∧
    Cleared json b record before ∧ Unset before ∧ Unset after

/-- Anything else may come after it. -/
theorem Guarded.snoc {json : Json} {backend : Option Backend} {log : Log}
    (h : Guarded json backend log) {event : Event startup} (hevent : sets event = false) :
    Guarded json backend (log ++ [event]) := by
  obtain hnone | ⟨b, record, answer, before, after, hb, hlog, hcleared, hbefore, hafter⟩ := h
  · exact .inl (hnone.snoc hevent)
  · exact .inr ⟨b, record, answer, before, after ++ [event], hb, by simp [hlog], hcleared, hbefore,
      hafter.snoc hevent⟩

/-- So a procedure that does not set the policy keeps it. -/
theorem post_guarded {json : Json} {backend : Option Backend} {m : Py κ α} (hm : Asks Modest m)
    {c : κ} {log : Log} (h : Guarded json backend log) :
    Post m (fun _ _ log' => Guarded json backend log') c log := by
  apply hm.wp _ h
  intro log o b log' ho hstep hguarded
  rw [show log' = log ++ [⟨o, b⟩] from hstep]
  exact hguarded.snoc (sets_eq_false.mpr ho)

/-- A run that does not set the policy, with what it writes down. -/
theorem post_reads {m : Py Unit α} (hm : Asks Modest m) {log : Log} (hlog : Unset log) :
    Post m (fun r _ log' => ∃ new, log' = log ++ new ∧ Unset log' ∧
      ∀ a, r = .ok a → Reads m a new) () log := by
  apply wp_mono (wp_recorded m () log) (fun _ h => h)
  intro r c' log' h
  obtain ⟨new, hnew, hrun⟩ := h
  have hunset : Unset new := fun event hmem => sets_eq_false.mpr (hm.log hrun event hmem)
  refine ⟨new, hnew, ?_, ?_⟩
  · rw [hnew]
    exact hlog.append hunset
  · intro a heq
    rw [heq] at hrun
    exact hrun

/-- A check in front of others. -/
theorem post_bail {p : Prop} [Decidable p] {e : PyError} {g : Unit → Py κ α}
    {Q : Except PyError α → κ → Log → Prop} {c : κ} {log : Log} (hfail : Q (.error e) c log)
    (hg : ¬ p → Post (g ()) Q c log) : Post (bail p e >>= g) Q c log := by
  rw [Post, wp_bind, wp_bail]
  exact ⟨fun _ => hfail, hg⟩

/-- What is done under the lock, up to the write. -/
theorem post_prepare (json : Json) (backend : Backend) (directory : Fd .directory)
    (lock : Fd .lock) (outside : Log) (houtside : Unset outside) :
    Post (prepare json backend directory "apply" none) (fun r _ log' => Unset log' ∧
      ∀ wanted identity, r = .ok (some (wanted, identity)) →
        ∃ record, record.desired_policy = wanted ∧ Cleared json backend record log')
      () (outside ++ [⟨.flock lock .exclusive, .ok ()⟩]) := by
  have hlocked : Unset (outside ++ [⟨.flock lock .exclusive, .ok ()⟩]) := houtside.snoc rfl
  apply wp_seq (post_reads (modest_load json directory) hlocked)
  · intro saved c₁ log₁ h
    obtain ⟨loaded, h₁, hunset₁, hloaded⟩ := h
    cases saved with
    | none => exact ⟨hunset₁, by simp⟩
    | some record =>
      apply wp_seq (post_reads modest_observe_identity hunset₁)
      · intro identity c₂ log₂ h
        obtain ⟨first, h₂, hunset₂, hfirst⟩ := h
        apply post_bail ⟨hunset₂, by simp⟩
        intro hsame
        have hidentity : record.identity = identity := by simpa using hsame
        apply wp_seq (post_reads ((asks_get backend true).mono fun _ => gets_modest) hunset₂)
        · intro policy c₃ log₃ h
          obtain ⟨asked, h₃, hunset₃, hasked⟩ := h
          apply wp_seq (post_reads modest_observe_identity hunset₃)
          · intro again c₄ log₄ h
            obtain ⟨second, h₄, hunset₄, hsecond⟩ := h
            apply post_bail ⟨hunset₄, by simp⟩
            intro hagain
            have hidentity' : again = identity := by simpa using hagain
            refine ⟨hunset₄, ?_⟩
            intro wanted identity' heq
            cases heq
            refine ⟨record, rfl, outside, lock, directory, policy, loaded, first, asked, second,
              ?_, hloaded _ rfl, ?_, hasked _ rfl, ?_, ?_⟩
            · simp [h₄, h₃, h₂, h₁]
            · rw [hidentity]
              exact hfirst _ rfl
            · rw [hidentity, ← hidentity']
              exact hsecond _ rfl
            · -- neither part gives the lock up
              intro event hmem
              simp only [List.mem_append] at hmem
              rcases hmem with ((hmem | hmem) | hmem) | hmem
              · exact looks_holds ((asks_load json directory).log (hloaded _ rfl) event hmem)
              · exact looks_holds (asks_observe_identity.log (hfirst _ rfl) event hmem)
              · exact gets_holds ((asks_get backend true).log (hasked _ rfl) event hmem)
              · exact looks_holds (asks_observe_identity.log (hsecond _ rfl) event hmem)
          · intro e c₄ log₄ h
            obtain ⟨_, _, hunset, _⟩ := h
            exact ⟨hunset, by simp⟩
        · intro e c₃ log₃ h
          obtain ⟨_, _, hunset, _⟩ := h
          exact ⟨hunset, by simp⟩
      · intro e c₂ log₂ h
        obtain ⟨_, _, hunset, _⟩ := h
        exact ⟨hunset, by simp⟩
  · intro e c₁ log₁ h
    obtain ⟨_, _, hunset, _⟩ := h
    exact ⟨hunset, by simp⟩

/-- The write and what comes after it. -/
theorem post_set_and_verify (json : Json) (backend : Backend) (directory : Fd .directory)
    (result : Result) (record : Record) (identity : Identity) (log : Log)
    (hlog : Unset log) (hcleared : Cleared json backend record log) :
    Post (set_and_verify json backend directory "apply" record.desired_policy identity result)
      (fun _ _ log' => Guarded json (some backend) log') () log := by
  have hset : Post (backend_set backend record.desired_policy)
      (fun _ _ log' => Guarded json (some backend) log') () log := by
    have hrun : Post (backend_run backend ["power", "startup", "set", record.desired_policy] true)
        (fun _ _ log' => Guarded json (some backend) log') () log := by
      apply post_call
      intro answer
      apply post_guarded
      · cases answer with
        | error text => exact asks_fail _
        | ok completed => exact (asks_bail _ _).bind fun _ => asks_pure _
      · exact .inr ⟨backend, record, answer, log, [], rfl, rfl, hcleared, hlog, by simp [Unset]⟩
    apply wp_seq hrun
    · intro _ c' log' hguarded
      exact hguarded
    · intro e c' log' hguarded
      exact hguarded
  apply wp_seq hset
  · intro _ c' log' hguarded
    exact post_guarded (((modest_confirm json backend directory "apply" record.desired_policy
      identity).mapError unconfirmed).bind fun _ => asks_pure _) hguarded
  · intro e c' log' hguarded
    exact hguarded

/-! ## Whole runs -/

theorem post_unset {m : Py κ α} (hm : Asks Modest m) {c : κ} {log : Log} (hlog : Unset log) :
    Post m (fun _ _ log' => Unset log') c log := by
  apply hm.wp _ hlog
  intro log o b log' ho hstep hunset
  rw [show log' = log ++ [⟨o, b⟩] from hstep]
  exact hunset.snoc (sets_eq_false.mpr ho)

/-- The lock is taken last. -/
theorem post_acquire (fd : Fd .lock) (c : Bool) (log : Log) (hlog : Unset log) :
    Post (acquire fd) (fun r _ log' => Unset log' ∧ ∀ a, r = .ok a →
      ∃ outside, log' = outside ++ [⟨.flock fd .exclusive, .ok ()⟩] ∧ Unset outside) c log := by
  have hflock : ∀ c log, Unset log → Post (mapError (os_flock fd .exclusive) lock_held)
      (fun r _ log' => Unset log' ∧ ∀ a, r = .ok a →
        ∃ outside, log' = outside ++ [⟨.flock fd .exclusive, .ok ()⟩] ∧ Unset outside)
      (c : Bool) log := by
    intro c log hlog
    unfold mapError
    rw [Post, wp_recover]
    apply post_call
    intro b
    cases b with
    | ok u => exact ⟨hlog.snoc rfl, fun _ _ => ⟨log, rfl, hlog⟩⟩
    | error e =>
      refine ⟨hlog.snoc rfl, ?_⟩
      intro a heq
      cases heq
  apply wp_seq (post_unset (modest_fstat fd) hlog)
  · intro info c₁ log₁ h₁
    apply wp_seq (post_unset (asks_check _) h₁)
    · intro _ c₂ log₂ h₂
      apply post_bail ⟨h₂, by simp⟩
      intro _
      apply wp_seq (hflock c₂ log₂ h₂)
      · intro a c₃ log₃ h₃
        exact h₃
      · intro e c₃ log₃ h₃
        exact ⟨h₃.1, by simp⟩
    · intro e c₂ log₂ h₂
      exact ⟨h₂, by simp⟩
  · intro e c₁ log₁ h₁
    exact ⟨h₁, by simp⟩

theorem post_write_locked (json : Json) (backend : Backend) (directory : Fd .directory)
    (result : Result) (lock : Fd .lock) (outside : Log) (houtside : Unset outside) :
    Post (write_locked json backend directory "apply" none result)
      (fun _ _ log' => Guarded json (some backend) log') ()
      (outside ++ [⟨.flock lock .exclusive, .ok ()⟩]) := by
  apply wp_seq (post_prepare json backend directory lock outside houtside)
  · intro prepared c' log' h
    obtain ⟨hunset, hprepared⟩ := h
    cases prepared with
    | none => exact .inl hunset
    | some prepared =>
      obtain ⟨wanted, identity⟩ := prepared
      obtain ⟨record, hwanted, hcleared⟩ := hprepared wanted identity rfl
      rw [← hwanted]
      exact post_set_and_verify json backend directory result record identity log' hunset hcleared
  · intro e c' log' h
    exact .inl h.1

theorem post_locked (json : Json) (backend : Backend) (directory : Fd .directory)
    (result : Result) (log : Log) (hlog : Unset log) :
    Post (locked directory (write_locked json backend directory "apply" none result))
      (fun _ _ log' => Guarded json (some backend) log') () log := by
  apply wp_seq (post_unset (asks_open .lock LOCK_FILE (some directory) trivial) hlog)
  · intro fd c' log' hunset
    rw [wp_block]
    have hbody : Post (do
        acquire fd
        block () (write_locked json backend directory "apply" none result))
        (fun _ _ log'' => Guarded json (some backend) log'') false log' := by
      apply wp_seq (post_acquire fd false log' hunset)
      · intro _ c₁ log₁ h
        obtain ⟨outside, hlog₁, houtside⟩ := h.2 _ rfl
        rw [wp_block, hlog₁]
        exact post_write_locked json backend directory result fd outside houtside
      · intro e c₁ log₁ h
        exact .inl h.1
    apply wp_always hbody
    intro r c₁ log₁ hguarded
    apply wp_mono (post_guarded (modest_unlock fd) hguarded) (fun _ h => h)
    intro u c₂ log₂ h
    cases u <;> exact h
  · intro e c' log' hunset
    exact .inl hunset

theorem post_store_open {path : String} {create : Bool}
    {body : Option (Fd .directory) → Py Unit α} {json : Json} {backend : Option Backend} {log : Log}
    (hlog : Unset log) (hbody : ∀ directory log, Unset log →
      Post (body directory) (fun _ _ log' => Guarded json backend log') () log) :
    Post (store_open path create body) (fun _ _ log' => Guarded json backend log') () log := by
  have hmodest : ∀ o, Opens create o → Modest o := by
    intro o ho
    rcases ho with ho | ho
    · exact looks_modest ho
    · exact makes_modest ho.2
  apply wp_seq (post_unset (asks_check _) hlog)
  · intro parts c₁ log₁ h₁
    rw [wp_block]
    have hmain : Post (mapError (do
        let directory ← open_directory create parts
        block () (body directory)) inaccessible)
        (fun _ _ log' => Guarded json backend log') none log₁ := by
      have hinner : Post (do
          let directory ← open_directory create parts
          block () (body directory)) (fun _ _ log' => Guarded json backend log') none log₁ := by
        apply wp_seq (post_unset ((asks_open_directory create parts).mono hmodest) h₁)
        · intro directory c₂ log₂ h₂
          rw [wp_block]
          exact hbody directory log₂ h₂
        · intro e c₂ log₂ h₂
          exact .inl h₂
      apply wp_mapError hinner
      · intro a c₂ log₂ h
        exact h
      · intro e c₂ log₂ h
        exact h
    apply wp_always hmain
    intro r c₂ log₂ hguarded
    have hclose : Asks Modest (do
        let fd ← ctx
        close_some fd : Py (Option (Fd .directory)) Unit) :=
      asks_ctx.bind fun fd => asks_close_some fd fun _ => trivial
    apply wp_mono (post_guarded hclose hguarded) (fun _ h => h)
    intro u c₃ log₃ h
    cases u <;> exact h
  · intro e c₁ log₁ h₁
    exact .inl h₁

theorem post_in_directory (json : Json) (writer : Option Backend) (result : Result)
    (directory : Option (Fd .directory)) (log : Log) (hlog : Unset log) :
    Post (in_directory json writer "apply" none result directory)
      (fun _ _ log' => Guarded json writer log') () log := by
  have hpreview : ∀ saved : Option Record, Asks Modest (if saved.isNone = true ∧ "apply" ≠ "set" then
      pure result else preview "apply" none result saved : Py Unit Result) := by
    intro saved
    split
    · exact asks_pure _
    · exact (asks_preview _ _ _ _).mono fun _ => looks_modest
  cases directory with
  | none =>
    have hsaved : Asks Modest (pure none : Py Unit (Option Record)) := asks_pure none
    cases writer with
    | none => exact post_guarded (hsaved.bind hpreview) (.inl hlog)
    | some backend => exact post_guarded (hsaved.bind hpreview) (.inl hlog)
  | some fd =>
    cases writer with
    | none => exact post_guarded ((modest_load json fd).bind hpreview) (.inl hlog)
    | some backend =>
      apply wp_seq (post_unset (modest_load json fd) hlog)
      · intro saved c₁ log₁ h₁
        dsimp only
        split
        · exact .inl h₁
        · exact post_locked json backend fd result log₁ h₁
      · intro e c₁ log₁ h₁
        exact .inl h₁

theorem post_apply (json : Json) (policy : Option String) (force apply : Bool)
    (state_dir : String) (backend : Option Backend) :
    Post (execute json "apply" policy force apply state_dir backend)
      (fun _ _ log' => Guarded json backend log') () [] := by
  have hstart : Unset [] := by simp [Unset]
  cases hwriting : force && apply with
  | false =>
    have hlooks := asks_execute_looks json "apply" policy force apply state_dir backend
      (by simp [hwriting])
    exact post_guarded (hlooks.mono fun _ => looks_modest) (.inl hstart)
  | true =>
    have hflags : force = true ∧ apply = true := by simpa using hwriting
    obtain ⟨rfl, rfl⟩ := hflags
    apply wp_seq (post_unset (asks_require_root.mono fun _ => looks_modest) hstart)
    · intro _ c₁ log₁ h₁
      apply post_bail (.inl h₁)
      intro _
      have hpolicy : Post (check (requested_policy "apply" policy)) (fun r _ log' =>
          Unset log' ∧ ∀ a, r = .ok a → a = none) c₁ log₁ := by
        refine ⟨h₁, ?_⟩
        intro a heq
        by_cases hsome : policy.isSome = true
        · simp [requested_policy, hsome, Except.mapError] at heq
        · simp only [requested_policy, hsome] at heq
          cases heq
          rfl
      apply wp_seq hpolicy
      · intro wanted c₂ log₂ h₂
        rw [h₂.2 wanted rfl]
        apply post_bail (.inl h₂.1)
        intro _
        apply post_store_open h₂.1
        intro directory log hlog
        exact post_in_directory json backend _ directory log hlog
      · intro e c₂ log₂ h₂
        exact .inl h₂.1
    · intro e c₁ log₁ h₁
      exact .inl h₁

/-- Without both acknowledgements, and for `show`, nothing is changed and no
    backend is invoked; `apply` sets the policy at most once, when everything
    was cleared. -/
theorem acknowledged (json : Json) (command : String) (policy : Option String)
    (force apply : Bool) (state_dir : String) (backend : Option Backend)
    (r : Except PyError Result) (log : Log)
    (hrun : Runs (recorded startup) (execute json command policy force apply state_dir backend)
      () [] r () log) :
    ((force && apply) = false → ∀ event ∈ log, ¬ Invokes event.1 ∧ ¬ Changes event.1) ∧
    (command = "apply" → Guarded json backend log) ∧
    (command = "show" → ∀ event ∈ log, ¬ Invokes event.1) := by
  refine ⟨?_, ?_, ?_⟩
  · intro hflags event hmem
    have hlooks := asks_execute_looks json command policy force apply state_dir backend
      (by simp [hflags])
    exact looks_harmless (hlooks.log hrun event hmem)
  · intro hcommand
    subst hcommand
    exact wp_runs (post_apply json policy force apply state_dir backend) hrun
  · intro hcommand event hmem
    have hlooks := asks_execute_looks json command policy force apply state_dir backend
      (by simp [hcommand])
    exact (looks_harmless (hlooks.log hrun event hmem)).1

/-- The machine with the record saved: the second read of a file is its end. -/
def recalling (log : Log) : (o : StartupOp) → o.Ans
  | .open_file .state _ _ => .ok 3
  | .fstat .state _ => .ok ⟨0o100600, 0, 1, (encode_utf8 (sample_text ++ "\n")).length⟩
  | .read _ _ => match log.getLast? with
    | some ⟨.read _ _, _⟩ => .ok []
    | _ => .ok (encode_utf8 (sample_text ++ "\n"))
  | o => healthy o

/-- `apply` on it. -/
def apply_saved : Py Unit Result :=
  execute sample_json "apply" none true true "/var/lib/ugreenctl/startup"
    (some ⟨["/usr/sbin/ugreenctl"]⟩)

def remember : Prog.Handler startup (List (Event startup)) :=
  fun log o => (recalling log o, log ++ [⟨o, recalling log o⟩])

def apply_run : (Except PyError Result × Unit) × List (Event startup) :=
  Prog.exec remember (apply_saved.run ()) []

theorem acknowledged_apply :
    apply_run.2.any sets = true ∧
      Guarded sample_json (some ⟨["/usr/sbin/ugreenctl"]⟩) apply_run.2 := by
  constructor
  · decide +kernel
  · have hrun : Runs (recorded startup) apply_saved () [] apply_run.1.1 () apply_run.2 := by
      have hremember : ∀ log o, recorded startup log o (remember log o).1 (remember log o).2 :=
        fun _ _ => rfl
      unfold apply_run
      exact runs_handled hremember apply_saved []
    obtain ⟨_, hguarded, _⟩ := acknowledged sample_json "apply" none true true
      "/var/lib/ugreenctl/startup" (some ⟨["/usr/sbin/ugreenctl"]⟩) apply_run.1.1 apply_run.2 hrun
    exact hguarded rfl

end UgreenNas.Startup
