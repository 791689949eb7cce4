import UgreenNas.Fan.It8613

/-! # From the driver to the ports

    `-ENODEV` is how the hwmon path says that there is no driver, and it is
    also what a node answers whose driver is unbound while it is used.  The
    caller cannot tell the two apart.  A run is judged by its log: what was
    asked of the file system and of the ports, and what the answers were.
-/

namespace UgreenNas.Fan.It8613

open Effect Effect.Proc

/-! ## What a log shows -/

/-- The name of a candidate is read as `it8613`. -/
def names_it8613 : Event fan_io → Bool
  | ⟨.read node _, .ok text⟩ => node.name = "name" && trimmed text = IT8613_HWMON_NAME
  | _ => false

/-- An attribute is written, or opened for writing. -/
def tries_write : Event fan_io → Bool
  | ⟨.open_write _, _⟩ => true
  | ⟨.write _ _, _⟩ => true
  | _ => false

/-- The ports are opened, which is the first thing done in the direct path. -/
def enters_direct : Event fan_io → Bool
  | ⟨.it86x_open, _⟩ => true
  | _ => false

/-- The error an access to an attribute fails with. -/
def attribute_failure : Event fan_io → Option Errno
  | ⟨.open_read node, .error errno⟩ => if node.name = "name" then none else some errno
  | ⟨.read node _, .error errno⟩ => if node.name = "name" then none else some errno
  | ⟨.open_write _, .error errno⟩ => some errno
  | ⟨.write _ _, .error errno⟩ => some errno
  | _ => none

/-- The call enters the direct path only when it has found no driver and
    written nothing, and reports an access that failed as it failed. -/
def Confined (log : List (Event fan_io)) (r : Except FanError Unit) : Prop :=
  ((∃ event ∈ log, enters_direct event = true) →
    ∀ event ∈ log, names_it8613 event = false ∧ tries_write event = false) ∧
  ∀ event ∈ log, ∀ errno, attribute_failure event = some errno →
    ∃ text, r = .error ⟨errno, text⟩

/-- An attribute of the driver is gone while it is used. -/
def LosesNode (log : List (Event fan_io)) : Prop :=
  ∃ event ∈ log, attribute_failure event = some .ENODEV

/-! ## Views -/

/-- What matters of a log. -/
structure View where
  found : Bool
  tried : Bool
  direct : Bool
  failures : List Errno

def View.note (v : View) (event : Event fan_io) : View where
  found := v.found || names_it8613 event
  tried := v.tried || tries_write event
  direct := v.direct || enters_direct event
  failures := v.failures ++ (attribute_failure event).toList

def view (log : List (Event fan_io)) : View :=
  ⟨log.any names_it8613, log.any tries_write, log.any enters_direct,
    log.filterMap attribute_failure⟩

theorem view_snoc (log : List (Event fan_io)) (event : Event fan_io) :
    view (log ++ [event]) = (view log).note event := by
  cases h : attribute_failure event <;>
    simp [view, View.note, h]

/-- A file system and ports that answer anything, seen through views. -/
def viewed : Env fan_io View := fun v o b v' => v' = v.note ⟨o, b⟩

/-- It stands for every other one. -/
theorem runs_viewed {σ : Type} {E : Env fan_io σ} {m : Io Unit} {s s' : σ}
    {r : Except FanError Unit} {log : List (Event fan_io)}
    (h : Runs E.logged m () (s, []) r () (s', log)) : Runs viewed m () (view []) r () (view log) := by
  apply Prog.Runs.map (f := fun s : σ × List (Event fan_io) => view s.2) ?_ h
  intro s o b s' hstep
  show view s'.2 = (view s.2).note ⟨o, b⟩
  rw [hstep.2, view_snoc]

section rules

variable {α β : Type} {v : View}

abbrev Sees (m : Io α) (Q : Except FanError α → View → Prop) (v : View) : Prop :=
  wp viewed (fun _ => True) m (fun r _ v' => Q r v') () v

theorem sees_io_then {o : FanOp} {f : o.Ans → Io β} {Q : Except FanError β → View → Prop}
    (h : ∀ b, Sees (f b) Q (v.note ⟨o, b⟩)) : Sees (io o >>= f) Q v := by
  intro b v' hstep
  obtain rfl : v' = v.note ⟨o, b⟩ := hstep
  exact ⟨trivial, h b⟩

/-- The operations a view tells of. -/
def shown : FanOp → Bool
  | .open_read _ | .read _ _ | .open_write _ | .write _ _ | .it86x_open => true
  | _ => false

theorem note_of_not_shown {o : FanOp} (h : shown o = false) (v : View) (b : o.Ans) :
    v.note ⟨o, b⟩ = v := by
  cases o <;>
    simp_all [shown, View.note, names_it8613, tries_write, enters_direct, attribute_failure]

/-- Steps that do not fail and that a view does not tell of. -/
def Silent (m : Io α) : Prop := ∀ v, Sees m (fun r v' => v' = v ∧ ∃ a, r = .ok a) v

theorem Silent.io {o : FanOp} (h : shown o = false) : Silent (io o) := by
  intro v b v' hstep
  obtain rfl : v' = v.note ⟨o, b⟩ := hstep
  exact ⟨trivial, note_of_not_shown h v b, b, rfl⟩

theorem Silent.pure (a : α) : Silent (pure a) := fun _ => ⟨rfl, a, rfl⟩

theorem Silent.then {m : Io α} {f : α → Io β} {Q : Except FanError β → View → Prop}
    (hm : Silent m) (hf : ∀ a, Sees (f a) Q v) : Sees (m >>= f) Q v := by
  apply wp_seq (hm v)
  · intro a _ v' h
    obtain ⟨rfl, _⟩ := h
    exact hf a
  · intro e _ v' h
    obtain ⟨_, a, hr⟩ := h
    cases hr

theorem Silent.bind {m : Io α} {f : α → Io β} (hm : Silent m) (hf : ∀ a, Silent (f a)) :
    Silent (m >>= f) :=
  fun v => hm.then fun a => hf a v

theorem sees_build_path {directory name : String} {f : Node → Io β}
    {Q : Except FanError β → View → Prop} (hlong : ∀ text, Q (.error ⟨.ENAMETOOLONG, text⟩) v)
    (hf : Sees (f ⟨directory, name⟩) Q v) : Sees (build_path directory name >>= f) Q v := by
  unfold build_path
  rw [Sees, wp_bind, wp_bind, wp_bail]
  exact ⟨fun _ => hlong _, fun _ => hf⟩

end rules

/-! ## Attributes -/

section attributes

variable {α β : Type}

/-- A step over attributes finds no driver and stays away from the ports;
    where it fails on an access, it reports that, and otherwise it does not
    fail with `ENODEV`. -/
def Reported (v v' : View) (r : Except FanError α) : Prop :=
  v'.found = v.found ∧ v'.direct = v.direct ∧
    match r with
    | .ok _ => v'.failures = v.failures
    | .error error => (v'.failures = v.failures ∧ error.errno ≠ .ENODEV) ∨
        v'.failures = v.failures ++ [error.errno]

/-- Steps over attributes. -/
def OnAttributes (m : Io α) : Prop := ∀ v, Sees m (fun r v' => Reported v v' r) v

theorem OnAttributes.bind {m : Io α} {f : α → Io β} (hm : OnAttributes m)
    (hf : ∀ a, OnAttributes (f a)) : OnAttributes (m >>= f) := by
  intro v
  apply wp_seq (hm v)
  · intro a _ v' hfirst
    obtain ⟨hfound, hdirect, hfailures⟩ := hfirst
    apply wp_mono (hf a v') (fun _ h => h)
    intro r _ v'' hsecond
    unfold Reported at hsecond ⊢
    rw [← hfound, ← hdirect, ← hfailures]
    exact hsecond
  · intro e _ v' hfirst
    exact hfirst

theorem OnAttributes.pure (a : α) : OnAttributes (pure a) :=
  fun _ => ⟨rfl, rfl, rfl⟩

theorem OnAttributes.bail {p : Prop} [Decidable p] {errno : Errno} {text : String}
    (h : errno ≠ .ENODEV) : OnAttributes (bail p ⟨errno, text⟩) := by
  intro v
  show wp viewed _ (Proc.bail p (FanError.mk errno text)) _ () v
  rw [wp_bail]
  exact ⟨fun _ => ⟨rfl, rfl, .inl ⟨rfl, h⟩⟩, fun _ => ⟨rfl, rfl, rfl⟩⟩

theorem read_text_file_attribute {node : Node} (hname : node.name ≠ "name") (size : Nat) :
    OnAttributes (read_text_file node size) := by
  intro v
  unfold read_text_file
  apply sees_io_then
  intro opened
  cases opened with
  | error errno =>
    refine ⟨?_, ?_, .inr ?_⟩
    all_goals simp [View.note, names_it8613, enters_direct, attribute_failure, hname]
  | ok u =>
    apply @sees_io_then _ _ (.read node (size - 1))
    intro r
    apply @sees_io_then _ _ (.close node)
    intro _
    cases r with
    | error errno =>
      refine ⟨?_, ?_, .inr ?_⟩
      all_goals simp [View.note, names_it8613, enters_direct, attribute_failure, hname]
    | ok text =>
      refine ⟨?_, ?_, ?_⟩
      all_goals simp [View.note, names_it8613, enters_direct, attribute_failure, hname]

theorem read_unsigned_file_attribute {node : Node} (hname : node.name ≠ "name") :
    OnAttributes (read_unsigned_file node) := by
  unfold read_unsigned_file
  apply (read_text_file_attribute hname 64).bind
  intro text
  apply (OnAttributes.bail (by decide)).bind
  intro _
  exact OnAttributes.pure _

theorem write_unsigned_file_attribute (node : Node) (value : Nat) :
    OnAttributes (write_unsigned_file node value) := by
  intro v
  unfold write_unsigned_file
  apply sees_io_then
  intro opened
  cases opened with
  | error errno =>
    refine ⟨?_, ?_, .inr ?_⟩
    all_goals simp [View.note, names_it8613, enters_direct, attribute_failure]
  | ok u =>
    apply @sees_io_then _ _ (.write node (toString value ++ "\n"))
    intro written
    apply @sees_io_then _ _ (.close node)
    intro _
    cases written with
    | error errno =>
      refine ⟨?_, ?_, .inr ?_⟩
      all_goals simp [View.note, names_it8613, enters_direct, attribute_failure]
    | ok count =>
      have hsame : ∀ v' : View, v' = ((v.note ⟨.open_write node, .ok u⟩).note
          ⟨.write node (toString value ++ "\n"), .ok count⟩).note ⟨.close node, ()⟩ →
          v'.found = v.found ∧ v'.direct = v.direct ∧ v'.failures = v.failures := by
        intro v' hv'
        subst hv'
        simp [View.note, names_it8613, enters_direct, attribute_failure]
      -- a write that is cut short is an error of its own
      show wp viewed _ (Proc.bail _ _) _ () _
      rw [wp_bail]
      obtain ⟨hfound, hdirect, hfailures⟩ := hsame _ rfl
      have hne : Errno.EIO ≠ .ENODEV := by decide
      exact ⟨fun _ => ⟨hfound, hdirect, .inl ⟨hfailures, hne⟩⟩,
        fun _ => ⟨hfound, hdirect, hfailures⟩⟩

theorem write_and_verify_attribute {node : Node} (hname : node.name ≠ "name") (expected : Nat) :
    OnAttributes (write_and_verify node expected) := by
  unfold write_and_verify
  apply (write_unsigned_file_attribute node expected).bind
  intro _
  apply (read_unsigned_file_attribute hname).bind
  intro actual
  split
  · exact OnAttributes.pure _
  · intro v
    apply (Silent.io rfl).then
    intro _
    apply (read_unsigned_file_attribute hname).bind
    intro actual
    exact OnAttributes.bail (by decide)

/-- No attribute of a channel is called `name`. -/
theorem pwm_ne_name (text : String) : "pwm" ++ text ≠ "name" := by
  intro h
  have hchars := congrArg (fun s => s.toList.head?) h
  simp at hchars

theorem build_path_then {directory name : String} {f : Node → Io β}
    (hf : OnAttributes (f ⟨directory, name⟩)) : OnAttributes (build_path directory name >>= f) := by
  have hne : Errno.ENAMETOOLONG ≠ .ENODEV := by decide
  intro v
  exact sees_build_path (fun _ => ⟨rfl, rfl, .inl ⟨rfl, hne⟩⟩) (hf v)

theorem set_channels_attribute (device : String) (pwm : Nat) (channels : List HwmonChannel) :
    OnAttributes (set_channels_manual_pwm device pwm channels) := by
  induction channels with
  | nil => exact OnAttributes.pure ()
  | cons channel rest ih =>
    have hchannel : OnAttributes (set_channel_manual_pwm device channel pwm) := by
      unfold set_channel_manual_pwm
      apply build_path_then
      apply (write_and_verify_attribute ?_ 1).bind
      · intro _
        apply build_path_then
        exact write_and_verify_attribute (pwm_ne_name _) pwm
      · dsimp only
        rw [String.append_assoc]
        exact pwm_ne_name _
    exact hchannel.bind fun _ => ih

end attributes

/-! ## The scan -/

section scan

/-- A step of the scan opens nothing but directories and names. -/
def Untouched (v v' : View) : Prop :=
  v'.failures = v.failures ∧ v'.tried = v.tried ∧ v'.direct = v.direct

theorem Untouched.trans {v v' v'' : View} (h : Untouched v v') (h' : Untouched v' v'') :
    Untouched v v'' :=
  ⟨h'.1.trans h.1, h'.2.1.trans h.2.1, h'.2.2.trans h.2.2⟩

theorem read_text_file_name {node : Node} (hname : node.name = "name") (size : Nat) (v : View) :
    Sees (read_text_file node size) (fun r v' => Untouched v v' ∧
      match r with
      | .ok text => v'.found = (v.found || decide (text = IT8613_HWMON_NAME))
      | .error _ => v'.found = v.found) v := by
  unfold read_text_file
  apply sees_io_then
  intro opened
  cases opened with
  | error errno =>
    refine ⟨⟨?_, ?_, ?_⟩, ?_⟩
    all_goals simp [View.note, names_it8613, tries_write, enters_direct, attribute_failure, hname]
  | ok u =>
    apply @sees_io_then _ _ (.read node (size - 1))
    intro r
    apply @sees_io_then _ _ (.close node)
    intro _
    cases r with
    | error errno =>
      refine ⟨⟨?_, ?_, ?_⟩, ?_⟩
      all_goals simp [View.note, names_it8613, tries_write, enters_direct, attribute_failure, hname]
    | ok text =>
      refine ⟨⟨?_, ?_, ?_⟩, ?_⟩
      all_goals simp [View.note, names_it8613, tries_write, enters_direct, attribute_failure, hname]

/-- The scan knows whether it has seen a name, and never fails with `ENODEV`. -/
theorem find_candidates_spec (root : String) (entries : List String) (found : Option String)
    (v : View) (hfound : v.found = found.isSome) :
    Sees (find_candidates root entries found) (fun r v' => Untouched v v' ∧
      match r with
      | .ok found => v'.found = found.isSome
      | .error error => error.errno ≠ .ENODEV) v := by
  induction entries generalizing found v with
  | nil => exact ⟨⟨rfl, rfl, rfl⟩, hfound⟩
  | cons entry rest ih =>
    unfold find_candidates
    split
    · exact ih found v hfound
    · -- both paths are checked for their length before anything is opened
      have htoolong : Errno.ENAMETOOLONG ≠ .ENODEV := by decide
      apply sees_build_path (fun _ => ⟨⟨rfl, rfl, rfl⟩, htoolong⟩)
      apply sees_build_path (fun _ => ⟨⟨rfl, rfl, rfl⟩, htoolong⟩)
      rw [Sees, wp_bind, wp_attempt]
      apply wp_mono (read_text_file_name rfl 64 v) (fun _ h => h)
      intro name _ v' hname
      obtain ⟨huntouched, hname⟩ := hname
      have hrest : ∀ found', v'.found = Option.isSome found' →
          Sees (find_candidates root rest found') (fun r v'' => Untouched v v'' ∧
            match r with
            | .ok found => v''.found = found.isSome
            | .error error => error.errno ≠ .ENODEV) v' := by
        intro found' hfound'
        apply wp_mono (ih found' v' hfound') (fun _ h => h)
        intro r _ v'' hpost
        exact ⟨huntouched.trans hpost.1, hpost.2⟩
      cases name with
      | error error => exact hrest found (hname.trans hfound)
      | ok name =>
        by_cases hit : name = IT8613_HWMON_NAME
        · simp only [hit, ne_eq, not_true_eq_false, if_false]
          have htwice : Errno.EEXIST ≠ .ENODEV := by decide
          rw [wp_bind, wp_bail]
          refine ⟨fun _ => ⟨huntouched, htwice⟩, fun _ => ?_⟩
          apply hrest
          simp only at hname
          simp [hname, hit]
        · simp only [hit, ne_eq, not_false_eq_true, if_true]
          apply hrest
          simp only at hname
          simp [hname, hit, hfound]

/-- What opening the driver may come to, from a view without a driver. -/
def Opened (v v' : View) : Except FanError String → Prop
  | .ok _ => Untouched v v' ∧ v'.found = true
  | .error error => Untouched v v' ∧ (error.errno = .ENODEV → v'.found = false)

theorem hwmon_root_silent : Silent hwmon_root :=
  (Silent.io rfl).bind fun _ => Silent.pure _

theorem lock_path_silent : Silent lock_path :=
  (Silent.io rfl).bind fun _ => Silent.pure _

theorem first_access_silent (paths : List String) : Silent (first_access paths) := by
  induction paths with
  | nil => exact Silent.pure none
  | cons path rest ih =>
    unfold first_access
    apply (Silent.io rfl).bind
    intro present
    cases present with
    | true => exact Silent.pure _
    | false => exact ih

theorem find_it8613_hwmon_spec (v : View) (hfound : v.found = false) :
    Sees find_it8613_hwmon (fun r v' => Opened v v' r) v := by
  unfold find_it8613_hwmon
  apply hwmon_root_silent.then
  intro root
  apply (Silent.io rfl).then
  intro entries
  cases entries with
  | error errno => exact ⟨⟨rfl, rfl, rfl⟩, fun _ => hfound⟩
  | ok entries =>
    show Sees (find_candidates _ entries none >>= _) _ v
    rw [Sees, wp_bind]
    apply wp_mono (find_candidates_spec _ entries none v (by simpa using hfound)) (fun _ h => h)
    intro r _ v' hscan
    obtain ⟨huntouched, hscan⟩ := hscan
    cases r with
    | error error => exact ⟨huntouched, fun h => absurd h hscan⟩
    | ok found =>
      cases found with
      | none => exact ⟨huntouched, fun _ => hscan⟩
      | some path => exact ⟨huntouched, hscan⟩

theorem it8613_hwmon_open_spec (v : View) (hfound : v.found = false) :
    Sees it8613_hwmon_open (fun r v' => Opened v v' r) v := by
  have hbusy : Errno.EBUSY ≠ .ENODEV := by decide
  unfold it8613_hwmon_open incompatible_controller_owner
  apply (first_access_silent _).then
  intro owner
  rw [Sees, wp_bind, wp_bail]
  refine ⟨fun _ => ⟨⟨rfl, rfl, rfl⟩, fun h => absurd h hbusy⟩, fun _ => ?_⟩
  apply lock_path_silent.then
  intro path
  apply (Silent.io rfl).then
  intro lock_fd
  cases lock_fd with
  | error errno => exact ⟨⟨rfl, rfl, rfl⟩, fun _ => hfound⟩
  | ok u =>
    apply (Silent.io (o := .flock) rfl).then
    intro locked
    cases locked with
    | error errno =>
      apply (Silent.io (o := .close_lock) rfl).then
      intro _
      exact ⟨⟨rfl, rfl, rfl⟩, fun _ => hfound⟩
    | ok u =>
      show Sees (attempt _ >>= _) _ v
      rw [Sees, wp_bind, wp_attempt]
      apply wp_mono (find_it8613_hwmon_spec v hfound) (fun _ h => h)
      intro result _ v' hresult
      cases result with
      | error error =>
        apply (Silent.io (o := .close_lock) rfl).then
        intro _
        exact hresult
      | ok device => exact hresult

end scan

/-! ## The driver and the ports -/

section calls

/-- Nothing has happened yet. -/
def unseen : View := ⟨false, false, false, []⟩

/-- What the hwmon path may come to. -/
def Driven (pwm : Nat) (v : View) : Except FanError Unit → Prop
  | .ok _ => v.direct = false ∧ v.failures = []
  | .error error => v.direct = false ∧
      ((v.failures = [] ∧
          (error.errno = .ENODEV → v.found = false ∧ v.tried = false ∧ 40 ≤ pwm)) ∨
        (v.failures = [error.errno] ∧ v.found = true ∧ 40 ≤ pwm))

theorem it8613_hwmon_set_manual_pwm_spec (channels : List HwmonChannel) (pwm : Nat) :
    Sees (it8613_hwmon_set_manual_pwm channels pwm) (fun r v => Driven pwm v r) unseen := by
  have hinvalid : Errno.EINVAL ≠ .ENODEV := by decide
  have hunsafe : Errno.EPERM ≠ .ENODEV := by decide
  unfold it8613_hwmon_set_manual_pwm
  rw [Sees, wp_bind, wp_bail]
  refine ⟨fun _ => ⟨rfl, .inl ⟨rfl, fun h => absurd h hinvalid⟩⟩, fun _ => ?_⟩
  show Sees (Proc.bail _ _ >>= _) _ unseen
  rw [Sees, wp_bind, wp_bail]
  refine ⟨fun _ => ⟨rfl, .inl ⟨rfl, fun h => absurd h hunsafe⟩⟩, fun hpwm => ?_⟩
  have hpwm : 40 ≤ pwm := Nat.not_lt.mp hpwm
  show Sees (it8613_hwmon_open >>= _) _ unseen
  apply wp_seq (it8613_hwmon_open_spec unseen rfl)
  · intro device _ v hopened
    obtain ⟨huntouched, hfound⟩ := hopened
    obtain ⟨hfailures, _, hdirect⟩ := huntouched
    show Sees (attempt _ >>= _) _ v
    rw [Sees, wp_bind, wp_attempt]
    apply wp_mono (set_channels_attribute device pwm channels v) (fun _ h => h)
    intro result _ v' hset
    apply (Silent.io (o := .close_lock) rfl).then
    intro _
    obtain ⟨hfound', hdirect', hreported⟩ := hset
    rw [hfound] at hfound'
    rw [hdirect] at hdirect'
    rw [hfailures] at hreported
    cases result with
    | ok u => exact ⟨hdirect', hreported⟩
    | error error =>
      refine ⟨hdirect', ?_⟩
      rcases hreported with ⟨hnone, hne⟩ | hone
      · exact .inl ⟨hnone, fun h => absurd h hne⟩
      · exact .inr ⟨hone, hfound', hpwm⟩
  · intro error _ v hopened
    obtain ⟨huntouched, hfound⟩ := hopened
    obtain ⟨hfailures, htried, hdirect⟩ := huntouched
    exact ⟨hdirect, .inl ⟨hfailures, fun h => ⟨hfound h, htried, hpwm⟩⟩⟩

/-- Steps that a view does not tell of, and that may fail. -/
def Quiet {α : Type} (m : Io α) : Prop := ∀ v, Sees m (fun _ v' => v' = v) v

theorem Quiet.bind {α β : Type} {m : Io α} {f : α → Io β} (hm : Quiet m)
    (hf : ∀ a, Quiet (f a)) : Quiet (m >>= f) := by
  intro v
  apply wp_seq (hm v)
  · intro a _ v' hsame
    subst hsame
    exact hf a v'
  · intro e _ v' hsame
    exact hsame

theorem Quiet.io {o : FanOp} (h : shown o = false) : Quiet (io o) := by
  intro v b v' hstep
  obtain rfl : v' = v.note ⟨o, b⟩ := hstep
  exact ⟨trivial, note_of_not_shown h v b⟩

theorem Quiet.bail {p : Prop} [Decidable p] {error : FanError} : Quiet (Proc.bail p error) := by
  intro v
  rw [Sees, wp_bail]
  exact ⟨fun _ => rfl, fun _ => rfl⟩

theorem direct_channels_quiet (pwm : Nat) (channels : List DirectChannel) :
    Quiet (Direct.set_channels_manual_pwm pwm channels) := by
  induction channels with
  | nil => exact fun _ => rfl
  | cons channel rest ih =>
    have hchannel : Quiet (Direct.set_channel_manual_pwm channel pwm) := by
      unfold Direct.set_channel_manual_pwm
      apply (Quiet.io rfl).bind
      intro control
      apply (Quiet.io rfl).bind
      intro _
      apply (Quiet.io rfl).bind
      intro readback
      apply Quiet.bail.bind
      intro _
      apply (Quiet.io rfl).bind
      intro _
      apply (Quiet.io rfl).bind
      intro readback
      exact Quiet.bail
    exact hchannel.bind fun _ => ih

/-- The direct path opens the ports and does nothing else that shows. -/
theorem it8613_direct_set_manual_pwm_spec {channels : List DirectChannel} (h : Wired channels)
    {pwm : Nat} (hpwm : 40 ≤ pwm) (v : View) :
    Sees (it8613_direct_set_manual_pwm channels pwm)
      (fun _ v' => v' = { v with direct := true }) v := by
  unfold it8613_direct_set_manual_pwm
  have hsafe : ¬ pwm < IT8613_DIRECT_MIN_MANUAL_PWM := Nat.not_lt.mpr hpwm
  rw [validate_mapping_wired h, check_supported_wired h.supported]
  show Sees (Proc.bail _ _ >>= _) _ v
  rw [bail_neg hsafe]
  apply sees_io_then
  intro opened
  have hnote : v.note ⟨.it86x_open, opened⟩ = { v with direct := true } := by
    simp [View.note, names_it8613, tries_write, enters_direct, attribute_failure]
  rw [hnote]
  cases opened with
  | error error => exact rfl
  | ok u =>
    show Sees (attempt _ >>= _) _ _
    rw [Sees, wp_bind, wp_attempt]
    apply wp_mono (direct_channels_quiet pwm channels _) (fun _ h => h)
    intro result _ v' hsame
    subst hsame
    apply (Silent.io (o := .it86x_close) rfl).then
    intro _
    exact rfl

/-- What a call comes to: it stays with the driver and reports it, it falls
    back without having found one, or it has lost the one it had. -/
def Judged (v : View) (r : Except FanError Unit) : Prop :=
  (v.direct = false ∧ (v.failures = [] ∨
    ∃ error, r = .error error ∧ v.failures = [error.errno] ∧ error.errno ≠ .ENODEV)) ∨
  (v.found = false ∧ v.tried = false ∧ v.failures = []) ∨
  (v.failures = [.ENODEV] ∧ v.found = true ∧
    (v.direct = true ∨ ∃ text, r = .error ⟨.EPERM, text⟩))

theorem set_manual_pwm_spec (force : Bool) (channels : List HwmonChannel)
    {direct : List DirectChannel} (hwired : Wired direct) (pwm : UInt8) :
    Sees (set_manual_pwm force channels direct pwm) (fun r v => Judged v r) unseen := by
  unfold set_manual_pwm
  apply wp_handle (it8613_hwmon_set_manual_pwm_spec channels pwm.toNat)
  · intro _ _ v hdriven
    exact .inl ⟨hdriven.1, .inl hdriven.2⟩
  · intro error _ v hdriven
    obtain ⟨hdirect, hcases⟩ := hdriven
    by_cases hnodev : error.errno = .ENODEV
    · rw [if_neg (not_not.mpr hnodev)]
      cases force with
      | false =>
        -- the failure is not passed on, but the ports are left alone
        rcases hcases with ⟨hnone, hscan⟩ | ⟨hone, hfound, _⟩
        · obtain ⟨hfound, htried, _⟩ := hscan hnodev
          exact .inr (.inl ⟨hfound, htried, hnone⟩)
        · rw [hnodev] at hone
          exact .inr (.inr ⟨hone, hfound, .inr ⟨_, rfl⟩⟩)
      | true =>
        rcases hcases with ⟨hnone, hscan⟩ | ⟨hone, hfound, hpwm⟩
        · obtain ⟨hfound, htried, hpwm⟩ := hscan hnodev
          apply wp_mono (it8613_direct_set_manual_pwm_spec hwired hpwm v) (fun _ h => h)
          intro r _ v' hv'
          subst hv'
          exact .inr (.inl ⟨hfound, htried, hnone⟩)
        · rw [hnodev] at hone
          apply wp_mono (it8613_direct_set_manual_pwm_spec hwired hpwm v) (fun _ h => h)
          intro r _ v' hv'
          subst hv'
          exact .inr (.inr ⟨hone, hfound, .inl rfl⟩)
    · rw [if_pos hnodev]
      refine .inl ⟨hdirect, ?_⟩
      rcases hcases with ⟨hnone, _⟩ | ⟨hone, _, _⟩
      · exact .inl hnone
      · exact .inr ⟨error, rfl, hone, hnodev⟩

end calls

/-! ## Logs -/

section logs

variable {log : List (Event fan_io)} {r : Except FanError Unit}

theorem mem_failures {errno : Errno} :
    errno ∈ (view log).failures ↔ ∃ event ∈ log, attribute_failure event = some errno :=
  List.mem_filterMap

theorem confined_iff_of_judged (h : Judged (view log) r) : Confined log r ↔ ¬ LosesNode log := by
  have hdirect : (∃ event ∈ log, enters_direct event = true) ↔ (view log).direct = true :=
    List.any_eq_true.symm
  have hloses : LosesNode log ↔ .ENODEV ∈ (view log).failures := mem_failures.symm
  unfold Confined
  rw [hdirect, hloses]
  rcases h with ⟨hno, hreported⟩ | ⟨hfound, htried, hnone⟩ | ⟨hlost, hfound, hend⟩
  · rcases hreported with hnone | ⟨error, rfl, hone, hne⟩
    · refine ⟨fun _ => by simp [hnone], fun _ => ⟨fun hd => ?_, ?_⟩⟩
      · simp [hno] at hd
      · intro event hevent errno herrno
        have hmem := mem_failures.mpr ⟨event, hevent, herrno⟩
        simp [hnone] at hmem
    · refine ⟨fun _ => by simpa [hone] using hne.symm, fun _ => ⟨fun hd => ?_, ?_⟩⟩
      · simp [hno] at hd
      · intro event hevent errno herrno
        have hmem := mem_failures.mpr ⟨event, hevent, herrno⟩
        rw [hone, List.mem_singleton] at hmem
        exact ⟨error.text, by rw [hmem]⟩
  · refine ⟨fun _ => by simp [hnone], fun _ => ⟨fun _ event hevent => ?_, ?_⟩⟩
    · have hnames := List.any_eq_false.mp hfound event hevent
      have hwrites := List.any_eq_false.mp htried event hevent
      exact ⟨Bool.not_eq_true _ ▸ hnames, Bool.not_eq_true _ ▸ hwrites⟩
    · intro event hevent errno herrno
      have hmem := mem_failures.mpr ⟨event, hevent, herrno⟩
      simp [hnone] at hmem
  · refine ⟨fun hconfined => ?_, fun hkeeps => absurd (by simp [hlost]) hkeeps⟩
    exfalso
    rcases hend with hd | ⟨text, rfl⟩
    · obtain ⟨event, hevent, hnames⟩ := List.any_eq_true.mp hfound
      have hnone := (hconfined.1 hd event hevent).1
      rw [hnames] at hnone
      cases hnone
    · obtain ⟨event, hevent, herrno⟩ := mem_failures.mp (hlost ▸ List.mem_singleton.mpr rfl)
      obtain ⟨text', heq⟩ := hconfined.2 event hevent .ENODEV herrno
      cases heq

end logs

/-- A call that gives up on an unknown target has touched nothing. -/
theorem judged_unseen (r : Except FanError Unit) : Judged unseen r :=
  .inl ⟨rfl, .inl rfl⟩

/-- A machine with one hwmon node of the given name, whose attributes cannot
    be written any more; the state is the registers of the chip. -/
def unbound (name : String) : Prog.Handler fan_io (UInt8 → UInt8) := fun registers o =>
  match o with
  | .getenv _ => (none, registers)
  | .access _ => (false, registers)
  | .open_lock _ => (.ok (), registers)
  | .flock => (.ok (), registers)
  | .close_lock => ((), registers)
  | .opendir _ => (.ok [".", "..", "hwmon3"], registers)
  | .open_read _ => (.ok (), registers)
  | .read _ _ => (.ok name, registers)
  | .open_write _ => (.ok (), registers)
  | .write _ _ => (.error .ENODEV, registers)
  | .close _ => ((), registers)
  | .nanosleep _ => ((), registers)
  | .it86x_open => (.ok (), registers)
  | .it86x_hwm_read register => (registers register, registers)
  | .it86x_hwm_write register value =>
    ((), fun r => if r = register then value else registers r)
  | .it86x_close => ((), registers)

/-- The environment of a handler. -/
def machine (name : String) : Env fan_io (UInt8 → UInt8) := fun s o b s' => (b, s') = unbound name s o

/-- What a forced call leaves behind on such a machine. -/
def unbound_run (name : String) :
    (Except FanError Unit × Unit) × (UInt8 → UInt8) × List (Event fan_io) :=
  Prog.exec (unbound name).logged (it8613_set_fan_pwm true "cpu" 200 ()) (fun _ => 0x80, [])

theorem unbound_runs (name : String) :
    Proc.Runs (machine name).logged (it8613_set_fan_pwm true "cpu" 200) () (fun _ => 0x80, [])
      (unbound_run name).1.1 () ((unbound_run name).2.1, (unbound_run name).2.2) := by
  have hrun := Prog.runs_logged (E := machine name) (h := unbound name) (fun _ _ => rfl)
    (it8613_set_fan_pwm true "cpu" 200 ()) (fun _ => 0x80)
  unfold unbound_run
  generalize Prog.exec (unbound name).logged (it8613_set_fan_pwm true "cpu" 200 ())
    (fun _ => 0x80, []) = run at hrun ⊢
  exact hrun

end UgreenNas.Fan.It8613
