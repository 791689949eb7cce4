import UgreenNas.Startup.Opening

/-! # A run of the script among others

    From the lock to `main`: a run that returns and has written left hardware
    and record in agreement when it gave the lock up, whatever the others
    did before and since.

    * `Left`    : what was left agrees;
    * `Parting` : the lock is held and things agree, or it was given up so;
    * `Returns` : what is shown of a whole run.
-/

namespace UgreenNas.Startup

open Effect Effect.Proc Storage Machine

variable {P : Type} {home : Directory} {p : P} {κ α : Type} {New : List UInt8 → Log → Prop}
  {s s' : Machine P} {lock : Fd .lock} {directory : Fd .directory} {c : κ}
  {move : Move startup (Machine P)} {json : Json} {command : String} {policy : Option String}
  {backend : Option Backend}

/-! ## `locked` -/

/-- What `p` left when it gave the lock up agrees. -/
def Left (json : Json) (home : Directory) (p : P) (command : String) (policy : Option String)
    (s : Machine P) : Prop :=
  ∃ left, s.left p = some left ∧ Agreed json home command policy left

theorem Left.rely (h : Left json home p command policy s) (hrely : Rely home p s s') :
    Left json home p command policy s' := by
  obtain ⟨left, hleft, hagreed⟩ := h
  exact ⟨left, hrely.own.left.trans hleft, hagreed⟩

/-- The lock is held, or given up. -/
inductive Parting (json : Json) (home : Directory) (p : P) (lock : Fd .lock)
    (directory : Fd .directory) (command : String) (policy : Option String) (s : Machine P) : Prop
  | held : Held home p lock directory s → Agreed json home command policy s.legacy →
      Parting json home p lock directory command policy s
  | free : Left json home p command policy s →
      (∀ i, s.locks (p, lock.number) = some i → s.holder i ≠ some (p, lock.number)) →
      Parting json home p lock directory command policy s

theorem Parting.rely (h : Parting json home p lock directory command policy s)
    (hrely : Rely home p s s') : Parting json home p lock directory command policy s' := by
  cases h with
  | held hheld hagreed =>
    exact .held (hheld.rely hrely)
      (lasting_agreed home command policy s s' hheld.sealed (hheld.same hrely) hagreed)
  | free hleft hfree =>
    refine .free (hleft.rely hrely) ?_
    intro i hlock hholder
    rw [hrely.own.locks] at hlock
    exact hfree i hlock ((hrely.own.holder i _).mp hholder)

/-- The lock file is open. -/
structure Facing (home : Directory) (p : P) (lock : Fd .lock) (directory : Fd .directory)
    (s : Machine P) : Prop where
  directed : Directed p home directory s
  lock : ∃ i, s.locks (p, lock.number) = some i ∧ s.volume.entry (home, LOCK_FILE) = some i

theorem Facing.rely (h : Facing home p lock directory s) (hrely : Rely home p s s') :
    Facing home p lock directory s' := by
  obtain ⟨i, hlock, hentry⟩ := h.lock
  exact ⟨h.directed.rely hrely, i, (hrely.own.locks _).trans hlock, hrely.stays i hentry⟩

/-- What is shown of a whole run. -/
def Returns (json : Json) (home : Directory) (p : P) (command : String) (policy : Option String)
    (r : Except PyError Result) (move : Move startup (Machine P)) : Prop :=
  Sealed move.after ∧ ∀ result, r = .ok result → result.hardware_written = true →
    Left json home p command policy move.after

theorem returns_error {e : PyError} (hs : Sealed move.after) :
    Returns json home p command policy (.error e) move :=
  ⟨hs, fun _ h => (by cases h)⟩

variable [DecidableEq P]

/-- Giving the lock up leaves what is there. -/
theorem Parting.unlock (h : Parting json home p lock directory command policy s) :
    Left json home p command policy (s.unlock (p, lock.number)) ∧
      ∀ i, (s.unlock (p, lock.number)).locks (p, lock.number) = some i →
        (s.unlock (p, lock.number)).holder i ≠ some (p, lock.number) := by
  cases h with
  | held hheld hagreed =>
    obtain ⟨i, hlock, _, hholder⟩ := hheld.lock
    simp only [Machine.unlock, hlock, hholder, if_true]
    refine ⟨⟨s.legacy, Function.update_self _ _ _, hagreed⟩, ?_⟩
    intro j hj
    obtain rfl := Option.some.inj hj
    simp
  | free hleft hfree =>
    cases hlock : s.locks (p, lock.number) with
    | none =>
      simp only [Machine.unlock, hlock]
      exact ⟨hleft, fun i hi => hfree i (hlock.trans hi)⟩
    | some i =>
      simp only [Machine.unlock, hlock, if_neg (hfree i hlock)]
      exact ⟨hleft, fun j hj => hfree j (hlock.trans hj)⟩

theorem spec_unlock {c : Bool}
    (h : Parting json home p lock directory command policy move.after) (hs : Sealed move.after) :
    Spec home p New (unlock lock) (fun _ _ move' =>
      Sealed move'.after ∧ Left json home p command policy move'.after) c move := by
  have hfirst : Spec home p New (do
      let acquired ← ctx
      if acquired then os_flock lock .unlock else pure ()) (fun _ _ move' =>
        Sealed move'.after ∧ Parting json home p lock directory command policy move'.after) c
      move := by
    rw [Spec, wp_ctx_then]
    split
    · refine free_call ?_ hs ?_
      · trivial
      intro b s s' hrely hstep _ hs'
      have hparting := h.rely hrely
      have hgiven : Parting json home p lock directory command policy
          (s.unlock (p, lock.number)) := .free hparting.unlock.1 hparting.unlock.2
      cases b with
      | ok _ =>
        obtain rfl := hstep
        exact ⟨hs', hgiven⟩
      | error e =>
        obtain rfl | rfl := hstep
        · exact ⟨hs', hparting⟩
        · exact ⟨hs', hgiven⟩
    · exact ⟨hs, h⟩
  apply wp_always hfirst
  intro r c₁ move₁ h₁
  obtain ⟨hs₁, hparting⟩ := h₁
  refine free_call ?_ hs₁ ?_
  · trivial
  intro b s s' hrely hstep _ hs'
  have hleft : Left json home p command policy s' := by
    obtain rfl := hstep
    exact (hparting.rely hrely).unlock.1
  cases b with
  | ok _ => exact ⟨hs', hleft⟩
  | error e => exact ⟨hs', hleft⟩

theorem free_unlock (lock : Fd .lock) : Asks Free (unlock lock) := by
  apply Asks.always
  · apply asks_ctx.bind
    intro acquired
    split
    · exact asks_call trivial asks_os
    · exact asks_pure _
  · exact asks_call trivial asks_os

/-- The lock is taken, unless something fails. -/
theorem spec_acquire {c : Bool} (h : Facing home p lock directory move.after) :
    Spec home p New (acquire lock) (fun r _ move' => Sealed move'.after ∧
      (r = .ok () → Held home p lock directory move'.after)) c move := by
  unfold acquire
  rw [Spec, wp_bind]
  refine free_call ?_ h.directed.sealed ?_
  · trivial
  intro b s s' hrely hstep hs _
  obtain rfl := hstep
  have hfacing := h.rely hrely
  cases b with
  | error e => exact ⟨hs, fun h => (by cases h)⟩
  | ok info =>
    simp only [os, Except.mapError, wp_lift]
    refine wp_lift_seq ?_ fun _ => ⟨hs, fun h => (by cases h)⟩
    intro _ _
    refine wp_bail_seq ?_ ⟨hs, fun h => (by cases h)⟩
    intro _
    have hflock : Spec home p New (mapError (os_flock lock .exclusive) lock_held)
        (fun r _ move' => Sealed move'.after ∧
          (r = .ok () → Held home p lock directory move'.after)) c
        ⟨s', s', move.log ++ [⟨.fstat .lock lock, .ok info⟩]⟩ := by
      apply wp_mapError (R := fun r _ move' => Sealed move'.after ∧
        (r = .ok () → Held home p lock directory move'.after))
      · refine free_call ?_ hs ?_
        · trivial
        intro b s s'' hrely hstep _ hs'
        have hfacing' := hfacing.rely hrely
        cases b with
        | error e => exact ⟨hs', fun h => (by cases h)⟩
        | ok _ =>
          refine ⟨hs', fun _ => ?_⟩
          obtain ⟨i, hlock, _, rfl⟩ := hstep
          obtain ⟨j, hlock', hentry⟩ := hfacing'.lock
          rw [hlock] at hlock'
          obtain rfl := Option.some.inj hlock'
          exact ⟨⟨i, hlock, hentry, Function.update_self _ _ _⟩, hfacing'.directed.directory, hs'⟩
      · exact fun _ _ _ h => h
      · exact fun _ _ _ h => ⟨h.1, fun h => (by cases h)⟩
    apply wp_seq hflock
    · exact fun _ _ _ h => ⟨h.1, fun _ => h.2 rfl⟩
    · exact fun _ _ _ h => ⟨h.1, fun h => (by cases h)⟩

/-- A run under the lock. -/
theorem spec_locked {body : Py Unit Result} (h : Directed p home directory move.after)
    (hbody : ∀ lock move, Held home p lock directory move.after →
      Spec home p New body (fun r _ move' => Held home p lock directory move'.after ∧
        ∀ result, r = .ok result → result.hardware_written = true →
          Agreed json home command policy move'.after.legacy) () move) :
    Spec home p New (locked directory body) (fun r _ move' =>
      Returns json home p command policy r move') () move := by
  unfold locked
  rw [Spec, wp_bind]
  apply among_call
  intro b s s' hrely hstep
  have hdirected := h.rely hrely
  obtain ⟨hfair, hintact, hopened⟩ := lock_step hdirected.directory hstep
  have hs' := hintact.sealed hdirected.sealed
  refine ⟨⟨hfair, .inl hintact⟩, ?_⟩
  cases b with
  | error e => exact returns_error hs'
  | ok n =>
    obtain ⟨i, hlock, hentry⟩ := hopened n rfl
    have hdirectories : s'.directories = s.directories := by
      obtain ⟨_, _, _, _, _, ⟨_, _, rfl⟩ | ⟨_, rfl⟩⟩ := hstep
      · rfl
      · rfl
    have hfacing : Facing home p ⟨n⟩ directory s' := by
      refine ⟨⟨?_, hs'⟩, i, hlock, hentry⟩
      rw [hdirectories]
      exact hdirected.directory
    simp only [os, Except.mapError, wp_bind, wp_lift, wp_pure]
    rw [wp_block]
    have hinner : Spec home p New (do
        acquire ⟨n⟩
        block () body) (fun r _ move' => Sealed move'.after ∧ ∀ result, r = .ok result →
          Held home p ⟨n⟩ directory move'.after ∧ (result.hardware_written = true →
            Agreed json home command policy move'.after.legacy)) false
        ⟨s, s', move.log ++ [⟨.open_file .lock LOCK_FILE (some directory), .ok n⟩]⟩ := by
      apply wp_seq (spec_acquire hfacing)
      · intro _ c₁ move₁ h₁
        rw [wp_block]
        apply wp_mono (hbody ⟨n⟩ move₁ (h₁.2 rfl)) (fun _ h => h)
        intro r c₂ move₂ h₂
        exact ⟨h₂.1.sealed, fun result hr => ⟨h₂.1, h₂.2 result hr⟩⟩
      · exact fun _ _ _ h₁ => ⟨h₁.1, fun _ h => (by cases h)⟩
    apply wp_always hinner
    intro r c₁ move₁ h₁
    obtain ⟨hs₁, hresult⟩ := h₁
    by_cases hwritten : ∃ result, r = .ok result ∧ result.hardware_written = true
    · obtain ⟨result, rfl, hresult_written⟩ := hwritten
      obtain ⟨hheld, hagreed⟩ := hresult result rfl
      apply wp_mono (spec_unlock (.held hheld (hagreed hresult_written)) hs₁) (fun _ h => h)
      intro u c₂ move₂ h₂
      cases u with
      | ok _ => exact ⟨h₂.1, fun _ _ _ => h₂.2⟩
      | error e => exact returns_error h₂.1
    · -- nothing was written, or the run fails
      apply wp_mono (spec_sealed (free_unlock ⟨n⟩) hs₁) (fun _ h => h)
      intro u c₂ move₂ hs₂
      cases u with
      | ok _ => exact ⟨hs₂, fun result hr hw => absurd ⟨result, hr, hw⟩ hwritten⟩
      | error e => exact returns_error hs₂

/-! ## `execute` -/

theorem free_looks {o : StartupOp} (ho : Looks o) : Free o := by
  cases o with
  | open_file purpose _ _ => cases purpose <;> simp_all [Looks, Free]
  | _ => simp_all [Looks, Free]

theorem aside_load (json : Json) (directory : Fd .directory) :
    Asks Aside (load json directory : Py κ (Option Record)) :=
  (((asks_load json directory).mono fun _ => free_looks).and (inside_load json directory)).mono
    fun _ h => ⟨h.1, .inl h.2⟩

/-- A run that does not write says so. -/
theorem spec_preview {result : Result} (hresult : result.hardware_written = false)
    {saved : Option Record} (hs : Sealed move.after) :
    Spec home p New (preview command policy result saved) (fun r _ move' =>
      Returns json home p command policy r move') c move := by
  have hidentity : Asks Free (observe_identity : Py κ Identity) :=
    asks_observe_identity.mono fun _ => free_looks
  apply wp_seq (spec_sealed hidentity hs)
  · intro identity c₁ move₁ hs₁
    refine wp_bail_seq ?_ (returns_error hs₁)
    intro _
    refine ⟨hs₁, ?_⟩
    intro result' heq hwritten
    obtain rfl := Except.ok.inj heq
    rw [hresult] at hwritten
    cases hwritten
  · exact fun _ _ _ hs₁ => returns_error hs₁

theorem spec_in_directory (hjson : Faithful json) {writer : Option Backend}
    (hwriter : writer.isSome = true → writer = backend) {result : Result}
    (hresult : result.hardware_written = false)
    (hpolicies : ∀ wanted, command = "set" → policy = some wanted → wanted ∈ POLICIES)
    {directory : Option (Fd .directory)} (hs : Sealed move.after)
    (h : ∀ fd, directory = some fd → Directed p home fd move.after) :
    Spec home p (Saves json backend command policy)
      (in_directory json writer command policy result directory) (fun r _ move' =>
        Returns json home p command policy r move') () move := by
  have hunwritten : ∀ move' : Move startup (Machine P), Sealed move'.after →
      Returns json home p command policy (.ok result) move' := by
    intro move' hs'
    refine ⟨hs', ?_⟩
    intro result' heq hwritten
    obtain rfl := Except.ok.inj heq
    rw [hresult] at hwritten
    cases hwritten
  have hpreview : ∀ (saved : Option Record) (c₁ : Unit) (move₁ : Move startup (Machine P)),
      Sealed move₁.after → Spec home p (Saves json backend command policy)
        (if saved.isNone ∧ command ≠ "set" then pure result
          else preview command policy result saved)
        (fun r _ move' => Returns json home p command policy r move') c₁ move₁ := by
    intro saved c₁ move₁ hs₁
    split
    · exact hunwritten move₁ hs₁
    · exact spec_preview hresult hs₁
  cases directory with
  | none =>
    have hnone : Spec home p (Saves json backend command policy)
        (pure none : Py Unit (Option Record)) (fun _ _ move' => Sealed move'.after) () move := hs
    cases writer with
    | none => exact wp_seq hnone hpreview fun _ _ _ hs₁ => returns_error hs₁
    | some writer => exact wp_seq hnone hpreview fun _ _ _ hs₁ => returns_error hs₁
  | some fd =>
    cases writer with
    | none =>
      exact wp_seq (spec_aside (aside_load json fd) (h fd rfl))
        (fun saved c₁ move₁ h₁ => hpreview saved c₁ move₁ h₁.sealed)
        fun _ _ _ h₁ => returns_error h₁.sealed
    | some writer =>
      apply wp_seq (spec_aside (aside_load json fd) (h fd rfl))
      · intro saved c₁ move₁ h₁
        dsimp only
        split
        · exact hunwritten move₁ h₁.sealed
        · apply spec_locked h₁
          intro lock move' hheld
          exact spec_write_locked hjson (hwriter rfl).symm hresult hpolicies hheld
      · exact fun _ _ _ h₁ => returns_error h₁.sealed

/-- `open` around a run. -/
theorem spec_store_open {path : String} {parts : List String} (hparts : absolute_parts path = .ok parts)
    {create : Bool} {body : Option (Fd .directory) → Py Unit Result} (hs : Sealed move.after)
    (hbody : ∀ directory move, Sealed move.after →
      (∀ fd, directory = some fd → Directed p parts fd move.after) →
        Spec parts p New (body directory) (fun r _ move' =>
          Returns json parts p command policy r move') () move) :
    Spec parts p New (store_open path create body) (fun r _ move' =>
      Returns json parts p command policy r move') () move := by
  unfold store_open
  refine wp_lift_seq ?_ fun _ => returns_error hs
  intro parts' hparts'
  obtain rfl : parts = parts' := by
    rw [hparts] at hparts'
    exact Except.ok.inj hparts'
  rw [wp_block]
  have hmain : Spec parts p New (do
      let directory ← open_directory create parts
      block () (body directory)) (fun r _ move' =>
        Returns json parts p command policy r move') none move := by
    apply wp_seq (spec_open_directory hs)
    · intro directory c₁ move₁ h₁
      rw [wp_block]
      apply hbody directory move₁ h₁.1
      intro fd hfd
      exact h₁.2 fd (congrArg Except.ok hfd)
    · exact fun _ _ _ h₁ => returns_error h₁.1
  have hmapped : Spec parts p New (mapError (do
      let directory ← open_directory create parts
      block () (body directory)) inaccessible) (fun r _ move' =>
        Returns json parts p command policy r move') none move :=
    wp_mapError hmain (fun _ _ _ h => h) fun _ _ _ h => returns_error h.1
  apply wp_always hmapped
  intro r c₁ move₁ h₁
  have hclose : Asks (fun o : StartupOp => ∃ fd, o = StartupOp.close .directory fd) (do
      let fd ← ctx
      close_some fd : Py (Option (Fd .directory)) Unit) :=
    asks_ctx.bind fun fd => asks_close_some fd fun fd => ⟨fd, rfl⟩
  have hkeeps : Spec parts p New (do
      let fd ← ctx
      close_some fd : Py (Option (Fd .directory)) Unit) (fun _ _ move' =>
        Returns json parts p command policy r move') c₁ move₁ := by
    refine spec_free (J := fun s => Sealed s ∧ ∀ result, r = .ok result →
      result.hardware_written = true → Left json parts p command policy s) hclose ?_ ?_ ?_ h₁
    · rintro o ⟨fd, rfl⟩
      trivial
    · intro s s' hrely h
      exact ⟨hrely.sealed h.1, fun result hr hw => (h.2 result hr hw).rely hrely⟩
    · intro s o b s' ho hstep h
      obtain ⟨fd, rfl⟩ := ho
      obtain rfl := hstep
      exact h
  apply wp_mono hkeeps (fun _ h => h)
  intro u c₂ move₂ h₂
  cases u with
  | ok _ => exact h₂
  | error e => exact returns_error h₂.1

theorem requested_set {requested : Option String}
    (h : requested_policy "set" policy = .ok requested) :
    ∃ wanted ∈ POLICIES, requested = some wanted := by
  simp only [requested_policy, if_true] at h
  split at h
  · next wanted _ =>
    split at h
    · next hmem => exact ⟨wanted, hmem, (Except.ok.inj h).symm⟩
    · cases h
  · cases h

theorem spec_execute (hjson : Faithful json) {requested : Option String} {state_dir : String}
    {force apply : Bool} (hparts : absolute_parts state_dir = .ok home)
    (hrequested : ∀ r, requested_policy command policy = .ok r → requested = r)
    (hs : Sealed move.after) :
    Spec home p (Saves json backend command requested)
      (execute json command policy force apply state_dir backend) (fun r _ move' =>
        Returns json home p command requested r move') () move := by
  unfold execute
  apply wp_seq (spec_sealed (asks_require_root.mono fun _ => free_looks) hs)
  · intro _ c₁ move₁ hs₁
    refine wp_bail_seq ?_ (returns_error hs₁)
    intro _
    refine wp_lift_seq ?_ fun _ => returns_error hs₁
    intro requested' hrequested'
    have hok : requested_policy command policy = .ok requested' := mapError_eq_ok.mp hrequested'
    obtain rfl := hrequested requested' hok
    refine wp_bail_seq ?_ (returns_error hs₁)
    intro _
    apply spec_store_open hparts hs₁
    intro directory move₂ hs₂ hdirected
    refine spec_in_directory hjson ?_ rfl ?_ hs₂ hdirected
    · intro hsome
      split at hsome
      · next hwriting => rw [if_pos hwriting]
      · cases hsome
    · intro wanted hcommand hwanted
      subst hcommand
      obtain ⟨wanted', hmem, heq⟩ := requested_set hok
      rw [hwanted] at heq
      obtain rfl := Option.some.inj heq
      exact hmem
  · exact fun _ _ _ hs₁ => returns_error hs₁

/-! ## `main` -/

/-- The backend of a command line, if there is one. -/
def Args.writer (args : Args) : Option Backend := args.backend.toOption.join

/-- The policy that a command line asks for. -/
def Args.requested (args : Args) : Option String :=
  (requested_policy args.command args.policy).toOption.join

theorem spec_main (hjson : Faithful json) {args : Args}
    (hparts : absolute_parts args.state_dir = .ok home) (hs : Sealed move.after) :
    Prog.wp ((machine p).among (Rely home p))
      (Guarantee home p (Saves json args.writer args.command args.requested)) (main json args)
      (fun r move' => Sealed move'.after ∧ ∀ result, r = .ok result →
        result.hardware_written = true →
          Left json home p args.command args.requested move'.after) move := by
  have hsteps : Spec home p (Saves json args.writer args.command args.requested)
      (main_steps json args) (fun r _ move' =>
        Returns json home p args.command args.requested r move') () move := by
    unfold main_steps
    refine wp_lift_seq ?_ fun _ => returns_error hs
    intro backend hbackend
    have hwriter : args.writer = backend := by
      simp [Args.writer, mapError_eq_ok.mp hbackend, Except.toOption]
    refine wp_bail_seq ?_ (returns_error hs)
    intro _
    rw [hwriter]
    have hrequested : ∀ r, requested_policy args.command args.policy = .ok r → args.requested = r := by
      intro r hr
      simp [Args.requested, hr, Except.toOption]
    have hexecute : Spec home p (Saves json backend args.command args.requested)
        (execute json args.command args.policy args.force args.apply args.state_dir backend)
        (fun r _ move' => Returns json home p args.command args.requested r move') () move :=
      spec_execute hjson hparts hrequested hs
    apply wp_seq hexecute
    · intro result c₁ move₁ h₁
      refine free_call ?_ h₁.1 ?_
      · trivial
      intro b s s' hrely hstep hs₁ hs₂
      obtain rfl := hstep
      cases b with
      | error e => exact returns_error hs₁
      | ok _ =>
        refine ⟨hs₁, ?_⟩
        intro result' heq hwritten
        obtain rfl := Except.ok.inj heq
        exact (h₁.2 result rfl hwritten).rely hrely
    · exact fun _ _ _ h₁ => returns_error h₁.1
  unfold main
  rw [Prog.wp_bind]
  apply Prog.wp_mono hsteps (fun _ h => h)
  intro r move' h
  refine ⟨h.1, ?_⟩
  intro result hresult hwritten
  obtain ⟨r, c⟩ := r
  cases r with
  | ok result' =>
    obtain rfl := Except.ok.inj hresult
    exact h.2 result' rfl hwritten
  | error e => cases hresult

end UgreenNas.Startup
