import UgreenNas.Led.Cs201x.Driver

/-! # Where an error number comes from

    The transport's own checks fail with a handful of error numbers, and
    `ENOENT` is only one of them in `end_identify` without a saved snapshot.
    Everywhere else a failure with `ENOENT` repeats that of an access: of
    the first one that failed.
-/

namespace UgreenNas.Led.Cs201x

open Effect Effect.Proc

/-! ## Failing accesses -/

/-- The error number an access failed with. -/
def failed : Event cs_io → Option Errno
  | ⟨.detect, .error e⟩ => some e.1
  | ⟨.owners _ _, .error e⟩ => some e
  | ⟨.lock, .error e⟩ => some e
  | ⟨.permission _ _ _, .error e⟩ => some e
  | ⟨.read_port _, .error e⟩ => some e
  | ⟨.write_port _ _, .error e⟩ => some e
  | _ => none

/-- The first failure of a run. -/
def first_failure (log : List (Event cs_io)) : Option Errno := log.findSome? failed

theorem first_failure_snoc (log : List (Event cs_io)) (event : Event cs_io) :
    first_failure (log ++ [event]) = (first_failure log).or (failed event) := by
  simp [first_failure, List.findSome?_append]

/-- Failures that carry an error number. -/
class HasErrno (ε : Type) where
  errno : ε → Errno

instance : HasErrno Errno := ⟨id⟩
instance : HasErrno Failure := ⟨Failure.errno⟩

variable {ε δ α β : Type} [HasErrno ε] [HasErrno δ]

/-- Success means that no access failed, and `ENOENT` that the first one
    which did failed with it. -/
def Blamed (r : Except ε α) (log : List (Event cs_io)) : Prop :=
  match r with
  | .ok _ => first_failure log = none
  | .error e => HasErrno.errno e = .ENOENT → first_failure log = some .ENOENT

/-- A failure stays blamed on the same access. -/
theorem Blamed.error_append {e : ε} {log : List (Event cs_io)}
    (h : Blamed (.error e : Except ε α) log) (more : List (Event cs_io)) :
    Blamed (.error e : Except ε α) (log ++ more) := by
  intro hnoent
  have hfirst := h hnoent
  unfold first_failure at hfirst ⊢
  rw [List.findSome?_append, hfirst]
  rfl

omit [HasErrno ε] in
/-- Whatever a procedure does, the log grows. -/
theorem log_grows (m : Proc cs_io Context ε α) (c : Context) (d : Device)
    (log : List (Event cs_io)) :
    wp access.logged (fun _ => True) m (fun _ _ s' => ∃ more, s'.2 = log ++ more) c (d, log) := by
  apply Prog.wp_of_runs
  intro r s' hrun
  obtain ⟨more, hmore, -⟩ := hrun.of_logged
  exact ⟨more, hmore⟩

/-! ## Honest procedures -/

/-- Started after `x`, the procedure ends with a failure that is blamed
    rightly. -/
def Follows (x : Except δ β) (m : Proc cs_io Context ε α) : Prop :=
  ∀ c d log, Blamed x log →
    wp access.logged (fun _ => True) m (fun r _ s' => Blamed r s'.2) c (d, log)

/-- Started when no access has failed. -/
def Honest (m : Proc cs_io Context ε α) : Prop :=
  Follows (.ok () : Except Errno Unit) m

/-- The same for a procedure that returns a failure as a value. -/
def HonestValue (m : Proc cs_io Context ε (Except δ α)) : Prop :=
  ∀ c d log, first_failure log = none →
    wp access.logged (fun _ => True) m (fun r _ s' => ∃ x, r = .ok x ∧ Blamed x s'.2) c (d, log)

namespace Honest

theorem pure (a : α) : Honest (Pure.pure a : Proc cs_io Context ε α) :=
  fun _ _ _ h => h

theorem ctx : Honest (Proc.ctx : Proc cs_io Context ε Context) :=
  fun _ _ _ h => h

theorem update (f : Context → Context) : Honest (Proc.update f : Proc cs_io Context ε Unit) :=
  fun _ _ _ h => h

/-- A check of the transport that fails with another number. -/
theorem bail {p : Prop} [Decidable p] {e : ε} (he : HasErrno.errno e ≠ .ENOENT) :
    Honest (Proc.bail p e) := by
  intro c d log h
  rw [wp_bail]
  refine ⟨fun _ hnoent => absurd hnoent he, fun _ => h⟩

theorem bind {m : Proc cs_io Context ε α} {f : α → Proc cs_io Context ε β} (hm : Honest m)
    (hf : ∀ a, Honest (f a)) : Honest (m >>= f) := by
  intro c d log h
  apply wp_seq (hm c d log h)
  · intro a c' s' hok
    exact hf a c' s'.1 s'.2 hok
  · intro e c' s' herr
    exact herr

/-- What follows a procedure that returns its failure. -/
theorem bind_value {m : Proc cs_io Context ε (Except δ α)}
    {f : Except δ α → Proc cs_io Context ε β} (hm : HonestValue m)
    (hf : ∀ x, Follows x (f x)) : Honest (m >>= f) := by
  intro c d log h
  apply wp_seq (hm c d log h)
  · intro x c' s' hx
    obtain ⟨_, heq, hblamed⟩ := hx
    cases heq
    exact hf x c' s'.1 s'.2 hblamed
  · intro e c' s' hx
    obtain ⟨_, heq, -⟩ := hx
    cases heq

/-- A translation that keeps the number. -/
theorem mapError {m : Proc cs_io Context ε α} {f : ε → δ} (hm : Honest m)
    (hf : ∀ e, HasErrno.errno (f e) = HasErrno.errno e) : Honest (Proc.mapError m f) := by
  intro c d log h
  apply wp_mapError (hm c d log h)
  · exact fun _ _ _ hok => hok
  · intro e c' s' herr hnoent
    rw [hf e] at hnoent
    exact herr hnoent

omit [HasErrno δ] in
theorem attempt {m : Proc cs_io Context ε α} (hm : Honest m) :
    HonestValue (Proc.attempt m : Proc cs_io Context δ (Except ε α)) := by
  intro c d log h
  rw [wp_attempt]
  exact wp_mono (hm c d log h) (fun _ _ => trivial) fun r _ _ hr => ⟨r, rfl, hr⟩

end Honest

/-- The failure is passed on. -/
theorem follows_lift (x : Except ε α) : Follows x (Proc.lift x : Proc cs_io Context ε α) :=
  fun _ _ _ h => h

theorem follows_lift_bind {x : Except ε α} {f : α → Proc cs_io Context ε β}
    (hf : ∀ a, Honest (f a)) : Follows x (Proc.lift x >>= f) := by
  intro c d log h
  cases x with
  | ok a => exact hf a c d log h
  | error e => exact h

theorem follows_ok {m : Proc cs_io Context ε α} {b : β} (hm : Honest m) :
    Follows (.ok b : Except δ β) m :=
  fun c d log h => hm c d log h

/-! ## Accesses -/

theorem blamed_access {r : Except Errno α} {log : List (Event cs_io)} {event : Event cs_io}
    (h : first_failure log = none)
    (hevent : failed event = match r with | .ok _ => none | .error e => some e) :
    Blamed r (log ++ [event]) := by
  cases r with
  | ok a =>
    show first_failure _ = none
    rw [first_failure_snoc, h, hevent]
    rfl
  | error e =>
    intro hnoent
    rw [first_failure_snoc, h, hevent]
    exact congrArg some hnoent

theorem honest_port_write (port : Nat) (value : UInt8) : Honest (port_write port value) := by
  intro c d log h r s' hstep
  refine ⟨trivial, ?_⟩
  show Blamed r s'.2
  rw [hstep.2]
  apply blamed_access h
  cases r <;> rfl

theorem honest_port_read (port : Nat) : Honest (port_read port) := by
  intro c d log h r s' hstep
  refine ⟨trivial, ?_⟩
  show Blamed r s'.2
  rw [hstep.2]
  apply blamed_access h
  cases r <;> rfl

theorem honest_permission (port count : Nat) (enable : Bool) :
    Honest (permission port count enable) := by
  intro c d log h r s' hstep
  refine ⟨trivial, ?_⟩
  show Blamed r s'.2
  rw [hstep.2]
  apply blamed_access h
  cases r <;> rfl

theorem honest_owners (base : Nat) : Honest (owners base) := by
  intro c d log h r s' hstep
  refine ⟨trivial, ?_⟩
  show Blamed r s'.2
  rw [hstep.2]
  apply blamed_access h
  cases r <;> rfl

theorem honest_detect : Honest detect := by
  intro c d log h r s' hstep
  refine ⟨trivial, ?_⟩
  show Blamed (r.mapError fun e => failure e.1 e.2) s'.2
  rw [hstep.2]
  cases r with
  | ok identity =>
    show first_failure _ = none
    rw [first_failure_snoc, h]
    rfl
  | error e =>
    intro hnoent
    rw [first_failure_snoc, h]
    exact congrArg some hnoent

/-- A pause after an access that may have failed. -/
theorem follows_pause {x : Except Errno α} {m : Proc cs_io Context ε β} (milliseconds : Nat)
    (hm : Follows x m) : Follows x (pause_ms milliseconds >>= fun _ => m) := by
  intro c d log h b s' hstep
  refine ⟨trivial, ?_⟩
  apply hm c s'.1 s'.2
  rw [hstep.2]
  cases x with
  | ok a =>
    show first_failure _ = none
    rw [first_failure_snoc, show first_failure log = none from h]
    rfl
  | error e => exact h.error_append _

theorem honest_pause {m : Proc cs_io Context ε β} (milliseconds : Nat) (hm : Honest m) :
    Honest (pause_ms milliseconds >>= fun _ => m) :=
  follows_pause milliseconds hm

/-! ## The probe -/

theorem honest_sio_read (index : UInt8) : Honest (sio_read index) :=
  (honest_port_write _ _).bind fun _ => honest_port_read _

theorem honest_sio_word (index : UInt8) : Honest (sio_word index) :=
  (honest_sio_read _).bind fun _ => (honest_sio_read _).bind fun _ => .pure _

theorem honest_enter (values : List UInt8) : Honest (enter values) := by
  induction values with
  | nil => exact .pure ()
  | cons value rest ih =>
    apply Honest.bind_value (honest_port_write CS_INDEX value).attempt
    intro x
    exact follows_pause 1 (follows_lift_bind fun _ => ih)

/-- A cleanup is made whatever `r` is; its failure replaces a success only. -/
theorem follows_cleanup {r : Except Errno α} {m : Io Unit} {n : Except Errno α → Io β}
    (hm : Honest m) (hn : ∀ r', Follows r' (n r')) :
    Follows r (Proc.attempt m >>= fun cleanup => n (first_error r cleanup)) := by
  intro c d log h
  rw [wp_bind, wp_attempt]
  cases r with
  | ok a =>
    apply wp_mono (hm c d log h) (fun _ _ => trivial)
    intro cleanup c' s' hcleanup
    apply hn _ c' s'.1 s'.2
    cases cleanup with
    | ok u => exact hcleanup
    | error e => exact hcleanup
  | error e =>
    apply wp_mono (log_grows m c d log) (fun _ _ => trivial)
    intro cleanup c' s' hgrown
    obtain ⟨more, hmore⟩ := hgrown
    apply hn _ c' s'.1 s'.2
    rw [hmore]
    exact h.error_append more

/-- The lock sequence is such a cleanup. -/
theorem follows_leave {r : Except Errno α} {n : Except Errno α → Io β} (values : List UInt8)
    (hn : ∀ r', Follows r' (n r')) : Follows r (leave values r >>= n) := by
  induction values generalizing r with
  | nil => exact hn r
  | cons value rest ih =>
    intro c d log h
    have hcleanup := @follows_cleanup α β r (port_write CS_INDEX value)
      (fun r' => leave rest r' >>= n) (honest_port_write CS_INDEX value) (fun _ => ih) c d log h
    rw [wp_bind] at hcleanup
    show wp _ _ ((Proc.attempt (port_write CS_INDEX value) >>= fun cleanup =>
      leave rest (first_error r cleanup)) >>= n) _ c (d, log)
    rw [wp_bind, wp_bind]
    apply wp_mono hcleanup (fun _ hI => hI)
    intro cleanup c' s' hrest
    cases cleanup with
    | ok u =>
      dsimp only at hrest ⊢
      rw [wp_bind] at hrest
      exact hrest
    | error e => exact hrest

theorem honest_probe_selected : Honest probe_selected :=
  (honest_port_write _ _).bind fun _ => (honest_sio_read _).bind fun _ =>
    (Honest.bail (by decide)).bind fun _ => (honest_sio_word _).bind fun _ =>
      (Honest.bail (by decide)).bind fun _ => .pure _

theorem honest_reselect (old_ldn : UInt8) : Honest (reselect old_ldn) :=
  (honest_port_write _ _).bind fun _ => honest_port_write _ _

theorem honest_probe_chip : Honest probe_chip := by
  apply (honest_enter _).bind; intro _
  apply (honest_sio_word _).bind; intro chip
  apply (Honest.bail (by decide)).bind; intro _
  apply (honest_sio_word _).bind; intro revision
  apply (honest_sio_read _).bind; intro old_ldn
  apply (honest_port_write _ _).bind; intro _
  apply Honest.bind_value honest_probe_selected.attempt
  intro r
  apply @follows_cleanup _ _ r _ (fun r' => lift r' >>= fun base => pure (chip, revision, base))
    (honest_reselect old_ldn)
  intro r'
  exact follows_lift_bind fun base => .pure _

theorem honest_probe : Honest probe := by
  apply Honest.bind_value honest_probe_chip.attempt
  intro r
  apply follows_leave
  intro r'
  exact follows_lift_bind fun found => (Honest.update _).bind fun _ => .pure _

/-! ## Runtime registers, guards and snapshots -/

theorem honest_address_bytes (base reg : Nat) (bytes : List Nat) :
    Honest (address_bytes base reg bytes) := by
  induction bytes with
  | nil => exact .pure ()
  | cons byte rest ih => exact (honest_port_write _ _).bind fun _ => ih

theorem honest_address (reg : Nat) : Honest (address reg) :=
  Honest.ctx.bind fun _ => (honest_port_write _ _).bind fun _ => honest_address_bytes _ _ _

theorem honest_ec_read (reg : Nat) : Honest (ec_read reg) :=
  (honest_address reg).bind fun _ => honest_pause 1 (Honest.ctx.bind fun _ => honest_port_read _)

theorem honest_ec_write (reg : Nat) (value : UInt8) : Honest (ec_write reg value) :=
  (honest_address reg).bind fun _ => Honest.ctx.bind fun _ => honest_port_write _ _

/-- A failure of the transport repeats the number it was reported. -/
theorem Honest.reported {m : Io α} (hm : Honest m) (message : String) :
    Honest (Proc.mapError m (Led.reported message)) :=
  hm.mapError fun _ => rfl

theorem honest_acquire (base : Nat) : Honest (acquire base) := by
  apply Honest.ctx.bind
  intro c
  split
  · exact .pure ()
  · apply ((honest_owners _).reported _).bind; intro _
    apply ((honest_permission _ _ _).reported _).bind; intro _
    exact .update _

theorem honest_guard_flow (writing : Bool) (expected_flow : Option UInt8) :
    Honest (guard_flow writing expected_flow) := by
  apply (Honest.update _).bind; intro _
  apply Honest.ctx.bind; intro c
  apply (Honest.bail (by decide)).bind; intro _
  apply honest_detect.bind; intro identity
  apply (Honest.bail (by decide)).bind; intro _
  apply ((honest_owners _).reported _).bind; intro _
  apply (honest_probe.reported _).bind; intro base
  apply (Honest.bail (by decide)).bind; intro _
  apply (honest_acquire _).bind; intro _
  apply ((honest_ec_read _).reported _).bind; intro flow
  apply (Honest.bail (by decide)).bind; intro _
  apply (Honest.bail (by decide)).bind; intro _
  exact (Honest.update _).bind fun _ => .pure _

theorem honest_guard (writing : Bool) : Honest (guard writing) :=
  (honest_guard_flow _ _).bind fun _ => .pure _

theorem honest_read_fields (id : Nat) (fields : List Field) (raw : Raw) :
    Honest (read_fields id fields raw) := by
  induction fields generalizing raw with
  | nil => exact .pure raw
  | cons field rest ih => exact (honest_ec_read _).bind fun _ => ih _

theorem honest_snapshot (id : Nat) : Honest (snapshot id) := by
  apply (Honest.bail (by decide)).bind; intro _
  apply (honest_guard _).bind; intro _
  apply ((honest_read_fields _ _ _).reported _).bind; intro raw
  apply ((honest_read_fields _ _ _).reported _).bind; intro again
  apply (Honest.bail (by decide)).bind; intro _
  exact (honest_guard _).bind fun _ => .pure _

/-! ## Transactions -/

theorem honest_verified_write (reg : Nat) (value : UInt8) (message mismatch : String) :
    Honest (verified_write reg value message mismatch) := by
  apply ((honest_ec_write _ _).reported _).bind; intro _
  apply honest_pause 1
  apply ((honest_ec_read _).reported _).bind; intro actual
  exact Honest.bail (show Errno.EIO ≠ Errno.ENOENT by decide)

theorem honest_write_byte (id : Nat) (field : Field) (value : UInt8) :
    Honest (write_byte id field value) :=
  (honest_guard _).bind fun _ => honest_verified_write _ _ _ _

theorem honest_write_fields (id : Nat) (wanted before : Raw) (restore quiesce : Bool)
    (fields : List Field) : Honest (write_fields id wanted before restore quiesce fields) := by
  induction fields with
  | nil => exact .pure ()
  | cons field rest ih =>
    unfold write_fields
    split
    · exact (honest_write_byte _ _ _).bind fun _ => ih
    · exact ih

theorem honest_quiesce (id : Nat) (needed : Bool) : Honest (quiesce id needed) := by
  cases needed with
  | true => exact honest_write_byte _ _ _
  | false => exact .pure ()

theorem honest_commit (id : Nat) (wanted before : Raw) (restore : Bool) :
    Honest (commit id wanted before restore) := by
  apply (honest_quiesce _ _).bind; intro _
  apply (honest_write_fields _ _ _ _ _ _).bind; intro _
  apply (honest_snapshot id).bind; intro actual
  exact .bail (by decide)

/-- An END that has a snapshot to restore fails with `ENOENT` only if the
    first access that failed did. -/
theorem end_identify_blamed {c : Context} (hsaved : c.identify_saved = true) (id : Nat)
    (d : Device) :
    wp access.logged (fun _ => True) (end_identify id) (fun r _ s' => Blamed r s'.2) c (d, []) := by
  show wp _ _ (ctx >>= _) _ c (d, [])
  rw [wp_bind, wp_ctx]
  show wp _ _ (bail _ _ >>= _) _ c (d, [])
  rw [wp_bind, wp_bail]
  constructor
  · intro hid hnoent
    exact absurd hnoent (show Errno.EINVAL ≠ Errno.ENOENT by decide)
  intro hid
  show wp _ _ (bail _ _ >>= _) _ c (d, [])
  rw [wp_bind, wp_bail]
  constructor
  · intro hunsaved
    rw [hsaved] at hunsaved
    cases hunsaved
  intro _
  apply Honest.bind (Honest.bail (by decide)) _ c d [] rfl
  intro _
  refine Honest.bind (Honest.mapError (honest_commit _ _ _ _) ?_) ?_
  · intro e
    rfl
  · intro _
    exact Honest.update _

end UgreenNas.Led.Cs201x
