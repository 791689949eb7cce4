import UgreenNas.Led.Cs201x.Blame
import UgreenNas.Led.Cs201x.Holder
import UgreenNas.Led.Service.Serve

/-! # The CS2011 backend behind the service

    The callbacks `cs_*` of the service are the functions of the transport,
    each run on the holder's context and the chip as they are at that
    moment.  The world also keeps books that no code looks at: which LED is
    owed its bytes from before a BEGIN, and whether an APPLY came through
    while a snapshot was held.
-/

namespace UgreenNas.Led.Service

open Effect Effect.Proc Cs201x

/-- The holder's context, its chip, and the books. -/
structure World where
  device : Device
  context : Context
  /-- The LED of the last BEGIN and its bytes before it, until they are back. -/
  owed : Option (Nat × Raw) := none
  /-- The last identify callback was a BEGIN that failed. -/
  failed_begin : Bool := false
  /-- The accesses of the last callback. -/
  accesses : List (Event cs_io) := []
  /-- An APPLY reached the backend while it held a snapshot. -/
  breach : Bool := false

namespace World

/-- A transport function that was run as a callback, on a machine that
    behaves as `E` says. -/
def Calls {α : Type} (w : World) (E : Env cs_io Device) (m : Fun α) (r : Except Failure α)
    (c : Context) (d : Device) (log : List (Event cs_io)) : Prop :=
  Proc.Runs E.logged m w.context (w.device, []) r c (d, log)

/-- The world after a callback. -/
def after (w : World) (c : Context) (d : Device) (log : List (Event cs_io)) : World :=
  { w with context := c, device := d, accesses := log }

/-- An APPLY is about to reach the backend. -/
def applying (w : World) : World := { w with breach := w.breach || w.context.identify_saved }

/-- A BEGIN is: what it may take is owed to the LED. -/
def beginning (w : World) (id : Nat) : World :=
  if w.context.identify_saved then w else { w with owed := some (id, w.device.raw id) }

/-- Remember whether the last identify callback was a BEGIN that failed. -/
def note (w : World) (failed : Bool) : World := { w with failed_begin := failed }

/-- Nothing is owed any more once no snapshot is left and the bytes are back. -/
def settle (w : World) : World :=
  if w.context.identify_saved = false ∧ ∀ debt ∈ w.owed, w.device.raw debt.1 = debt.2 then
    { w with owed := none }
  else w

/-- `ugreenctl_led_cs201x_set_client` -/
def set_client (w : World) (pid : Nat) : World :=
  { w with context := { w.context with client_pid := pid } }

end World

/-- `!result` -/
def succeeded {α : Type} : Except Failure α → Bool
  | .ok _ => true
  | .error _ => false

/-- The service's environment: a CS2011 holder on a machine `E`, and a peer
    that does what it likes. -/
def cs_callbacks (E : Env cs_io Device) : Env service World
  | w, .confirmed, b, w' => b = w.context.confirmed ∧ w' = w
  | w, .read id, r, w' => ∃ c d log, w.Calls E (Cs201x.read id) r c d log ∧ w' = w.after c d log
  | w, .apply id patch, r, w' =>
    ∃ c d log, w.Calls E (Cs201x.apply id patch) r c d log ∧ w' = w.applying.after c d log
  | w, .client pid, _, w' => w' = w.set_client pid
  | w, .begin_identify id, r, w' =>
    ∃ c d log, w.Calls E (Cs201x.begin_identify id) r c d log ∧
      w' = (((w.beginning id).after c d log).note (! succeeded r)).settle
  | w, .end_identify id, r, w' =>
    ∃ c d log, w.Calls E (Cs201x.end_identify id) r c d log ∧
      w' = ((w.after c d log).note false).settle
  | w, _, _, w' => w' = w

/-- The holder on a machine whose accesses may fail at any time. -/
abbrev callbacks : Env service World := cs_callbacks access

theorem callbacks_idle (w : World) (o : ServiceOp) (b : o.Ans) (w' : World)
    (hidle : o.idle = true) (h : callbacks w o b w') : w' = w := by
  cases o with
  | confirmed => exact h.2
  | peer => exact h
  | timeout => exact h
  | stopped => exact h
  | receive => exact h
  | send response => exact h
  | read id => cases hidle
  | apply id patch => cases hidle
  | client pid => cases hidle
  | begin_identify id => cases hidle
  | end_identify id => cases hidle

/-- An END that takes back a failed BEGIN, with a snapshot to restore, is
    not ended by an access that fails with `ENOENT`. -/
def Spared : (w : World) → (o : ServiceOp) → o.Ans → World → Prop
  | w, .end_identify _, .error e, w' => w.failed_begin = true → w.context.identify_saved = true →
    ¬ (first_failure w'.accesses = some .ENOENT ∧ e.errno = .ENOENT)
  | _, _, _, _ => True

/-- The environment in which all steps are spared. -/
def sparing : Env service World := fun w o b w' => callbacks w o b w' ∧ Spared w o b w'

/-! ## What a callback does to the snapshot -/

/-- No snapshot is held and nothing is owed. -/
structure Free (w : World) : Prop where
  bound : Bound w.device w.context
  unsaved : w.context.identify_saved = false
  settled : w.owed = none

/-- A snapshot of LED `id` is held, and it is what the LED is owed. -/
structure Held (id : Nat) (w : World) : Prop where
  bound : Bound w.device w.context
  saved : w.context.identify_saved = true
  target : w.context.identify_id = id
  debt : w.owed = some (id, w.context.identify_original)

section steps

variable {w w' : World} {id : Nat}

theorem World.Calls.post {α : Type} {m : Fun α} {r : Except Failure α} {c : Context} {d : Device}
    {log : List (Event cs_io)} (h : w.Calls access m r c d log) {I : Device → Prop}
    {Q : Except Failure α → Context → Device → Prop} (hwp : wp access I m Q w.context w.device) :
    Q r c d :=
  wp_runs hwp h.unlogged

/-- A call that leaves what the context remembers leaves the snapshot. -/
theorem Free.of_memory (h : Free w) (hbound : Bound w'.device w'.context)
    (hmemory : w'.context.toMemory = w.context.toMemory) (howed : w'.owed = w.owed) : Free w' := by
  have hsaved : w'.context.identify_saved = w.context.identify_saved :=
    congrArg Memory.identify_saved hmemory
  exact ⟨hbound, hsaved.trans h.unsaved, howed.trans h.settled⟩

theorem Held.of_memory (h : Held id w) (hbound : Bound w'.device w'.context)
    (hmemory : w'.context.toMemory = w.context.toMemory) (howed : w'.owed = w.owed) :
    Held id w' := by
  have hsaved : w'.context.identify_saved = w.context.identify_saved :=
    congrArg Memory.identify_saved hmemory
  have htarget : w'.context.identify_id = w.context.identify_id :=
    congrArg Memory.identify_id hmemory
  have horiginal : w'.context.identify_original = w.context.identify_original :=
    congrArg Memory.identify_original hmemory
  refine ⟨hbound, hsaved.trans h.saved, htarget.trans h.target, ?_⟩
  rw [howed, horiginal]
  exact h.debt

theorem settle_saved (h : w.context.identify_saved = true) : w.settle = w := by
  unfold World.settle
  rw [if_neg]
  intro hsettled
  rw [h] at hsettled
  cases hsettled.1

theorem settle_back (hunsaved : w.context.identify_saved = false)
    (hback : ∀ debt ∈ w.owed, w.device.raw debt.1 = debt.2) :
    w.settle = { w with owed := none } := by
  unfold World.settle
  rw [if_pos ⟨hunsaved, hback⟩]

/-- Settling the books touches nothing else. -/
theorem settle_frame (w : World) : w.settle.context = w.context ∧ w.settle.device = w.device ∧
    w.settle.failed_begin = w.failed_begin ∧ w.settle.accesses = w.accesses ∧
    w.settle.breach = w.breach := by
  unfold World.settle
  split <;> exact ⟨rfl, rfl, rfl, rfl, rfl⟩

/-- BEGIN without a snapshot: it takes one, or nothing has happened. -/
theorem begin_step (h : Free w) {r : Except Failure Unit}
    (hstep : callbacks w (.begin_identify id) r w') :
    w'.breach = w.breach ∧ w'.failed_begin = ! succeeded r ∧
      (Held id w' ∨ Free w' ∧ succeeded r = false) := by
  obtain ⟨c, d, log, hcalls, rfl⟩ := hstep
  have hend := hcalls.post (begin_identify_spec h.bound id)
  have hbeginning : w.beginning id = { w with owed := some (id, w.device.raw id) } := by
    unfold World.beginning
    rw [h.unsaved]
    rfl
  rw [hbeginning]
  obtain ⟨-, -, hfailed, -, hbreach⟩ := settle_frame
    ((World.after { w with owed := some (id, w.device.raw id) } c d log).note (! succeeded r))
  refine ⟨hbreach, hfailed, ?_⟩
  rcases hend with ⟨hstays, e, rfl⟩ | hbegun
  · -- nothing was saved and nothing written
    right
    have hunsaved : c.identify_saved = false := by
      have hsaved : c.identify_saved = w.context.identify_saved :=
        congrArg Memory.identify_saved hstays.memory
      exact hsaved.trans h.unsaved
    rw [settle_back]
    · exact ⟨⟨hstays.bound, hunsaved, rfl⟩, rfl⟩
    · exact hunsaved
    · intro debt hdebt
      cases hdebt
      exact congrFun hstays.quiet.raw id
  · left
    have hsaved : c.identify_saved = true := congrArg Memory.identify_saved hbegun.memory
    have htarget : c.identify_id = id := congrArg Memory.identify_id hbegun.memory
    have horiginal : c.identify_original = w.device.raw id :=
      congrArg Memory.identify_original hbegun.memory
    rw [settle_saved]
    · refine ⟨hbegun.bound, hsaved, htarget, ?_⟩
      show some _ = some (id, c.identify_original)
      rw [horiginal]
    · exact hsaved

/-- END with a snapshot of its LED: it restores the LED, or keeps the
    snapshot; and a failure with `ENOENT` comes from an access. -/
theorem end_step (h : Held id w) {r : Except Failure Unit}
    (hstep : callbacks w (.end_identify id) r w') :
    w'.breach = w.breach ∧ w'.failed_begin = false ∧ (r = .ok () → Free w') ∧
      ∀ e, r = .error e → Held id w' ∧
        (e.errno = .ENOENT → first_failure w'.accesses = some .ENOENT) := by
  obtain ⟨c, d, log, hcalls, rfl⟩ := hstep
  have hended := hcalls.post (end_identify_spec h.bound id)
  have hblamed := wp_runs (end_identify_blamed h.saved id w.device) hcalls
  obtain ⟨-, -, hfailed, haccesses, hbreach⟩ := settle_frame ((w.after c d log).note false)
  refine ⟨hbreach, hfailed, ?_, ?_⟩
  · intro hr
    obtain ⟨-, -, -, hmemory, hraw⟩ := hended.restored hr
    have hunsaved : c.identify_saved = false := congrArg Memory.identify_saved hmemory
    rw [settle_back]
    · exact ⟨hended.bound, hunsaved, rfl⟩
    · exact hunsaved
    · intro debt hdebt
      have hdebt : debt ∈ w.owed := hdebt
      rw [h.debt] at hdebt
      cases hdebt
      exact hraw
  · intro e hr
    have hmemory := hended.kept ⟨e, hr⟩
    have hheld : Held id ((w.after c d log).note false) :=
      h.of_memory hended.bound hmemory rfl
    refine ⟨?_, ?_⟩
    · rw [settle_saved hheld.saved]
      exact hheld
    · rw [haccesses]
      subst hr
      exact hblamed

/-- END without a snapshot does nothing. -/
theorem end_idle_step (h : Free w) {r : Except Failure Unit}
    (hstep : callbacks w (.end_identify id) r w') :
    w'.breach = w.breach ∧ Free w' := by
  obtain ⟨c, d, log, hcalls, rfl⟩ := hstep
  have hended := hcalls.post (end_identify_spec h.bound id)
  obtain ⟨-, hfailed⟩ := hended.idle h.unsaved
  have hmemory := hended.kept hfailed
  have hfree : Free ((w.after c d log).note false) :=
    h.of_memory hended.bound hmemory rfl
  rw [settle_back hfree.unsaved]
  · exact ⟨rfl, hfree.bound, hfree.unsaved, rfl⟩
  · intro debt hdebt
    rw [hfree.settled] at hdebt
    cases hdebt

theorem read_step {r : Except Failure Value} (hbound : Bound w.device w.context)
    (hstep : callbacks w (.read id) r w') : w'.breach = w.breach ∧
      Bound w'.device w'.context ∧ w'.context.toMemory = w.context.toMemory ∧ w'.owed = w.owed := by
  obtain ⟨c, d, log, hcalls, rfl⟩ := hstep
  have hread : wp access (fun _ => True) (Cs201x.read id)
      (fun _ c' d' => Stays w.device w.context c' d') w.context w.device := by
    refine (calm_snapshot hbound id).wp_then (fun _ _ => trivial) ?_ fun _ _ _ hstays => hstays
    intro _ _ _ hstays _
    exact (wp_pure _ _).mpr hstays
  have hstays := hcalls.post hread
  exact ⟨rfl, hstays.bound, hstays.memory, rfl⟩

theorem apply_step {patch : Patch} {r : Except Failure Value} (hbound : Bound w.device w.context)
    (hstep : callbacks w (.apply id patch) r w') :
    w'.breach = (w.breach || w.context.identify_saved) ∧
      Bound w'.device w'.context ∧ w'.context.toMemory = w.context.toMemory ∧ w'.owed = w.owed := by
  obtain ⟨c, d, log, hcalls, rfl⟩ := hstep
  obtain ⟨hkept, -⟩ := hcalls.post (apply_spec hbound id patch)
  exact ⟨rfl, hkept.bound, hkept.memory, rfl⟩

end steps

end UgreenNas.Led.Service
