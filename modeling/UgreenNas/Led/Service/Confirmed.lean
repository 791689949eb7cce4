import UgreenNas.Led.Gpio
import UgreenNas.Led.Service.Session

/-! # Reading through a holder

    A request is looked at only if the backend confirms the hardware.  The
    GPIO backend looks at the hardware to say so.  The CS2011 backend says
    what its last guard left in the context, and once that was a failure no
    request reaches a guard again: the holder stays unconfirmed, however
    well the hardware does.
-/

namespace UgreenNas.Led.Service

open Effect Effect.Proc

/-! ## READ -/

/-- A well-formed READ for an LED of the profile. -/
structure ReadFrame (profile : Profile) (request : Request) : Prop where
  header : request.HeaderOk
  opcode : request.opcode = READ
  zero : request.ZeroFrom 4 none
  present : Present profile request.id

section requests

variable {σ : Type} {E : Env service σ} {ops : Ops} {request : Request}
  {session session' : Session} {s s' : σ}

/-- What `handle` does with such a frame. -/
def read_steps (id : Nat) : Handler Value := do
  let confirmed ← call .confirmed
  bail (confirmed = false) (silently .ENOTSUP)
  let r ← call (.read id)
  lift r

theorem ReadFrame.handle_eq (h : ReadFrame ops.profile request) :
    handle ops request = read_steps request.id := by
  have hinfo : request.opcode ≠ INFO := by
    rw [h.opcode]
    decide
  have hread : handle_read request = (call (.read request.id) >>= lift) := by
    unfold handle_read
    exact bail_neg (not_not.mpr h.zero) _ _
  have hopcode : handle_opcode ops request = (call (.read request.id) >>= lift) := by
    unfold handle_opcode
    rw [if_neg hinfo, if_pos h.opcode, hread]
  unfold handle read_steps
  rw [bail_neg (not_not.mpr h.header), hopcode]

/-- The request is answered, and with result 0. -/
def Answered (E : Env service σ) (ops : Ops) (request : Request) (session : Session) (s : σ) :
    Prop :=
  (∃ r session' s', Proc.Runs E (handle ops request) session s r session' s') ∧
  ∀ r session' s', Proc.Runs E (handle ops request) session s r session' s' →
    ∀ confirmed, (respond ops.profile r confirmed).word 2 = 0

/-- An unconfirmed backend answers no READ. -/
theorem not_answered (hread : ReadFrame ops.profile request) (h : E s .confirmed false s') :
    ¬ Answered E ops request session s := by
  intro hanswered
  have hrun : Proc.Runs E (handle ops request) session s (.error (silently .ENOTSUP)) session s' := by
    rw [hread.handle_eq]
    exact @Prog.Runs.op service _ _ E .confirmed _ s s' s' false _ h .pure
  have hzero := hanswered.2 _ _ _ hrun false
  rw [respond_result] at hzero
  exact result_word_ne_zero _ hzero

/-- A confirmed backend whose reads succeed answers every READ. -/
theorem answered (hread : ReadFrame ops.profile request) (hconfirms : ∃ b s₁, E s .confirmed b s₁)
    (hreads : ∀ b s₁, E s .confirmed b s₁ → b = true ∧ (∃ r s₂, E s₁ (.read request.id) r s₂) ∧
      ∀ r s₂, E s₁ (.read request.id) r s₂ → ∃ value, r = .ok value) :
    Answered E ops request session s := by
  unfold Answered
  rw [hread.handle_eq]
  constructor
  · obtain ⟨b, s₁, hconfirmed⟩ := hconfirms
    obtain ⟨rfl, ⟨r, s₂, hr⟩, -⟩ := hreads b s₁ hconfirmed
    refine ⟨r, session, s₂, ?_⟩
    exact @Prog.Runs.op service _ _ E .confirmed _ s s₁ s₂ true _ hconfirmed
      (@Prog.Runs.op service _ _ E (.read request.id) _ s₁ s₂ s₂ r _ hr .pure)
  · intro r session' s' hrun confirmed
    have hok : wp E (fun _ => True) (read_steps request.id) (fun r _ _ => ∃ value, r = .ok value)
        session s := by
      show wp E _ (call .confirmed >>= _) _ session s
      rw [wp_bind, wp_call]
      intro b s₁ hconfirmed
      obtain ⟨rfl, -, hall⟩ := hreads b s₁ hconfirmed
      refine ⟨trivial, ?_⟩
      show wp E _ (bail _ _ >>= _) _ session s₁
      rw [bail_neg (by simp)]
      show wp E _ (call (.read request.id) >>= lift) _ session s₁
      rw [wp_bind, wp_call]
      intro r s₂ hr
      exact ⟨trivial, hall r s₂ hr⟩
    obtain ⟨value, rfl⟩ := wp_runs hok hrun
    exact respond_result _ _ _

end requests

/-! ## The CS2011 backend -/

section cs201x

open Cs201x

variable {ops : Ops} {request : Request} {session session' : Session} {w w' : World}
  {E : Env cs_io Device}

/-- When a read would succeed, a READ is answered exactly if the context is
    still confirmed. -/
theorem cs_answered_iff (hread : ReadFrame ops.profile request)
    (hsucceeds : Succeeds E (Cs201x.read request.id) w.context w.device) :
    Answered (cs_callbacks E) ops request session w ↔ w.context.confirmed = true := by
  constructor
  · intro hanswered
    cases hconfirmed : w.context.confirmed with
    | true => rfl
    | false =>
      have hstep : cs_callbacks E w .confirmed false w := ⟨hconfirmed.symm, rfl⟩
      exact absurd hanswered (not_answered hread hstep)
  · intro hconfirmed
    refine answered hread ⟨true, w, hconfirmed.symm, rfl⟩ ?_
    intro b w₁ hstep
    obtain ⟨rfl, rfl⟩ := hstep
    refine ⟨hconfirmed, ?_, ?_⟩
    · obtain ⟨⟨value, c, d, hrun⟩, -⟩ := hsucceeds
      obtain ⟨log, hlogged⟩ := Prog.Runs.to_logged hrun []
      exact ⟨.ok value, w₁.after c d log, c, d, log, hlogged, rfl⟩
    · intro r w₂ hstep
      obtain ⟨c, d, log, hlogged, -⟩ := hstep
      exact hsucceeds.2 r c d hlogged.unlogged

/-! ### Where the confirmation comes from -/

variable {P : Context → Prop} {c : Context} {d : Device}

/-- `m` succeeds only with a context in `P`. -/
def Ensures {α : Type} (P : Context → Prop) (m : Fun α) (c : Context) (d : Device) : Prop :=
  wp access (fun _ => True) m (fun r c' _ => ∀ a, r = .ok a → P c') c d

/-- What was done before the last step does not matter... -/
theorem Ensures.after {α β : Type} {m : Fun α} {f : α → Fun β}
    (h : ∀ a c' d', Ensures P (f a) c' d') : Ensures P (m >>= f) c d := by
  apply @wp_seq _ _ _ _ _ _ _ _ _ _ _ _ (fun _ _ _ => True) _ Prog.wp_trivial
  · intro a c' d' _
    exact h a c' d'
  · intro e c' d' _ a heq
    cases heq

/-- ... nor does a check after it. -/
theorem Ensures.checked {α β : Type} {m : Fun α} {f : α → Fun β} (h : Ensures P m c d)
    (hf : ∀ a c' d', wp access (fun _ => True) (f a) (fun _ c'' _ => c'' = c') c' d') :
    Ensures P (m >>= f) c d := by
  apply wp_seq h
  · intro a c' d' hP
    apply wp_mono (hf a c' d') fun _ _ => trivial
    intro r c'' d'' hsame b _
    rw [hsame]
    exact hP a rfl
  · intro e c' d' _ b heq
    cases heq

theorem guard_flow_confirms (writing : Bool) (expected_flow : Option UInt8) :
    Ensures (fun c' => c'.confirmed = true) (guard_flow writing expected_flow) c d := by
  -- the twelve steps before the last assignment
  iterate 12 (apply Ensures.after; intro _ _ _)
  intro flow _
  rfl

theorem guard_confirms (writing : Bool) :
    Ensures (fun c' => c'.confirmed = true) (guard writing) c d :=
  (guard_flow_confirms writing (some 1)).checked fun _ _ _ => rfl

theorem snapshot_all_confirms (flow : UInt8) :
    Ensures (fun c' => c'.confirmed = true) (snapshot_all flow) c d := by
  iterate 5 (apply Ensures.after; intro _ _ _)
  exact (guard_flow_confirms false (some flow)).checked fun _ _ _ => rfl

theorem open_steps_confirms (takeover_flow : Bool) :
    Ensures (fun c' => c'.confirmed = true) (open_steps takeover_flow) c d := by
  apply Ensures.after
  intro _ _ _
  apply Ensures.after
  intro c₁ _ _
  split
  · iterate 6 (apply Ensures.after; intro _ _ _)
    apply (snapshot_all_confirms 1).checked
    intro actual c' d'
    exact (wp_bail _ _ _).mpr ⟨fun _ => rfl, fun _ => rfl⟩
  · exact guard_confirms false

theorem open_failed_fails (e : Failure) : Ensures (fun _ => False) (open_failed e) c d := by
  apply Ensures.after
  intro c₁ _ _
  split
  · apply Ensures.after
    intro r _ _
    apply Ensures.after
    intro _ _ _
    cases r with
    | error e' =>
      intro a heq
      cases heq
    | ok u =>
      intro a heq
      cases heq
  · apply Ensures.after
    intro _ _ _ a heq
    cases heq

/-- An open context is confirmed. -/
theorem open_context_confirms {a : Access} {holder takeover_flow : Bool} {d₀ : Device}
    (h : Prog.Runs access (open_context a holder takeover_flow) d₀ (.ok c) d) :
    c.confirmed = true := by
  have hopening : ∀ c₁ d₁, Ensures (fun c' => c'.confirmed = true)
      (recover (open_steps takeover_flow) open_failed) c₁ d₁ := by
    intro c₁ d₁
    apply wp_handle (open_steps_confirms takeover_flow)
    · intro u c' d' hconfirmed
      exact hconfirmed
    · intro e c' d' _
      apply wp_mono (open_failed_fails e) fun _ _ => trivial
      intro r c'' d'' hfails u hok
      exact (hfails u hok).elim
  have hspec : Prog.wp access (fun _ => True) (open_context a holder takeover_flow)
      (fun r _ => ∀ c', r = .ok c' → c'.confirmed = true) d₀ := by
    unfold open_context
    rw [Prog.wp_bind]
    intro allocated d₁ _
    refine ⟨trivial, ?_⟩
    show Prog.wp _ _ (if _ then _ else _) _ _
    split
    · intro c' heq
      cases heq
    split
    · intro c' heq
      cases heq
    rw [Prog.wp_bind]
    apply Prog.wp_mono (hopening _ _) fun _ _ => trivial
    intro r d₂ hconfirmed c' hok
    obtain ⟨r, c₂⟩ := r
    cases r with
    | error e => cases hok
    | ok u =>
      cases hok
      exact hconfirmed u rfl
  exact Prog.wp_runs hspec h c rfl

/-! ### What becomes of it -/

/-- The callbacks after which the context is confirmed: their last guard has
    passed, or they ran none. -/
def confirming : Env service World :=
  fun w o b w' => callbacks w o b w' ∧ w'.context.confirmed = true

/-- At the head of the loop, with nothing to restore on the way out. -/
structure Unconfirmed (session : Session) (w : World) : Prop where
  flag : w.context.confirmed = false
  unsaved : session.saved = false

/-- No request gets past an unconfirmed context. -/
theorem Handled.unconfirmed_kept {r : Except Failure Value}
    (h : Handled callbacks ops request session w r session' w') (hun : Unconfirmed session w) :
    Unconfirmed session' w' := by
  have hclosed : ∀ w₁, ¬ callbacks w .confirmed true w₁ := by
    intro w₁ hstep
    have heq : true = w.context.confirmed := hstep.1
    rw [hun.flag] at heq
    cases heq
  cases h with
  | malformed => exact hun
  | unconfirmed _ hconfirmed =>
    obtain ⟨-, rfl⟩ := hconfirmed
    exact hun
  | refused _ hconfirmed => exact absurd hconfirmed (hclosed _)
  | info _ hconfirmed => exact absurd hconfirmed (hclosed _)
  | read _ hconfirmed => exact absurd hconfirmed (hclosed _)
  | apply _ hconfirmed => exact absurd hconfirmed (hclosed _)
  | begun _ _ hconfirmed => exact absurd hconfirmed (hclosed _)
  | undone _ _ hconfirmed => exact absurd hconfirmed (hclosed _)
  | stuck _ _ hconfirmed => exact absurd hconfirmed (hclosed _)
  | ended _ hconfirmed => exact absurd hconfirmed (hclosed _)
  | end_failed _ hconfirmed => exact absurd hconfirmed (hclosed _)

theorem serve_request_unconfirmed (ops : Ops) (session : Session) (w : World)
    (h : Unconfirmed session w) :
    Prog.wp callbacks (fun _ => True) (serve_request ops session)
      (Loop.After Unconfirmed fun r w => Unconfirmed r.2 w) w := by
  apply serve_request_rule callbacks_idle (fun _ _ hun => hun) _ session w h
  intro request session w hun
  apply wp_mono (handle_spec ops request session w) fun _ _ => trivial
  intro r session' w' hhandled
  have hun' := hhandled.unconfirmed_kept hun
  exact ⟨hun', fun _ => hun'⟩

theorem client_unconfirmed (pid : Nat) (w w' : World) (h : w.context.confirmed = false)
    (hstep : callbacks w (.client pid) () w') : w'.context.confirmed = false := by
  obtain rfl : w' = w.set_client pid := hstep
  exact h

theorem finish_unconfirmed (result : Except Errno Unit) (h : Unconfirmed session w) :
    Prog.wp callbacks (fun _ => True) (finish result session)
      (fun _ w' => w'.context.confirmed = false) w := by
  unfold finish restore_session
  rw [h.unsaved, if_neg (by decide), Prog.wp_bind]
  show Prog.wp _ _ ((forget_client session).bind _) _ w
  rw [Prog.wp_bind]
  exact forget_client_rule callbacks_idle client_unconfirmed session h.flag

/-- A holder that is unconfirmed between two connections answers no READ of
    any later one. -/
theorem unconfirmed_forever (h : Connected callbacks ops w w')
    (hun : w.context.confirmed = false) :
    w'.context.confirmed = false ∧ ∀ w₁ session w₂,
      Prog.Runs callbacks authenticate w' (some (.ok ())) w₁ →
      Loop.Heads callbacks (serve_request ops) {} w₁ session w₂ →
      ∀ request, ReadFrame ops.profile request →
        ¬ Answered (cs_callbacks E) ops request session w₂ := by
  have hun' : w'.context.confirmed = false := by
    induction h with
    | opened => exact hun
    | next _ hserves _ ih =>
      apply Serves.post (authenticate_rule callbacks_idle client_unconfirmed ih) _ _ (serve_request_unconfirmed ops)
        (fun result _ _ => finish_unconfirmed result) hserves
      · intro w₁ hflag
        exact hflag
      · intro w₁ hflag
        exact ⟨⟨hflag, rfl⟩, hflag, rfl⟩
  refine ⟨hun', ?_⟩
  intro w₁ session w₂ hauth hheads request hread
  have hflag := Prog.wp_runs (authenticate_rule callbacks_idle client_unconfirmed hun') hauth
  have hhead : Unconfirmed session w₂ :=
    hheads.invariant (serve_request_unconfirmed ops) ⟨hflag, rfl⟩
  have hstep : cs_callbacks E w₂ .confirmed false w₂ := ⟨hhead.flag.symm, rfl⟩
  exact not_answered hread hstep

end cs201x

/-! ## The GPIO backend -/

section gpio

variable {σ : Type} {E : Env Gpio.gpio_io σ} {ops : Ops} {request : Request} {session : Session}

/-- The holder's context and its machine. -/
structure GpioWorld (σ : Type) where
  context : Gpio.Context
  machine : σ

/-- A GPIO holder on a machine `E`.  What APPLY does, it does to the
    machine; there are no identify callbacks. -/
def gpio_callbacks (E : Env Gpio.gpio_io σ) : Env service (GpioWorld σ)
  | w, .confirmed, b, w' =>
    ∃ r s, Proc.Runs E (Gpio.verify w.context) () w.machine r () s ∧
      b = succeeded r ∧ w' = ⟨w.context, s⟩
  | w, .read id, r, w' =>
    ∃ s, Proc.Runs E (Gpio.read w.context id) () w.machine r () s ∧ w' = ⟨w.context, s⟩
  | w, .apply _ _, _, w' => w'.context = w.context
  | w, .client pid, _, w' => w' = ⟨Gpio.set_client w.context pid, w.machine⟩
  | w, _, _, w' => w' = w

/-- A moment at which looking at the machine does not change it. -/
def Still (E : Env Gpio.gpio_io σ) (s : σ) : Prop := ∀ o b s', E s o b s' → s' = s

/-- A read that is bound to succeed starts with a verification that is. -/
theorem verify_succeeds {c : Gpio.Context} {id : Nat} {s : σ}
    (h : Succeeds E (Gpio.read c id) () s) : Succeeds E (Gpio.verify c) () s := by
  unfold Gpio.read at h
  cases hindex : Gpio.target_index c id with
  | none =>
    rw [hindex] at h
    obtain ⟨⟨value, c', s', hrun⟩, -⟩ := h
    cases hrun
  | some index =>
    rw [hindex] at h
    exact h.first

/-- The GPIO backend answers a READ whenever it can, whatever its context
    has been through. -/
theorem gpio_answered (hread : ReadFrame ops.profile request) {w : GpioWorld σ}
    (hstill : Still E w.machine) (hsucceeds : Succeeds E (Gpio.read w.context request.id) () w.machine) :
    Answered (gpio_callbacks E) ops request session w := by
  have hsame : ∀ s o b s', E s o b s' → s = w.machine → s' = w.machine := by
    intro s o b s' hstep heq
    rw [heq] at hstep
    exact hstill o b s' hstep
  obtain ⟨⟨u, c₁, s₁, hverify⟩, hverified⟩ := verify_succeeds hsucceeds
  refine answered hread ⟨true, ⟨w.context, s₁⟩, .ok u, s₁, hverify, rfl, rfl⟩ ?_
  intro b w₁ hstep
  obtain ⟨r, s, hrun, rfl, rfl⟩ := hstep
  obtain ⟨u', rfl⟩ := hverified r () s hrun
  have hback : s = w.machine := hrun.preserves hsame rfl
  subst hback
  refine ⟨rfl, ?_, ?_⟩
  · obtain ⟨⟨value, c₂, s₂, hvalue⟩, -⟩ := hsucceeds
    exact ⟨.ok value, ⟨w.context, s₂⟩, s₂, hvalue, rfl⟩
  · intro r w₂ hstep
    obtain ⟨s₂, hvalue, -⟩ := hstep
    exact hsucceeds.2 r () s₂ hvalue

end gpio

/-! ## A READ that can be answered -/

section law

open Cs201x

variable {ops : Ops} {request : Request} {session : Session}

theorem confirming_kept (w : World) (o : ServiceOp) (b : o.Ans) (w' : World)
    (h : confirming w o b w') (_ : w.context.confirmed = true) : w'.context.confirmed = true :=
  h.2

/-- A well-formed READ that arrives when the guard and the snapshot would
    succeed is answered exactly if the context is confirmed, and so it is
    in every run of a holder whose callbacks leave it confirmed.  The GPIO
    backend always answers it. -/
theorem read_answered (hread : ReadFrame ops.profile request) :
    (∀ {a takeover_flow d₀ d c w w₁ session w' E},
      Prog.Runs access (open_context a true takeover_flow) d₀ (.ok c) d →
      Connected confirming ops (World.start c d) w →
      Prog.Runs confirming authenticate w (some (.ok ())) w₁ →
      Loop.Heads confirming (serve_request ops) {} w₁ session w' →
      Succeeds E (Cs201x.read request.id) w'.context w'.device →
      Answered (cs_callbacks E) ops request session w') ∧
    (∀ E session w, Succeeds E (Cs201x.read request.id) w.context w.device →
      (Answered (cs_callbacks E) ops request session w ↔ w.context.confirmed = true)) ∧
    ∀ {σ} (E : Env Gpio.gpio_io σ) session w, Still E w.machine →
      Succeeds E (Gpio.read w.context request.id) () w.machine →
      Answered (gpio_callbacks E) ops request session w := by
  refine ⟨?_, ?_, ?_⟩
  · intro a takeover_flow d₀ d c w w₁ session w' E hopen hconnected hauth hheads hsucceeds
    have hstart := open_context_confirms hopen
    have hrest : w.context.confirmed = true := hconnected.preserves confirming_kept hstart
    have hpeer := hauth.preserves confirming_kept hrest
    exact (cs_answered_iff hread hsucceeds).mpr (hheads.preserves confirming_kept hpeer)
  · intro E session w hsucceeds
    exact cs_answered_iff hread hsucceeds
  · intro σ E session w hstill hsucceeds
    exact gpio_answered hread hstill hsucceeds

/-- The frame of a READ of the power LED. -/
def read_frame : Request := stamp (read_request 0)

theorem read_frame_ok : ReadFrame gt_ops.profile read_frame :=
  ⟨by decide, rfl, by decide, by decide⟩

/-- A holder that has just opened answers its first READ. -/
theorem read_answered_first : ∃ c d,
    Prog.Runs access (open_context ⟨true, true⟩ true false) gt_device (.ok c) d ∧
      Answered (cs_callbacks (steady gt_identity)) gt_ops read_frame {}
        ((World.start c d).set_client 1) := by
  obtain ⟨c, d, hopen, hfits, hquiet, -, hconfirmed⟩ :=
    can_open_context (show is_exact gt_identity = true by decide) gt_answers rfl gt_valid false
  have hfits₁ : Fits gt_identity ((World.start c d).set_client 1).context d :=
    ⟨hfits.exact_machine, hfits.answers, hfits.bound, hfits.base, hfits.same⟩
  have hvalid : valid_raw (d.raw 0) = true := by
    rw [hquiet.raw]
    decide
  have hreads := (can_read hfits₁ (show 0 < 4 by decide) hquiet.flow hvalid).succeeds
  exact ⟨c, d, hopen, ((read_answered read_frame_ok).2.1 (steady gt_identity) {}
    ((World.start c d).set_client 1) hreads).mpr hconfirmed⟩

/-- The pass in which a READ fails. -/
theorem read_fails {w w' : World} {e : Failure} (hconfirmed : w.context.confirmed = true)
    (hread : callbacks w (.read 0) (.error e) w') (he : e.errno ≠ .EPROTO) :
    Prog.Runs callbacks (serve_request gt_ops {}) w (.inl {}) w' := by
  have hsteps : Proc.Runs callbacks (handle gt_ops read_frame) {} w (.error e) {} w' := by
    rw [read_frame_ok.handle_eq]
    exact @Prog.Runs.op service _ _ callbacks .confirmed _ w w w' true _ ⟨hconfirmed.symm, rfl⟩
      (@Prog.Runs.op service _ _ callbacks (.read 0) _ w w' w' (.error e) _ hread .pure)
  have hanswer : Prog.Runs callbacks (answer gt_ops read_frame {}) w (.inl {}) w' := by
    refine Prog.Runs.bind hsteps (Prog.Runs.bind (@runs_perform _ _ .confirmed _ w' w' ⟨rfl, rfl⟩)
      (Prog.Runs.bind (@runs_perform _ _ (.send _) (.ok ()) w' w' rfl) ?_))
    have hgoes : after_response (.error e) {} = .inl {} := by
      simp [after_response, he]
    show Prog.Runs callbacks (.pure (after_response (.error e) {})) w' _ w'
    rw [hgoes]
    exact .pure
  exact Prog.Runs.bind (@runs_perform _ _ .stopped false w w rfl)
    (Prog.Runs.bind (@runs_perform _ _ .receive (.ok read_frame) w w rfl) hanswer)

/-- Detection fails once, during a READ: the next one is refused on a
    machine that nothing is wrong with any more. -/
theorem holder_wedged : ∃ c d w₁ session w',
    Prog.Runs access (open_context ⟨true, true⟩ true false) gt_device (.ok c) d ∧
      Prog.Runs callbacks authenticate (World.start c d) (some (.ok ())) w₁ ∧
      Loop.Heads callbacks (serve_request gt_ops) {} w₁ session w' ∧
      Succeeds (steady gt_identity) (Cs201x.read 0) w'.context w'.device ∧
      ¬ Answered (cs_callbacks (steady gt_identity)) gt_ops read_frame session w' := by
  obtain ⟨c, d, hopen, hfits, hquiet, -, hconfirmed⟩ :=
    can_open_context (show is_exact gt_identity = true by decide) gt_answers rfl gt_valid false
  let w₁ := (World.start c d).set_client 1
  have hvalid : valid_raw (d.raw 0) = true := by
    rw [hquiet.raw]
    decide
  -- the first READ cannot detect the machine
  have hlost : Lost Errno.EIO (Cs201x.read 0) (fun c' d' => c' = unconfirmed w₁.context ∧ d' = d)
      w₁.context d := (lost_snapshot (by decide)).first
  obtain ⟨_, c₂, d₂, hrun, ⟨e, rfl, he⟩, rfl, rfl⟩ := hlost
  obtain ⟨log, hlogged⟩ := Prog.Runs.to_logged hrun []
  let w₂ := w₁.after (unconfirmed w₁.context) d₂ log
  have hread : callbacks w₁ (.read 0) (.error e) w₂ := ⟨_, _, log, hlogged, rfl⟩
  have hproto : e.errno ≠ .EPROTO := by
    rw [he]
    decide
  have hfits₂ : Fits gt_identity w₂.context d₂ :=
    ⟨hfits.exact_machine, hfits.answers, hfits.bound, hfits.base, hfits.same⟩
  have hstep : cs_callbacks (steady gt_identity) w₂ .confirmed false w₂ := ⟨rfl, rfl⟩
  exact ⟨c, d₂, w₁, {}, w₂, hopen, runs_authenticate _,
    .step .refl (read_fails hconfirmed hread hproto),
    (can_read hfits₂ (by decide) hquiet.flow hvalid).succeeds, not_answered read_frame_ok hstep⟩

end law

end UgreenNas.Led.Service
