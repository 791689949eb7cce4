import UgreenNas.Effect.Loop
import UgreenNas.Effect.Proc
import UgreenNas.Led.Service.Protocol

/-! # One connection of the holder (`led/led_service.c`)

    `serve_connection` and what it calls.  The backend is behind the
    callbacks of `struct service_ops`; the socket, its peer and the stop
    flag are operations as well, so that a disconnect, a timeout or a stop
    can come at any of them.
-/

namespace UgreenNas.Led.Service

open Effect Effect.Proc

/-! ## Operations -/

inductive ServiceOp where
  /-- The authenticated peer: its process id, if it is root's. -/
  | peer
  | timeout
  | stopped
  | receive
  | send (response : Response)
  | confirmed
  | read (id : Nat)
  | apply (id : Nat) (patch : Patch)
  | client (pid : Nat)
  | begin_identify (id : Nat)
  | end_identify (id : Nat)

@[reducible] def ServiceOp.Ans : ServiceOp → Type
  | .peer => Option Nat
  | .timeout => Except Errno Unit
  | .stopped => Bool
  | .receive => Except Errno Request
  | .send _ => Except Errno Unit
  | .confirmed => Bool
  | .read _ => Except Failure Value
  | .apply _ _ => Except Failure Value
  | .client _ => Unit
  | .begin_identify _ => Except Failure Unit
  | .end_identify _ => Except Failure Unit

abbrev service : Sig := ⟨ServiceOp, ServiceOp.Ans⟩

/-- `struct service_ops`: whose LEDs they are, and whether the two identify
    callbacks are there.  The other callbacks always are. -/
structure Ops where
  profile : Profile
  identify : Bool

/-- `struct connection_state` -/
structure Session where
  saved : Bool := false
  restore_failed : Bool := false
  saved_id : Nat := 0
  deriving DecidableEq

/-- One operation. -/
def perform (o : ServiceOp) : Prog service o.Ans := @Prog.call service o

theorem runs_perform {σ : Type} {E : Env service σ} {o : ServiceOp} {b : o.Ans} {s s' : σ}
    (h : E s o b s') : Prog.Runs E (perform o) s b s' := .op h .pure

/-! ## Requests -/

abbrev Handler (α : Type) : Type := Proc service Session Failure α

def call (o : ServiceOp) : Handler o.Ans := @ask service Session Failure o

/-- `result = -errno;` without a report. -/
def silently (errno : Errno) : Failure := ⟨errno, .silent⟩

/-- BEGIN failed with `e`: take back what it may have done. -/
def recover_begin (id : Nat) (e : Failure) : Handler Value := do
  let restored ← call (.end_identify id)
  match restored with
  | .ok () => fail e
  | .error e' =>
    -- the service takes this one to mean that no snapshot was taken
    if e'.errno = .ENOENT then
      fail e
    else do
      update fun _ => { saved := true, saved_id := id, restore_failed := true }
      fail ⟨e.errno, .identify_start_failed e'.report⟩

def handle_begin (id : Nat) : Handler Value := do
  let session ← ctx
  bail (session.saved = true) (silently .EBUSY)
  let r ← call (.begin_identify id)
  match r with
  | .ok () => do
    update fun session => { session with saved := true, saved_id := id }
    pure {}
  | .error e => recover_begin id e

def handle_end (id : Nat) : Handler Value := do
  let session ← ctx
  bail (session.saved = false ∨ id ≠ session.saved_id) (silently .EINVAL)
  let r ← call (.end_identify id)
  match r with
  | .ok () => do
    update fun session => { session with saved := false }
    pure {}
  | .error e => do
    update fun session => { session with restore_failed := true }
    fail e

/-- The profile has an LED with this id. -/
def Present (profile : Profile) (id : Nat) : Prop := ∃ led ∈ profile.leds, led.id = id

instance (profile : Profile) (id : Nat) : Decidable (Present profile id) := by
  unfold Present
  infer_instance

def handle_identify (ops : Ops) (request : Request) : Handler Value := do
  bail (¬ request.ZeroFrom 4 (some 13)) (silently .EPROTO)
  bail (request.word 13 ≠ ACKNOWLEDGED) (silently .EPERM)
  bail (ops.identify = false) (silently .ENOTSUP)
  if request.opcode = BEGIN_IDENTIFY then do
    bail (¬ Present ops.profile request.id) (silently .ENOTSUP)
    handle_begin request.id
  else
    handle_end request.id

def handle_read (request : Request) : Handler Value := do
  bail (¬ request.ZeroFrom 4 none) (silently .EPROTO)
  let r ← call (.read request.id)
  lift r

def handle_apply (request : Request) : Handler Value := do
  bail (request.word 13 ≠ ACKNOWLEDGED) (silently .EPERM)
  let session ← ctx
  bail (session.saved = true) (silently .EBUSY)
  lift (validate_patch request.patch)
  let r ← call (.apply request.id request.patch)
  lift r

def handle_info (request : Request) : Handler Value := do
  bail (¬ request.ZeroFrom 3 none) (silently .EPROTO)
  pure {}

def handle_opcode (ops : Ops) (request : Request) : Handler Value :=
  if request.opcode = INFO then handle_info request
  else if request.opcode = READ then handle_read request
  else if request.opcode = BEGIN_IDENTIFY ∨ request.opcode = END_IDENTIFY then
    handle_identify ops request
  else if request.opcode = APPLY then handle_apply request
  else fail (silently .EINVAL)

/-- The part of `serve_requests` between the two transfers. -/
def handle (ops : Ops) (request : Request) : Handler Value := do
  bail (¬ request.HeaderOk) (silently .EPROTO)
  let confirmed ← call .confirmed
  bail (confirmed = false) (silently .ENOTSUP)
  handle_opcode ops request

/-! ## Connections -/

/-- `return`s of `serve_requests` after a response has been sent. -/
def after_response (result : Except Failure Value) (session : Session) :
    Session ⊕ (Except Errno Unit × Session) :=
  match result with
  | .error e =>
    if e.errno = .EPROTO ∨ session.restore_failed then .inr (.error e.errno, session)
    else .inl session
  | .ok _ => if session.restore_failed then .inr (.error Errno.EIO, session) else .inl session

/-- Handle one request and answer it. -/
def answer (ops : Ops) (request : Request) (session : Session) :
    Prog service (Session ⊕ (Except Errno Unit × Session)) :=
  ((handle ops request).run session).bind fun r =>
    (perform .confirmed).bind fun (confirmed : Bool) =>
      (perform (.send (respond ops.profile r.1 confirmed))).bind
        fun (sent : Except Errno Unit) =>
          match sent with
          | .error _ => .pure (.inr (.error .EPIPE, r.2))
          | .ok () => .pure (after_response r.1 r.2)

/-- A frame that did not arrive ends the connection; a peer that closed it
    has done nothing wrong. -/
def lost (errno : Errno) : Except Errno Unit :=
  if errno = .ECONNRESET then .ok () else .error errno

/-- One pass of the loop of `serve_requests`. -/
def serve_request (ops : Ops) : Body service Session (Except Errno Unit × Session) := fun session =>
  (perform .stopped).bind fun (stop : Bool) =>
    if stop then .pure (.inr (.ok (), session))
    else (perform .receive).bind fun (frame : Except Errno Request) =>
      match frame with
      | .error errno => .pure (.inr (lost errno, session))
      | .ok request => answer ops request session

/-- Authenticate the peer and set the socket's timeouts: `none` if the peer
    is refused. -/
def authenticate : Prog service (Option (Except Errno Unit)) :=
  (perform .peer).bind fun (peer : Option Nat) =>
    match peer with
    | none => .pure none
    | some pid =>
      (perform (.client pid)).bind fun _ =>
        (perform .timeout).bind fun (r : Except Errno Unit) => .pure (some r)

/-- How a connection ends: its result and `*restore_failed`. -/
structure Outcome where
  result : Except Errno Unit
  restore_failed : Bool

/-- The peer is forgotten, unless the holder is going down. -/
def forget_client (session : Session) : Prog service Unit :=
  if session.restore_failed then .pure ()
  else (perform .stopped).bind fun (stop : Bool) =>
    if stop then .pure () else perform (.client 0)

/-- A session that still has an identify saved is restored. -/
def restore_session (result : Except Errno Unit) (session : Session) :
    Prog service (Except Errno Unit × Session) :=
  if session.saved then
    (perform (.end_identify session.saved_id)).bind
      fun (restored : Except Failure Unit) =>
        match restored with
        | .error e => .pure (.error e.errno, { session with restore_failed := true })
        | .ok () => .pure (result, session)
  else
    .pure (result, session)

/-- The part of `serve_connection` after `serve_requests`. -/
def finish (result : Except Errno Unit) (session : Session) : Prog service Outcome :=
  (restore_session result session).bind fun r =>
    (forget_client r.2).bind fun _ => .pure ⟨r.1, r.2.restore_failed⟩

/-- `serve_connection`, and the session it ends with. -/
inductive Serves {σ : Type} (E : Env service σ) (ops : Ops) (s : σ) : Outcome → σ → Prop where
  | refused {s' : σ} : Prog.Runs E authenticate s none s' → Serves E ops s ⟨.error .EPERM, false⟩ s'
  | untimed {errno : Errno} {s₁ s' : σ} {out : Outcome} :
      Prog.Runs E authenticate s (some (.error errno)) s₁ →
      Prog.Runs E (finish (.error errno) {}) s₁ out s' → Serves E ops s out s'
  | served {result : Except Errno Unit} {session : Session} {s₁ s₂ s' : σ} {out : Outcome} :
      Prog.Runs E authenticate s (some (.ok ())) s₁ →
      Loop.Runs E (serve_request ops) {} s₁ (result, session) s₂ →
      Prog.Runs E (finish result session) s₂ out s' → Serves E ops s out s'

/-- What a connection keeps to: `A` once the peer is known, `H` at the head
    of the loop, `L` after it. -/
theorem Serves.post {σ : Type} {E : Env service σ} {ops : Ops} {s s' : σ} {out : Outcome}
    {A : σ → Prop} {H L : Session → σ → Prop} {Q : Outcome → σ → Prop}
    (hauth : Prog.wp E (fun _ => True) authenticate (fun _ s₁ => A s₁) s)
    (hrefused : ∀ s₁, A s₁ → Q ⟨.error .EPERM, false⟩ s₁)
    (hentry : ∀ s₁, A s₁ → H {} s₁ ∧ L {} s₁)
    (hpass : ∀ session s₁, H session s₁ → Prog.wp E (fun _ => True) (serve_request ops session)
      (Loop.After H fun r s₂ => L r.2 s₂) s₁)
    (hfinish : ∀ result session s₁, L session s₁ →
      Prog.wp E (fun _ => True) (finish result session) Q s₁)
    (h : Serves E ops s out s') : Q out s' := by
  cases h with
  | refused hpeer => exact hrefused _ (Prog.wp_runs hauth hpeer)
  | untimed hpeer hrest =>
    have hleft := (hentry _ (Prog.wp_runs hauth hpeer)).2
    exact Prog.wp_runs (hfinish _ _ _ hleft) hrest
  | served hpeer hloop hrest =>
    have hhead := (hentry _ (Prog.wp_runs hauth hpeer)).1
    have hleft := hloop.post hpass hhead
    exact Prog.wp_runs (hfinish _ _ _ hleft) hrest

/-- What every operation preserves, a connection preserves. -/
theorem Serves.preserves {σ : Type} {E : Env service σ} {I : σ → Prop}
    (hE : ∀ s o b s', E s o b s' → I s → I s') {ops : Ops} {s s' : σ} {out : Outcome}
    (h : Serves E ops s out s') (hs : I s) : I s' := by
  cases h with
  | refused hpeer => exact hpeer.preserves hE hs
  | untimed hpeer hrest => exact hrest.preserves hE (hpeer.preserves hE hs)
  | served hpeer hloop hrest =>
    obtain ⟨b, s₁, hheads, hlast⟩ := hloop
    have hhead := hheads.preserves hE (hpeer.preserves hE hs)
    exact hrest.preserves hE (hlast.preserves hE hhead)

/-! ## Passes -/

/-- The operations on the socket, and the questions that change nothing. -/
def ServiceOp.idle : ServiceOp → Bool
  | .peer | .timeout | .stopped | .receive | .send _ | .confirmed => true
  | _ => false

section passes

variable {σ : Type} {E : Env service σ} {ops : Ops} {s : σ}

theorem after_response_head {r : Except Failure Value} {session session' : Session}
    (h : after_response r session = .inl session') :
    session' = session ∧ session.restore_failed = false := by
  cases hfailed : session.restore_failed with
  | true => cases r <;> simp [after_response, hfailed] at h
  | false =>
    refine ⟨?_, rfl⟩
    cases r with
    | ok value =>
      simp [after_response, hfailed] at h
      exact h.symm
    | error e =>
      by_cases hproto : e.errno = .EPROTO
      · simp [after_response, hproto] at h
      · simp [after_response, hproto, hfailed] at h
        exact h.symm

theorem after_response_leaving {r : Except Failure Value} {session : Session}
    {leaving : Except Errno Unit × Session} (h : after_response r session = .inr leaving) :
    leaving.2 = session := by
  cases r with
  | ok value =>
    simp only [after_response] at h
    split at h
    · cases h; rfl
    · cases h
  | error e =>
    simp only [after_response] at h
    split at h
    · cases h; rfl
    · cases h

/-- The rule for a pass: `H` holds at the head of the loop, `L` once it has
    been left, and it is for `handle` to keep to them. -/
theorem serve_request_rule {H L : Session → σ → Prop}
    (hidle : ∀ s o b s', o.idle = true → E s o b s' → s' = s)
    (hleave : ∀ session s, H session s → L session s)
    (hhandle : ∀ request session s, H session s →
      wp E (fun _ => True) (handle ops request) (fun _ session' s' => L session' s' ∧
        (session'.restore_failed = false → H session' s')) session s)
    (session : Session) (s : σ) (h : H session s) :
    Prog.wp E (fun _ => True) (serve_request ops session)
      (Loop.After H fun r s' => L r.2 s') s := by
  unfold serve_request
  rw [Prog.wp_bind]
  intro stop s₁ hstop
  obtain rfl := hidle s .stopped stop s₁ rfl hstop
  refine ⟨trivial, ?_⟩
  cases stop with
  | true => exact hleave session s₁ h
  | false =>
    show Prog.wp _ _ ((perform .receive).bind _) _ s₁
    rw [Prog.wp_bind]
    intro frame s₂ hreceive
    obtain rfl := hidle s₁ .receive frame s₂ rfl hreceive
    refine ⟨trivial, ?_⟩
    cases frame with
    | error e => exact hleave session s₂ h
    | ok request =>
      show Prog.wp _ _ (answer ops request session) _ s₂
      unfold answer
      rw [Prog.wp_bind, wp_run]
      apply wp_mono (hhandle request session s₂ h) fun _ _ => trivial
      intro r session₁ s₃ hhandled
      obtain ⟨hL, hH⟩ := hhandled
      show Prog.wp _ _ ((perform .confirmed).bind _) _ s₃
      rw [Prog.wp_bind]
      intro confirmed s₄ hconfirmed
      obtain rfl := hidle s₃ .confirmed confirmed s₄ rfl hconfirmed
      refine ⟨trivial, ?_⟩
      show Prog.wp _ _ ((perform (.send _)).bind _) _ s₄
      rw [Prog.wp_bind]
      intro sent s₅ hsend
      obtain rfl := hidle s₄ (.send _) sent s₅ rfl hsend
      refine ⟨trivial, ?_⟩
      cases sent with
      | error e => exact hL
      | ok u =>
        show Loop.After _ _ (after_response r session₁) s₅
        cases hafter : after_response r session₁ with
        | inl session₂ =>
          obtain ⟨rfl, hnormal⟩ := after_response_head hafter
          exact hH hnormal
        | inr leaving =>
          show L leaving.2 s₅
          rw [after_response_leaving hafter]
          exact hL

/-- The rule for the way in. -/
theorem authenticate_rule {A : σ → Prop} (hidle : ∀ s o b s', o.idle = true → E s o b s' → s' = s)
    (hclient : ∀ pid s s', A s → E s (.client pid) () s' → A s') (h : A s) :
    Prog.wp E (fun _ => True) authenticate (fun _ s' => A s') s := by
  unfold authenticate
  rw [Prog.wp_bind]
  intro peer s₁ hpeer
  obtain rfl := hidle s .peer peer s₁ rfl hpeer
  refine ⟨trivial, ?_⟩
  cases peer with
  | none => exact h
  | some pid =>
    intro _ s₂ hstep
    have hA := hclient pid s₁ s₂ h hstep
    refine ⟨trivial, ?_⟩
    intro r s₃ htimeout
    obtain rfl := hidle s₂ .timeout r s₃ rfl htimeout
    exact ⟨trivial, hA⟩

/-- The rule for forgetting the peer. -/
theorem forget_client_rule {A : σ → Prop} (hidle : ∀ s o b s', o.idle = true → E s o b s' → s' = s)
    (hclient : ∀ pid s s', A s → E s (.client pid) () s' → A s') (session : Session) (h : A s) :
    Prog.wp E (fun _ => True) (forget_client session) (fun _ s' => A s') s := by
  unfold forget_client
  split
  · exact h
  · rw [Prog.wp_bind]
    intro stop s₁ hstop
    obtain rfl := hidle s .stopped stop s₁ rfl hstop
    refine ⟨trivial, ?_⟩
    cases stop with
    | true => exact h
    | false =>
      intro _ s₂ hstep
      exact ⟨trivial, hclient 0 s₁ s₂ h hstep⟩

end passes

/-! ## Legal frames -/

/-- The APPLY frames that are let through to the backend. -/
structure LegalApply (request : Request) (session : Session) : Prop where
  header : request.HeaderOk
  opcode : request.opcode = APPLY
  acknowledged : request.word 13 = ACKNOWLEDGED
  unsaved : session.saved = false
  valid : validate_patch request.patch = .ok ()

structure LegalBegin (profile : Profile) (request : Request) (session : Session) : Prop where
  header : request.HeaderOk
  opcode : request.opcode = BEGIN_IDENTIFY
  zero : request.ZeroFrom 4 (some 13)
  acknowledged : request.word 13 = ACKNOWLEDGED
  present : Present profile request.id
  unsaved : session.saved = false

/-- An END for the LED that the session has saved. -/
structure MatchingEnd (request : Request) (session : Session) : Prop where
  header : request.HeaderOk
  opcode : request.opcode = END_IDENTIFY
  zero : request.ZeroFrom 4 (some 13)
  acknowledged : request.word 13 = ACKNOWLEDGED
  saved : session.saved = true
  id : request.id = session.saved_id

/-! ## Everything a request can do -/

/-- The ways `handle` can go in an environment `E`. -/
inductive Handled {σ : Type} (E : Env service σ) (ops : Ops) (request : Request)
    (session : Session) (s : σ) : Except Failure Value → Session → σ → Prop where
  | malformed : ¬ request.HeaderOk → Handled E ops request session s (.error (silently .EPROTO)) session s
  | unconfirmed {s' : σ} : request.HeaderOk → E s .confirmed false s' →
      Handled E ops request session s (.error (silently .ENOTSUP)) session s'
  | refused {e : Failure} {s' : σ} : request.HeaderOk → E s .confirmed true s' →
      ¬ LegalApply request session → ¬ (ops.identify = true ∧ LegalBegin ops.profile request session) →
      Handled E ops request session s (.error e) session s'
  | info {s' : σ} : request.HeaderOk → E s .confirmed true s' → request.opcode = INFO →
      Handled E ops request session s (.ok {}) session s'
  | read {r : Except Failure Value} {s₁ s' : σ} : request.HeaderOk → E s .confirmed true s₁ →
      request.opcode = READ → request.ZeroFrom 4 none → E s₁ (.read request.id) r s' →
      Handled E ops request session s r session s'
  | apply {r : Except Failure Value} {s₁ s' : σ} : LegalApply request session →
      E s .confirmed true s₁ → E s₁ (.apply request.id request.patch) r s' →
      Handled E ops request session s r session s'
  | begun {s₁ s' : σ} : ops.identify = true → LegalBegin ops.profile request session →
      E s .confirmed true s₁ → E s₁ (.begin_identify request.id) (.ok ()) s' →
      Handled E ops request session s (.ok {})
        { session with saved := true, saved_id := request.id } s'
  | undone {e : Failure} {r : Except Failure Unit} {s₁ s₂ s' : σ} : ops.identify = true →
      LegalBegin ops.profile request session → E s .confirmed true s₁ →
      E s₁ (.begin_identify request.id) (.error e) s₂ →
      E s₂ (.end_identify request.id) r s' →
      (∀ e', r = .error e' → e'.errno = .ENOENT) →
      Handled E ops request session s (.error e) session s'
  | stuck {e e' : Failure} {s₁ s₂ s' : σ} : ops.identify = true →
      LegalBegin ops.profile request session → E s .confirmed true s₁ →
      E s₁ (.begin_identify request.id) (.error e) s₂ →
      E s₂ (.end_identify request.id) (.error e') s' → e'.errno ≠ .ENOENT →
      Handled E ops request session s (.error ⟨e.errno, .identify_start_failed e'.report⟩)
        { saved := true, saved_id := request.id, restore_failed := true } s'
  | ended {s₁ s' : σ} : MatchingEnd request session → E s .confirmed true s₁ →
      E s₁ (.end_identify request.id) (.ok ()) s' →
      Handled E ops request session s (.ok {}) { session with saved := false } s'
  | end_failed {e : Failure} {s₁ s' : σ} : MatchingEnd request session →
      E s .confirmed true s₁ → E s₁ (.end_identify request.id) (.error e) s' →
      Handled E ops request session s (.error e) { session with restore_failed := true } s'

section handled

variable {σ : Type} {E : Env service σ} {ops : Ops} {request : Request} {session : Session}
  {s s₁ : σ}

theorem wp_call (o : ServiceOp) (I : σ → Prop) (Q : Except Failure o.Ans → Session → σ → Prop) :
    wp E I (call o) Q session s ↔ ∀ b s', E s o b s' → I s' ∧ Q (.ok b) session s' := Iff.rfl

theorem handle_info_spec (hheader : request.HeaderOk) (hconfirmed : E s .confirmed true s₁)
    (hopcode : request.opcode = INFO) :
    wp E (fun _ => True) (handle_info request) (Handled E ops request session s) session s₁ := by
  have hother : request.opcode ≠ APPLY ∧ request.opcode ≠ BEGIN_IDENTIFY := by
    rw [hopcode]
    decide
  unfold handle_info
  rw [wp_bind, wp_bail]
  constructor
  · intro _
    exact .refused hheader hconfirmed (fun h => hother.1 h.opcode) fun h => hother.2 h.2.opcode
  · intro _
    exact .info hheader hconfirmed hopcode

theorem handle_read_spec (hheader : request.HeaderOk) (hconfirmed : E s .confirmed true s₁)
    (hopcode : request.opcode = READ) :
    wp E (fun _ => True) (handle_read request) (Handled E ops request session s) session s₁ := by
  have hother : request.opcode ≠ APPLY ∧ request.opcode ≠ BEGIN_IDENTIFY := by
    rw [hopcode]
    decide
  unfold handle_read
  rw [wp_bind, wp_bail]
  constructor
  · intro _
    exact .refused hheader hconfirmed (fun h => hother.1 h.opcode) fun h => hother.2 h.2.opcode
  · intro hzero
    show wp E _ (call (.read request.id) >>= lift) _ session s₁
    rw [wp_bind, wp_call]
    intro r s' hread
    exact ⟨trivial, .read hheader hconfirmed hopcode (not_not.mp hzero) hread⟩

theorem handle_apply_spec (hheader : request.HeaderOk) (hconfirmed : E s .confirmed true s₁)
    (hopcode : request.opcode = APPLY) :
    wp E (fun _ => True) (handle_apply request) (Handled E ops request session s) session s₁ := by
  have hrefused : ∀ e, ¬ LegalApply request session →
      Handled E ops request session s (.error e) session s₁ := by
    intro e hillegal
    refine .refused hheader hconfirmed hillegal fun h => ?_
    have hbegin := h.2.opcode
    rw [hopcode] at hbegin
    revert hbegin
    decide
  unfold handle_apply
  rw [wp_bind, wp_bail]
  refine ⟨fun hack => hrefused _ fun h => hack h.acknowledged, fun hack => ?_⟩
  show wp E _ (ctx >>= _) _ session s₁
  rw [wp_bind, wp_ctx]
  show wp E _ (bail _ _ >>= _) _ session s₁
  rw [wp_bind, wp_bail]
  constructor
  · intro hsaved
    refine hrefused _ fun h => ?_
    rw [h.unsaved] at hsaved
    cases hsaved
  intro hunsaved
  show wp E _ (lift _ >>= _) _ session s₁
  rw [wp_bind, wp_lift]
  cases hvalid : validate_patch request.patch with
  | error e =>
    refine hrefused e fun h => ?_
    have := h.valid
    rw [hvalid] at this
    cases this
  | ok u =>
    show wp E _ (call (.apply request.id request.patch) >>= lift) _ session s₁
    rw [wp_bind, wp_call]
    intro r s' happly
    have hlegal : LegalApply request session :=
      ⟨hheader, hopcode, not_ne_iff.mp hack, by simpa using hunsaved, hvalid⟩
    exact ⟨trivial, .apply hlegal hconfirmed happly⟩

theorem recover_begin_spec {e : Failure} {s₂ : σ} (hidentify : ops.identify = true)
    (hlegal : LegalBegin ops.profile request session) (hconfirmed : E s .confirmed true s₁)
    (hbegin : E s₁ (.begin_identify request.id) (.error e) s₂) :
    wp E (fun _ => True) (recover_begin request.id e) (Handled E ops request session s)
      session s₂ := by
  unfold recover_begin
  rw [wp_bind, wp_call]
  intro r s' hend
  refine ⟨trivial, ?_⟩
  cases r with
  | ok u => exact .undone hidentify hlegal hconfirmed hbegin hend nofun
  | error e' =>
    dsimp only
    by_cases henoent : e'.errno = .ENOENT
    · rw [if_pos henoent]
      refine .undone hidentify hlegal hconfirmed hbegin hend ?_
      rintro _ ⟨⟩
      exact henoent
    · rw [if_neg henoent]
      exact .stuck hidentify hlegal hconfirmed hbegin hend henoent

theorem handle_begin_spec (hidentify : ops.identify = true) (hheader : request.HeaderOk)
    (hconfirmed : E s .confirmed true s₁) (hopcode : request.opcode = BEGIN_IDENTIFY)
    (hzero : request.ZeroFrom 4 (some 13)) (hack : request.word 13 = ACKNOWLEDGED)
    (hpresent : Present ops.profile request.id) :
    wp E (fun _ => True) (handle_begin request.id) (Handled E ops request session s)
      session s₁ := by
  unfold handle_begin
  rw [wp_bind, wp_ctx]
  show wp E _ (bail _ _ >>= _) _ session s₁
  rw [wp_bind, wp_bail]
  constructor
  · intro hsaved
    refine .refused hheader hconfirmed (fun h => ?_) fun h => ?_
    · have happly := h.opcode
      rw [hopcode] at happly
      revert happly
      decide
    · have hunsaved := h.2.unsaved
      rw [hsaved] at hunsaved
      cases hunsaved
  intro hunsaved
  have hlegal : LegalBegin ops.profile request session :=
    ⟨hheader, hopcode, hzero, hack, hpresent, by simpa using hunsaved⟩
  show wp E _ (call (.begin_identify request.id) >>= _) _ session s₁
  rw [wp_bind, wp_call]
  intro r s' hbegin
  refine ⟨trivial, ?_⟩
  cases r with
  | ok u => exact .begun hidentify hlegal hconfirmed hbegin
  | error e => exact recover_begin_spec hidentify hlegal hconfirmed hbegin

theorem handle_end_spec (hheader : request.HeaderOk) (hconfirmed : E s .confirmed true s₁)
    (hopcode : request.opcode = END_IDENTIFY) (hzero : request.ZeroFrom 4 (some 13))
    (hack : request.word 13 = ACKNOWLEDGED) :
    wp E (fun _ => True) (handle_end request.id) (Handled E ops request session s)
      session s₁ := by
  have hother : request.opcode ≠ APPLY ∧ request.opcode ≠ BEGIN_IDENTIFY := by
    rw [hopcode]
    decide
  unfold handle_end
  rw [wp_bind, wp_ctx]
  show wp E _ (bail _ _ >>= _) _ session s₁
  rw [wp_bind, wp_bail]
  constructor
  · intro _
    exact .refused hheader hconfirmed (fun h => hother.1 h.opcode) fun h => hother.2 h.2.opcode
  intro hmatch
  rw [not_or] at hmatch
  have hlegal : MatchingEnd request session :=
    ⟨hheader, hopcode, hzero, hack, by simpa using hmatch.1, not_ne_iff.mp hmatch.2⟩
  show wp E _ (call (.end_identify request.id) >>= _) _ session s₁
  rw [wp_bind, wp_call]
  intro r s' hend
  refine ⟨trivial, ?_⟩
  cases r with
  | ok u => exact .ended hlegal hconfirmed hend
  | error e => exact .end_failed hlegal hconfirmed hend

theorem handle_identify_spec (hheader : request.HeaderOk) (hconfirmed : E s .confirmed true s₁)
    (hopcode : request.opcode = BEGIN_IDENTIFY ∨ request.opcode = END_IDENTIFY) :
    wp E (fun _ => True) (handle_identify ops request) (Handled E ops request session s)
      session s₁ := by
  have happly : ¬ LegalApply request session := by
    intro h
    rcases hopcode with hopcode | hopcode <;>
    · have happly := h.opcode
      rw [hopcode] at happly
      revert happly
      decide
  unfold handle_identify
  rw [wp_bind, wp_bail]
  refine ⟨fun hzero => .refused hheader hconfirmed happly fun h => hzero h.2.zero, fun hzero => ?_⟩
  show wp E _ (bail _ _ >>= _) _ session s₁
  rw [wp_bind, wp_bail]
  refine ⟨fun hack => .refused hheader hconfirmed happly fun h => hack h.2.acknowledged,
    fun hack => ?_⟩
  show wp E _ (bail _ _ >>= _) _ session s₁
  rw [wp_bind, wp_bail]
  constructor
  · intro hmissing
    refine .refused hheader hconfirmed happly fun h => ?_
    rw [hmissing] at h
    cases h.1
  intro hidentify
  have hidentify : ops.identify = true := by simpa using hidentify
  have hzero := not_not.mp hzero
  have hack := not_ne_iff.mp hack
  dsimp only
  by_cases hbegin : request.opcode = BEGIN_IDENTIFY
  · rw [if_pos hbegin, wp_bind, wp_bail]
    constructor
    · intro habsent
      exact .refused hheader hconfirmed happly fun h => habsent h.2.present
    · intro hpresent
      exact handle_begin_spec hidentify hheader hconfirmed hbegin hzero hack (not_not.mp hpresent)
  · rw [if_neg hbegin]
    exact handle_end_spec hheader hconfirmed (hopcode.resolve_left hbegin) hzero hack

/-- Every run of `handle` is one of the ways above. -/
theorem handle_spec (ops : Ops) (request : Request) (session : Session) (s : σ) :
    wp E (fun _ => True) (handle ops request) (Handled E ops request session s) session s := by
  unfold handle
  rw [wp_bind, wp_bail]
  refine ⟨.malformed, fun hheader => ?_⟩
  have hheader := not_not.mp hheader
  show wp E _ (call .confirmed >>= _) _ session s
  rw [wp_bind, wp_call]
  intro confirmed s₁ hconfirmed
  refine ⟨trivial, ?_⟩
  show wp E _ (bail _ _ >>= _) _ session s₁
  rw [wp_bind, wp_bail]
  cases confirmed with
  | false => exact ⟨fun _ => .unconfirmed hheader hconfirmed, fun h => absurd rfl h⟩
  | true =>
    refine ⟨nofun, fun _ => ?_⟩
    show wp E _ (handle_opcode ops request) _ session s₁
    unfold handle_opcode
    split
    · exact handle_info_spec hheader hconfirmed ‹_›
    split
    · exact handle_read_spec hheader hconfirmed ‹_›
    split
    · exact handle_identify_spec hheader hconfirmed ‹_›
    split
    · exact handle_apply_spec hheader hconfirmed ‹_›
    · rename_i hidentify happly
      rw [not_or] at hidentify
      exact .refused hheader hconfirmed (fun h => happly h.opcode)
        fun h => hidentify.1 h.2.opcode

end handled

end UgreenNas.Led.Service
