import UgreenNas.Led.Service.Serve

/-! # Which frames reach the hardware

    The callbacks of a connection, read off a log of everything it asked its
    environment for.  Nothing is assumed of the environment: the peer may
    send any frames, and the backend may answer anything.
-/

namespace UgreenNas.Led.Service

open Effect Effect.Proc

variable {σ : Type} {E : Env service σ} {ops : Ops} {request : Request} {session session' : Session}

abbrev Log : Type := List (Event service)

/-- The operation was asked for, whatever it answered. -/
def Asked (log : Log) (o : ServiceOp) : Prop := ∃ b, (⟨o, b⟩ : Event service) ∈ log

/-- The backend said that its hardware is confirmed. -/
def Confirmed (log : Log) : Prop := (⟨.confirmed, true⟩ : Event service) ∈ log

theorem asked_nil (o : ServiceOp) : ¬ Asked [] o := by
  rintro ⟨b, h⟩
  cases h

theorem asked_cons {event : Event service} {log : Log} {o : ServiceOp} :
    Asked (event :: log) o ↔ event.1 = o ∨ Asked log o := by
  constructor
  · rintro ⟨b, h⟩
    rcases List.mem_cons.mp h with rfl | h
    · exact .inl rfl
    · exact .inr ⟨b, h⟩
  · rintro (rfl | ⟨b, h⟩)
    · exact ⟨event.2, List.mem_cons_self⟩
    · exact ⟨b, List.mem_cons_of_mem _ h⟩

/-! ## One frame -/

section opcodes

theorem LegalApply.not_begin {profile : Profile} (h : LegalApply request session) :
    ¬ LegalBegin profile request session := by
  intro hbegin
  have hopcode := hbegin.opcode
  rw [h.opcode] at hopcode
  revert hopcode
  decide

theorem MatchingEnd.not_apply (h : MatchingEnd request session) : ¬ LegalApply request session := by
  intro happly
  have hsaved := happly.unsaved
  rw [h.saved] at hsaved
  cases hsaved

theorem MatchingEnd.not_begin {profile : Profile} (h : MatchingEnd request session) :
    ¬ LegalBegin profile request session := by
  intro hbegin
  have hsaved := hbegin.unsaved
  rw [h.saved] at hsaved
  cases hsaved

/-- INFO and READ frames are neither. -/
theorem not_legal_of_opcode {profile : Profile} (h : request.opcode = INFO ∨ request.opcode = READ) :
    ¬ LegalApply request session ∧ ¬ LegalBegin profile request session := by
  constructor <;>
  · intro hlegal
    have hopcode := hlegal.opcode
    rcases h with h | h <;>
    · rw [h] at hopcode
      revert hopcode
      decide

end opcodes

/-- What the log of one frame says. -/
structure FrameLaw (ops : Ops) (request : Request) (session : Session) (log : Log) : Prop where
  apply_iff : ∀ id patch, Asked log (.apply id patch) ↔
    (id = request.id ∧ patch = request.patch) ∧ LegalApply request session ∧ Confirmed log
  begin_iff : ∀ id, Asked log (.begin_identify id) ↔
    id = request.id ∧ ops.identify = true ∧ LegalBegin ops.profile request session ∧ Confirmed log
  end_only : ∀ id, Asked log (.end_identify id) →
    (id = request.id ∧ MatchingEnd request session) ∨
      ∃ before e b, log = before ++ [⟨.begin_identify id, .error e⟩, ⟨.end_identify id, b⟩]

/-- The steps of a logged environment, one event each. -/
theorem logged_step {s s' : σ × Log} {o : ServiceOp} {b : o.Ans} (h : E.logged s o b s') :
    s'.2 = s.2 ++ [⟨o, b⟩] := h.2

theorem frame_law {s s' : σ} {r : Except Failure Value} {log : Log}
    (h : Proc.Runs E.logged (handle ops request) session (s, []) r session' (s', log)) :
    FrameLaw ops request session log := by
  have hhandled := wp_runs (handle_spec ops request session (s, [])) h
  generalize hfinal : (s', log) = final at hhandled
  have hlog : log = final.2 := congrArg Prod.snd hfinal
  rw [hlog]
  clear hfinal hlog h
  cases hhandled with
  | malformed hheader =>
    refine ⟨fun id patch => ?_, fun id => ?_, fun id => ?_⟩
    · exact iff_of_false (asked_nil _) fun h => hheader h.2.1.header
    · exact iff_of_false (asked_nil _) fun h => hheader h.2.2.1.header
    · exact fun h => absurd h (asked_nil _)
  | unconfirmed hheader hconfirmed =>
    rw [logged_step hconfirmed]
    refine ⟨fun id patch => ?_, fun id => ?_, fun id => ?_⟩
    · simp [asked_cons, asked_nil, Confirmed]
    · simp [asked_cons, asked_nil, Confirmed]
    · simp [asked_cons, asked_nil]
  | refused hheader hconfirmed happly hbegin =>
    rw [logged_step hconfirmed]
    refine ⟨fun id patch => ?_, fun id => ?_, fun id => ?_⟩
    · simp [asked_cons, asked_nil, happly]
    · simp only [List.nil_append, asked_cons, asked_nil, or_false, reduceCtorEq, false_iff]
      exact fun h => hbegin ⟨h.2.1, h.2.2.1⟩
    · simp [asked_cons, asked_nil]
  | info hheader hconfirmed hopcode =>
    rw [logged_step hconfirmed]
    obtain ⟨happly, hbegin⟩ := @not_legal_of_opcode request session ops.profile (.inl hopcode)
    refine ⟨fun id patch => ?_, fun id => ?_, fun id => ?_⟩
    · simp [asked_cons, asked_nil, happly]
    · simp [asked_cons, asked_nil, hbegin]
    · simp [asked_cons, asked_nil]
  | read hheader hconfirmed hopcode hzero hread =>
    rw [logged_step hread, logged_step hconfirmed]
    obtain ⟨happly, hbegin⟩ := @not_legal_of_opcode request session ops.profile (.inr hopcode)
    refine ⟨fun id patch => ?_, fun id => ?_, fun id => ?_⟩
    · simp [asked_cons, asked_nil, happly]
    · simp [asked_cons, asked_nil, hbegin]
    · simp [asked_cons, asked_nil]
  | apply hlegal hconfirmed happly =>
    rw [logged_step happly, logged_step hconfirmed]
    refine ⟨fun id patch => ?_, fun id => ?_, fun id => ?_⟩
    · simp [asked_cons, asked_nil, hlegal, Confirmed, eq_comm]
    · simp [asked_cons, asked_nil, hlegal.not_begin]
    · simp [asked_cons, asked_nil]
  | begun hidentify hlegal hconfirmed hbegin =>
    rw [logged_step hbegin, logged_step hconfirmed]
    have happly : ¬ LegalApply request session := fun h => h.not_begin hlegal
    refine ⟨fun id patch => ?_, fun id => ?_, fun id => ?_⟩
    · simp [asked_cons, asked_nil, happly]
    · simp [asked_cons, asked_nil, hidentify, hlegal, Confirmed, eq_comm]
    · simp [asked_cons, asked_nil]
  | undone hidentify hlegal hconfirmed hbegin hend hrestored =>
    rw [logged_step hend, logged_step hbegin, logged_step hconfirmed]
    have happly : ¬ LegalApply request session := fun h => h.not_begin hlegal
    refine ⟨fun id patch => ?_, fun id => ?_, fun id hend => .inr ?_⟩
    · simp [asked_cons, asked_nil, happly]
    · simp [asked_cons, asked_nil, hidentify, hlegal, Confirmed, eq_comm]
    · obtain rfl : request.id = id := by simpa [asked_cons, asked_nil] using hend
      exact ⟨[_], _, _, rfl⟩
  | stuck hidentify hlegal hconfirmed hbegin hend hfailed =>
    rw [logged_step hend, logged_step hbegin, logged_step hconfirmed]
    have happly : ¬ LegalApply request session := fun h => h.not_begin hlegal
    refine ⟨fun id patch => ?_, fun id => ?_, fun id hend => .inr ?_⟩
    · simp [asked_cons, asked_nil, happly]
    · simp [asked_cons, asked_nil, hidentify, hlegal, Confirmed, eq_comm]
    · obtain rfl : request.id = id := by simpa [asked_cons, asked_nil] using hend
      exact ⟨[_], _, _, rfl⟩
  | ended hlegal hconfirmed hend =>
    rw [logged_step hend, logged_step hconfirmed]
    refine ⟨fun id patch => ?_, fun id => ?_, fun id hend => .inl ?_⟩
    · simp [asked_cons, asked_nil, hlegal.not_apply]
    · simp [asked_cons, asked_nil, hlegal.not_begin]
    · obtain rfl : request.id = id := by simpa [asked_cons, asked_nil] using hend
      exact ⟨rfl, hlegal⟩
  | end_failed hlegal hconfirmed hend =>
    rw [logged_step hend, logged_step hconfirmed]
    refine ⟨fun id patch => ?_, fun id => ?_, fun id hend => .inl ?_⟩
    · simp [asked_cons, asked_nil, hlegal.not_apply]
    · simp [asked_cons, asked_nil, hlegal.not_begin]
    · obtain rfl : request.id = id := by simpa [asked_cons, asked_nil] using hend
      exact ⟨rfl, hlegal⟩

/-! ## Teardown -/

/-- Everything `finish` asks for: the identify that is still saved, once,
    and then nothing that reaches the hardware. -/
structure TeardownLaw (session : Session) (log : Log) : Prop where
  split : ∃ ends rest, log = ends ++ rest ∧
    (session.saved = false ∧ ends = [] ∨
      session.saved = true ∧ ∃ b, ends = [⟨.end_identify session.saved_id, b⟩]) ∧
    ∀ event ∈ rest, event.1 = .stopped ∨ event.1 = .client 0

/-- A run of one operation. -/
theorem perform_log {o : ServiceOp} {b : o.Ans} {s s' : σ × Log}
    (h : Prog.Runs E.logged (perform o) s b s') : s'.2 = s.2 ++ [⟨o, b⟩] := by
  obtain _ | ⟨hstep, hpure⟩ := h
  cases hpure
  exact logged_step hstep

/-- The log of `forget_client`. -/
theorem forget_client_log {s s' : σ × Log} {u : Unit}
    (h : Prog.Runs E.logged (forget_client session) s u s') :
    ∃ rest, s'.2 = s.2 ++ rest ∧ ∀ event ∈ rest, event.1 = .stopped ∨ event.1 = .client 0 := by
  unfold forget_client at h
  split at h
  · cases h
    exact ⟨[], by simp, by simp⟩
  · obtain ⟨stop, s₁, hstop, h⟩ := h.of_bind
    have hlog₁ := perform_log hstop
    split at h
    · cases h
      exact ⟨[⟨.stopped, stop⟩], hlog₁, by simp⟩
    · refine ⟨[⟨.stopped, stop⟩, ⟨.client 0, u⟩], ?_, by simp⟩
      have hlog₂ := perform_log h
      rw [hlog₂, hlog₁, List.append_assoc]
      rfl

theorem teardown_law {s s' : σ} {result : Except Errno Unit} {out : Outcome} {log : Log}
    (h : Prog.Runs E.logged (finish result session) (s, []) out (s', log)) :
    TeardownLaw session log := by
  obtain ⟨r, s₁, hrestore, h⟩ := h.of_bind
  obtain ⟨u, s₂, hforget, h⟩ := h.of_bind
  obtain ⟨rest, hlog, hrest⟩ := forget_client_log hforget
  cases h
  unfold restore_session at hrestore
  split at hrestore
  · rename_i hsaved
    obtain ⟨restored, s₃, hend, hrestore⟩ := hrestore.of_bind
    have hlog₃ := perform_log hend
    have hs₁ : s₁ = s₃ := by
      cases restored <;> · cases hrestore; rfl
    subst hs₁
    rw [hlog₃] at hlog
    exact ⟨_, rest, hlog, .inr ⟨hsaved, _, rfl⟩, hrest⟩
  · rename_i hunsaved
    cases hrestore
    exact ⟨[], rest, hlog, .inl ⟨by simpa using hunsaved, rfl⟩, hrest⟩

/-! ## Protocol errors -/

/-- A frame was answered with a protocol error, whether the answer arrived
    or not. -/
def ProtocolError (event : Event service) : Prop :=
  ∃ response sent, event = ⟨.send response, sent⟩ ∧
    response.word 2 = @result_word Unit (.error (silently .EPROTO))

/-- No frame has been answered with a protocol error. -/
def Unbroken (log : Log) : Prop := ∀ event ∈ log, ¬ ProtocolError event

/-- If one has, nothing has happened since. -/
def BrokenLast (log : Log) : Prop := Unbroken log.dropLast

theorem Unbroken.snoc {log : Log} (h : Unbroken log) {event : Event service}
    (hevent : ¬ ProtocolError event) : Unbroken (log ++ [event]) := by
  intro event' hmem
  rcases List.mem_append.mp hmem with hmem | hmem
  · exact h event' hmem
  · rw [List.mem_singleton.mp hmem]
    exact hevent

theorem Unbroken.broken_last {log : Log} (h : Unbroken log) : BrokenLast log :=
  fun event hmem => h event (List.dropLast_subset log hmem)

theorem Unbroken.snoc_broken {log : Log} (h : Unbroken log) (event : Event service) :
    BrokenLast (log ++ [event]) := by
  unfold BrokenLast
  rw [List.dropLast_concat]
  exact h

/-- A step that sends nothing. -/
theorem Unbroken.step {s s' : σ × Log} {o : ServiceOp} {b : o.Ans} (h : Unbroken s.2)
    (hstep : E.logged s o b s') (ho : ∀ response, o ≠ .send response) : Unbroken s'.2 := by
  rw [logged_step hstep]
  apply h.snoc
  rintro ⟨response, sent, heq, -⟩
  exact ho response (congrArg Sigma.fst heq)

/-- Handling a frame sends nothing. -/
theorem Handled.unbroken {s s' : σ × Log} {r : Except Failure Value}
    (h : Handled E.logged ops request session s r session' s') (hs : Unbroken s.2) :
    Unbroken s'.2 := by
  cases h with
  | malformed => exact hs
  | unconfirmed _ hconfirmed => exact hs.step hconfirmed nofun
  | refused _ hconfirmed _ _ => exact hs.step hconfirmed nofun
  | info _ hconfirmed _ => exact hs.step hconfirmed nofun
  | read _ hconfirmed _ _ hread => exact (hs.step hconfirmed nofun).step hread nofun
  | apply _ hconfirmed happly => exact (hs.step hconfirmed nofun).step happly nofun
  | begun _ _ hconfirmed hbegin => exact (hs.step hconfirmed nofun).step hbegin nofun
  | undone _ _ hconfirmed hbegin hend _ =>
    exact ((hs.step hconfirmed nofun).step hbegin nofun).step hend nofun
  | stuck _ _ hconfirmed hbegin hend _ =>
    exact ((hs.step hconfirmed nofun).step hbegin nofun).step hend nofun
  | ended _ hconfirmed hend => exact (hs.step hconfirmed nofun).step hend nofun
  | end_failed _ hconfirmed hend => exact (hs.step hconfirmed nofun).step hend nofun

/-! ## One pass of the loop -/

/-- What the log of one pass says: either no frame arrived, or the frame
    was handled by the law between its arrival and its answer. -/
inductive PassLaw (ops : Ops) (session : Session) : Log → Prop where
  | idle {log : Log} : (∀ event ∈ log, event.1 = .stopped ∨ event.1 = .receive) →
      PassLaw ops session log
  | frame {request : Request} {log : Log} {confirmed : Bool} {response : Response}
      {sent : Except Errno Unit} : FrameLaw ops request session log →
      PassLaw ops session ([⟨.stopped, false⟩, ⟨.receive, .ok request⟩] ++ log ++
        [⟨.confirmed, confirmed⟩, ⟨.send response, sent⟩])

theorem answer_log {s s' : σ × Log} {r : Session ⊕ (Except Errno Unit × Session)}
    (h : Prog.Runs E.logged (answer ops request session) s r s') :
    ∃ log confirmed response sent, FrameLaw ops request session log ∧
      s'.2 = s.2 ++ log ++ [⟨.confirmed, confirmed⟩, ⟨.send response, sent⟩] := by
  obtain ⟨⟨result, session₁⟩, s₁, hhandle, h⟩ := h.of_bind
  obtain ⟨confirmed, s₂, hconfirmed, h⟩ := h.of_bind
  obtain ⟨sent, s₃, hsent, h⟩ := h.of_bind
  obtain ⟨log, hlog, hhandle⟩ := hhandle.of_logged
  have hs' : s' = s₃ := by
    cases sent <;> · cases h; rfl
  refine ⟨log, confirmed, respond ops.profile result confirmed, sent, frame_law hhandle, ?_⟩
  rw [hs', perform_log hsent, perform_log hconfirmed, hlog]
  simp only [List.append_assoc, List.cons_append, List.nil_append]

theorem pass_law {s s' : σ} {r : Session ⊕ (Except Errno Unit × Session)} {log : Log}
    (h : Prog.Runs E.logged (serve_request ops session) (s, []) r (s', log)) :
    PassLaw ops session log := by
  obtain ⟨stop, s₁, hstop, h⟩ := h.of_bind
  have hlog₁ := perform_log hstop
  cases stop with
  | true =>
    cases h
    refine .idle ?_
    rw [show log = _ from hlog₁]
    simp
  | false =>
    obtain ⟨frame, s₂, hreceive, h⟩ := h.of_bind
    have hlog₂ := perform_log hreceive
    rw [hlog₁] at hlog₂
    cases frame with
    | error e =>
      cases h
      refine .idle ?_
      rw [show log = _ from hlog₂]
      simp
    | ok request =>
      obtain ⟨frame, confirmed, response, sent, hframe, hlog⟩ := answer_log h
      rw [hlog₂] at hlog
      rw [show log = _ from hlog]
      exact .frame hframe

/-- A connection that goes on has not answered with a protocol error. -/
theorem after_response_inl {r : Except Failure Value} (h : after_response r session = .inl session') :
    ∀ e, r = .error e → e.errno ≠ .EPROTO := by
  rintro e rfl heproto
  simp [after_response, heproto] at h

theorem not_protocol_error {profile : Profile} {r : Except Failure Value} {confirmed : Bool}
    {sent : Except Errno Unit} (h : ∀ e, r = .error e → e.errno ≠ .EPROTO) :
    ¬ ProtocolError ⟨.send (respond profile r confirmed), sent⟩ := by
  rintro ⟨response, sent', heq, hword⟩
  obtain rfl : respond profile r confirmed = response := by
    have hop := congrArg Sigma.fst heq
    exact ServiceOp.send.inj hop
  rw [respond_result] at hword
  cases r with
  | ok value => exact @result_word_ne_zero Unit _ hword.symm
  | error e => exact h e rfl (result_word_inj hword)

theorem answer_unbroken {s : σ × Log} (hs : Unbroken s.2) :
    Prog.wp E.logged (fun _ => True) (answer ops request session)
      (Loop.After (fun _ s => Unbroken s.2) fun _ s => BrokenLast s.2) s := by
  unfold answer
  rw [Prog.wp_bind, wp_run]
  refine wp_mono (handle_spec ops request session s) (fun _ hI => hI) ?_
  intro r session₁ s₁ hhandled
  have hs₁ := hhandled.unbroken hs
  show Prog.wp _ _ ((perform .confirmed).bind _) _ s₁
  rw [Prog.wp_bind]
  intro confirmed s₂ hconfirmed
  have hs₂ := hs₁.step hconfirmed nofun
  refine ⟨trivial, ?_⟩
  show Prog.wp _ _ ((perform (.send _)).bind _) _ s₂
  rw [Prog.wp_bind]
  intro sent s₃ hsend
  refine ⟨trivial, ?_⟩
  have hlast : BrokenLast s₃.2 := by
    rw [logged_step hsend]
    exact hs₂.snoc_broken _
  cases sent with
  | error e => exact hlast
  | ok u =>
    show Loop.After _ _ (after_response r session₁) s₃
    cases hafter : after_response r session₁ with
    | inr leaving => exact hlast
    | inl session₂ =>
      show Unbroken s₃.2
      rw [logged_step hsend]
      exact hs₂.snoc (not_protocol_error (after_response_inl hafter))

theorem serve_request_unbroken (ops : Ops) (session : Session) (s : σ × Log) (hs : Unbroken s.2) :
    Prog.wp E.logged (fun _ => True) (serve_request ops session)
      (Loop.After (fun _ s => Unbroken s.2) fun _ s => BrokenLast s.2) s := by
  unfold serve_request
  rw [Prog.wp_bind]
  intro stop s₁ hstop
  have hs₁ := hs.step hstop nofun
  refine ⟨trivial, ?_⟩
  cases stop with
  | true => exact hs₁.broken_last
  | false =>
    show Prog.wp _ _ ((perform .receive).bind _) _ s₁
    rw [Prog.wp_bind]
    intro frame s₂ hreceive
    have hs₂ := hs₁.step hreceive nofun
    refine ⟨trivial, ?_⟩
    cases frame with
    | error e => exact hs₂.broken_last
    | ok request => exact answer_unbroken hs₂

/-! ## The law -/

/-- The hardware callbacks are invoked for the legal frames only, and for
    those always. -/
theorem mutates_legally (E : Env service σ) (ops : Ops) :
    (∀ session s r s' log, Prog.Runs E.logged (serve_request ops session) (s, []) r (s', log) →
      PassLaw ops session log) ∧
    (∀ result session s out s' log,
      Prog.Runs E.logged (finish result session) (s, []) out (s', log) →
      TeardownLaw session log) ∧
    (∀ s session s' log, Loop.Heads E.logged (serve_request ops) {} (s, []) session (s', log) →
      Unbroken log) ∧
    (∀ s r s' log, Loop.Runs E.logged (serve_request ops) {} (s, []) r (s', log) →
      BrokenLast log) := by
  have hnone : Unbroken ([] : Log) := nofun
  refine ⟨fun _ _ _ _ _ h => pass_law h, fun _ _ _ _ _ _ h => teardown_law h, ?_, ?_⟩
  · intro s session s' log h
    exact h.invariant (fun session s hs => serve_request_unbroken ops session s hs) hnone
  · intro s r s' log h
    exact h.post (fun session s hs => serve_request_unbroken ops session s hs) hnone

/-- A holder of the GPIO backend, which has no identify callbacks. -/
def gpio_ops : Ops where
  profile := ⟨"dh2300-gpio", "DH2300", "sysfs-gpio", [⟨"power", 0⟩, ⟨"netdev", 1⟩, ⟨"disk1", 2⟩, ⟨"disk2", 3⟩]⟩
  identify := false

/-- Such a holder does not begin an identify for any frame. -/
theorem gpio_never_begins :
    ∃ (request : Request) (log : Log),
      Proc.Runs (Env.logged fun (_ : Unit) _ _ _ => True) (handle gpio_ops request) {} ((), [])
        (.error (silently .ENOTSUP)) {} ((), log) ∧
      Confirmed log ∧ LegalBegin gpio_ops.profile request {} ∧
      ¬ ∃ id, Asked log (.begin_identify id) := by
  refine ⟨stamp (identify_request BEGIN_IDENTIFY 2), [⟨.confirmed, true⟩], ?_, by simp [Confirmed],
    ⟨by decide, rfl, by decide, rfl, by decide, rfl⟩, by simp [asked_cons, asked_nil]⟩
  exact @Prog.Runs.op service _ _ _ .confirmed _ _ ((), [⟨.confirmed, true⟩]) _ true _
    ⟨trivial, rfl⟩ .pure

end UgreenNas.Led.Service
