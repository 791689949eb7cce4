import UgreenNas.Led.Cs201x.Lost
import UgreenNas.Led.Service.Backend

/-! # The session and the snapshot

    A session remembers in `saved` that the backend holds a snapshot.  The
    two are kept in agreement by error numbers only, and one of them is
    ambiguous: an END that takes back a failed BEGIN answers `ENOENT` when
    there is no snapshot, but also when the first access that fails on its
    way happens to fail with `ENOENT`.  Without such an access they agree.
-/

namespace UgreenNas.Led.Service

open Effect Effect.Proc Cs201x

variable {ops : Ops} {request : Request} {session session' : Session} {w w' : World}

/-- The backend holds a snapshot exactly if the session says so, and the
    snapshot is what the session's LED is owed. -/
def Agree (session : Session) (w : World) : Prop :=
  match session.saved with
  | true => Held session.saved_id w
  | false => Free w

theorem agree_saved (hsaved : session.saved = true) :
    Agree session w ↔ Held session.saved_id w := by
  unfold Agree
  rw [hsaved]

theorem agree_unsaved (hunsaved : session.saved = false) : Agree session w ↔ Free w := by
  unfold Agree
  rw [hunsaved]

theorem Agree.saved_iff (h : Agree session w) :
    session.saved = true ↔ w.context.identify_saved = true := by
  cases hsaved : session.saved with
  | true =>
    have hheld := (agree_saved hsaved).mp h
    exact iff_of_true rfl hheld.saved
  | false =>
    have hfree := (agree_unsaved hsaved).mp h
    rw [hfree.unsaved]

theorem Agree.bound (h : Agree session w) : Bound w.device w.context := by
  cases hsaved : session.saved with
  | true => exact ((agree_saved hsaved).mp h).bound
  | false => exact ((agree_unsaved hsaved).mp h).bound

/-- A callback that keeps what the context remembers keeps the agreement. -/
theorem Agree.of_memory (h : Agree session w) (hbound : Bound w'.device w'.context)
    (hmemory : w'.context.toMemory = w.context.toMemory) (howed : w'.owed = w.owed) :
    Agree session w' := by
  cases hsaved : session.saved with
  | true =>
    have hheld := (agree_saved hsaved).mp h
    exact (agree_saved hsaved).mpr (hheld.of_memory hbound hmemory howed)
  | false =>
    have hfree := (agree_unsaved hsaved).mp h
    exact (agree_unsaved hsaved).mpr (hfree.of_memory hbound hmemory howed)

/-! ## One request -/

/-- What a connection keeps to, unless a restoration has failed. -/
structure InStep (session : Session) (w : World) : Prop where
  kept : w.breach = false
  agree : session.restore_failed = false → Agree session w

theorem confirmed_same {b : Bool} (h : sparing w .confirmed b w') : w' = w := h.1.2

/-- A BEGIN that failed has been taken back. -/
theorem undone_step {id : Nat} {e : Failure} {r : Except Failure Unit} {w₁ : World}
    (hfree : Free w) (hkept : w.breach = false) (hbegin : sparing w (.begin_identify id) (.error e) w₁)
    (hend : sparing w₁ (.end_identify id) r w') (hr : ∀ e', r = .error e' → e'.errno = .ENOENT) :
    w'.breach = false ∧ Free w' := by
  obtain ⟨hbreach₁, hfailed₁, hbegun⟩ := begin_step hfree hbegin.1
  rcases hbegun with hheld | ⟨hfree₁, -⟩
  · -- the snapshot was taken, so it is the END that decides
    obtain ⟨hbreach, -, hok, herror⟩ := end_step hheld hend.1
    refine ⟨hbreach.trans (hbreach₁.trans hkept), ?_⟩
    cases r with
    | ok u => exact hok rfl
    | error e' =>
      obtain ⟨-, hblamed⟩ := herror e' rfl
      have hspared := hend.2 hfailed₁ hheld.saved
      exact absurd ⟨hblamed (hr e' rfl), hr e' rfl⟩ hspared
  · obtain ⟨hbreach, hfree'⟩ := end_idle_step hfree₁ hend.1
    exact ⟨hbreach.trans (hbreach₁.trans hkept), hfree'⟩

/-- A request keeps to it; `Handled` has a case for each way it can go. -/
theorem Handled.in_step {r : Except Failure Value}
    (h : Handled sparing ops request session w r session' w') (hin : InStep session w)
    (hnormal : session.restore_failed = false) : InStep session' w' := by
  have hagree := hin.agree hnormal
  cases h with
  | malformed => exact hin
  | unconfirmed _ hconfirmed =>
    rw [confirmed_same hconfirmed]
    exact hin
  | refused _ hconfirmed _ _ =>
    rw [confirmed_same hconfirmed]
    exact hin
  | info _ hconfirmed _ =>
    rw [confirmed_same hconfirmed]
    exact hin
  | read _ hconfirmed _ _ hread =>
    rw [confirmed_same hconfirmed] at hread
    obtain ⟨hbreach, hbound, hmemory, howed⟩ := read_step hagree.bound hread.1
    exact ⟨hbreach.trans hin.kept, fun _ => hagree.of_memory hbound hmemory howed⟩
  | apply hlegal hconfirmed happly =>
    rw [confirmed_same hconfirmed] at happly
    have hfree := (agree_unsaved hlegal.unsaved).mp hagree
    obtain ⟨hbreach, hbound, hmemory, howed⟩ := apply_step hagree.bound happly.1
    rw [hin.kept, hfree.unsaved] at hbreach
    exact ⟨hbreach, fun _ => hagree.of_memory hbound hmemory howed⟩
  | begun _ hlegal hconfirmed hbegin =>
    rw [confirmed_same hconfirmed] at hbegin
    have hfree := (agree_unsaved hlegal.unsaved).mp hagree
    obtain ⟨hbreach, -, hbegun⟩ := begin_step hfree hbegin.1
    rcases hbegun with hheld | ⟨-, hfailed⟩
    · exact ⟨hbreach.trans hin.kept, fun _ => hheld⟩
    · cases hfailed
  | undone _ hlegal hconfirmed hbegin hend hrestored =>
    rw [confirmed_same hconfirmed] at hbegin
    have hfree := (agree_unsaved hlegal.unsaved).mp hagree
    obtain ⟨hbreach, hfree'⟩ := undone_step hfree hin.kept hbegin hend hrestored
    exact ⟨hbreach, fun _ => (agree_unsaved hlegal.unsaved).mpr hfree'⟩
  | stuck _ hlegal hconfirmed hbegin hend _ =>
    rw [confirmed_same hconfirmed] at hbegin
    have hfree := (agree_unsaved hlegal.unsaved).mp hagree
    obtain ⟨hbreach₁, -, hbegun⟩ := begin_step hfree hbegin.1
    refine ⟨?_, nofun⟩
    rcases hbegun with hheld | ⟨hfree₁, -⟩
    · obtain ⟨hbreach, -⟩ := end_step hheld hend.1
      exact hbreach.trans (hbreach₁.trans hin.kept)
    · obtain ⟨hbreach, -⟩ := end_idle_step hfree₁ hend.1
      exact hbreach.trans (hbreach₁.trans hin.kept)
  | ended hlegal hconfirmed hend =>
    rw [confirmed_same hconfirmed, hlegal.id] at hend
    have hheld := (agree_saved hlegal.saved).mp hagree
    obtain ⟨hbreach, -, hok, -⟩ := end_step hheld hend.1
    exact ⟨hbreach.trans hin.kept, fun _ => hok rfl⟩
  | end_failed hlegal hconfirmed hend =>
    rw [confirmed_same hconfirmed, hlegal.id] at hend
    have hheld := (agree_saved hlegal.saved).mp hagree
    obtain ⟨hbreach, -⟩ := end_step hheld hend.1
    exact ⟨hbreach.trans hin.kept, nofun⟩

/-! ## One connection -/

/-- The invariant of the loop: at its head no restoration has failed. -/
structure AtHead (session : Session) (w : World) : Prop where
  normal : session.restore_failed = false
  in_step : InStep session w

theorem sparing_idle (w : World) (o : ServiceOp) (b : o.Ans) (w' : World) (hidle : o.idle = true)
    (h : sparing w o b w') : w' = w :=
  callbacks_idle w o b w' hidle h.1

theorem serve_request_in_step (ops : Ops) (session : Session) (w : World) (h : AtHead session w) :
    Prog.wp sparing (fun _ => True) (serve_request ops session)
      (Loop.After AtHead fun r w => InStep r.2 w) w := by
  apply serve_request_rule sparing_idle (fun _ _ hhead => hhead.in_step) _ session w h
  intro request session w hhead
  apply wp_mono (handle_spec ops request session w) fun _ _ => trivial
  intro r session' w' hhandled
  have hin := hhandled.in_step hhead.in_step hhead.normal
  exact ⟨hin, fun hnormal => ⟨hnormal, hin⟩⟩

/-- Nothing is held or owed, and no APPLY has slipped through. -/
structure AtRest (w : World) : Prop where
  free : Free w
  kept : w.breach = false

theorem AtRest.set_client (h : AtRest w) (pid : Nat) : AtRest (w.set_client pid) :=
  ⟨⟨h.free.bound, h.free.unsaved, h.free.settled⟩, h.kept⟩

theorem client_at_rest (pid : Nat) (w w' : World) (h : AtRest w)
    (hstep : sparing w (.client pid) () w') : AtRest w' := by
  obtain rfl : w' = w.set_client pid := hstep.1
  exact h.set_client pid

theorem authenticate_at_rest (h : AtRest w) :
    Prog.wp sparing (fun _ => True) authenticate (fun _ w' => AtRest w') w :=
  authenticate_rule sparing_idle client_at_rest h

/-- How a connection leaves the world: at rest, or the failure is reported. -/
structure Closed (out : Outcome) (w : World) : Prop where
  kept : w.breach = false
  rest : out.restore_failed = true ∨ AtRest w

theorem restore_session_spec (result : Except Errno Unit) (h : InStep session w) :
    Prog.wp sparing (fun _ => True) (restore_session result session)
      (fun r w' => w'.breach = false ∧ (r.2.restore_failed = true ∨ AtRest w')) w := by
  unfold restore_session
  cases hsaved : session.saved with
  | false =>
    refine ⟨h.kept, ?_⟩
    cases hfailed : session.restore_failed with
    | true => exact .inl rfl
    | false => exact .inr ⟨(agree_unsaved hsaved).mp (h.agree hfailed), h.kept⟩
  | true =>
    rw [if_pos rfl, Prog.wp_bind]
    intro restored w₁ hend
    refine ⟨trivial, ?_⟩
    cases hfailed : session.restore_failed with
    | false =>
      have hheld := (agree_saved hsaved).mp (h.agree hfailed)
      obtain ⟨hbreach, -, hok, -⟩ := end_step hheld hend.1
      have hkept := hbreach.trans h.kept
      cases restored with
      | ok u => exact ⟨hkept, .inr ⟨hok rfl, hkept⟩⟩
      | error e => exact ⟨hkept, .inl rfl⟩
    | true =>
      -- the report cannot be withdrawn
      have hkept : w₁.breach = false := by
        obtain ⟨c, d, log, -, rfl⟩ := hend.1
        have hframe := settle_frame ((w.after c d log).note false)
        exact hframe.2.2.2.2.trans h.kept
      cases restored with
      | ok u => exact ⟨hkept, .inl hfailed⟩
      | error e => exact ⟨hkept, .inl rfl⟩

theorem Closed.client {out : Outcome} (h : Closed out w) {pid : Nat}
    (hstep : sparing w (.client pid) () w') : Closed out w' := by
  obtain rfl : w' = w.set_client pid := hstep.1
  refine ⟨h.kept, ?_⟩
  rcases h.rest with hfailed | hrest
  · exact .inl hfailed
  · exact .inr (hrest.set_client pid)

theorem finish_closed (result : Except Errno Unit) (h : InStep session w) :
    Prog.wp sparing (fun _ => True) (finish result session) Closed w := by
  unfold finish
  rw [Prog.wp_bind]
  apply Prog.wp_mono (restore_session_spec result h) fun _ hI => hI
  intro r w₁ hrestored
  have hclosed : Closed ⟨r.1, r.2.restore_failed⟩ w₁ := ⟨hrestored.1, hrestored.2⟩
  rw [Prog.wp_bind]
  exact forget_client_rule sparing_idle (fun pid _ _ hA hstep => hA.client hstep) r.2 hclosed

/-- A connection to a holder at rest. -/
theorem serves_closed {out : Outcome} (hrest : AtRest w) (h : Serves sparing ops w out w') :
    Closed out w' := by
  refine Serves.post (authenticate_at_rest hrest) ?_ ?_ (serve_request_in_step ops)
    (fun result _ _ => finish_closed result) h
  · intro w₁ hrest₁
    exact ⟨hrest₁.kept, .inr hrest₁⟩
  · intro w₁ hrest₁
    have hin : InStep {} w₁ := ⟨hrest₁.kept, fun _ => hrest₁.free⟩
    exact ⟨⟨rfl, hin⟩, hin⟩

/-! ## A holder's connections -/

/-- The world of a holder that has just opened. -/
def World.start (c : Context) (d : Device) : World := { context := c, device := d }

/-- The connections of a holder, one after the other; it goes down when a
    restoration has failed. -/
inductive Connected (E : Env service World) (ops : Ops) (w : World) : World → Prop where
  | opened : Connected E ops w w
  | next {w₁ w₂ : World} {out : Outcome} : Connected E ops w w₁ → Serves E ops w₁ out w₂ →
      out.restore_failed = false → Connected E ops w w₂

/-- What every operation preserves, the connections preserve. -/
theorem Connected.preserves {E : Env service World} {I : World → Prop}
    (hE : ∀ w o b w', E w o b w' → I w → I w') (h : Connected E ops w w') (hw : I w) : I w' := by
  induction h with
  | opened => exact hw
  | next _ hserves _ ih => exact hserves.preserves hE ih

theorem Connected.at_rest (h : Connected sparing ops w w') (hrest : AtRest w) : AtRest w' := by
  induction h with
  | opened => exact hrest
  | next _ hserves hnormal ih =>
    rcases (serves_closed ih hserves).rest with hfailed | hrest'
    · rw [hnormal] at hfailed
      cases hfailed
    · exact hrest'

/-- The service of the one supported model. -/
def gt_ops : Ops := ⟨gt_profile, true⟩

/-- A client is let in. -/
theorem runs_authenticate (w : World) :
    Prog.Runs callbacks authenticate w (some (.ok ())) (w.set_client 1) :=
  Prog.Runs.bind (@runs_perform _ _ .peer (some 1) w w rfl)
    (Prog.Runs.bind (@runs_perform _ _ (.client 1) () w (w.set_client 1) rfl)
      (Prog.Runs.bind (@runs_perform _ _ .timeout (.ok ()) _ _ rfl) .pure))

/-- The frame of a BEGIN for the power LED. -/
def begin_frame : Request := stamp (identify_request BEGIN_IDENTIFY 0)

/-- The way through `handle` on which a snapshot is forgotten. -/
theorem begin_abandoned {σ : Type} {E : Env service σ} {s s₁ s₂ s₃ : σ} {e e' : Failure}
    (hconfirmed : E s .confirmed true s₁) (hbegin : E s₁ (.begin_identify 0) (.error e) s₂)
    (hend : E s₂ (.end_identify 0) (.error e') s₃) (he' : e'.errno = .ENOENT) :
    Proc.Runs E (handle gt_ops begin_frame) {} s (.error e) {} s₃ := by
  refine @Prog.Runs.op service _ _ E .confirmed _ s s₁ s₃ true _ hconfirmed ?_
  refine @Prog.Runs.op service _ _ E (.begin_identify 0) _ s₁ s₂ s₃ (.error e) _ hbegin ?_
  refine @Prog.Runs.op service _ _ E (.end_identify 0) _ s₂ s₃ s₃ (.error e') _ hend ?_
  show Prog.Runs E ((if e'.errno = .ENOENT then fail e else _ : Handler Value) {}) s₃ _ s₃
  rw [if_pos he']
  exact .pure

/-- Its connection: the client reads the answer and leaves. -/
theorem connection_abandoned {w w₂ w₃ : World} {e e' : Failure}
    (hconfirmed : (w.set_client 1).context.confirmed = true)
    (hbegin : callbacks (w.set_client 1) (.begin_identify 0) (.error e) w₂)
    (hend : callbacks w₂ (.end_identify 0) (.error e') w₃) (he : e.errno ≠ .EPROTO)
    (he' : e'.errno = .ENOENT) :
    Serves callbacks gt_ops w ⟨.ok (), false⟩ (w₃.set_client 0) := by
  have hauth := runs_authenticate w
  have hhandle := @begin_abandoned _ callbacks _ _ _ _ _ _ ⟨hconfirmed.symm, rfl⟩ hbegin hend he'
  have hanswer : Prog.Runs callbacks (answer gt_ops begin_frame {}) (w.set_client 1) (.inl {}) w₃ := by
    refine Prog.Runs.bind hhandle (Prog.Runs.bind (@runs_perform _ _ .confirmed _ w₃ w₃ ⟨rfl, rfl⟩)
      (Prog.Runs.bind (@runs_perform _ _ (.send _) (.ok ()) w₃ w₃ rfl) ?_))
    have hgoes : after_response (.error e) {} = .inl {} := by
      simp [after_response, he]
    show Prog.Runs callbacks (.pure (after_response (.error e) {})) w₃ _ w₃
    rw [hgoes]
    exact .pure
  have hfirst : Prog.Runs callbacks (serve_request gt_ops {}) (w.set_client 1) (.inl {}) w₃ :=
    Prog.Runs.bind (@runs_perform _ _ .stopped false _ _ rfl)
      (Prog.Runs.bind (@runs_perform _ _ .receive (.ok begin_frame) _ _ rfl) hanswer)
  have hsecond : Prog.Runs callbacks (serve_request gt_ops {}) w₃ (.inr (.ok (), {})) w₃ :=
    Prog.Runs.bind (@runs_perform _ _ .stopped false w₃ w₃ rfl)
      (Prog.Runs.bind (@runs_perform _ _ .receive (.error .ECONNRESET) w₃ w₃ rfl) .pure)
  have hfinish : Prog.Runs callbacks (finish (.ok ()) {}) w₃ ⟨.ok (), false⟩ (w₃.set_client 0) :=
    Prog.Runs.bind .pure (Prog.Runs.bind (Prog.Runs.bind (@runs_perform _ _ .stopped false w₃ w₃ rfl)
      (@runs_perform _ _ (.client 0) () w₃ (w₃.set_client 0) rfl)) .pure)
  exact .served hauth ⟨{}, w₃, .step .refl hfirst, hsecond⟩ hfinish

end UgreenNas.Led.Service
