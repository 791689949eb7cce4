import UgreenNas.Startup.Saving

/-! # What a run that writes does under the lock

    It sets the policy it was asked for, or the one of the record, and reads
    it back.  `set` saves it when everything about it is confirmed.

    * `Confirmed` : what comes before a record is saved;
    * `Agreed`    : the hardware has the policy of the record.
-/

namespace UgreenNas.Startup

open Effect Effect.Proc Storage Machine

variable {P : Type} {home : Directory} {p : P} {s s' : Machine P} {lock : Fd .lock}
  {directory : Fd .directory} {F : Machine P → Prop} {move : Move startup (Machine P)}
  {command wanted : String} {policy : Option String} {identity : Identity} {backend : Backend} {json : Json}

/-! ## What is promised -/

/-- The record that `set` saves. -/
abbrev desired (wanted : String) (identity : Identity) : Record :=
  ⟨SCHEMA_VERSION, wanted, identity⟩

/-- The policy was set and read back, on the machine that was there before
    and behind it. -/
def Confirmed (backend : Backend) (wanted : String) (identity : Identity) (log : Log) : Prop :=
  ∃ before first between setting asked second after : Log,
    log = before ++ first ++ between ++ setting ++ asked ++ second ++ after ∧
    Reads observe_identity identity first ∧ Reads (backend_set backend wanted) () setting ∧
    Reads (backend_get backend false) wanted asked ∧ Reads observe_identity identity second

/-- A record is saved by `set` alone, for the policy that was asked for. -/
def Saves (json : Json) (backend : Option Backend) (command : String) (policy : Option String)
    (data : List UInt8) (log : Log) : Prop :=
  command = "set" ∧ ∃ writer wanted identity, backend = some writer ∧ policy = some wanted ∧
    data = state_bytes json (desired wanted identity) ∧
      Confirmed writer wanted identity log

/-- The hardware has the policy of the record.  Behind `set` it is the one
    that was asked for, and a crash does not take the record away. -/
def Agreed (json : Json) (home : Directory) (command : String) (policy : Option String)
    (left : Legacy) : Prop :=
  ∃ data record, left.content (home, STATE_FILE) = some data ∧
    decode_state json data = .ok record ∧ record.desired_policy = left.hardware ∧
      (command = "set" → policy = some left.hardware ∧
        ∀ content, left.survives (home, STATE_FILE) content → content = some data)

theorem lasting_agreed (home : Directory) (command : String) (policy : Option String) :
    Lasting fun s : Machine P => Agreed json home command policy s.legacy := by
  intro s s' hs hsame h
  obtain ⟨data, record, hcontent, hdecode, hpolicy, hset⟩ := h
  refine ⟨data, record, ?_, hdecode, hpolicy.trans hsame.hardware.symm, ?_⟩
  · exact ((hsame.keeps home).content (hs home)).trans hcontent
  · intro hcommand
    obtain ⟨hwanted, hsurvives⟩ := hset hcommand
    refine ⟨hwanted.trans (congrArg some hsame.hardware.symm), ?_⟩
    intro content h
    exact hsurvives content ((hsame.keeps home).survives (hs home) h)

/-! ## Identities -/

/-- What is observed has been validated. -/
theorem valid_observed {c c' : Unit} {log log' : Log}
    (h : Runs (recorded startup) observe_identity c log (.ok identity) c' log') :
    ValidIdentity identity := by
  have hwp : Post (observe_identity : Py Unit Identity)
      (fun r _ _ => ∀ identity, r = .ok identity → ValidIdentity identity) c log := by
    apply wp_seq (R := fun _ _ _ => True)
    · exact Prog.wp_trivial
    · intro fields c₁ log₁ _
      refine wp_lift_seq ?_ fun _ _ h => (by cases h)
      intro first _ identity hidentity
      obtain ⟨_, _, _, hvalid, _⟩ := validate_identity_iff.mp (mapError_eq_ok.mp hidentity)
      exact hvalid
    · exact fun _ _ _ _ _ h => (by cases h)
  exact wp_runs hwp h identity rfl

/-- What was saved is what is read. -/
def Faithful (json : Json) : Prop := ∀ wanted identity saved, ValidIdentity identity →
  wanted ∈ POLICIES → decode_state json (state_bytes json (desired wanted identity)) = .ok saved →
    saved = desired wanted identity

theorem python_faithful : Faithful python_json := by
  intro wanted identity saved hvalid hpolicy h
  by_cases hfits : record_size wanted identity ≤ MAX_STATE_BYTES
  · rw [decode_saved hvalid hpolicy hfits] at h
    exact (Except.ok.inj h).symm
  · rw [decode_oversized hvalid (Nat.lt_of_not_le hfits)] at h
    cases h

/-- Where a run that writes arrives. -/
structure Concluded (json : Json) (home : Directory) (command wanted : String) (identity : Identity)
    (content : Option (List UInt8)) (s : Machine P) : Prop where
  hardware : s.hardware = wanted
  valid : ValidIdentity identity
  saved : command = "set" → Durable home (state_bytes json (desired wanted identity)) s ∧
    ∃ saved, decode_state json (state_bytes json (desired wanted identity)) = .ok saved
  kept : command ≠ "set" → s.volume.content (home, STATE_FILE) = content

/-- Then hardware and record agree. -/
theorem Concluded.agreed {content : Option (List UInt8)} (hjson : Faithful json)
    (h : Concluded json home command wanted identity content s)
    (hpolicies : command = "set" → wanted ∈ POLICIES)
    (hset : command = "set" → policy = some wanted)
    (hother : command ≠ "set" → ∃ data record, content = some data ∧
      decode_state json data = .ok record ∧ record.desired_policy = wanted) :
    Agreed json home command policy s.legacy := by
  by_cases hcommand : command = "set"
  · obtain ⟨hdurable, saved, hdecode⟩ := h.saved hcommand
    have hrecord := hjson _ _ _ h.valid (hpolicies hcommand) hdecode
    refine ⟨_, saved, hdurable.1.content, hdecode, ?_, ?_⟩
    · rw [hrecord]
      exact h.hardware.symm
    · intro _
      exact ⟨(hset hcommand).trans (congrArg some h.hardware.symm), hdurable.2⟩
  · obtain ⟨data, record, hdata, hdecode, hdesired⟩ := hother hcommand
    exact ⟨data, record, (h.kept hcommand).trans hdata, hdecode,
      hdesired.trans h.hardware.symm, fun h => absurd h hcommand⟩

variable [DecidableEq P]

/-! ## Before the write -/

/-- What `prepare` returns: the policy to be set, and the machine. -/
theorem spec_prepare {New : List UInt8 → Log → Prop} {content : Option (List UInt8)}
    (hheld : Held home p lock directory move.after)
    (hcontent : move.after.volume.content (home, STATE_FILE) = content) :
    Spec home p New (prepare json backend directory command policy) (fun r _ move' =>
      (Held home p lock directory move'.after ∧
        move'.after.volume.content (home, STATE_FILE) = content) ∧
      ∀ wanted identity, r = .ok (some (wanted, identity)) →
        (∃ before first after, move'.log = before ++ first ++ after ∧
          Reads observe_identity identity first) ∧
        (command = "set" → policy = some wanted) ∧
        (command ≠ "set" → ∃ data record, content = some data ∧
          decode_state json data = .ok record ∧ record.desired_policy = wanted)) () move := by
  have hF := lasting_content (P := P) home content
  unfold prepare
  apply wp_seq (spec_load hF hheld hcontent)
  · intro saved c₁ move₁ h₁
    obtain ⟨⟨hheld₁, hcontent₁⟩, hsaved⟩ := h₁
    dsimp only
    split
    · exact ⟨⟨hheld₁, hcontent₁⟩, fun _ _ h => (by cases h)⟩
    · next wanted hwanted =>
      refine held_seq inside_observe_identity hF hheld₁ hcontent₁ ?_
        fun _ _ _ hheld hcontent => ⟨⟨hheld, hcontent⟩, fun _ _ h => (by cases h)⟩
      intro identity c₂ move₂ first hheld₂ hcontent₂ hlog₂ hfirst
      refine wp_bail_seq ?_ ⟨⟨hheld₂, hcontent₂⟩, fun _ _ h => (by cases h)⟩
      intro _
      refine held_seq (inside_get backend true) hF hheld₂ hcontent₂ ?_
        fun _ _ _ hheld hcontent => ⟨⟨hheld, hcontent⟩, fun _ _ h => (by cases h)⟩
      intro _ c₃ move₃ asked hheld₃ hcontent₃ hlog₃ _
      refine held_seq inside_observe_identity hF hheld₃ hcontent₃ ?_
        fun _ _ _ hheld hcontent => ⟨⟨hheld, hcontent⟩, fun _ _ h => (by cases h)⟩
      intro _ c₄ move₄ second hheld₄ hcontent₄ hlog₄ _
      refine wp_bail_seq ?_ ⟨⟨hheld₄, hcontent₄⟩, fun _ _ h => (by cases h)⟩
      intro _
      refine ⟨⟨hheld₄, hcontent₄⟩, ?_⟩
      intro wanted' identity' heq
      obtain ⟨rfl, rfl⟩ := Prod.mk.inj (Option.some.inj (Except.ok.inj heq))
      refine ⟨⟨move₁.log, first, asked ++ second, ?_, hfirst⟩, ?_, ?_⟩
      · rw [hlog₄, hlog₃, hlog₂]
        simp
      · intro hcommand
        simpa [hcommand] using hwanted
      · intro hcommand
        simp only [hcommand, if_false] at hwanted
        obtain ⟨record, rfl, hpolicy⟩ := Option.map_eq_some_iff.mp hwanted
        obtain ⟨data, hdata, hdecode⟩ := hsaved record rfl
        exact ⟨data, record, hcontent.symm.trans hdata, hdecode, hpolicy⟩
  · exact fun e _ _ h => ⟨h.1, fun _ _ h => (by cases h)⟩

/-! ## The write -/

/-- Setting the policy leaves the files alone; what the hardware has then
    is open. -/
theorem spec_set {New : List UInt8 → Log → Prop} {content : Option (List UInt8)}
    (hheld : Held home p lock directory move.after)
    (hcontent : move.after.volume.content (home, STATE_FILE) = content) :
    Spec home p New (backend_set backend wanted) (fun r c' move' =>
      (Held home p lock directory move'.after ∧
        move'.after.volume.content (home, STATE_FILE) = content) ∧
      ∃ new, move'.log = move.log ++ new ∧
        Runs (recorded startup) (backend_set backend wanted) () [] r c' new) () move := by
  have hkeeps : Spec home p New (backend_set backend wanted) (fun _ _ move' =>
      Held home p lock directory move'.after ∧
        move'.after.volume.content (home, STATE_FILE) = content) () move := by
    have hrun : Spec home p New
        (backend_run backend ["power", "startup", "set", wanted] true) (fun _ _ move' =>
          Held home p lock directory move'.after ∧
            move'.after.volume.content (home, STATE_FILE) = content) () move := by
      apply among_call
      intro b s s' hrely hstep
      have hs := hheld.rely hrely
      have hset : is_set (backend.front ++ ["--force", "--apply"] ++
          ["power", "startup", "set", wanted]) = true := by
        simpa using is_set_set backend.front wanted
      have hcritical : Critical (.run (backend.front ++ ["--force", "--apply"] ++
          ["power", "startup", "set", wanted])) := hset
      obtain ⟨hfair, hintact⟩ := critical_step hs.locked hcritical hstep
      simp only [machine, if_true, hset] at hstep
      obtain ⟨policy, rfl⟩ := hstep
      have hafter : Held home p lock directory { s with hardware := policy } ∧
          s.volume.content (home, STATE_FILE) = content :=
        ⟨⟨hs.lock, hs.directory, hintact.sealed hs.sealed⟩,
          (lasting_content home content) _ _ hheld.sealed (hheld.same hrely) hcontent⟩
      refine ⟨⟨hfair, .inl hintact⟩, ?_⟩
      cases b with
      | error text => exact hafter
      | ok completed => exact wp_bail_seq (fun _ => hafter) hafter
    exact wp_seq hrun (fun _ _ _ h => h) fun _ _ _ h => h
  exact wp_also hkeeps (among_log _ _ _)

/-- What follows the write: on success the hardware has the policy, and for
    `set` the record is there to stay. -/
theorem spec_confirm {writer : Option Backend} (hwriter : writer = some backend)
    {content : Option (List UInt8)} (hheld : Held home p lock directory move.after)
    (hcontent : move.after.volume.content (home, STATE_FILE) = content)
    (hpolicy : command = "set" → policy = some wanted)
    (hlog : ∃ before first between setting, move.log = before ++ first ++ between ++ setting ∧
      Reads observe_identity identity first ∧ Reads (backend_set backend wanted) () setting) :
    Spec home p (Saves json writer command policy)
      (confirm json backend directory command wanted identity) (fun r _ move' =>
        Held home p lock directory move'.after ∧ ∀ readback, r = .ok readback →
          Concluded json home command wanted identity content move'.after) () move := by
  obtain ⟨before, first, between, setting, hlog, hfirst, hsetting⟩ := hlog
  unfold confirm
  apply wp_seq (spec_get backend false (lasting_content home content) hheld hcontent)
  · intro readback c₁ move₁ h₁
    obtain ⟨⟨⟨hheld₁, hcontent₁⟩, asked, hlog₁, hasked⟩, hhardware₁⟩ := h₁
    refine wp_bail_seq ?_ ⟨hheld₁, fun _ h => (by cases h)⟩
    intro hsame
    obtain rfl := not_not.mp hsame
    refine held_seq inside_observe_identity
      ((lasting_content home content).and (lasting_hardware readback)) hheld₁
      ⟨hcontent₁, hhardware₁ readback rfl⟩ ?_ fun _ _ _ hheld _ => ⟨hheld, fun _ h => (by cases h)⟩
    intro again c₂ move₂ second hheld₂ hboth hlog₂ hsecond
    obtain ⟨hcontent₂, hhardware₂⟩ := hboth
    refine wp_bail_seq ?_ ⟨hheld₂, fun _ h => (by cases h)⟩
    intro hagain
    obtain rfl := not_not.mp hagain
    by_cases hcommand : command = "set"
    · have hstage : Stage home p lock directory (fun s => s.hardware = readback) move₂.log move₂ :=
        ⟨hheld₂, hhardware₂, List.prefix_refl _⟩
      have hnew : ∀ log, move₂.log <+: log → Saves json writer command policy
          (state_bytes json (desired readback again)) log := by
        intro log hprefix
        obtain ⟨after, rfl⟩ := hprefix
        refine ⟨hcommand, backend, readback, again, hwriter, hpolicy hcommand, rfl, before, first,
          between, setting, asked, second, after, ?_, hfirst, hsetting, hasked, hsecond⟩
        rw [hlog₂, hlog₁, hlog]
      have hsave : Spec home p (Saves json writer command policy)
          (save json directory (desired readback again)) (fun r _ move' =>
            Held home p lock directory move'.after ∧ (r = .ok () →
              Concluded json home command readback again content move'.after)) c₂ move₂ := by
        apply wp_mono (spec_save hstage hnew) fun _ h => h
        intro r c₃ move₃ h₃
        obtain ⟨hstage₃, hsaved⟩ := h₃
        refine ⟨hstage₃.held, fun hr => ?_⟩
        exact ⟨hstage₃.lasts, valid_observed hsecond, fun _ => hsaved hr,
          fun hno => absurd hcommand hno⟩
      dsimp only
      rw [if_pos hcommand]
      apply wp_seq hsave
      · intro _ c₃ move₃ h₃
        refine ⟨h₃.1, ?_⟩
        intro _ _
        exact h₃.2 rfl
      · exact fun _ _ _ h => ⟨h.1, fun _ h => (by cases h)⟩
    · dsimp only
      rw [if_neg hcommand]
      refine ⟨hheld₂, ?_⟩
      intro _ _
      exact ⟨hhardware₂, valid_observed hsecond, fun h => absurd h hcommand, fun _ => hcontent₂⟩
  · exact fun e _ _ h => ⟨h.1.1.1, fun _ h => (by cases h)⟩

/-- A run under the lock: if it writes and returns, hardware and record
    agree. -/
theorem spec_write_locked (hjson : Faithful json) {writer : Option Backend} (hwriter : writer = some backend)
    {result : Result} (hresult : result.hardware_written = false)
    (hpolicies : ∀ wanted, command = "set" → policy = some wanted → wanted ∈ POLICIES)
    (hheld : Held home p lock directory move.after) :
    Spec home p (Saves json writer command policy)
      (write_locked json backend directory command policy result) (fun r _ move' =>
        Held home p lock directory move'.after ∧ ∀ result', r = .ok result' →
          result'.hardware_written = true →
            Agreed json home command policy move'.after.legacy) () move := by
  apply wp_seq (spec_prepare hheld rfl)
  · intro prepared c₁ move₁ h₁
    obtain ⟨⟨hheld₁, hcontent₁⟩, hprepared⟩ := h₁
    cases prepared with
    | none =>
      refine ⟨hheld₁, ?_⟩
      intro result' heq hwritten
      obtain rfl := Except.ok.inj heq
      rw [hresult] at hwritten
      cases hwritten
    | some prepared =>
      obtain ⟨wanted, identity⟩ := prepared
      obtain ⟨⟨before, first, after, hlog₁, hfirst⟩, hset, hother⟩ := hprepared wanted identity rfl
      apply wp_seq (spec_set hheld₁ hcontent₁)
      · intro _ c₂ move₂ h₂
        obtain ⟨⟨hheld₂, hcontent₂⟩, setting, hlog₂, hsetting⟩ := h₂
        have hlog : ∃ before first between setting,
            move₂.log = before ++ first ++ between ++ setting ∧
              Reads observe_identity identity first ∧ Reads (backend_set backend wanted) () setting :=
          ⟨before, first, after, setting, by rw [hlog₂, hlog₁], hfirst, hsetting⟩
        have hconfirm : Spec home p (Saves json writer command policy)
            (mapError (confirm json backend directory command wanted identity) unconfirmed)
            (fun r _ move' => Held home p lock directory move'.after ∧ ∀ readback, r = .ok readback →
              Concluded json home command wanted identity
                (move.after.volume.content (home, STATE_FILE)) move'.after) () move₂ :=
          wp_mapError (spec_confirm hwriter hheld₂ hcontent₂ hset hlog) (fun _ _ _ h => h)
            fun _ _ _ h => ⟨h.1, fun _ h => (by cases h)⟩
        apply wp_seq hconfirm
        · intro readback c₃ move₃ h₃
          obtain ⟨hheld₃, hconcluded⟩ := h₃
          exact ⟨hheld₃, fun _ _ _ => (hconcluded readback rfl).agreed hjson
            (fun hcommand => hpolicies wanted hcommand (hset hcommand)) hset hother⟩
        · exact fun e _ _ h => ⟨h.1, fun _ h => (by cases h)⟩
      · exact fun e _ _ h => ⟨h.1.1, fun _ h => (by cases h)⟩
  · exact fun e _ _ h => ⟨h.1.1, fun _ h => (by cases h)⟩

end UgreenNas.Startup
