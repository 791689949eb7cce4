import UgreenNas.Startup.Reading

/-! # Saving under the lock

    `save` writes a new file, synchronises it, puts it in the place of the
    state file and synchronises the directory.  Only if all of this succeeds
    it returns, and then a crash leaves the new record.

    * `Stage`    : the lock is held, and the log goes on from some point;
    * `Drafting` : the new file while it is written.
-/

namespace UgreenNas.Startup

open Effect Effect.Proc Storage Machine

variable {P : Type} {home : Directory} {p : P} {κ α : Type} {New : List UInt8 → Log → Prop}
  {s s' : Machine P} {lock : Fd .lock} {directory : Fd .directory} {F : Machine P → Prop}
  {start : Log} {c : κ} {move : Move startup (Machine P)} {name : String} {data : List UInt8}

/-! ## Stages -/

/-- The lock is held, `F` holds, and the log begins with `start`. -/
structure Stage (home : Directory) (p : P) (lock : Fd .lock) (directory : Fd .directory)
    (F : Machine P → Prop) (start : Log) (move : Move startup (Machine P)) : Prop where
  held : Held home p lock directory move.after
  lasts : F move.after
  log : start <+: move.log

/-- The file `i` is written through `fd`, under the name `name`, and by
    nobody else. -/
structure Drafting (home : Directory) (p : P) (fd : Fd .temporary) (name : String) (i : Nat)
    (file : Inode) (s : Machine P) : Prop where
  writer : s.volume.writer (p, fd.number) = some i
  alone : ∀ h, s.volume.writer h = some i → h = (p, fd.number)
  entry : s.volume.entry (home, name) = some i
  used : i < s.volume.next
  inode : s.volume.inode i = file

/-- The finished file. -/
structure Ready (home : Directory) (name : String) (i : Nat) (data : List UInt8) (s : Machine P) :
    Prop where
  entry : s.volume.entry (home, name) = some i
  closed : s.volume.Closed i
  inode : s.volume.inode i = ⟨data, true⟩

/-- The state file is on the medium, with the contents `data`. -/
def Placed (home : Directory) (data : List UInt8) (s : Machine P) : Prop :=
  ∃ i, s.volume.entry (home, STATE_FILE) = some i ∧ s.volume.Closed i ∧
    s.volume.inode i = ⟨data, true⟩

theorem lasting_placed (home : Directory) (data : List UInt8) :
    Lasting fun s : Machine P => Placed home data s := by
  intro s s' _ hsame h
  obtain ⟨i, hentry, hclosed, hinode⟩ := h
  obtain ⟨hclosed', hinode'⟩ := (hsame.keeps home).closed i hclosed
  exact ⟨i, (hsame.keeps home).entry.trans hentry, hclosed', hinode'.trans hinode⟩

theorem Placed.content (h : Placed home data s) :
    s.volume.content (home, STATE_FILE) = some data := by
  obtain ⟨i, hentry, _, hinode⟩ := h
  simp [Volume.content, hentry, hinode]

variable {fd : Fd .temporary} {i : Nat} {file : Inode}

theorem Drafting.rely (h : Drafting home p fd name i file s)
    (hheld : Held home p lock directory s) (hrely : Rely home p s s') :
    Drafting home p fd name i file s' where
  writer := (hrely.own.writers _).trans h.writer
  alone k hk := h.alone k ((hheld.still hrely).writers k i hk)
  entry := (congrFun (hheld.still hrely).entry _).trans h.entry
  used := (hheld.still hrely).next ▸ h.used
  inode := (congrFun (hheld.still hrely).inode i).trans h.inode

theorem Ready.rely (h : Ready home name i data s) (hheld : Held home p lock directory s)
    (hrely : Rely home p s s') : Ready home name i data s' where
  entry := (congrFun (hheld.still hrely).entry _).trans h.entry
  closed := ⟨(hheld.still hrely).next ▸ h.closed.1,
    fun k hk => h.closed.2 k ((hheld.still hrely).writers k i hk)⟩
  inode := (congrFun (hheld.still hrely).inode i).trans h.inode

theorem Drafting.append (h : Drafting home p fd name i file s) (bytes : List UInt8) :
    Drafting home p fd name i ⟨file.data ++ bytes, false⟩
      { s with volume := s.volume.append (p, fd.number) bytes } where
  writer := (Volume.append_writer _ _ _ _).trans h.writer
  alone k hk := h.alone k ((Volume.append_writer _ _ _ _).symm.trans hk)
  entry := by simp [Volume.append, h.writer, h.entry]
  used := by simp [Volume.append, h.writer, h.used]
  inode := by simp [Volume.append, h.writer, h.inode]

theorem Drafting.sync (h : Drafting home p fd name i file s) :
    Drafting home p fd name i ⟨file.data, true⟩
      { s with volume := s.volume.sync (p, fd.number) } where
  writer := (Volume.sync_writer _ _ _).trans h.writer
  alone k hk := h.alone k ((Volume.sync_writer _ _ _).symm.trans hk)
  entry := by simp [Volume.sync, h.writer, h.entry]
  used := by simp [Volume.sync, h.writer, h.used]
  inode := by simp [Volume.sync, h.writer, h.inode]

theorem Held.replace (hheld : Held home p lock directory s) (hname : Spare name)
    (hready : Ready home name i data s) : Held home p lock directory
      { s with volume := s.volume.move (home, name) (home, STATE_FILE) } where
  lock := by
    obtain ⟨j, hlock, hentry, hholder⟩ := hheld.lock
    exact ⟨j, hlock, (replace_fair hheld.locked hname home).stays j hentry, hholder⟩
  directory := hheld.directory
  sealed := by
    have hrenews : Renews home p (fun _ _ => True) ⟨s, { s with
        volume := s.volume.move (home, name) (home, STATE_FILE) }, []⟩ :=
      ⟨hheld.locked, name, i, data, hname, hready.entry, hready.inode, hready.closed, trivial, rfl⟩
    exact hrenews.sealed hheld.sealed

/-- Nothing but `data` is found behind a crash. -/
def Durable (home : Directory) (data : List UInt8) (s : Machine P) : Prop :=
  Placed home data s ∧
    ∀ content, s.volume.Survives (home, STATE_FILE) content → content = some data

theorem lasting_durable (home : Directory) (data : List UInt8) :
    Lasting fun s : Machine P => Durable home data s :=
  (lasting_placed home data).and (lasting_survives home data)

variable [DecidableEq P]

theorem Drafting.release (h : Drafting home p fd name i ⟨data, true⟩ s) :
    Ready home name i data { s with volume := s.volume.release (p, fd.number) } where
  entry := h.entry
  closed := by
    refine ⟨h.used, ?_⟩
    intro k hk
    obtain ⟨hne, hwriter⟩ := Volume.release_writer.mp hk
    exact hne (h.alone k hwriter)
  inode := h.inode

theorem stage_call {o : StartupOp} (ho : Inside o) {g : o.Ans → Py κ α}
    {Q : Except PyError α → κ → Move startup (Machine P) → Prop} (hF : Lasting F)
    (hstage : Stage home p lock directory F start move)
    (h : ∀ b s s', Rely home p move.after s → machine p s o b s' →
      Held home p lock directory s →
        Stage home p lock directory F start ⟨s, s', move.log ++ [⟨o, b⟩]⟩ →
          Spec home p New (g b) Q c ⟨s, s', move.log ++ [⟨o, b⟩]⟩) :
    Spec home p New (io o >>= g) Q c move := by
  refine held_call ho hF hstage.held hstage.lasts ?_
  intro b s s' hrely hstep hs _ hs' hf'
  exact h b s s' hrely hstep hs ⟨hs', hf', hstage.log.trans (List.prefix_append _ _)⟩

theorem stage_inside {m : Py κ α} (hm : Asks Inside m) (hF : Lasting F)
    (hstage : Stage home p lock directory F start move) :
    Spec home p New m (fun _ _ move' => Stage home p lock directory F start move') c move := by
  apply wp_mono (spec_inside hm hF hstage.held hstage.lasts) (fun _ h => h)
  intro r c' move' h
  obtain ⟨⟨hheld, hf⟩, new, hlog, _⟩ := h
  exact ⟨hheld, hf, hstage.log.trans (hlog ▸ List.prefix_append _ _)⟩

/-! ## The new file -/

/-- All of the data is written, as every write takes a byte at least. -/
theorem spec_write_data (hF : Lasting F) (rounds : Nat) (rest : List UInt8)
    {done : List UInt8} {synced : Bool}
    {move : Move startup (Machine P)} (hstage : Stage home p lock directory F start move)
    (hdraft : Drafting home p fd name i ⟨done, synced⟩ move.after) :
    Spec home p New (write_data fd rounds rest) (fun r _ move' =>
      Stage home p lock directory F start move' ∧ (r = .ok () → rest.length ≤ rounds →
        ∃ synced, Drafting home p fd name i ⟨done ++ rest, synced⟩ move'.after)) c move := by
  induction rounds generalizing done rest synced move with
  | zero =>
    refine ⟨hstage, ?_⟩
    intro _ hlength
    obtain rfl := List.length_eq_zero_iff.mp (Nat.le_zero.mp hlength)
    exact ⟨synced, by rwa [List.append_nil]⟩
  | succ rounds ih =>
    unfold write_data
    split
    · next hempty =>
      refine ⟨hstage, ?_⟩
      intro _ _
      obtain rfl := List.isEmpty_iff.mp hempty
      exact ⟨synced, by rwa [List.append_nil]⟩
    · rw [Spec, wp_bind]
      refine stage_call ?_ hF hstage ?_
      · trivial
      intro b s s' hrely hstep hs hstage'
      cases b with
      | error e => exact ⟨hstage', fun h => (by cases h)⟩
      | ok n =>
        obtain ⟨written, hle, hn, rfl⟩ := hstep
        obtain rfl := hn n rfl
        simp only [os, Except.mapError, wp_lift]
        refine wp_bail_seq ?_ ⟨hstage', fun h => (by cases h)⟩
        intro hpos
        have hdraft' := (hdraft.rely hstage.held hrely).append (rest.take n)
        apply wp_mono (ih _ hstage' hdraft') (fun _ h => h)
        intro r c' move' h
        refine ⟨h.1, ?_⟩
        intro hr hlength
        obtain ⟨synced', hdone⟩ := h.2 hr (by rw [List.length_drop]; omega)
        rw [List.append_assoc, List.take_append_drop] at hdone
        exact ⟨synced', hdone⟩

theorem inside_close_temporary (fd : Fd .temporary) : Asks Inside (os_close fd : Py κ Unit) :=
  asks_call trivial asks_os

/-- The file is complete, and on the medium. -/
theorem spec_fill_temporary (hF : Lasting F)
    (hstage : Stage home p lock directory F start move)
    (hdraft : Drafting home p fd name i ⟨[], false⟩ move.after) :
    Spec home p New (fill_temporary fd data) (fun r _ move' =>
      Stage home p lock directory F start move' ∧
        (r = .ok () → Drafting home p fd name i ⟨data, true⟩ move'.after)) c move := by
  unfold fill_temporary
  rw [Spec, wp_bind]
  refine stage_call ?_ hF hstage ?_
  · trivial
  intro b s s' hrely hstep hs hstage₁
  obtain rfl := hstep
  have hdraft₁ := hdraft.rely hstage.held hrely
  cases b with
  | error e => exact ⟨hstage₁, fun h => (by cases h)⟩
  | ok info =>
    simp only [os, Except.mapError, wp_lift]
    refine wp_lift_seq ?_ fun e => ⟨hstage₁, fun h => (by cases h)⟩
    intro _ _
    apply wp_seq (spec_write_data hF data.length data hstage₁ hdraft₁)
    · intro _ c₂ move₂ h
      obtain ⟨hstage₂, hwritten⟩ := h
      obtain ⟨synced, hdraft₂⟩ := hwritten rfl le_rfl
      rw [wp_bind]
      refine stage_call ?_ hF hstage₂ ?_
      · trivial
      intro b s s' hrely hstep hs hstage₃
      cases b with
      | error e => exact ⟨hstage₃, fun h => (by cases h)⟩
      | ok _ =>
        obtain rfl := hstep
        have hdraft₃ := (hdraft₂.rely hstage₂.held hrely).sync
        simp only [os, Except.mapError, wp_lift]
        rw [wp_bind]
        refine stage_call ?_ hF hstage₃ ?_
        · trivial
        intro b s₄ s' hrely hstep _ hstage₄
        obtain rfl := hstep
        have hdraft₄ := hdraft₃.rely hstage₃.held hrely
        cases b with
        | error e => exact ⟨hstage₄, fun h => (by cases h)⟩
        | ok info => exact ⟨hstage₄, fun _ => hdraft₄⟩
    · exact fun e _ _ h => ⟨h.1, fun h => (by cases h)⟩

/-! ## The state file -/

/-- The state file is replaced, or nothing happens. -/
theorem spec_replace {policy : String} (hname : Spare name)
    (hstage : Stage home p lock directory (fun s => s.hardware = policy) start move)
    (hready : Ready home name i data move.after)
    (hnew : ∀ log, start <+: log → New data log) :
    Spec home p New (os_replace name STATE_FILE directory) (fun r _ move' =>
      Stage home p lock directory (fun s => s.hardware = policy) start move' ∧
        (r = .ok () → Placed home data move'.after)) c move := by
  apply among_call
  intro b s s' hrely hstep
  have hs := hstage.held.rely hrely
  have hready' := hready.rely hstage.held hrely
  have hhardware : s.hardware = policy :=
    (hstage.held.same hrely).hardware.trans hstage.lasts
  have hlog : start <+: move.log ++ [⟨.replace name STATE_FILE directory, b⟩] :=
    hstage.log.trans (List.prefix_append _ _)
  cases b with
  | error e =>
    obtain rfl := hstep
    exact ⟨⟨.refl home p s', .inl (.refl s')⟩, ⟨hs, hhardware, hlog⟩, fun h => (by cases h)⟩
  | ok _ =>
    obtain ⟨q, q', hq, hq', _, rfl⟩ := hstep
    simp only [Machine.place, hs.directory, Option.map_some, Option.some.injEq] at hq hq'
    subst hq hq'
    refine ⟨⟨replace_fair hs.locked hname home, .inr ⟨hs.locked, name, i, data, hname,
      hready'.entry, hready'.inode, hready'.closed, hnew _ hlog, rfl⟩⟩,
      ⟨hs.replace hname hready', hhardware, hlog⟩, ?_⟩
    intro _
    have hne : ((home, STATE_FILE) : Place) ≠ (home, name) := spare_ne hname not_spare_state
    refine ⟨i, ?_, hready'.closed, hready'.inode⟩
    simp [Volume.move, hne, hready'.entry]

/-- Synchronising the directory makes the new file last. -/
theorem spec_fsync_directory
    (hF : Lasting F) (hstage : Stage home p lock directory F start move)
    (hplaced : Placed home data move.after) :
    Spec home p New (os_fsync directory) (fun r _ move' =>
      Stage home p lock directory F start move' ∧
        (r = .ok () → Durable home data move'.after)) c move := by
  refine stage_call ?_ hF hstage ?_
  · trivial
  intro b s s' hrely hstep hs hstage'
  cases b with
  | error e => exact ⟨hstage', fun h => (by cases h)⟩
  | ok _ =>
    refine ⟨hstage', fun _ => ?_⟩
    have hplaced' : Placed home data s :=
      lasting_placed home data _ _ hstage.held.sealed (hstage.held.same hrely) hplaced
    obtain ⟨d, hd, rfl⟩ := hstep
    rw [hs.directory] at hd
    obtain rfl := Option.some.inj hd
    obtain ⟨i, hentry, hclosed, hinode⟩ := hplaced'
    refine ⟨⟨i, hentry, hclosed, hinode⟩, ?_⟩
    intro content hsurvives
    have hholds := Volume.survives_settle (by simp) hsurvives
    rw [hentry] at hholds
    obtain ⟨data', hcontent, hdata⟩ := hholds
    rw [hinode] at hdata
    rw [hcontent, hdata rfl]

theorem drafting_opened {n : Nat} (hunused : s.volume.Unused s.volume.next) :
    Drafting home p ⟨n⟩ name s.volume.next ⟨[], false⟩
      { s with volume := s.volume.draft (home, name) (p, n) } where
  writer := by simp [Volume.draft]
  alone k hk := by
    by_contra hne
    simp only [Volume.draft, Function.update_of_ne hne] at hk
    exact hunused k hk
  entry := by simp [Volume.draft, Volume.create]
  used := by simp [Volume.draft, Volume.create]
  inode := by simp [Volume.draft, Volume.create]

theorem spec_replace_state {policy : String} (hname : Spare name)
    (hstage : Stage home p lock directory (fun s => s.hardware = policy) start move)
    (hnew : ∀ log, start <+: log → New data log) {c : Saving} :
    Spec home p New (replace_state directory name data) (fun r _ move' =>
      Stage home p lock directory (fun s => s.hardware = policy) start move' ∧
        (r = .ok () → Durable home data move'.after)) c move := by
  have hF := lasting_hardware (P := P) policy
  unfold replace_state os_open
  rw [Spec, wp_bind]
  refine stage_call ?_ hF hstage ?_
  · exact hname
  intro b s s' hrely hstep hs hstage₁
  cases b with
  | error e => exact ⟨hstage₁, fun h => (by cases h)⟩
  | ok n =>
    obtain ⟨_, _, q, hfd, hq, _, hunused, rfl⟩ := hstep
    obtain rfl := Option.some.inj hfd
    simp only [Machine.place, hs.directory, Option.map_some, Option.some.injEq] at hq
    subst hq
    simp only [os, Except.mapError, wp_bind, wp_lift, wp_pure, wp_update]
    apply wp_mono (spec_fill_temporary hF hstage₁ (drafting_opened hunused)) fun _ h => h
    intro r₂ c₂ move₂ h₂
    obtain ⟨hstage₂, hfilled⟩ := h₂
    cases r₂ with
    | error e => exact ⟨hstage₂, fun h => (by cases h)⟩
    | ok _ =>
      dsimp only
      refine stage_call ?_ hF hstage₂ ?_
      · trivial
      intro b s₃ s' hrely hstep hs₃ hstage₃
      obtain rfl := hstep
      have hready := ((hfilled rfl).rely hstage₂.held hrely).release
      cases b with
      | error e => exact ⟨hstage₃, fun h => (by cases h)⟩
      | ok _ =>
        simp only [os, Except.mapError, wp_lift]
        apply wp_mono (spec_replace hname hstage₃ hready hnew) fun _ h => h
        intro r₄ c₄ move₄ h₄
        obtain ⟨hstage₄, hplaced⟩ := h₄
        cases r₄ with
        | error e => exact ⟨hstage₄, fun h => (by cases h)⟩
        | ok _ => exact spec_fsync_directory hF hstage₄ (hplaced rfl)

/-! ## `save` -/

theorem inside_discard (directory : Fd .directory) (hname : Spare name) :
    Asks Inside (discard_temporary directory name) := by
  apply asks_ctx.bind
  intro saving
  apply (asks_close_some saving.fd fun _ => trivial).bind
  intro _
  split
  · exact asks_pure _
  · have hunlink : Asks Inside (os_unlink name directory : Py Saving Unit) :=
      asks_call hname asks_os
    exact hunlink.recover fun _ => asks_pure _

/-- If `save` returns, the record is there to stay. -/
theorem spec_save {json : Json} {record : Record} {policy : String}
    (hstage : Stage home p lock directory (fun s => s.hardware = policy) start move)
    (hnew : ∀ log, start <+: log → New (state_bytes json record) log) :
    Spec home p New (save json directory record) (fun r _ move' =>
      Stage home p lock directory (fun s => s.hardware = policy) start move' ∧
        (r = .ok () → Durable home (state_bytes json record) move'.after ∧
          ∃ saved, decode_state json (state_bytes json record) = .ok saved)) c move := by
  have hF := lasting_hardware (P := P) policy
  unfold save
  refine wp_lift_seq ?_ fun e => ⟨hstage, fun h => (by cases h)⟩
  intro saved hsaved
  apply wp_seq (stage_inside (inside_load json directory) hF hstage)
  · intro _ c₁ move₁ hstage₁
    refine stage_call ?_ hF hstage₁ ?_
    · trivial
    intro token s s' _ _ _ hstage₂
    rw [Spec, wp_block]
    have hname := spare_temporary token
    have htry : Spec home p New
        (recover (replace_state directory (".startup-" ++ token ++ ".tmp") (state_bytes json record))
          saving_failed) (fun r _ move' =>
        Stage home p lock directory (fun s => s.hardware = policy) start move' ∧
          (r = .ok () → Durable home (state_bytes json record) move'.after)) ⟨none, false⟩
        ⟨s, s', move₁.log ++ [⟨.token_hex 16, token⟩]⟩ := by
      apply wp_handle (spec_replace_state hname hstage₂ hnew)
      · exact fun _ _ _ h => h
      · intro e c₃ move₃ h₃
        exact ⟨h₃.1, fun h => (by cases h)⟩
    apply wp_always htry
    intro r c₃ move₃ h₃
    obtain ⟨hstage₃, hdurable⟩ := h₃
    cases r with
    | error e =>
      apply wp_mono (stage_inside (inside_discard directory hname) hF hstage₃) fun _ h => h
      intro u c₄ move₄ hstage₄
      cases u with
      | ok _ => exact ⟨hstage₄, fun h => (by cases h)⟩
      | error e => exact ⟨hstage₄, fun h => (by cases h)⟩
    | ok _ =>
      have hboth : Stage home p lock directory
          (fun s => s.hardware = policy ∧ Durable home (state_bytes json record) s) start move₃ :=
        ⟨hstage₃.held, ⟨hstage₃.lasts, hdurable rfl⟩, hstage₃.log⟩
      apply wp_mono (stage_inside (inside_discard directory hname)
        (hF.and (lasting_durable home _)) hboth) fun _ h => h
      intro u c₄ move₄ h₄
      have hstage₄ : Stage home p lock directory (fun s => s.hardware = policy) start move₄ :=
        ⟨h₄.held, h₄.lasts.1, h₄.log⟩
      cases u with
      | ok _ => exact ⟨hstage₄, fun _ => ⟨h₄.lasts.2, saved, mapError_eq_ok.mp hsaved⟩⟩
      | error e => exact ⟨hstage₄, fun h => (by cases h)⟩
  · exact fun e _ _ hstage₁ => ⟨hstage₁, fun h => (by cases h)⟩

end UgreenNas.Startup
