import UgreenNas.Startup.Writing

/-! # The way to the lock and back

    The descriptor that `open` yields is one of the directory that the path
    names.  `locked` takes the lock of that directory, and when it is given
    up, what was done under it is there for everybody.
-/

namespace UgreenNas.Startup

open Effect Effect.Proc Storage Machine

variable {P : Type} {home d : Directory} {p : P} {κ α β : Type} {New : List UInt8 → Log → Prop}
  {s s' : Machine P} {fd directory : Fd .directory} {c : κ} {move : Move startup (Machine P)}

/-- The descriptor is one of the directory `d`, and no state file can be
    written to. -/
structure Directed (p : P) (d : Directory) (fd : Fd .directory) (s : Machine P) : Prop where
  directory : s.directories (p, fd.number) = some d
  sealed : Sealed s

theorem Directed.rely (h : Directed p d fd s) (hrely : Rely home p s s') : Directed p d fd s' :=
  ⟨(hrely.own.directories _).trans h.directory, hrely.sealed h.sealed⟩

variable [DecidableEq P]

/-! ## Operations without the lock -/

theorem free_intact {o : StartupOp} (ho : Free o) {b : o.Ans} (h : machine p s o b s') : Intact s s' := by
  obtain ⟨_, hintact⟩ : Fair [] p s s' ∧ Intact s s' := free_step ho h
  exact hintact

/-- Operations that need no lock keep what they keep one by one. -/
theorem spec_free {O : StartupOp → Prop} {m : Py κ α} (hm : Asks O m) (hfree : ∀ o, O o → Free o)
    {J : Machine P → Prop} (hrely : ∀ s s', Rely home p s s' → J s → J s')
    (hstep : ∀ s o b s', O o → machine p s o b s' → J s → J s') (hJ : J move.after) :
    Spec home p New m (fun _ _ move' => J move'.after) c move := by
  refine wp_mono (hm.among hrely ?_ hJ) (fun _ h => h) fun _ _ _ h => h.1
  intro s o b s' log ho hans h
  obtain ⟨hfair, hintact⟩ : Fair home p s s' ∧ Intact s s' := free_step (hfree o ho) hans
  exact ⟨⟨hfair, .inl hintact⟩, hstep s o b s' ho hans h⟩

theorem spec_sealed {m : Py κ α} (hm : Asks Free m) (hs : Sealed move.after) :
    Spec home p New m (fun _ _ move' => Sealed move'.after) c move :=
  spec_free hm (fun _ h => h) (fun _ _ h => h.sealed)
    (fun _ _ _ _ ho hans => (free_intact ho hans).sealed) hs

/-- Operations that leave the descriptors of directories alone. -/
def Aside (o : StartupOp) : Prop := Free o ∧ (Inside o ∨ Makes o)

theorem aside_directories {o : StartupOp} (ho : Aside o) {b : o.Ans} (h : machine p s o b s') :
    s'.directories = s.directories := by
  obtain ⟨_, hinside | hmakes⟩ := ho
  · exact (inside_untouched hinside h).1
  · cases o with
    | mkdir name mode fd =>
      cases b with
      | ok u =>
        obtain ⟨d, _, _, rfl⟩ := h
        rfl
      | error e => exact congrArg Machine.directories h
    | fsync purpose fd => exact (inside_untouched (o := .fsync purpose fd) trivial h).1
    | _ => cases hmakes

theorem spec_aside {m : Py κ α} (hm : Asks Aside m) (h : Directed p d fd move.after) :
    Spec home p New m (fun _ _ move' => Directed p d fd move'.after) c move := by
  refine spec_free hm (fun _ h => h.1) (fun _ _ hrely h => h.rely hrely) ?_ h
  intro s o b s' ho hans h
  refine ⟨?_, (free_intact ho.1 hans).sealed h.sealed⟩
  rw [aside_directories ho hans]
  exact h.directory

/-- An operation without the lock, and what follows it. -/
theorem free_call {o : StartupOp} (ho : Free o) {g : o.Ans → Py κ α}
    {Q : Except PyError α → κ → Move startup (Machine P) → Prop} (hs : Sealed move.after)
    (h : ∀ b s s', Rely home p move.after s → machine p s o b s' → Sealed s → Sealed s' →
      Spec home p New (g b) Q c ⟨s, s', move.log ++ [⟨o, b⟩]⟩) :
    Spec home p New (io o >>= g) Q c move := by
  apply among_call
  intro b s s' hrely hstep
  obtain ⟨hfair, hintact⟩ : Fair home p s s' ∧ Intact s s' := free_step ho hstep
  have hs' := hrely.sealed hs
  exact ⟨⟨hfair, .inl hintact⟩, h b s s' hrely hstep hs' (hintact.sealed hs')⟩

/-! ## `open` -/

/-- Opening a directory leaves the other descriptors alone. -/
theorem spec_os_open {name : String} {dir_fd : Option (Fd .directory)}
    (hlookup : ∀ s, Rely home p move.after s → s.lookup p name dir_fd = some d)
    (hs : Sealed move.after) :
    Spec home p New (os_open .directory name dir_fd) (fun r _ move' => Sealed move'.after ∧
      (∀ old d', Directed p d' old move.after → Directed p d' old move'.after ∧
        ∀ fd, r = .ok fd → fd.number ≠ old.number) ∧
      ∀ fd, r = .ok fd → Directed p d fd move'.after) c move := by
  refine free_call ?_ hs ?_
  · trivial
  intro b s s' hrely hstep _ hs'
  cases b with
  | error e =>
    obtain rfl := hstep
    exact ⟨hs', fun _ _ h => ⟨h.rely hrely, fun _ h => (by cases h)⟩, fun _ h => (by cases h)⟩
  | ok n =>
    obtain ⟨hfresh, d', hd', rfl⟩ := hstep
    rw [hlookup s hrely] at hd'
    obtain rfl := Option.some.inj hd'
    refine ⟨hs', ?_, ?_⟩
    · intro old d' hold
      have hold' := hold.rely hrely
      have hne : n ≠ old.number := by
        intro heq
        have hopen := hold'.directory
        rw [← heq, hfresh] at hopen
        cases hopen
      refine ⟨⟨?_, hs'⟩, ?_⟩
      · show Function.update s.directories (p, n) (some d) (p, old.number) = some d'
        rw [Function.update_of_ne (by simp [Ne.symm hne])]
        exact hold'.directory
      · intro fd hfd
        obtain rfl := Except.ok.inj hfd
        exact hne
    · intro fd hfd
      obtain rfl := Except.ok.inj hfd
      exact ⟨Function.update_self _ _ _, hs'⟩

/-- The part of the way that `part` names. -/
theorem spec_open_component {create : Bool} {part : String} (h : Directed p d fd move.after) :
    Spec home p New (open_component create part fd) (fun r _ move' =>
      Directed p d fd move'.after ∧ ∀ child, r = .ok (some child) →
        Directed p (d ++ [part]) child move'.after ∧ child.number ≠ fd.number) c move := by
  have hlookup : ∀ s s' : Machine P, Directed p d fd s → Rely home p s s' →
      s'.lookup p part (some fd) = some (d ++ [part]) := by
    intro s s' h hrely
    simp [Machine.lookup, (h.rely hrely).directory]
  have hopen : ∀ (c : κ) (move : Move startup (Machine P)), Directed p d fd move.after →
      Spec home p New (do
        let child ← os_open .directory part (some fd)
        return some child) (fun r _ move' =>
          Directed p d fd move'.after ∧ ∀ child, r = .ok (some child) →
            Directed p (d ++ [part]) child move'.after ∧ child.number ≠ fd.number) c move := by
    intro c move h
    apply wp_seq (spec_os_open (fun s hrely => hlookup _ s h hrely) h.sealed)
    · intro child c₁ move₁ h₁
      obtain ⟨hs₁, hold, hnew⟩ := h₁
      obtain ⟨hfd, hne⟩ := hold fd d h
      refine ⟨hfd, ?_⟩
      intro child' heq
      obtain rfl := Option.some.inj (Except.ok.inj heq)
      exact ⟨hnew child rfl, hne child rfl⟩
    · intro e c₁ move₁ h₁
      exact ⟨(h₁.2.1 fd d h).1, fun _ h => (by cases h)⟩
  apply wp_handle (hopen c move h)
  · exact fun _ _ _ h => h
  · intro e c₁ move₁ h₁
    split
    · split
      · have hmake : Asks Aside (recover (do
            os_mkdir part 0o700 fd
            os_fsync fd) fun error =>
              if error.is_a .file_exists then pure () else fail error : Py κ Unit) := by
          have hmkdir : Asks Aside (os_mkdir part 0o700 fd : Py κ Unit) :=
            asks_call ⟨trivial, .inr trivial⟩ asks_os
          have hfsync : Asks Aside (os_fsync fd : Py κ Unit) :=
            asks_call ⟨trivial, .inr trivial⟩ asks_os
          apply (hmkdir.bind fun _ => hfsync).recover
          intro error
          split
          · exact asks_pure _
          · exact asks_fail _
        apply wp_seq (spec_aside hmake h₁.1)
        · exact fun _ c₂ move₂ h₂ => hopen c₂ move₂ h₂
        · exact fun _ _ _ h₂ => ⟨h₂, fun _ h => (by cases h)⟩
      · exact ⟨h₁.1, fun _ h => (by cases h)⟩
    · exact ⟨h₁.1, fun _ h => (by cases h)⟩

theorem free_close (fd : Fd .directory) : Asks Free (os_close fd : Py κ Unit) :=
  asks_call trivial asks_os

/-- A descriptor is closed, and another one is not. -/
theorem spec_close {other : Fd .directory} (h : Directed p d other move.after)
    (hne : other.number ≠ fd.number) :
    Spec home p New (os_close fd) (fun _ _ move' => Directed p d other move'.after) c move := by
  refine free_call ?_ h.sealed ?_
  · trivial
  intro b s s' hrely hstep _ hs'
  have hafter : Directed p d other s' := by
    obtain rfl := hstep
    refine ⟨?_, hs'⟩
    show Function.update s.directories (p, fd.number) none (p, other.number) = some d
    rw [Function.update_of_ne (by simp [hne])]
    exact (h.rely hrely).directory
  cases b with
  | ok _ => exact hafter
  | error e => exact hafter

theorem aside_fstat (fd : Fd .directory) : Asks Aside (os_fstat fd : Py κ StatResult) :=
  asks_call ⟨trivial, .inl trivial⟩ asks_os

theorem spec_open_parts {create : Bool} (parts : List String) {d : Directory} {fd : Fd .directory}
    {c : Option (Fd .directory)} {move : Move startup (Machine P)}
    (h : Directed p d fd move.after) :
    Spec home p New (open_parts create parts fd) (fun r _ move' => Sealed move'.after ∧
      ∀ fd', r = .ok (some fd') → Directed p (d ++ parts) fd' move'.after) c move := by
  induction parts generalizing d fd c move with
  | nil =>
    refine ⟨h.sealed, ?_⟩
    intro fd' heq
    obtain rfl := Option.some.inj (Except.ok.inj heq)
    rwa [List.append_nil]
  | cons part parts ih =>
    apply wp_seq (spec_open_component h)
    · intro child c₁ move₁ h₁
      obtain ⟨hfd, hchild⟩ := h₁
      cases child with
      | none =>
        apply wp_seq (spec_sealed (free_close fd) hfd.sealed)
        · exact fun _ _ _ hs => ⟨hs, fun _ h => (by cases h)⟩
        · exact fun _ _ _ hs => ⟨hs, fun _ h => (by cases h)⟩
      | some child =>
        obtain ⟨hnew, hne⟩ := hchild child rfl
        apply wp_seq (spec_close hnew hne)
        · intro _ c₂ move₂ h₂
          rw [wp_update_then]
          apply wp_seq (spec_aside (aside_fstat child) h₂)
          · intro info c₃ move₃ h₃
            refine wp_lift_seq ?_ fun _ => ⟨h₃.sealed, fun _ h => (by cases h)⟩
            intro _ _
            have hrest := ih (c := c₃) h₃
            rw [List.append_assoc, List.singleton_append] at hrest
            exact hrest
          · exact fun _ _ _ h₃ => ⟨h₃.sealed, fun _ h => (by cases h)⟩
        · exact fun _ _ _ h₂ => ⟨h₂.sealed, fun _ h => (by cases h)⟩
    · exact fun _ _ _ h₁ => ⟨h₁.1.sealed, fun _ h => (by cases h)⟩

/-- `open` yields the directory that the path names. -/
theorem spec_open_directory {create : Bool} {parts : List String} {c : Option (Fd .directory)}
    (hs : Sealed move.after) :
    Spec home p New (open_directory create parts) (fun r _ move' => Sealed move'.after ∧
      ∀ fd, r = .ok (some fd) → Directed p parts fd move'.after) c move := by
  have hroot : ∀ s, Rely home p move.after s → s.lookup p "/" none = some [] :=
    fun _ _ => rfl
  apply wp_seq (spec_os_open hroot hs)
  · intro fd c₁ move₁ h₁
    rw [wp_update_then]
    apply wp_seq (spec_aside (aside_fstat fd) (h₁.2.2 fd rfl))
    · intro info c₂ move₂ h₂
      refine wp_lift_seq ?_ fun _ => ⟨h₂.sealed, fun _ h => (by cases h)⟩
      intro _ _
      apply wp_seq (spec_open_parts parts h₂)
      · intro directory c₃ move₃ h₃
        obtain ⟨hs₃, hopened⟩ := h₃
        cases directory with
        | none => exact ⟨hs₃, fun _ h => (by cases h)⟩
        | some fd =>
          apply wp_seq (spec_aside (aside_fstat fd) (hopened fd rfl))
          · intro info c₄ move₄ h₄
            refine wp_lift_seq ?_ fun _ => ⟨h₄.sealed, fun _ h => (by cases h)⟩
            intro _ _
            refine ⟨h₄.sealed, ?_⟩
            intro fd' heq
            obtain rfl := Option.some.inj (Except.ok.inj heq)
            exact h₄
          · exact fun _ _ _ h₄ => ⟨h₄.sealed, fun _ h => (by cases h)⟩
      · exact fun _ _ _ h₃ => ⟨h₃.1, fun _ h => (by cases h)⟩
    · exact fun _ _ _ h₂ => ⟨h₂.sealed, fun _ h => (by cases h)⟩
  · exact fun _ _ _ h₁ => ⟨h₁.1, fun _ h => (by cases h)⟩

end UgreenNas.Startup
