import UgreenNas.Effect.Pool
import UgreenNas.Startup.Acknowledged
import UgreenNas.Startup.Rely

/-! # A coordinator that holds the lock

    While a coordinator holds the lock, nobody else changes what it looks
    at: what it reads is what is there, until it changes it.

    * `Guarantee` : what a coordinator promises of each operation;
    * `Held`      : the lock is held through a descriptor;
    * `Lasting`   : what holds until the state file or the hardware changes.
-/

namespace UgreenNas.Startup

open Effect Effect.Proc Storage Machine

variable {P : Type} {home : Directory} {p : P} {κ α β : Type}
  {New : List UInt8 → Log → Prop} {s s' : Machine P}

/-! ## Guarantees -/

/-- The holder of the lock puts the file with the contents `data` in the
    place of the state file. -/
def Renews (home : Directory) (p : P) (New : List UInt8 → Log → Prop)
    (move : Move startup (Machine P)) : Prop :=
  Locked home p move.before ∧ ∃ name i data, Spare name ∧
    move.before.volume.entry (home, name) = some i ∧
    move.before.volume.inode i = ⟨data, true⟩ ∧ move.before.volume.Closed i ∧
    New data move.log ∧
    move.after = { move.before with
      volume := move.before.volume.move (home, name) (home, STATE_FILE) }

/-- A fair operation leaves the state files alone, or renews the one of the
    store. -/
def Guarantee (home : Directory) (p : P) (New : List UInt8 → Log → Prop)
    (move : Move startup (Machine P)) : Prop :=
  Fair home p move.before move.after ∧
    (Intact move.before move.after ∨ Renews home p New move)

theorem Renews.sealed {move : Move startup (Machine P)} (h : Renews home p New move)
    (hs : Sealed move.before) : Sealed move.after := by
  obtain ⟨_, name, i, data, hname, hentry, _, hclosed, _, hafter⟩ := h
  rw [hafter]
  intro d
  have hne : ((d, STATE_FILE) : Place) ≠ (home, name) := spare_ne hname not_spare_state
  by_cases hd : d = home
  · subst hd
    exact Volume.sealed_move hentry hne hclosed (hs d)
  · have hne' : ((d, STATE_FILE) : Place) ≠ (home, STATE_FILE) := by simp [hd]
    exact (Volume.keeps_move _ hne hne').sealed (hs d)

theorem Guarantee.sealed {move : Move startup (Machine P)} (h : Guarantee home p New move)
    (hs : Sealed move.before) : Sealed move.after := by
  obtain hintact | hrenews := h.2
  · exact hintact.sealed hs
  · exact hrenews.sealed hs

/-! ## Under the lock -/

/-- The lock of the store is held through `lock`. -/
structure Held (home : Directory) (p : P) (lock : Fd .lock) (directory : Fd .directory)
    (s : Machine P) : Prop where
  lock : ∃ i, s.locks (p, lock.number) = some i ∧
    s.volume.entry (home, LOCK_FILE) = some i ∧ s.holder i = some (p, lock.number)
  directory : s.directories (p, directory.number) = some home
  sealed : Sealed s

/-- The hardware and the state files are as they were. -/
structure Same (s s' : Machine P) : Prop where
  hardware : s'.hardware = s.hardware
  keeps : ∀ d, Volume.Keeps (d, STATE_FILE) s.volume s'.volume

/-- What can only change with the hardware or with a state file. -/
def Lasting (F : Machine P → Prop) : Prop := ∀ s s', Sealed s → Same s s' → F s → F s'

variable {lock : Fd .lock} {directory : Fd .directory}

theorem Held.locked (h : Held home p lock directory s) : Locked home p s := by
  obtain ⟨i, _, hentry, hholder⟩ := h.lock
  exact ⟨i, lock.number, hentry, hholder⟩

theorem Held.still (h : Held home p lock directory s) (hrely : Rely home p s s') : Still s s' :=
  hrely.still h.locked

theorem Held.same (h : Held home p lock directory s) (hrely : Rely home p s s') : Same s s' :=
  ⟨(h.still hrely).hardware, fun _ => (h.still hrely).keeps⟩

theorem Held.rely (h : Held home p lock directory s) (hrely : Rely home p s s') :
    Held home p lock directory s' where
  lock := by
    obtain ⟨i, hlock, hentry, hholder⟩ := h.lock
    exact ⟨i, (hrely.own.locks _).trans hlock, hrely.stays i hentry,
      (hrely.own.holder i _).mpr hholder⟩
  directory := (hrely.own.directories _).trans h.directory
  sealed := hrely.sealed h.sealed

/-! ### What lasts -/

theorem lasting_true : Lasting fun _ : Machine P => True := fun _ _ _ _ _ => trivial

theorem lasting_hardware (policy : String) : Lasting fun s : Machine P => s.hardware = policy :=
  fun _ _ _ hsame h => hsame.hardware.trans h

theorem lasting_content (d : Directory) (content : Option (List UInt8)) :
    Lasting fun s : Machine P => s.volume.content (d, STATE_FILE) = content :=
  fun _ _ hs hsame h => ((hsame.keeps d).content (hs d)).trans h

theorem lasting_survives (d : Directory) (data : List UInt8) : Lasting fun s : Machine P =>
    ∀ content, s.volume.Survives (d, STATE_FILE) content → content = some data :=
  fun _ _ hs hsame h content hcontent => h content ((hsame.keeps d).survives (hs d) hcontent)

theorem Lasting.and {F G : Machine P → Prop} (hF : Lasting F) (hG : Lasting G) :
    Lasting fun s => F s ∧ G s :=
  fun s s' hs hsame h => ⟨hF s s' hs hsame h.1, hG s s' hs hsame h.2⟩

variable [DecidableEq P]

/-- The weakest precondition of a coordinator among others. -/
abbrev Spec (home : Directory) (p : P) (New : List UInt8 → Log → Prop) (m : Py κ α)
    (Q : Except PyError α → κ → Move startup (Machine P) → Prop) (c : κ)
    (move : Move startup (Machine P)) : Prop :=
  wp ((machine p).among (Rely home p)) (Guarantee home p New) m Q c move

/-! ## Operations under the lock -/

/-- Operations between taking the lock and giving it up, but for those that
    set the policy or replace the state file. -/
def Inside : StartupOp → Prop
  | .open_file .state _ _ => True
  | .open_file .temporary name _ => Spare name
  | .fsync _ _ => True
  | .close .state _ => True
  | .close .temporary _ => True
  | .fstat _ _ => True
  | .read _ _ => True
  | .write _ _ => True
  | .unlink name _ => Spare name
  | .token_hex _ => True
  | .read_dmi _ _ => True
  | .run command => is_set command = false
  | _ => False

theorem inside_free {o : StartupOp} (ho : Inside o) : Free o ∨ Critical o := by
  cases o with
  | open_file purpose _ _ => cases purpose <;> simp_all [Inside, Free, Critical]
  | fsync purpose _ => cases purpose <;> simp_all [Free, Critical]
  | close purpose _ => cases purpose <;> simp_all [Inside, Free]
  | _ => simp_all [Inside, Free, Critical]

/-- They leave the lock and the hardware alone. -/
theorem inside_untouched {o : StartupOp} (ho : Inside o) {b : o.Ans} (h : machine p s o b s') :
    s'.directories = s.directories ∧ s'.locks = s.locks ∧ s'.holder = s.holder ∧
      s'.hardware = s.hardware := by
  have hsame : s' = s → s'.directories = s.directories ∧ s'.locks = s.locks ∧
      s'.holder = s.holder ∧ s'.hardware = s.hardware := by
    rintro rfl
    exact ⟨rfl, rfl, rfl, rfl⟩
  cases o with
  | fstat | token_hex | read_dmi => exact hsame h
  | open_file purpose name dir_fd =>
    cases b with
    | ok n =>
      cases purpose with
      | state =>
        obtain ⟨_, _, _, i, _, _, _, rfl⟩ := h
        exact ⟨rfl, rfl, rfl, rfl⟩
      | temporary =>
        obtain ⟨_, _, _, _, _, _, _, rfl⟩ := h
        exact ⟨rfl, rfl, rfl, rfl⟩
      | directory | lock => cases ho
    | error e => exact hsame h
  | fsync purpose fd =>
    cases purpose with
    | directory =>
      cases b with
      | ok u =>
        obtain ⟨d, _, rfl⟩ := h
        exact ⟨rfl, rfl, rfl, rfl⟩
      | error e => exact hsame h
    | temporary =>
      cases b with
      | ok u =>
        obtain rfl := h
        exact ⟨rfl, rfl, rfl, rfl⟩
      | error e => exact hsame h
    | lock | state => exact hsame h
  | close purpose fd =>
    cases purpose with
    | state | temporary =>
      obtain rfl := h
      exact ⟨rfl, rfl, rfl, rfl⟩
    | directory | lock => cases ho
  | read fd size =>
    cases b with
    | ok bytes =>
      obtain ⟨i, offset, _, _, _, _, rfl⟩ := h
      exact ⟨rfl, rfl, rfl, rfl⟩
    | error e => exact hsame h
  | write fd data =>
    obtain ⟨written, _, _, rfl⟩ := h
    exact ⟨rfl, rfl, rfl, rfl⟩
  | unlink name fd =>
    cases b with
    | ok u =>
      obtain ⟨place, _, rfl⟩ := h
      exact ⟨rfl, rfl, rfl, rfl⟩
    | error e => exact hsame h
  | run command =>
    have hset : is_set command = false := ho
    simp only [machine, hset] at h
    exact hsame h.1
  | platform | geteuid | mkdir | flock | replace | print_result => cases ho

theorem inside_step (hheld : Held home p lock directory s) {o : StartupOp} (ho : Inside o)
    {b : o.Ans} (h : machine p s o b s') :
    Fair home p s s' ∧ Intact s s' ∧ Held home p lock directory s' ∧ Same s s' := by
  have hfair : Fair home p s s' ∧ Intact s s' := by
    obtain hfree | hcritical := inside_free ho
    · exact free_step hfree h
    · exact critical_step hheld.locked hcritical h
  obtain ⟨hdirectories, hlocks, hholder, hhardware⟩ := inside_untouched ho h
  refine ⟨hfair.1, hfair.2, ⟨?_, ?_, hfair.2.sealed hheld.sealed⟩, hhardware, hfair.2.keeps⟩
  · obtain ⟨i, hlock, hentry, hi⟩ := hheld.lock
    refine ⟨i, ?_, hfair.1.stays i hentry, ?_⟩
    · rw [hlocks]
      exact hlock
    · rw [hholder]
      exact hi
  · rw [hdirectories]
    exact hheld.directory

/-- What lasts, lasts while such operations are asked for. -/
theorem spec_inside {m : Py κ α} (hm : Asks Inside m) {F : Machine P → Prop} (hF : Lasting F)
    {c : κ} {move : Move startup (Machine P)} (hheld : Held home p lock directory move.after)
    (hf : F move.after) :
    Spec home p New m (fun r c' move' => (Held home p lock directory move'.after ∧
      F move'.after) ∧ ∃ new, move'.log = move.log ++ new ∧
        Runs (recorded startup) m c [] r c' new) c move := by
  refine hm.among (J := fun s => Held home p lock directory s ∧ F s) ?_ ?_ ⟨hheld, hf⟩
  · intro s s' hrely h
    exact ⟨h.1.rely hrely, hF s s' h.1.sealed (h.1.same hrely) h.2⟩
  · intro s o b s' log ho hstep h
    obtain ⟨hfair, hintact, hheld', hsame⟩ := inside_step h.1 ho hstep
    exact ⟨⟨hfair, .inl hintact⟩, hheld', hF s s' h.1.sealed hsame h.2⟩

end UgreenNas.Startup
