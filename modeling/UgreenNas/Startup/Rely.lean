import UgreenNas.Startup.Machine

/-! # What coordinators rely on

    The store is the directory `home`.  A coordinator that holds the lock
    relies on the others to leave the files and the hardware alone; without
    the lock it relies on nothing but its own descriptors.

    * `Rely`   : what the others may do to a coordinator;
    * `Fair`   : what a coordinator may do to the others;
    * `Intact` : no state file is touched.
-/

namespace UgreenNas.Startup

open Effect Storage Machine

variable {P : Type} {home : Directory} {p q : P} {s s' s'' : Machine P}

/-! ## Relations -/

/-- `p` holds the lock of the store. -/
def Locked (home : Directory) (p : P) (s : Machine P) : Prop :=
  ∃ i n, s.volume.entry (home, LOCK_FILE) = some i ∧ s.holder i = some (p, n)

/-- One at a time. -/
theorem Locked.unique (hp : Locked home p s) (hq : Locked home q s) : p = q := by
  obtain ⟨i, n, hentry, hholder⟩ := hp
  obtain ⟨j, m, hentry', hholder'⟩ := hq
  rw [hentry] at hentry'
  obtain rfl := Option.some.inj hentry'
  rw [hholder] at hholder'
  exact (Prod.ext_iff.mp (Option.some.inj hholder')).1

/-- What belongs to `p` is as it was. -/
structure Own (p : P) (s s' : Machine P) : Prop where
  directories : ∀ n, s'.directories (p, n) = s.directories (p, n)
  readers : ∀ n, s'.readers (p, n) = s.readers (p, n)
  locks : ∀ n, s'.locks (p, n) = s.locks (p, n)
  writers : ∀ n, s'.volume.writer (p, n) = s.volume.writer (p, n)
  holder : ∀ i n, s'.holder i = some (p, n) ↔ s.holder i = some (p, n)
  left : s'.left p = s.left p

/-- Neither the files nor the hardware change. -/
structure Still (s s' : Machine P) : Prop where
  hardware : s'.hardware = s.hardware
  entry : s'.volume.entry = s.volume.entry
  inode : s'.volume.inode = s.volume.inode
  next : s'.volume.next = s.volume.next
  earlier : ∀ change ∈ s'.volume.earlier, change ∈ s.volume.earlier
  writers : ∀ h i, s'.volume.writer h = some i → s.volume.writer h = some i

/-- The lock file stays the one it is. -/
def Stays (home : Directory) (s s' : Machine P) : Prop :=
  ∀ i, s.volume.entry (home, LOCK_FILE) = some i → s'.volume.entry (home, LOCK_FILE) = some i

/-- No state file can be written to. -/
def Sealed (s : Machine P) : Prop := ∀ d, s.volume.Sealed (d, STATE_FILE)

/-- What the others may do between two operations of `p`. -/
structure Rely (home : Directory) (p : P) (s s' : Machine P) : Prop where
  own : Own p s s'
  stays : Stays home s s'
  still : Locked home p s → Still s s'
  sealed : Sealed s → Sealed s'

/-- What `p` may do in an operation. -/
structure Fair (home : Directory) (p : P) (s s' : Machine P) : Prop where
  others : ∀ q, q ≠ p → Own q s s'
  stays : Stays home s s'
  still : ∀ q, q ≠ p → Locked home q s → Still s s'
  hardware : s'.hardware = s.hardware ∨ Locked home p s

/-- No state file is touched, and what is lost with a new directory was not
    there before. -/
structure Intact (s s' : Machine P) : Prop where
  keeps : ∀ d, Volume.Keeps (d, STATE_FILE) s.volume s'.volume
  made : ∀ d ∈ s'.made, d ∈ s.made ∨ ∀ q : Place, d <+: q.1 → s.volume.entry q = none

/-! ### Composition -/

theorem Own.refl (p : P) (s : Machine P) : Own p s s :=
  ⟨fun _ => rfl, fun _ => rfl, fun _ => rfl, fun _ => rfl, fun _ _ => Iff.rfl, rfl⟩

theorem Own.trans (h : Own p s s') (h' : Own p s' s'') : Own p s s'' where
  directories n := (h'.directories n).trans (h.directories n)
  readers n := (h'.readers n).trans (h.readers n)
  locks n := (h'.locks n).trans (h.locks n)
  writers n := (h'.writers n).trans (h.writers n)
  holder i n := (h'.holder i n).trans (h.holder i n)
  left := h'.left.trans h.left

theorem Still.refl (s : Machine P) : Still s s :=
  ⟨rfl, rfl, rfl, rfl, fun _ hmem => hmem, fun _ _ h => h⟩

theorem Still.trans (h : Still s s') (h' : Still s' s'') : Still s s'' where
  hardware := h'.hardware.trans h.hardware
  entry := h'.entry.trans h.entry
  inode := h'.inode.trans h.inode
  next := h'.next.trans h.next
  earlier change hmem := h.earlier change (h'.earlier change hmem)
  writers k i hk := h.writers k i (h'.writers k i hk)

theorem Still.keeps (h : Still s s') {place : Place} : Volume.Keeps place s.volume s'.volume where
  entry := congrFun h.entry place
  earlier target hmem := h.earlier _ hmem
  closed i hi := by
    refine ⟨⟨h.next ▸ hi.1, ?_⟩, congrFun h.inode i⟩
    intro k hk
    exact hi.2 k (h.writers k i hk)

/-- The lock is not taken away. -/
theorem Rely.locked (h : Rely home p s s') (hlocked : Locked home p s) : Locked home p s' := by
  obtain ⟨i, n, hentry, hholder⟩ := hlocked
  exact ⟨i, n, h.stays i hentry, (h.own.holder i n).mpr hholder⟩

theorem Rely.refl (home : Directory) (p : P) (s : Machine P) : Rely home p s s :=
  ⟨.refl p s, fun _ h => h, fun _ => .refl s, fun h => h⟩

theorem Rely.trans (h : Rely home p s s') (h' : Rely home p s' s'') : Rely home p s s'' where
  own := h.own.trans h'.own
  stays i hi := h'.stays i (h.stays i hi)
  still hlocked := (h.still hlocked).trans (h'.still (h.locked hlocked))
  sealed hs := h'.sealed (h.sealed hs)

theorem Fair.rely (h : Fair home p s s') (hne : q ≠ p) (hsealed : Sealed s → Sealed s') :
    Rely home q s s' :=
  ⟨h.others q hne, h.stays, h.still q hne, hsealed⟩

theorem Fair.refl (home : Directory) (p : P) (s : Machine P) : Fair home p s s :=
  ⟨fun q _ => .refl q s, fun _ h => h, fun _ _ _ => .refl s, .inl rfl⟩

theorem Intact.refl (s : Machine P) : Intact s s := ⟨fun _ => .refl _ _, fun _ h => .inl h⟩

theorem Intact.sealed (h : Intact s s') (hs : Sealed s) : Sealed s' :=
  fun d => (h.keeps d).sealed (hs d)

/-- Nothing new is found where no state file is touched. -/
theorem Intact.found (h : Intact s s') (hs : Sealed s) {d : Directory}
    {content : Option (List UInt8)} (hfound : s'.Found (d, STATE_FILE) content) :
    s.Found (d, STATE_FILE) content := by
  obtain hsurvives | ⟨hnone, above, hmem, hbelow⟩ := hfound
  · exact .inl ((h.keeps d).survives (hs d) hsurvives)
  · obtain hbefore | hempty := h.made above hmem
    · exact .inr ⟨hnone, above, hbefore, hbelow⟩
    · left
      have hcontent := Volume.survives_content s.volume (d, STATE_FILE)
      rw [Volume.content, hempty (d, STATE_FILE) hbelow] at hcontent
      rw [hnone]
      exact hcontent

/-! ## Changes of the files -/

/-- Neither the state file nor the lock file. -/
def Spare (name : String) : Prop := name ≠ STATE_FILE ∧ name ≠ LOCK_FILE

theorem spare_temporary (token : String) : Spare (".startup-" ++ token ++ ".tmp") := by
  have hhead : (".startup-" ++ token ++ ".tmp").toList.head? = some '.' := by simp
  constructor
  · intro heq
    rw [heq] at hhead
    exact absurd hhead (by decide)
  · intro heq
    rw [heq] at hhead
    exact absurd hhead (by decide)

theorem not_spare_state : ¬ Spare STATE_FILE := fun h => h.1 rfl

theorem not_spare_lock : ¬ Spare LOCK_FILE := fun h => h.2 rfl

theorem spare_ne {d d' : Directory} {name name' : String} (hspare : Spare name)
    (hname : ¬ Spare name') : (d', name') ≠ (d, name) := by
  intro heq
  obtain rfl := (Prod.ext_iff.mp heq).2
  exact hname hspare

/-- The holder of the lock changes files that are not the state file. -/
theorem locked_volume {v : Volume Place (P × Nat)} (hlocked : Locked home p s)
    (hwriters : ∀ q, q ≠ p → ∀ m, v.writer (q, m) = s.volume.writer (q, m))
    (hkeeps : ∀ d name, ¬ Spare name → Volume.Keeps (d, name) s.volume v) :
    Fair home p s { s with volume := v } ∧ Intact s { s with volume := v } := by
  refine ⟨⟨?_, ?_, ?_, .inl rfl⟩, fun d => hkeeps d _ not_spare_state, fun _ hmem => .inl hmem⟩
  · intro q hne
    exact { Own.refl q s with writers := hwriters q hne }
  · intro i hi
    exact (hkeeps home _ not_spare_lock).entry.trans hi
  · intro q hne hq
    exact absurd (hq.unique hlocked) hne

/-- The holder of the lock puts a new state file in place. -/
theorem replace_fair (hlocked : Locked home p s) {d : Directory} {name : String}
    (hname : Spare name) (d' : Directory) :
    Fair home p s { s with volume := s.volume.move (d, name) (d', STATE_FILE) } := by
  have hlock : ((home, LOCK_FILE) : Place) ≠ (d', STATE_FILE) := by simp [STATE_FILE, LOCK_FILE]
  refine ⟨fun q _ => { Own.refl q s with }, ?_, ?_, .inl rfl⟩
  · intro i hi
    have hspare : ((home, LOCK_FILE) : Place) ≠ (d, name) := spare_ne hname not_spare_lock
    have hkeeps := Volume.keeps_move s.volume hspare hlock
    exact hkeeps.entry.trans hi
  · intro q hne hq
    exact absurd (hq.unique hlocked) hne

/-! ## Operations that anybody may ask for -/

/-- Nothing changes but the descriptors of `p`. -/
structure Private (p : P) (s s' : Machine P) : Prop where
  others : ∀ q, q ≠ p → Own q s s'
  still : Still s s'
  made : s'.made = s.made

theorem Private.intact (h : Private p s s') : Intact s s' where
  keeps _ := h.still.keeps
  made d hmem := .inl (by rwa [h.made] at hmem)

theorem Private.fair (h : Private p s s') : Fair home p s s' where
  others := h.others
  stays i hi := by rw [h.still.entry]; exact hi
  still _ _ _ := h.still
  hardware := .inl h.still.hardware

theorem private_refl : Private p s s := ⟨fun q _ => .refl q s, .refl s, rfl⟩

theorem Private.trans (h : Private p s s') (h' : Private p s' s'') : Private p s s'' where
  others q hne := (h.others q hne).trans (h'.others q hne)
  still := h.still.trans h'.still
  made := h'.made.trans h.made

/-- Only a lock that is free is taken. -/
theorem private_flock {i n : Nat} (hfree : s.holder i = none ∨ s.holder i = some (p, n)) :
    Private p s { s with holder := Function.update s.holder i (some (p, n)) } where
  others q hne := by
    refine { Own.refl q s with holder := ?_ }
    intro j m
    by_cases hj : j = i
    · subst hj
      obtain hfree | hfree := hfree
      · simp [hfree, Ne.symm hne]
      · simp [hfree]
    · simp [hj]
  still := { Still.refl s with }
  made := rfl

/-- Synchronising a directory. -/
theorem settled_still (P' : Place → Bool) (made : List Directory) :
    Still s { s with volume := s.volume.settle P', made := made } where
  hardware := rfl
  entry := rfl
  inode := rfl
  next := rfl
  earlier _ hmem := (List.mem_filter.mp hmem).1
  writers _ _ h := h

section operations

variable [DecidableEq P] {n : Nat}

theorem other_descriptor {α : Type} (f : P × Nat → α) (x : α) (hne : q ≠ p) (m : Nat) :
    Function.update f (p, n) x (q, m) = f (q, m) :=
  Function.update_of_ne (by simp [hne]) _ _

theorem private_directories (x : Option Directory) :
    Private p s { s with directories := Function.update s.directories (p, n) x } where
  others q hne := { Own.refl q s with directories := other_descriptor _ _ hne }
  still := { Still.refl s with }
  made := rfl

theorem private_readers (x : Option (Nat × Nat)) :
    Private p s { s with readers := Function.update s.readers (p, n) x } where
  others q hne := { Own.refl q s with readers := other_descriptor _ _ hne }
  still := { Still.refl s with }
  made := rfl

theorem private_locks (x : Option Nat) :
    Private p s { s with locks := Function.update s.locks (p, n) x } where
  others q hne := { Own.refl q s with locks := other_descriptor _ _ hne }
  still := { Still.refl s with }
  made := rfl

theorem private_release : Private p s { s with volume := s.volume.release (p, n) } where
  others q hne := { Own.refl q s with writers := other_descriptor _ _ hne }
  still := { Still.refl s with writers := fun _ _ h => (Volume.release_writer.mp h).2 }
  made := rfl

/-- Only a lock that is one's own is given up. -/
theorem private_unlock (n : Nat) : Private p s (s.unlock (p, n)) := by
  unfold Machine.unlock
  split
  · exact ⟨fun q _ => .refl q s, .refl s, rfl⟩
  · next i _ =>
    split
    · next hholder =>
      refine ⟨?_, { Still.refl s with }, rfl⟩
      intro q hne
      refine { Own.refl q s with holder := ?_, left := Function.update_of_ne hne _ _ }
      intro j m
      by_cases hj : j = i
      · subst hj
        simp [hholder, Ne.symm hne]
      · simp [hj]
    · exact ⟨fun q _ => .refl q s, .refl s, rfl⟩

theorem private_closed (n : Nat) (purpose : Purpose) : Private p s (s.closed (p, n) purpose) := by
  cases purpose with
  | directory => exact private_directories none
  | lock => exact Private.trans (private_unlock n) (private_locks none)
  | state => exact private_readers none
  | temporary => exact private_release

/-- Operations that need no lock. -/
def Free : StartupOp → Prop
  | .open_file .lock _ _ => False
  | .open_file .temporary _ _ => False
  | .fsync .temporary _ => False
  | .write _ _ => False
  | .replace _ _ _ => False
  | .unlink _ _ => False
  | .run command => is_set command = false
  | _ => True

theorem private_opened {purpose : Purpose} {name : String} {dir_fd : Option (Fd .directory)}
    (hfree : Free (.open_file purpose name dir_fd)) (h : s.Opened (p, n) name dir_fd purpose s') :
    Private p s s' := by
  cases purpose with
  | directory =>
    obtain ⟨_, d, _, rfl⟩ := h
    exact private_directories _
  | state =>
    obtain ⟨_, _, _, i, _, _, _, rfl⟩ := h
    exact private_readers _
  | lock => cases hfree
  | temporary => cases hfree

/-- They are fair, and leave the state files alone. -/
theorem free_step {o : StartupOp} (ho : Free o) {b : o.Ans} (h : machine p s o b s') :
    Fair home p s s' ∧ Intact s s' := by
  have hsame : s' = s → Fair home p s s' ∧ Intact s s' := by
    rintro rfl
    exact ⟨.refl home p s', .refl s'⟩
  have hprivate : Private p s s' → Fair home p s s' ∧ Intact s s' :=
    fun h => ⟨h.fair, h.intact⟩
  cases o with
  | platform | geteuid | fstat | token_hex | read_dmi | print_result => exact hsame h
  | open_file purpose name dir_fd =>
    cases b with
    | ok n => exact hprivate (private_opened ho h)
    | error e => exact hsame h
  | mkdir name mode fd =>
    cases b with
    | ok u =>
      obtain ⟨d, _, hempty, rfl⟩ := h
      refine ⟨⟨fun q _ => { Own.refl q s with }, fun _ hi => hi, fun _ _ _ => { Still.refl s with },
        .inl rfl⟩, fun _ => .refl _ _, ?_⟩
      intro d' hmem
      obtain rfl | hmem := List.mem_cons.mp hmem
      · exact .inr hempty
      · exact .inl hmem
    | error e => exact hsame h
  | fsync purpose fd =>
    cases purpose with
    | directory =>
      cases b with
      | ok u =>
        obtain ⟨d, _, rfl⟩ := h
        refine ⟨⟨fun q _ => { Own.refl q s with }, fun _ hi => hi, fun _ _ _ => settled_still _ _,
          .inl rfl⟩, ?_, fun d hmem => .inl (List.mem_filter.mp hmem).1⟩
        intro d'
        exact Volume.keeps_settle s.volume fun q => q.1 = d
      | error e => exact hsame h
    | temporary => cases ho
    | lock | state => exact hsame h
  | close purpose fd =>
    obtain rfl : s' = s.closed (p, fd.number) purpose := h
    exact hprivate (private_closed fd.number purpose)
  | flock fd operation =>
    cases operation with
    | exclusive =>
      cases b with
      | ok u =>
        obtain ⟨i, _, hfree, rfl⟩ := h
        exact hprivate (private_flock hfree)
      | error e => exact hsame h
    | unlock =>
      cases b with
      | ok u =>
        obtain rfl : s' = s.unlock (p, fd.number) := h
        exact hprivate (private_unlock fd.number)
      | error e =>
        obtain heq | heq := h
        · exact hsame heq
        · subst heq
          exact hprivate (private_unlock fd.number)
  | read fd size =>
    cases b with
    | ok bytes =>
      obtain ⟨i, offset, _, _, _, _, rfl⟩ := h
      exact hprivate (private_readers _)
    | error e => exact hsame h
  | run command =>
    have hset : is_set command = false := ho
    simp only [machine, hset] at h
    exact hsame h.1
  | write | replace | unlink => cases ho

/-! ## Operations under the lock -/

/-- Operations that need the lock. -/
def Critical : StartupOp → Prop
  | .open_file .temporary name _ => Spare name
  | .fsync .temporary _ => True
  | .write _ _ => True
  | .unlink name _ => Spare name
  | .run command => is_set command = true
  | _ => False

/-- What is done under the lock is fair as well. -/
theorem critical_step (hlocked : Locked home p s) {o : StartupOp} (ho : Critical o) {b : o.Ans}
    (h : machine p s o b s') : Fair home p s s' ∧ Intact s s' := by
  have hsame : s' = s → Fair home p s s' ∧ Intact s s' := by
    rintro rfl
    exact ⟨.refl home p s', .refl s'⟩
  cases o with
  | open_file purpose name dir_fd =>
    cases purpose with
    | temporary =>
      cases b with
      | ok n =>
        obtain ⟨_, fd, place, _, hplace, _, _, rfl⟩ := h
        obtain ⟨d, _, rfl⟩ := Option.map_eq_some_iff.mp hplace
        apply locked_volume hlocked
        · exact fun q hne m => other_descriptor _ _ hne m
        · intro d' name' hname
          exact Volume.keeps_draft s.volume (spare_ne ho hname) _
      | error e => exact hsame h
    | directory | lock | state => cases ho
  | fsync purpose fd =>
    cases purpose with
    | temporary =>
      cases b with
      | ok u =>
        obtain rfl := h
        exact locked_volume hlocked (fun _ _ _ => Volume.sync_writer _ _ _)
          fun _ _ _ => Volume.keeps_sync _ _
      | error e => exact hsame h
    | directory | lock | state => cases ho
  | write fd data =>
    obtain ⟨written, _, _, rfl⟩ := h
    exact locked_volume hlocked (fun _ _ _ => Volume.append_writer _ _ _ _)
      fun _ _ _ => Volume.keeps_append _ _ _
  | unlink name fd =>
    cases b with
    | ok u =>
      obtain ⟨place, hplace, rfl⟩ := h
      obtain ⟨d, _, rfl⟩ := Option.map_eq_some_iff.mp hplace
      exact locked_volume hlocked (fun _ _ _ => rfl)
        fun d' name' hname => Volume.keeps_remove _ (spare_ne ho hname)
    | error e => exact hsame h
  | run command =>
    have hset : is_set command = true := ho
    simp only [machine, hset, if_true] at h
    obtain ⟨policy, rfl⟩ := h
    refine ⟨⟨fun q _ => { Own.refl q s with }, fun _ hi => hi, ?_, .inr hlocked⟩,
      fun _ => .refl _ _, fun _ hmem => .inl hmem⟩
    intro q hne hq
    exact absurd (hq.unique hlocked) hne
  | _ => cases ho

/-- Opening the lock file makes one if there is none. -/
theorem lock_step {fd : Fd .directory} (hfd : s.directories (p, fd.number) = some home)
    {b : StartupOp.Ans (.open_file .lock LOCK_FILE (some fd))}
    (h : machine p s (.open_file .lock LOCK_FILE (some fd)) b s') :
    Fair home p s s' ∧ Intact s s' ∧ ∀ n, b = .ok n → ∃ i,
      s'.locks (p, n) = some i ∧ s'.volume.entry (home, LOCK_FILE) = some i := by
  cases b with
  | ok n =>
    obtain ⟨_, fd', place, hfd', hplace, hopened⟩ := h
    obtain rfl := Option.some.inj hfd'
    simp only [Machine.place, hfd, Option.map_some, Option.some.injEq] at hplace
    subst hplace
    obtain ⟨i, hentry, rfl⟩ | ⟨hentry, rfl⟩ := hopened
    · have hprivate : Private p s { s with locks := Function.update s.locks (p, n) (some i) } :=
        private_locks _
      refine ⟨hprivate.fair, hprivate.intact, ?_⟩
      intro n' hn
      obtain rfl := Except.ok.inj hn
      exact ⟨i, Function.update_self _ _ _, hentry⟩
    · refine ⟨⟨?_, ?_, ?_, .inl rfl⟩, ⟨?_, fun _ hmem => .inl hmem⟩, ?_⟩
      · intro q hne
        exact { Own.refl q s with locks := other_descriptor _ _ hne }
      · intro i hi
        rw [hentry] at hi
        cases hi
      · intro q _ hq
        obtain ⟨i, _, hi, _⟩ := hq
        rw [hentry] at hi
        cases hi
      · intro d
        exact Volume.keeps_create s.volume (by simp [STATE_FILE, LOCK_FILE])
      · intro n' hn
        obtain rfl := Except.ok.inj hn
        exact ⟨s.volume.next, Function.update_self _ _ _, Function.update_self _ _ _⟩
  | error e =>
    obtain rfl := h
    refine ⟨.refl home p s', .refl s', ?_⟩
    intro n hn
    cases hn

end operations

end UgreenNas.Startup
