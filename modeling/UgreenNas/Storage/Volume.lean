import Mathlib.Logic.Function.Basic

/-! # Files that a crash may undo

    A volume keeps files under names.  What was written is certain to be on
    the medium once the file was synchronised, and what a name refers to
    once its directory was: until then a crash may bring back anything the
    name referred to before.

    * `Survives` : what a crash may leave under a name;
    * `Sealed`   : nobody can write to what a crash may leave there;
    * `Keeps`    : a change of the volume that leaves a name alone.
-/

namespace Storage

/-- A file: what is read from it, and whether all of it is on the medium. -/
structure Inode where
  data : List UInt8
  synced : Bool

/-- Files by number, the names for them, and the files opened for writing.
    The files from `next` on are free. -/
structure Volume (Name Handle : Type) where
  inode : Nat → Inode
  next : Nat
  entry : Name → Option Nat
  /-- What names referred to before, where this is not undone for good. -/
  earlier : List (Name × Option Nat)
  writer : Handle → Option Nat

namespace Volume

variable {Name Handle : Type}

/-! ## What a crash may leave -/

/-- What may be read from a file behind a crash. -/
def Holds (v : Volume Name Handle) (content : Option (List UInt8)) : Option Nat → Prop
  | none => content = none
  | some i => ∃ data, content = some data ∧ ((v.inode i).synced = true → data = (v.inode i).data)

/-- What a name may refer to behind a crash. -/
def Refers (v : Volume Name Handle) (p : Name) (target : Option Nat) : Prop :=
  target = v.entry p ∨ (p, target) ∈ v.earlier

def Survives (v : Volume Name Handle) (p : Name) (content : Option (List UInt8)) : Prop :=
  ∃ target, v.Refers p target ∧ v.Holds content target

/-- What is read under a name as long as nothing crashes. -/
def content (v : Volume Name Handle) (p : Name) : Option (List UInt8) :=
  (v.entry p).map fun i => (v.inode i).data

/-- Without a crash, what is there survives. -/
theorem survives_content (v : Volume Name Handle) (p : Name) : v.Survives p (v.content p) := by
  refine ⟨v.entry p, .inl rfl, ?_⟩
  unfold content
  cases v.entry p with
  | none => rfl
  | some i => exact ⟨(v.inode i).data, rfl, fun _ => rfl⟩

/-- Nobody can write to the file `i`. -/
def Unused (v : Volume Name Handle) (i : Nat) : Prop := ∀ h, v.writer h ≠ some i

/-- And it is in use. -/
def Closed (v : Volume Name Handle) (i : Nat) : Prop := i < v.next ∧ v.Unused i

/-- Nobody can write to what is under the name, now or behind a crash. -/
def Sealed (v : Volume Name Handle) (p : Name) : Prop :=
  ∀ i, v.Refers p (some i) → v.Closed i

/-! ## Leaving a name alone -/

/-- The name `p` keeps what it refers to, and no closed file is changed. -/
structure Keeps (p : Name) (v v' : Volume Name Handle) : Prop where
  entry : v'.entry p = v.entry p
  earlier : ∀ target, (p, target) ∈ v'.earlier → (p, target) ∈ v.earlier
  closed : ∀ i, v.Closed i → v'.Closed i ∧ v'.inode i = v.inode i

variable {v v' v'' : Volume Name Handle} {p q : Name} {h : Handle}

theorem Keeps.refl (p : Name) (v : Volume Name Handle) : Keeps p v v :=
  ⟨rfl, fun _ hmem => hmem, fun _ hi => ⟨hi, rfl⟩⟩

theorem Keeps.trans (h₁ : Keeps p v v') (h₂ : Keeps p v' v'') : Keeps p v v'' where
  entry := h₂.entry.trans h₁.entry
  earlier target hmem := h₁.earlier target (h₂.earlier target hmem)
  closed i hi := by
    obtain ⟨hi', heq'⟩ := h₁.closed i hi
    obtain ⟨hi'', heq''⟩ := h₂.closed i hi'
    exact ⟨hi'', heq''.trans heq'⟩

theorem Keeps.refers (hk : Keeps p v v') {target : Option Nat} (h : v'.Refers p target) :
    v.Refers p target := by
  obtain heq | hmem := h
  · exact .inl (heq.trans hk.entry)
  · exact .inr (hk.earlier target hmem)

theorem Keeps.sealed (hk : Keeps p v v') (hs : v.Sealed p) : v'.Sealed p :=
  fun i hi => (hk.closed i (hs i (hk.refers hi))).1

/-- Nothing else can be found under a name that is left alone. -/
theorem Keeps.survives (hk : Keeps p v v') (hs : v.Sealed p) {content : Option (List UInt8)}
    (h : v'.Survives p content) : v.Survives p content := by
  obtain ⟨target, hrefers, hholds⟩ := h
  refine ⟨target, hk.refers hrefers, ?_⟩
  cases target with
  | none => exact hholds
  | some i =>
    have heq := (hk.closed i (hs i (hk.refers hrefers))).2
    obtain ⟨data, hcontent, hdata⟩ := hholds
    rw [heq] at hdata
    exact ⟨data, hcontent, hdata⟩

theorem Keeps.content (hk : Keeps p v v') (hs : v.Sealed p) : v'.content p = v.content p := by
  unfold Volume.content
  rw [hk.entry]
  cases hentry : v.entry p with
  | none => rfl
  | some i =>
    have heq := (hk.closed i (hs i (.inl hentry.symm))).2
    simp [heq]

/-! ## Operations

    Each leaves the names alone that it is not about.
-/

/-- Write behind what is there. -/
def append (v : Volume Name Handle) (h : Handle) (bytes : List UInt8) : Volume Name Handle :=
  match v.writer h with
  | none => v
  | some i => { v with inode := Function.update v.inode i ⟨(v.inode i).data ++ bytes, false⟩ }

/-- Synchronise a file. -/
def sync (v : Volume Name Handle) (h : Handle) : Volume Name Handle :=
  match v.writer h with
  | none => v
  | some i => { v with inode := Function.update v.inode i ⟨(v.inode i).data, true⟩ }

/-- Synchronise a directory, the one with the names in `P`. -/
def settle (v : Volume Name Handle) (P : Name → Bool) : Volume Name Handle :=
  { v with earlier := v.earlier.filter fun change => !P change.1 }

theorem append_writer (v : Volume Name Handle) (h : Handle) (bytes : List UInt8) (h' : Handle) :
    (v.append h bytes).writer h' = v.writer h' := by
  unfold append
  split <;> rfl

theorem sync_writer (v : Volume Name Handle) (h h' : Handle) :
    (v.sync h).writer h' = v.writer h' := by
  unfold sync
  split <;> rfl

theorem keeps_write (v : Volume Name Handle) {i : Nat} (hi : v.writer h = some i) (file : Inode) :
    Keeps p v { v with inode := Function.update v.inode i file } where
  entry := rfl
  earlier _ hmem := hmem
  closed j hj := by
    have hne : j ≠ i := by
      intro heq
      exact hj.2 h (heq ▸ hi)
    exact ⟨hj, Function.update_of_ne hne _ _⟩

theorem keeps_append (v : Volume Name Handle) (h : Handle) (bytes : List UInt8) :
    Keeps p v (v.append h bytes) := by
  unfold append
  split
  · exact .refl p v
  · next i hi => exact keeps_write v hi _

theorem keeps_sync (v : Volume Name Handle) (h : Handle) : Keeps p v (v.sync h) := by
  unfold sync
  split
  · exact .refl p v
  · next i hi => exact keeps_write v hi _

theorem keeps_settle (v : Volume Name Handle) (P : Name → Bool) : Keeps p v (v.settle P) where
  entry := rfl
  earlier _ hmem := (List.mem_filter.mp hmem).1
  closed _ hi := ⟨hi, rfl⟩

/-- Once its directory is synchronised, what is under a name is all that a
    crash can leave there. -/
theorem survives_settle {P : Name → Bool} (hP : P p = true) {content : Option (List UInt8)}
    (h : (v.settle P).Survives p content) : v.Holds content (v.entry p) := by
  obtain ⟨target, hrefers, hholds⟩ := h
  obtain heq | hmem := hrefers
  · rw [heq] at hholds
    exact hholds
  · have hother := (List.mem_filter.mp hmem).2
    simp [hP] at hother

/-! ### Files opened for writing -/

section handles

variable [DecidableEq Handle]

def release (v : Volume Name Handle) (h : Handle) : Volume Name Handle :=
  { v with writer := Function.update v.writer h none }

theorem release_writer {h' : Handle} {i : Nat} :
    (v.release h).writer h' = some i ↔ h' ≠ h ∧ v.writer h' = some i := by
  unfold release
  by_cases heq : h' = h
  · simp [heq]
  · simp [heq]

theorem keeps_release (v : Volume Name Handle) (h : Handle) : Keeps p v (v.release h) where
  entry := rfl
  earlier _ hmem := hmem
  closed _ hi := ⟨⟨hi.1, fun h' heq => hi.2 h' (release_writer.mp heq).2⟩, rfl⟩

end handles

/-! ### Names -/

section names

variable [DecidableEq Name]

/-- A new empty file. -/
def create (v : Volume Name Handle) (q : Name) : Volume Name Handle :=
  { v with
    inode := Function.update v.inode v.next ⟨[], false⟩
    next := v.next + 1
    entry := Function.update v.entry q (some v.next)
    earlier := (q, v.entry q) :: v.earlier }

/-- Rename, which replaces what is under the other name. -/
def move (v : Volume Name Handle) (q p : Name) : Volume Name Handle :=
  { v with
    entry := Function.update (Function.update v.entry p (v.entry q)) q none
    earlier := (q, v.entry q) :: (p, v.entry p) :: v.earlier }

def remove (v : Volume Name Handle) (q : Name) : Volume Name Handle :=
  { v with
    entry := Function.update v.entry q none
    earlier := (q, v.entry q) :: v.earlier }

theorem keeps_create (v : Volume Name Handle) (hne : p ≠ q) : Keeps p v (v.create q) where
  entry := Function.update_of_ne hne _ _
  earlier target hmem := by
    obtain heq | hmem := List.mem_cons.mp hmem
    · exact absurd (Prod.ext_iff.mp heq).1 hne
    · exact hmem
  closed i hi :=
    ⟨⟨Nat.lt_succ_of_lt hi.1, hi.2⟩, Function.update_of_ne (Nat.ne_of_lt hi.1) _ _⟩

theorem keeps_move (v : Volume Name Handle) {q' : Name} (hq : p ≠ q) (hq' : p ≠ q') :
    Keeps p v (v.move q q') where
  entry := by simp [move, hq, hq']
  earlier target hmem := by simpa [move, hq, hq'] using hmem
  closed _ hi := ⟨hi, rfl⟩

theorem keeps_remove (v : Volume Name Handle) (hne : p ≠ q) : Keeps p v (v.remove q) where
  entry := Function.update_of_ne hne _ _
  earlier target hmem := by simpa [remove, hne] using hmem
  closed _ hi := ⟨hi, rfl⟩

/-- A new empty file that is opened for writing. -/
def draft [DecidableEq Handle] (v : Volume Name Handle) (q : Name) (h : Handle) :
    Volume Name Handle :=
  { v.create q with writer := Function.update v.writer h (some v.next) }

theorem keeps_draft [DecidableEq Handle] (v : Volume Name Handle) (hne : p ≠ q) (h : Handle) :
    Keeps p v (v.draft q h) where
  entry := (keeps_create v hne).entry
  earlier := (keeps_create v hne).earlier
  closed i hi := by
    obtain ⟨hcreated, hsame⟩ := (keeps_create v hne).closed i hi
    refine ⟨⟨hcreated.1, ?_⟩, hsame⟩
    intro h'
    by_cases heq : h' = h
    · have hfree : v.next ≠ i := Nat.ne_of_gt hi.1
      simp [draft, heq, hfree]
    · simp [draft, heq, hi.2 h']

/-! ## Replacing a file -/

/-- A synchronised file that is put in the place of another: what a crash
    leaves is the old file or the new one. -/
theorem survives_move {i : Nat} {data : List UInt8} (hentry : v.entry q = some i)
    (hinode : v.inode i = ⟨data, true⟩) (hne : p ≠ q) {content : Option (List UInt8)}
    (h : (v.move q p).Survives p content) : v.Survives p content ∨ content = some data := by
  obtain ⟨target, hrefers, hholds⟩ := h
  obtain htarget | hmem := hrefers
  · right
    simp only [move, Function.update_of_ne hne, Function.update_self, hentry] at htarget
    rw [htarget] at hholds
    obtain ⟨data', hcontent, hdata⟩ := hholds
    rw [show (v.move q p).inode i = ⟨data, true⟩ from hinode] at hdata
    rw [hcontent, hdata rfl]
  · left
    simp only [move, List.mem_cons, Prod.mk.injEq, hne, false_and, false_or, true_and] at hmem
    obtain htarget | hmem := hmem
    · exact ⟨target, .inl htarget, hholds⟩
    · exact ⟨target, .inr hmem, hholds⟩

theorem sealed_move {i : Nat} (hentry : v.entry q = some i) (hne : p ≠ q) (hclosed : v.Closed i)
    (hs : v.Sealed p) : (v.move q p).Sealed p := by
  intro j hj
  obtain htarget | hmem := hj
  · simp only [move, Function.update_of_ne hne, Function.update_self, hentry,
      Option.some.injEq] at htarget
    exact htarget ▸ hclosed
  · simp only [move, List.mem_cons, Prod.mk.injEq, hne, false_and, false_or, true_and] at hmem
    obtain htarget | hmem := hmem
    · exact hs j (.inl htarget)
    · exact hs j (.inr hmem)

theorem content_move {i : Nat} {data : List UInt8} {synced : Bool} (hentry : v.entry q = some i)
    (hinode : v.inode i = ⟨data, synced⟩) (hne : p ≠ q) : (v.move q p).content p = some data := by
  simp [content, move, hne, hentry, hinode]

end names

end Volume

end Storage
