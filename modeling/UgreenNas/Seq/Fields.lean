import Mathlib.Data.List.Induction

/-! # Records written field by field

    Fields are read and written by name, and a write leaves every other
    field alone.  Of a list of writes a field keeps the last one to it.

    * `Fields` : the names, what each of them reads, and what it writes;
    * `write`  : a list of writes, in order;
    * `last`   : the last write to a field.
-/

/-- The fields `κ` of a record type `ρ`, the field `k` of type `ν k`. -/
structure Fields (κ : Type) (ν : κ → Type) (ρ : Type) where
  get : (k : κ) → ρ → ν k
  set : (k : κ) → ν k → ρ → ρ
  get_set : ∀ k v r, get k (set k v r) = v
  get_set_ne : ∀ {j k}, j ≠ k → ∀ v r, get j (set k v r) = get j r
  set_set : ∀ k v w r, set k v (set k w r) = set k v r

namespace Fields

variable {κ ρ : Type} {ν : κ → Type} (F : Fields κ ν ρ)

/-- The writes of a list, in order. -/
def write (writes : List (Sigma ν)) (r : ρ) : ρ := writes.foldl (fun r w => F.set w.1 w.2 r) r

variable {F}

@[simp] theorem write_nil (r : ρ) : F.write [] r = r := rfl

theorem write_append (v w : List (Sigma ν)) (r : ρ) :
    F.write (v ++ w) r = F.write w (F.write v r) := by
  simp [write]

theorem write_snoc (v : List (Sigma ν)) (w : Sigma ν) (r : ρ) :
    F.write (v ++ [w]) r = F.set w.1 w.2 (F.write v r) :=
  write_append v [w] r

/-- What no write touches is kept. -/
theorem write_keeps {α : Type} {f : ρ → α} (hf : ∀ k v r, f (F.set k v r) = f r)
    (writes : List (Sigma ν)) (r : ρ) : f (F.write writes r) = f r := by
  induction writes using List.reverseRecOn with
  | nil => rfl
  | append_singleton v w ih => rw [write_snoc, hf, ih]

section last

variable [DecidableEq κ]

/-- The last of the writes that goes to the field `k`. -/
def last (k : κ) (writes : List (Sigma ν)) : Option (ν k) :=
  writes.foldl (fun found w => if h : w.1 = k then some (h ▸ w.2) else found) none

@[simp] theorem last_nil (k : κ) : last k ([] : List (Sigma ν)) = none := rfl

theorem last_snoc (k : κ) (v : List (Sigma ν)) (w : Sigma ν) :
    last k (v ++ [w]) = if h : w.1 = k then some (h ▸ w.2) else last k v := by
  simp [last]

/-- There is a last write to a field when there is any. -/
theorem last_isSome {k : κ} {writes : List (Sigma ν)} :
    (last k writes).isSome = true ↔ k ∈ writes.map Sigma.fst := by
  induction writes using List.reverseRecOn with
  | nil => simp
  | append_singleton v w ih =>
    rw [last_snoc]
    by_cases h : w.1 = k
    · simp [h]
    · simp [h, ih, Ne.symm h]

/-- A field has the value of its last write, or the one it started with. -/
theorem get_write (k : κ) (writes : List (Sigma ν)) (r : ρ) :
    F.get k (F.write writes r) = (last k writes).getD (F.get k r) := by
  induction writes using List.reverseRecOn with
  | nil => rfl
  | append_singleton v w ih =>
    rw [write_snoc, last_snoc]
    obtain ⟨j, value⟩ := w
    by_cases h : j = k
    · subst h
      simp [F.get_set]
    · rw [F.get_set_ne (Ne.symm h), ih]
      simp [h]

/-- A field that no write goes to is kept. -/
theorem get_write_of_not_mem {k : κ} {writes : List (Sigma ν)} (h : k ∉ writes.map Sigma.fst)
    (r : ρ) : F.get k (F.write writes r) = F.get k r := by
  have hnone : last k writes = none := by
    rw [← Option.not_isSome_iff_eq_none, last_isSome]
    exact h
  rw [get_write, hnone]
  rfl

/-- A field that is written at all forgets what it was. -/
theorem get_write_forgets {k : κ} {writes : List (Sigma ν)} (h : k ∈ writes.map Sigma.fst)
    (r r' : ρ) : F.get k (F.write writes r) = F.get k (F.write writes r') := by
  obtain ⟨value, hvalue⟩ := Option.isSome_iff_exists.mp (last_isSome.mpr h)
  rw [get_write, get_write, hvalue]
  rfl

end last

end Fields
