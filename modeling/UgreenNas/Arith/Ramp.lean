import Mathlib.Order.Monotone.Basic
import UgreenNas.Errno

/-! # Checked words and linear ramps

    Unsigned arithmetic that wraps, next to the same arithmetic made
    partial: a checked operation has a result only where the exact one fits
    the word.  Integer interpolation along one segment, and how segments
    are glued to one monotone function.
-/

namespace UgreenNas.Arith

/-! ## Checked words -/

/-- The exact value of an operation, where it fits an unsigned word. -/
def checked (bits : Nat) (x : Int) : Option Nat :=
  if 0 ≤ x ∧ x.toNat < 2 ^ bits then some x.toNat else none

/-- A division, where it is one. -/
def checked_div (numerator denominator : Nat) : Option Nat :=
  if denominator = 0 then none else some (numerator / denominator)

theorem checked_eq_some {bits : Nat} {x : Int} {n : Nat} :
    checked bits x = some n ↔ x = n ∧ n < 2 ^ bits := by
  unfold checked
  split
  · simp only [Option.some.injEq]
    omega
  · simp only [reduceCtorEq, false_iff]
    omega

theorem checked_natCast {bits n : Nat} (h : n < 2 ^ bits) : checked bits (n : Int) = some n :=
  checked_eq_some.mpr ⟨rfl, h⟩

theorem checked_sub {bits a b : Nat} (hle : b ≤ a) (h : a - b < 2 ^ bits) :
    checked bits ((a : Int) - b) = some (a - b) :=
  checked_eq_some.mpr ⟨by omega, h⟩

theorem checked_div_of_pos {n d : Nat} (h : 0 < d) : checked_div n d = some (n / d) :=
  if_neg (Nat.ne_of_gt h)

/-- Where the checked operation has a result, nothing wraps. -/
theorem u32_of_checked {x : Int} {n : Nat} (h : checked 32 x = some n) : u32 x = n := by
  obtain ⟨rfl, hlt⟩ := checked_eq_some.mp h
  unfold u32
  omega

theorem u64_of_checked {x : Int} {n : Nat} (h : checked 64 x = some n) : u64 x = n := by
  obtain ⟨rfl, hlt⟩ := checked_eq_some.mp h
  unfold u64
  omega

/-! ## Ramps -/

/-- The line from `low` at `left` to `high` at `right`, rounded down. -/
def ramp (left right low high x : Nat) : Nat :=
  low + (x - left) * (high - low) / (right - left)

section ramp

variable {left right low high : Nat}

theorem ramp_monotone (left right low high : Nat) : Monotone (ramp left right low high) := by
  intro x y hxy
  unfold ramp
  apply Nat.add_le_add_left
  apply Nat.div_le_div_right
  exact Nat.mul_le_mul_right _ (Nat.sub_le_sub_right hxy left)

theorem le_ramp (x : Nat) : low ≤ ramp left right low high x :=
  Nat.le_add_right ..

theorem ramp_left : ramp left right low high left = low := by
  simp [ramp]

theorem ramp_right (hlt : left < right) (hle : low ≤ high) :
    ramp left right low high right = high := by
  have hpos : 0 < right - left := by omega
  unfold ramp
  rw [Nat.mul_div_cancel_left _ hpos]
  omega

theorem ramp_le (hlt : left < right) (hle : low ≤ high) {x : Nat} (hx : x ≤ right) :
    ramp left right low high x ≤ high := by
  calc ramp left right low high x
      ≤ ramp left right low high right := ramp_monotone left right low high hx
    _ = high := ramp_right hlt hle

end ramp

/-! ## Gluing -/

/-- Two monotone pieces that meet at `level`. -/
theorem monotone_glue {α β : Type*} [LinearOrder α] [Preorder β] {f g : α → β} {border : α}
    (level : β) (hf : Monotone f) (hg : Monotone g) (hbelow : ∀ x, x < border → f x ≤ level)
    (habove : ∀ x, border ≤ x → level ≤ g x) :
    Monotone fun x => if x < border then f x else g x := by
  intro x y hxy
  dsimp only
  by_cases hx : x < border
  · rw [if_pos hx]
    by_cases hy : y < border
    · rw [if_pos hy]
      exact hf hxy
    · rw [if_neg hy]
      exact le_trans (hbelow x hx) (habove y (not_lt.mp hy))
  · have hy : ¬ y < border := fun hy => hx (lt_of_le_of_lt hxy hy)
    rw [if_neg hx, if_neg hy]
    exact hg hxy

end UgreenNas.Arith
