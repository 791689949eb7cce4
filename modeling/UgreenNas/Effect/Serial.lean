import Mathlib.Data.List.Basic

/-! # One after another

    Processes that have a resource one after another: what one leaves is
    what the next one finds.

    * `Handed`           : from the first state to the last;
    * `Handed.found`     : what one of them found;
    * `Handed.invariant` : what each of them keeps.
-/

namespace Effect

variable {ι ρ : Type}

/-- The resource went through the hands of `order`; `taken` and `left` say in
    which state a process found it and left it. -/
inductive Handed (taken left : ι → Option ρ) : ρ → List ι → ρ → Prop where
  | nil {r : ρ} : Handed taken left r [] r
  | cons {i : ι} {order : List ι} {r r' last : ρ} : taken i = some r → left i = some r' →
      Handed taken left r' order last → Handed taken left r (i :: order) last

namespace Handed

variable {taken left taken' left' : ι → Option ρ} {first last : ρ} {order : List ι} {i : ι}

theorem congr (h : Handed taken left first order last)
    (hsame : ∀ i ∈ order, taken' i = taken i ∧ left' i = left i) :
    Handed taken' left' first order last := by
  induction h with
  | nil => exact .nil
  | @cons i order r r' last htaken hleft _ ih =>
    obtain ⟨htaken', hleft'⟩ := hsame i List.mem_cons_self
    apply Handed.cons (htaken'.trans htaken) (hleft'.trans hleft)
    exact ih fun j hj => hsame j (List.mem_cons_of_mem i hj)

theorem snoc {r : ρ} (h : Handed taken left first order last) (htaken : taken i = some last)
    (hleft : left i = some r) : Handed taken left first (order ++ [i]) r := by
  induction h with
  | nil => exact .cons htaken hleft .nil
  | cons htaken' hleft' _ ih => exact .cons htaken' hleft' (ih htaken)

/-- What was done before `i`, what `i` found, and what was done after it. -/
theorem found (h : Handed taken left first order last) (hi : i ∈ order) :
    ∃ before after start stop, order = before ++ i :: after ∧
      Handed taken left first before start ∧ taken i = some start ∧ left i = some stop ∧
      Handed taken left stop after last := by
  induction h with
  | nil => cases hi
  | @cons j order r r' last htaken hleft hrest ih =>
    obtain rfl | hi := List.mem_cons.mp hi
    · exact ⟨[], order, r, r', rfl, .nil, htaken, hleft, hrest⟩
    · obtain ⟨before, after, start, stop, rfl, hbefore, hi, hi', hafter⟩ := ih hi
      exact ⟨j :: before, after, start, stop, rfl, .cons htaken hleft hbefore, hi, hi', hafter⟩

/-- What each of them keeps, they keep together.  `J` may say what was done
    so far. -/
theorem invariant {J : List ι → ρ → Prop} (h : Handed taken left first order last)
    (hkeep : ∀ before i start stop, i ∈ order → taken i = some start → left i = some stop →
      J before start → J (before ++ [i]) stop) {before : List ι} (hfirst : J before first) :
    J (before ++ order) last := by
  induction h generalizing before with
  | nil => simpa using hfirst
  | @cons i order r r' last htaken hleft _ ih =>
    have hnext := hkeep before i r r' List.mem_cons_self htaken hleft hfirst
    rw [List.append_cons]
    exact ih (fun before j start stop hj => hkeep before j start stop (List.mem_cons_of_mem i hj))
      hnext

end Handed

end Effect
