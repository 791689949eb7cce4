import Mathlib.Data.List.Infix

/-! # Buffers of a fixed size

    A buffer is the list of its elements.  A copy that would reach behind the
    end has no result, so that a program with a result stayed inside.  What
    was written from the start on is a prefix of the buffer.
-/

namespace Buffer

variable {α : Type} {buffer : List α} {text : List α}

/-- Copy `source` to `place`; `none` where that is not all inside. -/
def copy (buffer : List α) (place : Nat) (source : List α) : Option (List α) :=
  if place + source.length ≤ buffer.length then
    some (buffer.take place ++ source ++ buffer.drop (place + source.length))
  else
    none

/-- One element. -/
def store (buffer : List α) (place : Nat) (x : α) : Option (List α) := copy buffer place [x]

/-- A copy behind a text makes the text longer. -/
theorem copy_behind (htext : text <+: buffer) {source : List α}
    (hfits : text.length + source.length ≤ buffer.length) :
    ∃ buffer', copy buffer text.length source = some buffer' ∧ text ++ source <+: buffer' ∧
      buffer'.length = buffer.length := by
  refine ⟨_, if_pos hfits, ?_, ?_⟩
  · rw [← List.prefix_iff_eq_take.mp htext]
    exact List.prefix_append ..
  · simp only [List.length_append, List.length_take, List.length_drop]
    omega

theorem store_behind (htext : text <+: buffer) (x : α) (hfits : text.length < buffer.length) :
    ∃ buffer', store buffer text.length x = some buffer' ∧ text ++ [x] <+: buffer' ∧
      buffer'.length = buffer.length :=
  copy_behind htext hfits

end Buffer
