import Mathlib.Data.List.Basic

/-! # Operands of a command line

    A command line is read word by word: a word is an option, with some
    arguments behind it, or the end of the options, or the first operand.

    * `first` : the first operand, by a reading of the words;
    * `Part`  : two readings part at a word: it is the first one that they
                read differently.
-/

namespace Operands

variable {α : Type}

/-- What a word is read as. -/
inductive Reading where
  /-- An option, with its number of arguments behind it. -/
  | option (arguments : Nat)
  /-- An option behind which no word is an operand. -/
  | stop
  /-- Behind it there are no more options. -/
  | last
  | operand
  deriving DecidableEq

/-- The first operand, when `skip` words are skipped before. -/
def first (reading : α → Reading) : Nat → List α → Option α
  | _, [] => none
  | skip + 1, _ :: rest => first reading skip rest
  | 0, word :: rest =>
    match reading word with
    | .option arguments => first reading arguments rest
    | .stop => none
    | .last => rest.head?
    | .operand => some word

section first

variable {reading : α → Reading} {word : α} {rest : List α}

@[simp] theorem first_nil (skip : Nat) : first reading skip [] = none := by
  cases skip with
  | zero => rfl
  | succ skip => rfl

theorem first_skip (skip : Nat) (words : List α) :
    first reading skip words = first reading 0 (words.drop skip) := by
  induction words generalizing skip with
  | nil => rw [List.drop_nil, first_nil, first_nil]
  | cons word rest ih =>
    cases skip with
    | zero => rfl
    | succ skip => exact ih skip

theorem first_option {arguments : Nat} (h : reading word = .option arguments) :
    first reading 0 (word :: rest) = first reading 0 (rest.drop arguments) := by
  show (match reading word with
    | .option arguments => first reading arguments rest
    | .stop => none
    | .last => rest.head?
    | .operand => some word) = _
  rw [h]
  exact first_skip arguments rest

theorem first_stop (h : reading word = .stop) : first reading 0 (word :: rest) = none := by
  simp only [first, h]

theorem first_last (h : reading word = .last) : first reading 0 (word :: rest) = rest.head? := by
  simp only [first, h]

theorem first_operand (h : reading word = .operand) :
    first reading 0 (word :: rest) = some word := by
  simp only [first, h]

end first

/-! ## Two readings -/

/-- Two readings of a line part at the first word of `behind`. -/
inductive Part (f g : α → Reading) : Nat → List α → List α → Prop where
  | here {word : α} {rest : List α} : f word ≠ g word → Part f g 0 (word :: rest) (word :: rest)
  | skipped {skip : Nat} {word : α} {rest behind : List α} :
      Part f g skip rest behind → Part f g (skip + 1) (word :: rest) behind
  | option {arguments : Nat} {word : α} {rest behind : List α} :
      f word = .option arguments → g word = .option arguments → Part f g arguments rest behind →
        Part f g 0 (word :: rest) behind

section part

variable {f g : α → Reading} {skip : Nat} {words behind : List α}

/-- Where they part, both read on as if the line began there. -/
theorem Part.first_eq (h : Part f g skip words behind) :
    first f skip words = first f 0 behind ∧ first g skip words = first g 0 behind := by
  induction h with
  | here _ => exact ⟨rfl, rfl⟩
  | skipped _ ih => exact ih
  | @option arguments word rest behind hf hg _ ih =>
    rw [first_option hf, first_option hg, ← first_skip, ← first_skip]
    exact ih

/-- Two readings that do not part find the same. -/
theorem same_or_part (f g : α → Reading) (skip : Nat) (words : List α) :
    first f skip words = first g skip words ∨ ∃ behind, Part f g skip words behind := by
  induction words generalizing skip with
  | nil =>
    rw [first_nil, first_nil]
    exact .inl rfl
  | cons word rest ih =>
    cases skip with
    | succ skip =>
      rcases ih skip with heq | ⟨behind, hpart⟩
      · exact .inl heq
      · exact .inr ⟨behind, .skipped hpart⟩
    | zero =>
      by_cases hsame : f word = g word
      · cases hg : g word with
        | option arguments =>
          rw [hg] at hsame
          rcases ih arguments with heq | ⟨behind, hpart⟩
          · left
            rw [first_option hsame, first_option hg, ← first_skip, ← first_skip]
            exact heq
          · exact .inr ⟨behind, .option hsame hg hpart⟩
        | stop =>
          rw [first_stop (hsame.trans hg), first_stop hg]
          exact .inl rfl
        | last =>
          rw [first_last (hsame.trans hg), first_last hg]
          exact .inl rfl
        | operand =>
          rw [first_operand (hsame.trans hg), first_operand hg]
          exact .inl rfl
      · exact .inr ⟨_, .here hsame⟩

/-- A reading comes to a word with a property. -/
def Finds (P : α → Prop) (reading : α → Reading) (words : List α) : Prop :=
  ∃ word, first reading 0 words = some word ∧ P word

/-- Two readings agree on what they come to, if they do where they part. -/
theorem finds_iff (P : α → Prop) :
    (Finds P f words ↔ Finds P g words) ↔
      ∀ behind, Part f g 0 words behind → (Finds P f behind ↔ Finds P g behind) := by
  unfold Finds
  constructor
  · intro hsame behind hpart
    obtain ⟨hf, hg⟩ := hpart.first_eq
    rw [← hf, ← hg]
    exact hsame
  · intro hall
    rcases same_or_part f g 0 words with heq | ⟨behind, hpart⟩
    · rw [heq]
    · obtain ⟨hf, hg⟩ := hpart.first_eq
      rw [hf, hg]
      exact hall behind hpart

end part

end Operands
