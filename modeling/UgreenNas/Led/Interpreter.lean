import UgreenNas.Led.Owners
import UgreenNas.Seq.Operands

/-! # The script that an interpreter runs (`led/led.c`)

    An interpreter reads its words by its own grammar of options.  The loop
    reads them as if every option with an argument were written alone: where
    one is at the end of a cluster, its argument is taken for the script.
-/

namespace UgreenNas.Led

open DiskMap Operands

/-! ## Grammars -/

/-- The option grammar of an interpreter, as its manual has it. -/
structure Grammar where
  /-- `+` starts an option, too. -/
  plus : Bool
  /-- Letters with an argument. -/
  takes : Char → Bool
  /-- Letters behind which no script is executed, by the sign before them. -/
  stops : Char → Char → Bool
  /-- What is behind such a letter in the same word is its argument. -/
  attached : Bool
  long_takes : Text → Bool
  long_stops : Text → Bool
  /-- A lone `-`. -/
  dash : Reading

/-- The letters of a cluster, with the number of arguments up to here. -/
def Grammar.cluster (grammar : Grammar) (sign : Char) : Nat → Text → Reading
  | arguments, [] => .option arguments
  | arguments, letter :: rest =>
    if grammar.stops sign letter then .stop
    else if grammar.takes letter then
      if grammar.attached && !rest.isEmpty then .option arguments
      else grammar.cluster sign (arguments + 1) rest
    else grammar.cluster sign arguments rest

def Grammar.reading (grammar : Grammar) (word : Text) : Reading :=
  if word = "--".toList then .last
  else if word = "-".toList then grammar.dash
  else
    match word with
    | '-' :: '-' :: _ =>
      if grammar.long_stops word then .stop
      else if grammar.long_takes word then .option 1
      else .option 0
    | '-' :: letters => grammar.cluster '-' 0 letters
    | '+' :: letters => if grammar.plus then grammar.cluster '+' 0 letters else .operand
    | _ => .operand

/-- The words read one by one, as the loop does. -/
def as_written (shell : Bool) (word : Text) : Reading :=
  if word = "--".toList then .last
  else if !is_option shell word then .operand
  else if runs_no_script shell word then .stop
  else if takes_argument shell word then .option 1
  else .option 0

def Named (script : Text) : Prop := process_name_is_owner (some script) false = true

/-- Competing controllers are recognised, and nothing else is. -/
def Recognised (grammar : Text → Grammar) (comm executable : Option Text) (name : Text)
    (words : List Text) : Prop :=
  command_is_owner comm executable (some name :: words.map some) = true ↔
    process_name_is_owner comm true = true ∨ process_name_is_owner executable false = true ∨
      Named name ∨ Finds Named (grammar (process_basename name)).reading words

/-! ## The loop -/

section loop

variable {shell : Bool} {word : Text} {rest : List Text}

theorem script_loop_iff (shell : Bool) (words : List Text) :
    script_loop shell (words.map some) = true ↔ Finds Named (as_written shell) words := by
  induction hlength : words.length using Nat.strong_induction_on generalizing words with
  | _ n ih =>
    cases words with
    | nil =>
      apply iff_of_false
      · exact Bool.false_ne_true
      · intro h
        obtain ⟨script, hscript, -⟩ := h
        cases hscript
    | cons word rest =>
      have hrest : rest.length < n := by
        rw [← hlength, List.length_cons]
        exact Nat.lt_succ_self _
      unfold Finds
      rw [List.map_cons]
      unfold script_loop
      by_cases hdashes : word = "--".toList
      · have hreading : as_written shell word = .last := if_pos hdashes
        rw [if_pos hdashes, first_last hreading]
        cases rest with
        | nil => simp
        | cons next rest =>
          show process_name_is_owner (some next) false = true ↔ _
          simp [Named]
      rw [if_neg hdashes]
      by_cases hoperand : (!is_option shell word) = true
      · have hreading : as_written shell word = .operand := by
          unfold as_written
          rw [if_neg hdashes, if_pos hoperand]
        rw [if_pos hoperand, first_operand hreading]
        simp [Named]
      rw [if_neg hoperand]
      by_cases hstop : runs_no_script shell word = true
      · have hreading : as_written shell word = .stop := by
          unfold as_written
          rw [if_neg hdashes, if_neg hoperand, if_pos hstop]
        rw [if_pos hstop, first_stop hreading]
        simp
      rw [if_neg hstop]
      by_cases htakes : takes_argument shell word = true
      · have hreading : as_written shell word = .option 1 := by
          unfold as_written
          rw [if_neg hdashes, if_neg hoperand, if_neg hstop, if_pos htakes]
        rw [if_pos htakes, first_option hreading]
        cases rest with
        | nil => simp
        | cons argument rest =>
          have hless : rest.length < n := Nat.lt_of_succ_lt hrest
          exact ih rest.length hless rest rfl
      · have hreading : as_written shell word = .option 0 := by
          unfold as_written
          rw [if_neg hdashes, if_neg hoperand, if_neg hstop, if_neg htakes]
        rw [if_neg htakes, first_option hreading]
        exact ih rest.length hrest rest rfl

end loop

/-- What the command is recognised by. -/
theorem command_is_owner_eq {comm executable : Option Text} {name : Text} {words : List Text}
    (hprogram : is_shell (process_basename name) = true ∨ is_python (process_basename name) = true) :
    command_is_owner comm executable (some name :: words.map some) = true ↔
      process_name_is_owner comm true = true ∨ process_name_is_owner executable false = true ∨
        Named name ∨ Finds Named (as_written (is_shell (process_basename name))) words := by
  rw [← script_loop_iff]
  have hlisted : ¬ (!is_shell (process_basename name) && !is_python (process_basename name)) = true := by
    rcases hprogram with h | h
    · simp [h]
    · simp [h]
  unfold command_is_owner Named
  by_cases hcomm : process_name_is_owner comm true = true
  · simp [hcomm]
  by_cases hexecutable : process_name_is_owner executable false = true
  · simp [hexecutable]
  by_cases hname : process_name_is_owner (some name) false = true
  · simp [hname]
  simp only [hcomm, hexecutable, hname, hlisted, Bool.false_eq_true, Bool.or_self, if_false, false_or]

/-! ## Words that are misread -/

/-- The loop and the interpreter part at a word, and only one of them comes to
    the name of an owner. -/
def Misled (grammar : Text → Grammar) (name : Text) (words : List Text) : Prop :=
  ∃ behind, Part (as_written (is_shell (process_basename name)))
      (grammar (process_basename name)).reading 0 words behind ∧
    ¬ (Finds Named (as_written (is_shell (process_basename name))) behind ↔
      Finds Named (grammar (process_basename name)).reading behind)

theorem not_misled_iff {grammar : Text → Grammar} {name : Text} {words : List Text} :
    ¬ Misled grammar name words ↔
      (Finds Named (as_written (is_shell (process_basename name))) words ↔
        Finds Named (grammar (process_basename name)).reading words) := by
  rw [finds_iff]
  unfold Misled
  constructor
  · intro hnot behind hpart
    by_contra hdiffer
    exact hnot ⟨behind, hpart, hdiffer⟩
  · intro hall hmisled
    obtain ⟨behind, hpart, hdiffer⟩ := hmisled
    exact hdiffer (hall behind hpart)

section cluster

variable {grammar : Grammar} {shell : Bool} {flag letter : Char} {flags : Text}

/-- The interpreter takes the word behind a cluster with such a letter at its
    end for its argument. -/
theorem cluster_reading (hflags : ∀ f ∈ flags, grammar.stops '-' f = false ∧ grammar.takes f = false)
    (hstops : grammar.stops '-' letter = false) (htakes : grammar.takes letter = true) :
    grammar.cluster '-' 0 (flags ++ [letter]) = .option 1 := by
  induction flags with
  | nil => simp [Grammar.cluster, hstops, htakes]
  | cons f rest ih =>
    obtain ⟨hstop, htake⟩ := hflags f List.mem_cons_self
    rw [List.cons_append]
    unfold Grammar.cluster
    rw [if_neg (by rw [hstop]; exact Bool.false_ne_true),
      if_neg (by rw [htake]; exact Bool.false_ne_true)]
    exact ih fun g hg => hflags g (List.mem_cons_of_mem f hg)

/-- The loop takes it for an option without an argument, or for one behind
    which nothing is a script. -/
theorem as_written_cluster (hflag : flag ≠ '-') :
    as_written shell ('-' :: flag :: (flags ++ [letter])) = .stop ∨
      as_written shell ('-' :: flag :: (flags ++ [letter])) = .option 0 := by
  have hdashes : '-' :: flag :: (flags ++ [letter]) ≠ "--".toList := by
    intro h
    have hlength := congrArg List.length h
    simp at hlength
  have hoption : ¬ (!is_option shell ('-' :: flag :: (flags ++ [letter]))) = true := by
    simp [is_option]
  have halone : takes_argument shell ('-' :: flag :: (flags ++ [letter])) = false := by
    cases shell with
    | true => simp [takes_argument, hflag]
    | false => simp [takes_argument, hflag]
  unfold as_written
  rw [if_neg hdashes, if_neg hoption, halone]
  by_cases hstop : runs_no_script shell ('-' :: flag :: (flags ++ [letter])) = true
  · rw [if_pos hstop]
    exact .inl rfl
  · rw [if_neg hstop]
    exact .inr rfl

theorem reading_cluster (hflag : flag ≠ '-')
    (hflags : ∀ f ∈ flag :: flags, grammar.stops '-' f = false ∧ grammar.takes f = false)
    (hstops : grammar.stops '-' letter = false) (htakes : grammar.takes letter = true) :
    grammar.reading ('-' :: flag :: (flags ++ [letter])) = .option 1 := by
  have hshort : ∀ word : Text, word.length ≤ 2 → '-' :: flag :: (flags ++ [letter]) ≠ word := by
    intro word hword heq
    rw [← heq] at hword
    simp at hword
  unfold Grammar.reading
  rw [if_neg (hshort _ (by decide)), if_neg (hshort _ (by decide))]
  split
  · rename_i heq
    cases heq
    exact absurd rfl hflag
  · rename_i letters _ heq
    cases heq
    exact @cluster_reading grammar letter (flag :: flags) hflags hstops htakes
  · rename_i heq
    cases heq
  · rename_i hnone _
    exact absurd rfl (hnone _)

end cluster

/-- A script behind such a cluster is not recognised, whatever its name. -/
theorem cluster_hides_script {grammar : Text → Grammar} {comm executable : Option Text}
    {name argument script flags : Text} {flag letter : Char} {rest : List Text}
    (hprogram : is_shell (process_basename name) = true ∨ is_python (process_basename name) = true)
    (hcomm : process_name_is_owner comm true = false)
    (hexecutable : process_name_is_owner executable false = false) (hname : ¬ Named name)
    (hflag : flag ≠ '-')
    (hflags : ∀ f ∈ flag :: flags, (grammar (process_basename name)).stops '-' f = false ∧
      (grammar (process_basename name)).takes f = false)
    (hstops : (grammar (process_basename name)).stops '-' letter = false)
    (htakes : (grammar (process_basename name)).takes letter = true)
    (hargument : is_option (is_shell (process_basename name)) argument = false)
    (hother : ¬ Named argument)
    (hscript : (grammar (process_basename name)).reading script = .operand) (howner : Named script) :
    ¬ Recognised grammar comm executable name
      (('-' :: flag :: (flags ++ [letter])) :: argument :: script :: rest) := by
  have hreading := reading_cluster hflag hflags hstops htakes
  intro hrecognised
  have hruns : Finds Named (grammar (process_basename name)).reading
      (('-' :: flag :: (flags ++ [letter])) :: argument :: script :: rest) := by
    refine ⟨script, ?_, howner⟩
    rw [first_option hreading]
    exact first_operand hscript
  obtain hfound := (command_is_owner_eq hprogram).mp (hrecognised.mpr (.inr (.inr (.inr hruns))))
  rcases hfound with hfound | hfound | hfound | ⟨word, hfirst, hnamed⟩
  · rw [hcomm] at hfound
    cases hfound
  · rw [hexecutable] at hfound
    cases hfound
  · exact hname hfound
  · have hdashes : argument ≠ "--".toList := by
      intro heq
      rw [heq] at hargument
      cases hargument
    have hoperand : as_written (is_shell (process_basename name)) argument = .operand := by
      unfold as_written
      rw [if_neg hdashes, hargument]
      rfl
    rcases @as_written_cluster (is_shell (process_basename name)) _ letter flags hflag with
      hstop | hoption
    · rw [first_stop hstop] at hfirst
      cases hfirst
    · rw [first_option hoption, List.drop_zero, first_operand hoperand] at hfirst
      rw [← Option.some.inj hfirst] at hnamed
      exact hother hnamed

/-- The options of python. -/
def python : Grammar where
  plus := false
  takes letter := letter = 'W' || letter = 'X'
  stops _ letter := ['c', 'm', 'h', 'V', '?'].contains letter
  attached := true
  long_takes word := word = "--check-hash-based-pycs".toList
  long_stops word := word = "--help".toList || word = "--version".toList
  dash := .operand

example : ["-uWignore", "-uW", "-um"].map (fun word => python.reading word.toList) =
    [.option 0, .option 1, .stop] := by decide

example : ["-uWignore", "-uW", "-um"].map (fun word => as_written false word.toList) =
    [.option 0, .option 0, .option 0] := by decide

/-- The options of bash. -/
def bash : Grammar where
  plus := true
  takes letter := letter = 'o' || letter = 'O'
  stops _ letter := letter = 'c' || letter = 's'
  attached := false
  long_takes word := word = "--rcfile".toList || word = "--init-file".toList
  long_stops word := word = "--help".toList || word = "--version".toList
  dash := .last

end UgreenNas.Led
