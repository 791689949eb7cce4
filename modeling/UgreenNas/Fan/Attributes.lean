import Mathlib.Data.List.TakeWhile
import Mathlib.Logic.Function.Basic
import UgreenNas.Fan.It8613

/-! # The attributes of the driver (`fan/it8613_hwmon.c`)

    What the driver path does to the attributes it writes.  The driver may
    fail any access, answer a read from its cache, and lose what is written
    to it; so no answer says anything about an attribute.
-/

namespace UgreenNas.Fan.It8613

open Effect Effect.Proc

/-! ## Numbers in attributes -/

theorem isdigit_toDigits {n : Nat} {c : Char} (hc : c ∈ Nat.toDigits 10 n) : isdigit c = true := by
  have hdigit := Nat.isDigit_of_mem_toDigits (by decide) (by decide) hc
  simpa [isdigit, Char.isDigit, Char.le_def] using hdigit

theorem isspace_of_digit {c : Char} (hc : isdigit c = true) : isspace c = false := by
  unfold isdigit at hc
  simp only [Bool.and_eq_true, decide_eq_true_eq, Char.le_def, UInt32.le_iff_toNat_le] at hc
  have hlow : 48 ≤ c.toNat := hc.1
  have hne : ∀ d : Char, d.toNat < 48 → c ≠ d := by
    intro d hd heq
    rw [heq] at hlow
    omega
  unfold isspace
  simp [hne ' ' (by decide), hne '\t' (by decide), hne '\n' (by decide), hne '\r' (by decide)]
  omega

/-- `strtoul` reads a number that was printed, up to what follows it. -/
theorem strtoul_toDigits {n : Nat} (hn : n < 2 ^ 64) {rest : List Char}
    (hrest : ∀ c ∈ rest.head?, isdigit c = false) :
    strtoul (Nat.toDigits 10 n ++ rest) = (n, false, rest) := by
  obtain ⟨c, digits, hdigits⟩ := List.exists_cons_of_ne_nil (@Nat.toDigits_ne_nil n 10)
  have hall : ∀ d ∈ Nat.toDigits 10 n, isdigit d = true := fun d => isdigit_toDigits
  have hc : isdigit c = true := hall c (by simp [hdigits])
  have hbody : (Nat.toDigits 10 n ++ rest).dropWhile isspace = Nat.toDigits 10 n ++ rest := by
    rw [hdigits, List.cons_append, List.dropWhile_cons_of_neg (by simp [isspace_of_digit hc])]
  have hhead : (Nat.toDigits 10 n ++ rest).head? = some c := by simp [hdigits]
  have hsign : ∀ d : Char, isdigit d = false → some c ≠ some d := by
    intro d hd heq
    cases heq
    rw [hc] at hd
    cases hd
  have htake : (Nat.toDigits 10 n ++ rest).takeWhile isdigit = Nat.toDigits 10 n := by
    rw [List.takeWhile_append_of_pos hall]
    cases rest with
    | nil => simp
    | cons d rest => simp [hrest d rfl]
  have hdrop : (Nat.toDigits 10 n ++ rest).dropWhile isdigit = rest := by
    rw [List.dropWhile_append_of_pos hall]
    cases rest with
    | nil => rfl
    | cons d rest => simp [hrest d rfl]
  have hvalue : (Nat.toDigits 10 n).foldl (fun n c => n * 10 + (c.toNat - '0'.toNat)) 0 = n := by
    have hchars := Nat.ofDigitChars_ten_toDigits (n := n)
    rw [Nat.ofDigitChars_eq_foldl] at hchars
    simpa [Nat.mul_comm] using hchars
  unfold strtoul
  simp only [hbody, hhead, hsign '-' (by decide), hsign '+' (by decide), decide_false,
    Bool.or_self, Bool.false_eq_true, if_false, htake, hdrop, hvalue,
    List.isEmpty_iff, Nat.toDigits_ne_nil]
  rw [if_neg (by omega)]

/-- A number is read back as it was written. -/
theorem strtoul_line {n : Nat} (hn : n < 2 ^ 64) :
    (strtoul (toString n ++ "\n").toList).1 = n := by
  rw [String.toList_append, Nat.toString_eq_repr, Nat.toList_repr]
  have hend : ∀ c ∈ ("\n" : String).toList.head?, isdigit c = false := by
    intro c hc
    cases hc
    decide
  exact congrArg Prod.fst (strtoul_toDigits hn hend)

theorem trimmed_number (n : Nat) : trimmed (toString n) = toString n := by
  unfold trimmed
  rw [Nat.toString_eq_repr, Nat.toList_repr]
  have hkeep : (Nat.toDigits 10 n).reverse.dropWhile isspace = (Nat.toDigits 10 n).reverse := by
    rw [List.dropWhile_eq_self_iff]
    intro hpos hspace
    have hmem := List.mem_reverse.mp (List.getElem_mem hpos)
    rw [isspace_of_digit (isdigit_toDigits hmem)] at hspace
    cases hspace
  rw [hkeep, List.reverse_reverse, ← Nat.toList_repr, String.ofList_toList]

/-! ## The driver -/

abbrev Attributes : Type := Node → Nat

/-- Any answer to any access; a write is taken whole, or lost. -/
def driver : Env fan_io Attributes := fun attributes o _ attributes' => match o with
  | .write node text =>
    attributes' = attributes ∨
      attributes' = Function.update attributes node (strtoul text.toList).1
  | _ => attributes' = attributes

theorem driver_still (attributes : Attributes) (o : FanOp) (b : o.Ans) :
    driver attributes o b attributes := by
  cases o with
  | write node text => exact .inl rfl
  | _ => rfl

/-- `m` keeps the invariant `I`, and what it returns satisfies `P`. -/
def Keeps {α : Type} (I : Attributes → Prop) (P : α → Prop) (m : Io α) : Prop :=
  ∀ attributes, I attributes →
    wp driver I m (fun r _ attributes' => I attributes' ∧ ∀ a, r = .ok a → P a) () attributes

section keeps

variable {α β : Type} {I : Attributes → Prop} {P : α → Prop} {R : β → Prop}

theorem keeps_pure {a : α} (h : P a) : Keeps I P (pure a) := by
  intro attributes hI
  rw [wp_pure]
  refine ⟨hI, fun a' ha => ?_⟩
  cases ha
  exact h

theorem keeps_fail (error : FanError) : Keeps I P (fail error) := by
  intro attributes hI
  rw [wp_fail]
  exact ⟨hI, fun a ha => nomatch ha⟩

theorem keeps_bind {m : Io α} {f : α → Io β} (hm : Keeps I P m)
    (hf : ∀ a, P a → Keeps I R (f a)) : Keeps I R (m >>= f) := by
  intro attributes hI
  apply wp_seq (hm attributes hI)
  · intro a _ attributes' ha
    exact hf a (ha.2 a rfl) attributes' ha.1
  · intro error _ attributes' herror
    exact ⟨herror.1, fun a ha => nomatch ha⟩

theorem keeps_mono {R : α → Prop} {m : Io α} (hm : Keeps I P m) (h : ∀ a, P a → R a) :
    Keeps I R m := by
  intro attributes hI
  apply wp_mono (hm attributes hI) (fun _ hI => hI)
  intro r _ attributes' hr
  exact ⟨hr.1, fun a ha => h a (hr.2 a ha)⟩

theorem keeps_lift {r : Except FanError α} (h : ∀ a, r = .ok a → P a) : Keeps I P (lift r) := by
  intro attributes hI
  rw [wp_lift]
  exact ⟨hI, h⟩

theorem keeps_bail {p : Prop} [Decidable p] (error : FanError) :
    Keeps I (fun _ => ¬ p) (bail p error) := by
  intro attributes hI
  rw [wp_bail]
  exact ⟨fun _ => ⟨hI, fun a ha => nomatch ha⟩, fun hp => ⟨hI, fun _ _ => hp⟩⟩

theorem keeps_attempt {m : Io α} (hm : Keeps I P m) :
    Keeps I (fun r : Except FanError α => ∀ a, r = .ok a → P a) (attempt m) := by
  intro attributes hI
  rw [wp_attempt]
  apply wp_mono (hm attributes hI) (fun _ h => h)
  intro r _ attributes' hr
  refine ⟨hr.1, fun r' hr' => ?_⟩
  cases hr'
  exact hr.2

/-- Everything but a write leaves the attributes alone. -/
theorem keeps_io {o : FanOp} (ho : ∀ node text, o ≠ .write node text) :
    Keeps I (fun _ => True) (io o) := by
  intro attributes hI b attributes' hstep
  have hsame : attributes' = attributes := by
    cases o with
    | write node text => exact absurd rfl (ho node text)
    | _ => exact hstep
  rw [hsame]
  exact ⟨hI, hI, fun _ _ => trivial⟩

theorem keeps_write {node : Node} {text : String}
    (h : ∀ attributes, I attributes →
      I (Function.update attributes node (strtoul text.toList).1)) :
    Keeps I (fun _ => True) (io (.write node text)) := by
  intro attributes hI b attributes' hstep
  rcases hstep with rfl | rfl
  · exact ⟨hI, hI, fun _ _ => trivial⟩
  · exact ⟨h attributes hI, h attributes hI, fun _ _ => trivial⟩

end keeps

/-- With suitable answers `m` returns `a`, and nothing has changed. -/
def Can {α : Type} (m : Io α) (a : α) : Prop :=
  ∀ attributes, Proc.Runs driver m () attributes (.ok a) () attributes

section can

variable {α β : Type}

theorem can_pure (a : α) : Can (pure a) a := fun _ => .pure

theorem can_bind {m : Io α} {f : α → Io β} {a : α} {b : β} (hm : Can m a) (hf : Can (f a) b) :
    Can (m >>= f) b :=
  fun attributes => Prog.Runs.bind (hm attributes) (hf attributes)

theorem can_bail {p : Prop} [Decidable p] (hp : ¬ p) (error : FanError) :
    Can (bail p error) () := by
  unfold Proc.bail
  rw [if_neg hp]
  exact can_pure ()

theorem can_io (o : FanOp) (b : o.Ans) : Can (io o) b :=
  fun attributes => .op (driver_still attributes o b) .pure

theorem can_attempt {m : Io α} {a : α} (hm : Can m a) : Can (attempt m) (.ok a) :=
  fun attributes => Prog.Runs.bind (hm attributes) .pure

/-- What is true of every run is true after one that may happen. -/
theorem can_then {I : Attributes → Prop} {m : Io α} {f : α → Io β} {a : α}
    {Q : Except FanError β → Unit → Attributes → Prop} {attributes : Attributes} (hm : Can m a)
    (h : wp driver I (m >>= f) Q () attributes) : wp driver I (f a) Q () attributes := by
  rw [wp_bind] at h
  exact wp_runs h (hm attributes)

end can

/-! ## Finding the device -/

/-- A directory that the search for the device may come to. -/
def Findable (device : String) : Prop :=
  ∃ root entry, root ≠ "" ∧ is_hwmon_directory_name entry = true ∧
    (Node.mk root entry).path = device ∧ device.utf8ByteSize < PATH_MAX ∧
    (Node.mk device "name").path.utf8ByteSize < PATH_MAX

section search

variable {I : Attributes → Prop}

theorem keeps_checked {α : Type} (text : String) (r : Except Errno α) :
    Keeps I (fun _ => True) (checked text r) :=
  keeps_lift fun _ _ => trivial

theorem keeps_build_path (directory name : String) :
    Keeps I (fun node => node = ⟨directory, name⟩ ∧ node.path.utf8ByteSize < PATH_MAX)
      (build_path directory name) :=
  keeps_bind (keeps_bail _) fun _ hfits => keeps_pure ⟨rfl, Nat.lt_of_not_le hfits⟩

theorem keeps_read_text_file (node : Node) (buffer_size : Nat) :
    Keeps I (fun _ => True) (read_text_file node buffer_size) := by
  apply keeps_bind (keeps_io (by simp))
  intro opened _
  apply keeps_bind (keeps_checked _ opened)
  intro _ _
  apply keeps_bind (keeps_io (by simp))
  intro r _
  apply keeps_bind (keeps_io (by simp))
  intro _ _
  apply keeps_bind (keeps_checked _ r)
  intro text _
  exact keeps_pure trivial

theorem keeps_read_unsigned_file (node : Node) :
    Keeps I (fun _ => True) (read_unsigned_file node) := by
  apply keeps_bind (keeps_read_text_file node 64)
  intro text _
  apply keeps_bind (keeps_bail _)
  intro _ _
  exact keeps_pure trivial

theorem keeps_first_access (paths : List String) :
    Keeps I (fun _ => True) (first_access paths) := by
  induction paths with
  | nil => exact keeps_pure trivial
  | cons path rest ih =>
    apply keeps_bind (keeps_io (by simp))
    intro present _
    cases present with
    | true => exact keeps_pure trivial
    | false => exact ih

theorem keeps_hwmon_root : Keeps I (· ≠ "") hwmon_root := by
  apply keeps_bind (keeps_io (by simp))
  intro override _
  apply keeps_pure
  split
  · decide
  · assumption

/-- What the search has found so far is findable, and stays so. -/
theorem keeps_find_candidates {root : String} (hroot : root ≠ "") (entries : List String)
    {found : Option String} (hfound : ∀ device, found = some device → Findable device) :
    Keeps I (fun r => ∀ device, r = some device → Findable device)
      (find_candidates root entries found) := by
  induction entries generalizing found with
  | nil => exact keeps_pure hfound
  | cons entry rest ih =>
    rw [find_candidates]
    by_cases hname : is_hwmon_directory_name entry = true
    · rw [if_neg (by simp [hname])]
      apply keeps_bind (keeps_build_path root entry)
      intro candidate hcandidate
      apply keeps_bind (keeps_build_path candidate.path "name")
      intro name_path hpath
      apply keeps_bind (keeps_attempt (keeps_read_text_file name_path 64))
      intro name _
      cases name with
      | error error => exact ih hfound
      | ok name =>
        dsimp only
        split
        · exact ih hfound
        · apply keeps_bind (keeps_bail _)
          intro _ _
          apply ih
          intro device hdevice
          cases hdevice
          obtain ⟨rfl, hshort⟩ := hcandidate
          obtain ⟨rfl, hshort'⟩ := hpath
          exact ⟨root, entry, hroot, hname, rfl, hshort, hshort'⟩
    · rw [if_pos (by simp [hname])]
      exact ih hfound

theorem keeps_find_it8613_hwmon : Keeps I Findable find_it8613_hwmon := by
  apply keeps_bind keeps_hwmon_root
  intro root hroot
  apply keeps_bind (keeps_io (by simp))
  intro opened _
  apply keeps_bind (keeps_checked _ opened)
  intro entries _
  have hnone : ∀ device, (none : Option String) = some device → Findable device := by simp
  apply keeps_bind (keeps_find_candidates hroot entries hnone)
  intro found hfound
  cases found with
  | none => exact keeps_fail _
  | some device => exact keeps_pure (hfound device rfl)

theorem keeps_open : Keeps I Findable it8613_hwmon_open := by
  apply keeps_bind (keeps_first_access _)
  intro owner _
  apply keeps_bind (keeps_bail _)
  intro _ _
  apply keeps_bind (P := fun _ => True)
  · exact keeps_bind (keeps_io (by simp)) fun _ _ => keeps_pure trivial
  intro path _
  apply keeps_bind (keeps_io (by simp))
  intro lock_fd _
  apply keeps_bind (keeps_checked _ lock_fd)
  intro _ _
  apply keeps_bind (keeps_io (by simp))
  intro locked _
  cases locked with
  | error errno => exact keeps_bind (keeps_io (by simp)) fun _ _ => keeps_fail _
  | ok u =>
    apply keeps_bind (keeps_attempt keeps_find_it8613_hwmon)
    intro result hresult
    cases result with
    | error error => exact keeps_bind (keeps_io (by simp)) fun _ _ => keeps_fail _
    | ok device => exact keeps_pure (hresult device rfl)

end search

theorem can_build_path {directory name : String}
    (h : (Node.mk directory name).path.utf8ByteSize < PATH_MAX) :
    Can (build_path directory name) ⟨directory, name⟩ :=
  can_bind (can_bail (Nat.not_le_of_lt h) _) (can_pure _)

/-- Every findable directory may be found. -/
theorem can_open {device : String} (h : Findable device) : Can it8613_hwmon_open device := by
  obtain ⟨root, entry, hroot, hname, rfl, hshort, hshort'⟩ := h
  have hread : Can (read_text_file ⟨(Node.mk root entry).path, "name"⟩ 64) IT8613_HWMON_NAME := by
    apply can_bind (can_io _ (Except.ok ()))
    apply can_bind (can_pure ())
    apply can_bind (can_io _ (Except.ok IT8613_HWMON_NAME))
    apply can_bind (can_io _ ())
    apply can_bind (can_pure _)
    exact can_pure _
  have hfind : Can (find_candidates root [entry] none) (some (Node.mk root entry).path) := by
    rw [find_candidates, if_neg (by simp [hname])]
    apply can_bind (can_build_path hshort)
    apply can_bind (can_build_path hshort')
    apply can_bind (can_attempt hread)
    apply can_bind (can_bail (by simp) _)
    exact can_pure _
  have hdevice : Can find_it8613_hwmon (Node.mk root entry).path := by
    have hroot' : Can hwmon_root root := by
      apply can_bind (can_io _ (some root))
      simp only [Option.getD_some, if_neg hroot]
      exact can_pure root
    apply can_bind hroot'
    apply can_bind (can_io _ (Except.ok [entry]))
    apply can_bind (can_pure _)
    apply can_bind hfind
    exact can_pure _
  -- No other owner, and a lock that is free.
  have howner : Can incompatible_controller_owner none := by
    apply can_bind (can_io _ false)
    apply can_bind (can_io _ false)
    apply can_bind (can_io _ false)
    exact can_pure none
  apply can_bind howner
  apply can_bind (can_bail (by simp) _)
  apply can_bind (can_bind (can_io _ none) (can_pure _))
  apply can_bind (can_io _ (Except.ok ()))
  apply can_bind (can_pure ())
  apply can_bind (can_io _ (Except.ok ()))
  apply can_bind (can_attempt hdevice)
  exact can_pure _

/-! ## Setting the channels -/

def enable_node (device : String) (channel : HwmonChannel) : Node :=
  ⟨device, "pwm" ++ toString channel.pwm_index ++ "_enable"⟩

def duty_node (device : String) (channel : HwmonChannel) : Node :=
  ⟨device, "pwm" ++ toString channel.pwm_index⟩

/-- The paths of the channel are short enough to be built. -/
def Fits (device : String) (channel : HwmonChannel) : Prop :=
  (enable_node device channel).path.utf8ByteSize < PATH_MAX

instance (device : String) : DecidablePred (Fits device) := fun _ =>
  inferInstanceAs (Decidable (_ < _))

/-- The channels a call comes to: a path that is too long ends it. -/
def settable (device : String) (channels : List HwmonChannel) : List HwmonChannel :=
  channels.takeWhile (decide <| Fits device ·)

theorem Fits.duty {device : String} {channel : HwmonChannel} (h : Fits device channel) :
    (duty_node device channel).path.utf8ByteSize < PATH_MAX := by
  unfold Fits enable_node Node.path at h
  unfold duty_node Node.path
  simp only [String.utf8ByteSize_append] at h ⊢
  omega

section loop

variable {I : Attributes → Prop} {device : String} {pwm : Nat}

theorem keeps_write_and_verify {node : Node} {expected : Nat} (hsmall : expected < 2 ^ 64)
    (h : ∀ attributes, I attributes → I (Function.update attributes node expected)) :
    Keeps I (fun _ => True) (write_and_verify node expected) := by
  have hwrite : Keeps I (fun _ => True) (write_unsigned_file node expected) := by
    apply keeps_bind (keeps_io (by simp))
    intro opened _
    apply keeps_bind (keeps_checked _ opened)
    intro _ _
    apply keeps_bind (keeps_write _)
    · intro written _
      apply keeps_bind (keeps_io (by simp))
      intro _ _
      apply keeps_bind (keeps_checked _ written)
      intro _ _
      exact keeps_mono (keeps_bail _) fun _ _ => trivial
    · rw [strtoul_line hsmall]
      exact h
  apply keeps_bind hwrite
  intro _ _
  apply keeps_bind (keeps_read_unsigned_file node)
  intro actual _
  split
  · exact keeps_pure trivial
  · apply keeps_bind (keeps_io (by simp))
    intro _ _
    apply keeps_bind (keeps_read_unsigned_file node)
    intro actual _
    exact keeps_mono (keeps_bail _) fun _ _ => trivial

theorem keeps_set_channel {channel : HwmonChannel} (hsmall : pwm < 2 ^ 64)
    (h : Fits device channel → ∀ attributes, I attributes →
      I (Function.update attributes (enable_node device channel) 1) ∧
      I (Function.update attributes (duty_node device channel) pwm)) :
    Keeps I (fun _ => Fits device channel) (set_channel_manual_pwm device channel pwm) := by
  apply keeps_bind (keeps_build_path device _)
  intro enable henable
  obtain ⟨rfl, hfits⟩ := henable
  apply keeps_bind (keeps_write_and_verify (by decide) fun attributes hI => (h hfits attributes hI).1)
  intro _ _
  apply keeps_bind (keeps_build_path device _)
  intro duty hduty
  obtain ⟨rfl, -⟩ := hduty
  have hpwm := keeps_write_and_verify hsmall fun attributes hI => (h hfits attributes hI).2
  exact keeps_mono hpwm fun _ _ => hfits

/-- The loop writes the attributes of settable channels only. -/
theorem keeps_set_channels {channels : List HwmonChannel} (hsmall : pwm < 2 ^ 64)
    (h : ∀ channel ∈ settable device channels, ∀ attributes, I attributes →
      I (Function.update attributes (enable_node device channel) 1) ∧
      I (Function.update attributes (duty_node device channel) pwm)) :
    Keeps I (fun _ => True) (set_channels_manual_pwm device pwm channels) := by
  induction channels with
  | nil => exact keeps_pure trivial
  | cons channel rest ih =>
    have hcons : Fits device channel →
        settable device (channel :: rest) = channel :: settable device rest := by
      intro hfits
      exact List.takeWhile_cons_of_pos (decide_eq_true hfits)
    rw [set_channels_manual_pwm]
    apply keeps_bind (keeps_set_channel hsmall _)
    · intro _ hfits
      apply ih
      intro c hc
      apply h c
      rw [hcons hfits]
      exact List.mem_cons_of_mem channel hc
    · intro hfits
      apply h channel
      rw [hcons hfits]
      exact List.mem_cons_self

theorem can_write_and_verify (node : Node) {n : Nat} (hn : n < 2 ^ 64) :
    Can (write_and_verify node n) () := by
  have hwrite : Can (write_unsigned_file node n) () := by
    apply can_bind (can_io _ (Except.ok ()))
    apply can_bind (can_pure ())
    apply can_bind (can_io _ (Except.ok (toString n ++ "\n").utf8ByteSize))
    apply can_bind (can_io _ ())
    apply can_bind (can_pure _)
    exact can_bail (by simp) _
  have htext : Can (read_text_file node 64) (toString n) := by
    apply can_bind (can_io _ (Except.ok ()))
    apply can_bind (can_pure ())
    apply can_bind (can_io _ (Except.ok (toString n)))
    apply can_bind (can_io _ ())
    apply can_bind (can_pure _)
    rw [trimmed_number]
    exact can_pure _
  have hread : Can (read_unsigned_file node) n := by
    have hvalue : strtoul (toString n).toList = (n, false, []) := by
      have happend := @strtoul_toDigits n hn [] (by simp)
      rwa [List.append_nil, ← Nat.toList_repr, ← Nat.toString_eq_repr] at happend
    apply can_bind htext
    rw [hvalue]
    dsimp only
    apply can_bind (can_bail _ _)
    · exact can_pure n
    · simp
  apply can_bind hwrite
  apply can_bind hread
  rw [if_pos rfl]
  exact can_pure ()

/-- A channel may be set without anything having changed. -/
theorem can_set_channel {channel : HwmonChannel} (hfits : Fits device channel)
    (hsmall : pwm < 2 ^ 64) : Can (set_channel_manual_pwm device channel pwm) () := by
  apply can_bind (can_build_path hfits)
  apply can_bind (can_write_and_verify _ (by decide))
  apply can_bind (can_build_path hfits.duty)
  exact can_write_and_verify _ hsmall

/-- Every settable channel is made manual while its duty is as it was. -/
theorem taken_over {channels : List HwmonChannel} {attributes : Attributes}
    {Q : Except FanError Unit → Unit → Attributes → Prop} (hsmall : pwm < 2 ^ 64)
    (h : wp driver I (set_channels_manual_pwm device pwm channels) Q () attributes)
    {channel : HwmonChannel} (hmem : channel ∈ settable device channels) :
    I (Function.update attributes (enable_node device channel) 1) := by
  induction channels with
  | nil => simp [settable] at hmem
  | cons first rest ih =>
    rw [set_channels_manual_pwm] at h
    by_cases hfits : Fits device first
    · have hcons : settable device (first :: rest) = first :: settable device rest :=
        List.takeWhile_cons_of_pos (decide_eq_true hfits)
      rw [hcons] at hmem
      rcases List.mem_cons.mp hmem with rfl | hlater
      · -- The write that makes it manual is taken; the rest does not matter.
        rw [wp_bind] at h
        have henable := can_then (can_build_path hfits) h
        rw [wp_bind] at henable
        unfold write_and_verify at henable
        rw [wp_bind] at henable
        have hopened := can_then (can_io _ (Except.ok ())) henable
        have hwrite := can_then (can_pure ()) hopened
        rw [wp_bind] at hwrite
        have hstep := hwrite (.ok 2) (Function.update attributes (enable_node device channel) 1)
          (.inr rfl)
        exact hstep.1
      · have hrest := can_then (f := fun _ => set_channels_manual_pwm device pwm rest)
          (can_set_channel hfits hsmall) h
        exact ih hrest hlater
    · have hnil : settable device (first :: rest) = [] :=
        List.takeWhile_cons_of_neg (by simpa using hfits)
      rw [hnil] at hmem
      cases hmem

end loop

end UgreenNas.Fan.It8613
