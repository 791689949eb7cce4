import UgreenNas.Json.Scan

/-! # What the scanner accepts

    Behind every part that is scanned stands a document that the part
    spells, and the value is the one built from it.
-/

namespace JsonText

variable {ε ν : Type} {b : Builder ε ν}

/-! ## White space -/

theorem skip_split (text : List Char) :
    ∃ before, text = before ++ skip text ∧ Blanks before := by
  have hblank : Blanks (text.takeWhile blank) := by
    intro c hc
    exact List.mem_takeWhile_imp hc
  exact ⟨text.takeWhile blank, (List.takeWhile_append_dropWhile ..).symm, hblank⟩

/-! ## Strings -/

theorem quoted_of_scan (text : List Char) {parts : List Part} {rest : List Char}
    (h : scan_string text = some (parts, rest)) :
    ∃ quoted, text = quoted ++ '"' :: rest ∧ Quoted parts quoted := by
  fun_induction scan_string text generalizing parts rest with
  | case1 rest' =>
    simp only [Option.some.injEq, Prod.mk.injEq] at h
    obtain ⟨rfl, rfl⟩ := h
    exact ⟨[], rfl, .nil⟩
  | case2 => simp at h
  | case3 a b c d text n hword ih =>
    simp only [Option.bind_eq_bind, Option.bind_eq_some_iff, Option.pure_def,
      Option.some.injEq, Prod.exists, Prod.mk.injEq] at h
    obtain ⟨parts', rest', hscan, rfl, rfl⟩ := h
    obtain ⟨quoted, rfl, hquoted⟩ := ih hscan
    exact ⟨'\\' :: 'u' :: a :: b :: c :: d :: quoted, rfl, .code hword hquoted⟩
  | case4 => simp at h
  | case5 letter text hno c hshort ih =>
    simp only [Option.bind_eq_bind, Option.bind_eq_some_iff, Option.pure_def,
      Option.some.injEq, Prod.exists, Prod.mk.injEq] at h
    obtain ⟨parts', rest', hscan, rfl, rfl⟩ := h
    obtain ⟨quoted, rfl, hquoted⟩ := ih hscan
    exact ⟨'\\' :: letter :: quoted, rfl, .short hshort hquoted⟩
  | case6 => simp at h
  | case7 c text hquote hcode hletter hc ih =>
    simp only [Option.bind_eq_bind, Option.bind_eq_some_iff, Option.pure_def,
      Option.some.injEq, Prod.exists, Prod.mk.injEq] at h
    obtain ⟨parts', rest', hscan, rfl, rfl⟩ := h
    obtain ⟨quoted, rfl, hquoted⟩ := ih hscan
    have hne : c ≠ '"' := fun heq => hquote heq
    exact ⟨c :: quoted, rfl, .char (by omega) hne (fun heq => hc (.inr heq)) hquoted⟩
  | case8 => simp at h

/-- A key, with the white space around it and around its colon. -/
theorem key_of_scan {text : List Char} {parts : List Part} {rest : List Char}
    (h : scan_key text = some (parts, rest)) :
    ∃ before key gap space, text = before ++ ('"' :: key ++ ['"']) ++ gap ++ ':' :: (space ++ rest) ∧
      Blanks before ∧ Quoted parts key ∧ Blanks gap ∧ Blanks space := by
  obtain ⟨before, htext, hbefore⟩ := skip_split text
  unfold scan_key at h
  split at h
  case h_2 => simp at h
  case h_1 _ behind hquote =>
    split at h
    · simp at h
    · next parts' rest' hscan =>
      obtain ⟨key, rfl, hkey⟩ := quoted_of_scan _ hscan
      obtain ⟨gap, hgaps, hgap⟩ := skip_split rest'
      split at h
      case h_2 => simp at h
      case h_1 _ behind' hcolon =>
        simp only [Option.some.injEq, Prod.mk.injEq] at h
        obtain ⟨rfl, rfl⟩ := h
        obtain ⟨space, hspaces, hspace⟩ := skip_split behind'
        refine ⟨before, key, gap, space, ?_, hbefore, hkey, hgap, hspace⟩
        rw [htext, hquote, hgaps, hcolon]
        simp [← hspaces]

/-! ## Numbers -/

theorem scan_digits_split (text : List Char) :
    text = (scan_digits text).1 ++ (scan_digits text).2 ∧
      ∀ c ∈ (scan_digits text).1, digit c = true := by
  constructor
  · exact (List.takeWhile_append_dropWhile ..).symm
  · intro c hc
    exact List.mem_takeWhile_imp hc

theorem integral_of_scan {text digits rest : List Char}
    (h : scan_integral text = some (digits, rest)) : text = digits ++ rest ∧ Integral digits := by
  unfold scan_integral at h
  split at h
  · simp only [Option.some.injEq, Prod.mk.injEq] at h
    obtain ⟨rfl, rfl⟩ := h
    have hdigit : digit '0' = true := by decide
    exact ⟨rfl, by simp, by simp [hdigit], fun _ => rfl⟩
  · next hzero =>
    obtain ⟨hsplit, hdigits⟩ := scan_digits_split text
    by_cases hnone : (scan_digits text).1 = []
    · simp [hnone] at h
    · rw [if_neg hnone, Option.some.injEq] at h
      rw [h] at hsplit hdigits hnone
      refine ⟨hsplit, hnone, hdigits, ?_⟩
      -- a zero in front is read alone
      intro hhead
      obtain ⟨behind, hbehind⟩ : ∃ behind, digits = '0' :: behind := by
        cases digits with
        | nil => simp at hhead
        | cons c behind => exact ⟨behind, by simpa using hhead⟩
      exact absurd (by rw [hsplit, hbehind]; rfl) (hzero (behind ++ rest))

theorem fraction_of_scan (text : List Char) :
    text = (scan_fraction text).1 ++ (scan_fraction text).2 ∧ Fraction (scan_fraction text).1 := by
  unfold scan_fraction
  split
  · next rest =>
    obtain ⟨hsplit, hdigits⟩ := scan_digits_split rest
    by_cases hnone : (scan_digits rest).1 = []
    · simp [hnone, Fraction]
    · simp only [if_neg hnone]
      exact ⟨by simp [← hsplit], .inr ⟨_, rfl, hnone, hdigits⟩⟩
  · exact ⟨rfl, .inl rfl⟩

theorem sign_of_scan (text : List Char) :
    text = (scan_sign text).1 ++ (scan_sign text).2 ∧
      ((scan_sign text).1 = [] ∨ (scan_sign text).1 = ['+'] ∨ (scan_sign text).1 = ['-']) := by
  unfold scan_sign
  split <;> simp

theorem exponent_of_scan (text : List Char) :
    text = (scan_exponent text).1 ++ (scan_exponent text).2 ∧ Exponent (scan_exponent text).1 := by
  unfold scan_exponent
  split
  · next e rest =>
    obtain ⟨hrest, hsign⟩ := sign_of_scan rest
    obtain ⟨hsplit, hdigits⟩ := scan_digits_split (scan_sign rest).2
    by_cases hcond : (e = 'e' ∨ e = 'E') ∧ (scan_digits (scan_sign rest).2).1 ≠ []
    · simp only [if_pos hcond]
      refine ⟨?_, .inr ⟨e, _, _, rfl, hcond.1, hsign, hcond.2, hdigits⟩⟩
      rw [List.cons_append, List.append_assoc, ← hsplit, ← hrest]
    · simp only [if_neg hcond]
      exact ⟨rfl, .inl rfl⟩
  · exact ⟨rfl, .inl rfl⟩

/-! ## Documents -/

/-- What an accepting scan of `text` tells: a document is spelled in front of
    `rest`, and `value` is built from it. -/
def Reads (b : Builder ε ν) (text : List Char) (value : ν) (rest : List Char) : Prop :=
  ∃ doc spelled, text = spelled ++ rest ∧ Spelled doc spelled ∧ build b doc = .ok value

theorem reads_number {negative : Bool} {text rest : List Char} {value : ν}
    (h : scan_number b negative text = .ok (value, rest)) :
    Reads b (minus negative ++ text) value rest := by
  unfold scan_number at h
  split at h
  · simp at h
  · next digits behind hscan =>
    obtain ⟨rfl, hdigits⟩ := integral_of_scan hscan
    obtain ⟨hfraction, hfraction'⟩ := fraction_of_scan behind
    obtain ⟨hexponent, hexponent'⟩ := exponent_of_scan (scan_fraction behind).2
    by_cases hnone : (scan_fraction behind).1 ++ (scan_exponent (scan_fraction behind).2).1 = []
    · simp only [if_pos hnone, Except.ok.injEq, Prod.mk.injEq] at h
      obtain ⟨rfl, rfl⟩ := h
      obtain ⟨hleft, hright⟩ := List.append_eq_nil_iff.mp hnone
      rw [hright] at hexponent
      rw [hleft] at hfraction
      refine ⟨_, _, ?_, .int hdigits, rfl⟩
      have hbehind : behind = (scan_exponent (scan_fraction behind).2).2 :=
        hfraction.trans hexponent
      rw [List.append_assoc, ← hbehind]
    · simp only [if_neg hnone, Except.ok.injEq, Prod.mk.injEq] at h
      obtain ⟨rfl, rfl⟩ := h
      refine ⟨_, _, ?_, @Spelled.float negative _ _ _ hdigits hfraction' hexponent' hnone, rfl⟩
      simp [← hexponent, ← hfraction]

theorem reads_built {doc : Doc} {spelled rest rest' : List Char} {r : Except ε ν} {value : ν}
    (h : built r rest' = .ok (value, rest)) (hspelled : Spelled doc spelled)
    (hbuild : build b doc = r) : Reads b (spelled ++ rest') value rest := by
  unfold built at h
  split at h
  · next value' =>
    simp only [Except.ok.injEq, Prod.mk.injEq] at h
    obtain ⟨rfl, rfl⟩ := h
    exact ⟨doc, spelled, rfl, hspelled, hbuild⟩
  · simp at h

def ReadsItems (b : Builder ε ν) (text : List Char) (values : List ν) (rest : List Char) : Prop :=
  ∃ docs spelled, text = spelled ++ ']' :: rest ∧ SpelledItems docs spelled ∧
    build_items b docs = .ok values

def ReadsMembers (b : Builder ε ν) (text : List Char) (values : List (Option String × ν))
    (rest : List Char) : Prop :=
  ∃ members spelled, text = spelled ++ '\x7d' :: rest ∧ SpelledMembers members spelled ∧
    build_members b members = .ok values

section Step

variable {steps : Nat}
  (ih : ∀ text value rest, scan b steps text = .ok (value, rest) → Reads b text value rest)
  (ih_items : ∀ text values rest, scan_items b steps text = .ok (values, rest) →
    ReadsItems b text values rest)
  (ih_members : ∀ text values rest, scan_members b steps text = .ok (values, rest) →
    ReadsMembers b text values rest)

include ih_items ih_members in
theorem reads_scan {text rest : List Char} {value : ν}
    (h : scan b (steps + 1) text = .ok (value, rest)) : Reads b text value rest := by
  unfold scan at h
  split at h
  -- a string
  · next behind =>
    split at h
    · simp at h
    · next parts rest' hscan =>
      simp only [Except.ok.injEq, Prod.mk.injEq] at h
      obtain ⟨rfl, rfl⟩ := h
      obtain ⟨quoted, rfl, hquoted⟩ := quoted_of_scan _ hscan
      exact ⟨_, _, by simp, .str hquoted, rfl⟩
  -- an object
  · next behind =>
    obtain ⟨before, hbehind, hbefore⟩ := skip_split behind
    split at h
    · next behind' hclose =>
      have hreads := reads_built (b := b) h (.empty_object hbefore) rfl
      rw [hbehind, hclose]
      simpa using hreads
    · split at h
      · simp at h
      · next values rest' hscan =>
        obtain ⟨members, spelled, rfl, hspelled, hbuild⟩ := ih_members _ _ _ hscan
        have hreads := reads_built (b := b) h (.object hspelled) (build_object hbuild)
        simpa using hreads
  -- an array
  · next behind =>
    obtain ⟨before, hbehind, hbefore⟩ := skip_split behind
    split at h
    · next behind' hclose =>
      simp only [Except.ok.injEq, Prod.mk.injEq] at h
      obtain ⟨rfl, rfl⟩ := h
      rw [hbehind, hclose]
      exact ⟨_, _, by simp, .empty_array hbefore, build_array (build_items_nil b)⟩
    · split at h
      · simp at h
      · next values rest' hscan =>
        simp only [Except.ok.injEq, Prod.mk.injEq] at h
        obtain ⟨rfl, rfl⟩ := h
        obtain ⟨docs, spelled, rfl, hspelled, hbuild⟩ := ih_items _ _ _ hscan
        exact ⟨_, _, by simp, .array hspelled, build_array hbuild⟩
  -- the literals
  · simp only [Except.ok.injEq, Prod.mk.injEq] at h
    obtain ⟨rfl, rfl⟩ := h
    exact ⟨_, _, rfl, .null, rfl⟩
  · simp only [Except.ok.injEq, Prod.mk.injEq] at h
    obtain ⟨rfl, rfl⟩ := h
    exact ⟨_, _, rfl, .true, rfl⟩
  · simp only [Except.ok.injEq, Prod.mk.injEq] at h
    obtain ⟨rfl, rfl⟩ := h
    exact ⟨_, _, rfl, .false, rfl⟩
  · exact reads_built h .nan rfl
  · exact reads_built h .infinity rfl
  · exact reads_built h .minus_infinity rfl
  -- the numbers
  · exact @reads_number _ _ b true _ _ _ h
  · exact @reads_number _ _ b false _ _ _ h

include ih ih_items in
theorem reads_scan_items {text rest : List Char} {values : List ν}
    (h : scan_items b (steps + 1) text = .ok (values, rest)) : ReadsItems b text values rest := by
  unfold scan_items at h
  obtain ⟨before, htext, hbefore⟩ := skip_split text
  split at h
  · simp at h
  · next value rest' hscan =>
    obtain ⟨doc, spelled, hskip, hspelled, hbuild⟩ := ih _ _ _ hscan
    obtain ⟨behind, hrest, hbehind⟩ := skip_split rest'
    rw [hskip, hrest] at htext
    split at h
    · next rest'' hclose =>
      simp only [Except.ok.injEq, Prod.mk.injEq] at h
      obtain ⟨rfl, rfl⟩ := h
      rw [hclose] at htext
      exact ⟨_, _, by simp [htext], .last hbefore hspelled hbehind,
        build_items_cons hbuild (build_items_nil b)⟩
    · next rest'' hcomma =>
      split at h
      · simp at h
      · next values' rest''' hitems =>
        simp only [Except.ok.injEq, Prod.mk.injEq] at h
        obtain ⟨rfl, rfl⟩ := h
        obtain ⟨docs, others, rfl, hothers, hbuilds⟩ := ih_items _ _ _ hitems
        rw [hcomma] at htext
        exact ⟨_, _, by simp [htext], .cons hbefore hspelled hbehind hothers,
          build_items_cons hbuild hbuilds⟩
    · simp at h

include ih ih_members in
theorem reads_scan_members {text rest : List Char} {values : List (Option String × ν)}
    (h : scan_members b (steps + 1) text = .ok (values, rest)) :
    ReadsMembers b text values rest := by
  unfold scan_members at h
  split at h
  · simp at h
  · next parts rest₀ hkey =>
    obtain ⟨before, key, gap, space, htext, hbefore, hquoted, hgap, hspace⟩ := key_of_scan hkey
    split at h
    · simp at h
    · next value rest' hscan =>
      obtain ⟨doc, spelled, rfl, hspelled, hbuild⟩ := ih _ _ _ hscan
      obtain ⟨behind, hrest, hbehind⟩ := skip_split rest'
      rw [hrest] at htext
      split at h
      · next rest'' hclose =>
        simp only [Except.ok.injEq, Prod.mk.injEq] at h
        obtain ⟨rfl, rfl⟩ := h
        rw [hclose] at htext
        exact ⟨_, _, by simp [htext], .last hbefore hquoted hgap hspace hspelled hbehind,
          build_members_cons hbuild (build_members_nil b)⟩
      · next rest'' hcomma =>
        split at h
        · simp at h
        · next values' rest''' hmembers =>
          simp only [Except.ok.injEq, Prod.mk.injEq] at h
          obtain ⟨rfl, rfl⟩ := h
          obtain ⟨members, others, rfl, hothers, hbuilds⟩ := ih_members _ _ _ hmembers
          rw [hcomma] at htext
          exact ⟨_, _, by simp [htext],
            .cons hbefore hquoted hgap hspace hspelled hbehind hothers,
            build_members_cons hbuild hbuilds⟩
      · simp at h

end Step

/-- By induction on the number of steps, for the three scanners at once. -/
theorem reads_all (b : Builder ε ν) (steps : Nat) :
    (∀ text value rest, scan b steps text = .ok (value, rest) → Reads b text value rest) ∧
    (∀ text values rest, scan_items b steps text = .ok (values, rest) →
      ReadsItems b text values rest) ∧
    ∀ text values rest, scan_members b steps text = .ok (values, rest) →
      ReadsMembers b text values rest := by
  induction steps with
  | zero =>
    refine ⟨?_, ?_, ?_⟩
    · intro text value rest h
      simp [scan] at h
    · intro text values rest h
      simp [scan_items] at h
    · intro text values rest h
      simp [scan_members] at h
  | succ steps ih =>
    obtain ⟨hscan, hitems, hmembers⟩ := ih
    refine ⟨?_, ?_, ?_⟩
    · intro text value rest h
      exact reads_scan hitems hmembers h
    · intro text values rest h
      exact reads_scan_items hscan hitems h
    · intro text values rest h
      exact reads_scan_members hscan hmembers h

/-- A text that is loaded is that of a document, and the value is built from it. -/
theorem text_of_loads {text : List Char} {value : ν} (h : loads b text = .ok value) :
    ∃ doc, Text doc text ∧ build b doc = .ok value := by
  unfold loads at h
  obtain ⟨before, htext, hbefore⟩ := skip_split text
  split at h
  · simp at h
  · next value' rest hscan =>
    obtain ⟨doc, spelled, hskip, hspelled, hbuild⟩ := (reads_all b _).1 _ _ _ hscan
    obtain ⟨behind, hrest, hbehind⟩ := skip_split rest
    by_cases hend : skip rest = []
    · rw [if_pos hend, Except.ok.injEq] at h
      rw [hend, List.append_nil] at hrest
      refine ⟨doc, ⟨before, spelled, behind, ?_, hbefore, hspelled, hbehind⟩, h ▸ hbuild⟩
      rw [htext, hskip, hrest, List.append_assoc]
    · simp [hend] at h

end JsonText
