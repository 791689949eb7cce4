import UgreenNas.Core.Identity

/-! # The compatible list and its encoding

    `compatible_read` joins the names of the device tree with bars,
    `ugreenctl_identity_has_compatible` takes them apart again.
-/

namespace UgreenNas.Core

open Errno

/-! ## Lists of names -/

/-- The characters of a name. -/
def Allowed (c : UInt8) : Prop := 0x21 ≤ c ∧ c ≤ 0x7e ∧ c ≠ bar

def ValidToken (token : List UInt8) : Prop := token ≠ [] ∧ ∀ c ∈ token, Allowed c

/-- The names, each with its NUL. -/
def terminated (tokens : List (List UInt8)) : List UInt8 := tokens.flatMap (· ++ [0])

/-- The names with a bar between them. -/
def joined (tokens : List (List UInt8)) : List UInt8 := [bar].intercalate tokens

/-- The content of a property that lists `tokens`. -/
structure Lists (content : List UInt8) (tokens : List (List UInt8)) : Prop where
  nonempty : tokens ≠ []
  valid : ∀ token ∈ tokens, ValidToken token
  content : content = terminated tokens

theorem allowed_ne_zero {c : UInt8} (h : Allowed c) : c ≠ 0 := by
  intro heq
  rw [heq] at h
  exact absurd h.1 (by decide)

theorem not_mem_of_allowed {token : List UInt8} (h : ∀ c ∈ token, Allowed c) :
    0 ∉ token ∧ bar ∉ token := by
  constructor
  · intro hmem
    exact allowed_ne_zero (h 0 hmem) rfl
  · intro hmem
    exact (h bar hmem).2.2 rfl

@[simp] theorem terminated_nil : terminated [] = [] := rfl

theorem terminated_cons (token : List UInt8) (tokens : List (List UInt8)) :
    terminated (token :: tokens) = token ++ 0 :: terminated tokens := by
  simp [terminated]

theorem terminated_snoc (tokens : List (List UInt8)) (token : List UInt8) :
    terminated (tokens ++ [token]) = terminated tokens ++ (token ++ [0]) := by
  simp [terminated]

theorem joined_snoc {tokens : List (List UInt8)} (hne : tokens ≠ []) (token : List UInt8) :
    joined (tokens ++ [token]) = joined tokens ++ [bar] ++ token := by
  induction tokens with
  | nil => exact absurd rfl hne
  | cons first tokens ih =>
    by_cases hlast : tokens = []
    · simp [joined, hlast, List.intercalate]
    · have hrest := ih hlast
      obtain ⟨next, others, rfl⟩ := List.exists_cons_of_ne_nil hlast
      simp only [joined, List.intercalate, List.cons_append, List.intersperse_cons_cons,
        List.flatten_cons] at hrest ⊢
      rw [hrest]
      simp

theorem joined_singleton (token : List UInt8) : joined [token] = token := by
  simp [joined, List.intercalate]

/-- The last NUL has no bar. -/
theorem joined_length {tokens : List (List UInt8)} (hne : tokens ≠ []) :
    (joined tokens).length + 1 = (terminated tokens).length := by
  induction tokens using List.reverseRecOn with
  | nil => exact absurd rfl hne
  | append_singleton tokens token ih =>
    by_cases hfirst : tokens = []
    · simp [hfirst, joined_singleton, terminated]
    · have hlength := ih hfirst
      rw [joined_snoc hfirst, terminated_snoc]
      simp only [List.length_append, List.length_cons, List.length_nil]
      omega

theorem joined_le_snoc (tokens more : List (List UInt8)) :
    (joined tokens).length ≤ (joined (tokens ++ more)).length := by
  induction more using List.reverseRecOn with
  | nil => simp
  | append_singleton more token ih =>
    rw [← List.append_assoc]
    by_cases hne : tokens ++ more = []
    · simp [(List.append_eq_nil_iff.mp hne).1, joined, List.intercalate]
    · rw [joined_snoc hne]
      simp only [List.length_append]
      omega

theorem joined_eq_nil {tokens : List (List UInt8)} (hvalid : ∀ t ∈ tokens, ValidToken t) :
    (joined tokens).length = 0 ↔ tokens = [] := by
  constructor
  · intro hlength
    by_contra hne
    obtain ⟨token, others, rfl⟩ := List.exists_cons_of_ne_nil hne
    have hle := joined_le_snoc [token] others
    have hpos := List.length_pos_of_ne_nil (hvalid token List.mem_cons_self).1
    rw [joined_singleton, List.singleton_append] at hle
    omega
  · intro h
    simp [h, joined, List.intercalate]

/-- No NUL is in the joined names. -/
theorem joined_no_nul {tokens : List (List UInt8)} (hvalid : ∀ t ∈ tokens, ValidToken t) :
    0 ∉ joined tokens := by
  induction tokens using List.reverseRecOn with
  | nil => simp [joined, List.intercalate]
  | append_singleton tokens token ih =>
    have htoken := (not_mem_of_allowed (hvalid token (by simp)).2).1
    by_cases hfirst : tokens = []
    · simpa [hfirst, joined_singleton] using htoken
    · have hrest := ih fun t ht => hvalid t (by simp [ht])
      rw [joined_snoc hfirst]
      simp [hrest, htoken, bar]

/-- A name ends at its NUL. -/
theorem token_unique {token token' rest rest' : List UInt8} (h : 0 ∉ token) (h' : 0 ∉ token')
    (heq : token ++ 0 :: rest = token' ++ 0 :: rest') : token = token' ∧ rest = rest' := by
  have hsplit : ∀ {t r : List UInt8}, 0 ∉ t → (t ++ 0 :: r).takeWhile (· ≠ 0) = t := by
    intro t r ht
    have hall : ∀ c ∈ t, decide (c ≠ 0) = true := by
      intro c hc
      simp only [ne_eq, decide_not, Bool.not_eq_true', decide_eq_false_iff_not]
      exact fun hzero => ht (hzero ▸ hc)
    rw [List.takeWhile_append_of_pos hall]
    simp
  have htoken : token = token' := by
    rw [← hsplit (r := rest) h, heq, hsplit h']
  subst htoken
  exact ⟨rfl, by simpa using heq⟩

/-- A content lists the names of one list only. -/
theorem terminated_inj {tokens tokens' : List (List UInt8)} (h : ∀ t ∈ tokens, ValidToken t)
    (h' : ∀ t ∈ tokens', ValidToken t) (heq : terminated tokens = terminated tokens') :
    tokens = tokens' := by
  induction tokens generalizing tokens' with
  | nil =>
    cases tokens' with
    | nil => rfl
    | cons token' tokens' => simp [terminated_cons] at heq
  | cons token tokens ih =>
    cases tokens' with
    | nil => simp [terminated_cons] at heq
    | cons token' tokens' =>
      rw [terminated_cons, terminated_cons] at heq
      obtain ⟨rfl, hrest⟩ := token_unique (not_mem_of_allowed (h token List.mem_cons_self).2).1
        (not_mem_of_allowed (h' token' List.mem_cons_self).2).1 heq
      rw [ih (fun t ht => h t (List.mem_cons_of_mem _ ht))
        (fun t ht => h' t (List.mem_cons_of_mem _ ht)) hrest]

/-! ## The loop -/

/-- The variables when `done` is encoded. -/
structure Encoded (capacity : Nat) (done : List (List UInt8)) (s : Encoding) : Prop where
  start : s.start = (terminated done).length
  used : s.used = (joined done).length
  out : joined done <+: s.out
  size : s.out.length = capacity
  fits : (joined done).length < capacity

section Loop

variable {capacity i : Nat} {raw part rest : List UInt8} {done : List (List UInt8)} {s : Encoding}

theorem encode_allowed {c : UInt8} (hc : Allowed c) :
    encode_byte raw capacity i c s = pure s := by
  have hne := allowed_ne_zero hc
  obtain ⟨hlow, hhigh, hbar⟩ := hc
  unfold encode_byte
  rw [if_pos hne, if_neg]
  simp only [Bool.or_eq_true, decide_eq_true_eq, not_or, UInt8.not_lt, gt_iff_lt]
  exact ⟨⟨hlow, hhigh⟩, hbar⟩

theorem encode_refused {c : UInt8} (hne : c ≠ 0) (hc : ¬Allowed c) :
    encode_byte raw capacity i c s = throw EBADMSG := by
  unfold encode_byte
  rw [if_pos hne, if_pos]
  simp only [Bool.or_eq_true, decide_eq_true_eq]
  by_contra h
  simp only [not_or, UInt8.not_lt, gt_iff_lt] at h
  exact hc ⟨h.1.1, h.1.2, h.2⟩

theorem copied_part (hs : Encoded capacity done s) (hraw : raw = terminated done ++ part ++ rest)
    (hi : i = (terminated done).length + part.length) :
    i - s.start = part.length ∧ (raw.drop s.start).take part.length = part := by
  constructor
  · rw [hi, hs.start]
    omega
  · rw [hs.start, hraw, List.append_assoc, List.drop_left, List.take_left]

theorem pure_inj {α : Type} {x y : α} (h : (pure x : Run α) = pure y) : x = y :=
  Except.ok.inj (Option.some.inj h)

theorem throw_ne_pure {α : Type} (e : Errno) (x : α) : (throw e : Run α) ≠ pure x := by
  intro h
  exact absurd (Option.some.inj h) (by simp)

theorem run_copy {buffer buffer' source : List UInt8} {place : Nat}
    (h : Buffer.copy buffer place source = some buffer') :
    copy buffer place source = (pure buffer' : Run (List UInt8)) := by
  unfold copy
  rw [h]
  rfl

/-- The NUL behind the first name. -/
theorem encode_first (hs : Encoded capacity [] s) (hraw : raw = part ++ rest)
    (hi : i = part.length) (hne : part ≠ []) (hfits : part.length < capacity) :
    ∃ s', encode_byte raw capacity i 0 s = pure s' ∧ Encoded capacity [part] s' := by
  obtain ⟨hlength, htake⟩ := @copied_part capacity i raw part rest [] s hs hraw (by simpa using hi)
  have hused : s.used = 0 := by simp [hs.used, joined, List.intercalate]
  have hpos := List.length_pos_of_ne_nil hne
  obtain ⟨out, hcopy, hout, hsize⟩ := @Buffer.copy_behind _ s.out [] List.nil_prefix
    part (by simp only [List.length_nil, hs.size]; omega)
  refine ⟨⟨part.length, i + 1, out⟩, ?_, ?_⟩
  · unfold encode_byte
    rw [List.length_nil] at hcopy
    simp only [ne_eq, not_true_eq_false, if_false, hlength, htake, hused]
    rw [if_neg (by omega), pure_bind, run_copy hcopy, pure_bind, Nat.zero_add]
  · refine ⟨?_, ?_, ?_, ?_, ?_⟩
    · simp [terminated, hi]
    · simp [joined_singleton]
    · simpa [joined_singleton] using hout
    · rw [hsize, hs.size]
    · simpa [joined_singleton] using hfits

/-- The NUL behind a later name. -/
theorem encode_later (hs : Encoded capacity done s) (hdone : ∀ t ∈ done, ValidToken t)
    (hlater : done ≠ []) (hraw : raw = terminated done ++ part ++ rest)
    (hi : i = (terminated done).length + part.length) (hne : part ≠ [])
    (hfits : (joined (done ++ [part])).length < capacity) :
    ∃ s', encode_byte raw capacity i 0 s = pure s' ∧ Encoded capacity (done ++ [part]) s' := by
  obtain ⟨hlength, htake⟩ := copied_part hs hraw hi
  have hused : s.used ≠ 0 := by
    rw [hs.used]
    exact mt (joined_eq_nil hdone).mp hlater
  have hpos := List.length_pos_of_ne_nil hne
  rw [joined_snoc hlater] at hfits
  simp only [List.length_append, List.length_cons, List.length_nil] at hfits
  obtain ⟨out₁, hcopy₁, hout₁, hsize₁⟩ := @Buffer.copy_behind _ _ _ hs.out [bar]
    (by simp only [List.length_cons, List.length_nil, hs.size]; omega)
  obtain ⟨out₂, hcopy₂, hout₂, hsize₂⟩ := @Buffer.copy_behind _ _ _ hout₁ part
    (by simp only [List.length_append, List.length_cons, List.length_nil, hsize₁, hs.size]; omega)
  refine ⟨⟨s.used + 1 + part.length, i + 1, out₂⟩, ?_, ?_⟩
  · unfold encode_byte
    rw [hs.used] at hused ⊢
    simp only [ne_eq, not_true_eq_false, if_false, hlength, htake, hused, not_false_eq_true, if_true]
    rw [List.length_append, List.length_singleton] at hcopy₂
    rw [if_neg (by rw [hs.start]; omega), run_copy hcopy₁, pure_bind, run_copy hcopy₂, pure_bind]
  · refine ⟨?_, ?_, ?_, ?_, ?_⟩
    · rw [terminated_snoc, hi]
      simp only [List.length_append, List.length_cons, List.length_nil]
      omega
    · rw [joined_snoc hlater, hs.used]
      simp only [List.length_append, List.length_cons, List.length_nil]
    · rw [joined_snoc hlater]
      exact hout₂
    · rw [hsize₂, hsize₁, hs.size]
    · rw [joined_snoc hlater]
      simp only [List.length_append, List.length_cons, List.length_nil]
      omega

/-- A name that is empty or too long is refused. -/
theorem encode_overlong (hs : Encoded capacity done s) (hdone : ∀ t ∈ done, ValidToken t)
    (hi : i = (terminated done).length + part.length)
    (hlong : part = [] ∨ capacity ≤ (joined (done ++ [part])).length) :
    encode_byte raw capacity i 0 s = throw EBADMSG := by
  unfold encode_byte
  rw [if_neg (not_not_intro rfl), if_pos]
  by_cases hempty : part = []
  · left
    simp [hi, hs.start, hempty]
  · right
    have hcapacity := hlong.resolve_left hempty
    rw [hi, hs.start, hs.used]
    by_cases hfirst : done = []
    · simpa [hfirst, joined, List.intercalate] using hcapacity
    · have hused := mt (joined_eq_nil hdone).mp hfirst
      rw [joined_snoc hfirst] at hcapacity
      simp only [List.length_append, List.length_cons, List.length_nil] at hcapacity
      rw [if_pos hused]
      omega

/-- The rest of the loop, for the names that are still to come. -/
theorem encode_bytes_spec (hs : Encoded capacity done s) (hdone : ∀ t ∈ done, ValidToken t)
    (hpart : ∀ c ∈ part, Allowed c) (hraw : raw = terminated done ++ part ++ rest)
    (hi : i = (terminated done).length + part.length)
    (hlast : part ++ rest = [] ∨ (part ++ rest).getLast? = some 0) :
    (∃ tokens s', encode_bytes raw capacity i rest s = pure s' ∧ part ++ rest = terminated tokens ∧
      (∀ t ∈ tokens, ValidToken t) ∧ Encoded capacity (done ++ tokens) s') ∨
    (encode_bytes raw capacity i rest s = throw EBADMSG ∧
      ∀ tokens, part ++ rest = terminated tokens → (∀ t ∈ tokens, ValidToken t) →
        capacity ≤ (joined (done ++ tokens)).length) := by
  induction rest generalizing done part s i with
  | nil =>
    left
    have hempty : part = [] := by
      rw [List.append_nil] at hlast
      by_contra hne
      have hzero := List.mem_of_getLast? (hlast.resolve_left hne)
      exact allowed_ne_zero (hpart 0 hzero) rfl
    exact ⟨[], s, rfl, by simp [hempty], by simp, by simpa using hs⟩
  | cons c rest ih =>
    by_cases hnul : c = 0
    · subst hnul
      by_cases hlong : part = [] ∨ capacity ≤ (joined (done ++ [part])).length
      · right
        rw [encode_bytes, encode_overlong hs hdone hi hlong]
        refine ⟨rfl, ?_⟩
        intro tokens heq hvalid
        cases tokens with
        | nil => simp at heq
        | cons token tokens =>
          rw [terminated_cons] at heq
          have hvalid' := hvalid token List.mem_cons_self
          obtain ⟨rfl, -⟩ := token_unique (not_mem_of_allowed hpart).1
            (not_mem_of_allowed hvalid'.2).1 heq
          have hle := joined_le_snoc (done ++ [part]) tokens
          rw [List.append_assoc, List.singleton_append] at hle
          exact (hlong.resolve_left hvalid'.1).trans hle
      · rw [not_or, Nat.not_le] at hlong
        have hvalid : ValidToken part := ⟨hlong.1, hpart⟩
        have hnext : ∃ s', encode_byte raw capacity i 0 s = pure s' ∧
            Encoded capacity (done ++ [part]) s' := by
          by_cases hfirst : done = []
          · subst hfirst
            rw [List.nil_append, joined_singleton] at hlong
            exact encode_first hs hraw (by simpa using hi) hlong.1 hlong.2
          · exact encode_later hs hdone hfirst hraw hi hlong.1 hlong.2
        obtain ⟨s', hstep, hs'⟩ := hnext
        have hdone' : ∀ t ∈ done ++ [part], ValidToken t := by
          intro t ht
          obtain ht | ht := List.mem_append.mp ht
          · exact hdone t ht
          · exact List.mem_singleton.mp ht ▸ hvalid
        have hrest := @ih (i + 1) [] (done ++ [part]) s' hs' hdone' (by simp)
          (by rw [terminated_snoc, hraw]; simp)
          (by rw [terminated_snoc, hi]; simp; omega)
          (by
            by_cases hempty : rest = []
            · exact .inl (by simp [hempty])
            · right
              rw [List.getLast?_append_of_ne_nil _ (by simp)] at hlast
              simpa [List.getLast?_cons_of_ne_nil hempty] using hlast)
        rw [encode_bytes, hstep, pure_bind]
        obtain ⟨tokens, s'', hrun, hcontent, htokens, hs''⟩ | ⟨hrun, hlong'⟩ := hrest
        · left
          refine ⟨part :: tokens, s'', hrun, ?_, ?_, ?_⟩
          · rw [terminated_cons, ← hcontent]
            rfl
          · intro t ht
            obtain rfl | ht := List.mem_cons.mp ht
            · exact hvalid
            · exact htokens t ht
          · simpa using hs''
        · right
          refine ⟨hrun, ?_⟩
          intro tokens heq htokens
          cases tokens with
          | nil => simp at heq
          | cons token tokens =>
            rw [terminated_cons] at heq
            have htoken := htokens token List.mem_cons_self
            obtain ⟨rfl, hsame⟩ := token_unique (not_mem_of_allowed hpart).1
              (not_mem_of_allowed htoken.2).1 heq
            have hle := hlong' tokens hsame fun t ht => htokens t (List.mem_cons_of_mem _ ht)
            simpa using hle
    · by_cases hc : Allowed c
      · -- the name goes on
        rw [encode_bytes, encode_allowed hc, pure_bind]
        have hrest := @ih (i + 1) (part ++ [c]) done s hs hdone
          (by
            intro d hd
            obtain hd | hd := List.mem_append.mp hd
            · exact hpart d hd
            · exact List.mem_singleton.mp hd ▸ hc)
          (by rw [hraw]; simp) (by rw [hi]; simp; omega) (by simpa using hlast)
        simpa using hrest
      · -- no name contains such a character
        right
        rw [encode_bytes, encode_refused hnul hc]
        refine ⟨rfl, ?_⟩
        intro tokens heq hvalid
        have hmem : c ∈ terminated tokens := by simp [← heq]
        obtain ⟨token, htoken, hchar⟩ := List.mem_flatMap.mp hmem
        obtain hchar | hchar := List.mem_append.mp hchar
        · exact absurd ((hvalid token htoken).2 c hchar) hc
        · exact absurd (List.mem_singleton.mp hchar) hnul

end Loop

/-! ## Reading the list -/

/-- The file of a property that can be read, with its content. -/
def Readable (sysfs : Sysfs) (root : String) (content : List UInt8) : Prop :=
  (root ++ "/" ++ "firmware/devicetree/base/compatible").utf8ByteSize < PATH_SIZE ∧
    sysfs (root ++ "/" ++ "firmware/devicetree/base/compatible") = .ok ⟨content, false⟩

theorem raw_read_iff {sysfs : Sysfs} {root : String} {raw : List UInt8} :
    raw_read sysfs root "firmware/devicetree/base/compatible" RAW_SIZE = .ok raw ↔
      Readable sysfs root raw ∧ raw.length ≤ RAW_SIZE := by
  unfold raw_read Readable
  by_cases hpath : (root ++ "/" ++ "firmware/devicetree/base/compatible").utf8ByteSize ≥ PATH_SIZE
  · simp only [if_pos hpath]
    constructor
    · simp
    · intro h
      omega
  · simp only [if_neg hpath]
    rw [Nat.not_le] at hpath
    cases hfile : sysfs (root ++ "/" ++ "firmware/devicetree/base/compatible") with
    | error e => simp
    | ok stream =>
      obtain ⟨content, fails⟩ := stream
      by_cases hlong : content.length > RAW_SIZE
      · simp only [if_pos hlong]
        constructor
        · simp
        · intro h
          simp only [Except.ok.injEq, Stream.mk.injEq] at h
          obtain ⟨⟨-, rfl, -⟩, hle⟩ := h
          omega
      · cases fails
        · simp only [if_neg hlong, Bool.false_eq_true, if_false, Except.ok.injEq, Stream.mk.injEq,
            and_true]
          constructor
          · intro h
            exact ⟨⟨hpath, h⟩, h ▸ Nat.le_of_not_lt hlong⟩
          · exact fun h => h.1.2
        · simp [hlong]

/-- What was read is a list of names that fits, joined, in front of a NUL; or
    there is an error, and no such list. -/
theorem compatible_read_spec {sysfs : Sysfs} {root : String} {out : List UInt8}
    (hpos : 0 < out.length) :
    (∃ content tokens out', compatible_read sysfs root out = pure out' ∧
      Readable sysfs root content ∧ content.length ≤ RAW_SIZE ∧ Lists content tokens ∧
      (joined tokens).length < out.length ∧ joined tokens ++ [0] <+: out' ∧
      out'.length = out.length) ∨
    ∃ e, compatible_read sysfs root out = throw e ∧
      ∀ content tokens, Readable sysfs root content → content.length ≤ RAW_SIZE →
        Lists content tokens → out.length ≤ (joined tokens).length := by
  obtain ⟨cleared, hclear, -, hsize⟩ := @Buffer.copy_behind _ out [] List.nil_prefix
    [0] (by simp only [List.length_nil, List.length_cons]; omega)
  rw [List.length_nil] at hclear
  unfold compatible_read
  simp only [run_copy hclear, pure_bind]
  cases hraw : raw_read sysfs root "firmware/devicetree/base/compatible" RAW_SIZE with
  | error e =>
    right
    refine ⟨e, rfl, ?_⟩
    intro content tokens hread hlength
    rw [raw_read_iff.mpr ⟨hread, hlength⟩] at hraw
    exact absurd hraw (by simp)
  | ok raw =>
    obtain ⟨hread, hlength⟩ := raw_read_iff.mp hraw
    have hsame : ∀ {content}, Readable sysfs root content → content = raw := by
      intro content hcontent
      have heq := hcontent.2.symm.trans hread.2
      simpa using heq
    dsimp only
    by_cases hlast : raw.getLast? = some 0
    · rw [if_neg (not_not_intro hlast)]
      have hstart : Encoded out.length [] ⟨0, 0, cleared⟩ :=
        ⟨rfl, rfl, List.nil_prefix, hsize, hpos⟩
      have hloop := @encode_bytes_spec out.length 0 raw [] raw [] ⟨0, 0, cleared⟩ hstart (by simp)
        (by simp) (by simp) (by simp) (.inr (by simpa using hlast))
      rw [List.nil_append] at hloop
      obtain ⟨tokens, s', hrun, hcontent, hvalid, hs'⟩ | ⟨hrun, hlong⟩ := hloop
      · left
        rw [List.nil_append] at hs'
        have hne : tokens ≠ [] := by
          intro hempty
          rw [hempty, terminated_nil] at hcontent
          simp [hcontent] at hlast
        obtain ⟨out', hcopy, hout', hsize'⟩ := @Buffer.copy_behind _ _ _ hs'.out [0]
          (by rw [hs'.size]; exact hs'.fits)
        refine ⟨raw, tokens, out', ?_, hread, hlength, ⟨hne, hvalid, hcontent⟩, hs'.fits, hout',
          hsize'.trans hs'.size⟩
        rw [hrun, pure_bind, hs'.used, run_copy hcopy]
      · right
        refine ⟨EBADMSG, by rw [hrun]; rfl, ?_⟩
        intro content tokens hcontent _ hlists
        obtain rfl := hsame hcontent
        exact hlong tokens hlists.content hlists.valid
    · right
      rw [if_pos hlast]
      refine ⟨EBADMSG, rfl, ?_⟩
      intro content tokens hcontent _ hlists
      obtain rfl := hsame hcontent
      -- the last name of a list has a NUL behind it
      exfalso
      obtain ⟨init, last, hsplit⟩ := (List.eq_nil_or_concat tokens).resolve_left hlists.nonempty
      rw [hlists.content, hsplit, List.concat_eq_append, terminated_snoc] at hlast
      simp at hlast

theorem compatible_list_read {sysfs : Sysfs} {root : String} {out out' : List UInt8}
    (hpos : 0 < out.length) (h : compatible_read sysfs root out = pure out') :
    ∃ content tokens, Readable sysfs root content ∧ Lists content tokens ∧
      joined tokens ++ [0] <+: out' := by
  obtain ⟨content, tokens, found, hrun, hread, -, hlists, -, hout, -⟩ | ⟨e, hrun, -⟩ :=
    @compatible_read_spec sysfs root out hpos
  · obtain rfl := pure_inj (hrun.symm.trans h)
    exact ⟨content, tokens, hread, hlists, hout⟩
  · exact absurd (hrun.symm.trans h) (throw_ne_pure e out')

/-- The string that is kept. -/
theorem c_string_joined {tokens : List (List UInt8)} {out : List UInt8}
    (hvalid : ∀ t ∈ tokens, ValidToken t) (hout : joined tokens ++ [0] <+: out) :
    (c_string out).bytes = joined tokens := by
  obtain ⟨rest, rfl⟩ := hout
  have hall : ∀ c ∈ joined tokens, decide (c ≠ 0) = true := by
    intro c hc
    simp only [ne_eq, decide_not, Bool.not_eq_true', decide_eq_false_iff_not]
    exact fun hzero => joined_no_nul hvalid (hzero ▸ hc)
  change (joined tokens ++ [0] ++ rest).takeWhile _ = _
  rw [List.append_assoc, List.takeWhile_append_of_pos hall]
  simp

/-! ## Looking for a name -/

theorem split_at_bar {text : List UInt8} (h : bar ∈ text) :
    ∃ rest, text = text.takeWhile (· ≠ bar) ++ bar :: rest ∧
      (text.dropWhile (· ≠ bar)).tail = rest ∧ bar ∉ text.takeWhile (· ≠ bar) := by
  refine ⟨(text.dropWhile (· ≠ bar)).tail, ?_, rfl, ?_⟩
  · have hne : text.dropWhile (· ≠ bar) ≠ [] := by
      intro hnone
      have hall := List.dropWhile_eq_nil_iff.mp hnone bar h
      simp at hall
    obtain ⟨c, rest, hrest⟩ := List.exists_cons_of_ne_nil hne
    have hc : c = bar := by
      have hhead := List.head?_dropWhile_not (· ≠ bar) text
      rw [hrest] at hhead
      simpa using hhead
    have hsplit := text.takeWhile_append_dropWhile (p := (· ≠ bar))
    rw [hrest, hc] at hsplit
    rw [hrest, List.tail_cons]
    exact hsplit.symm
  · intro hmem
    have hbar := List.mem_takeWhile_imp hmem
    simp at hbar

/-- A comparison of the lengths and then of the bytes. -/
theorem same_bytes_iff {segment behind token : List UInt8} :
    (segment.length = token.length && (segment ++ behind).take token.length = token) = true ↔
      token = segment := by
  simp only [Bool.and_eq_true, decide_eq_true_eq]
  constructor
  · intro h
    obtain ⟨hlength, hbytes⟩ := h
    rw [← hbytes, ← hlength, List.take_left]
  · intro h
    rw [h, List.take_left]
    exact ⟨rfl, rfl⟩

/-- The scanner looks for a name among the parts between the bars. -/
theorem find_token_iff {token text : List UInt8} (hne : token ≠ []) :
    find_token token text = true ↔ token ∈ text.splitOn bar := by
  fun_induction find_token token text with
  | case1 => simp [hne]
  | case2 text hempty hlast =>
    have hsame := @same_bytes_iff text [] token
    rw [List.append_nil] at hsame
    rw [hsame, List.splitOn_eq_singleton hlast, List.mem_singleton]
  | case3 text hempty hbar segment hfound =>
    obtain ⟨rest, hsplit, htail, hsegment⟩ := split_at_bar (not_not.mp hbar)
    rw [hsplit] at hfound
    have hsame := same_bytes_iff.mp hfound
    rw [hsplit, List.splitOn_append_cons_self_of_not_mem hsegment, List.mem_cons]
    exact iff_of_true rfl (.inl hsame)
  | case4 text hempty hbar segment hother ih =>
    obtain ⟨rest, hsplit, htail, hsegment⟩ := split_at_bar (not_not.mp hbar)
    have hdiffer : token ≠ segment := by
      intro heq
      refine hother ?_
      rw [hsplit]
      exact same_bytes_iff.mpr heq
    rw [htail] at ih
    rw [htail, ih, hsplit, List.splitOn_append_cons_self_of_not_mem hsegment, List.mem_cons]
    exact (or_iff_right hdiffer).symm

/-- The parts between the bars are the names. -/
theorem split_joined {tokens : List (List UInt8)} (hne : tokens ≠ [])
    (hvalid : ∀ t ∈ tokens, ValidToken t) : (joined tokens).splitOn bar = tokens :=
  List.splitOn_intercalate bar (fun t ht => (not_mem_of_allowed (hvalid t ht).2).2) hne

theorem has_compatible_iff {identity : MachineIdentity} {tokens : List (List UInt8)}
    (hne : tokens ≠ []) (hvalid : ∀ t ∈ tokens, ValidToken t)
    (hkept : identity.compatible.bytes = joined tokens) (token : CString) :
    identity_has_compatible (some identity) (some token) = true ↔ token.bytes ∈ tokens := by
  unfold identity_has_compatible
  simp only
  by_cases hrefused : (decide (token.bytes = []) || decide (bar ∈ token.bytes)) = true
  · rw [if_pos hrefused]
    simp only [Bool.false_eq_true, false_iff]
    intro hmem
    -- no name of a list is empty or has a bar in it
    have htoken := hvalid _ hmem
    simp only [Bool.or_eq_true, decide_eq_true_eq] at hrefused
    obtain hempty | hbar := hrefused
    · exact htoken.1 hempty
    · exact (not_mem_of_allowed htoken.2).2 hbar
  · rw [if_neg hrefused]
    simp only [Bool.or_eq_true, decide_eq_true_eq, not_or] at hrefused
    rw [find_token_iff hrefused.1, hkept, split_joined hne hvalid]

/-- The list of a property is read if and only if it is a list of names whose
    encoding fits the output, nothing is written behind the output, and of the
    list that was read exactly its names are found. -/
theorem compatible_list_kept (sysfs : Sysfs) (root : String) {out : List UInt8}
    (hpos : 0 < out.length) (hcapacity : out.length ≤ RAW_SIZE) :
    compatible_read sysfs root out ≠ ExceptT.mk none ∧
    ((∃ out', compatible_read sysfs root out = pure out') ↔
      ∃ content tokens, Readable sysfs root content ∧ Lists content tokens ∧
        (joined tokens).length < out.length) ∧
    ∀ out', compatible_read sysfs root out = pure out' → out'.length = out.length ∧
      ∀ content tokens, Readable sysfs root content → Lists content tokens →
        ∀ identity, identity.compatible = c_string out' → ∀ token,
          identity_has_compatible (some identity) (some token) = true ↔ token.bytes ∈ tokens := by
  have hshort : ∀ {content tokens}, Lists content tokens →
      (joined tokens).length < out.length → content.length ≤ RAW_SIZE := by
    intro content tokens hlists hfits
    have hlength := joined_length hlists.nonempty
    rw [hlists.content]
    omega
  obtain ⟨content, tokens, out', hrun, hread, hlength, hlists, hfits, hout, hsize⟩ |
    ⟨e, hrun, hrefused⟩ := @compatible_read_spec sysfs root out hpos
  · rw [hrun]
    refine ⟨by simp [pure, ExceptT.pure, ExceptT.mk], ?_, ?_⟩
    · exact iff_of_true ⟨out', rfl⟩ ⟨content, tokens, hread, hlists, hfits⟩
    · intro out'' heq
      obtain rfl := pure_inj heq
      refine ⟨hsize, ?_⟩
      intro content' tokens' hread' hlists' identity hidentity token
      have hsame := hread.2.symm.trans hread'.2
      simp only [Except.ok.injEq, Stream.mk.injEq, and_true] at hsame
      have htokens := terminated_inj hlists.valid hlists'.valid
        (hlists.content.symm.trans (hsame.trans hlists'.content))
      have hkept := c_string_joined hlists.valid hout
      rw [← hidentity] at hkept
      rw [← htokens]
      exact has_compatible_iff hlists.nonempty hlists.valid hkept token
  · rw [hrun]
    refine ⟨by simp [throw, throwThe, MonadExceptOf.throw, ExceptT.mk], ?_, ?_⟩
    · constructor
      · intro h
        obtain ⟨out', heq⟩ := h
        exact absurd heq (throw_ne_pure e out')
      · intro h
        obtain ⟨content, tokens, hread, hlists, hfits⟩ := h
        have hlong := hrefused content tokens hread (hshort hlists hfits) hlists
        omega
    · intro out' heq
      exact absurd heq (throw_ne_pure e out')

/-! ## The identity of a board -/

/-- A run of two parts that succeeds. -/
theorem bind_eq_pure {ε α β : Type} {x : ExceptT ε Option α} {f : α → ExceptT ε Option β} {b : β}
    (h : (x >>= f) = pure b) : ∃ a, x = pure a ∧ f a = pure b := by
  cases x with
  | none =>
    have hnone : (none : Option (Except ε β)) = some (.ok b) := h
    simp at hnone
  | some r =>
    cases r with
    | error e =>
      have herror : (Except.error e : Except ε β) = .ok b := Option.some.inj h
      simp at herror
    | ok a => exact ⟨a, rfl, h⟩

theorem adapt_eq_pure {ε ε' α : Type} {x : ExceptT ε Option α} {f : ε → ε'} {a : α}
    (h : x.adapt f = pure a) : x = pure a := by
  cases x with
  | none =>
    have hnone : (none : Option (Except ε' α)) = some (.ok a) := h
    simp at hnone
  | some r =>
    cases r with
    | error e =>
      have herror : (Except.error (f e) : Except ε' α) = .ok a := Option.some.inj h
      simp at herror
    | ok a' => exact congrArg (fun y => some (Except.ok y)) (Except.ok.inj (Option.some.inj h))

/-- An identity that was read from a device tree has exactly the names that
    its `compatible` property lists. -/
theorem identity_read_listed {sysfs : Sysfs} {root : String} {identity : MachineIdentity}
    (h : identity_read_at sysfs root = pure identity)
    (hsource : identity.source = literal "devicetree") :
    ∃ content tokens, Readable sysfs root content ∧ Lists content tokens ∧
      ∀ token, identity_has_compatible (some identity) (some token) = true ↔
        token.bytes ∈ tokens := by
  unfold identity_read_at at h
  obtain ⟨product_name, -, h⟩ := bind_eq_pure h
  by_cases hdmi : product_name ≠ empty
  · -- DMI has another source
    rw [if_pos hdmi] at h
    obtain ⟨_, -, h⟩ := bind_eq_pure h
    obtain ⟨_, -, h⟩ := bind_eq_pure h
    obtain ⟨_, -, h⟩ := bind_eq_pure h
    obtain ⟨_, -, h⟩ := bind_eq_pure h
    obtain ⟨_, -, h⟩ := bind_eq_pure h
    obtain ⟨_, -, h⟩ := bind_eq_pure h
    have hfound := Except.ok.inj (Option.some.inj h)
    rw [← hfound] at hsource
    change literal "dmi" = literal "devicetree" at hsource
    exact absurd hsource (by decide)
  · rw [if_neg hdmi] at h
    obtain ⟨model, -, h⟩ := bind_eq_pure h
    by_cases hmodel : model = empty
    · rw [if_pos hmodel] at h
      exact absurd (Option.some.inj h) (by simp)
    · rw [if_neg hmodel] at h
      obtain ⟨out, hread, h⟩ := bind_eq_pure h
      have hkept := compatible_list_read (by rw [List.length_replicate]; decide) (adapt_eq_pure hread)
      obtain ⟨content, tokens, hcontent, hlists, hout⟩ := hkept
      have hfound := Except.ok.inj (Option.some.inj h)
      rw [← hfound]
      exact ⟨content, tokens, hcontent, hlists,
        has_compatible_iff hlists.nonempty hlists.valid (c_string_joined hlists.valid hout)⟩

/-- The names of a board in a list of the usual size. -/
def board_sysfs : Sysfs := fun _ => .ok ⟨(literal "ugreen,dh2300").bytes ++ [0] ++
  ((literal "rockchip,rk3576").bytes ++ [0]), false⟩

theorem compatible_list_kept_board :
    compatible_read board_sysfs "/sys" (List.replicate 512 0) ≠ ExceptT.mk none ∧
    ((∃ out', compatible_read board_sysfs "/sys" (List.replicate 512 0) = pure out') ↔
      ∃ content tokens, Readable board_sysfs "/sys" content ∧ Lists content tokens ∧
        (joined tokens).length < (List.replicate 512 (0 : UInt8)).length) ∧
    ∀ out', compatible_read board_sysfs "/sys" (List.replicate 512 0) = pure out' →
      out'.length = (List.replicate 512 (0 : UInt8)).length ∧
      ∀ content tokens, Readable board_sysfs "/sys" content → Lists content tokens →
        ∀ identity, identity.compatible = c_string out' → ∀ token,
          identity_has_compatible (some identity) (some token) = true ↔ token.bytes ∈ tokens :=
  compatible_list_kept board_sysfs "/sys" (by rw [List.length_replicate]; decide)
    (by rw [List.length_replicate]; decide)

end UgreenNas.Core
