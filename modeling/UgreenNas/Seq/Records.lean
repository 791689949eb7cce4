import Mathlib.Data.List.Basic

/-! # Records with a length byte

    A record is its type, the number of its other bytes, and these bytes.
    A byte string starts with at most one complete record, so the chain of
    complete records that it starts with is determined.
-/

/-- A record; its length byte can say how long it is. -/
structure TypedRecord where
  kind : UInt8
  payload : List UInt8
  short : payload.length < 256

namespace TypedRecord

/-- The bytes of a record. -/
def bytes (d : TypedRecord) : List UInt8 :=
  d.kind :: UInt8.ofNat d.payload.length :: d.payload

theorem length_bytes (d : TypedRecord) : d.bytes.length = d.payload.length + 2 := rfl

/-- The length byte says how long the record is. -/
theorem toNat_length_byte (d : TypedRecord) :
    (UInt8.ofNat d.payload.length).toNat = d.payload.length := by
  have hshort := d.short
  simp only [UInt8.toNat_ofNat']
  omega

/-- No byte string starts with two records. -/
theorem bytes_append_inj {d e : TypedRecord} {rest rest' : List UInt8}
    (h : d.bytes ++ rest = e.bytes ++ rest') : d = e ∧ rest = rest' := by
  unfold bytes at h
  simp only [List.cons_append, List.cons.injEq] at h
  obtain ⟨hkind, hlength, hpayload⟩ := h
  have hsame : d.payload.length = e.payload.length := by
    rw [← d.toNat_length_byte, ← e.toNat_length_byte, hlength]
  obtain ⟨hpayload, hrest⟩ := List.append_inj hpayload hsame
  cases d
  cases e
  simp_all

/-- A type byte and a length byte that all the bytes it announces follow. -/
theorem complete {kind length : UInt8} {rest : List UInt8} (h : length.toNat ≤ rest.length) :
    ∃ d : TypedRecord, d.kind = kind ∧ d.payload = rest.take length.toNat ∧
      kind :: length :: rest = d.bytes ++ rest.drop length.toNat := by
  have hlength : (rest.take length.toNat).length = length.toNat := by
    simp only [List.length_take]
    omega
  have hlt := length.toNat_lt
  refine ⟨⟨kind, rest.take length.toNat, by omega⟩, rfl, rfl, ?_⟩
  simp [bytes, hlength]

/-- Where the bytes end too early there is no record. -/
theorem incomplete {kind length : UInt8} {rest : List UInt8} (h : rest.length < length.toNat)
    (d : TypedRecord) (rest' : List UInt8) : kind :: length :: rest ≠ d.bytes ++ rest' := by
  intro heq
  unfold bytes at heq
  simp only [List.cons_append, List.cons.injEq] at heq
  obtain ⟨-, hlength, hrest⟩ := heq
  rw [hlength, d.toNat_length_byte, hrest] at h
  simp only [List.length_append] at h
  omega

/-- A record is two bytes at least. -/
theorem too_short {text : List UInt8} (h : text.length < 2) (d : TypedRecord)
    (rest : List UInt8) : text ≠ d.bytes ++ rest := by
  intro heq
  rw [heq, List.length_append, length_bytes] at h
  omega

/-! ## Chains of records -/

/-- `d` is the first record with `P` in the chain of complete records that
    `text` starts with. -/
def FirstWith (P : TypedRecord → Prop) (text : List UInt8) (d : TypedRecord) : Prop :=
  ∃ (before : List TypedRecord) (rest : List UInt8),
    text = before.flatMap bytes ++ (d.bytes ++ rest) ∧ (∀ e ∈ before, ¬ P e) ∧ P d

section chains

variable {P : TypedRecord → Prop} {text rest : List UInt8} {d e : TypedRecord}

/-- A chain with no record at all. -/
theorem not_firstWith (h : ∀ (e : TypedRecord) (rest : List UInt8), text ≠ e.bytes ++ rest) :
    ¬ FirstWith P text d := by
  intro hfirst
  obtain ⟨before, rest, htext, -, -⟩ := hfirst
  cases before with
  | nil => exact h d rest htext
  | cons e before =>
    rw [List.flatMap_cons, List.append_assoc] at htext
    exact h e _ htext

/-- The search ends at a record with `P`... -/
theorem firstWith_hit (he : P e) : FirstWith P (e.bytes ++ rest) d ↔ d = e := by
  constructor
  · intro hfirst
    obtain ⟨before, rest', htext, hbefore, hd⟩ := hfirst
    cases before with
    | nil => exact (bytes_append_inj htext).1.symm
    | cons first before =>
      rw [List.flatMap_cons, List.append_assoc] at htext
      have hsame : e = first := (bytes_append_inj htext).1
      rw [hsame] at he
      exact absurd he (hbefore first List.mem_cons_self)
  · intro heq
    subst heq
    exact ⟨[], rest, rfl, by simp, he⟩

/-- ... and goes on behind every other. -/
theorem firstWith_miss (he : ¬ P e) :
    FirstWith P (e.bytes ++ rest) d ↔ FirstWith P rest d := by
  constructor
  · intro hfirst
    obtain ⟨before, rest', htext, hbefore, hd⟩ := hfirst
    cases before with
    | nil =>
      have hsame : e = d := (bytes_append_inj htext).1
      rw [hsame] at he
      exact absurd hd he
    | cons first before =>
      rw [List.flatMap_cons, List.append_assoc] at htext
      obtain ⟨-, hrest⟩ := bytes_append_inj htext
      exact ⟨before, rest', hrest, fun e' he' => hbefore e' (List.mem_cons_of_mem _ he'), hd⟩
  · intro hfirst
    obtain ⟨before, rest', hrest, hbefore, hd⟩ := hfirst
    refine ⟨e :: before, rest', ?_, ?_, hd⟩
    · rw [hrest, List.flatMap_cons, List.append_assoc]
    · intro e' he'
      rcases List.mem_cons.mp he' with rfl | he'
      · exact he
      · exact hbefore e' he'

end chains

end TypedRecord
