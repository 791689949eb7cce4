import UgreenNas.Effect.Loop
import UgreenNas.Seq.Records

/-! # Sense data of ATA commands (`fan/thermal_curve.c`)

    `ata_return_sector_count` walks over the descriptors of a sense buffer.
    The buffer is filled by the device, so the lengths it advances by are the
    device's.  Memory is the environment: a read inside the buffer answers
    the byte and is noted, a read outside has no answer.
-/

namespace UgreenNas.Fan.Sense

open Effect

/-! ## The walk -/

/-- Reading one byte behind the pointer `sense`; `size_t` has 64 bits. -/
abbrev sense_io : Sig := ⟨UInt64, fun _ => UInt8⟩

/-- A pointer argument, as far as it is compared with `NULL`. -/
inductive Pointer where
  | null
  | object
  deriving DecidableEq, Repr

def ATA_RETURN_DESCRIPTOR : UInt8 := 0x09

/-- Where the function is: before its loop, or at the head of it. -/
inductive Point where
  | entry
  | head (offset : UInt64)

/-- The checks before the loop. -/
def check_format (sense sector_count : Pointer) (sense_size : UInt64) : Prog sense_io Bool :=
  if sense = .null ∨ sector_count = .null ∨ sense_size < 8 then
    pure false
  else do
    let code ← Prog.call (0 : UInt64)
    pure (code &&& 0x7f == 0x72)

/-- One pass of the loop.  `some` is `true` with what was stored behind
    `sector_count`, `none` is `false`. -/
def check_descriptor (sense_size offset : UInt64) : Prog sense_io (Point ⊕ Option UInt8) :=
  if offset + 1 < sense_size then do
    let length ← Prog.call (offset + 1)
    let descriptor_size := length.toUInt64 + 2
    if sense_size - offset < descriptor_size then
      pure (.inr none)
    else do
      let kind ← Prog.call offset
      if kind = ATA_RETURN_DESCRIPTOR ∧ 14 ≤ descriptor_size then do
        -- byte 4 is the expanded high byte, byte 5 the register
        let sector_count ← Prog.call (offset + 5)
        pure (.inr (some sector_count))
      else do
        let length ← Prog.call (offset + 1)
        pure (.inl (.head (offset + (length.toUInt64 + 2))))
  else
    pure (.inr none)

def ata_return_sector_count (sense sector_count : Pointer) (sense_size : UInt64) :
    Body sense_io Point (Option UInt8)
  | .entry => do
    if ← check_format sense sector_count sense_size then
      pure (.inl (.head 8))
    else
      pure (.inr none)
  | .head offset => check_descriptor sense_size offset

/-- The memory behind `sense`; the state notes every offset that was read. -/
def memory (buffer : List UInt8) : Env sense_io (List UInt64) :=
  fun reads offset byte reads' => buffer[offset.toNat]? = some byte ∧ reads' = reads ++ [offset]

theorem memory_deterministic (buffer : List UInt8) : Prog.Deterministic (memory buffer) := by
  intro s o b b' s' s'' h h'
  have hbyte : some b = some b' := h.1.symm.trans h'.1
  exact ⟨Option.some.inj hbyte, h.2.trans h'.2.symm⟩

/-! ## What it looks for -/

/-- Descriptor format, with at least the header. -/
def DescriptorFormat (text : List UInt8) : Prop :=
  8 ≤ text.length ∧ ∃ code, text[0]? = some code ∧ code &&& 0x7f = 0x72

/-- An ATA Return descriptor, complete with its registers. -/
def AtaReturn (d : TypedRecord) : Prop :=
  d.kind = ATA_RETURN_DESCRIPTOR ∧ 14 ≤ d.bytes.length

/-- The first ATA Return descriptor of the sense data reports this sector
    count. -/
def Reported (text : List UInt8) (sector_count : UInt8) : Prop :=
  DescriptorFormat text ∧
    ∃ d, TypedRecord.FirstWith AtaReturn (text.drop 8) d ∧ d.bytes[5]? = some sector_count

/-! ## One pass -/

section pass

variable {buffer : List UInt8} {sense_size offset : UInt64} {reads : List UInt64}
  {d : TypedRecord} {rest : List UInt8}

/-- A read inside the buffer. -/
theorem run_read {α : Type} {byte : UInt8} {f : UInt8 → Prog sense_io α} {a : α}
    {reads' : List UInt64} (hbyte : buffer[offset.toNat]? = some byte)
    (h : Prog.Runs (memory buffer) (f byte) (reads ++ [offset]) a reads') :
    Prog.Runs (memory buffer) (Prog.call offset >>= f) reads a reads' :=
  .op ⟨hbyte, rfl⟩ h

/-- All reads so far lie below the declared size. -/
def Below (sense_size : UInt64) (reads : List UInt64) : Prop :=
  ∀ offset ∈ reads, offset < sense_size

theorem Below.read (h : Below sense_size reads) (hoffset : offset < sense_size) :
    Below sense_size (reads ++ [offset]) := by
  intro o ho
  rcases List.mem_append.mp ho with ho | ho
  · exact h o ho
  · rw [List.mem_singleton.mp ho]
    exact hoffset

theorem toNat_descriptor_size (length : UInt8) :
    (length.toUInt64 + 2).toNat = length.toNat + 2 := by
  have hlength := length.toNat_lt
  rw [UInt64.toNat_add, UInt8.toNat_toUInt64]
  show (length.toNat + 2) % 2 ^ 64 = _
  omega

/-- The bytes of a descriptor, where they lie in the buffer. -/
theorem byte_of_descriptor {n : Nat} (hcut : (buffer.take sense_size.toNat).drop n = d.bytes ++ rest)
    {i : Nat} (hi : i < d.bytes.length) : buffer[n + i]? = d.bytes[i]? := by
  have hpart : ((buffer.take sense_size.toNat).drop n)[i]? = d.bytes[i]? := by
    rw [hcut, List.getElem?_append_left hi]
  rw [List.getElem?_drop, List.getElem?_take] at hpart
  split at hpart
  · exact hpart
  · rw [List.getElem?_eq_getElem hi] at hpart
    cases hpart

/-- A complete descriptor ends inside the declared size. -/
theorem descriptor_inside (hsize : sense_size.toNat ≤ buffer.length) {n : Nat}
    (hcut : (buffer.take sense_size.toNat).drop n = d.bytes ++ rest) :
    n + d.payload.length + 2 ≤ sense_size.toNat := by
  have hlength := congrArg List.length hcut
  simp only [List.length_drop, List.length_take, List.length_append,
    TypedRecord.length_bytes] at hlength
  omega

/-- Small steps from inside do not wrap. -/
theorem toNat_add_inside {n : UInt64} (size : UInt64) (h : offset.toNat + n.toNat ≤ size.toNat) :
    (offset + n).toNat = offset.toNat + n.toNat := by
  have hlt := size.toNat_lt
  rw [UInt64.toNat_add]
  omega

/-- A pass at a complete descriptor. -/
theorem run_descriptor (hsize : sense_size.toNat ≤ buffer.length)
    (hcut : (buffer.take sense_size.toNat).drop offset.toNat = d.bytes ++ rest)
    (hreads : Below sense_size reads) :
    ∃ r reads', Prog.Runs (memory buffer) (check_descriptor sense_size offset) reads r reads' ∧
      Below sense_size reads' ∧
      ((AtaReturn d ∧ ∃ byte, d.bytes[5]? = some byte ∧ r = .inr (some byte)) ∨
        (¬ AtaReturn d ∧ ∃ offset' : UInt64, r = .inl (.head offset') ∧
          offset'.toNat = offset.toNat + d.bytes.length)) := by
  have hinside := descriptor_inside hsize hcut
  have hshort := d.short
  have hdlength := d.length_bytes
  have hone : (offset + 1).toNat = offset.toNat + 1 := toNat_add_inside sense_size (by simp; omega)
  have hkind : buffer[offset.toNat]? = some d.kind := by
    rw [← Nat.add_zero offset.toNat, byte_of_descriptor hcut (by omega)]
    rfl
  have hlength : buffer[(offset + 1).toNat]? = some (UInt8.ofNat d.payload.length) := by
    rw [hone, byte_of_descriptor hcut (by omega)]
    rfl
  have hdescriptor := toNat_descriptor_size (UInt8.ofNat d.payload.length)
  rw [d.toNat_length_byte] at hdescriptor
  have hroom : (sense_size - offset).toNat = sense_size.toNat - offset.toNat :=
    UInt64.toNat_sub_of_le _ _ (by rw [UInt64.le_iff_toNat_le]; omega)
  have hmore : offset + 1 < sense_size := by
    rw [UInt64.lt_iff_toNat_lt]
    omega
  have hfits : ¬ sense_size - offset < (UInt8.ofNat d.payload.length).toUInt64 + 2 := by
    rw [UInt64.lt_iff_toNat_lt]
    omega
  have hreads₁ := hreads.read hmore
  have hreads₂ : Below sense_size (reads ++ [offset + 1] ++ [offset]) := by
    apply hreads₁.read
    rw [UInt64.lt_iff_toNat_lt]
    omega
  have hata : (d.kind = ATA_RETURN_DESCRIPTOR ∧
      14 ≤ (UInt8.ofNat d.payload.length).toUInt64 + 2) ↔ AtaReturn d := by
    unfold AtaReturn
    rw [UInt64.le_iff_toNat_le, hdescriptor, hdlength]
    rfl
  unfold check_descriptor
  rw [if_pos hmore]
  by_cases hd : AtaReturn d
  · have hfourteen := hd.2
    have hfive : (offset + 5).toNat = offset.toNat + 5 := toNat_add_inside sense_size (by simp; omega)
    obtain ⟨byte, hbyte⟩ : ∃ byte, d.bytes[5]? = some byte :=
      ⟨_, List.getElem?_eq_getElem (by omega)⟩
    have hregister : buffer[(offset + 5).toNat]? = some byte := by
      rw [hfive, byte_of_descriptor hcut (by omega), hbyte]
    have hreads₃ : Below sense_size (reads ++ [offset + 1] ++ [offset] ++ [offset + 5]) := by
      apply hreads₂.read
      rw [UInt64.lt_iff_toNat_lt]
      omega
    refine ⟨.inr (some byte), _, run_read hlength ?_, hreads₃, .inl ⟨hd, byte, hbyte, rfl⟩⟩
    rw [if_neg hfits]
    apply run_read hkind
    rw [if_pos (hata.mpr hd)]
    exact run_read hregister .pure
  · have hnext : (offset + ((UInt8.ofNat d.payload.length).toUInt64 + 2)).toNat =
        offset.toNat + d.bytes.length := by
      rw [toNat_add_inside sense_size (by omega), hdescriptor, hdlength]
    refine ⟨_, _, run_read hlength ?_, hreads₂.read hmore, .inr ⟨hd, _, rfl, hnext⟩⟩
    rw [if_neg hfits]
    apply run_read hkind
    rw [if_neg fun h => hd (hata.mp h)]
    exact run_read hlength .pure

/-- A pass where no complete descriptor follows. -/
theorem run_end (hsize : sense_size.toNat ≤ buffer.length) (hin : offset ≤ sense_size)
    (hend : ∀ (d : TypedRecord) (rest : List UInt8),
      (buffer.take sense_size.toNat).drop offset.toNat ≠ d.bytes ++ rest)
    (hreads : Below sense_size reads) :
    ∃ reads', Prog.Runs (memory buffer) (check_descriptor sense_size offset) reads (.inr none)
      reads' ∧ Below sense_size reads' := by
  unfold check_descriptor
  by_cases hmore : offset + 1 < sense_size
  · rw [if_pos hmore]
    have hlt := UInt64.lt_iff_toNat_lt.mp hmore
    have hlength := List.getElem?_eq_getElem (l := buffer) (i := (offset + 1).toNat) (by omega)
    refine ⟨_, run_read hlength ?_, hreads.read hmore⟩
    rw [if_pos]
    · exact .pure
    · have hbound := sense_size.toNat_lt
      have hin' := UInt64.le_iff_toNat_le.mp hin
      rw [UInt64.lt_iff_toNat_lt, UInt64.toNat_sub_of_le _ _ hin, toNat_descriptor_size]
      by_cases hn : offset.toNat + 1 < sense_size.toNat
      · -- what follows is two bytes at least, so it would be a descriptor
        have hone : (offset + 1).toNat = offset.toNat + 1 := toNat_add_inside sense_size (by simp; omega)
        have htwo : (buffer.take sense_size.toNat).drop offset.toNat =
            buffer[offset.toNat] :: buffer[offset.toNat + 1] ::
              (buffer.take sense_size.toNat).drop (offset.toNat + 2) := by
          rw [List.drop_eq_getElem_cons (by simp; omega), List.drop_eq_getElem_cons (by simp; omega)]
          simp only [List.getElem_take]
        by_contra hfits
        have hrest : buffer[offset.toNat + 1].toNat ≤
            ((buffer.take sense_size.toNat).drop (offset.toNat + 2)).length := by
          simp only [hone] at hfits
          simp only [List.length_drop, List.length_take]
          omega
        obtain ⟨d, -, -, hd⟩ := @TypedRecord.complete buffer[offset.toNat] _ _ hrest
        exact hend d _ (htwo.trans hd)
      · -- the largest size there is: `offset + 1` has wrapped
        omega
  · rw [if_neg hmore]
    exact ⟨reads, .pure, hreads⟩

/-! ## The loop -/

/-- At the head the walk is inside, and what it looks for lies ahead. -/
structure AtHead (text : List UInt8) (sense_size offset : UInt64) (reads : List UInt64) :
    Prop where
  inside : offset ≤ sense_size
  below : Below sense_size reads
  format : DescriptorFormat text
  ahead : ∀ d, TypedRecord.FirstWith AtaReturn (text.drop 8) d ↔
    TypedRecord.FirstWith AtaReturn (text.drop offset.toNat) d

/-- The loop invariant. -/
def Invariant (text : List UInt8) (sense_size : UInt64) : Point → List UInt64 → Prop
  | .entry, reads => Below sense_size reads
  | .head offset, reads => AtHead text sense_size offset reads

/-- What the function ends with. -/
def Exact (text : List UInt8) (sense_size : UInt64) (r : Option UInt8) (reads : List UInt64) :
    Prop :=
  Below sense_size reads ∧ ∀ sector_count, r = some sector_count ↔ Reported text sector_count

/-- What is left of the walk. -/
def left (sense_size : UInt64) : Point → Nat
  | .entry => sense_size.toNat + 1
  | .head offset => sense_size.toNat - offset.toNat

/-- Nothing is reported where the chain of descriptors has none. -/
theorem AtHead.none {text : List UInt8} (h : AtHead text sense_size offset reads)
    (hend : ∀ (d : TypedRecord) (rest : List UInt8), text.drop offset.toNat ≠ d.bytes ++ rest)
    (sector_count : UInt8) : none = some sector_count ↔ Reported text sector_count := by
  constructor
  · intro hnone
    cases hnone
  · intro hreported
    obtain ⟨-, d, hfirst, -⟩ := hreported
    exact absurd ((h.ahead d).mp hfirst) (TypedRecord.not_firstWith hend)

/-- The descriptor that is looked for. -/
theorem AtHead.found {text : List UInt8} (h : AtHead text sense_size offset reads) {byte : UInt8}
    (hcut : text.drop offset.toNat = d.bytes ++ rest) (hd : AtaReturn d)
    (hbyte : d.bytes[5]? = some byte) (sector_count : UInt8) :
    some byte = some sector_count ↔ Reported text sector_count := by
  have honly : ∀ e, TypedRecord.FirstWith AtaReturn (text.drop 8) e ↔ e = d := by
    intro e
    rw [h.ahead e, hcut]
    exact TypedRecord.firstWith_hit hd
  constructor
  · intro hsame
    refine ⟨h.format, d, (honly d).mpr rfl, ?_⟩
    rw [hbyte, hsame]
  · intro hreported
    obtain ⟨-, e, hfirst, he⟩ := hreported
    rw [(honly e).mp hfirst, hbyte] at he
    exact he

/-- Behind every other descriptor. -/
theorem AtHead.next {text : List UInt8} (h : AtHead text sense_size offset reads)
    {offset' : UInt64} {reads' : List UInt64} (hcut : text.drop offset.toNat = d.bytes ++ rest)
    (hd : ¬ AtaReturn d) (hnext : offset'.toNat = offset.toNat + d.bytes.length)
    (hin : offset' ≤ sense_size) (hreads : Below sense_size reads') :
    AtHead text sense_size offset' reads' := by
  refine ⟨hin, hreads, h.format, ?_⟩
  intro e
  rw [h.ahead e, hcut, hnext, ← List.drop_drop, hcut, List.drop_left]
  exact TypedRecord.firstWith_miss hd

/-- The step lemma, at the head of the loop. -/
theorem pass_at_head (hsize : sense_size.toNat ≤ buffer.length)
    (h : AtHead (buffer.take sense_size.toNat) sense_size offset reads) :
    ∃ r reads', Prog.Runs (memory buffer) (check_descriptor sense_size offset) reads r reads' ∧
      Loop.After (fun point reads' => Invariant (buffer.take sense_size.toNat) sense_size point reads' ∧
        left sense_size point < left sense_size (.head offset))
        (Exact (buffer.take sense_size.toNat) sense_size) r reads' := by
  by_cases hmore : ∃ (d : TypedRecord) (rest : List UInt8),
      (buffer.take sense_size.toNat).drop offset.toNat = d.bytes ++ rest
  · obtain ⟨d, rest, hcut⟩ := hmore
    have hinside := descriptor_inside hsize hcut
    obtain ⟨r, reads', hrun, hbelow, hfound | hmissed⟩ := run_descriptor hsize hcut h.below
    · obtain ⟨hd, byte, hbyte, rfl⟩ := hfound
      exact ⟨_, reads', hrun, hbelow, h.found hcut hd hbyte⟩
    · obtain ⟨hd, offset', rfl, hnext⟩ := hmissed
      have hlength := d.length_bytes
      refine ⟨_, reads', hrun, h.next hcut hd hnext ?_ hbelow, ?_⟩
      · rw [UInt64.le_iff_toNat_le]
        omega
      · simp only [left]
        omega
  · have hend : ∀ (d : TypedRecord) (rest : List UInt8),
        (buffer.take sense_size.toNat).drop offset.toNat ≠ d.bytes ++ rest :=
      fun d rest hcut => hmore ⟨d, rest, hcut⟩
    obtain ⟨reads', hrun, hbelow⟩ := run_end hsize h.inside hend h.below
    exact ⟨_, reads', hrun, hbelow, h.none hend⟩

/-- The step lemma, for the checks before the loop. -/
theorem pass_at_entry (hsize : sense_size.toNat ≤ buffer.length) (hreads : Below sense_size reads) :
    ∃ r reads', Prog.Runs (memory buffer)
        (ata_return_sector_count .object .object sense_size .entry) reads r reads' ∧
      Loop.After (fun point reads' => Invariant (buffer.take sense_size.toNat) sense_size point reads' ∧
        left sense_size point < left sense_size .entry)
        (Exact (buffer.take sense_size.toNat) sense_size) r reads' := by
  have htext : (buffer.take sense_size.toNat).length = sense_size.toNat := by
    simp only [List.length_take]
    omega
  by_cases hshort : sense_size < 8
  · refine ⟨.inr none, reads, ?_, hreads, ?_⟩
    · unfold ata_return_sector_count check_format
      rw [if_pos (.inr (.inr hshort))]
      exact .pure
    · intro sector_count
      constructor
      · intro hnone
        cases hnone
      · intro hreported
        have hlong := hreported.1.1
        rw [UInt64.lt_iff_toNat_lt] at hshort
        have height : (8 : UInt64).toNat = 8 := rfl
        omega
  · have hlong : 8 ≤ sense_size.toNat := by
      rw [UInt64.lt_iff_toNat_lt] at hshort
      have height : (8 : UInt64).toNat = 8 := rfl
      omega
    obtain ⟨code, hcode⟩ : ∃ code, buffer[0]? = some code :=
      ⟨_, List.getElem?_eq_getElem (by omega)⟩
    have hcode' : (buffer.take sense_size.toNat)[0]? = some code := by
      rw [List.getElem?_take, if_pos (by omega), hcode]
    have hreads' : Below sense_size (reads ++ [0]) := by
      apply hreads.read
      rw [UInt64.lt_iff_toNat_lt]
      show 0 < sense_size.toNat
      omega
    have hchecks : ¬ (Pointer.object = .null ∨ Pointer.object = .null ∨ sense_size < 8) := by
      simp [hshort]
    have hrun : Prog.Runs (memory buffer) (check_format .object .object sense_size) reads
        (code &&& 0x7f == 0x72) (reads ++ [0]) := by
      unfold check_format
      rw [if_neg hchecks]
      exact run_read hcode .pure
    by_cases hformat : code &&& 0x7f = 0x72
    · rw [beq_iff_eq.mpr hformat] at hrun
      refine ⟨.inl (.head 8), _, hrun.bind .pure, ⟨?_, hreads', ⟨?_, code, hcode', hformat⟩, ?_⟩, ?_⟩
      · rw [UInt64.le_iff_toNat_le]
        exact hlong
      · rw [htext]
        exact hlong
      · intro d
        rfl
      · show sense_size.toNat - 8 < sense_size.toNat + 1
        omega
    · rw [beq_eq_false_iff_ne.mpr hformat] at hrun
      refine ⟨.inr none, _, hrun.bind .pure, hreads', ?_⟩
      intro sector_count
      constructor
      · intro hnone
        cases hnone
      · intro hreported
        obtain ⟨-, code', hfirst, hdescriptor⟩ := hreported.1
        rw [hcode'] at hfirst
        obtain rfl := Option.some.inj hfirst
        exact absurd hdescriptor hformat

end pass

/-! ## The whole function -/

/-- For every buffer and every size that is not larger, the walk ends in one
    way.  It has read below the size only, and reports what the first ATA
    Return descriptor says if there is one. -/
theorem ata_return_sector_count_exact (buffer : List UInt8) (sense_size : UInt64)
    (hsize : sense_size.toNat ≤ buffer.length) :
    ∃ (r : Option UInt8) (reads : List UInt64),
      (∀ r' reads', Loop.Runs (memory buffer)
          (ata_return_sector_count .object .object sense_size) .entry [] r' reads' ↔
        r' = r ∧ reads' = reads) ∧
      (∀ offset ∈ reads, offset < sense_size) ∧
      ∀ sector_count, r = some sector_count ↔
        Reported (buffer.take sense_size.toNat) sector_count := by
  have hpass : ∀ point reads, Invariant (buffer.take sense_size.toNat) sense_size point reads →
      ∃ r reads', Prog.Runs (memory buffer)
          (ata_return_sector_count .object .object sense_size point) reads r reads' ∧
        Loop.After (fun point' reads' =>
          Invariant (buffer.take sense_size.toNat) sense_size point' reads' ∧
            left sense_size point' < left sense_size point)
          (Exact (buffer.take sense_size.toNat) sense_size) r reads' := by
    intro point reads hinvariant
    cases point with
    | entry => exact pass_at_entry hsize hinvariant
    | head offset => exact pass_at_head hsize hinvariant
  have hentry : Invariant (buffer.take sense_size.toNat) sense_size .entry [] := by
    intro offset hoffset
    cases hoffset
  obtain ⟨r, reads, hruns, hbelow, hexact⟩ := Loop.Runs.total (left sense_size) hpass hentry
  refine ⟨r, reads, ?_, hbelow, hexact⟩
  intro r' reads'
  constructor
  · intro hruns'
    exact hruns'.unique (memory_deterministic buffer) hruns
  · intro hsame
    rw [hsame.1, hsame.2]
    exact hruns

/-- The answer of a running disk, behind a descriptor of another type. -/
def running_disk : List UInt8 :=
  [0x72, 0x01, 0x00, 0x1d, 0, 0, 0, 0x12, 0x00, 0x02, 0, 0,
    0x09, 0x0c, 0x00, 0x00, 0x00, 0xff, 0, 0, 0, 0, 0, 0, 0x00, 0x50, 0, 0, 0, 0, 0, 0]

theorem ata_return_sector_count_exact_running :
    ∃ reads, Loop.Runs (memory running_disk) (ata_return_sector_count .object .object 26) .entry []
      (some 0xff) reads ∧ ∀ offset ∈ reads, offset < 26 := by
  obtain ⟨r, reads, hruns, hbelow, hexact⟩ :=
    ata_return_sector_count_exact running_disk 26 (by decide)
  have hreported : Reported (running_disk.take (26 : UInt64).toNat) 0xff := by
    refine ⟨⟨by decide, 0x72, by decide, by decide⟩, ⟨0x09, [0, 0, 0, 0xff, 0, 0, 0, 0, 0, 0, 0, 0x50],
      by decide⟩, ⟨[⟨0x00, [0, 0], by decide⟩], [], ?_, ?_, ?_⟩, by decide⟩
    · decide
    · intro e he
      rw [List.mem_singleton.mp he]
      exact fun hata => absurd hata.2 (by decide)
    · exact ⟨by decide, by decide⟩
  have hr := (hexact 0xff).mpr hreported
  exact ⟨reads, (hruns _ reads).mpr ⟨hr.symm, rfl⟩, hbelow⟩

end UgreenNas.Fan.Sense
