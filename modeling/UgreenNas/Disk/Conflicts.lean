import Mathlib.Data.List.GetD
import UgreenNas.Disk.Placed

/-! # Conflicting claims

    `resolve_conflicts` unmaps every disk whose port, bay or LED another disk
    claims too, and no other disk but those the revision of the chassis
    leaves in doubt.
-/

namespace UgreenNas.DiskMap

/-! ## Marks -/

section marks

variable (related : Nat → Nat → Bool)

theorem mark_length (marks : List Bool) (pair : Nat × Nat) :
    (mark related marks pair).length = marks.length := by
  unfold mark
  split
  · rw [List.length_set, List.length_set]
  · rfl

theorem fold_mark_length (ps : List (Nat × Nat)) (marks : List Bool) :
    (ps.foldl (mark related) marks).length = marks.length := by
  induction ps generalizing marks with
  | nil => rfl
  | cons pair rest ih => rw [List.foldl_cons, ih, mark_length]

theorem getElem?_set_true (marks : List Bool) (n k : Nat) :
    (marks.set n true)[k]? = some true ↔ marks[k]? = some true ∨ (k < marks.length ∧ k = n) := by
  by_cases hn : n = k
  · subst hn
    by_cases hlt : n < marks.length
    · rw [List.getElem?_set_self hlt]
      exact iff_of_true rfl (.inr ⟨hlt, rfl⟩)
    · rw [List.set_eq_of_length_le (by omega)]
      constructor
      · exact fun h => .inl h
      · intro h
        rcases h with h | ⟨h, -⟩
        · exact h
        · exact absurd h hlt
  · rw [List.getElem?_set_ne hn]
    constructor
    · exact fun h => .inl h
    · intro h
      rcases h with h | ⟨-, h⟩
      · exact h
      · exact absurd h.symm hn

theorem getElem?_mark (marks : List Bool) (pair : Nat × Nat) (k : Nat) :
    (mark related marks pair)[k]? = some true ↔
      marks[k]? = some true ∨
        (k < marks.length ∧ related pair.1 pair.2 = true ∧ (k = pair.1 ∨ k = pair.2)) := by
  unfold mark
  split
  · next hrelated =>
    rw [getElem?_set_true, getElem?_set_true, List.length_set]
    constructor
    · intro h
      rcases h with (h | ⟨hk, heq⟩) | ⟨hk, heq⟩
      · exact .inl h
      · exact .inr ⟨hk, hrelated, .inl heq⟩
      · exact .inr ⟨hk, hrelated, .inr heq⟩
    · intro h
      rcases h with h | ⟨hk, -, heq | heq⟩
      · exact .inl (.inl h)
      · exact .inl (.inr ⟨hk, heq⟩)
      · exact .inr ⟨hk, heq⟩
  · next hrelated =>
    constructor
    · exact fun h => .inl h
    · intro h
      rcases h with h | ⟨-, hr, -⟩
      · exact h
      · exact absurd hr hrelated

/-- What is marked in the end: what was marked before, and every member of a
    related pair. -/
theorem getElem?_fold_mark (ps : List (Nat × Nat)) (marks : List Bool) (k : Nat) :
    (ps.foldl (mark related) marks)[k]? = some true ↔
      marks[k]? = some true ∨
        (k < marks.length ∧ ∃ pair ∈ ps, related pair.1 pair.2 = true ∧
          (k = pair.1 ∨ k = pair.2)) := by
  induction ps generalizing marks with
  | nil => simp
  | cons pair rest ih =>
    rw [List.foldl_cons, ih, getElem?_mark, mark_length]
    constructor
    · intro h
      rcases h with (h | ⟨hk, hr, hmem⟩) | ⟨hk, p, hp, hr, hmem⟩
      · exact .inl h
      · exact .inr ⟨hk, pair, List.mem_cons_self, hr, hmem⟩
      · exact .inr ⟨hk, p, List.mem_cons_of_mem pair hp, hr, hmem⟩
    · intro h
      rcases h with h | ⟨hk, p, hp, hr, hmem⟩
      · exact .inl (.inl h)
      · rcases List.mem_cons.mp hp with rfl | hp
        · exact .inl (.inr ⟨hk, hr, hmem⟩)
        · exact .inr ⟨hk, p, hp, hr, hmem⟩

end marks

theorem mem_pairs {count i j : Nat} : (i, j) ∈ pairs count ↔ i < j ∧ j < count := by
  unfold pairs
  simp only [List.mem_flatMap, List.mem_range, List.mem_map, List.mem_range'_1, Prod.mk.injEq]
  constructor
  · intro h
    obtain ⟨a, ha, b, hb, rfl, rfl⟩ := h
    omega
  · intro h
    exact ⟨i, by omega, j, by omega, rfl, rfl⟩

theorem shared_comm (a b : Text) : shared a b = shared b a := by
  unfold shared
  by_cases heq : a = b
  · rw [heq]
  · rw [decide_eq_false heq, decide_eq_false (Ne.symm heq), Bool.and_false, Bool.and_false]

theorem clash_comm (d e : Disk) : clash d e = clash e d := by
  unfold clash
  rw [shared_comm d.topology, shared_comm d.slot_name, shared_comm d.led_id]

theorem shared_of_eq {a b : Text} (hne : a ≠ []) (heq : a = b) : shared a b = true := by
  unfold shared
  rw [decide_eq_true heq, Bool.and_true, Bool.not_eq_true', List.isEmpty_eq_false_iff]
  exact hne

/-! ## What is given up -/

/-- Has the disk at `i` lost its claim? -/
def Conflicted (chassis : Chassis) (disks : List Disk) (i : Nat) : Prop :=
  (gt_sata_ambiguous chassis disks = true ∧ (disks.getD i {}).interface_type = "u2") ∨
    ∃ j, j < disks.length ∧ j ≠ i ∧ clash (disks.getD i {}) (disks.getD j {}) = true

theorem conflicts_length (chassis : Chassis) (disks : List Disk) :
    (conflicts chassis disks).length = disks.length := by
  unfold conflicts
  rw [fold_mark_length, List.length_map]

theorem conflicts_iff (chassis : Chassis) (disks : List Disk) {i : Nat} (hi : i < disks.length) :
    (conflicts chassis disks)[i]? = some true ↔ Conflicted chassis disks i := by
  unfold conflicts Conflicted
  rw [getElem?_fold_mark, List.length_map, List.getElem?_map, List.getElem?_eq_getElem hi,
    List.getD_eq_getElem disks {} hi]
  constructor
  · intro h
    rcases h with h | ⟨-, ⟨a, b⟩, hpair, hclash, hmem⟩
    · left
      simpa using h
    · right
      obtain ⟨hab, hb⟩ := mem_pairs.mp hpair
      rcases hmem with rfl | rfl
      · rw [List.getD_eq_getElem disks {} hi] at hclash
        exact ⟨b, hb, by omega, hclash⟩
      · rw [List.getD_eq_getElem disks {} hi, clash_comm] at hclash
        exact ⟨a, by omega, by omega, hclash⟩
  · intro h
    rcases h with h | ⟨j, hj, hne, hclash⟩
    · left
      simpa using h
    · right
      refine ⟨hi, ?_⟩
      rcases Nat.lt_or_gt_of_ne hne with hlt | hgt
      · refine ⟨(j, i), mem_pairs.mpr ⟨hlt, hi⟩, ?_, .inr rfl⟩
        rw [clash_comm, List.getD_eq_getElem disks {} hi]
        exact hclash
      · refine ⟨(i, j), mem_pairs.mpr ⟨hgt, hj⟩, ?_, .inl rfl⟩
        rw [List.getD_eq_getElem disks {} hi]
        exact hclash

/-- The disks in the order of the candidates, before they are sorted. -/
def resolved (chassis : Chassis) (disks : List Disk) : List Disk :=
  List.zipWith (give_up (gt_sata_ambiguous chassis disks)) disks (conflicts chassis disks)

theorem resolved_length (chassis : Chassis) (disks : List Disk) :
    (resolved chassis disks).length = disks.length := by
  unfold resolved
  rw [List.length_zipWith, conflicts_length, Nat.min_self]

theorem resolve_conflicts_perm (chassis : Chassis) (disks : List Disk) :
    (resolve_conflicts chassis disks).Perm (resolved chassis disks) :=
  List.perm_insertionSort _ _

theorem resolved_at (chassis : Chassis) (disks : List Disk) {i : Nat} (hi : i < disks.length)
    (hi' : i < (resolved chassis disks).length) :
    ((resolved chassis disks)[i] = disks[i] ∧ ¬ Conflicted chassis disks i) ∨
      ((∃ reason, (resolved chassis disks)[i] = disks[i].forget reason) ∧
        Conflicted chassis disks i) := by
  have hmarks : i < (conflicts chassis disks).length := by rwa [conflicts_length]
  have hiff := conflicts_iff chassis disks hi
  rw [List.getElem?_eq_getElem hmarks] at hiff
  have hat : (resolved chassis disks)[i] =
      give_up (gt_sata_ambiguous chassis disks) disks[i] (conflicts chassis disks)[i] :=
    List.getElem_zipWith
  rw [hat]
  cases hmark : (conflicts chassis disks)[i] with
  | false =>
    left
    refine ⟨rfl, fun hconflicted => ?_⟩
    rw [hmark] at hiff
    cases hiff.mpr hconflicted
  | true =>
    right
    rw [hmark] at hiff
    exact ⟨⟨_, rfl⟩, hiff.mp rfl⟩

/-- Two disks claim nothing together, or one of them claims nothing at all. -/
def Apart (d e : Disk) : Prop := d.Unmapped ∨ e.Unmapped ∨ clash d e = false

theorem Apart.symm {d e : Disk} (h : Apart d e) : Apart e d := by
  rcases h with h | h | h
  · exact .inr (.inl h)
  · exact .inl h
  · exact .inr (.inr ((clash_comm e d).trans h))

/-- After all conflicts are resolved no two disks claim the same. -/
theorem resolve_conflicts_apart (chassis : Chassis) (disks : List Disk) :
    (resolve_conflicts chassis disks).Pairwise Apart := by
  rw [(resolve_conflicts_perm chassis disks).pairwise_iff Apart.symm, List.pairwise_iff_getElem]
  intro i j hi hj hlt
  have hlength := resolved_length chassis disks
  have hi' : i < disks.length := by omega
  have hj' : j < disks.length := by omega
  rcases resolved_at chassis disks hi' hi with ⟨hkept, hfree⟩ | ⟨⟨reason, hlost⟩, -⟩
  · rcases resolved_at chassis disks hj' hj with ⟨hkept', -⟩ | ⟨⟨reason, hlost⟩, -⟩
    · refine .inr (.inr ?_)
      rw [hkept, hkept']
      by_contra hclash
      apply hfree
      refine .inr ⟨j, hj', by omega, ?_⟩
      rw [List.getD_eq_getElem disks {} hi', List.getD_eq_getElem disks {} hj']
      exact Bool.eq_true_of_not_eq_false hclash
    · rw [hlost]
      exact .inr (.inl (unmapped_forget _ _))
  · rw [hlost]
    exact .inl (unmapped_forget _ _)

theorem resolve_conflicts_placed (chassis : Chassis) {disks : List Disk}
    (hplaced : ∀ disk ∈ disks, disk.Placed) :
    ∀ disk ∈ resolve_conflicts chassis disks, disk.Placed := by
  intro disk hdisk
  rw [(resolve_conflicts_perm chassis disks).mem_iff] at hdisk
  obtain ⟨i, hi, rfl⟩ := List.getElem_of_mem hdisk
  have hi' : i < disks.length := by rwa [resolved_length] at hi
  rcases resolved_at chassis disks hi' hi with ⟨hkept, -⟩ | ⟨⟨reason, hlost⟩, -⟩
  · rw [hkept]
    exact hplaced _ (List.getElem_mem hi')
  · rw [hlost]
    exact .unmapped (unmapped_forget _ _)

end UgreenNas.DiskMap
