import Mathlib.Data.List.Induction
import Mathlib.Data.List.Nodup
import Mathlib.Order.Lattice

/-! # Groups of a list

    Entries with the same key belong together, an entry without a key stands
    alone.  A group comes where its first entry is, and the member with the
    least name stands for it.

    * `leaders`        : the first entry of each group, in order;
    * `members`        : the entries of a group;
    * `representative` : the entry that stands for the group of an entry.
-/

namespace Groups

variable {α κ ν : Type} [DecidableEq κ] (key : α → Option κ)

/-! ## Leaders -/

/-- Is there an entry with the key of `a`, and a key at all? -/
def led (found : List α) (a : α) : Bool := (key a).isSome && found.any (key · = key a)

/-- The first entry of each group. -/
def leaders (l : List α) : List α :=
  l.foldl (fun found a => if led key found a then found else found ++ [a]) []

@[simp] theorem leaders_nil : leaders key [] = [] := rfl

theorem leaders_snoc (l : List α) (a : α) :
    leaders key (l ++ [a]) =
      if led key (leaders key l) a then leaders key l else leaders key l ++ [a] := by
  unfold leaders
  rw [List.foldl_append]
  rfl

variable {key}

theorem led_iff {found : List α} {a : α} :
    led key found a = true ↔ ∃ k, key a = some k ∧ ∃ b ∈ found, key b = some k := by
  unfold led
  cases hkey : key a with
  | none => simp
  | some k => simp

theorem leaders_sublist (l : List α) : (leaders key l).Sublist l := by
  induction l using List.reverseRecOn with
  | nil => exact List.Sublist.refl []
  | append_singleton l a ih =>
    rw [leaders_snoc]
    split
    · exact ih.trans (List.sublist_append_left l [a])
    · exact ih.append (List.Sublist.refl [a])

/-- Leaders come in the order in which their groups begin. -/
theorem leaders_prefix (l m : List α) : leaders key l <+: leaders key (l ++ m) := by
  induction m using List.reverseRecOn with
  | nil => exact ⟨[], by simp⟩
  | append_singleton m a ih =>
    rw [← List.append_assoc, leaders_snoc]
    split
    · exact ih
    · exact ih.trans (List.prefix_append _ [a])

/-- Every key has a leader. -/
theorem exists_leader {l : List α} {k : κ} :
    (∃ b ∈ leaders key l, key b = some k) ↔ ∃ a ∈ l, key a = some k := by
  constructor
  · intro h
    obtain ⟨b, hb, hkey⟩ := h
    exact ⟨b, (leaders_sublist l).subset hb, hkey⟩
  · induction l using List.reverseRecOn with
    | nil => simp
    | append_singleton l a ih =>
      intro h
      obtain ⟨b, hb, hkey⟩ := h
      rw [leaders_snoc]
      have hold : (∃ b ∈ l, key b = some k) →
          ∃ b ∈ (if led key (leaders key l) a then leaders key l else leaders key l ++ [a]),
            key b = some k := by
        intro h
        obtain ⟨c, hc, hkey⟩ := ih h
        refine ⟨c, ?_, hkey⟩
        split
        · exact hc
        · exact List.mem_append_left _ hc
      rcases List.mem_append.mp hb with hb | hb
      · exact hold ⟨b, hb, hkey⟩
      · rw [List.mem_singleton] at hb
        subst hb
        by_cases hled : led key (leaders key l) b = true
        · obtain ⟨k', hk', c, hc, hck⟩ := led_iff.mp hled
          rw [hkey] at hk'
          cases hk'
          rw [if_pos hled]
          exact ⟨c, hc, hck⟩
        · rw [if_neg hled]
          exact ⟨b, by simp, hkey⟩

/-- No key has two. -/
theorem leaders_nodup (l : List α) : ((leaders key l).filterMap key).Nodup := by
  induction l using List.reverseRecOn with
  | nil => exact List.nodup_nil
  | append_singleton l a ih =>
    rw [leaders_snoc]
    split
    · exact ih
    · next hled =>
      rw [List.filterMap_append]
      cases hkey : key a with
      | none => simpa [hkey] using ih
      | some k =>
        rw [List.filterMap_cons_some hkey, List.filterMap_nil, List.nodup_append]
        refine ⟨ih, List.nodup_singleton k, ?_⟩
        intro k' hk' k'' hk'' heq
        rw [List.mem_singleton] at hk''
        obtain ⟨b, hb, hbk⟩ := List.mem_filterMap.mp hk'
        exact hled (led_iff.mpr ⟨k, hkey, b, hb, by rw [hbk, heq, hk'']⟩)

/-- A leader is found by its key. -/
theorem leaders_index {l : List α} {i j : Nat} (hi : i < (leaders key l).length)
    (hj : j < (leaders key l).length) {k : κ} (hik : key (leaders key l)[i] = some k)
    (hjk : key (leaders key l)[j] = some k) : i = j := by
  have hapart : ((leaders key l).filterMap key).Nodup := leaders_nodup l
  rw [List.Nodup, List.pairwise_filterMap, List.pairwise_iff_getElem] at hapart
  rcases Nat.lt_trichotomy i j with hlt | heq | hlt
  · exact absurd rfl (hapart i j hi hj hlt k hik k hjk)
  · exact heq
  · exact absurd rfl (hapart j i hj hi hlt k hjk k hik)

/-- Who stands alone leads. -/
theorem leaders_alone (l : List α) :
    (leaders key l).filter (key · = none) = l.filter (key · = none) := by
  induction l using List.reverseRecOn with
  | nil => rfl
  | append_singleton l a ih =>
    rw [leaders_snoc, List.filter_append, ← ih]
    split
    · next hled =>
      obtain ⟨k, hkey, -⟩ := led_iff.mp hled
      simp [hkey]
    · rw [List.filter_append]

/-! ## Representatives -/

variable (key)

def members (l : List α) (k : κ) : List α := l.filter (key · = some k)

variable [LinearOrder ν] (name : α → ν)

/-- The first entry with the least name. -/
def least : List α → Option α
  | [] => none
  | a :: rest => some (rest.foldl (fun best x => if name x < name best then x else best) a)

theorem least_snoc (l : List α) (x : α) :
    least name (l ++ [x]) =
      match least name l with
      | none => some x
      | some best => some (if name x < name best then x else best) := by
  cases l with
  | nil => rfl
  | cons a rest =>
    rw [List.cons_append, least, least, List.foldl_append]
    rfl

theorem least_eq_none {l : List α} : least name l = none ↔ l = [] := by
  cases l with
  | nil => simp [least]
  | cons a rest => simp [least]

theorem least_spec {l : List α} {a : α} (h : least name l = some a) :
    a ∈ l ∧ ∀ b ∈ l, name a ≤ name b := by
  induction l using List.reverseRecOn generalizing a with
  | nil => cases h
  | append_singleton l x ih =>
    rw [least_snoc] at h
    cases hbest : least name l with
    | none =>
      rw [hbest] at h
      cases h
      rw [(least_eq_none name).mp hbest]
      simp
    | some best =>
      rw [hbest] at h
      obtain ⟨hmem, hle⟩ := ih hbest
      by_cases hlt : name x < name best
      · simp only [if_pos hlt, Option.some.injEq] at h
        subst h
        refine ⟨by simp, fun b hb => ?_⟩
        rcases List.mem_append.mp hb with hb | hb
        · exact le_of_lt (lt_of_lt_of_le hlt (hle b hb))
        · rw [List.mem_singleton.mp hb]
      · simp only [if_neg hlt, Option.some.injEq] at h
        subst h
        refine ⟨by simp [hmem], fun b hb => ?_⟩
        rcases List.mem_append.mp hb with hb | hb
        · exact hle b hb
        · rw [List.mem_singleton.mp hb]
          exact not_lt.mp hlt

/-- The entry that stands for the group of `a`. -/
def representative (l : List α) (a : α) : α :=
  match key a with
  | none => a
  | some k => (least name (members key l k)).getD a

variable {key name}

theorem representative_alone {l : List α} {a : α} (h : key a = none) :
    representative key name l a = a := by
  unfold representative
  rw [h]

theorem representative_eq {l : List α} {a : α} {k : κ} (h : key a = some k) :
    representative key name l a = (least name (members key l k)).getD a := by
  unfold representative
  rw [h]

/-- It is a member of the group, and none has a lesser name. -/
theorem representative_spec {l : List α} {a : α} {k : κ} (ha : a ∈ l) (h : key a = some k) :
    representative key name l a ∈ l ∧ key (representative key name l a) = some k ∧
      ∀ b ∈ l, key b = some k → name (representative key name l a) ≤ name b := by
  have hmember : ∀ b, b ∈ members key l k ↔ b ∈ l ∧ key b = some k := by
    intro b
    simp [members]
  rw [representative_eq h]
  cases hleast : least name (members key l k) with
  | none =>
    have hnil := (least_eq_none name).mp hleast
    have hmem := (hmember a).mpr ⟨ha, h⟩
    rw [hnil] at hmem
    cases hmem
  | some r =>
    obtain ⟨hr, hle⟩ := least_spec name hleast
    obtain ⟨hmem, hkey⟩ := (hmember r).mp hr
    exact ⟨hmem, hkey, fun b hb hbk => hle b ((hmember b).mpr ⟨hb, hbk⟩)⟩

/-- It is the same for every member. -/
theorem representative_congr {l : List α} {a b : α} {k : κ} (ha : a ∈ l) (hak : key a = some k)
    (hbk : key b = some k) : representative key name l a = representative key name l b := by
  rw [representative_eq hak, representative_eq hbk]
  cases hleast : least name (members key l k) with
  | none =>
    have hmem : a ∈ members key l k := by simp [members, ha, hak]
    rw [(least_eq_none name).mp hleast] at hmem
    cases hmem
  | some r => rfl

/-- An entry of another group changes nothing. -/
theorem representative_snoc_other {l : List α} {a b : α} (h : ∀ k, key a = some k → key b ≠ some k) :
    representative key name (l ++ [b]) a = representative key name l a := by
  unfold representative
  cases hkey : key a with
  | none => rfl
  | some k =>
    have hb := h k hkey
    simp [members, List.filter_append, hb]

/-- A new member stands for its group if it has the least name. -/
theorem representative_snoc_same {l : List α} {a b : α} {k : κ} (ha : key a = some k)
    (hb : key b = some k) (hled : ∃ c ∈ l, key c = some k) :
    representative key name (l ++ [b]) a =
      if name b < name (representative key name l a) then b
      else representative key name l a := by
  have hmembers : members key (l ++ [b]) k = members key l k ++ [b] := by
    simp [members, List.filter_append, hb]
  rw [representative_eq ha, representative_eq ha, hmembers, least_snoc]
  cases hleast : least name (members key l k) with
  | none =>
    obtain ⟨c, hc, hck⟩ := hled
    have hnil := (least_eq_none name).mp hleast
    have hmem : c ∈ members key l k := by simp [members, hc, hck]
    rw [hnil] at hmem
    cases hmem
  | some r => rfl

/-- The first member stands for its group. -/
theorem representative_snoc_first {l : List α} {a : α}
    (h : ∀ k, key a = some k → ∀ c ∈ l, key c ≠ some k) :
    representative key name (l ++ [a]) a = a := by
  unfold representative
  cases hkey : key a with
  | none => rfl
  | some k =>
    have hnone : members key l k = [] := by
      unfold members
      rw [List.filter_eq_nil_iff]
      intro c hc
      simpa using h k hkey c hc
    have hmembers : members key (l ++ [a]) k = [a] := by
      show (l ++ [a]).filter _ = _
      rw [List.filter_append]
      show members key l k ++ _ = _
      rw [hnone]
      simp [hkey]
    dsimp only
    rw [hmembers]
    rfl

end Groups
