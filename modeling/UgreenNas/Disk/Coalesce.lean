import Mathlib.Data.Char
import Mathlib.Data.List.Lex
import UgreenNas.Disk.Scan
import UgreenNas.Seq.Groups

/-! # Namespaces of one controller (`disk/disk.c`)

    The entries of a scan are compacted in place: the groups grow at the
    front of the arrays while the loop still reads their rear.
-/

namespace UgreenNas.DiskMap

open Groups

/-! ## Entries -/

/-- Entries with the same controller path belong together. -/
def controller_key (entry : Disk × Text) : Option Text :=
  if entry.2 = [] then none else some entry.2

def entry_name (entry : Disk × Text) : Text := entry.1.name

/-- The disk that stands for the controller of an entry. -/
def physical_disk (entries : List (Disk × Text)) (entry : Disk × Text) : Disk :=
  (representative controller_key entry_name entries entry).1

theorem controller_key_iff {entry : Disk × Text} {controller : Text} :
    controller_key entry = some controller ↔ entry.2 = controller ∧ controller ≠ [] := by
  unfold controller_key
  split
  · next h => simp [h, eq_comm]
  · next h =>
    rw [Option.some.injEq]
    constructor
    · intro heq
      exact ⟨heq, heq ▸ h⟩
    · exact fun heq => heq.1

/-- What two namespaces of one controller have in common. -/
def Disagree (entries : List (Disk × Text)) : Prop :=
  ∃ a ∈ entries, ∃ b ∈ entries, a.2 = b.2 ∧ a.2 ≠ [] ∧ same_controller_record a.1 b.1 = false

theorem same_controller_record_comm (d e : Disk) :
    same_controller_record d e = same_controller_record e d := by
  unfold same_controller_record
  simp only [eq_comm]

theorem same_controller_record_trans {d e f : Disk} (h : same_controller_record d e = true)
    (h' : same_controller_record e f = true) : same_controller_record d f = true := by
  unfold same_controller_record at h h' ⊢
  simp only [Bool.and_eq_true, decide_eq_true_eq] at h h' ⊢
  grind

theorem same_controller_record_refl (d : Disk) : same_controller_record d d = true := by
  simp [same_controller_record]

/-! ## The loop -/

/-- The entries `done` have been read, the entries `todo` have not. -/
structure Coalesced.Holds (st : Coalesced) (done todo : List (Disk × Text)) : Prop where
  count : st.physical_count = (leaders controller_key done).length
  /-- The front of the arrays holds the groups... -/
  disks : st.disks.take st.physical_count = (leaders controller_key done).map (physical_disk done)
  controllers : st.controllers.take st.physical_count = (leaders controller_key done).map Prod.snd
  /-- ... and their rear what has not been read. -/
  disks_rest : st.disks.drop done.length = todo.map Prod.fst
  controllers_rest : st.controllers.drop done.length = todo.map Prod.snd
  aliases : st.aliases = (done.filter fun entry => (controller_key entry).isSome).map fun entry =>
    (entry.1.name, entry.1.wwn,
      (leaders controller_key done).findIdx (controller_key · = controller_key entry))
  agree : ¬ Disagree done

section loop

variable {st : Coalesced} {entry : Disk × Text} {done todo : List (Disk × Text)}

theorem Coalesced.Holds.count_le (h : st.Holds done todo) : st.physical_count ≤ done.length := by
  rw [h.count]
  exact (leaders_sublist done).length_le

/-- What is read for an entry is the entry. -/
theorem Coalesced.Holds.reads (h : st.Holds done (entry :: todo)) :
    st.disks.getD done.length {} = entry.1 ∧ st.controllers.getD done.length [] = entry.2 := by
  have hdisk : st.disks[done.length]? = some entry.1 := by
    have hhead := congrArg (·[0]?) h.disks_rest
    simpa [List.getElem?_drop] using hhead
  have hcontroller : st.controllers[done.length]? = some entry.2 := by
    have hhead := congrArg (·[0]?) h.controllers_rest
    simpa [List.getElem?_drop] using hhead
  simp [List.getD_eq_getElem?_getD, hdisk, hcontroller]

theorem find_congr {α : Type} {p q : α → Bool} {l : List α} (h : ∀ a ∈ l, p a = q a) :
    l.find? p = l.find? q := by
  induction l with
  | nil => rfl
  | cons a rest ih =>
    rw [List.forall_mem_cons] at h
    rw [List.find?_cons, List.find?_cons, h.1, ih h.2]

theorem find_range {α : Type} (l : List α) (p : α → Bool) (d : α) :
    ((List.range l.length).find? fun i => p (l.getD i d)).getD l.length = l.findIdx p := by
  induction l with
  | nil => rfl
  | cons a rest ih =>
    rw [List.length_cons, List.range_succ_eq_map, List.find?_cons, List.findIdx_cons]
    cases hp : p a with
    | true => simp [hp]
    | false =>
      simp only [List.getD_cons_zero, hp, List.find?_map, Function.comp_def, List.getD_cons_succ]
      rw [← ih]
      cases (List.range rest.length).find? fun i => p (rest.getD i d) with
      | none => rfl
      | some i => rfl

/-- The groups are where the loop looks for them. -/
theorem Coalesced.Holds.disk_at (h : st.Holds done todo) {group : Nat}
    (hgroup : group < (leaders controller_key done).length) :
    st.disks[group]? = some (physical_disk done (leaders controller_key done)[group]) := by
  have hat := congrArg (·[group]?) h.disks
  simpa [h.count, hgroup] using hat

theorem Coalesced.Holds.physical (h : st.Holds done todo) {group : Nat}
    (hgroup : group < (leaders controller_key done).length) :
    st.disks.getD group {} = physical_disk done (leaders controller_key done)[group] := by
  rw [List.getD_eq_getElem?_getD, h.disk_at hgroup]
  rfl

/-- The search finds the group of an entry, or the place behind all groups. -/
theorem Coalesced.Holds.group (h : st.Holds done todo) (entry : Disk × Text) :
    st.group entry.2 =
      if led controller_key (leaders controller_key done) entry then
        (leaders controller_key done).findIdx (controller_key · = controller_key entry)
      else
        st.physical_count := by
  have hlength : ((leaders controller_key done).map Prod.snd).length = st.physical_count := by
    rw [List.length_map, h.count]
  unfold Coalesced.group
  by_cases hempty : entry.2 = []
  · have halone : controller_key entry = none := if_pos hempty
    have hnone : (List.range st.physical_count).find? (fun group =>
        !entry.2.isEmpty && st.controllers.getD group [] = entry.2) = none := by
      rw [List.find?_eq_none]
      simp [hempty]
    rw [if_neg (by simp [led, halone]), hnone]
    rfl
  · have hkey : controller_key entry = some entry.2 := if_neg hempty
    have hnonempty : entry.2.isEmpty = false := by simpa using hempty
    have hfind : (List.range st.physical_count).find? (fun group =>
        !entry.2.isEmpty && st.controllers.getD group [] = entry.2) =
        (List.range st.physical_count).find? fun group =>
          ((leaders controller_key done).map Prod.snd).getD group [] = entry.2 := by
      apply find_congr
      intro group hgroup
      rw [List.mem_range] at hgroup
      rw [← h.controllers, hnonempty]
      simp [List.getD_eq_getElem?_getD, hgroup]
    rw [hfind, ← hlength, find_range _ (fun controller => controller = entry.2), List.findIdx_map]
    have hpred : ((fun controller : Text => decide (controller = entry.2)) ∘ Prod.snd) =
        fun e : Disk × Text => decide (controller_key e = controller_key entry) := by
      funext e
      apply decide_eq_decide.mpr
      rw [hkey, controller_key_iff]
      exact ⟨fun heq => ⟨heq, hempty⟩, fun heq => heq.1⟩
    rw [hpred]
    split
    · rfl
    · next hled =>
      rw [List.length_map]
      apply List.findIdx_eq_length.mpr
      intro e he
      rw [decide_eq_false_iff_not]
      intro heq
      exact hled (led_iff.mpr ⟨entry.2, hkey, e, he, heq.trans hkey⟩)

theorem physical_disk_other {other : Disk × Text}
    (h : ∀ k, controller_key other = some k → controller_key entry ≠ some k) :
    physical_disk (done ++ [entry]) other = physical_disk done other := by
  unfold physical_disk
  rw [representative_snoc_other h]

/-- Recording an alias changes nothing else. -/
theorem add_alias_fields (st : Coalesced) (disk : Disk) (controller : Text) (group : Nat) :
    (st.add_alias disk controller group).physical_count = st.physical_count ∧
    (st.add_alias disk controller group).disks = st.disks ∧
    (st.add_alias disk controller group).controllers = st.controllers := by
  unfold Coalesced.add_alias
  split
  · exact ⟨rfl, rfl, rfl⟩
  · exact ⟨rfl, rfl, rfl⟩

/-- The alias of an entry is recorded with its group. -/
theorem add_alias_eq {groups groups' : List (Disk × Text)} {group : Nat}
    (haliases : st.aliases = (done.filter fun e => (controller_key e).isSome).map fun e =>
      (e.1.name, e.1.wwn, groups.findIdx (controller_key · = controller_key e)))
    (hgroups : ∀ e ∈ done, (controller_key e).isSome →
      groups.findIdx (controller_key · = controller_key e) =
        groups'.findIdx (controller_key · = controller_key e))
    (hgroup : (controller_key entry).isSome →
      group = groups'.findIdx (controller_key · = controller_key entry)) :
    (st.add_alias entry.1 entry.2 group).aliases =
      ((done ++ [entry]).filter fun e => (controller_key e).isSome).map fun e =>
        (e.1.name, e.1.wwn, groups'.findIdx (controller_key · = controller_key e)) := by
  have hold : st.aliases = (done.filter fun e => (controller_key e).isSome).map fun e =>
      (e.1.name, e.1.wwn, groups'.findIdx (controller_key · = controller_key e)) := by
    rw [haliases]
    apply List.map_congr_left
    intro e he
    obtain ⟨hmem, hsome⟩ := List.mem_filter.mp he
    rw [hgroups e hmem hsome]
  unfold Coalesced.add_alias
  rw [List.filter_append, List.map_append, ← hold]
  by_cases hempty : entry.2 = []
  · have halone : controller_key entry = none := if_pos hempty
    simp [hempty, halone]
  · have hkey : controller_key entry = some entry.2 := if_neg hempty
    rw [if_neg (by simpa using hempty), hgroup (by simp [hkey])]
    simp [hkey]

theorem disagree_snoc (hdone : ¬ Disagree done)
    (hentry : ∀ b ∈ done, b.2 = entry.2 → entry.2 ≠ [] →
      same_controller_record b.1 entry.1 = true) : ¬ Disagree (done ++ [entry]) := by
  intro hdisagree
  obtain ⟨a, ha, b, hb, hpath, hne, hrecord⟩ := hdisagree
  rw [List.mem_append, List.mem_singleton] at ha hb
  rcases ha with ha | rfl
  · rcases hb with hb | rfl
    · exact hdone ⟨a, ha, b, hb, hpath, hne, hrecord⟩
    · rw [hentry a ha hpath (hpath ▸ hne)] at hrecord
      cases hrecord
  · rcases hb with hb | rfl
    · rw [same_controller_record_comm, hentry b hb hpath.symm hne] at hrecord
      cases hrecord
    · rw [same_controller_record_refl] at hrecord
      cases hrecord

theorem drop_succ_of_drop {α : Type} {l rest : List α} {a : α} {n : Nat}
    (h : l.drop n = a :: rest) : n < l.length ∧ l.drop (n + 1) = rest := by
  constructor
  · by_contra hle
    rw [List.drop_eq_nil_of_le (Nat.not_lt.mp hle)] at h
    cases h
  · rw [← List.drop_drop, h]
    rfl

/-- An entry that leads opens a group behind the others. -/
theorem Coalesced.Holds.lead (h : st.Holds done (entry :: todo))
    (hled : led controller_key (leaders controller_key done) entry = false) :
    ({ st with
      disks := st.disks.set st.physical_count entry.1
      controllers := st.controllers.set st.physical_count entry.2
      physical_count := st.physical_count + 1 : Coalesced }.add_alias entry.1 entry.2
        st.physical_count).Holds (done ++ [entry]) todo := by
  have hleaders : leaders controller_key (done ++ [entry]) =
      leaders controller_key done ++ [entry] := by
    rw [leaders_snoc, hled]
    rfl
  have hnew : ∀ k, controller_key entry = some k → ∀ b ∈ done, controller_key b ≠ some k := by
    intro k hk b hb hbk
    obtain ⟨c, hc, hck⟩ := exists_leader.mpr ⟨b, hb, hbk⟩
    rw [led_iff.mpr ⟨k, hk, c, hc, hck⟩] at hled
    cases hled
  have hle := h.count_le
  obtain ⟨hdisks, hdisks_rest⟩ := drop_succ_of_drop h.disks_rest
  obtain ⟨hcontrollers, hcontrollers_rest⟩ := drop_succ_of_drop h.controllers_rest
  obtain ⟨hcount', hdisks', hcontrollers'⟩ := add_alias_fields { st with
    disks := st.disks.set st.physical_count entry.1
    controllers := st.controllers.set st.physical_count entry.2
    physical_count := st.physical_count + 1 } entry.1 entry.2 st.physical_count
  constructor
  · rw [hcount', hleaders, List.length_append, h.count]
    rfl
  · rw [hcount', hdisks', hleaders, List.map_append, List.take_succ_eq_append_getElem
      (by rw [List.length_set]; omega), List.take_set_of_le (Nat.le_refl _), h.disks]
    congr 1
    · apply List.map_congr_left
      intro leader hleader
      symm
      apply physical_disk_other
      intro k hk hek
      exact hnew k hek leader ((leaders_sublist done).subset hleader) hk
    · rw [List.getElem_set_self, List.map_singleton]
      unfold physical_disk
      rw [representative_snoc_first hnew]
  · rw [hcount', hcontrollers', hleaders, List.map_append, List.take_succ_eq_append_getElem
      (by rw [List.length_set]; omega), List.take_set_of_le (Nat.le_refl _), h.controllers,
      List.getElem_set_self]
    rfl
  · rw [hdisks', List.length_append, List.length_singleton, List.drop_set_of_lt (by omega)]
    exact hdisks_rest
  · rw [hcontrollers', List.length_append, List.length_singleton, List.drop_set_of_lt (by omega)]
    exact hcontrollers_rest
  · rw [hleaders]
    refine add_alias_eq (by exact h.aliases) ?_ ?_
    · intro e he hsome
      obtain ⟨k, hk⟩ := Option.isSome_iff_exists.mp hsome
      obtain ⟨c, hc, hck⟩ := exists_leader.mpr ⟨e, he, hk⟩
      rw [List.findIdx_append, if_pos]
      exact List.findIdx_lt_length_of_exists ⟨c, hc, by simp [hck, hk]⟩
    · intro hsome
      obtain ⟨k, hk⟩ := Option.isSome_iff_exists.mp hsome
      have hnone : (leaders controller_key done).findIdx
          (controller_key · = controller_key entry) = (leaders controller_key done).length := by
        apply List.findIdx_eq_length.mpr
        intro c hc
        rw [decide_eq_false_iff_not, hk]
        exact hnew k hk c ((leaders_sublist done).subset hc)
      rw [List.findIdx_append, if_neg (by omega), h.count]
      simp
  · apply disagree_snoc h.agree
    intro b hb hpath hne
    have hkey : controller_key entry = some entry.2 := if_neg hne
    have hbkey : controller_key b = some entry.2 := controller_key_iff.mpr ⟨hpath, hne⟩
    exact absurd hbkey (hnew _ hkey b hb)

/-- An entry that joins a group may become its representative. -/
theorem Coalesced.Holds.join (h : st.Holds done (entry :: todo)) {group : Nat}
    (hgroup : group < (leaders controller_key done).length)
    (hfound : (leaders controller_key done).findIdx (controller_key · = controller_key entry) =
      group)
    (hled : led controller_key (leaders controller_key done) entry = true)
    (hrecord : same_controller_record
      (physical_disk done (leaders controller_key done)[group]) entry.1 = true) :
    ((if entry.1.name < (physical_disk done (leaders controller_key done)[group]).name then
        { st with disks := st.disks.set group entry.1 }
      else st : Coalesced).add_alias entry.1 entry.2 group).Holds (done ++ [entry]) todo := by
  obtain ⟨k, hk, c, hc, hck⟩ := led_iff.mp hled
  have hleaders : leaders controller_key (done ++ [entry]) = leaders controller_key done := by
    rw [leaders_snoc, hled]
    rfl
  have hleader : controller_key (leaders controller_key done)[group] = some k := by
    subst hfound
    rw [← hk]
    exact of_decide_eq_true (@List.findIdx_getElem _ (controller_key · = controller_key entry) _ hgroup)
  have hseen : ∃ b ∈ done, controller_key b = some k :=
    ⟨c, (leaders_sublist done).subset hc, hck⟩
  -- The representative of the group changes with a lesser name, no other does.
  have hphysical : ∀ i (hi : i < (leaders controller_key done).length),
      physical_disk (done ++ [entry]) (leaders controller_key done)[i] =
        if group = i ∧ entry.1.name < (physical_disk done (leaders controller_key done)[group]).name
        then entry.1 else physical_disk done (leaders controller_key done)[i] := by
    intro i hi
    by_cases hi' : group = i
    · subst hi'
      unfold physical_disk
      rw [representative_snoc_same hleader hk hseen]
      simp only [true_and]
      split
      · next hlt => exact (if_pos hlt).symm
      · next hlt => exact (if_neg hlt).symm
    · rw [if_neg fun hand => hi' hand.1]
      apply physical_disk_other
      intro k' hk' hek
      rw [hk] at hek
      cases hek
      exact hi' (leaders_index hgroup hi hleader hk')
  have hle := h.count_le
  obtain ⟨hdisks, hdisks_rest⟩ := drop_succ_of_drop h.disks_rest
  obtain ⟨hcontrollers, hcontrollers_rest⟩ := drop_succ_of_drop h.controllers_rest
  have hcount := h.count
  generalize hlesser :
    (physical_disk done (leaders controller_key done)[group]).name = least_name at hphysical ⊢
  have hdisks' : (if entry.1.name < least_name then { st with disks := st.disks.set group entry.1 }
      else st : Coalesced) = { st with
        disks := if entry.1.name < least_name then st.disks.set group entry.1 else st.disks } := by
    split
    · rfl
    · rfl
  rw [hdisks']
  obtain ⟨hcount₁, hdisks₁, hcontrollers₁⟩ := add_alias_fields { st with
    disks := if entry.1.name < least_name then st.disks.set group entry.1 else st.disks }
    entry.1 entry.2 group
  constructor
  · rw [hcount₁, hleaders]
    exact hcount
  · rw [hcount₁, hdisks₁, hleaders]
    apply List.ext_getElem
    · rw [List.length_map, List.length_take]
      split
      · rw [List.length_set]
        dsimp only
        omega
      · dsimp only
        omega
    · intro i hi hi'
      rw [List.length_map] at hi'
      obtain ⟨hi₁, hold⟩ := List.getElem?_eq_some_iff.mp (h.disk_at hi')
      rw [List.getElem_map, hphysical i hi', List.getElem_take]
      by_cases hlt : entry.1.name < least_name
      · simp only [hlt, if_true, and_true, List.getElem_set]
        rw [hold]
      · simp only [hlt, if_false, and_false]
        exact hold
  · rw [hcount₁, hcontrollers₁, hleaders]
    exact h.controllers
  · rw [hdisks₁, List.length_append, List.length_singleton]
    split
    · rw [List.drop_set_of_lt (by omega)]
      exact hdisks_rest
    · exact hdisks_rest
  · rw [hcontrollers₁, List.length_append, List.length_singleton]
    exact hcontrollers_rest
  · rw [hleaders]
    exact add_alias_eq (by exact h.aliases) (fun _ _ _ => rfl) fun _ => hfound.symm
  · apply disagree_snoc h.agree
    intro b hb hpath hne
    have hkey : controller_key entry = some entry.2 := if_neg hne
    rw [hk] at hkey
    cases hkey
    have hmem := (leaders_sublist done).subset (List.getElem_mem hgroup)
    obtain ⟨hrep, hrepkey, -⟩ :=
      @representative_spec _ _ _ _ controller_key _ entry_name _ _ _ hmem hleader
    have hsame : same_controller_record b.1 (physical_disk done
        (leaders controller_key done)[group]) = true := by
      by_contra hdiffers
      rw [Bool.not_eq_true] at hdiffers
      exact h.agree ⟨b, hb, _, hrep, hpath.trans (controller_key_iff.mp hrepkey).1.symm,
        hpath ▸ hne, hdiffers⟩
    exact same_controller_record_trans hsame hrecord

/-- One pass reads one entry, or finds that it disagrees with an earlier one. -/
theorem coalesce_entry_holds (h : st.Holds done (entry :: todo)) :
    (∃ st', coalesce_entry st done.length = .ok st' ∧ st'.Holds (done ++ [entry]) todo) ∨
    ((∃ fault, coalesce_entry st done.length = .error fault) ∧ Disagree (done ++ [entry])) := by
  obtain ⟨hdisk, hcontroller⟩ := h.reads
  have hgroup := h.group entry
  unfold coalesce_entry
  rw [hdisk, hcontroller]
  dsimp only
  by_cases hled : led controller_key (leaders controller_key done) entry = true
  · obtain ⟨k, hk, c, hc, hck⟩ := led_iff.mp hled
    have hlt : (leaders controller_key done).findIdx (controller_key · = controller_key entry) <
        (leaders controller_key done).length :=
      List.findIdx_lt_length_of_exists ⟨c, hc, by simp [hck, hk]⟩
    rw [if_pos hled] at hgroup
    rw [hgroup]
    generalize hfound : (leaders controller_key done).findIdx
      (controller_key · = controller_key entry) = group at hlt
    have hleader : controller_key (leaders controller_key done)[group] = some k := by
      subst hfound
      rw [← hk]
      exact of_decide_eq_true (@List.findIdx_getElem _ (controller_key · = controller_key entry) _ hlt)
    rw [if_pos (h.count ▸ hlt), h.physical hlt]
    cases hrecord : same_controller_record
        (physical_disk done (leaders controller_key done)[group]) entry.1 with
    | true => exact .inl ⟨_, rfl, h.join hlt hfound hled hrecord⟩
    | false =>
      right
      refine ⟨⟨_, rfl⟩, ?_⟩
      have hmem := (leaders_sublist done).subset (List.getElem_mem hlt)
      obtain ⟨hrep, hrepkey, -⟩ :=
      @representative_spec _ _ _ _ controller_key _ entry_name _ _ _ hmem hleader
      obtain ⟨hpath, hne⟩ := controller_key_iff.mp hrepkey
      obtain ⟨hpath', -⟩ := controller_key_iff.mp hk
      exact ⟨_, List.mem_append_left _ hrep, entry, by simp, hpath.trans hpath'.symm, hpath ▸ hne,
        hrecord⟩
  · rw [if_neg hled] at hgroup
    rw [hgroup, if_neg (Nat.lt_irrefl _)]
    exact .inl ⟨_, rfl, h.lead (by simpa using hled)⟩

theorem Disagree.append (h : Disagree done) : Disagree (done ++ todo) := by
  obtain ⟨a, ha, b, hb, hrest⟩ := h
  exact ⟨a, List.mem_append_left todo ha, b, List.mem_append_left todo hb, hrest⟩

/-- The loop over some of the entries that are left. -/
theorem coalesce_loop {rest : List (Disk × Text)} (h : st.Holds done (todo ++ rest)) :
    (∃ st', (List.range' done.length todo.length).foldlM coalesce_entry st = .ok st' ∧
      st'.Holds (done ++ todo) rest) ∨
    ((∃ fault, (List.range' done.length todo.length).foldlM coalesce_entry st = .error fault) ∧
      Disagree (done ++ todo)) := by
  induction todo generalizing st done with
  | nil =>
    left
    refine ⟨st, rfl, ?_⟩
    rw [List.append_nil]
    exact h
  | cons entry todo ih =>
    rw [List.length_cons, List.range'_succ, List.foldlM_cons]
    rcases coalesce_entry_holds h with ⟨st', heq, hholds⟩ | ⟨⟨fault, heq⟩, hdisagree⟩
    · rw [heq, List.append_cons]
      have hrest := ih hholds
      rw [List.length_append, List.length_singleton] at hrest
      exact hrest
    · right
      refine ⟨⟨fault, by rw [heq]; rfl⟩, ?_⟩
      rw [List.append_cons]
      exact hdisagree.append

end loop

/-! ## The result -/

/-- The arrays that the loop starts from. -/
def Coalesced.start (entries : List (Disk × Text)) : Coalesced :=
  ⟨entries.map Prod.fst, entries.map Prod.snd, 0, []⟩

theorem start_holds (entries : List (Disk × Text)) : (Coalesced.start entries).Holds [] entries := by
  constructor
  · rfl
  · rfl
  · rfl
  · rfl
  · rfl
  · rfl
  · intro h
    obtain ⟨a, ha, -⟩ := h
    cases ha

/-- What coalescing is for: each controller once, where its first namespace
    was, and each namespace under its own name. -/
structure Compacted (entries : List (Disk × Text)) (disks : List Disk)
    (aliases : List NamespaceAlias) (groups : List (Disk × Text)) (physical : Disk × Text → Disk) :
    Prop where
  disks : disks = groups.map physical
  /-- The groups are in the order in which they first appear. -/
  order : ∀ done todo, entries = done ++ todo → leaders controller_key done <+: groups
  sublist : groups.Sublist entries
  /-- Every controller has one, and every other entry is one. -/
  each : ∀ controller, controller ∈ groups.filterMap controller_key ↔
    ∃ entry ∈ entries, controller_key entry = some controller
  once : (groups.filterMap controller_key).Nodup
  alone : (groups.filter (controller_key · = none)) = entries.filter (controller_key · = none)
  unchanged : ∀ entry, controller_key entry = none → physical entry = entry.1
  /-- A controller is the complete record with the least name. -/
  least : ∀ entry ∈ entries, ∀ controller, controller_key entry = some controller →
    ∃ record ∈ entries, controller_key record = some controller ∧ physical entry = record.1 ∧
      ∀ other ∈ entries, controller_key other = some controller → record.1.name ≤ other.1.name
  aliases : aliases = (entries.filter fun entry => (controller_key entry).isSome).map fun entry =>
    ⟨entry.1.name, entry.1.wwn, (physical entry).name⟩

theorem compacted_of_holds {entries : List (Disk × Text)} {st : Coalesced}
    (h : st.Holds entries []) :
    Compacted entries (st.disks.take st.physical_count)
      (st.aliases.map fun (name, wwn, group) => ⟨name, wwn, (st.disks.getD group {}).name⟩)
      (leaders controller_key entries) (physical_disk entries) := by
  constructor
  · exact h.disks
  · intro done todo heq
    rw [heq]
    exact leaders_prefix done todo
  · exact leaders_sublist entries
  · intro controller
    rw [List.mem_filterMap]
    exact exists_leader
  · exact leaders_nodup entries
  · exact leaders_alone entries
  · intro entry halone
    unfold physical_disk
    rw [representative_alone halone]
  · intro entry hentry controller hkey
    obtain ⟨hmem, hrepkey, hle⟩ :=
      @representative_spec _ _ _ _ controller_key _ entry_name _ _ _ hentry hkey
    exact ⟨_, hmem, hrepkey, rfl, hle⟩
  · rw [h.aliases, List.map_map]
    apply List.map_congr_left
    intro entry hentry
    obtain ⟨hmem, hsome⟩ := List.mem_filter.mp hentry
    obtain ⟨k, hk⟩ := Option.isSome_iff_exists.mp hsome
    obtain ⟨c, hc, hck⟩ := exists_leader.mpr ⟨entry, hmem, hk⟩
    have hlt : (leaders controller_key entries).findIdx
        (controller_key · = controller_key entry) < (leaders controller_key entries).length :=
      List.findIdx_lt_length_of_exists ⟨c, hc, by simp [hck, hk]⟩
    have hleader := of_decide_eq_true
      (@List.findIdx_getElem _ (controller_key · = controller_key entry) _ hlt)
    dsimp only [Function.comp_apply]
    rw [h.physical hlt]
    unfold physical_disk
    rw [representative_congr hmem hk (hleader.trans hk)]

/-- Coalescing loses and duplicates nothing.  It fails where two namespaces
    of one controller disagree, and nowhere else; and each pass of the loop
    reads the entry as it was passed in. -/
theorem coalesce_exact (entries : List (Disk × Text)) :
    ((∃ fault, coalesce_nvme_namespaces (entries.map Prod.fst) (entries.map Prod.snd) =
      .error fault) ↔ Disagree entries) ∧
    (∀ disks aliases, coalesce_nvme_namespaces (entries.map Prod.fst) (entries.map Prod.snd) =
      .ok (disks, aliases) →
      Compacted entries disks aliases (leaders controller_key entries) (physical_disk entries)) ∧
    ∀ done entry todo, entries = done ++ entry :: todo → ∀ st,
      (List.range done.length).foldlM coalesce_entry (Coalesced.start entries) = .ok st →
      st.disks.getD done.length {} = entry.1 ∧ st.controllers.getD done.length [] = entry.2 := by
  have hstart := start_holds entries
  rw [← List.append_nil entries] at hstart
  have hrun := coalesce_loop hstart
  rw [List.append_nil] at hrun
  have hrange : (List.range (entries.map Prod.fst).length).foldlM coalesce_entry
      ⟨entries.map Prod.fst, entries.map Prod.snd, 0, []⟩ =
      (List.range' ([] : List (Disk × Text)).length entries.length).foldlM coalesce_entry
        (Coalesced.start entries) := by
    rw [List.length_map, List.range_eq_range']
    rfl
  unfold coalesce_nvme_namespaces
  rw [hrange]
  refine ⟨?_, ?_, ?_⟩
  · rcases hrun with ⟨st, heq, hholds⟩ | ⟨⟨fault, heq⟩, hdisagree⟩
    · rw [heq]
      exact iff_of_false (fun ⟨fault, h⟩ => nomatch h) hholds.agree
    · rw [heq]
      exact iff_of_true ⟨fault, rfl⟩ hdisagree
  · intro disks aliases hok
    rcases hrun with ⟨st, heq, hholds⟩ | ⟨⟨fault, heq⟩, -⟩
    · rw [heq] at hok
      cases hok
      exact compacted_of_holds hholds
    · rw [heq] at hok
      cases hok
  · intro done entry todo hsplit st hst
    have hstart := start_holds entries
    rw [hsplit] at hstart
    rw [List.range_eq_range', hsplit] at hst
    rcases coalesce_loop hstart with ⟨st', heq, hholds⟩ | ⟨⟨fault, heq⟩, -⟩
    · have hsame := heq.symm.trans hst
      cases hsame
      exact hholds.reads
    · have hsame := heq.symm.trans hst
      cases hsame

/-- A SATA disk between two namespaces of one controller. -/
def two_namespaces : List (Disk × Text) := [
  ({ name := "nvme0n2", wwn := "b", interface_type := "nvme" }, "/nvme0"),
  ({ name := "sda", interface_type := "sata" }, []),
  ({ name := "nvme0n1", wwn := "a", interface_type := "nvme" }, "/nvme0")]

theorem coalesce_exact_two_namespaces :
    Compacted two_namespaces
      [{ name := "nvme0n1", wwn := "a", interface_type := "nvme" },
        { name := "sda", interface_type := "sata" }]
      [⟨"nvme0n2", "b", "nvme0n1"⟩, ⟨"nvme0n1", "a", "nvme0n1"⟩]
      (leaders controller_key two_namespaces) (physical_disk two_namespaces) :=
  (coalesce_exact two_namespaces).2.1 _ _ (by rfl)

end UgreenNas.DiskMap
