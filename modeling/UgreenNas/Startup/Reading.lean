import UgreenNas.Startup.Held
import UgreenNas.Startup.Persist

/-! # Reading under the lock

    What `load` returns under the lock is what the state file contains, and
    what `Backend.get` returns is the policy of the hardware.
-/

namespace UgreenNas.Startup

open Effect Effect.Proc Storage Machine

variable {P : Type} {home : Directory} {p : P} {κ α β : Type}
  {New : List UInt8 → Log → Prop} {s s' : Machine P} {purpose : Purpose}
  {lock : Fd .lock} {directory : Fd .directory} {F : Machine P → Prop} {c : κ}
  {move : Move startup (Machine P)}

/-! ## What is asked for -/

theorem inside_fstat (fd : Fd purpose) : Asks Inside (os_fstat fd : Py κ StatResult) :=
  asks_call trivial asks_os

theorem inside_read_chunks (fd : Fd .state) (rounds : Nat) (data : List UInt8) :
    Asks Inside (read_chunks fd rounds data : Py κ (List UInt8)) := by
  induction rounds generalizing data with
  | zero => exact asks_pure _
  | succ rounds ih =>
    unfold read_chunks
    split
    · have hread : Asks Inside (os_read fd (MAX_STATE_BYTES + 1 - data.length) : Py κ _) :=
        asks_call trivial asks_os
      apply hread.bind
      intro chunk
      split
      · exact asks_pure _
      · exact ih _
    · exact asks_pure _

theorem inside_close_state (fd : Fd .state) : Asks Inside (os_close fd : Py κ Unit) :=
  asks_call trivial asks_os

theorem inside_load (json : Json) (directory : Fd .directory) :
    Asks Inside (load json directory : Py κ (Option Record)) := by
  apply (asks_open .state STATE_FILE (some directory) trivial).attempt.bind
  intro opened
  cases opened with
  | error error =>
    dsimp only
    split
    · exact asks_pure _
    · exact asks_fail _
  | ok fd =>
    have hrecord : Asks Inside (read_record json fd : Py κ Record) :=
      (inside_fstat fd).bind fun _ => (asks_check _).bind fun _ => (asks_bail _ _).bind fun _ =>
        (inside_read_chunks fd _ _).bind fun _ => (inside_fstat fd).bind fun _ =>
          (asks_check _).bind fun _ => (asks_bail _ _).bind fun _ => asks_check _
    exact (hrecord.always (inside_close_state fd)).bind fun _ => asks_pure _

theorem inside_identity_fields (fields : List String) :
    Asks Inside (identity_fields fields : Py κ Identity) := by
  induction fields with
  | nil => exact asks_pure _
  | cons field fields ih =>
    exact asks_call trivial fun r => (asks_os r).bind fun _ =>
      (asks_check _).bind fun _ => ih.bind fun _ => asks_pure _

theorem inside_observe_identity : Asks Inside (observe_identity : Py κ Identity) :=
  (inside_identity_fields _).bind fun _ => (asks_check _).bind fun _ => asks_check _

theorem inside_get (backend : Backend) (allow_unknown : Bool) :
    Asks Inside (backend_get backend allow_unknown : Py κ String) := by
  apply (asks_get backend allow_unknown).mono
  intro o ho
  cases o <;> simp_all [Gets, Inside]

/-! ## The state file -/

/-- The file `i` under the name of the state file is read; `done` was read so
    far. -/
structure Reading (home : Directory) (p : P) (fd : Fd .state) (i : Nat) (file : Inode)
    (done : List UInt8) (s : Machine P) : Prop where
  reader : s.readers (p, fd.number) = some (i, done.length)
  inode : s.volume.inode i = file
  read : done <+: file.data

theorem Reading.rely {fd : Fd .state} {i : Nat} {file : Inode} {done : List UInt8}
    (h : Reading home p fd i file done s) (hheld : Held home p lock directory s)
    (hrely : Rely home p s s') : Reading home p fd i file done s' where
  reader := (hrely.own.readers _).trans h.reader
  inode := (congrFun (hheld.still hrely).inode i).trans h.inode
  read := h.read

variable [DecidableEq P]

/-! ## Calls -/

/-- An operation under the lock, and what follows it. -/
theorem held_call {o : StartupOp} (ho : Inside o) {g : o.Ans → Py κ α}
    {Q : Except PyError α → κ → Move startup (Machine P) → Prop} (hF : Lasting F)
    (hheld : Held home p lock directory move.after) (hf : F move.after)
    (h : ∀ b s s', Rely home p move.after s → machine p s o b s' →
      Held home p lock directory s → F s → Held home p lock directory s' → F s' →
        Spec home p New (g b) Q c ⟨s, s', move.log ++ [⟨o, b⟩]⟩) :
    Spec home p New (io o >>= g) Q c move := by
  apply among_call
  intro b s s' hrely hstep
  have hs := hheld.rely hrely
  have hfs := hF _ _ hheld.sealed (hheld.same hrely) hf
  obtain ⟨hfair, hintact, hs', hsame⟩ := inside_step hs ho hstep
  exact ⟨⟨hfair, .inl hintact⟩, h b s s' hrely hstep hs hfs hs' (hF _ _ hs.sealed hsame hfs)⟩

/-- Operations under the lock, and what follows them. -/
theorem held_seq {m : Py κ α} (hm : Asks Inside m) {g : α → Py κ β}
    {Q : Except PyError β → κ → Move startup (Machine P) → Prop} (hF : Lasting F)
    (hheld : Held home p lock directory move.after) (hf : F move.after)
    (hok : ∀ a c' move' new, Held home p lock directory move'.after → F move'.after →
      move'.log = move.log ++ new → Runs (recorded startup) m c [] (.ok a) c' new →
        Spec home p New (g a) Q c' move')
    (herr : ∀ e c' move', Held home p lock directory move'.after → F move'.after →
      Q (.error e) c' move') :
    Spec home p New (m >>= g) Q c move := by
  apply wp_seq (spec_inside hm hF hheld hf)
  · intro a c' move' h
    obtain ⟨⟨hheld', hf'⟩, new, hlog, hruns⟩ := h
    exact hok a c' move' new hheld' hf' hlog hruns
  · intro e c' move' h
    exact herr e c' move' h.1.1 h.1.2

theorem prefix_append_drop {done bytes data : List UInt8} (hdone : done <+: data)
    (hbytes : bytes <+: data.drop done.length) : done ++ bytes <+: data := by
  obtain ⟨rest, rfl⟩ := hdone
  rw [List.drop_left] at hbytes
  exact (List.prefix_append_right_inj done).mpr hbytes

theorem Reading.advance {fd : Fd .state} {i : Nat} {file : Inode} {done bytes : List UInt8}
    (h : Reading home p fd i file done s) (hbytes : bytes <+: file.data.drop done.length) :
    Reading home p fd i file (done ++ bytes) { s with
      readers := Function.update s.readers (p, fd.number)
        (some (i, done.length + bytes.length)) } where
  reader := by simp
  inode := h.inode
  read := prefix_append_drop h.read hbytes

/-- Nothing is missing at the end of the file. -/
theorem spec_read_chunks {fd : Fd .state} {i : Nat} {file : Inode} (hF : Lasting F) (rounds : Nat)
    {done : List UInt8} {move : Move startup (Machine P)}
    (hheld : Held home p lock directory move.after) (hf : F move.after)
    (hreading : Reading home p fd i file done move.after) :
    Spec home p New (read_chunks fd rounds done) (fun r _ move' =>
      (Held home p lock directory move'.after ∧ F move'.after) ∧ ∀ data, r = .ok data →
        data.length ≤ MAX_STATE_BYTES → MAX_STATE_BYTES < rounds + done.length →
          data = file.data) c move := by
  induction rounds generalizing done move with
  | zero =>
    refine ⟨⟨hheld, hf⟩, ?_⟩
    intro data heq hshort hlong
    obtain rfl := Except.ok.inj heq
    omega
  | succ rounds ih =>
    unfold read_chunks
    split
    · next hsize =>
      rw [Spec, wp_bind]
      refine held_call ?_ hF hheld hf ?_
      · trivial
      intro b s s' hrely hstep _ _ hs' hf'
      have hreading' := hreading.rely hheld hrely
      cases b with
      | error e => exact ⟨⟨hs', hf'⟩, fun _ h => (by cases h)⟩
      | ok bytes =>
        obtain ⟨j, offset, hreader, _, hbytes, hend, rfl⟩ := hstep
        rw [hreading'.reader] at hreader
        obtain ⟨rfl, rfl⟩ := Prod.mk.inj (Option.some.inj hreader)
        rw [hreading'.inode] at hbytes hend
        simp only [os, Except.mapError, wp_lift]
        split
        · next hempty =>
          -- the end of the file
          refine ⟨⟨hs', hf'⟩, ?_⟩
          intro data heq _ _
          obtain rfl := Except.ok.inj heq
          have hall : file.data.length ≤ done.length := by
            obtain hzero | hall := hend (List.isEmpty_iff.mp hempty)
            · omega
            · exact hall
          exact hreading.read.eq_of_length_le hall
        · next hmore =>
          apply wp_mono (ih hs' hf' (hreading'.advance hbytes)) (fun _ h => h)
          intro r c' move' h
          refine ⟨h.1, ?_⟩
          intro data heq hshort hlong
          apply h.2 data heq hshort
          have hpos : 0 < bytes.length := by
            cases bytes with
            | nil => simp at hmore
            | cons _ _ => simp
          rw [List.length_append]
          omega
    · next hsize =>
      refine ⟨⟨hheld, hf⟩, ?_⟩
      intro data heq hshort _
      obtain rfl := Except.ok.inj heq
      omega

theorem mapError_eq_ok {ε δ : Type} {x : Except ε α} {f : ε → δ} {a : α} :
    x.mapError f = .ok a ↔ x = .ok a := by
  cases x <;> simp [Except.mapError]

theorem length_of_decode {json : Json} {data : List UInt8} {record : Record}
    (h : decode_state json data = .ok record) : data.length ≤ MAX_STATE_BYTES :=
  (decode_state_iff.mp h).2.1

/-- What is decoded is the file. -/
theorem spec_read_record {json : Json} {fd : Fd .state} {i : Nat} {file : Inode} (hF : Lasting F)
    (hheld : Held home p lock directory move.after) (hf : F move.after)
    (hreading : Reading home p fd i file [] move.after) :
    Spec home p New (read_record json fd) (fun r _ move' =>
      (Held home p lock directory move'.after ∧ F move'.after) ∧ ∀ record, r = .ok record →
        decode_state json file.data = .ok record) c move := by
  have hfail : ∀ e, ∀ record, (.error e : Except PyError Record) = .ok record →
      decode_state json file.data = .ok record := fun _ _ h => (by cases h)
  unfold read_record
  rw [Spec, wp_bind]
  refine held_call ?_ hF hheld hf ?_
  · trivial
  intro b s s' hrely hstep hs hfs _ _
  obtain rfl := hstep
  have hreading' := hreading.rely hheld hrely
  cases b with
  | error e => exact ⟨⟨hs, hfs⟩, hfail _⟩
  | ok info =>
    simp only [os, Except.mapError, wp_lift]
    refine wp_lift_seq ?_ fun e => ⟨⟨hs, hfs⟩, hfail e⟩
    intro _ _
    refine wp_bail_seq ?_ ⟨⟨hs, hfs⟩, hfail _⟩
    intro _
    apply wp_seq (spec_read_chunks hF _ hs hfs hreading')
    · intro data c₁ move₁ h
      obtain ⟨⟨hheld₁, hf₁⟩, hdata⟩ := h
      apply held_seq (inside_fstat fd) hF hheld₁ hf₁
      · intro after c₂ move₂ _ hheld₂ hf₂ _ _
        refine wp_lift_seq ?_ fun e => ⟨⟨hheld₂, hf₂⟩, hfail e⟩
        intro _ _
        refine wp_bail_seq ?_ ⟨⟨hheld₂, hf₂⟩, hfail _⟩
        intro _
        refine ⟨⟨hheld₂, hf₂⟩, ?_⟩
        intro record hrecord
        have hdecode := mapError_eq_ok.mp hrecord
        rw [← hdata data rfl (length_of_decode hdecode) (by simp)]
        exact hdecode
      · exact fun e _ _ hheld hf => ⟨⟨hheld, hf⟩, hfail e⟩
    · exact fun e _ _ h => ⟨h.1, hfail e⟩

/-- What is loaded is the state file. -/
theorem spec_load {json : Json} (hF : Lasting F)
    (hheld : Held home p lock directory move.after) (hf : F move.after) :
    Spec home p New (load json directory) (fun r _ move' =>
      (Held home p lock directory move'.after ∧ F move'.after) ∧
        ∀ record, r = .ok (some record) → ∃ data,
          move.after.volume.content (home, STATE_FILE) = some data ∧
            decode_state json data = .ok record) c move := by
  have hfail : ∀ e, ∀ record, (.error e : Except PyError (Option Record)) = .ok (some record) →
      ∃ data, move.after.volume.content (home, STATE_FILE) = some data ∧
        decode_state json data = .ok record := fun _ _ h => (by cases h)
  unfold load os_open
  rw [Spec, wp_bind, wp_attempt]
  refine held_call ?_ hF hheld hf ?_
  · trivial
  intro b s s' hrely hstep hs hfs hs' hfs'
  cases b with
  | error e =>
    simp only [os, Except.mapError, wp_bind, wp_lift]
    split
    · exact ⟨⟨hs', hfs'⟩, fun _ h => (by cases h)⟩
    · exact ⟨⟨hs', hfs'⟩, hfail _⟩
  | ok n =>
    obtain ⟨_, _, place, i, hfd, hplace, hentry, rfl⟩ := hstep
    obtain rfl := Option.some.inj hfd
    simp only [Machine.place, hs.directory, Option.map_some, Option.some.injEq] at hplace
    subst hplace
    have hcontent : move.after.volume.content (home, STATE_FILE) =
        some (s.volume.inode i).data := by
      rw [← ((hheld.same hrely).keeps home).content (hheld.sealed home), Volume.content, hentry]
      rfl
    simp only [os, Except.mapError, wp_bind, wp_lift, wp_pure]
    have hreading : Reading home p ⟨n⟩ i (s.volume.inode i) []
        { s with readers := Function.update s.readers (p, n) (some (i, 0)) } :=
      ⟨by simp, rfl, List.nil_prefix⟩
    apply wp_always (spec_read_record hF hs' hfs' hreading)
    intro r c₁ move₁ h
    obtain ⟨⟨hheld₁, hf₁⟩, hrecord⟩ := h
    apply wp_mono (spec_inside (inside_close_state _) hF hheld₁ hf₁) (fun _ h => h)
    intro u c₂ move₂ hclosed
    obtain ⟨⟨hheld₂, hf₂⟩, _⟩ := hclosed
    cases u with
    | error e => exact ⟨⟨hheld₂, hf₂⟩, hfail e⟩
    | ok _ =>
      cases r with
      | error e => exact ⟨⟨hheld₂, hf₂⟩, hfail e⟩
      | ok record =>
        refine ⟨⟨hheld₂, hf₂⟩, ?_⟩
        intro record' heq
        obtain rfl := Option.some.inj (Except.ok.inj heq)
        exact ⟨_, hcontent, hrecord record rfl⟩

/-! ## The hardware -/

theorem encode_utf8_inj {a b : String} (h : encode_utf8 a = encode_utf8 b) : a = b := by
  have hdecode := decode_encode_utf8 a
  rw [h, decode_encode_utf8] at hdecode
  exact (Option.some.inj hdecode).symm

/-- A policy is read as the text that was printed, less its newline. -/
theorem policy_of_printed {values : List String}
    (hvalues : ∀ value ∈ values, value.toList.getLast? ≠ some '\n') {policy value : String}
    (h : policy_of values (encode_utf8 (policy ++ "\n")) = some value) : policy = value := by
  have hmem := List.mem_of_find?_eq_some h
  have hprinted := List.find?_some h
  simp only [Bool.or_eq_true, decide_eq_true_eq] at hprinted
  obtain hplain | hline := hprinted
  · have heq := encode_utf8_inj hplain
    have hlast := hvalues value hmem
    rw [← heq] at hlast
    simp at hlast
  · have heq := congrArg String.toList (encode_utf8_inj hline)
    simp only [String.toList_append] at heq
    exact String.toList_inj.mp (List.append_cancel_right heq)

theorem policies_plain (allow_unknown : Bool) :
    ∀ value ∈ POLICIES ++ if allow_unknown then ["unknown"] else [],
      value.toList.getLast? ≠ some '\n' := by
  cases allow_unknown <;> decide

/-- What `ugreenctl` read from the hardware is the policy of the hardware. -/
theorem among_get (backend : Backend) (allow_unknown : Bool) :
    wp ((machine p).among (Rely home p)) (fun _ => True) (backend_get backend allow_unknown)
      (fun r _ move' => ∀ policy, r = .ok policy → move'.after.hardware = policy) c move := by
  have hrun : wp ((machine p).among (Rely home p)) (fun _ => True)
      (backend_run backend ["power", "startup", "get"] false) (fun r _ move' =>
        ∀ data, r = .ok data → data = encode_utf8 (move'.after.hardware ++ "\n")) c move := by
    apply among_call
    intro b s s' _ hstep
    refine ⟨trivial, ?_⟩
    simp only [machine, Bool.false_eq_true, if_false, List.append_nil, is_set_get] at hstep
    obtain ⟨rfl, hprints⟩ := hstep
    have hget : is_get (backend.front ++ ["power", "startup", "get"]) = true := by
      simp [is_get, List.isSuffixOf]
    cases b with
    | error text => exact fun _ h => (by cases h)
    | ok completed =>
      refine wp_bail_seq ?_ fun _ h => (by cases h)
      intro hcode data hdata
      obtain rfl := Except.ok.inj hdata
      exact hprints hget (not_not.mp hcode)
  apply wp_seq hrun
  · intro data c' move' hdata
    split
    · next value hvalue =>
      intro policy heq
      obtain rfl := Except.ok.inj heq
      rw [hdata data rfl] at hvalue
      exact policy_of_printed (policies_plain allow_unknown) hvalue
    · exact fun _ h => (by cases h)
  · exact fun e _ _ _ _ h => (by cases h)

theorem spec_get (backend : Backend) (allow_unknown : Bool) (hF : Lasting F)
    (hheld : Held home p lock directory move.after) (hf : F move.after) :
    Spec home p New (backend_get backend allow_unknown) (fun r c' move' =>
      ((Held home p lock directory move'.after ∧ F move'.after) ∧
        ∃ new, move'.log = move.log ++ new ∧
          Runs (recorded startup) (backend_get backend allow_unknown) c [] r c' new) ∧
        ∀ policy, r = .ok policy → move'.after.hardware = policy) c move :=
  wp_also (spec_inside (inside_get backend allow_unknown) hF hheld hf)
    (among_get backend allow_unknown)

end UgreenNas.Startup
