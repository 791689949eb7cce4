import UgreenNas.Effect.Each
import UgreenNas.Led.Sysfs.Executable

/-! # Requests over several LEDs

    `led_execute` reads every LED of a request and lets every patch through
    the preflight before the first write.  Here such a request meets the
    driver that stores what is written: what the preflights saw is still so
    when the patch is carried out, the LEDs before it having files of their
    own.
-/

namespace UgreenNas.Led.Sysfs

open DiskMap Effect Effect.Proc

variable {k : Context} {index : Nat} {target : Target} {before : Value} {patch : Patch}
  {directory : Text} {c c' : Directories} {m m' : Machine k.root}

/-! ## One LED -/

/-- The files of an LED let a patch through its preflight. -/
structure Preflighted (k : Context) (target : Target) (files : Files) (before : Value)
    (patch : Patch) : Prop where
  accepted : validate_state_patch k target before patch = .ok ()
  registered : ∃ triggers, text_in files "trigger" 1024 = .ok triggers ∧
    trigger_available triggers (required_trigger (mode_after before patch)) = true

theorem preflight_target_does (hn76 : k.n76 = true)
    (h : Does stored (preflight_target k index target before patch) c m () c' m') :
    ∃ directory, Bound k target m directory ∧ Fresh c index directory ∧
      Function.update c index directory = c' ∧ m = m' ∧
      Preflighted k target (m.files directory) before patch := by
  obtain ⟨_, c₁, m₁, hvalidate, h⟩ := h.of_bind
  obtain ⟨haccepted, rfl, rfl⟩ := hvalidate.of_lift
  obtain ⟨_, c₁, m₁, hverify, h⟩ := h.of_bind
  obtain ⟨directory, hbound, hfresh, rfl, rfl⟩ := verify_target_does hverify
  rw [if_neg (not_not.mpr hn76)] at h
  obtain ⟨found, c₁, m₁, hnode, h⟩ := h.of_bind
  cases hnode
  rw [Function.update_self] at h
  obtain ⟨triggers, c₁, m₁, hread, h⟩ := h.of_bind
  obtain ⟨htriggers, rfl, rfl⟩ := read_text_does hread.of_mapError
  obtain ⟨havailable, rfl, rfl⟩ := h.of_bail
  exact ⟨directory, hbound, hfresh, rfl, rfl, haccepted, triggers, htriggers, not_not.mp havailable⟩

theorem does_preflight_target (hn76 : k.n76 = true) (hbound : Bound k target m directory)
    (hknown : c index = directory) (h : Preflighted k target (m.files directory) before patch) :
    Does stored (preflight_target k index target before patch) c m () c m := by
  have hsame : Function.update c index directory = c := by
    rw [← hknown]
    exact Function.update_eq_self ..
  have hverify := does_verify_target hbound (.inr hknown : Fresh c index directory)
  rw [hsame] at hverify
  obtain ⟨triggers, htriggers, havailable⟩ := h.registered
  unfold preflight_target
  rw [h.accepted]
  refine (does_lift ()).bind (hverify.bind ?_)
  rw [if_neg (not_not.mpr hn76)]
  refine (does_node index).bind ?_
  rw [hknown]
  refine (Does.mapError (does_read_text htriggers)).bind ?_
  exact does_bail (not_not.mpr havailable) _

/-- An LED that was read and whose patch passed the preflight. -/
structure Ready (k : Context) (c : Directories) (m : Machine k.root) (index : Nat) (target : Target)
    (before : Value) (patch : Patch) (directory : Text) : Prop where
  bound : Bound k target m directory
  known : c index = directory
  seen : Seen k target (m.files directory) before
  passed : Preflighted k target (m.files directory) before patch

/-- The writes to another LED change nothing. -/
theorem Ready.only {other : Text} (h : Ready k c m index target before patch directory)
    (honly : Only other m m') (hne : directory ≠ other) :
    Ready k c m' index target before patch directory where
  bound := h.bound.only honly.links (by rw [honly.files directory hne])
  known := h.known
  seen := by
    rw [honly.files directory hne]
    exact h.seen
  passed := by
    rw [honly.files directory hne]
    exact h.passed

/-- `apply` comes to the writes, with the mode of the LED filled in. -/
theorem Ready.does_apply (hn76 : k.n76 = true)
    (h : Ready k c m index target before patch directory) {after : Value} :
    Does stored (apply_target k index target patch) c m after c' m' ↔
      Does stored (carry_out k index target before (effective k before patch)) c m after c' m' := by
  have hsame : Function.update c index directory = c := by
    rw [← h.known]
    exact Function.update_eq_self ..
  have hread := does_read_target h.bound (.inr h.known : Fresh c index directory) h.seen
  rw [hsame] at hread
  have hpreflight := does_preflight_target hn76 h.bound h.known h.passed
  have hvalidate : validate_target_patch (some target) patch = .ok () :=
    (validate_target_patch_ok_iff target patch).mpr (state_patch hn76 h.passed.accepted).target
  have hgpio : ¬ contradicts k patch = true := by
    unfold contradicts
    rw [not_gpio hn76]
    exact Bool.false_ne_true
  unfold apply_target
  rw [hvalidate]
  constructor
  · intro hdoes
    obtain ⟨_, c₁, m₁, hlift, hchecked⟩ := hdoes.of_bind
    obtain ⟨-, rfl, rfl⟩ := hlift.of_lift
    obtain ⟨-, hrest⟩ := Does.of_bail_then hchecked
    obtain ⟨value, c₂, m₂, hread', hrest'⟩ := hrest.of_bind
    obtain ⟨hvalue, hc, hm⟩ := hread.unique hread'
    rw [hvalue, hc, hm] at hrest'
    obtain ⟨_, c₃, m₃, hpreflight', hlast⟩ := hrest'.of_bind
    obtain ⟨-, hc, hm⟩ := hpreflight.unique hpreflight'
    rw [hc, hm] at hlast
    exact hlast
  · intro hdoes
    exact (does_lift ()).bind (Does.bail_then hgpio (hread.bind (hpreflight.bind hdoes)))

/-- What the readback takes for the state of an LED is in its files. -/
theorem read_back_does {attempts : Nat} {after : Value}
    (h : Does stored (read_back k index target patch attempts) c m after c' m') :
    ∃ directory, Bound k target m directory ∧ Seen k target (m.files directory) after := by
  induction attempts generalizing c with
  | zero =>
    obtain ⟨directory, hbound, -, -, -, hseen⟩ := read_target_does h
    exact ⟨directory, hbound, hseen⟩
  | succ attempts ih =>
    obtain ⟨value, c₁, m₁, hread, h⟩ := h.of_bind
    obtain ⟨directory, hbound, -, -, rfl, hseen⟩ := read_target_does hread
    by_cases hdone : ¬ patch.has PATCH_BRIGHTNESS = true ∨ value.brightness = patch.value.brightness
    · rw [if_pos hdone] at h
      cases h
      exact ⟨directory, hbound, hseen⟩
    · rw [if_neg hdone] at h
      obtain ⟨_, c₂, m₂, hsleep, h⟩ := h.of_bind
      obtain ⟨-, rfl, rfl⟩ := hsleep.of_ask
      exact ih h

theorem Bound.unique {directory' : Text} (h : Bound k target m directory)
    (h' : Bound k target m directory') : directory' = directory :=
  Except.ok.inj (h'.link.symm.trans h.link)

/-- Where the mode says otherwise than the brightness, the LED is not read as
    the patch wants it. -/
theorem Contradictory.not_carried_out (hn76 : k.n76 = true) (hcontra : Contradictory target before patch)
    (hready : Ready k c m index target before patch directory) {after : Value} :
    ¬ Does stored (carry_out k index target before (effective k before patch)) c m after c' m' := by
  intro hdoes
  obtain ⟨hbinary, hunnamed, hbrightness, hother⟩ := hcontra
  have hnamed := effective_has_mode hn76 before patch
  have heffective : (effective k before patch).value = { patch.value with mode := before.mode } := by
    unfold effective
    rw [if_pos ⟨hn76, by rw [hunnamed]; decide⟩]
  obtain ⟨m₁, hcolor, -, hfiles₁, hbound₁⟩ :=
    writes_color hn76 (effective k before patch) c m hready.bound hready.known
  obtain ⟨m₂, hbright, -, hfiles₂, hbound₂⟩ :=
    writes_brightness (fun _ => .inl hbinary : Settable target (effective k before patch))
      c m₁ hbound₁ hready.known
  obtain ⟨m₃, hmode, -, hfiles₃, hbound₃⟩ := writes_mode hn76 before hnamed c m₂ hbound₂ hready.known
  obtain ⟨_, c₁, m₁', hcolor', hrest₁⟩ := hdoes.of_bind
  obtain ⟨-, hc, hm⟩ := hcolor.unique hcolor'
  rw [hc, hm] at hrest₁
  obtain ⟨_, c₂, m₂', hbright', hrest₂⟩ := hrest₁.of_bind
  obtain ⟨-, hc, hm⟩ := hbright.unique hbright'
  rw [hc, hm] at hrest₂
  obtain ⟨_, c₃, m₃', hmode', hrest₃⟩ := hrest₂.of_bind
  obtain ⟨-, hc, hm⟩ := hmode.unique hmode'
  rw [hc, hm] at hrest₃
  obtain ⟨value, c₄, m₄, hback, hrest₄⟩ := hrest₃.of_bind
  obtain ⟨hconfirmed, -⟩ := Does.of_bail_then hrest₄
  obtain ⟨directory', hbound', hseen⟩ := read_back_does hback
  rw [hbound₃.unique hbound', hfiles₃, hfiles₂, hfiles₁] at hseen
  -- what is read is the brightness of the mode
  obtain ⟨number, brightness, trigger, active, hnumber, hconfigured, -, -, rfl⟩ := hseen
  obtain ⟨initial, -, -, -, hinitial, -⟩ := hready.seen
  have hwritten := @written_brightness k target before (effective k before patch) _ hn76 _ hinitial
  have hmodes : (effective k before patch).value.mode = MODE_OFF ∨
      (effective k before patch).value.mode = MODE_ON := by
    rw [heffective]
    exact ((state_patch hn76 hready.passed.accepted).switched hunnamed).symm
  rw [if_pos hmodes] at hwritten
  have hsame : number = switch_number (effective k before patch) :=
    Except.ok.inj (hnumber.symm.trans hwritten)
  have hcached : ¬ (k.n76 ∧ target.max_brightness > 1) := by
    rw [hbinary]
    exact fun h => absurd h.2 (by decide)
  rw [configured_core hcached, hsame] at hconfigured
  -- and it is confirmed to be the one that was asked for
  have hasked : brightness = patch.value.brightness := by
    have hhas : (effective k before patch).has PATCH_BRIGHTNESS = true := by
      rw [effective_has (by decide)]
      exact hbrightness
    have hconfirmed := not_not.mp hconfirmed
    unfold confirmed at hconfirmed
    simp only [Bool.and_eq_true, Bool.or_eq_true, Bool.not_eq_true', decide_eq_true_eq, hhas]
      at hconfirmed
    have heq := hconfirmed.1.1.2.resolve_left (by decide)
    rw [heffective] at heq
    exact heq
  apply hother
  rw [← hasked, hconfigured]
  unfold switch_number core
  rw [heffective, if_pos hbinary]
  by_cases hon : before.mode = MODE_ON
  · simp [hon]
  · simp [hon]

/-- A patch that says nothing else than the mode of the LED is carried out, in
    the files of that LED only. -/
theorem Ready.executable (hn76 : k.n76 = true) (htarget : N76Target target)
    (h : Ready k c m index target before patch directory)
    (hconsistent : ¬ Contradictory target before patch) :
    ∃ after m', Does stored (apply_target k index target patch) c m after c m' ∧
      Only directory m m' := by
  have haccepted := (validate_target_patch_ok_iff target _).mp
    ((effective_accepted_iff hn76 htarget (state_patch hn76 h.passed.accepted)).mpr hconsistent)
  have hpatch := complete htarget haccepted (effective_has_mode hn76 before patch)
  obtain ⟨after, m', hdoes, honly⟩ :=
    @does_carry_out k target before _ hn76 htarget hpatch index directory c m h.bound h.known
      before h.seen
  exact ⟨after, m', (h.does_apply hn76).mpr hdoes, honly⟩

/-- A patch that passed the preflight is executable unless its brightness
    contradicts the mode of the LED. -/
theorem Ready.apply_iff (hn76 : k.n76 = true) (htarget : N76Target target)
    (h : Ready k c m index target before patch directory) :
    (∃ after c' m', Does stored (apply_target k index target patch) c m after c' m') ↔
      ¬ Contradictory target before patch := by
  constructor
  · intro happly hcontra
    obtain ⟨after, c', m', hdoes⟩ := happly
    exact hcontra.not_carried_out hn76 h ((h.does_apply hn76).mp hdoes)
  · intro hconsistent
    obtain ⟨after, m', hdoes, -⟩ := h.executable hn76 htarget hconsistent
    exact ⟨after, c, m', hdoes⟩

/-! ## Directories that were learnt -/

/-- Whatever else is known of directories afterwards is what the links say. -/
def Learns (k : Context) (links : Text → Except Errno Text) (c c' : Directories) : Prop :=
  ∀ index, c' index = c index ∨ ∃ target, k.profile.leds[index]? = some target ∧
    links (k.root ++ "/class/leds/".toList ++ target.sysfs_name.toList) = .ok (c' index)

theorem Learns.refl (k : Context) (links : Text → Except Errno Text) (c : Directories) :
    Learns k links c c := fun _ => .inl rfl

theorem Learns.trans {links : Text → Except Errno Text} {c'' : Directories}
    (h : Learns k links c c') (h' : Learns k links c' c'') : Learns k links c c'' := by
  intro index
  rcases h' index with heq | hlearnt
  · rw [heq]
    exact h index
  · exact .inr hlearnt

theorem learns_update (htarget : k.profile.leds[index]? = some target)
    (hbound : Bound k target m directory) :
    Learns k m.links c (Function.update c index directory) := by
  intro other
  by_cases hindex : other = index
  · rw [hindex, Function.update_self]
    exact .inr ⟨target, htarget, hbound.link⟩
  · rw [Function.update_of_ne hindex]
    exact .inl rfl

/-- A directory that is known stays known. -/
theorem Learns.known (h : Learns k m.links c c') (htarget : k.profile.leds[index]? = some target)
    (hbound : Bound k target m directory) (hknown : c index = directory) : c' index = directory := by
  rcases h index with heq | ⟨target', htarget', hlink⟩
  · rw [heq]
    exact hknown
  · rw [htarget] at htarget'
    cases htarget'
    exact Except.ok.inj (hlink.symm.trans hbound.link)

/-! ## Requests -/

/-- An LED of a request: what was read of it, and the patch for it. -/
structure Request where
  id : Nat
  before : Value
  patch : Patch

def read_all (k : Context) (requests : List Request) : Fun (List Value) :=
  collect (fun r : Request => sysfs_read k r.id) requests

def preflight_all (k : Context) (requests : List Request) : Fun Unit :=
  each (fun r : Request => preflight k r.id r.before r.patch) requests

def apply_all (k : Context) (requests : List Request) : Fun (List Value) :=
  collect (fun r : Request => apply k r.id r.patch) requests

theorem find_some {id : Nat} (h : k.find id = some (index, target)) :
    k.profile.leds[index]? = some target ∧ target.id = id := by
  unfold Context.find Context.target_index at h
  cases hindex : k.profile.leds.findIdx? (fun target => target.id = id) with
  | none =>
    rw [hindex] at h
    cases h
  | some i =>
    rw [hindex] at h
    cases htarget : k.profile.leds[i]? with
    | none => simp [htarget] at h
    | some t =>
      simp [htarget] at h
      obtain ⟨rfl, rfl⟩ := h
      refine ⟨htarget, ?_⟩
      obtain ⟨hlt, hid, -⟩ := List.findIdx?_eq_some_iff_getElem.mp hindex
      rw [List.getElem?_eq_getElem hlt] at htarget
      cases htarget
      exact of_decide_eq_true hid

/-- An LED that was read. -/
structure WasRead (k : Context) (c : Directories) (m : Machine k.root) (r : Request) : Prop where
  led : ∃ index target directory, k.find r.id = some (index, target) ∧ Bound k target m directory ∧
    c index = directory ∧ Seen k target (m.files directory) r.before

theorem WasRead.learns {r : Request} (h : WasRead k c m r) (hlearns : Learns k m.links c c') :
    WasRead k c' m r := by
  obtain ⟨index, target, directory, hfind, hbound, hknown, hseen⟩ := h.led
  exact ⟨index, target, directory, hfind, hbound,
    hlearns.known (find_some hfind).1 hbound hknown, hseen⟩

theorem sysfs_read_does {r : Request} {value : Value}
    (h : Does stored (sysfs_read k r.id) c m value c' m') :
    m = m' ∧ Learns k m.links c c' ∧ (value = r.before → WasRead k c' m r) := by
  unfold sysfs_read at h
  cases hfind : k.find r.id with
  | none =>
    rw [hfind] at h
    cases h
  | some found =>
    obtain ⟨index, target⟩ := found
    rw [hfind] at h
    obtain ⟨directory, hbound, -, rfl, rfl, hseen⟩ := read_target_does h
    refine ⟨rfl, learns_update (find_some hfind).1 hbound, ?_⟩
    intro hvalue
    rw [hvalue] at hseen
    exact ⟨index, target, directory, hfind, hbound, Function.update_self .., hseen⟩

/-- All LEDs of a request are read as they are. -/
theorem read_all_does {requests : List Request}
    (h : Does stored (read_all k requests) c m (requests.map Request.before) c' m') :
    m = m' ∧ Learns k m.links c c' ∧ ∀ r ∈ requests, WasRead k c' m r := by
  induction requests generalizing c with
  | nil =>
    cases h
    exact ⟨rfl, Learns.refl k m.links _, fun r hr => absurd hr List.not_mem_nil⟩
  | cons r rest ih =>
    obtain ⟨value, c₁, m₁, hread, hrest⟩ := h.of_bind
    obtain ⟨rfl, hlearns, hwas⟩ := sysfs_read_does (r := r) hread
    obtain ⟨values, c₂, m₂, hread', hlast⟩ := hrest.of_bind
    cases hlast
    obtain ⟨rfl, hlearns', hall⟩ := ih hread'
    refine ⟨rfl, hlearns.trans hlearns', ?_⟩
    intro s hs
    rcases List.mem_cons.mp hs with rfl | hs
    · exact (hwas rfl).learns hlearns'
    · exact hall s hs

/-- An LED that was read and whose patch passed the preflight. -/
structure Prepared (k : Context) (c : Directories) (m : Machine k.root) (r : Request) : Prop where
  led : ∃ index target directory, k.find r.id = some (index, target) ∧
    Ready k c m index target r.before r.patch directory

theorem Prepared.learns {r : Request} (h : Prepared k c m r) (hlearns : Learns k m.links c c') :
    Prepared k c' m r := by
  obtain ⟨index, target, directory, hfind, hready⟩ := h.led
  exact ⟨index, target, directory, hfind, hready.bound,
    hlearns.known (find_some hfind).1 hready.bound hready.known, hready.seen, hready.passed⟩

theorem preflight_does (hn76 : k.n76 = true) {r : Request} (hread : WasRead k c m r)
    (h : Does stored (preflight k r.id r.before r.patch) c m () c' m') :
    m = m' ∧ Learns k m.links c c' ∧ Prepared k c' m r := by
  obtain ⟨index, target, directory, hfind, hbound, hknown, hseen⟩ := hread.led
  unfold preflight at h
  rw [hfind] at h
  obtain ⟨directory', hbound', -, rfl, rfl, hpassed⟩ := preflight_target_does hn76 h
  rw [hbound.unique hbound'] at hpassed ⊢
  have hlearns := @learns_update k index target directory c m (find_some hfind).1 hbound
  exact ⟨rfl, hlearns, ⟨index, target, directory, hfind, hbound, Function.update_self .., hseen,
    hpassed⟩⟩

/-- All patches of a request pass the preflight, and no LED is written. -/
theorem preflight_all_does (hn76 : k.n76 = true) {requests : List Request}
    (hread : ∀ r ∈ requests, WasRead k c m r)
    (h : Does stored (preflight_all k requests) c m () c' m') :
    m = m' ∧ Learns k m.links c c' ∧ ∀ r ∈ requests, Prepared k c' m r := by
  induction requests generalizing c with
  | nil =>
    cases h
    exact ⟨rfl, Learns.refl k m.links _, fun r hr => absurd hr List.not_mem_nil⟩
  | cons r rest ih =>
    obtain ⟨_, c₁, m₁, hfirst, hrest⟩ := h.of_bind
    obtain ⟨rfl, hlearns, hprepared⟩ := preflight_does hn76 (hread r List.mem_cons_self) hfirst
    have hread' : ∀ s ∈ rest, WasRead k c₁ m s :=
      fun s hs => (hread s (List.mem_cons_of_mem r hs)).learns hlearns
    obtain ⟨rfl, hlearns', hall⟩ := ih hread' hrest
    refine ⟨rfl, hlearns.trans hlearns', ?_⟩
    intro s hs
    rcases List.mem_cons.mp hs with rfl | hs
    · exact hprepared.learns hlearns'
    · exact hall s hs

/-! ### Several LEDs -/

theorem n76_names : ∀ model ∈ profiles, model.protocol = "sysfs-n76" →
    (model.leds.map fun target => target.sysfs_name).Nodup := by
  decide +kernel

/-- Different LEDs have different directories. -/
theorem Prepared.apart (hk : k.profile ∈ profiles) (hn76 : k.n76 = true) {r s : Request}
    (hids : r.id ≠ s.id) {index' : Nat} {target' : Target} {directory' : Text}
    (hfind : k.find r.id = some (index, target)) (hbound : Bound k target m directory)
    (hfind' : k.find s.id = some (index', target')) (hbound' : Bound k target' m directory') :
    directory' ≠ directory := by
  intro hsame
  rw [hsame] at hbound'
  have hnames : target'.sysfs_name.toList = target.sysfs_name.toList :=
    m.distinct _ _ _ hbound'.plain hbound.plain hbound'.link hbound.link
  have hnodup := n76_names k.profile hk (of_decide_eq_true hn76)
  have htargets : target' = target :=
    List.inj_on_of_nodup_map hnodup (Context.find_mem hfind') (Context.find_mem hfind)
      (String.toList_inj.mp hnames)
  apply hids
  rw [← (find_some hfind).2, ← (find_some hfind').2, htargets]

/-- The writes to one LED leave the others prepared. -/
theorem Prepared.only (hk : k.profile ∈ profiles) (hn76 : k.n76 = true) {r s : Request}
    (hids : r.id ≠ s.id) (hfind : k.find r.id = some (index, target))
    (hbound : Bound k target m directory) (h : Prepared k c m s) (honly : Only directory m m') :
    Prepared k c m' s := by
  obtain ⟨index', target', directory', hfind', hready⟩ := h.led
  have happart := Prepared.apart hk hn76 hids hfind hbound hfind' hready.bound
  exact ⟨index', target', directory', hfind', hready.only honly happart⟩

/-- The patch for an LED asks for another brightness than its mode has. -/
def Contradicted (k : Context) (r : Request) : Prop :=
  ∃ index target, k.find r.id = some (index, target) ∧ Contradictory target r.before r.patch

/-- The patch that is carried out for an LED passes the check of its target. -/
def Accepted (k : Context) (r : Request) : Prop :=
  ∃ index target, k.find r.id = some (index, target) ∧
    validate_target_patch (some target) (effective k r.before r.patch) = .ok ()

theorem contradicted_iff {r : Request} (hfind : k.find r.id = some (index, target)) :
    Contradicted k r ↔ Contradictory target r.before r.patch := by
  constructor
  · intro h
    obtain ⟨index', target', hfind', hcontra⟩ := h
    rw [hfind] at hfind'
    cases hfind'
    exact hcontra
  · intro hcontra
    exact ⟨index, target, hfind, hcontra⟩

theorem Prepared.accepted_iff (hk : k.profile ∈ profiles) (hn76 : k.n76 = true) {r : Request}
    (h : Prepared k c m r) : Accepted k r ↔ ¬ Contradicted k r := by
  obtain ⟨index, target, directory, hfind, hready⟩ := h.led
  rw [contradicted_iff hfind, ← effective_accepted_iff hn76 (find_n76 hk hn76 hfind)
    (state_patch hn76 hready.passed.accepted)]
  constructor
  · intro haccepted
    obtain ⟨index', target', hfind', hvalid⟩ := haccepted
    rw [hfind] at hfind'
    cases hfind'
    exact hvalid
  · intro hvalid
    exact ⟨index, target, hfind, hvalid⟩

theorem Prepared.apply_iff (hk : k.profile ∈ profiles) (hn76 : k.n76 = true) {r : Request}
    (h : Prepared k c m r) :
    (∃ after c' m', Does stored (apply k r.id r.patch) c m after c' m') ↔ ¬ Contradicted k r := by
  obtain ⟨index, target, directory, hfind, hready⟩ := h.led
  unfold apply
  rw [hfind, contradicted_iff hfind]
  exact hready.apply_iff hn76 (find_n76 hk hn76 hfind)

/-- The LEDs of a request are all written, or one of its patches contradicts
    the mode of its LED. -/
theorem apply_all_iff (hk : k.profile ∈ profiles) (hn76 : k.n76 = true) {requests : List Request}
    (hids : (requests.map Request.id).Nodup) (h : ∀ r ∈ requests, Prepared k c m r) :
    (∃ afters c' m', Does stored (apply_all k requests) c m afters c' m') ↔
      ∀ r ∈ requests, ¬ Contradicted k r := by
  induction requests generalizing m with
  | nil => exact iff_of_true ⟨[], c, m, rfl⟩ fun r hr => absurd hr List.not_mem_nil
  | cons r rest ih =>
    rw [List.map_cons, List.nodup_cons] at hids
    obtain ⟨index, target, directory, hfind, hready⟩ := (h r List.mem_cons_self).led
    have hn76_target := find_n76 hk hn76 hfind
    have hrest : ∀ {m'}, Only directory m m' → ∀ s ∈ rest, Prepared k c m' s := by
      intro m' honly s hs
      have hother : r.id ≠ s.id := fun heq => hids.1 (heq ▸ List.mem_map_of_mem hs)
      exact (h s (List.mem_cons_of_mem r hs)).only hk hn76 hother hfind hready.bound honly
    have happly : apply k r.id r.patch = apply_target k index target r.patch := by
      unfold apply
      rw [hfind]
    constructor
    · intro hdoes
      obtain ⟨afters, c', m', hdoes⟩ := hdoes
      obtain ⟨after, c₁, m₁, hfirst, hothers⟩ := Does.of_bind hdoes
      have hfirst : Does stored (apply k r.id r.patch) c m after c₁ m₁ := hfirst
      rw [happly] at hfirst
      have hconsistent := (hready.apply_iff hn76 hn76_target).mp ⟨after, c₁, m₁, hfirst⟩
      obtain ⟨_, m₂, hfirst', honly⟩ := hready.executable hn76 hn76_target hconsistent
      obtain ⟨-, hc, hm⟩ := hfirst'.unique hfirst
      obtain ⟨afters', c₂, m₃, hothers', -⟩ := hothers.of_bind
      rw [hc, hm] at hothers'
      have hall := (ih hids.2 (hrest honly)).mp ⟨afters', c₂, m₃, hothers'⟩
      intro s hs
      rcases List.mem_cons.mp hs with rfl | hs
      · rw [contradicted_iff hfind]
        exact hconsistent
      · exact hall s hs
    · intro hall
      have hconsistent := hall r List.mem_cons_self
      rw [contradicted_iff hfind] at hconsistent
      obtain ⟨after, m₁, hfirst, honly⟩ := hready.executable hn76 hn76_target hconsistent
      obtain ⟨afters, c', m', hothers⟩ :=
        (ih hids.2 (hrest honly)).mpr fun s hs => hall s (List.mem_cons_of_mem r hs)
      rw [← happly] at hfirst
      exact ⟨after :: afters, c', m', hfirst.bind (hothers.bind (does_pure _))⟩

/-! ### A machine -/

def plain_sys : Text := "/sys"

/-- The class devices of `/sys` are all LEDs of one N76 driver. -/
def plain_links (path : Text) : Except Errno Text :=
  let name := path.drop 16
  if "/sys/class/leds/".toList.isPrefixOf path then
    if name.length ≤ 255 then .ok ("/sys/devices/leds/".toList ++ name)
    else .error .ENAMETOOLONG
  else if "/device/driver/module".toList.isSuffixOf path then
    .ok "/sys/module/leds_mcu_n76e003_dh2600".toList
  else
    .error .ENOENT

/-- An LED that is on, in white. -/
def plain_files (name : Text) : Except Errno Text :=
  if name = ("max_brightness" : Text) then .ok ("254\n" : Text)
  else if name = ("brightness" : Text) then .ok ("1\n" : Text)
  else if name = ("trigger" : Text) then .ok ("none [normal] timer breath\n" : Text)
  else if name = ("color" : Text) then .ok ("white\n" : Text)
  else .error .ENOENT

theorem plain_links_ok {name directory : Text}
    (h : plain_links (plain_sys ++ "/class/leds/".toList ++ name) = .ok directory) :
    name.length ≤ 255 ∧ "/sys/devices/leds/".toList ++ name = directory := by
  have hpath : plain_sys ++ "/class/leds/".toList ++ name = "/sys/class/leds/".toList ++ name := rfl
  rw [hpath] at h
  unfold plain_links at h
  rw [if_pos (List.isPrefixOf_iff_prefix.mpr (List.prefix_append _ _))] at h
  have hdrop : List.drop 16 ("/sys/class/leds/".toList ++ name) = name :=
    @List.drop_left Char "/sys/class/leds/".toList name
  rw [hdrop] at h
  by_cases hlength : name.length ≤ 255
  · rw [if_pos hlength] at h
    exact ⟨hlength, Except.ok.inj h⟩
  · rw [if_neg hlength] at h
    cases h

def plain_machine : Machine plain_sys where
  links := plain_links
  files := fun _ => plain_files
  fits := by
    intro name directory _ h
    obtain ⟨hlength, rfl⟩ := plain_links_ok h
    rw [List.length_append]
    have hprefix : "/sys/devices/leds/".toList.length = 18 := by decide
    have hmax : PATH_MAX = 4096 := rfl
    omega
  distinct := by
    intro name name' directory _ _ h h'
    obtain ⟨-, rfl⟩ := plain_links_ok h
    obtain ⟨-, hsame⟩ := plain_links_ok h'
    exact (List.append_cancel_left hsame).symm

def dh2600 : Context where
  profile := n76_profile "dh2600-n76" "DH2600" n76_dh2600
  root := plain_sys
  strerror := fun _ => ""

def plain_directory (target : Target) : Text := "/sys/devices/leds/".toList ++ target.sysfs_name.toList

def white_on : Value := value_of (some MODE_ON) 1 (some COLOR_WHITE) (0, 0, false)

/-- The first LED is switched off, and the second one gets brightness 0. -/
def two_leds : List Request :=
  [{ id := 0, before := white_on, patch := ⟨PATCH_MODE, { mode := MODE_OFF }⟩ },
   { id := 1, before := white_on, patch := ⟨PATCH_BRIGHTNESS, { brightness := 0 }⟩ }]

def unlearnt : Directories := fun _ => []

def learnt : Directories :=
  Function.update (Function.update unlearnt 0 (plain_directory (dh2600_led "power" 0)))
    1 (plain_directory (dh2600_led "disk1" 1))

theorem plain_seen (target : Target) (hbinary : target.max_brightness = 1) :
    Seen dh2600 target plain_files white_on := by
  have hcached : ¬ (dh2600.n76 ∧ target.max_brightness > 1) := by
    rw [hbinary]
    exact fun h => absurd h.2 (by decide)
  have hcore : core target 1 = 1 := by
    unfold core
    split <;> decide
  refine ⟨1, 1, "none [normal] timer breath".toList, "normal".toList, by decide, ?_, by decide,
    by decide, ?_⟩
  · rw [configured_core hcached, hcore]
  · rw [hcore]
    decide

theorem plain_module : ∀ target ∈ n76_dh2600,
    plain_links (snprintf PATH_MAX (plain_directory target ++ ("/device/driver/module" : Text))) =
      .ok "/sys/module/leds_mcu_n76e003_dh2600".toList := by
  decide +kernel

theorem plain_paths : ∀ target ∈ n76_dh2600, '/' ∉ target.sysfs_name.toList ∧
    (plain_sys ++ "/class/leds/".toList ++ target.sysfs_name.toList).length < PATH_MAX ∧
    plain_links (plain_sys ++ "/class/leds/".toList ++ target.sysfs_name.toList) =
      .ok (plain_directory target) ∧
    plain_sys.isPrefixOf (plain_directory target) = true ∧
    ("/devices/" : Text).isPrefixOf ((plain_directory target).drop plain_sys.length) = true := by
  decide +kernel

theorem plain_bound {target : Target} (h : target ∈ n76_dh2600) :
    Bound dh2600 target plain_machine (plain_directory target) where
  plain := (plain_paths target h).1
  short := (plain_paths target h).2.1
  link := (plain_paths target h).2.2.1
  inside := (plain_paths target h).2.2.2.1
  device := (plain_paths target h).2.2.2.2
  driver := by
    unfold DriverBound
    rw [show plain_machine.links = plain_links from rfl, plain_module target h]
    exact ⟨by decide, by decide⟩
  maximum := by
    have hmaximum : number_in plain_files "max_brightness" = .ok 254 := by decide
    exact ⟨254, hmaximum, rfl⟩

def power : Target := dh2600_led "power" 0

def disk1 : Target := dh2600_led "disk1" 1

theorem power_mem : power ∈ n76_dh2600 := by decide

theorem disk1_mem : disk1 ∈ n76_dh2600 := by decide

/-- Both LEDs are read as on. -/
theorem two_leds_read :
    Does stored (read_all dh2600 two_leds) unlearnt plain_machine (two_leds.map Request.before)
      learnt plain_machine := by
  have hpower : Does stored (read_target dh2600 0 power) unlearnt plain_machine white_on
      (Function.update unlearnt 0 (plain_directory power)) plain_machine :=
    does_read_target (plain_bound power_mem) (.inl rfl) (plain_seen power rfl)
  have hdisk : Does stored (read_target dh2600 1 disk1)
      (Function.update unlearnt 0 (plain_directory power)) plain_machine white_on learnt plain_machine :=
    does_read_target (plain_bound disk1_mem) (.inl rfl) (plain_seen disk1 rfl)
  have hrest : Does stored (collect (fun r : Request => sysfs_read dh2600 r.id) two_leds.tail)
      (Function.update unlearnt 0 (plain_directory power)) plain_machine [white_on] learnt
      plain_machine := hdisk.bind (does_pure [white_on])
  exact hpower.bind (hrest.bind (does_pure _))

/-- Both patches pass the preflight. -/
theorem two_leds_preflight :
    Does stored (preflight_all dh2600 two_leds) learnt plain_machine () learnt plain_machine := by
  have hpower : Does stored (preflight dh2600 0 white_on ⟨PATCH_MODE, { mode := MODE_OFF }⟩) learnt
      plain_machine () learnt plain_machine := by
    have hpassed : Preflighted dh2600 power plain_files white_on ⟨PATCH_MODE, { mode := MODE_OFF }⟩ :=
      ⟨by decide, "none [normal] timer breath".toList, by decide, by decide⟩
    exact does_preflight_target (by decide) (plain_bound power_mem) rfl hpassed
  have hdisk : Does stored (preflight dh2600 1 white_on ⟨PATCH_BRIGHTNESS, { brightness := 0 }⟩) learnt
      plain_machine () learnt plain_machine := by
    have hpassed : Preflighted dh2600 disk1 plain_files white_on
        ⟨PATCH_BRIGHTNESS, { brightness := 0 }⟩ :=
      ⟨by decide, "none [normal] timer breath".toList, by decide, by decide⟩
    exact does_preflight_target (by decide) (plain_bound disk1_mem) rfl hpassed
  exact hpower.bind (hdisk.bind (does_pure ()))

/-! ### The result -/

theorem dh2600_mem : dh2600.profile ∈ profiles := by decide +kernel

end UgreenNas.Led.Sysfs
