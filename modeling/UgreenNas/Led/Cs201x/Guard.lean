import UgreenNas.Led.Cs201x.Calm

/-! # Guards and snapshots

    What a guard or a snapshot says about the chip when it succeeds.  Both
    are calm, so the same is true when they are done.
-/

namespace UgreenNas.Led.Cs201x

open Effect Effect.Proc

variable {c : Context} {d : Device}

theorem same_identity_refl {a : Identity} (h : is_exact a = true) : same_identity a a = true := by
  unfold is_exact at h
  unfold same_identity
  cases hp : a.profile with
  | none => simp [hp] at h
  | some p => simp

/-! ## Runtime registers -/

section runtime

theorem sane_base_iff (base : Nat) :
    sane_base base = true ↔ 0x100 ≤ base ∧ base ≤ 0xfff0 ∧ base % 16 = 0 := by
  simp [sane_base, and_assoc]

/-- None of the runtime ports is a configuration port, and none wraps. -/
theorem runtime_port (h : sane_base d.base = true) {offset : Nat} (hoffset : offset ≤ 12) :
    (d.base + offset) % 65536 = d.base + offset ∧ d.base + offset ≠ CS_INDEX ∧
      d.base + offset ≠ CS_VALUE := by
  obtain ⟨hlow, hhigh, -⟩ := (sane_base_iff d.base).mp h
  refine ⟨by omega, ?_, ?_⟩
  · unfold CS_INDEX
    omega
  · unfold CS_VALUE
    omega

theorem port_command (h : sane_base d.base = true) : d.port ((d.base + 1) % 65536) = .other := by
  obtain ⟨hmod, hindex, hvalue⟩ := @runtime_port d h 1 (by omega)
  rw [hmod]
  unfold Device.port
  rw [if_neg hindex, if_neg hvalue, if_neg (by omega), if_neg (by omega)]

theorem port_address (h : sane_base d.base = true) {byte : Nat} (hbyte : byte < 4) :
    d.port ((d.base + 4 + byte) % 65536) = .address byte := by
  obtain ⟨hmod, hindex, hvalue⟩ := @runtime_port d h (4 + byte) (by omega)
  rw [← Nat.add_assoc] at hmod hindex hvalue
  rw [hmod]
  unfold Device.port
  rw [if_neg hindex, if_neg hvalue, if_pos (by omega)]
  congr 1
  omega

theorem port_data (h : sane_base d.base = true) : d.port ((d.base + 8) % 65536) = .data := by
  obtain ⟨hmod, hindex, hvalue⟩ := @runtime_port d h 8 (by omega)
  rw [hmod]
  unfold Device.port
  rw [if_neg hindex, if_neg hvalue, if_neg (by omega), if_pos rfl]

theorem calm_address_bytes (h : Bound d c) (hsane : sane_base d.base = true) (reg : Nat)
    {bytes : List Nat} (hbytes : ∀ byte ∈ bytes, byte < 4) :
    Calm (address_bytes d.base reg bytes) (fun _ c' d' => c' = c ∧ ∀ byte,
      d'.latch byte = if byte ∈ bytes then UInt8.ofNat (reg / 256 ^ byte) else d.latch byte)
      c d := by
  induction bytes generalizing d with
  | nil => exact .pure h ⟨rfl, fun byte => by simp⟩
  | cons byte rest ih =>
    have hport := port_address hsane (hbytes byte List.mem_cons_self)
    refine (calm_port_write h (by simp [hport]) (by simp [hport])).bind ?_
    rintro _ c₁ d₁ hstays₁ ⟨rfl, rfl⟩
    have hbase := hstays₁.quiet.base
    have hrest := ih hstays₁.bound (by rw [hbase]; exact hsane)
      fun b hb => hbytes b (List.mem_cons_of_mem _ hb)
    rw [hbase] at hrest
    refine hrest.mono ?_
    rintro _ c₂ d₂ - ⟨rfl, hlatch⟩
    refine ⟨rfl, fun b => ?_⟩
    have hwritten : (d.write ((d.base + 4 + byte) % 65536)
        (UInt8.ofNat (reg / 256 ^ byte))).latch =
          Function.update d.latch byte (UInt8.ofNat (reg / 256 ^ byte)) := by
      simp only [Device.write, hport]
    rw [hlatch b, hwritten]
    by_cases hb : b = byte
    · subst hb
      simp
    · simp [hb]

/-- With permission, `address` selects the register. -/
theorem calm_address (h : Bound d c) (hpermission : c.runtime_permission = true) {reg : Nat}
    (hreg : reg < 2 ^ 32) :
    Calm (address reg) (fun _ c' d' => c' = c ∧ d'.selected = reg) c d := by
  obtain ⟨hbase, hsane⟩ := h hpermission
  refine (Calm.ctx h).bind ?_
  rintro _ c₁ d₁ hstays₁ ⟨rfl, rfl, rfl⟩
  have hport := port_command hsane
  rw [← hbase] at hport
  refine (calm_port_write h (by simp [hport]) (by simp [hport])).bind ?_
  rintro _ c₂ d₂ hstays₂ ⟨rfl, rfl⟩
  have hbytes := calm_address_bytes hstays₂.bound (by rw [hstays₂.quiet.base]; exact hsane) reg
    (show ∀ byte ∈ [3, 2, 1, 0], byte < 4 by decide)
  rw [hstays₂.quiet.base, ← hbase] at hbytes
  refine hbytes.mono ?_
  rintro _ c₃ d₃ - ⟨rfl, hlatch⟩
  refine ⟨rfl, ?_⟩
  simp only [Device.selected, hlatch, List.mem_cons, List.not_mem_nil, Nat.reduceEqDiff, or_false,
    or_true, if_true, UInt8.toNat_ofNat']
  omega

/-- Reading a register: the value is that of the register. -/
theorem calm_ec_read (h : Bound d c) (hpermission : c.runtime_permission = true) {reg : Nat}
    (hreg : reg < 2 ^ 32) :
    Calm (ec_read reg) (fun value c' _ => c' = c ∧ value = d.mem reg) c d := by
  refine (calm_address h hpermission hreg).bind ?_
  rintro _ c₁ d₁ hstays₁ ⟨rfl, hselected⟩
  refine (calm_pause_ms hstays₁.bound 1).bind ?_
  rintro _ c₂ d₂ hstays₂ ⟨rfl, rfl⟩
  refine (Calm.ctx hstays₁.bound).bind ?_
  rintro _ c₃ d₃ hstays₃ ⟨rfl, rfl, rfl⟩
  refine (calm_port_read hstays₁.bound).mono ?_
  rintro value c₄ d₄ - ⟨rfl, rfl, hreads⟩
  obtain ⟨hbase, hsane⟩ := hstays₁.bound hpermission
  rw [Device.reads, hbase, port_data hsane] at hreads
  refine ⟨rfl, ?_⟩
  rw [hreads, hselected, hstays₁.quiet.mem]

end runtime

/-! ## The guard -/

theorem calm_acquire (h : Bound d c) (hsane : sane_base d.base = true) :
    Calm (acquire d.base) (fun _ c' _ => c'.runtime_permission = true) c d := by
  refine (Calm.ctx h).bind ?_
  rintro _ c₁ d₁ hstays₁ ⟨rfl, rfl, rfl⟩
  by_cases hpermission : c₁.runtime_permission = true
  · simp only [hpermission, if_true]
    exact .pure h hpermission
  · simp only [hpermission]
    refine (calm_owners h d₁.base).mapError.bind ?_
    rintro _ c₂ d₂ hstays₂ ⟨rfl, rfl⟩
    refine (calm_permission h d₂.base 13 true).mapError.bind ?_
    rintro _ c₃ d₃ hstays₃ ⟨rfl, rfl⟩
    refine (Calm.update rfl fun _ => ⟨rfl, hsane⟩).mono ?_
    rintro _ c₄ d₄ - ⟨rfl, -⟩
    rfl

/-- A guard that succeeds has seen the flow, and the expected one. -/
theorem calm_guard_flow (h : Bound d c) (writing : Bool) (expected_flow : Option UInt8) :
    Calm (guard_flow writing expected_flow) (fun flow c' _ => flow = d.flow ∧ flow ≤ 1 ∧
      (∀ expected ∈ expected_flow, flow = expected) ∧ c'.runtime_permission = true ∧
      c'.confirmed = true) c d := by
  refine (Calm.update rfl h).bind ?_
  rintro _ c₁ d₁ hstays₁ ⟨hc₁, rfl⟩
  refine (Calm.ctx hstays₁.bound).bind ?_
  rintro _ c₂ d₂ hstays₂ ⟨rfl, rfl, rfl⟩
  refine (Calm.bail hstays₁.bound).bind ?_
  rintro _ c₃ d₃ hstays₃ ⟨rfl, rfl, -⟩
  refine (calm_detect hstays₁.bound).bind ?_
  rintro identity c₄ d₄ hstays₄ ⟨rfl, rfl⟩
  refine (Calm.bail hstays₁.bound).bind ?_
  rintro _ c₅ d₅ hstays₅ ⟨rfl, rfl, -⟩
  refine (calm_owners hstays₁.bound _).mapError.bind ?_
  rintro _ c₆ d₆ hstays₆ ⟨rfl, rfl⟩
  refine (calm_probe hstays₁.bound).mapError.bind ?_
  rintro base c₇ d₇ hstays₇ ⟨rfl, hsane⟩
  refine (Calm.bail hstays₇.bound).bind ?_
  rintro _ c₈ d₈ hstays₈ ⟨rfl, rfl, -⟩
  have hacquire := calm_acquire hstays₇.bound (by rw [hstays₇.quiet.base]; exact hsane)
  rw [hstays₇.quiet.base] at hacquire
  refine hacquire.bind ?_
  rintro _ c₉ d₉ hstays₉ hpermission
  refine (calm_ec_read hstays₉.bound hpermission (by decide)).mapError.bind ?_
  rintro flow c₁₀ d₁₀ hstays₁₀ ⟨rfl, rfl⟩
  refine (Calm.bail hstays₁₀.bound).bind ?_
  rintro _ c₁₁ d₁₁ hstays₁₁ ⟨rfl, rfl, hpublished⟩
  refine (Calm.bail hstays₁₀.bound).bind ?_
  rintro _ c₁₂ d₁₂ hstays₁₂ ⟨rfl, rfl, hexpected⟩
  refine (Calm.update rfl hstays₁₀.bound).bind ?_
  rintro _ c₁₃ d₁₃ hstays₁₃ ⟨rfl, rfl⟩
  have hflow : d₉.mem CS_FLOW = _ := (hstays₇.trans hstays₉).quiet.flow
  rw [hflow] at hpublished hexpected ⊢
  refine .pure hstays₁₃.bound ⟨rfl, ?_, ?_, hpermission, rfl⟩
  · exact UInt8.not_lt.mp hpublished
  · intro expected hmem
    by_contra hne
    exact hexpected ⟨expected, hmem, hne⟩

theorem calm_guard (h : Bound d c) (writing : Bool) :
    Calm (guard writing) (fun _ c' _ => d.flow = 1 ∧ c'.runtime_permission = true ∧
      c'.confirmed = true) c d := by
  refine (calm_guard_flow h writing (some 1)).bind ?_
  rintro flow c₁ d₁ hstays₁ ⟨rfl, -, hexpected, hpermission, hconfirmed⟩
  exact .pure hstays₁.bound ⟨hexpected 1 rfl, hpermission, hconfirmed⟩

/-! ## Snapshots -/

theorem reg_address_lt {id : Nat} (hid : id < 4) (field : Field) :
    reg_address id field < 2 ^ 32 := by
  cases field <;> simp [reg_address, Field.register, Field.is_rgb] <;> omega

theorem calm_read_fields (h : Bound d c) (hpermission : c.runtime_permission = true) {id : Nat}
    (hid : id < 4) (fields : List Field) (raw : Raw) :
    Calm (read_fields id fields raw) (fun raw' c' _ => c' = c ∧
      ∀ field, raw' field = if field ∈ fields then d.raw id field else raw field) c d := by
  induction fields generalizing d raw with
  | nil => exact .pure h ⟨rfl, fun field => by simp⟩
  | cons field rest ih =>
    refine (calm_ec_read h hpermission (reg_address_lt hid field)).bind ?_
    rintro value c₁ d₁ hstays₁ ⟨rfl, rfl⟩
    refine (ih hstays₁.bound _).mono ?_
    rintro raw' c₂ d₂ - ⟨rfl, hraw⟩
    refine ⟨rfl, fun f => ?_⟩
    rw [hraw f, hstays₁.quiet.raw]
    by_cases hf : f = field
    · subst hf
      simp [Device.raw]
    · simp [hf]

theorem calm_read_all_fields (h : Bound d c) (hpermission : c.runtime_permission = true)
    {id : Nat} (hid : id < 4) :
    Calm (read_fields id Field.all zero_raw) (fun raw c' _ => c' = c ∧ raw = d.raw id) c d := by
  refine (calm_read_fields h hpermission hid Field.all zero_raw).mono ?_
  rintro raw c' d' - ⟨rfl, hraw⟩
  refine ⟨rfl, funext fun field => ?_⟩
  rw [hraw field, if_pos field.mem_all]

/-- A snapshot that succeeds is the LED, and valid. -/
theorem calm_snapshot (h : Bound d c) (id : Nat) :
    Calm (snapshot id) (fun raw c' _ => id < 4 ∧ raw = d.raw id ∧ valid_raw raw = true ∧
      d.flow = 1 ∧ c'.runtime_permission = true ∧ c'.confirmed = true) c d := by
  refine (Calm.bail h).bind ?_
  rintro _ c₁ d₁ hstays₁ ⟨rfl, rfl, hid⟩
  have hid : id < 4 := by omega
  refine (calm_guard h false).bind ?_
  rintro _ c₂ d₂ hstays₂ ⟨hflow, hpermission, -⟩
  refine (calm_read_all_fields hstays₂.bound hpermission hid).mapError.bind ?_
  rintro raw c₃ d₃ hstays₃ ⟨rfl, rfl⟩
  refine (calm_read_all_fields hstays₃.bound hpermission hid).mapError.bind ?_
  rintro again c₄ d₄ hstays₄ ⟨rfl, -⟩
  refine (Calm.bail hstays₄.bound).bind ?_
  rintro _ c₅ d₅ hstays₅ ⟨rfl, rfl, hstable⟩
  refine (calm_guard hstays₄.bound false).bind ?_
  rintro _ c₆ d₆ hstays₆ ⟨-, hpermission', hconfirmed⟩
  rw [hstays₂.quiet.raw] at hstable ⊢
  refine .pure hstays₆.bound ⟨hid, rfl, ?_, hflow, hpermission', hconfirmed⟩
  simpa using fun hinvalid => hstable (.inr hinvalid)

theorem mem_leds {id : Nat} : id ∈ leds ↔ id < 4 := by
  simp [leds]
  omega

theorem same_leds_iff (a b : Nat → Raw) : same_leds a b = true ↔ ∀ id < 4, a id = b id := by
  simp only [same_leds, List.all_eq_true, mem_leds, decide_eq_true_eq]

theorem calm_read_leds (h : Bound d c) (hpermission : c.runtime_permission = true)
    {ids : List Nat} (hids : ∀ id ∈ ids, id < 4) (raw : Nat → Raw) :
    Calm (read_leds ids raw) (fun raw' c' _ => c' = c ∧
      ∀ id, raw' id = if id ∈ ids then d.raw id else raw id) c d := by
  induction ids generalizing d raw with
  | nil => exact .pure h ⟨rfl, fun id => by simp⟩
  | cons id rest ih =>
    refine (calm_read_all_fields h hpermission (hids id List.mem_cons_self)).bind ?_
    rintro led c₁ d₁ hstays₁ ⟨rfl, rfl⟩
    refine (ih hstays₁.bound (fun i hi => hids i (List.mem_cons_of_mem _ hi)) _).mono ?_
    rintro raw' c₂ d₂ - ⟨rfl, hraw⟩
    refine ⟨rfl, fun i => ?_⟩
    rw [hraw i, hstays₁.quiet.raw]
    by_cases hi : i = id
    · subst hi
      simp
    · simp [hi]

/-- A holder snapshot that succeeds is the four LEDs, under the given flow. -/
theorem calm_snapshot_all (h : Bound d c) (flow : UInt8) :
    Calm (snapshot_all flow) (fun raw c' _ => (∀ id < 4, raw id = d.raw id) ∧
      (∀ id < 4, valid_raw (raw id) = true) ∧ d.flow = flow ∧
      c'.runtime_permission = true) c d := by
  refine (calm_guard_flow h false (some flow)).bind ?_
  rintro observed c₁ d₁ hstays₁ ⟨rfl, -, hflow, hpermission, -⟩
  have hids : ∀ id ∈ leds, id < 4 := fun id hid => mem_leds.mp hid
  refine (calm_read_leds hstays₁.bound hpermission hids _).mapError.bind ?_
  rintro raw c₂ d₂ hstays₂ ⟨rfl, hraw⟩
  refine (calm_read_leds hstays₂.bound hpermission hids _).mapError.bind ?_
  rintro again c₃ d₃ hstays₃ ⟨rfl, -⟩
  refine (Calm.bail hstays₃.bound).bind ?_
  rintro _ c₄ d₄ hstays₄ ⟨rfl, rfl, -⟩
  refine (Calm.bail hstays₃.bound).bind ?_
  rintro _ c₅ d₅ hstays₅ ⟨rfl, rfl, hvalid⟩
  refine (calm_guard_flow hstays₃.bound false (some flow)).bind ?_
  rintro _ c₆ d₆ hstays₆ ⟨-, -, -, hpermission', -⟩
  refine .pure hstays₆.bound ⟨?_, ?_, hflow flow rfl, hpermission'⟩
  · intro id hid
    rw [hraw id, if_pos (mem_leds.mpr hid), hstays₁.quiet.raw]
  · intro id hid
    by_contra hinvalid
    exact hvalid ⟨id, mem_leds.mpr hid, by simpa using hinvalid⟩

end UgreenNas.Led.Cs201x
