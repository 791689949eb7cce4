import UgreenNas.Fan.Registers

/-! # What a direct write changes (`fan/it8613_direct.c`)

    A call sets the listed channels one after the other and stops at the
    first that does not read back.  Whatever bits the chip takes, the
    channels before that one are set, those behind it are as they were, and
    no other register has changed.
-/

namespace UgreenNas.Fan.It8613

open Effect Effect.Proc

/-! ## Mappings that are refused -/

/-- Why a call gives up before it opens the ports. -/
inductive Refused (channels : List DirectChannel) (pwm : UInt8) : Prop where
  | count (h : channels.length = 0 ∨ channels.length > UGREENCTL_MAX_FANS)
  | id (channel : DirectChannel) (mem : channel ∈ channels) (h : channel.id = "")
  | unsafe_pwm (h : pwm.toNat < 40)
  | unsupported (channel : DirectChannel) (mem : channel ∈ channels)
      (h : channel.pwm_supported = false)

theorem not_refused_iff {channels : List DirectChannel} {pwm : UInt8} :
    ¬ Refused channels pwm ↔ Wired channels ∧ 40 ≤ pwm.toNat := by
  constructor
  · intro h
    refine ⟨⟨fun hcount => h (.count hcount), ?_, ?_⟩, ?_⟩
    · intro hid
      obtain ⟨channel, hmem, hempty⟩ := List.any_eq_true.mp hid
      exact h (.id channel hmem (of_decide_eq_true hempty))
    · intro channel hmem
      by_contra hunsupported
      exact h (.unsupported channel hmem (Bool.eq_false_of_not_eq_true hunsupported))
    · by_contra hlow
      exact h (.unsafe_pwm (by omega))
  · intro h hrefused
    obtain ⟨hwired, hpwm⟩ := h
    cases hrefused with
    | count hcount => exact hwired.count hcount
    | id channel hmem hempty =>
      exact hwired.ids (List.any_eq_true.mpr ⟨channel, hmem, decide_eq_true hempty⟩)
    | unsafe_pwm hlow => omega
    | unsupported channel hmem hunsupported =>
      have hsupported := hwired.supported channel hmem
      simp [hunsupported] at hsupported

theorem check_supported_fails {channels : List DirectChannel}
    (h : ∃ channel ∈ channels, channel.pwm_supported = false) :
    ∃ error, Direct.check_supported channels = fail error := by
  induction channels with
  | nil => simp at h
  | cons channel rest ih =>
    rw [Direct.check_supported]
    by_cases hchannel : channel.pwm_supported = false
    · exact ⟨_, bail_pos hchannel _ _⟩
    · rw [bail_neg hchannel]
      obtain ⟨c, hmem, hc⟩ := h
      rcases List.mem_cons.mp hmem with rfl | hmem
      · exact absurd hc hchannel
      · exact ih ⟨c, hmem, hc⟩

/-- A refused call does nothing but return its error. -/
theorem refused_fails {channels : List DirectChannel} {pwm : UInt8} (h : Refused channels pwm) :
    ∃ error, it8613_direct_set_manual_pwm channels pwm.toNat = fail error := by
  unfold it8613_direct_set_manual_pwm Direct.validate_mapping
  by_cases hcount : channels.length = 0 ∨ channels.length > UGREENCTL_MAX_FANS
  · rw [bail_pos hcount]
    exact ⟨_, rfl⟩
  rw [bail_neg hcount]
  by_cases hid : channels.any (·.id = "") = true
  · rw [bail_pos hid]
    exact ⟨_, rfl⟩
  -- What is left of the refusals comes after the mapping has been accepted.
  have hvalid : (bail (channels.any (·.id = "") = true)
      ⟨.EINVAL, "invalid IT8613 direct fan mapping: id"⟩ : Io Unit) = pure () := by
    rw [Proc.bail, if_neg hid]
  rw [hvalid]
  by_cases hpwm : pwm.toNat < IT8613_DIRECT_MIN_MANUAL_PWM
  · exact ⟨_, bail_pos hpwm _ _⟩
  · have hunsupported : ∃ channel ∈ channels, channel.pwm_supported = false := by
      cases h with
      | count h => exact absurd h hcount
      | id channel hmem hempty =>
        exact absurd (List.any_eq_true.mpr ⟨channel, hmem, decide_eq_true hempty⟩) hid
      | unsafe_pwm hlow => exact absurd hlow hpwm
      | unsupported channel hmem h => exact ⟨channel, hmem, h⟩
    obtain ⟨error, herror⟩ := check_supported_fails hunsupported
    refine ⟨error, ?_⟩
    show (bail _ _ >>= _) = _
    rw [bail_neg hpwm, herror]
    rfl

/-- A mapping that is not refused goes straight to the ports. -/
theorem accepted_call {channels : List DirectChannel} {pwm : UInt8}
    (h : ¬ Refused channels pwm) :
    it8613_direct_set_manual_pwm channels pwm.toNat = (do
      let opened : Except FanError Unit ← io .it86x_open
      lift opened
      let result ← attempt (Direct.set_channels_manual_pwm pwm.toNat channels)
      io .it86x_close
      lift result) := by
  obtain ⟨hwired, hpwm⟩ := not_refused_iff.mp h
  have hsafe : ¬ pwm.toNat < IT8613_DIRECT_MIN_MANUAL_PWM := Nat.not_lt.mpr hpwm
  unfold it8613_direct_set_manual_pwm
  rw [validate_mapping_wired hwired, check_supported_wired hwired.supported]
  show (bail _ _ >>= _) = _
  rw [bail_neg hsafe]
  rfl

/-! ## The channels, one after the other -/

section frame

variable {opened : Except FanError Unit} {pwm : UInt8}

/-- What one channel comes to: it is set, or it does not read back. -/
theorem set_channel_spec {channel : DirectChannel}
    (hne : channel.control_register ≠ channel.duty_register) (regs : Registers) :
    wp (chip opened by_bits) (fun _ => True) (Direct.set_channel_manual_pwm channel pwm.toNat)
      (fun r _ regs' => SameOutside channel.registers regs regs' ∧ match r with
        | .ok () => channel.FullySet pwm regs regs'
        | .error error => channel.ReadbackFails pwm regs' error) () regs := by
  -- The bits besides the highest are written as they were read.
  have hcontrol : ∀ control, by_bits (regs channel.control_register)
      (cleared (regs channel.control_register)) control →
        ∀ i < 7, bit control i = bit (regs channel.control_register) i := by
    intro control htakes i hi
    rcases htakes i (by omega) with hkept | htaken
    · exact hkept
    · rw [htaken, bit_cleared _ hi]
  have houtside₁ : ∀ control,
      SameOutside channel.registers regs (Direct.controlled channel regs control) := by
    intro control register hout
    simp only [DirectChannel.registers, List.mem_cons, List.not_mem_nil, or_false, not_or] at hout
    exact Function.update_of_ne hout.1 _ _
  have houtside₂ : ∀ control duty,
      SameOutside channel.registers regs (Direct.driven channel regs control duty) := by
    intro control duty register hout
    rw [← houtside₁ control register hout]
    simp only [DirectChannel.registers, List.mem_cons, List.not_mem_nil, or_false, not_or] at hout
    exact Function.update_of_ne hout.2 _ _
  have hduty : ∀ control duty,
      Direct.driven channel regs control duty channel.duty_register = duty :=
    fun control duty => Function.update_self ..
  rw [Direct.wp_set_channel trivial]
  intro control htakes
  refine ⟨trivial, fun hautomatic => ⟨houtside₁ control, .control hautomatic⟩, ?_⟩
  intro hmanual duty htakes'
  have hkeeps : Direct.driven channel regs control duty channel.control_register =
      Direct.controlled channel regs control channel.control_register :=
    Function.update_of_ne hne _ _
  refine ⟨trivial, fun hpwm => ⟨houtside₂ control duty, ?_⟩, fun hdiffers =>
    ⟨houtside₂ control duty, ?_⟩⟩
  · constructor
    · unfold DirectChannel.Manual
      rw [hkeeps]
      exact hmanual
    · rw [hduty, hpwm]
    · intro i hi
      rw [hkeeps]
      unfold Direct.controlled
      rw [Function.update_self]
      exact hcontrol control htakes i hi
  · have hfails := @DirectChannel.ReadbackFails.duty channel pwm
      (Direct.driven channel regs control duty) (by rwa [hduty])
    rwa [hduty] at hfails

/-- The first channel that does not read back ends the loop: those before it
    are set, those behind it are as they were. -/
structure StoppedAt (channels : List DirectChannel) (pwm : UInt8) (regs regs' : Registers)
    (error : FanError) (before : List DirectChannel) (channel : DirectChannel)
    (after : List DirectChannel) : Prop where
  split : channels = before ++ channel :: after
  set : ∀ c ∈ before, c.FullySet pwm regs regs'
  fails : channel.ReadbackFails pwm regs' error
  untouched : ∀ c ∈ after, c.Untouched regs regs'

/-- The result of the loop, against the registers it started from. -/
def Written (channels : List DirectChannel) (pwm : UInt8) (regs : Registers)
    (r : Except FanError Unit) (regs' : Registers) : Prop :=
  SameOutside (channels.flatMap DirectChannel.registers) regs regs' ∧ match r with
    | .ok () => ∀ channel ∈ channels, channel.FullySet pwm regs regs'
    | .error error => ∃ before channel after,
        StoppedAt channels pwm regs regs' error before channel after

/-- What is done to other registers does not unset a channel. -/
theorem FullySet.later {channel : DirectChannel} {regs regs' regs'' : Registers}
    (h : channel.FullySet pwm regs regs') (hkept : channel.Untouched regs' regs'') :
    channel.FullySet pwm regs regs'' := by
  have hcontrol := hkept channel.control_register (by simp [DirectChannel.registers])
  have hduty := hkept channel.duty_register (by simp [DirectChannel.registers])
  constructor
  · unfold DirectChannel.Manual
    rw [hcontrol]
    exact h.manual
  · rw [hduty, h.duty]
  · intro i hi
    rw [hcontrol]
    exact h.control i hi

/-- A channel set later finds its registers as they were at the start. -/
theorem FullySet.earlier {channel : DirectChannel} {regs regs' regs'' : Registers}
    (hkept : channel.Untouched regs regs') (h : channel.FullySet pwm regs' regs'') :
    channel.FullySet pwm regs regs'' := by
  have hcontrol := hkept channel.control_register (by simp [DirectChannel.registers])
  refine ⟨h.manual, h.duty, fun i hi => ?_⟩
  rw [← hcontrol]
  exact h.control i hi

theorem set_channels_spec {channels : List DirectChannel} (hdistinct : DistinctRegisters channels)
    (regs : Registers) :
    wp (chip opened by_bits) (fun _ => True) (Direct.set_channels_manual_pwm pwm.toNat channels)
      (fun r _ regs' => Written channels pwm regs r regs') () regs := by
  induction channels generalizing regs with
  | nil => exact ⟨fun _ _ => rfl, fun _ hmem => nomatch hmem⟩
  | cons channel rest ih =>
    unfold DistinctRegisters at hdistinct
    rw [List.flatMap_cons, List.nodup_append] at hdistinct
    obtain ⟨hchannel, hrest, hapart⟩ := hdistinct
    have hne : channel.control_register ≠ channel.duty_register := by
      simpa [DirectChannel.registers] using hchannel
    -- Neither part of the list writes a register of the other.
    have hrest_kept : ∀ {regs regs' : Registers}, SameOutside channel.registers regs regs' →
        ∀ c ∈ rest, c.Untouched regs regs' := by
      intro regs regs' hsame c hc register hregister
      apply hsame
      intro hmem
      exact hapart register hmem register (List.mem_flatMap.mpr ⟨c, hc, hregister⟩) rfl
    have hchannel_kept : ∀ {regs regs' : Registers},
        SameOutside (rest.flatMap DirectChannel.registers) regs regs' →
          channel.Untouched regs regs' := by
      intro regs regs' hsame register hregister
      apply hsame
      intro hmem
      exact hapart register hregister register hmem rfl
    rw [Direct.set_channels_manual_pwm]
    apply wp_seq (set_channel_spec hne regs)
    · intro _ _ regs₁ hset
      obtain ⟨hsame₁, hfully⟩ := hset
      have hkept₁ := hrest_kept hsame₁
      apply wp_mono (ih hrest regs₁) (fun _ _ => trivial)
      intro r _ regs₂ hwritten
      obtain ⟨hsame₂, hresult⟩ := hwritten
      refine ⟨hsame₁.trans hsame₂, ?_⟩
      have hfully₂ := FullySet.later hfully (hchannel_kept hsame₂)
      cases r with
      | ok u =>
        intro c hc
        rcases List.mem_cons.mp hc with rfl | hc
        · exact hfully₂
        · exact FullySet.earlier (hkept₁ c hc) (hresult c hc)
      | error error =>
        obtain ⟨before, failed, after, hstopped⟩ := hresult
        obtain ⟨hsplit, hbefore, hfails, hafter⟩ := hstopped
        have hmem : ∀ c, c ∈ before ∨ c ∈ after → c ∈ rest := by
          intro c hc
          rw [hsplit, List.mem_append, List.mem_cons]
          tauto
        refine ⟨channel :: before, failed, after, by rw [hsplit]; rfl, ?_, hfails, ?_⟩
        · intro c hc
          rcases List.mem_cons.mp hc with rfl | hc
          · exact hfully₂
          · exact FullySet.earlier (hkept₁ c (hmem c (.inl hc))) (hbefore c hc)
        · intro c hc register hregister
          rw [hafter c hc register hregister, hkept₁ c (hmem c (.inr hc)) register hregister]
    · intro error _ regs₁ hset
      obtain ⟨hsame₁, hfails⟩ := hset
      refine ⟨?_, [], channel, rest, rfl, ?_, hfails, hrest_kept hsame₁⟩
      · intro register hout
        rw [List.flatMap_cons, List.mem_append, not_or] at hout
        exact hsame₁ register hout.1
      · intro c hc
        simp at hc

end frame

/-! ## The whole call -/

/-- What is promised about a call that ends in `r`, `opened` being what
    opening the ports answered. -/
structure Framed (channels : List DirectChannel) (pwm : UInt8) (opened : Except FanError Unit)
    (regs : Registers) (r : Except FanError Unit) (regs' : Registers) : Prop where
  /-- Registers of no listed channel are unchanged, whatever happens. -/
  frame : SameOutside (channels.flatMap DirectChannel.registers) regs regs'
  success : r = .ok () → ∀ channel ∈ channels, channel.FullySet pwm regs regs'
  refused : Refused channels pwm → (∃ error, r = .error error) ∧ regs' = regs
  closed : ¬ Refused channels pwm → ∀ error, opened = .error error →
    r = .error error ∧ regs' = regs
  stopped : ¬ Refused channels pwm → opened = .ok () → ∀ error, r = .error error →
    ∃ before channel after, StoppedAt channels pwm regs regs' error before channel after

/-- An operation that writes an HWM register. -/
def writes_register (o : FanOp) : Prop := ∃ register value, o = .it86x_hwm_write register value

theorem call_spec {channels : List DirectChannel} {pwm : UInt8} {opened : Except FanError Unit}
    (hdistinct : DistinctRegisters channels) (regs : Registers) :
    wp (chip opened by_bits) (fun _ => True) (it8613_direct_set_manual_pwm channels pwm.toNat)
      (fun r _ regs' => Framed channels pwm opened regs r regs') () regs := by
  by_cases hrefused : Refused channels pwm
  · obtain ⟨error, heq⟩ := refused_fails hrefused
    rw [heq, wp_fail]
    exact ⟨fun _ _ => rfl, fun h => (nomatch h), fun _ => ⟨⟨error, rfl⟩, rfl⟩,
      fun h => absurd hrefused h, fun h => absurd hrefused h⟩
  rw [accepted_call hrefused, wp_bind, Direct.wp_open]
  refine ⟨trivial, ?_⟩
  dsimp only
  rw [wp_bind, wp_lift]
  cases opened with
  | error error =>
    refine ⟨fun _ _ => rfl, fun h => (nomatch h), fun h => absurd h hrefused, ?_,
      fun _ h => (nomatch h)⟩
    intro _ e he
    cases he
    exact ⟨rfl, rfl⟩
  | ok u =>
    dsimp only
    rw [wp_bind, wp_attempt]
    apply wp_mono (set_channels_spec hdistinct regs) (fun _ _ => trivial)
    intro r _ regs₁ hwritten
    obtain ⟨hsame, hresult⟩ := hwritten
    dsimp only
    rw [wp_bind, Direct.wp_close]
    refine ⟨trivial, hsame, ?_, fun h => absurd h hrefused, fun _ _ h => (nomatch h), ?_⟩
    · intro hok
      cases hok
      exact hresult
    · intro _ _ error herror
      cases herror
      exact hresult

/-- For every mapping whose registers are distinct, every duty, every
    register file and every way the chip takes the bits it is sent, a call
    is framed; one that is refused never asks for a write. -/
theorem direct_write_framed (channels : List DirectChannel) (pwm : UInt8) :
    (Refused channels pwm →
      Prog.Avoids writes_register (it8613_direct_set_manual_pwm channels pwm.toNat ())) ∧
    (DistinctRegisters channels → ∀ opened regs r regs',
      Proc.Runs (chip opened by_bits) (it8613_direct_set_manual_pwm channels pwm.toNat) () regs
        r () regs' →
      Framed channels pwm opened regs r regs') := by
  constructor
  · intro hrefused
    obtain ⟨error, heq⟩ := refused_fails hrefused
    rw [heq]
    trivial
  · intro hdistinct opened regs r regs' hrun
    exact wp_runs (call_spec hdistinct regs) hrun

/-- An empty mapping is refused; the CPU fan of a chip that takes every value
    is set. -/
theorem direct_write_framed_cpu :
    Prog.Avoids writes_register (it8613_direct_set_manual_pwm [] (120 : UInt8).toNat ()) ∧
    ∃ r regs',
      Proc.Runs (chip (.ok ()) by_bits)
        (it8613_direct_set_manual_pwm [⟨"cpu", 0x16, 0x6b, 0x0e, 0x19, true⟩] (120 : UInt8).toNat)
        () (fun _ => 0x81) r () regs' ∧
      r = .ok () ∧
      Framed [⟨"cpu", 0x16, 0x6b, 0x0e, 0x19, true⟩] 120 (.ok ()) (fun _ => 0x81) r regs' := by
  refine ⟨(direct_write_framed [] 120).1 (.count (.inl rfl)), ?_⟩
  have hrun := Prog.runs_exec (@chip_unbound by_bits (fun _ _ _ _ => .inr rfl) "")
    (it8613_direct_set_manual_pwm [⟨"cpu", 0x16, 0x6b, 0x0e, 0x19, true⟩] (120 : UInt8).toNat ())
    (fun _ => 0x81)
  exact ⟨_, _, hrun, by decide, (direct_write_framed _ 120).2 (by decide) _ _ _ _ hrun⟩

end UgreenNas.Fan.It8613
