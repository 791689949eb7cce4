import Mathlib.Data.List.Nodup
import Mathlib.Data.List.Pairwise
import UgreenNas.Fan.Attributes
import UgreenNas.Fan.DirectWrite

/-! # The floor of the fan speed (`fan/it8613_direct.c`, `fan/it8613_hwmon.c`)

    A duty below 40 is refused.  But a channel is made manual before its duty
    is written, and in between it turns at the duty that was stored for it.
    So the floor is kept exactly where no channel that is taken over has a
    lower duty stored.
-/

namespace UgreenNas.Fan.It8613

open Effect Effect.Proc

/-! ## Through the ports -/

namespace Direct

/-- A listed channel that was automatic and is manual now turns at 40 at
    least. -/
def Floor (channels : List DirectChannel) (regs regs' : Registers) : Prop :=
  ∀ channel ∈ channels, ¬ channel.Manual regs → channel.Manual regs' →
    40 ≤ (regs' channel.duty_register).toNat

/-- The floor is kept in every state a call passes through, the last one
    included.  A chip takes each value whole, or loses it. -/
def KeepsFloor (channels : List DirectChannel) (pwm : UInt8) (opened : Except FanError Unit)
    (regs : Registers) : Prop :=
  ∀ rest regs', Prog.Reaches (chip opened whole_or_lost)
    ((it8613_direct_set_manual_pwm channels pwm.toNat).run ()) regs rest regs' →
    Floor channels regs regs'

/-- The register files that the writes of a list of channels lead through. -/
def passed (pwm : UInt8) : List DirectChannel → Registers → List Registers
  | [], _ => []
  | channel :: rest, regs =>
    let control := cleared (regs channel.control_register)
    controlled channel regs control :: driven channel regs control pwm ::
      passed pwm rest (driven channel regs control pwm)

theorem manual_controlled (channel : DirectChannel) (regs : Registers) :
    channel.Manual (controlled channel regs (cleared (regs channel.control_register))) := by
  unfold DirectChannel.Manual controlled cleared
  rw [Function.update_self, UInt8.and_assoc, UInt8.and_comm (~~~ _)]
  simp

/-- Clearing a clear bit does nothing. -/
theorem cleared_of_manual {control : UInt8} (h : control &&& IT8613_DIRECT_MANUAL_BIT = 0) :
    cleared control = control := by
  unfold cleared
  rw [← UInt8.toBitVec_inj] at h ⊢
  ext i hi
  have hbit := congrArg (fun b : BitVec 8 => b[i]) h
  simp only [UInt8.toBitVec_and, UInt8.toBitVec_not, BitVec.getElem_and,
    BitVec.getElem_not] at hbit ⊢
  cases hmask : IT8613_DIRECT_MANUAL_BIT.toBitVec[i] with
  | true => simp_all
  | false => simp

section passes

variable {opened : Except FanError Unit} {I : Registers → Prop} {pwm : UInt8}

/-- Whatever is lost, the loop leads through no other register files, and a
    run that loses nothing leads through all of them. -/
theorem wp_set_channels {channels : List DirectChannel} {regs : Registers} (hI : I regs) :
    wp (chip opened whole_or_lost) I (set_channels_manual_pwm pwm.toNat channels)
      (fun _ _ _ => True) () regs ↔ ∀ regs' ∈ passed pwm channels regs, I regs' := by
  induction channels generalizing regs with
  | nil => exact iff_of_true trivial (fun _ hmem => nomatch hmem)
  | cons channel rest ih =>
    rw [set_channels_manual_pwm, wp_bind, wp_set_channel hI, passed]
    simp only [List.forall_mem_cons]
    constructor
    · intro h
      obtain ⟨hcontrolled, -, hmanual⟩ := h _ (.inl rfl)
      obtain ⟨hdriven, hrest, -⟩ := hmanual (manual_controlled channel regs) pwm (.inl rfl)
      exact ⟨hcontrolled, hdriven, (ih hdriven).mp (hrest rfl)⟩
    · intro h control htakes
      obtain ⟨hcontrolled, hdriven, hrest⟩ := h
      -- A lost write counts as done where the channel is manual already.
      have hcases : control = cleared (regs channel.control_register) ∨
          (controlled channel regs control = regs ∧
            ¬ channel.Manual (controlled channel regs control)) := by
        rcases htakes with hdone | hlost
        · exact .inl hdone
        · by_cases hmanual : channel.Manual regs
          · left
            rw [cleared_of_manual hmanual, hlost]
          · right
            have hsame : controlled channel regs control = regs := by
              rw [hlost]
              exact Function.update_eq_self ..
            rw [hsame]
            exact ⟨rfl, hmanual⟩
      rcases hcases with hdone | ⟨hsame, hautomatic⟩
      · subst hdone
        refine ⟨hcontrolled, fun _ => trivial, fun _ duty htakes' => ?_⟩
        rcases htakes' with hpwm | hlost
        · rw [hpwm]
          exact ⟨hdriven, fun _ => (ih hdriven).mpr hrest, fun hne => absurd rfl hne⟩
        · by_cases hpwm : duty = pwm
          · rw [hpwm]
            exact ⟨hdriven, fun _ => (ih hdriven).mpr hrest, fun hne => absurd rfl hne⟩
          · have hstays : driven channel regs (cleared (regs channel.control_register)) duty =
                controlled channel regs (cleared (regs channel.control_register)) := by
              rw [hlost]
              exact Function.update_eq_self ..
            rw [hstays]
            exact ⟨hcontrolled, fun h => absurd h hpwm, fun _ => trivial⟩
      · rw [hsame] at hautomatic ⊢
        refine ⟨hI, fun _ => trivial, fun hmanual => absurd hmanual hautomatic⟩

end passes

/-- For every list of channels, shared registers or not. -/
theorem keeps_floor_passed (channels : List DirectChannel) (pwm : UInt8)
    (opened : Except FanError Unit) (regs : Registers) :
    KeepsFloor channels pwm opened regs ↔
      Refused channels pwm ∨ opened ≠ .ok () ∨
        ∀ regs' ∈ passed pwm channels regs, Floor channels regs regs' := by
  have hstart : Floor channels regs regs := fun _ _ hautomatic hmanual => absurd hmanual hautomatic
  unfold KeepsFloor
  rw [← Prog.wp_iff_reaches hstart, Proc.wp_run]
  by_cases hrefused : Refused channels pwm
  · obtain ⟨error, heq⟩ := refused_fails hrefused
    rw [heq, wp_fail]
    exact iff_of_true trivial (.inl hrefused)
  rw [accepted_call hrefused, wp_bind, wp_open, or_iff_right hrefused, and_iff_right hstart]
  dsimp only
  rw [wp_bind, wp_lift]
  cases opened with
  | error error => exact iff_of_true trivial (.inl fun h => nomatch h)
  | ok u =>
    rw [or_iff_right (fun h => h rfl), ← wp_set_channels hstart]
    dsimp only
    rw [wp_bind, wp_attempt]
    constructor
    · intro h
      exact wp_mono h (fun _ hI => hI) (fun _ _ _ _ => trivial)
    · intro h
      apply wp_mono (wp_keeps hstart h) (fun _ hI => hI)
      intro r _ regs' hend
      dsimp only
      rw [wp_bind, wp_close]
      exact ⟨hend.1, trivial⟩

/-! ### Registers with one use -/

/-- No channel's duty register controls a channel. -/
theorem duty_ne_control {channels : List DirectChannel} (hdistinct : DistinctRegisters channels)
    {c d : DirectChannel} (hc : c ∈ channels) (hd : d ∈ channels) :
    d.control_register ≠ c.duty_register := by
  unfold DistinctRegisters at hdistinct
  rw [List.nodup_flatMap] at hdistinct
  obtain ⟨hone, hapart⟩ := hdistinct
  by_cases hcd : c = d
  · subst hcd
    have hnodup := hone c hc
    simpa [DirectChannel.registers] using hnodup
  · intro heq
    have hsymm : Std.Symm (Function.onFun List.Disjoint DirectChannel.registers) :=
      ⟨fun _ _ h _ hb ha => h ha hb⟩
    have hdisjoint := hapart.forall hc hd hcd
    apply hdisjoint (a := c.duty_register)
    · simp [DirectChannel.registers]
    · simp [DirectChannel.registers, heq]

/-- A register that controls no channel holds what it held, or the duty. -/
theorem passed_duty {pwm : UInt8} {channels : List DirectChannel} {register : UInt8}
    (h : ∀ c ∈ channels, c.control_register ≠ register) (regs : Registers) :
    ∀ regs' ∈ passed pwm channels regs, regs' register = regs register ∨ regs' register = pwm := by
  induction channels generalizing regs with
  | nil => exact fun _ hmem => nomatch hmem
  | cons channel rest ih =>
    rw [List.forall_mem_cons] at h
    obtain ⟨hne, hrest⟩ := h
    have hcontrolled : ∀ control, controlled channel regs control register = regs register :=
      fun _ => Function.update_of_ne hne.symm _ _
    have hdriven : ∀ control, driven channel regs control pwm register = regs register ∨
        driven channel regs control pwm register = pwm := by
      intro control
      by_cases hduty : channel.duty_register = register
      · right
        rw [← hduty]
        exact Function.update_self ..
      · left
        rw [← hcontrolled control]
        exact Function.update_of_ne (Ne.symm hduty) _ _
    rw [passed]
    simp only [List.forall_mem_cons]
    refine ⟨.inl (hcontrolled _), hdriven _, fun regs' hmem => ?_⟩
    rcases ih hrest _ regs' hmem with hkept | hpwm
    · rw [hkept]
      exact hdriven _
    · exact .inr hpwm

/-- Every channel is manual, once, with the duty that was stored for it. -/
theorem passed_taken_over {pwm : UInt8} {channels : List DirectChannel}
    (hdistinct : DistinctRegisters channels) (regs : Registers) {channel : DirectChannel}
    (hmem : channel ∈ channels) :
    ∃ regs' ∈ passed pwm channels regs, channel.Manual regs' ∧
      regs' channel.duty_register = regs channel.duty_register := by
  induction channels generalizing regs with
  | nil => simp at hmem
  | cons first rest ih =>
    rw [passed]
    rcases List.mem_cons.mp hmem with rfl | hlater
    · refine ⟨_, List.mem_cons_self, manual_controlled channel regs, ?_⟩
      have hne := duty_ne_control hdistinct hmem hmem
      exact Function.update_of_ne hne.symm _ _
    · have happart := hdistinct
      unfold DistinctRegisters at happart
      rw [List.flatMap_cons, List.nodup_append] at happart
      obtain ⟨-, hrest, hapart⟩ := happart
      obtain ⟨regs', hregs', hmanual, hduty⟩ := ih hrest
        (driven first regs (cleared (regs first.control_register)) pwm) hlater
      refine ⟨regs', by simp [hregs'], hmanual, ?_⟩
      -- Setting the first channel does not touch the duty of a later one.
      have hne : ∀ register ∈ first.registers, channel.duty_register ≠ register := by
        intro register hregister heq
        apply hapart register hregister register _ rfl
        rw [← heq]
        exact List.mem_flatMap.mpr ⟨channel, hlater, by simp [DirectChannel.registers]⟩
      rw [hduty]
      unfold driven controlled
      rw [Function.update_of_ne (hne _ (by simp [DirectChannel.registers])),
        Function.update_of_ne (hne _ (by simp [DirectChannel.registers]))]

theorem floor_passed_iff {pwm : UInt8} (hpwm : 40 ≤ pwm.toNat) {channels : List DirectChannel}
    (hdistinct : DistinctRegisters channels) (regs : Registers) :
    (∀ regs' ∈ passed pwm channels regs, Floor channels regs regs') ↔
      ∀ channel ∈ channels, ¬ channel.Manual regs → 40 ≤ (regs channel.duty_register).toNat := by
  constructor
  · intro h channel hmem hautomatic
    obtain ⟨regs', hregs', hmanual, hduty⟩ := @passed_taken_over pwm channels hdistinct regs channel hmem
    rw [← hduty]
    exact h regs' hregs' channel hmem hautomatic hmanual
  · intro h regs' hregs' channel hmem hautomatic _
    have hapart : ∀ c ∈ channels, c.control_register ≠ channel.duty_register :=
      fun c hc => duty_ne_control hdistinct hmem hc
    rcases passed_duty hapart regs regs' hregs' with hkept | hset
    · rw [hkept]
      exact h channel hmem hautomatic
    · rw [hset]
      exact hpwm

end Direct

/-! ## Through the driver -/

namespace Hwmon

/-- The channel runs at its stored duty. -/
def Manual (device : String) (channel : HwmonChannel) (attributes : Attributes) : Prop :=
  attributes (enable_node device channel) = 1

def Floor (channels : List HwmonChannel) (attributes attributes' : Attributes) : Prop :=
  ∀ device, ∀ channel ∈ channels, ¬ Manual device channel attributes →
    Manual device channel attributes' → 40 ≤ attributes' (duty_node device channel)

def KeepsFloor (channels : List HwmonChannel) (pwm : UInt8) (attributes : Attributes) : Prop :=
  ∀ rest attributes', Prog.Reaches driver
    ((it8613_hwmon_set_manual_pwm channels pwm.toNat).run ()) attributes rest attributes' →
    Floor channels attributes attributes'

/-- What the attributes can come to: those of the channels of one device are
    as they were or as they are written, the others are as they were. -/
def Touched (device : String) (channels : List HwmonChannel) (pwm : Nat)
    (attributes attributes' : Attributes) : Prop :=
  ∀ node, attributes' node = attributes node ∨ ∃ channel ∈ channels,
    (node = enable_node device channel ∧ attributes' node = 1) ∨
    (node = duty_node device channel ∧ attributes' node = pwm)

theorem Touched.write {device : String} {channels : List HwmonChannel} {pwm value : Nat}
    {attributes attributes' : Attributes} (h : Touched device channels pwm attributes attributes')
    {node : Node} (hnode : ∃ channel ∈ channels, (node = enable_node device channel ∧ value = 1) ∨
      (node = duty_node device channel ∧ value = pwm)) :
    Touched device channels pwm attributes (Function.update attributes' node value) := by
  intro other
  by_cases hother : other = node
  · right
    rw [hother, Function.update_self]
    exact hnode
  · rw [Function.update_of_ne hother]
    exact h other

/-- No attribute has both uses. -/
theorem enable_ne_duty (device device' : String) (c d : HwmonChannel) :
    enable_node device c ≠ duty_node device' d := by
  intro heq
  have hname := congrArg (fun node => node.name.toList.getLast?) heq
  simp only [enable_node, duty_node, String.toList_append, Nat.toString_eq_repr,
    Nat.toList_repr] at hname
  have henable : ("pwm".toList ++ Nat.toDigits 10 c.pwm_index ++ "_enable".toList).getLast? =
      some 'e' := by
    rw [List.getLast?_append_of_ne_nil _ (by decide)]
    decide
  rw [henable, List.getLast?_append_of_ne_nil _ Nat.toDigits_ne_nil] at hname
  have hdigit := isdigit_toDigits (List.mem_of_getLast? hname.symm)
  exact absurd hdigit (by decide)

/-- Channels with the same mode share the duty. -/
theorem duty_of_enable {device device' : String} {c d : HwmonChannel}
    (h : enable_node device c = enable_node device' d) : duty_node device c = duty_node device' d := by
  unfold enable_node at h
  unfold duty_node
  rw [Node.mk.injEq] at h ⊢
  refine ⟨h.1, ?_⟩
  have hname := congrArg String.toList h.2
  simp only [String.toList_append] at hname
  have hcancel := List.append_cancel_right hname
  rw [← String.toList_append, ← String.toList_append] at hcancel
  exact String.toList_inj.mp hcancel

/-- Where no low duty is stored, what a call writes keeps the floor. -/
theorem Touched.floor {device : String} {channels : List HwmonChannel} {pwm : UInt8}
    (hpwm : 40 ≤ pwm.toNat) {attributes attributes' : Attributes}
    (hlow : ∀ channel ∈ settable device channels, ¬ Manual device channel attributes →
      40 ≤ attributes (duty_node device channel))
    (h : Touched device (settable device channels) pwm.toNat attributes attributes') :
    Floor channels attributes attributes' := by
  intro device' channel _ hautomatic hmanual
  unfold Manual at hautomatic hmanual
  rcases h (enable_node device' channel) with hkept | ⟨c, hc, ⟨hnode, -⟩ | ⟨hnode, -⟩⟩
  · rw [hkept] at hmanual
    exact absurd hmanual hautomatic
  · -- It is one of the channels that were set, whose duties are known.
    rw [hnode] at hautomatic
    have hstored := hlow c hc hautomatic
    rw [← duty_of_enable hnode] at hstored
    rcases h (duty_node device' channel) with hkept | ⟨d, _, ⟨hduty, -⟩ | ⟨-, hduty⟩⟩
    · rw [hkept]
      exact hstored
    · exact absurd hduty.symm (enable_ne_duty _ _ _ _)
    · rw [hduty]
      exact hpwm
  · exact absurd hnode (enable_ne_duty _ _ _ _)

/-- For every list of channels and all attributes. -/
theorem keeps_floor_iff {pwm : UInt8} (hpwm : 40 ≤ pwm.toNat) (channels : List HwmonChannel)
    (attributes : Attributes) :
    KeepsFloor channels pwm attributes ↔
      (channels.length = 0 ∨ channels.length > UGREENCTL_MAX_FANS) ∨
        ∀ device, Findable device → ∀ channel ∈ settable device channels,
          ¬ Manual device channel attributes → 40 ≤ attributes (duty_node device channel) := by
  have hstart : Floor channels attributes attributes :=
    fun _ _ _ hautomatic hmanual => absurd hmanual hautomatic
  have hsmall : pwm.toNat < 2 ^ 64 := Nat.lt_trans pwm.toNat_lt (by decide)
  unfold KeepsFloor
  rw [← Prog.wp_iff_reaches hstart, Proc.wp_run]
  unfold it8613_hwmon_set_manual_pwm
  by_cases hcount : channels.length = 0 ∨ channels.length > UGREENCTL_MAX_FANS
  · rw [bail_pos hcount, wp_fail]
    exact iff_of_true trivial (.inl hcount)
  have hsafe : ¬ pwm.toNat < IT8613_MIN_MANUAL_PWM := Nat.not_lt.mpr hpwm
  rw [bail_neg hcount, bail_neg hsafe, or_iff_right hcount]
  constructor
  · intro h device hdevice channel hmem hautomatic
    have hloop := can_then (can_open hdevice) h
    rw [wp_bind, wp_attempt] at hloop
    have hfloor := taken_over hsmall hloop hmem
    have hlisted : channel ∈ channels := (List.takeWhile_sublist _).subset hmem
    have hduty := hfloor device channel hlisted hautomatic (Function.update_self ..)
    rwa [Function.update_of_ne (enable_ne_duty device device channel channel).symm] at hduty
  · intro h
    have hopen : wp driver (Floor channels attributes) it8613_hwmon_open
        (fun r _ attributes' => attributes' = attributes ∧ ∀ device, r = .ok device →
          Findable device) () attributes := by
      apply wp_mono (keeps_open (I := (· = attributes)) attributes rfl)
      · intro attributes' heq
        rw [heq]
        exact hstart
      · exact fun _ _ _ hr => hr
    apply wp_seq hopen
    · intro device _ attributes' hfound
      obtain ⟨rfl, hdevice⟩ := hfound
      have hloop : Keeps (Touched device (settable device channels) pwm.toNat attributes')
          (fun _ => True) (set_channels_manual_pwm device pwm.toNat channels) := by
        apply keeps_set_channels hsmall
        intro channel hmem attributes hI
        exact ⟨hI.write ⟨channel, hmem, .inl ⟨rfl, rfl⟩⟩, hI.write ⟨channel, hmem, .inr ⟨rfl, rfl⟩⟩⟩
      have hrest := keeps_bind (keeps_attempt hloop) (R := fun _ => True)
        (f := fun result => it8613_hwmon_close >>= fun _ => lift result) fun result _ =>
          keeps_bind (keeps_io (by simp)) fun _ _ => keeps_lift fun _ _ => trivial
      apply wp_mono (hrest attributes' fun node => .inl rfl)
      · exact fun _ htouched => htouched.floor hpwm (h device (hdevice device rfl))
      · exact fun _ _ _ _ => trivial
    · exact fun _ _ _ _ => trivial

end Hwmon

/-! ## Both back ends -/

/-- When the floor is kept.  Through the ports: where no register file on the
    way has a channel below it; with registers that have one use that means
    that no channel that is taken over has a lower duty stored.  The same is
    true through the driver, whatever the channels share. -/
theorem floor_kept_iff (pwm : UInt8) (hpwm : 40 ≤ pwm.toNat) :
    (∀ channels opened regs, Direct.KeepsFloor channels pwm opened regs ↔
      Refused channels pwm ∨ opened ≠ .ok () ∨
        ∀ regs' ∈ Direct.passed pwm channels regs, Direct.Floor channels regs regs') ∧
    (∀ channels opened regs, DistinctRegisters channels →
      (Direct.KeepsFloor channels pwm opened regs ↔
        Refused channels pwm ∨ opened ≠ .ok () ∨ ∀ channel ∈ channels,
          ¬ channel.Manual regs → 40 ≤ (regs channel.duty_register).toNat)) ∧
    ∀ channels attributes, Hwmon.KeepsFloor channels pwm attributes ↔
      (channels.length = 0 ∨ channels.length > UGREENCTL_MAX_FANS) ∨
        ∀ device, Findable device → ∀ channel ∈ settable device channels,
          ¬ Hwmon.Manual device channel attributes →
            40 ≤ attributes (duty_node device channel) := by
  refine ⟨fun channels opened regs => Direct.keeps_floor_passed channels pwm opened regs, ?_,
    Hwmon.keeps_floor_iff hpwm⟩
  intro channels opened regs hdistinct
  rw [Direct.keeps_floor_passed, Direct.floor_passed_iff hpwm hdistinct]

/-- An automatic CPU fan with a stored duty of 128 may be taken over. -/
theorem floor_kept_cpu :
    Direct.KeepsFloor [⟨"cpu", 0x16, 0x6b, 0x0e, 0x19, true⟩] 120 (.ok ()) fun _ => 0x80 := by
  have hiff := (floor_kept_iff 120 (by decide)).2.1 [⟨"cpu", 0x16, 0x6b, 0x0e, 0x19, true⟩] (.ok ())
    (fun _ => 0x80) (by decide)
  rw [hiff]
  exact .inr (.inr (by decide))

/-- The registers of a chip whose CPU fan is automatic and has the duty 0
    stored. -/
def stored_zero : Registers := fun register => if register = 0x16 then 0x80 else 0

/-- Taken over at 120, that fan stands still until the duty is written. -/
theorem taken_over_below_floor :
    40 ≤ (120 : UInt8).toNat ∧
    ¬ Direct.KeepsFloor [⟨"cpu", 0x16, 0x6b, 0x0e, 0x19, true⟩] 120 (.ok ()) stored_zero := by
  refine ⟨by decide, ?_⟩
  rw [Direct.keeps_floor_passed, Direct.floor_passed_iff (by decide) (by decide), or_iff_right,
    or_iff_right (fun h => h rfl)]
  · decide
  · rw [not_refused_iff]
    exact ⟨⟨by decide, by decide, by decide⟩, by decide⟩

end UgreenNas.Fan.It8613
