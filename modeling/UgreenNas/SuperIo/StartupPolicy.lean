import UgreenNas.SuperIo.Serial

/-! # The startup policy (`power/it8613_power.c`)

    What the machine does when the power comes back is kept in one bit of
    the register 0xf2 and two of 0xf4, which the board uses for other things
    too.

    * `decode_policy`, `policy_registers` : the bits;
    * `it8613_read_startup_policy`, `it8613_set_startup_policy`;
    * `read_spec`, `set_spec`             : their sessions.
-/

namespace UgreenNas.SuperIo

open Effect Effect.Proc
open UgreenNas.Fan.It8613 (FanError Taking)

/-- `enum ugreenctl_startup_policy` -/
inductive StartupPolicy where
  | unknown
  | on
  | off
  | restore
  deriving DecidableEq

abbrev Reg (α : Type) : Type := Proc registers Unit FanError α

def reg (o : RegisterOp) : Reg o.Ans := @ask registers Unit FanError o

/-! ## The bits -/

def decode_policy (f2 f4 : UInt8) : StartupPolicy :=
  let state : UInt8 := ((f2 >>> (3 : UInt8)) &&& 0x4) ||| ((f4 >>> (5 : UInt8)) &&& 0x3)
  if state = 1 then .on else if state = 3 then .off else if state = 7 then .restore else .unknown

def Registers.policy (regs : Registers) : StartupPolicy :=
  decode_policy (regs.sio 0xf2) (regs.sio 0xf4)

/-- What is written for a policy, where `f2` and `f4` are read; nothing for
    one that is not known. -/
def policy_registers (policy : StartupPolicy) (f2 f4 : UInt8) : Option (UInt8 × UInt8) :=
  match policy with
  | .on => some (f2 &&& ~~~0x20, (f4 ||| 0x20) &&& ~~~0x40)
  | .off => some (f2 &&& ~~~0x20, f4 ||| 0x60)
  | .restore => some (f2 ||| 0x20, f4 ||| 0x60)
  | .unknown => none

/-- All bytes are tried. -/
theorem forall_byte {p : UInt8 → Prop} (h : ∀ b : BitVec 8, p ⟨b⟩) (b : UInt8) : p b :=
  h b.toBitVec

/-- The policy is written whole, and nothing else is. -/
theorem decode_policy_registers {policy : StartupPolicy} {f2 f4 g2 g4 : UInt8}
    (h : policy_registers policy f2 f4 = some (g2, g4)) :
    decode_policy g2 g4 = policy ∧ g2 &&& ~~~0x20 = f2 &&& ~~~0x20 ∧
      g4 &&& ~~~0x60 = f4 &&& ~~~0x60 := by
  have hclear : ∀ b : UInt8, ((b &&& ~~~0x20) >>> 3) &&& 0x4 = 0 ∧
      (b &&& ~~~0x20) &&& ~~~0x20 = b &&& ~~~0x20 := forall_byte (by decide)
  have hset : ∀ b : UInt8, ((b ||| 0x20) >>> 3) &&& 0x4 = 4 ∧
      (b ||| 0x20) &&& ~~~0x20 = b &&& ~~~0x20 := forall_byte (by decide)
  have hone : ∀ b : UInt8, (((b ||| 0x20) &&& ~~~0x40) >>> 5) &&& 0x3 = 1 ∧
      ((b ||| 0x20) &&& ~~~0x40) &&& ~~~0x60 = b &&& ~~~0x60 := forall_byte (by decide)
  have hboth : ∀ b : UInt8, ((b ||| 0x60) >>> 5) &&& 0x3 = 3 ∧
      (b ||| 0x60) &&& ~~~0x60 = b &&& ~~~0x60 := forall_byte (by decide)
  cases policy with
  | unknown => cases h
  | on =>
    obtain ⟨rfl, rfl⟩ := Prod.mk.inj (Option.some.inj h)
    refine ⟨?_, (hclear f2).2, (hone f4).2⟩
    rw [decode_policy, (hclear f2).1, (hone f4).1]
    rfl
  | off =>
    obtain ⟨rfl, rfl⟩ := Prod.mk.inj (Option.some.inj h)
    refine ⟨?_, (hclear f2).2, (hboth f4).2⟩
    rw [decode_policy, (hclear f2).1, (hboth f4).1]
    rfl
  | restore =>
    obtain ⟨rfl, rfl⟩ := Prod.mk.inj (Option.some.inj h)
    refine ⟨?_, (hset f2).2, (hboth f4).2⟩
    rw [decode_policy, (hset f2).1, (hboth f4).1]
    rfl

/-! ## Reading and setting -/

def it8613_read_startup_policy : Reg StartupPolicy := do
  let opened : Except FanError Unit ← reg .it86x_open
  lift opened
  let f2 : UInt8 ← reg (.it86x_sio_read 0xf2)
  let f4 : UInt8 ← reg (.it86x_sio_read 0xf4)
  reg .it86x_close
  pure (decode_policy f2 f4)

def policy_name : StartupPolicy → String
  | .on => "on"
  | .off => "off"
  | _ => "restore"

def readback_error (policy : StartupPolicy) : FanError :=
  ⟨Errno.EIO, "IT8613 AC-recovery register readback did not match " ++ policy_name policy ++ " policy"⟩

/-- The second register is only read if the first is as it should be. -/
def reads_back (policy : StartupPolicy) (f2 f4 : UInt8) : Reg Bool := do
  let first : UInt8 ← reg (.it86x_sio_read 0xf2)
  if first ≠ f2 then
    pure false
  else do
    let second : UInt8 ← reg (.it86x_sio_read 0xf4)
    pure (second = f4 && decode_policy f2 f4 = policy)

def it8613_set_startup_policy (policy : StartupPolicy) : Reg Unit := do
  let opened : Except FanError Unit ← reg .it86x_open
  lift opened
  let f2 : UInt8 ← reg (.it86x_sio_read 0xf2)
  let f4 : UInt8 ← reg (.it86x_sio_read 0xf4)
  match policy_registers policy f2 f4 with
  | none => do
    reg .it86x_close
    fail ⟨.EINVAL, "invalid startup policy"⟩
  | some (f2, f4) => do
    reg (.it86x_sio_write 0xf2 f2)
    reg (.it86x_sio_write 0xf4 f4)
    let verified ← reads_back policy f2 f4
    reg .it86x_close
    bail (verified = false) (readback_error policy)

/-! ## Sessions of procedures -/

section rules

variable {κ α : Type} {takes : Taking} {start now : Registers}
  {Q : Except FanError α → Unit → Session → Prop}

/-- The weakest precondition of a procedure that is disciplined. -/
abbrev InSession (takes : Taking) (m : Reg α) (Q : Except FanError α → Unit → Session → Prop)
    (r : Session) : Prop :=
  wp (session takes) (fun r => r ≠ .broken) m Q () r

theorem open_seq {g : Unit → Reg α}
    (hok : ∀ start, Verified start → InSession takes (g ()) Q (.inside start start))
    (hrefused : ∀ e, Q (.error e) () .refused)
    (hafter : ∀ e start, Q (.error e) () (.after start start)) :
    InSession takes (reg .it86x_open >>= fun opened : Except FanError Unit => lift opened >>= g) Q
      .before := by
  intro b r' hstep
  cases b with
  | ok u =>
    obtain ⟨start, hverified, rfl⟩ := hstep
    exact ⟨by simp, hok start hverified⟩
  | error e =>
    obtain rfl | ⟨start, rfl⟩ := hstep
    · exact ⟨by simp, hrefused e⟩
    · exact ⟨by simp, hafter e start⟩

theorem read_seq {register : UInt8} {g : UInt8 → Reg α}
    (h : InSession takes (g (now.sio register)) Q (.inside start now)) :
    InSession takes (reg (.it86x_sio_read register) >>= g) Q (.inside start now) := by
  intro b r' hstep
  obtain ⟨rfl, rfl⟩ := hstep
  exact ⟨by simp, h⟩

theorem write_seq {register value : UInt8} {g : Unit → Reg α}
    (hregister : ¬ (register = 0x02 ∨ register = 0x07))
    (h : ∀ new, takes (now.sio register) value new →
      InSession takes (g ()) Q (.inside start
        { now with sio := Function.update now.sio register new })) :
    InSession takes (reg (.it86x_sio_write register value) >>= g) Q (.inside start now) := by
  intro b r' hstep
  simp only [session, if_neg hregister] at hstep
  obtain ⟨new, htakes, rfl⟩ := hstep
  exact ⟨by simp, h new htakes⟩

theorem close_seq {g : Unit → Reg α} (h : InSession takes (g ()) Q (.after start now)) :
    InSession takes (reg .it86x_close >>= g) Q (.inside start now) := by
  intro b r' hstep
  obtain rfl : r' = .after start now := hstep
  exact ⟨by simp, h⟩

end rules

/-! ## What is read -/

variable {takes : Taking}

/-- The policy of the registers, which are left alone. -/
def PolicyRead : Except FanError StartupPolicy → Session → Prop
  | .ok policy, .after start last => last = start ∧ policy = start.policy
  | .error _, .after start last => last = start
  | .error _, .refused => True
  | _, _ => False

theorem read_spec : InSession takes it8613_read_startup_policy (fun r _ s => PolicyRead r s) .before := by
  unfold it8613_read_startup_policy
  apply open_seq
  · intro start _
    apply read_seq
    apply read_seq
    apply close_seq
    exact ⟨rfl, rfl⟩
  · exact fun _ => trivial
  · exact fun _ _ => rfl

/-! ## What is set -/

/-- Only the registers of the policy have changed. -/
structure PolicyFrame (regs regs' : Registers) : Prop where
  sio : ∀ register, register ≠ 0xf2 → register ≠ 0xf4 → regs'.sio register = regs.sio register
  hwm : regs'.hwm = regs.hwm

/-- Only the bits of the policy have changed. -/
structure PolicySet (policy : StartupPolicy) (regs regs' : Registers) : Prop where
  frame : PolicyFrame regs regs'
  policy : regs'.policy = policy
  f2 : regs'.sio 0xf2 &&& ~~~0x20 = regs.sio 0xf2 &&& ~~~0x20
  f4 : regs'.sio 0xf4 &&& ~~~0x60 = regs.sio 0xf4 &&& ~~~0x60

theorem PolicyFrame.refl (regs : Registers) : PolicyFrame regs regs := ⟨fun _ _ _ => rfl, rfl⟩

/-- A failure that is not one of the readback has changed nothing. -/
def PolicyWritten (policy : StartupPolicy) : Except FanError Unit → Session → Prop
  | .ok (), .after start last => policy ≠ .unknown ∧ PolicySet policy start last
  | .error e, .after start last => PolicyFrame start last ∧ (e ≠ readback_error policy → last = start)
  | .error _, .refused => True
  | _, _ => False

theorem policyFrame_update (regs : Registers) (new₂ new₄ : UInt8) :
    PolicyFrame regs { regs with
      sio := Function.update (Function.update regs.sio 0xf2 new₂) 0xf4 new₄ } where
  sio register h₂ h₄ := by
    show Function.update (Function.update regs.sio 0xf2 new₂) 0xf4 new₄ register = _
    rw [Function.update_of_ne h₄, Function.update_of_ne h₂]
  hwm := rfl

/-- The readback, where the registers hold `new₂` and `new₄`. -/
theorem reads_back_seq {α : Type} {policy : StartupPolicy} {f2 f4 : UInt8} {start now : Registers}
    {g : Bool → Reg α} {Q : Except FanError α → Unit → Session → Prop}
    (hpolicy : decode_policy f2 f4 = policy)
    (hsame : now.sio 0xf2 = f2 → now.sio 0xf4 = f4 →
      InSession takes (g true) Q (.inside start now))
    (hdiffers : InSession takes (g false) Q (.inside start now)) :
    InSession takes (reads_back policy f2 f4 >>= g) Q (.inside start now) := by
  have hread : InSession takes (reads_back policy f2 f4)
      (fun r _ s => s = .inside start now ∧
        (r = .ok true ∧ now.sio 0xf2 = f2 ∧ now.sio 0xf4 = f4 ∨ r = .ok false))
      (.inside start now) := by
    unfold reads_back
    apply read_seq
    by_cases hfirst : now.sio 0xf2 = f2
    · rw [if_neg (not_not.mpr hfirst)]
      apply read_seq
      by_cases hsecond : now.sio 0xf4 = f4
      · exact ⟨rfl, .inl ⟨by simp [hsecond, hpolicy], hfirst, hsecond⟩⟩
      · exact ⟨rfl, .inr (by simp [hsecond])⟩
    · rw [if_pos hfirst]
      exact ⟨rfl, .inr rfl⟩
  apply wp_seq hread
  · intro verified _ s h
    obtain ⟨rfl, ⟨hverified, hfirst, hsecond⟩ | hverified⟩ := h
    · obtain rfl := Except.ok.inj hverified
      exact hsame hfirst hsecond
    · obtain rfl := Except.ok.inj hverified
      exact hdiffers
  · intro e _ _ h
    obtain ⟨-, ⟨herror, -⟩ | herror⟩ := h <;> cases herror

/-- Whatever becomes of the bytes that are written. -/
theorem set_spec (policy : StartupPolicy) :
    InSession takes (it8613_set_startup_policy policy) (fun r _ s => PolicyWritten policy r s)
      .before := by
  unfold it8613_set_startup_policy
  apply open_seq
  · intro start _
    apply read_seq
    apply read_seq
    cases hregisters : policy_registers policy (start.sio 0xf2) (start.sio 0xf4) with
    | none =>
      apply close_seq
      exact ⟨.refl start, fun _ => rfl⟩
    | some written =>
      obtain ⟨g2, g4⟩ := written
      obtain ⟨hpolicy, hf2, hf4⟩ := decode_policy_registers hregisters
      have hknown : policy ≠ .unknown := by
        rintro rfl
        cases hregisters
      apply write_seq (by decide)
      intro new₂ _
      apply write_seq (by decide)
      intro new₄ _
      apply reads_back_seq hpolicy
      · intro hfirst hsecond
        apply close_seq
        refine ⟨hknown, policyFrame_update start new₂ new₄, ?_, ?_, ?_⟩
        · unfold Registers.policy
          rw [hfirst, hsecond]
          exact hpolicy
        · rw [hfirst]
          exact hf2
        · rw [hsecond]
          exact hf4
      · apply close_seq
        exact ⟨policyFrame_update start new₂ new₄, fun hne => absurd rfl hne⟩
  · exact fun _ => trivial
  · exact fun _ start => ⟨.refl start, fun _ => rfl⟩

end UgreenNas.SuperIo
