import UgreenNas.Fan.DirectRead
import UgreenNas.Fan.DirectWrite
import UgreenNas.SuperIo.StartupPolicy

/-! # Fans, as commands on the chip (`fan/it8613_direct.c`)

    The direct path of the fans asks for the functions of `it86x.h` and for
    nothing else, and uses the registers of the hardware monitor only.

    * `direct`               : the accesses of the fans, by those functions;
    * `set_fans`, `read_fans` : the two commands;
    * `set_fans_spec`, `read_fans_spec` : their sessions.
-/

namespace UgreenNas.SuperIo

open Effect Effect.Proc
open UgreenNas.Fan
open UgreenNas.Fan.It8613 (FanError FanOp FanStatus fan_io io Taking DirectChannel chip by_bits)

variable {α : Type} {takes : Taking} {start now : Registers}

/-! ## From one layer to the other -/

def direct : (o : FanOp) → Unit → Prog registers (o.Ans × Unit)
  | .it86x_open, _ => (Prog.call RegisterOp.it86x_open).bind fun b => .pure (b, ())
  | .it86x_hwm_read register, _ =>
    (Prog.call (RegisterOp.it86x_hwm_read register)).bind fun b => .pure (b, ())
  | .it86x_hwm_write register value, _ =>
    (Prog.call (RegisterOp.it86x_hwm_write register value)).bind fun b => .pure (b, ())
  | .it86x_close, _ => (Prog.call RegisterOp.it86x_close).bind fun b => .pure (b, ())
  -- the direct path does not ask for these
  | .getenv _, _ => .pure (none, ())
  | .access _, _ => .pure (false, ())
  | .open_lock _, _ => .pure (.ok (), ())
  | .flock, _ => .pure (.ok (), ())
  | .close_lock, _ => .pure ((), ())
  | .opendir _, _ => .pure (.ok [], ())
  | .open_read _, _ => .pure (.ok (), ())
  | .read _ _, _ => .pure (.ok "", ())
  | .open_write _, _ => .pure (.ok (), ())
  | .write _ _, _ => .pure (.ok 0, ())
  | .close _, _ => .pure ((), ())
  | .nanosleep _, _ => .pure ((), ())

/-- A procedure of the fans as a command. -/
def on_registers (m : It8613.Io α) : Prog registers (Except FanError α) :=
  ((m.run ()).interpret direct ()).bind fun x => .pure x.1.1

def set_fans (channels : List DirectChannel) (pwm : UInt8) : Prog registers (Except FanError Unit) :=
  on_registers (It8613.it8613_direct_set_manual_pwm channels pwm.toNat)

def read_fans (channels : List DirectChannel) : Prog registers (Except FanError (List FanStatus)) :=
  on_registers (It8613.it8613_direct_read_fans channels)

/-- A session, for a procedure of the fans. -/
def fan_session (takes : Taking) : Env fan_io Session := fun r o => match o with
  | .it86x_open => session takes r .it86x_open
  | .it86x_hwm_read register => session takes r (.it86x_hwm_read register)
  | .it86x_hwm_write register value => session takes r (.it86x_hwm_write register value)
  | .it86x_close => session takes r .it86x_close
  | _ => fun _ r' => r' = .broken

abbrev InFanSession (takes : Taking) (m : It8613.Io α)
    (Q : Except FanError α → Unit → Session → Prop) (r : Session) : Prop :=
  wp (fan_session takes) (fun r => r ≠ .broken) m Q () r

/-- What is shown of a procedure of the fans holds of the command. -/
theorem wp_on_registers {m : It8613.Io α} {Q : Except FanError α → Session → Prop} {r : Session}
    (h : InFanSession takes m (fun a _ r => Q a r) r) :
    Prog.wp (session takes) (fun r => r ≠ .broken) (on_registers m) Q r := by
  have hop : ∀ o r c r₀, (∀ b r', fan_session takes r o b r' → r' ≠ .broken) → r = r₀ →
      Prog.wp (session takes) (fun r => r ≠ .broken) (direct o c)
        (fun x r₁ => ∃ r', fan_session takes r o x.1 r' ∧ r' = r₁) r₀ := by
    intro o r c r₀ hsafe hr
    subst hr
    cases o with
    | it86x_open | it86x_hwm_read | it86x_hwm_write | it86x_close =>
      exact fun b r' hstep => ⟨hsafe b r' hstep, r', hstep, rfl⟩
    | getenv => exact absurd rfl (hsafe none .broken rfl)
    | access => exact absurd rfl (hsafe false .broken rfl)
    | open_lock | flock | open_read | open_write => exact absurd rfl (hsafe (.ok ()) .broken rfl)
    | close_lock | close | nanosleep => exact absurd rfl (hsafe () .broken rfl)
    | opendir => exact absurd rfl (hsafe (.ok []) .broken rfl)
    | read => exact absurd rfl (hsafe (.ok "") .broken rfl)
    | write => exact absurd rfl (hsafe (.ok 0) .broken rfl)
  have hcommand := Prog.wp_interpret (c := ()) hop h rfl
  unfold on_registers
  rw [Prog.wp_bind]
  apply Prog.wp_mono hcommand (fun _ h => h)
  intro x r' hx
  obtain ⟨r', hQ, rfl⟩ := hx
  exact hQ

/-! ## Sessions of the fans -/

/-- An access to a register of the hardware monitor. -/
def uses_hwm : FanOp → Prop
  | .it86x_hwm_read _ | .it86x_hwm_write _ _ => True
  | _ => False

/-- Inside a session the registers of the hardware monitor are those of the
    chip, and the others do not change. -/
theorem inside_hwm {m : It8613.Io α} (hasks : Asks uses_hwm m)
    {R : Except FanError α → (UInt8 → UInt8) → Prop}
    (h : wp (chip (.ok ()) takes) (fun _ => True) m (fun r _ regs => R r regs) () now.hwm) :
    InFanSession takes m (fun r _ s => ∃ hwm, s = .inside start { now with hwm := hwm } ∧ R r hwm)
      (.inside start now) := by
  have hop : ∀ o hwm s b s', ¬ ¬ uses_hwm o → s = Session.inside start { now with hwm := hwm } →
      fan_session takes s o b s' → s' ≠ .broken ∧ ∃ hwm', chip (.ok ()) takes hwm o b hwm' ∧
        s' = .inside start { now with hwm := hwm' } := by
    intro o hwm s b s' huses hs hstep
    have huses' := not_not.mp huses
    subst hs
    cases o with
    | it86x_hwm_read register =>
      obtain ⟨hb, rfl⟩ := hstep
      exact ⟨by simp, hwm, ⟨hb, rfl⟩, rfl⟩
    | it86x_hwm_write register value =>
      obtain ⟨new, htakes, rfl⟩ := hstep
      exact ⟨by simp, _, ⟨new, htakes, rfl⟩, rfl⟩
    | _ => exact huses'.elim
  have hstart : Session.inside start now = .inside start { now with hwm := now.hwm } := rfl
  have hsimulated := Prog.wp_simulate hop (hasks ()) h hstart
  apply Prog.wp_mono hsimulated (fun _ h => h)
  intro x s hx
  obtain ⟨hwm, hR, rfl⟩ := hx
  exact ⟨hwm, rfl, hR⟩

theorem fan_open_seq {Q : Except FanError α → Unit → Session → Prop} {g : Unit → It8613.Io α}
    (hok : ∀ start, Verified start → InFanSession takes (g ()) Q (.inside start start))
    (hrefused : ∀ e, Q (.error e) () .refused)
    (hafter : ∀ e start, Q (.error e) () (.after start start)) :
    InFanSession takes (io .it86x_open >>= fun opened : Except FanError Unit => lift opened >>= g) Q
      .before := by
  intro b r' hstep
  cases b with
  | ok u =>
    obtain ⟨start, hverified, rfl⟩ := hstep
    exact ⟨by simp, hok start hverified⟩
  | error e =>
    obtain rfl | ⟨start, rfl⟩ := hstep
    · exact ⟨by simp, hrefused e⟩
    · exact ⟨by simp, hafter e start⟩

theorem fan_close_seq {Q : Except FanError α → Unit → Session → Prop} {g : Unit → It8613.Io α}
    (h : InFanSession takes (g ()) Q (.after start now)) :
    InFanSession takes (io .it86x_close >>= g) Q (.inside start now) := by
  intro b r' hstep
  obtain rfl : r' = .after start now := hstep
  exact ⟨by simp, h⟩

/-! ### Setting -/

theorem asks_set_channels (pwm : Nat) (channels : List DirectChannel) :
    Asks uses_hwm (It8613.Direct.set_channels_manual_pwm pwm channels) := by
  have hread : ∀ register, Asks uses_hwm (io (.it86x_hwm_read register)) :=
    fun _ => asks_ask trivial
  have hwrite : ∀ register value, Asks uses_hwm (io (.it86x_hwm_write register value)) :=
    fun _ _ => asks_ask trivial
  induction channels with
  | nil => exact asks_pure ()
  | cons channel rest ih =>
    apply Asks.bind _ (fun _ => ih)
    unfold It8613.Direct.set_channel_manual_pwm
    apply (hread _).bind
    intro control
    apply (hwrite _ _).bind
    intro _
    apply (hread _).bind
    intro readback
    apply (asks_bail _ _).bind
    intro _
    apply (hwrite _ _).bind
    intro _
    apply (hread _).bind
    intro readback
    exact asks_bail _ _

/-- What setting fans comes to, `R` being what the loop over the channels
    does to the hardware monitor. -/
def FansSet (R : (UInt8 → UInt8) → Except FanError Unit → (UInt8 → UInt8) → Prop) :
    Except FanError Unit → Session → Prop
  | .error _, .before => True
  | .error _, .refused => True
  | r, .after start last =>
    (R start.hwm r last.hwm ∧ last.sio = start.sio) ∨ (last = start ∧ ∃ e, r = .error e)
  | _, _ => False

theorem set_fans_spec {channels : List DirectChannel} {pwm : UInt8}
    {R : (UInt8 → UInt8) → Except FanError Unit → (UInt8 → UInt8) → Prop}
    (hchannels : ∀ regs, wp (chip (.ok ()) takes) (fun _ => True)
      (It8613.Direct.set_channels_manual_pwm pwm.toNat channels) (fun r _ regs' => R regs r regs') ()
        regs) :
    Prog.wp (session takes) (fun r => r ≠ .broken) (set_fans channels pwm) (FansSet R) .before := by
  apply wp_on_registers
  by_cases hrefused : It8613.Refused channels pwm
  · obtain ⟨error, heq⟩ := It8613.refused_fails hrefused
    rw [heq]
    exact trivial
  rw [It8613.accepted_call hrefused]
  apply fan_open_seq
  · intro start _
    have hinside : InFanSession takes (It8613.Direct.set_channels_manual_pwm pwm.toNat channels)
        (fun r _ s => ∃ hwm, s = .inside start { start with hwm := hwm } ∧ R start.hwm r hwm)
        (.inside start start) :=
      inside_hwm (asks_set_channels pwm.toNat channels) (hchannels start.hwm)
    rw [InFanSession, wp_bind, wp_attempt]
    apply wp_mono hinside (fun _ h => h)
    intro result _ s h
    obtain ⟨hwm, rfl, hR⟩ := h
    apply fan_close_seq
    cases result <;> exact .inl ⟨hR, rfl⟩
  · exact fun _ => trivial
  · exact fun e _ => .inr ⟨rfl, e, rfl⟩

/-- A chip whose registers take each bit or leave it as it was. -/
def Bitwise (takes : Taking) : Prop := ∀ old value new, takes old value new → by_bits old value new

/-- On such a chip each channel is set, or the first one that does not read
    back ends the loop. -/
theorem set_channels_written (hbits : Bitwise takes) {channels : List DirectChannel}
    (hdistinct : It8613.DistinctRegisters channels) {pwm : UInt8} {regs regs' : UInt8 → UInt8}
    {r : Except FanError Unit} {c : Unit}
    (hrun : Runs (chip (.ok ()) takes) (It8613.Direct.set_channels_manual_pwm pwm.toNat channels) ()
      regs r c regs') :
    It8613.Written channels pwm regs r regs' := by
  have hchip : ∀ regs o b regs', chip (.ok ()) takes regs o b regs' →
      chip (.ok ()) by_bits regs o b regs' := by
    intro regs o b regs' hstep
    cases o with
    | it86x_hwm_write register value =>
      obtain ⟨new, htakes, rfl⟩ := hstep
      exact ⟨new, hbits _ _ _ htakes, rfl⟩
    | _ => exact hstep
  have hruns : Runs (chip (.ok ()) by_bits) (It8613.Direct.set_channels_manual_pwm pwm.toNat channels)
      () regs r c regs' := Prog.Runs.mono hchip hrun
  exact wp_runs (It8613.set_channels_spec hdistinct regs) hruns

/-! ### Reading -/

theorem asks_read_channels (channels : List DirectChannel) :
    Asks uses_hwm (It8613.Direct.read_channels channels) := by
  have hread : ∀ register, Asks uses_hwm (io (.it86x_hwm_read register)) :=
    fun _ => asks_ask trivial
  induction channels with
  | nil => exact asks_pure []
  | cons channel rest ih =>
    apply Asks.bind
    · unfold It8613.Direct.read_channel
      apply (hread _).bind
      intro high
      apply (hread _).bind
      intro low
      split
      · apply (hread _).bind
        intro control
        apply (hread _).bind
        intro duty
        exact asks_pure _
      · exact asks_pure _
    · intro fan
      exact ih.bind fun fans => asks_pure (fan :: fans)

/-- The fans are those of the registers, which are left alone. -/
def FansRead (channels : List DirectChannel) :
    Except FanError (List FanStatus) → Session → Prop
  | .ok fans, .after start last =>
    last = start ∧ fans = channels.map fun channel => channel.status start.hwm
  | .error _, .after start last => last = start
  | .error _, .before => True
  | .error _, .refused => True
  | _, _ => False

theorem read_fans_spec (channels : List DirectChannel) :
    Prog.wp (session takes) (fun r => r ≠ .broken) (read_fans channels) (FansRead channels)
      .before := by
  apply wp_on_registers
  unfold It8613.it8613_direct_read_fans It8613.Direct.validate_mapping
  by_cases hcount : channels.length = 0 ∨ channels.length > It8613.UGREENCTL_MAX_FANS
  · rw [bail_pos hcount]
    exact trivial
  rw [bail_neg hcount]
  apply wp_bail_seq
  · intro _
    apply fan_open_seq
    · intro start _
      have hinside : InFanSession takes (It8613.Direct.read_channels channels)
          (fun r _ s => ∃ hwm, s = .inside start { start with hwm := hwm } ∧ hwm = start.hwm ∧
            r = .ok (channels.map fun channel => channel.status start.hwm))
          (.inside start start) :=
        inside_hwm (asks_read_channels channels) (It8613.Direct.read_channels_spec channels)
      apply wp_seq hinside
      · intro fans _ s h
        obtain ⟨_, rfl, rfl, hfans⟩ := h
        apply fan_close_seq
        exact ⟨rfl, Except.ok.inj hfans⟩
      · intro _ _ _ h
        obtain ⟨_, _, _, hfans⟩ := h
        cases hfans
    · exact fun _ => trivial
    · exact fun _ _ => rfl
  · exact trivial

end UgreenNas.SuperIo
