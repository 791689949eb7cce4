import UgreenNas.Fan.Curve
import Mathlib.Logic.Function.Basic

/-! # The fan daemon (`core/fan_daemon.c`)

    One iteration of `main` samples the temperatures, evaluates the curve
    and drives every target of the model's route.  The environment of an
    iteration (what the sensors, the clock and the `ugreenctl` child
    processes do) is an explicit `Sample`; the PWM a fan really runs at is
    part of the state, next to the daemon's own record of it.
-/

namespace UgreenNas.Fan

/-! ## Routes -/

inductive FanChannel where
  | cpu
  | system
  deriving DecidableEq, Repr

structure FanTarget where
  name : String
  channel : FanChannel
  deriving DecidableEq, Repr

structure ModelRoute where
  dmi_product : String
  id : String
  /-- The entries before the terminating `{NULL, 0}`. -/
  targets : List FanTarget
  requires_force : Bool
  deriving DecidableEq, Repr

def model_routes : List ModelRoute :=
  [⟨"DX4600", "dx4600", [⟨"sys", .system⟩], true⟩,
   ⟨"DX4600+", "dx4600", [⟨"sys", .system⟩], true⟩,
   ⟨"DX4600 Pro", "dx4600", [⟨"sys", .system⟩], true⟩,
   ⟨"DXP4800", "dxp4800", [⟨"sys", .system⟩], true⟩,
   ⟨"DXP4800 Plus", "dxp4800plus", [⟨"cpu", .cpu⟩, ⟨"sys", .system⟩], false⟩,
   ⟨"DXP4800 Pro", "dxp4800plus", [⟨"cpu", .cpu⟩, ⟨"sys", .system⟩], false⟩,
   ⟨"DXP4800S", "dxp4800s", [⟨"sys", .system⟩], true⟩,
   ⟨"DXP480T Plus", "dxp480tplus", [⟨"cpu", .cpu⟩, ⟨"all", .system⟩], false⟩,
   ⟨"DXP6800", "dxp6800", [⟨"cpu", .cpu⟩, ⟨"sys", .system⟩], true⟩,
   ⟨"DXP6800 Plus", "dxp6800plus", [⟨"cpu", .cpu⟩, ⟨"sys", .system⟩], true⟩,
   ⟨"DXP6800 Pro", "dxp6800pro", [⟨"cpu", .cpu⟩, ⟨"sys", .system⟩], true⟩]

def desired_for_target (target : FanTarget) (plan : CurvePlan) : Nat :=
  match target.channel with
  | .cpu => plan.cpu_pwm
  | .system => plan.system_pwm

/-! ## Holding a lower PWM -/

/-- `struct pwm_hold_state` -/
structure PwmHoldState where
  applied_pwm : Nat
  pending_lower_pwm : Nat
  pending_since : Int
  applied_known : Bool
  deriving DecidableEq, Repr

/-- `hold_lower_pwm`: the PWM to drive now and the new hold state.  `now`
    is what `time(NULL)` answers if it is asked. -/
def hold_lower_pwm (state : PwmHoldState) (desired_pwm delay_seconds : Nat) (now : Int) :
    Nat × PwmHoldState :=
  if !state.applied_known || desired_pwm ≥ state.applied_pwm then
    (desired_pwm, { state with pending_lower_pwm := 0, pending_since := 0 })
  else
    let state :=
      if state.pending_lower_pwm ≠ desired_pwm then
        { state with pending_lower_pwm := desired_pwm, pending_since := now }
      else state
    -- a clock that went back gives a huge unsigned difference
    if u64 (now - state.pending_since) < delay_seconds then
      (state.applied_pwm, state)
    else
      (desired_pwm, state)

/-! ## Writes -/

/-- What a `ugreenctl` child does: it succeeds, or it reports a failure and
    has or has not changed the fan before it did. -/
inductive WriteOutcome where
  | success
  | failed (errno : Errno) (changed : Bool)
  deriving DecidableEq, Repr

/-- A target as the daemon and the hardware know it. -/
structure TargetState where
  hold : PwmHoldState
  /-- The PWM the fan runs at. -/
  hardware : Nat
  /-- A write moved the fan and reported a failure, and none has succeeded since. -/
  torn : Bool
  deriving DecidableEq, Repr

/-- `invoke_ugreenctl`: only the exit status comes back. -/
def invoke_ugreenctl (outcome : WriteOutcome) (pwm : Nat) (target : TargetState) :
    TargetState × Except Errno Unit :=
  match outcome with
  | .success => ({ target with hardware := pwm, torn := false }, .ok ())
  | .failed errno true => ({ target with hardware := pwm, torn := true }, .error errno)
  | .failed errno false => (target, .error errno)

def apply_pwm (route : ModelRoute) (allow_unvalidated : Bool) (outcome : WriteOutcome)
    (pwm : Nat) (target : TargetState) : TargetState × Except Errno Unit :=
  if route.requires_force && !allow_unvalidated then
    (target, .error .EPERM)
  else
    invoke_ugreenctl outcome pwm target

/-- A write that succeeded is recorded. -/
def record_pwm (pwm : Nat) : TargetState × Except Errno Unit → TargetState × Except Errno Unit
  | (target, .error errno) => (target, .error errno)
  | (target, .ok ()) =>
    ({ target with hold := { target.hold with applied_pwm := pwm, applied_known := true } }, .ok ())

/-! ## One iteration -/

/-- The environment of one iteration. -/
structure Sample where
  /-- `ugreenctl_read_thermal_snapshot` -/
  snapshot : Except Errno ThermalSnapshot
  /-- `time(NULL)` while target `i` is held. -/
  clock : Nat → Int
  /-- The child process that writes target `i`. -/
  outcome : Nat → WriteOutcome

/-- The plan of an iteration: evaluated, or the failsafe PWM on any error. -/
def iteration_plan (config : CurveConfig) (sample : Sample) : CurvePlan :=
  match sample.snapshot with
  | .error _ => failsafe_plan config
  | .ok snapshot =>
    match evaluate_plan config snapshot with
    | (plan, .ok ()) => plan
    | (_, .error _) => failsafe_plan config

section iteration

variable (config : CurveConfig) (route : ModelRoute)

/-- The body of the loop over the targets. -/
def drive_target (plan : CurvePlan) (target : FanTarget) (now : Int) (outcome : WriteOutcome)
    (state : TargetState) : TargetState × Except Errno Unit :=
  let held := hold_lower_pwm state.hold (desired_for_target target plan)
    config.downshift_delay_seconds now
  let state := { state with hold := held.2 }
  if !state.hold.applied_known || held.1 ≠ state.hold.applied_pwm then
    record_pwm held.1 (apply_pwm route config.allow_unvalidated_writes outcome held.1 state)
  else
    (state, .ok ())

/-- The loop over the targets from `index` on; a failed write leaves it. -/
def drive_targets (plan : CurvePlan) (sample : Sample) :
    List FanTarget → Nat → (Nat → TargetState) → (Nat → TargetState) × Except Errno Unit
  | [], _, states => (states, .ok ())
  | target :: rest, index, states =>
    let driven := drive_target config route plan target (sample.clock index)
      (sample.outcome index) (states index)
    let states := Function.update states index driven.1
    match driven.2 with
    | .error errno => (states, .error errno)
    | .ok () => drive_targets plan sample rest (index + 1) states

/-- One iteration of the daemon: the targets afterwards and `write_result`. -/
def iteration (states : Nat → TargetState) (sample : Sample) :
    (Nat → TargetState) × Except Errno Unit :=
  drive_targets config route (iteration_plan config sample) sample route.targets 0 states

/-- The iterations of a run: each sample with the targets before it. -/
def iterations (states : Nat → TargetState) : List Sample → List ((Nat → TargetState) × Sample)
  | [] => []
  | sample :: rest => (states, sample) :: iterations (iteration config route states sample).1 rest

/-- The targets when the daemon starts on fans that run at `hardware`. -/
def initial_targets (hardware : Nat → Nat) : Nat → TargetState :=
  fun index => ⟨⟨0, 0, 0, false⟩, hardware index, false⟩

end iteration

end UgreenNas.Fan
