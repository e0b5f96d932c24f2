import Mathlib.Tactic.TypeStar
import RvcControl.StateMachine

/-!
# The cleaning service over its ports

`CleaningService` connects the state machine to five ports.  A port is a class
here, so the service is defined once, for every implementation of them; the
objects a service refers to are kept inside it, since nothing in the model has
a second copy.  `Read` is `const` in the source but may advance a `mutable`
cursor, so it returns the reader as it leaves it.

Milliseconds are integers, and sums of them are exact here.  What is said of
when a boost ends or is kept holds on the machine as long as its sums stay in
the range of a signed 64-bit integer (`session64_run_exact`); the sums of the
simulator always do (`boost_time_in_range`).  That timer and mode are in step
is shown for the timer of the machine itself (`timer_in_step`).  Motion, and all
that concerns texts, clicks and requests, does not depend on the time.
-/

namespace RvcControl

class ISensorReader (ρ : Type*) where
  read : ρ → SensorSnapshot × ρ

/-- The snapshot a reader hands out when it is read next. -/
def sensorsRead {ρ : Type*} [ISensorReader ρ] (reader : ρ) : SensorSnapshot :=
  (ISensorReader.read reader).1

class IMotionActuator (μ : Type*) where
  execute : MotionCommand → μ → μ

class ICleaningActuator (κ : Type*) where
  execute : CleaningCommand → κ → κ

class ITimer (τ : Type*) where
  startBoost : Int → τ → τ
  isBoostExpired : τ → Bool
  cancelBoost : τ → τ

class ITurnStrategy (σ : Type*) where
  choose : σ → SensorSnapshot → TurnDirection

structure CleaningService (ρ μ κ τ σ : Type*) where
  sensorReader : ρ
  motionActuator : μ
  cleaningActuator : κ
  timer : τ
  turnStrategy : σ
  /-- The constructor's default is three seconds. -/
  boostDuration : Int := 3000
  stateMachine : CleaningStateMachine := {}
  running : Bool := false

namespace CleaningService

variable {ρ μ κ τ σ : Type*}

def start [ITimer τ] (s : CleaningService ρ μ κ τ σ) : CleaningService ρ μ κ τ σ :=
  { s with
    stateMachine := s.stateMachine.start
    running := true
    timer := ITimer.cancelBoost s.timer }

/-- The motion half of the commands: a tick without one leaves the actuator
alone. -/
def executeMotion [IMotionActuator μ] (s : CleaningService ρ μ κ τ σ)
    (motion : MotionCommand) : CleaningService ρ μ κ τ σ :=
  if motion ≠ .none then
    { s with motionActuator := IMotionActuator.execute motion s.motionActuator }
  else s

/-- The cleaning half: besides driving the actuator, every `SetBoost` arms the
timer afresh and every other command cancels it. -/
def executeClean [ICleaningActuator κ] [ITimer τ] (s : CleaningService ρ μ κ τ σ)
    (clean : CleaningCommand) : CleaningService ρ μ κ τ σ :=
  if clean ≠ .none then
    let s := { s with cleaningActuator := ICleaningActuator.execute clean s.cleaningActuator }
    if clean = .setBoost then
      { s with timer := ITimer.startBoost s.boostDuration s.timer }
    else if clean = .setOff ∨ clean = .setNormal then
      { s with timer := ITimer.cancelBoost s.timer }
    else s
  else s

/-- What the machine is handed at a tick. -/
def tickContext [ITurnStrategy σ] [ITimer τ] (s : CleaningService ρ μ κ τ σ)
    (sensors : SensorSnapshot) : TickContext where
  sensors := sensors
  turnDirection := ITurnStrategy.choose s.turnStrategy sensors
  boostTimerExpired := ITimer.isBoostExpired s.timer

def tick [ISensorReader ρ] [IMotionActuator μ] [ICleaningActuator κ] [ITimer τ]
    [ITurnStrategy σ] (s : CleaningService ρ μ κ τ σ) : CleaningService ρ μ κ τ σ :=
  if !s.running then s
  else
    let (sensors, sensorReader) := ISensorReader.read s.sensorReader
    let (stateMachine, result) := s.stateMachine.tick (s.tickContext sensors)
    let s := { s with sensorReader, stateMachine }
    (s.executeMotion result.motion).executeClean result.clean

section Frames

variable [ICleaningActuator κ] [ITimer τ] (s : CleaningService ρ μ κ τ σ)
  (clean : CleaningCommand)

@[simp] theorem executeClean_running : (s.executeClean clean).running = s.running := by
  unfold executeClean
  split_ifs <;> rfl

@[simp] theorem executeClean_stateMachine :
    (s.executeClean clean).stateMachine = s.stateMachine := by
  unfold executeClean
  split_ifs <;> rfl

@[simp] theorem executeClean_motionActuator :
    (s.executeClean clean).motionActuator = s.motionActuator := by
  unfold executeClean
  split_ifs <;> rfl

end Frames

section Tick

variable [ISensorReader ρ] [IMotionActuator μ] [ICleaningActuator κ] [ITimer τ]
  [ITurnStrategy σ] (s : CleaningService ρ μ κ τ σ)

/-- A service that does not run ignores a tick. -/
theorem tick_of_not_running (h : s.running = false) : s.tick = s := by
  simp [tick, h]

/-- A tick does not change how long a boost lasts. -/
theorem tick_boostDuration : s.tick.boostDuration = s.boostDuration := by
  simp only [tick, executeClean, executeMotion]
  split_ifs <;> rfl

/-- What the machine answers at a tick. -/
def tickResult : CleaningStateMachine × TickResult :=
  s.stateMachine.tick (s.tickContext (sensorsRead s.sensorReader))

/-- A tick of a running service, effect by effect. -/
theorem tick_of_running (h : s.running = true) :
    s.tick =
      (({ s with
          sensorReader := (ISensorReader.read s.sensorReader).2
          stateMachine := s.tickResult.1 } : CleaningService ρ μ κ τ σ).executeMotion
        s.tickResult.2.motion).executeClean s.tickResult.2.clean := by
  simp [tick, h, tickResult, sensorsRead]

end Tick

end CleaningService

end RvcControl
