import RvcControl.InMemoryAdapters
import RvcControl.Mealy

/-!
# The simulator service

`SimulatorService` owns one set of in-memory adapters, a switchable turn
strategy and one cleaning service over them.  Its four public methods are the
calls a client can make, so the service is a machine whose inputs are calls
and whose answers are the `SimulatorState`s that `Tick` and `GetState` return.
Each method holds the mutex for its whole body; the model is the sequence of
calls in the order the lock is taken.
-/

namespace RvcControl

structure SimulatorState where
  motionState : RobotMotionState := .idle
  cleaningMode : CleaningMode := .off
  lastMotion : MotionCommand := .none
  lastClean : CleaningCommand := .none
  running : Bool := false
  deriving DecidableEq, Repr

/-- A cleaning service on the in-memory adapters. -/
abbrev InMemoryService (σ : Type*) :=
  CleaningService ReplayReader InMemoryMotionActuator InMemoryCleaningActuator FakeTimer σ

/-- The adapters are those the cleaning service refers to. -/
structure SimulatorService where
  preferLeftStrategy : PreferLeftTurnStrategy
  forceRightStrategy : FixedTurnStrategy
  cleaningService : InMemoryService SwitchableTurnStrategy

namespace SimulatorService

def new : SimulatorService where
  preferLeftStrategy := {}
  forceRightStrategy := { direction := .right }
  cleaningService :=
    { sensorReader := .new, motionActuator := {}, cleaningActuator := {}, timer := {}
      turnStrategy := SwitchableTurnStrategy.setActive {} ({} : PreferLeftTurnStrategy) }

/-- The cleaning service itself, its machine and its running flag are left as
they are. -/
def reset (s : SimulatorService) : SimulatorService :=
  { s with
    cleaningService := { s.cleaningService with
      sensorReader := s.cleaningService.sensorReader.reset
      motionActuator := s.cleaningService.motionActuator.clear
      cleaningActuator := s.cleaningService.cleaningActuator.clear
      timer := s.cleaningService.timer.cancelBoost } }

def start (s : SimulatorService) (turnStrategy : String := "prefer_left") :
    SimulatorService :=
  let switchable :=
    if turnStrategy = "force_right" then
      s.cleaningService.turnStrategy.setActive s.forceRightStrategy
    else
      s.cleaningService.turnStrategy.setActive s.preferLeftStrategy
  { s with
    cleaningService := CleaningService.start { s.cleaningService with
      turnStrategy := switchable
      motionActuator := s.cleaningService.motionActuator.clear
      cleaningActuator := s.cleaningService.cleaningActuator.clear
      timer := s.cleaningService.timer.cancelBoost } }

/-- `GetState`, and what `Tick` returns at its end. -/
def getState (s : SimulatorService) : SimulatorState where
  motionState := s.cleaningService.stateMachine.motionState
  cleaningMode := s.cleaningService.stateMachine.cleaningMode
  lastMotion := s.cleaningService.motionActuator.history.getLastD .none
  lastClean := s.cleaningService.cleaningActuator.history.getLastD .none
  running := s.cleaningService.running

end SimulatorService

/-- Advance the timer if there is anything to advance by, put one snapshot
before the reader and tick: the body of a simulator tick and of a scenario
step. -/
def InMemoryService.drive {σ : Type*} [ITurnStrategy σ] (c : InMemoryService σ)
    (sensors : SensorSnapshot) (timerAdvance : Int) : InMemoryService σ :=
  let c := if timerAdvance > 0 then { c with timer := c.timer.advance timerAdvance } else c
  let c := { c with sensorReader := c.sensorReader.setSnapshots [sensors] }
  c.tick

namespace SimulatorService

def tick (s : SimulatorService) (sensors : SensorSnapshot) (timerAdvance : Int := 0) :
    SimulatorService × SimulatorState :=
  let s := { s with cleaningService := s.cleaningService.drive sensors timerAdvance }
  (s, s.getState)

/-- The public methods, as a client calls them. -/
inductive Call
  | reset
  | start (turnStrategy : String)
  | tick (sensors : SensorSnapshot) (timerAdvance : Int)
  | getState
  deriving DecidableEq, Repr

/-- One call and its return value; `Reset` and `Start` return nothing. -/
def call (s : SimulatorService) : Call → SimulatorService × Option SimulatorState
  | .reset => (s.reset, none)
  | .start turnStrategy => (s.start turnStrategy, none)
  | .tick sensors timerAdvance =>
      let (s, state) := s.tick sensors timerAdvance
      (s, some state)
  | .getState => (s, some s.getState)

end SimulatorService

/-- The simulator service as its clients see it. -/
def simulator : Mealy SimulatorService SimulatorService.Call (Option SimulatorState) :=
  ⟨SimulatorService.call⟩

/-- The service after a sequence of calls to a new one. -/
def SimulatorService.after (calls : List SimulatorService.Call) : SimulatorService :=
  simulator.run .new calls

end RvcControl
