import Mathlib.Tactic.SplitIfs

/-!
# The cleaning state machine

The domain layer: sensor readings, commands, and `CleaningStateMachine`,
which decides at every tick one motion command and one cleaning command.  The
definitions follow the handlers of the source branch by branch; a handler
changes the machine and returns a `TickResult`, so here it maps a machine and
a context to the new machine together with the result.
-/

namespace RvcControl

inductive RobotMotionState
  | idle
  | movingForward
  | stopping
  | turning
  | backingUp
  deriving DecidableEq, Repr

inductive CleaningMode
  | off
  | normal
  | boost
  deriving DecidableEq, Repr

inductive MotionCommand
  | none
  | moveForward
  | stop
  | turnLeft
  | turnRight
  | moveBackward
  deriving DecidableEq, Repr

inductive TurnDirection
  | left
  | right
  deriving DecidableEq, Repr

inductive CleaningCommand
  | none
  | setOff
  | setNormal
  | setBoost
  deriving DecidableEq, Repr

structure SensorSnapshot where
  frontBlocked : Bool := false
  leftBlocked : Bool := false
  rightBlocked : Bool := false
  dustDetected : Bool := false
  deriving DecidableEq, Repr

structure TickContext where
  sensors : SensorSnapshot := {}
  turnDirection : TurnDirection := .left
  boostTimerExpired : Bool := false
  deriving DecidableEq, Repr

structure TickResult where
  nextMotionState : RobotMotionState := .idle
  nextCleaningMode : CleaningMode := .off
  motion : MotionCommand := .none
  clean : CleaningCommand := .none
  deriving DecidableEq, Repr

/-- The defaults are the constructor's: a new machine is idle, with suction
off. -/
structure CleaningStateMachine where
  motionState : RobotMotionState := .idle
  cleaningMode : CleaningMode := .off
  activeTurnDirection : TurnDirection := .left
  deriving DecidableEq, Repr

def SensorSnapshot.allSidesBlocked (sensors : SensorSnapshot) : Bool :=
  sensors.frontBlocked && sensors.leftBlocked && sensors.rightBlocked

namespace CleaningStateMachine

/-- Starting keeps the remembered turn direction. -/
def start (m : CleaningStateMachine) : CleaningStateMachine :=
  { m with motionState := .movingForward, cleaningMode := .normal }

def turnMotionCommand (m : CleaningStateMachine) : MotionCommand :=
  if m.activeTurnDirection = .left then .turnLeft else .turnRight

/-- The suction decision while the robot is not driving straight. -/
def resolveCleaningDuringManeuver (m : CleaningStateMachine) (context : TickContext) :
    CleaningStateMachine × CleaningCommand :=
  if context.sensors.dustDetected then
    ({ m with cleaningMode := .boost }, .setBoost)
  else if m.cleaningMode = .boost ∧ !context.boostTimerExpired then
    (m, .setBoost)
  else
    ({ m with cleaningMode := .off }, .setOff)

def applyCleaningBoost (m : CleaningStateMachine) (context : TickContext)
    (result : TickResult) : CleaningStateMachine × TickResult :=
  let m := { m with cleaningMode := CleaningMode.normal }
  let result := { result with
    nextCleaningMode := m.cleaningMode, clean := CleaningCommand.setNormal }
  if context.sensors.dustDetected then
    let m := { m with cleaningMode := CleaningMode.boost }
    (m, { result with nextCleaningMode := m.cleaningMode, clean := .setBoost })
  else
    (m, result)

/-- What every tick of a manoeuvre shares: the reported motion state and the
motion command are given, the suction is resolved. -/
def maneuver (m : CleaningStateMachine) (context : TickContext)
    (nextMotionState : RobotMotionState) (motion : MotionCommand) :
    CleaningStateMachine × TickResult :=
  let (m, clean) := m.resolveCleaningDuringManeuver context
  (m, { nextMotionState, motion, clean, nextCleaningMode := m.cleaningMode })

def handleMovingForward (m : CleaningStateMachine) (context : TickContext) :
    CleaningStateMachine × TickResult :=
  if context.sensors.allSidesBlocked then
    { m with motionState := .backingUp }.maneuver context .backingUp .moveBackward
  else if context.sensors.frontBlocked then
    { m with motionState := .stopping }.maneuver context .stopping .stop
  else
    let result : TickResult := { nextMotionState := .movingForward, motion := .moveForward }
    if m.cleaningMode = .boost then
      -- a running boost looks at the timer only, not at the dust sensor
      if context.boostTimerExpired then
        ({ m with cleaningMode := .normal },
          { result with clean := .setNormal, nextCleaningMode := .normal })
      else
        (m, { result with clean := .setBoost, nextCleaningMode := m.cleaningMode })
    else
      m.applyCleaningBoost context result

/-- The opening tick is over: latch the direction and begin to turn, whatever
the sensors read. -/
def beginTurn (m : CleaningStateMachine) (context : TickContext) :
    CleaningStateMachine × TickResult :=
  let m := { m with activeTurnDirection := context.turnDirection, motionState := .turning }
  m.maneuver context .turning m.turnMotionCommand

def handleStopping (m : CleaningStateMachine) (context : TickContext) :
    CleaningStateMachine × TickResult :=
  m.beginTurn context

def handleBackingUp (m : CleaningStateMachine) (context : TickContext) :
    CleaningStateMachine × TickResult :=
  m.beginTurn context

def handleTurning (m : CleaningStateMachine) (context : TickContext) :
    CleaningStateMachine × TickResult :=
  if !context.sensors.frontBlocked then
    let result : TickResult := { nextMotionState := .movingForward, motion := .moveForward }
    -- the end of a turn looks at the dust sensor only, not at the mode or the timer
    if context.sensors.dustDetected then
      ({ m with motionState := .movingForward, cleaningMode := .boost },
        { result with nextCleaningMode := .boost, clean := .setBoost })
    else
      ({ m with motionState := .movingForward, cleaningMode := .normal },
        { result with nextCleaningMode := .normal, clean := .setNormal })
  else
    m.maneuver context .turning m.turnMotionCommand

def tick (m : CleaningStateMachine) (context : TickContext) :
    CleaningStateMachine × TickResult :=
  match m.motionState with
  | .idle => (m, {})
  | .movingForward => m.handleMovingForward context
  | .stopping => m.handleStopping context
  | .backingUp => m.handleBackingUp context
  | .turning => m.handleTurning context

section Maneuver

variable (m : CleaningStateMachine) (context : TickContext)

/-- Resolving the suction touches nothing but the cleaning mode. -/
theorem resolveCleaningDuringManeuver_frame :
    (m.resolveCleaningDuringManeuver context).1 =
      { m with cleaningMode := (m.resolveCleaningDuringManeuver context).1.cleaningMode } := by
  unfold resolveCleaningDuringManeuver
  split
  · rfl
  · split <;> rfl

@[simp] theorem resolveCleaningDuringManeuver_motionState :
    (m.resolveCleaningDuringManeuver context).1.motionState = m.motionState := by
  rw [resolveCleaningDuringManeuver_frame]

@[simp] theorem resolveCleaningDuringManeuver_activeTurnDirection :
    (m.resolveCleaningDuringManeuver context).1.activeTurnDirection =
      m.activeTurnDirection := by
  rw [resolveCleaningDuringManeuver_frame]

variable (nextMotionState : RobotMotionState) (motion : MotionCommand)

@[simp] theorem maneuver_fst :
    (m.maneuver context nextMotionState motion).1 =
      (m.resolveCleaningDuringManeuver context).1 := rfl

@[simp] theorem maneuver_snd :
    (m.maneuver context nextMotionState motion).2 =
      { nextMotionState, motion
        clean := (m.resolveCleaningDuringManeuver context).2
        nextCleaningMode := (m.resolveCleaningDuringManeuver context).1.cleaningMode } := rfl

end Maneuver

/-- The result reports the machine as the tick leaves it. -/
theorem tick_reports (m : CleaningStateMachine) (context : TickContext)
    (hstarted : m.motionState ≠ .idle) :
    (m.tick context).2.nextMotionState = (m.tick context).1.motionState ∧
      (m.tick context).2.nextCleaningMode = (m.tick context).1.cleaningMode := by
  cases hs : m.motionState with
  | idle => exact absurd hs hstarted
  | movingForward =>
      simp only [tick, hs, handleMovingForward, applyCleaningBoost]
      split_ifs <;> simp [hs]
  | stopping => simp [tick, hs, handleStopping, beginTurn]
  | turning =>
      simp only [tick, hs, handleTurning]
      split_ifs <;> simp [hs]
  | backingUp => simp [tick, hs, handleBackingUp, beginTurn]

end CleaningStateMachine

end RvcControl
