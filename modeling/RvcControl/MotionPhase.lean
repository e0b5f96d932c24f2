import RvcControl.Mealy
import RvcControl.StateMachine

/-!
# The motion of the state machine, abstracted

Of everything a tick computes, the motion depends on the sensors around the
robot and on the turn direction only; dust, cleaning mode and timer play no
part.  What is left is a four-phase automaton that *carries* the latched turn
direction inside its turning phase, so that a direction outside a turn cannot
even be asked for:

    cruising --front--> stopped   --> turning d --clear--> cruising
    cruising --all----> backedUp  --> turning d --clear--> cruising

Each phase is entered by issuing its own command, so the automaton's answer is
read off the phase it moves to.  `InPhase` says which machines an abstract
phase stands for, and `InPhase.tick` and `InPhase.tick_motion` that the
machine follows the automaton.
-/

namespace RvcControl

/-- Where a started robot is in its manoeuvre. -/
inductive MotionPhase
  | cruising
  | stopped
  | backedUp
  | turning (direction : TurnDirection)
  deriving DecidableEq, Repr

def TurnDirection.command : TurnDirection → MotionCommand
  | .left => .turnLeft
  | .right => .turnRight

/-- The command tells the direction. -/
theorem TurnDirection.command_injective : Function.Injective command := by
  intro d e h
  cases d <;> cases e <;> first | rfl | cases h

namespace MotionPhase

/-- The phase after a tick that reads `sensors` while the turn strategy would
choose `choice`. -/
def next (p : MotionPhase) (sensors : SensorSnapshot) (choice : TurnDirection) :
    MotionPhase :=
  match p with
  | cruising =>
      if sensors.allSidesBlocked then backedUp
      else if sensors.frontBlocked then stopped
      else cruising
  | stopped => turning choice
  | backedUp => turning choice
  | turning d => if sensors.frontBlocked then turning d else cruising

/-- The command by which a phase is entered. -/
def command : MotionPhase → MotionCommand
  | cruising => .moveForward
  | stopped => .stop
  | backedUp => .moveBackward
  | turning d => d.command

def motionState : MotionPhase → RobotMotionState
  | cruising => .movingForward
  | stopped => .stopping
  | backedUp => .backingUp
  | turning _ => .turning

/-- A command names its phase: the abstract automaton can be read off what the
robot was told to do. -/
theorem command_injective : Function.Injective command := by
  intro p q h
  cases p <;> cases q <;> first
    | rfl
    | cases h
    | (rename_i d e; exact congrArg turning (TurnDirection.command_injective h))
    | (rename_i d; cases d <;> cases h)

/-- Every phase has its command. -/
theorem command_ne_none (p : MotionPhase) : p.command ≠ .none := by
  cases p with
  | turning d => cases d <;> decide
  | _ => decide

theorem motionState_ne_idle (p : MotionPhase) : p.motionState ≠ .idle := by
  cases p <;> nofun

/-- With a free front not all sides are blocked. -/
theorem allSidesBlocked_front {sensors : SensorSnapshot}
    (h : sensors.frontBlocked = false) : sensors.allSidesBlocked = false := by
  simp [SensorSnapshot.allSidesBlocked, h]

/-- **Driving on.**  The robot cruises after a tick exactly if the tick reads
a clear front and does not have to begin a turn. -/
theorem next_eq_cruising (p : MotionPhase) (sensors : SensorSnapshot)
    (choice : TurnDirection) :
    p.next sensors choice = cruising ↔
      sensors.frontBlocked = false ∧ p ≠ stopped ∧ p ≠ backedUp := by
  cases p with
  | cruising =>
      cases hf : sensors.frontBlocked with
      | false => simp [next, hf, allSidesBlocked_front hf]
      | true => simp [next, hf]; split <;> simp
  | stopped => simp [next]
  | backedUp => simp [next]
  | turning d => cases hf : sensors.frontBlocked <;> simp [next, hf]

end MotionPhase

/-- The four-phase automaton as a machine. -/
def motionPhases : Mealy MotionPhase (SensorSnapshot × TurnDirection) MotionCommand where
  step p i := (p.next i.1 i.2, (p.next i.1 i.2).command)

@[simp] theorem motionPhases_next (p : MotionPhase) (i : SensorSnapshot × TurnDirection) :
    motionPhases.next p i = p.next i.1 i.2 := rfl

@[simp] theorem motionPhases_out (p : MotionPhase) (i : SensorSnapshot × TurnDirection) :
    motionPhases.out p i = (p.next i.1 i.2).command := rfl

/-- The machines a phase stands for.  The remembered direction matters only
while turning. -/
structure InPhase (m : CleaningStateMachine) (p : MotionPhase) : Prop where
  motionState : m.motionState = p.motionState
  direction : ∀ d, p = .turning d → m.activeTurnDirection = d

namespace InPhase

variable {m : CleaningStateMachine}

/-- Outside a turn the motion state is all there is to a phase. -/
theorem of_not_turning {p : MotionPhase} (hp : ∀ d, p ≠ .turning d)
    (h : m.motionState = p.motionState) : InPhase m p :=
  ⟨h, fun d hd => absurd hd (hp d)⟩

/-- A machine on the straight. -/
theorem cruising (h : m.motionState = .movingForward) : InPhase m .cruising :=
  of_not_turning (by simp) h

/-- A machine that has stopped. -/
theorem stopped (h : m.motionState = .stopping) : InPhase m .stopped :=
  of_not_turning (by simp) h

/-- A machine that has backed up. -/
theorem backedUp (h : m.motionState = .backingUp) : InPhase m .backedUp :=
  of_not_turning (by simp) h

/-- A machine that turns. -/
theorem turning {d : TurnDirection} (h : m.motionState = .turning)
    (hd : m.activeTurnDirection = d) : InPhase m (.turning d) :=
  ⟨h, fun _ he => hd.trans (MotionPhase.turning.inj he)⟩

end InPhase

namespace CleaningStateMachine

/-- A start puts it on the straight. -/
theorem start_inPhase (m : CleaningStateMachine) : InPhase m.start .cruising :=
  .cruising rfl

/-- The phases cover every machine that has left the idle state. -/
theorem exists_inPhase_iff {m : CleaningStateMachine} :
    (∃ p, InPhase m p) ↔ m.motionState ≠ .idle := by
  constructor
  · intro h
    obtain ⟨p, hp⟩ := h
    rw [hp.motionState]
    exact p.motionState_ne_idle
  · intro h
    cases hs : m.motionState with
    | idle => exact absurd hs h
    | movingForward => exact ⟨_, .cruising hs⟩
    | stopping => exact ⟨_, .stopped hs⟩
    | turning => exact ⟨_, .turning hs rfl⟩
    | backingUp => exact ⟨_, .backedUp hs⟩

/-- It turns by the command of its direction. -/
theorem turnMotionCommand_eq (m : CleaningStateMachine) :
    m.turnMotionCommand = m.activeTurnDirection.command := by
  unfold turnMotionCommand
  cases m.activeTurnDirection <;> rfl

end CleaningStateMachine

namespace InPhase

variable {m : CleaningStateMachine} {p : MotionPhase}

/-- The phase, the motion command and nothing else of one tick. -/
theorem tick_both (h : InPhase m p) (context : TickContext) :
    InPhase (m.tick context).1 (p.next context.sensors context.turnDirection) ∧
      (m.tick context).2.motion =
        (p.next context.sensors context.turnDirection).command := by
  have hs := h.motionState
  cases p with
  | cruising =>
      simp only [CleaningStateMachine.tick, hs, MotionPhase.motionState,
        CleaningStateMachine.handleMovingForward, MotionPhase.next]
      split_ifs with hall hfront hboost hexpired
      · exact ⟨.backedUp (by simp), rfl⟩
      · exact ⟨.stopped (by simp), rfl⟩
      · exact ⟨.cruising rfl, rfl⟩
      · exact ⟨.cruising hs, rfl⟩
      · unfold CleaningStateMachine.applyCleaningBoost
        split <;> exact ⟨.cruising hs, rfl⟩
  | stopped =>
      simp only [CleaningStateMachine.tick, hs, MotionPhase.motionState,
        CleaningStateMachine.handleStopping, CleaningStateMachine.beginTurn, MotionPhase.next]
      refine ⟨.turning (by simp) (by simp), ?_⟩
      simp [CleaningStateMachine.turnMotionCommand_eq, MotionPhase.command]
  | backedUp =>
      simp only [CleaningStateMachine.tick, hs, MotionPhase.motionState,
        CleaningStateMachine.handleBackingUp, CleaningStateMachine.beginTurn, MotionPhase.next]
      refine ⟨.turning (by simp) (by simp), ?_⟩
      simp [CleaningStateMachine.turnMotionCommand_eq, MotionPhase.command]
  | turning d =>
      have hd := h.direction d rfl
      simp only [CleaningStateMachine.tick, hs, MotionPhase.motionState,
        CleaningStateMachine.handleTurning, MotionPhase.next]
      cases hfront : context.sensors.frontBlocked with
      | false => cases hdust : context.sensors.dustDetected <;> exact ⟨.cruising rfl, rfl⟩
      | true =>
          refine ⟨.turning (by simpa [MotionPhase.motionState] using hs) (by simpa using hd), ?_⟩
          simp [CleaningStateMachine.turnMotionCommand_eq, hd, MotionPhase.command]

/-- **One tick** is one step of the phase. -/
theorem tick (h : InPhase m p) (context : TickContext) :
    InPhase (m.tick context).1 (p.next context.sensors context.turnDirection) :=
  (h.tick_both context).1

theorem tick_motion (h : InPhase m p) (context : TickContext) :
    (m.tick context).2.motion = (p.next context.sensors context.turnDirection).command :=
  (h.tick_both context).2

end InPhase

end RvcControl
