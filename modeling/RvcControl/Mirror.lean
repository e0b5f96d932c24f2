import RvcControl.CommandLine

/-!
# Left, right and the adapters

The service meets the world through its five ports and nothing else, and of
itself it prefers neither side: which way it turns is what the turn strategy
says.  So if the adapters of two services do alike, or the ones do the mirror
image of what the others do, then the services do alike or the mirror image, for
whatever types of adapters and along any run.
-/

namespace RvcControl

/-- The other way to turn. -/
def TurnDirection.other : TurnDirection → TurnDirection
  | .left => .right
  | .right => .left

/-- How one world lies to another: they are the same, or left is right. -/
inductive Symmetry
  | same
  | mirrored
  deriving DecidableEq, Repr

namespace Symmetry

def direction : Symmetry → TurnDirection → TurnDirection
  | same, d => d
  | mirrored, d => d.other

def sensors : Symmetry → SensorSnapshot → SensorSnapshot
  | same, s => s
  | mirrored, s => { s with leftBlocked := s.rightBlocked, rightBlocked := s.leftBlocked }

def motion : Symmetry → MotionCommand → MotionCommand
  | mirrored, .turnLeft => .turnRight
  | mirrored, .turnRight => .turnLeft
  | _, command => command

variable (g : Symmetry)

def machine (m : CleaningStateMachine) : CleaningStateMachine :=
  { m with activeTurnDirection := g.direction m.activeTurnDirection }

def context (context : TickContext) : TickContext :=
  { context with
    sensors := g.sensors context.sensors
    turnDirection := g.direction context.turnDirection }

def result (result : TickResult) : TickResult :=
  { result with motion := g.motion result.motion }

@[simp] theorem frontBlocked_sensors (s : SensorSnapshot) :
    (g.sensors s).frontBlocked = s.frontBlocked := by
  cases g <;> rfl

@[simp] theorem dustDetected_sensors (s : SensorSnapshot) :
    (g.sensors s).dustDetected = s.dustDetected := by
  cases g <;> rfl

@[simp] theorem allSidesBlocked_sensors (s : SensorSnapshot) :
    (g.sensors s).allSidesBlocked = s.allSidesBlocked := by
  cases g with
  | same => rfl
  | mirrored =>
      unfold SensorSnapshot.allSidesBlocked sensors
      exact Bool.and_right_comm _ _ _

@[simp] theorem turnMotionCommand_machine (m : CleaningStateMachine) :
    (g.machine m).turnMotionCommand = g.motion m.turnMotionCommand := by
  obtain ⟨motionState, cleaningMode, activeTurnDirection⟩ := m
  cases g <;> cases activeTurnDirection <;> rfl

/-- No motion is mirrored to no motion. -/
theorem motion_eq_none {command : MotionCommand} : g.motion command = .none ↔ command = .none := by
  cases g <;> cases command <;> simp [motion]

/-! ## The state machine -/

/-- Cleaning has no side. -/
theorem resolveCleaningDuringManeuver (m : CleaningStateMachine) (c : TickContext) :
    (g.machine m).resolveCleaningDuringManeuver (g.context c) =
      (g.machine (m.resolveCleaningDuringManeuver c).1,
        (m.resolveCleaningDuringManeuver c).2) := by
  have hdust : (g.context c).sensors.dustDetected = c.sensors.dustDetected :=
    g.dustDetected_sensors c.sensors
  unfold CleaningStateMachine.resolveCleaningDuringManeuver
  rw [hdust]
  split
  · rfl
  · by_cases hboost : m.cleaningMode = .boost ∧ (!c.boostTimerExpired) = true
    · rw [if_pos hboost]
      exact if_pos hboost
    · rw [if_neg hboost]
      exact if_neg hboost

/-- A manoeuvre is mirrored. -/
theorem maneuver (m : CleaningStateMachine) (c : TickContext) (nextMotionState : RobotMotionState)
    (command : MotionCommand) :
    (g.machine m).maneuver (g.context c) nextMotionState (g.motion command) =
      (g.machine (m.maneuver c nextMotionState command).1,
        g.result (m.maneuver c nextMotionState command).2) := by
  unfold CleaningStateMachine.maneuver
  rw [g.resolveCleaningDuringManeuver]
  rfl

theorem beginTurn (m : CleaningStateMachine) (c : TickContext) :
    (g.machine m).beginTurn (g.context c) =
      (g.machine (m.beginTurn c).1, g.result (m.beginTurn c).2) := by
  have hturn := g.maneuver
    { m with activeTurnDirection := c.turnDirection, motionState := .turning } c .turning
    (CleaningStateMachine.turnMotionCommand
      { m with activeTurnDirection := c.turnDirection, motionState := .turning })
  rw [← turnMotionCommand_machine] at hturn
  exact hturn

theorem applyCleaningBoost (m : CleaningStateMachine) (c : TickContext) (result : TickResult) :
    (g.machine m).applyCleaningBoost (g.context c) (g.result result) =
      (g.machine (m.applyCleaningBoost c result).1,
        g.result (m.applyCleaningBoost c result).2) := by
  unfold CleaningStateMachine.applyCleaningBoost
  simp only [context, dustDetected_sensors]
  split <;> rfl

/-- The straight is mirrored. -/
theorem handleMovingForward (m : CleaningStateMachine) (c : TickContext) :
    (g.machine m).handleMovingForward (g.context c) =
      (g.machine (m.handleMovingForward c).1, g.result (m.handleMovingForward c).2) := by
  have hmoves : g.motion .moveBackward = .moveBackward ∧ g.motion .stop = .stop ∧
      g.motion .moveForward = .moveForward := by
    cases g <;> exact ⟨rfl, rfl, rfl⟩
  have hback := g.maneuver { m with motionState := .backingUp } c .backingUp .moveBackward
  have hstop := g.maneuver { m with motionState := .stopping } c .stopping .stop
  have hboost := g.applyCleaningBoost m c
    { nextMotionState := .movingForward, motion := .moveForward }
  unfold result at hboost
  rw [hmoves.1] at hback
  rw [hmoves.2.1] at hstop
  dsimp only at hboost
  rw [hmoves.2.2] at hboost
  have hsides : (g.context c).sensors.allSidesBlocked = c.sensors.allSidesBlocked :=
    g.allSidesBlocked_sensors c.sensors
  have hfront : (g.context c).sensors.frontBlocked = c.sensors.frontBlocked :=
    g.frontBlocked_sensors c.sensors
  unfold CleaningStateMachine.handleMovingForward
  rw [hsides, hfront]
  split
  · exact hback
  · split
    · exact hstop
    · by_cases hmode : m.cleaningMode = .boost
      · have hmode' : (g.machine m).cleaningMode = .boost := hmode
        dsimp only
        rw [if_pos hmode, if_pos hmode']
        show (if c.boostTimerExpired = true then _ else _) = _
        split <;> cases g <;> rfl
      · have hmode' : ¬ (g.machine m).cleaningMode = .boost := hmode
        dsimp only
        rw [if_neg hmode, if_neg hmode']
        exact hboost

theorem handleTurning (m : CleaningStateMachine) (c : TickContext) :
    (g.machine m).handleTurning (g.context c) =
      (g.machine (m.handleTurning c).1, g.result (m.handleTurning c).2) := by
  have hfront : (g.context c).sensors.frontBlocked = c.sensors.frontBlocked :=
    g.frontBlocked_sensors c.sensors
  have hdust : (g.context c).sensors.dustDetected = c.sensors.dustDetected :=
    g.dustDetected_sensors c.sensors
  unfold CleaningStateMachine.handleTurning
  dsimp only
  rw [hfront, hdust]
  split
  · split <;> cases g <;> rfl
  · rw [turnMotionCommand_machine]
    exact g.maneuver m c .turning m.turnMotionCommand

/-- **One tick of the machine** commutes with the mirror. -/
theorem tick (m : CleaningStateMachine) (c : TickContext) :
    (g.machine m).tick (g.context c) = (g.machine (m.tick c).1, g.result (m.tick c).2) := by
  have hstate : (g.machine m).motionState = m.motionState := rfl
  unfold CleaningStateMachine.tick
  rw [hstate]
  cases m.motionState with
  | idle => cases g <;> rfl
  | movingForward => exact g.handleMovingForward m c
  | stopping => exact g.beginTurn m c
  | backingUp => exact g.beginTurn m c
  | turning => exact g.handleTurning m c

end Symmetry

/-- Two machines alike but for the symmetry; the remembered direction matters in
a turn only. -/
structure MachinesAlike (g : Symmetry) (m m' : CleaningStateMachine) : Prop where
  motionState : m'.motionState = m.motionState
  cleaningMode : m'.cleaningMode = m.cleaningMode
  direction : m.motionState = .turning → m'.activeTurnDirection = g.direction m.activeTurnDirection

namespace CleaningStateMachine

/-- The machine with another direction remembered. -/
def remember (m : CleaningStateMachine) (d : TurnDirection) : CleaningStateMachine :=
  { m with activeTurnDirection := d }

/-- Cleaning does not depend on the remembered turn. -/
theorem resolveCleaningDuringManeuver_remember (m : CleaningStateMachine) (d : TurnDirection)
    (c : TickContext) :
    (m.remember d).resolveCleaningDuringManeuver c =
      ((m.resolveCleaningDuringManeuver c).1.remember d,
        (m.resolveCleaningDuringManeuver c).2) := by
  have hmode : (m.remember d).cleaningMode = m.cleaningMode := rfl
  unfold resolveCleaningDuringManeuver
  rw [hmode]
  split
  · rfl
  · split <;> rfl

theorem maneuver_remember (m : CleaningStateMachine) (d : TurnDirection) (c : TickContext)
    (nextMotionState : RobotMotionState) (motion : MotionCommand) :
    (m.remember d).maneuver c nextMotionState motion =
      ((m.maneuver c nextMotionState motion).1.remember d,
        (m.maneuver c nextMotionState motion).2) := by
  unfold maneuver
  rw [resolveCleaningDuringManeuver_remember]
  rfl

theorem handleMovingForward_remember (m : CleaningStateMachine) (d : TurnDirection)
    (c : TickContext) :
    (m.remember d).handleMovingForward c =
      ((m.handleMovingForward c).1.remember d, (m.handleMovingForward c).2) := by
  have hmode : (m.remember d).cleaningMode = m.cleaningMode := rfl
  have hback := maneuver_remember { m with motionState := .backingUp } d c .backingUp .moveBackward
  have hstop := maneuver_remember { m with motionState := .stopping } d c .stopping .stop
  unfold handleMovingForward
  dsimp only
  rw [hmode]
  split
  · exact hback
  · split
    · exact hstop
    · split
      · split <;> rfl
      · unfold applyCleaningBoost
        dsimp only
        split <;> rfl

/-- No turn begins on the straight. -/
theorem handleMovingForward_not_turning (m : CleaningStateMachine) (c : TickContext)
    (h : m.motionState = .movingForward) :
    (m.handleMovingForward c).1.motionState ≠ .turning := by
  have hstays : m.motionState ≠ .turning := by
    rw [h]
    nofun
  unfold handleMovingForward
  split
  · rw [maneuver_fst, resolveCleaningDuringManeuver_motionState]
    nofun
  · split
    · rw [maneuver_fst, resolveCleaningDuringManeuver_motionState]
      nofun
    · dsimp only
      split
      · split <;> exact hstays
      · unfold applyCleaningBoost
        dsimp only
        split <;> exact hstays

/-- Outside a turn the remembered direction makes no difference. -/
theorem tick_remember {m : CleaningStateMachine} (h : m.motionState ≠ .turning)
    (d : TurnDirection) (c : TickContext) :
    ((m.remember d).tick c).2 = (m.tick c).2 ∧
      MachinesAlike .same (m.tick c).1 ((m.remember d).tick c).1 := by
  have hstate : (m.remember d).motionState = m.motionState := rfl
  unfold tick
  rw [hstate]
  cases hs : m.motionState with
  | idle => exact ⟨rfl, rfl, rfl, fun hturning => absurd hturning h⟩
  | movingForward =>
      dsimp only
      rw [handleMovingForward_remember]
      exact ⟨rfl, rfl, rfl, fun hturning =>
        absurd hturning (m.handleMovingForward_not_turning c hs)⟩
  | stopping => exact ⟨rfl, rfl, rfl, fun _ => rfl⟩
  | backingUp => exact ⟨rfl, rfl, rfl, fun _ => rfl⟩
  | turning => exact absurd hs h

end CleaningStateMachine

/-- **One tick of two machines.** -/
theorem MachinesAlike.tick {g : Symmetry} {m m' : CleaningStateMachine}
    (h : MachinesAlike g m m') (c : TickContext) :
    (m'.tick (g.context c)).2 = g.result (m.tick c).2 ∧
      MachinesAlike g (m.tick c).1 (m'.tick (g.context c)).1 := by
  have htick := g.tick m c
  have hm' : m' = (g.machine m).remember m'.activeTurnDirection := by
    obtain ⟨motionState, cleaningMode, activeTurnDirection⟩ := m'
    obtain ⟨rfl, rfl, _⟩ := h
    rfl
  by_cases hturning : m.motionState = .turning
  · rw [h.direction hturning] at hm'
    have hmachine : m' = g.machine m := hm'
    rw [hmachine, htick]
    exact ⟨rfl, rfl, rfl, fun _ => rfl⟩
  · have hother := CleaningStateMachine.tick_remember (m := g.machine m) hturning
      m'.activeTurnDirection (g.context c)
    rw [← hm', htick] at hother
    obtain ⟨hresult, halike⟩ := hother
    exact ⟨hresult, halike.motionState, halike.cleaningMode, halike.direction⟩

/-! ## The service over two families of adapters -/

structure Ports (ρ μ κ τ σ : Type*) where
  sensorReader : ρ
  motionActuator : μ
  cleaningActuator : κ
  timer : τ
  turnStrategy : σ

/-- Which adapters of the one family go with which of the other. -/
structure PortRelation (ρ μ κ τ σ ρ' μ' κ' τ' σ' : Type*) where
  sensorReader : ρ → ρ' → Prop
  motionActuator : μ → μ' → Prop
  cleaningActuator : κ → κ' → Prop
  timer : τ → τ' → Prop
  turnStrategy : σ → σ' → Prop

variable {ρ μ κ τ σ ρ' μ' κ' τ' σ' : Type*}

/-- All five go together. -/
structure PortRelation.Holds (R : PortRelation ρ μ κ τ σ ρ' μ' κ' τ' σ') (p : Ports ρ μ κ τ σ)
    (p' : Ports ρ' μ' κ' τ' σ') : Prop where
  sensorReader : R.sensorReader p.sensorReader p'.sensorReader
  motionActuator : R.motionActuator p.motionActuator p'.motionActuator
  cleaningActuator : R.cleaningActuator p.cleaningActuator p'.cleaningActuator
  timer : R.timer p.timer p'.timer
  turnStrategy : R.turnStrategy p.turnStrategy p'.turnStrategy

namespace CleaningService

def ports (s : CleaningService ρ μ κ τ σ) : Ports ρ μ κ τ σ :=
  ⟨s.sensorReader, s.motionActuator, s.cleaningActuator, s.timer, s.turnStrategy⟩

def withPorts (s : CleaningService ρ μ κ τ σ) (p : Ports ρ μ κ τ σ) :
    CleaningService ρ μ κ τ σ :=
  { s with
    sensorReader := p.sensorReader
    motionActuator := p.motionActuator
    cleaningActuator := p.cleaningActuator
    timer := p.timer
    turnStrategy := p.turnStrategy }

end CleaningService

/-- What happens to a service: the calls of its own, and whatever its adapters go
through in between. -/
inductive ServiceEvent (ρ μ κ τ σ : Type*)
  | start
  | tick
  | surroundings (change : Ports ρ μ κ τ σ → Ports ρ μ κ τ σ)

/-- What the service says of itself: `IsRunning`, `MotionState` and
`CleaningModeState`. -/
structure ServiceStatus where
  isRunning : Bool
  motionState : RobotMotionState
  cleaningModeState : CleaningMode
  deriving DecidableEq, Repr

def CleaningService.status (s : CleaningService ρ μ κ τ σ) : ServiceStatus :=
  ⟨s.running, s.stateMachine.motionState, s.stateMachine.cleaningMode⟩

section Machine

variable [ISensorReader ρ] [IMotionActuator μ] [ICleaningActuator κ] [ITimer τ] [ITurnStrategy σ]

def CleaningService.handle (s : CleaningService ρ μ κ τ σ) :
    ServiceEvent ρ μ κ τ σ → CleaningService ρ μ κ τ σ
  | .start => s.start
  | .tick => s.tick
  | .surroundings change => s.withPorts (change s.ports)

def services : Mealy (CleaningService ρ μ κ τ σ) (ServiceEvent ρ μ κ τ σ) ServiceStatus where
  step s e := (s.handle e, (s.handle e).status)

end Machine

variable {g : Symmetry} {R : PortRelation ρ μ κ τ σ ρ' μ' κ' τ' σ'}

/-- The same happens to both services, or what the adapters go through keeps them
together. -/
inductive EventsAlike (R : PortRelation ρ μ κ τ σ ρ' μ' κ' τ' σ') :
    ServiceEvent ρ μ κ τ σ → ServiceEvent ρ' μ' κ' τ' σ' → Prop
  | start : EventsAlike R .start .start
  | tick : EventsAlike R .tick .tick
  | surroundings {change : Ports ρ μ κ τ σ → Ports ρ μ κ τ σ}
      {change' : Ports ρ' μ' κ' τ' σ' → Ports ρ' μ' κ' τ' σ'}
      (h : ∀ p p', R.Holds p p' → R.Holds (change p) (change' p')) :
      EventsAlike R (.surroundings change) (.surroundings change')

/-- Two services alike but for the symmetry. -/
structure ServicesAlike (g : Symmetry) (R : PortRelation ρ μ κ τ σ ρ' μ' κ' τ' σ')
    (s : CleaningService ρ μ κ τ σ) (s' : CleaningService ρ' μ' κ' τ' σ') : Prop where
  ports : R.Holds s.ports s'.ports
  boostDuration : s'.boostDuration = s.boostDuration
  stateMachine : MachinesAlike g s.stateMachine s'.stateMachine
  running : s'.running = s.running

/-- Services that are alike have one status. -/
theorem ServicesAlike.status {s : CleaningService ρ μ κ τ σ} {s' : CleaningService ρ' μ' κ' τ' σ'}
    (h : ServicesAlike g R s s') : s.status = s'.status := by
  unfold CleaningService.status
  rw [h.stateMachine.motionState, h.stateMachine.cleaningMode, h.running]

variable [ISensorReader ρ] [IMotionActuator μ] [ICleaningActuator κ] [ITimer τ] [ITurnStrategy σ]
  [ISensorReader ρ'] [IMotionActuator μ'] [ICleaningActuator κ'] [ITimer τ'] [ITurnStrategy σ']

/-- **Adapters that do alike.**  What one family of adapters does the other does in
the mirror, and they stay together. -/
structure DoAlike (g : Symmetry) (R : PortRelation ρ μ κ τ σ ρ' μ' κ' τ' σ') : Prop where
  read : ∀ {r r'}, R.sensorReader r r' →
    (ISensorReader.read r').1 = g.sensors (ISensorReader.read r).1 ∧
      R.sensorReader (ISensorReader.read r).2 (ISensorReader.read r').2
  executeMotion : ∀ {a a'} (command : MotionCommand), R.motionActuator a a' →
    R.motionActuator (IMotionActuator.execute command a)
      (IMotionActuator.execute (g.motion command) a')
  executeClean : ∀ {a a'} (command : CleaningCommand), R.cleaningActuator a a' →
    R.cleaningActuator (ICleaningActuator.execute command a) (ICleaningActuator.execute command a')
  startBoost : ∀ {t t'} (duration : Int), R.timer t t' →
    R.timer (ITimer.startBoost duration t) (ITimer.startBoost duration t')
  cancelBoost : ∀ {t t'}, R.timer t t' → R.timer (ITimer.cancelBoost t) (ITimer.cancelBoost t')
  isBoostExpired : ∀ {t t'}, R.timer t t' → ITimer.isBoostExpired t' = ITimer.isBoostExpired t
  choose : ∀ {q q'} (sensors : SensorSnapshot), R.turnStrategy q q' →
    ITurnStrategy.choose q' (g.sensors sensors) = g.direction (ITurnStrategy.choose q sensors)

namespace ServicesAlike

variable {s : CleaningService ρ μ κ τ σ} {s' : CleaningService ρ' μ' κ' τ' σ'}

/-- A start keeps them alike. -/
theorem start (h : ServicesAlike g R s s') (hports : DoAlike g R) :
    ServicesAlike g R s.start s'.start := by
  refine ⟨?_, h.boostDuration, ⟨rfl, rfl, nofun⟩, rfl⟩
  exact { h.ports with timer := hports.cancelBoost h.ports.timer }

theorem executeMotion (h : ServicesAlike g R s s') (hports : DoAlike g R)
    (command : MotionCommand) :
    ServicesAlike g R (s.executeMotion command) (s'.executeMotion (g.motion command)) := by
  have hnone : g.motion command ≠ .none ↔ command ≠ .none := not_congr g.motion_eq_none
  unfold CleaningService.executeMotion
  simp only [hnone]
  split
  · refine ⟨?_, h.boostDuration, h.stateMachine, h.running⟩
    exact { h.ports with motionActuator := hports.executeMotion command h.ports.motionActuator }
  · exact h

theorem executeClean (h : ServicesAlike g R s s') (hports : DoAlike g R)
    (command : CleaningCommand) :
    ServicesAlike g R (s.executeClean command) (s'.executeClean command) := by
  have hcleaned := hports.executeClean command h.ports.cleaningActuator
  have htimer : ∀ {t t'}, R.timer t t' →
      ServicesAlike g R
        { s with
          cleaningActuator := ICleaningActuator.execute command s.cleaningActuator, timer := t }
        { s' with
          cleaningActuator := ICleaningActuator.execute command s'.cleaningActuator
          timer := t' } := by
    intro t t' ht
    exact ⟨{ h.ports with cleaningActuator := hcleaned, timer := ht }, h.boostDuration,
      h.stateMachine, h.running⟩
  have hstart := hports.startBoost s.boostDuration h.ports.timer
  rw [← h.boostDuration] at hstart
  unfold CleaningService.executeClean
  dsimp only
  split
  · split
    · have hboost := htimer hstart
      rw [h.boostDuration] at hboost ⊢
      exact hboost
    · split
      · exact htimer (hports.cancelBoost h.ports.timer)
      · exact htimer h.ports.timer
  · exact h

/-- **One tick of the service.** -/
theorem tick (h : ServicesAlike g R s s') (hports : DoAlike g R) :
    ServicesAlike g R s.tick s'.tick := by
  obtain ⟨hread, hreader⟩ := hports.read h.ports.sensorReader
  have hcontext : s'.tickContext (sensorsRead s'.sensorReader) =
      g.context (s.tickContext (sensorsRead s.sensorReader)) := by
    have hsensors : sensorsRead s'.sensorReader = g.sensors (sensorsRead s.sensorReader) := hread
    have hchoose := hports.choose (sensorsRead s.sensorReader) h.ports.turnStrategy
    have hexpired := hports.isBoostExpired h.ports.timer
    unfold CleaningService.tickContext Symmetry.context
    rw [hsensors]
    exact congrArg₂ (TickContext.mk _) hchoose hexpired
  have hticked := h.stateMachine.tick (s.tickContext (sensorsRead s.sensorReader))
  rw [← hcontext] at hticked
  have hresult : s'.tickResult.2 = g.result s.tickResult.2 := hticked.1
  cases hrunning : s.running with
  | false =>
      rw [s.tick_of_not_running hrunning, s'.tick_of_not_running (h.running.trans hrunning)]
      exact h
  | true =>
      have hread : ServicesAlike g R
          { s with
            sensorReader := (ISensorReader.read s.sensorReader).2
            stateMachine := s.tickResult.1 }
          { s' with
            sensorReader := (ISensorReader.read s'.sensorReader).2
            stateMachine := s'.tickResult.1 } :=
        ⟨{ h.ports with sensorReader := hreader }, h.boostDuration, hticked.2, h.running⟩
      rw [s.tick_of_running hrunning, s'.tick_of_running (h.running.trans hrunning)]
      have hcommands := (hread.executeMotion hports s.tickResult.2.motion).executeClean hports
        s.tickResult.2.clean
      rw [hresult]
      exact hcommands

end ServicesAlike

/-- The services over the two families simulate one another. -/
theorem services_simulation (hports : DoAlike g R) :
    Mealy.Simulation services services (ServicesAlike g R) (EventsAlike R) Eq := by
  have hnext : ∀ {s : CleaningService ρ μ κ τ σ} {s' : CleaningService ρ' μ' κ' τ' σ'} {e e'},
      ServicesAlike g R s s' → EventsAlike R e e' →
        ServicesAlike g R (s.handle e) (s'.handle e') := by
    intro s s' e e' h he
    cases he with
    | start => exact h.start hports
    | tick => exact h.tick hports
    | surroundings hchange =>
        exact ⟨hchange _ _ h.ports, h.boostDuration, h.stateMachine, h.running⟩
  exact ⟨hnext, fun h he => (hnext h he).status⟩

/-! ### The adapters in memory -/

/-- Logs and readings are mirror images, and the fixed turns go opposite ways. -/
def inMemoryMirror :
    PortRelation ReplayReader InMemoryMotionActuator InMemoryCleaningActuator FakeTimer
      FixedTurnStrategy ReplayReader InMemoryMotionActuator InMemoryCleaningActuator FakeTimer
      FixedTurnStrategy where
  sensorReader r r' :=
    r'.1.snapshots = r.1.snapshots.map Symmetry.mirrored.sensors ∧ r'.1.index = r.1.index
  motionActuator a a' := a'.history = a.history.map Symmetry.mirrored.motion
  cleaningActuator a a' := a' = a
  timer t t' := t' = t
  turnStrategy q q' := q'.direction = q.direction.other

/-- A reader over mirrored snapshots reads the mirrored ones. -/
theorem InMemorySensorReader.read_mirrored {r r' : InMemorySensorReader}
    (hsnapshots : r'.snapshots = r.snapshots.map Symmetry.mirrored.sensors)
    (hindex : r'.index = r.index) :
    r'.read.1 = r.read.1.map Symmetry.mirrored.sensors ∧
      r'.read.2.snapshots = r.read.2.snapshots.map Symmetry.mirrored.sensors ∧
      r'.read.2.index = r.read.2.index := by
  have hat : r'.snapshotAt r.index = (r.snapshotAt r.index).map Symmetry.mirrored.sensors := by
    unfold snapshotAt
    rw [hsnapshots, List.getElem?_map]
    cases r.snapshots[r.index]? <;> rfl
  have hempty : r'.snapshots.isEmpty = r.snapshots.isEmpty := by
    rw [hsnapshots, List.isEmpty_map]
  have hlength : r'.snapshots.length = r.snapshots.length := by
    rw [hsnapshots, List.length_map]
  unfold read
  rw [hempty, hlength, hindex]
  split
  · exact ⟨rfl, hsnapshots, hindex⟩
  · refine ⟨hat, ?_⟩
    split
    · exact ⟨hsnapshots, rfl⟩
    · exact ⟨hsnapshots, hindex⟩

/-- The in-memory adapters do alike. -/
theorem inMemory_doAlike : DoAlike .mirrored inMemoryMirror where
  read := by
    rintro r r' ⟨hsnapshots, hindex⟩
    obtain ⟨snapshot, hok⟩ := InMemorySensorReader.read_ok r.2
    obtain ⟨hread, hrest⟩ := InMemorySensorReader.read_mirrored hsnapshots hindex
    rw [hok] at hread
    obtain ⟨hsensors, hleft⟩ := r.read_eq hok
    obtain ⟨hsensors', hleft'⟩ := r'.read_eq hread
    refine ⟨?_, ?_⟩
    · show sensorsRead r' = Symmetry.mirrored.sensors (sensorsRead r)
      rw [hsensors, hsensors']
    · show r'.read.2.1.snapshots = r.read.2.1.snapshots.map _ ∧ r'.read.2.1.index = r.read.2.1.index
      rw [hleft, hleft']
      exact hrest
  executeMotion := by
    intro a a' command h
    show a'.history ++ [_] = (a.history ++ [command]).map _
    rw [h, List.map_append]
    rfl
  executeClean := by
    rintro a _ command rfl
    rfl
  startBoost := by
    rintro t _ duration rfl
    rfl
  cancelBoost := by
    rintro t _ rfl
    rfl
  isBoostExpired := by
    rintro t _ rfl
    rfl
  choose := by
    intro q q' sensors h
    exact h

/-- **The service has no side of its own.**  Take two services of any adapters, where
the ones do what the others do, or do it in the mirror: sensors to the left read
as those to the right, turns go the other way, and the turn strategies choose the
other direction.  Then along any calls, with anything in between that keeps the
adapters together, the services report the same, and their adapters and machines
stay alike or mirror images. -/
theorem service_has_no_side (hports : DoAlike g R) {s : CleaningService ρ μ κ τ σ}
    {s' : CleaningService ρ' μ' κ' τ' σ'} (h : ServicesAlike g R s s')
    {es : List (ServiceEvent ρ μ κ τ σ)} {es' : List (ServiceEvent ρ' μ' κ' τ' σ')}
    (hes : List.Forall₂ (EventsAlike R) es es') :
    services.outputs s es = services.outputs s' es' ∧
      ServicesAlike g R (services.run s es) (services.run s' es') := by
  have hsimulation := services_simulation hports
  refine ⟨?_, hsimulation.run h hes⟩
  have houtputs := hsimulation.outputs h hes
  rwa [List.forall₂_eq_eq_eq] at houtputs

/-- The theorem for a robot that always turns left past an obstacle, and one that
always turns right. -/
theorem service_has_no_side_once :
    (services.run (Session.new (ReplayReader.showing { frontBlocked := true, leftBlocked := true }) {} {}
        ({ direction := .right } : FixedTurnStrategy) 3000)
        [.start, .tick, .tick]).motionActuator.history =
      (services.run (Session.new (ReplayReader.showing { frontBlocked := true, rightBlocked := true }) {} {}
        ({ direction := .left } : FixedTurnStrategy) 3000)
        [.start, .tick, .tick]).motionActuator.history.map Symmetry.mirrored.motion := by
  have halike : ServicesAlike .mirrored inMemoryMirror
      (Session.new (ReplayReader.showing { frontBlocked := true, rightBlocked := true }) {} {}
        ({ direction := .left } : FixedTurnStrategy) 3000)
      (Session.new (ReplayReader.showing { frontBlocked := true, leftBlocked := true }) {} {}
        ({ direction := .right } : FixedTurnStrategy) 3000) :=
    ⟨⟨⟨rfl, rfl⟩, rfl, rfl, rfl, rfl⟩, rfl, ⟨rfl, rfl, nofun⟩, rfl⟩
  exact (service_has_no_side inMemory_doAlike halike
    (.cons .start (.cons .tick (.cons .tick .nil)))).2.ports.motionActuator

end RvcControl
