import RvcControl.SimulatorService

/-!
# The scenario runner

`RunDefinition` drives a private cleaning service through the steps of one
scenario and judges every step by the last entries of the two command logs;
`RunAll` does so for a list of scenarios and counts.  Expected and actual
commands are reported as texts.
-/

namespace RvcControl

/-- The text of a motion command; the sources have three copies of it. -/
def motionToString : MotionCommand → String
  | .moveForward => "MoveForward"
  | .stop => "Stop"
  | .turnLeft => "TurnLeft"
  | .turnRight => "TurnRight"
  | .moveBackward => "MoveBackward"
  | .none => "None"

/-- The text of a cleaning command; the sources have three copies of it. -/
def cleanToString : CleaningCommand → String
  | .setNormal => "SetNormal"
  | .setBoost => "SetBoost"
  | .setOff => "SetOff"
  | .none => "None"

/-- The texts of the motions differ. -/
theorem motionToString_injective : Function.Injective motionToString := by
  intro a b h
  cases a <;> cases b <;> first | rfl | simp [motionToString] at h

theorem cleanToString_injective : Function.Injective cleanToString := by
  intro a b h
  cases a <;> cases b <;> first | rfl | simp [cleanToString] at h

inductive ScenarioTurnStrategy
  | preferLeft
  | forceRight
  deriving DecidableEq, Repr

def turnStrategyToString (strategy : ScenarioTurnStrategy) : String :=
  if strategy = .forceRight then "force_right" else "prefer_left"

structure ScenarioStepDefinition where
  sensors : SensorSnapshot := {}
  expectedMotion : MotionCommand := .none
  expectedClean : CleaningCommand := .none
  timerAdvance : Int := 0
  deriving DecidableEq, Repr

structure ScenarioDefinition where
  id : String := ""
  name : String := ""
  turnStrategy : ScenarioTurnStrategy := .preferLeft
  steps : List ScenarioStepDefinition := []
  deriving DecidableEq, Repr

structure ScenarioStepResult where
  stepIndex : Int := 0
  expectedMotion : String := ""
  actualMotion : String := ""
  expectedClean : String := ""
  actualClean : String := ""
  passed : Bool := false
  deriving DecidableEq, Repr

structure ScenarioResult where
  id : String := ""
  name : String := ""
  passed : Bool := false
  message : String := ""
  steps : List ScenarioStepResult := []
  deriving DecidableEq, Repr

structure ScenarioRunSummary where
  total : Int := 0
  passed : Int := 0
  failed : Int := 0
  scenarios : List ScenarioResult := []
  deriving DecidableEq, Repr

section RunDefinition

variable {σ : Type*} [ITurnStrategy σ]

/-- The private service of one scenario run, started. -/
def scenarioService (turnStrategy : σ) : InMemoryService σ :=
  CleaningService.start
    { sensorReader := .new, motionActuator := {}, cleaningActuator := {}, timer := {}
      turnStrategy := turnStrategy }

/-- The condition of the runner's "no actuator command" branch. -/
def noActuatorCommand (service : InMemoryService σ) : Bool :=
  service.motionActuator.history.isEmpty || service.cleaningActuator.history.isEmpty

/-- Judge step `i` after its tick and record the verdict. -/
def judgeStep (service : InMemoryService σ) (i : Nat) (step : ScenarioStepDefinition)
    (result : ScenarioResult) : ScenarioResult :=
  let stepResult : ScenarioStepResult :=
    { stepIndex := i + 1
      expectedMotion := motionToString step.expectedMotion
      expectedClean := cleanToString step.expectedClean }
  if noActuatorCommand service then
    let stepResult :=
      { stepResult with actualMotion := "None", actualClean := "None", passed := false }
    { result with
      passed := false
      message := "Step " ++ toString stepResult.stepIndex ++ ": no actuator command"
      steps := result.steps ++ [stepResult] }
  else
    let motion := service.motionActuator.history.getLastD .none
    let clean := service.cleaningActuator.history.getLastD .none
    let stepResult :=
      { stepResult with
        actualMotion := motionToString motion
        actualClean := cleanToString clean
        passed := motion = step.expectedMotion && clean = step.expectedClean }
    let result :=
      if !stepResult.passed then
        { result with
          passed := false
          message := "Step " ++ toString stepResult.stepIndex ++ " mismatch" }
      else result
    { result with steps := result.steps ++ [stepResult] }

/-- The loop over the steps, from step `i` on. -/
def runSteps (service : InMemoryService σ) (i : Nat) (result : ScenarioResult) :
    List ScenarioStepDefinition → ScenarioResult
  | [] => result
  | step :: steps =>
      let service := service.drive step.sensors step.timerAdvance
      runSteps service (i + 1) (judgeStep service i step result) steps

def runDefinition (definition : ScenarioDefinition) (turnStrategy : σ) : ScenarioResult :=
  let result : ScenarioResult :=
    { id := definition.id, name := definition.name, passed := true }
  let result := runSteps (scenarioService turnStrategy) 0 result definition.steps
  if result.passed then { result with message := "OK" } else result

end RunDefinition

/-- `RunDefinition` with the strategy object `RunAll` picks for a definition. -/
def runScenario (definition : ScenarioDefinition) : ScenarioResult :=
  if definition.turnStrategy = .forceRight then
    runDefinition definition ({ direction := .right } : FixedTurnStrategy)
  else
    runDefinition definition ({} : PreferLeftTurnStrategy)

/-- `RunAll` over a given table of definitions. -/
def runAll (definitions : List ScenarioDefinition) : ScenarioRunSummary :=
  let scenarios := definitions.map runScenario
  scenarios.foldl
    (fun summary scenario =>
      if scenario.passed then { summary with passed := summary.passed + 1 }
      else { summary with failed := summary.failed + 1 })
    { total := scenarios.length, scenarios := scenarios }

end RvcControl
