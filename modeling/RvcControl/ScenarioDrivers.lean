import RvcControl.LiveSession
import RvcControl.ScenarioRunner

/-!
# Two drivers for one scenario

`RunDefinition` runs a scenario on a private cleaning service; the web page
and the scenario test run it on a simulator service, by Reset, Start and one
Tick for each step.  After Start both services show the same live session,
and both drive it through the same ticks, so the steps of the two runs agree.
-/

namespace RvcControl

open SimulatorService

def ScenarioStepDefinition.call (step : ScenarioStepDefinition) : Call :=
  .tick step.sensors step.timerAdvance

/-- `stepPassed` of `runSingleScenarioVisual`: it compares the texts. -/
def stepPassed (step : ScenarioStepDefinition) (tickState : SimulatorState) : Bool :=
  motionToString tickState.lastMotion = motionToString step.expectedMotion &&
    cleanToString tickState.lastClean = cleanToString step.expectedClean

/-- What a driver of the simulator sees of a step. -/
def lastTexts (tickState : SimulatorState) : String × String :=
  (motionToString tickState.lastMotion, cleanToString tickState.lastClean)

def ScenarioStepResult.actualTexts (r : ScenarioStepResult) : String × String :=
  (r.actualMotion, r.actualClean)

/-- The states of a live session after each step. -/
def LiveSession.states (v : LiveSession) : List ScenarioStepDefinition → List SimulatorState
  | [] => []
  | step :: steps =>
      let v := v.tick step.sensors step.timerAdvance
      v.state :: v.states steps

/-- The simulator's side: its ticks return the states of the session. -/
theorem Presents.outputs_steps {s : SimulatorService} {v : LiveSession}
    (h : Presents s (some v)) (steps : List ScenarioStepDefinition) :
    simulator.outputs s (steps.map ScenarioStepDefinition.call) = (v.states steps).map some := by
  induction steps generalizing s v with
  | nil => rfl
  | cons step steps ih =>
      have h' := h.tick step.sensors step.timerAdvance
      have hout : simulator.out s step.call =
          some (v.tick step.sensors step.timerAdvance).state := congrArg some h'.getState
      rw [List.map_cons, Mealy.outputs_cons, hout]
      exact congrArg (List.cons _) (ih h')

section Runner

variable {σ : Type*} [ITurnStrategy σ]

/-- The services by which `RunDefinition` judges its steps. -/
def judgedServices (service : InMemoryService σ) :
    List ScenarioStepDefinition → List (InMemoryService σ)
  | [] => []
  | step :: steps =>
      let service := service.drive step.sensors step.timerAdvance
      service :: judgedServices service steps

/-- The loop of `RunDefinition` judges these services, one after the other. -/
theorem runSteps_eq_foldl (service : InMemoryService σ) (i : ℕ) (result : ScenarioResult)
    (steps : List ScenarioStepDefinition) :
    runSteps service i result steps =
      (((judgedServices service steps).zip steps).zipIdx i).foldl
        (fun result judged => judgeStep judged.1.1 judged.2 judged.1.2 result) result := by
  induction steps generalizing service i result with
  | nil => rfl
  | cons step steps ih =>
      simp only [runSteps, judgedServices, List.zip_cons_cons, List.zipIdx_cons,
        List.foldl_cons]
      exact ih _ _ _

/-- A service that has just ticked has commands to be judged by. -/
theorem Shows.hasCommands {service : InMemoryService σ} {v : LiveSession}
    {sensors : SensorSnapshot} {timerAdvance : Int}
    (h : Shows service (v.tick sensors timerAdvance)) : noActuatorCommand service = false := by
  simp [noActuatorCommand, h.motions, h.cleans, LiveSession.motions_tick,
    LiveSession.cleans_tick]

/-- A step is judged by its two texts. -/
theorem stepPassed_eq (step : ScenarioStepDefinition) (tickState : SimulatorState) :
    stepPassed step tickState =
      (tickState.lastMotion = step.expectedMotion && tickState.lastClean = step.expectedClean :
        Bool) := by
  simp [stepPassed, motionToString_injective.eq_iff, cleanToString_injective.eq_iff]

/-- The record of step `i`, by the state the simulator's tick returns. -/
def stepVerdict (i : ℕ) (step : ScenarioStepDefinition) (tickState : SimulatorState) :
    ScenarioStepResult where
  stepIndex := i + 1
  expectedMotion := motionToString step.expectedMotion
  actualMotion := motionToString tickState.lastMotion
  expectedClean := cleanToString step.expectedClean
  actualClean := cleanToString tickState.lastClean
  passed := stepPassed step tickState

/-- The message after the record `r`. -/
def messageAfter (message : String) (r : ScenarioStepResult) : String :=
  if r.passed then message else "Step " ++ toString r.stepIndex ++ " mismatch"

/-- **One step.**  The runner records and judges a step as a driver of the
simulator does from the state its tick returns. -/
theorem Shows.judgeStep_eq {service : InMemoryService σ} {v : LiveSession}
    {sensors : SensorSnapshot} {timerAdvance : Int}
    (h : Shows service (v.tick sensors timerAdvance)) (i : ℕ) (step : ScenarioStepDefinition)
    (result : ScenarioResult) :
    let r := stepVerdict i step (v.tick sensors timerAdvance).state
    judgeStep service i step result =
      { result with
        passed := result.passed && r.passed
        message := messageAfter result.message r
        steps := result.steps ++ [r] } := by
  intro r
  let tickState := (v.tick sensors timerAdvance).state
  have hmotion : service.motionActuator.history.getLastD .none = tickState.lastMotion :=
    congrArg (fun motions => motions.getLastD .none) h.motions
  have hclean : service.cleaningActuator.history.getLastD .none = tickState.lastClean :=
    congrArg (fun cleans => cleans.getLastD .none) h.cleans
  have hr : r = stepVerdict i step tickState := rfl
  simp only [judgeStep, h.hasCommands, Bool.false_eq_true, if_false, hmotion, hclean,
    ← stepPassed_eq, hr, stepVerdict, messageAfter]
  cases stepPassed step tickState <;> simp

/-- The records of the steps from step `i` on. -/
def LiveSession.verdicts (v : LiveSession) (i : ℕ) :
    List ScenarioStepDefinition → List ScenarioStepResult
  | [] => []
  | step :: steps =>
      let v := v.tick step.sensors step.timerAdvance
      stepVerdict i step v.state :: v.verdicts (i + 1) steps

/-- The records have the texts of the states. -/
theorem LiveSession.verdicts_actualTexts (v : LiveSession) (i : ℕ)
    (steps : List ScenarioStepDefinition) :
    (v.verdicts i steps).map ScenarioStepResult.actualTexts = (v.states steps).map lastTexts := by
  induction steps generalizing v i with
  | nil => rfl
  | cons step steps ih => exact congrArg (List.cons _) (ih _ _)

theorem LiveSession.verdicts_passed (v : LiveSession) (i : ℕ)
    (steps : List ScenarioStepDefinition) :
    (v.verdicts i steps).map ScenarioStepResult.passed =
      List.zipWith stepPassed steps (v.states steps) := by
  induction steps generalizing v i with
  | nil => rfl
  | cons step steps ih => exact congrArg (List.cons _) (ih _ _)

/-- The runner's side: its records are those of the session's states. -/
theorem Shows.runSteps_eq {service : InMemoryService σ} {v : LiveSession}
    (h : Shows service v) (i : ℕ) (result : ScenarioResult)
    (steps : List ScenarioStepDefinition) :
    runSteps service i result steps =
      { result with
        passed := result.passed && (v.verdicts i steps).all ScenarioStepResult.passed
        message := (v.verdicts i steps).foldl messageAfter result.message
        steps := result.steps ++ v.verdicts i steps } := by
  induction steps generalizing service v i result with
  | nil => simp [runSteps, LiveSession.verdicts]
  | cons step steps ih =>
      have h' := h.drive step.sensors step.timerAdvance
      rw [runSteps, h'.judgeStep_eq, ih h']
      simp [LiveSession.verdicts, Bool.and_assoc]

/-- A service that shows a session has commands to judge. -/
theorem Shows.judgedServices_hasCommands {service : InMemoryService σ} {v : LiveSession}
    (h : Shows service v) (steps : List ScenarioStepDefinition) :
    ∀ judged ∈ judgedServices service steps, noActuatorCommand judged = false := by
  induction steps generalizing service v with
  | nil =>
      intro judged hmem
      exact absurd hmem List.not_mem_nil
  | cons step steps ih =>
      have h' := h.drive step.sensors step.timerAdvance
      intro judged hmem
      rcases List.mem_cons.mp hmem with rfl | hrest
      · exact h'.hasCommands
      · exact ih h' judged hrest

/-- The private service of a run shows a fresh session. -/
theorem scenarioService_shows (turnStrategy : σ) :
    Shows (scenarioService turnStrategy) (.started (ITurnStrategy.choose turnStrategy)) :=
  start_shows rfl rfl rfl fun _ => rfl

/-- **The records of a run**, by a fresh session. -/
theorem runDefinition_eq (definition : ScenarioDefinition) (turnStrategy : σ) :
    let verdicts :=
      (LiveSession.started (ITurnStrategy.choose turnStrategy)).verdicts 0 definition.steps
    runDefinition definition turnStrategy =
      { id := definition.id
        name := definition.name
        passed := verdicts.all ScenarioStepResult.passed
        message :=
          if verdicts.all ScenarioStepResult.passed then "OK" else verdicts.foldl messageAfter ""
        steps := verdicts } := by
  intro verdicts
  rw [runDefinition, (scenarioService_shows turnStrategy).runSteps_eq]
  simp only [Bool.true_and, List.nil_append]
  split
  · rename_i hpassed
    simp [verdicts, hpassed]
  · rename_i hfailed
    simp [verdicts, hfailed]

/-- What the runner judges are the states of a session. -/
theorem runDefinition_states (definition : ScenarioDefinition) (turnStrategy : σ) :
    let states := (LiveSession.started (ITurnStrategy.choose turnStrategy)).states definition.steps
    (runDefinition definition turnStrategy).steps.map ScenarioStepResult.actualTexts =
        states.map lastTexts ∧
      (runDefinition definition turnStrategy).steps.map ScenarioStepResult.passed =
        List.zipWith stepPassed definition.steps states ∧
      (runDefinition definition turnStrategy).passed =
        (List.zipWith stepPassed definition.steps states).all id := by
  intro states
  rw [runDefinition_eq]
  refine ⟨LiveSession.verdicts_actualTexts _ _ _, LiveSession.verdicts_passed _ _ _, ?_⟩
  rw [← LiveSession.verdicts_passed _ 0, List.all_map]
  rfl

end Runner

/-- The strategy `Start` finds by its text is the one of the definition. -/
theorem chosenBy_turnStrategyToString (strategy : ScenarioTurnStrategy) :
    chosenBy (turnStrategyToString strategy) =
      if strategy = .forceRight then
        ITurnStrategy.choose ({ direction := .right } : FixedTurnStrategy)
      else ITurnStrategy.choose ({} : PreferLeftTurnStrategy) := by
  cases strategy with
  | preferLeft => simp [chosenBy, turnStrategyToString]
  | forceRight => simp [chosenBy, turnStrategyToString, ITurnStrategy.choose]

/-- The runner's strategy object chooses as the strategy of its text does. -/
theorem runScenario_eq (definition : ScenarioDefinition) :
    let states := (LiveSession.started
      (chosenBy (turnStrategyToString definition.turnStrategy))).states definition.steps
    (runScenario definition).steps.map ScenarioStepResult.actualTexts = states.map lastTexts ∧
      (runScenario definition).steps.map ScenarioStepResult.passed =
        List.zipWith stepPassed definition.steps states ∧
      (runScenario definition).passed =
        (List.zipWith stepPassed definition.steps states).all id := by
  rw [runScenario, chosenBy_turnStrategyToString]
  by_cases hright : definition.turnStrategy = .forceRight
  · rw [if_pos hright, if_pos hright]
    exact runDefinition_states definition ({ direction := .right } : FixedTurnStrategy)
  · rw [if_neg hright, if_neg hright]
    exact runDefinition_states definition ({} : PreferLeftTurnStrategy)

/-- **The two drivers agree.**  Whatever was called before on a simulator
service, after Reset and Start with the scenario's strategy its ticks return
the commands the runner records, step by step, so the verdicts are the same;
and the runner never finds an actuator without a command. -/
theorem scenario_drivers_agree (definition : ScenarioDefinition) (calls : List Call) :
    let s := after (calls ++ [.reset, .start (turnStrategyToString definition.turnStrategy)])
    let result := runScenario definition
    (∃ states,
      simulator.outputs s (definition.steps.map ScenarioStepDefinition.call) =
          states.map some ∧
        result.steps.map ScenarioStepResult.actualTexts = states.map lastTexts ∧
        result.steps.map ScenarioStepResult.passed =
          List.zipWith stepPassed definition.steps states ∧
        result.passed = (List.zipWith stepPassed definition.steps states).all id) ∧
    (∀ judged ∈ judgedServices (scenarioService ({} : PreferLeftTurnStrategy))
        definition.steps, noActuatorCommand judged = false) ∧
    ∀ judged ∈ judgedServices
        (scenarioService ({ direction := .right } : FixedTurnStrategy)) definition.steps,
      noActuatorCommand judged = false := by
  intro s result
  have hs : Presents s
      (some (.started (chosenBy (turnStrategyToString definition.turnStrategy)))) := by
    have hafter : s = ((after calls).reset).start
        (turnStrategyToString definition.turnStrategy) := by
      simp only [s, after, Mealy.run_append]
      rfl
    rw [hafter]
    exact (after_presents calls).reset.start _
  refine ⟨⟨_, hs.outputs_steps definition.steps, runScenario_eq definition⟩, ?_, ?_⟩
  · exact (scenarioService_shows _).judgedServices_hasCommands definition.steps
  · exact (scenarioService_shows _).judgedServices_hasCommands definition.steps

end RvcControl
