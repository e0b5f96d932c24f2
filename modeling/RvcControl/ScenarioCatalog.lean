import RvcControl.ScenarioReport

/-!
# The catalogue of scenarios

`/api/scenarios` answers with the definitions of all scenarios, three lists
deep in one text.  The page reads it as JSON and has from it what it needs to
run the scenarios itself: a `ScenarioView` for each, with commands and strategy
as texts.
-/

namespace RvcControl

open Json (Value PlainText)

/-! ## The text -/

def sensorsToJson (sensors : SensorSnapshot) : String :=
  "\x7b" ++
    "\"front_blocked\":" ++ (if sensors.frontBlocked then "true" else "false") ++ "," ++
    "\"left_blocked\":" ++ (if sensors.leftBlocked then "true" else "false") ++ "," ++
    "\"right_blocked\":" ++ (if sensors.rightBlocked then "true" else "false") ++ "," ++
    "\"dust_detected\":" ++ (if sensors.dustDetected then "true" else "false") ++
    "\x7d"

/-- The body of the inner loop of `ScenarioDefinitionsToJson`. -/
def scenarioStepDefinitionToJson (step : ScenarioStepDefinition) : String :=
  "\x7b" ++
    "\"sensors\":" ++ sensorsToJson step.sensors ++ "," ++
    "\"expected_motion\":\"" ++ motionToString step.expectedMotion ++ "\"," ++
    "\"expected_clean\":\"" ++ cleanToString step.expectedClean ++ "\"," ++
    "\"timer_advance_ms\":" ++ toString step.timerAdvance ++
    "\x7d"

/-- The body of its outer loop. -/
def scenarioDefinitionToJson (scenario : ScenarioDefinition) : String :=
  let json := "\x7b" ++
    "\"id\":\"" ++ scenario.id ++ "\"," ++
    "\"name\":\"" ++ scenario.name ++ "\"," ++
    "\"turn_strategy\":\"" ++ turnStrategyToString scenario.turnStrategy ++ "\"," ++
    "\"steps\":["
  let json := appendElements scenarioStepDefinitionToJson json scenario.steps
  json ++ "]\x7d"

/-- The source has one table, `getScenarioDefinitions`; any other would do. -/
def scenarioDefinitionsToJson (definitions : List ScenarioDefinition) : String :=
  let json := appendElements scenarioDefinitionToJson "\x7b\"scenarios\":[" definitions
  json ++ "]\x7d"

/-! ## The value -/

def SensorSnapshot.toValue (sensors : SensorSnapshot) : Value :=
  .object
    [("front_blocked", .bool sensors.frontBlocked),
      ("left_blocked", .bool sensors.leftBlocked),
      ("right_blocked", .bool sensors.rightBlocked),
      ("dust_detected", .bool sensors.dustDetected)]

def ScenarioStepDefinition.toValue (step : ScenarioStepDefinition) : Value :=
  .object
    [("sensors", step.sensors.toValue),
      ("expected_motion", .string (motionToString step.expectedMotion)),
      ("expected_clean", .string (cleanToString step.expectedClean)),
      ("timer_advance_ms", .int step.timerAdvance)]

def ScenarioDefinition.toValue (scenario : ScenarioDefinition) : Value :=
  .object
    [("id", .string scenario.id),
      ("name", .string scenario.name),
      ("turn_strategy", .string (turnStrategyToString scenario.turnStrategy)),
      ("steps", .array (scenario.steps.map ScenarioStepDefinition.toValue))]

def catalogueValue (definitions : List ScenarioDefinition) : Value :=
  .object [("scenarios", .array (definitions.map ScenarioDefinition.toValue))]

/-- The sensors are printed as their value. -/
theorem sensorsToJson_toList (sensors : SensorSnapshot) :
    (sensorsToJson sensors).toList = Json.print sensors.toValue := by
  have hfront := boolText_toList sensors.frontBlocked
  have hleft := boolText_toList sensors.leftBlocked
  have hright := boolText_toList sensors.rightBlocked
  have hdust := boolText_toList sensors.dustDetected
  unfold sensorsToJson SensorSnapshot.toValue
  simp [Json.print, Json.printMembers, Json.commaJoin, Json.quoted, hfront, hleft, hright, hdust]

theorem scenarioStepDefinitionToJson_toList (step : ScenarioStepDefinition) :
    (scenarioStepDefinitionToJson step).toList = Json.print step.toValue := by
  have hsensors := sensorsToJson_toList step.sensors
  unfold scenarioStepDefinitionToJson ScenarioStepDefinition.toValue
  simp [Json.print, Json.printMembers, Json.commaJoin, Json.quoted, Value.int,
    Json.exponentText, hsensors]

theorem scenarioDefinitionToJson_toList (scenario : ScenarioDefinition) :
    (scenarioDefinitionToJson scenario).toList = Json.print scenario.toValue := by
  have hsteps :=
    fun json => appendElements_toList scenarioStepDefinitionToJson_toList json scenario.steps
  unfold scenarioDefinitionToJson ScenarioDefinition.toValue
  simp [Json.print, Json.printMembers, Json.commaJoin, Json.quoted, hsteps]

/-- The catalogue is the text a printer makes of its value. -/
theorem scenarioDefinitionsToJson_toList (definitions : List ScenarioDefinition) :
    (scenarioDefinitionsToJson definitions).toList = Json.print (catalogueValue definitions) := by
  have hscenarios :=
    fun json => appendElements_toList scenarioDefinitionToJson_toList json definitions
  unfold scenarioDefinitionsToJson catalogueValue
  simp [Json.print, Json.printMembers, Json.commaJoin, Json.quoted, hscenarios]

/-! ## What the page has of it -/

/-- A step as the page has it. -/
structure StepView where
  sensors : SensorSnapshot
  expectedMotion : String
  expectedClean : String
  timerAdvanceMs : Int
  deriving DecidableEq, Repr

/-- A scenario as the page has it. -/
structure ScenarioView where
  id : String
  name : String
  turnStrategy : String
  steps : List StepView
  deriving DecidableEq, Repr

def ScenarioStepDefinition.view (step : ScenarioStepDefinition) : StepView where
  sensors := step.sensors
  expectedMotion := motionToString step.expectedMotion
  expectedClean := cleanToString step.expectedClean
  timerAdvanceMs := step.timerAdvance

def ScenarioDefinition.view (scenario : ScenarioDefinition) : ScenarioView where
  id := scenario.id
  name := scenario.name
  turnStrategy := turnStrategyToString scenario.turnStrategy
  steps := scenario.steps.map ScenarioStepDefinition.view

def SensorSnapshot.ofValue (v : Value) : Option SensorSnapshot := do
  let frontBlocked ← (← v.member? "front_blocked").bool?
  let leftBlocked ← (← v.member? "left_blocked").bool?
  let rightBlocked ← (← v.member? "right_blocked").bool?
  let dustDetected ← (← v.member? "dust_detected").bool?
  return { frontBlocked, leftBlocked, rightBlocked, dustDetected }

def StepView.ofValue (v : Value) : Option StepView := do
  let sensors ← SensorSnapshot.ofValue (← v.member? "sensors")
  let expectedMotion ← (← v.member? "expected_motion").string?
  let expectedClean ← (← v.member? "expected_clean").string?
  let timerAdvanceMs ← (← v.member? "timer_advance_ms").int?
  return { sensors, expectedMotion, expectedClean, timerAdvanceMs }

def ScenarioView.ofValue (v : Value) : Option ScenarioView := do
  let id ← (← v.member? "id").string?
  let name ← (← v.member? "name").string?
  let turnStrategy ← (← v.member? "turn_strategy").string?
  let steps ← (← (← v.member? "steps").array?).mapM StepView.ofValue
  return { id, name, turnStrategy, steps }

/-- `res.json()` of the answer, and its member `scenarios`. -/
def readScenarios (text : String) : Option (List ScenarioView) := do
  (← (← (← Json.read text).member? "scenarios").array?).mapM ScenarioView.ofValue

section Views

/-- The page reads the sensors back. -/
theorem SensorSnapshot.ofValue_toValue (sensors : SensorSnapshot) :
    ofValue sensors.toValue = some sensors := rfl

/-- It reads a step as its view. -/
theorem ScenarioStepDefinition.ofValue_toValue (step : ScenarioStepDefinition) :
    StepView.ofValue step.toValue = some step.view := rfl

/-- A list of values is read element by element. -/
theorem mapM_map_view {α β γ : Type*} {toValue : α → γ} {ofValue : γ → Option β}
    {view : α → β} (h : ∀ x, ofValue (toValue x) = some (view x)) (xs : List α) :
    (xs.map toValue).mapM ofValue = some (xs.map view) := by
  induction xs with
  | nil => rfl
  | cons x xs ih => simp [h, ih]

theorem ScenarioDefinition.ofValue_toValue (scenario : ScenarioDefinition) :
    ScenarioView.ofValue scenario.toValue = some scenario.view := by
  have hsteps := mapM_map_view ScenarioStepDefinition.ofValue_toValue scenario.steps
  simp [ScenarioView.ofValue, toValue, Value.member?, List.lookup_cons, Value.string?,
    Value.array?, hsteps, view]

end Views

/-! ## The round trip -/

/-- Id and name need no escapes; the other texts of a definition never do. -/
structure ScenarioDefinition.Plain (scenario : ScenarioDefinition) : Prop where
  id : PlainText scenario.id
  name : PlainText scenario.name

/-- Names of strategies are plain. -/
theorem plainText_turnStrategy (strategy : ScenarioTurnStrategy) :
    PlainText (turnStrategyToString strategy) := by
  cases strategy <;> decide

theorem SensorSnapshot.toValue_plain (sensors : SensorSnapshot) : sensors.toValue.Plain := by
  refine ⟨?_, trivial, ?_, trivial, ?_, trivial, ?_, trivial, trivial⟩ <;> decide

theorem ScenarioStepDefinition.toValue_plain (step : ScenarioStepDefinition) :
    step.toValue.Plain := by
  refine ⟨?_, step.sensors.toValue_plain, ?_, plainText_motion _, ?_, plainText_clean _, ?_,
    trivial, trivial⟩ <;> decide

/-- A plain scenario has a plain value. -/
theorem ScenarioDefinition.Plain.toValue {scenario : ScenarioDefinition} (h : scenario.Plain) :
    scenario.toValue.Plain := by
  have hsteps := plainElements_map fun step (_ : step ∈ scenario.steps) => step.toValue_plain
  refine ⟨?_, h.id, ?_, h.name, ?_, plainText_turnStrategy _, ?_, hsteps, trivial⟩ <;> decide

theorem catalogueValue_plain {definitions : List ScenarioDefinition}
    (h : ∀ d ∈ definitions, d.Plain) : (catalogueValue definitions).Plain :=
  ⟨by decide, plainElements_map fun d hd => (h d hd).toValue, trivial⟩

/-- The page reads the definitions off the catalogue. -/
theorem readScenarios_catalogue {definitions : List ScenarioDefinition}
    (h : ∀ d ∈ definitions, d.Plain) :
    readScenarios (scenarioDefinitionsToJson definitions) =
      some (definitions.map ScenarioDefinition.view) := by
  have hread : Json.read (scenarioDefinitionsToJson definitions) =
      some (catalogueValue definitions) := by
    rw [← Json.read_print (catalogueValue_plain h), ← scenarioDefinitionsToJson_toList,
      String.ofList_toList]
  have hscenarios := mapM_map_view ScenarioDefinition.ofValue_toValue definitions
  simp [readScenarios, hread, catalogueValue, Value.member?, Value.array?, hscenarios]

/-- The server's own scenarios are plain. -/
theorem getScenarioDefinitions_ids_plain : ∀ d ∈ getScenarioDefinitions, d.Plain := by
  have h : ∀ d ∈ getScenarioDefinitions, PlainText d.id ∧ PlainText d.name := by decide
  intro d hd
  exact ⟨(h d hd).1, (h d hd).2⟩

end RvcControl
