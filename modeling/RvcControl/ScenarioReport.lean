import RvcControl.Json
import RvcControl.ScenarioVerdict

/-!
# The report of a scenario run

`/api/scenarios/run` answers with a text that is concatenated by hand, a list
of steps inside a list of scenarios.  The text is the one a JSON printer makes
of the report (`summaryToJson_toList`), so a JSON reader recovers the report.
-/

namespace RvcControl

open Json (Value PlainText)

/-! ## The text -/

/-- The loop of the encoders over a vector, with commas between the elements. -/
def appendElements {α : Type*} (toJson : α → String) (json : String) (elements : List α) :
    String :=
  elements.zipIdx.foldl
    (fun json element =>
      let json := if element.2 > 0 then json ++ "," else json
      json ++ toJson element.1)
    json

def stepResultToJson (step : ScenarioStepResult) : String :=
  "\x7b" ++
    "\"step\":" ++ toString step.stepIndex ++ "," ++
    "\"expected_motion\":\"" ++ step.expectedMotion ++ "\"," ++
    "\"actual_motion\":\"" ++ step.actualMotion ++ "\"," ++
    "\"expected_clean\":\"" ++ step.expectedClean ++ "\"," ++
    "\"actual_clean\":\"" ++ step.actualClean ++ "\"," ++
    "\"passed\":" ++ (if step.passed then "true" else "false") ++
    "\x7d"

def scenarioResultToJson (scenario : ScenarioResult) : String :=
  let json := "\x7b" ++
    "\"id\":\"" ++ scenario.id ++ "\"," ++
    "\"name\":\"" ++ scenario.name ++ "\"," ++
    "\"passed\":" ++ (if scenario.passed then "true" else "false") ++ "," ++
    "\"message\":\"" ++ scenario.message ++ "\"," ++
    "\"steps\":["
  let json := appendElements stepResultToJson json scenario.steps
  json ++ "]\x7d"

def summaryToJson (summary : ScenarioRunSummary) : String :=
  let json := "\x7b" ++
    "\"total\":" ++ toString summary.total ++ "," ++
    "\"passed\":" ++ toString summary.passed ++ "," ++
    "\"failed\":" ++ toString summary.failed ++ "," ++
    "\"scenarios\":["
  let json := appendElements scenarioResultToJson json summary.scenarios
  json ++ "]\x7d"

/-! ## The value -/

def ScenarioStepResult.toValue (step : ScenarioStepResult) : Value :=
  .object
    [("step", .int step.stepIndex),
      ("expected_motion", .string step.expectedMotion),
      ("actual_motion", .string step.actualMotion),
      ("expected_clean", .string step.expectedClean),
      ("actual_clean", .string step.actualClean),
      ("passed", .bool step.passed)]

def ScenarioResult.toValue (scenario : ScenarioResult) : Value :=
  .object
    [("id", .string scenario.id),
      ("name", .string scenario.name),
      ("passed", .bool scenario.passed),
      ("message", .string scenario.message),
      ("steps", .array (scenario.steps.map ScenarioStepResult.toValue))]

def ScenarioRunSummary.toValue (summary : ScenarioRunSummary) : Value :=
  .object
    [("total", .int summary.total),
      ("passed", .int summary.passed),
      ("failed", .int summary.failed),
      ("scenarios", .array (summary.scenarios.map ScenarioResult.toValue))]

/-- What a client that knows the names of the members makes of a value. -/
def ScenarioStepResult.ofValue (v : Value) : Option ScenarioStepResult := do
  let stepIndex ← (← v.member? "step").int?
  let expectedMotion ← (← v.member? "expected_motion").string?
  let actualMotion ← (← v.member? "actual_motion").string?
  let expectedClean ← (← v.member? "expected_clean").string?
  let actualClean ← (← v.member? "actual_clean").string?
  let passed ← (← v.member? "passed").bool?
  return { stepIndex, expectedMotion, actualMotion, expectedClean, actualClean, passed }

def ScenarioResult.ofValue (v : Value) : Option ScenarioResult := do
  let id ← (← v.member? "id").string?
  let name ← (← v.member? "name").string?
  let passed ← (← v.member? "passed").bool?
  let message ← (← v.member? "message").string?
  let steps ← (← (← v.member? "steps").array?).mapM ScenarioStepResult.ofValue
  return { id, name, passed, message, steps }

def ScenarioRunSummary.ofValue (v : Value) : Option ScenarioRunSummary := do
  let total ← (← v.member? "total").int?
  let passed ← (← v.member? "passed").int?
  let failed ← (← v.member? "failed").int?
  let scenarios ← (← (← v.member? "scenarios").array?).mapM ScenarioResult.ofValue
  return { total, passed, failed, scenarios }

/-- A list is read back if its elements are. -/
theorem mapM_map_ofValue {α : Type*} {toValue : α → Value} {ofValue : Value → Option α}
    (h : ∀ x, ofValue (toValue x) = some x) (xs : List α) :
    (xs.map toValue).mapM ofValue = some xs := by
  induction xs with
  | nil => rfl
  | cons x xs ih => simp [h, ih]

/-- A record is read back from its value. -/
theorem ScenarioStepResult.ofValue_toValue (step : ScenarioStepResult) :
    ofValue step.toValue = some step := rfl

theorem ScenarioResult.ofValue_toValue (scenario : ScenarioResult) :
    ofValue scenario.toValue = some scenario := by
  have hsteps := mapM_map_ofValue ScenarioStepResult.ofValue_toValue scenario.steps
  simp [ofValue, toValue, Value.member?, List.lookup_cons, Value.string?, Value.bool?,
    Value.array?, hsteps]

theorem ScenarioRunSummary.ofValue_toValue (summary : ScenarioRunSummary) :
    ofValue summary.toValue = some summary := by
  have hscenarios := mapM_map_ofValue ScenarioResult.ofValue_toValue summary.scenarios
  simp [ofValue, toValue, Value.member?, List.lookup_cons, Value.int?, Value.int, Value.array?,
    hscenarios]

/-! ## The text is the printed value -/

/-- Behind the first element the loop puts a comma before each one. -/
theorem foldl_elements_toList {α : Type*} {toJson : α → String} {toValue : α → Value}
    (h : ∀ x, (toJson x).toList = Json.print (toValue x)) (json : String) (xs : List α)
    (i : ℕ) :
    ((xs.zipIdx (i + 1)).foldl
      (fun json element =>
        let json := if element.2 > 0 then json ++ "," else json
        json ++ toJson element.1) json).toList =
      json.toList ++ (xs.map fun x => Json.print (toValue x)).flatMap (',' :: ·) := by
  induction xs generalizing json i with
  | nil => simp
  | cons x xs ih =>
      rw [List.zipIdx_cons, List.foldl_cons, ih]
      simp [h]

/-- The loop over a list prints it with commas between. -/
theorem appendElements_toList {α : Type*} {toJson : α → String} {toValue : α → Value}
    (h : ∀ x, (toJson x).toList = Json.print (toValue x)) (json : String) (xs : List α) :
    (appendElements toJson json xs).toList =
      json.toList ++ Json.commaJoin (Json.printElements (xs.map toValue)) := by
  have htexts : Json.printElements (xs.map toValue) = xs.map fun x => Json.print (toValue x) := by
    rw [Json.printElements_eq_map, List.map_map]
    rfl
  rw [htexts]
  cases xs with
  | nil => simp [appendElements, Json.commaJoin]
  | cons x xs =>
      rw [List.map_cons, Json.commaJoin_cons, appendElements, List.zipIdx_cons,
        List.foldl_cons, foldl_elements_toList h]
      simp [h]

/-- A boolean is printed as its word. -/
theorem boolText_toList (b : Bool) :
    (if b then "true" else "false").toList = Json.boolWord b := by
  cases b <;> rfl

/-- A record is printed as its value. -/
theorem stepResultToJson_toList (step : ScenarioStepResult) :
    (stepResultToJson step).toList = Json.print step.toValue := by
  have hpassed := boolText_toList step.passed
  unfold stepResultToJson ScenarioStepResult.toValue
  simp [Json.print, Json.printMembers, Json.commaJoin, Json.quoted, Value.int,
    Json.exponentText, hpassed]

theorem scenarioResultToJson_toList (scenario : ScenarioResult) :
    (scenarioResultToJson scenario).toList = Json.print scenario.toValue := by
  have hpassed := boolText_toList scenario.passed
  have hsteps := fun json => appendElements_toList stepResultToJson_toList json scenario.steps
  unfold scenarioResultToJson ScenarioResult.toValue
  simp [Json.print, Json.printMembers, Json.commaJoin, Json.quoted, hpassed, hsteps]

/-- The report is the text a printer makes of its value. -/
theorem summaryToJson_toList (summary : ScenarioRunSummary) :
    (summaryToJson summary).toList = Json.print summary.toValue := by
  have hscenarios :=
    fun json => appendElements_toList scenarioResultToJson_toList json summary.scenarios
  unfold summaryToJson ScenarioRunSummary.toValue
  simp [Json.print, Json.printMembers, Json.commaJoin, Json.quoted, Value.int,
    Json.exponentText, hscenarios]

/-! ## Plain reports -/

structure ScenarioStepResult.Plain (step : ScenarioStepResult) : Prop where
  expectedMotion : PlainText step.expectedMotion
  actualMotion : PlainText step.actualMotion
  expectedClean : PlainText step.expectedClean
  actualClean : PlainText step.actualClean

structure ScenarioResult.Plain (scenario : ScenarioResult) : Prop where
  id : PlainText scenario.id
  name : PlainText scenario.name
  message : PlainText scenario.message
  steps : ∀ step ∈ scenario.steps, step.Plain

/-- No string of the report has a quote, a backslash or a control character. -/
def ScenarioRunSummary.Plain (summary : ScenarioRunSummary) : Prop :=
  ∀ scenario ∈ summary.scenarios, scenario.Plain

/-- Plain values make plain elements. -/
theorem plainElements_map {α : Type*} {toValue : α → Value} {xs : List α}
    (h : ∀ x ∈ xs, (toValue x).Plain) : Json.PlainElements (xs.map toValue) := by
  induction xs with
  | nil => trivial
  | cons x xs ih =>
      exact ⟨h x List.mem_cons_self, ih fun y hy => h y (List.mem_cons_of_mem x hy)⟩

/-- A plain record has a plain value. -/
theorem ScenarioStepResult.Plain.toValue {step : ScenarioStepResult} (h : step.Plain) :
    step.toValue.Plain := by
  refine ⟨?_, trivial, ?_, h.expectedMotion, ?_, h.actualMotion, ?_, h.expectedClean, ?_,
    h.actualClean, ?_, trivial, trivial⟩ <;> decide

theorem ScenarioResult.Plain.toValue {scenario : ScenarioResult} (h : scenario.Plain) :
    scenario.toValue.Plain := by
  have hsteps := plainElements_map fun step hstep => (h.steps step hstep).toValue
  refine ⟨?_, h.id, ?_, h.name, ?_, trivial, ?_, h.message, ?_, hsteps, trivial⟩ <;> decide

theorem ScenarioRunSummary.Plain.toValue {summary : ScenarioRunSummary} (h : summary.Plain) :
    summary.toValue.Plain := by
  have hscenarios := plainElements_map fun scenario hscenario => (h scenario hscenario).toValue
  refine ⟨?_, trivial, ?_, trivial, ?_, trivial, ?_, hscenarios, trivial⟩ <;> decide

/-! ## The strings of the runner -/

/-- Plain texts joined are plain. -/
theorem PlainText.append {s t : String} (hs : PlainText s) (ht : PlainText t) :
    PlainText (s ++ t) := by
  intro c hc
  rw [String.toList_append] at hc
  rcases List.mem_append.mp hc with h | h
  · exact hs c h
  · exact ht c h

/-- A number is plain. -/
theorem plainText_repr (n : Int) : PlainText (toString n) := by
  intro c hc
  have hc' : c ∈ (if n < 0 then ['-'] else []) ++ Nat.toDigits 10 n.natAbs :=
    Json.toList_repr n ▸ hc
  rcases List.mem_append.mp hc' with h | h
  · split at h
    · cases List.mem_singleton.mp h
      decide
    · cases h
  · have hdigit := Json.digits_isDigit n.natAbs c h
    exact ⟨Json.digit_ne hdigit rfl, Json.digit_ne hdigit rfl,
      Nat.le_trans (by decide) (Char.isDigit_iff_toNat.mp hdigit).1⟩

theorem plainText_motion (command : MotionCommand) : PlainText (motionToString command) := by
  cases command <;> decide

theorem plainText_clean (command : CleaningCommand) : PlainText (cleanToString command) := by
  cases command <;> decide

/-- A record has no other texts. -/
theorem stepVerdict_plain (i : ℕ) (step : ScenarioStepDefinition) (tickState : SimulatorState) :
    (stepVerdict i step tickState).Plain :=
  ⟨plainText_motion _, plainText_motion _, plainText_clean _, plainText_clean _⟩

theorem LiveSession.verdicts_plain (v : LiveSession) (i : ℕ)
    (steps : List ScenarioStepDefinition) : ∀ r ∈ v.verdicts i steps, r.Plain := by
  induction steps generalizing v i with
  | nil =>
      intro r hr
      exact absurd hr List.not_mem_nil
  | cons step steps ih =>
      intro r hr
      rcases List.mem_cons.mp hr with rfl | hrest
      · exact stepVerdict_plain _ _ _
      · exact ih _ _ r hrest

/-- A message stays plain. -/
theorem messageAfter_plain {message : String} (h : PlainText message) (r : ScenarioStepResult) :
    PlainText (messageAfter message r) := by
  rw [messageAfter]
  split
  · exact h
  · exact (PlainText.append (PlainText.append (by decide) (plainText_repr _)) (by decide))

/-- However many steps follow. -/
theorem messages_plain {message : String} (h : PlainText message)
    (verdicts : List ScenarioStepResult) : PlainText (verdicts.foldl messageAfter message) := by
  induction verdicts generalizing message with
  | nil => exact h
  | cons r verdicts ih => exact ih (messageAfter_plain h r)

/-- A run of a plain scenario has a plain result. -/
theorem runDefinition_plain {σ : Type*} [ITurnStrategy σ] {definition : ScenarioDefinition}
    (hid : PlainText definition.id) (hname : PlainText definition.name) (turnStrategy : σ) :
    (runDefinition definition turnStrategy).Plain := by
  rw [runDefinition_eq]
  refine ⟨hid, hname, ?_, LiveSession.verdicts_plain _ _ _⟩
  show PlainText (if _ then "OK" else _)
  split
  · decide
  · exact messages_plain (by decide) _

/-- The runner adds no string that needs escapes to those of its table. -/
theorem runAll_plain {definitions : List ScenarioDefinition}
    (h : ∀ definition ∈ definitions, PlainText definition.id ∧ PlainText definition.name) :
    (runAll definitions).Plain := by
  intro scenario hscenario
  rw [(runAll_summarizes definitions).scenarios] at hscenario
  obtain ⟨definition, hmem, rfl⟩ := List.mem_map.mp hscenario
  obtain ⟨hid, hname⟩ := h definition hmem
  rw [runScenario]
  split
  · exact runDefinition_plain hid hname _
  · exact runDefinition_plain hid hname _

/-! ## The scenarios of the server -/

def clearSensors : SensorSnapshot := {}

def frontBlockedSensors : SensorSnapshot := { frontBlocked := true }

def allSidesBlockedSensors : SensorSnapshot :=
  { frontBlocked := true, leftBlocked := true, rightBlocked := true }

def dustySensors : SensorSnapshot := { dustDetected := true }

def getScenarioDefinitions : List ScenarioDefinition :=
  [{ id := "forward_cleaning"
     name := "직진 청소"
     turnStrategy := .preferLeft
     steps :=
      [{ sensors := clearSensors, expectedMotion := .moveForward, expectedClean := .setNormal },
        { sensors := clearSensors, expectedMotion := .moveForward, expectedClean := .setNormal },
        { sensors := clearSensors, expectedMotion := .moveForward
          expectedClean := .setNormal }] },
    { id := "front_obstacle"
      name := "전방 장애물 회피"
      turnStrategy := .preferLeft
      steps :=
        [{ sensors := frontBlockedSensors, expectedMotion := .stop, expectedClean := .setOff },
          { sensors := frontBlockedSensors, expectedMotion := .turnLeft
            expectedClean := .setOff },
          { sensors := clearSensors, expectedMotion := .moveForward
            expectedClean := .setNormal }] },
    { id := "all_sides_blocked"
      name := "전/좌/우 막힘"
      turnStrategy := .preferLeft
      steps :=
        [{ sensors := allSidesBlockedSensors, expectedMotion := .moveBackward
           expectedClean := .setOff },
          { sensors := allSidesBlockedSensors, expectedMotion := .turnLeft
            expectedClean := .setOff },
          { sensors := clearSensors, expectedMotion := .moveForward
            expectedClean := .setNormal }] },
    { id := "dust_boost"
      name := "먼지 흡입 및 부스트"
      turnStrategy := .preferLeft
      steps :=
        [{ sensors := clearSensors, expectedMotion := .moveForward
           expectedClean := .setNormal },
          { sensors := dustySensors, expectedMotion := .moveForward
            expectedClean := .setBoost },
          { sensors := clearSensors, expectedMotion := .moveForward
            expectedClean := .setNormal, timerAdvance := 3000 }] },
    { id := "right_turn_obstacle"
      name := "우회전 전략"
      turnStrategy := .forceRight
      steps :=
        [{ sensors := frontBlockedSensors, expectedMotion := .stop, expectedClean := .setOff },
          { sensors := frontBlockedSensors, expectedMotion := .turnRight
            expectedClean := .setOff }] }]

/-- The summary of the server's scenarios is plain. -/
theorem getScenarioDefinitions_plain : (runAll getScenarioDefinitions).Plain :=
  runAll_plain (by decide)

/-! ## The round trip -/

/-- **The report survives its encoding.**  Of the text of a report without
quotes, backslashes and control characters in its strings a JSON reader makes
a value that holds the report, so no other report has the same text.  The
reports of the server are such reports. -/
theorem report_round_trip {summary : ScenarioRunSummary} (h : summary.Plain) :
    (∃ v, Json.read (summaryToJson summary) = some v ∧
        ScenarioRunSummary.ofValue v = some summary) ∧
      (∀ other : ScenarioRunSummary, other.Plain →
        summaryToJson other = summaryToJson summary → other = summary) ∧
      (runAll getScenarioDefinitions).Plain := by
  have hread : ∀ {summary : ScenarioRunSummary}, summary.Plain →
      Json.read (summaryToJson summary) = some summary.toValue := by
    intro summary h
    rw [← Json.read_print h.toValue, ← summaryToJson_toList, String.ofList_toList]
  refine ⟨⟨summary.toValue, hread h, summary.ofValue_toValue⟩, ?_, getScenarioDefinitions_plain⟩
  intro other hother heq
  have hvalue : other.toValue = summary.toValue :=
    Option.some.inj ((hread hother).symm.trans (heq ▸ hread h))
  have hsome : some other = some summary := by
    rw [← other.ofValue_toValue, hvalue, summary.ofValue_toValue]
  exact Option.some.inj hsome

/-- The theorem for the report of the server. -/
theorem report_round_trip_server :
    ∃ v, Json.read (summaryToJson (runAll getScenarioDefinitions)) = some v ∧
      ScenarioRunSummary.ofValue v = some (runAll getScenarioDefinitions) :=
  (report_round_trip getScenarioDefinitions_plain).1

end RvcControl
