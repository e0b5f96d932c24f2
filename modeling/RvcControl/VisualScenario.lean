import RvcControl.AutoTestPanel
import RvcControl.ScenarioVerdict

/-!
# One scenario in the page

The page judges a scenario by the states its own ticks return from a service
that it shares with manual mode and with everybody else; the server's runner
judges it on a service of its own.  A scenario whose session nobody has touched
gets the runner's verdict.

The call is suspended at many points, and `SingleRun.Fits` says what is true at
each of them: what the page has recorded is what the runner would have, and the
service shows the reference session after the steps taken so far.
-/

namespace RvcControl

/-! ## The records of a scenario -/

namespace ScenarioDefinition

variable (d : ScenarioDefinition)

/-- The session of a scenario, just started. -/
def session : LiveSession := .started (chosenBy (turnStrategyToString d.turnStrategy))

/-- Its session after the first `n` steps. -/
def sessionAfter (n : ℕ) : LiveSession := d.session.afterSteps (d.steps.take n)

/-- The records of the first `n` steps. -/
def recordsUpTo (n : ℕ) : List ScenarioStepResult := d.session.verdicts 0 (d.steps.take n)

@[simp] theorem sessionAfter_zero : d.sessionAfter 0 = d.session := rfl

@[simp] theorem recordsUpTo_zero : d.recordsUpTo 0 = [] := rfl

variable {d} {n : ℕ} {step : ScenarioStepDefinition}

/-- One step more. -/
theorem take_succ_steps (h : d.steps[n]? = some step) :
    d.steps.take (n + 1) = d.steps.take n ++ [step] := by
  rw [List.take_add_one, h]
  rfl

/-- One tick more. -/
theorem sessionAfter_succ (h : d.steps[n]? = some step) :
    d.sessionAfter (n + 1) = (d.sessionAfter n).tick step.sensors step.timerAdvance := by
  rw [sessionAfter, take_succ_steps h, LiveSession.afterSteps, List.foldl_concat]
  rfl

end ScenarioDefinition

/-- One record more. -/
theorem LiveSession.verdicts_concat (v : LiveSession) (i : ℕ)
    (steps : List ScenarioStepDefinition) (step : ScenarioStepDefinition) :
    v.verdicts i (steps ++ [step]) = v.verdicts i steps ++
      [stepVerdict (i + steps.length) step
        ((v.afterSteps steps).tick step.sensors step.timerAdvance).state] := by
  induction steps generalizing v i with
  | nil => rfl
  | cons first steps ih =>
      have hindex : i + 1 + steps.length = i + (first :: steps).length := by
        rw [List.length_cons]
        omega
      rw [List.cons_append, verdicts, ih, hindex]
      rfl

theorem ScenarioDefinition.recordsUpTo_succ {d : ScenarioDefinition} {n : ℕ}
    {step : ScenarioStepDefinition} (h : d.steps[n]? = some step) :
    d.recordsUpTo (n + 1) =
      d.recordsUpTo n ++ [stepVerdict n step (d.sessionAfter (n + 1)).state] := by
  have hn : n < d.steps.length := (List.getElem?_eq_some_iff.mp h).1
  have hlength : 0 + (d.steps.take n).length = n := by
    rw [List.length_take]
    omega
  rw [recordsUpTo, take_succ_steps h, LiveSession.verdicts_concat, hlength, sessionAfter_succ h]
  rfl

/-- The runner's result, by the reference session. -/
theorem runScenario_records (d : ScenarioDefinition) :
    let records := d.recordsUpTo d.steps.length
    (runScenario d).id = d.id ∧ (runScenario d).name = d.name ∧
      (runScenario d).passed = records.all ScenarioStepResult.passed ∧
      (runScenario d).steps = records := by
  intro records
  have hrecords : records = d.session.verdicts 0 d.steps := by
    simp [records, ScenarioDefinition.recordsUpTo]
  rw [hrecords, ScenarioDefinition.session, chosenBy_turnStrategyToString, runScenario]
  by_cases hright : d.turnStrategy = .forceRight
  · rw [if_pos hright, if_pos hright, runDefinition_eq]
    exact ⟨rfl, rfl, rfl, rfl⟩
  · rw [if_neg hright, if_neg hright, runDefinition_eq]
    exact ⟨rfl, rfl, rfl, rfl⟩

/-- What the panel makes of a scenario that nobody disturbs: the runner's
result, but for the message of a failure. -/
def visualResult (d : ScenarioDefinition) : ScenarioResult :=
  let result := runScenario d
  { result with message := if result.passed then "OK" else "검증 실패" }

/-- Whatever the server is asked, its service remains one that shows a session. -/
theorem Presents.httpServer {s : SimulatorService} {v : Option LiveSession} (h : Presents s v)
    (definitions : List ScenarioDefinition) (request : HttpRequest) :
    ∃ v', Presents ((httpServer definitions).next s request) v' := by
  cases hapi : request.api? with
  | none =>
      rw [(httpServer_answer definitions hapi s).1]
      exact ⟨v, h⟩
  | some r =>
      have hcalls : List.Forall₂ Eq (api.calls r) (api.calls r) := by
        rw [List.forall₂_eq_eq_eq]
      rw [(httpServer_api definitions hapi s).1, Handlers.atomically_next]
      exact ⟨_, simulator_refines_liveSessions.run h hcalls⟩

/-! ## One scenario -/

/-- How far a run is, by where it is suspended. -/
def SingleRun.Placed (d : ScenarioDefinition) (r : SingleRun) : Prop :=
  match r.awaits with
  | .reset _ | .start _ => r.stepResults.length = 0
  | .stepDelay | .tick _ => r.stepResults.length < d.steps.length
  | .banner | .pause => r.stepResults.length = d.steps.length

/-- What the service is to an undisturbed run after `n` steps.  A tick whose
answer is on its way has been taken; after the last one it does not matter what
becomes of the service. -/
def Await.Finds (d : ScenarioDefinition) (s : SimulatorService) (n : ℕ) : Await → Prop
  | .start (.answered _) | .stepDelay | .tick .posted => Presents s (some (d.sessionAfter n))
  | .tick (.answered answer) =>
      answer = some (stateToJson (d.sessionAfter (n + 1)).state) ∧
        (n + 1 < d.steps.length → Presents s (some (d.sessionAfter (n + 1))))
  | _ => True

/-- The answers of the server can be read, whatever has become of its service. -/
def Await.Readable : Await → Prop
  | .reset (.answered answer) | .start (.answered answer) => (answer.bind Json.read).isSome
  | .tick (.answered answer) => (answer.bind readState).isSome
  | _ => True

/-- The run `r` of the scenario `d`, before the service `s`. -/
structure SingleRun.Fits (d : ScenarioDefinition) (s : SimulatorService) (r : SingleRun) :
    Prop where
  scenario : r.scenario = d.view
  passed : r.passed = r.stepResults.all ScenarioStepResult.passed
  placed : r.Placed d
  readable : r.awaits.Readable
  records : r.disturbed = false → r.stepResults = d.recordsUpTo r.stepResults.length
  finds : r.disturbed = false → r.awaits.Finds d s r.stepResults.length

/-- A shown result, beside the scenario it is about. -/
structure VisualResult.Fits (d : ScenarioDefinition) (r : VisualResult) : Prop where
  id : r.result.id = d.id
  name : r.result.name = d.name
  verdict : r.disturbed = false → r.result = visualResult d

namespace SingleRun.Fits

variable {d : ScenarioDefinition} {s : SimulatorService} {r : SingleRun}

/-- A call that has just begun. -/
theorem begin (d : ScenarioDefinition) (s : SimulatorService) (pauseAfter : Bool) :
    Fits d s { scenario := d.view, pauseAfter } :=
  ⟨rfl, rfl, rfl, trivial, fun _ => rfl, fun _ => trivial⟩

/-- Whatever somebody else makes of the service, a run that it matters to has
noted it. -/
theorem disturb (h : Fits d s r) (s' : SimulatorService) : Fits d s' r.disturb := by
  refine ⟨h.scenario, h.passed, h.placed, h.readable, ?_, ?_⟩
  · intro hno
    exact h.records (Bool.or_eq_false_iff.mp hno).1
  · intro hno
    obtain ⟨hdisturbed, hexposed⟩ := Bool.or_eq_false_iff.mp hno
    have hfinds := h.finds hdisturbed
    have hsteps : r.scenario.steps.length = d.steps.length := by
      rw [h.scenario]
      exact List.length_map _
    show r.awaits.Finds d s' r.stepResults.length
    unfold exposed at hexposed
    cases hawaits : r.awaits with
    | reset x => trivial
    | start x =>
        cases x with
        | posted => trivial
        | answered answer => simp [hawaits] at hexposed
    | stepDelay => simp [hawaits] at hexposed
    | tick x =>
        cases x with
        | posted => simp [hawaits] at hexposed
        | answered answer =>
            simp only [hawaits, hsteps, decide_eq_false_iff_not] at hexposed
            rw [hawaits] at hfinds
            exact ⟨hfinds.1, fun hlt => absurd hlt hexposed⟩
    | banner => trivial
    | pause => trivial

/-- The step at which an unfinished run stands. -/
theorem step? (h : Fits d s r) (hlt : r.stepResults.length < d.steps.length) :
    ∃ step, d.steps[r.stepResults.length]? = some step ∧ r.step? = some step.view := by
  refine ⟨_, List.getElem?_eq_getElem hlt, ?_⟩
  rw [SingleRun.step?, h.scenario, ScenarioDefinition.view, List.getElem?_map,
    List.getElem?_eq_getElem hlt]
  rfl

/-- The head of the loop leads to the next step or out of the loop. -/
theorem nextStep (h : r.scenario = d.view) (hpassed : r.passed =
      r.stepResults.all ScenarioStepResult.passed)
    (hle : r.stepResults.length ≤ d.steps.length)
    (hrecords : r.disturbed = false → r.stepResults = d.recordsUpTo r.stepResults.length)
    (hfinds : r.disturbed = false → r.stepResults.length < d.steps.length →
      Presents s (some (d.sessionAfter r.stepResults.length))) : Fits d s r.nextStep := by
  have hsteps : r.scenario.steps.length = d.steps.length := by
    rw [h]
    exact List.length_map _
  by_cases hlt : r.stepResults.length < d.steps.length
  · have hawaits : r.nextStep.awaits = .stepDelay := by
      rw [SingleRun.nextStep, hsteps, if_pos hlt]
    refine ⟨h, hpassed, ?_, by rw [hawaits]; trivial, hrecords, ?_⟩
    · rw [Placed, hawaits]
      exact hlt
    · intro hno
      rw [hawaits]
      exact hfinds hno hlt
  · have hawaits : r.nextStep.awaits = .banner := by
      rw [SingleRun.nextStep, hsteps, if_neg hlt]
    refine ⟨h, hpassed, ?_, by rw [hawaits]; trivial, hrecords, ?_⟩
    · rw [Placed, hawaits]
      show r.stepResults.length = d.steps.length
      omega
    · intro hno
      rw [hawaits]
      trivial

/-- The call resumes with its answer. -/
theorem resume (h : Fits d s r) {g g' : Grid} {r' : SingleRun}
    (hresume : r.resume g = some (r', g')) : Fits d s r' := by
  have hplaced := h.placed
  have hfinds := h.finds
  have hrecords := h.records
  unfold Placed at hplaced
  unfold SingleRun.resume at hresume
  cases hawaits : r.awaits with
  | reset x =>
      rw [hawaits] at hplaced hresume
      cases x with
      | posted => cases hresume
      | answered answer =>
          obtain ⟨value, _, heq⟩ := Option.map_eq_some_iff.mp hresume
          cases heq
          exact ⟨h.scenario, h.passed, hplaced, trivial, hrecords, fun _ => trivial⟩
  | start x =>
      rw [hawaits] at hplaced hresume hfinds
      cases x with
      | posted => cases hresume
      | answered answer =>
          obtain ⟨value, _, heq⟩ := Option.map_eq_some_iff.mp hresume
          cases heq
          apply nextStep h.scenario h.passed _ hrecords fun hno _ => hfinds hno
          show r.stepResults.length ≤ d.steps.length
          omega
  | stepDelay =>
      rw [hawaits] at hresume
      cases hresume
  | tick x =>
      rw [hawaits] at hplaced hresume hfinds
      cases x with
      | posted => cases hresume
      | answered answer =>
          obtain ⟨step, hstep, hview⟩ := h.step? hplaced
          simp only [Option.bind_eq_bind, Option.bind_eq_some_iff, Option.pure_def,
            Option.some.injEq] at hresume
          obtain ⟨state, ⟨text, rfl, hread⟩, step', hstep', heq⟩ := hresume
          rw [hview] at hstep'
          cases hstep'
          cases heq
          have hjudged : (r.judge step.view state).stepResults.length =
              r.stepResults.length + 1 := by
            simp [judge]
          have hscenario : (r.judge step.view state).scenario = d.view := h.scenario
          apply nextStep hscenario
          · simp [judge, h.passed]
          · rw [hjudged]
            exact hplaced
          · intro hno
            have hview : state = (d.sessionAfter (r.stepResults.length + 1)).state.view := by
              rw [Option.some.inj (hfinds hno).1, readState_stateToJson] at hread
              exact (Option.some.inj hread).symm
            rw [hjudged, d.recordsUpTo_succ hstep, ← hrecords hno, hview]
            rfl
          · rw [hjudged]
            intro hno hlt
            exact (hfinds hno).2 hlt
  | banner =>
      rw [hawaits] at hresume
      cases hresume
  | pause =>
      rw [hawaits] at hresume
      cases hresume

/-- The service processes the request of the run. -/
theorem serve (h : Fits d s r) (definitions : List ScenarioDefinition) {v : Option LiveSession}
    (hv : Presents s v) (htimes : ∀ step ∈ d.steps, InInt32 step.timerAdvance)
    {request : HttpRequest} (hrequest : r.request? = some request) :
    Fits d ((httpServer definitions).next s request)
      (r.answered ((httpServer definitions).out s request)) := by
  have hplaced := h.placed
  unfold Placed at hplaced
  unfold SingleRun.request? at hrequest
  unfold SingleRun.answered
  cases hawaits : r.awaits with
  | reset x =>
      rw [hawaits] at hplaced hrequest
      cases x with
      | answered answer => cases hrequest
      | posted =>
          cases hrequest
          rw [Mealy.next, Mealy.out, httpServer_reset]
          refine ⟨h.scenario, h.passed, hplaced, ?_, h.records, fun _ => trivial⟩
          simp [Await.Readable, read_ok]
  | start x =>
      rw [hawaits] at hplaced hrequest
      cases x with
      | answered answer => cases hrequest
      | posted =>
          have hread := startRequest_turnStrategy (plainText_turnStrategy d.turnStrategy)
          have hstarted := hv.start (turnStrategyToString d.turnStrategy)
          rw [h.scenario] at hrequest
          cases hrequest
          rw [Mealy.next, Mealy.out, ScenarioDefinition.view, httpServer_start definitions hread]
          refine ⟨h.scenario, h.passed, hplaced, ?_, h.records, fun _ => ?_⟩
          · simp [Await.Readable, read_stateToJson]
          show Presents _ (some (d.sessionAfter r.stepResults.length))
          rw [hplaced]
          exact hstarted
  | stepDelay =>
      rw [hawaits] at hrequest
      cases hrequest
  | tick x =>
      rw [hawaits] at hplaced hrequest
      cases x with
      | answered answer => cases hrequest
      | posted =>
          obtain ⟨step, hstep, hview⟩ := h.step? hplaced
          obtain ⟨_, hstep', rfl⟩ := Option.map_eq_some_iff.mp hrequest
          rw [hview] at hstep'
          cases hstep'
          have hread := tickRequest_tickMembers step.sensors (some step.timerAdvance) (by
            intro n hn
            rw [← Option.mem_some_iff.mp hn]
            exact htimes step (List.mem_of_getElem? hstep))
          rw [Mealy.next, Mealy.out, ScenarioStepDefinition.view,
            httpServer_tick definitions hread]
          refine ⟨h.scenario, h.passed, hplaced, ?_, h.records, fun hno => ?_⟩
          · simp [Await.Readable, readState_stateToJson]
          have hfound := h.finds hno
          rw [hawaits] at hfound
          have hnext := hfound.tick step.sensors step.timerAdvance
          rw [Option.map_some, ← d.sessionAfter_succ hstep] at hnext
          exact ⟨congrArg (some ∘ stateToJson) hnext.getState, fun _ => hnext⟩
  | banner =>
      rw [hawaits] at hrequest
      cases hrequest
  | pause =>
      rw [hawaits] at hrequest
      cases hrequest

/-- The timeouts of the run. -/
theorem wake (h : Fits d s r) :
    (r.awaits = .stepDelay → Fits d s { r with awaits := .tick .posted }) ∧
      (r.awaits = .banner → Fits d s { r with awaits := .pause }) := by
  have hplaced := h.placed
  have hfinds := h.finds
  unfold Placed at hplaced
  constructor
  · intro hawaits
    rw [hawaits] at hplaced hfinds
    exact ⟨h.scenario, h.passed, hplaced, trivial, h.records, hfinds⟩
  · intro hawaits
    rw [hawaits] at hplaced
    exact ⟨h.scenario, h.passed, hplaced, trivial, h.records, fun _ => trivial⟩

/-- What a call returns that has come to its end. -/
theorem result (h : Fits d s r) (hend : r.awaits = .banner ∨ r.awaits = .pause) :
    VisualResult.Fits d ⟨r.result, r.disturbed⟩ := by
  refine ⟨congrArg ScenarioView.id h.scenario, congrArg ScenarioView.name h.scenario, ?_⟩
  intro hno
  have hlength : r.stepResults.length = d.steps.length := by
    have hplaced := h.placed
    unfold Placed at hplaced
    rcases hend with hawaits | hawaits <;> rwa [hawaits] at hplaced
  have hsteps : r.stepResults = d.recordsUpTo d.steps.length := by
    rw [← hlength]
    exact h.records hno
  obtain ⟨hid, hname, hpassed, hrecords⟩ := runScenario_records d
  rw [← hsteps] at hpassed hrecords
  rw [← h.passed] at hpassed
  rw [visualResult]
  simp only [SingleRun.result, h.scenario, ScenarioDefinition.view, hid, hname, hpassed, hrecords]

end SingleRun.Fits

end RvcControl
