import RvcControl.BrowserTab
import RvcControl.ServerTexts

/-!
# The whole page

Besides the handlers of manual mode the page has the panel of the automatic
tests, which runs the server's scenarios itself: it fetches the catalogue and
plays one scenario after the other, a request at a time, with pauses in between.
`runScenariosVisual` and `runSingleScenarioVisual` are suspended at every
`await`, and all the while the handlers of manual mode, the clicks on the grid
and other clients of the server go on.

So the state has the tab with its manual mode and the suspended runs of the
panel, each with the point where it is suspended.  Requests and answers of a run
are texts, as in `httpServer`.
-/

namespace RvcControl

open Json (Value)

/-! ## One scenario -/

/-- A request that is awaited, on its way to the server or back. -/
inductive Exchange
  | posted
  | answered (answer : Option String)
  deriving DecidableEq, Repr

/-- Where `runSingleScenarioVisual` is suspended. -/
inductive Await
  | reset (x : Exchange)
  | start (x : Exchange)
  | stepDelay
  | tick (x : Exchange)
  | banner
  | pause
  deriving DecidableEq, Repr

/-- What is awaited has come. -/
def Await.isAnswered : Await → Bool
  | .reset (.answered _) | .start (.answered _) | .tick (.answered _) => true
  | _ => false

/-- A suspended call of `runSingleScenarioVisual`.  `disturbed` is not in the
page: it notes that somebody else has called the service between the start and
the last tick of the scenario. -/
structure SingleRun where
  scenario : ScenarioView
  pauseAfter : Bool
  awaits : Await := .reset .posted
  stepResults : List ScenarioStepResult := []
  passed : Bool := true
  disturbed : Bool := false
  deriving DecidableEq, Repr

namespace SingleRun

variable (r : SingleRun)

/-- The step at which the loop stands. -/
def step? : Option StepView := r.scenario.steps[r.stepResults.length]?

/-- The request that is on its way to the server. -/
def request? : Option HttpRequest :=
  match r.awaits with
  | .reset .posted => some (.post "/api/reset" (apiBody none))
  | .start .posted =>
      some (.post "/api/start"
        (apiBody (some (.object [("turn_strategy", .string r.scenario.turnStrategy)]))))
  | .tick .posted =>
      r.step?.map fun step =>
        .post "/api/tick" (apiBody (some (.object
          (tickMembers step.sensors (some step.timerAdvanceMs)))))
  | _ => none

/-- The answer to the request comes in. -/
def answered (answer : Option String) : SingleRun :=
  match r.awaits with
  | .reset _ => { r with awaits := .reset (.answered answer) }
  | .start _ => { r with awaits := .start (.answered answer) }
  | .tick _ => { r with awaits := .tick (.answered answer) }
  | _ => r

/-- The head of the loop over the steps. -/
def nextStep : SingleRun :=
  { r with
    awaits := if r.stepResults.length < r.scenario.steps.length then .stepDelay else .banner }

/-- The body of the loop, behind the tick. -/
def judge (step : StepView) (state : StateView) : SingleRun :=
  let stepPassed : Bool :=
    state.lastMotion = step.expectedMotion && state.lastClean = step.expectedClean
  { r with
    passed := r.passed && stepPassed
    stepResults := r.stepResults ++
      [{ stepIndex := r.stepResults.length + 1
         expectedMotion := step.expectedMotion
         actualMotion := state.lastMotion
         expectedClean := step.expectedClean
         actualClean := state.lastClean
         passed := stepPassed }] }

/-- What the call returns. -/
def result : ScenarioResult where
  id := r.scenario.id
  name := r.scenario.name
  passed := r.passed
  message := if r.passed then "OK" else "검증 실패"
  steps := r.stepResults

/-- The call resumes with its answer, on the page's grid; an answer it cannot
read throws. -/
def resume (g : Grid) : Option (SingleRun × Grid) :=
  match r.awaits with
  | .reset (.answered answer) =>
      (answer.bind Json.read).map fun _ => ({ r with awaits := .start .posted }, g)
  | .start (.answered answer) => (answer.bind Json.read).map fun _ => (r.nextStep, g)
  | .tick (.answered answer) => do
      let state ← answer.bind readState
      let step ← r.step?
      return ((r.judge step state).nextStep, g.applyTickView state)
  | _ => none

/-- From the service's start to its last tick a call by somebody else shows in
the result. -/
def exposed : Bool :=
  match r.awaits with
  | .start (.answered _) | .stepDelay | .tick .posted => true
  | .tick (.answered _) => r.stepResults.length + 1 < r.scenario.steps.length
  | _ => false

def disturb : SingleRun := { r with disturbed := r.disturbed || r.exposed }

end SingleRun

/-! ## All scenarios -/

/-- A result as its card shows it, with the note of its run. -/
structure VisualResult where
  result : ScenarioResult
  disturbed : Bool
  deriving DecidableEq, Repr

/-- The loop of `runScenariosVisual`. -/
structure Tour where
  ids : Option (List String)
  total : ℕ
  passedCount : ℕ := 0
  results : List VisualResult := []
  single : SingleRun
  rest : List ScenarioView
  deriving DecidableEq, Repr

/-- A suspended call of `runScenariosVisual`. -/
inductive AutoRun
  | fetching (ids : Option (List String)) (x : Exchange)
  | touring (t : Tour)
  deriving DecidableEq, Repr

/-- The server has been called by somebody else. -/
def AutoRun.disturb : AutoRun → AutoRun
  | .fetching ids x => .fetching ids x
  | .touring t => .touring { t with single := t.single.disturb }

/-- What stands in the panel below its buttons. -/
inductive TestResults
  | blank
  | preparing
  | notFound
  | failed
  | summary (results : List VisualResult) (passed total : ℕ)
  deriving DecidableEq, Repr

/-- `scenarioIds ? allScenarios.filter(..) : allScenarios`. -/
def chooseScenarios (ids : Option (List String)) (allScenarios : List ScenarioView) :
    List ScenarioView :=
  match ids with
  | none => allScenarios
  | some ids => allScenarios.filter fun s => s.id ∈ ids

/-- The page with its server.  `listing` counts the fetches of the catalogue for
the list of buttons. -/
structure Panel where
  tab : Tab
  isAutoTestRunning : Bool := false
  cachedScenarios : Option (List ScenarioView) := none
  runs : List AutoRun := []
  testResults : TestResults := .blank
  listing : ℕ := 0

inductive PanelEvent
  /-- An event of manual mode; the tabs of the page are among them. -/
  | manual (e : TabEvent)
  | clickGrid (c : Click)
  /-- A button of the panel: all scenarios, or those with these ids. -/
  | clickRun (ids : Option (List String))
  /-- The list of buttons has, or has not, got its catalogue. -/
  | listed
  | listFails
  /-- Another client calls the service. -/
  | foreign (call : SimulatorService.Call)
  /-- The server processes the request of the `k`-th run. -/
  | serve (k : ℕ)
  /-- The answer reaches the `k`-th run. -/
  | deliver (k : ℕ)
  /-- The request of the `k`-th run fails. -/
  | fail (k : ℕ)
  /-- The timeout of the `k`-th run is over. -/
  | wake (k : ℕ)
  deriving DecidableEq

namespace Panel

variable (p : Panel)

def grid : Grid := p.tab.page.grid

def service : SimulatorService := p.tab.backend.service

def withGrid (g : Grid) : Panel := { p with tab := { p.tab with page := { p.tab.page with grid := g } } }

def withService (s : SimulatorService) : Panel :=
  { p with tab := { p.tab with backend := { p.tab.backend with service := s } } }

def withRun (k : ℕ) (run : AutoRun) : Panel := { p with runs := p.runs.set k run }

/-- Everybody's runs note the call. -/
def disturb : Panel := { p with runs := p.runs.map AutoRun.disturb }

/-- `setAutoTestRunning(true)` and the call of the fetch. -/
def beginRun (ids : Option (List String)) : Panel :=
  { p with
    isAutoTestRunning := true
    tab := { p.tab with page := p.tab.page.stopManualAutoTick }
    runs := p.runs ++ [.fetching ids .posted] }

/-- The end of a run, with `setAutoTestRunning(false)`. -/
def finish (k : ℕ) (testResults : TestResults) : Panel :=
  { p with isAutoTestRunning := false, runs := p.runs.eraseIdx k, testResults }

/-- The loop goes on to its next scenario: the world is set up for it. -/
def visit (k : ℕ) (t : Tour) : Panel :=
  (p.withGrid ((p.grid.setupScenarioWorld t.single.scenario.id).resetRobotForScenario
    t.single.scenario.id)).withRun k (.touring t)

/-- The scenarios are there. -/
def fetched (k : ℕ) (ids : Option (List String)) (allScenarios : List ScenarioView) : Panel :=
  match chooseScenarios ids allScenarios with
  | [] => p.finish k .notFound
  | scenario :: rest =>
      { p with testResults := .preparing }.visit k
        { ids, rest
          total := rest.length + 1
          single := { scenario, pauseAfter := rest.length + 1 > 1 } }

/-- A scenario has returned. -/
def returned (k : ℕ) (t : Tour) : Panel :=
  let result := t.single.result
  let passedCount := if result.passed then t.passedCount + 1 else t.passedCount
  let results := t.results ++ [⟨result, t.single.disturbed⟩]
  match t.rest with
  | [] => p.finish k (.summary results passedCount t.total)
  | scenario :: rest =>
      p.visit k { t with
        passedCount, results, rest
        single := { scenario, pauseAfter := t.total > 1 } }

/-- The request of a run reaches the server, to which it is like any other. -/
def serveRun (definitions : List ScenarioDefinition) (k : ℕ) : AutoRun → Panel
  | .fetching ids .posted =>
      let answer := (httpServer definitions).out p.service (.get "/api/scenarios")
      p.withRun k (.fetching ids (.answered answer))
  | .touring t =>
      match t.single.request? with
      | none => p
      | some request =>
          let (s, answer) := (httpServer definitions).step p.service request
          (p.disturb.withService s).withRun k
            (.touring { t with single := t.single.answered answer })
  | _ => p

def deliverRun (k : ℕ) : AutoRun → Panel
  | .fetching ids (.answered answer) =>
      match answer.bind readScenarios with
      | none => p.finish k .failed
      | some allScenarios =>
          { p with cachedScenarios := some allScenarios }.fetched k ids allScenarios
  | .touring t =>
      match t.single.awaits with
      | .reset (.answered _) | .start (.answered _) | .tick (.answered _) =>
          match t.single.resume p.grid with
          | none => p.finish k .failed
          | some (single, g) => (p.withGrid g).withRun k (.touring { t with single })
      | _ => p
  | _ => p

def wakeRun (k : ℕ) : AutoRun → Panel
  | .touring t =>
      match t.single.awaits with
      | .stepDelay =>
          p.withRun k (.touring { t with single := { t.single with awaits := .tick .posted } })
      | .banner =>
          if t.single.pauseAfter then
            p.withRun k (.touring { t with single := { t.single with awaits := .pause } })
          else p.returned k t
      | .pause => p.returned k t
      | _ => p
  | _ => p

/-- Only what is awaited from the server can fail. -/
def failRun (k : ℕ) : AutoRun → Panel
  | .fetching _ _ => p.finish k .failed
  | .touring t =>
      match t.single.awaits with
      | .reset _ | .start _ | .tick _ => p.finish k .failed
      | _ => p

/-- An event of manual mode.  Leaving it asks for the list of scenarios, and a
request that the server processes is noted by the runs. -/
def handleManual (e : TabEvent) : Panel :=
  let p' := { p with tab := p.tab.handle e }
  match e with
  | .clickAutoTab =>
      if p.cachedScenarios = none then { p' with listing := p.listing + 1 } else p'
  | .process n => if n < p.tab.posts.length then p'.disturb else p'
  | _ => p'

def handle (definitions : List ScenarioDefinition) : PanelEvent → Panel
  | .manual e => p.handleManual e
  | .clickGrid c => if p.tab.page.manualMode then p.withGrid (p.grid.click c) else p
  | .clickRun ids =>
      if p.isAutoTestRunning then p
      else
        match p.cachedScenarios with
        | none => p.beginRun ids
        | some allScenarios => (p.beginRun ids).fetched p.runs.length ids allScenarios
  | .listed =>
      match p.listing with
      | 0 => p
      | listing + 1 =>
          { p with
            listing
            cachedScenarios :=
              (readScenarios (scenarioDefinitionsToJson definitions)).or p.cachedScenarios }
  | .listFails => { p with listing := p.listing - 1 }
  | .foreign call =>
      let p' := p.withService (simulator.next p.service call)
      if call = .getState then p' else p'.disturb
  | .serve k => (p.runs[k]?.map (p.serveRun definitions k)).getD p
  | .deliver k => (p.runs[k]?.map (p.deliverRun k)).getD p
  | .fail k => (p.runs[k]?.map (p.failRun k)).getD p
  | .wake k => (p.runs[k]?.map (p.wakeRun k)).getD p

/-! ## What an event can do -/

/-- What an event makes of the page, with all that is known where it does it. -/
inductive Step (definitions : List ScenarioDefinition) (p : Panel) : PanelEvent → Panel → Prop
  | stay (e : PanelEvent) : Step definitions p e p
  | manual (e : TabEvent) : Step definitions p (.manual e) (p.handleManual e)
  | clickGrid {c : Click} (h : p.tab.page.manualMode = true) :
      Step definitions p (.clickGrid c) (p.withGrid (p.grid.click c))
  | beginRun {ids : Option (List String)} (h : p.isAutoTestRunning = false) :
      Step definitions p (.clickRun ids) (p.beginRun ids)
  | beginTour {ids : Option (List String)} {allScenarios : List ScenarioView}
      (h : p.isAutoTestRunning = false) (hcached : p.cachedScenarios = some allScenarios) :
      Step definitions p (.clickRun ids)
        ((p.beginRun ids).fetched p.runs.length ids allScenarios)
  | listed {listing : ℕ} (h : p.listing = listing + 1) :
      Step definitions p .listed
        { p with
          listing
          cachedScenarios :=
            (readScenarios (scenarioDefinitionsToJson definitions)).or p.cachedScenarios }
  | listFails : Step definitions p .listFails { p with listing := p.listing - 1 }
  | getState : Step definitions p (.foreign .getState) (p.withService p.service)
  | foreign {call : SimulatorService.Call} (h : call ≠ .getState) :
      Step definitions p (.foreign call)
        (p.withService (simulator.next p.service call)).disturb
  | serveCatalogue {k : ℕ} {ids : Option (List String)} {answer : Option String}
      (h : p.runs[k]? = some (.fetching ids .posted))
      (hanswer : answer = some (scenarioDefinitionsToJson definitions)) :
      Step definitions p (.serve k) (p.withRun k (.fetching ids (.answered answer)))
  | serve {k : ℕ} {t : Tour} {request : HttpRequest} (h : p.runs[k]? = some (.touring t))
      (hrequest : t.single.request? = some request) :
      Step definitions p (.serve k)
        ((p.disturb.withService ((httpServer definitions).next p.service request)).withRun k
          (.touring { t with
            single := t.single.answered ((httpServer definitions).out p.service request) }))
  | catalogue {k : ℕ} {ids : Option (List String)} {answer : Option String}
      {allScenarios : List ScenarioView} (h : p.runs[k]? = some (.fetching ids (.answered answer)))
      (hread : answer.bind readScenarios = some allScenarios) :
      Step definitions p (.deliver k)
        ({ p with cachedScenarios := some allScenarios }.fetched k ids allScenarios)
  | resume {k : ℕ} {t : Tour} {single : SingleRun} {g : Grid}
      (h : p.runs[k]? = some (.touring t)) (hresume : t.single.resume p.grid = some (single, g)) :
      Step definitions p (.deliver k) ((p.withGrid g).withRun k (.touring { t with single }))
  | stepDelay {k : ℕ} {t : Tour} (h : p.runs[k]? = some (.touring t))
      (hawaits : t.single.awaits = .stepDelay) :
      Step definitions p (.wake k)
        (p.withRun k (.touring { t with single := { t.single with awaits := .tick .posted } }))
  | banner {k : ℕ} {t : Tour} (h : p.runs[k]? = some (.touring t))
      (hawaits : t.single.awaits = .banner) (hpause : t.single.pauseAfter = true) :
      Step definitions p (.wake k)
        (p.withRun k (.touring { t with single := { t.single with awaits := .pause } }))
  | returned {k : ℕ} {t : Tour} (h : p.runs[k]? = some (.touring t))
      (hawaits : t.single.awaits = .banner ∧ t.single.pauseAfter = false ∨
        t.single.awaits = .pause) :
      Step definitions p (.wake k) (p.returned k t)
  /-- An answer that cannot be read throws. -/
  | throwsCatalogue {k : ℕ} {ids : Option (List String)} {answer : Option String}
      (h : p.runs[k]? = some (.fetching ids (.answered answer)))
      (hread : answer.bind readScenarios = none) :
      Step definitions p (.deliver k) (p.finish k .failed)
  | throws {k : ℕ} {t : Tour} (h : p.runs[k]? = some (.touring t))
      (hawaits : t.single.awaits.isAnswered = true) (hresume : t.single.resume p.grid = none) :
      Step definitions p (.deliver k) (p.finish k .failed)
  | fails {k : ℕ} {run : AutoRun} (h : p.runs[k]? = some run) :
      Step definitions p (.fail k) (p.finish k .failed)

section Steps

variable {p} {definitions : List ScenarioDefinition}

/-- What the server does for a run is a step. -/
theorem serveRun_step {k : ℕ} {run : AutoRun} (h : p.runs[k]? = some run) :
    Step definitions p (.serve k) (p.serveRun definitions k run) := by
  cases run with
  | fetching ids x =>
      cases x with
      | posted => exact .serveCatalogue h rfl
      | answered answer => exact .stay _
  | touring t =>
      rw [serveRun]
      cases hrequest : t.single.request? with
      | none => exact .stay _
      | some request => exact .serve h hrequest

/-- What has come is resumed with. -/
theorem deliverRun_answered {t : Tour} (h : t.single.awaits.isAnswered = true) (k : ℕ) :
    p.deliverRun k (.touring t) =
      match t.single.resume p.grid with
      | none => p.finish k .failed
      | some (single, g) => (p.withGrid g).withRun k (.touring { t with single }) := by
  unfold Await.isAnswered at h
  rw [deliverRun]
  split at h
  · rfl
  · rfl
  · rfl
  · cases h

/-- Nothing has come. -/
theorem deliverRun_unanswered {t : Tour} (h : ¬ t.single.awaits.isAnswered = true) (k : ℕ) :
    p.deliverRun k (.touring t) = p := by
  rw [deliverRun]
  split
  · rename_i hawaits
    exact absurd (by rw [hawaits]; rfl) h
  · rename_i hawaits
    exact absurd (by rw [hawaits]; rfl) h
  · rename_i hawaits
    exact absurd (by rw [hawaits]; rfl) h
  · rfl

/-- What an answer does to a run is a step. -/
theorem deliverRun_step {k : ℕ} {run : AutoRun} (h : p.runs[k]? = some run) :
    Step definitions p (.deliver k) (p.deliverRun k run) := by
  cases run with
  | fetching ids x =>
      cases x with
      | posted => exact .stay _
      | answered answer =>
          rw [deliverRun]
          cases hread : answer.bind readScenarios with
          | none => exact .throwsCatalogue h hread
          | some allScenarios => exact .catalogue h hread
  | touring t =>
      by_cases hawaits : t.single.awaits.isAnswered = true
      · rw [deliverRun_answered hawaits]
        cases hresume : t.single.resume p.grid with
        | none => exact .throws h hawaits hresume
        | some resumed => exact .resume h hresume
      · rw [deliverRun_unanswered hawaits]
        exact .stay _

/-- What the end of a timeout does to a run is a step. -/
theorem wakeRun_step {k : ℕ} {run : AutoRun} (h : p.runs[k]? = some run) :
    Step definitions p (.wake k) (p.wakeRun k run) := by
  cases run with
  | fetching ids x => exact .stay _
  | touring t =>
      rw [wakeRun]
      split
      · rename_i hawaits
        exact .stepDelay h hawaits
      · rename_i hawaits
        split
        · rename_i hpause
          exact .banner h hawaits hpause
        · rename_i hpause
          exact .returned h (.inl ⟨hawaits, Bool.eq_false_iff.mpr hpause⟩)
      · rename_i hawaits
        exact .returned h (.inr hawaits)
      · exact .stay _

/-- What a failure does to a run is a step. -/
theorem failRun_step {k : ℕ} {run : AutoRun} (h : p.runs[k]? = some run) :
    Step definitions p (.fail k) (p.failRun k run) := by
  cases run with
  | fetching ids x => exact .fails h
  | touring t =>
      rw [failRun]
      split
      · exact .fails h
      · exact .fails h
      · exact .fails h
      · exact .stay _

variable (p definitions) in
/-- **One event**, in one of the ways above. -/
theorem handle_step (e : PanelEvent) : Step definitions p e (p.handle definitions e) := by
  cases e with
  | manual e => exact .manual e
  | clickGrid c =>
      rw [handle]
      split
      · rename_i hmanual
        exact .clickGrid hmanual
      · exact .stay _
  | clickRun ids =>
      rw [handle]
      split
      · exact .stay _
      · rename_i hidle
        rw [Bool.not_eq_true] at hidle
        split
        · exact .beginRun hidle
        · rename_i allScenarios hcached
          exact .beginTour hidle hcached
  | listed =>
      rw [handle]
      split
      · exact .stay _
      · rename_i listing hlisting
        exact .listed hlisting
  | listFails => exact .listFails
  | foreign call =>
      rw [handle]
      split
      · rename_i hcall
        rw [hcall]
        exact .getState
      · rename_i hcall
        exact .foreign hcall
  | serve k =>
      rw [handle]
      cases hrun : p.runs[k]? with
      | none => exact .stay _
      | some run => exact serveRun_step hrun
  | deliver k =>
      rw [handle]
      cases hrun : p.runs[k]? with
      | none => exact .stay _
      | some run => exact deliverRun_step hrun
  | fail k =>
      rw [handle]
      cases hrun : p.runs[k]? with
      | none => exact .stay _
      | some run => exact failRun_step hrun
  | wake k =>
      rw [handle]
      cases hrun : p.runs[k]? with
      | none => exact .stay _
      | some run => exact wakeRun_step hrun

end Steps

/-- A page that has just been loaded. -/
def load (cols rows : ℕ) (service : SimulatorService) : Panel where
  tab := .load cols rows service

end Panel

/-- The page as a machine; it answers nothing. -/
def wholePage (definitions : List ScenarioDefinition) : Mealy Panel PanelEvent Unit :=
  ⟨fun p e => (p.handle definitions e, ())⟩

@[simp] theorem wholePage_next (definitions : List ScenarioDefinition) (p : Panel) (e : PanelEvent) :
    (wholePage definitions).next p e = p.handle definitions e := rfl

end RvcControl
