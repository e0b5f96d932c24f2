import RvcControl.PanelExclusion
import RvcControl.PanelSoundness

/-!
# A run of the panel comes to its end

At every moment a run awaits one event: that the server processes its request,
that the answer comes in, or that its timeout is over.  `remaining` counts how
many such events are still to come, and with each of them it falls by exactly
one; no click, no manual tick and no other client can add to it or hold it up.
-/

namespace RvcControl

/-! ## What is still to come -/

def Exchange.remaining : Exchange → ℕ
  | .posted => 2
  | .answered _ => 1

/-- The events of a whole scenario: two exchanges, a delay and an exchange for
each step, the banner and the pause. -/
def ScenarioView.duration (scenario : ScenarioView) (pauseAfter : Bool) : ℕ :=
  4 + 3 * scenario.steps.length + 1 + pauseAfter.toNat

namespace SingleRun

variable (r : SingleRun)

/-- The events of the steps that have not been judged yet. -/
def remainingSteps : ℕ := 3 * (r.scenario.steps.length - r.stepResults.length)

def remaining : ℕ :=
  match r.awaits with
  | .reset x => x.remaining + 2 + r.remainingSteps + 1 + r.pauseAfter.toNat
  | .start x => x.remaining + r.remainingSteps + 1 + r.pauseAfter.toNat
  | .stepDelay => r.remainingSteps + 1 + r.pauseAfter.toNat
  | .tick x => x.remaining + (r.remainingSteps - 3) + 1 + r.pauseAfter.toNat
  | .banner => 1 + r.pauseAfter.toNat
  | .pause => 1

end SingleRun

/-- The scenarios of a tour that has not reached them yet. -/
def durations (scenarios : List ScenarioView) (total : ℕ) : ℕ :=
  (scenarios.map fun scenario => scenario.duration (total > 1)).sum

def AutoRun.remaining (definitions : List ScenarioDefinition) : AutoRun → ℕ
  | .fetching ids x =>
      let scenarios := chooseScenarios ids (definitions.map ScenarioDefinition.view)
      x.remaining + durations scenarios scenarios.length
  | .touring t => t.single.remaining + durations t.rest t.total

def Panel.remaining (definitions : List ScenarioDefinition) (p : Panel) : ℕ :=
  (p.runs.map (AutoRun.remaining definitions)).sum

/-! ## What is awaited -/

def Exchange.awaited (k : ℕ) : Exchange → PanelEvent
  | .posted => .serve k
  | .answered _ => .deliver k

def Await.awaited (k : ℕ) : Await → PanelEvent
  | .reset x | .start x | .tick x => x.awaited k
  | .stepDelay | .banner | .pause => .wake k

def AutoRun.awaited (k : ℕ) : AutoRun → PanelEvent
  | .fetching _ x => x.awaited k
  | .touring t => t.single.awaits.awaited k

/-- The page's run awaits this event. -/
def Panel.expects (p : Panel) (e : PanelEvent) : Bool :=
  p.runs.head?.map (AutoRun.awaited 0) = some e

/-- Who waits for a delivery has been answered. -/
theorem Await.isAnswered_of_awaited {awaits : Await} {k : ℕ} (h : awaits.awaited k = .deliver k) :
    awaits.isAnswered = true := by
  cases awaits with
  | reset x =>
      cases x with
      | posted => cases h
      | answered answer => rfl
  | start x =>
      cases x with
      | posted => cases h
      | answered answer => rfl
  | tick x =>
      cases x with
      | posted => cases h
      | answered answer => rfl
  | stepDelay => cases h
  | banner => cases h
  | pause => cases h

theorem Await.awaited_of_isAnswered {awaits : Await} {k : ℕ} (h : awaits.isAnswered = true) :
    awaits.awaited k = .deliver k := by
  unfold isAnswered at h
  split at h
  · rfl
  · rfl
  · rfl
  · cases h

/-! ## One scenario -/

namespace SingleRun

variable {r : SingleRun}

/-- At its beginning a scenario has its whole duration before it. -/
theorem remaining_begin (scenario : ScenarioView) (pauseAfter : Bool) :
    ({ scenario, pauseAfter } : SingleRun).remaining = scenario.duration pauseAfter := by
  unfold remaining remainingSteps ScenarioView.duration
  simp only [Exchange.remaining, List.length_nil, Nat.sub_zero]

/-- At the head of the loop the remaining steps are to come. -/
theorem remaining_nextStep (h : r.stepResults.length ≤ r.scenario.steps.length) :
    r.nextStep.remaining = r.remainingSteps + 1 + r.pauseAfter.toNat := by
  by_cases hlt : r.stepResults.length < r.scenario.steps.length
  · have hawaits : r.nextStep.awaits = .stepDelay := if_pos hlt
    rw [remaining, hawaits]
    rfl
  · have hawaits : r.nextStep.awaits = .banner := if_neg hlt
    have hnone : r.remainingSteps = 0 := by
      unfold remainingSteps
      omega
    rw [remaining, hawaits, hnone, Nat.zero_add]
    rfl

/-- The request is answered. -/
theorem remaining_answered {request : HttpRequest} (h : r.request? = some request)
    (answer : Option String) : (r.answered answer).remaining + 1 = r.remaining := by
  unfold request? at h
  unfold answered remaining
  split at h
  · rename_i hawaits
    simp only [hawaits, Exchange.remaining, remainingSteps]
    omega
  · rename_i hawaits
    simp only [hawaits, Exchange.remaining, remainingSteps]
    omega
  · rename_i hawaits
    simp only [hawaits, Exchange.remaining, remainingSteps]
    omega
  · cases h

/-- The answer comes in. -/
theorem remaining_resume {d : ScenarioDefinition} {s : SimulatorService} (hfits : r.Fits d s)
    {g g' : Grid} {r' : SingleRun} (h : r.resume g = some (r', g')) :
    r'.remaining + 1 = r.remaining := by
  have hplaced := hfits.placed
  have hsteps : r.scenario.steps.length = d.steps.length := by
    rw [hfits.scenario]
    exact List.length_map _
  unfold Placed at hplaced
  unfold resume at h
  split at h
  · rename_i answer hawaits
    obtain ⟨value, _, heq⟩ := Option.map_eq_some_iff.mp h
    cases heq
    simp only [remaining, hawaits, Exchange.remaining, remainingSteps]
    omega
  · rename_i answer hawaits
    obtain ⟨value, _, heq⟩ := Option.map_eq_some_iff.mp h
    cases heq
    rw [hawaits] at hplaced
    rw [remaining_nextStep (by omega)]
    simp only [remaining, hawaits, Exchange.remaining]
    omega
  · rename_i answer hawaits
    rw [hawaits] at hplaced
    simp only [Option.bind_eq_bind, Option.bind_eq_some_iff, Option.pure_def,
      Option.some.injEq] at h
    obtain ⟨state, _, step, _, heq⟩ := h
    cases heq
    have hjudged : (r.judge step state).stepResults.length = r.stepResults.length + 1 := by
      simp [judge]
    have hscenario : (r.judge step state).scenario = r.scenario := rfl
    have hpause : (r.judge step state).pauseAfter = r.pauseAfter := rfl
    dsimp only at hplaced
    rw [remaining_nextStep (by rw [hjudged, hscenario]; omega)]
    simp only [remaining, hawaits, Exchange.remaining, remainingSteps, hjudged, hscenario, hpause]
    omega
  · cases h

/-- A call with a request waits for the server. -/
theorem awaited_of_request? {request : HttpRequest} (h : r.request? = some request) {k : ℕ} :
    r.awaits.awaited k = .serve k := by
  unfold request? at h
  split at h
  · rename_i hawaits
    rw [hawaits]
    rfl
  · rename_i hawaits
    rw [hawaits]
    rfl
  · rename_i hawaits
    rw [hawaits]
    rfl
  · cases h

/-- A call that goes on was waiting for its answer. -/
theorem awaited_of_resume {g : Grid} {resumed : SingleRun × Grid} (h : r.resume g = some resumed)
    {k : ℕ} : r.awaits.awaited k = .deliver k := by
  apply Await.awaited_of_isAnswered
  unfold resume at h
  split at h
  · rename_i hawaits
    rw [hawaits]
    rfl
  · rename_i hawaits
    rw [hawaits]
    rfl
  · rename_i hawaits
    rw [hawaits]
    rfl
  · cases h

/-- What has come can be read. -/
theorem resume_isSome {d : ScenarioDefinition} {s : SimulatorService} (hfits : r.Fits d s)
    (hawaits : r.awaits.isAnswered = true) (g : Grid) : ∃ resumed, r.resume g = some resumed := by
  have hreadable := hfits.readable
  have hplaced := hfits.placed
  unfold Placed at hplaced
  unfold resume
  cases hr : r.awaits with
  | reset x =>
      rw [hr] at hawaits hreadable
      cases x with
      | posted => cases hawaits
      | answered answer =>
          obtain ⟨value, hvalue⟩ := Option.isSome_iff_exists.mp hreadable
          simp [hvalue]
  | start x =>
      rw [hr] at hawaits hreadable
      cases x with
      | posted => cases hawaits
      | answered answer =>
          obtain ⟨value, hvalue⟩ := Option.isSome_iff_exists.mp hreadable
          simp [hvalue]
  | tick x =>
      rw [hr] at hawaits hreadable hplaced
      cases x with
      | posted => cases hawaits
      | answered answer =>
          obtain ⟨state, hstate⟩ := Option.isSome_iff_exists.mp hreadable
          obtain ⟨step, _, hstep⟩ := hfits.step? hplaced
          simp [hstate, hstep]
  | stepDelay =>
      rw [hr] at hawaits
      cases hawaits
  | banner =>
      rw [hr] at hawaits
      cases hawaits
  | pause =>
      rw [hr] at hawaits
      cases hawaits

/-- A call that waits for the server has a request. -/
theorem request?_isSome {d : ScenarioDefinition} {s : SimulatorService} (hfits : r.Fits d s)
    (hawaits : r.awaits.awaited 0 = .serve 0) : ∃ request, r.request? = some request := by
  have hplaced := hfits.placed
  unfold Placed at hplaced
  unfold request?
  cases hr : r.awaits with
  | reset x =>
      rw [hr] at hawaits
      cases x with
      | posted => exact ⟨_, rfl⟩
      | answered answer => cases hawaits
  | start x =>
      rw [hr] at hawaits
      cases x with
      | posted => exact ⟨_, rfl⟩
      | answered answer => cases hawaits
  | tick x =>
      rw [hr] at hawaits hplaced
      cases x with
      | posted =>
          obtain ⟨step, _, hstep⟩ := hfits.step? hplaced
          rw [hstep]
          exact ⟨_, rfl⟩
      | answered answer => cases hawaits
  | stepDelay =>
      rw [hr] at hawaits
      cases hawaits
  | banner =>
      rw [hr] at hawaits
      cases hawaits
  | pause =>
      rw [hr] at hawaits
      cases hawaits

end SingleRun

/-- A scenario that is reached takes as long as it says. -/
theorem durations_cons (scenario : ScenarioView) (rest : List ScenarioView) (total : ℕ) :
    durations (scenario :: rest) total =
      ({ scenario, pauseAfter := total > 1 } : SingleRun).remaining + durations rest total := by
  rw [SingleRun.remaining_begin]
  rfl

/-- A run that goes on has something before it. -/
theorem AutoRun.remaining_pos (definitions : List ScenarioDefinition) (run : AutoRun) :
    0 < run.remaining definitions := by
  cases run with
  | fetching ids x => cases x <;> simp [AutoRun.remaining, Exchange.remaining]
  | touring t =>
      have hsingle : 0 < t.single.remaining := by
        unfold SingleRun.remaining
        split <;> omega
      simp only [AutoRun.remaining]
      omega

/-! ## The page -/

/-- The run has ended, and not by an error. -/
def TestResults.IsFinal : TestResults → Prop
  | .summary _ _ _ | .notFound => True
  | _ => False

namespace Panel

variable {definitions : List ScenarioDefinition} {clicked : Option (List String) → Prop}
  {p : Panel} {run : AutoRun}

/-- Where nothing is left to come, the run has ended well. -/
structure EndsWell (definitions : List ScenarioDefinition) (p : Panel) (remaining : ℕ) :
    Prop where
  remaining : p.remaining definitions = remaining
  final : p.remaining definitions = 0 → p.testResults.IsFinal

/-- What is before the page is what is before its run. -/
theorem remaining_of_runs (hrun : p.runs = [run]) :
    p.remaining definitions = run.remaining definitions := by
  rw [remaining, hrun]
  simp

/-- The only run of the page goes on. -/
theorem endsWell_of_runs {p' : Panel} (hruns : p'.runs = [run]) :
    p'.EndsWell definitions (run.remaining definitions) := by
  have hremaining : p'.remaining definitions = run.remaining definitions :=
    remaining_of_runs hruns
  refine ⟨hremaining, fun hzero => ?_⟩
  have hpos := run.remaining_pos definitions
  omega

/-- The next scenario begins. -/
theorem endsWell_visit (hrun : p.runs = [run]) (t : Tour) :
    (p.visit 0 t).EndsWell definitions (t.single.remaining + durations t.rest t.total) := by
  have hruns : (p.visit 0 t).runs = [.touring t] := by
    show p.runs.set 0 (.touring t) = [.touring t]
    rw [hrun]
    rfl
  exact endsWell_of_runs hruns

/-- The run is over, with a result. -/
theorem endsWell_finish (hrun : p.runs = [run]) {testResults : TestResults}
    (hfinal : testResults.IsFinal) : (p.finish 0 testResults).EndsWell definitions 0 := by
  refine ⟨?_, fun _ => hfinal⟩
  show ((p.runs.eraseIdx 0).map _).sum = 0
  rw [hrun]
  rfl

/-- The catalogue comes in. -/
theorem endsWell_fetched (hrun : p.runs = [run]) (ids : Option (List String))
    (allScenarios : List ScenarioView) :
    (p.fetched 0 ids allScenarios).EndsWell definitions
      (durations (chooseScenarios ids allScenarios) (chooseScenarios ids allScenarios).length) := by
  rw [fetched]
  cases chooseScenarios ids allScenarios with
  | nil => exact endsWell_finish hrun trivial
  | cons scenario rest =>
      rw [durations_cons]
      exact endsWell_visit (p := { p with testResults := .preparing }) hrun _

/-- A scenario comes to its end. -/
theorem endsWell_returned (hrun : p.runs = [run]) (t : Tour) :
    (p.returned 0 t).EndsWell definitions (durations t.rest t.total) := by
  rw [returned]
  cases t.rest with
  | nil => exact endsWell_finish hrun trivial
  | cons scenario rest =>
      rw [durations_cons]
      exact endsWell_visit hrun _

/-- The only run of the page has come one event nearer to its end. -/
theorem endsWell_next {p' : Panel} {run' : AutoRun} (hruns : p'.runs = [run'])
    (hless : run'.remaining definitions + 1 = run.remaining definitions) :
    p'.EndsWell definitions (run.remaining definitions - 1) := by
  have hsame : run.remaining definitions - 1 = run'.remaining definitions := by omega
  rw [hsame]
  exact endsWell_of_runs hruns

/-- A request that is awaited is processed. -/
theorem endsWell_serve (h : p.Sound definitions clicked) (hrun : p.runs = [run])
    (hawaited : run.awaited 0 = .serve 0) :
    (p.serveRun definitions 0 run).EndsWell definitions (run.remaining definitions - 1) := by
  have hfits : run.Fits definitions clicked p.service := h.runs run (by simp [hrun])
  cases run with
  | fetching ids x =>
      cases x with
      | answered answer => cases hawaited
      | posted =>
          have hruns : (p.serveRun definitions 0 (.fetching ids .posted)).runs = p.runs.set 0
            (.fetching ids (.answered (some (scenarioDefinitionsToJson definitions)))) := rfl
          rw [hrun] at hruns
          apply endsWell_next hruns
          simp only [AutoRun.remaining, Exchange.remaining]
          omega
  | touring t =>
      obtain ⟨_, d, _, _, _, _, hsingle⟩ := hfits.2.split
      obtain ⟨request, hrequest⟩ := SingleRun.request?_isSome hsingle hawaited
      have hless := SingleRun.remaining_answered hrequest
        ((httpServer definitions).out p.service request)
      have hruns : (p.serveRun definitions 0 (.touring t)).runs =
          (p.runs.map AutoRun.disturb).set 0 (.touring { t with
            single := t.single.answered ((httpServer definitions).out p.service request) }) := by
        rw [serveRun, hrequest]
        rfl
      rw [hrun] at hruns
      apply endsWell_next hruns
      simp only [AutoRun.remaining]
      omega

/-- An answer that is awaited comes in. -/
theorem endsWell_deliver (h : p.Sound definitions clicked)
    (hplain : ∀ d ∈ definitions, d.Plain) (hrun : p.runs = [run])
    (hawaited : run.awaited 0 = .deliver 0) :
    (p.deliverRun 0 run).EndsWell definitions (run.remaining definitions - 1) := by
  have hfits : run.Fits definitions clicked p.service := h.runs run (by simp [hrun])
  cases run with
  | fetching ids x =>
      obtain ⟨_, rfl | rfl⟩ := hfits
      · cases hawaited
      · let scenarios := definitions.map ScenarioDefinition.view
        let cached : Panel := { p with cachedScenarios := some scenarios }
        have hcached : cached.runs = [_] := hrun
        have hfetched : (cached.fetched 0 ids scenarios).EndsWell definitions _ :=
          endsWell_fetched hcached ids scenarios
        have hless : (AutoRun.fetching ids (.answered (some
            (scenarioDefinitionsToJson definitions)))).remaining definitions - 1 =
              durations (chooseScenarios ids scenarios) (chooseScenarios ids scenarios).length := by
          simp only [AutoRun.remaining, Exchange.remaining, scenarios]
          omega
        rw [deliverRun, Option.bind_some, readScenarios_catalogue hplain, hless]
        exact hfetched
  | touring t =>
      obtain ⟨_, d, _, _, _, _, hsingle⟩ := hfits.2.split
      have hanswered : t.single.awaits.isAnswered = true :=
        Await.isAnswered_of_awaited hawaited
      obtain ⟨⟨single, g⟩, hresume⟩ := SingleRun.resume_isSome hsingle hanswered p.grid
      have hless := SingleRun.remaining_resume hsingle hresume
      have hruns : (p.deliverRun 0 (.touring t)).runs =
          p.runs.set 0 (.touring { t with single }) := by
        rw [deliverRun_answered hanswered, hresume]
        rfl
      rw [hrun] at hruns
      apply endsWell_next hruns
      simp only [AutoRun.remaining]
      omega

/-- A timeout that is awaited is over. -/
theorem endsWell_wake (h : p.Sound definitions clicked) (hrun : p.runs = [run])
    (hawaited : run.awaited 0 = .wake 0) :
    (p.wakeRun 0 run).EndsWell definitions (run.remaining definitions - 1) := by
  have hfits : run.Fits definitions clicked p.service := h.runs run (by simp [hrun])
  cases run with
  | fetching ids x => cases x <;> cases hawaited
  | touring t =>
      have hreturned : (p.returned 0 t).EndsWell definitions _ := endsWell_returned hrun t
      obtain ⟨_, d, _, _, _, _, hsingle⟩ := hfits.2.split
      have hplaced := hsingle.placed
      unfold SingleRun.Placed at hplaced
      cases hr : t.single.awaits with
      | stepDelay =>
          rw [hr] at hplaced
          have hsteps : t.single.scenario.steps.length = d.steps.length := by
            rw [hsingle.scenario]
            exact List.length_map _
          have hruns : (p.wakeRun 0 (.touring t)).runs = p.runs.set 0 (.touring
              { t with single := { t.single with awaits := .tick .posted } }) := by
            rw [wakeRun, hr]
            rfl
          rw [hrun] at hruns
          apply endsWell_next hruns
          dsimp only at hplaced
          simp only [AutoRun.remaining, SingleRun.remaining, SingleRun.remainingSteps,
            Exchange.remaining, hr]
          omega
      | banner =>
          cases hpause : t.single.pauseAfter with
          | true =>
              have hruns : (p.wakeRun 0 (.touring t)).runs = p.runs.set 0 (.touring
                  { t with single := { t.single with awaits := .pause } }) := by
                rw [wakeRun, hr, hpause]
                rfl
              rw [hrun] at hruns
              apply endsWell_next hruns
              simp only [AutoRun.remaining, SingleRun.remaining, hr, hpause, Bool.toNat_true]
              omega
          | false =>
              have hless : (AutoRun.touring t).remaining definitions - 1 =
                  durations t.rest t.total := by
                simp only [AutoRun.remaining, SingleRun.remaining, hr, hpause, Bool.toNat_false]
                omega
              have hwake : p.wakeRun 0 (.touring t) = p.returned 0 t := by
                rw [wakeRun, hr, hpause]
                rfl
              rw [hwake, hless]
              exact hreturned
      | pause =>
          have hless : (AutoRun.touring t).remaining definitions - 1 =
              durations t.rest t.total := by
            simp only [AutoRun.remaining, SingleRun.remaining, hr]
            omega
          have hwake : p.wakeRun 0 (.touring t) = p.returned 0 t := by
            rw [wakeRun, hr]
          rw [hwake, hless]
          exact hreturned
      | reset x =>
          rw [AutoRun.awaited, hr] at hawaited
          cases x <;> cases hawaited
      | start x =>
          rw [AutoRun.awaited, hr] at hawaited
          cases x <;> cases hawaited
      | tick x =>
          rw [AutoRun.awaited, hr] at hawaited
          cases x <;> cases hawaited

/-- A run waits for the server, its answer or a timeout. -/
theorem awaited_cases (run : AutoRun) :
    run.awaited 0 = .serve 0 ∨ run.awaited 0 = .deliver 0 ∨ run.awaited 0 = .wake 0 := by
  have hexchange : ∀ x : Exchange, x.awaited 0 = .serve 0 ∨ x.awaited 0 = .deliver 0 := by
    intro x
    cases x with
    | posted => exact .inl rfl
    | answered answer => exact .inr rfl
  have hexchange' : ∀ x : Exchange,
      x.awaited 0 = .serve 0 ∨ x.awaited 0 = .deliver 0 ∨ x.awaited 0 = .wake 0 := by
    intro x
    rcases hexchange x with hserve | hdeliver
    · exact .inl hserve
    · exact .inr (.inl hdeliver)
  cases run with
  | fetching ids x => exact hexchange' x
  | touring t =>
      rw [AutoRun.awaited]
      cases t.single.awaits with
      | reset x => exact hexchange' x
      | start x => exact hexchange' x
      | tick x => exact hexchange' x
      | _ => exact .inr (.inr rfl)

/-- **The awaited event** brings the run one step nearer to its end. -/
theorem endsWell_awaited (h : p.Sound definitions clicked)
    (hplain : ∀ d ∈ definitions, d.Plain) (hrun : p.runs = [run]) :
    (p.handle definitions (run.awaited 0)).EndsWell definitions
      (run.remaining definitions - 1) := by
  rcases awaited_cases run with hserve | hdeliver | hwake
  · rw [hserve, handle, hrun]
    exact endsWell_serve h hrun hserve
  · rw [hdeliver, handle, hrun]
    exact endsWell_deliver h hplain hrun hdeliver
  · rw [hwake, handle, hrun]
    exact endsWell_wake h hrun hwake

/-- A note brings the end no nearer. -/
theorem remaining_disturb (run : AutoRun) :
    run.disturb.remaining definitions = run.remaining definitions := by
  cases run with
  | fetching ids x => rfl
  | touring t => rfl

/-- **Any other event**, a failure apart, leaves the run where it is. -/
theorem endsWell_other (h : p.Exclusive) (hrun : p.runs = [run]) {e : PanelEvent}
    (hfail : ∀ k, e ≠ .fail k) (hother : e ≠ run.awaited 0) {p' : Panel}
    (hstep : p.Step definitions e p') :
    p'.EndsWell definitions (run.remaining definitions) := by
  have hsame : ∀ {p' : Panel}, p'.runs = p.runs →
      p'.EndsWell definitions (run.remaining definitions) :=
    fun hruns => endsWell_of_runs (hruns.trans hrun)
  have hdisturbed : ∀ {p' : Panel}, p'.runs = p.runs.map AutoRun.disturb →
      p'.EndsWell definitions (run.remaining definitions) := by
    intro p' hruns
    rw [hrun] at hruns
    rw [← remaining_disturb run]
    exact endsWell_of_runs hruns
  have hbusy : p.isAutoTestRunning ≠ false := by
    intro hidle
    have hone := h.oneRun
    rw [hrun, hidle] at hone
    cases hone
  -- the page has one run, so an event of a run is one of this run
  have hown : ∀ {k : ℕ} {run' : AutoRun}, p.runs[k]? = some run' → run' = run ∧ k = 0 := by
    intro k run' hget
    rw [hrun] at hget
    cases k with
    | zero => exact ⟨(Option.some.inj hget).symm, rfl⟩
    | succ k => simp at hget
  cases hstep with
  | stay => exact hsame rfl
  | manual e =>
      unfold handleManual
      dsimp only
      split
      · split <;> exact hsame rfl
      · split
        · exact hdisturbed rfl
        · exact hsame rfl
      · exact hsame rfl
  | clickGrid => exact hsame rfl
  | beginRun hidle => exact absurd hidle hbusy
  | beginTour hidle => exact absurd hidle hbusy
  | listed => exact hsame rfl
  | listFails => exact hsame rfl
  | getState => exact hsame rfl
  | foreign => exact hdisturbed rfl
  | serveCatalogue hget =>
      obtain ⟨rfl, rfl⟩ := hown hget
      exact absurd rfl hother
  | serve hget hrequest =>
      obtain ⟨rfl, rfl⟩ := hown hget
      exact absurd (SingleRun.awaited_of_request? hrequest).symm hother
  | catalogue hget =>
      obtain ⟨rfl, rfl⟩ := hown hget
      exact absurd rfl hother
  | resume hget hresume =>
      obtain ⟨rfl, rfl⟩ := hown hget
      exact absurd (SingleRun.awaited_of_resume hresume).symm hother
  | stepDelay hget hawaits =>
      obtain ⟨rfl, rfl⟩ := hown hget
      refine absurd ?_ hother
      rw [AutoRun.awaited, hawaits]
      rfl
  | banner hget hawaits =>
      obtain ⟨rfl, rfl⟩ := hown hget
      refine absurd ?_ hother
      rw [AutoRun.awaited, hawaits]
      rfl
  | returned hget hawaits =>
      obtain ⟨rfl, rfl⟩ := hown hget
      refine absurd ?_ hother
      rcases hawaits with ⟨hbanner, _⟩ | hpause
      · rw [AutoRun.awaited, hbanner]
        rfl
      · rw [AutoRun.awaited, hpause]
        rfl
  | throwsCatalogue hget =>
      obtain ⟨rfl, rfl⟩ := hown hget
      exact absurd rfl hother
  | throws hget hawaits =>
      obtain ⟨rfl, rfl⟩ := hown hget
      exact absurd (Await.awaited_of_isAnswered hawaits).symm hother
  | fails => exact absurd rfl (hfail _)

/-! ## Whole runs -/

/-- What every state of the page is, as long as no request of the run fails. -/
structure Progressing (definitions : List ScenarioDefinition)
    (clicked : Option (List String) → Prop) (p : Panel) : Prop where
  exclusive : p.Exclusive
  sound : p.Sound definitions clicked
  final : p.remaining definitions = 0 → p.testResults.IsFinal

/-- Where something is to come, one run goes on. -/
theorem runs_eq_of_remaining (h : p.Exclusive) (hgoing : p.remaining definitions ≠ 0) :
    ∃ run, p.runs = [run] := by
  have hone := h.oneRun
  have hle := Bool.toNat_le p.isAutoTestRunning
  cases hruns : p.runs with
  | nil =>
      rw [remaining, hruns] at hgoing
      exact absurd rfl hgoing
  | cons run runs =>
      rw [hruns, List.length_cons] at hone
      have hnil : runs = [] := List.length_eq_zero_iff.mp (by omega)
      exact ⟨run, by rw [hnil]⟩

/-- The lock is held exactly as long as something is to come. -/
theorem isAutoTestRunning_iff (h : p.Exclusive) :
    p.isAutoTestRunning = true ↔ p.remaining definitions ≠ 0 := by
  constructor
  · intro hrunning
    have hone := h.oneRun
    rw [hrunning] at hone
    obtain ⟨run, hrun⟩ := List.length_eq_one_iff.mp hone
    rw [remaining_of_runs hrun]
    have hpos := run.remaining_pos definitions
    omega
  · intro hgoing
    obtain ⟨run, hrun⟩ := runs_eq_of_remaining h hgoing
    have hone := h.oneRun
    rw [hrun] at hone
    exact Bool.toNat_eq_one.mp hone.symm

/-- The page expects what its run waits for. -/
theorem expects_iff (hrun : p.runs = [run]) (e : PanelEvent) :
    p.expects e = true ↔ e = run.awaited 0 := by
  rw [expects, hrun]
  simp [eq_comm]

/-- **One event of a run**: it is the awaited one, and the end is nearer by one,
or nothing about the run has changed. -/
theorem Progressing.next (h : p.Progressing definitions clicked)
    (hposts : ∀ d ∈ definitions, d.Postable) {e : PanelEvent} (hfail : ∀ k, e ≠ .fail k)
    (hgoing : p.remaining definitions ≠ 0) :
    (p.handle definitions e).Progressing definitions clicked ∧
      (p.handle definitions e).remaining definitions + (p.expects e).toNat =
        p.remaining definitions := by
  obtain ⟨run, hrun⟩ := runs_eq_of_remaining h.exclusive hgoing
  have hstep := p.handle_step definitions e
  have hremaining : p.remaining definitions = run.remaining definitions := remaining_of_runs hrun
  have hbusy : ∀ ids, e = .clickRun ids → p.handle definitions e = p := by
    rintro ids rfl
    have hrunning := (isAutoTestRunning_iff h.exclusive).mpr hgoing
    rw [handle, if_pos hrunning]
  have hsound : (p.handle definitions e).Sound definitions clicked := by
    by_cases hclick : ∃ ids, e = .clickRun ids
    · obtain ⟨ids, hids⟩ := hclick
      rw [hbusy ids hids]
      exact h.sound
    · apply h.sound.step hposts _ hstep
      intro ids hids
      exact absurd ⟨ids, hids⟩ hclick
  have hexclusive := h.exclusive.step hstep
  by_cases hawaited : e = run.awaited 0
  · have hends := endsWell_awaited h.sound (fun d hd => (hposts d hd).toPlain) hrun
    rw [← hawaited] at hends
    have hexpects := (expects_iff hrun e).mpr hawaited
    refine ⟨⟨hexclusive, hsound, hends.final⟩, ?_⟩
    rw [hends.remaining, hexpects, Bool.toNat_true]
    omega
  · have hends := endsWell_other h.exclusive hrun hfail hawaited hstep
    have hexpects := Bool.eq_false_iff.mpr (mt (expects_iff hrun e).mp hawaited)
    refine ⟨⟨hexclusive, hsound, hends.final⟩, ?_⟩
    rw [hends.remaining, hexpects, Bool.toNat_false]
    omega

/-- The run's own events, one after the other, are an end to it. -/
theorem Progressing.exists_own (hposts : ∀ d ∈ definitions, d.Postable)
    (h : p.Progressing definitions clicked) :
    ∃ own, own.length = p.remaining definitions ∧ (∀ e ∈ own, ∀ k, e ≠ .fail k) ∧
      (wholePage definitions).countAlong expects p own = own.length := by
  induction hremaining : p.remaining definitions generalizing p with
  | zero => exact ⟨[], rfl, by simp, rfl⟩
  | succ n ih =>
      have hgoing : p.remaining definitions ≠ 0 := by omega
      obtain ⟨run, hrun⟩ := runs_eq_of_remaining h.exclusive hgoing
      have hexpects := (expects_iff hrun (run.awaited 0)).mpr rfl
      have hfail : ∀ k, run.awaited 0 ≠ .fail k := by
        intro k
        rcases awaited_cases run with hawaited | hawaited | hawaited
        · simp [hawaited]
        · simp [hawaited]
        · simp [hawaited]
      obtain ⟨hnext, hless⟩ := h.next hposts hfail hgoing
      rw [hexpects, Bool.toNat_true] at hless
      obtain ⟨own, hlength, hfails, hcount⟩ := ih hnext (by omega)
      refine ⟨run.awaited 0 :: own, by rw [List.length_cons, hlength], ?_, ?_⟩
      · intro e he
        rcases List.mem_cons.mp he with rfl | hrest
        · exact hfail
        · exact hfails e hrest
      · rw [Mealy.countAlong, hexpects, wholePage_next, hcount, Bool.toNat_true,
          List.length_cons, Nat.add_comm]

/-- A page that has its run, in any run of events. -/
theorem wholePage_progressing (hposts : ∀ d ∈ definitions, d.Postable) (cols rows : ℕ)
    (calls : List SimulatorService.Call) (es : List PanelEvent)
    (hrunning : ((wholePage definitions).run (.load cols rows (.after calls)) es).isAutoTestRunning
      = true) :
    ((wholePage definitions).run (.load cols rows (.after calls)) es).Progressing definitions
      fun ids => .clickRun ids ∈ es := by
  have hexclusive := wholePage_exclusive definitions cols rows (.after calls) es
  refine ⟨hexclusive, wholePage_sound hposts cols rows calls es, ?_⟩
  intro hzero
  exact absurd hzero ((isAutoTestRunning_iff hexclusive).mp hrunning)

/-- As many awaited events as are still to come are an end to the run. -/
theorem Progressing.ends (h : p.Progressing definitions clicked)
    (hposts : ∀ d ∈ definitions, d.Postable) {more : List PanelEvent}
    (hfail : ∀ e ∈ more, ∀ k, e ≠ .fail k)
    (hcount : p.remaining definitions ≤ (wholePage definitions).countAlong expects p more) :
    ∃ n ≤ more.length,
      ((wholePage definitions).run p (more.take n)).Progressing definitions clicked ∧
        ((wholePage definitions).run p (more.take n)).remaining definitions = 0 :=
  (wholePage definitions).run_countdown
    (fun _ _ hp hallowed hgoing => hp.next hposts hallowed hgoing) h hfail hcount

end Panel

/-- **A run of the panel ends.**  Take any state of the page in which a run is
going on, and let anything happen from there on, but for a request that fails.
As soon as the events that the run awaits, each at its moment, have come
`remaining` times, the run is over and the panel shows what came of it; nothing
else that happens in between adds to that number.  And the events can always
come: the run's own ones, one after the other, are such a list. -/
theorem panel_run_ends {definitions : List ScenarioDefinition}
    (hposts : ∀ d ∈ definitions, d.Postable) (cols rows : ℕ) (calls : List SimulatorService.Call)
    (es : List PanelEvent) :
    let page := wholePage definitions
    let p := page.run (.load cols rows (.after calls)) es
    p.isAutoTestRunning = true →
      (∀ more : List PanelEvent, (∀ e ∈ more, ∀ k, e ≠ .fail k) →
        p.remaining definitions ≤ page.countAlong Panel.expects p more →
          ∃ n ≤ more.length, (page.run p (more.take n)).isAutoTestRunning = false ∧
            (page.run p (more.take n)).testResults.IsFinal) ∧
      ∃ own, own.length = p.remaining definitions ∧ (∀ e ∈ own, ∀ k, e ≠ .fail k) ∧
        page.countAlong Panel.expects p own = own.length := by
  intro page p hrunning
  have h := Panel.wholePage_progressing hposts cols rows calls es hrunning
  refine ⟨?_, h.exists_own hposts⟩
  intro more hfail hcount
  obtain ⟨n, hn, hended, hzero⟩ := h.ends hposts hfail hcount
  refine ⟨n, hn, ?_, hended.final hzero⟩
  rw [← Bool.not_eq_true, Panel.isAutoTestRunning_iff hended.exclusive]
  exact not_not_intro hzero

/-- The theorem for the button that runs all scenarios of the server, at 74
events to the end. -/
theorem panel_run_ends_server :
    let page := wholePage getScenarioDefinitions
    let p := page.run (.load 18 12 .new) [.clickRun none]
    ∃ own : List PanelEvent, own.length = 74 ∧ ∃ n ≤ 74,
      (page.run p (own.take n)).isAutoTestRunning = false ∧
        (page.run p (own.take n)).testResults.IsFinal := by
  intro page p
  have hremaining : p.remaining getScenarioDefinitions = 74 := by decide
  obtain ⟨hends, own, hlength, hfails, hcount⟩ :=
    panel_run_ends getScenarioDefinitions_postable 18 12 [] [.clickRun none] rfl
  obtain ⟨n, hn, hover⟩ := hends own hfails (hlength.symm.trans hcount.symm).le
  have hown : own.length = 74 := hlength.trans hremaining
  exact ⟨own, hown, n, hown ▸ hn, hover⟩

end RvcControl
