import RvcControl.VisualScenario

/-!
# What the panel knows of its runs

`Panel.Sound` is the invariant of the whole page as far as the panel is
concerned: every suspended run is somewhere in the scenarios its button stands
for, with the results of those that are done, and the one on its way is as
`SingleRun.Fits` says.  `Panel.Sound.step` goes through what an event can do.
-/

namespace RvcControl

/-! ## All scenarios -/

/-- The page can post what is in the scenario: its texts need no escapes and its
times are numbers that the server can read. -/
structure ScenarioDefinition.Postable (d : ScenarioDefinition) : Prop extends d.Plain where
  times : ∀ step ∈ d.steps, InInt32 step.timerAdvance

/-- The server's own table can be posted. -/
theorem getScenarioDefinitions_postable : ∀ d ∈ getScenarioDefinitions, d.Postable := by
  have htimes : ∀ d ∈ getScenarioDefinitions, ∀ step ∈ d.steps, InInt32 step.timerAdvance := by
    decide
  intro d hd
  exact ⟨getScenarioDefinitions_ids_plain d hd, htimes d hd⟩

/-- The scenarios of the table that a button of the panel runs. -/
def chosenDefinitions (ids : Option (List String)) (definitions : List ScenarioDefinition) :
    List ScenarioDefinition :=
  match ids with
  | none => definitions
  | some ids => definitions.filter fun d => d.id ∈ ids

section Tours

variable {definitions : List ScenarioDefinition} {ids : Option (List String)}

/-- What is chosen is in the table. -/
theorem mem_chosenDefinitions {d : ScenarioDefinition}
    (h : d ∈ chosenDefinitions ids definitions) : d ∈ definitions := by
  cases ids with
  | none => exact h
  | some ids => exact (List.mem_filter.mp h).1

/-- The page chooses from the views as one would from the table. -/
theorem chooseScenarios_view (ids : Option (List String)) (definitions : List ScenarioDefinition) :
    chooseScenarios ids (definitions.map ScenarioDefinition.view) =
      (chosenDefinitions ids definitions).map ScenarioDefinition.view := by
  cases ids with
  | none => rfl
  | some ids => exact List.filter_map

/-- A tour before the service `s`: some of its scenarios are done, one is on its
way, the rest is still to come. -/
structure Tour.Fits (definitions : List ScenarioDefinition) (s : SimulatorService) (t : Tour) :
    Prop where
  split : ∃ done d rest, chosenDefinitions t.ids definitions = done ++ d :: rest ∧
    t.rest = rest.map ScenarioDefinition.view ∧ List.Forall₂ VisualResult.Fits done t.results ∧
    t.single.Fits d s
  total : t.total = (chosenDefinitions t.ids definitions).length
  passedCount : t.passedCount = t.results.countP fun r => r.result.passed

/-- A summary that is shown for the scenarios with these ids. -/
structure SummaryFits (definitions : List ScenarioDefinition) (ids : Option (List String))
    (results : List VisualResult) (passed total : ℕ) : Prop where
  fits : List.Forall₂ VisualResult.Fits (chosenDefinitions ids definitions) results
  passed : passed = results.countP fun r => r.result.passed
  total : total = results.length

/-- A suspended run of the panel, whose button is one of those clicked. -/
def AutoRun.Fits (definitions : List ScenarioDefinition) (clicked : Option (List String) → Prop)
    (s : SimulatorService) : AutoRun → Prop
  | .fetching ids x =>
      clicked ids ∧ (x = .posted ∨ x = .answered (some (scenarioDefinitionsToJson definitions)))
  | .touring t => clicked t.ids ∧ t.Fits definitions s

def TestResults.Fits (definitions : List ScenarioDefinition)
    (clicked : Option (List String) → Prop) : TestResults → Prop
  | .summary results passed total =>
      ∃ ids, clicked ids ∧ SummaryFits definitions ids results passed total
  | .notFound => ∃ ids, clicked ids ∧ chosenDefinitions ids definitions = []
  | _ => True

/-- What holds of the page in every state. -/
structure Panel.Sound (definitions : List ScenarioDefinition)
    (clicked : Option (List String) → Prop) (p : Panel) : Prop where
  service : ∃ v, Presents p.service v
  cached : ∀ scenarios ∈ p.cachedScenarios, scenarios = definitions.map ScenarioDefinition.view
  runs : ∀ run ∈ p.runs, run.Fits definitions clicked p.service
  testResults : p.testResults.Fits definitions clicked

/-! ## What the steps preserve -/

variable {clicked : Option (List String) → Prop} {s : SimulatorService}

/-- A scenario goes on in its tour. -/
theorem Tour.Fits.withSingle {t : Tour} (h : t.Fits definitions s) {s' : SimulatorService}
    {single : SingleRun} (hsingle : ∀ d ∈ definitions, t.single.Fits d s → single.Fits d s') :
    ({ t with single } : Tour).Fits definitions s' := by
  obtain ⟨done, d, rest, hsplit, hrest, hresults, hfits⟩ := h.split
  have hmem : d ∈ definitions := by
    apply mem_chosenDefinitions
    rw [hsplit]
    simp
  exact ⟨⟨done, d, rest, hsplit, hrest, hresults, hsingle d hmem hfits⟩, h.total, h.passedCount⟩

/-- A disturbed run fits any state of the service. -/
theorem AutoRun.Fits.disturb {run : AutoRun} (h : run.Fits definitions clicked s)
    (s' : SimulatorService) : run.disturb.Fits definitions clicked s' := by
  cases run with
  | fetching ids x => exact h
  | touring t => exact ⟨h.1, h.2.withSingle fun d _ hsingle => hsingle.disturb s'⟩

namespace Panel.Sound

variable {p : Panel}

/-- A run goes on. -/
theorem withRun (h : p.Sound definitions clicked) (k : ℕ) {run : AutoRun}
    (hrun : run.Fits definitions clicked p.service) :
    (p.withRun k run).Sound definitions clicked := by
  refine ⟨h.service, h.cached, ?_, h.testResults⟩
  intro run' hmem
  rcases List.mem_or_eq_of_mem_set hmem with hold | rfl
  · exact h.runs run' hold
  · exact hrun

/-- A run is over. -/
theorem finish (h : p.Sound definitions clicked) (k : ℕ) {testResults : TestResults}
    (hresults : testResults.Fits definitions clicked) :
    (p.finish k testResults).Sound definitions clicked :=
  ⟨h.service, h.cached, fun run hmem => h.runs run (List.mem_of_mem_eraseIdx hmem), hresults⟩

/-- Somebody has called the service. -/
theorem called (h : p.Sound definitions clicked) {p' : Panel}
    (hservice : ∃ v, Presents p'.service v) (hcached : p'.cachedScenarios = p.cachedScenarios)
    (hruns : p'.runs = p.runs.map AutoRun.disturb) (hresults : p'.testResults = p.testResults) :
    p'.Sound definitions clicked := by
  refine ⟨hservice, hcached ▸ h.cached, ?_, hresults ▸ h.testResults⟩
  rw [hruns]
  intro run' hmem
  obtain ⟨run, hold, rfl⟩ := List.mem_map.mp hmem
  exact (h.runs run hold).disturb p'.service

/-- Nothing that the panel's runs depend on has changed. -/
theorem congr (h : p.Sound definitions clicked) {p' : Panel} (hservice : p'.service = p.service)
    (hcached : p'.cachedScenarios = p.cachedScenarios) (hruns : p'.runs = p.runs)
    (hresults : p'.testResults = p.testResults) : p'.Sound definitions clicked :=
  ⟨hservice ▸ h.service, hcached ▸ h.cached, hruns ▸ hservice ▸ h.runs,
    hresults ▸ h.testResults⟩

/-- A scenario begins. -/
theorem visit (h : p.Sound definitions clicked) (k : ℕ) {t : Tour} (hclicked : clicked t.ids)
    (ht : t.Fits definitions p.service) : (p.visit k t).Sound definitions clicked := by
  let set := p.withGrid ((p.grid.setupScenarioWorld t.single.scenario.id).resetRobotForScenario
    t.single.scenario.id)
  have hset : set.Sound definitions clicked := h.congr rfl rfl rfl rfl
  exact hset.withRun k ⟨hclicked, ht⟩

/-- The catalogue is there, and the tour begins, if there is one. -/
theorem fetched (h : p.Sound definitions clicked) (k : ℕ) {ids : Option (List String)}
    (hclicked : clicked ids) :
    (p.fetched k ids (definitions.map ScenarioDefinition.view)).Sound definitions clicked := by
  rw [Panel.fetched, chooseScenarios_view]
  cases hchosen : chosenDefinitions ids definitions with
  | nil => exact h.finish k ⟨ids, hclicked, hchosen⟩
  | cons d rest =>
      have hpreparing : Panel.Sound definitions clicked { p with testResults := .preparing } :=
        ⟨h.service, h.cached, h.runs, trivial⟩
      apply hpreparing.visit k hclicked
      refine ⟨⟨[], d, rest, hchosen, rfl, .nil, .begin d _ _⟩, ?_, rfl⟩
      rw [hchosen, List.length_cons, List.length_map]

/-- A scenario has come to its end. -/
theorem returned (h : p.Sound definitions clicked) (k : ℕ) {t : Tour} (hclicked : clicked t.ids)
    (ht : t.Fits definitions p.service)
    (hend : t.single.awaits = .banner ∨ t.single.awaits = .pause) :
    (p.returned k t).Sound definitions clicked := by
  obtain ⟨done, d, rest, hsplit, hrest, hresults, hfits⟩ := ht.split
  let result : VisualResult := ⟨t.single.result, t.single.disturbed⟩
  have hresult : List.Forall₂ VisualResult.Fits (done ++ [d]) (t.results ++ [result]) :=
    List.rel_append hresults (.cons (hfits.result hend) .nil)
  have hcount : (if t.single.result.passed then t.passedCount + 1 else t.passedCount) =
      (t.results ++ [result]).countP fun r => r.result.passed := by
    rw [List.countP_append, List.countP_singleton, ht.passedCount]
    split <;> omega
  rw [Panel.returned]
  cases rest with
  | nil =>
      rw [hrest]
      apply h.finish k
      refine ⟨t.ids, hclicked, ⟨?_, hcount, ?_⟩⟩
      · rw [hsplit]
        exact hresult
      · rw [ht.total, hsplit]
        exact hresult.length_eq
  | cons next rest =>
      rw [hrest, List.map_cons]
      apply h.visit k
      · exact hclicked
      · refine ⟨⟨done ++ [d], next, rest, ?_, rfl, hresult, .begin next _ _⟩, ht.total, hcount⟩
        rw [hsplit, List.append_assoc]
        rfl

end Panel.Sound

end Tours

/-! ## The events -/

/-- Asking for a tick leaves the server. -/
theorem Tab.runManualTick_backend (w : Tab) (fromStart : Bool) :
    (w.runManualTick fromStart).backend = w.backend := by
  unfold Tab.runManualTick
  split
  · split <;> rfl
  · rfl

theorem Tab.resume_backend (w : Tab) (r : Reply) : (w.resume r).backend = w.backend := by
  cases r with
  | start =>
      rw [Tab.resume]
      split
      · exact w.runManualTick_backend true
      · rfl
  | reset => rfl
  | tick state fromStart resets => rfl

theorem Tab.resumeFailed_backend (w : Tab) (handler : Handler) :
    (w.resumeFailed handler).backend = w.backend := by
  cases handler <;> rfl

/-- Only a request that is processed reaches the server. -/
theorem Tab.handle_backend (w : Tab) {e : TabEvent}
    (h : ∀ n, e = .process n → w.posts.length ≤ n) : (w.handle e).backend = w.backend := by
  cases e with
  | clickStart => rfl
  | clickReset => rfl
  | clickTick => exact w.runManualTick_backend false
  | clickManualTab => rfl
  | clickAutoTab => rfl
  | timerFires =>
      rw [Tab.handle]
      split
      · exact w.runManualTick_backend false
      · rfl
  | process n => rw [Tab.handle, List.getElem?_eq_none (h n rfl)]
  | deliver n =>
      rw [Tab.handle]
      split
      · rfl
      · exact Tab.resume_backend _ _
  | failPost n =>
      rw [Tab.handle]
      split
      · rfl
      · exact Tab.resumeFailed_backend _ _
  | failReply n =>
      rw [Tab.handle]
      split
      · rfl
      · exact Tab.resumeFailed_backend _ _

/-- The server shows a session after any request. -/
theorem Backend.process_presents {b : Backend} {v : Option LiveSession}
    (h : Presents b.service v) (r : Post) : ∃ v', Presents (b.process r).1.service v' := by
  cases r with
  | start => exact ⟨_, h.start _⟩
  | reset => exact ⟨_, h.reset⟩
  | tick sensors fromStart => exact ⟨_, h.tick sensors 0⟩

section Events

variable {definitions : List ScenarioDefinition} {clicked : Option (List String) → Prop}
  {p : Panel}

namespace Panel.Sound

/-- An event of manual mode, of which the runs take note. -/
theorem handleManual (h : p.Sound definitions clicked) (e : TabEvent) :
    (p.handleManual e).Sound definitions clicked := by
  by_cases hprocess : ∀ n, e = .process n → p.tab.posts.length ≤ n
  · have hservice : (p.tab.handle e).backend.service = p.service :=
      congrArg Backend.service (p.tab.handle_backend hprocess)
    have hquiet : Panel.Sound definitions clicked { p with tab := p.tab.handle e } :=
      h.congr hservice rfl rfl rfl
    unfold Panel.handleManual
    cases e with
    | clickAutoTab =>
        dsimp only
        split
        · exact hquiet.congr rfl rfl rfl rfl
        · exact hquiet
    | process n =>
        have hle := hprocess n rfl
        dsimp only
        rw [if_neg (by omega)]
        exact hquiet
    | _ => exact hquiet
  · push Not at hprocess
    obtain ⟨n, rfl, hlt⟩ := hprocess
    obtain ⟨v, hv⟩ := h.service
    have hprocessed : ∃ v', Presents (p.tab.handle (.process n)).backend.service v' := by
      rw [Tab.handle, List.getElem?_eq_getElem hlt]
      exact Backend.process_presents hv _
    rw [Panel.handleManual, if_pos hlt]
    exact h.called hprocessed rfl rfl rfl

/-- A new run, which awaits its catalogue. -/
theorem beginRun (h : p.Sound definitions clicked) {ids : Option (List String)}
    (hclicked : clicked ids) : (p.beginRun ids).Sound definitions clicked := by
  refine ⟨h.service, h.cached, ?_, h.testResults⟩
  intro run hmem
  rcases List.mem_append.mp hmem with hold | hnew
  · exact h.runs run hold
  · rw [List.mem_singleton.mp hnew]
    exact ⟨hclicked, .inl rfl⟩

/-- **One event** keeps the page sound. -/
theorem step (h : p.Sound definitions clicked) (hposts : ∀ d ∈ definitions, d.Postable)
    {e : PanelEvent} (hclicked : ∀ ids, e = .clickRun ids → clicked ids) {p' : Panel}
    (hstep : p.Step definitions e p') : p'.Sound definitions clicked := by
  have hread := readScenarios_catalogue fun d hd => (hposts d hd).toPlain
  have hrunOf : ∀ {k : ℕ} {run : AutoRun}, p.runs[k]? = some run →
      run.Fits definitions clicked p.service :=
    fun hrun => h.runs _ (List.mem_of_getElem? hrun)
  cases hstep with
  | stay => exact h
  | manual e => exact h.handleManual e
  | clickGrid => exact h.congr rfl rfl rfl rfl
  | beginRun => exact h.beginRun (hclicked _ rfl)
  | beginTour _ hcached =>
      rw [h.cached _ hcached]
      exact (h.beginRun (hclicked _ rfl)).fetched _ (hclicked _ rfl)
  | listed =>
      refine ⟨h.service, ?_, h.runs, h.testResults⟩
      rw [hread]
      simp
  | listFails => exact h.congr rfl rfl rfl rfl
  | getState => exact h.congr rfl rfl rfl rfl
  | @foreign call =>
      obtain ⟨v, hv⟩ := h.service
      have hnext := simulator_refines_liveSessions.next hv (Eq.refl call)
      exact h.called ⟨_, hnext⟩ rfl rfl rfl
  | serveCatalogue hrun hanswer => exact h.withRun _ ⟨(hrunOf hrun).1, .inr (by rw [hanswer])⟩
  | @serve k t request hrun hrequest =>
      obtain ⟨hclicked, ht⟩ := hrunOf hrun
      obtain ⟨v, hv⟩ := h.service
      let s' := (httpServer definitions).next p.service request
      have hcalled : (p.disturb.withService s').Sound definitions clicked :=
        h.called (hv.httpServer definitions request) rfl rfl rfl
      apply hcalled.withRun k
      refine ⟨hclicked, ht.withSingle fun d hd hsingle => ?_⟩
      exact hsingle.serve definitions hv (hposts d hd).times hrequest
  | @catalogue k ids answer allScenarios hrun hcatalogue =>
      obtain ⟨hclicked, hposted | hanswered⟩ := hrunOf hrun
      · cases hposted
      · cases hanswered
        rw [Option.bind_some, hread] at hcatalogue
        cases hcatalogue
        have hcached : Panel.Sound definitions clicked
            { p with cachedScenarios := some (definitions.map ScenarioDefinition.view) } :=
          ⟨h.service, by simp, h.runs, h.testResults⟩
        exact hcached.fetched k hclicked
  | @resume k t single g hrun hresume =>
      obtain ⟨hclicked, ht⟩ := hrunOf hrun
      have hgrid : (p.withGrid g).Sound definitions clicked := h.congr rfl rfl rfl rfl
      apply hgrid.withRun k
      exact ⟨hclicked, ht.withSingle fun d _ hsingle => hsingle.resume hresume⟩
  | stepDelay hrun hawaits =>
      obtain ⟨hclicked, ht⟩ := hrunOf hrun
      apply h.withRun _
      exact ⟨hclicked, ht.withSingle fun d _ hsingle => hsingle.wake.1 hawaits⟩
  | banner hrun hawaits =>
      obtain ⟨hclicked, ht⟩ := hrunOf hrun
      apply h.withRun _
      exact ⟨hclicked, ht.withSingle fun d _ hsingle => hsingle.wake.2 hawaits⟩
  | returned hrun hawaits =>
      obtain ⟨hclicked, ht⟩ := hrunOf hrun
      apply h.returned _ hclicked ht
      rcases hawaits with ⟨hbanner, _⟩ | hpause
      · exact .inl hbanner
      · exact .inr hpause
  | throwsCatalogue => exact h.finish _ trivial
  | throws => exact h.finish _ trivial
  | fails => exact h.finish _ trivial

/-- More clicks are no harm. -/
theorem mono (h : p.Sound definitions clicked) {clicked' : Option (List String) → Prop}
    (hmono : ∀ ids, clicked ids → clicked' ids) : p.Sound definitions clicked' := by
  refine ⟨h.service, h.cached, ?_, ?_⟩
  · intro run hmem
    have hrun := h.runs run hmem
    cases run with
    | fetching ids x => exact ⟨hmono _ hrun.1, hrun.2⟩
    | touring t => exact ⟨hmono _ hrun.1, hrun.2⟩
  · have hresults := h.testResults
    cases hshown : p.testResults with
    | summary results passed total =>
        rw [hshown] at hresults
        obtain ⟨ids, hclicked, hfits⟩ := hresults
        exact ⟨ids, hmono ids hclicked, hfits⟩
    | notFound =>
        rw [hshown] at hresults
        obtain ⟨ids, hclicked, hnone⟩ := hresults
        exact ⟨ids, hmono ids hclicked, hnone⟩
    | _ => trivial

end Panel.Sound

/-- **The page is sound in every run**, for the buttons clicked in it. -/
theorem wholePage_sound (hposts : ∀ d ∈ definitions, d.Postable) (cols rows : ℕ)
    (calls : List SimulatorService.Call) (es : List PanelEvent) :
    ((wholePage definitions).run (.load cols rows (.after calls)) es).Sound definitions
      fun ids => .clickRun ids ∈ es := by
  apply (wholePage definitions).run_history
    (P := fun es p => p.Sound definitions fun ids => .clickRun ids ∈ es)
  · exact ⟨⟨_, after_presents calls⟩, nofun, nofun, trivial⟩
  · intro es p e h
    have hmono := h.mono fun ids hids => List.mem_append_left [e] hids
    apply hmono.step hposts _ (p.handle_step definitions e)
    intro ids he
    simp [he]

end Events

end RvcControl
