import RvcControl.PanelProgress

/-!
# What the panel's verdict means

The panel and the server's runner judge the same scenarios in different places:
the runner on services of its own, in one call; the panel in the page, over a
service that others use too, with its run suspended at every `await`.
`panel_verdict` says when the two agree, and that it is enough for it that
nobody else calls the service.
-/

namespace RvcControl

/-! ## Counting -/

/-- Of results that are those of the runner, as many have passed as it counts. -/
theorem runAll_passed {definitions : List ScenarioDefinition} {results : List VisualResult}
    (hfits : List.Forall₂ VisualResult.Fits definitions results)
    (hundisturbed : ∀ r ∈ results, r.disturbed = false) :
    (runAll definitions).total = results.length ∧
      (runAll definitions).passed = results.countP fun r => r.result.passed := by
  have hsummary := runAll_summarizes definitions
  refine ⟨?_, ?_⟩
  · rw [hsummary.total, hfits.length_eq]
  · rw [hsummary.passed, hsummary.scenarios]
    congr 1
    clear hsummary
    induction hfits with
    | nil => rfl
    | @cons d r definitions results hfit _ ih =>
        have hpassed : (runScenario d).passed = r.result.passed := by
          rw [hfit.verdict (hundisturbed r (by simp))]
          rfl
        rw [List.map_cons, List.countP_cons, List.countP_cons, hpassed,
          ih fun r' hr' => hundisturbed r' (by simp [hr'])]

/-- From the first click on there is a way to a summary. -/
theorem exists_summary {definitions : List ScenarioDefinition}
    (hposts : ∀ d ∈ definitions, d.Postable) (hne : definitions ≠ []) (cols rows : ℕ)
    (calls : List SimulatorService.Call) :
    ∃ es results passed total,
      ((wholePage definitions).run (.load cols rows (.after calls))
        (.clickRun none :: es)).testResults = .summary results passed total := by
  have hclicked := Panel.wholePage_progressing hposts cols rows calls [.clickRun none] rfl
  obtain ⟨own, hlength, hfail, hcount⟩ := hclicked.exists_own hposts
  obtain ⟨n, _, hended, hzero⟩ := hclicked.ends hposts hfail (by omega)
  rw [← Mealy.run_append] at hended hzero
  have hfinal := hended.final hzero
  have hsound := hended.sound.testResults
  refine ⟨own.take n, ?_⟩
  cases hshown : ((wholePage definitions).run (.load cols rows (.after calls))
      ([.clickRun none] ++ own.take n)).testResults with
  | summary results passed total => exact ⟨results, passed, total, hshown⟩
  | notFound =>
      rw [hshown] at hsound
      obtain ⟨ids, hids, hnone⟩ := hsound
      cases List.mem_singleton.mp hids
      exact absurd hnone hne
  | _ =>
      rw [hshown] at hfinal
      exact absurd hfinal id

/-! ## The verdict -/

/-- **The panel's verdict is the runner's.**  Whatever happens in the page, a
summary stands there for scenarios that somebody has clicked: it has one result
for each of them, in the order of the table, and counts those that passed.  A
result during whose session nobody else has called the service is what the
server's runner finds, but for the message of a failure; if that is so for all
of them, the numbers are those the server would report for these scenarios, and
it is so for all of them if neither manual mode nor another client has called
the service at all.  The panel finds no scenarios only if none has such an id. -/
theorem panel_verdict {definitions : List ScenarioDefinition}
    (hposts : ∀ d ∈ definitions, d.Postable) (cols rows : ℕ)
    (calls : List SimulatorService.Call) (es : List PanelEvent) :
    let p := (wholePage definitions).run (.load cols rows (.after calls)) es
    (∀ results passed total, p.testResults = .summary results passed total →
      (∃ ids, .clickRun ids ∈ es ∧
        List.Forall₂ VisualResult.Fits (chosenDefinitions ids definitions) results ∧
        total = results.length ∧ (passed = results.countP fun r => r.result.passed) ∧
        ((∀ r ∈ results, r.disturbed = false) →
          (runAll (chosenDefinitions ids definitions)).total = total ∧
            (runAll (chosenDefinitions ids definitions)).passed = passed)) ∧
      ((∀ e ∈ es, ¬ e.Interferes) → ∀ r ∈ results, r.disturbed = false)) ∧
    (p.testResults = .notFound →
      ∃ ids, .clickRun ids ∈ es ∧ chosenDefinitions ids definitions = []) := by
  intro p
  have hsound := (wholePage_sound hposts cols rows calls es).testResults
  refine ⟨?_, ?_⟩
  · intro results passed total hshown
    refine ⟨?_, ?_⟩
    · rw [hshown] at hsound
      obtain ⟨ids, hclicked, hfits⟩ := hsound
      refine ⟨ids, hclicked, hfits.fits, hfits.total, hfits.passed, ?_⟩
      intro hundisturbed
      rw [hfits.total, hfits.passed]
      exact runAll_passed hfits.fits hundisturbed
    · intro hquiet
      have hresults :=
        (wholePage_undisturbed definitions cols rows (.after calls) hquiet).testResults
      rw [hshown] at hresults
      exact hresults
  · intro hshown
    rw [hshown] at hsound
    exact hsound

/-- The theorem for a page that runs all scenarios of its server. -/
theorem panel_verdict_server :
    ∃ es results passed total ids,
      ((wholePage getScenarioDefinitions).run (.load 18 12 (.after [])) es).testResults =
          .summary results passed total ∧
        List.Forall₂ VisualResult.Fits (chosenDefinitions ids getScenarioDefinitions) results := by
  obtain ⟨es, results, passed, total, hshown⟩ :=
    exists_summary getScenarioDefinitions_postable (by decide) 18 12 []
  obtain ⟨⟨ids, _, hfits, _⟩, _⟩ := (panel_verdict getScenarioDefinitions_postable 18 12 []
    (.clickRun none :: es)).1 results passed total hshown
  exact ⟨.clickRun none :: es, results, passed, total, ids, hshown, hfits⟩

end RvcControl
