import RvcControl.ScenarioDrivers
import RvcControl.Session

/-!
# What a scenario's verdict means

The runner judges a step by the last entries of logs that grow over the whole
scenario, and it goes on after a step that has failed.  Its verdicts are
compared here with a reference run that knows no logs: a fresh controller,
started and fed with the steps, and what it issues at one tick.
-/

namespace RvcControl

section Reference

variable {σ : Type*} [ITurnStrategy σ]

namespace ScenarioStepDefinition

/-- The time that passes before the tick of a step, if any does. -/
def advances (step : ScenarioStepDefinition) : List (SessionEvent ReplayReader σ) :=
  if step.timerAdvance > 0 then [.advance step.timerAdvance] else []

def tickEvent (turnStrategy : σ) (step : ScenarioStepDefinition) : SessionEvent ReplayReader σ :=
  .tick (.showing step.sensors) turnStrategy

def events (turnStrategy : σ) (step : ScenarioStepDefinition) :
    List (SessionEvent ReplayReader σ) :=
  step.advances ++ [step.tickEvent turnStrategy]

end ScenarioStepDefinition

/-- A fresh controller, started and fed with some steps. -/
def fedController (turnStrategy : σ) (steps : List ScenarioStepDefinition) :
    Session ReplayReader σ :=
  session.run (Session.new .new {} {} turnStrategy 3000)
    (.start :: steps.flatMap (ScenarioStepDefinition.events turnStrategy))

/-- The commands a fresh controller issues at the tick of `step`, after the
steps `before` it. -/
def issuedAt (turnStrategy : σ) (before : List ScenarioStepDefinition)
    (step : ScenarioStepDefinition) : Issued :=
  session.out (session.run (fedController turnStrategy before) step.advances)
    (step.tickEvent turnStrategy)

/-- The session shown after some steps. -/
def LiveSession.afterSteps (v : LiveSession) (steps : List ScenarioStepDefinition) : LiveSession :=
  steps.foldl (fun v step => v.tick step.sensors step.timerAdvance) v

/-- Steps do not change the strategy. -/
theorem LiveSession.afterSteps_choose (v : LiveSession) (steps : List ScenarioStepDefinition) :
    (v.afterSteps steps).choose = v.choose := by
  induction steps generalizing v with
  | nil => rfl
  | cons step steps ih => exact ih _

/-- Fed with a step, a session ticks once and shows what it shows then. -/
theorem Shows.events {c : InMemoryService σ} {v : LiveSession} (h : Shows c v) {turnStrategy : σ}
    (hchoose : ∀ sensors, ITurnStrategy.choose turnStrategy sensors = v.choose sensors)
    (step : ScenarioStepDefinition) :
    Shows (session.run c (step.events turnStrategy))
      (v.tick step.sensors step.timerAdvance) := by
  have hports : Shows { c with turnStrategy := turnStrategy } v :=
    ⟨h.running, h.duration, h.phase, h.mode, h.timer, hchoose, h.motions, h.cleans⟩
  have hdrive : session.run c (step.events turnStrategy) =
      InMemoryService.drive { c with turnStrategy := turnStrategy } step.sensors
        step.timerAdvance := by
    simp only [ScenarioStepDefinition.events, ScenarioStepDefinition.advances,
      InMemoryService.drive]
    split <;> rfl
  rw [hdrive]
  exact hports.drive step.sensors step.timerAdvance

/-- A controller that is fed with steps shows the session after them. -/
theorem Shows.steps {c : InMemoryService σ} {v : LiveSession} (h : Shows c v) {turnStrategy : σ}
    (hchoose : v.choose = ITurnStrategy.choose turnStrategy)
    (steps : List ScenarioStepDefinition) :
    Shows (session.run c (steps.flatMap (ScenarioStepDefinition.events turnStrategy)))
      (v.afterSteps steps) := by
  induction steps generalizing c v with
  | nil => exact h
  | cons step steps ih =>
      rw [List.flatMap_cons, Mealy.run_append]
      exact ih (h.events (fun sensors => by rw [hchoose]) step) hchoose

theorem fedController_shows (turnStrategy : σ) (steps : List ScenarioStepDefinition) :
    Shows (fedController turnStrategy steps)
      ((LiveSession.started (ITurnStrategy.choose turnStrategy)).afterSteps steps) :=
  Shows.steps (start_shows rfl rfl rfl fun _ => rfl) rfl steps

/-- **One tick of the reference** issues the two commands its session
reports. -/
theorem issuedAt_eq (turnStrategy : σ) (before : List ScenarioStepDefinition)
    (step : ScenarioStepDefinition) :
    let v := (LiveSession.started (ITurnStrategy.choose turnStrategy)).afterSteps before
    let tickState := (v.tick step.sensors step.timerAdvance).state
    issuedAt turnStrategy before step = ⟨[tickState.lastMotion], [tickState.lastClean]⟩ := by
  intro v tickState
  let c := fedController turnStrategy before
  have hc : Shows c v := fedController_shows turnStrategy before
  have hchoose : v.choose = ITurnStrategy.choose turnStrategy :=
    LiveSession.afterSteps_choose _ before
  have hticked := hc.events (fun sensors => by rw [hchoose]) step
  let ready := session.run c step.advances
  have hready : ready.motionActuator = c.motionActuator ∧
      ready.cleaningActuator = c.cleaningActuator := by
    simp only [ready, ScenarioStepDefinition.advances]
    split <;> exact ⟨rfl, rfl⟩
  have hnext : ready.handle (step.tickEvent turnStrategy) =
      session.run c (step.events turnStrategy) := by
    rw [ScenarioStepDefinition.events, Mealy.run_append]
    rfl
  show Session.issued ready (ready.handle (step.tickEvent turnStrategy)) = _
  rw [hnext, Session.issued, hready.1, hready.2, hticked.motions, hticked.cleans, hc.motions,
    hc.cleans, LiveSession.motions_tick, LiveSession.cleans_tick, List.drop_left,
    List.drop_left]
  simp [tickState, LiveSession.state_tick_lastMotion, LiveSession.state_tick_lastClean]

end Reference

/-! ## The records, one by one -/

/-- There is one record for each step. -/
theorem LiveSession.length_verdicts (v : LiveSession) (i : ℕ)
    (steps : List ScenarioStepDefinition) : (v.verdicts i steps).length = steps.length := by
  induction steps generalizing v i with
  | nil => rfl
  | cons step steps ih => exact congrArg Nat.succ (ih _ _)

/-- The record of a step judges the state the steps before it and this one lead
to. -/
theorem LiveSession.getElem?_verdicts (v : LiveSession) (i : ℕ)
    (steps : List ScenarioStepDefinition) (k : ℕ) :
    (v.verdicts i steps)[k]? = steps[k]?.map fun step =>
      stepVerdict (i + k) step
        ((v.afterSteps (steps.take k)).tick step.sensors step.timerAdvance).state := by
  induction steps generalizing v i k with
  | nil => rfl
  | cons step steps ih =>
      cases k with
      | zero => rfl
      | succ k =>
          simp only [verdicts, List.getElem?_cons_succ, List.take_succ_cons]
          rw [ih, Nat.add_assoc, Nat.add_comm 1 k]
          rfl

/-- The message of a run that has failed is that of its last failure. -/
theorem foldl_messageAfter (message : String) (records : List ScenarioStepResult) :
    (records.all ScenarioStepResult.passed = true ∧ records.foldl messageAfter message = message) ∨
      ∃ before r after, records = before ++ r :: after ∧ r.passed = false ∧
        after.all ScenarioStepResult.passed = true ∧
        records.foldl messageAfter message = "Step " ++ toString r.stepIndex ++ " mismatch" := by
  induction records using List.reverseRecOn with
  | nil => exact Or.inl ⟨rfl, rfl⟩
  | append_singleton records r ih =>
      rw [List.foldl_concat, messageAfter]
      cases hr : r.passed with
      | false => exact Or.inr ⟨records, r, [], rfl, hr, rfl, rfl⟩
      | true =>
          rcases ih with ⟨hall, hmessage⟩ | ⟨before, r', after, hsplit, hr', hall, hmessage⟩
          · exact Or.inl ⟨by simp [hall, hr], hmessage⟩
          · exact Or.inr ⟨before, r', after ++ [r], by simp [hsplit], hr', by simp [hall, hr],
              hmessage⟩

/-- What stands behind an element is in the rest. -/
theorem mem_of_getElem?_behind {before after : List ScenarioStepResult} {r r' : ScenarioStepResult}
    {j : ℕ} (hj : before.length < j) (h : (before ++ r :: after)[j]? = some r') : r' ∈ after := by
  have hindex : j - before.length = (j - before.length - 1) + 1 := by omega
  rw [List.getElem?_append_right hj.le, hindex, List.getElem?_cons_succ] at h
  exact List.mem_of_getElem? h

/-- What a result says of a scenario run with a strategy. -/
structure Verdict {σ : Type*} [ITurnStrategy σ] (definition : ScenarioDefinition)
    (turnStrategy : σ) (result : ScenarioResult) : Prop where
  id : result.id = definition.id
  name : result.name = definition.name
  length : result.steps.length = definition.steps.length
  numbered : ∀ (i : ℕ) r, result.steps[i]? = some r → r.stepIndex = i + 1
  judged : ∀ (i : ℕ) step r, definition.steps[i]? = some step → result.steps[i]? = some r →
    (r.passed = true ↔ issuedAt turnStrategy (definition.steps.take i) step =
      ⟨[step.expectedMotion], [step.expectedClean]⟩)
  passed : result.passed = true ↔ ∀ r ∈ result.steps, r.passed = true
  ok : result.passed = true → result.message = "OK"
  mismatch : result.passed = false →
    ∃ (i : ℕ) (r : ScenarioStepResult), result.steps[i]? = some r ∧ r.passed = false ∧
      (∀ j r', i < j → result.steps[j]? = some r' → r'.passed = true) ∧
      result.message = "Step " ++ toString ((i : Int) + 1) ++ " mismatch"

/-- **Every run is judged soundly and completely.** -/
theorem runDefinition_verdict {σ : Type*} [ITurnStrategy σ] (definition : ScenarioDefinition)
    (turnStrategy : σ) : Verdict definition turnStrategy (runDefinition definition turnStrategy) := by
  let v := LiveSession.started (ITurnStrategy.choose turnStrategy)
  let records := v.verdicts 0 definition.steps
  have hrecord : ∀ (i : ℕ) r, records[i]? = some r → ∃ step, definition.steps[i]? = some step ∧
      stepVerdict i step ((v.afterSteps (definition.steps.take i)).tick step.sensors
        step.timerAdvance).state = r := by
    intro i r hr
    rw [LiveSession.getElem?_verdicts, Nat.zero_add] at hr
    exact Option.map_eq_some_iff.mp hr
  have hnumbered : ∀ (i : ℕ) r, records[i]? = some r → r.stepIndex = i + 1 := by
    intro i r hr
    obtain ⟨step, _, rfl⟩ := hrecord i r hr
    rfl
  rw [runDefinition_eq]
  refine ⟨rfl, rfl, v.length_verdicts 0 _, hnumbered, ?_, List.all_eq_true, ?_, ?_⟩
  · intro i step r hstep hr
    obtain ⟨step', hstep', rfl⟩ := hrecord i r hr
    rw [hstep] at hstep'
    cases hstep'
    rw [issuedAt_eq, stepVerdict, stepPassed_eq]
    simp [v]
  · intro hpassed
    exact if_pos hpassed
  · intro hfailed
    have hfailed : records.all ScenarioStepResult.passed = false := hfailed
    rcases foldl_messageAfter "" records with ⟨hall, _⟩ | ⟨before, r, after, hsplit, hr, hlater, hm⟩
    · rw [hall] at hfailed
      cases hfailed
    · have hi : records[before.length]? = some r := by simp [hsplit]
      refine ⟨before.length, r, hi, hr, ?_, ?_⟩
      · intro j r' hj hr'
        have hr' : records[j]? = some r' := hr'
        rw [hsplit] at hr'
        exact List.all_eq_true.mp hlater r' (mem_of_getElem?_behind hj hr')
      · show (if records.all ScenarioStepResult.passed then "OK" else _) = _
        rw [if_neg (by simp [hfailed]), hm, hnumbered _ _ hi]

/-! ## The summary -/

/-- The entry of a definition: its run with the strategy it asks for, and what
that run says. -/
def EntryOf (definition : ScenarioDefinition) (result : ScenarioResult) : Prop :=
  match definition.turnStrategy with
  | .preferLeft =>
      result = runDefinition definition ({} : PreferLeftTurnStrategy) ∧
        Verdict definition ({} : PreferLeftTurnStrategy) result
  | .forceRight =>
      result = runDefinition definition ({ direction := .right } : FixedTurnStrategy) ∧
        Verdict definition ({ direction := .right } : FixedTurnStrategy) result

/-- `RunAll` runs every definition with its own strategy. -/
theorem runScenario_entry (definition : ScenarioDefinition) :
    EntryOf definition (runScenario definition) := by
  unfold EntryOf
  cases hstrategy : definition.turnStrategy with
  | preferLeft =>
      have hleft : definition.turnStrategy ≠ .forceRight := by
        rw [hstrategy]
        decide
      have hrun : runScenario definition =
          runDefinition definition ({} : PreferLeftTurnStrategy) := if_neg hleft
      rw [hrun]
      exact ⟨rfl, runDefinition_verdict definition _⟩
  | forceRight =>
      have hrun : runScenario definition =
          runDefinition definition ({ direction := .right } : FixedTurnStrategy) :=
        if_pos hstrategy
      rw [hrun]
      exact ⟨rfl, runDefinition_verdict definition _⟩

/-- What a summary says of a list of scenarios. -/
structure Summarizes (definitions : List ScenarioDefinition) (summary : ScenarioRunSummary) :
    Prop where
  scenarios : summary.scenarios = definitions.map runScenario
  entries : List.Forall₂ EntryOf definitions summary.scenarios
  total : summary.total = definitions.length
  passed : summary.passed = summary.scenarios.countP ScenarioResult.passed
  sum : summary.total = summary.passed + summary.failed

/-- The counting loop of `RunAll`. -/
theorem foldl_count (scenarios : List ScenarioResult) (summary : ScenarioRunSummary) :
    scenarios.foldl
      (fun summary scenario =>
        if scenario.passed then { summary with passed := summary.passed + 1 }
        else { summary with failed := summary.failed + 1 }) summary =
      { summary with
        passed := summary.passed + scenarios.countP ScenarioResult.passed
        failed := summary.failed +
          (scenarios.length - scenarios.countP ScenarioResult.passed : Int) } := by
  induction scenarios generalizing summary with
  | nil => simp
  | cons scenario scenarios ih =>
      rw [List.foldl_cons, ih, List.countP_cons, List.length_cons]
      cases scenario.passed <;> simp <;> omega

/-- `RunAll` returns such a summary. -/
theorem runAll_summarizes (definitions : List ScenarioDefinition) :
    Summarizes definitions (runAll definitions) := by
  have hall : runAll definitions = _ := foldl_count _ _
  have hentries : List.Forall₂ EntryOf definitions (definitions.map runScenario) := by
    rw [List.forall₂_map_right_iff, List.forall₂_same]
    exact fun definition _ => runScenario_entry definition
  rw [hall]
  refine ⟨rfl, hentries, by simp, by simp, ?_⟩
  simp only
  omega

/-- **The scenario verdict is sound and complete.**  Every run returns one
record for each step, in order and numbered from one; a record is passed
exactly if a fresh controller issues the expected commands and no others at
that tick; the scenario is passed exactly if all its records are, and its
message tells so or names the last failure; and the summary of any list of
scenarios has for each, in order, the result of its run with its own strategy,
of which all that holds too, and counts them. -/
theorem verdict_sound_and_complete {σ : Type*} [ITurnStrategy σ] (definition : ScenarioDefinition)
    (turnStrategy : σ) (definitions : List ScenarioDefinition) :
    Verdict definition turnStrategy (runDefinition definition turnStrategy) ∧
      Summarizes definitions (runAll definitions) :=
  ⟨runDefinition_verdict definition turnStrategy, runAll_summarizes definitions⟩

end RvcControl
