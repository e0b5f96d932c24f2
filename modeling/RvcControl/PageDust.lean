import RvcControl.AtomicRounds
import RvcControl.DustFree
import RvcControl.PanelWorlds

/-!
# No dust behind the robot of the page

`no_dust_left_behind` is about rounds in one piece.  Here it is carried over to
the page, where other clients may reset, start and tick the service between the
posting of a tick and its answer, and advance its timer as they like.  The
sensors of a round are read on the cell on which its answer finds the robot, and
with nobody adding dust a dusty cell was dusty then.
-/

namespace RvcControl

/-! ## The clicks of a run -/

/-- A tab logs no clicks; they go to the grid. -/
theorem Tab.logged_ne_clicked (w : Tab) (e : TabEvent) (c : Click) :
    w.logged e ≠ some (.aside (.clicked c)) := by
  have htick : w.page.loggedTick ≠ some (.aside (.clicked c)) := by
    unfold Page.loggedTick
    split <;> simp
  cases e with
  | clickTick => exact htick
  | timerFires =>
      rw [Tab.logged]
      split
      · exact htick
      · simp
  | process k =>
      intro h
      obtain ⟨r, _, hr⟩ := Option.map_eq_some_iff.mp h
      cases r <;> cases hr
  | deliver k =>
      rw [Tab.logged]
      cases w.replies[k]? with
      | none => simp
      | some r =>
          cases r with
          | start =>
              dsimp only
              split
              · exact htick
              · simp
          | _ => simp
  | failPost k =>
      rw [Tab.logged]
      cases w.posts[k]? with
      | none => simp
      | some r => cases r <;> simp
  | failReply k =>
      rw [Tab.logged]
      cases w.replies[k]? with
      | none => simp
      | some r => cases r <;> simp
  | _ => simp [Tab.logged]

/-- A click in the log is one of the run. -/
theorem clickGrid_of_clicked {definitions : List ScenarioDefinition} {p : Panel}
    {es : List PanelEvent} {c : Click}
    (h : .aside (.clicked c) ∈ (wholePage definitions).notesAlong Panel.logged p es) :
    .clickGrid c ∈ es := by
  obtain ⟨e, he, p', hlogged⟩ := (wholePage definitions).mem_notesAlong h
  cases e with
  | clickGrid d =>
      rw [Panel.logged] at hlogged
      split at hlogged
      · cases hlogged
        exact he
      · cases hlogged
  | manual e => exact absurd hlogged (p'.tab.logged_ne_clicked e c)
  | foreign call => cases hlogged
  | _ => cases hlogged

/-- Clicks on obstacles leave the dust. -/
theorem Grid.edit_dustCells (g : Grid) {clicks : List Click}
    (h : ∀ c, Click.dust c ∉ clicks) : (g.edit clicks).dustCells = g.dustCells := by
  induction clicks generalizing g with
  | nil => rfl
  | cons click clicks ih =>
      rw [Grid.edit_cons, ih _ fun c hc => h c (by simp [hc])]
      cases click with
      | obstacle c => rfl
      | dust c => exact absurd (by simp) (h c)

/-! ## The session -/

/-- Whole operations are calls to the service. -/
theorem atomicLoop_after (calls : List SimulatorService.Call) (g : Grid)
    (ops : List LoopOperation) :
    ∃ more, (atomicLoop.run (.after calls, g) ops).1 = .after (calls ++ more) := by
  induction ops using List.reverseRecOn with
  | nil => exact ⟨[], by rw [List.append_nil]; rfl⟩
  | append_singleton ops op ih =>
      obtain ⟨more, hmore⟩ := ih
      have hcall : ∃ c, (op.perform (atomicLoop.run (.after calls, g) ops)).1 =
          simulator.next (atomicLoop.run (.after calls, g) ops).1 c := by
        cases op with
        | call c => exact ⟨c, rfl⟩
        | round clicks late => exact ⟨.tick _ 0, rfl⟩
        | lost clicks => exact ⟨.tick _ 0, rfl⟩
      obtain ⟨c, hc⟩ := hcall
      refine ⟨more ++ [c], ?_⟩
      rw [Mealy.run_concat, atomicLoop_next, hc, hmore, ← List.append_assoc]
      exact (simulator.run_concat _ _ _).symm

/-! ## The answer of a tick -/

/-- Dust that lies under the robot when an answer comes in was there when the
sensors were read, and the answer is a boost. -/
theorem Tab.Serial.answer_boosts {calls : List SimulatorService.Call} {g : Grid}
    {log : List LogEntry} {w : Tab} (h : w.Serial (.after calls, g) log)
    (hstart : ∃ turnStrategy, .start turnStrategy ∈ calls)
    (hdustless : ∀ c, .aside (.clicked (.dust c)) ∉ log) {k : ℕ}
    {state : SimulatorState} {fromStart : Bool} {resets : ℕ}
    (hr : w.replies[k]? = some (.tick state fromStart resets))
    (hdust : w.page.grid.dustCells.has w.page.grid.robot.cell = true) :
    state.lastClean = .setBoost := by
  obtain ⟨hone, _⟩ := filterMap_eraseIdx_singleton (f := Reply.state?) hr rfl h.length_answered
  have hview := h.view
  generalize hv : w.loopView = v at hview
  have hanswered : v.answered = [state] := hv ▸ hone
  have hgrid : w.page.grid = v.grid := hv ▸ rfl
  rw [hgrid] at hdust
  cases hview with
  | idle told => cases hanswered
  | posted before told => cases hanswered
  | @answered _ ops early before after told =>
      obtain ⟨others, hothers⟩ := atomicLoop_after calls g ops
      have hservice : simulator.run (atomicLoop.run (.after calls, g) ops).1 (callsIn before) =
          .after (calls ++ others ++ callsIn before) := by
        rw [hothers]
        exact (simulator.run_append _ _ _).symm
      obtain ⟨turnStrategy, hstart⟩ := hstart
      obtain ⟨session, hsession, hunexpired⟩ :=
        cleaning_after ⟨turnStrategy, List.mem_append_left (callsIn before)
          (List.mem_append_left others hstart)⟩ g
      have hlate : ∀ c, Click.dust c ∉ clicksIn before ++ clicksIn after := by
        intro c hc
        apply hdustless c
        rcases List.mem_append.mp hc with hbefore | hafter
        · simp [(mem_clicksIn before).mp hbefore]
        · simp [(mem_clicksIn after).mp hafter]
      have hread : (((atomicLoop.run (.after calls, g) ops).2.edit
          early).readSensorsFromGrid).dustDetected = true := by
        rw [Grid.edit_dustCells _ hlate, Grid.edit_robot] at hdust
        exact hdust
      have htick := (hsession.tick (((atomicLoop.run (.after calls, g) ops).2.edit
        early).readSensorsFromGrid) 0).getState
      have hstate := List.singleton_inj.mp hanswered
      rw [← hstate]
      show ((simulator.run (atomicLoop.run (.after calls, g) ops).1
        (callsIn before)).tick _ 0).1.getState.lastClean = _
      rw [hservice, htick]
      show (session.tick _ 0).state.lastClean = _
      rw [LiveSession.state_tick_lastClean, hunexpired.boosts hread]
      rfl

/-! ## What becomes of the dust -/

/-- The answer that the event applies. -/
def Tab.applied? (w : Tab) : TabEvent → Option SimulatorState
  | .deliver k => w.replies[k]?.bind Reply.state?
  | _ => none

def Panel.applied? (p : Panel) : PanelEvent → Option SimulatorState
  | .manual e => p.tab.applied? e
  | _ => none

/-- Without resets only answers of ticks change the grid. -/
theorem Tab.handle_grid {w : Tab} (hreset : .reset ∉ w.replies) (e : TabEvent) :
    (w.handle e).page.grid = (w.applied? e).elim w.page.grid w.page.grid.applyTickResult := by
  cases e with
  | clickTick => exact w.runManualTick_grid false
  | timerFires =>
      rw [Tab.handle]
      split
      · exact w.runManualTick_grid false
      · rfl
  | process k =>
      rw [Tab.handle]
      split <;> rfl
  | deliver k =>
      rw [Tab.handle, Tab.applied?]
      cases hr : w.replies[k]? with
      | none => rfl
      | some r =>
          cases r with
          | start =>
              dsimp only
              rw [Tab.resume]
              split
              · exact Tab.runManualTick_grid _ true
              · rfl
          | reset => exact absurd (List.mem_of_getElem? hr) hreset
          | tick state fromStart resets => cases fromStart <;> rfl
  | failPost k =>
      rw [Tab.handle]
      split
      · rfl
      · exact Tab.resumeFailed_grid _ _
  | failReply k =>
      rw [Tab.handle]
      split
      · rfl
      · exact Tab.resumeFailed_grid _ _
  | _ => rfl

namespace Panel.Serial

variable {p : Panel} {start : SimulatorService × Grid} {log : List LogEntry}
  {definitions : List ScenarioDefinition} {e : PanelEvent}

/-- An event that applies an answer does so on the grid. -/
theorem handle_applied (h : p.Serial start log) {state : SimulatorState}
    (happlied : p.applied? e = some state) :
    (p.handle definitions e).grid = p.grid.applyTickResult state := by
  cases e with
  | manual e =>
      have happlied : p.tab.applied? e = some state := happlied
      rw [Panel.handle, handleManual_grid, Tab.handle_grid h.tab.replies, happlied]
      rfl
  | _ => cases happlied

/-- Any other one leaves the dust. -/
theorem handle_dustCells (h : p.Serial start log) (he : e.isPlain = true)
    (hdustless : ∀ c, e ≠ .clickGrid (.dust c)) (happlied : p.applied? e = none) :
    (p.handle definitions e).grid.dustCells = p.grid.dustCells := by
  cases e with
  | manual e =>
      have happlied : p.tab.applied? e = none := happlied
      rw [Panel.handle, handleManual_grid, Tab.handle_grid h.tab.replies, happlied]
      rfl
  | clickGrid c =>
      rw [Panel.handle]
      split
      · cases c with
        | obstacle c => rfl
        | dust c => exact absurd rfl (hdustless c)
      · rfl
  | clickRun ids => cases he
  | listed =>
      rw [Panel.handle]
      split <;> rfl
  | listFails => rfl
  | foreign call =>
      rw [Panel.handle]
      split <;> rfl
  | _ =>
      rw [Panel.handle, h.runs]
      rfl

/-- **One event** adds no dust, and removes it only from under the robot. -/
theorem handle_has (h : p.Serial start log) (he : e.isPlain = true)
    (hdustless : ∀ c, e ≠ .clickGrid (.dust c)) (c : Cell) :
    (p.handle definitions e).grid.dustCells.has c = p.grid.dustCells.has c ∨
      (p.handle definitions e).grid.dustCells.has c = false ∧
        (∃ state, p.applied? e = some state) ∧
        (c = p.grid.robot.cell ∨ c = (p.handle definitions e).grid.robot.cell) := by
  cases happlied : p.applied? e with
  | none => exact .inl (by rw [h.handle_dustCells he hdustless happlied])
  | some state =>
      have hhas := Grid.has_applyTickResult p.grid state c
      have hgrid : (p.handle definitions e).grid = p.grid.applyTickResult state :=
        h.handle_applied happlied
      rw [← hgrid] at hhas
      by_cases hunder : c = p.grid.robot.cell ∨ c = (p.handle definitions e).grid.robot.cell
      · cases hnow : (p.handle definitions e).grid.dustCells.has c with
        | true =>
            rw [hnow] at hhas
            exact .inl (Bool.and_eq_true_iff.mp hhas.symm).1.symm
        | false => exact .inr ⟨rfl, ⟨state, rfl⟩, hunder⟩
      · obtain ⟨hbefore, hafter⟩ := not_or.mp hunder
        rw [decide_eq_false hbefore, decide_eq_false hafter] at hhas
        simp only [Bool.or_false, Bool.and_false, Bool.not_false, Bool.and_true] at hhas
        exact .inl hhas

end Panel.Serial

/-! ## A run -/

section Run

variable {definitions : List ScenarioDefinition} {calls : List SimulatorService.Call} {p₀ : Panel}
  {es : List PanelEvent}

/-- An answer that is applied leaves the cell it finds the robot on clean. -/
theorem applied_clean (hstart : ∃ turnStrategy, .start turnStrategy ∈ calls) (h₀ : p₀.Settled)
    (hservice : p₀.service = .after calls) {before : List PanelEvent} {e : PanelEvent}
    (hplain : ∀ e' ∈ before, e'.isPlain = true)
    (hdustless : ∀ c, .clickGrid (.dust c) ∉ before)
    {state : SimulatorState}
    (happlied : ((wholePage definitions).run p₀ before).applied? e = some state) :
    let p := (wholePage definitions).run p₀ before
    (p.handle definitions e).grid.dustCells.has p.grid.robot.cell = false := by
  intro p
  have hserial : p.Serial (p₀.service, p₀.grid) _ := wholePage_serial definitions h₀ hplain
  have hnone : ∀ c, .aside (.clicked (.dust c)) ∉
      (wholePage definitions).notesAlong Panel.logged p₀ before :=
    fun c hmem => hdustless c (clickGrid_of_clicked hmem)
  rw [hserial.handle_applied happlied, Grid.has_applyTickResult]
  cases hdust : p.grid.dustCells.has p.grid.robot.cell with
  | false => rfl
  | true =>
      have hboost : state.lastClean = .setBoost := by
        cases e with
        | manual e =>
            have happlied : p.tab.applied? e = some state := happlied
            unfold Tab.applied? at happlied
            split at happlied
            · obtain ⟨r, hr, hstate⟩ := Option.bind_eq_some_iff.mp happlied
              cases r with
              | tick state' fromStart resets =>
                  cases hstate
                  have htab := hserial.tab
                  rw [hservice] at htab
                  exact htab.answer_boosts hstart hnone hr hdust
              | _ => cases hstate
            · cases happlied
        | _ => cases happlied
      simp [hboost]

/-- **The page leaves no dust behind.**  On a settled page whose service has
been started, with resets of the page, runs of the panel and new dust left out
but anything in flight and other clients calling whatever they like: a cell on
which an answer has found the robot holds no dust from then on, and no event
takes dust from a cell but the answers from the two the robot stands on before
and after them. -/
theorem page_leaves_no_dust (definitions : List ScenarioDefinition)
    (hstart : ∃ turnStrategy, .start turnStrategy ∈ calls) (h₀ : p₀.Settled)
    (hservice : p₀.service = .after calls) (hplain : ∀ e ∈ es, e.isPlain = true)
    (hdustless : ∀ c, .clickGrid (.dust c) ∉ es) {before rest : List PanelEvent} {e : PanelEvent}
    (hsplit : es = before ++ e :: rest) :
    let run := (wholePage definitions).run p₀
    ((run before).applied? e ≠ none →
        (run es).grid.dustCells.has (run before).grid.robot.cell = false) ∧
      ∀ c, (run (before ++ [e])).grid.dustCells.has c ≠ (run before).grid.dustCells.has c →
        (run before).applied? e ≠ none ∧
          (c = (run before).grid.robot.cell ∨ c = (run (before ++ [e])).grid.robot.cell) := by
  intro run
  have hhere : ∀ {before rest : List PanelEvent} {e : PanelEvent}, es = before ++ e :: rest →
      ∀ c, (run (before ++ [e])).grid.dustCells.has c = (run before).grid.dustCells.has c ∨
        (run (before ++ [e])).grid.dustCells.has c = false ∧
          (∃ state, (run before).applied? e = some state) ∧
          (c = (run before).grid.robot.cell ∨ c = (run (before ++ [e])).grid.robot.cell) := by
    intro before rest e hsplit c
    have hserial : (run before).Serial (p₀.service, p₀.grid) _ :=
      wholePage_serial definitions h₀ fun e' he' => hplain e' (by simp [hsplit, he'])
    have hstep : run (before ++ [e]) = (run before).handle definitions e :=
      (wholePage definitions).run_concat _ _ _
    rw [hstep]
    refine hserial.handle_has (hplain e (by simp [hsplit])) ?_ c
    rintro d rfl
    exact hdustless d (by simp [hsplit])
  refine ⟨?_, ?_⟩
  · intro happlied
    obtain ⟨state, happlied⟩ := Option.ne_none_iff_exists'.mp happlied
    -- clean at once, and no later event brings the dust back
    have hclean : ∀ more, more <+: rest →
        (run (before ++ e :: more)).grid.dustCells.has (run before).grid.robot.cell = false := by
      intro more hmore
      induction more using List.reverseRecOn with
      | nil =>
          have hstep : run (before ++ [e]) = (run before).handle definitions e :=
            (wholePage definitions).run_concat _ _ _
          rw [hstep]
          exact applied_clean hstart h₀ hservice
            (fun e' he' => hplain e' (by simp [hsplit, he']))
            (fun c hc => hdustless c (by simp [hsplit, hc])) happlied
      | append_singleton more x ih =>
          obtain ⟨last, hlast⟩ := hmore
          have hx : es = (before ++ e :: more) ++ x :: last := by
            rw [hsplit, ← hlast]
            simp
          have hbefore := ih ⟨x :: last, by rw [← hlast]; simp⟩
          have hlist : before ++ e :: (more ++ [x]) = (before ++ e :: more) ++ [x] := by simp
          rw [hlist]
          rcases hhere hx (run before).grid.robot.cell with hsame | ⟨hnone, _⟩
          · rw [hsame]
            exact hbefore
          · exact hnone
    rw [hsplit]
    exact hclean rest (List.prefix_refl rest)
  · intro c hne
    rcases hhere hsplit c with hsame | ⟨_, ⟨state, happlied⟩, hunder⟩
    · exact absurd hsame hne
    · refine ⟨?_, hunder⟩
      rw [happlied]
      exact Option.some_ne_none state

end Run

/-- The theorem for a tick on a dusty cell, with another client letting time
pass while it is in flight. -/
theorem page_leaves_no_dust_once :
    ((wholePage getScenarioDefinitions).run
      ((Panel.load 18 12 (.after [.start "prefer_left"])).withGrid
        ((manualWorld 18 12).toggleDustAt (2, 6)))
      [.manual .clickTick, .foreign (.tick {} 5000), .manual (.process 0),
        .manual (.deliver 0)]).grid.dustCells.has (2, 6) = false := by
  have hsettled : ((Panel.load 18 12 (.after [.start "prefer_left"])).withGrid
      ((manualWorld 18 12).toggleDustAt (2, 6))).Settled := ⟨rfl, rfl, rfl, rfl⟩
  have hplain : ∀ e ∈ [PanelEvent.manual .clickTick, .foreign (.tick {} 5000),
      .manual (.process 0)] ++ [.manual (.deliver 0)], e.isPlain = true := by decide
  have hclean := (page_leaves_no_dust getScenarioDefinitions ⟨_, List.mem_singleton.mpr rfl⟩
    hsettled rfl hplain (by simp) rfl).1
  exact hclean (by intro h; cases h)

end RvcControl
