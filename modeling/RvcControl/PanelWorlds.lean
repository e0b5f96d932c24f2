import RvcControl.AutoTestPanel
import RvcControl.History

/-!
# The robot that is drawn

The page moves its robot by whatever its ticks answer, sets up worlds under it
for every scenario, and takes it back on a reset, and none of these wait for
each other: a reset of manual mode may be answered in the middle of a scenario,
and a tick of manual mode may move the robot of the panel.  `robot_never_in_a_wall`
says that all the same no sequence of events ever puts the robot into a wall.
-/

namespace RvcControl

/-- The robot stands where it may, on a grid of a given size. -/
structure Grid.Stands (cols rows : ℕ) (g : Grid) : Prop where
  cols : g.cols = cols
  rows : g.rows = rows
  free : g.RobotFree

/-- Adding a cell adds no other. -/
theorem CellSet.has_add_of_ne {s : CellSet} {c d : Cell} (h : s.has c = false) (hne : c ≠ d) :
    (s.add d).has c = false := by
  rw [has_add, h, decide_eq_false hne]
  rfl

namespace Grid

variable {cols rows : ℕ} {g : Grid}

/-- Away from the borders a world has no more obstacles than it says. -/
theorem setupBorders_isBlocked {c : Cell} (hempty : g.obstacles = {})
    (hx : 0 < c.1 ∧ c.1 + 1 < g.cols) (hy : 0 < c.2 ∧ c.2 + 1 < g.rows) :
    g.setupBorders.obstacles.has c = false := by
  obtain ⟨x, y⟩ := c
  simp only at hx hy
  have hhorizontal : ∀ i : ℕ, ¬ (x, y) = ((i : Int), (0 : Int)) ∧
      ¬ (x, y) = ((i : Int), (g.rows : Int) - 1) := by
    intro i
    simp only [Prod.mk.injEq]
    omega
  have hvertical : ∀ i : ℕ, ¬ (x, y) = ((0 : Int), (i : Int)) ∧
      ¬ (x, y) = ((g.cols : Int) - 1, (i : Int)) := by
    intro i
    simp only [Prod.mk.injEq]
    omega
  have hnone : ({} : CellSet).has (x, y) = false := rfl
  simp [setupBorders, CellSet.has_foldl_add, hhorizontal, hvertical, hempty, hnone]

/-- Where the page puts its robot, every world of it is free. -/
theorem scenarioWorld_stands (hcols : 4 ≤ g.cols) (hrows : 3 ≤ g.rows) (scenarioId : String) :
    ((g.setupScenarioWorld scenarioId).resetRobotForScenario scenarioId).Stands g.cols g.rows := by
  let row : Int := (g.rows / 2 : ℕ)
  let borders := ({ g with obstacles := {}, dustCells := {} } : Grid).setupBorders
  have hrow : 0 < row ∧ row + 1 < g.rows := by omega
  have hborders : ∀ x : Int, x = 1 ∨ x = 2 → borders.obstacles.has (x, row) = false := by
    intro x hx
    exact setupBorders_isBlocked rfl (by simp only; omega) hrow
  -- the robot is between the borders, so only the obstacles of the world count
  have hstands : ∀ (obstacles dustCells : CellSet) (x : Int), x = 1 ∨ x = 2 →
      obstacles.has (x, row) = false →
        Stands g.cols g.rows
          { borders with obstacles, dustCells, robot := ⟨x, row, 0⟩ } := by
    intro obstacles dustCells x hx hfree
    refine ⟨rfl, rfl, ?_⟩
    have hinside : ¬ (x < 0 ∨ row < 0 ∨ x ≥ g.cols ∨ row ≥ g.rows) := by omega
    exact (if_neg hinside).trans hfree
  have hone := hborders 1 (.inl rfl)
  have htwo := hborders 2 (.inr rfl)
  have hside : ∀ x y : Int, x ≠ 2 ∨ y ≠ row → ((2, row) : Cell) ≠ (x, y) := by
    intro x y hne
    simp only [ne_eq, Prod.mk.injEq]
    omega
  have hright := hside 3 row (by omega)
  have habove := hside 2 (row - 1) (by omega)
  have hbelow := hside 2 (row + 1) (by omega)
  have hfar : ∀ y : Int, ((2, row) : Cell) ≠ (10, y) := fun y => hside 10 y (by omega)
  unfold setupScenarioWorld resetRobotForScenario
  dsimp only
  split
  · rename_i hid
    subst hid
    exact hstands _ _ 2 (.inr rfl) (CellSet.has_add_of_ne (CellSet.has_add_of_ne
      (CellSet.has_add_of_ne htwo (hfar 6)) (hfar 7)) (hfar 8))
  split
  · rename_i hid
    subst hid
    exact hstands _ _ 2 (.inr rfl) htwo
  split
  · rename_i hid
    subst hid
    exact hstands _ _ 2 (.inr rfl) (CellSet.has_add_of_ne htwo hright)
  split
  · rename_i hid
    subst hid
    exact hstands _ _ 2 (.inr rfl)
      (CellSet.has_add_of_ne (CellSet.has_add_of_ne htwo hright) habove)
  split
  · rename_i hid
    subst hid
    exact hstands _ _ 2 (.inr rfl) (CellSet.has_add_of_ne (CellSet.has_add_of_ne
      (CellSet.has_add_of_ne htwo hright) habove) hbelow)
  split
  · exact hstands _ _ 1 (.inl rfl) hone
  · exact hstands _ _ 2 (.inr rfl) htwo

namespace Stands

/-- A motion keeps the robot out of the walls. -/
theorem applyMotion (h : g.Stands cols rows) (command : MotionCommand) :
    (g.applyMotion command).Stands cols rows := by
  have hwalls := g.applyMotion_sameWalls command
  exact ⟨hwalls.cols.trans h.cols, hwalls.rows.trans h.rows, h.free.applyMotion command⟩

theorem applyTickView (h : g.Stands cols rows) (state : StateView) :
    (g.applyTickView state).Stands cols rows := by
  have hmotion : (g.applyMotionText state.lastMotion).Stands cols rows := by
    unfold applyMotionText
    split
    · exact h.applyMotion _
    split
    · exact h.applyMotion _
    split
    · exact h.applyMotion _
    split
    · exact h.applyMotion _
    · exact h
  unfold Grid.applyTickView
  dsimp only
  split
  · exact ⟨hmotion.cols, hmotion.rows, hmotion.free⟩
  · exact hmotion

theorem applyTickResult (h : g.Stands cols rows) (state : SimulatorState) :
    (g.applyTickResult state).Stands cols rows := by
  rw [← g.applyTickView_view]
  exact h.applyTickView state.view

/-- The world of a scenario has the robot on a free cell. -/
theorem scenarioWorld (h : g.Stands cols rows) (hcols : 4 ≤ cols) (hrows : 3 ≤ rows)
    (scenarioId : String) :
    ((g.setupScenarioWorld scenarioId).resetRobotForScenario scenarioId).Stands cols rows := by
  obtain ⟨rfl, rfl, _⟩ := h
  exact scenarioWorld_stands hcols hrows scenarioId

/-- A click that spares the robot's own cell. -/
theorem click (h : g.Stands cols rows) {c : Click} (hspare : c ≠ .obstacle g.robot.cell) :
    (g.click c).Stands cols rows := by
  have hfree := isBlocked_edit g [c] (d := g.robot.cell) (by simpa [eq_comm] using hspare)
  refine ⟨?_, ?_, ?_⟩
  · cases c <;> exact h.cols
  · cases c <;> exact h.rows
  · show (g.click c).isBlocked (g.click c).robot.cell = false
    rw [click_robot]
    exact hfree.trans h.free

end Stands

/-- The world of a page that has just been loaded, or reset. -/
theorem manualWorld_stands (hcols : 4 ≤ cols) (hrows : 3 ≤ rows) :
    (manualWorld cols rows).Stands cols rows :=
  scenarioWorld_stands (g := { cols, rows, robot := ⟨2, (rows / 2 : ℕ), 0⟩ }) hcols hrows "manual"

end Grid

/-! ## The events -/

section Events

variable {cols rows : ℕ}

/-- Asking for a tick leaves the grid. -/
theorem Tab.runManualTick_grid (w : Tab) (fromStart : Bool) :
    (w.runManualTick fromStart).page.grid = w.page.grid := by
  unfold Tab.runManualTick
  split
  · split <;> rfl
  · rfl

theorem Tab.resumeFailed_grid (w : Tab) (handler : Handler) :
    (w.resumeFailed handler).page.grid = w.page.grid := by
  cases handler with
  | start => rfl
  | reset => rfl
  | manualTick fromStart => cases fromStart <;> rfl

/-- One that goes on keeps the robot out of the walls. -/
theorem Tab.resume_stands {w : Tab} (h : w.page.grid.Stands cols rows) (hcols : 4 ≤ cols)
    (hrows : 3 ≤ rows) (r : Reply) : (w.resume r).page.grid.Stands cols rows := by
  cases r with
  | start =>
      rw [Tab.resume]
      split
      · rw [w.runManualTick_grid]
        exact h
      · exact h
  | reset =>
      have hworld := resetRobot_setupWorld w.page.grid
      rw [h.cols, h.rows] at hworld
      show w.page.grid.resetRobot.setupWorld.Stands cols rows
      rw [hworld]
      exact Grid.manualWorld_stands hcols hrows
  | tick state fromStart resets => cases fromStart <;> exact h.applyTickResult state

/-- **One event** of manual mode. -/
theorem Tab.handle_stands {w : Tab} (h : w.page.grid.Stands cols rows) (hcols : 4 ≤ cols)
    (hrows : 3 ≤ rows) (e : TabEvent) : (w.handle e).page.grid.Stands cols rows := by
  have hticked : (w.runManualTick false).page.grid.Stands cols rows := by
    rw [w.runManualTick_grid]
    exact h
  cases e with
  | clickTick => exact hticked
  | timerFires =>
      rw [Tab.handle]
      split
      · exact hticked
      · exact h
  | process k =>
      rw [Tab.handle]
      split
      · exact h
      · exact h
  | deliver k =>
      rw [Tab.handle]
      split
      · exact h
      · exact Tab.resume_stands (w := { w with replies := w.replies.eraseIdx k }) h hcols hrows _
  | failPost k =>
      rw [Tab.handle]
      split
      · exact h
      · rw [Tab.resumeFailed_grid]
        exact h
  | failReply k =>
      rw [Tab.handle]
      split
      · exact h
      · rw [Tab.resumeFailed_grid]
        exact h
  | _ => exact h

/-- A scenario that goes on does so, too. -/
theorem SingleRun.resume_stands {r r' : SingleRun} {g g' : Grid} (h : g.Stands cols rows)
    (hresume : r.resume g = some (r', g')) : g'.Stands cols rows := by
  unfold SingleRun.resume at hresume
  split at hresume
  · obtain ⟨_, _, heq⟩ := Option.map_eq_some_iff.mp hresume
    cases heq
    exact h
  · obtain ⟨_, _, heq⟩ := Option.map_eq_some_iff.mp hresume
    cases heq
    exact h
  · simp only [Option.bind_eq_bind, Option.bind_eq_some_iff, Option.pure_def,
      Option.some.injEq] at hresume
    obtain ⟨state, _, step, _, heq⟩ := hresume
    cases heq
    exact h.applyTickView state
  · cases hresume

namespace Panel

variable {p : Panel}

theorem visit_stands (h : p.grid.Stands cols rows) (hcols : 4 ≤ cols) (hrows : 3 ≤ rows) (k : ℕ)
    (t : Tour) : (p.visit k t).grid.Stands cols rows :=
  h.scenarioWorld hcols hrows t.single.scenario.id

theorem fetched_stands (h : p.grid.Stands cols rows) (hcols : 4 ≤ cols) (hrows : 3 ≤ rows) (k : ℕ)
    (ids : Option (List String)) (allScenarios : List ScenarioView) :
    (p.fetched k ids allScenarios).grid.Stands cols rows := by
  rw [fetched]
  split
  · exact h
  · exact visit_stands (p := { p with testResults := .preparing }) h hcols hrows k _

/-- The end of one, too. -/
theorem returned_stands (h : p.grid.Stands cols rows) (hcols : 4 ≤ cols) (hrows : 3 ≤ rows) (k : ℕ)
    (t : Tour) : (p.returned k t).grid.Stands cols rows := by
  rw [returned]
  split
  · exact h
  · exact visit_stands h hcols hrows k _

/-- Manual mode changes the grid as on a tab alone. -/
theorem handleManual_grid (e : TabEvent) :
    (p.handleManual e).grid = (p.tab.handle e).page.grid := by
  unfold handleManual
  dsimp only
  split
  · split <;> rfl
  · split <;> rfl
  · rfl

/-- The user does not click an obstacle under the robot. -/
def SparesRobot (p : Panel) : PanelEvent → Prop
  | .clickGrid c => c ≠ .obstacle p.grid.robot.cell
  | _ => True

/-- **One event** leaves the robot where it may stand. -/
theorem step_stands (h : p.grid.Stands cols rows) (hcols : 4 ≤ cols) (hrows : 3 ≤ rows)
    {definitions : List ScenarioDefinition} {e : PanelEvent} (hspare : p.SparesRobot e) {p' : Panel}
    (hstep : p.Step definitions e p') : p'.grid.Stands cols rows := by
  cases hstep with
  | manual e =>
      rw [handleManual_grid]
      exact Tab.handle_stands h hcols hrows e
  | clickGrid => exact h.click hspare
  | beginTour => exact fetched_stands (p := p.beginRun _) h hcols hrows _ _ _
  | catalogue =>
      exact fetched_stands (p := { p with cachedScenarios := some _ }) h hcols hrows _ _ _
  | resume _ hresume => exact SingleRun.resume_stands h hresume
  | returned => exact returned_stands h hcols hrows _ _
  | _ => exact h

end Panel

/-- **The robot is never in a wall.**  On a page of at least four columns and
three rows, in whatever order clicks, ticks of manual mode, resets, scenarios of
the panel and the requests of others follow one another, and whatever the server
answers: unless the user clicks an obstacle right under it, the robot is drawn
on a cell of the grid that is free, in every state of the page. -/
theorem robot_never_in_a_wall (definitions : List ScenarioDefinition) {cols rows : ℕ}
    (hcols : 4 ≤ cols) (hrows : 3 ≤ rows) (service : SimulatorService) (es : List PanelEvent)
    (hspare : History.Historically (fun before e =>
      ((wholePage definitions).run (.load cols rows service) before).SparesRobot e) es) :
    let g := ((wholePage definitions).run (.load cols rows service) es).grid
    g.cols = cols ∧ g.rows = rows ∧ g.isBlocked g.robot.cell = false ∧
      0 ≤ g.robot.x ∧ g.robot.x < cols ∧ 0 ≤ g.robot.y ∧ g.robot.y < rows := by
  intro g
  have hstands : g.Stands cols rows := by
    induction es using List.reverseRecOn with
    | nil => exact Grid.manualWorld_stands hcols hrows
    | append_singleton es e ih =>
        obtain ⟨hes, he⟩ := History.historically_concat.mp hspare
        have hnext : g = ((wholePage definitions).next
            ((wholePage definitions).run (.load cols rows service) es) e).grid := by
          rw [← Mealy.run_concat]
        rw [hnext, wholePage_next]
        exact Panel.step_stands (ih hes) hcols hrows he (Panel.handle_step _ _ e)
  have hfree := hstands.free
  have hinside : ¬ (g.robot.x < 0 ∨ g.robot.y < 0 ∨ g.robot.x ≥ g.cols ∨ g.robot.y ≥ g.rows) := by
    intro hout
    have hblocked : g.isBlocked g.robot.cell = true := if_pos hout
    rw [show g.isBlocked g.robot.cell = false from hfree] at hblocked
    cases hblocked
  rw [hstands.cols, hstands.rows] at hinside
  exact ⟨hstands.cols, hstands.rows, hfree, by omega, by omega, by omega, by omega⟩

/-- The theorem for the page's own canvas, where an obstacle is put in front of
the robot and a reset follows. -/
theorem robot_never_in_a_wall_once :
    let g := ((wholePage getScenarioDefinitions).run (.load 18 12 .new)
      [.clickGrid (.obstacle (3, 6)), .manual .clickReset]).grid
    g.isBlocked g.robot.cell = false := by
  have hspare : History.Historically (fun before e =>
      ((wholePage getScenarioDefinitions).run (.load 18 12 .new) before).SparesRobot e)
      [.clickGrid (.obstacle (3, 6)), .manual .clickReset] := by
    have hbeside : Click.obstacle (3, 6) ≠ .obstacle (2, 6) := by decide
    simp only [History.historically_cons]
    exact ⟨hbeside, trivial, History.historically_nil _⟩
  exact (robot_never_in_a_wall getScenarioDefinitions (by decide) (by decide) .new _ hspare).2.2.1

end Events

end RvcControl
