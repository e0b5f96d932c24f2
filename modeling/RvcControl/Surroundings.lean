import RvcControl.ManualLoop

/-!
# What the robot knows of its world

The page tells the service only what is on the cells around the robot.  So two
rooms in which the robot meets the same cannot be told apart: a room may be laid
over another one, turned and shifted, a wall of the canvas here may be a row of
obstacles there, and away from the robot's way anything may stand and anything
may be clicked.

`Alike` says where the two rooms agree, and `Alike.run` that they go on to agree
as long as what is around the robot is in the region where they do.
-/

namespace RvcControl

/-! ## Laying a room over another -/

/-- A way to lay a room over another: turned by some quarters, then shifted. -/
structure Placement where
  quarters : Fin 4
  shift : Cell

/-- Headings add up as the turns of the plane do. -/
theorem offsets_add (d e : Fin 4) :
    offsets (d + e) =
      ((offsets d).1 * (offsets e).1 - (offsets d).2 * (offsets e).2,
        (offsets d).1 * (offsets e).2 + (offsets d).2 * (offsets e).1) := by
  revert d e
  decide

namespace Placement

variable (φ : Placement)

def cell (c : Cell) : Cell :=
  (c.1 * (offsets φ.quarters).1 - c.2 * (offsets φ.quarters).2 + φ.shift.1,
    c.1 * (offsets φ.quarters).2 + c.2 * (offsets φ.quarters).1 + φ.shift.2)

def robot (r : Robot) : Robot :=
  ⟨(φ.cell r.cell).1, (φ.cell r.cell).2, r.dir + φ.quarters⟩

/-- Different cells are placed differently. -/
theorem cell_injective : Function.Injective φ.cell := by
  intro c d h
  obtain ⟨quarters, shift⟩ := φ
  simp only [cell, Prod.mk.injEq] at h
  fin_cases quarters <;> simp [offsets] at h <;> exact Prod.ext (by omega) (by omega)

theorem cell_eq_iff {c d : Cell} : φ.cell c = φ.cell d ↔ c = d := φ.cell_injective.eq_iff

/-- The robot is placed with its cell. -/
theorem robot_cell (r : Robot) : (φ.robot r).cell = φ.cell r.cell := rfl

theorem robot_moveTo (r : Robot) (c : Cell) :
    (φ.robot r).moveTo (φ.cell c) = φ.robot (r.moveTo c) := rfl

/-- The neighbours are placed with it. -/
theorem robot_neighbour (r : Robot) (d : Fin 4) :
    (φ.robot r).neighbour (d + φ.quarters) = φ.cell (r.neighbour d) := by
  simp only [Robot.neighbour, robot, cell, Robot.cell, offsets_add]
  refine Prod.ext ?_ ?_
  · ring
  · ring

/-- The one in front stays in front. -/
theorem robot_frontCell (r : Robot) : (φ.robot r).frontCell = φ.cell r.frontCell :=
  φ.robot_neighbour r r.dir

/-- The left one stays on the left. -/
theorem robot_leftCell (r : Robot) : (φ.robot r).leftCell = φ.cell r.leftCell := by
  rw [Robot.leftCell, Robot.leftCell, ← robot_neighbour, robot, add_right_comm]

theorem robot_rightCell (r : Robot) : (φ.robot r).rightCell = φ.cell r.rightCell := by
  rw [Robot.rightCell, Robot.rightCell, ← robot_neighbour, robot, add_right_comm]

theorem robot_rearCell (r : Robot) : (φ.robot r).rearCell = φ.cell r.rearCell := by
  rw [Robot.rearCell_eq, Robot.rearCell_eq, ← robot_neighbour, robot, add_right_comm]

end Placement

/-- The robot's cell and the four around it. -/
def Robot.surroundings (r : Robot) : Set Cell := {c | c = r.cell ∨ ∃ d, c = r.neighbour d}

/-- The robot's own cell is among its surroundings. -/
theorem Robot.cell_mem_surroundings (r : Robot) : r.cell ∈ r.surroundings := .inl rfl

theorem Robot.neighbour_mem_surroundings (r : Robot) (d : Fin 4) :
    r.neighbour d ∈ r.surroundings := .inr ⟨d, rfl⟩

theorem Robot.rearCell_mem_surroundings (r : Robot) : r.rearCell ∈ r.surroundings :=
  .inr ⟨_, r.rearCell_eq⟩

/-! ## Rooms that agree on a region -/

/-- The cell is on the canvas. -/
def Grid.OnCanvas (g : Grid) (c : Cell) : Prop :=
  ¬ (c.1 < 0 ∨ c.2 < 0 ∨ c.1 ≥ g.cols ∨ c.2 ≥ g.rows)

/-- A click changes its cell. -/
theorem CellSet.has_toggle_self (s : CellSet) (c : Cell) : (s.toggle c).has c = !s.has c := by
  unfold toggle
  split
  · rename_i hhas
    simp [hhas]
  · rename_i hhas
    simp [hhas]

/-- On the canvas it changes whether the cell is blocked. -/
theorem Grid.isBlocked_toggleObstacleAt_self {g : Grid} {c : Cell} (h : g.OnCanvas c) :
    (g.toggleObstacleAt c).isBlocked c = !g.isBlocked c := by
  have hbefore : g.isBlocked c = g.obstacles.has c := if_neg h
  have hafter : (g.toggleObstacleAt c).isBlocked c = (g.obstacles.toggle c).has c := if_neg h
  rw [hbefore, hafter, CellSet.has_toggle_self]

/-- Other cells stay. -/
theorem Grid.isBlocked_toggleObstacleAt_of_ne (g : Grid) {c d : Cell} (h : d ≠ c) :
    (g.toggleObstacleAt c).isBlocked d = g.isBlocked d := by
  have hrest : Click.obstacle d ∉ [Click.obstacle c] := by simp [h]
  exact g.isBlocked_edit _ hrest

def Click.cell : Click → Cell
  | .obstacle c | .dust c => c

/-- What is clicked in two rooms between two rounds, the second laid under the
first by `φ`: the same on the region, and anything elsewhere. -/
inductive ClicksAlike (φ : Placement) (region : Set Cell) (g g' : Grid) :
    List Click → List Click → Prop
  | nil : ClicksAlike φ region g g' [] []
  | obstacle {c : Cell} {clicks clicks' : List Click} (hcanvas : g.OnCanvas c)
      (hcanvas' : g'.OnCanvas (φ.cell c)) (hrest : ClicksAlike φ region g g' clicks clicks') :
      ClicksAlike φ region g g' (.obstacle c :: clicks) (.obstacle (φ.cell c) :: clicks')
  | dust (c : Cell) {clicks clicks' : List Click}
      (hrest : ClicksAlike φ region g g' clicks clicks') :
      ClicksAlike φ region g g' (.dust c :: clicks) (.dust (φ.cell c) :: clicks')
  | here {x : Click} {clicks clicks' : List Click} (haway : x.cell ∉ region)
      (hrest : ClicksAlike φ region g g' clicks clicks') :
      ClicksAlike φ region g g' (x :: clicks) clicks'
  | there {x : Click} {clicks clicks' : List Click} (haway : ∀ c ∈ region, φ.cell c ≠ x.cell)
      (hrest : ClicksAlike φ region g g' clicks clicks') :
      ClicksAlike φ region g g' clicks (x :: clicks')

structure RoundsAlike (φ : Placement) (region : Set Cell) (g g' : Grid) (e e' : Round) :
    Prop where
  clicks : ClicksAlike φ region g g' e.clicks e'.clicks
  timerAdvance : e.timerAdvance = e'.timerAdvance

/-- The robot stands and heads alike in two rooms, and on the region walls and
dust are the same. -/
structure Alike (φ : Placement) (region : Set Cell) (g g' : Grid) : Prop where
  robot : g'.robot = φ.robot g.robot
  walls : ∀ c ∈ region, g'.isBlocked (φ.cell c) = g.isBlocked c
  dust : ∀ c ∈ region, g'.dustCells.has (φ.cell c) = g.dustCells.has c

namespace Alike

variable {φ : Placement} {region : Set Cell} {g g' : Grid}

/-- A click on an obstacle keeps grids alike. -/
theorem toggleObstacleAt (h : Alike φ region g g') {c : Cell} (hcanvas : g.OnCanvas c)
    (hcanvas' : g'.OnCanvas (φ.cell c)) :
    Alike φ region (g.toggleObstacleAt c) (g'.toggleObstacleAt (φ.cell c)) := by
  refine ⟨h.robot, ?_, h.dust⟩
  intro d hd
  by_cases hdc : d = c
  · subst hdc
    rw [Grid.isBlocked_toggleObstacleAt_self hcanvas, Grid.isBlocked_toggleObstacleAt_self hcanvas',
      h.walls d hd]
  · rw [Grid.isBlocked_toggleObstacleAt_of_ne g hdc,
      Grid.isBlocked_toggleObstacleAt_of_ne g' (mt φ.cell_eq_iff.mp hdc), h.walls d hd]

theorem toggleDustAt (h : Alike φ region g g') (c : Cell) :
    Alike φ region (g.toggleDustAt c) (g'.toggleDustAt (φ.cell c)) := by
  refine ⟨h.robot, h.walls, ?_⟩
  intro d hd
  show (g'.dustCells.toggle (φ.cell c)).has (φ.cell d) = (g.dustCells.toggle c).has d
  by_cases hdc : d = c
  · subst hdc
    rw [CellSet.has_toggle_self, CellSet.has_toggle_self, h.dust d hd]
  · rw [CellSet.has_toggle_of_ne _ hdc, CellSet.has_toggle_of_ne _ (mt φ.cell_eq_iff.mp hdc),
      h.dust d hd]

end Alike

/-- A click leaves the other cells as they are. -/
theorem Grid.click_of_ne (g : Grid) {x : Click} {c : Cell} (h : c ≠ x.cell) :
    (g.click x).isBlocked c = g.isBlocked c ∧ (g.click x).dustCells.has c = g.dustCells.has c := by
  cases x with
  | obstacle d => exact ⟨g.isBlocked_toggleObstacleAt_of_ne h, rfl⟩
  | dust d => exact ⟨rfl, CellSet.has_toggle_of_ne _ h⟩

namespace Alike

variable {φ : Placement} {region : Set Cell} {g g' : Grid}

/-- Clicks that are alike keep the rooms alike.  The canvases are those of the
rooms `k` and `k'` at first. -/
theorem edit {k k' : Grid} (h : Alike φ region g g') (hk : k.OnCanvas = g.OnCanvas)
    (hk' : k'.OnCanvas = g'.OnCanvas) {clicks clicks' : List Click}
    (hclicks : ClicksAlike φ region k k' clicks clicks') :
    Alike φ region (g.edit clicks) (g'.edit clicks') := by
  induction hclicks generalizing g g' with
  | nil => exact h
  | obstacle hcanvas hcanvas' _ ih =>
      rw [hk] at hcanvas
      rw [hk'] at hcanvas'
      exact ih (h.toggleObstacleAt hcanvas hcanvas') hk hk'
  | dust c _ ih => exact ih (h.toggleDustAt c) hk hk'
  | @here x _ _ haway _ ih =>
      have hclick : Alike φ region (g.click x) g' := by
        refine ⟨by rw [Grid.click_robot, h.robot], ?_, ?_⟩
        · intro c hc
          have hne : c ≠ x.cell := fun heq => haway (heq ▸ hc)
          rw [(g.click_of_ne hne).1, h.walls c hc]
        · intro c hc
          have hne : c ≠ x.cell := fun heq => haway (heq ▸ hc)
          rw [(g.click_of_ne hne).2, h.dust c hc]
      have hcanvas : k.OnCanvas = (g.click x).OnCanvas := by
        cases x <;> exact hk
      exact ih hclick hcanvas hk'
  | @there x _ _ haway _ ih =>
      have hclick : Alike φ region g (g'.click x) := by
        refine ⟨by rw [Grid.click_robot, h.robot], ?_, ?_⟩
        · intro c hc
          rw [(g'.click_of_ne (haway c hc)).1, h.walls c hc]
        · intro c hc
          rw [(g'.click_of_ne (haway c hc)).2, h.dust c hc]
      have hcanvas : k'.OnCanvas = (g'.click x).OnCanvas := by
        cases x <;> exact hk'
      exact ih hclick hk hcanvas

/-! ### One round -/

/-- Alike around the robot, they read alike. -/
theorem sensors (h : Alike φ region g g') (hnear : g.robot.surroundings ⊆ region) :
    g'.readSensorsFromGrid = g.readSensorsFromGrid := by
  have hneighbour : ∀ d, g.robot.neighbour d ∈ region :=
    fun d => hnear (g.robot.neighbour_mem_surroundings d)
  unfold Grid.readSensorsFromGrid
  rw [h.robot, φ.robot_frontCell, φ.robot_leftCell, φ.robot_rightCell, φ.robot_cell,
    h.walls g.robot.frontCell (hneighbour _), h.walls g.robot.leftCell (hneighbour _),
    h.walls g.robot.rightCell (hneighbour _), h.dust _ (hnear g.robot.cell_mem_surroundings)]

/-- The robot may be put elsewhere on both. -/
theorem withRobot (h : Alike φ region g g') (r : Robot) :
    Alike φ region { g with robot := r } { g' with robot := φ.robot r } :=
  ⟨rfl, h.walls, h.dust⟩

/-- A move within the region is made on both or on none. -/
theorem tryMove (h : Alike φ region g g') {c : Cell} (hc : c ∈ region) :
    Alike φ region (g.tryMove c) (g'.tryMove (φ.cell c)) := by
  unfold Grid.tryMove
  rw [h.walls c hc, h.robot, φ.robot_moveTo]
  split
  · exact h.withRobot _
  · exact h

/-- A motion keeps them alike. -/
theorem applyMotion (h : Alike φ region g g') (hnear : g.robot.surroundings ⊆ region)
    (command : MotionCommand) : Alike φ region (g.applyMotion command) (g'.applyMotion command) := by
  have hturn : ∀ quarter : Fin 4,
      Alike φ region { g with robot := { g.robot with dir := g.robot.dir + quarter } }
        { g' with robot := { g'.robot with dir := g'.robot.dir + quarter } } := by
    intro quarter
    have hrobot := h.withRobot { g.robot with dir := g.robot.dir + quarter }
    rw [h.robot]
    rw [Placement.robot, add_right_comm] at hrobot
    exact hrobot
  cases command with
  | moveForward =>
      have hfront := h.tryMove (hnear (g.robot.neighbour_mem_surroundings g.robot.dir))
      simp only [Grid.applyMotion, h.robot, φ.robot_frontCell]
      exact hfront
  | moveBackward =>
      have hrear := h.tryMove (hnear g.robot.rearCell_mem_surroundings)
      simp only [Grid.applyMotion, h.robot, φ.robot_rearCell]
      exact hrear
  | turnLeft => exact hturn _
  | turnRight => exact hturn _
  | _ => exact h

/-- Where the first robot cleans, so does the second. -/
theorem applyCleaningEffect (h : Alike φ region g g') (command : CleaningCommand) (c : Cell) :
    Alike φ region (g.applyCleaningEffect command c)
      (g'.applyCleaningEffect command (φ.cell c)) := by
  unfold Grid.applyCleaningEffect
  split
  · refine ⟨h.robot, h.walls, ?_⟩
    intro d hd
    simp only [CellSet.has_delete, h.robot, φ.robot_cell, φ.cell_eq_iff, h.dust d hd]
  · exact h

theorem applyTickResult (h : Alike φ region g g') (hnear : g.robot.surroundings ⊆ region)
    (state : SimulatorState) : Alike φ region (g.applyTickResult state) (g'.applyTickResult state) := by
  have happlied := (h.applyMotion hnear state.lastMotion).applyCleaningEffect state.lastClean
    g.robot.cell
  unfold Grid.applyTickResult
  rw [h.robot]
  exact happlied

/-- **One round.**  What the robot meets is the same, so the service answers the
same and the rooms stay alike. -/
theorem round {k k' : Grid} {s : SimulatorService} (h : Alike φ region g g')
    (hk : k.OnCanvas = g.OnCanvas) (hk' : k'.OnCanvas = g'.OnCanvas) {e e' : Round}
    (he : RoundsAlike φ region k k' e e') (hnear : g.robot.surroundings ⊆ region) :
    manualLoop.out (s, g) e = manualLoop.out (s, g') e' ∧
      (manualLoop.next (s, g) e).1 = (manualLoop.next (s, g') e').1 ∧
      Alike φ region (manualLoop.next (s, g) e).2 (manualLoop.next (s, g') e').2 := by
  have hedited := h.edit hk hk' he.clicks
  have hsurroundings : (g.edit e.clicks).robot.surroundings ⊆ region := by
    rw [Grid.edit_robot]
    exact hnear
  have htick : s.tick (g'.edit e'.clicks).readSensorsFromGrid e'.timerAdvance =
      s.tick (g.edit e.clicks).readSensorsFromGrid e.timerAdvance := by
    rw [hedited.sensors hsurroundings, he.timerAdvance]
  have happlied := hedited.applyTickResult hsurroundings
    (s.tick (g.edit e.clicks).readSensorsFromGrid e.timerAdvance).2
  refine ⟨?_, ?_, ?_⟩
  · show (s.tick _ _).2 = (s.tick _ _).2
    rw [htick]
  · show (s.tick _ _).1 = (s.tick _ _).1
    rw [htick]
  · show Alike φ region _ ((g'.edit e'.clicks).applyTickResult (s.tick _ _).2)
    rw [htick]
    exact happlied

end Alike

/-- Clicks leave the canvas. -/
theorem Grid.onCanvas_edit (g : Grid) (clicks : List Click) :
    (g.edit clicks).OnCanvas = g.OnCanvas := by
  induction clicks generalizing g with
  | nil => rfl
  | cons x clicks ih =>
      rw [Grid.edit_cons, ih]
      cases x <;> rfl

theorem onCanvas_next (st : SimulatorService × Grid) (e : Round) :
    (manualLoop.next st e).2.OnCanvas = st.2.OnCanvas := by
  have hwalls := (st.2.edit e.clicks).applyTickResult_sameWalls (manualLoop.out st e)
  have hnext : (manualLoop.next st e).2.OnCanvas = (st.2.edit e.clicks).OnCanvas := by
    unfold Grid.OnCanvas
    rw [← hwalls.cols, ← hwalls.rows]
    rfl
  rw [hnext, Grid.onCanvas_edit]

/-! ## Whole runs -/

/-- What is around the robot before the round is in the region. -/
def StaysIn (region : Set Cell) (start : SimulatorService × Grid) (before : List Round)
    (_ : Round) : Prop :=
  (manualLoop.run start before).2.robot.surroundings ⊆ region

/-- **Every run** within the region: the same answers, and grids that stay
alike. -/
theorem Alike.run {φ : Placement} {region : Set Cell} {k k' g g' : Grid} {s : SimulatorService}
    (h : Alike φ region g g') (hk : k.OnCanvas = g.OnCanvas) (hk' : k'.OnCanvas = g'.OnCanvas)
    {es es' : List Round} (hes : List.Forall₂ (RoundsAlike φ region k k') es es')
    (hstays : History.Historically (StaysIn region (s, g)) es) :
    manualLoop.outputs (s, g) es = manualLoop.outputs (s, g') es' ∧
      (manualLoop.run (s, g) es).1 = (manualLoop.run (s, g') es').1 ∧
      Alike φ region (manualLoop.run (s, g) es).2 (manualLoop.run (s, g') es').2 := by
  induction hes generalizing s g g' with
  | nil => exact ⟨rfl, rfl, h⟩
  | @cons e e' es es' he _ ih =>
      obtain ⟨hnear, hlater⟩ := History.historically_cons.mp hstays
      obtain ⟨hout, hservice, hnext⟩ := h.round (s := s) hk hk' he hnear
      have hcanvas : k.OnCanvas = (manualLoop.next (s, g) e).2.OnCanvas :=
        hk.trans (onCanvas_next (s, g) e).symm
      have hcanvas' : k'.OnCanvas = (manualLoop.next (s, g') e').2.OnCanvas :=
        hk'.trans (onCanvas_next (s, g') e').symm
      obtain ⟨houts, hrun⟩ := ih (s := (manualLoop.next (s, g) e).1) hnext hcanvas hcanvas' hlater
      have hstart : manualLoop.next (s, g') e' =
          ((manualLoop.next (s, g) e).1, (manualLoop.next (s, g') e').2) := by
        rw [hservice]
      rw [Mealy.outputs_cons, Mealy.outputs_cons, Mealy.run_cons, Mealy.run_cons, hout, hstart]
      exact ⟨congrArg _ houts, hrun⟩

/-- **The robot knows only what is around it.**  Lay one room over another, in
any of the four directions, so that the robots stand and head alike and that on
a region of cells walls and dust are the same.  In both let rounds go on, in
which on the region the same is clicked and elsewhere anything.  As long as the
first robot has only cells of the region around it, the services answer the same
in every round, and after it they are the same, the robots stand and head alike
and the rooms are the same on the region. -/
theorem robot_knows_its_surroundings (φ : Placement) (region : Set Cell) (s : SimulatorService)
    {g g' : Grid} (h : Alike φ region g g') {es es' : List Round}
    (hes : List.Forall₂ (RoundsAlike φ region g g') es es')
    (hstays : ∀ before e after, es = before ++ e :: after →
      (manualLoop.run (s, g) before).2.robot.surroundings ⊆ region) :
    manualLoop.outputs (s, g) es = manualLoop.outputs (s, g') es' ∧
      (manualLoop.run (s, g) es).1 = (manualLoop.run (s, g') es').1 ∧
      Alike φ region (manualLoop.run (s, g) es).2 (manualLoop.run (s, g') es').2 :=
  h.run rfl rfl hes hstays

/-- The theorem for a room of three by three cells and the same room turned by a
quarter, with dust put into a corner. -/
theorem robot_knows_its_surroundings_once :
    manualLoop.outputs (.after [.start "prefer_left"], { cols := 3, rows := 3, robot := ⟨1, 1, 0⟩ })
        [{ clicks := [.dust (0, 0)] }] =
      manualLoop.outputs
        (.after [.start "prefer_left"], { cols := 3, rows := 3, robot := ⟨1, 1, 1⟩ })
        [{ clicks := [.dust (2, 0)] }] := by
  have halike : Alike ⟨1, (2, 0)⟩ Set.univ { cols := 3, rows := 3, robot := ⟨1, 1, 0⟩ }
      { cols := 3, rows := 3, robot := ⟨1, 1, 1⟩ } := by
    refine ⟨rfl, ?_, fun _ _ => rfl⟩
    rintro ⟨x, y⟩ _
    have hturned : (2 - y < 0 ∨ x < 0 ∨ 2 - y ≥ 3 ∨ x ≥ 3) ↔
        (x < 0 ∨ y < 0 ∨ x ≥ 3 ∨ y ≥ 3) := by omega
    have hcell : (⟨1, (2, 0)⟩ : Placement).cell (x, y) = (2 - y, x) := by
      simp [Placement.cell, offsets]
      omega
    rw [hcell]
    exact if_congr hturned rfl rfl
  have hrounds : List.Forall₂ (RoundsAlike ⟨1, (2, 0)⟩ Set.univ
      { cols := 3, rows := 3, robot := ⟨1, 1, 0⟩ } { cols := 3, rows := 3, robot := ⟨1, 1, 1⟩ })
      [{ clicks := [.dust (0, 0)] }] [{ clicks := [.dust (2, 0)] }] :=
    .cons ⟨.dust (0, 0) .nil, rfl⟩ .nil
  exact (robot_knows_its_surroundings _ _ _ halike hrounds fun _ _ _ _ => Set.subset_univ _).1

end RvcControl
