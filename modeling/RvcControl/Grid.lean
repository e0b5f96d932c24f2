import Mathlib
import RvcControl.SimulatorService

/-!
# The grid of the web page

The page has a robot on a grid of cells and computes the sensors from it; what
a tick answers moves the robot and removes dust.  A heading is a number modulo
four, so `(dir + 3) % 4` of the source is `dir + 3` here.

The page's sets of obstacles and of dust hold texts of cells.  `cellKey` is
injective, so a `CellSet` is known by the cells it `has`; everything after
`CellSet.has_toggle` reasons about cells only.
-/

namespace RvcControl

abbrev Cell := Int × Int

def cellKey (c : Cell) : String := c.1.repr ++ "," ++ c.2.repr

/-- An integer is written without commas, so a key tells its two coordinates. -/
theorem comma_notMem_repr (n : Int) : ',' ∉ n.repr.toList := by
  have hnat : ∀ k : Nat, ',' ∉ k.repr.toList := by
    intro k hk
    rw [Nat.repr_eq_ofList_toDigits, String.toList_ofList] at hk
    exact absurd (Nat.isDigit_of_mem_toDigits (by decide) (by decide) hk) (by decide)
  rw [Int.repr_eq_if]
  split
  · exact hnat _
  · rw [String.toList_append, List.mem_append]
    intro h
    rcases h with h | h
    · exact absurd h (by decide)
    · exact hnat _ h

/-- Two cells with one text are one cell: a number has no comma in it. -/
theorem cellKey_injective : Function.Injective cellKey := by
  intro c d h
  have hlist : c.1.repr.toList ++ ',' :: c.2.repr.toList =
      d.1.repr.toList ++ ',' :: d.2.repr.toList := by
    simpa [cellKey] using congrArg String.toList h
  obtain ⟨hx, _, hy⟩ := (List.append_cons_inj_of_notMem (comma_notMem_repr c.1)
    (comma_notMem_repr c.2)).mp hlist
  exact Prod.ext (Int.repr_injective (String.toList_inj.mp hx))
    (Int.repr_injective (String.toList_inj.mp hy))

/-- A set of cells, held as their texts. -/
structure CellSet where
  keys : Finset String := ∅
  deriving DecidableEq

namespace CellSet

def has (s : CellSet) (c : Cell) : Bool := decide (cellKey c ∈ s.keys)

def add (s : CellSet) (c : Cell) : CellSet := ⟨insert (cellKey c) s.keys⟩

def delete (s : CellSet) (c : Cell) : CellSet := ⟨s.keys.erase (cellKey c)⟩

/-- What `toggleObstacleAt` and `toggleDustAt` do to their sets. -/
def toggle (s : CellSet) (c : Cell) : CellSet := if s.has c then s.delete c else s.add c

@[simp] theorem has_delete (s : CellSet) (c d : Cell) :
    (s.delete c).has d = (s.has d && !decide (d = c)) := by
  have hkey : cellKey d = cellKey c ↔ d = c := cellKey_injective.eq_iff
  by_cases h : d = c
  · simp [has, delete, h]
  · simp [has, delete, h, hkey]

@[simp] theorem has_add (s : CellSet) (c d : Cell) :
    (s.add c).has d = (s.has d || decide (d = c)) := by
  have hkey : cellKey d = cellKey c ↔ d = c := cellKey_injective.eq_iff
  by_cases h : d = c
  · simp [has, add, h]
  · simp [has, add, h, hkey]

/-- Other cells stay. -/
theorem has_toggle_of_ne (s : CellSet) {c d : Cell} (h : d ≠ c) :
    (s.toggle c).has d = s.has d := by
  unfold toggle
  split <;> simp [h]

end CellSet

/-- The unit steps, by heading: right, down, left and up on the canvas. -/
def offsets : Fin 4 → Cell
  | 0 => (1, 0)
  | 1 => (0, 1)
  | 2 => (-1, 0)
  | 3 => (0, -1)

/-- The four headings differ. -/
theorem offsets_injective : Function.Injective offsets := by decide

/-- None of them stays on the spot. -/
theorem offsets_ne_zero (dir : Fin 4) : offsets dir ≠ 0 := by
  revert dir
  decide

/-- What a turn adds to the heading. -/
def TurnDirection.quarter : TurnDirection → Fin 4
  | .left => 3
  | .right => 1

/-- Turning one way, the robot comes to face everywhere. -/
theorem TurnDirection.exists_heading (d : TurnDirection) (dir heading : Fin 4) :
    ∃ j < 4, dir + j • d.quarter = heading := by
  cases d <;> revert dir heading <;> decide

/-- The heading it started with is the last to come. -/
theorem TurnDirection.exists_other_heading (d : TurnDirection) {dir heading : Fin 4}
    (h : heading ≠ dir) : ∃ j < 3, dir + (j + 1) • d.quarter = heading := by
  cases d <;> revert dir heading <;> decide

/-- One, two or three turns lead to another heading. -/
theorem TurnDirection.heading_ne (d : TurnDirection) (dir : Fin 4) {j : ℕ} (hj : j < 3) :
    dir + (j + 1) • d.quarter ≠ dir := by
  cases d <;> revert dir <;> interval_cases j <;> decide

structure Robot where
  x : Int
  y : Int
  dir : Fin 4
  deriving DecidableEq, Repr

namespace Robot

def cell (r : Robot) : Cell := (r.x, r.y)

/-- The neighbouring cell in a given direction. -/
def neighbour (r : Robot) (dir : Fin 4) : Cell :=
  (r.x + (offsets dir).1, r.y + (offsets dir).2)

def frontCell (r : Robot) : Cell := r.neighbour r.dir

def leftCell (r : Robot) : Cell := r.neighbour (r.dir + 3)

def rightCell (r : Robot) : Cell := r.neighbour (r.dir + 1)

/-- The cell straight behind, where `MoveBackward` goes. -/
def rearCell (r : Robot) : Cell :=
  (r.x - (offsets r.dir).1, r.y - (offsets r.dir).2)

def moveTo (r : Robot) (c : Cell) : Robot := { r with x := c.1, y := c.2 }

@[simp] theorem moveTo_cell (r : Robot) (c : Cell) : (r.moveTo c).cell = c := rfl

/-- A neighbour is another cell. -/
theorem neighbour_ne_cell (r : Robot) (dir : Fin 4) : r.neighbour dir ≠ r.cell := by
  intro h
  apply offsets_ne_zero dir
  simp only [neighbour, cell, Prod.mk.injEq] at h
  exact Prod.ext (by simp; omega) (by simp; omega)

/-- The four neighbours differ. -/
theorem neighbour_injective (r : Robot) : Function.Injective r.neighbour := by
  intro d e h
  apply offsets_injective
  simp only [neighbour, Prod.mk.injEq] at h
  exact Prod.ext (by omega) (by omega)

/-- The cell behind is the neighbour two headings on. -/
theorem rearCell_eq (r : Robot) : r.rearCell = r.neighbour (r.dir + 2) := by
  obtain ⟨x, y, dir⟩ := r
  fin_cases dir <;> simp [rearCell, neighbour, offsets] <;> rfl

/-- The robot after `k` turns. -/
def turned (r : Robot) (d : TurnDirection) (k : ℕ) : Robot :=
  { r with dir := r.dir + k • d.quarter }

@[simp] theorem turned_zero (r : Robot) (d : TurnDirection) : r.turned d 0 = r := by
  simp [turned]

/-- Turns add up. -/
theorem turned_turned (r : Robot) (d : TurnDirection) (j k : ℕ) :
    (r.turned d j).turned d k = r.turned d (j + k) := by
  simp [turned, add_nsmul, add_assoc]

@[simp] theorem turned_cell (r : Robot) (d : TurnDirection) (k : ℕ) :
    (r.turned d k).cell = r.cell := rfl

@[simp] theorem turned_neighbour (r : Robot) (d : TurnDirection) (k : ℕ) :
    (r.turned d k).neighbour = r.neighbour := rfl

end Robot

/-- The page's world: the grid's size, the robot and the two sets. -/
structure Grid where
  cols : Nat
  rows : Nat
  robot : Robot
  obstacles : CellSet := {}
  dustCells : CellSet := {}
  deriving DecidableEq

namespace Grid

def isBlocked (g : Grid) (c : Cell) : Bool :=
  if c.1 < 0 ∨ c.2 < 0 ∨ c.1 ≥ g.cols ∨ c.2 ≥ g.rows then true
  else g.obstacles.has c

def readSensorsFromGrid (g : Grid) : SensorSnapshot where
  frontBlocked := g.isBlocked g.robot.frontCell
  leftBlocked := g.isBlocked g.robot.leftCell
  rightBlocked := g.isBlocked g.robot.rightCell
  dustDetected := g.dustCells.has g.robot.cell

/-- Go to a cell, unless it is blocked. -/
def tryMove (g : Grid) (c : Cell) : Grid :=
  if !g.isBlocked c then { g with robot := g.robot.moveTo c } else g

def applyMotion (g : Grid) : MotionCommand → Grid
  | .moveForward => g.tryMove g.robot.frontCell
  | .turnLeft => { g with robot := { g.robot with dir := g.robot.dir + 3 } }
  | .turnRight => { g with robot := { g.robot with dir := g.robot.dir + 1 } }
  | .moveBackward => g.tryMove g.robot.rearCell
  | _ => g

/-- The cell the robot stands on is the one it has just moved to. -/
def applyCleaningEffect (g : Grid) (cleanCommand : CleaningCommand) (previousCell : Cell) :
    Grid :=
  if cleanCommand = .setBoost then
    { g with dustCells := (g.dustCells.delete g.robot.cell).delete previousCell }
  else g

def applyTickResult (g : Grid) (state : SimulatorState) : Grid :=
  let previousCell := g.robot.cell
  (g.applyMotion state.lastMotion).applyCleaningEffect state.lastClean previousCell

def toggleObstacleAt (g : Grid) (c : Cell) : Grid :=
  { g with obstacles := g.obstacles.toggle c }

def toggleDustAt (g : Grid) (c : Cell) : Grid :=
  { g with dustCells := g.dustCells.toggle c }

/-! ## What moves and what does not -/

/-- The same walls: the size and the obstacles of two grids. -/
structure SameWalls (g h : Grid) : Prop where
  cols : g.cols = h.cols
  rows : g.rows = h.rows
  obstacles : g.obstacles = h.obstacles

/-- Grids with the same walls block the same cells. -/
theorem SameWalls.isBlocked {g h : Grid} (hw : SameWalls g h) (c : Cell) :
    g.isBlocked c = h.isBlocked c := by
  simp [Grid.isBlocked, hw.cols, hw.rows, hw.obstacles]

theorem SameWalls.trans {g h k : Grid} (hgh : SameWalls g h) (hhk : SameWalls h k) :
    SameWalls g k :=
  ⟨hgh.cols.trans hhk.cols, hgh.rows.trans hhk.rows, hgh.obstacles.trans hhk.obstacles⟩

/-- A motion changes the robot only. -/
theorem applyMotion_frame (g : Grid) (command : MotionCommand) :
    g.applyMotion command = { g with robot := (g.applyMotion command).robot } := by
  cases command <;> simp only [applyMotion, tryMove] <;> split <;> rfl

theorem applyMotion_sameWalls (g : Grid) (command : MotionCommand) :
    SameWalls (g.applyMotion command) g := by
  rw [applyMotion_frame]
  exact ⟨rfl, rfl, rfl⟩

/-- The result of a tick leaves them, too. -/
theorem applyTickResult_sameWalls (g : Grid) (state : SimulatorState) :
    SameWalls (g.applyTickResult state) g := by
  have hmotion := g.applyMotion_sameWalls state.lastMotion
  unfold applyTickResult applyCleaningEffect
  split
  · exact ⟨hmotion.cols, hmotion.rows, hmotion.obstacles⟩
  · exact hmotion

@[simp] theorem applyTickResult_robot (g : Grid) (state : SimulatorState) :
    (g.applyTickResult state).robot = (g.applyMotion state.lastMotion).robot := by
  unfold applyTickResult applyCleaningEffect
  split <;> rfl

/-- The robot on a cell where it may be. -/
def RobotFree (g : Grid) : Prop := g.isBlocked g.robot.cell = false

/-- No command drives the robot into a wall. -/
theorem RobotFree.applyMotion {g : Grid} (h : g.RobotFree) (command : MotionCommand) :
    (g.applyMotion command).RobotFree := by
  have hmove : ∀ c, (g.tryMove c).RobotFree := by
    intro c
    unfold tryMove
    split
    · rename_i hc
      show g.isBlocked c = false
      simpa using hc
    · exact h
  cases command with
  | moveForward => exact hmove _
  | moveBackward => exact hmove _
  | _ => exact h

end Grid

/-! ## The worlds the page sets up -/

namespace Grid

def setupBorders (g : Grid) : Grid :=
  let horizontal := (List.range g.cols).foldl
    (fun s x => (s.add (x, 0)).add (x, (g.rows : Int) - 1)) g.obstacles
  let vertical := (List.range g.rows).foldl
    (fun s y => (s.add (0, y)).add ((g.cols : Int) - 1, y)) horizontal
  { g with obstacles := vertical }

def setupScenarioWorld (g : Grid) (scenarioId : String) : Grid :=
  let g := { g with obstacles := {}, dustCells := {} }.setupBorders
  let row : Int := (g.rows / 2 : ℕ)
  if scenarioId = "manual" then
    { g with
      obstacles := ((g.obstacles.add (10, 6)).add (10, 7)).add (10, 8)
      dustCells := (g.dustCells.add (5, 6)).add (6, 6) }
  else if scenarioId = "forward_cleaning" then g
  else if scenarioId = "front_obstacle" then
    { g with obstacles := g.obstacles.add (3, row) }
  else if scenarioId = "right_turn_obstacle" then
    { g with obstacles := (g.obstacles.add (3, row)).add (2, row - 1) }
  else if scenarioId = "all_sides_blocked" then
    { g with
      obstacles := ((g.obstacles.add (3, row)).add (2, row - 1)).add (2, row + 1) }
  else if scenarioId = "dust_boost" then
    { g with dustCells := g.dustCells.add (3, row) }
  else g

def setupWorld (g : Grid) : Grid := g.setupScenarioWorld "manual"

def resetRobotForScenario (g : Grid) (scenarioId : String) : Grid :=
  { g with
    robot := ⟨if scenarioId = "dust_boost" then 1 else 2, (g.rows / 2 : ℕ), 0⟩ }

def resetRobot (g : Grid) : Grid := g.resetRobotForScenario "manual"

end Grid

/-- The world as the page sets it up when it is loaded. -/
def manualWorld (cols rows : ℕ) : Grid :=
  ({ cols, rows, robot := ⟨2, (rows / 2 : ℕ), 0⟩ } : Grid).setupWorld

/-- What the reset handler does to the grid brings the first world back. -/
theorem resetRobot_setupWorld (g : Grid) :
    g.resetRobot.setupWorld = manualWorld g.cols g.rows := rfl

/-- A loop that adds two cells each time adds all of them. -/
theorem CellSet.has_foldl_add {α : Type*} (f g : α → Cell) (l : List α) (s : CellSet) (c : Cell) :
    (l.foldl (fun s i => (s.add (f i)).add (g i)) s).has c =
      (s.has c || l.any fun i => decide (c = f i) || decide (c = g i)) := by
  induction l generalizing s with
  | nil => simp
  | cons i l ih => simp [ih, Bool.or_assoc]

/-- Between its borders the world has three obstacles. -/
theorem manualWorld_isBlocked {cols rows : ℕ} {c : Cell} (hx : 0 < c.1 ∧ c.1 + 1 < cols)
    (hy : 0 < c.2 ∧ c.2 + 1 < rows) :
    (manualWorld cols rows).isBlocked c =
      (decide (c = (10, 6)) || decide (c = (10, 7)) || decide (c = (10, 8))) := by
  obtain ⟨x, y⟩ := c
  simp only at hx hy
  have hinside : ¬ (x < 0 ∨ y < 0 ∨ x ≥ cols ∨ y ≥ rows) := by omega
  have hhorizontal : ∀ i : ℕ, ¬ (x, y) = ((i : Int), (0 : Int)) ∧
      ¬ (x, y) = ((i : Int), (rows : Int) - 1) := by
    intro i
    simp only [Prod.mk.injEq]
    omega
  have hvertical : ∀ i : ℕ, ¬ (x, y) = ((0 : Int), (i : Int)) ∧
      ¬ (x, y) = ((cols : Int) - 1, (i : Int)) := by
    intro i
    simp only [Prod.mk.injEq]
    omega
  have hnone : ∀ n : ℕ, ((List.range n).any fun _ => false) = false := by simp
  have hempty : ({} : CellSet).has (x, y) = false := rfl
  refine (if_neg hinside).trans ?_
  simp [manualWorld, Grid.setupWorld, Grid.setupScenarioWorld, Grid.setupBorders,
    CellSet.has_foldl_add, hhorizontal, hvertical, hempty, hnone]

/-- The cell in front of the robot of the manual world. -/
theorem manualWorld_frontCell (cols rows : ℕ) :
    (manualWorld cols rows).robot.frontCell = (3, ((rows / 2 : ℕ) : Int)) := rfl

end RvcControl
