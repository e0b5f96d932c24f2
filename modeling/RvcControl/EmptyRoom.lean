import RvcControl.Circling
import RvcControl.Mirror

/-!
# An empty room

In a room without obstacles the robot drives straight on to the wall, and then
it follows the walls for ever.  So of the inside it cleans nothing but the way to
the wall, however long it runs; and with both strategies it does come by every
cell along the walls.

That it never leaves them is a matter of a single step and holds whatever
direction is chosen for a turn.  That it gets everywhere takes four legs along
the walls, from one corner to the next.
-/

namespace RvcControl

/-- The walls around a room without obstacles. -/
def roomWalls (cols rows : ℕ) (c : Cell) : Bool :=
  decide (c.1 < 0 ∨ c.2 < 0 ∨ c.1 ≥ cols ∨ c.2 ≥ rows)

/-- The cells of a room. -/
theorem roomWalls_eq_false {cols rows : ℕ} {c : Cell} :
    roomWalls cols rows c = false ↔ (0 ≤ c.1 ∧ c.1 < cols) ∧ 0 ≤ c.2 ∧ c.2 < rows := by
  rw [roomWalls, decide_eq_false_iff_not]
  omega

/-- The walls around it. -/
theorem roomWalls_eq_true {cols rows : ℕ} {c : Cell} :
    roomWalls cols rows c = true ↔ c.1 < 0 ∨ c.2 < 0 ∨ c.1 ≥ cols ∨ c.2 ≥ rows :=
  decide_eq_true_iff

/-- In an empty room only the walls block. -/
theorem Grid.isBlocked_empty (cols rows : ℕ) (robot : Robot) (dustCells : CellSet) :
    ({ cols, rows, robot, dustCells } : Grid).isBlocked = roomWalls cols rows := by
  funext c
  by_cases hout : c.1 < 0 ∨ c.2 < 0 ∨ c.1 ≥ cols ∨ c.2 ≥ rows
  · exact (if_pos hout).trans (roomWalls_eq_true.mpr hout).symm
  · exact (if_neg hout).trans (decide_eq_false hout).symm

/-- The cell lies along a wall. -/
def Border (cols rows : ℕ) (c : Cell) : Prop :=
  c.1 = 0 ∨ c.2 = 0 ∨ c.1 + 1 = cols ∨ c.2 + 1 = rows

namespace Robot

/-- The robot `k` cells further on. -/
def forward (r : Robot) (k : ℕ) : Robot :=
  { r with x := r.x + k * (offsets r.dir).1, y := r.y + k * (offsets r.dir).2 }

@[simp] theorem forward_zero (r : Robot) : r.forward 0 = r := by
  simp [forward]

/-- One step further ahead. -/
theorem forward_succ (r : Robot) (k : ℕ) :
    r.forward (k + 1) = (r.forward k).moveTo (r.forward k).frontCell := by
  simp only [forward, moveTo, frontCell, neighbour, mk.injEq, and_true]
  push_cast
  constructor <;> ring

/-- The cell on one side. -/
def sideCell (r : Robot) (d : TurnDirection) : Cell := (r.turned d 1).frontCell

theorem sideCell_left (r : Robot) : r.sideCell .left = r.leftCell := by
  simp [sideCell, turned, frontCell, leftCell, neighbour, TurnDirection.quarter]

theorem sideCell_right (r : Robot) : r.sideCell .right = r.rightCell := by
  simp [sideCell, turned, frontCell, rightCell, neighbour, TurnDirection.quarter]

end Robot

/-! ## Along the walls -/

section Room

variable {cols rows : ℕ} {r : Robot}

/-- A wall ahead goes on to both sides. -/
theorem side_of_wall (hcell : roomWalls cols rows r.cell = false)
    (hfront : roomWalls cols rows r.frontCell = true) (d : TurnDirection) :
    roomWalls cols rows (r.sideCell d) = true ∨ Border cols rows (r.sideCell d) := by
  rw [roomWalls_eq_true, Border]
  rw [roomWalls_eq_false] at hcell
  rw [roomWalls_eq_true] at hfront
  obtain ⟨x, y, dir⟩ := r
  cases d <;> fin_cases dir <;>
    simp [Robot.cell, Robot.sideCell, Robot.turned, Robot.frontCell, Robot.neighbour, offsets,
      TurnDirection.quarter] at hcell hfront ⊢ <;> omega

/-- A robot that drives onto a cell along a wall has a wall or another such cell
before it. -/
theorem front_of_border (hcell : roomWalls cols rows r.cell = false)
    (hborder : Border cols rows r.frontCell) :
    roomWalls cols rows (r.moveTo r.frontCell).frontCell = true ∨
      Border cols rows (r.moveTo r.frontCell).frontCell := by
  rw [roomWalls_eq_true]
  rw [roomWalls_eq_false] at hcell
  unfold Border at hborder ⊢
  obtain ⟨x, y, dir⟩ := r
  fin_cases dir <;>
    simp [Robot.cell, Robot.moveTo, Robot.frontCell, Robot.neighbour, offsets]
      at hcell hborder ⊢ <;> omega

/-- Between two walls all cells lie along them. -/
theorem go_rear_of_lane (hcell : roomWalls cols rows r.cell = false)
    (hside : ∀ d, roomWalls cols rows (r.sideCell d) = true) :
    Border cols rows (r.go (roomWalls cols rows) r.rearCell).cell ∧
      ∀ d, roomWalls cols rows ((r.go (roomWalls cols rows) r.rearCell).sideCell d) = true := by
  have hboth := fun d => roomWalls_eq_true.mp (hside d)
  have hleft := hboth .left
  have hright := hboth .right
  have hmoved : Border cols rows (r.moveTo r.rearCell).cell ∧
      ∀ d, roomWalls cols rows ((r.moveTo r.rearCell).sideCell d) = true := by
    simp only [roomWalls_eq_true]
    rw [roomWalls_eq_false] at hcell
    unfold Border
    obtain ⟨x, y, dir⟩ := r
    refine ⟨?_, ?_⟩
    · fin_cases dir <;>
        simp [Robot.cell, Robot.sideCell, Robot.turned, Robot.frontCell, Robot.neighbour,
          Robot.moveTo, Robot.rearCell, offsets, TurnDirection.quarter]
          at hcell hleft hright ⊢ <;> omega
    · intro d
      cases d <;> fin_cases dir <;>
        simp [Robot.cell, Robot.sideCell, Robot.turned, Robot.frontCell, Robot.neighbour,
          Robot.moveTo, Robot.rearCell, offsets, TurnDirection.quarter]
          at hcell hleft hright ⊢ <;> omega
  unfold Robot.go
  split
  · refine ⟨?_, hside⟩
    rw [roomWalls_eq_false] at hcell
    unfold Border
    obtain ⟨x, y, dir⟩ := r
    fin_cases dir <;>
      simp [Robot.cell, Robot.sideCell, Robot.turned, Robot.frontCell, Robot.neighbour,
        offsets, TurnDirection.quarter] at hcell hleft hright ⊢ <;> omega
  · exact hmoved

/-- A robot with a wall in front is at the border. -/
theorem border_of_front (hcell : roomWalls cols rows r.cell = false)
    (hfront : roomWalls cols rows r.frontCell = true) : Border cols rows r.cell := by
  rw [roomWalls_eq_false] at hcell
  rw [roomWalls_eq_true] at hfront
  unfold Border
  obtain ⟨x, y, dir⟩ := r
  fin_cases dir <;>
    simp [Robot.cell, Robot.frontCell, Robot.neighbour, offsets] at hcell hfront ⊢ <;> omega

/-- What a robot that follows the walls has before it, by its phase. -/
def Faces (cols rows : ℕ) (r : Robot) : MotionPhase → Prop
  | .stopped => roomWalls cols rows r.frontCell = true
  | .backedUp => ∀ d, roomWalls cols rows (r.sideCell d) = true
  | _ => roomWalls cols rows r.frontCell = true ∨ Border cols rows r.frontCell

/-- The robot follows the walls. -/
structure Along (cols rows : ℕ) (q : MotionPhase × Robot) : Prop where
  free : roomWalls cols rows q.2.cell = false
  border : Border cols rows q.2.cell
  faces : Faces cols rows q.2 q.1

/-- A robot that meets a wall stops at it, or backs up between two walls. -/
theorem along_of_wall (hcell : roomWalls cols rows r.cell = false)
    (hfront : roomWalls cols rows r.frontCell = true) (choice : TurnDirection) :
    Along cols rows ((roaming (roomWalls cols rows)).next (.cruising, r) choice) := by
  have hfree := Robot.obey_free hcell (MotionPhase.cruising.next
    (r.look (roomWalls cols rows)) choice).command
  by_cases hside : ∀ d, roomWalls cols rows (r.sideCell d) = true
  · have hleft := r.sideCell_left ▸ hside .left
    have hright := r.sideCell_right ▸ hside .right
    have hnext := (roaming_backUp choice hfront hleft hright).1
    obtain ⟨hborder, hlane⟩ := go_rear_of_lane hcell hside
    refine ⟨hfree, ?_, ?_⟩
    · rw [hnext]
      exact hborder
    · rw [hnext]
      exact hlane
  · have hopen : roomWalls cols rows r.leftCell = false ∨
        roomWalls cols rows r.rightCell = false := by
      obtain ⟨d, hd⟩ := not_forall.mp hside
      rw [Bool.not_eq_true] at hd
      cases d with
      | left => exact .inl (r.sideCell_left ▸ hd)
      | right => exact .inr (r.sideCell_right ▸ hd)
    have hnext := (roaming_stop choice hfront hopen).1
    rw [hnext]
    exact ⟨hcell, border_of_front hcell hfront, hfront⟩

/-- **One step along the walls**, whatever direction is chosen. -/
theorem Along.next {q : MotionPhase × Robot} (h : Along cols rows q) (choice : TurnDirection) :
    Along cols rows ((roaming (roomWalls cols rows)).next q choice) := by
  obtain ⟨p, r⟩ := q
  have hcell := h.free
  have hfaces := h.faces
  have hforward : p ≠ .stopped ∧ p ≠ .backedUp → Border cols rows r.frontCell →
      roomWalls cols rows r.frontCell = false →
        Along cols rows ((roaming (roomWalls cols rows)).next (p, r) choice) := by
    intro hp hborder hclear
    rw [(roaming_forward choice hp hclear).1]
    exact ⟨hclear, hborder, front_of_border hcell hborder⟩
  cases p with
  | cruising =>
      cases hfront : roomWalls cols rows r.frontCell with
      | true => exact along_of_wall hcell hfront choice
      | false =>
          rcases hfaces with hblocked | hborder
          · rw [hfront] at hblocked
            cases hblocked
          · exact hforward ⟨nofun, nofun⟩ hborder hfront
  | stopped =>
      rw [(roaming_halted choice (.inl rfl)).1]
      exact ⟨hcell, h.border, side_of_wall hcell hfaces choice⟩
  | backedUp =>
      rw [(roaming_halted choice (.inr rfl)).1]
      exact ⟨hcell, h.border, .inl (hfaces choice)⟩
  | turning d =>
      cases hfront : roomWalls cols rows r.frontCell with
      | true =>
          rw [(roaming_turning choice hfront).1]
          exact ⟨hcell, h.border, side_of_wall hcell hfront d⟩
      | false =>
          rcases hfaces with hblocked | hborder
          · rw [hfront] at hblocked
            cases hblocked
          · exact hforward ⟨nofun, nofun⟩ hborder hfront

/-- The robot is on its way to the wall, or follows the walls. -/
inductive OnTheWay (cols rows : ℕ) (r : Robot) : MotionPhase × Robot → Prop
  | ahead (k : ℕ) (h : roomWalls cols rows (r.forward k).cell = false) :
      OnTheWay cols rows r (.cruising, r.forward k)
  | along {q : MotionPhase × Robot} (h : Along cols rows q) : OnTheWay cols rows r q

/-- A round keeps the robot on its way. -/
theorem OnTheWay.next {q : MotionPhase × Robot} (h : OnTheWay cols rows r q)
    (choice : TurnDirection) :
    OnTheWay cols rows r ((roaming (roomWalls cols rows)).next q choice) := by
  cases h with
  | ahead k hcell =>
      cases hfront : roomWalls cols rows (r.forward k).frontCell with
      | true => exact .along (along_of_wall hcell hfront choice)
      | false =>
          rw [(roaming_forward (p := .cruising) choice ⟨nofun, nofun⟩ hfront).1, ← Robot.forward_succ]
          refine .ahead (k + 1) ?_
          rw [Robot.forward_succ]
          exact hfront
  | along halong => exact .along (halong.next choice)

/-- A cell on the straight way of the robot, or along a wall. -/
def Reached (cols rows : ℕ) (r : Robot) (c : Cell) : Prop :=
  roomWalls cols rows c = false ∧ (Border cols rows c ∨ ∃ k, (r.forward k).cell = c)

/-- So it stands on a cell ahead of where it began, or along a wall. -/
theorem OnTheWay.reached {q : MotionPhase × Robot} (h : OnTheWay cols rows r q) :
    Reached cols rows r q.2.cell := by
  cases h with
  | ahead k hcell => exact ⟨hcell, .inr ⟨k, rfl⟩⟩
  | along halong => exact ⟨halong.free, .inl halong.border⟩

end Room

/-! ## Everywhere along the walls -/

section Corners

variable {cols rows : ℕ} (hcols : 2 ≤ cols) (hrows : 2 ≤ rows) {r : Robot}

/-- The way ahead ends at a wall. -/
theorem exists_ahead (hcell : roomWalls cols rows r.cell = false) :
    ∃ k, roomWalls cols rows (r.forward k).cell = false ∧
      roomWalls cols rows (r.forward k).frontCell = true ∧
      ∀ j < k, roomWalls cols rows (r.forward j).frontCell = false := by
  simp only [roomWalls_eq_false, roomWalls_eq_true] at hcell ⊢
  obtain ⟨x, y, dir⟩ := r
  simp only [Robot.cell] at hcell
  fin_cases dir
  · refine ⟨(cols - 1 - x).toNat, ?_, ?_, fun j hj => ?_⟩ <;>
      simp [Robot.cell, Robot.forward, Robot.frontCell, Robot.neighbour, offsets] <;> omega
  · refine ⟨(rows - 1 - y).toNat, ?_, ?_, fun j hj => ?_⟩ <;>
      simp [Robot.cell, Robot.forward, Robot.frontCell, Robot.neighbour, offsets] <;> omega
  · refine ⟨x.toNat, ?_, ?_, fun j hj => ?_⟩ <;>
      simp [Robot.cell, Robot.forward, Robot.frontCell, Robot.neighbour, offsets] <;> omega
  · refine ⟨y.toNat, ?_, ?_, fun j hj => ?_⟩ <;>
      simp [Robot.cell, Robot.forward, Robot.frontCell, Robot.neighbour, offsets] <;> omega

include hcols hrows in
/-- In a room two cells wide there is no wall on both sides. -/
theorem other_side_free (hcell : roomWalls cols rows r.cell = false) {s : TurnDirection}
    (hside : roomWalls cols rows (r.sideCell s) = true) :
    roomWalls cols rows (r.sideCell s.other) = false := by
  rw [roomWalls_eq_false] at hcell ⊢
  rw [roomWalls_eq_true] at hside
  obtain ⟨x, y, dir⟩ := r
  cases s <;> fin_cases dir <;>
    simp [Robot.cell, Robot.sideCell, Robot.turned, Robot.frontCell, Robot.neighbour, offsets,
      TurnDirection.quarter, TurnDirection.other] at hcell hside ⊢ <;> omega

include hcols hrows in
/-- In a room that is no corridor a robot that faces a wall has none behind it. -/
theorem rear_free (hcell : roomWalls cols rows r.cell = false)
    (hfront : roomWalls cols rows r.frontCell = true) :
    roomWalls cols rows r.rearCell = false := by
  rw [roomWalls_eq_false] at hcell ⊢
  rw [roomWalls_eq_true] at hfront
  obtain ⟨x, y, dir⟩ := r
  fin_cases dir <;>
    simp [Robot.cell, Robot.frontCell, Robot.neighbour, Robot.rearCell, offsets]
      at hcell hfront ⊢ <;> omega

/-- Along a wall the wall stays at the side. -/
theorem side_forward (hcell : roomWalls cols rows r.cell = false) {s : TurnDirection}
    (hside : roomWalls cols rows (r.sideCell s) = true) (k : ℕ) :
    roomWalls cols rows ((r.forward k).sideCell s) = true := by
  rw [roomWalls_eq_false] at hcell
  rw [roomWalls_eq_true] at hside ⊢
  obtain ⟨x, y, dir⟩ := r
  cases s <;> fin_cases dir <;>
    simp [Robot.cell, Robot.sideCell, Robot.turned, Robot.frontCell, Robot.neighbour, offsets,
      TurnDirection.quarter, Robot.forward] at hcell hside ⊢ <;> omega

/-- From the corner behind it, every cell along the wall is ahead. -/
theorem exists_forward (hcell : roomWalls cols rows r.cell = false)
    (hrear : roomWalls cols rows r.rearCell = true) {s : TurnDirection}
    (hside : roomWalls cols rows (r.sideCell s) = true) {c : Cell}
    (hc : roomWalls cols rows c = false)
    (hcside : roomWalls cols rows ((r.moveTo c).sideCell s) = true) :
    ∃ k, (r.forward k).cell = c ∧
      ∀ j < k, roomWalls cols rows (r.forward j).frontCell = false := by
  simp only [roomWalls_eq_false, roomWalls_eq_true] at hcell hrear hside hc hcside ⊢
  obtain ⟨x, y, dir⟩ := r
  obtain ⟨cx, cy⟩ := c
  obtain ⟨k, hk⟩ : ∃ k : ℕ, (k : Int) = max (cx - x) (x - cx) + max (cy - y) (y - cy) :=
    ⟨_, Int.toNat_of_nonneg (by omega)⟩
  refine ⟨k, ?_, fun j hj => ?_⟩ <;> cases s <;> fin_cases dir <;>
    simp [Robot.cell, Robot.sideCell, Robot.turned, Robot.frontCell, Robot.neighbour, offsets,
      Robot.rearCell, TurnDirection.quarter, Robot.forward, Robot.moveTo]
      at hcell hrear hside hc hcside ⊢ <;> omega

/-- Every cell along a wall has it at a given side, for some heading. -/
theorem exists_heading_of_border {c : Cell} (hborder : Border cols rows c) (s : TurnDirection) :
    ∃ heading, roomWalls cols rows ((⟨c.1, c.2, heading⟩ : Robot).sideCell s) = true := by
  have hwall : ∀ heading : Fin 4,
      roomWalls cols rows (c.1 + (offsets heading).1, c.2 + (offsets heading).2) = true →
        ∃ heading, roomWalls cols rows ((⟨c.1, c.2, heading⟩ : Robot).sideCell s) = true := by
    intro heading h
    refine ⟨heading - s.quarter, ?_⟩
    have hturned : heading - s.quarter + 1 • s.quarter = heading := by
      rw [one_nsmul, sub_add_cancel]
    unfold Robot.sideCell Robot.turned Robot.frontCell Robot.neighbour
    dsimp only
    rw [hturned]
    exact h
  simp only [roomWalls_eq_true] at hwall ⊢
  rcases hborder with hx | hy | hx | hy
  · exact hwall 2 (by simp [offsets]; omega)
  · exact hwall 3 (by simp [offsets]; omega)
  · exact hwall 0 (by simp [offsets]; omega)
  · exact hwall 1 (by simp [offsets]; omega)

/-- Turned away from a side, the robot has on that side what was in front. -/
theorem sideCell_turned_other (r : Robot) (s : TurnDirection) :
    (r.turned s.other 1).sideCell s = r.frontCell := by
  obtain ⟨x, y, dir⟩ := r
  cases s <;> fin_cases dir <;> rfl

theorem rearCell_turned_other (r : Robot) (s : TurnDirection) :
    (r.turned s.other 1).rearCell = r.sideCell s := by
  obtain ⟨x, y, dir⟩ := r
  cases s <;> fin_cases dir <;>
    simp [Robot.turned, Robot.rearCell, Robot.sideCell, Robot.frontCell, Robot.neighbour, offsets,
      TurnDirection.quarter, TurnDirection.other] <;> rfl

end Corners

section Legs

variable {choose : SensorSnapshot → TurnDirection} {cols rows : ℕ}

/-- Some time the robot is on the cell. -/
def Visits (choose : SensorSnapshot → TurnDirection) (cols rows : ℕ) (q : MotionPhase × Robot)
    (c : Cell) : Prop :=
  ∃ n, ((patrol choose (roomWalls cols rows))^[n] q).2.cell = c

/-- What is visited later on is visited. -/
theorem Visits.of_iterate {q : MotionPhase × Robot} {c : Cell} {n : ℕ}
    (h : Visits choose cols rows ((patrol choose (roomWalls cols rows))^[n] q) c) :
    Visits choose cols rows q c := by
  obtain ⟨m, hm⟩ := h
  refine ⟨m + n, ?_⟩
  rw [Function.iterate_add_apply]
  exact hm

/-- Where the way is clear the robot drives on. -/
theorem march {p : MotionPhase} (hp : p ≠ .stopped ∧ p ≠ .backedUp) {r : Robot} {k : ℕ}
    (hclear : ∀ j < k, roomWalls cols rows (r.forward j).frontCell = false) :
    (patrol choose (roomWalls cols rows))^[k] (p, r) =
      (if k = 0 then p else .cruising, r.forward k) := by
  induction k with
  | zero => simp
  | succ k ih =>
      have hdrives : (if k = 0 then p else .cruising) ≠ .stopped ∧
          (if k = 0 then p else .cruising) ≠ .backedUp := by
        split
        · exact hp
        · exact ⟨nofun, nofun⟩
      rw [Function.iterate_succ_apply', ih fun j hj => hclear j (Nat.lt_succ_of_lt hj), patrol,
        (roaming_forward _ hdrives (hclear k (Nat.lt_succ_self k))).1, Robot.forward_succ]
      rfl

/-- At a corner the strategy turns away from the wall at its side. -/
def TurnsAway (choose : SensorSnapshot → TurnDirection) (cols rows : ℕ) (s : TurnDirection) :
    Prop :=
  ∀ r : Robot, roomWalls cols rows r.cell = false → roomWalls cols rows (r.sideCell s) = true →
    choose (r.look (roomWalls cols rows)) = s.other

/-- The robot drives along a wall at its side. -/
structure Hugs (cols rows : ℕ) (s : TurnDirection) (q : MotionPhase × Robot) : Prop where
  free : roomWalls cols rows q.2.cell = false
  side : roomWalls cols rows (q.2.sideCell s) = true
  drives : q.1 = .cruising ∨ (∃ d, q.1 = .turning d) ∧ roomWalls cols rows q.2.frontCell = false

/-- It does so from a corner. -/
structure FromCorner (cols rows : ℕ) (s : TurnDirection) (q : MotionPhase × Robot) : Prop
    extends Hugs cols rows s q where
  rear : roomWalls cols rows q.2.rearCell = true

/-- Along a wall the robot neither stands still nor has backed up. -/
theorem Hugs.not_halted {s : TurnDirection} {q : MotionPhase × Robot} (h : Hugs cols rows s q) :
    q.1 ≠ .stopped ∧ q.1 ≠ .backedUp := by
  rcases h.drives with hcruising | ⟨⟨d, hturning⟩, _⟩
  · rw [hcruising]
    exact ⟨nofun, nofun⟩
  · rw [hturning]
    exact ⟨nofun, nofun⟩

/-- The robot follows its wall to the end. -/
theorem Hugs.exists_wall (choose : SensorSnapshot → TurnDirection) {s : TurnDirection}
    {q : MotionPhase × Robot} (h : Hugs cols rows s q) :
    ∃ k, roomWalls cols rows (q.2.forward k).cell = false ∧
      roomWalls cols rows (q.2.forward k).frontCell = true ∧
      (patrol choose (roomWalls cols rows))^[k] q = (.cruising, q.2.forward k) := by
  obtain ⟨k, hcell, hfront, hclear⟩ := exists_ahead h.free
  refine ⟨k, hcell, hfront, ?_⟩
  obtain ⟨p, r⟩ := q
  rw [march h.not_halted hclear]
  split
  · rename_i hzero
    rcases h.drives with hcruising | ⟨_, hfree⟩
    · rw [hcruising]
    · rw [hzero, Robot.forward_zero] at hfront
      rw [hfront] at hfree
      cases hfree
  · rfl

/-- From a corner the robot gets to every cell along its wall. -/
theorem FromCorner.visits {s : TurnDirection} {q : MotionPhase × Robot}
    (h : FromCorner cols rows s q) {c : Cell} (hc : roomWalls cols rows c = false)
    (hside : roomWalls cols rows ((q.2.moveTo c).sideCell s) = true) :
    Visits choose cols rows q c := by
  obtain ⟨k, hk, hclear⟩ := exists_forward h.free h.rear h.side hc hside
  refine ⟨k, ?_⟩
  obtain ⟨p, r⟩ := q
  rw [march h.not_halted hclear]
  exact hk

/-- A stop, and one turn. -/
theorem stop_and_turn (choose : SensorSnapshot → TurnDirection) {r : Robot}
    (hfront : roomWalls cols rows r.frontCell = true)
    (hopen : ∃ d, roomWalls cols rows (r.sideCell d) = false) :
    ∃ d, (patrol choose (roomWalls cols rows))^[2] (.cruising, r) = (.turning d, r.turned d 1) ∧
      d = choose (r.look (roomWalls cols rows)) := by
  have hside : roomWalls cols rows r.leftCell = false ∨ roomWalls cols rows r.rightCell = false := by
    obtain ⟨d, hd⟩ := hopen
    cases d with
    | left => exact .inl (r.sideCell_left ▸ hd)
    | right => exact .inr (r.sideCell_right ▸ hd)
  refine ⟨_, ?_, rfl⟩
  rw [Function.iterate_succ_apply', Function.iterate_one, patrol, patrol,
    (roaming_stop _ hfront hside).1, (roaming_halted _ (.inl rfl)).1]

section Corner

variable (hcols : 2 ≤ cols) (hrows : 2 ≤ rows) {s : TurnDirection}
  (haway : TurnsAway choose cols rows s)
include hcols hrows haway

/-- A stop, and one turn away from the wall at the side. -/
theorem corner {r : Robot} (hcell : roomWalls cols rows r.cell = false)
    (hfront : roomWalls cols rows r.frontCell = true)
    (hside : roomWalls cols rows (r.sideCell s) = true) :
    (patrol choose (roomWalls cols rows))^[2] (.cruising, r) =
      (.turning s.other, r.turned s.other 1) := by
  have hopen := other_side_free hcols hrows hcell hside
  obtain ⟨d, hturn, hd⟩ := stop_and_turn choose hfront ⟨_, hopen⟩
  rw [haway r hcell hside] at hd
  rw [hturn, hd]

/-- **One leg.**  The robot follows its wall to the corner and turns. -/
theorem Hugs.leg {q : MotionPhase × Robot} (h : Hugs cols rows s q) :
    ∃ n, FromCorner cols rows s ((patrol choose (roomWalls cols rows))^[n] q) ∧
      ((patrol choose (roomWalls cols rows))^[n] q).2.dir = q.2.dir + s.other.quarter := by
  obtain ⟨k, hcell, hfront, hmarch⟩ := h.exists_wall choose
  have hside := side_forward h.free h.side k
  obtain ⟨p, r⟩ := q
  refine ⟨2 + k, ?_⟩
  rw [Function.iterate_add_apply, hmarch, corner hcols hrows haway hcell hfront hside]
  refine ⟨⟨⟨hcell, ?_, .inr ⟨⟨_, rfl⟩, ?_⟩⟩, ?_⟩, ?_⟩
  · show roomWalls cols rows (((r.forward k).turned s.other 1).sideCell s) = true
    rw [sideCell_turned_other]
    exact hfront
  · exact other_side_free hcols hrows hcell hside
  · show roomWalls cols rows ((r.forward k).turned s.other 1).rearCell = true
    rw [rearCell_turned_other]
    exact hside
  · show r.dir + 1 • s.other.quarter = _
    rw [one_nsmul]

/-- From corner to corner, as often as one likes. -/
theorem FromCorner.legs {q : MotionPhase × Robot} (h : FromCorner cols rows s q) (j : ℕ) :
    ∃ n, FromCorner cols rows s ((patrol choose (roomWalls cols rows))^[n] q) ∧
      ((patrol choose (roomWalls cols rows))^[n] q).2.dir = q.2.dir + j • s.other.quarter := by
  induction j with
  | zero => exact ⟨0, h, by simp⟩
  | succ j ih =>
      obtain ⟨n, hcorner, hdir⟩ := ih
      obtain ⟨m, hnext, hturned⟩ := hcorner.toHugs.leg hcols hrows haway
      rw [← Function.iterate_add_apply] at hnext hturned
      refine ⟨m + n, hnext, ?_⟩
      rw [hturned, hdir, succ_nsmul, add_assoc]

/-- **Round the room.**  Every cell along the walls is on one of four legs. -/
theorem Hugs.visits_border {q : MotionPhase × Robot} (h : Hugs cols rows s q) {c : Cell}
    (hc : roomWalls cols rows c = false) (hborder : Border cols rows c) :
    Visits choose cols rows q c := by
  obtain ⟨heading, hheading⟩ := exists_heading_of_border hborder s
  obtain ⟨n, hcorner, _⟩ := h.leg hcols hrows haway
  apply Visits.of_iterate (n := n)
  obtain ⟨j, _, hj⟩ := s.other.exists_heading
    ((patrol choose (roomWalls cols rows))^[n] q).2.dir heading
  obtain ⟨m, hleg, hdir⟩ := hcorner.legs hcols hrows haway j
  apply Visits.of_iterate (n := m)
  apply hleg.visits hc
  rw [hj] at hdir
  unfold Robot.moveTo
  rw [hdir]
  exact hheading

end Corner

/-! ## The two strategies -/

/-- With the wall at the side it meets, the robot drives along it. -/
theorem hugs_of_turn {r : Robot} (hcell : roomWalls cols rows r.cell = false)
    (hfront : roomWalls cols rows r.frontCell = true) {s : TurnDirection}
    (hfree : roomWalls cols rows (r.sideCell s.other) = false) :
    Hugs cols rows s (.turning s.other, r.turned s.other 1) := by
  refine ⟨hcell, ?_, .inr ⟨⟨_, rfl⟩, hfree⟩⟩
  rw [sideCell_turned_other]
  exact hfront

/-- **The first wall.**  With either strategy the robot ends up with a wall at a
side from which the strategy turns away. -/
theorem exists_hugs (hcols : 2 ≤ cols) (hrows : 2 ≤ rows) (turnStrategy : String) {r : Robot}
    (hcell : roomWalls cols rows r.cell = false)
    (hfront : roomWalls cols rows r.frontCell = true) :
    ∃ s n, TurnsAway (chosenBy turnStrategy) cols rows s ∧
      Hugs cols rows s
        ((patrol (chosenBy turnStrategy) (roomWalls cols rows))^[n] (.cruising, r)) := by
  have hopen : ∃ d, roomWalls cols rows (r.sideCell d) = false := by
    cases hleft : roomWalls cols rows (r.sideCell .left) with
    | false => exact ⟨_, hleft⟩
    | true => exact ⟨_, other_side_free hcols hrows hcell hleft⟩
  obtain ⟨d, hturn, hd⟩ := stop_and_turn (chosenBy turnStrategy) hfront hopen
  subst hd
  by_cases hright : turnStrategy = "force_right"
  · have hchoose : chosenBy turnStrategy = fun _ => .right := if_pos hright
    rw [hchoose] at hturn ⊢
    have haway : TurnsAway (fun _ => .right) cols rows .left := fun _ _ _ => rfl
    cases hfree : roomWalls cols rows (r.sideCell .right) with
    | false =>
        refine ⟨.left, 2, haway, ?_⟩
        rw [hturn]
        exact hugs_of_turn (s := .left) hcell hfront hfree
    | true =>
        -- in a corner it turns round
        have hagain : (roaming (roomWalls cols rows)).next (.turning .right, r.turned .right 1)
            .right = _ := (roaming_turning .right hfree).1
        refine ⟨.left, 3, haway, ?_⟩
        rw [Function.iterate_succ_apply', hturn, patrol, hagain]
        refine ⟨hcell, ?_, .inr ⟨⟨_, rfl⟩, ?_⟩⟩
        · exact (sideCell_turned_other (r.turned .right 1) .left).symm ▸ hfree
        · have hrear := rear_free hcols hrows hcell hfront
          rw [Robot.rearCell_eq] at hrear
          show roomWalls cols rows ((r.turned .right 1).turned .right 1).frontCell = false
          rw [Robot.turned_turned]
          exact hrear
  · have hchoose : chosenBy turnStrategy = ITurnStrategy.choose ({} : PreferLeftTurnStrategy) :=
      if_neg hright
    rw [hchoose] at hturn ⊢
    have hleft : ∀ r : Robot, roomWalls cols rows (r.sideCell .left) = false →
        ITurnStrategy.choose ({} : PreferLeftTurnStrategy) (r.look (roomWalls cols rows)) =
          .left := by
      intro r hfree
      rw [Robot.sideCell_left] at hfree
      simp [ITurnStrategy.choose, Robot.look, hfree]
    have hrightward : ∀ r : Robot, roomWalls cols rows (r.sideCell .left) = true →
        roomWalls cols rows (r.sideCell .right) = false →
        ITurnStrategy.choose ({} : PreferLeftTurnStrategy) (r.look (roomWalls cols rows)) =
          .right := by
      intro r hblocked hfree
      rw [Robot.sideCell_left] at hblocked
      rw [Robot.sideCell_right] at hfree
      simp [ITurnStrategy.choose, Robot.look, hblocked, hfree]
    have haway : ∀ s, TurnsAway (ITurnStrategy.choose ({} : PreferLeftTurnStrategy)) cols rows s := by
      intro s r hcell hside
      have hother := other_side_free hcols hrows hcell hside
      cases s with
      | left => exact hrightward r hside hother
      | right => exact hleft r hother
    cases hfree : roomWalls cols rows (r.sideCell .left) with
    | false =>
        refine ⟨.right, 2, haway .right, ?_⟩
        rw [hturn, hleft r hfree]
        exact hugs_of_turn (s := .right) hcell hfront hfree
    | true =>
        have hother := other_side_free hcols hrows hcell hfree
        refine ⟨.left, 2, haway .left, ?_⟩
        rw [hturn, hrightward r hfree hother]
        exact hugs_of_turn (s := .left) hcell hfront hother

end Legs

end RvcControl
