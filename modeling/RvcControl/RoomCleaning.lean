import RvcControl.Corridor
import RvcControl.SettledFloor

/-!
# How an empty room is cleaned

All together: in a room without obstacles the robot drives straight on to the
wall and then gets everywhere along the walls and nowhere else, in a corridor as
well as in a wide room.  What it leaves for ever is the dust inside.
-/

namespace RvcControl

section Room

variable {cols rows : ℕ} {r : Robot}

/-- Between two free cells of a line the way is free. -/
theorem forward_clear (hcell : roomWalls cols rows r.cell = false) {k : ℕ}
    (hk : roomWalls cols rows (r.forward k).cell = false) {j : ℕ} (hj : j < k) :
    roomWalls cols rows (r.forward j).frontCell = false := by
  rw [roomWalls_eq_false] at hcell hk ⊢
  obtain ⟨x, y, dir⟩ := r
  fin_cases dir <;>
    simp [Robot.cell, Robot.forward, Robot.frontCell, Robot.neighbour, offsets]
      at hcell hk ⊢ <;> omega

/-- The robot stays on its way. -/
theorem onTheWay_iterate {choose : SensorSnapshot → TurnDirection} {q : MotionPhase × Robot}
    (h : OnTheWay cols rows r q) (n : ℕ) :
    OnTheWay cols rows r ((patrol choose (roomWalls cols rows))^[n] q) := by
  induction n with
  | zero => exact h
  | succ n ih =>
      rw [Function.iterate_succ_apply']
      exact ih.next _

/-- In a wide room the robot goes round. -/
theorem visits_border (hcols : 2 ≤ cols) (hrows : 2 ≤ rows) (turnStrategy : String)
    (hcell : roomWalls cols rows r.cell = false) {c : Cell} (hc : roomWalls cols rows c = false)
    (hborder : Border cols rows c) :
    Visits (chosenBy turnStrategy) cols rows (.cruising, r) c := by
  obtain ⟨k, hwall, hfront, hclear⟩ := exists_ahead hcell
  obtain ⟨s, n, haway, hhugs⟩ := exists_hugs hcols hrows turnStrategy hwall hfront
  apply Visits.of_iterate (n := k)
  rw [march (p := .cruising) ⟨nofun, nofun⟩ hclear, ite_self]
  apply Visits.of_iterate (n := n)
  exact hhugs.visits_border hcols hrows haway hc hborder

/-- **The way in an empty room**: straight on to the wall, and all along the
walls. -/
theorem visits_iff_reached (turnStrategy : String) (hcell : roomWalls cols rows r.cell = false) (c : Cell) :
    Visits (chosenBy turnStrategy) cols rows (.cruising, r) c ↔ Reached cols rows r c := by
  constructor
  · rintro ⟨n, rfl⟩
    have hahead : OnTheWay cols rows r (.cruising, r.forward 0) := by
      apply OnTheWay.ahead
      rw [Robot.forward_zero]
      exact hcell
    rw [Robot.forward_zero] at hahead
    exact (onTheWay_iterate hahead n).reached
  · rintro ⟨hfree, hborder | ⟨k, rfl⟩⟩
    · by_cases hnarrow : cols = 1 ∨ rows = 1
      · exact corridor_visits hnarrow hcell hfree
      · have hroom := roomWalls_eq_false.mp hcell
        exact visits_border (by omega) (by omega) turnStrategy hcell hfree hborder
    · refine ⟨k, ?_⟩
      rw [march (p := .cruising) ⟨nofun, nofun⟩ fun j hj => forward_clear hcell hfree hj]

end Room

/-- The way of a robot that is left alone after a start. -/
theorem leftAlone_visits (calls : List SimulatorService.Call) (turnStrategy : String) (cols rows : ℕ)
    (robot : Robot) (dustCells : CellSet) (c : Cell) :
    (∃ k, (leftAlone (calls ++ [.start turnStrategy]) { cols, rows, robot, dustCells } k).2.robot.cell
        = c) ↔
      Visits (chosenBy turnStrategy) cols rows (.cruising, robot) c := by
  have hshown : shown (calls ++ [.start turnStrategy]) =
      some (.started (chosenBy turnStrategy)) := by
    rw [shown, Mealy.run_concat]
    rfl
  have hpatrols := patrols_of_shown hshown rfl { cols, rows, robot, dustCells }
  rw [Grid.isBlocked_empty] at hpatrols
  refine exists_congr fun k => ?_
  have hrun := hpatrols.run (leftAlone_static k)
  rw [List.length_replicate] at hrun
  unfold leftAlone
  rw [hrun.roams.robot]
  rfl

/-- **An empty room is cleaned along its walls.**  Start a session with either
strategy in a room of any size without obstacles, with the robot anywhere in it,
and leave it alone.  The cells the robot gets to are those straight ahead of it
and those along the walls; and after twenty rounds for every cell of the room,
exactly the dust on the other cells is left. -/
theorem empty_room_cleaned (calls : List SimulatorService.Call) (turnStrategy : String)
    {cols rows : ℕ} {r : Robot} (hcell : roomWalls cols rows r.cell = false) (dustCells : CellSet) :
    let loopAfter := leftAlone (calls ++ [.start turnStrategy]) { cols, rows, robot := r, dustCells }
    (∀ c, (∃ k, (loopAfter k).2.robot.cell = c) ↔ Reached cols rows r c) ∧
      ∀ n ≥ 20 * (cols * rows), ∀ c, (loopAfter n).2.dustCells.has c = true ↔
        dustCells.has c = true ∧ ¬ Reached cols rows r c := by
  intro loopAfter
  have hvisits : ∀ c, (∃ k, (loopAfter k).2.robot.cell = c) ↔ Reached cols rows r c := by
    intro c
    rw [leftAlone_visits, visits_iff_reached turnStrategy hcell]
  refine ⟨hvisits, ?_⟩
  intro n hn c
  have hfree : ({ cols, rows, robot := r, dustCells } : Grid).RobotFree := by
    rw [Grid.RobotFree, Grid.isBlocked_empty]
    exact hcell
  have hcard := ({ cols, rows, robot := r, dustCells } : Grid).card_freeCells_le
  have hstart : ∃ t, .start t ∈ calls ++ [.start turnStrategy] :=
    ⟨turnStrategy, List.mem_append_right _ (List.mem_singleton.mpr rfl)⟩
  rw [leftAlone_settled hstart hfree (hn.trans' (Nat.mul_le_mul_left 20 hcard)), ← hvisits]
  push Not
  rfl

/-- The theorem in a room of three by three cells: the middle is left. -/
theorem empty_room_cleaned_once :
    (leftAlone [.start "prefer_left"]
      { cols := 3, rows := 3, robot := ⟨0, 0, 0⟩, dustCells := CellSet.add {} (1, 1) }
      180).2.dustCells.has (1, 1) = true := by
  have hmiddle : ¬ Reached 3 3 ⟨0, 0, 0⟩ (1, 1) := by
    rintro ⟨_, hborder | ⟨k, hk⟩⟩
    · simp [Border] at hborder
    · simp [Robot.forward, Robot.cell, offsets] at hk
  have hcell : roomWalls 3 3 (⟨0, 0, 0⟩ : Robot).cell = false := rfl
  have hcleaned := (empty_room_cleaned [] "prefer_left" hcell (CellSet.add {} (1, 1))).2 180
    (by decide) (1, 1)
  rw [List.nil_append] at hcleaned
  rw [hcleaned]
  exact ⟨by decide, hmiddle⟩

end RvcControl
