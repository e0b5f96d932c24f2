import RvcControl.EmptyRoom

/-!
# A corridor

In a room that is only one cell wide the robot cannot go round.  It drives to
the end, backs up, turns round and drives to the other end; and when it stands
across the corridor it turns first.  So it gets everywhere there as well.
-/

namespace RvcControl

/-- Turned round, the robot looks the other way. -/
theorem offsets_turned_round (dir : Fin 4) (d : TurnDirection) :
    offsets (dir + 2 • d.quarter) = (-(offsets dir).1, -(offsets dir).2) := by
  cases d <;> revert dir <;> decide

section Ends

variable {cols rows : ℕ} {r : Robot}

/-- In a corridor the robot has a wall on both sides, or before and behind it. -/
theorem corridor_cases (hnarrow : cols = 1 ∨ rows = 1) (hcell : roomWalls cols rows r.cell = false) :
    (∀ d, roomWalls cols rows (r.sideCell d) = true) ∨
      roomWalls cols rows r.frontCell = true ∧ roomWalls cols rows r.rearCell = true := by
  simp only [roomWalls_eq_true]
  rw [roomWalls_eq_false] at hcell
  obtain ⟨x, y, dir⟩ := r
  have hsides : ∀ {P : TurnDirection → Prop}, P .left → P .right → ∀ d, P d := by
    intro P hleft hright d
    cases d
    · exact hleft
    · exact hright
  rcases hnarrow with hcols | hrows
  · fin_cases dir
    · right
      simp [Robot.cell, Robot.frontCell, Robot.neighbour, Robot.rearCell, offsets] at hcell ⊢
      omega
    · left
      apply hsides <;>
        simp [Robot.cell, Robot.sideCell, Robot.turned, Robot.frontCell, Robot.neighbour, offsets,
          TurnDirection.quarter] at hcell ⊢ <;> omega
    · right
      simp [Robot.cell, Robot.frontCell, Robot.neighbour, Robot.rearCell, offsets] at hcell ⊢
      omega
    · left
      apply hsides <;>
        simp [Robot.cell, Robot.sideCell, Robot.turned, Robot.frontCell, Robot.neighbour, offsets,
          TurnDirection.quarter] at hcell ⊢ <;> omega
  · fin_cases dir
    · left
      apply hsides <;>
        simp [Robot.cell, Robot.sideCell, Robot.turned, Robot.frontCell, Robot.neighbour, offsets,
          TurnDirection.quarter] at hcell ⊢ <;> omega
    · right
      simp [Robot.cell, Robot.frontCell, Robot.neighbour, Robot.rearCell, offsets] at hcell ⊢
      omega
    · left
      apply hsides <;>
        simp [Robot.cell, Robot.sideCell, Robot.turned, Robot.frontCell, Robot.neighbour, offsets,
          TurnDirection.quarter] at hcell ⊢ <;> omega
    · right
      simp [Robot.cell, Robot.frontCell, Robot.neighbour, Robot.rearCell, offsets] at hcell ⊢
      omega

/-- From the end of a corridor, backed up and turned round, every other cell is
ahead. -/
theorem exists_back (hcell : roomWalls cols rows r.cell = false)
    (hfront : roomWalls cols rows r.frontCell = true)
    (hside : ∀ d, roomWalls cols rows (r.sideCell d) = true) (d : TurnDirection) {c : Cell}
    (hc : roomWalls cols rows c = false) :
    c = r.cell ∨ ∃ k, (((r.go (roomWalls cols rows) r.rearCell).turned d 2).forward k).cell = c ∧
      ∀ j < k, roomWalls cols rows
        (((r.go (roomWalls cols rows) r.rearCell).turned d 2).forward j).frontCell = false := by
  have hleft := roomWalls_eq_true.mp (hside .left)
  have hright := roomWalls_eq_true.mp (hside .right)
  unfold Robot.go
  split
  · rename_i hrear
    left
    rw [roomWalls_eq_true] at hfront hrear
    rw [roomWalls_eq_false] at hcell hc
    obtain ⟨x, y, dir⟩ := r
    obtain ⟨cx, cy⟩ := c
    fin_cases dir <;>
      simp [Robot.cell, Robot.sideCell, Robot.turned, Robot.frontCell, Robot.neighbour,
        Robot.rearCell, offsets, TurnDirection.quarter]
        at hcell hfront hleft hright hrear hc ⊢ <;> omega
  · simp only [roomWalls_eq_false]
    rw [roomWalls_eq_true] at hfront
    rw [roomWalls_eq_false] at hcell hc
    obtain ⟨x, y, dir⟩ := r
    obtain ⟨cx, cy⟩ := c
    by_cases hhere : (cx, cy) = (x, y)
    · exact .inl hhere
    · right
      obtain ⟨k, hk⟩ : ∃ k : ℕ, (k : Int) = max (cx - x) (x - cx) + max (cy - y) (y - cy) - 1 := by
        refine ⟨_, Int.toNat_of_nonneg ?_⟩
        rw [Prod.mk.injEq] at hhere
        omega
      simp only [Robot.cell, Robot.forward, Robot.turned, Robot.moveTo, Robot.frontCell,
        Robot.neighbour, Robot.rearCell, offsets_turned_round]
      refine ⟨k, ?_, fun j hj => ?_⟩ <;> fin_cases dir <;>
        simp [Robot.cell, Robot.sideCell, Robot.turned, Robot.frontCell, Robot.neighbour,
          offsets, TurnDirection.quarter] at hcell hfront hleft hright hc hhere ⊢ <;> omega

end Ends

section Lane

variable {choose : SensorSnapshot → TurnDirection} {cols rows : ℕ}

/-- At the end of the corridor the robot backs up and turns round. -/
theorem turn_round (choose : SensorSnapshot → TurnDirection) {r : Robot}
    (hcell : roomWalls cols rows r.cell = false)
    (hfront : roomWalls cols rows r.frontCell = true)
    (hside : ∀ d, roomWalls cols rows (r.sideCell d) = true) :
    ∃ d, (patrol choose (roomWalls cols rows))^[3] (.cruising, r) =
      (.turning d, (r.go (roomWalls cols rows) r.rearCell).turned d 2) := by
  have hleft := r.sideCell_left ▸ hside .left
  have hright := r.sideCell_right ▸ hside .right
  have hlane := (go_rear_of_lane hcell hside).2
  have hback : patrol choose (roomWalls cols rows) (.cruising, r) =
      (.backedUp, r.go (roomWalls cols rows) r.rearCell) :=
    (roaming_backUp _ hfront hleft hright).1
  obtain ⟨d, hd⟩ : ∃ d, patrol choose (roomWalls cols rows)
      (.backedUp, r.go (roomWalls cols rows) r.rearCell) =
        (.turning d, (r.go (roomWalls cols rows) r.rearCell).turned d 1) :=
    ⟨_, (roaming_halted _ (.inr rfl)).1⟩
  have hagain : patrol choose (roomWalls cols rows)
      (.turning d, (r.go (roomWalls cols rows) r.rearCell).turned d 1) =
        (.turning d, ((r.go (roomWalls cols rows) r.rearCell).turned d 1).turned d 1) :=
    (roaming_turning _ (hlane d)).1
  refine ⟨d, ?_⟩
  rw [Function.iterate_succ_apply', Function.iterate_succ_apply', Function.iterate_one, hback, hd,
    hagain, Robot.turned_turned]

/-- **Along a corridor**: to the one end, and back to the other. -/
theorem lane_visits {q : MotionPhase × Robot} (h : ∀ d, Hugs cols rows d q) {c : Cell}
    (hc : roomWalls cols rows c = false) : Visits choose cols rows q c := by
  obtain ⟨k, hcell, hfront, hmarch⟩ := (h .left).exists_wall choose
  have hside : ∀ d, roomWalls cols rows ((q.2.forward k).sideCell d) = true :=
    fun d => side_forward (h d).free (h d).side k
  apply Visits.of_iterate (n := k)
  rw [hmarch]
  obtain ⟨d, hround⟩ := turn_round choose hcell hfront hside
  rcases exists_back hcell hfront hside d hc with hhere | ⟨j, hj, hclear⟩
  · exact ⟨0, hhere.symm⟩
  · apply Visits.of_iterate (n := 3)
    rw [hround]
    refine ⟨j, ?_⟩
    rw [march (p := .turning d) ⟨nofun, nofun⟩ hclear]
    exact hj

/-- A quarter on, the cells at the sides are those that were before and behind. -/
theorem sideCell_turned (r : Robot) (d e : TurnDirection) {k : ℕ} (hk : k = 1 ∨ k = 3) :
    (r.turned d k).sideCell e = r.frontCell ∨ (r.turned d k).sideCell e = r.rearCell := by
  have hheading : ∀ dir : Fin 4, dir + k • d.quarter + 1 • e.quarter = dir ∨
      dir + k • d.quarter + 1 • e.quarter = dir + 2 := by
    rcases hk with rfl | rfl <;> cases d <;> cases e <;> decide
  rw [r.rearCell_eq]
  exact (hheading r.dir).imp (congrArg r.neighbour) (congrArg r.neighbour)

/-- A robot that has turned across a corridor follows its wall. -/
theorem hugs_across {r : Robot} (hcell : roomWalls cols rows r.cell = false)
    (hfront : roomWalls cols rows r.frontCell = true)
    (hrear : roomWalls cols rows r.rearCell = true) {d : TurnDirection} {k : ℕ}
    (hk : k = 1 ∨ k = 3) (hopen : roomWalls cols rows (r.turned d k).frontCell = false)
    (e : TurnDirection) : Hugs cols rows e (.turning d, r.turned d k) := by
  refine ⟨hcell, ?_, .inr ⟨⟨_, rfl⟩, hopen⟩⟩
  show roomWalls cols rows ((r.turned d k).sideCell e) = true
  rcases sideCell_turned r d e hk with h | h
  · rw [h]
    exact hfront
  · rw [h]
    exact hrear

/-- After three turns it looks to the other side. -/
theorem frontCell_turned_three (r : Robot) (d : TurnDirection) :
    (r.turned d 3).frontCell = r.sideCell d.other := by
  obtain ⟨x, y, dir⟩ := r
  cases d <;> fin_cases dir <;> rfl

/-- After two turns it looks back. -/
theorem frontCell_turned_two (r : Robot) (d : TurnDirection) :
    (r.turned d 2).frontCell = r.rearCell := by
  obtain ⟨x, y, dir⟩ := r
  simp only [Robot.frontCell, Robot.neighbour, Robot.turned, Robot.rearCell, offsets_turned_round,
    sub_eq_add_neg]

/-- Among four walls there is but one cell. -/
theorem eq_cell_of_walls {r : Robot} (hcell : roomWalls cols rows r.cell = false)
    (hfront : roomWalls cols rows r.frontCell = true)
    (hrear : roomWalls cols rows r.rearCell = true)
    (hside : ∀ d, roomWalls cols rows (r.sideCell d) = true) {c : Cell}
    (hc : roomWalls cols rows c = false) : c = r.cell := by
  rcases exists_back hcell hfront hside .left hc with hhere | ⟨k, hk, hclear⟩
  · exact hhere
  · have hstay : r.go (roomWalls cols rows) r.rearCell = r := if_pos hrear
    rw [hstay] at hk hclear
    cases k with
    | zero =>
        rw [Robot.forward_zero] at hk
        exact hk.symm
    | succ k =>
        have hblocked := hclear 0 (Nat.succ_pos k)
        rw [Robot.forward_zero, frontCell_turned_two, hrear] at hblocked
        cases hblocked

/-- **Across a corridor**: the robot turns along it first. -/
theorem across_visits {r : Robot} (hcell : roomWalls cols rows r.cell = false)
    (hfront : roomWalls cols rows r.frontCell = true)
    (hrear : roomWalls cols rows r.rearCell = true) {c : Cell}
    (hc : roomWalls cols rows c = false) : Visits choose cols rows (.cruising, r) c := by
  by_cases hside : ∀ d, roomWalls cols rows (r.sideCell d) = true
  · exact ⟨0, (eq_cell_of_walls hcell hfront hrear hside hc).symm⟩
  · obtain ⟨e, he⟩ := not_forall.mp hside
    rw [Bool.not_eq_true] at he
    obtain ⟨d, hturn, _⟩ := stop_and_turn choose hfront ⟨e, he⟩
    cases hopen : roomWalls cols rows (r.turned d 1).frontCell with
    | false =>
        apply Visits.of_iterate (n := 2)
        rw [hturn]
        exact lane_visits (fun e => hugs_across hcell hfront hrear (.inl rfl) hopen e) hc
    | true =>
        -- it has turned to the wrong side first
        have hother : roomWalls cols rows (r.turned d 3).frontCell = false := by
          rw [frontCell_turned_three]
          have hne : e ≠ d := by
            rintro rfl
            rw [Robot.sideCell] at he
            rw [he] at hopen
            cases hopen
          have heq : e = d.other := by
            cases e <;> cases d <;> first | rfl | exact absurd rfl hne
          exact heq ▸ he
        have hback : roomWalls cols rows (r.turned d 2).frontCell = true := by
          rw [frontCell_turned_two]
          exact hrear
        have hsecond : patrol choose (roomWalls cols rows) (.turning d, r.turned d 1) =
            (.turning d, (r.turned d 1).turned d 1) := (roaming_turning _ hopen).1
        have hthird : patrol choose (roomWalls cols rows) (.turning d, r.turned d 2) =
            (.turning d, (r.turned d 2).turned d 1) := (roaming_turning _ hback).1
        apply Visits.of_iterate (n := 4)
        rw [Function.iterate_succ_apply', Function.iterate_succ_apply', hturn, hsecond,
          Robot.turned_turned, hthird, Robot.turned_turned]
        exact lane_visits (fun e => hugs_across hcell hfront hrear (.inr rfl) hother e) hc

end Lane

/-- **A corridor is cleaned all over.** -/
theorem corridor_visits {choose : SensorSnapshot → TurnDirection} {cols rows : ℕ}
    (hnarrow : cols = 1 ∨ rows = 1) {r : Robot} (hcell : roomWalls cols rows r.cell = false)
    {c : Cell} (hc : roomWalls cols rows c = false) : Visits choose cols rows (.cruising, r) c := by
  rcases corridor_cases hnarrow hcell with hside | ⟨hfront, hrear⟩
  · exact lane_visits (fun d => ⟨hcell, hside d, .inl rfl⟩) hc
  · exact across_visits hcell hfront hrear hc

end RvcControl
