import RvcControl.ManualLoop
import RvcControl.TwoSessions

/-!
# Roaming among fixed walls

As long as nobody clicks obstacles, the manual loop comes down to a robot and
a motion phase among walls that never change.  The dust, the suction and the
timer are gone; the turn strategy is left as the direction of each round, which
may be any.  `manualLoop_refines_roaming` is the refinement, and what is proved
here about `roaming` holds of the loop.

The heart of it is `turning_sweep`: a robot that turns in one direction tries
the headings in order, and it drives off at the first clear one.
-/

namespace RvcControl

namespace Robot

/-- The neighbours depend on the cell only. -/
theorem neighbour_congr {r t : Robot} (h : r.cell = t.cell) : r.neighbour = t.neighbour := by
  funext dir
  obtain ⟨hx, hy⟩ := Prod.mk.inj h
  simp [neighbour, hx, hy]

/-- From the cell behind, the way ahead leads back. -/
theorem frontCell_moveTo_rearCell (r : Robot) : (r.moveTo r.rearCell).frontCell = r.cell := by
  simp [frontCell, neighbour, moveTo, rearCell, cell]

section Walls

variable (blocked : Cell → Bool)

/-- What the robot sees of the walls. -/
def look (r : Robot) : SensorSnapshot where
  frontBlocked := blocked r.frontCell
  leftBlocked := blocked r.leftCell
  rightBlocked := blocked r.rightCell

/-- Go to a cell, unless there is a wall. -/
def go (r : Robot) (c : Cell) : Robot := if blocked c then r else r.moveTo c

/-- What the robot makes of a command. -/
def obey (r : Robot) : MotionCommand → Robot
  | .moveForward => r.go blocked r.frontCell
  | .turnLeft => r.turned .left 1
  | .turnRight => r.turned .right 1
  | .moveBackward => r.go blocked r.rearCell
  | _ => r

/-- A turn command turns the robot once. -/
theorem obey_turn (r : Robot) (d : TurnDirection) : r.obey blocked d.command = r.turned d 1 := by
  cases d <;> rfl

end Walls

end Robot

/-- A robot in its motion phase, among walls; the input is the direction a
turn would take that began now. -/
def roaming (blocked : Cell → Bool) : Mealy (MotionPhase × Robot) TurnDirection MotionCommand where
  step q choice :=
    let p := q.1.next (q.2.look blocked) choice
    ((p, q.2.obey blocked p.command), p.command)

section Steps

variable {blocked : Cell → Bool} {p : MotionPhase} {r : Robot} (choice : TurnDirection)

theorem roaming_next :
    (roaming blocked).next (p, r) choice =
      (p.next (r.look blocked) choice,
        r.obey blocked (p.next (r.look blocked) choice).command) := rfl

theorem roaming_out :
    (roaming blocked).out (p, r) choice = (p.next (r.look blocked) choice).command := rfl

/-- The phases that drive on, when the front is clear. -/
theorem roaming_forward (hp : p ≠ .stopped ∧ p ≠ .backedUp)
    (hfront : blocked r.frontCell = false) :
    (roaming blocked).next (p, r) choice = (.cruising, r.moveTo r.frontCell) ∧
      (roaming blocked).out (p, r) choice = .moveForward := by
  have hnext : p.next (r.look blocked) choice = .cruising :=
    (MotionPhase.next_eq_cruising _ _ _).mpr ⟨hfront, hp⟩
  rw [roaming_next, roaming_out, hnext]
  simp [MotionPhase.command, Robot.obey, Robot.go, hfront]

/-- A turn goes on while the front is blocked. -/
theorem roaming_turning {d : TurnDirection} (hfront : blocked r.frontCell = true) :
    (roaming blocked).next (.turning d, r) choice = (.turning d, r.turned d 1) ∧
      (roaming blocked).out (.turning d, r) choice = d.command := by
  have hnext : (MotionPhase.turning d).next (r.look blocked) choice = .turning d := by
    simp [MotionPhase.next, Robot.look, hfront]
  rw [roaming_next, roaming_out, hnext]
  exact ⟨by rw [MotionPhase.command, Robot.obey_turn], rfl⟩

/-- A halted robot begins to turn, whatever is around it. -/
theorem roaming_halted (hp : p = .stopped ∨ p = .backedUp) :
    (roaming blocked).next (p, r) choice = (.turning choice, r.turned choice 1) ∧
      (roaming blocked).out (p, r) choice = choice.command := by
  have hnext : p.next (r.look blocked) choice = .turning choice := by
    rcases hp with rfl | rfl <;> rfl
  rw [roaming_next, roaming_out, hnext]
  exact ⟨by rw [MotionPhase.command, Robot.obey_turn], rfl⟩

/-- A cruising robot stops at an obstacle with a side open. -/
theorem roaming_stop (hfront : blocked r.frontCell = true)
    (hside : blocked r.leftCell = false ∨ blocked r.rightCell = false) :
    (roaming blocked).next (.cruising, r) choice = (.stopped, r) ∧
      (roaming blocked).out (.cruising, r) choice = .stop := by
  have hnext : MotionPhase.cruising.next (r.look blocked) choice = .stopped := by
    rcases hside with h | h <;>
      simp [MotionPhase.next, SensorSnapshot.allSidesBlocked, Robot.look, hfront, h]
  rw [roaming_next, roaming_out, hnext]
  exact ⟨rfl, rfl⟩

/-- In a dead end it backs up instead. -/
theorem roaming_backUp (hfront : blocked r.frontCell = true)
    (hleft : blocked r.leftCell = true) (hright : blocked r.rightCell = true) :
    (roaming blocked).next (.cruising, r) choice = (.backedUp, r.go blocked r.rearCell) ∧
      (roaming blocked).out (.cruising, r) choice = .moveBackward := by
  have hnext : MotionPhase.cruising.next (r.look blocked) choice = .backedUp := by
    simp [MotionPhase.next, SensorSnapshot.allSidesBlocked, Robot.look, hfront, hleft, hright]
  rw [roaming_next, roaming_out, hnext]
  exact ⟨rfl, rfl⟩

end Steps

/-! ## The sweep -/

section Sweep

variable (blocked : Cell → Bool)

/-- On the rounds `ks` a turn tries `k` headings in vain and drives off at the
next. -/
structure Swept (d : TurnDirection) (r : Robot) (k : ℕ) (ks : List TurnDirection) : Prop where
  outputs : ((roaming blocked).outputs (.turning d, r) ks).take (k + 1) =
    List.replicate k d.command ++ [.moveForward]
  turned : (roaming blocked).run (.turning d, r) (ks.take k) = (.turning d, r.turned d k)
  moved : (roaming blocked).run (.turning d, r) (ks.take (k + 1)) =
    (.cruising, (r.turned d k).moveTo (r.turned d k).frontCell)

/-- **The sweep.**  If one of the next `n` headings is clear, then the turn
ends at one of them. -/
theorem turning_sweep (d : TurnDirection) {n : ℕ} {r : Robot}
    (h : ∃ j < n, blocked (r.turned d j).frontCell = false) :
    ∃ k < n, blocked (r.turned d k).frontCell = false ∧
      ∀ ks : List TurnDirection, k < ks.length → Swept blocked d r k ks := by
  induction n generalizing r with
  | zero =>
      obtain ⟨j, hj, _⟩ := h
      omega
  | succ n ih =>
      cases hfront : blocked r.frontCell with
      | false =>
          refine ⟨0, by omega, by rwa [Robot.turned_zero], ?_⟩
          intro ks hlength
          obtain ⟨choice, ks, rfl⟩ := List.exists_cons_of_length_pos hlength
          obtain ⟨hnext, hout⟩ := roaming_forward (p := .turning d) choice
            ⟨by simp, by simp⟩ hfront
          exact ⟨by simp [hout], by simp, by simp [hnext]⟩
      | true =>
          obtain ⟨j, hj, hclear⟩ := h
          have hpos : j ≠ 0 := by
            intro hzero
            rw [hzero, Robot.turned_zero, hfront] at hclear
            cases hclear
          have hrest : ∃ j < n, blocked ((r.turned d 1).turned d j).frontCell = false := by
            refine ⟨j - 1, by omega, ?_⟩
            rw [Robot.turned_turned, Nat.add_sub_cancel' (by omega)]
            exact hclear
          obtain ⟨k, hk, hfree, hswept⟩ := ih hrest
          rw [Robot.turned_turned, Nat.add_comm] at hfree
          refine ⟨k + 1, by omega, hfree, ?_⟩
          intro ks hlength
          obtain ⟨choice, ks, rfl⟩ := List.exists_cons_of_length_pos (by omega : 0 < ks.length)
          obtain ⟨hnext, hout⟩ := roaming_turning choice (d := d) hfront
          have hs := hswept ks (by simpa using hlength)
          have hturned := Robot.turned_turned r d 1 k
          rw [Nat.add_comm 1 k] at hturned
          refine ⟨?_, ?_, ?_⟩
          · rw [Mealy.outputs_cons, List.take_succ_cons, hnext, hout, hs.outputs]
            rfl
          · rw [List.take_succ_cons, Mealy.run_cons, hnext, hs.turned, hturned]
          · rw [List.take_succ_cons, Mealy.run_cons, hnext, hs.moved, hturned]

end Sweep

/-! ## The loop roams -/

/-- Between the rounds nobody clicks an obstacle. -/
def Round.Static (e : Round) : Prop := ∀ c, Click.obstacle c ∉ e.clicks

/-- The loop's state `st`, seen as the robot and its phase among the walls
`blocked`. -/
structure Roams (blocked : Cell → Bool) (st : SimulatorService × Grid) (q : MotionPhase × Robot) :
    Prop where
  moving : Moving st.1 q.1
  robot : st.2.robot = q.2
  walls : ∀ c, st.2.isBlocked c = blocked c

/-- On the grid the robot obeys as among the walls. -/
theorem Grid.applyMotion_eq_obey {g : Grid} {blocked : Cell → Bool}
    (hwalls : ∀ c, g.isBlocked c = blocked c) (command : MotionCommand) :
    (g.applyMotion command).robot = g.robot.obey blocked command := by
  have hmove : ∀ c, (g.tryMove c).robot = g.robot.go blocked c := by
    intro c
    cases hc : blocked c <;> simp [tryMove, Robot.go, hwalls, hc]
  cases command <;> simp [applyMotion, Robot.obey, Robot.turned, TurnDirection.quarter, hmove]

namespace Roams

variable {blocked : Cell → Bool} {st : SimulatorService × Grid} {q : MotionPhase × Robot} {e : Round}

/-- Static clicks leave the obstacles. -/
theorem edited (h : Roams blocked st q) (he : e.Static) (c : Cell) :
    (st.2.edit e.clicks).isBlocked c = blocked c := by
  rw [Grid.isBlocked_edit _ _ (he c), h.walls]

/-- The round sees the obstacles around the robot. -/
theorem seen (h : Roams blocked st q) (he : e.Static) :
    (RvcControl.seen st e).SameObstacles (q.2.look blocked) := by
  have hrobot := h.robot
  constructor <;>
    simp [RvcControl.seen, Grid.readSensorsFromGrid, Robot.look, h.edited he, hrobot]

/-- **One round is one step of the roaming robot**, by the direction the
service's strategy chooses in it. -/
theorem round (h : Roams blocked st q) (he : e.Static) :
    let choice := st.1.choose (RvcControl.seen st e)
    Roams blocked (manualLoop.next st e) ((roaming blocked).next q choice) ∧
      (manualLoop.out st e).lastMotion = (roaming blocked).out q choice := by
  intro choice
  have hround := h.moving.round e
  have hphase : phaseAfter st e q.1 = q.1.next (q.2.look blocked) choice :=
    MotionPhase.next_congr (h.seen he) _ _
  have hmoving := hround.moving
  have hrobot := hround.robot
  rw [hphase] at hmoving hrobot
  refine ⟨⟨hmoving, ?_, ?_⟩, ?_⟩
  · rw [hrobot, Grid.applyMotion_eq_obey (h.edited he), Grid.edit_robot, h.robot]
    rfl
  · intro c
    rw [hround.walls.isBlocked, h.edited he]
  · rw [hround.lastMotion, hphase]
    rfl

end Roams

/-- **The loop is a roaming robot**, as long as the obstacles stay. -/
theorem manualLoop_refines_roaming (blocked : Cell → Bool) :
    Mealy.Refinement manualLoop (roaming blocked) (Roams blocked) Round.Static
      (fun state command => state.lastMotion = command) :=
  ⟨fun h he => ⟨_, h.round he⟩⟩

/-- The motion commands of a run of the loop. -/
def commanded (st : SimulatorService × Grid) (es : List Round) : List MotionCommand :=
  (manualLoop.outputs st es).map (·.lastMotion)

/-- The loop's run as a run of the roaming robot, round by round. -/
theorem Roams.run {blocked : Cell → Bool} {st : SimulatorService × Grid} {q : MotionPhase × Robot}
    (h : Roams blocked st q) {es : List Round} (hstatic : ∀ e ∈ es, e.Static) :
    ∃ ks, ks.length = es.length ∧
      (∀ n, Roams blocked (manualLoop.run st (es.take n)) ((roaming blocked).run q (ks.take n))) ∧
      commanded st es = (roaming blocked).outputs q ks := by
  obtain ⟨ks, hlength, hrun, houts⟩ := (manualLoop_refines_roaming blocked).run h hstatic
  refine ⟨ks, hlength, hrun, ?_⟩
  have heq := (List.forall₂_map_left_iff (R := Eq)).mpr houts
  rwa [List.forall₂_eq_eq_eq] at heq

end RvcControl
