import RvcControl.Roaming

/-!
# Ways out

Three results on where a robot gets that moves among walls which stay where
they are, for any walls, any dust and any time between the rounds:

* with a free cell next to it, it reaches another cell within six rounds, and
  without one it never moves (`never_stuck`);
* a dead end it has backed out of is not entered again at once
  (`dead_end_is_left`);
* a strategy that prefers the left needs one turn at an obstacle with an open
  side (`one_turn_is_enough`).
-/

namespace RvcControl

/-! ## A roaming robot gets on -/

section DrivesOn

variable {blocked : Cell → Bool}

/-- Within `n` rounds the robot moves forward to another cell, whatever
directions it is given. -/
def DrivesOn (blocked : Cell → Bool) (n : ℕ) (q : MotionPhase × Robot) : Prop :=
  ∀ ks : List TurnDirection, n ≤ ks.length →
    ∃ j < n, ((roaming blocked).outputs q ks)[j]? = some .moveForward ∧
      ((roaming blocked).run q (ks.take (j + 1))).2.cell ≠
        ((roaming blocked).run q (ks.take j)).2.cell

/-- Who drives on soon does so later. -/
theorem DrivesOn.mono {m n : ℕ} {q : MotionPhase × Robot} (h : DrivesOn blocked m q)
    (hmn : m ≤ n) : DrivesOn blocked n q := by
  intro ks hlength
  obtain ⟨j, hj, hout⟩ := h ks (by omega)
  exact ⟨j, by omega, hout⟩

/-- One round more, if the robot drives on from wherever that round takes
it. -/
theorem DrivesOn.of_next {n : ℕ} {q : MotionPhase × Robot}
    (h : ∀ choice, DrivesOn blocked n ((roaming blocked).next q choice)) :
    DrivesOn blocked (n + 1) q := by
  intro ks hlength
  obtain ⟨choice, ks, rfl⟩ := List.exists_cons_of_length_pos (by omega : 0 < ks.length)
  obtain ⟨j, hj, hout, hcell⟩ := h choice ks (by simpa using hlength)
  exact ⟨j + 1, by omega, hout, hcell⟩

/-- A robot with a clear front that need not turn first. -/
theorem drivesOn_of_clear {p : MotionPhase} {r : Robot} (hp : p ≠ .stopped ∧ p ≠ .backedUp)
    (hfront : blocked r.frontCell = false) : DrivesOn blocked 1 (p, r) := by
  intro ks hlength
  obtain ⟨choice, ks, rfl⟩ := List.exists_cons_of_length_pos (by omega : 0 < ks.length)
  obtain ⟨hnext, hout⟩ := roaming_forward choice hp hfront
  refine ⟨0, by omega, by simp [hout], ?_⟩
  rw [List.take_succ_cons, List.take_zero, Mealy.run_cons, hnext]
  exact r.neighbour_ne_cell r.dir

/-- From a turn it takes four ticks. -/
theorem drivesOn_turning (d : TurnDirection) {r : Robot}
    (h : ∃ heading, blocked (r.neighbour heading) = false) :
    DrivesOn blocked 4 (.turning d, r) := by
  obtain ⟨heading, hfree⟩ := h
  obtain ⟨j, hj, hheading⟩ := d.exists_heading r.dir heading
  have hclear : blocked (r.turned d j).frontCell = false := by
    rw [← hheading] at hfree
    exact hfree
  obtain ⟨k, hk, _, hswept⟩ := turning_sweep blocked d ⟨j, hj, hclear⟩
  intro ks hlength
  have hs := hswept ks (by omega)
  refine ⟨k, hk, ?_, ?_⟩
  · have hlast := congrArg (fun commands => commands[k]?) hs.outputs
    simpa using hlast
  · rw [hs.moved, hs.turned]
    exact (r.turned d k).neighbour_ne_cell _

/-- From a halt it takes five. -/
theorem drivesOn_halted {p : MotionPhase} (hp : p = .stopped ∨ p = .backedUp) {r : Robot}
    (h : ∃ heading, blocked (r.neighbour heading) = false) : DrivesOn blocked 5 (p, r) := by
  apply DrivesOn.of_next
  intro choice
  rw [(roaming_halted _ hp).1]
  exact drivesOn_turning choice (by rwa [Robot.turned_neighbour])

/-- The front of a cruising robot decides: it drives on, stops, or backs up
onto a cell from which its own cell is the way out. -/
theorem drivesOn_cruising {r : Robot} (hcell : blocked r.cell = false)
    (h : ∃ heading, blocked (r.neighbour heading) = false) :
    DrivesOn blocked 6 (.cruising, r) := by
  cases hfront : blocked r.frontCell with
  | false => exact (drivesOn_of_clear ⟨by simp, by simp⟩ hfront).mono (by omega)
  | true =>
      apply DrivesOn.of_next
      intro choice
      by_cases hside : blocked r.leftCell = false ∨ blocked r.rightCell = false
      · rw [(roaming_stop _ hfront hside).1]
        exact drivesOn_halted (Or.inl rfl) h
      · simp only [not_or, Bool.not_eq_false] at hside
        rw [(roaming_backUp _ hfront hside.1 hside.2).1]
        apply drivesOn_halted (Or.inr rfl)
        cases hrear : blocked r.rearCell with
        | true =>
            rw [Robot.go, if_pos hrear]
            exact h
        | false =>
            rw [Robot.go, if_neg (by simp [hrear])]
            refine ⟨r.dir, ?_⟩
            show blocked (r.moveTo r.rearCell).frontCell = false
            rw [Robot.frontCell_moveTo_rearCell, hcell]

/-- From anywhere it takes six. -/
theorem drivesOn_of_free (p : MotionPhase) {r : Robot} (hcell : blocked r.cell = false)
    (h : ∃ heading, blocked (r.neighbour heading) = false) : DrivesOn blocked 6 (p, r) := by
  cases p with
  | cruising => exact drivesOn_cruising hcell h
  | stopped => exact (drivesOn_halted (Or.inl rfl) h).mono (by omega)
  | backedUp => exact (drivesOn_halted (Or.inr rfl) h).mono (by omega)
  | turning d => exact (drivesOn_turning d h).mono (by omega)

end DrivesOn

/-! ## A walled-in robot stays -/

/-- The robot is on `c`, with walls on all four sides. -/
structure WalledIn (blocked : Cell → Bool) (c : Cell) (q : MotionPhase × Robot) : Prop where
  cell : q.2.cell = c
  walls : ∀ heading, blocked (q.2.neighbour heading) = true

/-- A robot that is walled in stays where it is. -/
theorem WalledIn.obey {blocked : Cell → Bool} {c : Cell} {q : MotionPhase × Robot}
    (h : WalledIn blocked c q) (command : MotionCommand) : (q.2.obey blocked command).cell = c := by
  have hgo : ∀ heading, q.2.go blocked (q.2.neighbour heading) = q.2 := by
    intro heading
    rw [Robot.go, if_pos (h.walls heading)]
  cases command with
  | moveForward => exact (congrArg Robot.cell (hgo q.2.dir)).trans h.cell
  | moveBackward =>
      rw [Robot.obey, Robot.rearCell_eq]
      exact (congrArg Robot.cell (hgo (q.2.dir + 2))).trans h.cell
  | _ => exact h.cell

theorem WalledIn.step {blocked : Cell → Bool} {c : Cell} {q : MotionPhase × Robot}
    (h : WalledIn blocked c q) (choice : TurnDirection) :
    WalledIn blocked c ((roaming blocked).next q choice) ∧
      (roaming blocked).out q choice ≠ .moveForward := by
  have hcell : ((roaming blocked).next q choice).2.cell = c := h.obey _
  refine ⟨⟨hcell, ?_⟩, ?_⟩
  · intro heading
    rw [Robot.neighbour_congr (hcell.trans h.cell.symm)]
    exact h.walls heading
  · intro hforward
    have hphase := MotionPhase.command_injective (hforward.trans
      (rfl : _ = MotionPhase.cruising.command))
    have hclear : (q.2.look blocked).frontBlocked = false :=
      ((MotionPhase.next_eq_cruising _ _ _).mp hphase).1
    have hwall := h.walls q.2.dir
    rw [show blocked (q.2.neighbour q.2.dir) = false from hclear] at hwall
    cases hwall

/-- **Never stuck while there is a way out.**  From any phase of a started
session and any free cell: with a free cell next to it, the robot moves forward
to another cell within six rounds; with none, it stays where it is for good and
is never told to move forward. -/
theorem never_stuck (s : SimulatorService) (g : Grid) (hs : Started s) (hg : g.RobotFree)
    (es : List Round) (hstatic : ∀ e ∈ es, e.Static) :
    ((∃ heading, g.isBlocked (g.robot.neighbour heading) = false) → 6 ≤ es.length →
      ∃ n < 6, (commanded (s, g) es)[n]? = some .moveForward ∧
        (manualLoop.run (s, g) (es.take (n + 1))).2.robot.cell ≠
          (manualLoop.run (s, g) (es.take n)).2.robot.cell) ∧
    ((∀ heading, g.isBlocked (g.robot.neighbour heading) = true) →
      (manualLoop.run (s, g) es).2.robot.cell = g.robot.cell ∧
        .moveForward ∉ commanded (s, g) es) := by
  obtain ⟨p, hp⟩ := hs.moving
  have hroams : Roams g.isBlocked (s, g) (p, g.robot) := ⟨hp, rfl, fun _ => rfl⟩
  obtain ⟨ks, hlength, hrun, hcommanded⟩ := hroams.run hstatic
  rw [hcommanded]
  constructor
  · intro hfree hsix
    obtain ⟨n, hn, hout, hcell⟩ := drivesOn_of_free p hg hfree ks (by omega)
    rw [← (hrun (n + 1)).robot, ← (hrun n).robot] at hcell
    exact ⟨n, hn, hout, hcell⟩
  · intro hwalls
    have hwalled : WalledIn g.isBlocked g.robot.cell (p, g.robot) := ⟨rfl, hwalls⟩
    constructor
    · have hend := hrun es.length
      rw [List.take_length] at hend
      rw [hend.robot]
      exact ((roaming g.isBlocked).run_invariant hwalled
        (fun q choice h => (h.step choice).1) _).cell
    · intro hforward
      exact (roaming g.isBlocked).outputs_invariant
        (Q := fun command => command ≠ .moveForward) hwalled
        (fun q choice h => h.step choice) ks _ hforward rfl

/-- The theorem in a dead end: the robot faces the right border of a one-row
grid. -/
theorem never_stuck_in_dead_end :
    ∃ n < 6, (commanded (.after [.start "force_right"], { cols := 3, rows := 1, robot := ⟨2, 0, 0⟩ })
      (List.replicate 6 {}))[n]? = some .moveForward := by
  obtain ⟨n, hn, hforward, _⟩ := (never_stuck (.after [.start "force_right"])
    { cols := 3, rows := 1, robot := ⟨2, 0, 0⟩ } ⟨rfl, by decide⟩ rfl (List.replicate 6 {})
    (by simp [Round.Static])).1 ⟨2, by decide⟩ (by decide)
  exact ⟨n, hn, hforward⟩

/-! ## Leaving a dead end -/

/-- The robot `r` is in a dead end of the grid, with a way out behind it. -/
structure DeadEnd (g : Grid) (r : Robot) : Prop where
  front : g.isBlocked r.frontCell = true
  left : g.isBlocked r.leftCell = true
  right : g.isBlocked r.rightCell = true
  rear : g.isBlocked r.rearCell = false

/-- **A dead end is really left.**  Backed out of a dead end onto `B`, the robot
turns one way, once to three times, and then drives to a free neighbour of `B`
which is not the dead end. -/
theorem dead_end_is_left (s : SimulatorService) (g : Grid) (hs : Moving s .cruising)
    (hdead : DeadEnd g g.robot) (es : List Round) (hstatic : ∀ e ∈ es, e.Static)
    (hlength : 5 ≤ es.length) :
    let A := g.robot.cell
    let B := g.robot.moveTo g.robot.rearCell
    (∃ heading, g.isBlocked (B.neighbour heading) = false ∧ B.neighbour heading ≠ A) →
      ∃ (d : TurnDirection) (k : ℕ) (heading : Fin 4), 1 ≤ k ∧ k ≤ 3 ∧
        (commanded (s, g) es).take (k + 2) =
          .moveBackward :: List.replicate k d.command ++ [.moveForward] ∧
        (manualLoop.run (s, g) (es.take 1)).2.robot = B ∧
        (manualLoop.run (s, g) (es.take (k + 1))).2.robot = { B with dir := heading } ∧
        (manualLoop.run (s, g) (es.take (k + 2))).2.robot.cell = B.neighbour heading ∧
        g.isBlocked (B.neighbour heading) = false ∧ B.neighbour heading ≠ A := by
  intro A B hout
  have hroams : Roams g.isBlocked (s, g) (.cruising, g.robot) := ⟨hs, rfl, fun _ => rfl⟩
  obtain ⟨ks, hks, hrun, hcommanded⟩ := hroams.run hstatic
  obtain ⟨first, ks, rfl⟩ := List.exists_cons_of_length_pos (by omega : 0 < ks.length)
  obtain ⟨d, ks, rfl⟩ :=
    List.exists_cons_of_length_pos (by simp at hks; omega : 0 < ks.length)
  -- the robot backs up onto B, facing A, and begins to turn
  have hA : B.neighbour g.robot.dir = A := g.robot.frontCell_moveTo_rearCell
  have hback := roaming_backUp first hdead.front hdead.left hdead.right
  rw [Robot.go, if_neg (by simp [hdead.rear])] at hback
  have hturn : (roaming g.isBlocked).next (.backedUp, B) d = (.turning d, B.turned d 1) ∧
      (roaming g.isBlocked).out (.backedUp, B) d = d.command := roaming_halted d (Or.inr rfl)
  -- the way out is at one of the three headings it tries before A
  obtain ⟨heading, hfree, hne⟩ := hout
  have hheading : heading ≠ g.robot.dir := by
    intro h
    exact hne (h ▸ hA)
  obtain ⟨j, hj, hheading⟩ := d.exists_other_heading hheading
  have hclear : g.isBlocked ((B.turned d 1).turned d j).frontCell = false := by
    rw [Robot.turned_turned, Nat.add_comm]
    rw [← hheading] at hfree
    exact hfree
  obtain ⟨k, hk, hfound, hswept⟩ := turning_sweep g.isBlocked d ⟨j, hj, hclear⟩
  have hs := hswept ks (by simp at hks; omega)
  rw [Robot.turned_turned, Nat.add_comm] at hfound
  refine ⟨d, k + 1, g.robot.dir + (k + 1) • d.quarter, by omega, by omega, ?_, ?_, ?_, ?_,
    hfound, ?_⟩
  · rw [hcommanded, Mealy.outputs_cons, hback.1, hback.2, Mealy.outputs_cons, hturn.1, hturn.2]
    rw [List.take_succ_cons, List.take_succ_cons, hs.outputs]
    rfl
  · rw [(hrun 1).robot, List.take_succ_cons, Mealy.run_cons, hback.1]
    rfl
  · rw [(hrun (k + 2)).robot, List.take_succ_cons, List.take_succ_cons, Mealy.run_cons,
      Mealy.run_cons, hback.1, hturn.1, hs.turned, Robot.turned_turned, Nat.add_comm]
    rfl
  · rw [(hrun (k + 3)).robot, List.take_succ_cons, List.take_succ_cons, Mealy.run_cons,
      Mealy.run_cons, hback.1, hturn.1, hs.moved, Robot.turned_turned, Nat.add_comm]
    rfl
  · intro h
    apply d.heading_ne g.robot.dir hk
    exact B.neighbour_injective (h.trans hA.symm)

/-- The theorem where the way out is straight on behind: the second heading
the robot tries. -/
theorem dead_end_is_left_once :
    ∃ (d : TurnDirection) (k : ℕ), 1 ≤ k ∧ k ≤ 3 ∧
      (commanded (.after [.start "prefer_left"], { cols := 3, rows := 1, robot := ⟨2, 0, 0⟩ })
        (List.replicate 5 {})).take (k + 2) =
          .moveBackward :: List.replicate k d.command ++ [.moveForward] := by
  obtain ⟨d, k, _, hpos, hle, hcommands, _⟩ := dead_end_is_left (.after [.start "prefer_left"])
    { cols := 3, rows := 1, robot := ⟨2, 0, 0⟩ } ⟨rfl, .cruising rfl⟩ ⟨rfl, rfl, rfl, rfl⟩
    (List.replicate 5 {}) (by simp [Round.Static]) (by decide) ⟨2, by decide⟩
  exact ⟨d, k, hpos, hle, hcommands⟩

/-! ## One turn -/

/-- The active strategy prefers the left. -/
def PrefersLeft (s : SimulatorService) : Prop :=
  ∀ sensors, s.choose sensors = ITurnStrategy.choose ({} : PreferLeftTurnStrategy) sensors

/-- What such a strategy chooses where a side is open. -/
theorem choose_of_open_side {sensors : SensorSnapshot}
    (h : sensors.leftBlocked = false ∨ sensors.rightBlocked = false) :
    ITurnStrategy.choose ({} : PreferLeftTurnStrategy) sensors =
      if sensors.leftBlocked then .right else .left := by
  cases hl : sensors.leftBlocked with
  | false => simp [ITurnStrategy.choose, hl]
  | true =>
      have hr : sensors.rightBlocked = false := by simpa [hl] using h
      simp [ITurnStrategy.choose, hl, hr]

/-- **One turn is enough.**  A cruising robot that prefers the left, with its
front blocked and a side open, stops, turns and drives off to the left if that
is open, and to the right otherwise. -/
theorem one_turn_is_enough (s : SimulatorService) (g : Grid) (hs : Moving s .cruising)
    (hleft : PrefersLeft s) (hfront : g.isBlocked g.robot.frontCell = true)
    (hside : g.isBlocked g.robot.leftCell = false ∨ g.isBlocked g.robot.rightCell = false)
    (e₁ e₂ e₃ : Round) (h₁ : e₁.Static) (h₂ : e₂.Static) (h₃ : e₃.Static) :
    let after := manualLoop.run (s, g) [e₁, e₂, e₃]
    Moving after.1 .cruising ∧
      (g.isBlocked g.robot.leftCell = false →
        commanded (s, g) [e₁, e₂, e₃] = [.stop, .turnLeft, .moveForward] ∧
          after.2.robot.cell = g.robot.leftCell ∧ after.2.robot.dir = g.robot.dir + 3) ∧
      (g.isBlocked g.robot.leftCell = true →
        commanded (s, g) [e₁, e₂, e₃] = [.stop, .turnRight, .moveForward] ∧
          after.2.robot.cell = g.robot.rightCell ∧ after.2.robot.dir = g.robot.dir + 1) := by
  intro after
  have hroams : Roams g.isBlocked (s, g) (.cruising, g.robot) := ⟨hs, rfl, fun _ => rfl⟩
  let st := manualLoop.next (s, g) e₁
  let d : TurnDirection := if g.isBlocked g.robot.leftCell then .right else .left
  obtain ⟨hr₁, ho₁⟩ := hroams.round h₁
  rw [(roaming_stop _ hfront hside).1] at hr₁
  rw [(roaming_stop _ hfront hside).2] at ho₁
  -- the side the sensors show is the side the turn goes to
  have hchoice : st.1.choose (seen st e₂) = d := by
    have hseen := hr₁.seen h₂
    have hstrategy : st.1.choose (seen st e₂) = s.choose (seen st e₂) := by
      unfold SimulatorService.choose
      rw [(hs.round e₁).turnStrategy]
    rw [hstrategy, hleft, choose_of_open_side (by rw [hseen.left, hseen.right]; exact hside),
      hseen.left]
    rfl
  obtain ⟨hr₂, ho₂⟩ := hr₁.round h₂
  rw [(roaming_halted _ (Or.inl rfl)).1, hchoice] at hr₂
  rw [(roaming_halted _ (Or.inl rfl)).2, hchoice] at ho₂
  have hclear : g.isBlocked (g.robot.turned d 1).frontCell = false := by
    cases hl : g.isBlocked g.robot.leftCell with
    | false =>
        simp only [d, hl]
        exact hl
    | true =>
        simp only [d, hl]
        exact hside.resolve_left (by simp [hl])
  obtain ⟨hr₃, ho₃⟩ := hr₂.round h₃
  rw [(roaming_forward _ ⟨by simp, by simp⟩ hclear).1] at hr₃
  rw [(roaming_forward _ ⟨by simp, by simp⟩ hclear).2] at ho₃
  have hcommands : commanded (s, g) [e₁, e₂, e₃] = [.stop, d.command, .moveForward] := by
    simp only [commanded, Mealy.outputs_cons, Mealy.outputs_nil, List.map_cons, List.map_nil,
      ho₁, ho₂, ho₃]
  have hrobot : after.2.robot =
      (g.robot.turned d 1).moveTo (g.robot.turned d 1).frontCell := hr₃.robot
  refine ⟨hr₃.moving, ?_, ?_⟩
  · intro hl
    simp only [d, hl] at hcommands hrobot
    exact ⟨hcommands, by rw [hrobot]; rfl, by rw [hrobot]; rfl⟩
  · intro hl
    simp only [d, hl] at hcommands hrobot
    exact ⟨hcommands, by rw [hrobot]; rfl, by rw [hrobot]; rfl⟩

/-- The theorem at an obstacle with both sides open. -/
theorem one_turn_is_enough_once :
    commanded (.after [.start "prefer_left"],
        { cols := 5, rows := 5, robot := ⟨2, 2, 0⟩, obstacles := CellSet.add {} (3, 2) })
      [{}, {}, {}] = [.stop, .turnLeft, .moveForward] :=
  ((one_turn_is_enough (.after [.start "prefer_left"])
    { cols := 5, rows := 5, robot := ⟨2, 2, 0⟩, obstacles := CellSet.add {} (3, 2) }
    ⟨rfl, .cruising rfl⟩ (fun _ => rfl) (by decide) (Or.inl (by decide)) {} {} {}
    (by simp [Round.Static]) (by simp [Round.Static]) (by simp [Round.Static])).2.1
      (by decide)).1

end RvcControl
