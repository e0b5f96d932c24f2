import RvcControl.Grid
import RvcControl.History
import RvcControl.LiveSession

/-!
# The manual loop

In manual mode the page closes a loop around the service: it reads the sensors
off the grid, posts them as a tick, and moves the robot by the motion the tick
returns.  Between two rounds the user may click on the grid, to put or to remove
obstacles and dust.

The controller is C++ and the geometry is JavaScript, and they never speak of
cells to one another.  `Moving.round` is where the two meet; with it
`manualLoop_safe` follows from what the phases command and from what the page
makes of a command.
-/

namespace RvcControl

/-- A click on the grid; the shift key and the right button are for dust. -/
inductive Click
  | obstacle (c : Cell)
  | dust (c : Cell)
  deriving DecidableEq

namespace Grid

def click (g : Grid) : Click → Grid
  | .obstacle c => g.toggleObstacleAt c
  | .dust c => g.toggleDustAt c

def edit (g : Grid) (clicks : List Click) : Grid := clicks.foldl click g

@[simp] theorem edit_nil (g : Grid) : g.edit [] = g := rfl

@[simp] theorem edit_cons (g : Grid) (c : Click) (clicks : List Click) :
    g.edit (c :: clicks) = (g.click c).edit clicks := rfl

@[simp] theorem click_robot (g : Grid) (c : Click) : (g.click c).robot = g.robot := by
  cases c <;> rfl

@[simp] theorem edit_robot (g : Grid) (clicks : List Click) :
    (g.edit clicks).robot = g.robot := by
  induction clicks generalizing g with
  | nil => rfl
  | cons c clicks ih => rw [edit_cons, ih, click_robot]

/-- Whatever is clicked, only the obstacle of a clicked cell changes. -/
theorem isBlocked_edit (g : Grid) (clicks : List Click) {d : Cell}
    (h : Click.obstacle d ∉ clicks) : (g.edit clicks).isBlocked d = g.isBlocked d := by
  induction clicks generalizing g with
  | nil => rfl
  | cons c clicks ih =>
      obtain ⟨hc, hrest⟩ := not_or.mp (mt List.mem_cons.mpr h)
      rw [edit_cons, ih _ hrest]
      cases c with
      | obstacle c =>
          have hne : d ≠ c := fun hd => hc (hd ▸ rfl)
          simp only [click, toggleObstacleAt, isBlocked, CellSet.has_toggle_of_ne _ hne]
      | dust c => rfl

end Grid

/-- One round: the clicks since the last round, and the time the post lets
pass.  The page's own posts name no time, which the server takes for zero. -/
structure Round where
  clicks : List Click := []
  timerAdvance : Int := 0
  deriving DecidableEq

/-- What the page posts in a round. -/
def seen (st : SimulatorService × Grid) (e : Round) : SensorSnapshot :=
  (st.2.edit e.clicks).readSensorsFromGrid

/-- `runManualTick`, from the sensors it reads to the result it applies. -/
def runManualTick (st : SimulatorService × Grid) (e : Round) :
    (SimulatorService × Grid) × SimulatorState :=
  let g := st.2.edit e.clicks
  let (s, state) := st.1.tick g.readSensorsFromGrid e.timerAdvance
  ((s, g.applyTickResult state), state)

def manualLoop : Mealy (SimulatorService × Grid) Round SimulatorState := ⟨runManualTick⟩

/-! ## Started sessions -/

/-- A session that has been started: it runs, and its machine has left the
idle state for good. -/
structure Started (s : SimulatorService) : Prop where
  running : s.cleaningService.running = true
  motionState : s.cleaningService.stateMachine.motionState ≠ .idle

/-- A started session in a known phase. -/
structure Moving (s : SimulatorService) (p : MotionPhase) : Prop where
  running : s.cleaningService.running = true
  phase : InPhase s.cleaningService.stateMachine p

/-- The direction the active strategy would choose. -/
def SimulatorService.choose (s : SimulatorService) (sensors : SensorSnapshot) :
    TurnDirection :=
  ITurnStrategy.choose s.cleaningService.turnStrategy sensors

/-- A started service is in some phase. -/
theorem Started.moving {s : SimulatorService} (h : Started s) : ∃ p, Moving s p := by
  obtain ⟨p, hp⟩ := CleaningStateMachine.exists_inPhase_iff.mpr h.motionState
  exact ⟨p, h.running, hp⟩

theorem Moving.started {s : SimulatorService} {p : MotionPhase} (h : Moving s p) : Started s :=
  ⟨h.running, CleaningStateMachine.exists_inPhase_iff.mp ⟨p, h.phase⟩⟩

/-- `Start` is all it takes, whatever is called before and after it. -/
theorem started_after_iff (calls : List SimulatorService.Call) :
    Started (.after calls) ↔ ∃ turnStrategy, .start turnStrategy ∈ calls := by
  rw [← shown_isSome_iff]
  have h := after_presents calls
  cases hv : shown calls with
  | none =>
      have hidle := (h.neverStarted hv).running
      simp only [Option.isSome_none, Bool.false_eq_true, iff_false]
      intro hs
      rw [hs.running] at hidle
      cases hidle
  | some v =>
      have hv := h.shows v hv
      have hmoving : Moving (.after calls) v.phase := ⟨hv.running, hv.phase⟩
      simp [hmoving.started]

/-! ## One round -/

/-- The phase after a round that begins in phase `p`. -/
def phaseAfter (st : SimulatorService × Grid) (e : Round) (p : MotionPhase) : MotionPhase :=
  p.next (seen st e) (st.1.choose (seen st e))

/-- What a round does that begins in phase `p`. -/
structure RoundFrom (st : SimulatorService × Grid) (e : Round) (p : MotionPhase) : Prop where
  moving : Moving (manualLoop.next st e).1 (phaseAfter st e p)
  turnStrategy : (manualLoop.next st e).1.cleaningService.turnStrategy =
    st.1.cleaningService.turnStrategy
  lastMotion : (manualLoop.out st e).lastMotion = (phaseAfter st e p).command
  robot : (manualLoop.next st e).2.robot =
    ((st.2.edit e.clicks).applyMotion (phaseAfter st e p).command).robot
  walls : (manualLoop.next st e).2.SameWalls (st.2.edit e.clicks)

/-- **One round.**  The service answers the phase it moves to, and the page
does what that phase commands. -/
theorem Moving.round {st : SimulatorService × Grid} {p : MotionPhase} (h : Moving st.1 p)
    (e : Round) : RoundFrom st e p := by
  obtain ⟨machine, reader, hdrive, hphase, hmode⟩ :=
    h.phase.drive h.running (seen st e) e.timerAdvance rfl rfl
  have htick : (manualLoop.next st e).1.cleaningService =
      st.1.cleaningService.drive (seen st e) e.timerAdvance := rfl
  have hlast : (manualLoop.out st e).lastMotion = (phaseAfter st e p).command := by
    show (List.getLastD
      (st.1.cleaningService.drive (seen st e) e.timerAdvance).motionActuator.history .none) = _
    rw [hdrive]
    simp [phaseAfter, SimulatorService.choose]
  refine ⟨⟨?_, ?_⟩, ?_, hlast, ?_, ?_⟩
  · rw [htick, hdrive]
    exact h.running
  · rw [htick, hdrive]
    exact hphase
  · rw [htick, hdrive]
  · rw [← hlast]
    exact Grid.applyTickResult_robot _ _
  · exact Grid.applyTickResult_sameWalls _ _

/-! ## Safety -/

/-- The obstacle clicks of a round leave the robot's own cell alone. -/
def SparesRobot (start : SimulatorService × Grid) (before : List Round) (e : Round) : Prop :=
  Click.obstacle (manualLoop.run start before).2.robot.cell ∉ e.clicks

/-- Clicks elsewhere leave the robot's cell free. -/
theorem Grid.RobotFree.edit {g : Grid} (h : g.RobotFree) {clicks : List Click}
    (hspare : Click.obstacle g.robot.cell ∉ clicks) : (g.edit clicks).RobotFree := by
  unfold Grid.RobotFree
  rw [Grid.edit_robot, Grid.isBlocked_edit g clicks hspare]
  exact h

/-- What holds between the rounds: the session is started and the robot is
where it may be. -/
structure Safe (st : SimulatorService × Grid) : Prop where
  started : Started st.1
  free : st.2.RobotFree

/-- One round, with no click on the robot's cell. -/
theorem Safe.round {st : SimulatorService × Grid} (h : Safe st) {e : Round}
    (hspare : Click.obstacle st.2.robot.cell ∉ e.clicks) : Safe (manualLoop.next st e) := by
  obtain ⟨p, hp⟩ := h.started.moving
  have hround := hp.round e
  refine ⟨hround.moving.started, ?_⟩
  have hmoved := (h.free.edit hspare).applyMotion (phaseAfter st e p).command
  unfold Grid.RobotFree at hmoved ⊢
  rw [hround.walls.isBlocked, hround.robot]
  rw [(Grid.applyMotion_sameWalls _ _).isBlocked] at hmoved
  exact hmoved

theorem safe_run {start : SimulatorService × Grid} (hstart : Safe start) {es : List Round}
    (h : History.Historically (SparesRobot start) es) : Safe (manualLoop.run start es) := by
  induction es using List.reverseRecOn with
  | nil => exact hstart
  | append_singleton es e ih =>
      obtain ⟨hes, he⟩ := History.historically_concat.mp h
      rw [manualLoop.run_concat]
      exact (ih hes).round he

/-- A round that moves the robot forward has read a clear front, so the page
does not hold the robot back. -/
theorem Moving.round_moveForward {st : SimulatorService × Grid} {p : MotionPhase}
    (h : Moving st.1 p) {e : Round} (hforward : (manualLoop.out st e).lastMotion = .moveForward) :
    (seen st e).frontBlocked = false ∧
      (manualLoop.next st e).2.robot = st.2.robot.moveTo st.2.robot.frontCell := by
  have hround := h.round e
  have hcommand : (phaseAfter st e p).command = MotionPhase.cruising.command :=
    hround.lastMotion.symm.trans hforward
  have hphase := MotionPhase.command_injective hcommand
  have hclear := ((MotionPhase.next_eq_cruising _ _ _).mp hphase).1
  refine ⟨hclear, ?_⟩
  have hfree : (st.2.edit e.clicks).isBlocked st.2.robot.frontCell = false := by
    simpa [seen, Grid.readSensorsFromGrid] using hclear
  rw [hround.robot, hcommand]
  simp [MotionPhase.command, Grid.applyMotion, Grid.tryMove, hfree]

/-- Every other round leaves the robot on its cell, or backs it up by one. -/
theorem Moving.round_other {st : SimulatorService × Grid} {p : MotionPhase}
    (h : Moving st.1 p) {e : Round} (hother : (manualLoop.out st e).lastMotion ≠ .moveForward) :
    (manualLoop.next st e).2.robot.cell = st.2.robot.cell ∨
      (manualLoop.out st e).lastMotion = .moveBackward ∧
        (manualLoop.next st e).2.robot = st.2.robot.moveTo st.2.robot.rearCell := by
  have hround := h.round e
  rw [hround.lastMotion] at hother ⊢
  rw [hround.robot]
  cases hcommand : (phaseAfter st e p).command with
  | moveForward => exact absurd hcommand hother
  | moveBackward =>
      simp only [Grid.applyMotion, Grid.tryMove, Grid.edit_robot]
      split
      · exact Or.inr ⟨trivial, rfl⟩
      · exact Or.inl (by rw [Grid.edit_robot])
  | _ => exact Or.inl (by simp [Grid.applyMotion, Robot.cell])

/-- **The loop is safe.**  Wherever the user puts obstacles and dust, the
robot's own cell apart, the robot of a started session is on a free cell after
every round; a `MoveForward` puts it onto the cell its front sensor has just
read, and everything else leaves it where it is or one cell straight behind. -/
theorem manualLoop_safe (s : SimulatorService) (g : Grid) (hs : Started s) (hg : g.RobotFree)
    (es : List Round) (e : Round) (h : History.Historically (SparesRobot (s, g)) (es ++ [e])) :
    let before := manualLoop.run (s, g) es
    let after := manualLoop.run (s, g) (es ++ [e])
    let command := (manualLoop.out before e).lastMotion
    after.2.RobotFree ∧
      (command = .moveForward →
        (seen before e).frontBlocked = false ∧
          after.2.robot = before.2.robot.moveTo before.2.robot.frontCell) ∧
      (command ≠ .moveForward →
        after.2.robot.cell = before.2.robot.cell ∨
          command = .moveBackward ∧
            after.2.robot = before.2.robot.moveTo before.2.robot.rearCell) := by
  intro before after command
  have hbefore : Safe before := safe_run ⟨hs, hg⟩ (History.historically_concat.mp h).1
  have hafter : Safe after := safe_run ⟨hs, hg⟩ h
  have hstep : after = manualLoop.next before e := manualLoop.run_concat _ _ _
  obtain ⟨p, hp⟩ := hbefore.started.moving
  refine ⟨hafter.free, ?_, ?_⟩
  · intro hforward
    rw [hstep]
    exact hp.round_moveForward hforward
  · intro hother
    rw [hstep]
    exact hp.round_other hother

/-- The theorem for a first round before which an obstacle is put in front of
the robot and dust under it. -/
theorem manualLoop_safe_once :
    (manualLoop.run (.after [.start "prefer_left"], { cols := 5, rows := 5, robot := ⟨2, 2, 0⟩ })
      [{ clicks := [.obstacle (3, 2), .dust (2, 2)] }]).2.RobotFree :=
  (manualLoop_safe (.after [.start "prefer_left"]) { cols := 5, rows := 5, robot := ⟨2, 2, 0⟩ }
    ⟨rfl, by decide⟩ rfl [] { clicks := [.obstacle (3, 2), .dust (2, 2)] }
    (History.historically_concat.mpr ⟨History.historically_nil _, by
      simp [SparesRobot, Robot.cell]⟩)).1

end RvcControl
