import RvcControl.Controller
import RvcControl.SimulatorService

/-!
# What a simulator shows

A simulator service carries more than its clients can ever see: the sensor
reader's old snapshots, the turn direction of a turn long over, the strategy
objects.  A `LiveSession` is what is left once a session has been started: the
motion phase, the cleaning mode and the timer, the direction the current
strategy chooses on any sensors, and a log with one entry for every tick.

Mode and timer are kept apart here, unlike in `Controller`: `Reset` cancels
the timer under a running boost and leaves the mode as it is.

`simulator_refines_liveSessions` is the refinement, and `Presents.obsEq` what
it is for: two services that show the same cannot be told apart by any
sequence of calls.
-/

namespace RvcControl

/-- The constructor's default; no simulator service has another. -/
def defaultBoost : Int := 3000

structure LiveSession where
  phase : MotionPhase
  mode : CleaningMode
  timer : FakeTimer
  choose : SensorSnapshot → TurnDirection
  log : List (MotionPhase × CleaningMode)

namespace LiveSession

def started (choose : SensorSnapshot → TurnDirection) : LiveSession where
  phase := .cruising
  mode := .normal
  timer := {}
  choose := choose
  log := []

def reset (v : LiveSession) : LiveSession :=
  { v with timer := {}, log := [] }

/-- The timer as the tick finds it. -/
def timerAfter (v : LiveSession) (timerAdvance : Int) : FakeTimer :=
  if timerAdvance > 0 then v.timer.advance timerAdvance else v.timer

def nextPhase (v : LiveSession) (sensors : SensorSnapshot) : MotionPhase :=
  v.phase.next sensors (v.choose sensors)

def nextMode (v : LiveSession) (sensors : SensorSnapshot) (timerAdvance : Int) :
    CleaningMode :=
  v.mode.next v.phase sensors (v.timerAfter timerAdvance).isBoostExpired

def tick (v : LiveSession) (sensors : SensorSnapshot) (timerAdvance : Int) : LiveSession where
  phase := v.nextPhase sensors
  mode := v.nextMode sensors timerAdvance
  timer := (Suction.ofMode (v.nextMode sensors timerAdvance)).timer defaultBoost
  choose := v.choose
  log := v.log ++ [(v.nextPhase sensors, v.nextMode sensors timerAdvance)]

def motions (v : LiveSession) : List MotionCommand := v.log.map fun entry => entry.1.command

def cleans (v : LiveSession) : List CleaningCommand := v.log.map fun entry => entry.2.command

@[simp] theorem length_motions (v : LiveSession) : v.motions.length = v.log.length := by
  simp [motions]

@[simp] theorem length_cleans (v : LiveSession) : v.cleans.length = v.log.length := by
  simp [cleans]

/-- A tick logs the command of its phase. -/
theorem motions_tick (v : LiveSession) (sensors : SensorSnapshot) (timerAdvance : Int) :
    (v.tick sensors timerAdvance).motions =
      v.motions ++ [(v.tick sensors timerAdvance).phase.command] := by
  simp [motions, tick]

theorem cleans_tick (v : LiveSession) (sensors : SensorSnapshot) (timerAdvance : Int) :
    (v.tick sensors timerAdvance).cleans =
      v.cleans ++ [(v.tick sensors timerAdvance).mode.command] := by
  simp [cleans, tick]

def state (v : LiveSession) : SimulatorState where
  motionState := v.phase.motionState
  cleaningMode := v.mode
  lastMotion := v.motions.getLastD .none
  lastClean := v.cleans.getLastD .none
  running := true

/-- The state after a tick shows its motion. -/
theorem state_tick_lastMotion (v : LiveSession) (sensors : SensorSnapshot)
    (timerAdvance : Int) :
    (v.tick sensors timerAdvance).state.lastMotion =
      (v.tick sensors timerAdvance).phase.command := by
  simp [state, motions_tick]

theorem state_tick_lastClean (v : LiveSession) (sensors : SensorSnapshot)
    (timerAdvance : Int) :
    (v.tick sensors timerAdvance).state.lastClean =
      (v.tick sensors timerAdvance).mode.command := by
  simp [state, cleans_tick]

end LiveSession

/-- The direction the strategy of a given name chooses. -/
def chosenBy (turnStrategy : String) : SensorSnapshot → TurnDirection :=
  if turnStrategy = "force_right" then fun _ => .right
  else ITurnStrategy.choose ({} : PreferLeftTurnStrategy)

/-- Before the first start there is nothing to show but the defaults. -/
def report : Option LiveSession → SimulatorState
  | none => {}
  | some v => v.state

/-- The simulator service without anything its clients cannot see. -/
def liveSessions : Mealy (Option LiveSession) SimulatorService.Call (Option SimulatorState) where
  step v
    | .reset => (v.map LiveSession.reset, none)
    | .start turnStrategy => (some (.started (chosenBy turnStrategy)), none)
    | .tick sensors timerAdvance =>
        let v' := v.map fun v => v.tick sensors timerAdvance
        (v', some (report v'))
    | .getState => (v, some (report v))

/-! ## A cleaning service in a live session -/

/-- The reader hands out the snapshot it was set to. -/
theorem sensorsRead_setSnapshots (r : ReplayReader) (sensors : SensorSnapshot) :
    sensorsRead (r.setSnapshots [sensors]) = sensors := rfl

section Shows

variable {σ : Type*} [ITurnStrategy σ]

/-- The running service `c` shows `v`. -/
structure Shows (c : InMemoryService σ) (v : LiveSession) : Prop where
  running : c.running = true
  duration : c.boostDuration = defaultBoost
  phase : InPhase c.stateMachine v.phase
  mode : c.stateMachine.cleaningMode = v.mode
  timer : c.timer = v.timer
  choose : ∀ sensors, ITurnStrategy.choose c.turnStrategy sensors = v.choose sensors
  motions : c.motionActuator.history = v.motions
  cleans : c.cleaningActuator.history = v.cleans

/-- The timer as a driven tick finds it. -/
def InMemoryService.timerAfter (c : InMemoryService σ) (timerAdvance : Int) : FakeTimer :=
  if timerAdvance > 0 then c.timer.advance timerAdvance else c.timer

/-- **One driven tick of a running service**, by the phase and the mode it
leads to. -/
theorem InPhase.drive {c : InMemoryService σ} {p p' : MotionPhase} {mode' : CleaningMode}
    (h : InPhase c.stateMachine p) (hrunning : c.running = true) (sensors : SensorSnapshot)
    (timerAdvance : Int)
    (hp : p' = p.next sensors (ITurnStrategy.choose c.turnStrategy sensors))
    (hmode : mode' = c.stateMachine.cleaningMode.next p sensors
      (c.timerAfter timerAdvance).isBoostExpired) :
    ∃ machine reader,
      c.drive sensors timerAdvance =
        { c with
          sensorReader := reader
          stateMachine := machine
          motionActuator := { history := c.motionActuator.history ++ [p'.command] }
          cleaningActuator := { history := c.cleaningActuator.history ++ [mode'.command] }
          timer := (Suction.ofMode mode').timer c.boostDuration } ∧
      InPhase machine p' ∧ machine.cleaningMode = mode' := by
  let ready : InMemoryService σ :=
    { c with
      timer := c.timerAfter timerAdvance
      sensorReader := c.sensorReader.setSnapshots [sensors] }
  have hready : c.drive sensors timerAdvance = ready.tick := by
    simp only [InMemoryService.drive, ready, InMemoryService.timerAfter]
    split <;> rfl
  have hphase : InPhase ready.stateMachine p := h
  have hp' : p' = p.next (sensorsRead ready.sensorReader)
      (ITurnStrategy.choose ready.turnStrategy (sensorsRead ready.sensorReader)) := by
    rw [sensorsRead_setSnapshots]
    exact hp
  have hmode' : mode' = ready.stateMachine.cleaningMode.next p
      (sensorsRead ready.sensorReader) (ITimer.isBoostExpired ready.timer) := by
    rw [sensorsRead_setSnapshots]
    exact hmode
  obtain ⟨htick, hmachine⟩ := hphase.service_tick hrunning hp' hmode'
  rw [CleaningMode.arm_fakeTimer] at htick
  exact ⟨_, _, hready.trans htick, hmachine⟩

/-- One tick, driven by a client. -/
theorem Shows.drive {c : InMemoryService σ} {v : LiveSession} (h : Shows c v)
    (sensors : SensorSnapshot) (timerAdvance : Int) :
    Shows (c.drive sensors timerAdvance) (v.tick sensors timerAdvance) := by
  have htimer : c.timerAfter timerAdvance = v.timerAfter timerAdvance := by
    rw [InMemoryService.timerAfter, LiveSession.timerAfter, h.timer]
  have hp : v.nextPhase sensors =
      v.phase.next sensors (ITurnStrategy.choose c.turnStrategy sensors) := by
    rw [h.choose]
    rfl
  have hm : v.nextMode sensors timerAdvance =
      c.stateMachine.cleaningMode.next v.phase sensors
        (c.timerAfter timerAdvance).isBoostExpired := by
    rw [h.mode, htimer]
    rfl
  obtain ⟨machine, reader, hdrive, hphase, hmode⟩ :=
    h.phase.drive h.running sensors timerAdvance hp hm
  rw [hdrive]
  refine ⟨h.running, h.duration, hphase, hmode, ?_, h.choose, ?_, ?_⟩
  · show (Suction.ofMode _).timer c.boostDuration = _
    rw [h.duration]
    rfl
  · rw [LiveSession.motions_tick, ← h.motions]
    rfl
  · rw [LiveSession.cleans_tick, ← h.cleans]
    rfl

/-- A start with empty logs, whatever went before it. -/
theorem start_shows {c : InMemoryService σ} (hduration : c.boostDuration = defaultBoost)
    (hmotions : c.motionActuator.history = []) (hcleans : c.cleaningActuator.history = [])
    {choose : SensorSnapshot → TurnDirection}
    (hchoose : ∀ sensors, ITurnStrategy.choose c.turnStrategy sensors = choose sensors) :
    Shows c.start (.started choose) where
  running := rfl
  duration := hduration
  phase := c.stateMachine.start_inPhase
  mode := rfl
  timer := rfl
  choose := hchoose
  motions := hmotions
  cleans := hcleans

end Shows

/-- A service as it is before its first start. -/
structure NeverStarted (c : InMemoryService SwitchableTurnStrategy) : Prop where
  running : c.running = false
  duration : c.boostDuration = defaultBoost
  machine : c.stateMachine = {}
  timer : c.timer = {}
  motions : c.motionActuator.history = []
  cleans : c.cleaningActuator.history = []

/-- A tick does not start a service. -/
theorem NeverStarted.drive {c : InMemoryService SwitchableTurnStrategy} (h : NeverStarted c)
    (sensors : SensorSnapshot) (timerAdvance : Int) :
    NeverStarted (c.drive sensors timerAdvance) := by
  have hdrive : c.drive sensors timerAdvance =
      { c with sensorReader := c.sensorReader.setSnapshots [sensors] } := by
    have hadvance : c.timer.advance timerAdvance = c.timer := by
      rw [h.timer]
      rfl
    simp only [InMemoryService.drive, hadvance, ite_self]
    exact CleaningService.tick_of_not_running _ h.running
  rw [hdrive]
  exact ⟨h.running, h.duration, h.machine, h.timer, h.motions, h.cleans⟩

/-! ## The simulator service -/

/-- What the service `s` shows its clients is `v`. -/
structure Presents (s : SimulatorService) (v : Option LiveSession) : Prop where
  forceRight : s.forceRightStrategy = { direction := .right }
  neverStarted : v = none → NeverStarted s.cleaningService
  shows : ∀ u, v = some u → Shows s.cleaningService u

namespace Presents

variable {s : SimulatorService} {v : Option LiveSession}

/-- A service that was never started shows no session. -/
theorem ofNeverStarted (s : SimulatorService)
    (hright : s.forceRightStrategy = { direction := .right })
    (h : NeverStarted s.cleaningService) : Presents s none :=
  ⟨hright, fun _ => h, nofun⟩

/-- A service that was started shows one. -/
theorem ofShows (s : SimulatorService)
    (hright : s.forceRightStrategy = { direction := .right }) {u : LiveSession}
    (h : Shows s.cleaningService u) : Presents s (some u) :=
  ⟨hright, nofun, fun _ hu => Option.some.inj hu ▸ h⟩

/-- The boost duration is the default one. -/
theorem duration (h : Presents s v) : s.cleaningService.boostDuration = defaultBoost := by
  cases v with
  | none => exact (h.neverStarted rfl).duration
  | some u => exact (h.shows u rfl).duration

/-- The state that is asked for is that of the session. -/
theorem getState (h : Presents s v) : s.getState = report v := by
  cases v with
  | none =>
      have hs := h.neverStarted rfl
      simp [SimulatorService.getState, hs.running, hs.machine, hs.motions, hs.cleans, report]
  | some u =>
      have hs := h.shows u rfl
      simp [SimulatorService.getState, hs.running, hs.phase.motionState, hs.mode, hs.motions,
        hs.cleans, report, LiveSession.state]

/-- A reset clears what it clears of the session. -/
theorem reset (h : Presents s v) : Presents s.reset (v.map LiveSession.reset) := by
  cases v with
  | none =>
      have hs := h.neverStarted rfl
      exact ofNeverStarted _ h.forceRight ⟨hs.running, hs.duration, hs.machine, rfl, rfl, rfl⟩
  | some u =>
      have hs := h.shows u rfl
      exact ofShows s.reset h.forceRight
        ⟨hs.running, hs.duration, hs.phase, hs.mode, rfl, hs.choose, rfl, rfl⟩

/-- Whatever the service showed before, starting it shows a fresh session. -/
theorem start (h : Presents s v) (turnStrategy : String) :
    Presents (s.start turnStrategy) (some (.started (chosenBy turnStrategy))) := by
  apply ofShows (s.start turnStrategy) h.forceRight
  refine start_shows ?_ rfl rfl ?_
  · exact h.duration
  · intro sensors
    unfold chosenBy
    split
    · rw [h.forceRight]
      rfl
    · rfl

/-- A tick is one of the session. -/
theorem tick (h : Presents s v) (sensors : SensorSnapshot) (timerAdvance : Int) :
    Presents (s.tick sensors timerAdvance).1 (v.map fun v => v.tick sensors timerAdvance) := by
  cases v with
  | none =>
      exact ofNeverStarted _ h.forceRight ((h.neverStarted rfl).drive sensors timerAdvance)
  | some u =>
      exact ofShows (s.tick sensors timerAdvance).1 h.forceRight
        ((h.shows u rfl).drive sensors timerAdvance)

end Presents

/-- **The simulator service is a live session to its clients.** -/
theorem simulator_refines_liveSessions :
    Mealy.Simulation simulator liveSessions Presents Eq Eq where
  next := by
    intro s v call call' h hcall
    subst hcall
    cases call with
    | reset => exact h.reset
    | start turnStrategy => exact h.start turnStrategy
    | tick sensors timerAdvance => exact h.tick sensors timerAdvance
    | getState => exact h
  out := by
    intro s v call call' h hcall
    subst hcall
    cases call with
    | reset => rfl
    | start turnStrategy => rfl
    | tick sensors timerAdvance => exact congrArg some (h.tick sensors timerAdvance).getState
    | getState => exact congrArg some h.getState

/-- A new service shows none. -/
theorem new_presents : Presents .new none :=
  .ofNeverStarted _ rfl ⟨rfl, rfl, rfl, rfl, rfl, rfl⟩

/-- What a service shows after a history of calls. -/
def shown (calls : List SimulatorService.Call) : Option LiveSession :=
  liveSessions.run none calls

/-- After any calls the service shows the session they made. -/
theorem after_presents (calls : List SimulatorService.Call) :
    Presents (SimulatorService.after calls) (shown calls) := by
  apply simulator_refines_liveSessions.run new_presents
  rw [List.forall₂_eq_eq_eq]

/-- A service shows a live session exactly if it has ever been started. -/
theorem shown_isSome_iff (calls : List SimulatorService.Call) :
    (shown calls).isSome ↔ ∃ turnStrategy, .start turnStrategy ∈ calls := by
  induction calls using List.reverseRecOn with
  | nil => simp [shown]
  | append_singleton calls call ih =>
      rw [shown, Mealy.run_concat, ← shown]
      cases call <;> simp [Mealy.next, liveSessions, ih]

/-- There is none as long as nobody starts. -/
theorem shown_eq_none_iff (calls : List SimulatorService.Call) :
    shown calls = none ↔ ∀ turnStrategy, .start turnStrategy ∉ calls := by
  rw [← Option.not_isSome_iff_eq_none, shown_isSome_iff, not_exists]

end RvcControl
