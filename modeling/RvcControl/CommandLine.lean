import RvcControl.SensorReplay
import RvcControl.TwoSessions

/-!
# The command line

`rvc_cli` loads all snapshots into the reader at once and ticks as often as
there are snapshots; the simulator puts a list of one snapshot before every
tick.  Each tick of the command line finds its own snapshot nevertheless: the
cursor is as far as the ticks, and it is held back at the end only after the
last one.  From there on both are the same controller.
-/

namespace RvcControl

open SimulatorService

/-- The cleaning service of the command line, with its adapters. -/
abbrev CommandLine := InMemoryService PreferLeftTurnStrategy

/-- What the command line prints of a tick: the commands that are new in the
logs, and the motion state. -/
structure TickReport where
  motion : Option MotionCommand
  clean : Option CleaningCommand
  state : RobotMotionState
  deriving DecidableEq, Repr

namespace CommandLine

/-- The service with all snapshots loaded, started. -/
def started (snapshots : List SensorSnapshot) : CommandLine :=
  CleaningService.start
    { cliService with sensorReader := cliService.sensorReader.setSnapshots snapshots }

def report (before after : CommandLine) : TickReport where
  motion :=
    if after.motionActuator.history.length > before.motionActuator.history.length then
      after.motionActuator.history.getLast?
    else none
  clean :=
    if after.cleaningActuator.history.length > before.cleaningActuator.history.length then
      after.cleaningActuator.history.getLast?
    else none
  state := after.stateMachine.motionState

end CommandLine

/-- The command line, one tick after the other. -/
def commandLine : Mealy CommandLine Unit TickReport where
  step s _ := (s.tick, s.report s.tick)

/-- The loop of `main`: as many ticks as snapshots. -/
def cliTicks (snapshots : List SensorSnapshot) : List TickReport :=
  commandLine.outputs (.started snapshots) (List.replicate snapshots.length ())

/-- The same of a state that a simulator returns. -/
def TickReport.ofState (state : SimulatorState) : TickReport where
  motion := some state.lastMotion
  clean := some state.lastClean
  state := state.motionState

/-- A reader in range reads what its replay reads. -/
theorem ReplayReader.read_eq (r : ReplayReader) {snapshot : SensorSnapshot}
    (h : r.1.read.1 = .ok snapshot) : sensorsRead r = snapshot ∧ (r.read).2.1 = r.1.read.2 := by
  show r.read.1 = snapshot ∧ _
  unfold ReplayReader.read
  split
  · rename_i found hfound
    rw [h] at hfound
    exact ⟨(Except.ok.inj hfound).symm, rfl⟩
  · rename_i hthrown
    rw [h] at hthrown
    cases hthrown

/-- A tick of a service that shows a session, whatever its reader holds. -/
theorem Shows.tick {σ : Type*} [ITurnStrategy σ] {c : InMemoryService σ} {v : LiveSession}
    (h : Shows c v) :
    Shows c.tick (v.tick (sensorsRead c.sensorReader) 0) ∧
      c.tick.sensorReader = (ISensorReader.read c.sensorReader).2 := by
  have hp : v.nextPhase (sensorsRead c.sensorReader) =
      v.phase.next (sensorsRead c.sensorReader)
        (ITurnStrategy.choose c.turnStrategy (sensorsRead c.sensorReader)) := by
    rw [h.choose]
    rfl
  have hm : v.nextMode (sensorsRead c.sensorReader) 0 =
      c.stateMachine.cleaningMode.next v.phase (sensorsRead c.sensorReader)
        (ITimer.isBoostExpired c.timer) := by
    rw [h.mode, h.timer]
    rfl
  obtain ⟨htick, hphase, hmode⟩ := h.phase.service_tick h.running hp hm
  rw [CleaningMode.arm_fakeTimer] at htick
  rw [htick]
  refine ⟨⟨h.running, h.duration, hphase, hmode, ?_, h.choose, ?_, ?_⟩, rfl⟩
  · show (Suction.ofMode _).timer c.boostDuration = _
    rw [h.duration]
    rfl
  · rw [LiveSession.motions_tick, ← h.motions]
    rfl
  · rw [LiveSession.cleans_tick, ← h.cleans]
    rfl

/-- What is printed of a tick is what its session reports. -/
theorem Shows.report_eq {c c' : CommandLine} {v : LiveSession} {sensors : SensorSnapshot}
    {timerAdvance : Int} (h : Shows c v) (h' : Shows c' (v.tick sensors timerAdvance)) :
    c.report c' = .ofState (v.tick sensors timerAdvance).state := by
  simp [CommandLine.report, TickReport.ofState, LiveSession.state, h.motions, h'.motions,
    h.cleans, h'.cleans, LiveSession.motions_tick, LiveSession.cleans_tick, h'.phase.motionState]

/-- The command line after some ticks shows `v` and has `done` behind it and
`rest` before it. -/
structure Feeds (c : CommandLine) (v : LiveSession) (done rest : List SensorSnapshot) : Prop where
  shows : Shows c v
  replays : c.sensorReader.1.Replays (done ++ rest) done.length

/-- **One tick reads the next snapshot.** -/
theorem Feeds.tick {c : CommandLine} {v : LiveSession} {done rest : List SensorSnapshot}
    {sensors : SensorSnapshot} (h : Feeds c v done (sensors :: rest)) :
    sensorsRead c.sensorReader = sensors ∧
      Feeds c.tick (v.tick sensors 0) (done ++ [sensors]) rest := by
  have hpos : 0 < (done ++ sensors :: rest).length := by
    simp only [List.length_append, List.length_cons]
    omega
  obtain ⟨hread, hnext⟩ := h.replays.read_of_ne_nil hpos
  have hsensors : (done ++ sensors :: rest).get
      ⟨min done.length ((done ++ sensors :: rest).length - 1), by omega⟩ = sensors := by
    simp
  rw [hsensors] at hread
  obtain ⟨hfirst, hsecond⟩ := c.sensorReader.read_eq hread
  obtain ⟨hshows, hreader⟩ := h.shows.tick
  rw [hfirst] at hshows
  refine ⟨hfirst, hshows, ?_⟩
  rw [hreader]
  show InMemorySensorReader.Replays (c.sensorReader.read).2.1 _ _
  rw [hsecond, List.append_assoc, List.length_append]
  exact hnext

/-- **The rest of a run.**  Command line and simulator in step, as long as
there are snapshots. -/
theorem Feeds.outputs {c : CommandLine} {s : SimulatorService} {v : LiveSession}
    {done rest : List SensorSnapshot} (h : Feeds c v done rest) (hs : Presents s (some v)) :
    commandLine.outputs c (List.replicate rest.length ()) =
      (ticking.outputs s (rest.map fun sensors => (sensors, 0))).map TickReport.ofState := by
  induction rest generalizing c s v done with
  | nil => rfl
  | cons sensors rest ih =>
      obtain ⟨hread, hnext⟩ := h.tick
      have hs' := hs.tick sensors 0
      have hstate : ticking.out s (sensors, 0) = (v.tick sensors 0).state := hs'.getState
      have hreport : commandLine.out c () = .ofState (v.tick sensors 0).state :=
        h.shows.report_eq hnext.shows
      rw [List.length_cons, List.replicate_succ, Mealy.outputs_cons, hreport, List.map_cons,
        Mealy.outputs_cons, hstate, List.map_cons]
      exact congrArg (List.cons _) (ih hnext hs')

/-- The command line has read as many snapshots as it has ticked. -/
theorem Feeds.run {c : CommandLine} {v : LiveSession} {done rest more : List SensorSnapshot}
    (h : Feeds c v done (rest ++ more)) :
    ∃ w, Feeds (commandLine.run c (List.replicate rest.length ())) w (done ++ rest) more := by
  induction rest generalizing c v done with
  | nil => exact ⟨v, by simpa using h⟩
  | cons sensors rest ih =>
      obtain ⟨w, hw⟩ := ih h.tick.2
      rw [List.append_assoc] at hw
      exact ⟨w, hw⟩

/-- The service of the command line is about to read the first snapshot. -/
theorem started_feeds (snapshots : List SensorSnapshot) :
    Feeds (.started snapshots) (.started (chosenBy "prefer_left")) [] snapshots where
  shows := start_shows rfl rfl rfl fun _ => rfl
  replays := cliService.sensorReader.1.setSnapshots_replays snapshots

/-- **The command line and the simulator run the same controller.**  For any
list of snapshots, the command line prints at each tick what a simulator
reports that is started with the prefer-left strategy, whatever was called
before, and ticked with one snapshot after the other; and each tick of the
command line reads the snapshot of its own number. -/
theorem cli_runs_simulator (snapshots : List SensorSnapshot) (calls : List Call) :
    cliTicks snapshots =
        (ticking.outputs ((after calls).start "prefer_left")
          (snapshots.map fun sensors => (sensors, 0))).map TickReport.ofState ∧
      ∀ i : Fin snapshots.length,
        sensorsRead (commandLine.run (.started snapshots) (List.replicate i ())).sensorReader =
          snapshots.get i := by
  have hfeeds := started_feeds snapshots
  refine ⟨hfeeds.outputs ((after_presents calls).start "prefer_left"), ?_⟩
  intro i
  have hlength : (snapshots.take i).length = i := by simp [i.2.le]
  rw [← List.take_append_drop i snapshots, List.drop_eq_getElem_cons i.2] at hfeeds
  obtain ⟨w, hw⟩ := hfeeds.run
  rw [hlength] at hw
  have hread := hw.tick.1
  rw [← List.drop_eq_getElem_cons i.2, List.take_append_drop] at hread
  exact hread

end RvcControl
