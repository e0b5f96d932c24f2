import RvcControl.InMemoryAdapters
import RvcControl.MotionPhase

/-!
# The motion commands of a run

For the motion of the robot it does not matter how the timer and the cleaning
actuator behave.  The runs of this file are ticks of a service that logs its
motion commands, over any other ports; every tick finds the reader, the timer
and the strategy in whatever state its surroundings have put them.

What such a run issues is what the four-phase automaton answers
(`ticks_follow_motionPhases`), and the automaton's phase can be read off the last command.
-/

namespace RvcControl

/-- The ports as a tick finds them. -/
structure TickPorts (ρ τ σ : Type*) where
  reader : ρ
  timer : τ
  strategy : σ

variable {ρ κ τ σ : Type*} [ISensorReader ρ] [ICleaningActuator κ] [ITimer τ]
  [ITurnStrategy σ]

/-- The sensors a tick reads and the direction its strategy chooses on them. -/
def TickPorts.view (i : TickPorts ρ τ σ) : SensorSnapshot × TurnDirection :=
  (sensorsRead i.reader, ITurnStrategy.choose i.strategy (sensorsRead i.reader))

def tickWith (s : CleaningService ρ InMemoryMotionActuator κ τ σ) (i : TickPorts ρ τ σ) :
    CleaningService ρ InMemoryMotionActuator κ τ σ :=
  CleaningService.tick
    { s with sensorReader := i.reader, timer := i.timer, turnStrategy := i.strategy }

/-- The service as a machine: a tick answers with what it adds to the motion
log. -/
def ticks : Mealy (CleaningService ρ InMemoryMotionActuator κ τ σ) (TickPorts ρ τ σ)
    (List MotionCommand) where
  step s i :=
    (tickWith s i,
      (tickWith s i).motionActuator.history.drop s.motionActuator.history.length)

section Phases

variable {s : CleaningService ρ InMemoryMotionActuator κ τ σ} {p : MotionPhase}

/-- One tick: the service runs on, in the next phase, and has issued the
command of that phase. -/
theorem tickWith_phase (hrunning : s.running = true) (hphase : InPhase s.stateMachine p)
    (i : TickPorts ρ τ σ) :
    (tickWith s i).running = true ∧
      InPhase (tickWith s i).stateMachine (motionPhases.next p i.view) ∧
      (tickWith s i).motionActuator.history =
        s.motionActuator.history ++ [motionPhases.out p i.view] := by
  let t : CleaningService ρ InMemoryMotionActuator κ τ σ :=
    { s with sensorReader := i.reader, timer := i.timer, turnStrategy := i.strategy }
  have htick : tickWith s i = _ := CleaningService.tick_of_running t hrunning
  have hmotion : t.tickResult.2.motion = motionPhases.out p i.view :=
    hphase.tick_motion (t.tickContext (sensorsRead i.reader))
  have hnone : motionPhases.out p i.view ≠ .none := MotionPhase.command_ne_none _
  rw [htick, hmotion]
  simp only [CleaningService.executeMotion, if_pos hnone, CleaningService.executeClean_running,
    CleaningService.executeClean_stateMachine, CleaningService.executeClean_motionActuator]
  exact ⟨hrunning, hphase.tick _, rfl⟩

/-- **The service follows the automaton**, one command a tick. -/
theorem ticks_follow_motionPhases :
    Mealy.Simulation (ticks (ρ := ρ) (κ := κ) (τ := τ) (σ := σ)) motionPhases
      (fun s p => s.running = true ∧ InPhase s.stateMachine p) (fun i view => i.view = view)
      (fun issued motion => issued = [motion]) where
  next := by
    intro s p i view h hi
    subst hi
    obtain ⟨hrunning, hphase, _⟩ := tickWith_phase h.1 h.2 i
    exact ⟨hrunning, hphase⟩
  out := by
    intro s p i view h hi
    subst hi
    obtain ⟨_, _, hhistory⟩ := tickWith_phase h.1 h.2 i
    show (tickWith s i).motionActuator.history.drop _ = _
    rw [hhistory, List.drop_left]

/-- **The log of a run** grows by the answers of the automaton. -/
theorem motion_history (hrunning : s.running = true) (hphase : InPhase s.stateMachine p)
    (is : List (TickPorts ρ τ σ)) :
    (ticks.run s is).motionActuator.history =
      s.motionActuator.history ++ motionPhases.outputs p (is.map TickPorts.view) := by
  induction is generalizing s p with
  | nil => simp
  | cons i is ih =>
      obtain ⟨hrunning', hphase', hhistory⟩ := tickWith_phase hrunning hphase i
      calc (ticks.run s (i :: is)).motionActuator.history
          = (ticks.run (tickWith s i) is).motionActuator.history := rfl
        _ = (tickWith s i).motionActuator.history ++ _ := ih hrunning' hphase'
        _ = _ := by rw [hhistory, List.append_assoc]; rfl

end Phases

/-- The commands of a session are the answers of the automaton. -/
theorem ticks_outputs_start (s : CleaningService ρ InMemoryMotionActuator κ τ σ)
    (is : List (TickPorts ρ τ σ)) :
    ticks.outputs s.start is =
      (motionPhases.outputs .cruising (is.map TickPorts.view)).map fun motion => [motion] := by
  have hstart : s.start.running = true ∧ InPhase s.start.stateMachine .cruising :=
    ⟨rfl, s.stateMachine.start_inPhase⟩
  have hviews : List.Forall₂ (fun i view => TickPorts.view i = view) is
      (is.map TickPorts.view) := by
    rw [List.forall₂_map_right_iff]
    exact List.forall₂_same.mpr fun _ _ => rfl
  rw [← List.forall₂_eq_eq_eq, List.forall₂_map_right_iff]
  exact ticks_follow_motionPhases.outputs hstart hviews

/-- The phase before a tick is the one its predecessor's command names. -/
theorem phase_eq_iff_previous (is : List (SensorSnapshot × TurnDirection)) {j : ℕ}
    (hj : j < is.length) {q : MotionPhase} (hq : q ≠ .cruising) :
    motionPhases.run .cruising (is.take j) = q ↔
      ∃ i, j = i + 1 ∧ (motionPhases.outputs .cruising is)[i]? = some q.command := by
  cases j with
  | zero => simp [hq.symm]
  | succ i =>
      have hi : i < is.length := by omega
      have hrun : motionPhases.run .cruising (is.take (i + 1)) =
          motionPhases.next (motionPhases.run .cruising (is.take i)) is[i] := by
        rw [List.take_succ_eq_append_getElem hi, Mealy.run_concat]
      have hout : (motionPhases.outputs .cruising is)[i]? =
          some (motionPhases.run .cruising (is.take (i + 1))).command := by
        rw [Mealy.getElem?_outputs, List.getElem?_eq_getElem hi, hrun]
        rfl
      constructor
      · intro h
        exact ⟨i, rfl, by rw [hout, h]⟩
      · intro h
        obtain ⟨i', hi', h⟩ := h
        obtain rfl : i = i' := by omega
        rw [hout] at h
        exact MotionPhase.command_injective (Option.some.inj h)

/-- **Moving forward.**  Every tick of a session issues one motion command; it
moves the robot forward exactly if the front sensor it has just read is clear
and the tick before it, if there was one, neither stopped nor backed up.  So
the robot never moves forward into a blocked front. -/
theorem moveForward_iff (s : CleaningService ρ InMemoryMotionActuator κ τ σ)
    (is : List (TickPorts ρ τ σ)) :
    ∃ commands : List MotionCommand,
      ticks.outputs s.start is = commands.map (fun motion => [motion]) ∧
      ∀ j (hj : j < is.length),
        (commands[j]? = some .moveForward ↔
          (sensorsRead is[j].reader).frontBlocked = false ∧
            ∀ i, j = i + 1 →
              commands[i]? ≠ some .stop ∧ commands[i]? ≠ some .moveBackward) ∧
        ((sensorsRead is[j].reader).frontBlocked = true →
          commands[j]? ≠ some .moveForward) := by
  let commands := motionPhases.outputs .cruising (is.map TickPorts.view)
  refine ⟨commands, ticks_outputs_start s is, ?_⟩
  intro j hj
  have hj' : j < (is.map TickPorts.view).length := by simpa using hj
  have hiff : commands[j]? = some .moveForward ↔
      (sensorsRead is[j].reader).frontBlocked = false ∧
        ∀ i, j = i + 1 →
          commands[i]? ≠ some .stop ∧ commands[i]? ≠ some .moveBackward := by
    have hstop := phase_eq_iff_previous (is.map TickPorts.view) hj' (q := .stopped) nofun
    have hback := phase_eq_iff_previous (is.map TickPorts.view) hj' (q := .backedUp) nofun
    have hnext : commands[j]? = some .moveForward ↔
        (motionPhases.run .cruising ((is.map TickPorts.view).take j)).next
          (sensorsRead is[j].reader) is[j].view.2 = .cruising := by
      rw [Mealy.getElem?_outputs, List.getElem?_eq_getElem hj']
      simp only [Option.map_some, Option.some.injEq, List.getElem_map, motionPhases_out]
      exact MotionPhase.command_injective.eq_iff (b := .cruising)
    rw [hnext, MotionPhase.next_eq_cruising, Ne, hstop, Ne, hback]
    constructor
    · intro h
      refine ⟨h.1, ?_⟩
      intro i hi
      exact ⟨fun hc => h.2.1 ⟨i, hi, hc⟩, fun hc => h.2.2 ⟨i, hi, hc⟩⟩
    · intro h
      refine ⟨h.1, ?_, ?_⟩
      · intro hex
        obtain ⟨i, hi, hc⟩ := hex
        exact (h.2 i hi).1 hc
      · intro hex
        obtain ⟨i, hi, hc⟩ := hex
        exact (h.2 i hi).2 hc
  refine ⟨hiff, ?_⟩
  intro hfront hmove
  have hclear := (hiff.mp hmove).1
  rw [hfront] at hclear
  cases hclear

end RvcControl
