import RvcControl.History
import RvcControl.LiveSession

/-!
# The command logs and the reported state

The simulator reports the last entries of two logs beside the state of the
machine.  A tick of a running session adds one entry to either log, the
commands that name the new phase and the new mode, so what is reported is
never stale: the four fields of a report determine each other
(`ReportConsistent`), and the logs are as long as there were running ticks
since they were cleared (`runningTicks`).
-/

namespace RvcControl

open History SimulatorService

/-- The motion state and the last motion command of a report name each other,
as do the cleaning mode and the last cleaning command; suction is on while the
robot drives on, and not normal while it does not. -/
structure ReportConsistent (state : SimulatorState) : Prop where
  movingForward : state.motionState = .movingForward ↔ state.lastMotion = .moveForward
  stopping : state.motionState = .stopping ↔ state.lastMotion = .stop
  backingUp : state.motionState = .backingUp ↔ state.lastMotion = .moveBackward
  turning : state.motionState = .turning ↔
    state.lastMotion = .turnLeft ∨ state.lastMotion = .turnRight
  off : state.cleaningMode = .off ↔ state.lastClean = .setOff
  normal : state.cleaningMode = .normal ↔ state.lastClean = .setNormal
  boost : state.cleaningMode = .boost ↔ state.lastClean = .setBoost
  forward : state.motionState = .movingForward →
    state.cleaningMode = .normal ∨ state.cleaningMode = .boost
  maneuver : state.motionState = .stopping ∨ state.motionState = .backingUp ∨
      state.motionState = .turning →
    state.cleaningMode = .off ∨ state.cleaningMode = .boost

/-- The report of a phase and a mode by the commands that name them. -/
def phaseReport (phase : MotionPhase) (mode : CleaningMode) : SimulatorState where
  motionState := phase.motionState
  cleaningMode := mode
  lastMotion := phase.command
  lastClean := mode.command
  running := true

/-- Off belongs to a manoeuvre and Normal to the straight. -/
theorem phaseReport_consistent {phase : MotionPhase} {mode : CleaningMode}
    (hoff : phase = .cruising → mode ≠ .off) (hnormal : phase ≠ .cruising → mode ≠ .normal) :
    ReportConsistent (phaseReport phase mode) := by
  have hforward : phase.motionState = .movingForward ↔ phase = .cruising := by
    cases phase <;> simp [MotionPhase.motionState]
  have hmode : ∀ mode', mode = mode' ↔ mode.command = mode'.command := fun mode' =>
    CleaningMode.command_injective.eq_iff.symm
  have hphase : ∀ phase', phase = phase' ↔ phase.command = phase'.command := fun phase' =>
    MotionPhase.command_injective.eq_iff.symm
  refine ⟨?_, ?_, ?_, ?_, hmode .off, hmode .normal, hmode .boost, ?_, ?_⟩
  · exact hforward.trans (hphase .cruising)
  · refine Iff.trans ?_ (hphase .stopped)
    cases phase <;> simp [phaseReport, MotionPhase.motionState]
  · refine Iff.trans ?_ (hphase .backedUp)
    cases phase <;> simp [phaseReport, MotionPhase.motionState]
  · refine Iff.trans ?_ (or_congr (hphase (.turning .left)) (hphase (.turning .right)))
    cases phase with
    | turning d => cases d <;> simp [phaseReport, MotionPhase.motionState]
    | _ => simp [phaseReport, MotionPhase.motionState]
  · intro h
    have hne := hoff (hforward.mp h)
    cases mode with
    | off => exact absurd rfl hne
    | normal => exact Or.inl rfl
    | boost => exact Or.inr rfl
  · intro h
    have hne : mode ≠ .normal := by
      apply hnormal
      intro hcruising
      rw [hcruising] at h
      rcases h with h | h | h <;> cases h
    cases mode with
    | off => exact Or.inl rfl
    | normal => exact absurd rfl hne
    | boost => exact Or.inr rfl

namespace LiveSession

variable (v : LiveSession) (sensors : SensorSnapshot) (timerAdvance : Int)

/-- The state after a tick reports its phase and mode. -/
theorem state_tick :
    (v.tick sensors timerAdvance).state =
      phaseReport (v.tick sensors timerAdvance).phase (v.tick sensors timerAdvance).mode := by
  simp [state, motions_tick, cleans_tick, phaseReport]

theorem state_tick_consistent : ReportConsistent (v.tick sensors timerAdvance).state := by
  rw [state_tick]
  apply phaseReport_consistent
  · intro h
    exact CleaningMode.next_ne_off h
  · intro h
    exact CleaningMode.next_ne_normal h

end LiveSession

/-! ## One tick -/

/-- The tick `tick` of `s` logs one command of either kind, and `state`, which
it returns and `GetState` returns after it, reports them. -/
structure TickLogged (s : SimulatorService) (tick : Call) (state : SimulatorState) : Prop where
  returned : simulator.out s tick = some state
  reported : simulator.out (simulator.next s tick) .getState = some state
  motion_ne_none : state.lastMotion ≠ .none
  clean_ne_none : state.lastClean ≠ .none
  motions : (simulator.next s tick).cleaningService.motionActuator.history =
    s.cleaningService.motionActuator.history ++ [state.lastMotion]
  cleans : (simulator.next s tick).cleaningService.cleaningActuator.history =
    s.cleaningService.cleaningActuator.history ++ [state.lastClean]
  consistent : ReportConsistent state

/-- The tick `tick` of `s` logs nothing and changes no reported field. -/
structure TickIgnored (s : SimulatorService) (tick : Call) : Prop where
  returned : simulator.out s tick = some s.getState
  reported : (simulator.next s tick).getState = s.getState
  motions : (simulator.next s tick).cleaningService.motionActuator.history =
    s.cleaningService.motionActuator.history
  cleans : (simulator.next s tick).cleaningService.cleaningActuator.history =
    s.cleaningService.cleaningActuator.history

/-- A tick of a running service is logged. -/
theorem Presents.tick_logged {s : SimulatorService} {v : LiveSession} (h : Presents s (some v))
    (sensors : SensorSnapshot) (timerAdvance : Int) :
    TickLogged s (.tick sensors timerAdvance) (v.tick sensors timerAdvance).state := by
  have h' := h.tick sensors timerAdvance
  have hbefore := h.shows v rfl
  have hafter := h'.shows _ rfl
  refine ⟨congrArg some h'.getState, congrArg some h'.getState, ?_, ?_, ?_, ?_,
    v.state_tick_consistent sensors timerAdvance⟩
  · rw [v.state_tick]
    exact MotionPhase.command_ne_none _
  · rw [v.state_tick]
    exact CleaningMode.command_ne_none _
  · rw [hbefore.motions, v.state_tick]
    exact hafter.motions.trans (v.motions_tick sensors timerAdvance)
  · rw [hbefore.cleans, v.state_tick]
    exact hafter.cleans.trans (v.cleans_tick sensors timerAdvance)

/-- One of a service that does not run is not. -/
theorem Presents.tick_ignored {s : SimulatorService} (h : Presents s none)
    (sensors : SensorSnapshot) (timerAdvance : Int) :
    TickIgnored s (.tick sensors timerAdvance) := by
  have h' := h.tick sensors timerAdvance
  have hbefore := h.neverStarted rfl
  have hafter := h'.neverStarted rfl
  have hstate := h'.getState.trans h.getState.symm
  refine ⟨congrArg some hstate, hstate, ?_, ?_⟩
  · exact hafter.motions.trans hbefore.motions.symm
  · exact hafter.cleans.trans hbefore.cleans.symm

/-! ## The length of the logs -/

namespace SimulatorService.Call

def isTick : Call → Bool
  | .tick _ _ => true
  | _ => false

/-- The calls that clear the logs. -/
def isRestart : Call → Bool
  | .reset => true
  | .start _ => true
  | _ => false

end SimulatorService.Call

/-- The simulator, answering every call with the running flag it finds. -/
def runningFlags : Mealy SimulatorService Call (Bool × Call) where
  step s call := (simulator.next s call, (s.cleaningService.running, call))

/-- The number of ticks of a running session since the last Start or Reset. -/
def runningTicks (calls : List Call) : ℕ :=
  sumSince (fun found => found.2.isRestart) (fun found => if found.1 && found.2.isTick then 1 else 0)
    (runningFlags.outputs .new calls)

/-- The ticks since the last restart, at the newest call. -/
theorem runningTicks_concat (calls : List Call) (call : Call) :
    runningTicks (calls ++ [call]) =
      if call.isRestart then 0
      else runningTicks calls +
        if (after calls).cleaningService.running && call.isTick then 1 else 0 := by
  rw [runningTicks, Mealy.outputs_append, Mealy.outputs_cons, Mealy.outputs_nil,
    sumSince_concat]
  rfl

/-- A service runs if it shows a session. -/
theorem Presents.running {s : SimulatorService} {v : Option LiveSession} (h : Presents s v) :
    s.cleaningService.running = v.isSome := by
  cases v with
  | none => exact (h.neverStarted rfl).running
  | some u => exact (h.shows u rfl).running

/-- The log of the session shown is as long as there were running ticks. -/
theorem length_shown (calls : List Call) :
    ((shown calls).map fun v => v.log.length).getD 0 = runningTicks calls := by
  induction calls using List.reverseRecOn with
  | nil => rfl
  | append_singleton calls call ih =>
      rw [runningTicks_concat, ← ih, (after_presents calls).running, shown, Mealy.run_concat,
        ← shown]
      cases call with
      | reset => cases shown calls <;> rfl
      | start turnStrategy => rfl
      | tick sensors timerAdvance =>
          cases shown calls with
          | none => rfl
          | some v => exact List.length_append
      | getState =>
          cases shown calls <;> rfl

/-- Both logs of a service are as long as the log of the session it shows. -/
theorem Presents.length_logs {s : SimulatorService} {v : Option LiveSession}
    (h : Presents s v) :
    s.cleaningService.motionActuator.history.length =
        (v.map fun v => v.log.length).getD 0 ∧
      s.cleaningService.cleaningActuator.history.length =
        (v.map fun v => v.log.length).getD 0 := by
  cases v with
  | none =>
      have hs := h.neverStarted rfl
      rw [hs.motions, hs.cleans]
      exact ⟨rfl, rfl⟩
  | some u =>
      have hs := h.shows u rfl
      rw [hs.motions, hs.cleans]
      exact ⟨u.length_motions, u.length_cleans⟩

/-- **The logs and the reports never disagree.**  After any history of calls
both logs are as long as there were running ticks since they were cleared; a
tick of a running session logs its commands and reports them, and a tick
before the first Start changes nothing a client can see. -/
theorem logs_agree (calls : List Call) :
    let s := after calls
    (s.cleaningService.motionActuator.history.length = runningTicks calls ∧
      s.cleaningService.cleaningActuator.history.length = runningTicks calls) ∧
    (s.cleaningService.running = true ↔ ∃ turnStrategy, .start turnStrategy ∈ calls) ∧
    ∀ sensors timerAdvance,
      (s.cleaningService.running = true →
        ∃ state, TickLogged s (.tick sensors timerAdvance) state) ∧
      ((∀ turnStrategy, .start turnStrategy ∉ calls) →
        TickIgnored s (.tick sensors timerAdvance)) := by
  intro s
  have h := after_presents calls
  have hrunning : s.cleaningService.running = true ↔
      ∃ turnStrategy, .start turnStrategy ∈ calls := by
    rw [h.running]
    exact shown_isSome_iff calls
  have hlogs := h.length_logs
  rw [length_shown] at hlogs
  refine ⟨hlogs, hrunning, ?_⟩
  intro sensors timerAdvance
  constructor
  · intro hrun
    rw [h.running] at hrun
    obtain ⟨v, hv⟩ := Option.isSome_iff_exists.mp hrun
    rw [hv] at h
    exact ⟨_, h.tick_logged sensors timerAdvance⟩
  · intro hnever
    rw [(shown_eq_none_iff calls).mpr hnever] at h
    exact h.tick_ignored sensors timerAdvance

end RvcControl
