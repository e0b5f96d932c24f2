import RvcControl.LiveSession

/-!
# What Start and Reset leave behind

Two services that show the same live session answer every further call alike,
so what `Start` and `Reset` leave of the past is what they leave in the live
session.  `Start` replaces it by a fresh one: nothing of the past can be
observed, although the machine still holds the direction of its last turn.
`Reset` clears the timer and the logs only: the session of a service that has
been started lives on.
-/

namespace RvcControl

open SimulatorService

/-- Services that show the same cannot be told apart. -/
theorem Presents.obsEq {s t : SimulatorService} {v : Option LiveSession} (hs : Presents s v)
    (ht : Presents t v) : simulator.ObsEq s t :=
  simulator_refines_liveSessions.obsEq hs ht

/-- **Start erases the past.**  Two services started with the same strategy
answer every sequence of calls alike, whatever was called before on either.
The services themselves may differ: the machine remembers the direction of an
earlier turn. -/
theorem start_erases_past :
    (∀ calls₁ calls₂ turnStrategy,
      simulator.ObsEq ((after calls₁).start turnStrategy) ((after calls₂).start turnStrategy)) ∧
    ∃ calls₁ calls₂ turnStrategy,
      ((after calls₁).start turnStrategy).cleaningService.stateMachine.activeTurnDirection ≠
        ((after calls₂).start turnStrategy).cleaningService.stateMachine.activeTurnDirection := by
  constructor
  · intro calls₁ calls₂ turnStrategy
    have h₁ := (after_presents calls₁).start turnStrategy
    have h₂ := (after_presents calls₂).start turnStrategy
    exact h₁.obsEq h₂
  · refine ⟨[], [.start "force_right", .tick { frontBlocked := true } 0,
      .tick { frontBlocked := true } 0], "prefer_left", ?_⟩
    decide

/-- **Reset restores a fresh session** exactly if there was no session to
reset: after it the service answers every call as a new one does if and only
if it has never been started. -/
theorem reset_restores_iff (calls : List Call) :
    ((after calls).reset.getState = SimulatorService.new.getState ∧
        simulator.ObsEq (after calls).reset .new) ↔
      ∀ turnStrategy, .start turnStrategy ∉ calls := by
  have hreset := (after_presents calls).reset
  constructor
  · intro h turnStrategy hmem
    have hstarted := (shown_isSome_iff calls).mpr ⟨turnStrategy, hmem⟩
    obtain ⟨v, hv⟩ := Option.isSome_iff_exists.mp hstarted
    rw [hv] at hreset
    have hrunning : (report (some v.reset)).running = (report none).running := by
      calc (report (some v.reset)).running
          = (after calls).reset.getState.running := by rw [hreset.getState]; rfl
        _ = SimulatorService.new.getState.running := by rw [h.1]
        _ = (report none).running := by rw [new_presents.getState]
    cases hrunning
  · intro h
    rw [(shown_eq_none_iff calls).mpr h] at hreset
    exact ⟨by rw [hreset.getState, new_presents.getState]; rfl, hreset.obsEq new_presents⟩

/-- A session is started and reset: it still runs, and a new one does not. -/
theorem reset_keeps_running :
    let s := (after [.start "prefer_left"]).reset
    s.getState = { motionState := .movingForward, cleaningMode := .normal, running := true } ∧
      s.getState ≠ SimulatorService.new.getState := by
  decide

end RvcControl
