import Mathlib.Algebra.Ring.Int.Defs
import RvcControl.LiveSession
import RvcControl.MachineTimer

/-!
# The range of the boost time

`Advance` adds to the elapsed time without any check, and a client may send any
`timer_advance_ms`.  Between the calls of a simulator, however, the elapsed
time is always zero: a tick arms the timer afresh or cancels it, whatever it
was before.  So the one sum a tick forms is its own argument.
-/

namespace RvcControl

open SimulatorService

namespace SimulatorService

/-- The sums formed in the course of one call. -/
def advanceSums (s : SimulatorService) : Call → List Int
  | .tick _ timerAdvance =>
      if timerAdvance > 0 then s.cleaningService.timer.advanceSums timerAdvance else []
  | _ => []

end SimulatorService

/-- A timer that has just been set shows no time. -/
theorem Suction.ofMode_elapsed (mode : CleaningMode) (duration : Int) :
    ((Suction.ofMode mode).timer duration).elapsed = 0 := by
  cases mode <;> rfl

/-- No session shown has any boost time behind it. -/
theorem shown_elapsed (calls : List Call) : ∀ v, shown calls = some v → v.timer.elapsed = 0 := by
  induction calls using List.reverseRecOn with
  | nil =>
      intro v hv
      cases hv
  | append_singleton calls call ih =>
      intro v hv
      rw [shown, Mealy.run_concat, ← shown] at hv
      cases call with
      | reset =>
          obtain ⟨u, _, rfl⟩ := Option.map_eq_some_iff.mp hv
          rfl
      | start turnStrategy =>
          cases hv
          rfl
      | tick sensors timerAdvance =>
          obtain ⟨u, _, rfl⟩ := Option.map_eq_some_iff.mp hv
          exact Suction.ofMode_elapsed _ _
      | getState => exact ih v hv

/-- **Between calls the timer stands at zero.** -/
theorem elapsed_after (calls : List Call) : (after calls).cleaningService.timer.elapsed = 0 := by
  have h := after_presents calls
  cases hv : shown calls with
  | none => rw [(h.neverStarted hv).timer]
  | some v => rw [(h.shows v hv).timer, shown_elapsed calls v hv]

/-- What an advance leaves, if it can only have formed sums of a kind. -/
theorem FakeTimer.advance_elapsed_of_sums {P : Int → Prop} {t : FakeTimer} {delta : Int}
    (hnow : P t.elapsed) (hsums : ∀ sum ∈ t.advanceSums delta, P sum) :
    P (t.advance delta).elapsed := by
  rw [t.advance_elapsed]
  cases hlast : (t.advanceSums delta).getLast? with
  | none =>
      rw [List.getLast?_eq_none_iff.mp hlast]
      exact hnow
  | some sum =>
      rw [List.getLastD_eq_getLast?, hlast]
      exact hsums sum (List.mem_of_getLast? hlast)

/-- **Boost time cannot overflow.**  In any sequence of calls whose timer
advances are 64-bit integers, every sum that `Advance` forms is one too and not
negative, and such is the elapsed time it leaves. -/
theorem boost_time_in_range (calls : List Call)
    (h : ∀ sensors timerAdvance, .tick sensors timerAdvance ∈ calls → InInt64 timerAdvance)
    (before rest : List Call) (call : Call) (hsplit : calls = before ++ call :: rest) :
    (∀ sum ∈ (after before).advanceSums call, InInt64 sum ∧ 0 ≤ sum) ∧
      ∀ sensors timerAdvance, call = .tick sensors timerAdvance →
        InInt64 ((after before).cleaningService.timerAfter timerAdvance).elapsed ∧
          0 ≤ ((after before).cleaningService.timerAfter timerAdvance).elapsed := by
  have hsums : ∀ sum ∈ (after before).advanceSums call, InInt64 sum ∧ 0 ≤ sum := by
    intro sum hsum
    cases call with
    | tick sensors timerAdvance =>
        have hfits := h sensors timerAdvance (by simp [hsplit])
        simp only [SimulatorService.advanceSums, FakeTimer.advanceSums, elapsed_after] at hsum
        split at hsum
        · rename_i hpos
          split at hsum
          · rw [List.mem_singleton] at hsum
            rw [hsum, Int.zero_add]
            exact ⟨hfits, by omega⟩
          · cases hsum
        · cases hsum
    | _ => cases hsum
  refine ⟨hsums, ?_⟩
  rintro sensors timerAdvance rfl
  have hnow : InInt64 (after before).cleaningService.timer.elapsed ∧
      0 ≤ (after before).cleaningService.timer.elapsed := by
    rw [elapsed_after]
    decide
  rw [SimulatorService.advanceSums] at hsums
  rw [InMemoryService.timerAfter]
  split
  · rename_i hpos
    rw [if_pos hpos] at hsums
    exact FakeTimer.advance_elapsed_of_sums (P := fun n => InInt64 n ∧ 0 ≤ n) hnow hsums
  · exact hnow

/-- A boost and the longest advance there is. -/
theorem boost_time_in_range_once :
    (after [.start "prefer_left", .tick { dustDetected := true } 0]).advanceSums
        (.tick {} (2 ^ 63 - 1)) = [2 ^ 63 - 1] ∧
      (∀ sum ∈ (after [.start "prefer_left", .tick { dustDetected := true } 0]).advanceSums
        (.tick {} (2 ^ 63 - 1)), InInt64 sum ∧ 0 ≤ sum) ∧
      InInt64 ((after [.start "prefer_left",
        .tick { dustDetected := true } 0]).cleaningService.timerAfter (2 ^ 63 - 1)).elapsed := by
  have hcalls : ∀ sensors timerAdvance, Call.tick sensors timerAdvance ∈
      [.start "prefer_left", .tick { dustDetected := true } 0, .tick {} (2 ^ 63 - 1)] →
        InInt64 timerAdvance := by
    intro sensors timerAdvance hmem
    have hcases : timerAdvance = 0 ∨ timerAdvance = 2 ^ 63 - 1 := by
      simp only [List.mem_cons, Call.tick.injEq, reduceCtorEq, List.not_mem_nil, or_false,
        false_or] at hmem
      exact hmem.imp And.right And.right
    rcases hcases with rfl | rfl <;> decide
  obtain ⟨hsums, hleft⟩ := boost_time_in_range _ hcalls
    [.start "prefer_left", .tick { dustDetected := true } 0] [] (.tick {} (2 ^ 63 - 1)) rfl
  exact ⟨by decide, hsums, (hleft _ _ rfl).1⟩

end RvcControl
