import Mathlib.Algebra.Ring.Int.Defs
import RvcControl.Controller

/-!
# The timer with machine integers

`FakeTimer` adds milliseconds as integers.  The ones of the machine are signed
64-bit integers: `FakeTimer64` can hold no others, and what becomes of a sum
outside their range, which the language leaves open, is a parameter of it.

The two timers are compared where they matter, in a session.  As long as the
sums that `Advance` forms are 64-bit integers, a session over the timer of the
machine is the session over the exact one, command by command
(`session64_run_exact`).
-/

namespace RvcControl

/-- The milliseconds a signed 64-bit integer holds. -/
def InInt64 (milliseconds : Int) : Prop := -2 ^ 63 ≤ milliseconds ∧ milliseconds < 2 ^ 63

instance (milliseconds : Int) : Decidable (InInt64 milliseconds) :=
  inferInstanceAs (Decidable (_ ∧ _))

/-- The sums `elapsed_ + delta` that `Advance` forms, none while no boost is
active. -/
def FakeTimer.advanceSums (delta : Int) (t : FakeTimer) : List Int :=
  if t.active then [t.elapsed + delta] else []

/-- What `Advance` leaves is the sum it has formed. -/
theorem FakeTimer.advance_elapsed (delta : Int) (t : FakeTimer) :
    (t.advance delta).elapsed = (t.advanceSums delta).getLastD t.elapsed := by
  unfold advance advanceSums
  split <;> rfl

/-- A count of milliseconds, as the machine holds it. -/
structure Milliseconds where
  value : Int
  inRange : InInt64 value
  deriving DecidableEq

namespace Milliseconds

def zero : Milliseconds := ⟨0, by decide⟩

/-- The sum, if it is in the range. -/
def add (overflow : Int → Milliseconds) (elapsed : Milliseconds) (delta : Int) : Milliseconds :=
  if h : InInt64 (elapsed.value + delta) then ⟨elapsed.value + delta, h⟩
  else overflow (elapsed.value + delta)

/-- In the range the machine adds exactly. -/
theorem add_exact (overflow : Int → Milliseconds) {elapsed : Milliseconds} {delta : Int}
    (h : InInt64 (elapsed.value + delta)) :
    (elapsed.add overflow delta).value = elapsed.value + delta := by
  rw [add, dif_pos h]

/-- Two's complement: a sum outside the range goes round. -/
def wrap (milliseconds : Int) : Milliseconds :=
  ⟨(milliseconds + 2 ^ 63) % 2 ^ 64 - 2 ^ 63, by
    unfold InInt64
    omega⟩

end Milliseconds

/-- `FakeTimer`, with the elapsed time as the machine holds it. -/
structure FakeTimer64 (overflow : Int → Milliseconds) where
  active : Bool := false
  elapsed : Milliseconds := .zero
  duration : Int := 0

namespace FakeTimer64

variable {overflow : Int → Milliseconds}

def startBoost (duration : Int) (t : FakeTimer64 overflow) : FakeTimer64 overflow :=
  { t with active := true, elapsed := .zero, duration := duration }

def isBoostExpired (t : FakeTimer64 overflow) : Bool :=
  if !t.active then false else decide (t.elapsed.value ≥ t.duration)

def cancelBoost (t : FakeTimer64 overflow) : FakeTimer64 overflow :=
  { t with active := false, elapsed := .zero, duration := 0 }

def advance (delta : Int) (t : FakeTimer64 overflow) : FakeTimer64 overflow :=
  if t.active then { t with elapsed := t.elapsed.add overflow delta } else t

instance : ITimer (FakeTimer64 overflow) := ⟨startBoost, isBoostExpired, cancelBoost⟩

/-- The timer that shows the same and adds exactly. -/
def exact (t : FakeTimer64 overflow) : FakeTimer where
  active := t.active
  elapsed := t.elapsed.value
  duration := t.duration

/-- An advance in the range is exact. -/
theorem exact_advance {delta : Int} {t : FakeTimer64 overflow}
    (h : ∀ sum ∈ t.exact.advanceSums delta, InInt64 sum) :
    (t.advance delta).exact = t.exact.advance delta := by
  unfold advance FakeTimer.advance
  show FakeTimer64.exact _ = if t.active = true then _ else _
  by_cases hactive : t.active = true
  · have hsum : InInt64 (t.elapsed.value + delta) := by
      apply h
      show _ ∈ if t.active = true then _ else _
      rw [if_pos hactive]
      exact List.mem_singleton.mpr rfl
    rw [if_pos hactive, if_pos hactive, exact, exact]
    dsimp only
    rw [Milliseconds.add_exact overflow hsum]
  · rw [if_neg hactive, if_neg hactive]

end FakeTimer64

/-- A session over the timer of the machine. -/
abbrev Session64 (overflow : Int → Milliseconds) (ρ σ : Type*) :=
  CleaningService ρ InMemoryMotionActuator InMemoryCleaningActuator (FakeTimer64 overflow) σ

namespace Session64

variable {overflow : Int → Milliseconds} {ρ σ : Type*}

/-- What `t` has in its logs beyond the logs of `s`. -/
def issued (s t : Session64 overflow ρ σ) : Issued where
  motions := t.motionActuator.history.drop s.motionActuator.history.length
  cleans := t.cleaningActuator.history.drop s.cleaningActuator.history.length

/-- A service as its constructor leaves it, over a timer that is its own. -/
def new (sensorReader : ρ) (motionActuator : InMemoryMotionActuator)
    (cleaningActuator : InMemoryCleaningActuator) (turnStrategy : σ) (boostDuration : Int) :
    Session64 overflow ρ σ where
  sensorReader := sensorReader
  motionActuator := motionActuator
  cleaningActuator := cleaningActuator
  timer := {}
  turnStrategy := turnStrategy
  boostDuration := boostDuration

/-- The session over the exact timer. -/
def exact (s : Session64 overflow ρ σ) : Session ρ σ :=
  { sensorReader := s.sensorReader
    motionActuator := s.motionActuator
    cleaningActuator := s.cleaningActuator
    timer := s.timer.exact
    turnStrategy := s.turnStrategy
    boostDuration := s.boostDuration
    stateMachine := s.stateMachine
    running := s.running }

variable [ISensorReader ρ] [ITurnStrategy σ]

/-- One event of a session. -/
def handle (s : Session64 overflow ρ σ) : SessionEvent ρ σ → Session64 overflow ρ σ
  | .start => s.start
  | .tick reader strategy =>
      CleaningService.tick { s with sensorReader := reader, turnStrategy := strategy }
  | .advance delta => { s with timer := s.timer.advance delta }

end Session64

variable {overflow : Int → Milliseconds} {ρ σ : Type*} [ISensorReader ρ] [ITurnStrategy σ]

def session64 : Mealy (Session64 overflow ρ σ) (SessionEvent ρ σ) Issued where
  step s e := (s.handle e, s.issued (s.handle e))

@[simp] theorem session64_next (s : Session64 overflow ρ σ) (e : SessionEvent ρ σ) :
    session64.next s e = s.handle e := rfl

/-- An event answers with the commands it has issued. -/
theorem session64_out (s : Session64 overflow ρ σ) (e : SessionEvent ρ σ) :
    session64.out s e = s.issued (s.handle e) := rfl

namespace Session64

omit [ISensorReader ρ] [ITurnStrategy σ] in
/-- The motion command does not see the timer. -/
theorem exact_executeMotion (s : Session64 overflow ρ σ) (motion : MotionCommand) :
    exact (s.executeMotion motion) = s.exact.executeMotion motion := by
  unfold CleaningService.executeMotion
  split <;> rfl

omit [ISensorReader ρ] [ITurnStrategy σ] in
/-- Arming and cancelling leave no sum behind. -/
theorem exact_executeClean (s : Session64 overflow ρ σ) (clean : CleaningCommand) :
    exact (s.executeClean clean) = s.exact.executeClean clean := by
  cases clean <;> rfl

/-- A tick reads of the timer only whether it has expired. -/
theorem exact_tick (s : Session64 overflow ρ σ) : exact s.tick = s.exact.tick := by
  cases hrunning : s.running with
  | false => rw [s.tick_of_not_running hrunning, s.exact.tick_of_not_running hrunning]
  | true =>
      have hresult : s.exact.tickResult = s.tickResult := rfl
      rw [s.tick_of_running hrunning, s.exact.tick_of_running hrunning, exact_executeClean,
        exact_executeMotion, hresult]
      rfl

/-- **One event**, with its sums in the range. -/
theorem exact_handle {s : Session64 overflow ρ σ} {e : SessionEvent ρ σ}
    (h : ∀ delta, e = .advance delta → ∀ sum ∈ s.exact.timer.advanceSums delta, InInt64 sum) :
    exact (s.handle e) = s.exact.handle e := by
  cases e with
  | start => rfl
  | tick reader strategy =>
      exact exact_tick { s with sensorReader := reader, turnStrategy := strategy }
  | advance delta =>
      have hexact := FakeTimer64.exact_advance (h delta rfl)
      rw [handle, Session.handle, exact]
      dsimp only
      rw [hexact]
      rfl

end Session64

/-- **The session of the machine is the exact one**, state by state and command
by command, as long as every sum that an `Advance` forms is a 64-bit integer. -/
theorem session64_run_exact {s : Session64 overflow ρ σ} {es : List (SessionEvent ρ σ)}
    (h : ∀ before delta rest, es = before ++ .advance delta :: rest →
      ∀ sum ∈ (session.run s.exact before).timer.advanceSums delta, InInt64 sum) :
    (session64.run s es).exact = session.run s.exact es ∧
      session64.outputs s es = session.outputs s.exact es := by
  induction es generalizing s with
  | nil => exact ⟨rfl, rfl⟩
  | cons e es ih =>
      have hnext : (s.handle e).exact = s.exact.handle e := by
        apply Session64.exact_handle
        rintro delta rfl
        exact h [] delta es rfl
      have hout : session64.out s e = session.out s.exact e := by
        rw [session64_out, session_out, ← hnext]
        rfl
      have hrest := ih (s := s.handle e) (by
        intro before delta rest hsplit
        rw [hnext]
        exact h (e :: before) delta rest (by rw [hsplit]; rfl))
      rw [hnext] at hrest
      rw [Mealy.run_cons, Mealy.run_cons, Mealy.outputs_cons, Mealy.outputs_cons, hout]
      exact ⟨hrest.1, congrArg _ hrest.2⟩

end RvcControl
