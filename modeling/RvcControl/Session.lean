import RvcControl.InMemoryAdapters
import RvcControl.Mealy

/-!
# Sessions

A session is a cleaning service that logs its commands in memory and is the
only client of a fake timer.  The reader and the turn strategy are arbitrary,
and both may be in a different state at every tick: a `tick` event brings the
reader and the strategy it finds, so a run is a list of events in which the
sensor readings and the choices are whatever the surroundings make them.

A step answers with the commands it issued, that is, with what it appended to
the two logs.
-/

namespace RvcControl

abbrev Session (ρ σ : Type*) :=
  CleaningService ρ InMemoryMotionActuator InMemoryCleaningActuator FakeTimer σ

inductive SessionEvent (ρ σ : Type*)
  | start
  | tick (reader : ρ) (strategy : σ)
  | advance (delta : Int)

/-- The commands issued by one step. -/
structure Issued where
  motions : List MotionCommand
  cleans : List CleaningCommand
  deriving DecidableEq, Repr

variable {ρ σ : Type*}

namespace Session

/-- What `t` has in its logs beyond the logs of `s`. -/
def issued (s t : Session ρ σ) : Issued where
  motions := t.motionActuator.history.drop s.motionActuator.history.length
  cleans := t.cleaningActuator.history.drop s.cleaningActuator.history.length

/-- A service as its constructor leaves it, over a timer that is its own. -/
def new (sensorReader : ρ) (motionActuator : InMemoryMotionActuator)
    (cleaningActuator : InMemoryCleaningActuator) (turnStrategy : σ) (boostDuration : Int) :
    Session ρ σ where
  sensorReader := sensorReader
  motionActuator := motionActuator
  cleaningActuator := cleaningActuator
  timer := {}
  turnStrategy := turnStrategy
  boostDuration := boostDuration

variable [ISensorReader ρ] [ITurnStrategy σ]

/-- One event of a session. -/
def handle (s : Session ρ σ) : SessionEvent ρ σ → Session ρ σ
  | .start => s.start
  | .tick reader strategy =>
      CleaningService.tick { s with sensorReader := reader, turnStrategy := strategy }
  | .advance delta => { s with timer := s.timer.advance delta }

end Session

/-- The service the command line sets up. -/
def cliService : Session ReplayReader PreferLeftTurnStrategy :=
  Session.new .new {} {} {} 3000

variable [ISensorReader ρ] [ITurnStrategy σ]

def session : Mealy (Session ρ σ) (SessionEvent ρ σ) Issued where
  step s e := (s.handle e, s.issued (s.handle e))

@[simp] theorem session_next (s : Session ρ σ) (e : SessionEvent ρ σ) :
    session.next s e = s.handle e := rfl

/-- An event answers with the commands it has issued. -/
theorem session_out (s : Session ρ σ) (e : SessionEvent ρ σ) :
    session.out s e = s.issued (s.handle e) := rfl

namespace SessionEvent

/-- Does this event tick the service on a dusty spot? -/
def detectsDust : SessionEvent ρ σ → Bool
  | .tick reader _ => (sensorsRead reader).dustDetected
  | _ => false

def isStart : SessionEvent ρ σ → Bool
  | .start => true
  | _ => false

def isTick : SessionEvent ρ σ → Bool
  | .tick _ _ => true
  | _ => false

/-- The time an event lets pass. -/
def elapse : SessionEvent ρ σ → Int
  | .advance delta => delta
  | _ => 0

end SessionEvent

end RvcControl
