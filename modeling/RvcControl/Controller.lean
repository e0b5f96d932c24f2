import RvcControl.MotionPhase
import RvcControl.Session

/-!
# The controller, abstracted

The service keeps what it knows about suction in two places, the machine's
cleaning mode and the timer, and changes them in different places of the code.
`Suction` has both in one value: a boost *is* a running clock, and there is no
clock outside a boost.  Together with the motion phase it makes a
`Controller`, whose tick reads the sensors and the direction a strategy
chooses.

`Refines s c` says that the session `s` is running and stands for the
controller `c`.  Start establishes it, `Refines.tick` and `Refines.advance`
keep it, and the commands of a tick are those that name the new phase and the
new suction.
-/

namespace RvcControl

def CleaningMode.command : CleaningMode → CleaningCommand
  | .off => .setOff
  | .normal => .setNormal
  | .boost => .setBoost

/-- The command tells the mode. -/
theorem CleaningMode.command_injective : Function.Injective command := by
  intro a b h
  cases a <;> cases b <;> first | rfl | cases h

/-- Every mode has its command. -/
theorem CleaningMode.command_ne_none (mode : CleaningMode) : mode.command ≠ .none := by
  cases mode <;> decide

namespace CleaningMode

/-- The rule for driving straight on: a boost looks at its clock only. -/
def nextStraight (mode : CleaningMode) (dust expired : Bool) : CleaningMode :=
  if mode = .boost then (if expired then .normal else .boost)
  else if dust then .boost
  else .normal

/-- The rule for the tick that ends a turn: it looks at the dust only. -/
def nextAfterTurn (dust : Bool) : CleaningMode :=
  if dust then .boost else .normal

/-- The rule for every tick of a manoeuvre. -/
def nextInManeuver (mode : CleaningMode) (dust expired : Bool) : CleaningMode :=
  if dust then .boost
  else if mode = .boost ∧ expired = false then .boost
  else .off

/-- The suction decision of one tick, made in phase `p`. -/
def next (mode : CleaningMode) (p : MotionPhase) (sensors : SensorSnapshot)
    (expired : Bool) : CleaningMode :=
  match p, sensors.frontBlocked with
  | .cruising, false => mode.nextStraight sensors.dustDetected expired
  | .turning _, false => nextAfterTurn sensors.dustDetected
  | _, _ => mode.nextInManeuver sensors.dustDetected expired

end CleaningMode

/-- The tick that ends a turn. -/
def MotionPhase.leavesTurn (p : MotionPhase) (sensors : SensorSnapshot) : Prop :=
  (∃ d, p = .turning d) ∧ sensors.frontBlocked = false

namespace CleaningMode

variable {mode : CleaningMode} {p : MotionPhase} {sensors : SensorSnapshot} {expired : Bool}

/-- Dust is answered with a boost, unless the robot drives straight on in an
expired boost. -/
theorem next_eq_boost_of_dust (hdust : sensors.dustDetected = true) :
    mode.next p sensors expired = .boost ↔
      ¬ (p = .cruising ∧ sensors.frontBlocked = false ∧ mode = .boost ∧ expired = true) := by
  cases p with
  | cruising =>
      cases hf : sensors.frontBlocked with
      | false =>
          by_cases hm : mode = .boost
          · cases expired <;> simp [next, hf, nextStraight, hm]
          · simp [next, hf, hdust, nextStraight, hm]
      | true => simp [next, hf, hdust, nextInManeuver]
  | stopped => simp [next, hdust, nextInManeuver]
  | backedUp => simp [next, hdust, nextInManeuver]
  | turning d =>
      cases hf : sensors.frontBlocked <;>
        simp [next, hf, hdust, nextAfterTurn, nextInManeuver]

/-- Without dust a boost is kept, unless it has expired or a turn ends. -/
theorem next_eq_boost_of_clear (hclear : sensors.dustDetected = false) :
    mode.next p sensors expired = .boost ↔
      mode = .boost ∧ expired = false ∧ ¬ p.leavesTurn sensors := by
  cases p with
  | cruising =>
      cases hf : sensors.frontBlocked with
      | false =>
          by_cases hm : mode = .boost
          · cases expired <;>
              simp [next, hf, nextStraight, hm, MotionPhase.leavesTurn]
          · simp [next, hf, hclear, nextStraight, hm]
      | true => simp [next, hf, hclear, nextInManeuver, MotionPhase.leavesTurn]
  | stopped => simp [next, hclear, nextInManeuver, MotionPhase.leavesTurn]
  | backedUp => simp [next, hclear, nextInManeuver, MotionPhase.leavesTurn]
  | turning d =>
      cases hf : sensors.frontBlocked <;>
        simp [next, hf, hclear, nextAfterTurn, nextInManeuver, MotionPhase.leavesTurn]

/-- Suction is never off on the way forward. -/
theorem next_ne_off {choice : TurnDirection} (h : p.next sensors choice = .cruising) :
    mode.next p sensors expired ≠ .off := by
  obtain ⟨hf, hs, hb⟩ := (p.next_eq_cruising sensors choice).mp h
  cases p with
  | cruising => simp only [next, hf, nextStraight]; split_ifs <;> simp
  | stopped => exact absurd rfl hs
  | backedUp => exact absurd rfl hb
  | turning d => simp only [next, hf, nextAfterTurn]; split_ifs <;> simp

/-- Suction is never normal in a manoeuvre. -/
theorem next_ne_normal {choice : TurnDirection} (h : p.next sensors choice ≠ .cruising) :
    mode.next p sensors expired ≠ .normal := by
  have hrule : mode.next p sensors expired =
      mode.nextInManeuver sensors.dustDetected expired := by
    cases p <;> cases hf : sensors.frontBlocked <;>
      simp [MotionPhase.next_eq_cruising, hf] at h <;> simp [next, hf]
  rw [hrule, nextInManeuver]
  split_ifs <;> simp

end CleaningMode

/-- During a manoeuvre the machine takes the mode of the controller and says so. -/
theorem CleaningStateMachine.resolve_cleaning (m : CleaningStateMachine)
    (context : TickContext) {mode : CleaningMode}
    (hmode : mode = m.cleaningMode.nextInManeuver context.sensors.dustDetected
      context.boostTimerExpired) :
    (m.resolveCleaningDuringManeuver context).1.cleaningMode = mode ∧
      (m.resolveCleaningDuringManeuver context).2 = mode.command := by
  subst hmode
  simp only [resolveCleaningDuringManeuver, CleaningMode.nextInManeuver, Bool.not_eq_true']
  split_ifs with hdust hhold
  · exact ⟨rfl, rfl⟩
  · exact ⟨hhold.1, rfl⟩
  · exact ⟨rfl, rfl⟩

/-- The cleaning half of one tick of the machine. -/
theorem InPhase.tick_cleaning {m : CleaningStateMachine} {p : MotionPhase}
    (h : InPhase m p) (context : TickContext) :
    (m.tick context).1.cleaningMode =
        m.cleaningMode.next p context.sensors context.boostTimerExpired ∧
      (m.tick context).2.clean =
        (m.cleaningMode.next p context.sensors context.boostTimerExpired).command := by
  have hs := h.motionState
  cases p with
  | cruising =>
      simp only [CleaningStateMachine.tick, hs, MotionPhase.motionState,
        CleaningStateMachine.handleMovingForward]
      cases hf : context.sensors.frontBlocked with
      | false =>
          simp only [MotionPhase.allSidesBlocked_front hf, CleaningMode.next, hf,
            CleaningMode.nextStraight, CleaningStateMachine.applyCleaningBoost,
            Bool.false_eq_true, if_false]
          split_ifs with hboost
          · exact ⟨rfl, rfl⟩
          · exact ⟨hboost, rfl⟩
          · exact ⟨rfl, rfl⟩
          · exact ⟨rfl, rfl⟩
      | true =>
          simp only [if_true, CleaningMode.next, hf]
          split_ifs <;> exact CleaningStateMachine.resolve_cleaning _ _ rfl
  | stopped =>
      simp only [CleaningStateMachine.tick, hs, MotionPhase.motionState,
        CleaningStateMachine.handleStopping, CleaningStateMachine.beginTurn]
      exact CleaningStateMachine.resolve_cleaning _ _ rfl
  | backedUp =>
      simp only [CleaningStateMachine.tick, hs, MotionPhase.motionState,
        CleaningStateMachine.handleBackingUp, CleaningStateMachine.beginTurn]
      exact CleaningStateMachine.resolve_cleaning _ _ rfl
  | turning d =>
      simp only [CleaningStateMachine.tick, hs, MotionPhase.motionState,
        CleaningStateMachine.handleTurning]
      cases hf : context.sensors.frontBlocked with
      | false =>
          simp only [Bool.not_false, if_true, CleaningMode.next, hf,
            CleaningMode.nextAfterTurn]
          split_ifs <;> exact ⟨rfl, rfl⟩
      | true =>
          simp only [Bool.not_true, Bool.false_eq_true, if_false, CleaningMode.next, hf]
          exact CleaningStateMachine.resolve_cleaning _ _ rfl

/-- Suction together with the clock of a boost. -/
inductive Suction
  | off
  | normal
  | boost (elapsed : Int)
  deriving DecidableEq, Repr

namespace Suction

def mode : Suction → CleaningMode
  | off => .off
  | normal => .normal
  | boost _ => .boost

/-- The timer that belongs to a suction, for boosts of a given duration. -/
def timer (duration : Int) : Suction → FakeTimer
  | boost elapsed => { active := true, elapsed := elapsed, duration := duration }
  | _ => {}

def expired (duration : Int) : Suction → Bool
  | boost elapsed => decide (duration ≤ elapsed)
  | _ => false

def advance (delta : Int) : Suction → Suction
  | boost elapsed => boost (elapsed + delta)
  | q => q

/-- A tick leaves the clock of a boost at zero. -/
def ofMode : CleaningMode → Suction
  | .off => off
  | .normal => normal
  | .boost => boost 0

@[simp] theorem ofMode_mode (mode : CleaningMode) : (ofMode mode).mode = mode := by
  cases mode <;> rfl

/-- A boost is a suction with its time. -/
theorem mode_eq_boost {q : Suction} : q.mode = .boost ↔ ∃ elapsed, q = boost elapsed := by
  cases q <;> simp [mode]

/-- A clock that runs after a tick stands at zero. -/
theorem ofMode_eq_boost {mode : CleaningMode} {elapsed : Int} :
    ofMode mode = boost elapsed ↔ mode = .boost ∧ elapsed = 0 := by
  cases mode <;> simp [ofMode, eq_comm]

/-- Time is added to a boost, and only to a boost. -/
theorem advance_eq_boost {delta elapsed : Int} {q : Suction} :
    q.advance delta = boost elapsed ↔ ∃ before, q = boost before ∧ before + delta = elapsed := by
  cases q <;> simp [advance]

@[simp] theorem advance_mode (delta : Int) (q : Suction) : (q.advance delta).mode = q.mode := by
  cases q <;> rfl

/-- The timer of a suction expires with it. -/
theorem isBoostExpired_timer (duration : Int) (q : Suction) :
    ITimer.isBoostExpired (q.timer duration) = q.expired duration := by
  cases q <;> rfl

/-- Time passes for a suction as for its timer. -/
theorem advance_timer (duration delta : Int) (q : Suction) :
    (q.timer duration).advance delta = (q.advance delta).timer duration := by
  cases q <;> rfl

end Suction

/-- What a running service amounts to. -/
structure Controller where
  phase : MotionPhase
  suction : Suction
  deriving DecidableEq, Repr

namespace Controller

def started : Controller := { phase := .cruising, suction := .normal }

def tick (duration : Int) (c : Controller) (sensors : SensorSnapshot)
    (choice : TurnDirection) : Controller where
  phase := c.phase.next sensors choice
  suction := .ofMode (c.suction.mode.next c.phase sensors (c.suction.expired duration))

def advance (delta : Int) (c : Controller) : Controller :=
  { c with suction := c.suction.advance delta }

/-- The commands that name a controller's phase and suction. -/
def commands (c : Controller) : Issued where
  motions := [c.phase.command]
  cleans := [c.suction.mode.command]

end Controller

variable {ρ σ : Type*}

/-- What an event does to a controller. -/
def Controller.handle [ISensorReader ρ] [ITurnStrategy σ] (duration : Int) (c : Controller) :
    SessionEvent ρ σ → Controller
  | .start => started
  | .tick reader strategy =>
      c.tick duration (sensorsRead reader) (ITurnStrategy.choose strategy (sensorsRead reader))
  | .advance delta => c.advance delta

/-- The controllers as a machine: only a tick issues commands. -/
def controllers (ρ σ : Type*) [ISensorReader ρ] [ITurnStrategy σ] (duration : Int) :
    Mealy Controller (SessionEvent ρ σ) Issued where
  step c e :=
    (c.handle duration e,
      match e with
      | .tick _ _ => (c.handle duration e).commands
      | _ => ⟨[], []⟩)

section Controllers

variable [ISensorReader ρ] [ITurnStrategy σ] (duration : Int) (c : Controller)

@[simp] theorem controllers_next (e : SessionEvent ρ σ) :
    (controllers ρ σ duration).next c e = c.handle duration e := rfl

@[simp] theorem controllers_out_start :
    (controllers ρ σ duration).out c .start = ⟨[], []⟩ := rfl

@[simp] theorem controllers_out_tick (reader : ρ) (strategy : σ) :
    (controllers ρ σ duration).out c (.tick reader strategy) =
      (c.handle duration (.tick reader strategy)).commands := rfl

@[simp] theorem controllers_out_advance (delta : Int) :
    (controllers ρ σ duration).out c (.advance delta) = ⟨[], []⟩ := rfl

end Controllers

/-- What the command of a cleaning mode does to the timer: a boost arms it, and
everything else cancels it. -/
def CleaningMode.arm {τ : Type*} [ITimer τ] (mode : CleaningMode) (duration : Int) (t : τ) : τ :=
  if mode = .boost then ITimer.startBoost duration t else ITimer.cancelBoost t

/-- A fake timer shows the suction that has armed it. -/
theorem CleaningMode.arm_fakeTimer (mode : CleaningMode) (duration : Int) (t : FakeTimer) :
    mode.arm duration t = (Suction.ofMode mode).timer duration := by
  cases mode <;> rfl

section AnyTimer

variable {τ : Type*} [ITimer τ]

/-- The frame of the two command executions: what a tick that issues a motion
command and the command of a cleaning mode does besides moving the machine. -/
theorem execute_commands
    (s : CleaningService ρ InMemoryMotionActuator InMemoryCleaningActuator τ σ)
    {motion : MotionCommand} (hmotion : motion ≠ .none) (mode : CleaningMode) :
    (CleaningService.executeMotion s motion).executeClean mode.command =
      { s with
        motionActuator := { history := s.motionActuator.history ++ [motion] }
        cleaningActuator := { history := s.cleaningActuator.history ++ [mode.command] }
        timer := mode.arm s.boostDuration s.timer } := by
  simp only [CleaningService.executeMotion, if_pos hmotion]
  cases mode <;> rfl

/-- **One tick of a running service**, over any timer: the logs, the timer and
the machine after it, and that nothing else but the reader has moved. -/
theorem InPhase.service_tick [ISensorReader ρ] [ITurnStrategy σ]
    {s : CleaningService ρ InMemoryMotionActuator InMemoryCleaningActuator τ σ}
    {p p' : MotionPhase} {mode' : CleaningMode} (h : InPhase s.stateMachine p)
    (hrunning : s.running = true)
    (hp : p' = p.next (sensorsRead s.sensorReader)
      (ITurnStrategy.choose s.turnStrategy (sensorsRead s.sensorReader)))
    (hmode : mode' = s.stateMachine.cleaningMode.next p (sensorsRead s.sensorReader)
      (ITimer.isBoostExpired s.timer)) :
    s.tick =
      { s with
        sensorReader := (ISensorReader.read s.sensorReader).2
        stateMachine := s.tickResult.1
        motionActuator := { history := s.motionActuator.history ++ [p'.command] }
        cleaningActuator := { history := s.cleaningActuator.history ++ [mode'.command] }
        timer := mode'.arm s.boostDuration s.timer } ∧
      InPhase s.tickResult.1 p' ∧
      s.tickResult.1.cleaningMode = mode' := by
  subst hp hmode
  have hmotion := h.tick_motion (s.tickContext (sensorsRead s.sensorReader))
  have hclean := h.tick_cleaning (s.tickContext (sensorsRead s.sensorReader))
  refine ⟨?_, h.tick _, hclean.1⟩
  rw [s.tick_of_running hrunning]
  unfold CleaningService.tickResult
  rw [hmotion, hclean.2, execute_commands _ (MotionPhase.command_ne_none _)]
  rfl

end AnyTimer

/-- The running session `s` stands for the controller `c`. -/
structure Refines (s : Session ρ σ) (c : Controller) : Prop where
  running : s.running = true
  phase : InPhase s.stateMachine c.phase
  mode : s.stateMachine.cleaningMode = c.suction.mode
  timer : s.timer = c.suction.timer s.boostDuration

/-- Starting, whatever the service did before. -/
theorem start_refines (s : Session ρ σ) : Refines s.start .started where
  running := rfl
  phase := s.stateMachine.start_inPhase
  mode := rfl
  timer := rfl

namespace Refines

variable {s : Session ρ σ} {c : Controller}

/-- A tick finds the reader and the strategy its event brings. -/
theorem withPorts (h : Refines s c) (reader : ρ) (strategy : σ) :
    Refines { s with sensorReader := reader, turnStrategy := strategy } c :=
  ⟨h.running, h.phase, h.mode, h.timer⟩

variable [ISensorReader ρ] [ITurnStrategy σ]

/-- Time that passes keeps the refinement. -/
theorem advance (h : Refines s c) (delta : Int) :
    Refines (s.handle (.advance delta)) (c.advance delta) where
  running := h.running
  phase := h.phase
  mode := by simpa [Session.handle, Controller.advance] using h.mode
  timer := by
    show s.timer.advance delta = _
    rw [h.timer, Suction.advance_timer]
    rfl

/-- **One tick of a running session.**  The machine, the timer and the two
logs after it, and that nothing else but the reader has moved. -/
theorem tick_eq (h : Refines s c) {c' : Controller}
    (hc : c' = c.tick s.boostDuration (sensorsRead s.sensorReader)
      (ITurnStrategy.choose s.turnStrategy (sensorsRead s.sensorReader))) :
    s.tick =
      { s with
        sensorReader := (ISensorReader.read s.sensorReader).2
        stateMachine := s.tickResult.1
        motionActuator := { history := s.motionActuator.history ++ c'.commands.motions }
        cleaningActuator := { history := s.cleaningActuator.history ++ c'.commands.cleans }
        timer := c'.suction.timer s.boostDuration } ∧
      InPhase s.tickResult.1 c'.phase ∧
      s.tickResult.1.cleaningMode = c'.suction.mode := by
  subst hc
  have hexpired : ITimer.isBoostExpired s.timer = c.suction.expired s.boostDuration := by
    rw [h.timer, Suction.isBoostExpired_timer]
  have htick := h.phase.service_tick h.running rfl rfl
  rw [h.mode, hexpired, CleaningMode.arm_fakeTimer] at htick
  simpa only [Controller.tick, Controller.commands, Suction.ofMode_mode] using htick

/-- Every event keeps the refinement. -/
theorem handle (h : Refines s c) (e : SessionEvent ρ σ) :
    Refines (s.handle e) (c.handle s.boostDuration e) := by
  cases e with
  | start => exact start_refines s
  | tick reader strategy =>
      obtain ⟨heq, hphase, hmode⟩ := (h.withPorts reader strategy).tick_eq rfl
      simp only [Session.handle, heq]
      exact ⟨h.running, hphase, hmode, rfl⟩
  | advance delta => exact h.advance delta

/-- A tick issues exactly the commands that name the new phase and the new
suction; no other event issues any. -/
theorem issued (h : Refines s c) (e : SessionEvent ρ σ) :
    session.out s e = (controllers ρ σ s.boostDuration).out c e := by
  rw [session_out]
  cases e with
  | start => simp [Session.issued, Session.handle, CleaningService.start]
  | tick reader strategy =>
      obtain ⟨heq, _, _⟩ := (h.withPorts reader strategy).tick_eq rfl
      simp only [Session.issued, Session.handle, heq]
      simp [Controller.handle]
  | advance delta => simp [Session.issued, Session.handle]

end Refines

variable [ISensorReader ρ] [ITurnStrategy σ]

/-- No event changes the boost duration. -/
theorem Session.handle_boostDuration (s : Session ρ σ) (e : SessionEvent ρ σ) :
    (s.handle e).boostDuration = s.boostDuration := by
  cases e with
  | start => rfl
  | tick reader strategy => exact CleaningService.tick_boostDuration _
  | advance delta => rfl

/-- **The session refines the controller.**  From related states both answer
every event with the same commands and stay related. -/
theorem session_refines_controllers (duration : Int) :
    Mealy.Simulation session (controllers ρ σ duration)
      (fun s c => Refines s c ∧ s.boostDuration = duration) Eq Eq where
  next := by
    intro s c e e' h he
    obtain ⟨h, rfl⟩ := h
    subst he
    exact ⟨h.handle e, s.handle_boostDuration e⟩
  out := by
    intro s c e e' h he
    obtain ⟨h, rfl⟩ := h
    subst he
    exact h.issued e

end RvcControl
