import RvcControl.LiveSession

/-!
# Motion and suction do not interfere

The machine decides motion and suction in the same handlers, from the same
sensors, but neither decision leaks into the other:

* the motion of a session depends on the obstacles only, not on dust or time
  (`motion_ignores_cleaning`);
* its suction depends on the front sensor, the dust and the time only, not on
  the side sensors or the turn strategy (`suction_ignores_sides`).

Both compare two runs of the simulator service whose live sessions drift apart
in all else: in dust and time for `motion_ignores_cleaning`, in the sides and
the strategy for `suction_ignores_sides`.  What stays related is `SameMotion` in
the one case and `SameSuction` in the other, and `ticking_lockstep` carries
such a relation along two runs.
-/

namespace RvcControl

open SimulatorService

/-- The simulator service between its starts: it is ticked, and each tick
returns a state. -/
def ticking : Mealy SimulatorService (SensorSnapshot × Int) SimulatorState where
  step s i := s.tick i.1 i.2

/-- Both services show live sessions, and these are related. -/
def BothShow (L : LiveSession → LiveSession → Prop) (s t : SimulatorService) : Prop :=
  ∃ v w, Presents s (some v) ∧ Presents t (some w) ∧ L v w

/-- **Two runs in step.**  A relation of live sessions that a pair of ticks
keeps makes a simulation of the services. -/
theorem ticking_lockstep {L : LiveSession → LiveSession → Prop}
    {I : SensorSnapshot × Int → SensorSnapshot × Int → Prop}
    {O : SimulatorState → SimulatorState → Prop}
    (htick : ∀ {v w i k}, L v w → I i k → L (v.tick i.1 i.2) (w.tick k.1 k.2))
    (hstate : ∀ {v w i k}, L v w → I i k →
      O (v.tick i.1 i.2).state (w.tick k.1 k.2).state) :
    Mealy.Simulation ticking ticking (BothShow L) I O where
  next := by
    intro s t i k h hi
    obtain ⟨v, w, hs, ht, hvw⟩ := h
    exact ⟨_, _, hs.tick i.1 i.2, ht.tick k.1 k.2, htick hvw hi⟩
  out := by
    intro s t i k h hi
    obtain ⟨v, w, hs, ht, hvw⟩ := h
    have hout₁ : ticking.out s i = (v.tick i.1 i.2).state := (hs.tick i.1 i.2).getState
    have hout₂ : ticking.out t k = (w.tick k.1 k.2).state := (ht.tick k.1 k.2).getState
    rw [hout₁, hout₂]
    exact hstate hvw hi

/-! ## Motion -/

/-- The two snapshots see the same obstacles. -/
structure SensorSnapshot.SameObstacles (a b : SensorSnapshot) : Prop where
  front : a.frontBlocked = b.frontBlocked
  left : a.leftBlocked = b.leftBlocked
  right : a.rightBlocked = b.rightBlocked

/-- The next phase depends on the obstacles only. -/
theorem MotionPhase.next_congr {a b : SensorSnapshot} (h : a.SameObstacles b) (p : MotionPhase)
    (choice : TurnDirection) : p.next a choice = p.next b choice := by
  simp [MotionPhase.next, SensorSnapshot.allSidesBlocked, h.front, h.left, h.right]

/-- Neither of the service's strategies looks at the dust. -/
theorem chosenBy_congr {a b : SensorSnapshot} (h : a.SameObstacles b) (turnStrategy : String) :
    chosenBy turnStrategy a = chosenBy turnStrategy b := by
  unfold chosenBy
  split
  · rfl
  · simp [ITurnStrategy.choose, h.left, h.right]

/-- The two sessions move alike, by the strategy of the same name. -/
structure SameMotion (turnStrategy : String) (v w : LiveSession) : Prop where
  phase : v.phase = w.phase
  choose₁ : v.choose = chosenBy turnStrategy
  choose₂ : w.choose = chosenBy turnStrategy
  motions : v.motions = w.motions

/-- Ticks with the same obstacles keep the motion the same. -/
theorem SameMotion.tick {turnStrategy : String} {v w : LiveSession}
    (h : SameMotion turnStrategy v w) {a b : SensorSnapshot} (hab : a.SameObstacles b)
    (timerAdvance₁ timerAdvance₂ : Int) :
    SameMotion turnStrategy (v.tick a timerAdvance₁) (w.tick b timerAdvance₂) := by
  have hphase : (v.tick a timerAdvance₁).phase = (w.tick b timerAdvance₂).phase := by
    show v.phase.next a (v.choose a) = w.phase.next b (w.choose b)
    rw [h.phase, h.choose₁, h.choose₂, chosenBy_congr hab, MotionPhase.next_congr hab]
  refine ⟨hphase, h.choose₁, h.choose₂, ?_⟩
  rw [LiveSession.motions_tick, LiveSession.motions_tick, h.motions, hphase]

/-- **Obstacle avoidance has priority over cleaning.**  Two sessions started
with the same strategy, whose ticks see the same obstacles, report the same
motion at every tick and issue the same motion commands, whatever dust their
ticks see and however much time passes. -/
theorem motion_ignores_cleaning (calls₁ calls₂ : List Call) (turnStrategy : String)
    {is ks : List (SensorSnapshot × Int)}
    (h : List.Forall₂ (fun i k => i.1.SameObstacles k.1) is ks) :
    let s := (after calls₁).start turnStrategy
    let t := (after calls₂).start turnStrategy
    List.Forall₂ (fun a b => a.motionState = b.motionState ∧ a.lastMotion = b.lastMotion)
        (ticking.outputs s is) (ticking.outputs t ks) ∧
      (ticking.run s is).cleaningService.motionActuator.history =
        (ticking.run t ks).cleaningService.motionActuator.history := by
  intro s t
  have hstep : Mealy.Simulation ticking ticking (BothShow (SameMotion turnStrategy))
      (fun i k => i.1.SameObstacles k.1)
      (fun a b => a.motionState = b.motionState ∧ a.lastMotion = b.lastMotion) := by
    apply ticking_lockstep
    · intro v w i k hvw hik
      exact hvw.tick hik i.2 k.2
    · intro v w i k hvw hik
      have hphase := (hvw.tick hik i.2 k.2).phase
      rw [LiveSession.state_tick_lastMotion, LiveSession.state_tick_lastMotion, hphase]
      exact ⟨congrArg MotionPhase.motionState hphase, rfl⟩
  have hst : BothShow (SameMotion turnStrategy) s t :=
    ⟨_, _, (after_presents calls₁).start turnStrategy, (after_presents calls₂).start turnStrategy,
      rfl, rfl, rfl, rfl⟩
  refine ⟨hstep.outputs hst h, ?_⟩
  obtain ⟨v, w, hs, ht, hvw⟩ := hstep.run hst h
  rw [(hs.shows v rfl).motions, (ht.shows w rfl).motions, hvw.motions]

/-- The theorem along a stop and a turn, once with dust and once without. -/
theorem motion_ignores_dust_once :
    (ticking.run ((after []).start "prefer_left")
        [({ frontBlocked := true, dustDetected := true }, 0),
          ({ frontBlocked := true }, 500)]).cleaningService.motionActuator.history =
      (ticking.run ((after [.start "force_right"]).start "prefer_left")
        [({ frontBlocked := true }, 0),
          ({ frontBlocked := true, dustDetected := true }, 3000)]
        ).cleaningService.motionActuator.history :=
  (motion_ignores_cleaning [] [.start "force_right"] "prefer_left"
    (.cons ⟨rfl, rfl, rfl⟩ (.cons ⟨rfl, rfl, rfl⟩ .nil))).2

/-! ## Suction -/

/-- The two snapshots agree on what decides the suction. -/
structure SensorSnapshot.SameFront (a b : SensorSnapshot) : Prop where
  front : a.frontBlocked = b.frontBlocked
  dust : a.dustDetected = b.dustDetected

/-- Backing up is not told apart from stopping. -/
def RobotMotionState.halting : RobotMotionState → RobotMotionState
  | .backingUp => .stopping
  | state => state

/-- A motion phase without how the robot halts and which way it turns. -/
inductive Pace
  | driving
  | halted
  | turning
  deriving DecidableEq, Repr

namespace Pace

def next : Pace → Bool → Pace
  | driving, front => if front then halted else driving
  | halted, _ => turning
  | turning, front => if front then turning else driving

def motionState : Pace → RobotMotionState
  | driving => .movingForward
  | halted => .stopping
  | turning => .turning

end Pace

namespace MotionPhase

def pace : MotionPhase → Pace
  | cruising => .driving
  | stopped => .halted
  | backedUp => .halted
  | turning _ => .turning

/-- The pace after a tick depends on the pace and the front sensor. -/
theorem pace_next (p : MotionPhase) (sensors : SensorSnapshot) (choice : TurnDirection) :
    (p.next sensors choice).pace = p.pace.next sensors.frontBlocked := by
  cases p with
  | cruising =>
      cases hf : sensors.frontBlocked with
      | false => simp [next, allSidesBlocked_front hf, hf, pace, Pace.next]
      | true =>
          have hnext : cruising.next sensors choice = backedUp ∨
              cruising.next sensors choice = stopped := by
            simp only [next, hf, if_true]
            exact ite_eq_or_eq _ _ _
          rcases hnext with hback | hstop
          · rw [hback]
            rfl
          · rw [hstop]
            rfl
  | stopped => rfl
  | backedUp => rfl
  | turning d => cases hf : sensors.frontBlocked <;> simp [next, hf, pace, Pace.next]

/-- The pace of a phase tells whether it halts. -/
theorem motionState_halting (p : MotionPhase) :
    p.motionState.halting = p.pace.motionState := by
  cases p <;> rfl

end MotionPhase

/-- The suction of a tick depends on the pace of the phase, and on the front
and the dust sensor. -/
theorem CleaningMode.next_congr {p q : MotionPhase} (hpq : p.pace = q.pace)
    {a b : SensorSnapshot} (hab : a.SameFront b) (mode : CleaningMode) (expired : Bool) :
    mode.next p a expired = mode.next q b expired := by
  cases hf : b.frontBlocked with
  | false =>
      have ha : a.frontBlocked = false := hab.front.trans hf
      cases p <;> cases q <;> simp [MotionPhase.pace] at hpq <;>
        simp [CleaningMode.next, ha, hf, hab.dust]
  | true =>
      have ha : a.frontBlocked = true := hab.front.trans hf
      simp [CleaningMode.next, ha, hf, hab.dust]

/-- The two sessions clean alike. -/
structure SameSuction (v w : LiveSession) : Prop where
  pace : v.phase.pace = w.phase.pace
  mode : v.mode = w.mode
  timer : v.timer = w.timer
  cleans : v.cleans = w.cleans

/-- Ticks with the same front and dust keep the suction the same. -/
theorem SameSuction.tick {v w : LiveSession} (h : SameSuction v w) {a b : SensorSnapshot}
    (hab : a.SameFront b) (timerAdvance : Int) :
    SameSuction (v.tick a timerAdvance) (w.tick b timerAdvance) := by
  have htimer : v.timerAfter timerAdvance = w.timerAfter timerAdvance := by
    rw [LiveSession.timerAfter, LiveSession.timerAfter, h.timer]
  have hmode : v.nextMode a timerAdvance = w.nextMode b timerAdvance := by
    rw [LiveSession.nextMode, LiveSession.nextMode, h.mode, htimer]
    exact CleaningMode.next_congr h.pace hab _ _
  refine ⟨?_, hmode, ?_, ?_⟩
  · show (v.phase.next a (v.choose a)).pace = (w.phase.next b (w.choose b)).pace
    rw [MotionPhase.pace_next, MotionPhase.pace_next, h.pace, hab.front]
  · show (Suction.ofMode _).timer defaultBoost = (Suction.ofMode _).timer defaultBoost
    rw [hmode]
  · rw [LiveSession.cleans_tick, LiveSession.cleans_tick, h.cleans]
    exact congrArg (fun mode => w.cleans ++ [CleaningMode.command mode]) hmode

/-- What two reports must agree on for their suction to be the same. -/
structure SuctionAgrees (a b : SimulatorState) : Prop where
  cleaningMode : a.cleaningMode = b.cleaningMode
  lastClean : a.lastClean = b.lastClean
  motionState : a.motionState.halting = b.motionState.halting

theorem SameSuction.agrees {v w : LiveSession} (h : SameSuction v w) :
    SuctionAgrees v.state w.state where
  cleaningMode := h.mode
  lastClean := congrArg (fun cleans => cleans.getLastD .none) h.cleans
  motionState := by
    show v.phase.motionState.halting = w.phase.motionState.halting
    rw [MotionPhase.motionState_halting, MotionPhase.motionState_halting, h.pace]

/-- **Suction does not depend on which way the robot turns.**  Two sessions,
started with any strategies, whose ticks agree on the front sensor, the dust
and the time, report the same suction at every tick and issue the same cleaning
commands, and they drive, halt and turn at the same ticks. -/
theorem suction_ignores_sides (calls₁ calls₂ : List Call) (turnStrategy₁ turnStrategy₂ : String)
    {is ks : List (SensorSnapshot × Int)}
    (h : List.Forall₂ (fun i k => i.1.SameFront k.1 ∧ i.2 = k.2) is ks) :
    let s := (after calls₁).start turnStrategy₁
    let t := (after calls₂).start turnStrategy₂
    List.Forall₂ SuctionAgrees (ticking.outputs s is) (ticking.outputs t ks) ∧
      (ticking.run s is).cleaningService.cleaningActuator.history =
        (ticking.run t ks).cleaningService.cleaningActuator.history := by
  intro s t
  have htick : ∀ {v w : LiveSession} {i k : SensorSnapshot × Int}, SameSuction v w →
      i.1.SameFront k.1 ∧ i.2 = k.2 → SameSuction (v.tick i.1 i.2) (w.tick k.1 k.2) := by
    intro v w i k hvw hik
    rw [hik.2]
    exact hvw.tick hik.1 k.2
  have hstep : Mealy.Simulation ticking ticking (BothShow SameSuction)
      (fun i k => i.1.SameFront k.1 ∧ i.2 = k.2) SuctionAgrees :=
    ticking_lockstep htick fun hvw hik => (htick hvw hik).agrees
  have hst : BothShow SameSuction s t :=
    ⟨_, _, (after_presents calls₁).start turnStrategy₁,
      (after_presents calls₂).start turnStrategy₂, rfl, rfl, rfl, rfl⟩
  refine ⟨hstep.outputs hst h, ?_⟩
  obtain ⟨v, w, hs, ht, hvw⟩ := hstep.run hst h
  rw [(hs.shows v rfl).cleans, (ht.shows w rfl).cleans, hvw.cleans]

/-- The theorem with a stop and a left turn beside a back-up and a right
turn. -/
theorem suction_ignores_sides_once :
    (ticking.run ((after []).start "prefer_left")
        [({ frontBlocked := true, dustDetected := true }, 0),
          ({ frontBlocked := true }, 500)]).cleaningService.cleaningActuator.history =
      (ticking.run ((after []).start "force_right")
        [({ frontBlocked := true, leftBlocked := true, rightBlocked := true,
            dustDetected := true }, 0),
          ({ frontBlocked := true }, 500)]).cleaningService.cleaningActuator.history :=
  (suction_ignores_sides [] [] "prefer_left" "force_right"
    (.cons ⟨⟨rfl, rfl⟩, rfl⟩ (.cons ⟨⟨rfl, rfl⟩, rfl⟩ .nil))).2

end RvcControl
