import Mathlib.Order.CompletePartialOrder
import RvcControl.MotionTrace

/-!
# The shape of a manoeuvre

The motion commands of a session form words of

    MoveForward* ((Stop | MoveBackward) Turn_d+ MoveForward+)*

cut off at some tick.  To say also *when* a manoeuvre opens, which way it
turns and where its turns end, the words are taken over `TickRecord`s, which
hold the sensors of a tick and the direction its strategy chose besides the
command.  Each phase of the automaton has the language of what may still
follow; a tick in front of a word of the next phase's language is a word of
its own, and `Mealy.outputs_prefix` does the rest.
-/

namespace RvcControl

open scoped Computability

/-- One tick, seen from outside. -/
structure TickRecord where
  sensors : SensorSnapshot
  choice : TurnDirection
  motion : MotionCommand
  deriving DecidableEq, Repr

/-- The words of one letter that satisfies `p`. -/
def letter {α : Type*} (p : α → Prop) : Language α :=
  {w | ∃ a, p a ∧ w = [a]}

/-- A letter in front of a word. -/
theorem cons_mem_letter_mul {α : Type*} {p : α → Prop} {a : α} (ha : p a) {L : Language α}
    {w : List α} (hw : w ∈ L) : a :: w ∈ letter p * L :=
  Language.append_mem_mul (a := [a]) ⟨a, ha, rfl⟩ hw

/-- The robot drives on, and the front sensor of the tick is clear. -/
def Forward (t : TickRecord) : Prop :=
  t.motion = .moveForward ∧ t.sensors.frontBlocked = false

/-- A manoeuvre opens: backwards if all three sides are blocked, with a stop
if the front is and some side is free. -/
def Opening (t : TickRecord) : Prop :=
  (t.motion = .moveBackward ∧ t.sensors.allSidesBlocked = true) ∨
    (t.motion = .stop ∧ t.sensors.frontBlocked = true ∧
      (t.sensors.leftBlocked = false ∨ t.sensors.rightBlocked = false))

/-- The first turn, in the direction the strategy chooses at this very tick. -/
def FirstTurn (d : TurnDirection) (t : TickRecord) : Prop :=
  t.motion = d.command ∧ t.choice = d

/-- A further turn in the same direction, whatever the strategy would choose:
the front is still blocked. -/
def FurtherTurn (d : TurnDirection) (t : TickRecord) : Prop :=
  t.motion = d.command ∧ t.sensors.frontBlocked = true

/-- The turns in direction `d` and the way on from them. -/
def turnsAndOn (d : TurnDirection) : Language TickRecord :=
  letter (FirstTurn d) * ((letter (FurtherTurn d))∗ * (letter Forward * (letter Forward)∗))

/-- A complete manoeuvre. -/
def maneuver : Language TickRecord :=
  letter Opening * (turnsAndOn .left + turnsAndOn .right)

/-- Complete sessions: a drive, and then manoeuvres. -/
def sessionShape : Language TickRecord :=
  (letter Forward)∗ * maneuver∗

/-- What may follow in each phase. -/
def remaining : MotionPhase → Language TickRecord
  | .cruising => sessionShape
  | .stopped => (turnsAndOn .left + turnsAndOn .right) * maneuver∗
  | .backedUp => (turnsAndOn .left + turnsAndOn .right) * maneuver∗
  | .turning d =>
      ((letter (FurtherTurn d))∗ * (letter Forward * (letter Forward)∗)) * maneuver∗

section Residuals

/-- On the straight the robot drives on. -/
theorem forward_mul_cruising : letter Forward * remaining .cruising ≤ remaining .cruising := by
  calc letter Forward * ((letter Forward)∗ * maneuver∗)
      = (letter Forward * (letter Forward)∗) * maneuver∗ := (mul_assoc _ _ _).symm
    _ ≤ (letter Forward)∗ * maneuver∗ := mul_le_mul_left mul_kstar_le_kstar _

theorem opening_mul_turns :
    letter Opening * ((turnsAndOn .left + turnsAndOn .right) * maneuver∗) ≤
      remaining .cruising := by
  calc letter Opening * ((turnsAndOn .left + turnsAndOn .right) * maneuver∗)
      = maneuver * maneuver∗ := (mul_assoc _ _ _).symm
    _ ≤ maneuver∗ := mul_kstar_le_kstar
    _ = 1 * maneuver∗ := (one_mul _).symm
    _ ≤ (letter Forward)∗ * maneuver∗ := mul_le_mul_left one_le_kstar _

/-- The first turn fixes the direction. -/
theorem firstTurn_mul_turning (d : TurnDirection) :
    letter (FirstTurn d) * remaining (.turning d) ≤ remaining .stopped := by
  calc letter (FirstTurn d) * remaining (.turning d)
      = turnsAndOn d * maneuver∗ := (mul_assoc _ _ _).symm
    _ ≤ (turnsAndOn .left + turnsAndOn .right) * maneuver∗ := by
        apply mul_le_mul_left
        cases d with
        | left => exact le_self_add
        | right => exact le_add_self

/-- Further turns keep it. -/
theorem furtherTurn_mul_turning (d : TurnDirection) :
    letter (FurtherTurn d) * remaining (.turning d) ≤ remaining (.turning d) := by
  unfold remaining
  rw [← mul_assoc, ← mul_assoc]
  exact mul_le_mul_left (mul_le_mul_left mul_kstar_le_kstar _) _

theorem forward_mul_turning (d : TurnDirection) :
    letter Forward * remaining .cruising ≤ remaining (.turning d) := by
  calc letter Forward * ((letter Forward)∗ * maneuver∗)
      = (1 * (letter Forward * (letter Forward)∗)) * maneuver∗ := by
        rw [one_mul, mul_assoc]
    _ ≤ remaining (.turning d) := mul_le_mul_left (mul_le_mul_left one_le_kstar _) _

end Residuals

/-- Some word remains in every phase: the robot can always get on. -/
theorem exists_mem_remaining (p : MotionPhase) : ∃ w, w ∈ remaining p := by
  let forward : TickRecord := ⟨{}, .left, .moveForward⟩
  have hcruise : [] ∈ remaining .cruising :=
    Language.append_mem_mul (Language.nil_mem_kstar _) (Language.nil_mem_kstar _)
  have hturning : ∀ d, [forward] ∈ remaining (.turning d) := fun d =>
    forward_mul_turning d (cons_mem_letter_mul (p := Forward) ⟨rfl, rfl⟩ hcruise)
  have hopened : [⟨{}, .left, .turnLeft⟩, forward] ∈ remaining .stopped :=
    firstTurn_mul_turning .left
      (cons_mem_letter_mul (p := FirstTurn .left) ⟨rfl, rfl⟩ (hturning .left))
  cases p with
  | cruising => exact ⟨_, hcruise⟩
  | stopped => exact ⟨_, hopened⟩
  | backedUp => exact ⟨_, hopened⟩
  | turning d => exact ⟨_, hturning d⟩

/-- The automaton, recording what each tick read and chose. -/
def recording : Mealy MotionPhase (SensorSnapshot × TurnDirection) TickRecord where
  step p i := (p.next i.1 i.2, ⟨i.1, i.2, (p.next i.1 i.2).command⟩)

/-- One tick, in front of what remains after it. -/
theorem record_cons_mem (p : MotionPhase) (i : SensorSnapshot × TurnDirection)
    (w : List TickRecord) (hw : w ∈ remaining (recording.next p i)) :
    recording.out p i :: w ∈ remaining p := by
  obtain ⟨sensors, choice⟩ := i
  simp only [Mealy.next, Mealy.out, recording] at hw ⊢
  cases p with
  | cruising =>
      cases hf : sensors.frontBlocked with
      | false =>
          simp only [MotionPhase.next, MotionPhase.allSidesBlocked_front hf, hf,
            Bool.false_eq_true, if_false] at hw ⊢
          exact forward_mul_cruising (cons_mem_letter_mul (p := Forward) ⟨rfl, hf⟩ hw)
      | true =>
          cases hall : sensors.allSidesBlocked with
          | true =>
              simp only [MotionPhase.next, hall, if_true] at hw ⊢
              exact opening_mul_turns
                (cons_mem_letter_mul (p := Opening) (Or.inl ⟨rfl, hall⟩) hw)
          | false =>
              have hside : sensors.leftBlocked = false ∨ sensors.rightBlocked = false := by
                cases hl : sensors.leftBlocked with
                | false => exact Or.inl rfl
                | true =>
                    apply Or.inr
                    simpa [SensorSnapshot.allSidesBlocked, hf, hl] using hall
              simp only [MotionPhase.next, hall, hf, Bool.false_eq_true, if_false,
                if_true] at hw ⊢
              exact opening_mul_turns
                (cons_mem_letter_mul (p := Opening) (Or.inr ⟨rfl, hf, hside⟩) hw)
  | stopped =>
      exact firstTurn_mul_turning choice
        (cons_mem_letter_mul (p := FirstTurn choice) ⟨rfl, rfl⟩ hw)
  | backedUp =>
      exact firstTurn_mul_turning choice
        (cons_mem_letter_mul (p := FirstTurn choice) ⟨rfl, rfl⟩ hw)
  | turning d =>
      cases hf : sensors.frontBlocked with
      | false =>
          simp only [MotionPhase.next, hf, Bool.false_eq_true, if_false] at hw ⊢
          exact forward_mul_turning d (cons_mem_letter_mul (p := Forward) ⟨rfl, hf⟩ hw)
      | true =>
          simp only [MotionPhase.next, hf, if_true] at hw ⊢
          exact furtherTurn_mul_turning d
            (cons_mem_letter_mul (p := FurtherTurn d) ⟨rfl, hf⟩ hw)

/-- The motions of the records are those of the phases. -/
theorem map_motion_recording (p : MotionPhase) (is : List (SensorSnapshot × TurnDirection)) :
    (recording.outputs p is).map TickRecord.motion = motionPhases.outputs p is := by
  induction is generalizing p with
  | nil => rfl
  | cons i is ih =>
      rw [Mealy.outputs_cons, List.map_cons, ih]
      rfl

/-! ## The words of the commands alone -/

/-- `(Stop | MoveBackward) Turn_d+ MoveForward+` -/
def maneuverWords (d : TurnDirection) : Language MotionCommand :=
  ({[.stop]} + {[.moveBackward]}) *
    (({[d.command]} * {[d.command]}∗) * ({[.moveForward]} * {[.moveForward]}∗))

/-- `MoveForward* ((Stop | MoveBackward) Turn_d+ MoveForward+)*` -/
def motionWords : Language MotionCommand :=
  {[.moveForward]}∗ * (maneuverWords .left + maneuverWords .right)∗

/-- Letters of the records become letters of the motions. -/
theorem map_letter_le {p : TickRecord → Prop} {L : Language MotionCommand}
    (h : ∀ t, p t → [t.motion] ∈ L) : Language.map TickRecord.motion (letter p) ≤ L := by
  intro w hw
  obtain ⟨_, ⟨t, ht, rfl⟩, rfl⟩ := hw
  exact h t ht

theorem map_turnsAndOn_le (d : TurnDirection) :
    Language.map TickRecord.motion (turnsAndOn d) ≤
      ({[d.command]} * {[d.command]}∗) * ({[.moveForward]} * {[.moveForward]}∗) := by
  have hforward : Language.map TickRecord.motion (letter Forward) ≤ {[.moveForward]} :=
    map_letter_le fun t ht => by rw [ht.1]; rfl
  have hfirst : Language.map TickRecord.motion (letter (FirstTurn d)) ≤ {[d.command]} :=
    map_letter_le fun t ht => by rw [ht.1]; rfl
  have hfurther : Language.map TickRecord.motion (letter (FurtherTurn d)) ≤ {[d.command]} :=
    map_letter_le fun t ht => by rw [ht.1]; rfl
  simp only [turnsAndOn, map_mul, Language.map_kstar]
  rw [← mul_assoc]
  exact mul_le_mul' (mul_le_mul' hfirst (kstar_mono hfurther))
    (mul_le_mul' hforward (kstar_mono hforward))

/-- Forgetting the sensors leaves a word of the commands. -/
theorem map_sessionShape_le :
    Language.map TickRecord.motion sessionShape ≤ motionWords := by
  have hforward : Language.map TickRecord.motion (letter Forward) ≤ {[.moveForward]} :=
    map_letter_le fun t ht => by rw [ht.1]; rfl
  have hopening : Language.map TickRecord.motion (letter Opening) ≤
      {[.stop]} + {[.moveBackward]} := by
    apply map_letter_le
    intro t ht
    rcases ht with ⟨hm, _⟩ | ⟨hm, _⟩
    · exact Or.inr (by rw [hm]; rfl)
    · exact Or.inl (by rw [hm]; rfl)
  have hmaneuver : Language.map TickRecord.motion maneuver ≤
      maneuverWords .left + maneuverWords .right := by
    simp only [maneuver, maneuverWords, map_mul, map_add, ← mul_add]
    exact mul_le_mul' hopening
      (add_le_add (map_turnsAndOn_le .left) (map_turnsAndOn_le .right))
  simp only [sessionShape, map_mul, Language.map_kstar]
  exact mul_le_mul' (kstar_mono hforward) (kstar_mono hmaneuver)

/-! ## Every run -/

variable {ρ κ τ σ : Type*} [ISensorReader ρ] [ICleaningActuator κ] [ITimer τ]
  [ITurnStrategy σ]

/-- What the ticks of a run read and chose, beside the commands they issued. -/
def tickRecords (is : List (TickPorts ρ τ σ)) (commands : List MotionCommand) :
    List TickRecord :=
  List.zipWith (fun i motion => ⟨i.view.1, i.view.2, motion⟩) is commands

omit [ITimer τ] in
/-- The records of the ticks are those of the recording. -/
theorem tickRecords_outputs (p : MotionPhase) (is : List (TickPorts ρ τ σ)) :
    tickRecords is (motionPhases.outputs p (is.map TickPorts.view)) =
      recording.outputs p (is.map TickPorts.view) := by
  induction is generalizing p with
  | nil => rfl
  | cons i is ih =>
      simp only [tickRecords, List.map_cons, Mealy.outputs_cons,
        List.zipWith_cons_cons] at ih ⊢
      rw [ih]
      rfl

/-- **The shape of every session.**  Every tick of a run from Start issues one
motion command, and the log grows by these commands; what the ticks read, chose
and issued begins a word of `sessionShape`, and so the commands begin a word of
`motionWords`. -/
theorem maneuver_shape (s : CleaningService ρ InMemoryMotionActuator κ τ σ)
    (is : List (TickPorts ρ τ σ)) :
    ∃ commands : List MotionCommand,
      ticks.outputs s.start is = commands.map (fun motion => [motion]) ∧
      (ticks.run s.start is).motionActuator.history =
        s.motionActuator.history ++ commands ∧
      (∃ w ∈ sessionShape, tickRecords is commands <+: w) ∧
      ∃ w ∈ motionWords, commands <+: w := by
  let views := is.map TickPorts.view
  obtain ⟨w, hw, hprefix⟩ := recording.outputs_prefix exists_mem_remaining record_cons_mem
    .cruising views
  refine ⟨motionPhases.outputs .cruising views, ticks_outputs_start s is,
    motion_history rfl s.stateMachine.start_inPhase is, ⟨w, hw, ?_⟩,
    w.map TickRecord.motion, map_sessionShape_le ⟨w, hw, rfl⟩, ?_⟩
  · rw [tickRecords_outputs]
    exact hprefix
  · rw [← map_motion_recording]
    exact hprefix.map TickRecord.motion

end RvcControl
