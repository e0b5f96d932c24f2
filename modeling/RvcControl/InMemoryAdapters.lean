import RvcControl.CleaningService

/-!
# The in-memory adapters

The port implementations the simulator, the scenario runner and the command
line share: a replaying sensor reader, two command logs, a timer that only
moves when told to, and the turn strategies.
-/

namespace RvcControl

/-- `vector::at` throws this when its index is out of range. -/
inductive OutOfRange
  | outOfRange
  deriving DecidableEq, Repr

structure InMemorySensorReader where
  snapshots : List SensorSnapshot := []
  index : Nat := 0
  deriving DecidableEq, Repr

namespace InMemorySensorReader

def setSnapshots (r : InMemorySensorReader) (snapshots : List SensorSnapshot) :
    InMemorySensorReader :=
  { r with snapshots := snapshots, index := 0 }

def reset (r : InMemorySensorReader) : InMemorySensorReader :=
  { r with index := 0 }

/-- `snapshots_.at`. -/
def snapshotAt (r : InMemorySensorReader) (i : Nat) : Except OutOfRange SensorSnapshot :=
  match r.snapshots[i]? with
  | some snapshot => .ok snapshot
  | none => .error .outOfRange

/-- The cursor stops one short of the end, so the last snapshot is read again
and again. -/
def read (r : InMemorySensorReader) :
    Except OutOfRange SensorSnapshot × InMemorySensorReader :=
  if r.snapshots.isEmpty then (.ok {}, r)
  else
    let currentIndex := r.index
    (r.snapshotAt currentIndex,
      if r.index + 1 < r.snapshots.length then { r with index := r.index + 1 } else r)

/-- The cursor points into the list, or at the start of an empty one. -/
def InRange (r : InMemorySensorReader) : Prop :=
  r.index = 0 ∨ r.index < r.snapshots.length

/-- The cursor of a new list is at its start. -/
theorem setSnapshots_inRange (r : InMemorySensorReader) (snapshots : List SensorSnapshot) :
    (r.setSnapshots snapshots).InRange := Or.inl rfl

theorem reset_inRange (r : InMemorySensorReader) : r.reset.InRange := Or.inl rfl

/-- Reading keeps it in the list. -/
theorem read_inRange {r : InMemorySensorReader} (h : r.InRange) : r.read.2.InRange := by
  unfold read
  split
  · exact h
  · split
    · rename_i hlt
      exact Or.inr hlt
    · exact h

/-- A cursor in range never makes `Read` throw. -/
theorem read_ok {r : InMemorySensorReader} (h : r.InRange) :
    ∃ snapshot, r.read.1 = .ok snapshot := by
  unfold read
  split
  · exact ⟨{}, rfl⟩
  · rename_i hne
    have hpos : 0 < r.snapshots.length := by
      simpa [List.length_pos_iff] using hne
    have hlt : r.index < r.snapshots.length := by
      unfold InRange at h
      omega
    exact ⟨r.snapshots[r.index], by simp [snapshotAt, hlt]⟩

end InMemorySensorReader

/-- A sensor reader with its cursor in range: what the public operations make,
starting from a new reader.  Reading one cannot throw. -/
def ReplayReader : Type := { r : InMemorySensorReader // r.InRange }

namespace ReplayReader

def new : ReplayReader := ⟨{}, Or.inl rfl⟩

def setSnapshots (r : ReplayReader) (snapshots : List SensorSnapshot) : ReplayReader :=
  ⟨r.1.setSnapshots snapshots, r.1.setSnapshots_inRange snapshots⟩

def reset (r : ReplayReader) : ReplayReader :=
  ⟨r.1.reset, r.1.reset_inRange⟩

def read (r : ReplayReader) : SensorSnapshot × ReplayReader :=
  match h : r.1.read.1 with
  | .ok snapshot => (snapshot, ⟨r.1.read.2, InMemorySensorReader.read_inRange r.2⟩)
  | .error _ => absurd (InMemorySensorReader.read_ok r.2) (by simp [h])

instance : ISensorReader ReplayReader := ⟨read⟩

/-- A reader about to hand out one given snapshot. -/
def showing (sensors : SensorSnapshot) : ReplayReader := new.setSnapshots [sensors]

end ReplayReader

structure InMemoryMotionActuator where
  history : List MotionCommand := []
  deriving DecidableEq, Repr

instance : IMotionActuator InMemoryMotionActuator where
  execute command a := { a with history := a.history ++ [command] }

def InMemoryMotionActuator.clear (a : InMemoryMotionActuator) : InMemoryMotionActuator :=
  { a with history := [] }

structure InMemoryCleaningActuator where
  history : List CleaningCommand := []
  deriving DecidableEq, Repr

instance : ICleaningActuator InMemoryCleaningActuator where
  execute command a := { a with history := a.history ++ [command] }

def InMemoryCleaningActuator.clear (a : InMemoryCleaningActuator) :
    InMemoryCleaningActuator :=
  { a with history := [] }

/-- The boost timer, with exact sums.  The one of the machine holds 64-bit
integers; it is `FakeTimer64`, and `session64_run_exact` says where the two are
alike. -/
structure FakeTimer where
  active : Bool := false
  elapsed : Int := 0
  duration : Int := 0
  deriving DecidableEq, Repr

namespace FakeTimer

def startBoost (duration : Int) (t : FakeTimer) : FakeTimer :=
  { t with active := true, elapsed := 0, duration := duration }

def isBoostExpired (t : FakeTimer) : Bool :=
  if !t.active then false else decide (t.elapsed ≥ t.duration)

def cancelBoost (t : FakeTimer) : FakeTimer :=
  { t with active := false, elapsed := 0, duration := 0 }

def advance (delta : Int) (t : FakeTimer) : FakeTimer :=
  if t.active then { t with elapsed := t.elapsed + delta } else t

instance : ITimer FakeTimer := ⟨startBoost, isBoostExpired, cancelBoost⟩

end FakeTimer

structure PreferLeftTurnStrategy where
  deriving DecidableEq, Repr

instance : ITurnStrategy PreferLeftTurnStrategy where
  choose _ sensors :=
    if !sensors.leftBlocked then .left
    else if !sensors.rightBlocked then .right
    else .left

structure FixedTurnStrategy where
  direction : TurnDirection
  deriving DecidableEq, Repr

instance : ITurnStrategy FixedTurnStrategy where
  choose s _ := s.direction

/-- A pointer to some strategy is its `Choose`. -/
structure SwitchableTurnStrategy where
  activeStrategy : Option (SensorSnapshot → TurnDirection) := none

def SwitchableTurnStrategy.setActive {σ : Type*} [ITurnStrategy σ]
    (s : SwitchableTurnStrategy) (strategy : σ) : SwitchableTurnStrategy :=
  { s with activeStrategy := some (ITurnStrategy.choose strategy) }

instance : ITurnStrategy SwitchableTurnStrategy where
  choose s sensors :=
    match s.activeStrategy with
    | none => .left
    | some choose => choose sensors

end RvcControl
