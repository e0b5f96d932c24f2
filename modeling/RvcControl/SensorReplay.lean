import RvcControl.History
import RvcControl.InMemoryAdapters
import RvcControl.Mealy

/-!
# The sensor replay

Tests, scenarios and the command line feed a service from lists of snapshots.
The reader keeps a cursor across its operations, stops it one short of the end
and never checks it again, so what a read returns, and that it does not throw,
rests on what the cursor can be after any mix of operations (`Replays`).
-/

namespace RvcControl

open History

inductive ReaderCall
  | setSnapshots (snapshots : List SensorSnapshot)
  | reset
  | read
  deriving DecidableEq, Repr

namespace ReaderCall

/-- The operations that put the cursor back to the start. -/
def rewinds : ReaderCall → Bool
  | .read => false
  | _ => true

end ReaderCall

/-- The reader as its clients call it; only `Read` answers. -/
def replay : Mealy InMemorySensorReader ReaderCall (Option (Except OutOfRange SensorSnapshot)) where
  step r
    | .setSnapshots snapshots => (r.setSnapshots snapshots, none)
    | .reset => (r.reset, none)
    | .read =>
        let (snapshot, r) := r.read
        (r, some snapshot)

/-- The list that was set last. -/
def currentSnapshots (calls : List ReaderCall) : List SensorSnapshot :=
  calls.foldl
    (fun current call =>
      match call with
      | .setSnapshots snapshots => snapshots
      | _ => current) []

/-- How many reads there were since the list was set or the cursor reset. -/
def readsSince (calls : List ReaderCall) : ℕ :=
  sumSince ReaderCall.rewinds (fun _ => 1) calls

/-- The list the reader was set to last. -/
theorem currentSnapshots_concat (calls : List ReaderCall) (call : ReaderCall) :
    currentSnapshots (calls ++ [call]) =
      match call with
      | .setSnapshots snapshots => snapshots
      | _ => currentSnapshots calls := by
  simp [currentSnapshots]

/-- The reads since it was set or reset. -/
theorem readsSince_concat (calls : List ReaderCall) (call : ReaderCall) :
    readsSince (calls ++ [call]) = if call.rewinds then 0 else readsSince calls + 1 :=
  sumSince_concat _ _ _ _

namespace InMemorySensorReader

/-- The reader has handed out `k` snapshots of `snapshots`, or all of them and
then the last one again. -/
structure Replays (r : InMemorySensorReader) (snapshots : List SensorSnapshot) (k : ℕ) : Prop where
  list : r.snapshots = snapshots
  cursor : r.index = min k (snapshots.length - 1)

variable {r : InMemorySensorReader} {snapshots : List SensorSnapshot} {k : ℕ}

/-- A new list is read from its start. -/
theorem setSnapshots_replays (r : InMemorySensorReader) (snapshots : List SensorSnapshot) :
    (r.setSnapshots snapshots).Replays snapshots 0 :=
  ⟨rfl, (Nat.zero_min _).symm⟩

theorem Replays.reset (h : r.Replays snapshots k) : r.reset.Replays snapshots 0 :=
  ⟨h.list, (Nat.zero_min _).symm⟩

/-- **One read** of a list that is not empty. -/
theorem Replays.read_of_ne_nil (h : r.Replays snapshots k) (hne : 0 < snapshots.length) :
    r.read.1 = .ok (snapshots.get ⟨min k (snapshots.length - 1), by omega⟩) ∧
      r.read.2.Replays snapshots (k + 1) := by
  obtain ⟨rfl, hindex⟩ := h
  have hlt : min k (r.snapshots.length - 1) < r.snapshots.length := by omega
  have hnonempty : r.snapshots.isEmpty = false := by
    rw [List.isEmpty_eq_false_iff_exists_mem]
    exact List.length_pos_iff_exists_mem.mp hne
  simp only [read, hnonempty, Bool.false_eq_true, if_false]
  constructor
  · rw [snapshotAt, hindex, List.getElem?_eq_getElem hlt]
    rfl
  · split
    · exact ⟨rfl, by simp only [hindex]; omega⟩
    · exact ⟨rfl, by omega⟩

/-- A read of the empty list. -/
theorem Replays.read_of_nil (h : r.Replays [] k) :
    r.read.1 = .ok {} ∧ r.read.2.Replays [] (k + 1) := by
  have hempty : r.snapshots.isEmpty = true := by
    rw [h.list]
    rfl
  simp only [read, hempty, if_true]
  exact ⟨trivial, h.list, by simpa using h.cursor⟩

/-- Every read is the next one. -/
theorem Replays.read (h : r.Replays snapshots k) : r.read.2.Replays snapshots (k + 1) := by
  rcases snapshots.length.eq_zero_or_pos with hzero | hpos
  · cases List.length_eq_zero_iff.mp hzero
    exact h.read_of_nil.2
  · exact (h.read_of_ne_nil hpos).2

end InMemorySensorReader

/-- Every operation keeps the cursor where the past says. -/
theorem replay_run (calls : List ReaderCall) :
    (replay.run {} calls).Replays (currentSnapshots calls) (readsSince calls) := by
  induction calls using List.reverseRecOn with
  | nil => exact ⟨rfl, rfl⟩
  | append_singleton calls call ih =>
      rw [Mealy.run_concat, currentSnapshots_concat, readsSince_concat]
      cases call with
      | setSnapshots snapshots => exact (replay.run {} calls).setSnapshots_replays snapshots
      | reset => exact ih.reset
      | read => exact ih.read

/-- **The replay is exact and never throws.**  After any operations, the next
read returns the snapshot as far into the current list as there were reads
since it was set or reset, or the last one if the list is shorter, and the
all-clear snapshot if it is empty. -/
theorem replay_exact (calls : List ReaderCall) :
    let snapshots := currentSnapshots calls
    let k := readsSince calls
    (snapshots = [] → replay.out (replay.run {} calls) .read = some (.ok {})) ∧
      ∀ hne : 0 < snapshots.length,
        replay.out (replay.run {} calls) .read =
          some (.ok (snapshots.get ⟨min k (snapshots.length - 1), by omega⟩)) := by
  intro snapshots k
  have h : (replay.run {} calls).Replays snapshots k := replay_run calls
  constructor
  · intro hnil
    rw [hnil] at h
    exact congrArg some h.read_of_nil.1
  · intro hne
    exact congrArg some (h.read_of_ne_nil hne).1

end RvcControl
