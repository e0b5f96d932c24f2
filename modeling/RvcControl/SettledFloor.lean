import RvcControl.Circling
import RvcControl.DustFree

/-!
# When cleaning is over

A robot that is left alone gets to all the cells it will ever get to within
twenty rounds for every free cell, and it cleans what it gets to.  So after that
many rounds the floor stays as it is, and what is left of the dust is the dust on
the cells it has not been on.
-/

namespace RvcControl

/-- The loop after `n` rounds in which nobody clicks and no time passes. -/
def leftAlone (calls : List SimulatorService.Call) (g : Grid) (n : ℕ) : SimulatorService × Grid :=
  manualLoop.run (.after calls, g) (List.replicate n {})

section LeftAlone

variable {calls : List SimulatorService.Call} {g : Grid}

/-- One round more. -/
theorem leftAlone_succ (n : ℕ) :
    leftAlone calls g (n + 1) = manualLoop.next (leftAlone calls g n) {} := by
  unfold leftAlone
  rw [List.replicate_succ', Mealy.run_concat]

/-- Nothing happens in these rounds. -/
theorem eq_of_mem_leftAlone {n : ℕ} : ∀ e ∈ List.replicate n ({} : Round), e = {} :=
  fun _ he => List.eq_of_mem_replicate he

theorem leftAlone_static (n : ℕ) : ∀ e ∈ List.replicate n ({} : Round), e.Static := by
  intro e he c
  rw [eq_of_mem_leftAlone e he]
  exact List.not_mem_nil

/-- A robot left alone goes its way. -/
theorem leftAlone_robot {way : ℕ → Robot} {tail period : ℕ} (h : Circles calls g way tail period)
    (n : ℕ) : (leftAlone calls g n).2.robot = way n := by
  have hrobot := h.robot _ (leftAlone_static n)
  rw [List.length_replicate] at hrobot
  exact hrobot

/-- A cell on which the robot began a round is clean afterwards. -/
theorem leftAlone_clean (hstart : ∃ turnStrategy, .start turnStrategy ∈ calls) {k n : ℕ}
    (hk : k < n) :
    (leftAlone calls g n).2.dustCells.has (leftAlone calls g k).2.robot.cell = false := by
  have hdustless : History.Historically (Dustless (.after calls, g))
      (List.replicate n ({} : Round)) := by
    intro before e after hsplit
    have he := eq_of_mem_leftAlone (n := n) e (by rw [hsplit]; simp)
    subst he
    exact ⟨rfl, fun c h => h⟩
  have hsplit : List.replicate n ({} : Round) =
      List.replicate k ({} : Round) ++ ({} : Round) :: List.replicate (n - k - 1) {} := by
    rw [← List.replicate_succ, List.replicate_append_replicate]
    exact congrArg (fun m => List.replicate m ({} : Round)) (by omega)
  exact stood_clean (cleaning_after hstart g) hdustless hsplit

/-- Where the robot has never been, nothing changes. -/
theorem leftAlone_has {c : Cell} {n : ℕ} (h : ∀ k ≤ n, (leftAlone calls g k).2.robot.cell ≠ c) :
    (leftAlone calls g n).2.dustCells.has c = g.dustCells.has c := by
  induction n with
  | zero => rfl
  | succ n ih =>
      have hbefore := ih fun k hk => h k (Nat.le_succ_of_le hk)
      have hhere := h n (Nat.le_succ n)
      have hnext := h (n + 1) le_rfl
      rw [leftAlone_succ] at hnext ⊢
      rw [has_next_of_ne hhere.symm hnext.symm]
      exact hbefore

/-- Nobody brings dust. -/
theorem leftAlone_has_of_has {c : Cell} {n : ℕ}
    (h : (leftAlone calls g n).2.dustCells.has c = true) : g.dustCells.has c = true := by
  induction n with
  | zero => exact h
  | succ n ih =>
      rw [leftAlone_succ] at h
      exact ih (has_of_has_next h)

/-- In the end the dust is what there was where the robot never comes. -/
theorem leftAlone_settled (hstart : ∃ turnStrategy, .start turnStrategy ∈ calls)
    (hfree : g.RobotFree) {n : ℕ} (hn : 20 * g.freeCells.card ≤ n) (c : Cell) :
    (leftAlone calls g n).2.dustCells.has c = true ↔
      g.dustCells.has c = true ∧ ∀ k, (leftAlone calls g k).2.robot.cell ≠ c := by
  obtain ⟨way, tail, period, hcircles⟩ := exists_circles hstart hfree
  have hroom := hcircles.room
  constructor
  · intro hdust
    refine ⟨leftAlone_has_of_has hdust, ?_⟩
    rintro k rfl
    obtain ⟨m, _, hm, heq⟩ := hcircles.early k
    rw [leftAlone_robot hcircles, ← heq, ← leftAlone_robot hcircles,
      leftAlone_clean hstart (by omega)] at hdust
    cases hdust
  · rintro ⟨hdust, hnever⟩
    rw [leftAlone_has fun k _ => hnever k]
    exact hdust

end LeftAlone

/-- **Cleaning is over after twenty rounds for every free cell.**  Leave a robot
on a free cell alone in a session that has been started.  From then on the dust
is the dust there was on the cells the robot has not been on by then, and it
stays. -/
theorem cleaning_settles (calls : List SimulatorService.Call)
    (hstart : ∃ turnStrategy, .start turnStrategy ∈ calls) (g : Grid) (hfree : g.RobotFree)
    {n : ℕ} (hn : 20 * g.freeCells.card ≤ n) (c : Cell) :
    (leftAlone calls g n).2.dustCells.has c = true ↔
      g.dustCells.has c = true ∧
        ∀ k < 20 * g.freeCells.card, (leftAlone calls g k).2.robot.cell ≠ c := by
  obtain ⟨way, tail, period, hcircles⟩ := exists_circles hstart hfree
  rw [leftAlone_settled hstart hfree hn]
  refine and_congr_right fun _ => ⟨fun h k _ => h k, ?_⟩
  intro h k
  obtain ⟨m, _, hm, heq⟩ := hcircles.early k
  rw [leftAlone_robot hcircles, ← heq, ← leftAlone_robot hcircles]
  exact h m (hm.trans_le hcircles.room)

/-- The theorem for two rooms with a wall between them: the dust in the robot's
room goes, that in the other one stays. -/
theorem cleaning_settles_once :
    let twoRooms : Grid :=
      { cols := 4, rows := 2, robot := ⟨0, 0, 0⟩
        obstacles := CellSet.add (CellSet.add {} (2, 0)) (2, 1)
        dustCells := CellSet.add (CellSet.add {} (1, 1)) (3, 0) }
    let settled := (leftAlone [.start "prefer_left"] twoRooms 120).2.dustCells
    settled.has (1, 1) ≠ true ∧ settled.has (3, 0) = true := by
  intro twoRooms settled
  have hcard : 20 * twoRooms.freeCells.card = 120 := by decide
  have hsettles := cleaning_settles [.start "prefer_left"] ⟨_, List.mem_singleton.mpr rfl⟩ twoRooms
    rfl hcard.le
  rw [hcard] at hsettles
  constructor
  · intro hdust
    exact ((hsettles (1, 1)).mp hdust).2 4 (by decide) (by decide +kernel)
  · exact (hsettles (3, 0)).mpr ⟨by decide, by decide +kernel⟩

end RvcControl
