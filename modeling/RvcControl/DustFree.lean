import RvcControl.ManualLoop
import RvcControl.TwoSessions

/-!
# Where the robot has stood there is no dust

Dust under the robot is answered with a boost, in every phase and every mode,
unless a boost has run out; and a boost makes the page remove the dust from the
cell the robot stood on and from the cell it has moved to.  The timer of a live
session is always wound up between two calls (`Unexpired`), and the page's own
posts let no time pass.  So the exception never occurs in the manual loop, and
as long as nobody adds dust it does not come back.
-/

namespace RvcControl

namespace Grid

/-- A motion alone takes no dust away. -/
theorem applyMotion_dustCells (g : Grid) (command : MotionCommand) :
    (g.applyMotion command).dustCells = g.dustCells := by
  rw [applyMotion_frame]

/-- Which dust a tick's result removes. -/
theorem has_applyTickResult (g : Grid) (state : SimulatorState) (c : Cell) :
    (g.applyTickResult state).dustCells.has c =
      (g.dustCells.has c && !(decide (state.lastClean = .setBoost) &&
        (decide (c = (g.applyTickResult state).robot.cell) || decide (c = g.robot.cell)))) := by
  rw [applyTickResult_robot]
  unfold applyTickResult applyCleaningEffect
  split
  · rename_i hboost
    simp only [CellSet.has_delete, applyMotion_dustCells, hboost, decide_true, Bool.true_and,
      Bool.not_or, Bool.and_assoc]
  · rename_i hboost
    simp [applyMotion_dustCells, hboost]

end Grid

/-! ## The timer between two calls -/

/-- The timer of the session has time left. -/
def LiveSession.Unexpired (v : LiveSession) : Prop := v.timer.isBoostExpired = false

/-- After a tick no boost has expired. -/
theorem LiveSession.tick_unexpired (v : LiveSession) (sensors : SensorSnapshot)
    (timerAdvance : Int) : (v.tick sensors timerAdvance).Unexpired := by
  unfold Unexpired tick
  cases v.nextMode sensors timerAdvance <;> rfl

/-- **Every call leaves the timer wound up**: a tick that keeps the boost arms
it afresh, and everything else cancels it. -/
theorem shown_unexpired (calls : List SimulatorService.Call) :
    ∀ v, shown calls = some v → v.Unexpired := by
  apply liveSessions.run_invariant (P := fun shown => ∀ v, shown = some v → v.Unexpired)
  · intro v hv
    cases hv
  · intro shown call h v hv
    cases call with
    | reset =>
        obtain ⟨u, _, rfl⟩ := Option.map_eq_some_iff.mp hv
        rfl
    | start turnStrategy =>
        cases hv
        rfl
    | tick sensors timerAdvance =>
        obtain ⟨u, _, rfl⟩ := Option.map_eq_some_iff.mp hv
        exact u.tick_unexpired sensors timerAdvance
    | getState => exact h v hv

/-- Without time passing, dust is answered with a boost. -/
theorem LiveSession.Unexpired.boosts {v : LiveSession} (h : v.Unexpired)
    {sensors : SensorSnapshot} (hdust : sensors.dustDetected = true) :
    (v.tick sensors 0).mode = .boost := by
  have hnot : (v.timerAfter 0).isBoostExpired = false := h
  apply (CleaningMode.next_eq_boost_of_dust hdust).mpr
  simp [hnot]

/-! ## One round -/

/-- Which dust a round removes. -/
theorem has_next (st : SimulatorService × Grid) (e : Round) (c : Cell) :
    (manualLoop.next st e).2.dustCells.has c =
      ((st.2.edit e.clicks).dustCells.has c &&
        !(decide ((manualLoop.out st e).lastClean = .setBoost) &&
          (decide (c = (manualLoop.next st e).2.robot.cell) ||
            decide (c = st.2.robot.cell)))) := by
  have hdust := Grid.has_applyTickResult (st.2.edit e.clicks) (manualLoop.out st e) c
  rw [Grid.edit_robot] at hdust
  exact hdust

/-- A round brings no dust. -/
theorem has_of_has_next {st : SimulatorService × Grid} {e : Round} {c : Cell}
    (h : (manualLoop.next st e).2.dustCells.has c = true) :
    (st.2.edit e.clicks).dustCells.has c = true := by
  rw [has_next] at h
  exact (Bool.and_eq_true_iff.mp h).1

/-- A round takes no dust but from under the robot. -/
theorem has_next_of_ne {st : SimulatorService × Grid} {e : Round} {c : Cell}
    (hbefore : c ≠ st.2.robot.cell) (hafter : c ≠ (manualLoop.next st e).2.robot.cell) :
    (manualLoop.next st e).2.dustCells.has c = (st.2.edit e.clicks).dustCells.has c := by
  rw [has_next]
  simp [hbefore, hafter]

/-- A live session that has time left, and its grid. -/
def Cleaning (st : SimulatorService × Grid) : Prop :=
  ∃ v, Presents st.1 (some v) ∧ v.Unexpired

/-- A service that has been started is cleaning. -/
theorem cleaning_after {calls : List SimulatorService.Call}
    (h : ∃ turnStrategy, .start turnStrategy ∈ calls) (g : Grid) :
    Cleaning (.after calls, g) := by
  obtain ⟨v, hv⟩ := Option.isSome_iff_exists.mp ((shown_isSome_iff calls).mpr h)
  exact ⟨v, hv ▸ after_presents calls, shown_unexpired calls v hv⟩

namespace Cleaning

variable {st : SimulatorService × Grid}

/-- It goes on cleaning. -/
theorem round (h : Cleaning st) (e : Round) : Cleaning (manualLoop.next st e) := by
  obtain ⟨v, hv, _⟩ := h
  exact ⟨_, hv.tick (seen st e) e.timerAdvance, v.tick_unexpired _ _⟩

/-- A round that finds dust under the robot boosts. -/
theorem round_setBoost (h : Cleaning st) {e : Round} (htime : e.timerAdvance = 0)
    (hdust : (seen st e).dustDetected = true) :
    (manualLoop.out st e).lastClean = .setBoost := by
  obtain ⟨v, hv, hunexpired⟩ := h
  have hstate : manualLoop.out st e = (v.tick (seen st e) e.timerAdvance).state :=
    (hv.tick (seen st e) e.timerAdvance).getState
  rw [hstate, LiveSession.state_tick_lastClean, htime, hunexpired.boosts hdust]
  rfl

/-- **One round cleans the cell the robot stood on.** -/
theorem round_clean (h : Cleaning st) {e : Round} (htime : e.timerAdvance = 0) :
    (manualLoop.next st e).2.dustCells.has st.2.robot.cell = false := by
  rw [has_next]
  cases hseen : (seen st e).dustDetected with
  | false =>
      have hclear : (st.2.edit e.clicks).dustCells.has st.2.robot.cell = false := by
        simpa [seen, Grid.readSensorsFromGrid] using hseen
      rw [hclear, Bool.false_and]
  | true => simp [h.round_setBoost htime hseen]

end Cleaning

/-! ## A run -/

/-- A round as the page posts it, with no dust put on the grid before it. -/
structure Dustless (start : SimulatorService × Grid) (before : List Round) (e : Round) : Prop where
  timerAdvance : e.timerAdvance = 0
  edit : ∀ c, ((manualLoop.run start before).2.edit e.clicks).dustCells.has c = true →
    (manualLoop.run start before).2.dustCells.has c = true

/-- It goes on cleaning along every run. -/
theorem cleaning_run {start : SimulatorService × Grid} (h : Cleaning start) (es : List Round) :
    Cleaning (manualLoop.run start es) :=
  manualLoop.run_invariant h (fun _ e hst => hst.round e) es

/-- A cell the robot has stood on is clean from then on. -/
theorem stood_clean {start : SimulatorService × Grid} (hstart : Cleaning start) {es : List Round}
    (h : History.Historically (Dustless start) es) {before rest : List Round} {e : Round}
    (hsplit : es = before ++ e :: rest) :
    (manualLoop.run start es).2.dustCells.has (manualLoop.run start before).2.robot.cell =
      false := by
  induction es using List.reverseRecOn generalizing rest with
  | nil => simp at hsplit
  | append_singleton es last ih =>
      obtain ⟨hes, hlast⟩ := History.historically_concat.mp h
      rw [manualLoop.run_concat]
      rcases History.split_concat hsplit with ⟨rfl, rfl, _⟩ | ⟨rest, _, hrest⟩
      · exact (cleaning_run hstart before).round_clean hlast.timerAdvance
      · have hclean := ih hes hrest
        rw [← Bool.not_eq_true] at hclean ⊢
        intro hdust
        exact hclean (hlast.edit _ (has_of_has_next hdust))

/-- **No dust is left behind.**  In the manual loop of a started session, with
the page's own posts and nobody adding dust, no cell on which the robot stood
when its sensors were read holds dust after that round or any later one; and no
round takes dust from other cells than the two the robot stood on before and
after it. -/
theorem no_dust_left_behind (calls : List SimulatorService.Call)
    (hstart : ∃ turnStrategy, .start turnStrategy ∈ calls) (g : Grid) (es : List Round)
    (h : History.Historically (Dustless (.after calls, g)) es) (before rest : List Round)
    (e : Round) (hsplit : es = before ++ e :: rest) :
    let run := manualLoop.run (.after calls, g)
    (run es).2.dustCells.has (run before).2.robot.cell = false ∧
      ∀ c, c ≠ (run before).2.robot.cell → c ≠ (run (before ++ [e])).2.robot.cell →
        (run (before ++ [e])).2.dustCells.has c =
          ((run before).2.edit e.clicks).dustCells.has c := by
  intro run
  refine ⟨stood_clean (cleaning_after hstart g) h hsplit, ?_⟩
  intro c hbefore hafter
  have hstep : run (before ++ [e]) = manualLoop.next (run before) e := manualLoop.run_concat _ _ _
  rw [hstep] at hafter ⊢
  exact has_next_of_ne hbefore hafter

/-- The theorem for one round on a dusty cell. -/
theorem no_dust_left_once :
    (manualLoop.run (.after [.start "prefer_left"],
        { cols := 5, rows := 5, robot := ⟨2, 2, 0⟩, dustCells := CellSet.add {} (2, 2) })
      [{}]).2.dustCells.has (2, 2) = false :=
  (no_dust_left_behind [.start "prefer_left"] ⟨_, List.mem_singleton.mpr rfl⟩
    { cols := 5, rows := 5, robot := ⟨2, 2, 0⟩, dustCells := CellSet.add {} (2, 2) } [{}]
    (by
      rw [← List.nil_append [({} : Round)], History.historically_concat]
      exact ⟨History.historically_nil _, rfl, fun _ h => h⟩) [] [] {} rfl).1

end RvcControl
