import Mathlib.Data.Fintype.Prod
import RvcControl.Orbit
import RvcControl.Roaming

/-!
# Going round in circles

Among walls that stay the robot's way is settled by where it is, which way it
heads and the phase of its manoeuvre, since no strategy looks at the dust.  There
are finitely many such situations, so the robot ends up going round in a circle;
and whatever cells it will ever clean are among those it gets to before.
-/

namespace RvcControl

/-! ## Finitely many situations -/

namespace Grid

variable (g : Grid)

/-- The cells a robot may be on. -/
def freeCells : Finset Cell :=
  ((Finset.range g.cols ×ˢ Finset.range g.rows).image fun c => ((c.1 : Int), (c.2 : Int))).filter
    fun c => g.isBlocked c = false

/-- The free cells are those that are not blocked. -/
theorem mem_freeCells {c : Cell} : c ∈ g.freeCells ↔ g.isBlocked c = false := by
  unfold freeCells
  rw [Finset.mem_filter, and_iff_right_iff_imp]
  intro hfree
  obtain ⟨x, y⟩ := c
  have hinside : ¬ (x < 0 ∨ y < 0 ∨ x ≥ g.cols ∨ y ≥ g.rows) := by
    intro hout
    have hblocked : g.isBlocked (x, y) = true := if_pos hout
    rw [hfree] at hblocked
    cases hblocked
  rw [Finset.mem_image]
  refine ⟨(x.toNat, y.toNat), ?_, ?_⟩
  · rw [Finset.mem_product, Finset.mem_range, Finset.mem_range]
    dsimp only
    omega
  · rw [Prod.mk.injEq]
    dsimp only
    omega

/-- There are no more of them than cells. -/
theorem card_freeCells_le : g.freeCells.card ≤ g.cols * g.rows := by
  unfold freeCells
  calc
    _ ≤ _ := Finset.card_filter_le _ _
    _ ≤ (Finset.range g.cols ×ˢ Finset.range g.rows).card := Finset.card_image_le
    _ = g.cols * g.rows := by rw [Finset.card_product, Finset.card_range, Finset.card_range]

/-- A phase, and a robot on a free cell. -/
def situations : Finset (MotionPhase × Robot) :=
  ({.cruising, .stopped, .backedUp, .turning .left, .turning .right} : Finset MotionPhase) ×ˢ
    (g.freeCells ×ˢ (Finset.univ : Finset (Fin 4))).image fun q => ⟨q.1.1, q.1.2, q.2⟩

/-- The situations are those of a robot on a free cell. -/
theorem mem_situations {q : MotionPhase × Robot} :
    q ∈ g.situations ↔ g.isBlocked q.2.cell = false := by
  obtain ⟨p, x, y, dir⟩ := q
  have hphase : p ∈ ({.cruising, .stopped, .backedUp, .turning .left, .turning .right} :
      Finset MotionPhase) := by
    cases p with
    | turning d => cases d <;> simp
    | _ => simp
  unfold situations
  rw [Finset.mem_product, and_iff_right hphase, Finset.mem_image, ← g.mem_freeCells]
  constructor
  · rintro ⟨⟨c, d⟩, hmem, heq⟩
    cases heq
    exact (Finset.mem_product.mp hmem).1
  · intro hfree
    exact ⟨((x, y), dir), Finset.mem_product.mpr ⟨hfree, Finset.mem_univ dir⟩, rfl⟩

/-- Five phases, and four headings on every free cell. -/
theorem card_situations_le : g.situations.card ≤ 20 * g.freeCells.card := by
  unfold situations
  have hposes := Finset.card_image_le (s := g.freeCells ×ˢ (Finset.univ : Finset (Fin 4)))
    (f := fun q => (⟨q.1.1, q.1.2, q.2⟩ : Robot))
  have hphases : ({.cruising, .stopped, .backedUp, .turning .left, .turning .right} :
      Finset MotionPhase).card = 5 := rfl
  rw [Finset.card_product, Finset.card_univ, Fintype.card_fin] at hposes
  rw [Finset.card_product, hphases]
  omega

end Grid

/-! ## The way of the robot -/

/-- One round, where the strategy goes by the walls alone. -/
def patrol (choose : SensorSnapshot → TurnDirection) (blocked : Cell → Bool)
    (q : MotionPhase × Robot) : MotionPhase × Robot :=
  (roaming blocked).next q (choose (q.2.look blocked))

/-- A robot on a free cell stays on free cells. -/
theorem Robot.obey_free {blocked : Cell → Bool} {r : Robot} (h : blocked r.cell = false)
    (command : MotionCommand) : blocked (r.obey blocked command).cell = false := by
  have hgo : ∀ c, blocked (r.go blocked c).cell = false := by
    intro c
    unfold Robot.go
    split
    · exact h
    · rename_i hc
      exact Bool.eq_false_iff.mpr hc
  cases command <;> first | exact h | exact hgo _

/-- A round leads from a situation to a situation. -/
theorem patrol_mem {choose : SensorSnapshot → TurnDirection} {g : Grid} {q : MotionPhase × Robot}
    (h : q ∈ g.situations) : patrol choose g.isBlocked q ∈ g.situations := by
  rw [Grid.mem_situations] at h ⊢
  exact Robot.obey_free h _

/-- The loop roams, and its service chooses by `choose`. -/
structure Patrols (choose : SensorSnapshot → TurnDirection) (blocked : Cell → Bool)
    (st : SimulatorService × Grid) (q : MotionPhase × Robot) : Prop where
  roams : Roams blocked st q
  choose : ∀ sensors, st.1.choose sensors = choose sensors

/-- A session turns as its strategy does. -/
theorem shown_choose (calls : List SimulatorService.Call) :
    ∀ v, shown calls = some v → ∃ turnStrategy, v.choose = chosenBy turnStrategy := by
  apply liveSessions.run_invariant
    (P := fun shown => ∀ v, shown = some v → ∃ turnStrategy, v.choose = chosenBy turnStrategy)
  · intro v hv
    cases hv
  · intro shown call h v hv
    cases call with
    | reset =>
        obtain ⟨u, hu, rfl⟩ := Option.map_eq_some_iff.mp hv
        exact h u hu
    | start turnStrategy =>
        cases hv
        exact ⟨turnStrategy, rfl⟩
    | tick sensors timerAdvance =>
        obtain ⟨u, hu, rfl⟩ := Option.map_eq_some_iff.mp hv
        exact h u hu
    | getState => exact h v hv

namespace Patrols

variable {turnStrategy : String} {blocked : Cell → Bool} {st : SimulatorService × Grid}
  {q : MotionPhase × Robot}

/-- **One round** goes one step of the way, whatever dust there is. -/
theorem round (h : Patrols (chosenBy turnStrategy) blocked st q) {e : Round} (he : e.Static) :
    Patrols (chosenBy turnStrategy) blocked (manualLoop.next st e)
      (patrol (chosenBy turnStrategy) blocked q) := by
  have hchoice : st.1.choose (seen st e) = chosenBy turnStrategy (q.2.look blocked) := by
    rw [h.choose, chosenBy_congr (h.roams.seen he)]
  have hround := (h.roams.round he).1
  rw [hchoice] at hround
  refine ⟨hround, ?_⟩
  intro sensors
  rw [← h.choose]
  unfold SimulatorService.choose
  rw [(h.roams.moving.round e).turnStrategy]

/-- The rounds of a static run are iterations of one map. -/
theorem run (h : Patrols (chosenBy turnStrategy) blocked st q) {es : List Round}
    (hstatic : ∀ e ∈ es, e.Static) :
    Patrols (chosenBy turnStrategy) blocked (manualLoop.run st es)
      ((patrol (chosenBy turnStrategy) blocked)^[es.length] q) := by
  induction es generalizing st q with
  | nil => exact h
  | cons e es ih =>
      rw [Mealy.run_cons, List.length_cons, Function.iterate_succ_apply]
      exact ih (h.round (hstatic e (by simp))) fun x hx => hstatic x (by simp [hx])

end Patrols

/-- A session that has been started is on its way. -/
theorem patrols_of_shown {calls : List SimulatorService.Call} {v : LiveSession}
    (hv : shown calls = some v) {turnStrategy : String} (hchoose : v.choose = chosenBy turnStrategy)
    (g : Grid) :
    Patrols (chosenBy turnStrategy) g.isBlocked (.after calls, g) (v.phase, g.robot) := by
  have hshows := (after_presents calls).shows v hv
  refine ⟨⟨⟨hshows.running, hshows.phase⟩, rfl, fun _ => rfl⟩, ?_⟩
  intro sensors
  rw [← hchoose]
  exact hshows.choose sensors

/-- The way of the robot of a started session, and its circle. -/
structure Circles (calls : List SimulatorService.Call) (g : Grid) (way : ℕ → Robot)
    (tail period : ℕ) : Prop where
  robot : ∀ es : List Round, (∀ e ∈ es, e.Static) →
    (manualLoop.run (.after calls, g) es).2.robot = way es.length
  pos : 0 < period
  room : tail + period ≤ 20 * g.freeCells.card
  again : ∀ n, tail ≤ n → way (n + period) = way n
  early : ∀ n, ∃ m ≤ n, m < tail + period ∧ way m = way n

/-- The robot circles: the situations are finitely many. -/
theorem exists_circles {calls : List SimulatorService.Call}
    (hstart : ∃ turnStrategy, .start turnStrategy ∈ calls) {g : Grid} (hfree : g.RobotFree) :
    ∃ way tail period, Circles calls g way tail period := by
  obtain ⟨v, hv⟩ := Option.isSome_iff_exists.mp ((shown_isSome_iff calls).mpr hstart)
  obtain ⟨turnStrategy, hchoose⟩ := shown_choose calls v hv
  have hpatrols := patrols_of_shown hv hchoose g
  obtain ⟨tail, period, hroom, hrepeats⟩ :=
    Orbit.exists_repeats (f := patrol (chosenBy turnStrategy) g.isBlocked)
      (fun q hq => patrol_mem hq) ((g.mem_situations (q := (v.phase, g.robot))).mpr hfree)
  refine ⟨fun n => ((patrol (chosenBy turnStrategy) g.isBlocked)^[n] (v.phase, g.robot)).2, tail,
    period, ?_, hrepeats.pos, hroom.trans g.card_situations_le, ?_, ?_⟩
  · intro es hstatic
    exact (hpatrols.run hstatic).roams.robot
  · intro n hn
    exact congrArg Prod.snd (hrepeats.again n hn)
  · intro n
    obtain ⟨m, hm, hearly, heq⟩ := hrepeats.early n
    exact ⟨m, hm, hearly, congrArg Prod.snd heq⟩

/-- **The robot goes round in circles.**  Take any session that has been started
and a robot on a free cell, and let the obstacles stay; dust may come and go and
time may pass.  Then there is one circle for all runs: after `tail` rounds the
robot's poses repeat every `period` rounds, and every pose it ever takes it has
taken before round `tail + period`.  Together these are at most twenty rounds
for every free cell. -/
theorem robot_goes_round (calls : List SimulatorService.Call)
    (hstart : ∃ turnStrategy, .start turnStrategy ∈ calls) (g : Grid) (hfree : g.RobotFree) :
    let robotAfter := fun es => (manualLoop.run (.after calls, g) es).2.robot
    ∃ tail period, 0 < period ∧ tail + period ≤ 20 * g.freeCells.card ∧
      ∀ es : List Round, (∀ e ∈ es, e.Static) →
        (∃ n ≤ es.length, n < tail + period ∧ robotAfter (es.take n) = robotAfter es) ∧
          ∀ fs : List Round, (∀ e ∈ fs, e.Static) → tail ≤ es.length →
            fs.length = es.length + period → robotAfter fs = robotAfter es := by
  intro robotAfter
  obtain ⟨way, tail, period, h⟩ := exists_circles hstart hfree
  refine ⟨tail, period, h.pos, h.room, ?_⟩
  intro es hes
  refine ⟨?_, ?_⟩
  · obtain ⟨n, hn, hearly, heq⟩ := h.early es.length
    refine ⟨n, hn, hearly, ?_⟩
    calc robotAfter (es.take n)
        = way (es.take n).length := h.robot _ fun e he => hes e (List.mem_of_mem_take he)
      _ = way n := by rw [List.length_take, Nat.min_eq_left hn]
      _ = way es.length := heq
      _ = robotAfter es := (h.robot es hes).symm
  · intro fs hfs htail hlength
    calc robotAfter fs
        = way (es.length + period) := by rw [← hlength]; exact h.robot fs hfs
      _ = way es.length := h.again _ htail
      _ = robotAfter es := (h.robot es hes).symm

/-- The theorem in a corridor of three cells, for a robot that is left alone. -/
theorem robot_goes_round_once :
    let corridor : Grid := { cols := 3, rows := 1, robot := ⟨0, 0, 0⟩ }
    let robotAfter := fun n =>
      (manualLoop.run (.after [.start "prefer_left"], corridor) (List.replicate n {})).2.robot
    ∃ tail period, 0 < period ∧ tail + period ≤ 60 ∧
      (∀ n, ∃ m < tail + period, robotAfter m = robotAfter n) ∧
      ∀ n, tail ≤ n → robotAfter (n + period) = robotAfter n := by
  intro corridor robotAfter
  obtain ⟨tail, period, hpos, hroom, hcircle⟩ :=
    robot_goes_round [.start "prefer_left"] ⟨_, List.mem_singleton.mpr rfl⟩ corridor rfl
  have hstatic : ∀ n, ∀ e ∈ List.replicate n ({} : Round), e.Static := by
    intro n e he
    rw [List.eq_of_mem_replicate he]
    nofun
  refine ⟨tail, period, hpos, hroom, ?_, ?_⟩
  · intro n
    obtain ⟨m, hm, hearly, heq⟩ := (hcircle _ (hstatic n)).1
    rw [List.length_replicate] at hm
    rw [List.take_replicate, Nat.min_eq_left hm] at heq
    exact ⟨m, hearly, heq⟩
  · intro n hn
    exact (hcircle _ (hstatic n)).2 _ (hstatic (n + period)) (by simpa using hn) (by simp)

end RvcControl
