import RvcControl.AtomicRounds
import RvcControl.SettledFloor

/-!
# The floor the page cleans

The page asks for its ticks by requests that take their time, with a timer and a
button that may both ask, and what is said of whole rounds of the manual loop
would be worth little if it did not hold there.  It does: as long as the server
is asked for nothing but the page's ticks, nothing is clicked on the grid and no
answer is lost, the page is the loop left alone, as many rounds on as ticks were
asked for.
-/

namespace RvcControl

/-- A round in which nothing is clicked. -/
theorem run_rounds (st : SimulatorService × Grid) (n : ℕ) :
    atomicLoop.run st (List.replicate n (.round [] [])) =
      manualLoop.run st (List.replicate n {}) := by
  induction n generalizing st with
  | zero => rfl
  | succ n ih =>
      rw [List.replicate_succ, List.replicate_succ, Mealy.run_cons, Mealy.run_cons, ih,
        atomicLoop_next, perform_round]

/-! ## What the server is asked for -/

/-- What is to be told of an event. -/
inductive Note
  /-- The grid takes a click, maybe with a tick in flight. -/
  | clicked (c : Click) (inFlight : Bool)
  /-- The server is asked for something; `none` stands for a tick of the page. -/
  | asked (call : Option SimulatorService.Call)
  /-- The answer of a tick is lost. -/
  | lost
  deriving DecidableEq

def Post.asks : Post → Option SimulatorService.Call
  | .start => some (.start "prefer_left")
  | .reset => some .reset
  | .tick _ _ => none

/-- The note of an event. -/
def Tab.note (w : Tab) : TabEvent → Option Note
  | .process k => w.posts[k]?.map fun r => .asked r.asks
  | .failReply k => w.replies[k]?.bind fun r => if r.isTick then some .lost else none
  | _ => none

def Panel.note (p : Panel) : PanelEvent → Option Note
  | .manual e => p.tab.note e
  | .clickGrid c =>
      if p.tab.page.manualMode then some (.clicked c p.tab.page.manualTickInFlight) else none
  | .foreign call => some (.asked (some call))
  | _ => none

/-- What a log has of the ticks of the page, as long as no answer is lost. -/
def LogEntry.isOfTick : LogEntry → Bool
  | .read | .ticked | .applied | .failed => true
  | _ => false

/-- A note and a log entry of one event that are of a tick of the page or of
nothing, the entry being `ticked` where there is a note. -/
def OfTick (note : Option Note) (entry : Option LogEntry) : Prop :=
  (∀ l ∈ entry, l.isOfTick = true) ∧ entry.toList.count .ticked = note.toList.length

namespace OfTick

theorem nothing : OfTick none none := ⟨by simp, rfl⟩

/-- The server processes the tick. -/
theorem ticked (n : Note) : OfTick (some n) (some .ticked) := ⟨by simp [LogEntry.isOfTick], rfl⟩

/-- What else is logged of a tick has no note. -/
theorem entry {l : LogEntry} (h : l.isOfTick = true) (hticked : l ≠ .ticked) :
    OfTick none (some l) := by
  refine ⟨by simpa using h, ?_⟩
  rw [Option.toList_some, List.count_singleton, beq_eq_false_iff_ne.mpr hticked]
  rfl

end OfTick

/-- Reading the sensors is of a tick and has no note. -/
theorem Page.loggedTick_ofTick (p : Page) : OfTick none p.loggedTick := by
  unfold Page.loggedTick
  split
  · exact .nothing
  · exact .entry rfl (by simp)

/-- What a tab logs of an event that is noted as a tick, or not at all. -/
theorem Tab.logged_ofTick {w : Tab} {e : TabEvent} (h : ∀ n ∈ w.note e, n = .asked none) :
    OfTick (w.note e) (w.logged e) := by
  cases e with
  | clickTick => exact w.page.loggedTick_ofTick
  | timerFires =>
      rw [Tab.logged]
      split
      · exact w.page.loggedTick_ofTick
      · exact .nothing
  | process k =>
      rw [Tab.note, Tab.logged]
      rw [Tab.note] at h
      cases hr : w.posts[k]? with
      | none => exact .nothing
      | some r =>
          rw [hr] at h
          cases r with
          | start => cases h _ rfl
          | reset => cases h _ rfl
          | tick sensors fromStart => exact .ticked _
  | deliver k =>
      rw [Tab.logged]
      cases hr : w.replies[k]? with
      | none => exact .nothing
      | some r =>
          cases r with
          | start =>
              dsimp only
              split
              · exact w.page.loggedTick_ofTick
              · exact .nothing
          | reset => exact .nothing
          | tick state fromStart resets => exact .entry rfl (by simp)
  | failPost k =>
      rw [Tab.logged]
      cases hr : w.posts[k]? with
      | none => exact .nothing
      | some r =>
          cases r with
          | tick sensors fromStart => exact .entry rfl (by simp)
          | _ => exact .nothing
  | failReply k =>
      rw [Tab.note, Tab.logged]
      rw [Tab.note] at h
      cases hr : w.replies[k]? with
      | none => exact .nothing
      | some r =>
          rw [hr] at h
          cases r with
          | tick state fromStart resets => cases h _ rfl
          | _ => exact .nothing
  | _ => exact .nothing

/-- On the page there are the clicks and the other clients besides. -/
theorem Panel.logged_ofTick {p : Panel} {e : PanelEvent} (h : ∀ n ∈ p.note e, n = .asked none) :
    OfTick (p.note e) (p.logged e) := by
  cases e with
  | manual e => exact Tab.logged_ofTick h
  | clickGrid c =>
      rw [Panel.note] at h
      rw [Panel.note, Panel.logged]
      split at h
      · cases h _ rfl
      · rename_i hmode
        rw [if_neg hmode, if_neg hmode]
        exact .nothing
  | foreign call => cases h _ rfl
  | _ => exact .nothing

/-- Where every note is that of a tick, the log has as many ticks as there are notes. -/
theorem wholePage_ticksOnly (definitions : List ScenarioDefinition) (p : Panel)
    (es : List PanelEvent)
    (hticks : ∀ n ∈ (wholePage definitions).notesAlong Panel.note p es, n = .asked none) :
    (∀ entry ∈ (wholePage definitions).notesAlong Panel.logged p es, entry.isOfTick = true) ∧
      ((wholePage definitions).notesAlong Panel.logged p es).count .ticked =
        ((wholePage definitions).notesAlong Panel.note p es).length := by
  revert hticks
  refine (wholePage definitions).notesAlong_pair
    (P := fun (notes : List Note) (log : List LogEntry) => (∀ n ∈ notes, n = .asked none) →
      (∀ entry ∈ log, entry.isOfTick = true) ∧ log.count .ticked = notes.length)
    (fun _ => ⟨nofun, rfl⟩) ?_ p es
  intro p e notes log ih hticks
  obtain ⟨hentries, hcount⟩ := ih fun n hn => hticks n (List.mem_append_right _ hn)
  obtain ⟨hentry, hone⟩ := Panel.logged_ofTick (p := p) (e := e)
    fun n hn => hticks n (List.mem_append_left _ (Option.mem_toList.mpr hn))
  refine ⟨?_, by rw [List.count_append, hone, hcount, List.length_append]⟩
  intro entry hmem
  rcases List.mem_append.mp hmem with hhere | hlater
  · exact hentry entry (Option.mem_toList.mp hhere)
  · exact hentries entry hlater

/-- There is nothing beside the ticks. -/
theorem asides_eq_nil {asides : List Aside}
    (h : ∀ entry ∈ asides.map LogEntry.aside, entry.isOfTick = true) : asides = [] := by
  cases asides with
  | nil => rfl
  | cons a asides => cases h (.aside a) (by simp)

/-- Where nothing but ticks is in the log, all that was done are rounds. -/
theorem Told.eq_replicate {log : List LogEntry} {ops : List LoopOperation} {pending : List Click}
    (h : Told log ops pending) (hticks : ∀ entry ∈ log, entry.isOfTick = true) :
    ops = List.replicate (log.count .ticked) (.round [] []) ∧ pending = [] := by
  induction h with
  | nil => exact ⟨rfl, rfl⟩
  | clicked c told ih => cases hticks (.aside (.clicked c)) (by simp)
  | called c told ih => cases hticks (.aside (.called c)) (by simp)
  | applied before after told ih =>
      obtain rfl : before = [] := asides_eq_nil fun entry hentry => hticks entry (by simp [hentry])
      obtain rfl : after = [] := asides_eq_nil fun entry hentry => hticks entry (by simp [hentry])
      obtain ⟨rfl, rfl⟩ := ih fun entry hentry => hticks entry (by simp [hentry])
      simp [List.replicate_succ']
  | lost before after told ih => cases hticks .lost (by simp)
  | failed before told ih =>
      obtain rfl : before = [] := asides_eq_nil fun entry hentry => hticks entry (by simp [hentry])
      obtain ⟨rfl, rfl⟩ := ih fun entry hentry => hticks entry (by simp [hentry])
      simp

section Run

variable {calls : List SimulatorService.Call} {p₀ : Panel} {es : List PanelEvent}

/-- The page, between two ticks, is the loop left alone. -/
theorem page_eq_leftAlone (definitions : List ScenarioDefinition) (h₀ : p₀.Settled)
    (hservice : p₀.service = .after calls) (hplain : ∀ e ∈ es, e.isPlain = true)
    (hticks : ∀ n ∈ (wholePage definitions).notesAlong Panel.note p₀ es, n = .asked none)
    (hidle : ((wholePage definitions).run p₀ es).tab.page.manualTickInFlight = false) :
    (((wholePage definitions).run p₀ es).service, ((wholePage definitions).run p₀ es).grid) =
      leftAlone calls p₀.grid ((wholePage definitions).notesAlong Panel.note p₀ es).length := by
  obtain ⟨hentries, hcount⟩ := wholePage_ticksOnly definitions p₀ es hticks
  obtain ⟨ops, pending, told, hpage, hgrid⟩ :=
    (wholePage_serial definitions h₀ hplain).told hidle
  obtain ⟨hops, hpending⟩ := told.eq_replicate hentries
  rw [hpage, hgrid, hpending, hops, run_rounds, hservice, hcount]
  rfl

/-- **The page cleans the floor.**  Take any run of a settled page on a started
service, with the robot on a free cell, in which the server is asked for nothing
but ticks of the page, nothing is clicked on the grid and no answer is lost;
requests may fail, and the timer and the button may ask whenever they like.  Then
with no tick in flight the page shows what the loop does in as many rounds as
ticks were asked for; and after twenty for every free cell, the dust it shows is
the dust there was on the cells the robot has not been on. -/
theorem page_cleans_the_floor (definitions : List ScenarioDefinition)
    (hstart : ∃ turnStrategy, .start turnStrategy ∈ calls) (h₀ : p₀.Settled)
    (hservice : p₀.service = .after calls) (hfree : p₀.grid.RobotFree)
    (hplain : ∀ e ∈ es, e.isPlain = true)
    (hticks : ∀ n ∈ (wholePage definitions).notesAlong Panel.note p₀ es, n = .asked none) :
    let p := (wholePage definitions).run p₀ es
    let rounds := ((wholePage definitions).notesAlong Panel.note p₀ es).length
    p.tab.page.manualTickInFlight = false →
      p.grid = (leftAlone calls p₀.grid rounds).2 ∧
        (20 * p₀.grid.freeCells.card ≤ rounds → ∀ c, p.grid.dustCells.has c = true ↔
          p₀.grid.dustCells.has c = true ∧
            ∀ k, (leftAlone calls p₀.grid k).2.robot.cell ≠ c) := by
  intro p rounds hidle
  have hpage := page_eq_leftAlone definitions h₀ hservice hplain hticks hidle
  have hgrid : p.grid = (leftAlone calls p₀.grid rounds).2 := congrArg Prod.snd hpage
  refine ⟨hgrid, ?_⟩
  intro hrounds c
  rw [hgrid]
  exact leftAlone_settled hstart hfree hrounds c

end Run

/-- The theorem for two clicks on the tick button, of which the first request
fails. -/
theorem page_cleans_the_floor_once :
    ((wholePage []).run (Panel.load 18 12 (.after [.start "prefer_left"]))
      [.manual .clickTick, .manual (.failPost 0), .manual .clickTick, .manual (.process 0),
        .manual (.deliver 0)]).grid =
      (leftAlone [.start "prefer_left"] (manualWorld 18 12) 1).2 := by
  have hsettled : (Panel.load 18 12 (.after [.start "prefer_left"])).Settled := ⟨rfl, rfl, rfl, rfl⟩
  have hfree : (manualWorld 18 12).RobotFree :=
    manualWorld_isBlocked (by decide) (by decide)
  have hplain : ∀ e ∈ ([.manual .clickTick, .manual (.failPost 0), .manual .clickTick,
      .manual (.process 0), .manual (.deliver 0)] : List PanelEvent), e.isPlain = true := by decide
  have hticks : ∀ n ∈ (wholePage []).notesAlong Panel.note
      (Panel.load 18 12 (.after [.start "prefer_left"]))
      [.manual .clickTick, .manual (.failPost 0), .manual .clickTick, .manual (.process 0),
        .manual (.deliver 0)], n = .asked none := by
    intro n hn
    exact List.mem_singleton.mp hn
  exact (page_cleans_the_floor [] ⟨_, List.mem_singleton.mpr rfl⟩ hsettled rfl hfree hplain hticks
    rfl).1

end RvcControl
