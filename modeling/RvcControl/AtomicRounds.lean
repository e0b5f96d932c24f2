import RvcControl.AutoTestPanel
import RvcControl.DisplayedRobot
import RvcControl.ManualLoop

/-!
# Rounds in one piece

`manualLoop` takes a round in one piece.  On the page its sensors are read, its
request waits, the server ticks, its answer waits, and only then the robot
moves; in between the user clicks on the grid, starts the session anew, and
other clients call the service.

`page_serializable` says that nothing is lost by telling it the simple way.  A
log is kept of what happens in which order, and `Told` reads it: a tick counts
where the server processes it, and since at most one is in flight, the clicks
made before its sensors were read can be put in front of it and those made
before its answer was applied into it, and every call of somebody else finds its
place before or behind.  It can be told in no other way (`Told.unique`).

A reset of the page has no such place, since a tick that reads its sensors
before the reset and is applied after it moves a robot that was put elsewhere
in between; `displayed_robot_runs_ahead` is such a run.  So there is none here.
-/

namespace RvcControl

/-- One operation of the loop, from its beginning to its end. -/
inductive LoopOperation
  /-- A start, or a call of another client. -/
  | call (c : SimulatorService.Call)
  /-- A round, with the clicks before its sensors are read and the late ones
  before its answer is applied. -/
  | round (clicks late : List Click)
  /-- A round whose answer is lost. -/
  | lost (clicks : List Click)
  deriving DecidableEq

namespace LoopOperation

def clicks : LoopOperation → List Click
  | .call _ => []
  | .round clicks late => clicks ++ late
  | .lost clicks => clicks

/-- What the server is asked for; `none` stands for a tick of the page. -/
def asks : LoopOperation → Option SimulatorService.Call
  | .call c => some c
  | _ => none

/-- The operation in one piece. -/
def perform (st : SimulatorService × Grid) : LoopOperation → SimulatorService × Grid
  | .call c => (simulator.next st.1 c, st.2)
  | .round clicks late =>
      let g := st.2.edit clicks
      let (s, state) := st.1.tick g.readSensorsFromGrid
      (s, (g.edit late).applyTickResult state)
  | .lost clicks =>
      let g := st.2.edit clicks
      ((st.1.tick g.readSensorsFromGrid).1, g)

end LoopOperation

/-- The loop as a machine of whole operations; it answers nothing. -/
def atomicLoop : Mealy (SimulatorService × Grid) LoopOperation Unit :=
  ⟨fun st op => (op.perform st, ())⟩

@[simp] theorem atomicLoop_next (st : SimulatorService × Grid) (op : LoopOperation) :
    atomicLoop.next st op = op.perform st := rfl

/-- A round without late clicks is a round of `manualLoop`. -/
theorem perform_round (st : SimulatorService × Grid) (clicks : List Click) :
    LoopOperation.perform st (.round clicks []) = manualLoop.next st { clicks } := rfl

/-! ## The log of a run -/

/-- What happens beside the ticks of the page. -/
inductive Aside
  /-- The grid takes a click. -/
  | clicked (c : Click)
  /-- The server is asked for something that is not a tick of the page. -/
  | called (c : SimulatorService.Call)
  deriving DecidableEq

namespace Aside

def click? : Aside → Option Click
  | .clicked c => some c
  | .called _ => none

def call? : Aside → Option SimulatorService.Call
  | .clicked _ => none
  | .called c => some c

end Aside

def clicksIn (asides : List Aside) : List Click := asides.filterMap Aside.click?

def callsIn (asides : List Aside) : List SimulatorService.Call := asides.filterMap Aside.call?

/-- What is logged of an event. -/
inductive LogEntry
  | aside (a : Aside)
  /-- The page reads the sensors of a tick and posts it. -/
  | read
  /-- The server processes the tick. -/
  | ticked
  /-- The answer comes, and the robot moves by it. -/
  | applied
  /-- The answer is lost. -/
  | lost
  /-- The tick does not get to the server. -/
  | failed
  deriving DecidableEq

namespace LogEntry

def click? : LogEntry → Option Click
  | .aside a => a.click?
  | _ => none

/-- What the server is asked for; `none` stands for a tick of the page. -/
def asked? : LogEntry → Option (Option SimulatorService.Call)
  | .aside a => a.call?.map some
  | .ticked => some none
  | _ => none

end LogEntry

/-- A tick is posted unless one is in flight. -/
def Page.loggedTick (p : Page) : Option LogEntry :=
  if p.manualTickInFlight then none else some .read

def Post.logged : Post → LogEntry
  | .start => .aside (.called (.start "prefer_left"))
  | .reset => .aside (.called .reset)
  | .tick _ _ => .ticked

/-- What of an event goes into the log. -/
def Tab.logged (w : Tab) : TabEvent → Option LogEntry
  | .clickTick => w.page.loggedTick
  | .timerFires => if w.page.manualAutoTickTimer then w.page.loggedTick else none
  | .process k => w.posts[k]?.map Post.logged
  | .deliver k =>
      match w.replies[k]? with
      | some .start => if w.page.manualMode then w.page.loggedTick else none
      | some (.tick _ _ _) => some .applied
      | _ => none
  | .failPost k =>
      match w.posts[k]? with
      | some (.tick _ _) => some .failed
      | _ => none
  | .failReply k =>
      match w.replies[k]? with
      | some (.tick _ _ _) => some .lost
      | _ => none
  | _ => none

def Panel.logged (p : Panel) : PanelEvent → Option LogEntry
  | .manual e => p.tab.logged e
  | .clickGrid c => if p.tab.page.manualMode then some (.aside (.clicked c)) else none
  | .foreign call => some (.aside (.called call))
  | _ => none

/-- The log tells of these whole operations and of clicks since.  From the
sensors to the answer, calls keep their side of the tick; the clicks before the
sensors are the round's own, those behind them are late, and with no answer
applied they wait for the next round. -/
inductive Told : List LogEntry → List LoopOperation → List Click → Prop
  | nil : Told [] [] []
  | clicked {log : List LogEntry} {ops : List LoopOperation} {pending : List Click} (c : Click)
      (told : Told log ops pending) :
      Told (log ++ [.aside (.clicked c)]) ops (pending ++ [c])
  | called {log : List LogEntry} {ops : List LoopOperation} {pending : List Click}
      (c : SimulatorService.Call) (told : Told log ops pending) :
      Told (log ++ [.aside (.called c)]) (ops ++ [.call c]) pending
  | applied {log : List LogEntry} {ops : List LoopOperation} {early : List Click}
      (before after : List Aside) (told : Told log ops early) :
      Told (log ++ .read :: before.map .aside ++ .ticked :: after.map .aside ++ [.applied])
        (ops ++ (callsIn before).map .call ++
          .round early (clicksIn before ++ clicksIn after) :: (callsIn after).map .call)
        []
  | lost {log : List LogEntry} {ops : List LoopOperation} {early : List Click}
      (before after : List Aside) (told : Told log ops early) :
      Told (log ++ .read :: before.map .aside ++ .ticked :: after.map .aside ++ [.lost])
        (ops ++ (callsIn before).map .call ++ .lost early :: (callsIn after).map .call)
        (clicksIn before ++ clicksIn after)
  | failed {log : List LogEntry} {ops : List LoopOperation} {early : List Click}
      (before : List Aside) (told : Told log ops early) :
      Told (log ++ .read :: before.map .aside ++ [.failed])
        (ops ++ (callsIn before).map .call) (early ++ clicksIn before)

section Asides

variable (asides more : List Aside)

@[simp] theorem clicksIn_nil : clicksIn [] = [] := rfl

@[simp] theorem callsIn_nil : callsIn [] = [] := rfl

@[simp] theorem clicksIn_append : clicksIn (asides ++ more) = clicksIn asides ++ clicksIn more :=
  List.filterMap_append

@[simp] theorem callsIn_append : callsIn (asides ++ more) = callsIn asides ++ callsIn more :=
  List.filterMap_append

@[simp] theorem clicksIn_clicked (c : Click) : clicksIn [.clicked c] = [c] := rfl

@[simp] theorem clicksIn_called (c : SimulatorService.Call) : clicksIn [.called c] = [] := rfl

@[simp] theorem callsIn_clicked (c : Click) : callsIn [.clicked c] = [] := rfl

@[simp] theorem callsIn_called (c : SimulatorService.Call) : callsIn [.called c] = [c] := rfl

@[simp] theorem filterMap_click?_aside :
    asides.filterMap (LogEntry.click? ∘ LogEntry.aside) = clicksIn asides := rfl

@[simp] theorem filterMap_asked?_aside :
    asides.filterMap (LogEntry.asked? ∘ LogEntry.aside) = (callsIn asides).map some := by
  rw [callsIn, List.map_filterMap]
  rfl

/-- The clicks among some asides are those that are clicks. -/
theorem mem_clicksIn {c : Click} : c ∈ clicksIn asides ↔ .clicked c ∈ asides := by
  rw [clicksIn, List.mem_filterMap]
  constructor
  · rintro ⟨a, ha, hclick⟩
    cases a with
    | clicked d =>
        cases hclick
        exact ha
    | called call => cases hclick
  · intro hc
    exact ⟨.clicked c, hc, rfl⟩

@[simp] theorem flatMap_clicks_calls (calls : List SimulatorService.Call) :
    (calls.map LoopOperation.call).flatMap LoopOperation.clicks = [] := by
  simp [List.flatMap_map, LoopOperation.clicks]

@[simp] theorem map_asks_call (calls : List SimulatorService.Call) :
    calls.map (LoopOperation.asks ∘ LoopOperation.call) = calls.map some := rfl

end Asides

namespace Told

variable {log : List LogEntry} {ops : List LoopOperation} {pending : List Click}

/-- No click is left out, told twice or moved before another. -/
theorem clicks (h : Told log ops pending) :
    ops.flatMap LoopOperation.clicks ++ pending = log.filterMap LogEntry.click? := by
  induction h with
  | nil => rfl
  | clicked c told ih =>
      rw [List.filterMap_append, ← ih]
      simp [LogEntry.click?, Aside.click?]
  | called c told ih =>
      rw [List.filterMap_append, ← ih]
      simp [LogEntry.click?, Aside.click?, LoopOperation.clicks]
  | applied before after told ih =>
      simp only [List.append_assoc, List.filterMap_append, ← ih]
      simp [LogEntry.click?, LoopOperation.clicks, List.filterMap_cons]
  | lost before after told ih =>
      simp only [List.append_assoc, List.filterMap_append, ← ih]
      simp [LogEntry.click?, LoopOperation.clicks, List.filterMap_cons]
  | failed before told ih =>
      simp only [List.append_assoc, List.filterMap_append, ← ih]
      simp [LogEntry.click?, List.filterMap_cons]

/-- The server is asked in the order of the log. -/
theorem asks (h : Told log ops pending) :
    ops.map LoopOperation.asks = log.filterMap LogEntry.asked? := by
  induction h with
  | nil => rfl
  | clicked c told ih =>
      rw [List.filterMap_append, ← ih]
      simp [LogEntry.asked?, Aside.call?]
  | called c told ih =>
      rw [List.filterMap_append, ← ih]
      simp [LogEntry.asked?, Aside.call?, LoopOperation.asks]
  | applied before after told ih =>
      simp only [List.append_assoc, List.filterMap_append, ← ih]
      simp [LogEntry.asked?, LoopOperation.asks, List.filterMap_cons]
  | lost before after told ih =>
      simp only [List.append_assoc, List.filterMap_append, ← ih]
      simp [LogEntry.asked?, LoopOperation.asks, List.filterMap_cons]
  | failed before told ih =>
      simp only [List.append_assoc, List.filterMap_append, ← ih]
      simp [LogEntry.asked?, List.filterMap_cons]

end Told

/-- What has been read of a log: the operations so far, and of a tick in flight
the clicks before its sensors and the asides before and behind it. -/
inductive Reading
  | idle (ops : List LoopOperation) (pending : List Click)
  | posted (ops : List LoopOperation) (early : List Click) (before : List Aside)
  | answered (ops : List LoopOperation) (early : List Click) (before after : List Aside)
  deriving DecidableEq

/-- The next entry is read. -/
def Reading.add : Reading → LogEntry → Reading
  | .idle ops pending, .aside a => .idle (ops ++ (callsIn [a]).map .call) (pending ++ clicksIn [a])
  | .idle ops pending, .read => .posted ops pending []
  | .posted ops early before, .aside a => .posted ops early (before ++ [a])
  | .posted ops early before, .ticked => .answered ops early before []
  | .posted ops early before, .failed =>
      .idle (ops ++ (callsIn before).map .call) (early ++ clicksIn before)
  | .answered ops early before after, .aside a => .answered ops early before (after ++ [a])
  | .answered ops early before after, .applied =>
      .idle (ops ++ (callsIn before).map .call ++
        .round early (clicksIn before ++ clicksIn after) :: (callsIn after).map .call) []
  | .answered ops early before after, .lost =>
      .idle (ops ++ (callsIn before).map .call ++ .lost early :: (callsIn after).map .call)
        (clicksIn before ++ clicksIn after)
  | reading, _ => reading

def readLog (log : List LogEntry) : Reading := log.foldl Reading.add (.idle [] [])

section Unique

variable {log : List LogEntry} {ops : List LoopOperation} {pending early : List Click}

theorem readLog_append (log more : List LogEntry) :
    readLog (log ++ more) = more.foldl Reading.add (readLog log) :=
  List.foldl_append

/-- The asides before the tick are read in their order. -/
theorem foldl_posted (before asides : List Aside) :
    (asides.map LogEntry.aside).foldl Reading.add (.posted ops early before) =
      .posted ops early (before ++ asides) := by
  induction asides generalizing before with
  | nil => simp
  | cons a asides ih =>
      rw [List.map_cons, List.foldl_cons, Reading.add, ih, List.append_assoc]
      rfl

/-- And those behind it. -/
theorem foldl_answered (before after asides : List Aside) :
    (asides.map LogEntry.aside).foldl Reading.add (.answered ops early before after) =
      .answered ops early before (after ++ asides) := by
  induction asides generalizing after with
  | nil => simp
  | cons a asides ih =>
      rw [List.map_cons, List.foldl_cons, Reading.add, ih, List.append_assoc]
      rfl

/-- What is told of a log can be read off it, entry by entry. -/
theorem Told.readLog_eq (h : Told log ops pending) : readLog log = .idle ops pending := by
  induction h with
  | nil => rfl
  | clicked c told ih =>
      rw [readLog_append, ih]
      simp [Reading.add]
  | called c told ih =>
      rw [readLog_append, ih]
      simp [Reading.add]
  | applied before after told ih =>
      simp only [readLog_append, ih, List.foldl_cons, Reading.add, foldl_posted, foldl_answered,
        List.foldl_nil, List.nil_append]
  | lost before after told ih =>
      simp only [readLog_append, ih, List.foldl_cons, Reading.add, foldl_posted, foldl_answered,
        List.foldl_nil, List.nil_append]
  | failed before told ih =>
      simp only [readLog_append, ih, List.foldl_cons, Reading.add, foldl_posted,
        List.foldl_nil, List.nil_append]

/-- **A log is told in one way.** -/
theorem Told.unique {ops' : List LoopOperation} {pending' : List Click}
    (h : Told log ops pending) (h' : Told log ops' pending') :
    ops' = ops ∧ pending' = pending := by
  have hread := h'.readLog_eq.symm.trans h.readLog_eq
  rw [Reading.idle.injEq] at hread
  exact hread

end Unique

/-! ## What the page does is one list of operations -/

/-- What of a tab the loop is about. -/
structure LoopView where
  service : SimulatorService
  grid : Grid
  inFlight : Bool
  posted : List SensorSnapshot
  answered : List SimulatorState

def Post.sensors? : Post → Option SensorSnapshot
  | .tick sensors _ => some sensors
  | _ => none

def Reply.state? : Reply → Option SimulatorState
  | .tick state _ _ => some state
  | _ => none

def Tab.loopView (w : Tab) : LoopView where
  service := w.backend.service
  grid := w.page.grid
  inFlight := w.page.manualTickInFlight
  posted := w.posts.filterMap Post.sensors?
  answered := w.replies.filterMap Reply.state?

/-- The page has come where the operations told of its log lead from `start`,
but for a tick in flight. -/
inductive LoopView.Serial (start : SimulatorService × Grid) : List LogEntry → LoopView → Prop
  | idle {log : List LogEntry} {ops : List LoopOperation} {pending : List Click}
      (told : Told log ops pending) :
      Serial start log
        { service := (atomicLoop.run start ops).1
          grid := (atomicLoop.run start ops).2.edit pending
          inFlight := false, posted := [], answered := [] }
  | posted {log : List LogEntry} {ops : List LoopOperation} {early : List Click}
      (before : List Aside) (told : Told log ops early) :
      Serial start (log ++ .read :: before.map .aside)
        { service := simulator.run (atomicLoop.run start ops).1 (callsIn before)
          grid := ((atomicLoop.run start ops).2.edit early).edit (clicksIn before)
          inFlight := true
          posted := [((atomicLoop.run start ops).2.edit early).readSensorsFromGrid]
          answered := [] }
  | answered {log : List LogEntry} {ops : List LoopOperation} {early : List Click}
      (before after : List Aside) (told : Told log ops early) :
      Serial start (log ++ .read :: before.map .aside ++ .ticked :: after.map .aside)
        { service := simulator.run
            ((simulator.run (atomicLoop.run start ops).1 (callsIn before)).tick
              ((atomicLoop.run start ops).2.edit early).readSensorsFromGrid).1 (callsIn after)
          grid := ((atomicLoop.run start ops).2.edit early).edit
            (clicksIn before ++ clicksIn after)
          inFlight := true, posted := []
          answered := [((simulator.run (atomicLoop.run start ops).1 (callsIn before)).tick
            ((atomicLoop.run start ops).2.edit early).readSensorsFromGrid).2] }

namespace Grid

/-- Clicks are made one after the other. -/
theorem edit_append (g : Grid) (clicks more : List Click) :
    g.edit (clicks ++ more) = (g.edit clicks).edit more := by
  simp [edit]

theorem edit_concat (g : Grid) (clicks : List Click) (c : Click) :
    g.edit (clicks ++ [c]) = (g.edit clicks).click c := by
  simp [edit]

end Grid

/-- Calls alone leave the grid. -/
theorem atomicLoop_calls (st : SimulatorService × Grid) (calls : List SimulatorService.Call) :
    atomicLoop.run st (calls.map .call) = (simulator.run st.1 calls, st.2) := by
  induction calls generalizing st with
  | nil => rfl
  | cons c calls ih =>
      rw [List.map_cons, Mealy.run_cons, ih]
      rfl

/-- Calls, one other operation, and calls again. -/
theorem atomicLoop_between (st : SimulatorService × Grid) (ops : List LoopOperation)
    (before after : List SimulatorService.Call) (op : LoopOperation) :
    atomicLoop.run st (ops ++ before.map .call ++ op :: after.map .call) =
      (simulator.run (op.perform (simulator.run (atomicLoop.run st ops).1 before,
          (atomicLoop.run st ops).2)).1 after,
        (op.perform (simulator.run (atomicLoop.run st ops).1 before,
          (atomicLoop.run st ops).2)).2) := by
  rw [Mealy.run_append, Mealy.run_append, Mealy.run_cons, atomicLoop_calls, atomicLoop_calls,
    atomicLoop_next]

namespace LoopView.Serial

variable {start : SimulatorService × Grid} {log : List LogEntry} {v : LoopView}

/-- The grid takes a click. -/
theorem click (h : v.Serial start log) (c : Click) :
    Serial start (log ++ [.aside (.clicked c)]) { v with grid := v.grid.click c } := by
  cases h with
  | idle told =>
      dsimp only
      rw [← Grid.edit_concat]
      exact .idle (told.clicked c)
  | posted before told =>
      have hposted : Serial start _ _ := .posted (before ++ [.clicked c]) told
      simpa [Grid.edit_append] using hposted
  | answered before after told =>
      have hanswered : Serial start _ _ := .answered before (after ++ [.clicked c]) told
      simpa [Grid.edit_append] using hanswered

/-- The server is called, but not by a tick of the page. -/
theorem call (h : v.Serial start log) (c : SimulatorService.Call) :
    Serial start (log ++ [.aside (.called c)])
      { v with service := simulator.next v.service c } := by
  cases h with
  | @idle _ ops pending told =>
      have hidle : Serial start _ _ := .idle (told.called c)
      rw [Mealy.run_concat] at hidle
      exact hidle
  | posted before told =>
      have hposted : Serial start _ _ := .posted (before ++ [.called c]) told
      simpa [Mealy.run_concat] using hposted
  | answered before after told =>
      have hanswered : Serial start _ _ := .answered before (after ++ [.called c]) told
      simpa [Mealy.run_concat] using hanswered

/-- A tick is posted, with the sensors read now. -/
theorem post (h : v.Serial start log) (hidle : v.inFlight = false) :
    Serial start (log ++ [.read])
      { v with inFlight := true, posted := v.posted ++ [v.grid.readSensorsFromGrid] } := by
  cases h with
  | idle told => exact .posted [] told
  | posted before told => cases hidle
  | answered before after told => cases hidle

/-- The server processes the tick. -/
theorem process (h : v.Serial start log) {sensors : SensorSnapshot}
    (hposted : v.posted = [sensors]) :
    Serial start (log ++ [.ticked])
      { v with
        service := (v.service.tick sensors).1
        posted := []
        answered := v.answered ++ [(v.service.tick sensors).2] } := by
  cases h with
  | idle told => cases hposted
  | posted before told =>
      cases hposted
      have hanswered : Serial start _ _ := .answered before [] told
      rw [clicksIn_nil, List.append_nil] at hanswered
      exact hanswered
  | answered before after told => cases hposted

/-- The tick does not get to the server. -/
theorem failPost (h : v.Serial start log) {sensors : SensorSnapshot}
    (hposted : v.posted = [sensors]) :
    Serial start (log ++ [.failed]) { v with inFlight := false, posted := [] } := by
  cases h with
  | idle told => cases hposted
  | @posted _ ops early before told =>
      have hidle : Serial start _ _ := .idle (told.failed before)
      rw [Mealy.run_append, atomicLoop_calls, Grid.edit_append] at hidle
      exact hidle
  | answered before after told => cases hposted

/-- The answer comes, and the robot moves by it. -/
theorem deliver (h : v.Serial start log) {state : SimulatorState}
    (hanswered : v.answered = [state]) :
    Serial start (log ++ [.applied])
      { v with grid := v.grid.applyTickResult state, inFlight := false, answered := [] } := by
  cases h with
  | idle told => cases hanswered
  | posted before told => cases hanswered
  | answered before after told =>
      cases hanswered
      have hidle : Serial start _ _ := .idle (told.applied before after)
      rw [atomicLoop_between] at hidle
      exact hidle

/-- The answer is lost. -/
theorem failReply (h : v.Serial start log) {state : SimulatorState}
    (hanswered : v.answered = [state]) :
    Serial start (log ++ [.lost]) { v with inFlight := false, answered := [] } := by
  cases h with
  | idle told => cases hanswered
  | posted before told => cases hanswered
  | answered before after told =>
      have hidle : Serial start _ _ := .idle (told.lost before after)
      rw [atomicLoop_between] at hidle
      exact hidle

end LoopView.Serial

/-! ## The events of a tab -/

/-- A tab that has come where whole operations lead, without a reset. -/
structure Tab.Serial (start : SimulatorService × Grid) (log : List LogEntry) (w : Tab) : Prop where
  view : w.loopView.Serial start log
  posts : .reset ∉ w.posts
  replies : .reset ∉ w.replies

namespace Tab

variable {start : SimulatorService × Grid} {log : List LogEntry} {w : Tab}

/-- The only element of its kind, when it is taken out. -/
theorem filterMap_eraseIdx_singleton {α β : Type*} {l : List α} {f : α → Option β} {k : ℕ} {a : α}
    {b : β} (h : l[k]? = some a) (ha : f a = some b) (hlength : (l.filterMap f).length ≤ 1) :
    l.filterMap f = [b] ∧ (l.eraseIdx k).filterMap f = [] := by
  have hperm := (cons_eraseIdx_perm h).filterMap f
  rw [List.filterMap_cons_some ha] at hperm
  have hcount := hperm.length_eq
  rw [List.length_cons] at hcount
  have hrest : (l.eraseIdx k).filterMap f = [] := List.eq_nil_of_length_eq_zero (by omega)
  rw [hrest] at hperm
  exact ⟨List.singleton_perm.mp hperm |>.symm, hrest⟩

namespace Serial

/-- An event nothing is logged of leaves what the loop is about. -/
theorem keep (h : w.Serial start log) {w' : Tab} (hview : w'.loopView = w.loopView)
    (hposts : .reset ∈ w'.posts → .reset ∈ w.posts)
    (hreplies : .reset ∈ w'.replies → .reset ∈ w.replies) :
    w'.Serial start (log ++ (none : Option LogEntry).toList) := by
  rw [Option.toList_none, List.append_nil]
  exact ⟨hview ▸ h.view, mt hposts h.posts, mt hreplies h.replies⟩

/-- At most one tick is on its way to the server. -/
theorem length_posted (h : w.Serial start log) :
    (w.posts.filterMap Post.sensors?).length ≤ 1 := by
  have hview := h.view
  generalize hv : w.loopView = v at hview
  have hposted : w.posts.filterMap Post.sensors? = v.posted := hv ▸ rfl
  rw [hposted]
  cases hview <;> simp

/-- At most one answer of a tick is on its way back. -/
theorem length_answered (h : w.Serial start log) :
    (w.replies.filterMap Reply.state?).length ≤ 1 := by
  have hview := h.view
  generalize hv : w.loopView = v at hview
  have hanswered : w.replies.filterMap Reply.state? = v.answered := hv ▸ rfl
  rw [hanswered]
  cases hview <;> simp

/-- The sensors are read, unless a tick is in flight. -/
theorem runManualTick (h : w.Serial start log) (fromStart : Bool) :
    (w.runManualTick fromStart).Serial start (log ++ w.page.loggedTick.toList) := by
  unfold Tab.runManualTick Page.loggedTick
  split
  · split
    · exact h.keep rfl id id
    · exact h.keep rfl id id
  · rename_i hflight
    rw [Bool.not_eq_true] at hflight
    refine ⟨?_, ?_, h.replies⟩
    · have hview := h.view.post hflight
      simpa [loopView, Tab.post, Post.sensors?] using hview
    · simpa [Tab.post] using h.posts

/-- A request reaches the server. -/
theorem process (h : w.Serial start log) {k : ℕ} {r : Post} (hr : w.posts[k]? = some r) :
    (w.handle (.process k)).Serial start (log ++ [r.logged]) := by
  have hmem : ∀ r', r' ∈ w.posts.eraseIdx k → r' ∈ w.posts := fun _ => List.mem_of_mem_eraseIdx
  have hhandle : w.handle (.process k) =
      { w with
        backend := (w.backend.process r).1
        posts := w.posts.eraseIdx k
        replies := w.replies ++ [(w.backend.process r).2] } := by
    simp only [Tab.handle, hr]
  rw [hhandle]
  cases r with
  | start =>
      refine ⟨?_, mt (hmem _) h.posts, by simpa [Backend.process] using h.replies⟩
      have hview := h.view.call (.start "prefer_left")
      have hposts := filterMap_eraseIdx (f := Post.sensors?) hr rfl
      have hnone : [Reply.start].filterMap Reply.state? = [] := rfl
      simp only [loopView, hposts, List.filterMap_append, Backend.process, hnone, List.append_nil]
      exact hview
  | reset => exact absurd (List.mem_of_getElem? hr) h.posts
  | tick sensors fromStart =>
      refine ⟨?_, mt (hmem _) h.posts, by simpa [Backend.process] using h.replies⟩
      obtain ⟨hone, hrest⟩ := filterMap_eraseIdx_singleton (f := Post.sensors?) hr rfl
        h.length_posted
      have hview := h.view.process hone
      simp only [loopView, hrest, List.filterMap_append, Backend.process]
      exact hview

/-- A handler that awaits a start goes on, or a tick is applied. -/
theorem deliver (h : w.Serial start log) (k : ℕ) :
    (w.handle (.deliver k)).Serial start (log ++ (w.logged (.deliver k)).toList) := by
  have hreplies : Reply.reset ∉ w.replies.eraseIdx k := mt List.mem_of_mem_eraseIdx h.replies
  rw [Tab.handle, logged]
  cases hr : w.replies[k]? with
  | none => exact h.keep rfl id id
  | some r =>
      cases r with
      | start =>
          have hrest := filterMap_eraseIdx (f := Reply.state?) hr rfl
          have herased : Tab.Serial start log { w with replies := w.replies.eraseIdx k } := by
            refine ⟨?_, h.posts, hreplies⟩
            simp only [loopView, hrest]
            exact h.view
          dsimp only
          rw [Tab.resume]
          split
          · exact herased.runManualTick true
          · exact herased.keep rfl id id
      | reset => exact absurd (List.mem_of_getElem? hr) h.replies
      | tick state fromStart resets =>
          obtain ⟨hone, hrest⟩ := filterMap_eraseIdx_singleton (f := Reply.state?) hr rfl
            h.length_answered
          have hview := h.view.deliver hone
          refine ⟨?_, h.posts, hreplies⟩
          cases fromStart <;> simp only [Tab.resume, loopView, hrest] <;> exact hview

/-- A request fails; only that of a tick is of the log. -/
theorem failPost (h : w.Serial start log) (k : ℕ) :
    (w.handle (.failPost k)).Serial start (log ++ (w.logged (.failPost k)).toList) := by
  have hposts : Post.reset ∉ w.posts.eraseIdx k := mt List.mem_of_mem_eraseIdx h.posts
  rw [Tab.handle, logged]
  cases hr : w.posts[k]? with
  | none => exact h.keep rfl id id
  | some r =>
      cases r with
      | start =>
          have hrest := filterMap_eraseIdx (f := Post.sensors?) hr rfl
          refine h.keep ?_ List.mem_of_mem_eraseIdx id
          simp only [Tab.resumeFailed, Post.handler, loopView, hrest]
      | reset => exact absurd (List.mem_of_getElem? hr) h.posts
      | tick sensors fromStart =>
          obtain ⟨hone, hrest⟩ := filterMap_eraseIdx_singleton (f := Post.sensors?) hr rfl
            h.length_posted
          have hview := h.view.failPost hone
          cases fromStart <;> refine ⟨?_, hposts, h.replies⟩ <;>
            simp only [Tab.resumeFailed, Post.handler, loopView, hrest] <;> exact hview

/-- An answer is lost. -/
theorem failReply (h : w.Serial start log) (k : ℕ) :
    (w.handle (.failReply k)).Serial start (log ++ (w.logged (.failReply k)).toList) := by
  have hreplies : Reply.reset ∉ w.replies.eraseIdx k := mt List.mem_of_mem_eraseIdx h.replies
  rw [Tab.handle, logged]
  cases hr : w.replies[k]? with
  | none => exact h.keep rfl id id
  | some r =>
      cases r with
      | start =>
          have hrest := filterMap_eraseIdx (f := Reply.state?) hr rfl
          refine h.keep ?_ id List.mem_of_mem_eraseIdx
          simp only [Tab.resumeFailed, Reply.handler, loopView, hrest]
      | reset => exact absurd (List.mem_of_getElem? hr) h.replies
      | tick state fromStart resets =>
          obtain ⟨hone, hrest⟩ := filterMap_eraseIdx_singleton (f := Reply.state?) hr rfl
            h.length_answered
          have hview := h.view.failReply hone
          cases fromStart <;> refine ⟨?_, h.posts, hreplies⟩ <;>
            simp only [Tab.resumeFailed, Reply.handler, loopView, hrest] <;> exact hview

/-- **One event** of manual mode, without a reset. -/
theorem handle (h : w.Serial start log) {e : TabEvent} (he : e ≠ .clickReset) :
    (w.handle e).Serial start (log ++ (w.logged e).toList) := by
  cases e with
  | clickStart =>
      refine h.keep ?_ ?_ id
      · simp [Tab.handle, loopView, post, Post.sensors?, Page.stopManualAutoTick]
      · simp [Tab.handle, post]
  | clickReset => exact absurd rfl he
  | clickTick => exact h.runManualTick false
  | clickManualTab => exact h.keep rfl id id
  | clickAutoTab => exact h.keep rfl id id
  | timerFires =>
      rw [Tab.handle, logged]
      split
      · exact h.runManualTick false
      · exact h.keep rfl id id
  | process k =>
      cases hr : w.posts[k]? with
      | none => simpa [Tab.handle, logged, hr] using h
      | some r => simpa [logged, hr] using h.process hr
  | deliver k => exact h.deliver k
  | failPost k => exact h.failPost k
  | failReply k => exact h.failReply k

end Serial

end Tab

/-! ## The events of the page -/

/-- Nothing is on its way and nothing runs. -/
structure Panel.Settled (p : Panel) : Prop where
  posts : p.tab.posts = []
  replies : p.tab.replies = []
  inFlight : p.tab.page.manualTickInFlight = false
  runs : p.runs = []

/-- The event resets nothing on the page and starts no run of the panel. -/
def PanelEvent.isPlain : PanelEvent → Bool
  | .manual .clickReset => false
  | .clickRun _ => false
  | _ => true

structure Panel.Serial (start : SimulatorService × Grid) (log : List LogEntry) (p : Panel) :
    Prop where
  tab : p.tab.Serial start log
  runs : p.runs = []

namespace Panel

variable {p : Panel} {start : SimulatorService × Grid} {log : List LogEntry}

/-- A settled page has nothing to be told of. -/
theorem Settled.serial (h : p.Settled) : p.Serial (p.service, p.grid) [] := by
  have hview : p.tab.loopView = ⟨p.service, p.grid, false, [], []⟩ := by
    simp only [Tab.loopView, h.posts, h.replies, h.inFlight]
    rfl
  refine ⟨⟨?_, by simp [h.posts], by simp [h.replies]⟩, h.runs⟩
  rw [hview]
  exact .idle .nil

/-- An event of manual mode does to the tab what it does to a tab. -/
theorem handleManual_tab (e : TabEvent) : (p.handleManual e).tab = p.tab.handle e := by
  unfold handleManual
  dsimp only
  split
  · split <;> rfl
  · split <;> rfl
  · rfl

/-- Manual mode starts no run of the panel. -/
theorem handleManual_runs (h : p.runs = []) (e : TabEvent) : (p.handleManual e).runs = [] := by
  unfold handleManual
  dsimp only
  split
  · split <;> exact h
  · split
    · show List.map _ p.runs = []
      rw [h, List.map_nil]
    · exact h
  · exact h

/-- **One event** that is plain. -/
theorem Serial.handle (h : p.Serial start log) (definitions : List ScenarioDefinition)
    {e : PanelEvent} (he : e.isPlain = true) :
    (p.handle definitions e).Serial start (log ++ (p.logged e).toList) := by
  have hnothing : p.Serial start (log ++ (none : Option LogEntry).toList) := by
    simpa using h
  have hnoRun : ∀ k : ℕ, p.runs[k]? = none := by
    intro k
    rw [h.runs]
    rfl
  cases e with
  | manual e =>
      have hreset : e ≠ .clickReset := by
        rintro rfl
        cases he
      refine ⟨?_, handleManual_runs h.runs e⟩
      rw [Panel.handle, handleManual_tab]
      exact h.tab.handle hreset
  | clickGrid c =>
      rw [Panel.handle, logged]
      split
      · refine ⟨⟨?_, h.tab.posts, h.tab.replies⟩, h.runs⟩
        exact h.tab.view.click c
      · exact hnothing
  | clickRun ids => cases he
  | listed =>
      rw [Panel.handle]
      split
      · exact hnothing
      · exact ⟨hnothing.tab, h.runs⟩
  | listFails => exact ⟨hnothing.tab, h.runs⟩
  | foreign call =>
      have hcalled : (p.withService (simulator.next p.service call)).Serial start
          (log ++ [.aside (.called call)]) :=
        ⟨⟨h.tab.view.call call, h.tab.posts, h.tab.replies⟩, h.runs⟩
      rw [Panel.handle]
      split
      · exact hcalled
      · exact ⟨hcalled.tab, List.map_eq_nil_iff.mpr h.runs⟩
  | serve k =>
      rw [Panel.handle, hnoRun]
      exact hnothing
  | deliver k =>
      rw [Panel.handle, hnoRun]
      exact hnothing
  | fail k =>
      rw [Panel.handle, hnoRun]
      exact hnothing
  | wake k =>
      rw [Panel.handle, hnoRun]
      exact hnothing

/-- Between two ticks a page is where the operations told of its log lead. -/
theorem Serial.told (h : p.Serial start log) (hidle : p.tab.page.manualTickInFlight = false) :
    ∃ (ops : List LoopOperation) (pending : List Click),
      Told log ops pending ∧
        p.service = (atomicLoop.run start ops).1 ∧
        p.grid = (atomicLoop.run start ops).2.edit pending := by
  have hview := h.tab.view
  generalize hv : p.tab.loopView = v at hview
  have hservice : p.service = v.service := hv ▸ rfl
  have hgrid : p.grid = v.grid := hv ▸ rfl
  have hflag : v.inFlight = false := hv ▸ hidle
  cases hview with
  | @idle _ ops pending told => exact ⟨ops, pending, told, hservice, hgrid⟩
  | posted before told => cases hflag
  | answered before after told => cases hflag

end Panel

/-- What the page comes to, along any plain run. -/
theorem wholePage_serial (definitions : List ScenarioDefinition) {p : Panel} (h : p.Settled)
    {es : List PanelEvent} (hes : ∀ e ∈ es, e.isPlain = true) :
    ((wholePage definitions).run p es).Serial (p.service, p.grid)
      ((wholePage definitions).notesAlong Panel.logged p es) :=
  (wholePage definitions).run_notes
    (P := fun log p' => p'.Serial (p.service, p.grid) log)
    (fun _ _ _ hserial he => hserial.handle definitions he) h.serial hes

/-- **The page is serializable.**  Take any events on a settled page, resets and
runs of the panel apart, with whatever is on its way when, and other clients in
between.  Whenever no tick is in flight, service and grid are where the whole
operations lead that the log tells of, and clicks since: a round for every
answer that was applied, where the server processed its tick, with the clicks
made before its sensors were read and those made before it was applied, and a
round without a move for every answer that was lost, with every call on its own
side of them.  The log can be told in no other way; the server is asked in its
order, and no click is left out, told twice or moved before another. -/
theorem page_serializable (definitions : List ScenarioDefinition) {p₀ : Panel} (h₀ : p₀.Settled)
    {es : List PanelEvent} (hes : ∀ e ∈ es, e.isPlain = true) :
    let p := (wholePage definitions).run p₀ es
    let log := (wholePage definitions).notesAlong Panel.logged p₀ es
    p.tab.page.manualTickInFlight = false →
      ∃ (ops : List LoopOperation) (pending : List Click),
        (∀ ops' pending', Told log ops' pending' ↔ ops' = ops ∧ pending' = pending) ∧
          p.service = (atomicLoop.run (p₀.service, p₀.grid) ops).1 ∧
          p.grid = (atomicLoop.run (p₀.service, p₀.grid) ops).2.edit pending ∧
          ops.map LoopOperation.asks = log.filterMap LogEntry.asked? ∧
          ops.flatMap LoopOperation.clicks ++ pending = log.filterMap LogEntry.click? := by
  intro p log hidle
  have hserial : p.Serial (p₀.service, p₀.grid) log := wholePage_serial definitions h₀ hes
  obtain ⟨ops, pending, told, hservice, hgrid⟩ := hserial.told hidle
  refine ⟨ops, pending, ?_, hservice, hgrid, told.asks, told.clicks⟩
  intro ops' pending'
  constructor
  · intro htold
    exact told.unique htold
  · rintro ⟨rfl, rfl⟩
    exact told

/-- A start and its first tick, with dust put on the grid and another client's
tick while it is in flight, and a second tick whose answer is lost behind a
click. -/
def busyRun : List PanelEvent :=
  [.manual .clickStart, .manual (.process 0), .manual (.deliver 0), .clickGrid (.dust (9, 9)),
    .foreign (.tick {} 1000), .manual (.process 0), .manual (.deliver 0), .manual .clickTick,
    .manual (.process 0), .clickGrid (.obstacle (5, 5)), .manual (.failReply 0)]

/-- The theorem for such a run: the dust is late for its round, and the second
round moves nothing. -/
theorem page_serializable_once :
    let p := (wholePage getScenarioDefinitions).run (.load 18 12 .new) busyRun
    let ops : List LoopOperation := [.call (.start "prefer_left"), .call (.tick {} 1000),
      .round [] [.dust (9, 9)], .lost []]
    Told [.aside (.called (.start "prefer_left")), .read, .aside (.clicked (.dust (9, 9))),
        .aside (.called (.tick {} 1000)), .ticked, .applied, .read, .ticked,
        .aside (.clicked (.obstacle (5, 5))), .lost] ops [.obstacle (5, 5)] ∧
      p.service = (atomicLoop.run (.new, manualWorld 18 12) ops).1 ∧
      p.grid = (atomicLoop.run (.new, manualWorld 18 12) ops).2.edit [.obstacle (5, 5)] := by
  intro p ops
  have hsettled : (Panel.load 18 12 .new).Settled := ⟨rfl, rfl, rfl, rfl⟩
  have hplain : ∀ e ∈ busyRun, e.isPlain = true := by decide
  obtain ⟨ops', pending, told, hservice, hgrid, _⟩ :=
    page_serializable getScenarioDefinitions hsettled hplain rfl
  have htold := (told ops' pending).mpr ⟨rfl, rfl⟩
  obtain ⟨rfl, rfl⟩ : ops' = ops ∧ pending = [.obstacle (5, 5)] := by
    have hread := htold.readLog_eq
    exact Reading.idle.inj (hread.symm.trans rfl)
  exact ⟨htold, hservice, hgrid⟩

end RvcControl
