import RvcControl.BodyMeaning
import RvcControl.ManualLoop
import RvcControl.ScenarioCatalog

/-!
# The server in texts

Page and server have nothing in common but texts: the page makes a text of what
it posts, the handlers search that text for values, and what they answer the
page reads as JSON.  This file puts the two encodings around the service.

`server_over_texts` is the result for any client that sends bodies the handlers
can read, in whatever layout; `manualLoop_over_texts` is the one for the page:
the loop around the service is the same whether it passes values or texts.
-/

namespace RvcControl

open Json (Value PlainText)

/-! ## States -/

/-- A state as the page has it. -/
structure StateView where
  running : Bool
  motionState : String
  cleaningMode : String
  lastMotion : String
  lastClean : String
  deriving DecidableEq, Repr

def SimulatorState.view (state : SimulatorState) : StateView where
  running := state.running
  motionState := motionStateToString state.motionState
  cleaningMode := cleaningModeToString state.cleaningMode
  lastMotion := motionToString state.lastMotion
  lastClean := cleanToString state.lastClean

def SimulatorState.toValue (state : SimulatorState) : Value :=
  .object
    [("running", .bool state.running),
      ("motion_state", .string (motionStateToString state.motionState)),
      ("cleaning_mode", .string (cleaningModeToString state.cleaningMode)),
      ("last_motion", .string (motionToString state.lastMotion)),
      ("last_clean", .string (cleanToString state.lastClean))]

def StateView.ofValue (v : Value) : Option StateView := do
  let running ← (← v.member? "running").bool?
  let motionState ← (← v.member? "motion_state").string?
  let cleaningMode ← (← v.member? "cleaning_mode").string?
  let lastMotion ← (← v.member? "last_motion").string?
  let lastClean ← (← v.member? "last_clean").string?
  return { running, motionState, cleaningMode, lastMotion, lastClean }

/-- `res.json()` of an answer that tells a state. -/
def readState (text : String) : Option StateView := (Json.read text).bind StateView.ofValue

section States

variable (state : SimulatorState)

/-- A state is printed as its value. -/
theorem stateToJson_toList : (stateToJson state).toList = Json.print state.toValue := by
  have hrunning := boolText_toList state.running
  unfold stateToJson SimulatorState.toValue
  simp [Json.print, Json.printMembers, Json.commaJoin, Json.quoted, hrunning]

theorem SimulatorState.toValue_plain : state.toValue.Plain := by
  have hstate : PlainText (motionStateToString state.motionState) := by
    cases state.motionState <;> decide
  have hmode : PlainText (cleaningModeToString state.cleaningMode) := by
    cases state.cleaningMode <;> decide
  refine ⟨?_, trivial, ?_, hstate, ?_, hmode, ?_, plainText_motion _, ?_, plainText_clean _,
    trivial⟩ <;> decide

theorem read_stateToJson : Json.read (stateToJson state) = some state.toValue := by
  rw [← Json.read_print state.toValue_plain, ← stateToJson_toList, String.ofList_toList]

/-- The page reads the state off the answer. -/
theorem readState_stateToJson : readState (stateToJson state) = some state.view := by
  rw [readState, read_stateToJson]
  rfl

end States

/-! ## The page's side of a tick -/

namespace Grid

/-- `applyMotion`, by the text of the command. -/
def applyMotionText (g : Grid) (command : String) : Grid :=
  if command = "MoveForward" then g.applyMotion .moveForward
  else if command = "TurnLeft" then g.applyMotion .turnLeft
  else if command = "TurnRight" then g.applyMotion .turnRight
  else if command = "MoveBackward" then g.applyMotion .moveBackward
  else g

/-- `applyTickResult`, by the texts of the commands. -/
def applyTickView (g : Grid) (state : StateView) : Grid :=
  let previousCell := g.robot.cell
  let g := g.applyMotionText state.lastMotion
  if state.lastClean = "SetBoost" then
    { g with dustCells := (g.dustCells.delete g.robot.cell).delete previousCell }
  else g

/-- The page moves the robot by the text of a motion as by the motion. -/
theorem applyMotionText_motionToString (g : Grid) (command : MotionCommand) :
    g.applyMotionText (motionToString command) = g.applyMotion command := by
  cases command <;> simp [applyMotionText, applyMotion, motionToString]

theorem applyTickView_view (g : Grid) (state : SimulatorState) :
    g.applyTickView state.view = g.applyTickResult state := by
  have hboost : (state.view.lastClean = "SetBoost") ↔ state.lastClean = .setBoost :=
    cleanToString_injective.eq_iff (b := .setBoost)
  have hmotion := g.applyMotionText_motionToString state.lastMotion
  simp only [applyTickView, applyTickResult, applyCleaningEffect, hboost]
  rw [SimulatorState.view, hmotion]

end Grid

/-- The body `api` posts. -/
def apiBody : Option Value → String
  | none => "\x7b\x7d"
  | some v => String.ofList (Json.print v)

/-! ## The server -/

inductive HttpRequest
  | get (path : String)
  | post (path body : String)
  deriving DecidableEq, Repr

/-- The request of a handler that calls the service. -/
def HttpRequest.api? : HttpRequest → Option ApiRequest
  | .get path => if path = "/api/state" then some .state else none
  | .post path body =>
      if path = "/api/reset" then some .reset
      else if path = "/api/start" then some (startRequest body)
      else if path = "/api/tick" then some (tickRequest body)
      else none

/-- The answer of a handler that does not. -/
def HttpRequest.answer? (definitions : List ScenarioDefinition) : HttpRequest → Option String
  | .get path =>
      if path = "/api/scenarios" then some (scenarioDefinitionsToJson definitions) else none
  | .post path _ =>
      if path = "/api/scenarios/run" then some (summaryToJson (runAll definitions)) else none

/-- The server, one request after the other; it has no handler for a request
that it answers with `none`. -/
def httpServer (definitions : List ScenarioDefinition) :
    Mealy SimulatorService HttpRequest (Option String) where
  step s request :=
    match request.api? with
    | some r =>
        let (s, response) := (api.atomically simulator).step s r
        (s, some response)
    | none => (s, request.answer? definitions)

/-! ## Bodies in any layout -/

/-- An object and a body it is sent in: the body is the object with whitespace
where the handlers tolerate it. -/
structure JsonBody where
  object : RequestObject
  flat : FlatBody
  compact : flat.compact = object.flat
  layout : flat.Layout
  readable : object.Readable

section Bodies

/-- Whitespace makes no request of what is none. -/
theorem FlatBody.isRequest_of_compact {b : FlatBody} (h : b.compact.IsRequest) : b.IsRequest := by
  have hmem : ∀ m ∈ b.members, m.compact ∈ b.compact.members := fun m hm => List.mem_map_of_mem hm
  refine ⟨?_, ?_, ?_, ?_⟩
  · intro key hkey
    exact List.pairwise_map.mp (h.once key hkey)
  · intro key hkey m hm hends
    exact h.sensors key hkey m.compact (hmem m hm) hends
  · intro m hm hends
    exact h.turnStrategy m.compact (hmem m hm) hends
  · intro m hm hends
    exact h.timerAdvance m.compact (hmem m hm) hends

/-- A body without whitespace has a tolerated layout. -/
theorem FlatBody.layout_of_tight {b : FlatBody}
    (h : ∀ m ∈ b.members, m.lead.text = [] ∧ m.beforeColon.text = [] ∧ m.afterColon.text = [] ∧
      m.trail.text = []) : b.Layout where
  sensors := by
    intro key _ m after hfound
    have hsuffix := namedMember?_suffix hfound
    obtain ⟨_, hbefore, hafter, htrail⟩ := h m (hsuffix.mem List.mem_cons_self)
    refine ⟨fun _ => ⟨hbefore, by simp [hafter]⟩, fun _ next hnext _ => ?_⟩
    have hnextMem := hsuffix.mem (List.mem_cons_of_mem m (List.mem_of_mem_head? hnext))
    exact ⟨hbefore, hafter, htrail, (h next hnextMem).1⟩
  turnStrategy := by
    intro m after hfound _
    obtain ⟨_, hbefore, hafter, _⟩ := h m (namedMember?_endsIn hfound).1
    exact ⟨hbefore, hafter⟩
  timerAdvance := by
    intro m after hfound _
    exact (h m (namedMember?_endsIn hfound).1).2.1

/-- The members as `JSON.stringify` writes them. -/
theorem RequestObject.flat_tight (o : RequestObject) :
    ∀ m ∈ o.flat.members, m.lead.text = [] ∧ m.beforeColon.text = [] ∧ m.afterColon.text = [] ∧
      m.trail.text = [] := by
  intro m hm
  obtain ⟨member, _, rfl⟩ := List.mem_map.mp hm
  exact ⟨rfl, rfl, rfl, rfl⟩

/-- What `JSON.stringify` makes of a readable object. -/
def JsonBody.stringify (o : RequestObject) (h : o.Readable) : JsonBody where
  object := o
  flat := o.flat
  compact := o.flat_compact
  layout := FlatBody.layout_of_tight o.flat_tight
  readable := h

namespace JsonBody

variable (b : JsonBody)

def text : String := b.flat.body

/-- A body without whitespace is that of its object. -/
theorem stringify_text (o : RequestObject) (h : o.Readable) : (stringify o h).text = o.body :=
  o.flat_body

/-- The body is that of a request. -/
theorem isRequest : b.flat.IsRequest := by
  apply FlatBody.isRequest_of_compact
  rw [b.compact]
  exact b.object.flat_isRequest

/-- Without its whitespace it is that of its object. -/
theorem compact_body : b.flat.compact.body = b.object.body := by
  rw [b.compact, b.object.flat_body]

/-- Its whitespace does not show. -/
theorem harmless : b.flat.Harmless := (harmless_iff_layout b.isRequest).mpr b.layout

/-- The start handler reads the strategy of the object. -/
theorem startRequest_eq : startRequest b.text = .start b.object.turnStrategyText := by
  have hlayout := (parseString_compact_iff b.flat).mpr b.harmless.turnStrategy
  rw [startRequest, text, hlayout, b.compact_body, b.object.parseString_eq]

/-- The tick handler reads its sensors and its time. -/
theorem tickRequest_eq :
    tickRequest b.text = .tick b.object.sensorSnapshot b.object.timerAdvanceMs := by
  have hsensors : parseSensors b.text = b.object.sensorSnapshot := by
    rw [← (b.object.parseSensors_eq_iff).mpr b.readable, ← b.compact_body]
    exact (sensorSnapshot_eq_iff _ _).mpr fun key hkey =>
      (parseBool_compact_iff b.flat hkey).mpr (b.harmless.sensors key hkey)
  have htimer : parseInt b.text "timer_advance_ms" 0 = b.object.timerAdvanceMs := by
    rw [← b.object.parseInt_eq, ← b.compact_body]
    exact (parseInt_compact_iff b.flat).mpr b.harmless.timerAdvance
  rw [tickRequest, hsensors, htimer]

end JsonBody

end Bodies

/-! ## The page's own posts -/

/-- The names of a tick's body. -/
def tickNames : List String := sensorKeys ++ ["timer_advance_ms"]

/-- `{ ...sensors, timer_advance_ms }`, or the sensors alone. -/
def tickMembers (sensors : SensorSnapshot) (timerAdvanceMs : Option Int) :
    List (String × Value) :=
  [("front_blocked", .bool sensors.frontBlocked), ("left_blocked", .bool sensors.leftBlocked),
    ("right_blocked", .bool sensors.rightBlocked), ("dust_detected", .bool sensors.dustDetected)] ++
    timerAdvanceMs.toList.map fun n => ("timer_advance_ms", .int n)

section TickObjects

variable {sensors : SensorSnapshot} {timerAdvanceMs : Option Int}

/-- The page posts the sensors and maybe the time. -/
theorem mem_tickMembers {name : String} {v : Value}
    (h : (name, v) ∈ tickMembers sensors timerAdvanceMs) :
    (name ∈ sensorKeys ∧ ∃ b, v = .bool b) ∨
      name = "timer_advance_ms" ∧ ∃ n ∈ timerAdvanceMs, v = .int n := by
  rcases List.mem_append.mp h with hsensor | htime
  · left
    simp only [List.mem_cons, Prod.mk.injEq, List.not_mem_nil, or_false] at hsensor
    rcases hsensor with ⟨rfl, rfl⟩ | ⟨rfl, rfl⟩ | ⟨rfl, rfl⟩ | ⟨rfl, rfl⟩ <;>
      exact ⟨by decide, _, rfl⟩
  · right
    obtain ⟨n, hn, heq⟩ := List.mem_map.mp htime
    cases heq
    exact ⟨rfl, n, Option.mem_toList.mp hn, rfl⟩

/-- Their names come in one order. -/
theorem tickMembers_names :
    (tickMembers sensors timerAdvanceMs).map Prod.fst <+: tickNames := by
  cases timerAdvanceMs with
  | none => exact ⟨["timer_advance_ms"], rfl⟩
  | some n => exact ⟨[], rfl⟩

/-- The object of a tick. -/
def tickObject (sensors : SensorSnapshot) (timerAdvanceMs : Option Int)
    (h : ∀ n ∈ timerAdvanceMs, InInt32 n) : RequestObject where
  members := tickMembers sensors timerAdvanceMs
  distinct := tickMembers_names.sublist.nodup (by decide)
  names := by
    have hplain : ∀ name ∈ tickNames, PlainText name := by decide
    intro m hm
    exact hplain m.1 (tickMembers_names.mem (List.mem_map_of_mem hm))
  values := by
    intro m hm
    obtain ⟨name, v⟩ := m
    rcases mem_tickMembers hm with ⟨_, b, rfl⟩ | ⟨_, n, hn, rfl⟩
    · trivial
    · exact ⟨rfl, h n hn⟩
  sensors := by
    intro key hkey v hv
    rcases mem_tickMembers hv with ⟨_, hb⟩ | ⟨rfl, _⟩
    · exact hb
    · exact absurd hkey (by decide)
  turnStrategy := by
    intro v hv
    rcases mem_tickMembers hv with ⟨hkey, _⟩ | ⟨hkey, _⟩
    · exact absurd hkey (by decide)
    · exact absurd hkey (by decide)
  timerAdvance := by
    intro v hv
    rcases mem_tickMembers hv with ⟨hkey, _⟩ | ⟨_, n, _, rfl⟩
    · exact absurd hkey (by decide)
    · exact ⟨n, rfl⟩

variable {h : ∀ n ∈ timerAdvanceMs, InInt32 n}

/-- No name of a tick's body begins with `true`. -/
theorem tickObject_readable : (tickObject sensors timerAdvanceMs h).Readable := by
  have hnames : ∀ name ∈ tickNames, ¬ "true".toList <+: name.toList := by decide
  intro key _ before next rest hsplit
  have hmem : next ∈ tickMembers sensors timerAdvanceMs := by
    show next ∈ (tickObject sensors timerAdvanceMs h).members
    rw [hsplit]
    simp
  exact hnames next.1 (tickMembers_names.mem (List.mem_map_of_mem hmem))

/-- A tick means the sensors it was made of. -/
theorem tickObject_sensorSnapshot :
    (tickObject sensors timerAdvanceMs h).sensorSnapshot = sensors := by
  cases timerAdvanceMs <;> rfl

theorem tickObject_timerAdvanceMs :
    (tickObject sensors timerAdvanceMs h).timerAdvanceMs = timerAdvanceMs.getD 0 := by
  cases timerAdvanceMs <;> rfl

variable (sensors timerAdvanceMs) in
/-- What the tick handler reads from the page's post. -/
theorem tickRequest_tickMembers (h : ∀ n ∈ timerAdvanceMs, InInt32 n) :
    tickRequest (apiBody (some (.object (tickMembers sensors timerAdvanceMs)))) =
      .tick sensors (timerAdvanceMs.getD 0) := by
  have hread := (JsonBody.stringify (tickObject sensors timerAdvanceMs h)
    tickObject_readable).tickRequest_eq
  rw [JsonBody.stringify_text] at hread
  refine hread.trans ?_
  rw [JsonBody.stringify, tickObject_sensorSnapshot, tickObject_timerAdvanceMs]

end TickObjects

/-- The object of a start that names its strategy. -/
def startObject (turnStrategy : String) (h : PlainText turnStrategy) : RequestObject where
  members := [("turn_strategy", .string turnStrategy)]
  distinct := List.nodup_singleton _
  names := by
    have hplain : PlainText "turn_strategy" := by decide
    intro m hm
    rw [List.mem_singleton.mp hm]
    exact hplain
  values := by
    intro m hm
    rw [List.mem_singleton.mp hm]
    exact h
  sensors := by
    intro key hkey v hv
    cases List.mem_singleton.mp hv
    exact absurd hkey (by decide)
  turnStrategy := by
    intro v hv
    cases List.mem_singleton.mp hv
    exact ⟨turnStrategy, rfl⟩
  timerAdvance := by
    intro v hv
    have hname : "timer_advance_ms" = "turn_strategy" :=
      congrArg Prod.fst (List.mem_singleton.mp hv)
    exact absurd hname (by decide)

/-- What the start handler reads from the panel's post. -/
theorem startRequest_turnStrategy {turnStrategy : String} (h : PlainText turnStrategy) :
    startRequest (apiBody (some (.object [("turn_strategy", .string turnStrategy)]))) =
      .start turnStrategy :=
  (startObject turnStrategy h).startRequest_eq

/-! ## Clients -/

/-- What a client asks for. -/
inductive ClientRequest
  | reset
  | start (body : JsonBody)
  | tick (body : JsonBody)
  | state
  | scenarios
  | runScenarios

/-- What a client has from an answer. -/
inductive ClientAnswer
  | done
  | state (state : StateView)
  | scenarios (scenarios : List ScenarioView)
  | report (summary : ScenarioRunSummary)
  deriving DecidableEq, Repr

namespace ClientRequest

/-- The request as it is sent. -/
def text : ClientRequest → HttpRequest
  | .reset => .post "/api/reset" (apiBody none)
  | .start body => .post "/api/start" body.text
  | .tick body => .post "/api/tick" body.text
  | .state => .get "/api/state"
  | .scenarios => .get "/api/scenarios"
  | .runScenarios => .post "/api/scenarios/run" (apiBody none)

/-- What the client makes of the answer. -/
def read (answer : Option String) : ClientRequest → Option ClientAnswer
  | .reset =>
      if ((answer.bind Json.read).bind (Value.member? "ok")).bind Value.bool? = some true
      then some .done else none
  | .start _ | .tick _ | .state => (answer.bind readState).map .state
  | .scenarios => (answer.bind readScenarios).map .scenarios
  | .runScenarios =>
      ((answer.bind Json.read).bind ScenarioRunSummary.ofValue).map .report

end ClientRequest

/-- The service as clients have it that need no texts. -/
def clientService (definitions : List ScenarioDefinition) :
    Mealy SimulatorService ClientRequest ClientAnswer where
  step s
    | .reset => (s.reset, .done)
    | .start body =>
        let s := s.start body.object.turnStrategyText
        (s, .state s.getState.view)
    | .tick body =>
        let (s, state) := s.tick body.object.sensorSnapshot body.object.timerAdvanceMs
        (s, .state state.view)
    | .state => (s, .state s.getState.view)
    | .scenarios => (s, .scenarios (definitions.map ScenarioDefinition.view))
    | .runScenarios => (s, .report (runAll definitions))

section Clients

variable {definitions : List ScenarioDefinition}

/-- The report is read back. -/
theorem readReport (h : ∀ d ∈ definitions, d.Plain) :
    (Json.read (summaryToJson (runAll definitions))).bind ScenarioRunSummary.ofValue =
      some (runAll definitions) := by
  have hplain : (runAll definitions).Plain := runAll_plain fun d hd => ⟨(h d hd).id, (h d hd).name⟩
  have hread : Json.read (summaryToJson (runAll definitions)) =
      some (runAll definitions).toValue := by
    rw [← Json.read_print hplain.toValue, ← summaryToJson_toList, String.ofList_toList]
  rw [hread]
  exact (runAll definitions).ofValue_toValue

variable (definitions) in
/-- A request that the API takes is served by its handler. -/
theorem httpServer_api {request : HttpRequest} {r : ApiRequest} (h : request.api? = some r)
    (s : SimulatorService) :
    (httpServer definitions).next s request = (api.atomically simulator).next s r ∧
      (httpServer definitions).out s request = some ((api.atomically simulator).out s r) := by
  simp [Mealy.next, Mealy.out, httpServer, h]

variable (definitions) in
/-- Any other one is answered and changes nothing. -/
theorem httpServer_answer {request : HttpRequest} (h : request.api? = none)
    (s : SimulatorService) :
    (httpServer definitions).next s request = s ∧
      (httpServer definitions).out s request = request.answer? definitions := by
  simp [Mealy.next, Mealy.out, httpServer, h]

/-- A start asks for what its object means. -/
theorem api?_start (body : JsonBody) :
    (ClientRequest.start body).text.api? = some (.start body.object.turnStrategyText) :=
  congrArg some body.startRequest_eq

theorem api?_tick (body : JsonBody) :
    (ClientRequest.tick body).text.api? =
      some (.tick body.object.sensorSnapshot body.object.timerAdvanceMs) :=
  congrArg some body.tickRequest_eq

/-- The answer to a reset can be read. -/
theorem read_ok :
    Json.read "\x7b\"ok\":true\x7d" = some (.object [("ok", .bool true)]) := by
  have hplain : Value.Plain (.object [("ok", .bool true)]) := ⟨by decide, trivial, trivial⟩
  rw [← Json.read_print hplain]
  rfl

/-- **One request.**  The server does and answers in texts what the service
does and answers. -/
theorem httpServer_step (h : ∀ d ∈ definitions, d.Plain) (s : SimulatorService)
    (request : ClientRequest) :
    (httpServer definitions).next s request.text = (clientService definitions).next s request ∧
      request.read ((httpServer definitions).out s request.text) =
        some ((clientService definitions).out s request) := by
  cases request with
  | reset =>
      have hapi : ClientRequest.reset.text.api? = some .reset := rfl
      obtain ⟨hnext, hout⟩ := httpServer_api definitions hapi s
      have hok : api.respond .reset (simulator.outputs s (api.calls .reset)) =
          "\x7b\"ok\":true\x7d" := rfl
      rw [hout, Handlers.atomically_out, hok, ClientRequest.read, Option.bind_some, read_ok]
      exact ⟨hnext, rfl⟩
  | start body =>
      obtain ⟨hnext, hout⟩ := httpServer_api definitions (api?_start body) s
      have hstate := readState_stateToJson (s.start body.object.turnStrategyText).getState
      rw [hout, ClientRequest.read, Option.bind_some]
      exact ⟨hnext, congrArg (Option.map ClientAnswer.state) hstate⟩
  | tick body =>
      obtain ⟨hnext, hout⟩ := httpServer_api definitions (api?_tick body) s
      have hstate := readState_stateToJson
        (s.tick body.object.sensorSnapshot body.object.timerAdvanceMs).2
      rw [hout, ClientRequest.read, Option.bind_some]
      exact ⟨hnext, congrArg (Option.map ClientAnswer.state) hstate⟩
  | state =>
      have hapi : ClientRequest.state.text.api? = some .state := rfl
      obtain ⟨hnext, hout⟩ := httpServer_api definitions hapi s
      have hstate := readState_stateToJson s.getState
      rw [hout, ClientRequest.read, Option.bind_some]
      exact ⟨hnext, congrArg (Option.map ClientAnswer.state) hstate⟩
  | scenarios =>
      have hapi : ClientRequest.scenarios.text.api? = none := rfl
      obtain ⟨hnext, hout⟩ := httpServer_answer definitions hapi s
      have hanswer : ClientRequest.scenarios.text.answer? definitions =
          some (scenarioDefinitionsToJson definitions) := rfl
      rw [hout, hanswer, ClientRequest.read, Option.bind_some, readScenarios_catalogue h]
      exact ⟨hnext, rfl⟩
  | runScenarios =>
      have hapi : ClientRequest.runScenarios.text.api? = none := rfl
      obtain ⟨hnext, hout⟩ := httpServer_answer definitions hapi s
      have hanswer : ClientRequest.runScenarios.text.answer? definitions =
          some (summaryToJson (runAll definitions)) := rfl
      rw [hout, hanswer, ClientRequest.read, Option.bind_some, readReport h]
      exact ⟨hnext, rfl⟩

/-- **The server in texts is the service.**  Any run of requests from clients
whose bodies the handlers can read, in any tolerated layout, leaves the service
where the same run of calls would leave it, and the clients read off the answers
what these calls return. -/
theorem server_over_texts (h : ∀ d ∈ definitions, d.Plain) (s : SimulatorService)
    (requests : List ClientRequest) :
    (httpServer definitions).run s (requests.map ClientRequest.text) =
        (clientService definitions).run s requests ∧
      List.zipWith (fun request answer => request.read answer) requests
          ((httpServer definitions).outputs s (requests.map ClientRequest.text)) =
        ((clientService definitions).outputs s requests).map some := by
  induction requests generalizing s with
  | nil => exact ⟨rfl, rfl⟩
  | cons request requests ih =>
      obtain ⟨hnext, hread⟩ := httpServer_step h s request
      obtain ⟨hrun, hreads⟩ := ih ((clientService definitions).next s request)
      rw [List.map_cons, Mealy.run_cons, Mealy.run_cons, Mealy.outputs_cons, Mealy.outputs_cons,
        hnext]
      refine ⟨hrun, ?_⟩
      rw [List.zipWith_cons_cons, hread, hreads]
      rfl

/-- The theorem for a client that starts a session, posts a clear tick and has
the scenarios run. -/
theorem server_over_texts_once :
    let requests : List ClientRequest :=
      [.reset, .start (.stringify (tickObject {} none (by simp)) tickObject_readable),
        .tick (.stringify (tickObject {} (some 500) (by decide)) tickObject_readable), .runScenarios]
    (httpServer getScenarioDefinitions).run .new (requests.map ClientRequest.text) =
      (clientService getScenarioDefinitions).run .new requests :=
  (server_over_texts getScenarioDefinitions_ids_plain .new _).1

end Clients

/-! ## The manual loop in texts -/

/-- The post of `runManualTick`. -/
def manualPost (sensors : SensorSnapshot) : HttpRequest :=
  .post "/api/tick" (apiBody (some (.object (tickMembers sensors none))))

/-- `runManualTick` with the server behind it, all in texts; an answer that is no
state is as good as none. -/
def manualLoopOverTexts (definitions : List ScenarioDefinition) :
    Mealy (SimulatorService × Grid) (List Click) (Option StateView) where
  step st clicks :=
    let g := st.2.edit clicks
    let (s, answer) := (httpServer definitions).step st.1 (manualPost g.readSensorsFromGrid)
    match answer.bind readState with
    | some state => ((s, g.applyTickView state), some state)
    | none => ((s, g), none)

/-- A posted tick is one of the service. -/
theorem httpServer_tick (definitions : List ScenarioDefinition) {body : String}
    {sensors : SensorSnapshot} {timerAdvance : Int}
    (h : tickRequest body = .tick sensors timerAdvance) (s : SimulatorService) :
    (httpServer definitions).step s (.post "/api/tick" body) =
      ((s.tick sensors timerAdvance).1, some (stateToJson (s.tick sensors timerAdvance).2)) := by
  have hapi : (HttpRequest.post "/api/tick" body).api? = some (.tick sensors timerAdvance) :=
    congrArg some h
  obtain ⟨hnext, hout⟩ := httpServer_api definitions hapi s
  exact Prod.ext hnext hout

theorem httpServer_reset (definitions : List ScenarioDefinition) (body : String)
    (s : SimulatorService) :
    (httpServer definitions).step s (.post "/api/reset" body) =
      (s.reset, some "\x7b\"ok\":true\x7d") := rfl

theorem httpServer_start (definitions : List ScenarioDefinition) {body turnStrategy : String}
    (h : startRequest body = .start turnStrategy) (s : SimulatorService) :
    (httpServer definitions).step s (.post "/api/start" body) =
      (s.start turnStrategy, some (stateToJson (s.start turnStrategy).getState)) := by
  have hapi : (HttpRequest.post "/api/start" body).api? = some (.start turnStrategy) :=
    congrArg some h
  obtain ⟨hnext, hout⟩ := httpServer_api definitions hapi s
  exact Prod.ext hnext hout

/-- One round in texts is one round in values. -/
theorem manualLoopOverTexts_step (definitions : List ScenarioDefinition)
    (st : SimulatorService × Grid) (clicks : List Click) :
    (manualLoopOverTexts definitions).next st clicks = manualLoop.next st { clicks } ∧
      (manualLoopOverTexts definitions).out st clicks =
        some (manualLoop.out st { clicks }).view := by
  have hpost := httpServer_tick definitions
    (tickRequest_tickMembers (st.2.edit clicks).readSensorsFromGrid none (by simp)) st.1
  have hread := readState_stateToJson (st.1.tick (st.2.edit clicks).readSensorsFromGrid 0).2
  simp only [Mealy.next, Mealy.out, manualLoopOverTexts, manualPost, hpost, Option.getD_none,
    Option.bind_some, hread, Grid.applyTickView_view]
  exact ⟨rfl, rfl⟩

/-- **Nothing is lost between page and server.**  The loop that passes texts is
the loop that passes values: any run of it, whatever is clicked between the
rounds, takes service and grid where `manualLoop` takes them and shows the same
states.  What holds of `manualLoop` holds of the page and its server. -/
theorem manualLoop_over_texts (definitions : List ScenarioDefinition)
    (st : SimulatorService × Grid) (rounds : List (List Click)) :
    let values : List Round := rounds.map fun clicks => { clicks }
    (manualLoopOverTexts definitions).run st rounds = manualLoop.run st values ∧
      (manualLoopOverTexts definitions).outputs st rounds =
        (manualLoop.outputs st values).map fun state => some state.view := by
  induction rounds generalizing st with
  | nil => exact ⟨rfl, rfl⟩
  | cons clicks rounds ih =>
      obtain ⟨hnext, hout⟩ := manualLoopOverTexts_step definitions st clicks
      obtain ⟨hrun, houtputs⟩ := ih (manualLoop.next st { clicks })
      rw [Mealy.run_cons, Mealy.outputs_cons, hnext, hout]
      exact ⟨hrun, congrArg (List.cons _) houtputs⟩

end RvcControl
