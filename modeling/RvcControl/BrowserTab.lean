import RvcControl.Grid
import RvcControl.Mealy

/-!
# One browser tab and its server

The page talks to the server by requests, and every handler of the page is
suspended while it awaits a response.  In the meantime other clicks and the
timer run.  So the state has, besides page and server, the requests and the
responses in flight, each with what its handler will do when it resumes; both
may be delivered in any order.

An event that cannot happen, such as the delivery of a response that is not
there, leaves the tab as it is, so every list of events is a run.
-/

namespace RvcControl

/-- The variables of the page; the timer is on if its handle is not null. -/
structure Page where
  grid : Grid
  manualMode : Bool := true
  manualAutoTickTimer : Bool := false
  manualTickInFlight : Bool := false

namespace Page

def stopManualAutoTick (p : Page) : Page := { p with manualAutoTickTimer := false }

def startManualAutoTick (p : Page) : Page :=
  { p.stopManualAutoTick with manualAutoTickTimer := true }

end Page

/-- A request on its way to the server.  `fromStart` tells the tick that the
start handler awaits from those of the button and the timer. -/
inductive Post
  | start
  | reset
  | tick (sensors : SensorSnapshot) (fromStart : Bool)
  deriving DecidableEq, Repr

/-- A response on its way to the page.  `resets` is not sent: it notes how many
resets the server had processed before the tick. -/
inductive Reply
  | start
  | reset
  | tick (state : SimulatorState) (fromStart : Bool) (resets : ℕ)
  deriving DecidableEq, Repr

/-- The suspended handlers, by what they await. -/
inductive Handler
  | start
  | reset
  | manualTick (fromStart : Bool)
  deriving DecidableEq, Repr

def Post.handler : Post → Handler
  | .start => .start
  | .reset => .reset
  | .tick _ fromStart => .manualTick fromStart

def Reply.handler : Reply → Handler
  | .start => .start
  | .reset => .reset
  | .tick _ fromStart _ => .manualTick fromStart

/-- The server, with notes of the resets it has processed for the tab and of the
motion commands its ticks have issued for it since the last one. -/
structure Backend where
  service : SimulatorService
  issued : List MotionCommand := []
  resets : ℕ := 0

/-- The responses stand in the order in which the server has made them. -/
structure Tab where
  page : Page
  backend : Backend
  posts : List Post := []
  replies : List Reply := []

/-- A tab that has just been loaded. -/
def Tab.load (cols rows : ℕ) (service : SimulatorService) : Tab where
  page := { grid := manualWorld cols rows }
  backend := { service }

/-- What `t` has in its motion log beyond the log of `s`. -/
def motionsIssued (s t : SimulatorService) : List MotionCommand :=
  t.cleaningService.motionActuator.history.drop s.cleaningService.motionActuator.history.length

namespace Backend

/-- The server processes a request. -/
def process (b : Backend) : Post → Backend × Reply
  | .start => ({ b with service := b.service.start }, .start)
  | .reset => ({ service := b.service.reset, issued := [], resets := b.resets + 1 }, .reset)
  | .tick sensors fromStart =>
      let (service, state) := b.service.tick sensors
      ({ b with service, issued := b.issued ++ motionsIssued b.service service },
        .tick state fromStart b.resets)

end Backend

namespace Tab

def post (w : Tab) (r : Post) : Tab := { w with posts := w.posts ++ [r] }

/-- `runManualTick`, up to the point where it awaits its response; a start
handler that awaits a call which returns at once goes on at once. -/
def runManualTick (w : Tab) (fromStart : Bool) : Tab :=
  if w.page.manualTickInFlight then
    if fromStart then { w with page := w.page.startManualAutoTick } else w
  else
    { w with page := { w.page with manualTickInFlight := true } }.post
      (.tick w.page.grid.readSensorsFromGrid fromStart)

/-- The handler that awaits a response resumes with it. -/
def resume (w : Tab) : Reply → Tab
  | .start => if w.page.manualMode then w.runManualTick true else w
  | .reset => { w with page := { w.page with grid := w.page.grid.resetRobot.setupWorld } }
  | .tick state fromStart _ =>
      let page := { w.page with
        grid := w.page.grid.applyTickResult state
        manualTickInFlight := false }
      { w with page := if fromStart then page.startManualAutoTick else page }

/-- The handler that awaits a response resumes with an error.  `runManualTick`
catches it, so a start handler goes on as if nothing had happened. -/
def resumeFailed (w : Tab) : Handler → Tab
  | .start => w
  | .reset => w
  | .manualTick fromStart =>
      let page := { w.page.stopManualAutoTick with manualTickInFlight := false }
      { w with page := if fromStart then page.startManualAutoTick else page }

end Tab

inductive TabEvent
  | clickStart
  | clickReset
  | clickTick
  | clickManualTab
  | clickAutoTab
  | timerFires
  /-- The server processes the `k`-th request in flight. -/
  | process (k : ℕ)
  /-- The `k`-th response in flight reaches the page. -/
  | deliver (k : ℕ)
  | failPost (k : ℕ)
  | failReply (k : ℕ)
  deriving DecidableEq, Repr

namespace Tab

def handle (w : Tab) : TabEvent → Tab
  | .clickStart => { w with page := w.page.stopManualAutoTick }.post .start
  | .clickReset => { w with page := w.page.stopManualAutoTick }.post .reset
  | .clickTick => w.runManualTick false
  | .clickManualTab => { w with page := { w.page with manualMode := true } }
  | .clickAutoTab =>
      { w with page := { w.page with manualMode := false }.stopManualAutoTick }
  | .timerFires => if w.page.manualAutoTickTimer then w.runManualTick false else w
  | .process k =>
      match w.posts[k]? with
      | none => w
      | some r =>
          let (backend, reply) := w.backend.process r
          { w with backend, posts := w.posts.eraseIdx k, replies := w.replies ++ [reply] }
  | .deliver k =>
      match w.replies[k]? with
      | none => w
      | some reply => { w with replies := w.replies.eraseIdx k }.resume reply
  | .failPost k =>
      match w.posts[k]? with
      | none => w
      | some r => { w with posts := w.posts.eraseIdx k }.resumeFailed r.handler
  | .failReply k =>
      match w.replies[k]? with
      | none => w
      | some r =>
          { w with replies := w.replies.eraseIdx k }.resumeFailed r.handler

end Tab

/-- The tab as a machine; it answers nothing. -/
def browserTab : Mealy Tab TabEvent Unit := ⟨fun w e => (w.handle e, ())⟩

@[simp] theorem browserTab_next (w : Tab) (e : TabEvent) : browserTab.next w e = w.handle e := rfl

end RvcControl
