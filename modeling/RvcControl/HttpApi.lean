import RvcControl.CommandLog
import RvcControl.Linearizability
import RvcControl.ScenarioRunner

/-!
# The HTTP API under concurrent clients

The server runs a handler for each request, and handlers of different requests
run at the same time; only the single calls of the simulator service are
atomic.  Three of the four handlers make one call.  `/api/start` makes two, it
starts the service and then asks for its state, and between the two another
client's tick may have run.

`api_linearizable_iff` says exactly when that shows: whenever a start handler
asks for the state, no tick may have run since the logs were last cleared.
-/

namespace RvcControl

/-! ## Response bodies -/

def motionStateToString : RobotMotionState → String
  | .movingForward => "MovingForward"
  | .stopping => "Stopping"
  | .turning => "Turning"
  | .backingUp => "BackingUp"
  | .idle => "Idle"

def cleaningModeToString : CleaningMode → String
  | .normal => "Normal"
  | .boost => "Boost"
  | .off => "Off"

def stateToJson (state : SimulatorState) : String :=
  "\x7b" ++
    "\"running\":" ++ (if state.running then "true" else "false") ++ "," ++
    "\"motion_state\":\"" ++ motionStateToString state.motionState ++ "\"," ++
    "\"cleaning_mode\":\"" ++ cleaningModeToString state.cleaningMode ++ "\"," ++
    "\"last_motion\":\"" ++ motionToString state.lastMotion ++ "\"," ++
    "\"last_clean\":\"" ++ cleanToString state.lastClean ++ "\"" ++
    "\x7d"

/-- The names of the states differ. -/
theorem motionStateToString_injective : Function.Injective motionStateToString := by
  intro a b h
  cases a <;> cases b <;> first | rfl | simp [motionStateToString] at h

theorem cleaningModeToString_injective : Function.Injective cleaningModeToString := by
  intro a b h
  cases a <;> cases b <;> first | rfl | simp [cleaningModeToString] at h

/-- Where a list is cut at its first `c`. -/
theorem append_cons_inj {α : Type*} {c : α} {x y r t : List α} (hx : c ∉ x) (hy : c ∉ y)
    (h : x ++ c :: r = y ++ c :: t) : x = y ∧ r = t := by
  induction x generalizing y with
  | nil =>
      cases y with
      | nil => exact ⟨rfl, List.tail_eq_of_cons_eq h⟩
      | cons b y => exact absurd (List.head_eq_of_cons_eq h ▸ List.mem_cons_self) hy
  | cons a x ih =>
      cases y with
      | nil => exact absurd (List.head_eq_of_cons_eq h ▸ List.mem_cons_self) hx
      | cons b y =>
          obtain ⟨hxy, hrt⟩ := ih (fun hc => hx (List.mem_cons_of_mem a hc))
            (fun hc => hy (List.mem_cons_of_mem b hc)) (List.tail_eq_of_cons_eq h)
          exact ⟨by rw [List.head_eq_of_cons_eq h, hxy], hrt⟩

/-- A text ends where the character after it comes that is not in it. -/
theorem text_append_inj {c : Char} {u v s r t : String} (hs : s.toList.head? = some c)
    (hu : c ∉ u.toList) (hv : c ∉ v.toList) (h : u ++ (s ++ r) = v ++ (s ++ t)) :
    u = v ∧ r = t := by
  obtain ⟨tail, htail⟩ := List.head?_eq_some_iff.mp hs
  have hlist : u.toList ++ c :: (tail ++ r.toList) = v.toList ++ c :: (tail ++ t.toList) := by
    simpa [String.toList_append, htail] using congrArg String.toList h
  obtain ⟨huv, hrt⟩ := append_cons_inj hu hv hlist
  exact ⟨String.toList_inj.mp huv, String.toList_inj.mp (List.append_cancel_left hrt)⟩

section Texts

/-- A boolean is written without commas. -/
theorem comma_notMem_boolText (b : Bool) :
    ',' ∉ (if b then "true" else "false").toList := by
  cases b <;> decide

/-- None of the names has a quote in it. -/
theorem quote_notMem_motionState (state : RobotMotionState) :
    '"' ∉ (motionStateToString state).toList := by
  cases state <;> decide

theorem quote_notMem_cleaningMode (mode : CleaningMode) :
    '"' ∉ (cleaningModeToString mode).toList := by
  cases mode <;> decide

theorem quote_notMem_motion (command : MotionCommand) :
    '"' ∉ (motionToString command).toList := by
  cases command <;> decide

theorem quote_notMem_clean (command : CleaningCommand) :
    '"' ∉ (cleanToString command).toList := by
  cases command <;> decide

end Texts

/-- A response body tells the whole state. -/
theorem stateToJson_injective : Function.Injective stateToJson := by
  intro a b h
  have hcomma : (",").toList.head? = some ',' := by decide
  have hquote : ("\",").toList.head? = some '"' := by decide
  have hlast : ("\"").toList.head? = some '"' := by decide
  unfold stateToJson at h
  simp only [String.append_assoc] at h
  rw [String.append_right_inj, String.append_right_inj] at h
  obtain ⟨hrunning, h⟩ :=
    text_append_inj hcomma (comma_notMem_boolText _) (comma_notMem_boolText _) h
  rw [String.append_right_inj] at h
  obtain ⟨hmotionState, h⟩ :=
    text_append_inj hquote (quote_notMem_motionState _) (quote_notMem_motionState _) h
  rw [String.append_right_inj] at h
  obtain ⟨hmode, h⟩ :=
    text_append_inj hquote (quote_notMem_cleaningMode _) (quote_notMem_cleaningMode _) h
  rw [String.append_right_inj] at h
  obtain ⟨hmotion, h⟩ :=
    text_append_inj hquote (quote_notMem_motion _) (quote_notMem_motion _) h
  rw [String.append_right_inj] at h
  obtain ⟨hclean, _⟩ :=
    text_append_inj hlast (quote_notMem_clean _) (quote_notMem_clean _) h
  have hbool : a.running = b.running := by
    cases ha : a.running <;> cases hb : b.running <;> simp [ha, hb] at hrunning ⊢
  have hfields : a.motionState = b.motionState ∧ a.cleaningMode = b.cleaningMode ∧
      a.lastMotion = b.lastMotion ∧ a.lastClean = b.lastClean ∧ a.running = b.running :=
    ⟨motionStateToString_injective hmotionState, cleaningModeToString_injective hmode,
      motionToString_injective hmotion, cleanToString_injective hclean, hbool⟩
  cases a
  cases b
  exact SimulatorState.mk.injEq .. ▸ hfields

/-! ## The handlers -/

/-- A request, with what its handler reads from the body. -/
inductive ApiRequest
  | reset
  | start (turnStrategy : String)
  | tick (sensors : SensorSnapshot) (timerAdvance : Int)
  | state
  deriving DecidableEq, Repr

/-- What the handlers call, and the bodies they set.  A handler that reports a
state has it from its last call. -/
def api : Handlers ApiRequest SimulatorService.Call (Option SimulatorState) String where
  calls
    | .reset => [.reset]
    | .start turnStrategy => [.start turnStrategy, .getState]
    | .tick sensors timerAdvance => [.tick sensors timerAdvance]
    | .state => [.getState]
  respond request answers :=
    match request, answers.getLast? with
    | .reset, _ => "\x7b\"ok\":true\x7d"
    | _, some (some state) => stateToJson state
    | _, _ => ""

/-- Every handler does what it does in its first call. -/
theorem api_actsFirst : api.ActsFirst simulator := by
  intro request
  cases request with
  | start turnStrategy =>
      refine ⟨_, _, rfl, ?_⟩
      intro call hcall s
      cases List.mem_singleton.mp hcall
      rfl
  | reset => exact ⟨_, _, rfl, by simp⟩
  | tick sensors timerAdvance => exact ⟨_, _, rfl, by simp⟩
  | state => exact ⟨_, _, rfl, by simp⟩

/-- What a started service reports before its first tick. -/
def freshState : SimulatorState where
  motionState := .movingForward
  cleaningMode := .normal
  running := true

/-- Alone, a start is answered with a fresh session, whatever went before. -/
theorem start_alone (s : SimulatorService) (turnStrategy : String) :
    (api.atomically simulator).out s (.start turnStrategy) = stateToJson freshState := rfl

/-- Only a start makes a second call, and alone it is always answered alike. -/
theorem api_alone (request : ApiRequest) :
    (api.calls request).length = 1 ∨
      ∀ s t, (api.atomically simulator).out s request =
        (api.atomically simulator).out t request := by
  cases request with
  | start turnStrategy => exact Or.inr fun _ _ => rfl
  | _ => exact Or.inl rfl

/-! ## When the service reports a fresh session -/

open SimulatorService (after)

/-- No tick has run since the logs were last cleared, and the machine drives
straight on with normal suction, as it does after a start. -/
structure Undisturbed (calls : List SimulatorService.Call) : Prop where
  noTick : History.Since (fun _ call => call.isRestart = true) (fun _ call => call.isTick = false)
    calls
  motionState : (after calls).cleaningService.stateMachine.motionState = .movingForward
  cleaningMode : (after calls).cleaningService.stateMachine.cleaningMode = .normal

/-- The log is empty exactly if no tick has come since the last restart. -/
theorem log_eq_nil_iff (calls : List SimulatorService.Call) :
    ∀ v, shown calls = some v →
      (v.log = [] ↔ History.Since (fun _ call => call.isRestart = true)
        (fun _ call => call.isTick = false) calls) := by
  induction calls using List.reverseRecOn with
  | nil =>
      intro v hv
      cases hv
  | append_singleton calls call ih =>
      intro v hv
      rw [shown, Mealy.run_concat, ← shown] at hv
      rw [History.since_concat]
      cases call with
      | reset =>
          obtain ⟨u, _, rfl⟩ := Option.map_eq_some_iff.mp hv
          simp [LiveSession.reset, SimulatorService.Call.isRestart]
      | start turnStrategy =>
          cases hv
          simp [LiveSession.started, SimulatorService.Call.isRestart]
      | tick sensors timerAdvance =>
          obtain ⟨u, _, rfl⟩ := Option.map_eq_some_iff.mp hv
          simp [LiveSession.tick, SimulatorService.Call.isRestart, SimulatorService.Call.isTick]
      | getState =>
          rw [ih v hv]
          simp [SimulatorService.Call.isRestart, SimulatorService.Call.isTick]

/-- No last motion is shown while the log is empty. -/
theorem LiveSession.lastMotion_eq_none_iff (v : LiveSession) :
    v.state.lastMotion = .none ↔ v.log = [] := by
  cases hlog : v.log using List.reverseRecOn with
  | nil => simp [state, motions, hlog]
  | append_singleton log entry _ => simp [state, motions, hlog, MotionPhase.command_ne_none]

/-- A state looks fresh with an empty log, on the straight and in normal mode. -/
theorem LiveSession.state_eq_freshState_iff (v : LiveSession) :
    v.state = freshState ↔
      v.log = [] ∧ v.phase.motionState = .movingForward ∧ v.mode = .normal := by
  constructor
  · intro h
    refine ⟨v.lastMotion_eq_none_iff.mp (congrArg SimulatorState.lastMotion h),
      congrArg SimulatorState.motionState h, congrArg SimulatorState.cleaningMode h⟩
  · intro h
    obtain ⟨hlog, hmotionState, hmode⟩ := h
    simp [state, motions, cleans, freshState, hlog, hmotionState, hmode]

/-- A service reports a fresh session exactly if it is undisturbed. -/
theorem getState_eq_freshState_iff (calls : List SimulatorService.Call) :
    (after calls).getState = freshState ↔ Undisturbed calls := by
  have h := after_presents calls
  rw [h.getState]
  cases hv : shown calls with
  | none =>
      have hidle := (h.neverStarted hv).machine
      constructor
      · intro hfresh
        cases congrArg SimulatorState.running hfresh
      · intro hundisturbed
        have hmoving := hundisturbed.motionState
        rw [hidle] at hmoving
        cases hmoving
  | some v =>
      have hshows := h.shows v hv
      rw [report, v.state_eq_freshState_iff, log_eq_nil_iff calls v hv,
        ← hshows.phase.motionState, ← hshows.mode]
      constructor
      · intro hfresh
        exact ⟨hfresh.1, hfresh.2.1, hfresh.2.2⟩
      · intro hundisturbed
        exact ⟨hundisturbed.noTick, hundisturbed.motionState, hundisturbed.cleaningMode⟩

/-! ## Linearizability -/

section Api

open Server

variable {es : List (ServerEvent ApiRequest SimulatorService.Call ℕ)}
  {n : Server SimulatorService ApiRequest (Option SimulatorState) ℕ}

/-- The response to a start tells the state at its second call. -/
theorem start_response (h : Execution api simulator .new es n) (hcomplete : n.Complete)
    {i : ℕ} {t : Ticket ApiRequest (Option SimulatorState)} (ht : n.tickets i = some t)
    {turnStrategy : String} (hstart : t.request = .start turnStrategy) :
    (∃ before rest, es = before ++ .call i .getState :: rest) ∧
      ∀ before rest, es = before ++ .call i .getState :: rest →
        api.respond t.request t.answers =
          stateToJson (after (callsMade before)).getState := by
  have hlength := (Execution.served h).answered i t ht (hcomplete i t ht)
  have hrecorded := (Execution.recorded h).answered i .getState
  rw [hstart] at hlength
  obtain ⟨a, b, hanswers⟩ := List.length_eq_two.mp hlength
  have hcalls : api.calls t.request = [.start turnStrategy, .getState] := by
    rw [hstart]
    rfl
  constructor
  · have hb : Server.Answered api n i .getState b :=
      ⟨t, 1, ht, by simp [hcalls], by simp [hanswers]⟩
    obtain ⟨before, rest, hsplit, _⟩ := (hrecorded b).mp hb
    exact ⟨before, rest, hsplit⟩
  · intro before rest hsplit
    obtain ⟨u, k, hu, hk, ho⟩ := (hrecorded _).mpr ⟨before, rest, hsplit, rfl⟩
    rw [ht] at hu
    cases hu
    have hone : k = 1 := by
      have hlt := (List.getElem?_eq_some_iff.mp hk).1
      rw [hcalls, List.length_cons, List.length_singleton] at hlt
      by_contra hne
      have hzero : k = 0 := by omega
      rw [hzero, hcalls] at hk
      cases hk
    have hstate : b = some (after (callsMade before)).getState := by
      rw [hone, hanswers] at ho
      exact Option.some.inj ho
    rw [hstart, hanswers, hstate]
    rfl

/-- **When the API is linearizable.**  A complete execution of any requests of
any number of clients is linearizable if and only if, whenever the handler of
a start asks for the state, the service is undisturbed. -/
theorem api_linearizable_iff (h : Execution api simulator .new es n) (hcomplete : n.Complete) :
    Linearizable api simulator .new es n ↔
      ∀ before rest i turnStrategy, es = before ++ .call i .getState :: rest →
        .invoke i (.start turnStrategy) ∈ es → Undisturbed (callsMade before) := by
  rw [linearizable_iff api_actsFirst api_alone h hcomplete]
  constructor
  · intro halone before rest i turnStrategy hsplit hinvoke
    obtain ⟨t, ht, hstart⟩ := ((Execution.recorded h).invoked i _).mp hinvoke
    obtain ⟨s, hs⟩ := halone i t ht (by rw [hstart]; exact Nat.succ_ne_self 1)
    have hresponse := (start_response h hcomplete ht hstart).2 before rest hsplit
    rw [hresponse, hstart, start_alone] at hs
    exact (getState_eq_freshState_iff _).mp (stateToJson_injective hs).symm
  · intro hundisturbed i t ht hcalls
    cases hrequest : t.request with
    | start turnStrategy =>
        obtain ⟨⟨before, rest, hsplit⟩, hresponse⟩ := start_response h hcomplete ht hrequest
        have hinvoke := ((Execution.recorded h).invoked i _).mpr ⟨t, ht, hrequest⟩
        have hfresh := (getState_eq_freshState_iff _).mpr
          (hundisturbed before rest i turnStrategy hsplit hinvoke)
        refine ⟨.new, ?_⟩
        rw [start_alone, ← hrequest, hresponse before rest hsplit, hfresh]
    | _ => exact absurd (by rw [hrequest]; rfl) hcalls

/-- One client's tick comes in before another one's start has been answered, but
is not processed before it. -/
def tickOverlapsStart : List (ServerEvent ApiRequest SimulatorService.Call ℕ) :=
  [.invoke 0 (.start "force_right"), .invoke 1 (.tick { frontBlocked := true } 0),
    .call 0 (.start "force_right"), .call 0 .getState,
    .call 1 (.tick { frontBlocked := true } 0), .respond 1, .respond 0]

/-- The theorem for it. -/
theorem api_linearizable_once :
    ∃ n, Execution api simulator .new tickOverlapsStart n ∧
      Linearizable api simulator .new tickOverlapsStart n := by
  obtain ⟨n, hrun⟩ : ∃ n, Execution api simulator .new tickOverlapsStart n :=
    ⟨_, .head (.invoke rfl) (.head (.invoke rfl) (.head (.call rfl rfl) (.head (.call rfl rfl)
      (.head (.call rfl rfl) (.head (.respond rfl rfl rfl) (.head (.respond rfl rfl rfl)
        .nil))))))⟩
  have hcomplete : n.Complete := by
    apply hrun.complete
    intro i r h
    simp only [tickOverlapsStart, List.mem_cons, List.not_mem_nil] at h ⊢
    grind
  refine ⟨n, hrun, (api_linearizable_iff hrun hcomplete).mpr ?_⟩
  intro before rest i turnStrategy hsplit _
  apply (getState_eq_freshState_iff _).mp
  have hat : tickOverlapsStart[before.length]? = some (.call i .getState) := by
    rw [hsplit]
    simp
  have hbefore : before = tickOverlapsStart.take before.length := by
    rw [hsplit]
    simp
  rw [hbefore]
  generalize before.length = k at hat ⊢
  -- the state is asked for in one place only
  rcases k with _ | _ | _ | _ | _ | _ | _ | k <;> simp [tickOverlapsStart] at hat
  rfl

/-- One client starts the service, another one ticks it at an obstacle before
the first has been answered. -/
def startRacesTick : List (ServerEvent ApiRequest SimulatorService.Call ℕ) :=
  [.invoke 0 (.start "prefer_left"), .call 0 (.start "prefer_left"),
    .invoke 1 (.tick { frontBlocked := true } 0), .call 1 (.tick { frontBlocked := true } 0),
    .respond 1, .call 0 .getState, .respond 0]

/-- **The API is not linearizable.**  The start is answered with the state the
tick has left, `Stopping`, which no start alone is answered with. -/
theorem api_not_linearizable :
    ∃ n, Execution api simulator .new startRacesTick n ∧ n.Complete ∧
      ¬ Linearizable api simulator .new startRacesTick n := by
  obtain ⟨n, hrun⟩ : ∃ n, Execution api simulator .new startRacesTick n :=
    ⟨_, .head (.invoke rfl) (.head (.call rfl rfl) (.head (.invoke rfl) (.head (.call rfl rfl)
      (.head (.respond rfl rfl rfl) (.head (.call rfl rfl) (.head (.respond rfl rfl rfl)
        .nil))))))⟩
  have hcomplete : n.Complete := by
    apply hrun.complete
    intro i r h
    simp only [startRacesTick, List.mem_cons, List.not_mem_nil] at h ⊢
    grind
  refine ⟨n, hrun, hcomplete, ?_⟩
  intro h
  obtain ⟨order, horder⟩ := h
  obtain ⟨t, ht, hstart⟩ := (hrun.recorded.invoked 0 (.start "prefer_left")).mp (by decide)
  obtain ⟨s, hs⟩ := horder.response_eq ht
  have hresponse := (start_response hrun hcomplete ht hstart).2
    [.invoke 0 (.start "prefer_left"), .call 0 (.start "prefer_left"),
      .invoke 1 (.tick { frontBlocked := true } 0), .call 1 (.tick { frontBlocked := true } 0),
      .respond 1] [.respond 0] rfl
  rw [hresponse, hstart, start_alone] at hs
  exact absurd (stateToJson_injective hs) (by decide)

end Api

end RvcControl
