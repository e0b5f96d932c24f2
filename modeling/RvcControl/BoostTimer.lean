import RvcControl.History
import RvcControl.MachineTimer

/-!
# The boost timer and the cleaning mode

The machine changes its cleaning mode in six places; the timer is armed and
cancelled by the service, which sees the emitted command only.  From a new
service on, whatever order of starts, ticks and advances follows, the two stay
in step: the timer runs exactly in boost mode, and then it shows the time
since the last `SetBoost` command.

For the time this needs the range of the machine's integers.  `Advance` adds
without any check, so the elapsed time is that sum only as long as no sum on
the way to it has left the range; that the timer runs, for how long, and when
it is cancelled does not depend on it.
-/

namespace RvcControl

open History

variable {overflow : Int → Milliseconds} {ρ σ : Type*}

/-- The time that passes during some events. -/
def elapsed (es : List (SessionEvent ρ σ)) : Int :=
  (es.map SessionEvent.elapse).sum

/-- The sums of the advances, one after the other, are 64-bit integers. -/
def SumsInRange (es : List (SessionEvent ρ σ)) : Prop :=
  ∀ n, InInt64 (elapsed (es.take n))

/-- The newest advance is added. -/
theorem elapsed_concat (es : List (SessionEvent ρ σ)) (e : SessionEvent ρ σ) :
    elapsed (es ++ [e]) = elapsed es + e.elapse := by
  simp [elapsed]

/-- The last sum is one of them. -/
theorem SumsInRange.total {es : List (SessionEvent ρ σ)} (h : SumsInRange es) :
    InInt64 (elapsed es) := by
  have hall := h es.length
  rwa [List.take_length] at hall

/-- The sums before the newest event are among them. -/
theorem SumsInRange.of_concat {es : List (SessionEvent ρ σ)} {e : SessionEvent ρ σ}
    (h : SumsInRange (es ++ [e])) : SumsInRange es := by
  intro n
  by_cases hn : n ≤ es.length
  · have htake := h n
    rwa [List.take_append_of_le_length hn] at htake
  · have hall := h es.length
    rw [List.take_left] at hall
    rwa [List.take_of_length_le (by omega)]

variable [ISensorReader ρ] [ITurnStrategy σ]

/-- After the events `before` from `s`, the event `e` issues `SetBoost`. -/
def IssuesBoost (s : Session64 overflow ρ σ) (before : List (SessionEvent ρ σ))
    (e : SessionEvent ρ σ) : Prop :=
  CleaningCommand.setBoost ∈ (session64.out (session64.run s before) e).cleans

/-- The event `e` of the history `es` was the last to issue `SetBoost`, and
`after` is what has happened since. -/
def LastBoost (s : Session64 overflow ρ σ) (es before : List (SessionEvent ρ σ))
    (e : SessionEvent ρ σ) (after : List (SessionEvent ρ σ)) : Prop :=
  SinceAt (IssuesBoost s) (fun mid x => ¬ IssuesBoost s mid x) es before e after

/-- Time may pass without a command. -/
theorem not_issuesBoost_advance (s : Session64 overflow ρ σ) (before : List (SessionEvent ρ σ))
    (delta : Int) : ¬ IssuesBoost s before (.advance delta) := by
  simp [IssuesBoost, session64_out, Session64.issued, Session64.handle]

/-- Before the first start nothing has happened to the machine or the timer. -/
structure Unstarted (s : Session64 overflow ρ σ) : Prop where
  running : s.running = false
  stateMachine : s.stateMachine = {}
  timer : s.timer = {}

omit [ISensorReader ρ] [ITurnStrategy σ] in
/-- A timer at rest stays at rest. -/
theorem FakeTimer64.advance_rest (delta : Int) :
    ({} : FakeTimer64 overflow).advance delta = {} := rfl

/-- The session goes on unstarted until it is started. -/
theorem Unstarted.handle {s : Session64 overflow ρ σ} (h : Unstarted s) (e : SessionEvent ρ σ) :
    e = .start ∨ Unstarted (s.handle e) := by
  cases e with
  | start => exact Or.inl rfl
  | tick reader strategy =>
      right
      have hsame : s.handle (.tick reader strategy) =
          { s with sensorReader := reader, turnStrategy := strategy } :=
        CleaningService.tick_of_not_running _ h.running
      rw [hsame]
      exact ⟨h.running, h.stateMachine, h.timer⟩
  | advance delta =>
      right
      refine ⟨h.running, h.stateMachine, ?_⟩
      show s.timer.advance delta = {}
      rw [h.timer, FakeTimer64.advance_rest]

/-- The timer of a session in boost mode was armed by the last `SetBoost`, and
shows the time since, if the sums on the way to it are in the range. -/
structure ArmedByLastBoost (start : Session64 overflow ρ σ) (es : List (SessionEvent ρ σ))
    (s : Session64 overflow ρ σ) : Prop where
  active : s.timer.active = true
  duration : s.timer.duration = s.boostDuration
  elapsed : ∃ before e after, LastBoost start es before e after ∧
    (SumsInRange after → s.timer.elapsed.value = elapsed after)

/-- A started session `s` after the events `es` from `start`. -/
structure InStep (start : Session64 overflow ρ σ) (es : List (SessionEvent ρ σ))
    (s : Session64 overflow ρ σ) : Prop where
  running : s.running = true
  phase : ∃ p, InPhase s.stateMachine p
  boost : s.stateMachine.cleaningMode = .boost → ArmedByLastBoost start es s
  rest : s.stateMachine.cleaningMode ≠ .boost → s.timer = {}

/-- Starting, whatever the service did before. -/
theorem start_inStep (start : Session64 overflow ρ σ) (es : List (SessionEvent ρ σ))
    (s : Session64 overflow ρ σ) : InStep start es s.start where
  running := rfl
  phase := ⟨_, s.stateMachine.start_inPhase⟩
  boost := nofun
  rest _ := rfl

section Step

variable {start : Session64 overflow ρ σ} {es : List (SessionEvent ρ σ)}

/-- A tick arms the timer or cancels it, and says so. -/
theorem InStep.tick (h : InStep start es (session64.run start es)) (reader : ρ) (strategy : σ) :
    InStep start (es ++ [.tick reader strategy])
      ((session64.run start es).handle (.tick reader strategy)) := by
  obtain ⟨p, hphase⟩ := h.phase
  let ready : Session64 overflow ρ σ :=
    { session64.run start es with sensorReader := reader, turnStrategy := strategy }
  have hready : InPhase ready.stateMachine p := hphase
  obtain ⟨htick, hphase', hmode⟩ := hready.service_tick h.running rfl rfl
  have hissues : ready.tickResult.1.cleaningMode = .boost →
      IssuesBoost start es (.tick reader strategy) := by
    intro hboost
    show _ ∈ List.drop _ (CleaningService.tick ready).cleaningActuator.history
    rw [htick, ← hmode, hboost]
    simp [ready, CleaningMode.command]
  show InStep start _ (CleaningService.tick ready)
  rw [htick, ← hmode]
  refine ⟨h.running, ⟨_, hphase'⟩, ?_, ?_⟩
  · intro hboost
    have hboost : ready.tickResult.1.cleaningMode = .boost := hboost
    rw [hboost]
    exact ⟨rfl, rfl, es, _, [], SinceAt.now (hissues hboost), fun _ => rfl⟩
  · intro hrest
    exact if_neg hrest

/-- Time that passes counts for a running boost. -/
theorem InStep.advance (h : InStep start es (session64.run start es)) (delta : Int) :
    InStep start (es ++ [.advance delta])
      ((session64.run start es).handle (.advance delta)) := by
  refine ⟨h.running, h.phase, ?_, ?_⟩
  · intro hboost
    obtain ⟨hactive, hduration, before, e, after, hlast, helapsed⟩ := h.boost hboost
    have hadvanced : (session64.run start es).timer.advance delta =
        { (session64.run start es).timer with
          elapsed := (session64.run start es).timer.elapsed.add overflow delta } := if_pos hactive
    have hlast' : LastBoost start (es ++ [.advance delta]) before e (after ++ [.advance delta]) :=
      SinceAt.extend hlast (not_issuesBoost_advance start es delta)
    refine ⟨?_, ?_, before, e, _, hlast', ?_⟩
    · show ((session64.run start es).timer.advance delta).active = true
      rw [hadvanced]
      exact hactive
    · show ((session64.run start es).timer.advance delta).duration = _
      rw [hadvanced]
      exact hduration
    · intro hrange
      have hbefore := helapsed hrange.of_concat
      have hsum := hrange.total
      rw [elapsed_concat, ← hbefore] at hsum
      show ((session64.run start es).timer.advance delta).elapsed.value = _
      rw [hadvanced, elapsed_concat, ← hbefore]
      exact Milliseconds.add_exact overflow hsum
  · intro hrest
    show (session64.run start es).timer.advance delta = {}
    rw [h.rest hrest, FakeTimer64.advance_rest]

end Step

/-- **Every reachable state.**  From a new service on, a session is either not
started yet, or its timer and its cleaning mode are in step. -/
theorem session_story {start : Session64 overflow ρ σ} (hnew : Unstarted start)
    (es : List (SessionEvent ρ σ)) :
    Unstarted (session64.run start es) ∨ InStep start es (session64.run start es) := by
  induction es using List.reverseRecOn with
  | nil => exact Or.inl hnew
  | append_singleton es e ih =>
      rw [Mealy.run_concat]
      rcases ih with h | h
      · rcases h.handle e with rfl | h'
        · exact Or.inr (start_inStep _ _ _)
        · exact Or.inl h'
      · right
        cases e with
        | start => exact start_inStep _ _ _
        | tick reader strategy => exact h.tick reader strategy
        | advance delta => exact h.advance delta

/-- The boost mode and the timer say the same. -/
theorem armed_or_at_rest {start : Session64 overflow ρ σ} (hnew : Unstarted start)
    (es : List (SessionEvent ρ σ)) :
    let s := session64.run start es
    (s.stateMachine.cleaningMode = .boost ∧ ArmedByLastBoost start es s) ∨
      (s.stateMachine.cleaningMode ≠ .boost ∧ s.timer = {}) := by
  intro s
  rcases session_story hnew es with h | h
  · right
    refine ⟨?_, h.timer⟩
    rw [h.stateMachine]
    nofun
  · by_cases hmode : s.stateMachine.cleaningMode = .boost
    · exact Or.inl ⟨hmode, h.boost hmode⟩
    · exact Or.inr ⟨hmode, h.rest hmode⟩

/-- No event changes the boost duration. -/
theorem Session64.handle_boostDuration (s : Session64 overflow ρ σ) (e : SessionEvent ρ σ) :
    (s.handle e).boostDuration = s.boostDuration := by
  cases e with
  | start => rfl
  | tick reader strategy => exact CleaningService.tick_boostDuration _
  | advance delta => rfl

theorem session64_run_boostDuration (s : Session64 overflow ρ σ) (es : List (SessionEvent ρ σ)) :
    (session64.run s es).boostDuration = s.boostDuration :=
  session64.run_invariant (P := fun t => t.boostDuration = s.boostDuration) rfl
    (fun t e h => (t.handle_boostDuration e).trans h) es

/-- **The timer and the cleaning mode stay in step.**  From a new service on and
over any events, the timer is active exactly in boost mode; then it has the
duration of the service and, as long as no sum on the way has left the 64-bit
range, shows the time since the last `SetBoost`; otherwise it stands at zero,
and it never reports a boost expired that is none. -/
theorem timer_in_step (overflow : Int → Milliseconds) (reader : ρ)
    (motionActuator : InMemoryMotionActuator) (cleaningActuator : InMemoryCleaningActuator)
    (strategy : σ) (duration : Int) (es : List (SessionEvent ρ σ)) :
    let new : Session64 overflow ρ σ :=
      .new reader motionActuator cleaningActuator strategy duration
    let s := session64.run new es
    (s.timer.active = true ↔ s.stateMachine.cleaningMode = .boost) ∧
    (s.timer.active = true → s.timer.duration = duration ∧
      ∃ before e after, LastBoost new es before e after ∧
        (SumsInRange after → s.timer.elapsed.value = elapsed after)) ∧
    (s.timer.active = false → s.timer.elapsed.value = 0 ∧ s.timer.duration = 0) ∧
    (∀ sensors, (s.tickContext sensors).boostTimerExpired = true →
      s.stateMachine.cleaningMode = .boost) := by
  intro new s
  have hduration : s.boostDuration = duration := session64_run_boostDuration new es
  have hnew : Unstarted new := ⟨rfl, rfl, rfl⟩
  rcases armed_or_at_rest hnew es with ⟨hmode, h⟩ | ⟨hmode, htimer⟩
  · have hactive : s.timer.active = true := h.active
    refine ⟨iff_of_true hactive hmode, fun _ => ⟨h.duration.trans hduration, h.elapsed⟩, ?_,
      fun _ _ => hmode⟩
    intro hidle
    rw [hactive] at hidle
    cases hidle
  · have htimer : s.timer = {} := htimer
    have hactive : s.timer.active = false := by rw [htimer]
    refine ⟨iff_of_false (by simp [hactive]) hmode, by simp [hactive], ?_, ?_⟩
    · intro _
      rw [htimer]
      exact ⟨rfl, rfl⟩
    · intro sensors hexpired
      have hexpired : ITimer.isBoostExpired s.timer = true := hexpired
      rw [htimer] at hexpired
      cases hexpired

/-- **Out of the range the time is lost.**  After a dusty tick and two of the
longest advances the timer of a machine that goes round shows -2 ms. -/
theorem timer_out_of_range :
    let new : Session64 Milliseconds.wrap ReplayReader PreferLeftTurnStrategy :=
      .new .new {} {} {} 3000
    let dust : SessionEvent ReplayReader PreferLeftTurnStrategy :=
      .tick (.showing { dustDetected := true }) {}
    let after : List (SessionEvent ReplayReader PreferLeftTurnStrategy) :=
      [.advance (2 ^ 63 - 1), .advance (2 ^ 63 - 1)]
    let s := session64.run new ([.start, dust] ++ after)
    LastBoost new ([.start, dust] ++ after) [.start] dust after ∧
      s.timer.active = true ∧ s.timer.elapsed.value = -2 ∧ elapsed after = 2 ^ 64 - 2 := by
  intro new dust after s
  have hissues : IssuesBoost new [.start] dust := by
    show CleaningCommand.setBoost ∈ [CleaningCommand.setBoost]
    exact List.mem_singleton.mpr rfl
  have hlast : LastBoost new ([.start] ++ [dust] ++ [.advance _] ++ [.advance _]) [.start] dust _ :=
    ((SinceAt.now hissues).extend (not_issuesBoost_advance new _ (2 ^ 63 - 1))).extend
      (not_issuesBoost_advance new _ (2 ^ 63 - 1))
  exact ⟨hlast, rfl, rfl, rfl⟩

end RvcControl
