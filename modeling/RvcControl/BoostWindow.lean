import Mathlib.Algebra.Order.Group.Int
import RvcControl.BoostTimer

/-!
# When a boost begins and when it ends

A boost should begin with every detection of dust and last for the boost
duration after the last one.  The machine holds a boost by repeating
`SetBoost`, and the service arms the timer afresh on every `SetBoost`.  So the
clock a tick looks at shows the time since the *previous tick*
(`Tracked.clock`), and three things follow, each stated here with its exact
condition:

* a boost ends only if one single pause between two ticks is as long as the
  boost duration, or a turn ends (`boost_ends_on_time_iff`);
* a boost within its time is kept exactly as long as no turn ends
  (`boost_kept_iff`);
* dust is answered with a boost, except on the straight in an expired boost
  (`dust_boosts_iff`).
-/

namespace RvcControl

open History

variable {ρ σ : Type*} [ISensorReader ρ] [ITurnStrategy σ]

/-- The time since the last tick or start. -/
def sinceTick (es : List (SessionEvent ρ σ)) : Int :=
  sumSince (fun e => e.isTick || e.isStart) SessionEvent.elapse es

/-- The time since the last tick that detected dust, or since the start if
there was none. -/
def sinceDust (es : List (SessionEvent ρ σ)) : Int :=
  sumSince (fun e => e.detectsDust || e.isStart) SessionEvent.elapse es

/-- The tick that reads `reader` ends a turn. -/
def LeavesTurn (s : Session ρ σ) (reader : ρ) : Prop :=
  s.stateMachine.motionState = .turning ∧ (sensorsRead reader).frontBlocked = false

/-- The tick that reads `reader` drives straight on in an expired boost. -/
def DrivesOnExpired (s : Session ρ σ) (reader : ρ) : Prop :=
  s.stateMachine.motionState = .movingForward ∧ (sensorsRead reader).frontBlocked = false ∧
    s.stateMachine.cleaningMode = .boost ∧ s.timer.isBoostExpired = true

instance (s : Session ρ σ) (reader : ρ) : Decidable (LeavesTurn s reader) := by
  unfold LeavesTurn; infer_instance

instance (s : Session ρ σ) (reader : ρ) : Decidable (DrivesOnExpired s reader) := by
  unfold DrivesOnExpired; infer_instance

section OneTick

variable {s : Session ρ σ} {c : Controller}

omit [ITurnStrategy σ] in
/-- A turn is left as the controller leaves it. -/
theorem Refines.leavesTurn_iff (h : Refines s c) (reader : ρ) :
    LeavesTurn s reader ↔ c.phase.leavesTurn (sensorsRead reader) := by
  unfold LeavesTurn MotionPhase.leavesTurn
  rw [h.phase.motionState]
  cases c.phase <;> simp [MotionPhase.motionState]

omit [ISensorReader ρ] [ITurnStrategy σ] in
/-- The timer expires when the suction does. -/
theorem Refines.isBoostExpired (h : Refines s c) :
    s.timer.isBoostExpired = c.suction.expired s.boostDuration := by
  rw [h.timer]
  exact Suction.isBoostExpired_timer _ _

/-- A tick issues one cleaning command, the one that names the new mode. -/
theorem Refines.cleans_eq (h : Refines s c) (reader : ρ) (strategy : σ) :
    (session.out s (.tick reader strategy)).cleans =
      [(s.handle (.tick reader strategy)).stateMachine.cleaningMode.command] := by
  rw [h.issued, controllers_out_tick, (h.handle _).mode]
  rfl

/-- A tick sets the mode that follows from phase, sensors and timer. -/
theorem Refines.mode_tick (h : Refines s c) (reader : ρ) (strategy : σ) :
    (s.handle (.tick reader strategy)).stateMachine.cleaningMode =
      s.stateMachine.cleaningMode.next c.phase (sensorsRead reader)
        s.timer.isBoostExpired := by
  rw [(h.handle _).mode, h.mode, h.isBoostExpired]
  simp [Controller.handle, Controller.tick]

/-- With dust the mode is a boost, except on the straight in an expired one. -/
theorem Refines.boosts_of_dust (h : Refines s c) {reader : ρ} (strategy : σ)
    (hdust : (sensorsRead reader).dustDetected = true) :
    (s.handle (.tick reader strategy)).stateMachine.cleaningMode = .boost ↔
      ¬ DrivesOnExpired s reader := by
  rw [h.mode_tick, CleaningMode.next_eq_boost_of_dust hdust, DrivesOnExpired,
    h.phase.motionState]
  cases c.phase <;> simp [MotionPhase.motionState]

/-- Without dust a boost must run already, and neither be over nor at the end of
a turn. -/
theorem Refines.boosts_of_clear (h : Refines s c) {reader : ρ} (strategy : σ)
    (hclear : (sensorsRead reader).dustDetected = false) :
    (s.handle (.tick reader strategy)).stateMachine.cleaningMode = .boost ↔
      s.stateMachine.cleaningMode = .boost ∧ s.timer.isBoostExpired = false ∧
        ¬ LeavesTurn s reader := by
  rw [h.mode_tick, CleaningMode.next_eq_boost_of_clear hclear, h.leavesTurn_iff]

end OneTick

/-- A started session after the events `es`: it runs, and its timer shows the
time since the last tick. -/
structure Tracked (s : Session ρ σ) (es : List (SessionEvent ρ σ)) (t : Session ρ σ)
    (c : Controller) : Prop where
  refines : Refines t c
  duration : t.boostDuration = s.boostDuration
  clock : ∀ elapsed, c.suction = .boost elapsed → elapsed = sinceTick es

/-- The clock of the controller is kept by every event. -/
theorem Tracked.handle {s t : Session ρ σ} {es : List (SessionEvent ρ σ)} {c : Controller}
    (h : Tracked s es t c) (e : SessionEvent ρ σ) :
    Tracked s (es ++ [e]) (t.handle e) (c.handle t.boostDuration e) := by
  refine ⟨h.refines.handle e, (t.handle_boostDuration e).trans h.duration, ?_⟩
  intro elapsed helapsed
  unfold sinceTick
  rw [sumSince_concat]
  cases e with
  | start => cases helapsed
  | tick reader strategy =>
      exact (Suction.ofMode_eq_boost.mp helapsed).2
  | advance delta =>
      obtain ⟨before, hsuction, rfl⟩ := Suction.advance_eq_boost.mp helapsed
      rw [h.clock before hsuction]
      rfl

/-- **The boost clock is a tick clock.** -/
theorem exists_tracked (s : Session ρ σ) (es : List (SessionEvent ρ σ)) :
    ∃ c, Tracked s es (session.run s.start es) c := by
  apply session.run_history (P := fun es t => ∃ c, Tracked s es t c)
  · refine ⟨.started, start_refines s, rfl, ?_⟩
    intro elapsed helapsed
    cases helapsed
  · intro es t e h
    obtain ⟨c, hc⟩ := h
    exact ⟨_, hc.handle e⟩

omit [ISensorReader ρ] [ITurnStrategy σ] in
/-- In a boost the timer has expired once the time since the last tick reaches
the boost duration. -/
theorem Tracked.not_expired_iff {s t : Session ρ σ} {es : List (SessionEvent ρ σ)}
    {c : Controller} (h : Tracked s es t c) (hboost : t.stateMachine.cleaningMode = .boost) :
    t.timer.isBoostExpired = false ↔ sinceTick es < s.boostDuration := by
  rw [h.refines.isBoostExpired, h.duration]
  rw [h.refines.mode] at hboost
  obtain ⟨elapsed, hsuction⟩ := Suction.mode_eq_boost.mp hboost
  simp [hsuction, Suction.expired, h.clock elapsed hsuction]

/-! ## Dust -/

/-- **Dust begins a boost**, with a fresh timer, except on the straight in an
expired boost. -/
theorem dust_boosts_iff (s : Session ρ σ) (es : List (SessionEvent ρ σ)) (reader : ρ)
    (strategy : σ) (hdust : (sensorsRead reader).dustDetected = true) :
    let t := session.run s.start es
    let t' := session.next t (.tick reader strategy)
    ((session.out t (.tick reader strategy)).cleans = [.setBoost] ∧
        t'.stateMachine.cleaningMode = .boost ∧
        t'.timer = { active := true, elapsed := 0, duration := s.boostDuration }) ↔
      ¬ DrivesOnExpired t reader := by
  intro t t'
  obtain ⟨c, hc⟩ := exists_tracked s es
  have hmode : t'.stateMachine.cleaningMode = .boost ↔ ¬ DrivesOnExpired t reader :=
    hc.refines.boosts_of_dust strategy hdust
  constructor
  · intro h
    exact hmode.mp h.2.1
  · intro h
    have hboost := hmode.mpr h
    have hcleans := hc.refines.cleans_eq reader strategy
    refine ⟨hcleans.trans ?_, hboost, ?_⟩
    · exact congrArg (fun mode => [CleaningMode.command mode]) hboost
    · have hc' := hc.handle (.tick reader strategy)
      obtain ⟨elapsed, hsuction⟩ :=
        Suction.mode_eq_boost.mp (hc'.refines.mode.symm.trans hboost)
      have hzero : elapsed = 0 := (Suction.ofMode_eq_boost.mp hsuction).2
      have htimer := hc'.refines.timer
      rw [hc'.duration, hsuction, hzero] at htimer
      exact htimer

/-- The theorem for dust under a turning robot, in a boost that has run for a
second. -/
theorem dust_boosts_while_turning :
    let dust : ReplayReader := .showing { frontBlocked := true, dustDetected := true }
    let es := [.tick dust {}, .advance 1000, .tick dust {}, .advance 1000]
    let t := session.run cliService.start es
    t.stateMachine.motionState = .turning ∧ t.timer.elapsed = 1000 ∧
      (session.out t (.tick dust {})).cleans = [.setBoost] ∧
      (session.next t (.tick dust {})).timer.elapsed = 0 := by
  intro dust es t
  have hboosts := (dust_boosts_iff cliService es dust {} rfl).mpr (by decide)
  exact ⟨by decide, by decide, hboosts.1, congrArg FakeTimer.elapsed hboosts.2.2⟩

/-- Dust, three seconds, and dust again: the second is answered with
`SetNormal`. -/
theorem dust_overlooked_in_expired_boost :
    let es := [.tick (.showing { dustDetected := true }) {}, .advance 3000]
    let dust := .tick (.showing { dustDetected := true }) {}
    let t := session.run cliService.start es
    (session.out t dust).cleans = [.setNormal] ∧
      (session.next t dust).stateMachine.cleaningMode = .normal ∧
      (session.next t dust).timer.active = false := by
  decide

/-! ## The end of a boost -/

/-- A tick with dust that is answered. -/
def Answered (s : Session ρ σ) (before : List (SessionEvent ρ σ)) :
    SessionEvent ρ σ → Prop
  | .tick reader _ =>
      (sensorsRead reader).dustDetected = true ∧ ¬ DrivesOnExpired (session.run s before) reader
  | _ => False

/-- An event without dust that lets a boost go on: no start, and no tick that
comes a boost duration after the one before it or ends a turn. -/
def Carries (s : Session ρ σ) (before : List (SessionEvent ρ σ)) :
    SessionEvent ρ σ → Prop
  | .start => False
  | .tick reader _ =>
      (sensorsRead reader).dustDetected = false ∧ sinceTick before < s.boostDuration ∧
        ¬ LeavesTurn (session.run s before) reader
  | .advance _ => True

/-- The boost of the last detection of dust has been carried on up to now. -/
def BoostCarried (s : Session ρ σ) (es : List (SessionEvent ρ σ)) : Prop :=
  Since (Answered s) (Carries s) es

/-- The boost mode is exactly a boost carried on since some dust. -/
theorem mode_boost_iff (s : Session ρ σ) (es : List (SessionEvent ρ σ)) :
    (session.run s.start es).stateMachine.cleaningMode = .boost ↔ BoostCarried s.start es := by
  induction es using List.reverseRecOn with
  | nil =>
      have hnormal : (session.run s.start ([] : List (SessionEvent ρ σ))).stateMachine.cleaningMode
          ≠ .boost := nofun
      exact iff_of_false hnormal (since_nil _ _)
  | append_singleton es e ih =>
      obtain ⟨c, hc⟩ := exists_tracked s es
      rw [BoostCarried, since_concat, ← BoostCarried, ← ih, Mealy.run_concat]
      cases e with
      | start => simp [Answered, Carries, Session.handle, CleaningService.start,
          CleaningStateMachine.start]
      | tick reader strategy =>
          cases hdust : (sensorsRead reader).dustDetected with
          | true =>
              simp only [session_next, hc.refines.boosts_of_dust strategy hdust]
              simp [Answered, Carries, hdust]
          | false =>
              simp only [session_next, hc.refines.boosts_of_clear strategy hdust]
              have hduration : s.start.boostDuration = s.boostDuration := rfl
              simp only [Answered, Carries, hdust, hduration]
              constructor
              · intro h
                exact Or.inr ⟨h.1, trivial, (hc.not_expired_iff h.1).mp h.2.1, h.2.2⟩
              · intro h
                rcases h with h | ⟨hboost, _, htime, hturn⟩
                · exact absurd h.1 (by simp)
                · exact ⟨hboost, (hc.not_expired_iff hboost).mpr htime, hturn⟩
      | advance delta => simp [Answered, Carries, Session.handle]

/-- After the events `es` comes a tick without dust, and the time since the
last dust is at least the boost duration. -/
structure Overdue (s : Session ρ σ) (es : List (SessionEvent ρ σ)) (reader : ρ) : Prop where
  clear : (sensorsRead reader).dustDetected = false
  elapsed : s.boostDuration ≤ sinceDust es

/-- A boost that is overdue at a tick is over after it. -/
def BoostEndsOnTime (s : Session ρ σ) (es : List (SessionEvent ρ σ)) (reader : ρ)
    (strategy : σ) : Prop :=
  let t := session.run s.start es
  Overdue s es reader →
    CleaningCommand.setBoost ∉ (session.out t (.tick reader strategy)).cleans ∧
      (session.next t (.tick reader strategy)).stateMachine.cleaningMode ≠ .boost

/-- **A boost ends on time** exactly if it has not been carried on past its
time: by ticks closer together than the boost duration, and through no end of
a turn. -/
theorem boost_ends_on_time_iff (s : Session ρ σ) (es : List (SessionEvent ρ σ)) (reader : ρ)
    (strategy : σ) :
    BoostEndsOnTime s es reader strategy ↔
      ¬ (Overdue s es reader ∧ BoostCarried s.start (es ++ [.tick reader strategy])) := by
  obtain ⟨c, hc⟩ := exists_tracked s es
  have hmode := mode_boost_iff s (es ++ [.tick reader strategy])
  rw [Mealy.run_concat] at hmode
  have hcleans := hc.refines.cleans_eq reader strategy
  have hissued : CleaningCommand.setBoost ∈
      (session.out (session.run s.start es) (.tick reader strategy)).cleans ↔
      BoostCarried s.start (es ++ [.tick reader strategy]) := by
    rw [hcleans, List.mem_singleton, ← hmode]
    exact ⟨fun hb => (@CleaningMode.command_injective .boost _ hb).symm,
      fun hb => (congrArg CleaningMode.command hb).symm⟩
  simp only [BoostEndsOnTime, hissued, ne_eq, hmode, and_self, not_and]

/-- Dust, and then a tick every two seconds: the boost of three seconds is
still on after four. -/
theorem boost_outlasts_its_time :
    let es := [.tick (.showing { dustDetected := true }) {}, .advance 2000,
      .tick (.showing {}) {}, .advance 2000]
    (∀ e ∈ es, 0 ≤ e.elapse) ∧ ¬ BoostEndsOnTime cliService es (.showing {}) {} := by
  intro es
  refine ⟨by decide, ?_⟩
  intro h
  have hover := h ⟨by decide, by decide⟩
  exact absurd hover (by decide)

/-! ## A boost within its time -/

/-- The tick after `es` detects dust and is answered; then come events without
dust, without a start and with no time running backwards, whose total time
falls short of the boost duration; then a tick without dust. -/
structure WithinBoost (s : Session ρ σ) (es : List (SessionEvent ρ σ)) (reader : ρ)
    (strategy : σ) (mid : List (SessionEvent ρ σ)) (reader' : ρ) : Prop where
  dust : (sensorsRead reader).dustDetected = true
  answered :
    (session.out (session.run s.start es) (.tick reader strategy)).cleans = [.setBoost]
  quiet : ∀ e ∈ mid, e.detectsDust = false
  running : ∀ e ∈ mid, e.isStart = false
  forward : ∀ e ∈ mid, 0 ≤ e.elapse
  short : elapsed mid < s.boostDuration
  clear : (sensorsRead reader').dustDetected = false

/-- The event is a tick that ends a turn. -/
def EndsTurn (s : Session ρ σ) : SessionEvent ρ σ → Prop
  | .tick reader _ => LeavesTurn s reader
  | _ => False

/-- Through events without dust and start, in less than the boost duration, a
boost is kept exactly if no turn ends. -/
theorem boost_kept_through (s : Session ρ σ) {before : List (SessionEvent ρ σ)}
    (hboost : (session.run s.start before).stateMachine.cleaningMode = .boost)
    (hzero : sinceTick before = 0) (mid : List (SessionEvent ρ σ))
    (hquiet : ∀ e ∈ mid, e.detectsDust = false) (hrunning : ∀ e ∈ mid, e.isStart = false)
    (hforward : ∀ e ∈ mid, 0 ≤ e.elapse) (hshort : elapsed mid < s.boostDuration) :
    (session.run s.start (before ++ mid)).stateMachine.cleaningMode = .boost ↔
      Historically (fun a e => ¬ EndsTurn (session.run s.start (before ++ a)) e) mid := by
  induction mid using List.reverseRecOn with
  | nil => simpa [hboost] using historically_nil _
  | append_singleton mid e ih =>
      have hquiet' : ∀ x ∈ mid, x.detectsDust = false := fun x hx => hquiet x (by simp [hx])
      have hrunning' : ∀ x ∈ mid, x.isStart = false := fun x hx => hrunning x (by simp [hx])
      have hforward' : ∀ x ∈ mid, 0 ≤ x.elapse := fun x hx => hforward x (by simp [hx])
      have he : 0 ≤ e.elapse := hforward e (by simp)
      have hshort' : elapsed mid < s.boostDuration := by
        have hsum := elapsed_concat mid e
        omega
      have hclock : sinceTick (before ++ mid) < s.boostDuration := by
        have hle : sinceTick (before ++ mid) ≤ elapsed mid :=
          sumSince_append_le hzero hforward'
        omega
      obtain ⟨c, hc⟩ := exists_tracked s (before ++ mid)
      rw [historically_concat, ← ih hquiet' hrunning' hforward' hshort',
        ← List.append_assoc, Mealy.run_concat]
      cases e with
      | start => exact absurd (hrunning .start (by simp)) (by simp [SessionEvent.isStart])
      | tick reader strategy =>
          have hclear : (sensorsRead reader).dustDetected = false :=
            hquiet (.tick reader strategy) (by simp)
          simp only [session_next, hc.refines.boosts_of_clear strategy hclear, EndsTurn]
          constructor
          · intro h
            exact ⟨h.1, h.2.2⟩
          · intro h
            exact ⟨h.1, (hc.not_expired_iff h.1).mpr hclock, h.2⟩
      | advance delta => simp [Session.handle, EndsTurn]

/-- **A boost is not cut short** exactly if no turn ends within its time. -/
theorem boost_kept_iff {s : Session ρ σ} {es mid : List (SessionEvent ρ σ)}
    {reader reader' : ρ} {strategy : σ} (h : WithinBoost s es reader strategy mid reader')
    (strategy' : σ) :
    let before := es ++ [.tick reader strategy]
    let t := session.run s.start (before ++ mid)
    ((session.out t (.tick reader' strategy')).cleans = [.setBoost] ∧
        (session.next t (.tick reader' strategy')).stateMachine.cleaningMode = .boost) ↔
      Historically (fun a e => ¬ EndsTurn (session.run s.start (before ++ a)) e)
        (mid ++ [.tick reader' strategy']) := by
  intro before t
  obtain ⟨c, hc⟩ := exists_tracked s es
  obtain ⟨c', hc'⟩ := exists_tracked s (before ++ mid)
  have hboost : (session.run s.start before).stateMachine.cleaningMode = .boost := by
    have hcleans := (hc.refines.cleans_eq reader strategy).symm.trans h.answered
    rw [Mealy.run_concat]
    exact CleaningMode.command_injective (List.singleton_inj.mp hcleans)
  have hzero : sinceTick before = 0 := by
    rw [sinceTick, sumSince_concat]
    rfl
  have hlast : (SessionEvent.tick reader' strategy').detectsDust = false := h.clear
  have hkept := boost_kept_through s hboost hzero (mid ++ [.tick reader' strategy'])
    (by simpa [or_imp, forall_and, hlast] using h.quiet)
    (by simpa [or_imp, forall_and, SessionEvent.isStart] using h.running)
    (by simpa [or_imp, forall_and, SessionEvent.elapse] using h.forward)
    (by simpa [elapsed, SessionEvent.elapse] using h.short)
  rw [← hkept, ← List.append_assoc, Mealy.run_concat]
  have hcleans := hc'.refines.cleans_eq reader' strategy'
  constructor
  · intro hout
    exact hout.2
  · intro hmode
    refine ⟨hcleans.trans ?_, hmode⟩
    exact congrArg (fun mode => [CleaningMode.command mode]) hmode

/-- The theorem for a tick on the straight, two seconds after the dust. -/
theorem boost_kept_on_the_straight :
    (session.next (session.run cliService.start
        ([] ++ [.tick (.showing { dustDetected := true }) {}] ++ [.advance 2000]))
      (.tick (.showing {}) {})).stateMachine.cleaningMode = .boost := by
  have h : WithinBoost cliService [] (.showing { dustDetected := true }) {} [.advance 2000]
      (.showing {}) := by
    constructor <;> decide
  have hturn : Historically (fun a e => ¬ EndsTurn (session.run cliService.start
      ([] ++ [.tick (.showing { dustDetected := true }) {}] ++ a)) e)
      ([.advance 2000] ++ [.tick (.showing {}) {}]) := by
    refine historically_concat.mpr ⟨historically_concat.mpr ⟨historically_nil _, ?_⟩, ?_⟩
    · exact id
    · show ¬ LeavesTurn _ _
      decide
  exact ((boost_kept_iff h {}).mpr hturn).2

/-- Dust in front of an obstacle: the boost ends with the turn, two ticks later
and before any time has passed. -/
theorem boost_cut_short_by_turn :
    let blocked : ReplayReader := .showing { frontBlocked := true }
    let dust : ReplayReader := .showing { frontBlocked := true, dustDetected := true }
    let mid := [.tick blocked {}]
    let t := session.run cliService.start ([] ++ [.tick dust {}] ++ mid)
    WithinBoost cliService [] dust {} mid (.showing {}) ∧
      (session.out t (.tick (.showing {}) {})).cleans = [.setNormal] ∧
      (session.next t (.tick (.showing {}) {})).stateMachine.cleaningMode = .normal := by
  intro blocked dust mid t
  refine ⟨?_, by decide, by decide⟩
  constructor <;> decide

end RvcControl
