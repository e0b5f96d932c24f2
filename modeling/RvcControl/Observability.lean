import RvcControl.Experiment
import RvcControl.LiveSession

/-!
# What three calls can show

A live session still holds more than its clients can see of it: of its log only
the last entry is ever reported.  What is left is `SameFor`, and nothing of that
is hidden: the phase, the suction, the timer and the strategy of a session show
in its answers to at most three calls.  So two histories of a service that
cannot be told apart by three calls cannot be told apart at all.

The strategy is what takes three.  It is asked only when a turn begins, and a
robot that is turning already has to leave its turn and to stop before that.
-/

namespace RvcControl

open SimulatorService

/-- So many ticks the turn strategy is not asked yet. -/
def MotionPhase.unasked : MotionPhase → ℕ
  | .cruising => 1
  | .stopped => 0
  | .backedUp => 0
  | .turning _ => 2

/-- A tick comes nearer to the question by one at most. -/
theorem MotionPhase.unasked_le (p : MotionPhase) (sensors : SensorSnapshot)
    (choice : TurnDirection) : p.unasked ≤ (p.next sensors choice).unasked + 1 := by
  cases p with
  | turning d =>
      rw [next]
      split <;> simp [unasked]
  | cruising => exact Nat.le_add_left _ _
  | stopped => exact Nat.zero_le _
  | backedUp => exact Nat.zero_le _

/-- As long as the strategy is not asked its answer does not matter. -/
theorem MotionPhase.next_of_unasked {p : MotionPhase} (h : 0 < p.unasked)
    (sensors : SensorSnapshot) (choice choice' : TurnDirection) :
    p.next sensors choice = p.next sensors choice' := by
  cases p with
  | cruising => rfl
  | stopped => cases h
  | backedUp => cases h
  | turning d => rfl

/-! ## What can be seen -/

namespace LiveSession

/-- Two sessions that answer `n` calls alike. -/
structure SameFor (n : ℕ) (v w : LiveSession) : Prop where
  phase : v.phase = w.phase
  mode : v.mode = w.mode
  timer : v.timer = w.timer
  last : v.log.getLast? = w.log.getLast?
  choose : v.choose = w.choose ∨ n ≤ v.phase.unasked

/-- Only the last entry of the log is reported. -/
theorem state_eq (v : LiveSession) :
    v.state =
      { motionState := v.phase.motionState
        cleaningMode := v.mode
        lastMotion := (v.log.getLast?.map fun entry => entry.1.command).getD .none
        lastClean := (v.log.getLast?.map fun entry => entry.2.command).getD .none
        running := true } := by
  unfold state motions cleans
  rw [List.getLastD_eq_getLast?, List.getLastD_eq_getLast?, List.getLast?_map, List.getLast?_map]

namespace SameFor

variable {n : ℕ} {v w : LiveSession}

/-- Every session is the same as itself. -/
theorem refl (n : ℕ) (v : LiveSession) : SameFor n v v := ⟨rfl, rfl, rfl, rfl, .inl rfl⟩

/-- Sessions that are the same show the same. -/
theorem state (h : SameFor n v w) : v.state = w.state := by
  rw [v.state_eq, w.state_eq, h.phase, h.mode, h.last]

theorem reset (h : SameFor (n + 1) v w) : SameFor n v.reset w.reset :=
  ⟨h.phase, h.mode, rfl, rfl, h.choose.imp_right fun hle => Nat.le_of_succ_le hle⟩

/-- **One tick** uses up one call. -/
theorem tick (h : SameFor (n + 1) v w) (sensors : SensorSnapshot) (timerAdvance : Int) :
    SameFor n (v.tick sensors timerAdvance) (w.tick sensors timerAdvance) := by
  have hphase : v.nextPhase sensors = w.nextPhase sensors := by
    unfold nextPhase
    rcases h.choose with hsame | hunasked
    · rw [h.phase, hsame]
    · rw [← h.phase]
      exact MotionPhase.next_of_unasked (by omega) _ _ _
  have hmode : v.nextMode sensors timerAdvance = w.nextMode sensors timerAdvance := by
    unfold nextMode timerAfter
    rw [h.phase, h.mode, h.timer]
  refine ⟨hphase, hmode, ?_, ?_, ?_⟩
  · simp only [LiveSession.tick, hmode]
  · simp only [LiveSession.tick, List.getLast?_concat, hphase, hmode]
  · rcases h.choose with hsame | hunasked
    · exact .inl hsame
    · have hle := v.phase.unasked_le sensors (v.choose sensors)
      refine .inr ?_
      show n ≤ (v.phase.next sensors (v.choose sensors)).unasked
      omega

end SameFor

end LiveSession

/-- What two services show answers `n` calls alike. -/
inductive SameShown (n : ℕ) : Option LiveSession → Option LiveSession → Prop
  | none : SameShown n none none
  | some {v w : LiveSession} (h : v.SameFor n w) : SameShown n (some v) (some w)

/-- What is shown is the same as itself. -/
theorem SameShown.refl (n : ℕ) (v : Option LiveSession) : SameShown n v v := by
  cases v with
  | none => exact .none
  | some v => exact .some (.refl n v)

theorem SameShown.report {n : ℕ} {v w : Option LiveSession} (h : SameShown n v w) :
    report v = report w := by
  cases h with
  | none => rfl
  | some h => exact h.state

/-- **One call.** -/
theorem SameShown.call {n : ℕ} {v w : Option LiveSession} (h : SameShown (n + 1) v w)
    (call : Call) :
    liveSessions.out v call = liveSessions.out w call ∧
      SameShown n (liveSessions.next v call) (liveSessions.next w call) := by
  cases call with
  | reset =>
      refine ⟨rfl, ?_⟩
      cases h with
      | none => exact .none
      | some h => exact .some h.reset
  | start turnStrategy => exact ⟨rfl, .refl n _⟩
  | tick sensors timerAdvance =>
      cases h with
      | none => exact ⟨rfl, .none⟩
      | some h =>
          have htick := h.tick sensors timerAdvance
          exact ⟨congrArg Option.some htick.state, .some htick⟩
  | getState =>
      refine ⟨congrArg Option.some h.report, ?_⟩
      cases h with
      | none => exact .none
      | some h =>
          exact .some ⟨h.phase, h.mode, h.timer, h.last,
            h.choose.imp_right fun hle => Nat.le_of_succ_le hle⟩

/-- They agree for as long as they are the same. -/
theorem SameShown.agreeUpTo {n : ℕ} {v w : Option LiveSession} (h : SameShown n v w) :
    liveSessions.AgreeUpTo n v w :=
  Mealy.agreeUpTo_of_countdown (fun _ _ _ call hsame => hsame.call call) h

/-! ## What is seen -/

/-- What every call leaves of a session: its timer has just been wound up or is
off, and it has one of the two strategies. -/
structure LiveSession.Wound (v : LiveSession) : Prop where
  timer : v.timer = (Suction.ofMode v.mode).timer defaultBoost ∨ v.timer = {}
  choose : ∃ turnStrategy, v.choose = chosenBy turnStrategy

/-- Sessions are shown as they are wound up. -/
theorem shown_wound (calls : List Call) : ∀ v, shown calls = some v → v.Wound := by
  apply liveSessions.run_invariant (P := fun shown => ∀ v, shown = some v → v.Wound)
  · intro v hv
    cases hv
  · intro shown call h v hv
    cases call with
    | reset =>
        obtain ⟨u, hu, rfl⟩ := Option.map_eq_some_iff.mp hv
        exact ⟨.inr rfl, (h u hu).choose⟩
    | start turnStrategy =>
        cases hv
        exact ⟨.inr rfl, turnStrategy, rfl⟩
    | tick sensors timerAdvance =>
        obtain ⟨u, hu, rfl⟩ := Option.map_eq_some_iff.mp hv
        exact ⟨.inl rfl, (h u hu).choose⟩
    | getState => exact h v hv

/-- On clear sensors the two strategies differ. -/
theorem chosenBy_injective {a b : String} (h : chosenBy a {} = chosenBy b {}) :
    chosenBy a = chosenBy b := by
  unfold chosenBy at h ⊢
  split_ifs at h ⊢ with ha hb
  · rfl
  · cases h
  · cases h
  · rfl

namespace LiveSession

variable {v w : LiveSession}

section Seen

variable (h : liveSessions.AgreeUpTo 1 (some v) (some w))
include h

/-- Sessions that agree show the same now. -/
theorem state_of_agree : v.state = w.state :=
  Option.some.inj (List.singleton_inj.mp (h [.getState] (by decide)))

theorem tick_of_agree (sensors : SensorSnapshot) (timerAdvance : Int) :
    (v.tick sensors timerAdvance).state = (w.tick sensors timerAdvance).state :=
  Option.some.inj (List.singleton_inj.mp (h [.tick sensors timerAdvance] (by simp)))

/-- Some last entry of the log is reported, or there is none. -/
theorem last_of_agree : v.log.getLast? = w.log.getLast? := by
  have hstate := state_of_agree h
  rw [v.state_eq, w.state_eq, SimulatorState.mk.injEq] at hstate
  obtain ⟨_, _, hmotion, hclean, _⟩ := hstate
  cases hv : v.log.getLast? with
  | none =>
      cases hw : w.log.getLast? with
      | none => rfl
      | some b =>
          rw [hv, hw] at hmotion
          exact absurd hmotion.symm b.1.command_ne_none
  | some a =>
      cases hw : w.log.getLast? with
      | none =>
          rw [hv, hw] at hmotion
          exact absurd hmotion a.1.command_ne_none
      | some b =>
          rw [hv, hw] at hmotion hclean
          have hphase := MotionPhase.command_injective hmotion
          have hmode := CleaningMode.command_injective hclean
          exact congrArg some (Prod.ext hphase hmode)

/-- A turn goes on with its direction where the front is blocked. -/
theorem phase_of_agree : v.phase = w.phase := by
  have hstate := state_of_agree h
  rw [v.state_eq, w.state_eq, SimulatorState.mk.injEq] at hstate
  have hmotion := hstate.1
  have htick := congrArg SimulatorState.lastMotion (tick_of_agree h { frontBlocked := true } 0)
  rw [state_tick_lastMotion, state_tick_lastMotion] at htick
  have hnext := MotionPhase.command_injective htick
  cases hv : v.phase <;> cases hw : w.phase <;> rw [hv, hw] at hmotion <;>
    first | rfl | cases hmotion
  have hturn : v.phase.next { frontBlocked := true } (v.choose { frontBlocked := true }) =
      w.phase.next { frontBlocked := true } (w.choose { frontBlocked := true }) := hnext
  rw [hv, hw] at hturn
  exact hturn

/-- Their modes agree, which the state tells. -/
theorem mode_of_agree : v.mode = w.mode := by
  have hstate := state_of_agree h
  rw [v.state_eq, w.state_eq, SimulatorState.mk.injEq] at hstate
  exact hstate.2.1

/-- A boost that is still timed ends when its time is over. -/
theorem timer_of_agree (hv : v.Wound) (hw : w.Wound) : v.timer = w.timer := by
  have hmode := mode_of_agree h
  have htick := congrArg SimulatorState.cleaningMode
    (tick_of_agree h { frontBlocked := true } 3000)
  -- in front of an obstacle and without dust the boost is kept until it expires
  have hnext : ∀ u : LiveSession, u.mode = .boost →
      (u.tick { frontBlocked := true } 3000).state.cleaningMode =
        if (u.timerAfter 3000).isBoostExpired then .off else .boost := by
    intro u hu
    show u.mode.next u.phase { frontBlocked := true } (u.timerAfter 3000).isBoostExpired = _
    rw [hu]
    cases u.phase <;> cases (u.timerAfter 3000).isBoostExpired <;> rfl
  have hfresh : ∀ u : LiveSession, u.timer = (Suction.boost 0).timer defaultBoost →
      (u.timerAfter 3000).isBoostExpired = true := by
    intro u hu
    unfold timerAfter
    rw [hu]
    rfl
  have hoff : ∀ u : LiveSession, u.timer = {} → (u.timerAfter 3000).isBoostExpired = false := by
    intro u hu
    unfold timerAfter
    rw [hu]
    rfl
  by_cases hboost : v.mode = .boost
  · have hboost' : w.mode = .boost := hmode ▸ hboost
    rw [hnext v hboost, hnext w hboost'] at htick
    have htimer := hv.timer
    have htimer' := hw.timer
    rw [hboost] at htimer
    rw [hboost'] at htimer'
    rcases htimer with hv | hv
    · rcases htimer' with hw | hw
      · rw [hv, hw]
      · rw [hfresh v hv, hoff w hw] at htick
        cases htick
    · rcases htimer' with hw | hw
      · rw [hoff v hv, hfresh w hw] at htick
        cases htick
      · rw [hv, hw]
  · have hnone : ∀ u : LiveSession, u.Wound → u.mode ≠ .boost → u.timer = {} := by
      intro u hu hne
      rcases hu.timer with htimer | htimer
      · rw [htimer]
        cases hm : u.mode with
        | boost => exact absurd hm hne
        | _ => rfl
      · exact htimer
    rw [hnone v hv hboost, hnone w hw (hmode ▸ hboost)]

/-- A turn that begins goes where the strategy says. -/
theorem choice_of_agree (hphase : v.phase = .stopped ∨ v.phase = .backedUp) :
    v.choose {} = w.choose {} := by
  have hsame := phase_of_agree h
  have htick := congrArg SimulatorState.lastMotion (tick_of_agree h {} 0)
  rw [state_tick_lastMotion, state_tick_lastMotion] at htick
  have hnext : v.phase.next {} (v.choose {}) = w.phase.next {} (w.choose {}) :=
    MotionPhase.command_injective htick
  rw [← hsame] at hnext
  rcases hphase with hstopped | hbackedUp
  · rw [hstopped] at hnext
    exact MotionPhase.turning.inj hnext
  · rw [hbackedUp] at hnext
    exact MotionPhase.turning.inj hnext

end Seen

/-- Two ticks lead any session to where its strategy is asked. -/
theorem choose_of_agree (h : liveSessions.AgreeUpTo 3 (some v) (some w)) (hv : v.Wound)
    (hw : w.Wound) : v.choose = w.choose := by
  have hclear : v.choose {} = w.choose {} := by
    cases hphase : v.phase with
    | stopped => exact choice_of_agree (h.mono (by omega)) (.inl hphase)
    | backedUp => exact choice_of_agree (h.mono (by omega)) (.inr hphase)
    | cruising =>
        have hone : liveSessions.AgreeUpTo 1 (some (v.tick { frontBlocked := true } 0))
            (some (w.tick { frontBlocked := true } 0)) :=
          Mealy.AgreeUpTo.after [Call.tick { frontBlocked := true } 0] 1 (h.mono (by decide))
        have hstopped : (v.tick { frontBlocked := true } 0).phase = .stopped := by
          show v.phase.next { frontBlocked := true } _ = _
          rw [hphase]
          rfl
        have hchoice := choice_of_agree hone (.inl hstopped)
        exact hchoice
    | turning d =>
        have htwo : liveSessions.AgreeUpTo 1
            (some ((v.tick {} 0).tick { frontBlocked := true } 0))
            (some ((w.tick {} 0).tick { frontBlocked := true } 0)) :=
          Mealy.AgreeUpTo.after [Call.tick {} 0, Call.tick { frontBlocked := true } 0] 1 h
        have hstopped : ((v.tick {} 0).tick { frontBlocked := true } 0).phase = .stopped := by
          show (v.phase.next {} _).next { frontBlocked := true } _ = _
          rw [hphase]
          rfl
        have hchoice := choice_of_agree htwo (.inl hstopped)
        exact hchoice
  obtain ⟨a, ha⟩ := hv.choose
  obtain ⟨b, hb⟩ := hw.choose
  rw [ha, hb] at hclear ⊢
  exact chosenBy_injective hclear

/-- If they agree for three calls they are the same for good. -/
theorem sameFor_of_agree (h : liveSessions.AgreeUpTo 3 (some v) (some w)) (hv : v.Wound)
    (hw : w.Wound) (n : ℕ) : v.SameFor n w :=
  have hone := h.mono (by decide)
  ⟨phase_of_agree hone, mode_of_agree hone, timer_of_agree hone hv hw, last_of_agree hone,
    .inl (choose_of_agree h hv hw)⟩

end LiveSession

theorem sameShown_of_agree {calls₁ calls₂ : List Call}
    (h : liveSessions.AgreeUpTo 3 (shown calls₁) (shown calls₂)) (n : ℕ) :
    SameShown n (shown calls₁) (shown calls₂) := by
  have hreport : report (shown calls₁) = report (shown calls₂) :=
    Option.some.inj (List.singleton_inj.mp (h [.getState] (by decide)))
  cases h₁ : shown calls₁ with
  | none =>
      cases h₂ : shown calls₂ with
      | none => exact .none
      | some w =>
          rw [h₁, h₂] at hreport
          cases congrArg SimulatorState.running hreport
  | some v =>
      cases h₂ : shown calls₂ with
      | none =>
          rw [h₁, h₂] at hreport
          cases congrArg SimulatorState.running hreport
      | some w =>
          rw [h₁, h₂] at h
          exact .some (LiveSession.sameFor_of_agree h (shown_wound calls₁ v h₁)
            (shown_wound calls₂ w h₂) n)

/-- A robot that turns right, by the strategy of the given name. -/
def turningRight (turnStrategy : String) : List Call :=
  [.start turnStrategy, .tick { frontBlocked := true, leftBlocked := true } 0,
    .tick { frontBlocked := true, leftBlocked := true } 0]

/-- Two calls do not tell these strategies apart. -/
theorem turningRight_sameShown :
    SameShown 2 (shown (turningRight "prefer_left")) (shown (turningRight "force_right")) :=
  .some ⟨rfl, rfl, rfl, rfl, .inr le_rfl⟩

/-- **Three calls show everything.**  Services with any histories that give the
same answers to all lists of at most three calls give the same answers to all
lists, and that is so exactly if they show the same but for the older entries of
their logs.  Two calls do not show everything: with two a robot that is turning
does not show which strategy it has. -/
theorem three_calls_show_all :
    (∀ calls₁ calls₂ : List Call,
      (simulator.ObsEq (after calls₁) (after calls₂) ↔
          simulator.AgreeUpTo 3 (after calls₁) (after calls₂)) ∧
        (simulator.ObsEq (after calls₁) (after calls₂) ↔
          SameShown 3 (shown calls₁) (shown calls₂))) ∧
      ∃ calls₁ calls₂ : List Call,
        simulator.AgreeUpTo 2 (after calls₁) (after calls₂) ∧
          ¬ simulator.ObsEq (after calls₁) (after calls₂) := by
  have hagree : ∀ (n : ℕ) (calls₁ calls₂ : List Call),
      simulator.AgreeUpTo n (after calls₁) (after calls₂) ↔
        liveSessions.AgreeUpTo n (shown calls₁) (shown calls₂) :=
    fun n calls₁ calls₂ => simulator_refines_liveSessions.agreeUpTo_iff
      (after_presents calls₁) (after_presents calls₂) n
  have hobs : ∀ calls₁ calls₂ : List Call, simulator.ObsEq (after calls₁) (after calls₂) ↔
      liveSessions.ObsEq (shown calls₁) (shown calls₂) :=
    fun calls₁ calls₂ => simulator_refines_liveSessions.obsEq_iff
      (after_presents calls₁) (after_presents calls₂)
  refine ⟨?_, turningRight "prefer_left", turningRight "force_right", ?_, ?_⟩
  · intro calls₁ calls₂
    have hthree : liveSessions.AgreeUpTo 3 (shown calls₁) (shown calls₂) →
        liveSessions.ObsEq (shown calls₁) (shown calls₂) :=
      fun h => Mealy.obsEq_of_agreeUpTo fun n => (sameShown_of_agree h n).agreeUpTo
    rw [hobs, hagree]
    refine ⟨⟨fun h => h.agreeUpTo 3, hthree⟩, fun h => sameShown_of_agree (h.agreeUpTo 3) 3, ?_⟩
    intro h
    exact hthree h.agreeUpTo
  · rw [hagree]
    exact turningRight_sameShown.agreeUpTo
  · intro h
    have hthree := h [.tick {} 0, .tick { frontBlocked := true } 0, .tick {} 0]
    revert hthree
    decide

end RvcControl
