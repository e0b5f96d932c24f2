import RvcControl.AutoTestPanel
import RvcControl.DisplayedRobot

/-!
# One at a time

Two flags of the page are its locks: `manualTickInFlight` for the ticks of
manual mode and `isAutoTestRunning` for the runs of the panel.  Both are set
before the first `await` of what they guard and cleared by its `finally`, and
between the two anything may happen.  Here it is shown that both hold what they
promise in every state of the page.

The consequence used later is about disturbances: with one run at a time only
manual mode and other clients can call the service in between.
-/

namespace RvcControl

/-! ## Manual ticks -/

namespace Tab

/-- The ticks of manual mode that are on their way, there or back. -/
def ticksInFlight (w : Tab) : ℕ := w.posts.countP Post.isTick + w.replies.countP Reply.isTick

/-- The flag counts the ticks in flight. -/
def OneTick (w : Tab) : Prop := w.ticksInFlight = w.page.manualTickInFlight.toNat

variable {w : Tab}

/-- A request that is taken out is no longer in flight. -/
theorem ticksInFlight_erasePost {k : ℕ} {r : Post} (h : w.posts[k]? = some r) :
    { w with posts := w.posts.eraseIdx k }.ticksInFlight + r.isTick.toNat = w.ticksInFlight := by
  have hcount := countP_eraseIdx Post.isTick h
  unfold ticksInFlight
  cases hr : r.isTick <;> simp [hr] at hcount ⊢ <;> omega

theorem ticksInFlight_eraseReply {k : ℕ} {r : Reply} (h : w.replies[k]? = some r) :
    { w with replies := w.replies.eraseIdx k }.ticksInFlight + r.isTick.toNat =
      w.ticksInFlight := by
  have hcount := countP_eraseIdx Reply.isTick h
  unfold ticksInFlight
  cases hr : r.isTick <;> simp [hr] at hcount ⊢ <;> omega

namespace OneTick

/-- Only the number of ticks and the flag matter. -/
theorem congr (h : w.OneTick) {w' : Tab} (hticks : w'.ticksInFlight = w.ticksInFlight)
    (hflag : w'.page.manualTickInFlight = w.page.manualTickInFlight) : w'.OneTick := by
  unfold OneTick at h ⊢
  rw [hticks, hflag]
  exact h

/-- A tick that was in flight is over, and the flag falls. -/
theorem settle (h : w.OneTick) {w' : Tab} (hticks : w'.ticksInFlight + 1 = w.ticksInFlight)
    (hflag : w'.page.manualTickInFlight = false) : w'.OneTick := by
  have hle := Bool.toNat_le w.page.manualTickInFlight
  unfold OneTick at h ⊢
  rw [hflag, Bool.toNat_false]
  omega

/-- A tick is posted only while none is in flight. -/
theorem runManualTick (h : w.OneTick) (fromStart : Bool) :
    (w.runManualTick fromStart).OneTick := by
  unfold Tab.runManualTick
  split
  · split
    · exact h.congr rfl rfl
    · exact h
  · rename_i hflight
    unfold OneTick ticksInFlight at h ⊢
    rw [Bool.not_eq_true] at hflight
    rw [hflight, Bool.toNat_false] at h
    simp only [post, List.countP_append, List.countP_singleton, Post.isTick, if_true,
      Bool.toNat_true]
    omega

/-- A response comes in. -/
theorem resume (h : w.OneTick) {k : ℕ} {r : Reply} (hr : w.replies[k]? = some r) :
    ({ w with replies := w.replies.eraseIdx k }.resume r).OneTick := by
  have hcount := ticksInFlight_eraseReply hr
  cases r with
  | start =>
      have hrest : ({ w with replies := w.replies.eraseIdx k } : Tab).OneTick :=
        h.congr hcount rfl
      rw [Tab.resume]
      split
      · exact hrest.runManualTick true
      · exact hrest
  | reset => exact h.congr hcount rfl
  | tick state fromStart resets => cases fromStart <;> exact h.settle hcount rfl

/-- A handler resumes with an error. -/
theorem resumeFailed (h : w.OneTick) {w' : Tab} {handler : Handler} {ticks : Bool}
    (hticks : w'.ticksInFlight + ticks.toNat = w.ticksInFlight)
    (hflag : w'.page.manualTickInFlight = w.page.manualTickInFlight)
    (hhandler : ticks = true ↔ ∃ fromStart, handler = .manualTick fromStart) :
    (w'.resumeFailed handler).OneTick := by
  cases handler with
  | start =>
      have hno : ticks = false := by simpa using hhandler
      subst hno
      exact h.congr hticks hflag
  | reset =>
      have hno : ticks = false := by simpa using hhandler
      subst hno
      exact h.congr hticks hflag
  | manualTick fromStart =>
      have hyes : ticks = true := hhandler.mpr ⟨fromStart, rfl⟩
      subst hyes
      cases fromStart <;> exact h.settle hticks rfl

/-- **One event** of manual mode. -/
theorem handle (h : w.OneTick) (e : TabEvent) : (w.handle e).OneTick := by
  cases e with
  | clickStart =>
      refine h.congr ?_ rfl
      simp [Tab.handle, post, ticksInFlight, Post.isTick]
  | clickReset =>
      refine h.congr ?_ rfl
      simp [Tab.handle, post, ticksInFlight, Post.isTick]
  | clickTick => exact h.runManualTick false
  | clickManualTab => exact h.congr rfl rfl
  | clickAutoTab => exact h.congr rfl rfl
  | timerFires =>
      rw [Tab.handle]
      split
      · exact h.runManualTick false
      · exact h
  | process k =>
      rw [Tab.handle]
      cases hr : w.posts[k]? with
      | none => exact h
      | some r =>
          have hcount := ticksInFlight_erasePost hr
          have htick := Follows.process_isTick w.backend r
          refine h.congr ?_ rfl
          unfold ticksInFlight at hcount ⊢
          simp only [List.countP_append, List.countP_singleton, htick]
          cases hticks : r.isTick <;> simp [hticks] at hcount ⊢ <;> omega
  | deliver k =>
      rw [Tab.handle]
      cases hr : w.replies[k]? with
      | none => exact h
      | some r => exact h.resume hr
  | failPost k =>
      rw [Tab.handle]
      cases hr : w.posts[k]? with
      | none => exact h
      | some r =>
          apply h.resumeFailed (ticksInFlight_erasePost hr) rfl
          cases r <;> simp [Post.isTick, Post.handler]
  | failReply k =>
      rw [Tab.handle]
      cases hr : w.replies[k]? with
      | none => exact h
      | some r =>
          apply h.resumeFailed (ticksInFlight_eraseReply hr) rfl
          cases r <;> simp [Reply.isTick, Reply.handler]

end OneTick

end Tab

/-! ## Runs of the panel -/

namespace Panel

/-- Both locks hold. -/
structure Exclusive (p : Panel) : Prop where
  oneTick : p.tab.OneTick
  oneRun : p.runs.length = p.isAutoTestRunning.toNat

variable {p : Panel}

namespace Exclusive

/-- Only what the locks are about matters. -/
theorem congr (h : p.Exclusive) {p' : Panel} (hticks : p'.tab.ticksInFlight = p.tab.ticksInFlight)
    (hflight : p'.tab.page.manualTickInFlight = p.tab.page.manualTickInFlight)
    (hruns : p'.runs.length = p.runs.length)
    (hrunning : p'.isAutoTestRunning = p.isAutoTestRunning) : p'.Exclusive :=
  ⟨h.oneTick.congr hticks hflight, by rw [hruns, hrunning, h.oneRun]⟩

/-- A run is put in another's place. -/
theorem withRun (h : p.Exclusive) (k : ℕ) (run : AutoRun) : (p.withRun k run).Exclusive :=
  h.congr rfl rfl List.length_set rfl

/-- The note of a call locks nothing. -/
theorem disturb (h : p.Exclusive) : p.disturb.Exclusive :=
  h.congr rfl rfl (List.length_map _) rfl

/-- A run begins only where none goes on. -/
theorem beginRun (h : p.Exclusive) (hidle : p.isAutoTestRunning = false)
    (ids : Option (List String)) : (p.beginRun ids).Exclusive := by
  refine ⟨h.oneTick.congr rfl rfl, ?_⟩
  have hnone : p.runs.length = 0 := by rw [h.oneRun, hidle, Bool.toNat_false]
  show (p.runs ++ [_]).length = true.toNat
  rw [List.length_append, hnone]
  rfl

/-- The run that ends is the only one. -/
theorem finish (h : p.Exclusive) {k : ℕ} (hk : k < p.runs.length) (testResults : TestResults) :
    (p.finish k testResults).Exclusive := by
  refine ⟨h.oneTick, ?_⟩
  have hle := Bool.toNat_le p.isAutoTestRunning
  have hone := h.oneRun
  show (p.runs.eraseIdx k).length = false.toNat
  rw [List.length_eraseIdx, if_pos hk, Bool.toNat_false]
  omega

/-- The next scenario is of the same run. -/
theorem visit (h : p.Exclusive) (k : ℕ) (t : Tour) : (p.visit k t).Exclusive := by
  let set := p.withGrid ((p.grid.setupScenarioWorld t.single.scenario.id).resetRobotForScenario
    t.single.scenario.id)
  have hset : set.Exclusive := h.congr rfl rfl rfl rfl
  exact hset.withRun k (.touring t)

/-- The scenarios are there, or there are none. -/
theorem fetched (h : p.Exclusive) {k : ℕ} (hk : k < p.runs.length) (ids : Option (List String))
    (allScenarios : List ScenarioView) : (p.fetched k ids allScenarios).Exclusive := by
  rw [Panel.fetched]
  cases chooseScenarios ids allScenarios with
  | nil => exact h.finish hk .notFound
  | cons scenario rest =>
      have hpreparing : Panel.Exclusive { p with testResults := .preparing } :=
        h.congr rfl rfl rfl rfl
      exact hpreparing.visit k _

/-- A scenario is over, and maybe the run. -/
theorem returned (h : p.Exclusive) {k : ℕ} (hk : k < p.runs.length) (t : Tour) :
    (p.returned k t).Exclusive := by
  rw [Panel.returned]
  split
  · exact h.finish hk _
  · exact h.visit k _

/-- Manual mode has nothing to do with the panel's lock. -/
theorem handleManual (h : p.Exclusive) (e : TabEvent) : (p.handleManual e).Exclusive := by
  have hhandled : Panel.Exclusive { p with tab := p.tab.handle e } :=
    ⟨h.oneTick.handle e, h.oneRun⟩
  unfold Panel.handleManual
  dsimp only
  split
  · split
    · exact hhandled.congr rfl rfl rfl rfl
    · exact hhandled
  · split
    · exact hhandled.disturb
    · exact hhandled
  · exact hhandled

/-- **One event** keeps the locks. -/
theorem step (h : p.Exclusive) {definitions : List ScenarioDefinition} {e : PanelEvent}
    {p' : Panel} (hstep : p.Step definitions e p') : p'.Exclusive := by
  cases hstep with
  | stay => exact h
  | manual e => exact h.handleManual e
  | clickGrid => exact h.congr rfl rfl rfl rfl
  | beginRun hidle => exact h.beginRun hidle _
  | beginTour hidle =>
      apply (h.beginRun hidle _).fetched
      show p.runs.length < (p.runs ++ [_]).length
      simp
  | listed => exact h.congr rfl rfl rfl rfl
  | listFails => exact h.congr rfl rfl rfl rfl
  | getState => exact h.congr rfl rfl rfl rfl
  | foreign => exact h.disturb.congr rfl rfl rfl rfl
  | serveCatalogue => exact h.withRun _ _
  | @serve k t request =>
      have hserved : (p.disturb.withService
          ((httpServer definitions).next p.service request)).Exclusive :=
        h.disturb.congr rfl rfl rfl rfl
      exact hserved.withRun k _
  | @catalogue k ids answer allScenarios hrun =>
      have hcached : Panel.Exclusive { p with cachedScenarios := some allScenarios } :=
        h.congr rfl rfl rfl rfl
      exact hcached.fetched (List.getElem?_eq_some_iff.mp hrun).1 ids allScenarios
  | @resume k t single g =>
      have hgrid : (p.withGrid g).Exclusive := h.congr rfl rfl rfl rfl
      exact hgrid.withRun k _
  | stepDelay => exact h.withRun _ _
  | banner => exact h.withRun _ _
  | returned hrun => exact h.returned (List.getElem?_eq_some_iff.mp hrun).1 _
  | throwsCatalogue hrun => exact h.finish (List.getElem?_eq_some_iff.mp hrun).1 _
  | throws hrun => exact h.finish (List.getElem?_eq_some_iff.mp hrun).1 _
  | fails hrun => exact h.finish (List.getElem?_eq_some_iff.mp hrun).1 _

end Exclusive

/-- A page that has just been loaded. -/
theorem exclusive_load (cols rows : ℕ) (service : SimulatorService) :
    (Panel.load cols rows service).Exclusive := by
  refine ⟨?_, ?_⟩
  · show Tab.ticksInFlight _ = _
    rfl
  · show List.length _ = _
    rfl

end Panel

/-- **Every run** of the page. -/
theorem wholePage_exclusive (definitions : List ScenarioDefinition) (cols rows : ℕ)
    (service : SimulatorService) (es : List PanelEvent) :
    ((wholePage definitions).run (.load cols rows service) es).Exclusive :=
  (wholePage definitions).run_invariant (Panel.exclusive_load cols rows service)
    (fun p e h => h.step (p.handle_step definitions e)) es

/-! ## Undisturbed runs -/

/-- The event calls the service on behalf of somebody else than the panel. -/
def PanelEvent.Interferes : PanelEvent → Prop
  | .manual (.process _) => True
  | .foreign call => call ≠ .getState
  | _ => False

def AutoRun.Undisturbed : AutoRun → Prop
  | .fetching _ _ => True
  | .touring t => t.single.disturbed = false ∧ ∀ r ∈ t.results, r.disturbed = false

def TestResults.Undisturbed : TestResults → Prop
  | .summary results _ _ => ∀ r ∈ results, r.disturbed = false
  | _ => True

namespace Panel

/-- Nobody has interfered with what the panel runs and shows. -/
structure Undisturbed (p : Panel) : Prop where
  runs : ∀ run ∈ p.runs, run.Undisturbed
  testResults : p.testResults.Undisturbed

namespace Undisturbed

variable {p : Panel}

/-- What is not about runs and results does not matter. -/
theorem congr (h : p.Undisturbed) {p' : Panel} (hruns : p'.runs = p.runs)
    (hresults : p'.testResults = p.testResults) : p'.Undisturbed :=
  ⟨hruns ▸ h.runs, hresults ▸ h.testResults⟩

/-- A run that is undisturbed may take another's place. -/
theorem withRun (h : p.Undisturbed) (k : ℕ) {run : AutoRun} (hrun : run.Undisturbed) :
    (p.withRun k run).Undisturbed := by
  refine ⟨?_, h.testResults⟩
  intro run' hmem
  rcases List.mem_or_eq_of_mem_set hmem with hold | rfl
  · exact h.runs run' hold
  · exact hrun

/-- Results that are undisturbed may be shown. -/
theorem finish (h : p.Undisturbed) (k : ℕ) {testResults : TestResults}
    (hresults : testResults.Undisturbed) : (p.finish k testResults).Undisturbed :=
  ⟨fun run hmem => h.runs run (List.mem_of_mem_eraseIdx hmem), hresults⟩

/-- A run begins undisturbed. -/
theorem beginRun (h : p.Undisturbed) (ids : Option (List String)) :
    (p.beginRun ids).Undisturbed := by
  refine ⟨?_, h.testResults⟩
  intro run hmem
  rcases List.mem_append.mp hmem with hold | hnew
  · exact h.runs run hold
  · rw [List.mem_singleton.mp hnew]
    trivial

theorem visit (h : p.Undisturbed) (k : ℕ) {t : Tour}
    (ht : (AutoRun.touring t).Undisturbed) : (p.visit k t).Undisturbed := by
  let set := p.withGrid ((p.grid.setupScenarioWorld t.single.scenario.id).resetRobotForScenario
    t.single.scenario.id)
  have hset : set.Undisturbed := h.congr rfl rfl
  exact hset.withRun k ht

theorem fetched (h : p.Undisturbed) (k : ℕ) (ids : Option (List String))
    (allScenarios : List ScenarioView) : (p.fetched k ids allScenarios).Undisturbed := by
  rw [Panel.fetched]
  cases chooseScenarios ids allScenarios with
  | nil => exact h.finish k trivial
  | cons scenario rest =>
      have hpreparing : Panel.Undisturbed { p with testResults := .preparing } :=
        ⟨h.runs, trivial⟩
      exact hpreparing.visit k ⟨rfl, by simp⟩

/-- A scenario returns, and the next one begins. -/
theorem returned (h : p.Undisturbed) (k : ℕ) {t : Tour} (ht : (AutoRun.touring t).Undisturbed) :
    (p.returned k t).Undisturbed := by
  have hresults : ∀ r ∈ t.results ++ [⟨t.single.result, t.single.disturbed⟩],
      r.disturbed = false := by
    intro r hr
    rcases List.mem_append.mp hr with hold | hnew
    · exact ht.2 r hold
    · rw [List.mem_singleton.mp hnew]
      exact ht.1
  rw [Panel.returned]
  split
  · exact h.finish k hresults
  · exact h.visit k ⟨rfl, hresults⟩

/-- An answer disturbs nothing. -/
theorem answered {r : SingleRun} (h : r.disturbed = false) (answer : Option String) :
    (r.answered answer).disturbed = false := by
  unfold SingleRun.answered
  split <;> exact h

/-- A list of one element, when it is replaced. -/
theorem eq_of_mem_set {α : Type*} {l : List α} (hone : l.length ≤ 1) {k : ℕ} (hk : k < l.length)
    {a b : α} (h : b ∈ l.set k a) : b = a := by
  have hlength : (l.set k a).length = 1 := by
    rw [List.length_set]
    omega
  obtain ⟨c, hc⟩ := List.length_eq_one_iff.mp hlength
  have hself := List.mem_set hk a
  rw [hc, List.mem_singleton] at h hself
  rw [h, ← hself]

theorem resume {r r' : SingleRun} {g g' : Grid} (h : r.disturbed = false)
    (hresume : r.resume g = some (r', g')) : r'.disturbed = false := by
  unfold SingleRun.resume at hresume
  split at hresume
  · obtain ⟨value, _, heq⟩ := Option.map_eq_some_iff.mp hresume
    cases heq
    exact h
  · obtain ⟨value, _, heq⟩ := Option.map_eq_some_iff.mp hresume
    cases heq
    exact h
  · simp only [Option.bind_eq_bind, Option.bind_eq_some_iff, Option.pure_def,
      Option.some.injEq] at hresume
    obtain ⟨state, _, step, _, heq⟩ := hresume
    cases heq
    exact h
  · cases hresume

theorem handleManual (h : p.Undisturbed) {e : TabEvent}
    (hquiet : ¬ (PanelEvent.manual e).Interferes) : (p.handleManual e).Undisturbed := by
  unfold Panel.handleManual
  dsimp only
  split
  · split <;> exact h.congr rfl rfl
  · exact absurd trivial hquiet
  · exact h.congr rfl rfl

/-- **One event** of nobody else leaves the panel undisturbed.  Its own request
disturbs nobody, since there is no other run. -/
theorem step (h : p.Undisturbed) (hone : p.runs.length ≤ 1)
    {definitions : List ScenarioDefinition} {e : PanelEvent} (hquiet : ¬ e.Interferes) {p' : Panel}
    (hstep : p.Step definitions e p') : p'.Undisturbed := by
  have hrunOf : ∀ {k : ℕ} {run : AutoRun}, p.runs[k]? = some run → run.Undisturbed :=
    fun hrun => h.runs _ (List.mem_of_getElem? hrun)
  cases hstep with
  | stay => exact h
  | manual e => exact h.handleManual hquiet
  | clickGrid => exact h.congr rfl rfl
  | beginRun => exact h.beginRun _
  | beginTour => exact (h.beginRun _).fetched _ _ _
  | listed => exact h.congr rfl rfl
  | listFails => exact h.congr rfl rfl
  | getState => exact h.congr rfl rfl
  | foreign hcall => exact absurd hcall hquiet
  | serveCatalogue => exact h.withRun _ trivial
  | @serve k t request hrun =>
      refine ⟨?_, h.testResults⟩
      intro run' hmem
      have hk := (List.getElem?_eq_some_iff.mp hrun).1
      have hlength : (p.runs.map AutoRun.disturb).length = p.runs.length := List.length_map _
      have hsame := eq_of_mem_set (l := p.runs.map AutoRun.disturb) (by omega) (by omega) hmem
      rw [hsame]
      exact ⟨answered (hrunOf hrun).1 _, (hrunOf hrun).2⟩
  | @catalogue k ids answer allScenarios =>
      have hcached : Panel.Undisturbed { p with cachedScenarios := some allScenarios } :=
        h.congr rfl rfl
      exact hcached.fetched k ids allScenarios
  | @resume k t single g hrun hresume =>
      have hgrid : (p.withGrid g).Undisturbed := h.congr rfl rfl
      exact hgrid.withRun k ⟨resume (hrunOf hrun).1 hresume, (hrunOf hrun).2⟩
  | stepDelay hrun =>
      obtain ⟨hsingle, hresults⟩ := hrunOf hrun
      exact h.withRun _ ⟨hsingle, hresults⟩
  | banner hrun =>
      obtain ⟨hsingle, hresults⟩ := hrunOf hrun
      exact h.withRun _ ⟨hsingle, hresults⟩
  | returned hrun => exact h.returned _ (hrunOf hrun)
  | throwsCatalogue => exact h.finish _ trivial
  | throws => exact h.finish _ trivial
  | fails => exact h.finish _ trivial

end Undisturbed

end Panel

/-- Where nobody else calls the service, nothing is disturbed. -/
theorem wholePage_undisturbed (definitions : List ScenarioDefinition) (cols rows : ℕ)
    (service : SimulatorService) {es : List PanelEvent} (hquiet : ∀ e ∈ es, ¬ e.Interferes) :
    ((wholePage definitions).run (.load cols rows service) es).Undisturbed := by
  induction es using List.reverseRecOn with
  | nil =>
      refine ⟨?_, trivial⟩
      show ∀ run ∈ [], AutoRun.Undisturbed run
      simp
  | append_singleton es e ih =>
      have hlocks := wholePage_exclusive definitions cols rows service es
      have hone := Bool.toNat_le
        ((wholePage definitions).run (.load cols rows service) es).isAutoTestRunning
      rw [← hlocks.oneRun] at hone
      rw [Mealy.run_concat, wholePage_next]
      apply (ih fun e' he' => hquiet e' (by simp [he'])).step hone _ (Panel.handle_step _ _ e)
      exact hquiet e (by simp)

/-- **The locks of the page hold.**  After any events, whatever is clicked in
whatever mode while requests of both kinds are on their way and fail or come
back in any order: of the panel's runs there is one if it says so and none
otherwise, and of manual ticks there is one in flight if the page says so and
none otherwise. -/
theorem page_locks (definitions : List ScenarioDefinition) (cols rows : ℕ)
    (service : SimulatorService) (es : List PanelEvent) :
    let p := (wholePage definitions).run (.load cols rows service) es
    p.runs.length = (if p.isAutoTestRunning then 1 else 0) ∧
      p.tab.posts.countP Post.isTick + p.tab.replies.countP Reply.isTick =
        if p.tab.page.manualTickInFlight then 1 else 0 := by
  intro p
  have h : p.Exclusive := wholePage_exclusive definitions cols rows service es
  have hflag : ∀ b : Bool, b.toNat = if b then 1 else 0 := by
    intro b
    cases b <;> rfl
  have hticks := h.oneTick
  unfold Tab.OneTick Tab.ticksInFlight at hticks
  rw [h.oneRun, hticks, hflag, hflag]
  exact ⟨rfl, rfl⟩

end RvcControl
