import RvcControl.BrowserTab
import RvcControl.History

/-!
# When the tab ticks by itself

The start handler installs the interval timer at its end, after two awaits: of
the response to the start, and of the first tick.  Reset and the auto tab stop
the timer, but they cannot stop a start handler that is still suspended.
`auto_tick_iff` says exactly when that goes wrong.
-/

namespace RvcControl

/-- The clicks by which the user says whether the tab shall tick by itself. -/
def TabEvent.decidesAutoTick : TabEvent → Bool
  | .clickStart => true
  | .clickReset => true
  | .clickAutoTab => true
  | _ => false

/-- The most recent of these clicks. -/
def latestClick (es : List TabEvent) : Option TabEvent :=
  (es.filter TabEvent.decidesAutoTick).getLast?

/-- The newest event decides, or else what was decided before. -/
theorem latestClick_concat (es : List TabEvent) (e : TabEvent) :
    latestClick (es ++ [e]) = if e.decidesAutoTick then some e else latestClick es := by
  unfold latestClick
  rw [List.filter_append]
  cases h : e.decidesAutoTick <;> simp [h]

/-- The event lets a start handler resume that goes on to install the timer:
it finds a tick in flight, or the tick it has sent itself comes back. -/
def Installs (w : Tab) : TabEvent → Prop
  | .deliver k =>
      (w.replies[k]? = some .start ∧ w.page.manualMode = true ∧
          w.page.manualTickInFlight = true) ∨
        ∃ state resets, w.replies[k]? = some (.tick state true resets)
  | .failPost k => ∃ sensors, w.posts[k]? = some (.tick sensors true)
  | .failReply k => ∃ state resets, w.replies[k]? = some (.tick state true resets)
  | _ => False

/-- Only ticks are awaited by the handler of ticks. -/
theorem Post.handler_eq_manualTick {r : Post} {fromStart : Bool} :
    r.handler = .manualTick fromStart ↔ ∃ sensors, r = .tick sensors fromStart := by
  cases r <;> simp [Post.handler]

theorem Reply.handler_eq_manualTick {r : Reply} {fromStart : Bool} :
    r.handler = .manualTick fromStart ↔ ∃ state resets, r = .tick state fromStart resets := by
  cases r <;> simp [Reply.handler]

namespace Tab

/-- A tick asked for turns the timer on only for a start handler that finds one
in flight. -/
theorem timer_runManualTick (w : Tab) (fromStart : Bool) :
    (w.runManualTick fromStart).page.manualAutoTickTimer = true ↔
      (w.page.manualTickInFlight = true ∧ fromStart = true) ∨
        w.page.manualAutoTickTimer = true := by
  unfold runManualTick
  cases w.page.manualTickInFlight <;> cases fromStart <;>
    simp [post, Page.startManualAutoTick]

/-- A failed tick stops the timer, unless a start handler has asked for it. -/
theorem timer_resumeFailed (w : Tab) (handler : Handler) :
    (w.resumeFailed handler).page.manualAutoTickTimer = true ↔
      handler = .manualTick true ∨
        w.page.manualAutoTickTimer = true ∧ ∀ fromStart, handler ≠ .manualTick fromStart := by
  cases handler with
  | manualTick fromStart =>
      cases fromStart <;> simp [resumeFailed, Page.startManualAutoTick, Page.stopManualAutoTick]
  | _ => simp [resumeFailed]

/-- **What one event does to the timer.**  It installs it, or the timer was on
and the event is no click that turns it off. -/
theorem timer_handle (w : Tab) (e : TabEvent) :
    (Installs w e → (w.handle e).page.manualAutoTickTimer = true) ∧
      ((w.handle e).page.manualAutoTickTimer = true →
        Installs w e ∨ w.page.manualAutoTickTimer = true ∧ e.decidesAutoTick = false) := by
  cases e with
  | clickStart => simp [Installs, handle, post, Page.stopManualAutoTick]
  | clickReset => simp [Installs, handle, post, Page.stopManualAutoTick]
  | clickAutoTab => simp [Installs, handle, Page.stopManualAutoTick]
  | clickManualTab => simp [Installs, handle, TabEvent.decidesAutoTick]
  | clickTick => simp [Installs, handle, timer_runManualTick, TabEvent.decidesAutoTick]
  | timerFires =>
      cases h : w.page.manualAutoTickTimer <;>
        simp [Installs, handle, h, timer_runManualTick, TabEvent.decidesAutoTick]
  | process k =>
      cases h : w.posts[k]? <;> simp [Installs, handle, h, TabEvent.decidesAutoTick]
  | deliver k =>
      cases h : w.replies[k]? with
      | none => simp [Installs, handle, h, TabEvent.decidesAutoTick]
      | some reply =>
          cases reply with
          | start =>
              cases hmode : w.page.manualMode <;> cases hflight : w.page.manualTickInFlight <;>
                simp [Installs, handle, resume, h, hmode, hflight, timer_runManualTick,
                  TabEvent.decidesAutoTick]
          | reset => simp [Installs, handle, resume, h, TabEvent.decidesAutoTick]
          | tick state fromStart resets =>
              cases fromStart <;>
                simp [Installs, handle, resume, h, Page.startManualAutoTick,
                  TabEvent.decidesAutoTick]
  | failPost k =>
      cases h : w.posts[k]? with
      | none => simp [Installs, handle, h, TabEvent.decidesAutoTick]
      | some r =>
          simp only [Installs, handle, h, timer_resumeFailed, Option.some.injEq,
            ← Post.handler_eq_manualTick]
          exact ⟨Or.inl, fun hon => hon.imp_right fun hkept => ⟨hkept.1, rfl⟩⟩
  | failReply k =>
      cases h : w.replies[k]? with
      | none => simp [Installs, handle, h, TabEvent.decidesAutoTick]
      | some r =>
          simp only [Installs, handle, h, timer_resumeFailed, Option.some.injEq,
            ← Reply.handler_eq_manualTick]
          exact ⟨Or.inl, fun hon => hon.imp_right fun hkept => ⟨hkept.1, rfl⟩⟩

end Tab

/-- In the tab, the timer may be on only if the latest click was a start. -/
def TicksOnlyAfterStart (es : List TabEvent) (w : Tab) : Prop :=
  w.page.manualAutoTickTimer = true → latestClick es = some .clickStart

/-- An event that installs the timer is no click. -/
theorem Installs.not_decides {w : Tab} {e : TabEvent} (h : Installs w e) :
    e.decidesAutoTick = false := by
  cases e <;> first | rfl | exact h.elim

/-- **When Reset and the auto tab really stop the automatic ticking.**  In a
run the timer is on only after a start click, at every point of it, if and only
if a start was the latest click whenever a start handler resumed and went on
to install the timer. -/
theorem auto_tick_iff (cols rows : ℕ) (service : SimulatorService) (es : List TabEvent) :
    (∀ n, TicksOnlyAfterStart (es.take n)
        (browserTab.run (.load cols rows service) (es.take n))) ↔
      History.Historically (fun before e =>
        Installs (browserTab.run (.load cols rows service) before) e →
          latestClick before = some .clickStart) es := by
  constructor
  · intro h before e after hsplit hinstalls
    have hon := ((browserTab.run (.load cols rows service) before).timer_handle e).1 hinstalls
    have hat := h (before.length + 1)
    rw [hsplit, List.take_length_add_append, List.take_one, List.head?_cons, Option.toList_some,
      browserTab.run_concat] at hat
    have hlatest := hat hon
    rwa [latestClick_concat, hinstalls.not_decides] at hlatest
  · intro h n
    have htake := h
    rw [← List.take_append_drop n es] at htake
    replace htake := htake.of_append
    generalize es.take n = es at htake
    induction es using List.reverseRecOn with
    | nil =>
        intro hon
        cases hon
    | append_singleton es e ih =>
        obtain ⟨hes, he⟩ := History.historically_concat.mp htake
        intro hon
        rw [browserTab.run_concat] at hon
        rw [latestClick_concat]
        rcases ((browserTab.run (.load cols rows service) es).timer_handle e).2 hon with
          hinstalls | ⟨hbefore, hdecides⟩
        · rw [hinstalls.not_decides]
          exact he hinstalls
        · rw [hdecides]
          exact ih hes hbefore

/-- A reset that falls between a start and its response does not stop the
automatic ticking. -/
theorem auto_tick_survives_reset :
    let es : List TabEvent :=
      [.clickStart, .clickReset, .process 0, .process 0, .deliver 0, .deliver 0, .process 0,
        .deliver 0]
    ¬ TicksOnlyAfterStart es (browserTab.run (.load 18 12 .new) es) := by
  intro es h
  have hlatest := h rfl
  exact absurd hlatest (by decide)

end RvcControl
