import RvcControl.AtomicRounds
import RvcControl.PanelProgress

/-!
# The page comes to rest

A page that nobody clicks on, whose timer is off and whose server hears from
nobody else still has things on their way: requests and answers of manual mode,
a run of the panel, lists that are fetched.  Every delivery, whether it brings
an answer or a failure, makes them less, so in whatever order they come, they
come to an end; and where no delivery is due any more, nothing is locked.
-/

namespace RvcControl

/-! ## What is on its way -/

/-- The deliveries a request stands for.  The answer to a start is followed by a
tick. -/
def Post.onTheWay : Post → ℕ
  | .start => 4
  | .reset => 2
  | .tick _ _ => 2

def Reply.onTheWay : Reply → ℕ
  | .start => 3
  | .reset => 1
  | .tick _ _ _ => 1

/-- A request stands for at least one delivery. -/
theorem Post.onTheWay_pos (r : Post) : 0 < r.onTheWay := by
  cases r <;> exact Nat.succ_pos _

theorem Reply.onTheWay_pos (r : Reply) : 0 < r.onTheWay := by
  cases r <;> exact Nat.succ_pos _

namespace Tab

def onTheWay (w : Tab) : ℕ :=
  (w.posts.map Post.onTheWay).sum + (w.replies.map Reply.onTheWay).sum

end Tab

/-- Something arrives, or its timeout is over, or it fails. -/
def PanelEvent.isDelivery : PanelEvent → Bool
  | .manual (.process _) | .manual (.deliver _) => true
  | .manual (.failPost _) | .manual (.failReply _) => true
  | .listed | .listFails => true
  | .serve _ | .deliver _ | .wake _ | .fail _ => true
  | _ => false

namespace Panel

def onTheWay (definitions : List ScenarioDefinition) (p : Panel) : ℕ :=
  p.remaining definitions + p.tab.onTheWay + p.listing

/-- The page waits for this delivery.  A run can fail while it waits for the
server. -/
def isDue (p : Panel) : PanelEvent → Bool
  | .manual (.process k) | .manual (.failPost k) => k < p.tab.posts.length
  | .manual (.deliver k) | .manual (.failReply k) => k < p.tab.replies.length
  | .listed | .listFails => 0 < p.listing
  | .serve k => p.runs[k]?.map (AutoRun.awaited k) = some (.serve k)
  | .deliver k => p.runs[k]?.map (AutoRun.awaited k) = some (.deliver k)
  | .wake k => p.runs[k]?.map (AutoRun.awaited k) = some (.wake k)
  | .fail k => (p.runs[k]?.map (AutoRun.awaited k)).any fun e => e ≠ .wake k
  | _ => false

/-- Nothing is on its way, and nothing is locked. -/
structure AtRest (p : Panel) : Prop extends Settled p where
  running : p.isAutoTestRunning = false
  listing : p.listing = 0

end Panel

/-! ## Manual mode -/

section EraseIdx

variable {α : Type*} {l : List α} {k : ℕ} {a : α}

/-- What is taken out is missing from the sum. -/
theorem sum_map_eraseIdx (f : α → ℕ) (h : l[k]? = some a) :
    ((l.eraseIdx k).map f).sum + f a = (l.map f).sum := by
  rw [← ((cons_eraseIdx_perm h).map f).sum_eq, List.map_cons, List.sum_cons, Nat.add_comm]

end EraseIdx

namespace Tab

variable {w : Tab}

/-- A tick that is posted is two deliveries away from its end. -/
theorem onTheWay_runManualTick (w : Tab) (fromStart : Bool) :
    (w.runManualTick fromStart).onTheWay ≤ w.onTheWay + 2 := by
  unfold runManualTick
  split
  · split <;> exact Nat.le_add_right _ _
  · simp only [onTheWay, post, List.map_append, List.sum_append, List.map_cons, List.map_nil,
      List.sum_cons, List.sum_nil, Post.onTheWay]
    omega

/-- A handler that goes on asks for less than it was waiting for. -/
theorem onTheWay_resume (w : Tab) (r : Reply) :
    (w.resume r).onTheWay + 1 ≤ w.onTheWay + r.onTheWay := by
  cases r with
  | start =>
      have htick := w.onTheWay_runManualTick true
      rw [resume]
      split
      · rw [Reply.onTheWay]
        omega
      · rw [Reply.onTheWay]
        omega
  | reset => exact le_rfl
  | tick state fromStart resets => exact le_rfl

/-- One that has failed asks for nothing. -/
theorem onTheWay_resumeFailed (w : Tab) (handler : Handler) :
    (w.resumeFailed handler).onTheWay = w.onTheWay := by
  cases handler <;> rfl

/-- An answer is nearer than its request. -/
theorem process_onTheWay (b : Backend) (r : Post) :
    (b.process r).2.onTheWay + 1 = r.onTheWay := by
  cases r <;> rfl

/-- **A delivery of manual mode** leaves less on its way. -/
theorem onTheWay_process {k : ℕ} (hk : k < w.posts.length) :
    (w.handle (.process k)).onTheWay + 1 ≤ w.onTheWay := by
  have hr : w.posts[k]? = some w.posts[k] := List.getElem?_eq_getElem hk
  have hsum := sum_map_eraseIdx Post.onTheWay hr
  have hless := process_onTheWay w.backend w.posts[k]
  rw [handle, hr]
  simp only [onTheWay, List.map_append, List.sum_append, List.map_cons, List.map_nil,
    List.sum_cons, List.sum_nil]
  omega

/-- An answer that comes makes it less. -/
theorem onTheWay_deliver {k : ℕ} (hk : k < w.replies.length) :
    (w.handle (.deliver k)).onTheWay + 1 ≤ w.onTheWay := by
  have hr : w.replies[k]? = some w.replies[k] := List.getElem?_eq_getElem hk
  have hsum := sum_map_eraseIdx Reply.onTheWay hr
  have hless := onTheWay_resume { w with replies := w.replies.eraseIdx k } w.replies[k]
  rw [handle, hr]
  unfold onTheWay at hless ⊢
  dsimp only at hless ⊢
  omega

theorem onTheWay_failPost {k : ℕ} (hk : k < w.posts.length) :
    (w.handle (.failPost k)).onTheWay + 1 ≤ w.onTheWay := by
  have hr : w.posts[k]? = some w.posts[k] := List.getElem?_eq_getElem hk
  have hsum := sum_map_eraseIdx Post.onTheWay hr
  have hpos := w.posts[k].onTheWay_pos
  rw [handle, hr]
  dsimp only
  rw [onTheWay_resumeFailed]
  unfold onTheWay
  dsimp only
  omega

theorem onTheWay_failReply {k : ℕ} (hk : k < w.replies.length) :
    (w.handle (.failReply k)).onTheWay + 1 ≤ w.onTheWay := by
  have hr : w.replies[k]? = some w.replies[k] := List.getElem?_eq_getElem hk
  have hsum := sum_map_eraseIdx Reply.onTheWay hr
  have hpos := w.replies[k].onTheWay_pos
  rw [handle, hr]
  dsimp only
  rw [onTheWay_resumeFailed]
  unfold onTheWay
  dsimp only
  omega

end Tab

/-! ## The whole page -/

namespace Panel

variable {definitions : List ScenarioDefinition} {clicked : Option (List String) → Prop}
  {p : Panel}

/-- On the page only the tab's share changes. -/
theorem handleManual_onTheWay {e : TabEvent} (he : (PanelEvent.manual e).isDelivery = true) :
    (p.handleManual e).onTheWay definitions + p.tab.onTheWay =
      p.onTheWay definitions + (p.tab.handle e).onTheWay := by
  have hdisturb : p.disturb.remaining definitions = p.remaining definitions := by
    show ((p.runs.map AutoRun.disturb).map _).sum = _
    rw [List.map_map]
    exact congrArg (fun f => (p.runs.map f).sum) (funext remaining_disturb)
  have hsame : ∀ {p' : Panel}, p'.remaining definitions = p.remaining definitions →
      p'.tab = p.tab.handle e → p'.listing = p.listing →
      p'.onTheWay definitions + p.tab.onTheWay =
        p.onTheWay definitions + (p.tab.handle e).onTheWay := by
    intro p' hremaining htab hlisting
    unfold onTheWay
    rw [hremaining, htab, hlisting]
    omega
  cases e with
  | process k =>
      unfold handleManual
      dsimp only
      split
      · exact hsame hdisturb rfl rfl
      · exact hsame rfl rfl rfl
  | deliver k => exact hsame rfl rfl rfl
  | failPost k => exact hsame rfl rfl rfl
  | failReply k => exact hsame rfl rfl rfl
  | _ => cases he

/-- What a run does leaves the rest as it is. -/
theorem Step.rest {e : PanelEvent} {p' : Panel} (h : p.Step definitions e p') {k : ℕ}
    (he : e = .serve k ∨ e = .deliver k ∨ e = .wake k ∨ e = .fail k) :
    p'.tab.onTheWay = p.tab.onTheWay ∧ p'.listing = p.listing := by
  have hfetched : ∀ (p' : Panel) (k : ℕ) (ids : Option (List String))
      (allScenarios : List ScenarioView),
      (p'.fetched k ids allScenarios).tab.onTheWay = p'.tab.onTheWay ∧
        (p'.fetched k ids allScenarios).listing = p'.listing := by
    intro p' k ids allScenarios
    rw [fetched]
    split <;> exact ⟨rfl, rfl⟩
  cases h with
  | catalogue => exact hfetched _ _ _ _
  | returned =>
      rw [Panel.returned]
      split <;> exact ⟨rfl, rfl⟩
  | manual => simp at he
  | listed => simp at he
  | listFails => simp at he
  | beginTour => simp at he
  | _ => exact ⟨rfl, rfl⟩

/-- The page has at most one run. -/
theorem Exclusive.runs_eq (h : p.Exclusive) {k : ℕ} {run : AutoRun} (hrun : p.runs[k]? = some run) :
    k = 0 ∧ p.runs = [run] := by
  obtain ⟨hk, hget⟩ := List.getElem?_eq_some_iff.mp hrun
  have hone := h.oneRun
  have hle := Bool.toNat_le p.isAutoTestRunning
  obtain ⟨run', hruns⟩ := List.length_eq_one_iff.mp (show p.runs.length = 1 by omega)
  have hzero : k = 0 := by omega
  subst hzero
  simp only [hruns, List.getElem_cons_zero] at hget
  exact ⟨rfl, by rw [hruns, hget]⟩

/-- A run that waits for the server fails with its request. -/
theorem failRun_of_awaited {run : AutoRun} {k : ℕ} (h : run.awaited k ≠ .wake k) :
    p.failRun k run = p.finish k .failed := by
  cases run with
  | fetching ids x => rfl
  | touring t =>
      rw [AutoRun.awaited] at h
      rw [failRun]
      cases hawaits : t.single.awaits with
      | reset x => rfl
      | start x => rfl
      | tick x => rfl
      | _ =>
          rw [hawaits] at h
          exact absurd rfl h

/-- **A delivery that is due** brings the run nearer to its end. -/
theorem remaining_of_isDue (hexclusive : p.Exclusive) (hsound : p.Sound definitions clicked)
    (hplain : ∀ d ∈ definitions, d.Plain) {k : ℕ} {e : PanelEvent}
    (he : e = .serve k ∨ e = .deliver k ∨ e = .wake k ∨ e = .fail k) (hdue : p.isDue e = true) :
    (p.handle definitions e).remaining definitions + 1 ≤ p.remaining definitions := by
  have hawaited : ∀ {e : PanelEvent}, p.runs[k]?.map (AutoRun.awaited k) = some e →
      (p.handle definitions e).remaining definitions + 1 ≤ p.remaining definitions := by
    intro e hmap
    obtain ⟨run, hrun, rfl⟩ := Option.map_eq_some_iff.mp hmap
    obtain ⟨rfl, hruns⟩ := hexclusive.runs_eq hrun
    have hends := endsWell_awaited hsound hplain hruns
    have hpos := run.remaining_pos definitions
    rw [hends.remaining, remaining_of_runs hruns]
    omega
  rcases he with rfl | rfl | rfl | rfl
  · exact hawaited (of_decide_eq_true hdue)
  · exact hawaited (of_decide_eq_true hdue)
  · exact hawaited (of_decide_eq_true hdue)
  · cases hrun : p.runs[k]? with
    | none =>
        rw [isDue, hrun] at hdue
        cases hdue
    | some run =>
        rw [isDue, hrun] at hdue
        have hfails : run.awaited k ≠ .wake k := of_decide_eq_true hdue
        obtain ⟨rfl, hruns⟩ := hexclusive.runs_eq hrun
        have hended : (p.finish 0 .failed).remaining definitions = 0 := by
          show ((p.runs.eraseIdx 0).map _).sum = 0
          rw [hruns]
          rfl
        have hpos := run.remaining_pos definitions
        rw [handle, hrun, Option.map_some, Option.getD_some, failRun_of_awaited hfails, hended,
          remaining_of_runs hruns]
        omega

/-- Only a run that waits for its timeout wakes up. -/
theorem wakeRun_of_awaited {run : AutoRun} {k : ℕ} (h : run.awaited k ≠ .wake k) :
    p.wakeRun k run = p := by
  cases run with
  | fetching ids x => rfl
  | touring t =>
      rw [AutoRun.awaited] at h
      rw [wakeRun]
      cases hawaits : t.single.awaits with
      | reset x => rfl
      | start x => rfl
      | tick x => rfl
      | _ =>
          rw [hawaits] at h
          exact absurd rfl h

/-- A run that does not wait for the server is not served. -/
theorem serveRun_of_awaited {run : AutoRun} {k : ℕ} (h : run.awaited k ≠ .serve k) :
    p.serveRun definitions k run = p := by
  cases run with
  | fetching ids x =>
      cases x with
      | posted => exact absurd rfl h
      | answered answer => rfl
  | touring t =>
      rw [serveRun]
      cases hrequest : t.single.request? with
      | none => rfl
      | some request => exact absurd (SingleRun.awaited_of_request? hrequest) h

/-- One that does not wait for an answer gets none. -/
theorem deliverRun_of_awaited {run : AutoRun} {k : ℕ} (h : run.awaited k ≠ .deliver k) :
    p.deliverRun k run = p := by
  cases run with
  | fetching ids x =>
      cases x with
      | posted => rfl
      | answered answer => exact absurd rfl h
  | touring t => exact deliverRun_unanswered (mt Await.awaited_of_isAnswered h) k

/-- A run that does not wait for its timeout fails with its request, and one that
does cannot fail. -/
theorem failRun_of_wake {run : AutoRun} {k : ℕ} (h : run.awaited k = .wake k) :
    p.failRun k run = p := by
  cases run with
  | fetching ids x => cases x <;> cases h
  | touring t =>
      rw [AutoRun.awaited] at h
      rw [failRun]
      cases hawaits : t.single.awaits with
      | reset x => rw [hawaits] at h; cases x <;> cases h
      | start x => rw [hawaits] at h; cases x <;> cases h
      | tick x => rw [hawaits] at h; cases x <;> cases h
      | _ => rfl

/-- What is not due does nothing. -/
theorem handle_of_not_isDue {e : PanelEvent} (he : e.isDelivery = true)
    (hdue : p.isDue e = false) : p.handle definitions e = p := by
  have hposts : ∀ {k : ℕ}, ¬ k < p.tab.posts.length → p.tab.posts[k]? = none :=
    fun hk => List.getElem?_eq_none (Nat.le_of_not_lt hk)
  have hreplies : ∀ {k : ℕ}, ¬ k < p.tab.replies.length → p.tab.replies[k]? = none :=
    fun hk => List.getElem?_eq_none (Nat.le_of_not_lt hk)
  have hstay : ∀ {e : TabEvent}, p.tab.handle e = p.tab →
      ({ p with tab := p.tab.handle e } : Panel) = p := by
    intro e h
    rw [h]
  cases e with
  | manual e =>
      cases e with
      | process k =>
          have hk : ¬ k < p.tab.posts.length := of_decide_eq_false hdue
          refine (if_neg hk).trans (hstay ?_)
          rw [Tab.handle, hposts hk]
      | deliver k =>
          refine hstay (e := .deliver k) ?_
          rw [Tab.handle, hreplies (of_decide_eq_false hdue)]
      | failPost k =>
          refine hstay (e := .failPost k) ?_
          rw [Tab.handle, hposts (of_decide_eq_false hdue)]
      | failReply k =>
          refine hstay (e := .failReply k) ?_
          rw [Tab.handle, hreplies (of_decide_eq_false hdue)]
      | _ => cases he
  | listed =>
      have hzero : p.listing = 0 := Nat.eq_zero_of_not_pos (of_decide_eq_false hdue)
      rw [handle, hzero]
  | listFails =>
      have hzero : p.listing = 0 := Nat.eq_zero_of_not_pos (of_decide_eq_false hdue)
      rw [handle, hzero, Nat.zero_sub, ← hzero]
  | serve k =>
      rw [handle]
      cases hrun : p.runs[k]? with
      | none => rfl
      | some run =>
          rw [isDue, hrun] at hdue
          exact serveRun_of_awaited fun h => of_decide_eq_false hdue (congrArg some h)
  | deliver k =>
      rw [handle]
      cases hrun : p.runs[k]? with
      | none => rfl
      | some run =>
          rw [isDue, hrun] at hdue
          exact deliverRun_of_awaited fun h => of_decide_eq_false hdue (congrArg some h)
  | wake k =>
      rw [handle]
      cases hrun : p.runs[k]? with
      | none => rfl
      | some run =>
          rw [isDue, hrun] at hdue
          exact wakeRun_of_awaited fun h => of_decide_eq_false hdue (congrArg some h)
  | fail k =>
      rw [handle]
      cases hrun : p.runs[k]? with
      | none => rfl
      | some run =>
          rw [isDue, hrun] at hdue
          exact failRun_of_wake (not_not.mp (of_decide_eq_false hdue))
  | _ => cases he

/-- **One delivery**: if it is due, less is on its way than before. -/
theorem onTheWay_handle (hexclusive : p.Exclusive) (hsound : p.Sound definitions clicked)
    (hplain : ∀ d ∈ definitions, d.Plain) {e : PanelEvent} (he : e.isDelivery = true) :
    (p.handle definitions e).onTheWay definitions + (p.isDue e).toNat ≤
      p.onTheWay definitions := by
  cases hdue : p.isDue e with
  | false => rw [handle_of_not_isDue he hdue, Bool.toNat_false, Nat.add_zero]
  | true =>
      have hstep := p.handle_step definitions e
      have hrun : ∀ k, e = .serve k ∨ e = .deliver k ∨ e = .wake k ∨ e = .fail k →
          (p.handle definitions e).onTheWay definitions + 1 ≤ p.onTheWay definitions := by
        intro k hown
        have hless := remaining_of_isDue hexclusive hsound hplain hown hdue
        obtain ⟨htab, hlisting⟩ := hstep.rest hown
        unfold onTheWay
        omega
      have hmanual : ∀ e', e = .manual e' → (p.tab.handle e').onTheWay + 1 ≤ p.tab.onTheWay →
          (p.handle definitions e).onTheWay definitions + 1 ≤ p.onTheWay definitions := by
        rintro e' rfl hless
        have hsum : (p.handleManual e').onTheWay definitions + p.tab.onTheWay =
            p.onTheWay definitions + (p.tab.handle e').onTheWay := handleManual_onTheWay he
        rw [handle]
        omega
      rw [Bool.toNat_true]
      cases e with
      | manual e =>
          cases e with
          | process k => exact hmanual _ rfl (Tab.onTheWay_process (of_decide_eq_true hdue))
          | deliver k => exact hmanual _ rfl (Tab.onTheWay_deliver (of_decide_eq_true hdue))
          | failPost k => exact hmanual _ rfl (Tab.onTheWay_failPost (of_decide_eq_true hdue))
          | failReply k => exact hmanual _ rfl (Tab.onTheWay_failReply (of_decide_eq_true hdue))
          | _ => cases he
      | listed =>
          obtain ⟨listing, hlisting⟩ := Nat.exists_eq_succ_of_ne_zero
            (Nat.pos_iff_ne_zero.mp (of_decide_eq_true hdue))
          rw [handle, hlisting]
          unfold onTheWay
          rw [hlisting]
          exact le_rfl
      | listFails =>
          have hpos : 0 < p.listing := of_decide_eq_true hdue
          rw [handle]
          show p.remaining definitions + p.tab.onTheWay + (p.listing - 1) + 1 ≤
            p.remaining definitions + p.tab.onTheWay + p.listing
          omega
      | serve k => exact hrun k (.inl rfl)
      | deliver k => exact hrun k (.inr (.inl rfl))
      | wake k => exact hrun k (.inr (.inr (.inl rfl)))
      | fail k => exact hrun k (.inr (.inr (.inr rfl)))
      | _ => cases he

/-- Where nothing is due, the page is at rest. -/
theorem atRest_iff (hexclusive : p.Exclusive) : p.AtRest ↔ ∀ e, p.isDue e = false := by
  constructor
  · intro h e
    cases e with
    | manual e =>
        cases e <;> simp [isDue, h.posts, h.replies]
    | _ => simp [isDue, h.runs, h.listing]
  · intro h
    have hposts : p.tab.posts = [] := by
      have hnone := of_decide_eq_false (h (.manual (.process 0)))
      exact List.length_eq_zero_iff.mp (Nat.eq_zero_of_not_pos hnone)
    have hreplies : p.tab.replies = [] := by
      have hnone := of_decide_eq_false (h (.manual (.deliver 0)))
      exact List.length_eq_zero_iff.mp (Nat.eq_zero_of_not_pos hnone)
    have hlisting : p.listing = 0 := Nat.eq_zero_of_not_pos (of_decide_eq_false (h .listed))
    have hruns : p.runs = [] := by
      cases hruns : p.runs with
      | nil => rfl
      | cons run runs =>
          have hget : p.runs[0]? = some run := by rw [hruns]; rfl
          have hnever : ∀ e, run.awaited 0 = e → p.isDue e = false := fun e _ => h e
          rcases awaited_cases run with hserve | hdeliver | hwake
          · have hdue := hnever _ hserve
            rw [isDue, hget] at hdue
            exact absurd (congrArg some hserve) (of_decide_eq_false hdue)
          · have hdue := hnever _ hdeliver
            rw [isDue, hget] at hdue
            exact absurd (congrArg some hdeliver) (of_decide_eq_false hdue)
          · have hdue := hnever _ hwake
            rw [isDue, hget] at hdue
            exact absurd (congrArg some hwake) (of_decide_eq_false hdue)
    have hone := hexclusive.oneRun
    have htick := hexclusive.oneTick
    unfold Tab.OneTick Tab.ticksInFlight at htick
    rw [hposts, hreplies] at htick
    rw [hruns] at hone
    exact ⟨⟨hposts, hreplies, Bool.toNat_eq_zero.mp htick.symm, hruns⟩,
      Bool.toNat_eq_zero.mp hone.symm, hlisting⟩

end Panel

/-- **The page comes to rest.**  Take any state of the page, in manual mode or
with a run of the panel going on, and whatever is on its way.  From there on at
most `onTheWay` deliveries are due, in whatever order they come and whichever of
them fail; the others do nothing.  And where none is due, nothing is on its way,
no run goes on and neither lock of the page is held. -/
theorem page_comes_to_rest {definitions : List ScenarioDefinition}
    (hposts : ∀ d ∈ definitions, d.Postable) (cols rows : ℕ) (calls : List SimulatorService.Call)
    (es : List PanelEvent) :
    let page := wholePage definitions
    let p := page.run (.load cols rows (.after calls)) es
    (∀ more : List PanelEvent, (∀ e ∈ more, e.isDelivery = true) →
        page.countAlong Panel.isDue p more ≤ p.onTheWay definitions) ∧
      (∀ e, e.isDelivery = true → p.isDue e = false → page.next p e = p) ∧
      (p.AtRest ↔ ∀ e, p.isDue e = false) := by
  intro page p
  have hexclusive : p.Exclusive := wholePage_exclusive definitions cols rows (.after calls) es
  have hsound := wholePage_sound hposts cols rows calls es
  refine ⟨?_, fun e he hdue => Panel.handle_of_not_isDue he hdue, Panel.atRest_iff hexclusive⟩
  intro more hmore
  apply page.countAlong_le (P := fun p => p.Exclusive ∧
    p.Sound definitions fun ids => .clickRun ids ∈ es) _ ⟨hexclusive, hsound⟩ hmore
  rintro p e ⟨hexclusive, hsound⟩ he
  have hstep := p.handle_step definitions e
  have hless := Panel.onTheWay_handle hexclusive hsound (fun d hd => (hposts d hd).toPlain) he
  refine ⟨⟨hexclusive.step hstep, hsound.step hposts ?_ hstep⟩, hless⟩
  rintro ids rfl
  cases he

/-- The theorem for a start and the run of one of the server's scenarios, whose
catalogue comes in before the answer to the start; the tick after the start
fails. -/
theorem page_comes_to_rest_server :
    let page := wholePage getScenarioDefinitions
    let p := page.run (.load 18 12 .new) [.manual .clickStart, .clickRun (some ["dust_boost"])]
    p.onTheWay getScenarioDefinitions = 20 ∧
      page.countAlong Panel.isDue p
        [.serve 0, .manual (.process 0), .deliver 0, .manual (.deliver 0), .manual (.failPost 0),
          .serve 0, .deliver 0] ≤ 20 := by
  intro page p
  have hdeliveries : ∀ e ∈ ([.serve 0, .manual (.process 0), .deliver 0, .manual (.deliver 0),
      .manual (.failPost 0), .serve 0, .deliver 0] : List PanelEvent), e.isDelivery = true := by
    decide
  have hway : p.onTheWay getScenarioDefinitions = 20 := by decide
  refine ⟨hway, ?_⟩
  rw [← hway]
  exact (page_comes_to_rest getScenarioDefinitions_postable 18 12 []
    [.manual .clickStart, .clickRun (some ["dust_boost"])]).1 _ hdeliveries

end RvcControl
