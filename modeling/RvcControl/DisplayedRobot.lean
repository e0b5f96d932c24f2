import RvcControl.BrowserTab
import RvcControl.CommandLog
import RvcControl.History
import RvcControl.Roaming

/-!
# The robot the page displays

The server issues motion commands, and the page moves its robot by the
responses it gets.  Ticks never overlap one another, but a tick and a reset
may, and their responses may come back in either order.

`Follows` compares the two sides while messages are in flight: let the resets
and then the tick that are still on their way come back, and the page's robot
is where the server's commands since its last reset have taken it.  Every event
keeps that, as long as no tick crosses a reset on the way back
(`NoCrossing`).
-/

namespace RvcControl

/-- The commands that can change a robot's pose. -/
def MotionCommand.moves : MotionCommand → Bool
  | .none => false
  | .stop => false
  | _ => true

namespace Robot

variable (blocked : Cell → Bool)

def obeyAll (r : Robot) (commands : List MotionCommand) : Robot :=
  commands.foldl (obey blocked) r

@[simp] theorem obeyAll_nil (r : Robot) : r.obeyAll blocked [] = r := rfl

/-- Commands are obeyed one after the other. -/
theorem obeyAll_append (r : Robot) (commands more : List MotionCommand) :
    r.obeyAll blocked (commands ++ more) = (r.obeyAll blocked commands).obeyAll blocked more := by
  simp [obeyAll]

/-- One command is obeyed by itself. -/
theorem obeyAll_singleton (r : Robot) (command : MotionCommand) :
    r.obeyAll blocked [command] = r.obey blocked command := rfl

/-- A command that does not move the robot leaves it. -/
theorem obey_of_not_moves (r : Robot) {command : MotionCommand} (h : command.moves = false) :
    r.obey blocked command = r := by
  cases command <;> first | rfl | cases h

end Robot

/-- Commands move the robot of a grid as they move a robot among its walls. -/
theorem Grid.foldl_applyMotion_robot (g : Grid) (commands : List MotionCommand) :
    (commands.foldl applyMotion g).robot = g.robot.obeyAll g.isBlocked commands := by
  have hwalls : ∀ {h : Grid}, (∀ c, h.isBlocked c = g.isBlocked c) →
      (commands.foldl applyMotion h).robot = h.robot.obeyAll g.isBlocked commands := by
    induction commands with
    | nil =>
        intro h _
        rfl
    | cons command commands ih =>
        intro h hsame
        rw [List.foldl_cons, ih]
        · rw [Grid.applyMotion_eq_obey hsame]
          rfl
        · intro c
          rw [(h.applyMotion_sameWalls command).isBlocked, hsame]
  exact hwalls fun _ => rfl

/-- **What one tick of the server issues** moves a robot as the motion it
returns: one command if the session is running, and nothing otherwise. -/
theorem obeyAll_motionsIssued {s : SimulatorService} {v : Option LiveSession} (h : Presents s v)
    (blocked : Cell → Bool) (r : Robot) (sensors : SensorSnapshot) :
    r.obeyAll blocked (motionsIssued s (s.tick sensors).1) =
      r.obey blocked (s.tick sensors).2.lastMotion := by
  cases v with
  | some v =>
      have hlogged := h.tick_logged sensors 0
      have hstate : (s.tick sensors).2 = (v.tick sensors 0).state :=
        Option.some.inj hlogged.returned
      have hissued : motionsIssued s (s.tick sensors).1 = [(s.tick sensors).2.lastMotion] := by
        have hmotions := hlogged.motions
        rw [← hstate] at hmotions
        show List.drop _ (simulator.next s (.tick sensors 0)).cleaningService.motionActuator.history
          = _
        rw [hmotions, List.drop_left]
      rw [hissued, Robot.obeyAll_singleton]
  | none =>
      have hignored := h.tick_ignored sensors 0
      have hstate : (s.tick sensors).2 = s.getState := Option.some.inj hignored.returned
      have hissued : motionsIssued s (s.tick sensors).1 = [] := by
        show List.drop _ (simulator.next s (.tick sensors 0)).cleaningService.motionActuator.history
          = _
        rw [hignored.motions, List.drop_length]
      rw [hissued, hstate, h.getState]
      rfl

section EraseIdx

variable {α : Type*} {l : List α} {k : ℕ} {a : α}

/-- What is taken out, with the rest, is the list in another order. -/
theorem cons_eraseIdx_perm (h : l[k]? = some a) : (a :: l.eraseIdx k).Perm l := by
  obtain ⟨hlt, hget⟩ := List.getElem?_eq_some_iff.mp h
  exact hget ▸ List.getElem_cons_eraseIdx_perm hlt

/-- An element is the one taken out or is among the rest. -/
theorem mem_iff_eraseIdx (h : l[k]? = some a) (b : α) : b ∈ l ↔ b = a ∨ b ∈ l.eraseIdx k := by
  rw [← (cons_eraseIdx_perm h).mem_iff, List.mem_cons]

/-- Taking an element out is counted. -/
theorem countP_eraseIdx (p : α → Bool) (h : l[k]? = some a) :
    (l.eraseIdx k).countP p + (if p a then 1 else 0) = l.countP p := by
  rw [← (cons_eraseIdx_perm h).countP_eq p, List.countP_cons]

/-- An element that is mapped to nothing can be taken out. -/
theorem filterMap_eraseIdx {β : Type*} {f : α → Option β} (h : l[k]? = some a)
    (hnone : f a = none) : (l.eraseIdx k).filterMap f = l.filterMap f := by
  obtain ⟨hlt, hget⟩ := List.getElem?_eq_some_iff.mp h
  calc
    _ = (l.take k ++ l[k] :: l.drop (k + 1)).filterMap f := by
        rw [List.eraseIdx_eq_take_drop_succ]
        simp [hget, hnone]
    _ = l.filterMap f := by rw [List.getElem_cons_drop, List.take_append_drop]

end EraseIdx

/-! ## What is on its way back -/

def Post.isTick : Post → Bool
  | .tick _ _ => true
  | _ => false

def Reply.isTick : Reply → Bool
  | .tick _ _ _ => true
  | _ => false

namespace Reply

/-- The command of a tick processed after the last of `resets` resets. -/
def commandSince (resets : ℕ) : Reply → Option MotionCommand
  | .tick state _ n => if n = resets then some state.lastMotion else none
  | _ => none

/-- No note speaks of resets to come. -/
def Stamped (resets : ℕ) : Reply → Prop
  | .tick _ _ n => n ≤ resets
  | _ => True

section Simp

variable (resets : ℕ) (state : SimulatorState) (fromStart : Bool) (n : ℕ)

@[simp] theorem commandSince_start : commandSince resets .start = none := rfl

@[simp] theorem commandSince_reset : commandSince resets .reset = none := rfl

@[simp] theorem commandSince_tick :
    commandSince resets (.tick state fromStart n) =
      if n = resets then some state.lastMotion else none := rfl

end Simp

/-- A stamp stays valid as further resets are processed. -/
theorem Stamped.mono {m n : ℕ} (h : m ≤ n) {r : Reply} (hr : r.Stamped m) : r.Stamped n := by
  cases r with
  | tick state fromStart k => exact le_trans hr h
  | _ => trivial

end Reply

namespace Tab

/-- The commands in flight that the page has yet to apply. -/
def returning (w : Tab) : List MotionCommand :=
  w.replies.filterMap (Reply.commandSince w.backend.resets)

/-- The page's robot, once the resets in flight have come back. -/
def settledRobot (cols rows : ℕ) (w : Tab) : Robot :=
  if .reset ∈ w.replies then (manualWorld cols rows).robot else w.page.grid.robot

end Tab

/-- The event lets no tick that moves the robot cross a reset on the way back
to the page: when it is delivered, a reset is in flight exactly if the server
has processed one since.  It does not matter while a reset is still to be
processed. -/
def NoCrossing (w : Tab) : TabEvent → Prop
  | .deliver k =>
      match w.replies[k]? with
      | some (.tick state _ resets) =>
          .reset ∉ w.posts → state.lastMotion.moves = true →
            (.reset ∈ w.replies ↔ resets ≠ w.backend.resets)
      | _ => True
  | _ => True

/-- Page and server agree but for what is in flight, unless a reset is still to
be processed. -/
structure Follows (cols rows : ℕ) (w : Tab) : Prop where
  service : ∃ v, Presents w.backend.service v
  walls : w.page.grid.SameWalls (manualWorld cols rows)
  oneTick : w.posts.countP Post.isTick + w.replies.countP Reply.isTick =
    if w.page.manualTickInFlight then 1 else 0
  stamps : ∀ r ∈ w.replies, r.Stamped w.backend.resets
  pose : .reset ∉ w.posts →
    (w.settledRobot cols rows).obeyAll (manualWorld cols rows).isBlocked w.returning =
      (manualWorld cols rows).robot.obeyAll (manualWorld cols rows).isBlocked w.backend.issued

namespace Follows

variable {cols rows : ℕ} {w w' : Tab}

/-- A page that has just been loaded is where its server expects it. -/
theorem load (cols rows : ℕ) (calls : List SimulatorService.Call) :
    Follows cols rows (.load cols rows (.after calls)) where
  service := ⟨_, after_presents calls⟩
  walls := ⟨rfl, rfl, rfl⟩
  oneTick := rfl
  stamps := by simp [Tab.load]
  pose := fun _ => rfl

/-- Only grid, server, responses, the number of ticks and the resets to be
processed matter. -/
theorem congr (h : Follows cols rows w) (hgrid : w'.page.grid = w.page.grid)
    (hbackend : w'.backend = w.backend) (hreplies : w'.replies = w.replies)
    (hresets : .reset ∈ w.posts → .reset ∈ w'.posts)
    (hticks : w'.posts.countP Post.isTick + w'.replies.countP Reply.isTick =
      if w'.page.manualTickInFlight then 1 else 0) : Follows cols rows w' where
  service := hbackend ▸ h.service
  walls := hgrid ▸ h.walls
  oneTick := hticks
  stamps := by rw [hreplies, hbackend]; exact h.stamps
  pose := by
    intro hnone
    unfold Tab.settledRobot Tab.returning
    rw [hreplies, hbackend, hgrid]
    exact h.pose (mt hresets hnone)

/-- Asking for a tick changes nothing of it. -/
theorem runManualTick (h : Follows cols rows w) (fromStart : Bool) :
    Follows cols rows (w.runManualTick fromStart) := by
  unfold Tab.runManualTick
  split
  · rename_i hflight
    split
    · exact h.congr rfl rfl rfl id h.oneTick
    · exact h
  · rename_i hflight
    refine h.congr rfl rfl rfl (List.mem_append_left _) ?_
    have hnone := h.oneTick
    rw [if_neg hflight] at hnone
    simp only [Tab.post, List.countP_append, if_true]
    simp [Post.isTick]
    omega

/-! ### The server processes a request -/

/-- Ticks are answered as ticks, and nothing else is. -/
theorem process_isTick (b : Backend) (r : Post) : (b.process r).2.isTick = r.isTick := by
  cases r <;> rfl

/-- Where no tick is in flight, no command is. -/
theorem filterMap_commandSince_eq_nil {replies : List Reply}
    (hnone : replies.countP Reply.isTick = 0) (resets : ℕ) :
    replies.filterMap (Reply.commandSince resets) = [] := by
  apply List.filterMap_eq_nil_iff.mpr
  intro r hr
  have hnot := List.countP_eq_zero.mp hnone r hr
  cases r with
  | tick state fromStart n => exact absurd rfl hnot
  | _ => rfl

/-- After a further reset no command in flight counts any more. -/
theorem filterMap_commandSince_succ {replies : List Reply} {resets : ℕ}
    (h : ∀ r ∈ replies, r.Stamped resets) :
    replies.filterMap (Reply.commandSince (resets + 1)) = [] := by
  apply List.filterMap_eq_nil_iff.mpr
  intro r hr
  have hstamp := h r hr
  cases r with
  | tick state fromStart n =>
      have hne : n ≠ resets + 1 := by
        intro hn
        have hle : n ≤ resets := hstamp
        omega
      simp [Reply.commandSince, hne]
  | _ => rfl

/-- A request reaches the server. -/
theorem process (h : Follows cols rows w) {k : ℕ} {r : Post} (hr : w.posts[k]? = some r) :
    Follows cols rows (w.handle (.process k)) := by
  have hcount := countP_eraseIdx Post.isTick hr
  have htick := process_isTick w.backend r
  have hone := h.oneTick
  obtain ⟨v, hv⟩ := h.service
  have hhandle : w.handle (.process k) =
      { w with
        backend := (w.backend.process r).1
        posts := w.posts.eraseIdx k
        replies := w.replies ++ [(w.backend.process r).2] } := by
    simp only [Tab.handle, hr]
  have hticks : (w.handle (.process k)).posts.countP Post.isTick +
      (w.handle (.process k)).replies.countP Reply.isTick =
        if (w.handle (.process k)).page.manualTickInFlight then 1 else 0 := by
    rw [hhandle]
    simp only [List.countP_append, List.countP_singleton, htick]
    omega
  have hresets : r ≠ .reset → .reset ∉ w.posts.eraseIdx k → .reset ∉ w.posts := by
    intro hne hnone hmem
    exact ((mem_iff_eraseIdx hr _).mp hmem).elim (fun hsame => hne hsame.symm) hnone
  have hstamps : ∀ m, w.backend.resets ≤ m → (w.backend.process r).2.Stamped m →
      ∀ reply ∈ w.replies ++ [(w.backend.process r).2], reply.Stamped m := by
    intro m hm hnew reply hreply
    rcases List.mem_append.mp hreply with hreply | hreply
    · exact (h.stamps reply hreply).mono hm
    · exact List.mem_singleton.mp hreply ▸ hnew
  cases r with
  | start =>
      rw [hhandle] at hticks ⊢
      refine ⟨⟨_, hv.start _⟩, h.walls, hticks, hstamps _ le_rfl trivial, ?_⟩
      intro hnone
      have hpose := h.pose (hresets (by decide) hnone)
      simpa [Backend.process, Tab.settledRobot, Tab.returning, List.filterMap_cons] using hpose
  | reset =>
      rw [hhandle] at hticks ⊢
      refine ⟨⟨_, hv.reset⟩, h.walls, hticks, hstamps _ (Nat.le_succ _) trivial, ?_⟩
      intro _
      have hnone := filterMap_commandSince_succ h.stamps
      simp [Backend.process, Tab.settledRobot, Tab.returning, List.filterMap_cons, hnone]
  | tick sensors fromStart =>
      -- the one tick was a request, so no other command is on its way back
      have hnone : w.replies.countP Reply.isTick = 0 := by
        simp only [Post.isTick, if_true] at hcount
        split at hone <;> omega
      have hback := filterMap_commandSince_eq_nil hnone w.backend.resets
      rw [hhandle] at hticks ⊢
      refine ⟨⟨_, hv.tick sensors 0⟩, h.walls, hticks, hstamps _ le_rfl (le_refl _), ?_⟩
      intro hposts
      have hpose := h.pose (hresets (by simp) hposts)
      rw [Tab.returning, hback, Robot.obeyAll_nil] at hpose
      calc
        _ = (w.settledRobot cols rows).obeyAll (manualWorld cols rows).isBlocked
              [(w.backend.service.tick sensors).2.lastMotion] := by
            simp [Backend.process, Tab.settledRobot, Tab.returning, hback]
        _ = ((manualWorld cols rows).robot.obeyAll (manualWorld cols rows).isBlocked
              w.backend.issued).obeyAll (manualWorld cols rows).isBlocked
              (motionsIssued w.backend.service (w.backend.service.tick sensors).1) := by
            rw [hpose, Robot.obeyAll_singleton, obeyAll_motionsIssued hv]
        _ = _ := (Robot.obeyAll_append _ _ _ _).symm

/-! ### A response reaches the page -/

/-- The answer to a start comes. -/
theorem deliver_start (h : Follows cols rows w) {k : ℕ} (hk : w.replies[k]? = some .start) :
    Follows cols rows (w.handle (.deliver k)) := by
  have hmem := mem_iff_eraseIdx hk
  have hreset : .reset ∈ w.replies.eraseIdx k ↔ Reply.reset ∈ w.replies := by
    simp [hmem]
  have herased : Follows cols rows { w with replies := w.replies.eraseIdx k } := by
    refine ⟨h.service, h.walls, ?_, ?_, ?_⟩
    · have hticks := countP_eraseIdx Reply.isTick hk
      exact (congrArg (w.posts.countP Post.isTick + ·) hticks).trans h.oneTick
    · intro r hr
      exact h.stamps r ((hmem r).mpr (Or.inr hr))
    · intro hnone
      have hpose := h.pose hnone
      simp only [Tab.settledRobot, Tab.returning, hreset,
        filterMap_eraseIdx (f := Reply.commandSince _) hk rfl] at hpose ⊢
      exact hpose
  simp only [Tab.handle, hk, Tab.resume]
  split
  · exact herased.runManualTick true
  · exact herased

/-- The answer to a reset puts the robot where it began. -/
theorem deliver_reset (h : Follows cols rows w) {k : ℕ} (hk : w.replies[k]? = some .reset) :
    Follows cols rows (w.handle (.deliver k)) := by
  have hmem := mem_iff_eraseIdx hk
  have hin : Reply.reset ∈ w.replies := (hmem _).mpr (Or.inl rfl)
  have hworld : manualWorld w.page.grid.cols w.page.grid.rows = manualWorld cols rows := by
    rw [h.walls.cols, h.walls.rows]
    rfl
  simp only [Tab.handle, hk, Tab.resume, resetRobot_setupWorld, hworld]
  refine ⟨h.service, ⟨rfl, rfl, rfl⟩, ?_, ?_, ?_⟩
  · have hticks := countP_eraseIdx Reply.isTick hk
    exact (congrArg (w.posts.countP Post.isTick + ·) hticks).trans h.oneTick
  · intro r hr
    exact h.stamps r ((hmem r).mpr (Or.inr hr))
  · intro hnone
    have hpose := h.pose hnone
    rw [Tab.settledRobot, if_pos hin] at hpose
    simp only [Tab.settledRobot, ite_self]
    rw [Tab.returning, filterMap_eraseIdx hk rfl]
    exact hpose

/-- The tick in flight is the only one. -/
theorem returning_of_tick (h : Follows cols rows w) {k : ℕ} {state : SimulatorState}
    {fromStart : Bool} {n : ℕ} (hk : w.replies[k]? = some (.tick state fromStart n)) :
    w.posts.countP Post.isTick = 0 ∧ (w.replies.eraseIdx k).countP Reply.isTick = 0 ∧
      w.returning = if n = w.backend.resets then [state.lastMotion] else [] := by
  have hticks := countP_eraseIdx Reply.isTick hk
  have hone := h.oneTick
  simp only [Reply.isTick, if_true] at hticks
  have hposts : w.posts.countP Post.isTick = 0 := by split at hone <;> omega
  have herased : (w.replies.eraseIdx k).countP Reply.isTick = 0 := by split at hone <;> omega
  refine ⟨hposts, herased, ?_⟩
  have hperm := (cons_eraseIdx_perm hk).filterMap (Reply.commandSince w.backend.resets)
  rw [List.filterMap_cons, filterMap_commandSince_eq_nil herased, Reply.commandSince_tick] at hperm
  split
  · rename_i hn
    rw [if_pos hn] at hperm
    exact (List.singleton_perm.mp hperm).symm
  · rename_i hn
    rw [if_neg hn] at hperm
    exact (List.nil_perm.mp hperm)

/-- The answer of a tick moves the robot, which no reset may cross. -/
theorem deliver_tick (h : Follows cols rows w) {k : ℕ} {state : SimulatorState} {fromStart : Bool}
    {n : ℕ} (hk : w.replies[k]? = some (.tick state fromStart n))
    (hcross : NoCrossing w (.deliver k)) : Follows cols rows (w.handle (.deliver k)) := by
  have hmem := mem_iff_eraseIdx hk
  have hreset : .reset ∈ w.replies.eraseIdx k ↔ Reply.reset ∈ w.replies := by
    simp [hmem]
  obtain ⟨hposts, herased, hreturning⟩ := h.returning_of_tick hk
  simp only [NoCrossing, hk] at hcross
  have hrobot : (w.page.grid.applyTickResult state).robot =
      w.page.grid.robot.obey (manualWorld cols rows).isBlocked state.lastMotion := by
    rw [Grid.applyTickResult_robot, Grid.applyMotion_eq_obey h.walls.isBlocked]
  let page := { w.page with
    grid := w.page.grid.applyTickResult state
    manualTickInFlight := false }
  have happlied : Follows cols rows { w with page, replies := w.replies.eraseIdx k } := by
    refine ⟨h.service, (Grid.applyTickResult_sameWalls _ _).trans h.walls, ?_, ?_, ?_⟩
    · simp [page, hposts, herased]
    · intro r hr
      exact h.stamps r ((hmem r).mpr (Or.inr hr))
    · intro hnone
      rw [Tab.returning, filterMap_commandSince_eq_nil herased, Robot.obeyAll_nil, ← h.pose hnone,
        hreturning]
      cases hmoves : state.lastMotion.moves with
      | false =>
          have hstill : ∀ r : Robot, r.obey (manualWorld cols rows).isBlocked state.lastMotion = r :=
            fun r => Robot.obey_of_not_moves _ r hmoves
          have hkept : ∀ r : Robot, r = r.obeyAll (manualWorld cols rows).isBlocked
              (if n = w.backend.resets then [state.lastMotion] else []) := by
            intro r
            split
            · exact (hstill r).symm
            · rfl
          simp only [Tab.settledRobot, hreset, page, hrobot, hstill]
          exact hkept _
      | true =>
          have hcrossed := hcross hnone hmoves
          by_cases hn : n = w.backend.resets
          · -- the page applies a command of the running session
            have hin : Reply.reset ∉ w.replies := fun hin => hcrossed.mp hin hn
            simp only [Tab.settledRobot, hreset, if_neg hin, page, hrobot, if_pos hn]
            rfl
          · -- the page applies a command of an earlier one, and a reset is to come
            have hin : Reply.reset ∈ w.replies := hcrossed.mpr hn
            simp only [Tab.settledRobot, hreset, if_pos hin, if_neg hn, Robot.obeyAll_nil]
  have hzero := happlied.oneTick
  simp only [Tab.handle, hk, Tab.resume]
  split
  · exact happlied.congr rfl rfl rfl id hzero
  · exact happlied

end Follows

/-! ## A run -/

/-- The events of manual mode in which every request is answered. -/
def TabEvent.isManual : TabEvent → Bool
  | .clickStart => true
  | .clickReset => true
  | .clickTick => true
  | .timerFires => true
  | .process _ => true
  | .deliver _ => true
  | _ => false

/-- **One event.**  Whatever happens, page and server stay in step, if no tick
crosses a reset on its way back. -/
theorem Follows.handle {cols rows : ℕ} {w : Tab} (h : Follows cols rows w) {e : TabEvent}
    (hmanual : e.isManual = true) (hcross : NoCrossing w e) :
    Follows cols rows (w.handle e) := by
  have hpost : ∀ r : Post, r.isTick = false →
      Follows cols rows ({ w with page := w.page.stopManualAutoTick }.post r) := by
    intro r hr
    refine h.congr rfl rfl rfl (List.mem_append_left _) ?_
    have hsame : (w.posts ++ [r]).countP Post.isTick = w.posts.countP Post.isTick := by
      simp [List.countP_append, hr]
    exact (congrArg (· + w.replies.countP Reply.isTick) hsame).trans h.oneTick
  cases e with
  | clickStart => exact hpost .start rfl
  | clickReset => exact hpost .reset rfl
  | clickTick => exact h.runManualTick false
  | timerFires =>
      simp only [Tab.handle]
      split
      · exact h.runManualTick false
      · exact h
  | process k =>
      cases hk : w.posts[k]? with
      | none => simpa [Tab.handle, hk] using h
      | some r => exact h.process hk
  | deliver k =>
      cases hk : w.replies[k]? with
      | none => simpa [Tab.handle, hk] using h
      | some reply =>
          cases reply with
          | start => exact h.deliver_start hk
          | reset => exact h.deliver_reset hk
          | tick state fromStart n => exact h.deliver_tick hk hcross
  | _ => cases hmanual

/-- Page and server agree along every such run. -/
theorem follows_run {cols rows : ℕ} {calls : List SimulatorService.Call} {es : List TabEvent}
    (hmanual : ∀ e ∈ es, e.isManual = true)
    (hcross : History.Historically (fun before e =>
      NoCrossing (browserTab.run (.load cols rows (.after calls)) before) e) es) :
    Follows cols rows (browserTab.run (.load cols rows (.after calls)) es) := by
  induction es using List.reverseRecOn with
  | nil => exact Follows.load cols rows calls
  | append_singleton es e ih =>
      obtain ⟨hes, he⟩ := History.historically_concat.mp hcross
      have hbefore := ih (fun x hx => hmanual x (by simp [hx])) hes
      rw [browserTab.run_concat, browserTab_next]
      exact hbefore.handle (hmanual e (by simp)) he

/-- **The displayed robot follows the session.**  In manual mode, whatever is
clicked and in whatever order messages arrive: as long as no tick crosses a
reset on the way back to the page, the robot is, whenever nothing is in flight,
where the motion commands issued since the last reset have taken it. -/
theorem displayed_robot_follows (cols rows : ℕ) (calls : List SimulatorService.Call)
    (es : List TabEvent) (hmanual : ∀ e ∈ es, e.isManual = true)
    (hcross : History.Historically (fun before e =>
      NoCrossing (browserTab.run (.load cols rows (.after calls)) before) e) es) :
    let w := browserTab.run (.load cols rows (.after calls)) es
    w.posts = [] → w.replies = [] →
      w.page.grid.robot =
        (w.backend.issued.foldl Grid.applyMotion (manualWorld cols rows)).robot := by
  intro w hposts hreplies
  have hnone : .reset ∉ w.posts := hposts ▸ List.not_mem_nil
  have hpose := (follows_run hmanual hcross).pose hnone
  rw [Tab.settledRobot, if_neg (hreplies ▸ List.not_mem_nil), Tab.returning, hreplies,
    List.filterMap_nil, Robot.obeyAll_nil] at hpose
  rw [Grid.foldl_applyMotion_robot]
  exact hpose

/-- Ahead of nothing, the first tick of a session drives on. -/
theorem first_tick {sensors : SensorSnapshot} (h : sensors.frontBlocked = false) :
    (SimulatorService.new.start.tick sensors).2.lastMotion = .moveForward := by
  obtain ⟨front, left, right, dust⟩ := sensors
  cases h
  cases dust <;> rfl

/-- The first tick after a start moves the robot ahead, where the way is free. -/
theorem first_step {g : Grid} (hfree : g.isBlocked g.robot.frontCell = false) :
    (g.applyTickResult (SimulatorService.new.start.tick g.readSensorsFromGrid).2).robot =
      g.robot.moveTo g.robot.frontCell := by
  have hfront : g.readSensorsFromGrid.frontBlocked = false := hfree
  rw [Grid.applyTickResult_robot, first_tick hfront, Grid.applyMotion, Grid.tryMove, hfree]
  rfl

instance (w : Tab) (k : ℕ) : Decidable (NoCrossing w (.deliver k)) :=
  match h : w.replies[k]? with
  | some (.tick state _ resets) =>
      decidable_of_iff (.reset ∉ w.posts → state.lastMotion.moves = true →
        (.reset ∈ w.replies ↔ resets ≠ w.backend.resets)) (by simp only [NoCrossing, h])
  | some .start => isTrue (by simp only [NoCrossing, h])
  | some .reset => isTrue (by simp only [NoCrossing, h])
  | none => isTrue (by simp only [NoCrossing, h])

/-- A start with its tick, a reset that comes back, and another tick. -/
def resetBetweenTicks : List TabEvent :=
  [.clickStart, .process 0, .deliver 0, .process 0, .deliver 0, .clickReset, .process 0, .deliver 0,
    .clickTick, .process 0, .deliver 0]

theorem resetBetweenTicks_noCrossing :
    History.Historically (fun before e =>
      NoCrossing (browserTab.run (.load 18 12 (.after [])) before) e) resetBetweenTicks := by
  simp only [resetBetweenTicks, History.historically_cons]
  exact ⟨trivial, trivial, by decide +kernel, trivial, by decide +kernel, trivial, trivial,
    by decide +kernel, trivial, trivial, by decide +kernel, History.historically_nil _⟩

/-- The theorem for a robot that moves before a reset and after it. -/
theorem displayed_robot_follows_once :
    let w := browserTab.run (.load 18 12 (.after [])) resetBetweenTicks
    w.backend.resets = 1 ∧ w.backend.issued = [.moveForward] ∧
      w.page.grid.robot = (w.backend.issued.foldl Grid.applyMotion (manualWorld 18 12)).robot :=
  ⟨by decide +kernel, by decide +kernel,
    displayed_robot_follows 18 12 [] resetBetweenTicks (by decide) resetBetweenTicks_noCrossing
      (by decide +kernel) (by decide +kernel)⟩

/-- A reset overtakes the first tick on the way back to the page. -/
def resetOvertakesTick : List TabEvent :=
  [.clickStart, .process 0, .deliver 0, .clickReset, .process 0, .process 0, .deliver 1,
    .deliver 0]

/-- Where that leads, whatever the size of the grid. -/
theorem run_resetOvertakesTick (cols rows : ℕ) :
    let g := manualWorld cols rows
    let first := SimulatorService.new.start.tick g.readSensorsFromGrid
    browserTab.run (.load cols rows .new) resetOvertakesTick =
      { page := { grid := g.applyTickResult first.2, manualAutoTickTimer := true }
        backend := { service := first.1.reset, resets := 1 } } := by
  intro g first
  simp [g, first, resetOvertakesTick, Tab.load, Tab.handle, Tab.post, Tab.resume,
    Tab.runManualTick, Backend.process, Page.stopManualAutoTick, Page.startManualAutoTick,
    resetRobot_setupWorld]
  rfl

/-- Then the robot stands one cell ahead of where the new session expects it. -/
theorem displayed_robot_runs_ahead :
    let w := browserTab.run (.load 18 12 .new) resetOvertakesTick
    (∀ e ∈ resetOvertakesTick, e.isManual = true) ∧ w.posts = [] ∧ w.replies = [] ∧
      w.page.grid.robot ≠
        (w.backend.issued.foldl Grid.applyMotion (manualWorld 18 12)).robot := by
  intro w
  have hw := run_resetOvertakesTick 18 12
  have hfree : (manualWorld 18 12).isBlocked (manualWorld 18 12).robot.frontCell = false := by
    rw [manualWorld_frontCell, manualWorld_isBlocked (by decide) (by decide)]
    decide
  refine ⟨by decide, congrArg Tab.posts hw, congrArg Tab.replies hw, ?_⟩
  intro hsame
  rw [show w = _ from hw, first_step hfree] at hsame
  exact Robot.neighbour_ne_cell _ _ (congrArg Robot.cell hsame)

end RvcControl
