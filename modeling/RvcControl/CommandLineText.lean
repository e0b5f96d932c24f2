import RvcControl.CommandLine
import RvcControl.ScenarioCatalog

/-!
# The transcript of the command line

`rvc_cli` gets its scenario as words and prints one line for every tick.  What
it prints is enough to know what the controller did: `cli_transcript` reads it
back.
-/

namespace RvcControl

open SimulatorService

/-! ## Lines and words -/

/-- The lines of a text in which every line is ended. -/
def splitLines (text : List Char) : List (List Char) := (text.splitOn '\n').dropLast

/-- Lines that are joined with newlines are split again. -/
theorem splitLines_flatMap {lines : List (List Char)} (h : ∀ line ∈ lines, '\n' ∉ line) :
    splitLines (lines.flatMap fun line => line ++ ['\n']) = lines := by
  induction lines with
  | nil => rfl
  | cons line lines ih =>
      have hrest := ih fun l hl => h l (by simp [hl])
      unfold splitLines at hrest ⊢
      have hne := List.splitOn_ne_nil '\n' (lines.flatMap fun line => line ++ ['\n'])
      rw [List.flatMap_cons, List.append_assoc, List.singleton_append,
        List.splitOn_append_cons_self_of_not_mem (h line (by simp)), List.dropLast_cons_of_ne_nil hne,
        hrest]

/-- What stands behind the name of a field. -/
def field (name : String) (word : List Char) : Option String :=
  if name.toList <+: word then some (String.ofList (word.drop name.toList.length)) else none

/-- A field is read off its name. -/
theorem field_append (name value : String) :
    field name (name.toList ++ value.toList) = some value := by
  rw [field, if_pos (List.prefix_append _ _), List.drop_left, String.ofList_toList]

/-! ## `rvc_cli` -/

/-- Every letter stands for a sensor, wherever it stands. -/
def parseSnapshot (token : String) : SensorSnapshot where
  frontBlocked := token.toList.contains 'F'
  leftBlocked := token.toList.contains 'L'
  rightBlocked := token.toList.contains 'R'
  dustDetected := token.toList.contains 'D'

/-- The text of `PrintUsage`. -/
def usage : String :=
  "Usage: rvc_cli <scenario>\n" ++
  "Scenarios:\n" ++
  "  forward       - clear path forward\n" ++
  "  obstacle      - front obstacle then clear\n" ++
  "  deadend       - blocked on all sides then clear\n" ++
  "  dust          - dust detected then clear\n" ++
  "  custom <ticks>  e.g. custom clear F clear\n" ++
  "Tick tokens: clear, F (front), L, R, D (dust), combinations e.g. FLR\n"

/-- The snapshots a scenario stands for, if there is one of the name. -/
def scenarioSnapshots (scenario : String) (tokens : List String) : Option (List SensorSnapshot) :=
  if scenario = "forward" then some [{}, {}, {}]
  else if scenario = "obstacle" then some [parseSnapshot "F", parseSnapshot "F", {}]
  else if scenario = "deadend" then some [parseSnapshot "FLR", parseSnapshot "FLR", {}]
  else if scenario = "dust" then some [parseSnapshot "D", {}, {}]
  else if scenario = "custom" then
    some (tokens.map fun token => if token = "clear" then {} else parseSnapshot token)
  else none

def stateText : RobotMotionState → String
  | .movingForward => "MovingForward"
  | .stopping => "Stopping"
  | .turning => "Turning"
  | .backingUp => "BackingUp"
  | .idle => "Idle"

/-- What is printed of the tick `i`; a command that was not issued is not
printed. -/
def tickText (i : ℕ) (r : TickReport) : String :=
  "Tick " ++ toString (i + 1) ++ ":" ++
    (r.motion.elim "" fun motion => " motion=" ++ motionToString motion) ++
    (r.clean.elim "" fun clean => " clean=" ++ cleanToString clean) ++
    " state=" ++ stateText r.state ++ "\n"

/-- `main`: what is printed, and the exit code.  `args` are the words behind
the program's name. -/
def cliMain (args : List String) : String × ℕ :=
  match args with
  | [] => (usage, 1)
  | scenario :: tokens =>
      match scenarioSnapshots scenario tokens with
      | none => (usage, 1)
      | some snapshots =>
          ("Scenario: " ++ scenario ++ "\n" ++
            String.join ((cliTicks snapshots).zipIdx.map fun tick => tickText tick.2 tick.1), 0)

/-! ## Reading the transcript -/

/-- The texts of a line. -/
structure TickLine where
  number : String
  motion : String
  clean : String
  state : String
  deriving DecidableEq, Repr

def readTickLine (line : List Char) : Option TickLine :=
  match line.splitOn ' ' with
  | [_, number, motion, clean, state] => do
      return {
        number := String.ofList number.dropLast
        motion := ← field "motion=" motion
        clean := ← field "clean=" clean
        state := ← field "state=" state }
  | _ => none

def readTranscript (text : String) : Option (String × List TickLine) :=
  match splitLines text.toList with
  | header :: ticks => do return (← field "Scenario: " header, ← ticks.mapM readTickLine)
  | [] => none

/-- What is to be read of a tick by which a simulator has come to `state`. -/
def TickLine.ofState (i : ℕ) (state : SimulatorState) : TickLine where
  number := toString (i + 1)
  motion := motionToString state.lastMotion
  clean := cleanToString state.lastClean
  state := stateText state.motionState

/-- The words of a tick's line. -/
def tickWords (i : ℕ) (state : SimulatorState) : List (List Char) :=
  ["Tick".toList, (toString (i + 1) ++ ":").toList,
    "motion=".toList ++ (motionToString state.lastMotion).toList,
    "clean=".toList ++ (cleanToString state.lastClean).toList,
    "state=".toList ++ (stateText state.motionState).toList]

/-- A tick is printed as its words. -/
theorem tickText_ofState (i : ℕ) (state : SimulatorState) :
    (tickText i (.ofState state)).toList = [' '].intercalate (tickWords i state) ++ ['\n'] := by
  simp [tickText, TickReport.ofState, tickWords, List.intercalate]

/-- A letter, a digit or one of the signs of a line. -/
def Solid (word : List Char) : Prop := ' ' ∉ word ∧ '\n' ∉ word

/-- No word of a tick has a blank or a newline. -/
theorem tickWords_solid (i : ℕ) (state : SimulatorState) : ∀ w ∈ tickWords i state, Solid w := by
  have hnumber : Solid (toString (i + 1) ++ ":").toList := by
    have hdigits : ∀ c, c.isDigit = false → c ∉ (toString (i + 1)).toList := by
      intro c hc hmem
      rw [Nat.toString_eq_repr, Nat.toList_repr] at hmem
      rw [Json.digits_isDigit _ c hmem] at hc
      cases hc
    constructor <;> rw [String.toList_append, List.mem_append, not_or] <;>
      exact ⟨hdigits _ rfl, by decide⟩
  have hmotion : ∀ command, Solid ("motion=".toList ++ (motionToString command).toList) := by
    intro command
    cases command <;> exact ⟨by decide, by decide⟩
  have hclean : ∀ command, Solid ("clean=".toList ++ (cleanToString command).toList) := by
    intro command
    cases command <;> exact ⟨by decide, by decide⟩
  have hstate : ∀ s, Solid ("state=".toList ++ (stateText s).toList) := by
    intro s
    cases s <;> exact ⟨by decide, by decide⟩
  intro w hw
  simp only [tickWords, List.mem_cons, List.not_mem_nil, or_false] at hw
  rcases hw with rfl | rfl | rfl | rfl | rfl
  · exact ⟨by decide, by decide⟩
  · exact hnumber
  · exact hmotion _
  · exact hclean _
  · exact hstate _

/-- What is in no word and is not the separator is not in the line. -/
theorem not_mem_intercalate {a b : Char} (hab : a ≠ b) {words : List (List Char)}
    (h : ∀ w ∈ words, a ∉ w) : a ∉ [b].intercalate words := by
  induction words with
  | nil => simp
  | cons w words ih =>
      have hw := h w (by simp)
      have hrest := ih fun x hx => h x (by simp [hx])
      cases words with
      | nil => simpa using hw
      | cons x words =>
          rw [List.intercalate_cons_cons]
          simp only [List.mem_append, List.mem_singleton, not_or]
          exact ⟨⟨hw, hab⟩, hrest⟩

/-- A line is read back from its words. -/
theorem readTickLine_tickWords (i : ℕ) (state : SimulatorState) :
    readTickLine ([' '].intercalate (tickWords i state)) = some (.ofState i state) := by
  have hsplit : ([' '].intercalate (tickWords i state)).splitOn ' ' = tickWords i state :=
    List.splitOn_intercalate ' ' (fun w hw => (tickWords_solid i state w hw).1) (by simp [tickWords])
  have hnumber : (toString (i + 1) ++ ":").toList.dropLast = (toString (i + 1)).toList := by
    rw [String.toList_append]
    exact List.dropLast_concat
  rw [readTickLine, hsplit, tickWords]
  simp only [field_append, hnumber, String.ofList_toList]
  rfl

/-- The line of a tick, without its end. -/
def tickLine (tick : SimulatorState × ℕ) : List Char := [' '].intercalate (tickWords tick.2 tick.1)

theorem readTickLine_tickLine (tick : SimulatorState × ℕ) :
    readTickLine (tickLine tick) = some (.ofState tick.2 tick.1) :=
  readTickLine_tickWords tick.2 tick.1

/-- A printed line is one line. -/
theorem tickLine_noNewline (tick : SimulatorState × ℕ) : '\n' ∉ tickLine tick :=
  not_mem_intercalate (by decide) fun w hw => (tickWords_solid _ _ w hw).2

/-- The ticks are printed line by line. -/
theorem toList_ticks (states : List SimulatorState) :
    (String.join ((states.map TickReport.ofState).zipIdx.map fun tick =>
      tickText tick.2 tick.1)).toList =
      (states.zipIdx.map tickLine).flatMap fun line => line ++ ['\n'] := by
  rw [String.toList_join, List.zipIdx_map, List.map_map, List.flatMap_map, List.flatMap_map]
  exact List.flatMap_congr fun tick _ => tickText_ofState tick.2 tick.1

/-- What `main` prints of a known scenario, read back. -/
theorem readTranscript_print {scenario : String} (hscenario : '\n' ∉ scenario.toList)
    (states : List SimulatorState) :
    readTranscript ("Scenario: " ++ scenario ++ "\n" ++
        String.join ((states.map TickReport.ofState).zipIdx.map fun tick =>
          tickText tick.2 tick.1)) =
      some (scenario, states.zipIdx.map fun tick => .ofState tick.2 tick.1) := by
  have hlines : ∀ line ∈ ("Scenario: ".toList ++ scenario.toList) :: states.zipIdx.map tickLine,
      '\n' ∉ line := by
    intro line hline
    rcases List.mem_cons.mp hline with rfl | hline
    · rw [List.mem_append, not_or]
      exact ⟨by decide, hscenario⟩
    · obtain ⟨tick, _, rfl⟩ := List.mem_map.mp hline
      exact tickLine_noNewline tick
  have hend : "\n".toList = ['\n'] := rfl
  have hsplit := splitLines_flatMap hlines
  rw [List.flatMap_cons, ← toList_ticks] at hsplit
  have hread := mapM_map_view readTickLine_tickLine states.zipIdx
  rw [readTranscript, String.toList_append, String.toList_append, String.toList_append, hend, hsplit]
  simp only [field_append, hread, Option.bind_eq_bind, Option.bind_some, Option.pure_def]

/-- A scenario that is known has no newline in its name. -/
theorem scenarioSnapshots_noNewline {scenario : String} {tokens : List String}
    {snapshots : List SensorSnapshot} (h : scenarioSnapshots scenario tokens = some snapshots) :
    '\n' ∉ scenario.toList := by
  unfold scenarioSnapshots at h
  split_ifs at h with h₁ h₂ h₃ h₄ h₅
  · rw [h₁]; decide
  · rw [h₂]; decide
  · rw [h₃]; decide
  · rw [h₄]; decide
  · rw [h₅]; decide

/-! ## Asking for snapshots -/

/-- A word that stands for the snapshot. -/
def tokenOf (sensors : SensorSnapshot) : String :=
  if sensors = {} then "clear"
  else
    (if sensors.frontBlocked then "F" else "") ++ (if sensors.leftBlocked then "L" else "") ++
      (if sensors.rightBlocked then "R" else "") ++ (if sensors.dustDetected then "D" else "")

/-- Tokens are read as the snapshots they were made of. -/
theorem scenarioSnapshots_custom (snapshots : List SensorSnapshot) :
    scenarioSnapshots "custom" (snapshots.map tokenOf) = some snapshots := by
  have htoken : ∀ sensors : SensorSnapshot,
      (if tokenOf sensors = "clear" then {} else parseSnapshot (tokenOf sensors)) = sensors := by
    rintro ⟨front, left, right, dust⟩
    cases front <;> cases left <;> cases right <;> cases dust <;> decide
  have hmap : (snapshots.map tokenOf).map
      (fun token => if token = "clear" then {} else parseSnapshot token) = snapshots := by
    rw [List.map_map]
    exact (List.map_congr_left fun sensors _ => htoken sensors).trans (List.map_id _)
  exact congrArg some hmap

/-- The simulator's states for the snapshots, by the prefer-left strategy. -/
def simulated (calls : List Call) (snapshots : List SensorSnapshot) : List SimulatorState :=
  ticking.outputs ((after calls).start "prefer_left") (snapshots.map fun sensors => (sensors, 0))

/-- **The transcript of the command line tells what the simulator does.**  For
words that name a scenario the exit code is 0, and the text that is printed
reads back as the scenario's name and, tick by tick and numbered from 1, the
commands and the motion state of a simulator that is started with the
prefer-left strategy after any history and ticked with the scenario's snapshots.
Any other words are answered with the usage and 1.  And every list of snapshots
can be asked for. -/
theorem cli_transcript (args : List String) (calls : List Call) :
    (match args with
      | [] => cliMain args = (usage, 1)
      | scenario :: tokens =>
          match scenarioSnapshots scenario tokens with
          | none => cliMain args = (usage, 1)
          | some snapshots =>
              (cliMain args).2 = 0 ∧
                readTranscript (cliMain args).1 =
                  some (scenario, (simulated calls snapshots).zipIdx.map fun tick =>
                    .ofState tick.2 tick.1)) ∧
      ∀ snapshots, scenarioSnapshots "custom" (snapshots.map tokenOf) = some snapshots := by
  refine ⟨?_, scenarioSnapshots_custom⟩
  cases args with
  | nil => rfl
  | cons scenario tokens =>
      dsimp only [cliMain]
      cases hsnapshots : scenarioSnapshots scenario tokens with
      | none => rfl
      | some snapshots =>
          have hticks : cliTicks snapshots = (simulated calls snapshots).map TickReport.ofState :=
            (started_feeds snapshots).outputs ((after_presents calls).start "prefer_left")
          refine ⟨rfl, ?_⟩
          dsimp only
          rw [hticks]
          exact readTranscript_print (scenarioSnapshots_noNewline hsnapshots) _

end RvcControl
