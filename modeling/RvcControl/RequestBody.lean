import RvcControl.Json
import RvcControl.HttpApi
import RvcControl.TextSearch
import Mathlib.Algebra.Ring.Int.Defs

/-!
# Reading request bodies

The handlers of `/api/start` and `/api/tick` take single values from the text
of the body: they search for the quoted name with its colon and look at what
follows.  There is no tokeniser, so what they read depends on where these
texts stand in the whole body.

A `std::string` is a sequence of bytes; here a character stands for a byte.
-/

namespace RvcControl

open TextSearch

/-! ## The string operations -/

/-- `find`, from position `pos` on. -/
def find (s pattern : String) (pos : ℕ) : Option ℕ :=
  (indexOf pattern.toList (s.toList.drop pos)).map (· + pos)

/-- `find_first_of`, from position `pos` on. -/
def findFirstOf (s set : String) (pos : ℕ) : Option ℕ :=
  ((s.toList.drop pos).findIdx? (· ∈ set.toList)).map (· + pos)

def substr (s : String) (pos count : ℕ) : String :=
  String.ofList ((s.toList.drop pos).take count)

def isspace (c : Char) : Bool :=
  c = ' ' || c = '\t' || c = '\n' || c = '\x0b' || c = '\x0c' || c = '\r'

/-- The values of an `int`. -/
def InInt32 (n : Int) : Prop := -2 ^ 31 ≤ n ∧ n < 2 ^ 31

instance (n : Int) : Decidable (InInt32 n) :=
  inferInstanceAs (Decidable (-2 ^ 31 ≤ n ∧ n < 2 ^ 31))

/-- The sign in front of a number, if there is one. -/
def readSign : List Char → Bool × List Char
  | '+' :: s => (false, s)
  | '-' :: s => (true, s)
  | s => (false, s)

/-- `std::stoi`; it throws if there are no digits or the number is no `int`,
and does not mind what follows the digits. -/
def stoi (s : List Char) : Option Int :=
  let (negative, s) := readSign (s.dropWhile isspace)
  let digits := s.takeWhile Char.isDigit
  let n := Json.signed negative (Nat.ofDigitChars 10 digits 0)
  if digits ≠ [] ∧ InInt32 n then some n else none

/-! ## The parsers -/

def parseBool (body key : String) : Bool :=
  let pattern := "\"" ++ key ++ "\":"
  match find body pattern 0 with
  | none => false
  | some pos =>
    match find body "true" pos with
    | none => false
    | some valuePos => valuePos < pos + pattern.length + 8

def parseString (body key defaultValue : String) : String :=
  let pattern := "\"" ++ key ++ "\":\""
  match find body pattern 0 with
  | none => defaultValue
  | some pos =>
    let start := pos + pattern.length
    match find body "\"" start with
    | none => defaultValue
    | some stop => substr body start (stop - start)

def parseInt (body key : String) (defaultValue : Int := 0) : Int :=
  let pattern := "\"" ++ key ++ "\":"
  match find body pattern 0 with
  | none => defaultValue
  | some pos =>
    let start := pos + pattern.length
    let value :=
      match findFirstOf body ",\x7d" start with
      | some stop => substr body start (stop - start)
      -- without an end the count is out of reach and the rest is taken
      | none => substr body start body.length
    (stoi value.toList).getD defaultValue

def parseSensors (body : String) : SensorSnapshot where
  frontBlocked := parseBool body "front_blocked"
  leftBlocked := parseBool body "left_blocked"
  rightBlocked := parseBool body "right_blocked"
  dustDetected := parseBool body "dust_detected"

/-- The request that the handler of `/api/start` makes of a body. -/
def startRequest (body : String) : ApiRequest :=
  .start (parseString body "turn_strategy" "prefer_left")

/-- The request that the handler of `/api/tick` makes of a body. -/
def tickRequest (body : String) : ApiRequest :=
  .tick (parseSensors body) (parseInt body "timer_advance_ms" 0)

/-! ## What the parsers read behind the name -/

/-- The quoted name with its colon. -/
def keyPattern (key : String) : List Char := '"' :: (key.toList ++ ['"', ':'])

/-- The pattern as the source puts it together. -/
theorem keyPattern_toList (key : String) :
    ("\"" ++ key ++ "\":").toList = keyPattern key := by
  simp [keyPattern]

theorem keyPattern_quote_toList (key : String) :
    ("\"" ++ key ++ "\":\"").toList = keyPattern key ++ ['"'] := by
  simp [keyPattern]

/-- A search from the beginning. -/
theorem find_zero (s pattern : String) : find s pattern 0 = indexOf pattern.toList s.toList := by
  simp [find]

/-- What is not found is nowhere. -/
theorem find_none {s pattern : String} {p : List Char} (hp : pattern.toList = p)
    (h : find s pattern 0 = none) : behind p s.toList = none := by
  rw [find_zero, hp] at h
  rw [behind, h]
  rfl

/-- What follows a pattern that was found. -/
theorem find_some {s pattern : String} {p : List Char} {pos : ℕ} (hp : pattern.toList = p)
    (h : find s pattern 0 = some pos) :
    pattern.length = p.length ∧ ∃ rest, behind p s.toList = some rest ∧
      s.toList.drop pos = p ++ rest ∧ s.toList.drop (pos + pattern.length) = rest := by
  rw [find_zero, hp] at h
  have hlength : pattern.length = p.length := by rw [← hp, String.length_toList]
  refine ⟨hlength, s.toList.drop (pos + p.length), ?_, drop_indexOf h, by rw [hlength]⟩
  rw [behind, h]
  rfl

/-- `parseBool` accepts `true` at the first eight positions behind the name. -/
theorem parseBool_iff {body key : String} (hkey : ¬ "true".toList <:+: keyPattern key) :
    parseBool body key = true ↔
      ∃ rest, behind (keyPattern key) body.toList = some rest ∧ Within 8 "true".toList rest := by
  rw [parseBool]
  cases hpos : find body ("\"" ++ key ++ "\":") 0 with
  | none => simp [find_none (keyPattern_toList key) hpos]
  | some pos =>
      obtain ⟨hlength, rest, hbehind, hdrop, _⟩ := find_some (keyPattern_toList key) hpos
      have hstarts : ¬ StartsIn "true".toList (keyPattern key) rest := by
        intro h
        have hsplit : keyPattern key = ('"' :: key.toList ++ ['"']) ++ [':'] := by
          simp [keyPattern]
        rw [hsplit] at h
        exact hkey (hsplit ▸ h.isInfix (by decide))
      have hfind : find body "true" pos =
          (indexOf "true".toList rest).map (· + (keyPattern key).length + pos) := by
        rw [find, hdrop, indexOf_append hstarts, Option.map_map]
        rfl
      simp only [hfind, hbehind, hlength, Option.some.injEq, exists_eq_left']
      rw [← indexOf_lt_iff (by decide)]
      cases indexOf "true".toList rest with
      | none => simp
      | some j =>
          simp only [Option.map_some, decide_eq_true_eq, Option.some.injEq, exists_eq_left']
          omega

/-- `parseString` takes what is behind its pattern, up to the next quote. -/
theorem parseString_eq (body key defaultValue : String) :
    parseString body key defaultValue =
      match behind (keyPattern key ++ ['"']) body.toList with
      | some rest =>
          if '"' ∈ rest then String.ofList (rest.takeWhile (· ≠ '"')) else defaultValue
      | none => defaultValue := by
  rw [parseString]
  cases hpos : find body ("\"" ++ key ++ "\":\"") 0 with
  | none => simp [find_none (keyPattern_quote_toList key) hpos]
  | some pos =>
      obtain ⟨_, rest, hbehind, _, hrest⟩ := find_some (keyPattern_quote_toList key) hpos
      simp only [hbehind, find, substr, hrest]
      rw [show "\"".toList = ['"'] by decide, indexOf_singleton]
      cases hquote : rest.findIdx? (· = '"') with
      | none =>
          have hnotMem : '"' ∉ rest := by
            intro hmem
            simpa using List.findIdx?_eq_none_iff.mp hquote _ hmem
          simp [hnotMem]
      | some i =>
          have hmem : '"' ∈ rest := by
            by_contra hnotMem
            have hnone : rest.findIdx? (· = '"') = none := by
              rw [List.findIdx?_eq_none_iff]
              intro c hc
              simpa using fun h : c = '"' => hnotMem (h ▸ hc)
            rw [hnone] at hquote
            cases hquote
          simp [hmem, take_findIdx? hquote]

/-- The text up to the comma or brace that ends a value. -/
def upToEnd (rest : List Char) : List Char := rest.takeWhile fun c => c ≠ ',' ∧ c ≠ '\x7d'

/-- `parseInt` takes the number behind its pattern. -/
theorem parseInt_eq (body key : String) (defaultValue : Int) :
    parseInt body key defaultValue =
      match behind (keyPattern key) body.toList with
      | some rest => (stoi (upToEnd rest)).getD defaultValue
      | none => defaultValue := by
  rw [parseInt]
  cases hpos : find body ("\"" ++ key ++ "\":") 0 with
  | none => simp [find_none (keyPattern_toList key) hpos]
  | some pos =>
      obtain ⟨_, rest, hbehind, _, hrest⟩ := find_some (keyPattern_toList key) hpos
      simp only [hbehind, findFirstOf, substr, hrest]
      have hends : (fun c : Char => !decide (c ∈ ",\x7d".toList)) =
          fun c => decide (c ≠ ',' ∧ c ≠ '\x7d') := by
        funext c
        simp
      cases hstop : rest.findIdx? (· ∈ ",\x7d".toList) with
      | none =>
          have hall : upToEnd rest = rest := by
            rw [upToEnd, ← hends, List.takeWhile_eq_self_iff]
            intro c hc
            simpa using List.findIdx?_eq_none_iff.mp hstop c hc
          have hlength : rest.length ≤ body.length := by
            rw [← hrest, List.length_drop, String.length_toList]
            exact Nat.sub_le _ _
          simp [hall, List.take_of_length_le hlength]
      | some i =>
          have htake : rest.take i = upToEnd rest := by
            rw [take_findIdx? hstop, hends, upToEnd]
          simp [htake]

end RvcControl
