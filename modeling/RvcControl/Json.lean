import Mathlib.Tactic.Common

/-!
# JSON texts

A reader of JSON texts as the standard describes them, with whitespace, escapes
in strings and every form of numbers, and a printer without whitespace.

The printer copies strings as they are, so it is meant for values whose
strings need no escapes (`Value.Plain`).  What it prints of such a value, the
reader reads back (`read_print`).
-/

namespace Json

/-- A number is `mantissa * 10 ^ exponent`, as it is written. -/
inductive Value
  | null
  | bool (b : Bool)
  | number (mantissa exponent : Int)
  | string (s : String)
  | array (elements : List Value)
  | object (members : List (String × Value))
  deriving Repr

namespace Value

def int (n : Int) : Value := .number n 0

/-- The value of the first member of that name. -/
def member? (name : String) : Value → Option Value
  | .object members => members.lookup name
  | _ => none

def int? : Value → Option Int
  | .number mantissa 0 => some mantissa
  | _ => none

def bool? : Value → Option Bool
  | .bool b => some b
  | _ => none

def string? : Value → Option String
  | .string s => some s
  | _ => none

def array? : Value → Option (List Value)
  | .array elements => some elements
  | _ => none

end Value

/-! ## Printing -/

def quoted (s : String) : List Char := '"' :: (s.toList ++ ['"'])

/-- Texts with commas between them. -/
def commaJoin : List (List Char) → List Char
  | [] => []
  | [text] => text
  | text :: texts => text ++ ',' :: commaJoin texts

def nullWord : List Char := ['n', 'u', 'l', 'l']

def boolWord : Bool → List Char
  | true => ['t', 'r', 'u', 'e']
  | false => ['f', 'a', 'l', 's', 'e']

def exponentText (exponent : Int) : List Char :=
  if exponent = 0 then [] else 'e' :: exponent.repr.toList

mutual

def print : Value → List Char
  | .null => nullWord
  | .bool b => boolWord b
  | .number mantissa exponent => mantissa.repr.toList ++ exponentText exponent
  | .string s => quoted s
  | .array elements => '[' :: (commaJoin (printElements elements) ++ [']'])
  | .object members => '\x7b' :: (commaJoin (printMembers members) ++ ['\x7d'])

def printElements : List Value → List (List Char)
  | [] => []
  | v :: vs => print v :: printElements vs

def printMembers : List (String × Value) → List (List Char)
  | [] => []
  | (name, v) :: members => (quoted name ++ ':' :: print v) :: printMembers members

end

/-- After the first text every text comes behind its own comma. -/
theorem commaJoin_cons (text : List Char) (texts : List (List Char)) :
    commaJoin (text :: texts) = text ++ texts.flatMap (',' :: ·) := by
  induction texts generalizing text with
  | nil => simp [commaJoin]
  | cons next texts ih => simp [commaJoin, ih]

/-- Elements are printed one by one. -/
theorem printElements_eq_map (vs : List Value) : printElements vs = vs.map print := by
  induction vs with
  | nil => rfl
  | cons v vs ih => rw [printElements, ih, List.map_cons]

/-! ## Reading -/

def isSpace (c : Char) : Bool := c = ' ' || c = '\t' || c = '\n' || c = '\r'

def skipSpace (s : List Char) : List Char := s.dropWhile isSpace

def hexDigit? (c : Char) : Option ℕ :=
  if '0' ≤ c ∧ c ≤ '9' then some (c.toNat - '0'.toNat)
  else if 'a' ≤ c ∧ c ≤ 'f' then some (c.toNat - 'a'.toNat + 10)
  else if 'A' ≤ c ∧ c ≤ 'F' then some (c.toNat - 'A'.toNat + 10)
  else none

/-- The characters that an escape of one letter stands for. -/
def unescape? (c : Char) : Option Char :=
  if c = '"' then some '"'
  else if c = '\\' then some '\\'
  else if c = '/' then some '/'
  else if c = 'b' then some '\x08'
  else if c = 'f' then some '\x0c'
  else if c = 'n' then some '\n'
  else if c = 'r' then some '\r'
  else if c = 't' then some '\t'
  else none

/-- The code units of a string, up to the closing quote.  An escape `\u` is a
unit of sixteen bits; a character that stands for itself is one unit. -/
def readUnits : List Char → Option (List ℕ × List Char)
  | [] => none
  | c :: s =>
    if c = '"' then some ([], s)
    else if c = '\\' then
      match s with
      | 'u' :: a :: b :: c :: d :: s => do
          let a ← hexDigit? a
          let b ← hexDigit? b
          let c ← hexDigit? c
          let d ← hexDigit? d
          let (units, s) ← readUnits s
          some ((((a * 16 + b) * 16 + c) * 16 + d) :: units, s)
      | c :: s => do
          let c ← unescape? c
          let (units, s) ← readUnits s
          some (c.toNat :: units, s)
      | [] => none
    else if c.toNat < 32 then none
    else do
      let (units, s) ← readUnits s
      some (c.toNat :: units, s)

/-- Units that are no characters by themselves stand in pairs. -/
def decodeUnits : List ℕ → Option (List Char)
  | [] => some []
  | unit :: units =>
    if 0xD800 ≤ unit ∧ unit < 0xDC00 then
      match units with
      | low :: units =>
          if 0xDC00 ≤ low ∧ low < 0xE000 then
            (decodeUnits units).map
              (Char.ofNat (0x10000 + (unit - 0xD800) * 0x400 + (low - 0xDC00)) :: ·)
          else none
      | [] => none
    else if 0xDC00 ≤ unit ∧ unit < 0xE000 then none
    else (decodeUnits units).map (Char.ofNat unit :: ·)

/-- A string after its opening quote. -/
def readString (s : List Char) : Option (String × List Char) := do
  let (units, s) ← readUnits s
  let characters ← decodeUnits units
  some (String.ofList characters, s)

def readSign : List Char → Bool × List Char
  | '-' :: s => (true, s)
  | s => (false, s)

def signed (negative : Bool) (n : ℕ) : Int := if negative then -n else n

/-- The digits of a fraction, if there is one. -/
def readFraction : List Char → Option (List Char × List Char)
  | '.' :: s =>
      let digits := s.takeWhile Char.isDigit
      if digits = [] then none else some (digits, s.dropWhile Char.isDigit)
  | s => some ([], s)

/-- The exponent, if there is one. -/
def readExponent : List Char → Option (Int × List Char)
  | c :: s =>
      if c = 'e' ∨ c = 'E' then
        let (negative, s) :=
          match s with
          | '+' :: s => (false, s)
          | s => readSign s
        let digits := s.takeWhile Char.isDigit
        if digits = [] then none
        else some (signed negative (Nat.ofDigitChars 10 digits 0), s.dropWhile Char.isDigit)
      else some (0, c :: s)
  | [] => some (0, [])

def readNumber (s : List Char) : Option (Value × List Char) :=
  let (negative, s) := readSign s
  let digits := s.takeWhile Char.isDigit
  -- a number does not begin with a zero, unless that is all of it
  if digits = [] ∨ (digits.head? = some '0' ∧ digits ≠ ['0']) then none
  else do
    let (fraction, s) ← readFraction (s.dropWhile Char.isDigit)
    let (exponent, s) ← readExponent s
    some (.number (signed negative (Nat.ofDigitChars 10 (digits ++ fraction) 0))
      (exponent - fraction.length), s)

/-- A word that stands for a value. -/
def readWord (word : List Char) (v : Value) (s : List Char) : Option (Value × List Char) :=
  if word <+: s then some (v, s.drop word.length) else none

mutual

/-- Reads one value; `fuel` bounds the number of nested calls. -/
def readValue : ℕ → List Char → Option (Value × List Char)
  | 0, _ => none
  | fuel + 1, s =>
    match skipSpace s with
    | '\x7b' :: s =>
        match skipSpace s with
        | '\x7d' :: s => some (.object [], s)
        | s => (readMembers fuel s).map fun read => (.object read.1, read.2)
    | '[' :: s =>
        match skipSpace s with
        | ']' :: s => some (.array [], s)
        | s => (readElements fuel s).map fun read => (.array read.1, read.2)
    | '"' :: s => (readString s).map fun read => (.string read.1, read.2)
    | s =>
        readWord nullWord .null s <|> readWord (boolWord true) (.bool true) s <|>
          readWord (boolWord false) (.bool false) s <|> readNumber s

/-- The elements of an array, up to its closing bracket. -/
def readElements : ℕ → List Char → Option (List Value × List Char)
  | 0, _ => none
  | fuel + 1, s => do
    let (v, s) ← readValue fuel s
    match skipSpace s with
    | ',' :: s =>
        let (vs, s) ← readElements fuel s
        some (v :: vs, s)
    | ']' :: s => some ([v], s)
    | _ => none

/-- The members of an object, up to its closing brace. -/
def readMembers : ℕ → List Char → Option (List (String × Value) × List Char)
  | 0, _ => none
  | fuel + 1, s =>
    match skipSpace s with
    | '"' :: s => do
        let (name, s) ← readString s
        match skipSpace s with
        | ':' :: s =>
            let (v, s) ← readValue fuel s
            match skipSpace s with
            | ',' :: s =>
                let (members, s) ← readMembers fuel s
                some ((name, v) :: members, s)
            | '\x7d' :: s => some ([(name, v)], s)
            | _ => none
        | _ => none
    | _ => none

end

/-- The value of a JSON text, if it is one. -/
def read (text : String) : Option Value :=
  match readValue text.toList.length text.toList with
  | some (v, s) => if skipSpace s = [] then some v else none
  | none => none

/-! ## Reading what was printed -/

/-- Strings that stand for themselves between quotes. -/
def PlainText (s : String) : Prop :=
  ∀ c ∈ s.toList, c ≠ '"' ∧ c ≠ '\\' ∧ 32 ≤ c.toNat

instance (s : String) : Decidable (PlainText s) :=
  List.decidableBAll (fun c => c ≠ '"' ∧ c ≠ '\\' ∧ 32 ≤ c.toNat) s.toList

mutual

/-- Values without strings that need escapes. -/
def Value.Plain : Value → Prop
  | .string s => PlainText s
  | .array elements => PlainElements elements
  | .object members => PlainMembers members
  | _ => True

def PlainElements : List Value → Prop
  | [] => True
  | v :: vs => v.Plain ∧ PlainElements vs

def PlainMembers : List (String × Value) → Prop
  | [] => True
  | (name, v) :: members => PlainText name ∧ v.Plain ∧ PlainMembers members

end

section Strings

theorem skipSpace_cons {c : Char} (h : isSpace c = false) (s : List Char) :
    skipSpace (c :: s) = c :: s := by
  simp [skipSpace, h]

/-- A plain text is read up to its quote. -/
theorem readUnits_append {s : List Char} (h : ∀ c ∈ s, c ≠ '"' ∧ c ≠ '\\' ∧ 32 ≤ c.toNat)
    (rest : List Char) :
    readUnits (s ++ '"' :: rest) = some (s.map Char.toNat, rest) := by
  induction s with
  | nil =>
      rw [List.nil_append, readUnits.eq_def]
      rfl
  | cons c s ih =>
      obtain ⟨hquote, hescape, hcontrol⟩ := h c List.mem_cons_self
      have hrest := ih fun d hd => h d (List.mem_cons_of_mem c hd)
      rw [List.cons_append, readUnits.eq_def]
      simp only [hquote, hescape, Nat.not_lt.mpr hcontrol, if_false, hrest]
      rfl

/-- No character is one half of a pair. -/
theorem toNat_not_surrogate (c : Char) : c.toNat < 0xD800 ∨ 0xE000 ≤ c.toNat := by
  rcases c.valid with h | h
  · exact Or.inl h
  · exact Or.inr h.1

/-- Its characters are their own code units. -/
theorem decodeUnits_map_toNat (s : List Char) : decodeUnits (s.map Char.toNat) = some s := by
  induction s with
  | nil => rfl
  | cons c s ih =>
      have hc := toNat_not_surrogate c
      rw [List.map_cons, decodeUnits.eq_def]
      simp only
      rw [if_neg (by omega), if_neg (by omega), ih, Option.map_some, Char.ofNat_toNat]

theorem readString_append {s : String} (h : PlainText s) (rest : List Char) :
    readString (s.toList ++ '"' :: rest) = some (s, rest) := by
  simp [readString, readUnits_append h, decodeUnits_map_toNat]

end Strings

section Numbers

/-- What may stand after a printed value. -/
def Follows (rest : List Char) : Prop :=
  ∀ c ∈ rest.head?, c = ',' ∨ c = ']' ∨ c = '\x7d'

theorem follows_nil : Follows [] := by simp [Follows]

theorem follows_comma (rest : List Char) : Follows (',' :: rest) := by simp [Follows]

theorem follows_bracket (rest : List Char) : Follows (']' :: rest) := by simp [Follows]

theorem follows_brace (rest : List Char) : Follows ('\x7d' :: rest) := by simp [Follows]

/-- A text in which no number goes on. -/
def NoDigit (rest : List Char) : Prop := ∀ c ∈ rest.head?, c.isDigit = false

/-- No digit follows a value. -/
theorem Follows.noDigit {rest : List Char} (h : Follows rest) : NoDigit rest := by
  intro c hc
  rcases h c hc with rfl | rfl | rfl <;> rfl

/-- Decimals have digits only. -/
theorem digits_isDigit (n : ℕ) : ∀ c ∈ Nat.toDigits 10 n, c.isDigit = true :=
  fun _ hc => Nat.isDigit_of_mem_toDigits (by decide) (by decide) hc

/-- A digit is no other character. -/
theorem digit_ne {c d : Char} (hc : c.isDigit = true) (hd : d.isDigit = false) : c ≠ d := by
  intro hcd
  rw [hcd, hd] at hc
  cases hc

/-- The digits of a number are read to their end. -/
theorem takeWhile_digits (n : ℕ) {rest : List Char} (h : NoDigit rest) :
    (Nat.toDigits 10 n ++ rest).takeWhile Char.isDigit = Nat.toDigits 10 n := by
  rw [List.takeWhile_append_of_pos (digits_isDigit n)]
  cases rest with
  | nil => simp
  | cons c rest => simp [h c rfl]

/-- What follows them is left. -/
theorem dropWhile_digits (n : ℕ) {rest : List Char} (h : NoDigit rest) :
    (Nat.toDigits 10 n ++ rest).dropWhile Char.isDigit = rest := by
  rw [List.dropWhile_append_of_pos (digits_isDigit n)]
  cases rest with
  | nil => rfl
  | cons c rest => simp [h c rfl]

/-- A number has a first digit. -/
theorem digits_cons (n : ℕ) : ∃ c s, Nat.toDigits 10 n = c :: s ∧ c.isDigit = true := by
  obtain ⟨c, s, hcs⟩ := List.exists_cons_of_ne_nil (Nat.toDigits_ne_nil (n := n) (b := 10))
  exact ⟨c, s, hcs, digits_isDigit n c (hcs ▸ List.mem_cons_self)⟩

/-- Digits begin with a zero only in the text of zero. -/
theorem digits_head (n : ℕ) (h : (Nat.toDigits 10 n).head? = some '0') :
    Nat.toDigits 10 n = ['0'] := by
  induction n using Nat.strongRecOn with
  | ind n ih =>
      by_cases hn : n < 10
      · rw [Nat.toDigits_of_lt_base hn] at h ⊢
        rw [Option.some.inj h]
      · rw [Nat.toDigits_of_base_le (by decide) (by omega)] at h ⊢
        obtain ⟨c, s, hcs, _⟩ := digits_cons (n / 10)
        have hzero := ih (n / 10) (by omega) (by simpa [hcs] using h)
        have hvalue := congrArg (Nat.ofDigitChars 10 · 0) hzero
        rw [Nat.ofDigitChars_ten_toDigits] at hvalue
        have : n / 10 = 0 := hvalue
        omega

theorem readSign_digits (n : ℕ) (rest : List Char) :
    readSign (Nat.toDigits 10 n ++ rest) = (false, Nat.toDigits 10 n ++ rest) := by
  obtain ⟨c, s, hcs, hc⟩ := digits_cons n
  rw [hcs, List.cons_append, readSign]
  intro s' h
  injection h with hminus
  subst hminus
  exact absurd hc (by decide)

/-- An integer is its sign and its digits. -/
theorem toList_repr (a : Int) :
    a.repr.toList = (if a < 0 then ['-'] else []) ++ Nat.toDigits 10 a.natAbs := by
  rw [Int.repr_eq_if]
  by_cases h : 0 ≤ a
  · have hnat : a.toNat = a.natAbs := by omega
    rw [if_pos h, if_neg (by omega), Nat.toList_repr, hnat, List.nil_append]
  · have hnat : (-a).toNat = a.natAbs := by omega
    rw [if_neg h, if_pos (by omega), String.toList_append, Nat.toList_repr, hnat]
    rfl

/-- They are read apart. -/
theorem readSign_repr (a : Int) (rest : List Char) :
    readSign (a.repr.toList ++ rest) = (decide (a < 0), Nat.toDigits 10 a.natAbs ++ rest) := by
  rw [toList_repr]
  by_cases h : a < 0
  · simp [h, readSign]
  · simp [h, readSign_digits]

theorem signed_natAbs (a : Int) : signed (decide (a < 0)) a.natAbs = a := by
  by_cases h : a < 0
  · simp only [signed, h, decide_true, if_true]
    omega
  · simp only [signed, h, decide_false, Bool.false_eq_true, if_false]
    omega

/-- Without a point there is no fraction. -/
theorem readFraction_none {s : List Char} (h : ∀ c ∈ s.head?, c ≠ '.') :
    readFraction s = some ([], s) := by
  rw [readFraction]
  intro s' hs
  exact h '.' (by simp [hs]) rfl

/-- Without an e there is no exponent. -/
theorem readExponent_none {s : List Char} (h : ∀ c ∈ s.head?, c ≠ 'e' ∧ c ≠ 'E') :
    readExponent s = some (0, s) := by
  cases s with
  | nil => rfl
  | cons c s =>
      obtain ⟨he, hE⟩ := h c rfl
      simp [readExponent, he, hE]

/-- An integer is printed without a plus. -/
theorem repr_ne_plus (a : Int) (rest s : List Char) : a.repr.toList ++ rest ≠ '+' :: s := by
  intro hs
  have hsign := readSign_repr a rest
  obtain ⟨c, digits, hcs, hc⟩ := digits_cons a.natAbs
  rw [hs, hcs] at hsign
  injection congrArg Prod.snd hsign with hhead
  subst hhead
  exact absurd hc (by decide)

/-- An exponent is read back. -/
theorem readExponent_repr (a : Int) {rest : List Char} (h : NoDigit rest) :
    readExponent ('e' :: (a.repr.toList ++ rest)) = some (a, rest) := by
  have hsigned : (match a.repr.toList ++ rest with
      | '+' :: s => (false, s)
      | s => readSign s) = (decide (a < 0), Nat.toDigits 10 a.natAbs ++ rest) := by
    split
    · rename_i s hs
      exact absurd hs (repr_ne_plus a rest s)
    · exact readSign_repr a rest
  simp only [readExponent, true_or, if_true, hsigned, takeWhile_digits _ h,
    dropWhile_digits _ h, Nat.ofDigitChars_ten_toDigits, signed_natAbs, Nat.toDigits_ne_nil,
    if_false]

theorem exponentText_append (exponent : Int) {rest : List Char} (h : Follows rest) :
    NoDigit (exponentText exponent ++ rest) ∧
      (∀ c ∈ (exponentText exponent ++ rest).head?, c ≠ '.') ∧
      readExponent (exponentText exponent ++ rest) = some (exponent, rest) := by
  by_cases hzero : exponent = 0
  · have hrest : ∀ c ∈ rest.head?, c ≠ '.' ∧ c ≠ 'e' ∧ c ≠ 'E' := by
      intro c hc
      rcases h c hc with rfl | rfl | rfl <;> decide
    simp only [exponentText, hzero, if_true, List.nil_append]
    exact ⟨h.noDigit, fun c hc => (hrest c hc).1, readExponent_none fun c hc => (hrest c hc).2⟩
  · simp only [exponentText, hzero, if_false, List.cons_append]
    refine ⟨?_, ?_, readExponent_repr exponent h.noDigit⟩
    · intro c hc
      cases hc
      rfl
    · intro c hc
      cases hc
      decide

/-- A number is read back, whatever follows. -/
theorem readNumber_print (mantissa exponent : Int) {rest : List Char} (h : Follows rest) :
    readNumber (mantissa.repr.toList ++ (exponentText exponent ++ rest)) =
      some (.number mantissa exponent, rest) := by
  obtain ⟨hdigit, hpoint, hexponent⟩ := exponentText_append exponent h
  have hhead : ¬ (Nat.toDigits 10 mantissa.natAbs = [] ∨
      (Nat.toDigits 10 mantissa.natAbs).head? = some '0' ∧
        Nat.toDigits 10 mantissa.natAbs ≠ ['0']) := by
    intro hbad
    rcases hbad with hnil | ⟨hzero, hne⟩
    · exact Nat.toDigits_ne_nil hnil
    · exact hne (digits_head _ hzero)
  simp only [readNumber, readSign_repr, takeWhile_digits _ hdigit, dropWhile_digits _ hdigit,
    if_neg hhead, readFraction_none hpoint, hexponent, List.append_nil,
    Nat.ofDigitChars_ten_toDigits, signed_natAbs, Option.bind_eq_bind, Option.bind_some,
    List.length_nil]
  rw [show exponent - ((0 : ℕ) : Int) = exponent by omega]

end Numbers

/-! ## Values -/

section Heads

/-- A number begins with a minus or a digit. -/
theorem number_head (a : Int) :
    ∃ c s, a.repr.toList = c :: s ∧ (c = '-' ∨ c.isDigit = true) := by
  rw [toList_repr]
  by_cases h : a < 0
  · exact ⟨'-', Nat.toDigits 10 a.natAbs, by simp [h], Or.inl rfl⟩
  · obtain ⟨c, s, hcs, hc⟩ := digits_cons a.natAbs
    exact ⟨c, s, by simp [h, hcs], Or.inr hc⟩

theorem number_head_ne {c d : Char} (h : c = '-' ∨ c.isDigit = true)
    (hd : d ≠ '-' ∧ d.isDigit = false) : c ≠ d := by
  rcases h with rfl | h
  · exact hd.1.symm
  · exact digit_ne h hd.2

theorem number_head_not_space {c : Char} (h : c = '-' ∨ c.isDigit = true) :
    isSpace c = false := by
  simp only [isSpace, Bool.or_eq_false_iff, decide_eq_false_iff_not]
  exact ⟨⟨⟨number_head_ne h (by decide), number_head_ne h (by decide)⟩,
    number_head_ne h (by decide)⟩, number_head_ne h (by decide)⟩

/-- No space comes before a value, and no bracket that closes. -/
theorem print_head (v : Value) :
    ∃ c s, print v = c :: s ∧ isSpace c = false ∧ c ≠ ']' := by
  cases v with
  | null => exact ⟨'n', ['u', 'l', 'l'], rfl, rfl, by decide⟩
  | bool b =>
      cases b with
      | false => exact ⟨'f', ['a', 'l', 's', 'e'], rfl, rfl, by decide⟩
      | true => exact ⟨'t', ['r', 'u', 'e'], rfl, rfl, by decide⟩
  | number mantissa exponent =>
      obtain ⟨c, s, hcs, hc⟩ := number_head mantissa
      refine ⟨c, s ++ exponentText exponent, ?_, number_head_not_space hc,
        number_head_ne hc (by decide)⟩
      rw [print, hcs, List.cons_append]
  | string s => exact ⟨'"', s.toList ++ ['"'], rfl, rfl, by decide⟩
  | array elements => exact ⟨'[', _, rfl, rfl, by decide⟩
  | object members => exact ⟨'\x7b', _, rfl, rfl, by decide⟩

/-- Another first letter is another word. -/
theorem readWord_none {c d : Char} {s t : List Char} {v : Value} (h : c ≠ d) :
    readWord (d :: t) v (c :: s) = none := by
  rw [readWord, if_neg]
  intro hbegins
  exact h (List.cons_prefix_cons.mp hbegins).1.symm

/-- A word is read back. -/
theorem readWord_append (word : List Char) (v : Value) (rest : List Char) :
    readWord word v (word ++ rest) = some (v, rest) := by
  rw [readWord, if_pos (List.prefix_append _ _), List.drop_left]

/-- A text that begins with none of the marks is a word or a number. -/
theorem readValue_bare (fuel : ℕ) {c : Char} {s : List Char} (hspace : isSpace c = false)
    (hbrace : c ≠ '\x7b') (hbracket : c ≠ '[') (hquote : c ≠ '"') :
    readValue (fuel + 1) (c :: s) =
      (readWord nullWord .null (c :: s) <|> readWord (boolWord true) (.bool true) (c :: s) <|>
        readWord (boolWord false) (.bool false) (c :: s) <|> readNumber (c :: s)) := by
  rw [readValue, skipSpace_cons hspace]
  split
  · rename_i h
    exact absurd (List.head_eq_of_cons_eq h) hbrace
  · rename_i h
    exact absurd (List.head_eq_of_cons_eq h) hbracket
  · rename_i h
    exact absurd (List.head_eq_of_cons_eq h) hquote
  · rfl

/-- A number is read as a value. -/
theorem readValue_number (fuel : ℕ) (mantissa exponent : Int) {rest : List Char}
    (h : Follows rest) :
    readValue (fuel + 1) (print (.number mantissa exponent) ++ rest) =
      some (.number mantissa exponent, rest) := by
  have hread := readNumber_print mantissa exponent h
  obtain ⟨c, s, hcs, hc⟩ := number_head mantissa
  rw [print, List.append_assoc]
  rw [hcs, List.cons_append] at hread ⊢
  rw [readValue_bare fuel (number_head_not_space hc) (number_head_ne hc (by decide))
    (number_head_ne hc (by decide)) (number_head_ne hc (by decide)),
    nullWord, boolWord, boolWord, readWord_none (number_head_ne hc (by decide)),
    readWord_none (number_head_ne hc (by decide)),
    readWord_none (number_head_ne hc (by decide)), hread]
  rfl

theorem readValue_null (fuel : ℕ) (rest : List Char) :
    readValue (fuel + 1) (print .null ++ rest) = some (.null, rest) := by
  have hread := readWord_append nullWord .null rest
  rw [print]
  simp only [nullWord, List.cons_append] at hread ⊢
  rw [readValue_bare fuel rfl (by decide) (by decide) (by decide), nullWord, hread]
  rfl

theorem readValue_bool (fuel : ℕ) (b : Bool) (rest : List Char) :
    readValue (fuel + 1) (print (.bool b) ++ rest) = some (.bool b, rest) := by
  have hread := readWord_append (boolWord b) (.bool b) rest
  rw [print]
  cases b with
  | false =>
      simp only [boolWord, List.cons_append] at hread ⊢
      rw [readValue_bare fuel rfl (by decide) (by decide) (by decide), nullWord, boolWord,
        boolWord, readWord_none (by decide), readWord_none (by decide), hread]
      rfl
  | true =>
      simp only [boolWord, List.cons_append] at hread ⊢
      rw [readValue_bare fuel rfl (by decide) (by decide) (by decide), nullWord, boolWord,
        readWord_none (by decide), hread]
      rfl

theorem readValue_string (fuel : ℕ) {s : String} (h : PlainText s) (rest : List Char) :
    readValue (fuel + 1) (quoted s ++ rest) = some (.string s, rest) := by
  rw [quoted, List.cons_append, List.append_assoc, readValue, skipSpace_cons rfl]
  simp only [List.singleton_append, readString_append h, Option.map_some]

end Heads

section Lists

@[simp]
theorem skipSpace_comma (s : List Char) : skipSpace (',' :: s) = ',' :: s := skipSpace_cons rfl s

@[simp]
theorem skipSpace_colon (s : List Char) : skipSpace (':' :: s) = ':' :: s := skipSpace_cons rfl s

@[simp]
theorem skipSpace_bracket (s : List Char) : skipSpace (']' :: s) = ']' :: s := skipSpace_cons rfl s

@[simp]
theorem skipSpace_brace (s : List Char) : skipSpace ('\x7d' :: s) = '\x7d' :: s :=
  skipSpace_cons rfl s

@[simp]
theorem skipSpace_quote (s : List Char) : skipSpace ('"' :: s) = '"' :: s := skipSpace_cons rfl s

variable {fuel : ℕ} {v : Value} {s t rest : List Char}

/-- An array that is not empty is read element by element. -/
theorem readValue_array {c : Char} (hspace : isSpace c = false) (hclose : c ≠ ']') :
    readValue (fuel + 1) ('[' :: c :: s) =
      (readElements fuel (c :: s)).map fun read => (.array read.1, read.2) := by
  rw [readValue, skipSpace_cons rfl]
  simp only [skipSpace_cons hspace]
  split
  · rename_i h
    exact absurd (List.head_eq_of_cons_eq h) hclose
  · rfl

/-- The last element is the one before the bracket. -/
theorem readElements_last (h : readValue fuel s = some (v, ']' :: rest)) :
    readElements (fuel + 1) s = some ([v], rest) := by
  simp [readElements, h]

/-- After a comma there are more. -/
theorem readElements_more {vs : List Value} (h : readValue fuel s = some (v, ',' :: t))
    (hmore : readElements fuel t = some (vs, rest)) :
    readElements (fuel + 1) s = some (v :: vs, rest) := by
  simp [readElements, h, hmore]

/-- An object that is not empty is read member by member. -/
theorem readValue_object :
    readValue (fuel + 1) ('\x7b' :: '"' :: s) =
      (readMembers fuel ('"' :: s)).map fun read => (.object read.1, read.2) := by
  rw [readValue, skipSpace_cons rfl]
  simp only [skipSpace_quote]
  rfl

/-- The last member is the one before the brace. -/
theorem readMembers_last {name : String} (hname : PlainText name)
    (h : readValue fuel s = some (v, '\x7d' :: rest)) :
    readMembers (fuel + 1) (quoted name ++ ':' :: s) = some ([(name, v)], rest) := by
  rw [quoted, List.cons_append, List.append_assoc, readMembers, skipSpace_quote]
  simp [readString_append hname, h]

/-- After a comma there are more. -/
theorem readMembers_more {name : String} {members : List (String × Value)}
    (hname : PlainText name) (h : readValue fuel s = some (v, ',' :: t))
    (hmore : readMembers fuel t = some (members, rest)) :
    readMembers (fuel + 1) (quoted name ++ ':' :: s) = some ((name, v) :: members, rest) := by
  rw [quoted, List.cons_append, List.append_assoc, readMembers, skipSpace_quote]
  simp [readString_append hname, h, hmore]

end Lists

mutual

/-- **One value.**  The reader stops right behind a printed value. -/
theorem readValue_print : (v : Value) → (fuel : ℕ) → (rest : List Char) → v.Plain →
    (print v).length ≤ fuel → Follows rest →
    readValue fuel (print v ++ rest) = some (v, rest)
  | v, 0, rest, _, hfuel, _ => by
      obtain ⟨c, s, hcs, _⟩ := print_head v
      rw [hcs] at hfuel
      exact absurd hfuel (Nat.not_succ_le_zero _)
  | .null, fuel + 1, rest, _, _, _ => readValue_null fuel rest
  | .bool b, fuel + 1, rest, _, _, _ => readValue_bool fuel b rest
  | .number mantissa exponent, fuel + 1, rest, _, _, hrest =>
      readValue_number fuel mantissa exponent hrest
  | .string s, fuel + 1, rest, hplain, _, _ => readValue_string fuel hplain rest
  | .array [], fuel + 1, rest, _, _, _ => rfl
  | .array (v :: vs), fuel + 1, rest, hplain, hfuel, _ => by
      simp only [print, List.length_cons, List.length_append, List.length_nil] at hfuel
      have hread := readElements_print v vs fuel rest hplain (by omega)
      obtain ⟨c, s, hcs, hspace, hclose⟩ := print_head v
      have hjoin : commaJoin (printElements (v :: vs)) ++ ']' :: rest =
          c :: (commaJoin (s :: printElements vs) ++ ']' :: rest) := by
        cases vs with
        | nil => simp [printElements, commaJoin, hcs]
        | cons w vs => simp [printElements, commaJoin, hcs]
      rw [print, List.cons_append, List.append_assoc, List.singleton_append]
      rw [hjoin] at hread ⊢
      rw [readValue_array hspace hclose, hread]
      rfl
  | .object [], fuel + 1, rest, _, _, _ => rfl
  | .object ((name, v) :: members), fuel + 1, rest, hplain, hfuel, _ => by
      simp only [print, List.length_cons, List.length_append, List.length_nil] at hfuel
      have hread := readMembers_print name v members fuel rest hplain (by omega)
      have hjoin : commaJoin (printMembers ((name, v) :: members)) ++ '\x7d' :: rest =
          '"' :: (commaJoin ((name.toList ++ '"' :: ':' :: print v) ::
            printMembers members) ++ '\x7d' :: rest) := by
        cases members with
        | nil => simp [printMembers, commaJoin, quoted]
        | cons member members => simp [printMembers, commaJoin, quoted]
      rw [print, List.cons_append, List.append_assoc, List.singleton_append]
      rw [hjoin] at hread ⊢
      rw [readValue_object, hread]
      rfl

theorem readElements_print : (v : Value) → (vs : List Value) → (fuel : ℕ) →
    (rest : List Char) → PlainElements (v :: vs) →
    (commaJoin (printElements (v :: vs))).length + 1 ≤ fuel →
    readElements fuel (commaJoin (printElements (v :: vs)) ++ ']' :: rest) =
      some (v :: vs, rest)
  | v, vs, 0, rest, _, hfuel => absurd hfuel (Nat.not_succ_le_zero _)
  | v, [], fuel + 1, rest, hplain, hfuel =>
      readElements_last (readValue_print v fuel (']' :: rest) hplain.1
        (Nat.le_of_succ_le_succ hfuel) (follows_bracket rest))
  | v, w :: vs, fuel + 1, rest, hplain, hfuel => by
      simp only [printElements, commaJoin, List.length_append, List.length_cons] at hfuel
      have hread := readValue_print v fuel
        (',' :: (commaJoin (printElements (w :: vs)) ++ ']' :: rest)) hplain.1 (by omega)
        (follows_comma _)
      have hmore := readElements_print w vs fuel rest hplain.2 (by
        simp only [printElements]
        omega)
      have hjoin : commaJoin (printElements (v :: w :: vs)) ++ ']' :: rest =
          print v ++ ',' :: (commaJoin (printElements (w :: vs)) ++ ']' :: rest) := by
        simp [printElements, commaJoin]
      rw [hjoin]
      exact readElements_more hread hmore

theorem readMembers_print : (name : String) → (v : Value) → (members : List (String × Value)) →
    (fuel : ℕ) → (rest : List Char) → PlainMembers ((name, v) :: members) →
    (commaJoin (printMembers ((name, v) :: members))).length + 1 ≤ fuel →
    readMembers fuel (commaJoin (printMembers ((name, v) :: members)) ++ '\x7d' :: rest) =
      some ((name, v) :: members, rest)
  | name, v, members, 0, rest, _, hfuel => absurd hfuel (Nat.not_succ_le_zero _)
  | name, v, [], fuel + 1, rest, hplain, hfuel => by
      simp only [printMembers, commaJoin, List.length_append, List.length_cons] at hfuel
      have hread := readValue_print v fuel ('\x7d' :: rest) hplain.2.1 (by omega)
        (follows_brace rest)
      rw [printMembers, printMembers, commaJoin, List.append_assoc]
      exact readMembers_last hplain.1 hread
  | name, v, (next, w) :: members, fuel + 1, rest, hplain, hfuel => by
      simp only [printMembers, commaJoin, List.length_append, List.length_cons] at hfuel
      have hread := readValue_print v fuel
        (',' :: (commaJoin (printMembers ((next, w) :: members)) ++ '\x7d' :: rest))
        hplain.2.1 (by omega) (follows_comma _)
      have hmore := readMembers_print next w members fuel rest hplain.2.2 (by
        simp only [printMembers]
        omega)
      have hjoin : commaJoin (printMembers ((name, v) :: (next, w) :: members)) ++
            '\x7d' :: rest =
          quoted name ++ ':' :: (print v ++
            ',' :: (commaJoin (printMembers ((next, w) :: members)) ++ '\x7d' :: rest)) := by
        simp [printMembers, commaJoin]
      rw [hjoin]
      exact readMembers_more hplain.1 hread hmore

end

/-- **The reader reads what was printed.** -/
theorem read_print {v : Value} (h : v.Plain) : read (String.ofList (print v)) = some v := by
  have hread := readValue_print v (print v).length [] h (Nat.le_refl _) follows_nil
  rw [List.append_nil] at hread
  rw [read, String.toList_ofList, hread]
  rfl

end Json
