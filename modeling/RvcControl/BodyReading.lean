import RvcControl.FlatBody

/-!
# What the parsers read from a flat body

A search for a key ends at the first member of that name whose colon follows
directly (`seenMember?`), and goes past all others.  Each parser is described by
that member: its value, the whitespace behind its colon and, for `parseBool`,
what stands behind it.
-/

namespace RvcControl

open TextSearch

/-! ## Values -/

def Scalar.bool? : Scalar → Option Bool
  | .bare word =>
      if word.text = Json.boolWord true then some true
      else if word.text = Json.boolWord false then some false
      else none
  | .string _ => none

def Scalar.string? : Scalar → Option RawString
  | .string raw => some raw
  | .bare _ => none

/-- The value of a decimal integer. -/
def Scalar.int? : Scalar → Option Int
  | .bare word =>
      let (negative, digits) := Json.readSign word.text
      if digits ≠ [] ∧ digits.all Char.isDigit = true
      then some (Json.signed negative (Nat.ofDigitChars 10 digits 0))
      else none
  | .string _ => none

/-- A string value up to its first quote. -/
def Scalar.stringText : Scalar → String
  | .string raw => String.ofList (raw.text.takeWhile (· ≠ '"'))
  | .bare _ => ""

/-- The number that `stoi` finds at the beginning of a value, or else zero. -/
def Scalar.readInt (value : Scalar) : Int := (stoi value.text).getD 0

/-! ## The member of a name -/

/-- The first member that is taken for the key, and the members after it. -/
def namedMember? (key : String) (ms : List Member) : Option (Member × List Member) :=
  firstOf? (fun m => m.name.EndsIn key) ms

/-- The first of them whose colon follows its name directly. -/
def seenMember? (key : String) (ms : List Member) : Option (Member × List Member) :=
  firstOf? (fun m => m.name.EndsIn key ∧ m.beforeColon.text = []) ms

/-- The first member that is taken for the key and has a string for its value. -/
def stringMember? (key : String) (ms : List Member) : Option (Member × List Member) :=
  firstOf? (fun m => m.name.EndsIn key ∧ m.value.string?.isSome = true) ms

/-- The first of them without whitespace around its colon. -/
def seenString? (key : String) (ms : List Member) : Option (Member × List Member) :=
  firstOf? (fun m => (m.name.EndsIn key ∧ m.value.string?.isSome = true) ∧
    m.beforeColon.text = [] ∧ m.afterColon.text = []) ms

/-- At most one member is taken for the key. -/
def Once (key : String) (ms : List Member) : Prop :=
  ms.Pairwise fun m m' => ¬ (m.name.EndsIn key ∧ m'.name.EndsIn key)

instance (key : String) (ms : List Member) : Decidable (Once key ms) :=
  inferInstanceAs (Decidable (ms.Pairwise _))

section NamedMember

variable {key : String} {ms : List Member} {m : Member} {after : List Member}

/-- What is found stands among the members, with what is behind it. -/
theorem namedMember?_suffix (h : namedMember? key ms = some (m, after)) : m :: after <:+ ms :=
  firstOf?_suffix h

/-- What is found has the name. -/
theorem namedMember?_endsIn (h : namedMember? key ms = some (m, after)) :
    m ∈ ms ∧ m.name.EndsIn key :=
  ⟨firstOf?_mem h, firstOf?_holds (p := fun m : Member => m.name.EndsIn key) h⟩

/-- Of the members that are taken for a key the search sees the first, if its
colon follows directly, and else one behind it. -/
theorem seenMember?_eq (key : String) (ms : List Member) :
    seenMember? key ms =
      (namedMember? key ms).bind fun found =>
        if found.1.beforeColon.text = [] then some found else seenMember? key found.2 :=
  firstOf?_and (fun m : Member => m.name.EndsIn key) (fun m => m.beforeColon.text = []) ms

/-- A string with whitespace around its colon is gone past. -/
theorem seenString?_eq (key : String) (ms : List Member) :
    seenString? key ms =
      (stringMember? key ms).bind fun found =>
        if found.1.beforeColon.text = [] ∧ found.1.afterColon.text = [] then some found
        else seenString? key found.2 :=
  firstOf?_and (fun m : Member => m.name.EndsIn key ∧ m.value.string?.isSome = true)
    (fun m => m.beforeColon.text = [] ∧ m.afterColon.text = []) ms

/-- The first member of a name is the first that has a string, if it has one. -/
theorem stringMember?_eq (key : String) (ms : List Member) :
    stringMember? key ms =
      (namedMember? key ms).bind fun found =>
        if found.1.value.string?.isSome = true then some found else stringMember? key found.2 :=
  firstOf?_and (fun m : Member => m.name.EndsIn key) (fun m => m.value.string?.isSome = true) ms

/-- Where a name stands once, nothing is taken for it behind its member. -/
theorem Once.not_endsIn (honce : Once key ms) (h : namedMember? key ms = some (m, after)) :
    ∀ m' ∈ after, ¬ m'.name.EndsIn key := by
  intro m' hm' hends
  have hpair : Once key (m :: after) := honce.sublist (namedMember?_suffix h).sublist
  exact (List.pairwise_cons.mp hpair).1 m' hm' ⟨(namedMember?_endsIn h).2, hends⟩

/-- Behind a name that stands once there is none. -/
theorem Once.seenMember?_after (honce : Once key ms) (h : namedMember? key ms = some (m, after)) :
    seenMember? key after = none :=
  firstOf?_eq_none fun m' hm' hseen => honce.not_endsIn h m' hm' hseen.1

theorem Once.seenString?_after (honce : Once key ms) (h : namedMember? key ms = some (m, after)) :
    seenString? key after = none :=
  firstOf?_eq_none fun m' hm' hseen => honce.not_endsIn h m' hm' hseen.1.1

theorem exists_found_iff {p : Member → List Member → Prop} :
    (∃ m' after', some (m, after) = some (m', after') ∧ p m' after') ↔ p m after := by
  constructor
  · intro h
    obtain ⟨_, _, heq, hp⟩ := h
    cases heq
    exact hp
  · intro h
    exact ⟨m, after, rfl, h⟩

theorem forall_found_iff {p : Member → List Member → Prop} :
    (∀ m' after', some (m, after) = some (m', after') → p m' after') ↔ p m after := by
  constructor
  · intro h
    exact h m after rfl
  · intro h _ _ heq
    cases heq
    exact h

end NamedMember

/-! ## The look-ahead of `parseBool` -/

def trueWord : List Char := Json.boolWord true

/-- The next member begins, without a gap, with a name that begins with `true`. -/
def BeginsWithTrue (ms : List Member) : Prop :=
  ∃ next ∈ ms.head?, next.lead.text = [] ∧ trueWord <+: next.name.text

section LookAhead

variable {m : Member}

/-- A boolean is written as its word. -/
theorem Scalar.text_of_bool? {value : Scalar} {v : Bool} (h : value.bool? = some v) :
    value.text = Json.boolWord v := by
  cases value with
  | string raw => cases h
  | bare word =>
      rw [Scalar.bool?] at h
      split at h
      · cases h
        assumption
      · split at h
        · cases h
          assumption
        · cases h

/-- A gap takes its length from the window. -/
theorem within_gap (gap : Gap) (n : ℕ) (rest : List Char) :
    Within n trueWord (gap.text ++ rest) ↔ Within (n - gap.text.length) trueWord rest :=
  within_append (not_startsIn_of_notMem (gap.notMem rfl))

/-- A `true` lies in the window if its gap leaves room for it. -/
theorem within_true (hvalue : m.value.bool? = some true) (rest : List Char) :
    Within 8 trueWord (m.valueText ++ rest) ↔ m.afterColon.text.length ≤ 7 := by
  rw [Member.valueText, List.append_assoc, within_gap, Scalar.text_of_bool? hvalue,
    List.append_assoc, ← trueWord, within_prefix (List.prefix_append _ _)]
  omega

/-- The members after one, from the name of the next one on. -/
theorem membersText_cons (tail : Gap) (next : Member) (ms : List Member) :
    membersText tail (next :: ms) =
      (',' :: (next.lead.text ++ ['"'])) ++ (next.name.text ++
        '"' :: (next.beforeColon.text ++ ':' :: (next.valueText ++ membersText tail ms))) := by
  simp [membersText, Member.text, RawString.quoted]

/-- Three positions reach the name of the next member if there is no gap. -/
theorem within_membersText {n : ℕ} (hn : n ≤ 3) (tail : Gap) (ms : List Member) :
    Within n trueWord (membersText tail ms) ↔ n = 3 ∧ BeginsWithTrue ms := by
  cases ms with
  | nil =>
      have hnotMem : 't' ∉ '\x7d' :: tail.text := by simp [tail.notMem (c := 't') rfl]
      constructor
      · intro h
        exact absurd h (not_within_of_notMem hnotMem)
      · intro h
        obtain ⟨_, next, hnext, _⟩ := h
        cases hnext
  | cons next ms =>
      have hnotMem : 't' ∉ ',' :: (next.lead.text ++ ['"']) := by
        simp [next.lead.notMem (c := 't') rfl]
      have hlength : (',' :: (next.lead.text ++ ['"'])).length = next.lead.text.length + 2 := by
        simp
      have hpiece : ∀ rest, ¬ StartsIn trueWord (',' :: (next.lead.text ++ ['"'])) rest :=
        fun _ => not_startsIn_of_notMem hnotMem
      rw [membersText_cons, within_append (hpiece _), hlength]
      by_cases hreach : n = 3 ∧ next.lead.text = []
      · obtain ⟨rfl, hlead⟩ := hreach
        rw [hlead, List.length_nil, within_one, prefix_append_cons (by decide)]
        simp [BeginsWithTrue, hlead]
      · have hzero : n - (next.lead.text.length + 2) = 0 := by
          by_contra hpos
          exact hreach ⟨by omega, List.length_eq_zero_iff.mp (by omega)⟩
        rw [hzero]
        constructor
        · intro h
          exact absurd h within_zero
        · intro h
          obtain ⟨hthree, next', hnext, hlead, _⟩ := h
          cases hnext
          exact absurd ⟨hthree, hlead⟩ hreach

/-- Behind a `false` the word begins only in the name of the next member, with
no gap on the way. -/
theorem within_false (hvalue : m.value.bool? = some false) (tail : Gap) (ms : List Member) :
    Within 8 trueWord (m.valueText ++ membersText tail ms) ↔
      m.afterColon.text = [] ∧ m.trail.text = [] ∧ BeginsWithTrue ms := by
  have hword : ¬ StartsIn trueWord (Json.boolWord false) (m.trail.text ++ membersText tail ms) :=
    not_startsIn_of_notMem (by decide)
  have hlength : (Json.boolWord false).length = 5 := rfl
  rw [Member.valueText, List.append_assoc, within_gap, Scalar.text_of_bool? hvalue,
    List.append_assoc, within_append hword, within_gap, within_membersText (by omega), hlength,
    ← List.length_eq_zero_iff, ← List.length_eq_zero_iff, ← and_assoc]
  have hgaps : 8 - m.afterColon.text.length - 5 - m.trail.text.length = 3 ↔
      m.afterColon.text.length = 0 ∧ m.trail.text.length = 0 := by omega
  rw [hgaps]

end LookAhead

/-- The word `true` begins at one of the eight positions behind the colon. -/
def Member.TrueAhead (m : Member) (tail : Gap) (after : List Member) : Prop :=
  Within 8 trueWord (m.valueText ++ membersText tail after)

/-! ## What is found -/

section Found

variable {key : String}

/-- The search for a name with its colon. -/
theorem foundText_name (key : String) (tail : Gap) (ms : List Member) :
    foundText key [] tail ms =
      (seenMember? key ms).map fun found => found.1.valueText ++ membersText tail found.2 := by
  induction ms with
  | nil => rfl
  | cons m ms ih =>
      rw [foundText]
      by_cases hseen : m.name.EndsIn key ∧ m.beforeColon.text = []
      · rw [if_pos ⟨hseen.1, hseen.2, List.nil_prefix⟩, seenMember?, firstOf?, if_pos hseen]
        rfl
      · rw [if_neg fun h => hseen ⟨h.1, h.2.1⟩, seenMember?, firstOf?, if_neg hseen]
        exact ih

/-- A string value is its raw string. -/
theorem Scalar.eq_of_string? {value : Scalar} {raw : RawString}
    (h : value.string? = some raw) : value = .string raw := by
  cases value with
  | string raw' =>
      cases h
      rfl
  | bare word => cases h

/-- A word and the gap behind it do not begin with a quote. -/
theorem not_quote_prefix (word : Word) (trail tail : Gap) (after : List Member) :
    ¬ ['"'] <+: word.text ++ (trail.text ++ membersText tail after) := by
  intro h
  obtain ⟨rest, hrest⟩ := h
  obtain ⟨c, s, hcs, hc⟩ := membersText_head tail after
  rw [hcs] at hrest
  rcases List.append_eq_cons_iff.mp hrest.symm with ⟨_, hrest⟩ | ⟨w, hword, _⟩
  · rcases List.append_eq_cons_iff.mp hrest with ⟨_, hhead⟩ | ⟨w, htrail, _⟩
    · have hquote : c = '"' := List.head_eq_of_cons_eq hhead
      rw [hquote] at hc
      exact absurd hc (by decide)
    · exact trail.notMem (c := '"') rfl (htrail ▸ List.mem_cons_self)
  · exact word.notMem (c := '"') rfl (hword ▸ List.mem_cons_self)

/-- A quote directly behind the colon begins a string value. -/
theorem quote_prefix_iff (m : Member) (tail : Gap) (after : List Member) :
    ['"'] <+: m.valueText ++ membersText tail after ↔
      m.value.string?.isSome = true ∧ m.afterColon.text = [] := by
  rw [Member.valueText, List.append_assoc, List.append_assoc]
  cases hgap : m.afterColon.text with
  | nil =>
      cases hvalue : m.value with
      | string raw => simp [Scalar.string?, Scalar.text, RawString.quoted]
      | bare word =>
          have hno := not_quote_prefix word m.trail tail after
          simpa [Scalar.string?, Scalar.text] using hno
  | cons c s =>
      have hc : c ≠ '"' := by
        intro hquote
        exact m.afterColon.notMem (c := '"') rfl (by rw [hgap, hquote]; exact List.mem_cons_self)
      simp [List.cons_prefix_cons, Ne.symm hc]

/-- The search for a name with its colon and a quote. -/
theorem foundText_string (key : String) (tail : Gap) (ms : List Member) :
    foundText key ['"'] tail ms =
      (seenString? key ms).map fun found =>
        (found.1.valueText ++ membersText tail found.2).drop 1 := by
  induction ms with
  | nil => rfl
  | cons m ms ih =>
      have hquote := quote_prefix_iff m tail ms
      rw [foundText]
      by_cases hseen : (m.name.EndsIn key ∧ m.value.string?.isSome = true) ∧
          m.beforeColon.text = [] ∧ m.afterColon.text = []
      · obtain ⟨⟨hends, hstring⟩, hbefore, hafter⟩ := hseen
        rw [if_pos ⟨hends, hbefore, hquote.mpr ⟨hstring, hafter⟩⟩, seenString?, firstOf?,
          if_pos ⟨⟨hends, hstring⟩, hbefore, hafter⟩]
        rfl
      · have hpassed : ¬ (m.name.EndsIn key ∧ m.beforeColon.text = [] ∧
            ['"'] <+: m.valueText ++ membersText tail ms) := by
          intro h
          obtain ⟨hends, hbefore, hbegins⟩ := h
          obtain ⟨hstring, hafter⟩ := hquote.mp hbegins
          exact hseen ⟨⟨hends, hstring⟩, hbefore, hafter⟩
        rw [if_neg hpassed, seenString?, firstOf?, if_neg hseen]
        exact ih

end Found

/-! ## The parsers -/

section Parsers

variable {key : String}

/-- The search in a body finds what is found among its members. -/
theorem behind_body (hkey : IsKey key) (b : FlatBody) (q : List Char) :
    behind (keyPattern key ++ q) b.body.toList = foundText key q b.tail b.members := by
  rw [FlatBody.body, String.toList_ofList, behind_text hkey]

/-- **`parseBool`** looks ahead from the member it sees. -/
theorem parseBool_body (hkey : IsKey key) (hword : ¬ "true".toList <:+: keyPattern key)
    (b : FlatBody) :
    parseBool b.body key = true ↔
      ∃ m after, seenMember? key b.members = some (m, after) ∧ m.TrueAhead b.tail after := by
  have hbehind := behind_body hkey b []
  rw [List.append_nil, foundText_name] at hbehind
  rw [parseBool_iff hword, hbehind, show "true".toList = trueWord by decide]
  cases seenMember? key b.members with
  | none => simp
  | some found =>
      obtain ⟨m, after⟩ := found
      rw [exists_found_iff]
      simp [Member.TrueAhead]

/-- The text of a string value up to its first quote. -/
theorem takeWhile_quote (raw : RawString) (rest : List Char) :
    (raw.text ++ '"' :: rest).takeWhile (· ≠ '"') = raw.text.takeWhile (· ≠ '"') := by
  by_cases hquote : '"' ∈ raw.text
  · obtain ⟨u, v, huv, hu⟩ := List.eq_append_cons_of_mem hquote
    rw [huv, List.append_assoc, List.cons_append, takeWhile_ne_append hu, takeWhile_ne_append hu]
  · rw [takeWhile_ne_append hquote, takeWhile_ne_self hquote]

/-- **`parseString`** takes the value of the member it sees, up to a quote. -/
theorem parseString_body (hkey : IsKey key) (b : FlatBody) (defaultValue : String) :
    parseString b.body key defaultValue =
      ((seenString? key b.members).map fun found => found.1.value.stringText).getD
        defaultValue := by
  rw [parseString_eq, behind_body hkey, foundText_string]
  cases hfound : seenString? key b.members with
  | none => rfl
  | some found =>
      obtain ⟨m, after⟩ := found
      obtain ⟨⟨_, hstring⟩, _, hafter⟩ := firstOf?_holds hfound
      obtain ⟨raw, hraw⟩ := Option.isSome_iff_exists.mp hstring
      have hvalue := Scalar.eq_of_string? hraw
      have htext : (m.valueText ++ membersText b.tail after).drop 1 =
          raw.text ++ '"' :: (m.trail.text ++ membersText b.tail after) := by
        simp [Member.valueText, hafter, hvalue, Scalar.text, RawString.quoted]
      have hquote : '"' ∈ raw.text ++ '"' :: (m.trail.text ++ membersText b.tail after) := by
        simp
      simp only [Option.map_some, htext, if_pos hquote, takeWhile_quote, Option.getD_some, hvalue,
        Scalar.stringText]

/-- The text of a decimal integer. -/
theorem Scalar.text_of_int? {value : Scalar} {n : Int} (h : value.int? = some n) :
    ∃ negative digits, value.text = (if negative then ['-'] else []) ++ digits ∧ digits ≠ [] ∧
      (∀ c ∈ digits, c.isDigit = true) ∧
      n = Json.signed negative (Nat.ofDigitChars 10 digits 0) := by
  cases value with
  | string raw => cases h
  | bare word =>
      have hsign : word.text =
          (if (Json.readSign word.text).1 then ['-'] else []) ++ (Json.readSign word.text).2 := by
        rw [Json.readSign.eq_def]
        split <;> simp_all
      simp only [Scalar.int?] at h
      split at h
      · rename_i hdigits
        cases h
        exact ⟨_, _, hsign, hdigits.1, List.all_eq_true.mp hdigits.2, rfl⟩
      · cases h

/-- The sign is read off a decimal. -/
theorem readSign_decimal {negative : Bool} {digits : List Char} (hne : digits ≠ [])
    (hdigits : ∀ c ∈ digits, c.isDigit = true) :
    readSign ((if negative then ['-'] else []) ++ digits) = (negative, digits) := by
  cases negative with
  | true => rfl
  | false =>
      obtain ⟨c, digits, rfl⟩ := List.exists_cons_of_ne_nil hne
      have hc := hdigits c List.mem_cons_self
      show readSign (c :: digits) = _
      rw [readSign]
      · intro s h
        exact Json.digit_ne hc (by decide) (List.head_eq_of_cons_eq h)
      · intro s h
        exact Json.digit_ne hc (by decide) (List.head_eq_of_cons_eq h)

/-- A letter of a word is no whitespace. -/
theorem isspace_of_isWordChar {c : Char} (h : isWordChar c = true) : isspace c = false := by
  have hne : ∀ d, isWordChar d = false → c ≠ d := by
    rintro d hd rfl
    rw [h] at hd
    cases hd
  simp [isspace, hne ' ' rfl, hne '\t' rfl, hne '\n' rfl, hne '\x0b' rfl, hne '\x0c' rfl,
    hne '\r' rfl]

/-- A word begins with no whitespace. -/
theorem dropWhile_word (word : Word) : word.text.dropWhile isspace = word.text := by
  cases htext : word.text with
  | nil => rfl
  | cons c s =>
      have hc := isspace_of_isWordChar (word.isWord c (htext ▸ List.mem_cons_self))
      simp [hc]

/-- A gap is skipped. -/
theorem dropWhile_gap (gap : Gap) (rest : List Char) :
    (gap.text ++ rest).dropWhile isspace = rest.dropWhile isspace := by
  apply List.dropWhile_append_of_pos
  intro c hc
  rcases gap.char_cases hc with rfl | rfl | rfl | rfl <;> rfl

/-- `stoi` reads the number of a decimal integer. -/
theorem stoi_of_int? {word : Word} {n : Int} (h : Scalar.int? (.bare word) = some n)
    (hint : InInt32 n) : stoi word.text = some n := by
  obtain ⟨negative, digits, htext, hne, hdigits, rfl⟩ := Scalar.text_of_int? h
  have htext : word.text = (if negative then ['-'] else []) ++ digits := htext
  have htake : digits.takeWhile Char.isDigit = digits := List.takeWhile_eq_self_iff.mpr hdigits
  simp only [stoi, dropWhile_word]
  rw [htext, readSign_decimal hne hdigits]
  simp only [htake]
  rw [if_pos ⟨hne, hint⟩]

/-- An integer in the range of `int` is read as it is. -/
theorem Scalar.readInt_of_int? {value : Scalar} {n : Int} (h : value.int? = some n)
    (hint : InInt32 n) : value.readInt = n := by
  cases value with
  | string raw => cases h
  | bare word =>
      show (stoi word.text).getD 0 = n
      rw [stoi_of_int? h hint]
      rfl

/-- Only the first character can be a sign. -/
theorem readSign_append (c : Char) (s t : List Char) :
    readSign (c :: (s ++ t)) = ((readSign (c :: s)).1, (readSign (c :: s)).2 ++ t) := by
  unfold readSign
  split
  · rename_i heq
    cases heq
    rfl
  · rename_i heq
    cases heq
    rfl
  · rename_i hplus hminus
    split
    · rename_i heq
      cases heq
      exact absurd rfl (hplus _)
    · rename_i heq
      cases heq
      exact absurd rfl (hminus _)
    · rfl

/-- Whitespace is no digit. -/
theorem takeWhile_isDigit_gap (s : List Char) (gap : Gap) :
    (s ++ gap.text).takeWhile Char.isDigit = s.takeWhile Char.isDigit := by
  induction s with
  | nil =>
      rw [List.nil_append]
      cases htext : gap.text with
      | nil => rfl
      | cons c s =>
          have hc : c.isDigit = false := by
            rcases gap.char_cases (htext ▸ List.mem_cons_self) with rfl | rfl | rfl | rfl <;> rfl
          simp [hc]
  | cons c s ih =>
      rw [List.cons_append, List.takeWhile_cons, List.takeWhile_cons, ih]

/-- Whitespace around a word does not matter to `stoi`. -/
theorem stoi_padded (word : Word) (gap trail : Gap) :
    stoi (gap.text ++ (word.text ++ trail.text)) = stoi word.text := by
  simp only [stoi, dropWhile_gap, dropWhile_word]
  cases htext : word.text with
  | nil =>
      have htrail : trail.text.dropWhile isspace = [] := by
        have hgap := dropWhile_gap trail []
        rwa [List.append_nil] at hgap
      rw [List.nil_append, htrail]
  | cons c s =>
      have hc := isspace_of_isWordChar (word.isWord c (htext ▸ List.mem_cons_self))
      have hdrop : ((c :: s) ++ trail.text).dropWhile isspace = c :: (s ++ trail.text) := by
        simp [hc]
      rw [hdrop, readSign_append]
      simp only [takeWhile_isDigit_gap]

/-- No number begins with a quote. -/
theorem stoi_quote (gap : Gap) (rest : List Char) : stoi (gap.text ++ '"' :: rest) = none := by
  have hdrop : ('"' :: rest).dropWhile isspace = '"' :: rest := rfl
  simp only [stoi, dropWhile_gap, hdrop]
  exact if_neg fun h => h.1 rfl

/-- The end of a value is not in a gap. -/
theorem Gap.not_end (gap : Gap) : ∀ c ∈ gap.text, decide (c ≠ ',' ∧ c ≠ '\x7d') = true := by
  intro c hc
  rcases gap.char_cases hc with rfl | rfl | rfl | rfl <;> decide

/-- A string may have commas and braces inside, but it begins with its quote. -/
theorem upToEnd_quote (gap : Gap) (rest : List Char) :
    ∃ s, upToEnd (gap.text ++ '"' :: rest) = gap.text ++ '"' :: s := by
  refine ⟨upToEnd rest, ?_⟩
  rw [upToEnd, List.takeWhile_append_of_pos gap.not_end]
  rfl

/-- What `stoi` finds behind the colon of a member, up to the next comma or brace. -/
theorem stoi_upToEnd (m : Member) (tail : Gap) (after : List Member) :
    (stoi (upToEnd (m.valueText ++ membersText tail after))).getD 0 = m.value.readInt := by
  rw [Scalar.readInt, Member.valueText]
  cases m.value with
  | string raw =>
      have hquoted : stoi raw.quoted = none := stoi_quote .empty _
      obtain ⟨s, hs⟩ := upToEnd_quote m.afterColon
        ((raw.text ++ ['"']) ++ (m.trail.text ++ membersText tail after))
      have htext : m.afterColon.text ++ ((Scalar.string raw).text ++ m.trail.text) ++
          membersText tail after = m.afterColon.text ++
            '"' :: ((raw.text ++ ['"']) ++ (m.trail.text ++ membersText tail after)) := by
        simp [Scalar.text, RawString.quoted]
      rw [htext, hs, stoi_quote, Scalar.text, hquoted]
  | bare word =>
      have hword : ∀ c ∈ word.text, decide (c ≠ ',' ∧ c ≠ '\x7d') = true := by
        intro c hc
        rw [decide_eq_true_eq]
        exact ⟨fun h => word.notMem (c := ',') rfl (h ▸ hc),
          fun h => word.notMem (c := '\x7d') rfl (h ▸ hc)⟩
      have hall : ∀ c ∈ m.afterColon.text ++ (word.text ++ m.trail.text),
          decide (c ≠ ',' ∧ c ≠ '\x7d') = true := by
        intro c hc
        rcases List.mem_append.mp hc with hbefore | hrest
        · exact m.afterColon.not_end c hbefore
        · rcases List.mem_append.mp hrest with hmid | htrail
          · exact hword c hmid
          · exact m.trail.not_end c htrail
      obtain ⟨c, s, hcs, hc⟩ := membersText_head tail after
      have hstop : (membersText tail after).takeWhile (fun c => c ≠ ',' ∧ c ≠ '\x7d') = [] := by
        rw [hcs]
        rcases hc with rfl | rfl <;> simp
      rw [Scalar.text, upToEnd, List.takeWhile_append_of_pos hall, hstop, List.append_nil,
        stoi_padded]

/-- **`parseInt`** reads the value of the member it sees. -/
theorem parseInt_body (hkey : IsKey key) (b : FlatBody) :
    parseInt b.body key 0 =
      ((seenMember? key b.members).map fun found => found.1.value.readInt).getD 0 := by
  have hbehind := behind_body hkey b []
  rw [List.append_nil, foundText_name] at hbehind
  rw [parseInt_eq, hbehind]
  cases seenMember? key b.members with
  | none => rfl
  | some found => exact stoi_upToEnd found.1 b.tail found.2

end Parsers

end RvcControl
