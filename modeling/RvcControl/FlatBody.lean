import RvcControl.RequestBody

/-!
# Flat JSON bodies

The texts of flat JSON objects, with whitespace between the tokens and with
escapes in the strings.  A quoted name with its colon can stand in such a text
only where a member of that name is (`behind_membersText`): the quote behind
it must close a string, and only the quote before a colon closes a name.
-/

namespace RvcControl

open TextSearch

/-! ## Tokens -/

/-- The whitespace between two tokens. -/
structure Gap where
  text : List Char
  isSpace : ∀ c ∈ text, Json.isSpace c = true

def Gap.ofText (s : List Char) (h : s.all Json.isSpace = true) : Gap := ⟨s, List.all_eq_true.mp h⟩

def Gap.empty : Gap := .ofText [] rfl

@[simp]
theorem Gap.empty_text : Gap.empty.text = [] := rfl

/-- Texts that may stand between quotes: a quote only behind a backslash. -/
inductive Escaped : List Char → Prop
  | nil : Escaped []
  | plain {c : Char} {s : List Char} (hquote : c ≠ '"') (hescape : c ≠ '\\') (h : Escaped s) :
      Escaped (c :: s)
  | escape {s : List Char} (c : Char) (h : Escaped s) : Escaped ('\\' :: c :: s)

/-- A text without quotes and backslashes needs no escapes. -/
theorem Escaped.of_plain {s : List Char} (h : ∀ c ∈ s, c ≠ '"' ∧ c ≠ '\\') : Escaped s := by
  induction s with
  | nil => exact .nil
  | cons c s ih =>
      obtain ⟨hquote, hescape⟩ := h c List.mem_cons_self
      exact .plain hquote hescape (ih fun d hd => h d (List.mem_cons_of_mem c hd))

structure RawString where
  text : List Char
  escaped : Escaped text

def RawString.ofText (s : String) (h : Json.PlainText s) : RawString :=
  ⟨s.toList, .of_plain fun c hc => ⟨(h c hc).1, (h c hc).2.1⟩⟩

def RawString.quoted (s : RawString) : List Char := '"' :: (s.text ++ ['"'])

/-- The letters of numbers and of `true`, `false` and `null`. -/
def isWordChar (c : Char) : Bool := c.isAlphanum || c = '+' || c = '-' || c = '.'

structure Word where
  text : List Char
  isWord : ∀ c ∈ text, isWordChar c = true

def Word.ofText (s : List Char) (h : s.all isWordChar = true) : Word := ⟨s, List.all_eq_true.mp h⟩

inductive Scalar
  | string (raw : RawString)
  | bare (word : Word)

def Scalar.text : Scalar → List Char
  | .string raw => raw.quoted
  | .bare word => word.text

/-! ## Objects -/

/-- A member with the gaps around its tokens. -/
structure Member where
  lead : Gap
  name : RawString
  beforeColon : Gap
  afterColon : Gap
  value : Scalar
  trail : Gap

/-- What stands behind the colon of a member. -/
def Member.valueText (m : Member) : List Char :=
  m.afterColon.text ++ (m.value.text ++ m.trail.text)

def Member.text (m : Member) : List Char :=
  m.lead.text ++ (m.name.quoted ++ (m.beforeColon.text ++ ':' :: m.valueText))

/-- What stands behind a member: the other members and the closing brace. -/
def membersText (tail : Gap) : List Member → List Char
  | [] => '\x7d' :: tail.text
  | m :: ms => ',' :: (m.text ++ membersText tail ms)

/-- A flat object; `inner` is the gap between the braces if it has no members. -/
structure FlatBody where
  lead : Gap
  inner : Gap
  members : List Member
  tail : Gap

def FlatBody.text (b : FlatBody) : List Char :=
  b.lead.text ++ '\x7b' ::
    match b.members with
    | [] => b.inner.text ++ '\x7d' :: b.tail.text
    | m :: ms => m.text ++ membersText b.tail ms

/-- The body as the server receives it. -/
def FlatBody.body (b : FlatBody) : String := String.ofList b.text

def Member.compact (m : Member) : Member :=
  { m with lead := .empty, beforeColon := .empty, afterColon := .empty, trail := .empty }

/-- The object without whitespace between its tokens. -/
def FlatBody.compact (b : FlatBody) : FlatBody where
  lead := .empty
  inner := .empty
  members := b.members.map Member.compact
  tail := .empty

/-! ## Names -/

/-- The names the server asks for have letters and underscores only. -/
def IsKey (key : String) : Prop :=
  key.toList ≠ [] ∧ ∀ c ∈ key.toList, c.isAlpha = true ∨ c = '_'

instance (key : String) : Decidable (IsKey key) :=
  @instDecidableAnd _ _ inferInstance
    (List.decidableBAll (fun c => c.isAlpha = true ∨ c = '_') key.toList)

/-- The text of a name ends in the quoted key: it is the key, or the key
stands behind an escaped quote. -/
def RawString.EndsIn (key : String) (name : RawString) : Prop :=
  '"' :: key.toList <:+ '"' :: name.text

instance (key : String) (name : RawString) : Decidable (name.EndsIn key) :=
  inferInstanceAs (Decidable (_ <:+ _))

section Pieces

/-- The four characters of a gap. -/
theorem Gap.char_cases {gap : Gap} {c : Char} (h : c ∈ gap.text) :
    c = ' ' ∨ c = '\t' ∨ c = '\n' ∨ c = '\r' := by
  have hspace := gap.isSpace c h
  simp only [Json.isSpace, Bool.or_eq_true, decide_eq_true_eq] at hspace
  rcases hspace with ((h | h) | h) | h
  · exact Or.inl h
  · exact Or.inr (Or.inl h)
  · exact Or.inr (Or.inr (Or.inl h))
  · exact Or.inr (Or.inr (Or.inr h))

/-- What is no whitespace is in no gap. -/
theorem Gap.notMem {c : Char} (h : Json.isSpace c = false) (gap : Gap) : c ∉ gap.text := by
  intro hmem
  rw [gap.isSpace c hmem] at h
  cases h

/-- What is no character of a word is in no word. -/
theorem Word.notMem {c : Char} (h : isWordChar c = false) (word : Word) : c ∉ word.text := by
  intro hmem
  rw [word.isWord c hmem] at h
  cases h

/-- A key has letters and underscores only. -/
theorem IsKey.notMem {key : String} (h : IsKey key) {c : Char}
    (hc : ¬ (c.isAlpha = true ∨ c = '_')) : c ∉ key.toList :=
  fun hmem => hc (h.2 c hmem)

/-- A quote in a string stands behind a backslash. -/
theorem Escaped.before_quote {s x y : List Char} (h : Escaped s) (hs : s = x ++ '"' :: y) :
    ∃ w, x = w ++ ['\\'] := by
  induction h generalizing x with
  | nil => cases x <;> cases hs
  | @plain c s hquote _ _ ih =>
      cases x with
      | nil => exact absurd (List.head_eq_of_cons_eq hs) hquote
      | cons d x =>
          obtain ⟨w, hw⟩ := ih (List.tail_eq_of_cons_eq hs)
          exact ⟨d :: w, by rw [hw]; rfl⟩
  | @escape s c _ ih =>
      match x with
      | [] => cases List.head_eq_of_cons_eq hs
      | [d] =>
          have hd : '\\' = d := List.head_eq_of_cons_eq hs
          exact ⟨[], by rw [hd]; rfl⟩
      | d :: e :: x =>
          obtain ⟨w, hw⟩ := ih (List.tail_eq_of_cons_eq (List.tail_eq_of_cons_eq hs))
          exact ⟨d :: e :: w, by rw [hw]; rfl⟩

/-- No key stands between the quotes that a string may have inside. -/
theorem RawString.between_quotes {key : String} (hkey : IsKey key) {raw : RawString}
    {before u v : List Char} (h : '"' :: raw.text = before ++ '"' :: (u ++ '"' :: v)) :
    u ≠ key.toList := by
  intro hu
  have hescape : '\\' ∈ u := by
    cases before with
    | nil =>
        obtain ⟨w, hw⟩ := raw.escaped.before_quote (List.tail_eq_of_cons_eq h)
        rw [hw]
        exact List.mem_append_right w List.mem_cons_self
    | cons d before =>
        have hsplit : raw.text = (before ++ '"' :: u) ++ '"' :: v := by
          rw [List.tail_eq_of_cons_eq h]
          simp
        obtain ⟨w, hw⟩ := raw.escaped.before_quote hsplit
        obtain ⟨u', e, rfl⟩ := (List.eq_nil_or_concat' u).resolve_left (hu ▸ hkey.1)
        have hlast : (before ++ '"' :: u') ++ [e] = w ++ ['\\'] := by
          rw [← hw]
          simp
        rw [List.head_eq_of_cons_eq (List.append_inj' hlast rfl).2]
        exact List.mem_append_right u' List.mem_cons_self
  exact hkey.notMem (by decide) (hu ▸ hescape)

/-- Where a quoted key with a colon starts in a string. -/
theorem quoted_split {key : String} (hkey : IsKey key) {raw : RawString}
    {before after s q : List Char} (hsplit : raw.quoted = before ++ after) (hne : after ≠ [])
    (hhead : ∀ c ∈ s.head?, c ∉ key.toList) (hbegins : keyPattern key ++ q <+: after ++ s) :
    '"' :: raw.text = before ++ '"' :: key.toList ∧ ∃ t, s = ':' :: t ∧ q <+: t := by
  obtain ⟨d, after, rfl⟩ := List.exists_cons_of_ne_nil hne
  have hcons := List.cons_prefix_cons.mp hbegins
  obtain rfl : '"' = d := hcons.1
  obtain ⟨tail, htail⟩ := hcons.2
  have htail : key.toList ++ '"' :: (':' :: (q ++ tail)) = after ++ s := by
    simpa [keyPattern] using htail
  rcases List.eq_nil_or_concat' after with rfl | ⟨after, e, rfl⟩
  · -- behind the closing quote no letter of the key follows
    obtain ⟨k, ks, hk⟩ := List.exists_cons_of_ne_nil hkey.1
    have hs : s.head? = some k := by
      rw [hk] at htail
      rw [← List.nil_append s, ← htail]
      rfl
    exact absurd (hk ▸ List.mem_cons_self) (hhead k hs)
  · have hconcat : ('"' :: raw.text) ++ ['"'] = (before ++ '"' :: after) ++ [e] := by
      rw [List.append_assoc]
      exact hsplit
    obtain ⟨hraw, he⟩ := List.append_inj' hconcat rfl
    obtain rfl : '"' = e := List.head_eq_of_cons_eq he
    have hkeyNotMem : '"' ∉ key.toList := hkey.notMem (by decide)
    have htail : key.toList ++ '"' :: (':' :: (q ++ tail)) = after ++ '"' :: s := by
      simpa using htail
    by_cases hquote : '"' ∈ after
    · obtain ⟨u, v, rfl, hu⟩ := List.eq_append_cons_of_mem hquote
      have hkeyu := append_cons_inj hkeyNotMem hu (by simpa using htail)
      exact absurd hkeyu.1.symm (raw.between_quotes hkey hraw)
    · obtain ⟨hafter, hs⟩ := append_cons_inj hkeyNotMem hquote htail
      exact ⟨hafter ▸ hraw, q ++ tail, hs.symm, List.prefix_append q tail⟩

/-- In a quoted text the pattern starts only at its end. -/
theorem not_startsIn_quoted {key : String} (hkey : IsKey key) {raw : RawString}
    {s q : List Char} (hhead : ∀ c ∈ s.head?, c ∉ key.toList)
    (h : ¬ (raw.EndsIn key ∧ ∃ t, s = ':' :: t ∧ q <+: t)) :
    ¬ StartsIn (keyPattern key ++ q) raw.quoted s := by
  intro hstarts
  obtain ⟨before, after, hsplit, hne, hbegins⟩ := hstarts
  obtain ⟨hends, hcolon⟩ := quoted_split hkey hsplit hne hhead hbegins
  exact h ⟨⟨before, hends.symm⟩, hcolon⟩

/-- The pattern does not start where there is no quote. -/
theorem not_startsIn_of_noQuote {key : String} {piece rest q : List Char} (h : '"' ∉ piece) :
    ¬ StartsIn (keyPattern key ++ q) piece rest :=
  not_startsIn_of_notMem h

/-- A key found at its member. -/
theorem behind_quoted {key : String} (hkey : IsKey key) {raw : RawString} {rest q : List Char}
    (hends : raw.EndsIn key) (hq : q <+: rest) :
    behind (keyPattern key ++ q) (raw.quoted ++ ':' :: rest) = some (rest.drop q.length) := by
  obtain ⟨before, hbefore⟩ := hends
  obtain ⟨tail, rfl⟩ := hq
  have htext : raw.quoted ++ ':' :: (q ++ tail) = before ++ ((keyPattern key ++ q) ++ tail) := by
    rw [RawString.quoted, ← List.cons_append, ← hbefore]
    simp [keyPattern]
  have hstarts : ¬ StartsIn (keyPattern key ++ q) before ((keyPattern key ++ q) ++ tail) := by
    intro h
    obtain ⟨x, y, hxy, hne, hbegins⟩ := h
    have hsplit : raw.quoted = x ++ (y ++ '"' :: (key.toList ++ ['"'])) := by
      rw [RawString.quoted, ← List.cons_append, ← hbefore, hxy]
      simp
    have hbegins' : keyPattern key ++ q <+:
        (y ++ '"' :: (key.toList ++ ['"'])) ++ ':' :: (q ++ tail) := by
      simpa [keyPattern] using hbegins
    have hearlier := (quoted_split hkey hsplit (by simp) (by
      intro c hc
      cases hc
      exact hkey.notMem (by decide)) hbegins').1
    have hlength := congrArg List.length (hbefore.trans hearlier)
    rw [hxy] at hlength
    have hpos := List.length_pos_iff.mpr hne
    simp only [List.length_append] at hlength
    omega
  rw [htext, behind_append hstarts, behind_prefix, List.drop_left]

end Pieces

section Search

variable {key : String} {q : List Char}

/-- What a search for the key reads: the text behind the colon of the first
member of that name whose colon follows directly, if it goes on as asked. -/
def foundText (key : String) (q : List Char) (tail : Gap) : List Member → Option (List Char)
  | [] => none
  | m :: ms =>
      if m.name.EndsIn key ∧ m.beforeColon.text = [] ∧ q <+: m.valueText ++ membersText tail ms
      then some ((m.valueText ++ membersText tail ms).drop q.length)
      else foundText key q tail ms

theorem behind_noQuote {piece rest : List Char} (h : '"' ∉ piece) :
    behind (keyPattern key ++ q) (piece ++ rest) = behind (keyPattern key ++ q) rest :=
  behind_append (not_startsIn_of_noQuote h)

/-- What is behind a value begins with a comma or a brace. -/
theorem membersText_head (tail : Gap) (ms : List Member) :
    ∃ c s, membersText tail ms = c :: s ∧ (c = ',' ∨ c = '\x7d') := by
  cases ms with
  | nil => exact ⟨'\x7d', _, rfl, Or.inr rfl⟩
  | cons m ms => exact ⟨',', _, rfl, Or.inl rfl⟩

/-- Whitespace is no colon and no letter of a key. -/
theorem Gap.head_char {gap : Gap} {c : Char} {s : List Char} (h : gap.text = c :: s) :
    ¬ (c.isAlpha = true ∨ c = '_') ∧ c ≠ ':' := by
  rcases gap.char_cases (h ▸ List.mem_cons_self) with rfl | rfl | rfl | rfl <;> decide

/-- What follows a value is no colon and no letter of a key. -/
theorem head_behind_value (gap tail : Gap) (ms : List Member) :
    ∃ c s, gap.text ++ membersText tail ms = c :: s ∧ ¬ (c.isAlpha = true ∨ c = '_') ∧ c ≠ ':' := by
  cases hgap : gap.text with
  | nil =>
      obtain ⟨c, s, hcs, hc⟩ := membersText_head tail ms
      refine ⟨c, s, hcs, ?_⟩
      rcases hc with rfl | rfl <;> decide
  | cons c s => exact ⟨c, s ++ membersText tail ms, rfl, Gap.head_char hgap⟩

/-- The search passes over a value. -/
theorem behind_value (hkey : IsKey key) (m : Member) (tail : Gap) (ms : List Member) :
    behind (keyPattern key ++ q) (m.valueText ++ membersText tail ms) =
      behind (keyPattern key ++ q) (membersText tail ms) := by
  rw [Member.valueText, List.append_assoc, behind_noQuote (m.afterColon.notMem rfl),
    List.append_assoc]
  cases m.value with
  | string raw =>
      obtain ⟨c, s, hcs, hkeyChar, hcolon⟩ := head_behind_value m.trail tail ms
      have hstarts : ¬ StartsIn (keyPattern key ++ q) raw.quoted
          (m.trail.text ++ membersText tail ms) := by
        apply not_startsIn_quoted hkey
        · intro d hd
          rw [hcs] at hd
          cases hd
          exact hkey.notMem hkeyChar
        · intro h
          obtain ⟨_, t, ht, _⟩ := h
          rw [hcs] at ht
          exact hcolon (List.head_eq_of_cons_eq ht)
      rw [Scalar.text, behind_append hstarts, behind_noQuote (m.trail.notMem rfl)]
  | bare word =>
      rw [Scalar.text, behind_noQuote (word.notMem rfl), behind_noQuote (m.trail.notMem rfl)]

/-- A name is passed over if the search does not end at it. -/
theorem not_startsIn_name (hkey : IsKey key) {m : Member} {rest : List Char}
    (h : ¬ (m.name.EndsIn key ∧ m.beforeColon.text = [] ∧ q <+: rest)) :
    ¬ StartsIn (keyPattern key ++ q) m.name.quoted (m.beforeColon.text ++ ':' :: rest) := by
  cases hgap : m.beforeColon.text with
  | nil =>
      apply not_startsIn_quoted hkey
      · intro c hc
        cases hc
        exact hkey.notMem (by decide)
      · intro hfound
        obtain ⟨hends, t, ht, hq⟩ := hfound
        exact h ⟨hends, hgap, List.tail_eq_of_cons_eq ht ▸ hq⟩
  | cons c s =>
      obtain ⟨hkeyChar, hcolon⟩ := Gap.head_char hgap
      apply not_startsIn_quoted hkey
      · intro d hd
        cases hd
        exact hkey.notMem hkeyChar
      · intro hfound
        obtain ⟨_, t, ht, _⟩ := hfound
        exact hcolon (List.head_eq_of_cons_eq ht)

/-- The search in one member and behind it. -/
theorem behind_member (hkey : IsKey key) (m : Member) (tail : Gap) (ms : List Member) :
    behind (keyPattern key ++ q) (m.text ++ membersText tail ms) =
      if m.name.EndsIn key ∧ m.beforeColon.text = [] ∧ q <+: m.valueText ++ membersText tail ms
      then some ((m.valueText ++ membersText tail ms).drop q.length)
      else behind (keyPattern key ++ q) (membersText tail ms) := by
  rw [Member.text, List.append_assoc, behind_noQuote (m.lead.notMem rfl), List.append_assoc,
    List.append_assoc, List.cons_append]
  split
  · rename_i h
    obtain ⟨hends, htight, hq⟩ := h
    rw [htight, List.nil_append, behind_quoted hkey hends hq]
  · rename_i h
    have hcolon : '"' ∉ m.beforeColon.text ++ [':'] := by
      simp [m.beforeColon.notMem (c := '"') rfl]
    have hpass : behind (keyPattern key ++ q)
        ((m.beforeColon.text ++ [':']) ++ (m.valueText ++ membersText tail ms)) =
          behind (keyPattern key ++ q) (m.valueText ++ membersText tail ms) :=
      behind_noQuote hcolon
    rw [List.append_assoc, List.singleton_append] at hpass
    rw [behind_append (not_startsIn_name hkey h), hpass, behind_value hkey]

/-- **Where a key is found.**  A search in the members finds what stands
behind the colon of a member of that name. -/
theorem behind_membersText (hkey : IsKey key) (tail : Gap) (ms : List Member) :
    behind (keyPattern key ++ q) (membersText tail ms) = foundText key q tail ms := by
  induction ms with
  | nil =>
      have hnotMem : '"' ∉ '\x7d' :: tail.text := by simp [tail.notMem (c := '"') rfl]
      have hnil : behind (keyPattern key ++ q) (('\x7d' :: tail.text) ++ []) =
          behind (keyPattern key ++ q) [] := behind_noQuote hnotMem
      rw [List.append_nil] at hnil
      rw [membersText, foundText, hnil]
      rfl
  | cons m ms ih =>
      rw [membersText, foundText, ← ih, ← behind_member hkey, ← List.singleton_append]
      exact behind_noQuote (by decide)

/-- The search in a flat object goes from member to member. -/
theorem behind_text (hkey : IsKey key) (b : FlatBody) :
    behind (keyPattern key ++ q) b.text = foundText key q b.tail b.members := by
  have hopen : '"' ∉ b.lead.text ++ ['\x7b'] := by simp [b.lead.notMem (c := '"') rfl]
  have hbrace : ∀ rest, behind (keyPattern key ++ q) (b.lead.text ++ '\x7b' :: rest) =
      behind (keyPattern key ++ q) rest := by
    intro rest
    rw [← List.singleton_append, ← List.append_assoc]
    exact behind_noQuote hopen
  rw [← behind_membersText hkey, FlatBody.text, hbrace]
  cases b.members with
  | nil => exact behind_noQuote (b.inner.notMem rfl)
  | cons m ms =>
      have hcomma : '"' ∉ [','] := by decide
      exact (behind_noQuote hcomma).symm

end Search

end RvcControl
