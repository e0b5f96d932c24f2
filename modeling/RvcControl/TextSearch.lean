import Mathlib.Data.List.Basic
import Mathlib.Data.List.TakeWhile
import Mathlib.Tactic.Common

/-!
# Searching a text for a pattern

`indexOf` finds the first position at which a pattern stands in a text.  A
text is searched piece by piece: where the pattern starts nowhere in the first
piece (`StartsIn`), the search goes on in the rest of the text.  What stands
behind the first occurrence is `behind`; `Within` says that an occurrence
starts among the first positions of a text.

`firstOf?` searches a list for the first element of a kind; a narrower search
goes on behind the first element that it does not take.
-/

namespace TextSearch

variable {α : Type*}

/-- The pattern starts in `piece` when `rest` follows the piece. -/
def StartsIn (pattern piece rest : List α) : Prop :=
  ∃ before after, piece = before ++ after ∧ after ≠ [] ∧ pattern <+: after ++ rest

/-- The pattern starts at one of the first `n` positions. -/
def Within (n : ℕ) (pattern text : List α) : Prop :=
  ∃ i < n, pattern <+: text.drop i

section StartsIn

variable {pattern piece rest : List α}

/-- The pattern starts here, or further on. -/
theorem startsIn_cons (c : α) :
    StartsIn pattern (c :: piece) rest ↔
      pattern <+: c :: (piece ++ rest) ∨ StartsIn pattern piece rest := by
  constructor
  · intro h
    obtain ⟨before, after, hsplit, hne, hbegins⟩ := h
    cases before with
    | nil =>
        have hafter : after = c :: piece := hsplit.symm
        exact Or.inl (by rw [hafter] at hbegins; exact hbegins)
    | cons d before =>
        exact Or.inr ⟨before, after, List.tail_eq_of_cons_eq hsplit, hne, hbegins⟩
  · intro h
    rcases h with h | h
    · exact ⟨[], c :: piece, rfl, List.cons_ne_nil c piece, h⟩
    · obtain ⟨before, after, rfl, hne, hbegins⟩ := h
      exact ⟨c :: before, after, rfl, hne, hbegins⟩

/-- A pattern does not start where its first letter is not. -/
theorem not_startsIn_of_notMem {a : α} {pattern : List α} (h : a ∉ piece) :
    ¬ StartsIn (a :: pattern) piece rest := by
  intro hstarts
  obtain ⟨before, after, rfl, hne, hbegins⟩ := hstarts
  obtain ⟨b, after, rfl⟩ := List.exists_cons_of_ne_nil hne
  have hab : a = b := (List.cons_prefix_cons.mp hbegins).1
  exact h (hab ▸ List.mem_append_right before List.mem_cons_self)

/-- A pattern that starts in a piece and does not have the piece's last letter
ends in it. -/
theorem StartsIn.isInfix {c : α} (h : StartsIn pattern (piece ++ [c]) rest) (hc : c ∉ pattern) :
    pattern <:+: piece ++ [c] := by
  obtain ⟨before, after, hsplit, hne, hbegins⟩ := h
  have hlast : c ∈ after := by
    have hlast := congrArg List.getLast? hsplit
    rw [List.getLast?_concat, List.getLast?_append_of_ne_nil _ hne] at hlast
    exact List.mem_of_getLast? hlast.symm
  obtain ⟨tail, htail⟩ := hbegins
  rcases List.append_eq_append_iff.mp htail with ⟨more, hafter, _⟩ | ⟨more, hpattern, _⟩
  · exact ⟨before, more, by rw [hsplit, hafter, List.append_assoc]⟩
  · exact absurd (hpattern ▸ List.mem_append_left more hlast) hc

end StartsIn

section Within

variable {pattern piece rest text : List α} {n : ℕ}

/-- No window, no pattern. -/
theorem within_zero : ¬ Within 0 pattern text := by
  intro h
  obtain ⟨i, hi, _⟩ := h
  exact absurd hi (Nat.not_lt_zero i)

/-- In a window of one it must begin at once. -/
theorem within_one : Within 1 pattern text ↔ pattern <+: text := by
  constructor
  · intro h
    obtain ⟨i, hi, hbegins⟩ := h
    obtain rfl : i = 0 := by omega
    exact hbegins
  · intro h
    exact ⟨0, Nat.one_pos, h⟩

/-- A text without its first letter does not have it. -/
theorem not_within_of_notMem {a : α} {pattern : List α} (h : a ∉ text) :
    ¬ Within n (a :: pattern) text := by
  intro hwithin
  obtain ⟨i, _, hbegins⟩ := hwithin
  obtain ⟨tail, htail⟩ := hbegins
  have hmem : a ∈ text.drop i := by
    rw [← htail]
    exact List.mem_cons_self
  exact h (List.mem_of_mem_drop hmem)

/-- At the beginning of the text it is in every window. -/
theorem within_prefix (h : pattern <+: text) : Within n pattern text ↔ 0 < n := by
  constructor
  · intro hwithin
    obtain ⟨i, hi, _⟩ := hwithin
    exact Nat.zero_lt_of_lt hi
  · intro hn
    exact ⟨0, hn, h⟩

/-- A piece in which the pattern does not start uses up its positions. -/
theorem within_append (h : ¬ StartsIn pattern piece rest) :
    Within n pattern (piece ++ rest) ↔ Within (n - piece.length) pattern rest := by
  constructor
  · intro hwithin
    obtain ⟨i, hi, hbegins⟩ := hwithin
    by_cases hlt : i < piece.length
    · refine absurd ⟨piece.take i, piece.drop i, (List.take_append_drop i piece).symm, ?_, ?_⟩ h
      · simpa using hlt
      · rwa [← List.drop_append_of_le_length (Nat.le_of_lt hlt)]
    · refine ⟨i - piece.length, by omega, ?_⟩
      rwa [List.drop_append, List.drop_of_length_le (by omega), List.nil_append] at hbegins
  · intro hwithin
    obtain ⟨i, hi, hbegins⟩ := hwithin
    refine ⟨piece.length + i, by omega, ?_⟩
    rwa [← List.drop_drop, List.drop_left]

end Within

section Search

variable [DecidableEq α] {pattern piece rest text : List α}

def indexOf (pattern : List α) : List α → Option ℕ
  | [] => if pattern = [] then some 0 else none
  | c :: s => if pattern <+: c :: s then some 0 else (indexOf pattern s).map (· + 1)

/-- The text behind the first occurrence of a pattern. -/
def behind (pattern text : List α) : Option (List α) :=
  (indexOf pattern text).map fun i => text.drop (i + pattern.length)

/-- There it is found. -/
theorem indexOf_prefix (h : pattern <+: text) : indexOf pattern text = some 0 := by
  cases text with
  | nil => rw [indexOf, if_pos (List.prefix_nil.mp h)]
  | cons c text => rw [indexOf, if_pos h]

/-- The search goes on behind a piece in which the pattern does not start. -/
theorem indexOf_append (h : ¬ StartsIn pattern piece rest) :
    indexOf pattern (piece ++ rest) = (indexOf pattern rest).map (· + piece.length) := by
  induction piece with
  | nil => simp
  | cons c piece ih =>
      rw [startsIn_cons, not_or] at h
      rw [List.cons_append, indexOf, if_neg h.1, ih h.2, Option.map_map]
      rfl

/-- A piece it does not start in is gone past. -/
theorem behind_append (h : ¬ StartsIn pattern piece rest) :
    behind pattern (piece ++ rest) = behind pattern rest := by
  rw [behind, behind, indexOf_append h, Option.map_map]
  congr 1
  funext i
  show (piece ++ rest).drop (i + piece.length + pattern.length) = _
  rw [show i + piece.length + pattern.length = piece.length + (i + pattern.length) by omega,
    ← List.drop_drop, List.drop_left]

/-- Behind itself is the rest. -/
theorem behind_prefix : behind pattern (pattern ++ rest) = some rest := by
  rw [behind, indexOf_prefix (List.prefix_append pattern rest)]
  simp

/-- The pattern stands where the search has found it. -/
theorem indexOf_prefix_drop {i : ℕ} (h : indexOf pattern text = some i) :
    pattern <+: text.drop i := by
  induction text generalizing i with
  | nil =>
      rw [indexOf] at h
      split at h
      · rename_i hnil
        rw [hnil]
        exact List.nil_prefix
      · cases h
  | cons c text ih =>
      rw [indexOf] at h
      split at h
      · cases h
        assumption
      · obtain ⟨j, hj, rfl⟩ := Option.map_eq_some_iff.mp h
        exact ih hj

/-- What the search has found begins with the pattern and goes on behind it. -/
theorem drop_indexOf {i : ℕ} (h : indexOf pattern text = some i) :
    text.drop i = pattern ++ text.drop (i + pattern.length) := by
  obtain ⟨rest, hrest⟩ := indexOf_prefix_drop h
  rw [← List.drop_drop, ← hrest, List.drop_left]

/-- A pattern with a letter is found in an early position if it is there. -/
theorem indexOf_lt_iff (hpattern : pattern ≠ []) (n : ℕ) :
    (∃ i, indexOf pattern text = some i ∧ i < n) ↔ Within n pattern text := by
  induction text generalizing n with
  | nil => simp [indexOf, Within, hpattern]
  | cons c text ih =>
      rw [indexOf]
      split
      · rename_i hbegins
        constructor
        · intro h
          obtain ⟨i, _, hi⟩ := h
          exact ⟨0, Nat.zero_lt_of_lt hi, hbegins⟩
        · intro h
          obtain ⟨i, hi, _⟩ := h
          exact ⟨0, rfl, Nat.zero_lt_of_lt hi⟩
      · rename_i hno
        constructor
        · intro h
          obtain ⟨i, hi, hlt⟩ := h
          obtain ⟨j, hj, rfl⟩ := Option.map_eq_some_iff.mp hi
          obtain ⟨k, hk, hbegins⟩ := (ih (n - 1)).mp ⟨j, hj, by omega⟩
          exact ⟨k + 1, by omega, hbegins⟩
        · intro h
          obtain ⟨i, hlt, hbegins⟩ := h
          cases i with
          | zero => exact absurd hbegins hno
          | succ k =>
              obtain ⟨j, hj, hjn⟩ := (ih (n - 1)).mpr ⟨k, by omega, hbegins⟩
              exact ⟨j + 1, by rw [hj]; rfl, by omega⟩

/-- The search for one letter. -/
theorem indexOf_singleton (c : α) (text : List α) :
    indexOf [c] text = text.findIdx? (· = c) := by
  induction text with
  | nil => simp [indexOf]
  | cons d text ih =>
      rw [indexOf, List.findIdx?_cons, ih]
      by_cases h : d = c
      · simp [h]
      · simp [h, Ne.symm h]

end Search

/-- A prefix ends before a letter it does not have. -/
theorem prefix_append_cons {pattern text rest : List α} {c : α} (hc : c ∉ pattern) :
    pattern <+: text ++ c :: rest ↔ pattern <+: text := by
  constructor
  · intro h
    obtain ⟨tail, htail⟩ := h
    rcases List.append_eq_append_iff.mp htail with ⟨more, htext, _⟩ | ⟨more, hpattern, hrest⟩
    · exact ⟨more, htext.symm⟩
    · cases more with
      | nil => exact ⟨[], by rw [hpattern, List.append_nil, List.append_nil]⟩
      | cons d more =>
          have hcd : c = d := List.head_eq_of_cons_eq hrest
          exact absurd (by rw [hpattern, hcd]; simp) hc
  · intro h
    exact h.trans (List.prefix_append text _)

section UpTo

variable [DecidableEq α] {c : α} {text rest : List α}

/-- Up to a letter that is not there. -/
theorem takeWhile_ne_self (h : c ∉ text) : text.takeWhile (· ≠ c) = text := by
  apply List.takeWhile_eq_self_iff.mpr
  intro d hd
  simpa using fun heq : d = c => h (heq ▸ hd)

/-- Up to the first occurrence of a letter. -/
theorem takeWhile_ne_append (h : c ∉ text) : (text ++ c :: rest).takeWhile (· ≠ c) = text := by
  have hall : ∀ d ∈ text, decide (d ≠ c) = true :=
    List.takeWhile_eq_self_iff.mp (takeWhile_ne_self h)
  rw [List.takeWhile_append_of_pos hall]
  simp

end UpTo

/-- Up to the first letter of a kind. -/
theorem take_findIdx? {kind : α → Bool} {text : List α} {i : ℕ}
    (h : text.findIdx? kind = some i) : text.take i = text.takeWhile fun c => !kind c := by
  obtain ⟨_, hi⟩ := List.findIdx?_eq_some_iff_findIdx_eq.mp h
  simp [List.takeWhile_eq_take_findIdx_not, hi]

section FirstOf

variable {β : Type*} {p q : α → Prop} [DecidablePred p] [DecidablePred q] {s rest : List α} {a : α}

/-- The first element of a kind, and those behind it. -/
def firstOf? (p : α → Prop) [DecidablePred p] : List α → Option (α × List α)
  | [] => none
  | a :: s => if p a then some (a, s) else firstOf? p s

/-- The first element is the one. -/
theorem firstOf?_cons_of_pos (h : p a) : firstOf? p (a :: s) = some (a, s) := by
  rw [firstOf?, if_pos h]

theorem firstOf?_cons_of_neg (h : ¬ p a) : firstOf? p (a :: s) = firstOf? p s := by
  rw [firstOf?, if_neg h]

/-- What is found ends the list. -/
theorem firstOf?_suffix (h : firstOf? p s = some (a, rest)) : a :: rest <:+ s := by
  induction s with
  | nil => cases h
  | cons b s ih =>
      rw [firstOf?] at h
      split at h
      · cases h
        exact List.suffix_rfl
      · exact (ih h).trans (List.suffix_cons b s)

/-- What is found is in the list. -/
theorem firstOf?_mem (h : firstOf? p s = some (a, rest)) : a ∈ s :=
  (firstOf?_suffix h).mem List.mem_cons_self

/-- What is found is of the kind. -/
theorem firstOf?_holds (h : firstOf? p s = some (a, rest)) : p a := by
  induction s with
  | nil => cases h
  | cons b s ih =>
      rw [firstOf?] at h
      split at h
      · cases h
        assumption
      · exact ih h

/-- Nothing is found where nothing is of the kind. -/
theorem firstOf?_eq_none (h : ∀ a ∈ s, ¬ p a) : firstOf? p s = none := by
  induction s with
  | nil => rfl
  | cons b s ih =>
      rw [firstOf?_cons_of_neg (h b List.mem_cons_self)]
      exact ih fun a ha => h a (List.mem_cons_of_mem b ha)

/-- **A narrower search.**  It takes what the wider one finds, or goes on behind
it. -/
theorem firstOf?_and (p q : α → Prop) [DecidablePred p] [DecidablePred q] (s : List α) :
    firstOf? (fun a => p a ∧ q a) s =
      (firstOf? p s).bind fun found =>
        if q found.1 then some found else firstOf? (fun a => p a ∧ q a) found.2 := by
  induction s with
  | nil => rfl
  | cons a s ih =>
      by_cases hp : p a
      · rw [firstOf?_cons_of_pos hp, Option.bind_some]
        by_cases hq : q a
        · rw [firstOf?_cons_of_pos (p := fun a => p a ∧ q a) ⟨hp, hq⟩, if_pos hq]
        · rw [firstOf?_cons_of_neg (p := fun a => p a ∧ q a) (fun h => hq h.2), if_neg hq]
      · rw [firstOf?_cons_of_neg hp,
          firstOf?_cons_of_neg (p := fun a => p a ∧ q a) (fun h => hp h.1), ih]

/-- A search among images. -/
theorem firstOf?_map {r : β → Prop} [DecidablePred r] {f : α → β} (h : ∀ a, r (f a) ↔ p a)
    (s : List α) :
    firstOf? r (s.map f) = (firstOf? p s).map fun found => (f found.1, found.2.map f) := by
  induction s with
  | nil => rfl
  | cons a s ih =>
      rw [List.map_cons]
      by_cases hp : p a
      · rw [firstOf?_cons_of_pos hp, firstOf?_cons_of_pos ((h a).mpr hp)]
        rfl
      · rw [firstOf?_cons_of_neg hp, firstOf?_cons_of_neg (mt (h a).mp hp), ih]

end FirstOf

end TextSearch
