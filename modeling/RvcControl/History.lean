import Mathlib.Algebra.Order.BigOperators.Group.List
import Mathlib.Data.List.Induction

/-!
# Histories and the past

A history is the list of events so far, oldest first.  The operators of this
file look back along it: `Historically Q` (every event satisfied `Q` when it
happened), `Since P Q` (some event satisfied `P`, and every later one `Q`) and
`sumSince` (what the events since the last reset weigh together).  Predicates
of events see the history before the event, so they may depend on the state
that history led to.

Each operator comes with its unfolding at the newest event; with these an
invariant about the past is an ordinary induction along a run.
-/

namespace History

variable {ι : Type*}

/-- Every event satisfied `Q` at its time. -/
def Historically (Q : List ι → ι → Prop) (es : List ι) : Prop :=
  ∀ before e after, es = before ++ e :: after → Q before e

/-- In an empty history every event satisfied anything. -/
theorem historically_nil (Q : List ι → ι → Prop) : Historically Q [] := by
  intro before e after h
  simp at h

/-- A split of `es ++ [e]` at some event is a split at `e` or one of `es`. -/
theorem split_concat {es before after : List ι} {e x : ι}
    (h : es ++ [e] = before ++ x :: after) :
    (before = es ∧ x = e ∧ after = []) ∨
      ∃ rest, after = rest ++ [e] ∧ es = before ++ x :: rest := by
  cases after using List.reverseRecOn with
  | nil =>
      obtain ⟨rfl, hx⟩ := List.append_inj' h rfl
      exact Or.inl ⟨rfl, (List.singleton_inj.mp hx).symm, rfl⟩
  | append_singleton rest y _ =>
      have h' : es ++ [e] = (before ++ x :: rest) ++ [y] := by simpa using h
      obtain ⟨hes, hy⟩ := List.append_inj' h' rfl
      exact Or.inr ⟨rest, by rw [List.singleton_inj.mp hy], hes⟩

/-- At the newest event. -/
theorem historically_concat {Q : List ι → ι → Prop} {es : List ι} {e : ι} :
    Historically Q (es ++ [e]) ↔ Historically Q es ∧ Q es e := by
  constructor
  · intro h
    refine ⟨?_, h es e [] rfl⟩
    intro before x after hsplit
    exact h before x (after ++ [e]) (by simp [hsplit])
  · intro h before x after hsplit
    obtain ⟨hes, he⟩ := h
    rcases split_concat hsplit with ⟨rfl, rfl, _⟩ | ⟨rest, _, hrest⟩
    · exact he
    · exact hes before x rest hrest

/-- What held so far held before. -/
theorem Historically.of_append {Q : List ι → ι → Prop} {es fs : List ι}
    (h : Historically Q (es ++ fs)) : Historically Q es := by
  intro before e after hsplit
  exact h before e (after ++ fs) (by simp [hsplit])

/-- The oldest event, and the history it is the past of. -/
theorem historically_cons {Q : List ι → ι → Prop} {es : List ι} {e : ι} :
    Historically Q (e :: es) ↔ Q [] e ∧ Historically (fun before x => Q (e :: before) x) es := by
  constructor
  · intro h
    refine ⟨h [] e es rfl, ?_⟩
    intro before x after hsplit
    exact h (e :: before) x after (by rw [hsplit]; rfl)
  · intro h before x after hsplit
    cases before with
    | nil =>
        obtain ⟨rfl, _⟩ := List.cons.inj hsplit
        exact h.1
    | cons y before =>
        obtain ⟨rfl, hrest⟩ := List.cons.inj hsplit
        exact h.2 before x after hrest

/-- The history splits at an event that satisfied `P`, and every event after
it satisfied `Q`. -/
structure SinceAt (P Q : List ι → ι → Prop) (es before : List ι) (x : ι)
    (after : List ι) : Prop where
  split : es = before ++ x :: after
  here : P before x
  later : Historically (fun mid e => Q (before ++ x :: mid) e) after

def Since (P Q : List ι → ι → Prop) (es : List ι) : Prop :=
  ∃ before x after, SinceAt P Q es before x after

namespace SinceAt

variable {P Q : List ι → ι → Prop} {es before after : List ι} {x e : ι}

/-- The newest event may be the one. -/
theorem now (h : P es e) : SinceAt P Q (es ++ [e]) es e [] :=
  ⟨rfl, h, historically_nil _⟩

/-- One more event that satisfies `Q`. -/
theorem extend (h : SinceAt P Q es before x after) (he : Q es e) :
    SinceAt P Q (es ++ [e]) before x (after ++ [e]) := by
  refine ⟨by simp [h.split], h.here, historically_concat.mpr ⟨h.later, ?_⟩⟩
  exact h.split ▸ he

end SinceAt

theorem since_nil (P Q : List ι → ι → Prop) : ¬ Since P Q [] := by
  intro h
  obtain ⟨before, x, after, h⟩ := h
  simpa using h.split

/-- **Unfolding.**  `Since` holds after one more event if that event starts it
afresh, or carries it on. -/
theorem since_concat {P Q : List ι → ι → Prop} {es : List ι} {e : ι} :
    Since P Q (es ++ [e]) ↔ P es e ∨ (Since P Q es ∧ Q es e) := by
  constructor
  · intro h
    obtain ⟨before, x, after, hsplit, hhere, hlater⟩ := h
    rcases split_concat hsplit with ⟨rfl, rfl, _⟩ | ⟨rest, rfl, hrest⟩
    · exact Or.inl hhere
    · obtain ⟨hlater, he⟩ := historically_concat.mp hlater
      exact Or.inr ⟨⟨before, x, rest, hrest, hhere, hlater⟩, hrest ▸ he⟩
  · intro h
    rcases h with h | ⟨⟨before, x, after, h⟩, he⟩
    · exact ⟨es, e, [], SinceAt.now h⟩
    · exact ⟨before, x, after ++ [e], h.extend he⟩

section Sums

variable {M : Type*} [AddMonoid M] (resets : ι → Bool) (weight : ι → M)

/-- The total weight of the events after the last reset. -/
def sumSince (es : List ι) : M :=
  es.foldl (fun total e => if resets e then 0 else total + weight e) 0

@[simp] theorem sumSince_nil : sumSince resets weight [] = 0 := rfl

/-- At the newest event. -/
theorem sumSince_concat (es : List ι) (e : ι) :
    sumSince resets weight (es ++ [e]) =
      if resets e then 0 else sumSince resets weight es + weight e := by
  simp [sumSince]

end Sums

/-- Events of no negative weight weigh at least as much together as those
among them that come after a reset. -/
theorem sumSince_append_le {M : Type*} [AddCommMonoid M] [PartialOrder M]
    [IsOrderedAddMonoid M] {resets : ι → Bool} {weight : ι → M} {es : List ι}
    (hreset : sumSince resets weight es = 0) {fs : List ι} (hfs : ∀ f ∈ fs, 0 ≤ weight f) :
    sumSince resets weight (es ++ fs) ≤ (fs.map weight).sum := by
  induction fs using List.reverseRecOn with
  | nil => simp [hreset]
  | append_singleton fs f ih =>
      have hnonneg : ∀ g ∈ fs, 0 ≤ weight g := fun g hg => hfs g (by simp [hg])
      have hf : 0 ≤ weight f := hfs f (by simp)
      have hsum : 0 ≤ (fs.map weight).sum := by
        apply List.sum_nonneg
        intro w hw
        obtain ⟨g, hg, rfl⟩ := List.mem_map.mp hw
        exact hnonneg g hg
      rw [← List.append_assoc, sumSince_concat]
      simp only [List.map_append, List.sum_append, List.map_cons, List.map_nil,
        List.sum_cons, List.sum_nil, add_zero]
      split
      · exact add_nonneg hsum hf
      · exact add_le_add_left (ih hnonneg) _

end History
