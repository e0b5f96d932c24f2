import Mathlib.Data.Finset.Card
import Mathlib.Logic.Function.Iterate

/-!
# Orbits in a finite set

A function that keeps a finite set is iterated on one of its points.  Sooner or
later it comes back to a point of the past and goes round from there on; the way
there and once round takes no more steps than the set has points, so whatever is
reached at all is reached on that way.
-/

namespace Orbit

variable {α : Type*} {f : α → α} {S : Finset α} {x : α}

/-- The orbit stays in the set. -/
theorem iterate_mem (hf : ∀ y ∈ S, f y ∈ S) (hx : x ∈ S) (n : ℕ) : f^[n] x ∈ S := by
  induction n with
  | zero => exact hx
  | succ n ih =>
      rw [Function.iterate_succ_apply']
      exact hf _ ih

/-- From the step `tail` on the orbit of `x` repeats itself. -/
structure Repeats (f : α → α) (x : α) (tail period : ℕ) : Prop where
  pos : 0 < period
  again : ∀ n, tail ≤ n → f^[n + period] x = f^[n] x

/-- Two equal points are enough. -/
theorem repeats_of_eq {i j : ℕ} (hij : i < j) (h : f^[i] x = f^[j] x) :
    Repeats f x i (j - i) := by
  refine ⟨by omega, ?_⟩
  intro n hn
  obtain ⟨k, rfl⟩ := Nat.exists_eq_add_of_le hn
  calc
    f^[i + k + (j - i)] x = f^[k + j] x := congrArg (f^[·] x) (by omega)
    _ = f^[k] (f^[j] x) := Function.iterate_add_apply f k j x
    _ = f^[k] (f^[i] x) := by rw [h]
    _ = f^[i + k] x := by rw [← Function.iterate_add_apply, Nat.add_comm]

/-- **Round and round.**  On a finite set an orbit repeats itself, and the tail
and one round have room in it. -/
theorem exists_repeats (hf : ∀ y ∈ S, f y ∈ S) (hx : x ∈ S) :
    ∃ tail period, tail + period ≤ S.card ∧ Repeats f x tail period := by
  have hmaps : ∀ i ∈ Finset.range (S.card + 1), f^[i] x ∈ S := fun i _ => iterate_mem hf hx i
  have hcard : S.card < (Finset.range (S.card + 1)).card := by
    rw [Finset.card_range]
    omega
  obtain ⟨i, hi, j, hj, hne, heq⟩ :=
    Finset.exists_ne_map_eq_of_card_lt_of_maps_to hcard hmaps
  rw [Finset.mem_range] at hi hj
  rcases Nat.lt_or_gt_of_ne hne with hlt | hgt
  · exact ⟨i, j - i, by omega, repeats_of_eq hlt heq⟩
  · exact ⟨j, i - j, by omega, repeats_of_eq hgt heq.symm⟩

/-- What is reached at all is reached on the tail or the first time round. -/
theorem Repeats.early {tail period : ℕ} (h : Repeats f x tail period) (n : ℕ) :
    ∃ m ≤ n, m < tail + period ∧ f^[m] x = f^[n] x := by
  induction n using Nat.strong_induction_on with
  | _ n ih =>
      by_cases hn : n < tail + period
      · exact ⟨n, le_rfl, hn, rfl⟩
      · have hpos := h.pos
        obtain ⟨m, hm, hlt, heq⟩ := ih (n - period) (by omega)
        refine ⟨m, by omega, hlt, ?_⟩
        have hagain := h.again (n - period) (by omega)
        rw [Nat.sub_add_cancel (by omega)] at hagain
        rw [heq, hagain]

end Orbit
