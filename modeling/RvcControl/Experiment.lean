import RvcControl.Mealy

/-!
# Bounded experiments

An experiment on a machine is a list of inputs, and what it shows are the
answers.  Two states agree up to `n` if no experiment of at most `n` inputs
tells them apart; they are observationally equal if none at all does.

A relation that counts down while it lasts proves the first, and one that lasts
for any count the second.
-/

namespace Mealy

variable {σ τ ι ο : Type*} {M : Mealy σ ι ο} {N : Mealy τ ι ο}

/-- No experiment of at most `n` inputs tells `s` and `t` apart. -/
def AgreeUpTo (M : Mealy σ ι ο) (n : ℕ) (s t : σ) : Prop :=
  ∀ is : List ι, is.length ≤ n → M.outputs s is = M.outputs t is

/-- States nobody can tell apart agree as long as one looks. -/
theorem ObsEq.agreeUpTo {s t : σ} (h : M.ObsEq s t) (n : ℕ) : M.AgreeUpTo n s t :=
  fun is _ => h is

theorem AgreeUpTo.mono {m n : ℕ} (hmn : m ≤ n) {s t : σ} (h : M.AgreeUpTo n s t) :
    M.AgreeUpTo m s t :=
  fun is hlength => h is (hlength.trans hmn)

/-- There is one answer for each input. -/
theorem length_outputs (s : σ) (is : List ι) : (M.outputs s is).length = is.length := by
  induction is generalizing s with
  | nil => rfl
  | cons i is ih => rw [outputs_cons, List.length_cons, List.length_cons, ih]

/-- Behind the same inputs there is the rest of the experiment. -/
theorem AgreeUpTo.after {s t : σ} (is : List ι) (n : ℕ)
    (h : M.AgreeUpTo (is.length + n) s t) :
    M.AgreeUpTo n (M.run s is) (M.run t is) := by
  intro js hlength
  have hall := h (is ++ js) (by rw [List.length_append]; omega)
  rw [outputs_append, outputs_append] at hall
  have hsame : (M.outputs s is).length = (M.outputs t is).length := by
    rw [length_outputs, length_outputs]
  exact (List.append_inj hall hsame).2

/-- States that agree however long one looks cannot be told apart. -/
theorem obsEq_of_agreeUpTo {s t : σ} (h : ∀ n, M.AgreeUpTo n s t) : M.ObsEq s t :=
  fun is => h is.length is le_rfl

/-- **Counting down.**  Related states answer alike, and what they lead to is
related for one input less. -/
theorem agreeUpTo_of_countdown {R : ℕ → σ → σ → Prop}
    (hstep : ∀ n s t i, R (n + 1) s t →
      M.out s i = M.out t i ∧ R n (M.next s i) (M.next t i))
    {n : ℕ} {s t : σ} (h : R n s t) : M.AgreeUpTo n s t := by
  intro is hlength
  induction is generalizing n s t with
  | nil => rfl
  | cons i is ih =>
      cases n with
      | zero => cases hlength
      | succ n =>
          obtain ⟨hout, hnext⟩ := hstep n s t i h
          rw [outputs_cons, outputs_cons, hout, ih hnext (Nat.le_of_succ_le_succ hlength)]

/-- What an experiment shows does not depend on which of two machines is used,
if one simulates the other with equal answers. -/
theorem Simulation.outputs_eq {R : σ → τ → Prop} (h : Simulation M N R Eq Eq) {s : σ} {t : τ}
    (hst : R s t) (is : List ι) : M.outputs s is = N.outputs t is := by
  have hin : List.Forall₂ Eq is is := by
    rw [List.forall₂_eq_eq_eq]
  have hout := h.outputs hst hin
  rwa [List.forall₂_eq_eq_eq] at hout

/-- A simulation carries agreement over, both ways. -/
theorem Simulation.agreeUpTo_iff {R : σ → τ → Prop} (h : Simulation M N R Eq Eq) {s s' : σ}
    {t t' : τ} (hst : R s t) (hst' : R s' t') (n : ℕ) :
    M.AgreeUpTo n s s' ↔ N.AgreeUpTo n t t' := by
  unfold AgreeUpTo
  simp only [h.outputs_eq hst, h.outputs_eq hst']

theorem Simulation.obsEq_iff {R : σ → τ → Prop} (h : Simulation M N R Eq Eq) {s s' : σ}
    {t t' : τ} (hst : R s t) (hst' : R s' t') : M.ObsEq s s' ↔ N.ObsEq t t' := by
  unfold ObsEq
  simp only [h.outputs_eq hst, h.outputs_eq hst']

end Mealy
