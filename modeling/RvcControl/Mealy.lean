import Mathlib.Computability.Language
import Mathlib.Data.List.Induction
import Mathlib.Data.List.Forall2

/-!
# Deterministic machines with outputs

A method that both changes its object and returns a value is one step
`σ → ι → σ × ο` of a Mealy machine.  This file holds what the rest of the
development needs about such machines in general: runs and their outputs over
any list of inputs, the induction rule for invariants that may also speak
about the inputs read so far, and simulations between two machines whose
inputs and outputs need only be *related*, so that the same rule serves
equality of runs and comparisons of two different runs.
-/

/-- A deterministic machine: one step reads an input, moves to the next state
and answers with an output. -/
structure Mealy (σ ι ο : Type*) where
  step : σ → ι → σ × ο

namespace Mealy

variable {σ τ ι κ ο π : Type*}

section Runs

variable (M : Mealy σ ι ο)

/-- The state after one input. -/
def next (s : σ) (i : ι) : σ := (M.step s i).1

/-- The answer to one input. -/
def out (s : σ) (i : ι) : ο := (M.step s i).2

/-- The state after a list of inputs. -/
def run (s : σ) (is : List ι) : σ := is.foldl M.next s

/-- The answers to a list of inputs, in order. -/
def outputs : σ → List ι → List ο
  | _, [] => []
  | s, i :: is => M.out s i :: outputs (M.next s i) is

@[simp] theorem run_nil (s : σ) : M.run s [] = s := rfl

@[simp] theorem run_cons (s : σ) (i : ι) (is : List ι) :
    M.run s (i :: is) = M.run (M.next s i) is := rfl

@[simp] theorem outputs_nil (s : σ) : M.outputs s [] = [] := rfl

@[simp] theorem outputs_cons (s : σ) (i : ι) (is : List ι) :
    M.outputs s (i :: is) = M.out s i :: M.outputs (M.next s i) is := rfl

/-- One list of inputs after another. -/
theorem run_append (s : σ) (is js : List ι) :
    M.run s (is ++ js) = M.run (M.run s is) js := by
  simp [run]

theorem run_concat (s : σ) (is : List ι) (i : ι) :
    M.run s (is ++ [i]) = M.next (M.run s is) i := by
  simp [run]

/-- Inputs that change nothing, one after another. -/
theorem run_eq_self {s : σ} {is : List ι} (h : ∀ i ∈ is, M.next s i = s) : M.run s is = s := by
  induction is with
  | nil => rfl
  | cons i is ih =>
      rw [run_cons, h i (by simp)]
      exact ih fun j hj => h j (by simp [hj])

/-- The answers to one list of inputs after another. -/
theorem outputs_append (s : σ) (is js : List ι) :
    M.outputs s (is ++ js) = M.outputs s is ++ M.outputs (M.run s is) js := by
  induction is generalizing s with
  | nil => rfl
  | cons i is ih => simp [ih]

/-- **Invariants with a history.**  A relation between the inputs read so far
and the state they lead to holds along every run as soon as it holds at the
start and every single input preserves it. -/
theorem run_history {P : List ι → σ → Prop} {s : σ} (hstart : P [] s)
    (hstep : ∀ is t i, P is t → P (is ++ [i]) (M.next t i)) (is : List ι) :
    P is (M.run s is) := by
  induction is using List.reverseRecOn with
  | nil => exact hstart
  | append_singleton is i ih =>
      rw [M.run_concat]
      exact hstep is _ i ih

/-- The special case of an invariant of the state alone. -/
theorem run_invariant {P : σ → Prop} {s : σ} (hstart : P s)
    (hstep : ∀ t i, P t → P (M.next t i)) (is : List ι) : P (M.run s is) :=
  M.run_history (P := fun _ t => P t) hstart (fun _ t i => hstep t i) is

/-- What an invariant of the states says about every answer. -/
theorem outputs_invariant {P : σ → Prop} {Q : ο → Prop} {s : σ} (hstart : P s)
    (hstep : ∀ t i, P t → P (M.next t i) ∧ Q (M.out t i)) (is : List ι) :
    ∀ o ∈ M.outputs s is, Q o := by
  induction is generalizing s with
  | nil => simp
  | cons i is ih =>
      obtain ⟨hnext, hout⟩ := hstep s i hstart
      intro o ho
      rcases List.mem_cons.mp ho with rfl | ho
      · exact hout
      · exact ih hnext o ho

/-- The answer to an input is given in the state that reads it. -/
theorem getElem?_outputs (s : σ) (is : List ι) (j : ℕ) :
    (M.outputs s is)[j]? = is[j]?.map (M.out (M.run s (is.take j))) := by
  induction is generalizing s j with
  | nil => simp
  | cons i is ih =>
      cases j with
      | zero => simp
      | succ j => simp [ih]

/-- Answers told one by one: `f x` is made of the answer to `g x`, wherever `x`
stands in the list. -/
theorem map_outputs_eq {α β : Type*} {g : α → ι} {u : ο → β} {f : α → β} {s : σ} (l : List α)
    (h : ∀ before x after, l = before ++ x :: after →
      u (M.out (M.run s (before.map g)) (g x)) = f x) :
    (M.outputs s (l.map g)).map u = l.map f := by
  induction l generalizing s with
  | nil => rfl
  | cons x l ih =>
      have htail := ih (s := M.next s (g x)) (fun before y after hsplit =>
        h (x :: before) y after (by rw [hsplit]; rfl))
      rw [List.map_cons, outputs_cons, List.map_cons, List.map_cons, htail]
      exact congrArg (· :: l.map f) (h [] x l rfl)

/-- How many of the inputs are as expected in the states that read them. -/
def countAlong (expected : σ → ι → Bool) : σ → List ι → ℕ
  | _, [] => 0
  | s, i :: is => (expected s i).toNat + countAlong expected (M.next s i) is

/-- **Countdown.**  If every input that is expected where it is read brings a
run one step nearer to its end, and no other input does anything about it, then
the end is reached as soon as as many expected inputs have come in as there were
steps to take, whatever came in between. -/
theorem run_countdown {P : σ → Prop} {expected : σ → ι → Bool} {remaining : σ → ℕ}
    {allowed : ι → Prop}
    (hstep : ∀ s i, P s → allowed i → remaining s ≠ 0 →
      P (M.next s i) ∧ remaining (M.next s i) + (expected s i).toNat = remaining s)
    {s : σ} (hs : P s) {is : List ι} (his : ∀ i ∈ is, allowed i)
    (hcount : remaining s ≤ M.countAlong expected s is) :
    ∃ n ≤ is.length, P (M.run s (is.take n)) ∧ remaining (M.run s (is.take n)) = 0 := by
  induction is generalizing s with
  | nil => exact ⟨0, le_rfl, hs, Nat.le_zero.mp hcount⟩
  | cons i is ih =>
      by_cases hend : remaining s = 0
      · exact ⟨0, Nat.zero_le _, hs, hend⟩
      · obtain ⟨hnext, hremaining⟩ := hstep s i hs (his i (by simp)) hend
        have hrest : remaining (M.next s i) ≤ M.countAlong expected (M.next s i) is := by
          rw [countAlong] at hcount
          omega
        obtain ⟨n, hn, hrun⟩ := ih hnext (fun j hj => his j (by simp [hj])) hrest
        exact ⟨n + 1, Nat.succ_le_succ hn, hrun⟩

/-- **Exhaustion.**  If every expected input makes what remains less, and no other
input makes it more, then no run has more expected inputs than remained. -/
theorem countAlong_le {P : σ → Prop} {expected : σ → ι → Bool} {remaining : σ → ℕ}
    {allowed : ι → Prop}
    (hstep : ∀ s i, P s → allowed i →
      P (M.next s i) ∧ remaining (M.next s i) + (expected s i).toNat ≤ remaining s)
    {s : σ} (hs : P s) {is : List ι} (his : ∀ i ∈ is, allowed i) :
    M.countAlong expected s is ≤ remaining s := by
  induction is generalizing s with
  | nil => exact Nat.zero_le _
  | cons i is ih =>
      obtain ⟨hnext, hremaining⟩ := hstep s i hs (his i (by simp))
      have hrest := ih hnext fun j hj => his j (by simp [hj])
      rw [countAlong]
      omega

section Notes

variable {α : Type*} (note : σ → ι → Option α)

/-- What is noted of the inputs in the states that read them. -/
def notesAlong : σ → List ι → List α
  | _, [] => []
  | s, i :: is => (note s i).toList ++ notesAlong (M.next s i) is

/-- What is noted of a run is noted of one of its inputs. -/
theorem mem_notesAlong {note : σ → ι → Option α} {s : σ} {is : List ι} {n : α}
    (h : n ∈ M.notesAlong note s is) : ∃ i ∈ is, ∃ t, note t i = some n := by
  induction is generalizing s with
  | nil => cases h
  | cons i is ih =>
      rw [notesAlong] at h
      rcases List.mem_append.mp h with hhere | hlater
      · exact ⟨i, by simp, s, Option.mem_toList.mp hhere⟩
      · obtain ⟨j, hj, t, ht⟩ := ih hlater
        exact ⟨j, by simp [hj], t, ht⟩

/-- **Two notes of one run.**  What links what is noted of every input in one way
and in another links what is noted of the whole run. -/
theorem notesAlong_pair {β : Type*} {note : σ → ι → Option α} {other : σ → ι → Option β}
    {P : List α → List β → Prop} (hnil : P [] [])
    (hstep : ∀ s i notes others, P notes others →
      P ((note s i).toList ++ notes) ((other s i).toList ++ others)) (s : σ) (is : List ι) :
    P (M.notesAlong note s is) (M.notesAlong other s is) := by
  induction is generalizing s with
  | nil => exact hnil
  | cons i is ih => exact hstep s i _ _ (ih (M.next s i))

/-- **Invariants with notes.**  A relation between the notes of a run and the
state it leads to holds as soon as it holds at the start and every allowed input
with its note preserves it. -/
theorem run_notes {note : σ → ι → Option α} {allowed : ι → Prop} {P : List α → σ → Prop}
    (hstep : ∀ notes s i, P notes s → allowed i →
      P (notes ++ (note s i).toList) (M.next s i))
    {s : σ} (hs : P [] s) {is : List ι} (his : ∀ i ∈ is, allowed i) :
    P (M.notesAlong note s is) (M.run s is) := by
  have hfrom : ∀ notes s, P notes s → P (notes ++ M.notesAlong note s is) (M.run s is) := by
    clear hs
    induction is with
    | nil =>
        intro notes s h
        rw [notesAlong, List.append_nil]
        exact h
    | cons i is ih =>
        intro notes s h
        rw [notesAlong, ← List.append_assoc, run_cons]
        exact ih (fun j hj => his j (by simp [hj])) _ _ (hstep _ _ _ h (his i (by simp)))
  exact hfrom [] s hs

end Notes

/-- **Languages of answers.**  Give every state a language.  If an answer can
always be put in front of the words of the state it leads to, then the answers
of every run begin a word of the language it started in. -/
theorem outputs_prefix {L : σ → Language ο} (hne : ∀ s, ∃ w, w ∈ L s)
    (hstep : ∀ s i, ∀ w ∈ L (M.next s i), M.out s i :: w ∈ L s) (s : σ) (is : List ι) :
    ∃ w ∈ L s, M.outputs s is <+: w := by
  induction is generalizing s with
  | nil =>
      obtain ⟨w, hw⟩ := hne s
      exact ⟨w, hw, List.nil_prefix⟩
  | cons i is ih =>
      obtain ⟨w, hw, hprefix⟩ := ih (M.next s i)
      exact ⟨_, hstep s i w hw, List.cons_prefix_cons.mpr ⟨rfl, hprefix⟩⟩

end Runs

/-- `R` is a simulation between two machines: on related states and related
inputs both machines give related answers and stay related. -/
structure Simulation (M : Mealy σ ι ο) (N : Mealy τ κ π) (R : σ → τ → Prop)
    (I : ι → κ → Prop) (O : ο → π → Prop) : Prop where
  next : ∀ {s t i k}, R s t → I i k → R (M.next s i) (N.next t k)
  out : ∀ {s t i k}, R s t → I i k → O (M.out s i) (N.out t k)

namespace Simulation

variable {M : Mealy σ ι ο} {N : Mealy τ κ π} {R : σ → τ → Prop}
  {I : ι → κ → Prop} {O : ο → π → Prop}

/-- Related states stay related along related runs. -/
theorem run (h : Simulation M N R I O) {s : σ} {t : τ} {is : List ι} {ks : List κ}
    (hst : R s t) (hio : List.Forall₂ I is ks) : R (M.run s is) (N.run t ks) := by
  induction hio generalizing s t with
  | nil => exact hst
  | cons hi _ ih => exact ih (h.next hst hi)

/-- Related runs give related answers, step by step. -/
theorem outputs (h : Simulation M N R I O) {s : σ} {t : τ} {is : List ι} {ks : List κ}
    (hst : R s t) (hio : List.Forall₂ I is ks) :
    List.Forall₂ O (M.outputs s is) (N.outputs t ks) := by
  induction hio generalizing s t with
  | nil => exact List.Forall₂.nil
  | cons hi _ ih => exact List.Forall₂.cons (h.out hst hi) (ih (h.next hst hi))

end Simulation

/-- `R` is a refinement of one machine by another, along the inputs in `I`:
whatever input the first machine reads, the second has *some* input that gives
a related answer and keeps the states related. -/
structure Refinement (M : Mealy σ ι ο) (N : Mealy τ κ π) (R : σ → τ → Prop) (I : ι → Prop)
    (O : ο → π → Prop) : Prop where
  step : ∀ {s t i}, R s t → I i →
    ∃ k, R (M.next s i) (N.next t k) ∧ O (M.out s i) (N.out t k)

/-- A run of the first machine is matched by a run of the second, at every
point of it. -/
theorem Refinement.run {M : Mealy σ ι ο} {N : Mealy τ κ π} {R : σ → τ → Prop} {I : ι → Prop}
    {O : ο → π → Prop} (h : Refinement M N R I O) {s : σ} {t : τ} (hst : R s t) {is : List ι}
    (his : ∀ i ∈ is, I i) :
    ∃ ks, ks.length = is.length ∧
      (∀ n, R (M.run s (is.take n)) (N.run t (ks.take n))) ∧
      List.Forall₂ O (M.outputs s is) (N.outputs t ks) := by
  induction is generalizing s t with
  | nil => exact ⟨[], rfl, fun n => by simpa using hst, List.Forall₂.nil⟩
  | cons i is ih =>
      obtain ⟨k, hnext, hout⟩ := h.step hst (his i (by simp))
      obtain ⟨ks, hlength, hrun, houts⟩ := ih hnext fun j hj => his j (by simp [hj])
      refine ⟨k :: ks, by simp [hlength], ?_, List.Forall₂.cons hout houts⟩
      intro n
      cases n with
      | zero => exact hst
      | succ n => exact hrun n

/-- Two states nobody can tell apart: they answer every list of inputs alike. -/
def ObsEq (M : Mealy σ ι ο) (s t : σ) : Prop :=
  ∀ is, M.outputs s is = M.outputs t is

/-- **One picture, no difference.**  Two states that a simulation with equal
inputs and equal answers takes to the same state of another machine cannot be
told apart. -/
theorem Simulation.obsEq {M : Mealy σ ι ο} {N : Mealy τ ι ο} {R : σ → τ → Prop}
    (h : Simulation M N R Eq Eq) {s t : σ} {u : τ} (hs : R s u) (ht : R t u) :
    M.ObsEq s t := by
  intro is
  have hin : List.Forall₂ Eq is is := by
    rw [List.forall₂_eq_eq_eq]
  have hleft := h.outputs hs hin
  have hright := h.outputs ht hin
  rw [List.forall₂_eq_eq_eq] at hleft hright
  rw [hleft, hright]

end Mealy
