import Mathlib.Data.List.Nodup
import Mathlib.Logic.Function.Basic
import RvcControl.History
import RvcControl.Mealy

/-!
# Handlers over a shared object

An object is a Mealy machine whose single calls are atomic.  A handler serves a
request by a list of calls and makes the response from their answers; handlers
of different requests run side by side, so the calls of one may come between
the calls of another.

An execution is *linearizable* if one order of its requests explains it: run
one after another in that order, whole handlers at a time, they give the same
responses and leave the same object, and a request that was answered before
another one was made comes before it.

`linearizable_iff` is for handlers that do all they do in their first call and
only look afterwards: what they looked at must be what they could have seen
alone.
-/

/-- The finite runs of a labelled transition relation, from `a`. -/
inductive Runs {α ε : Type*} (step : α → ε → α → Prop) (a : α) : List ε → α → Prop
  | nil : Runs step a [] a
  | concat {es : List ε} {b c : α} {e : ε} (before : Runs step a es b) (last : step b e c) :
      Runs step a (es ++ [e]) c

/-- A run may also be extended in front. -/
theorem Runs.head {α ε : Type*} {step : α → ε → α → Prop} {a b c : α} {e : ε} {es : List ε}
    (first : step a e b) (after : Runs step b es c) : Runs step a (e :: es) c := by
  induction after with
  | nil => exact Runs.nil.concat first
  | concat _ last ih => exact ih.concat last

/-- `x` comes before `y` in the list. -/
def Earlier {α : Type*} (l : List α) (x y : α) : Prop := [x, y].Sublist l

section Earlier

variable {α : Type*} {l : List α} {x y z : α}

/-- What is last in the list comes after all others. -/
theorem earlier_concat : Earlier (l ++ [z]) x y ↔ Earlier l x y ∨ x ∈ l ∧ y = z := by
  unfold Earlier
  constructor
  · intro h
    obtain ⟨l₁, l₂, hsplit, h₁, h₂⟩ := List.sublist_append_iff.mp h
    cases l₂ with
    | nil =>
        rw [List.append_nil] at hsplit
        exact Or.inl (hsplit ▸ h₁)
    | cons w l₂ =>
        obtain ⟨rfl, rfl⟩ : w = z ∧ l₂ = [] := by simpa using h₂
        have hparts : [x] ++ [y] = l₁ ++ [w] := hsplit
        obtain ⟨rfl, hy⟩ := List.append_inj' hparts rfl
        exact Or.inr ⟨by simpa using h₁, by simpa using hy⟩
  · intro h
    rcases h with h | ⟨hx, rfl⟩
    · exact h.trans (List.sublist_append_left _ _)
    · exact (List.singleton_sublist.mpr hx).append (List.Sublist.refl [y])

theorem Earlier.mem_left (h : Earlier l x y) : x ∈ l := h.subset (by simp)

theorem Earlier.mem_right (h : Earlier l x y) : y ∈ l := h.subset (by simp)

end Earlier

/-- The calls of a request's handler, and the response made of the answers. -/
structure Handlers (ρ ι ο π : Type*) where
  calls : ρ → List ι
  respond : ρ → List ο → π

namespace Handlers

variable {σ ρ ι ο π κ : Type*} (H : Handlers ρ ι ο π) (M : Mealy σ ι ο)

/-- The object with whole handlers for its calls. -/
def atomically : Mealy σ ρ π where
  step s r := (M.run s (H.calls r), H.respond r (M.outputs s (H.calls r)))

@[simp] theorem atomically_next (s : σ) (r : ρ) :
    (H.atomically M).next s r = M.run s (H.calls r) := rfl

@[simp] theorem atomically_out (s : σ) (r : ρ) :
    (H.atomically M).out s r = H.respond r (M.outputs s (H.calls r)) := rfl

end Handlers

section ActsFirst

variable {σ ρ ι ο π : Type*} {H : Handlers ρ ι ο π} {M : Mealy σ ι ο}

/-- The handlers do all they do in their first call; later ones only look. -/
def Handlers.ActsFirst (H : Handlers ρ ι ο π) (M : Mealy σ ι ο) : Prop :=
  ∀ r, ∃ c cs, H.calls r = c :: cs ∧ ∀ d ∈ cs, ∀ s, M.next s d = s

namespace Handlers.ActsFirst

/-- There is a first call. -/
theorem calls_ne_nil (h : H.ActsFirst M) (r : ρ) : H.calls r ≠ [] := by
  obtain ⟨c, cs, hcalls, _⟩ := h r
  simp [hcalls]

/-- A whole handler leaves the object as its first call does. -/
theorem next_eq (h : H.ActsFirst M) {r : ρ} {c : ι} (hc : (H.calls r)[0]? = some c) (s : σ) :
    (H.atomically M).next s r = M.next s c := by
  obtain ⟨d, cs, hcalls, hlook⟩ := h r
  have hdc : d = c := by simpa [hcalls] using hc
  have hrun : M.run (M.next s c) cs = M.next s c := M.run_eq_self fun d hd => hlook d hd _
  rw [Handlers.atomically_next, hcalls, hdc, Mealy.run_cons, hrun]

/-- Every later call leaves the object alone. -/
theorem next_later (h : H.ActsFirst M) {r : ρ} {c : ι} {k : ℕ}
    (hc : (H.calls r)[k + 1]? = some c) (s : σ) : M.next s c = s := by
  obtain ⟨d, cs, hcalls, hlook⟩ := h r
  rw [hcalls, List.getElem?_cons_succ] at hc
  exact hlook c (List.mem_of_getElem? hc) s

end Handlers.ActsFirst

end ActsFirst

/-- A request being served: the answers its handler has so far. -/
structure Ticket (ρ ο : Type*) where
  request : ρ
  answers : List ο := []
  responded : Bool := false

/-- A server: the object, and the requests it has been sent, by name. -/
structure Server (σ ρ ο κ : Type*) where
  object : σ
  tickets : κ → Option (Ticket ρ ο) := fun _ => none

/-- What happens at a server: a request arrives, a handler makes its next call,
a response is sent. -/
inductive ServerEvent (ρ ι κ : Type*)
  | invoke (i : κ) (r : ρ)
  | call (i : κ) (c : ι)
  | respond (i : κ)
  deriving DecidableEq

/-- The calls made in the course of some events. -/
def callsMade {ρ ι κ : Type*} : List (ServerEvent ρ ι κ) → List ι
  | [] => []
  | .call _ c :: es => c :: callsMade es
  | _ :: es => callsMade es

/-- The calls of a longer run. -/
theorem callsMade_append {ρ ι κ : Type*} (es fs : List (ServerEvent ρ ι κ)) :
    callsMade (es ++ fs) = callsMade es ++ callsMade fs := by
  induction es with
  | nil => rfl
  | cons e es ih => cases e <;> simp [callsMade, ih]

namespace Server

variable {σ ρ ι ο π κ : Type*} [DecidableEq κ]

def put (n : Server σ ρ ο κ) (i : κ) (t : Ticket ρ ο) : Server σ ρ ο κ :=
  { n with tickets := Function.update n.tickets i (some t) }

/-- The steps of a server whose handlers are `H` over the object `M`. -/
inductive Step (H : Handlers ρ ι ο π) (M : Mealy σ ι ο) :
    Server σ ρ ο κ → ServerEvent ρ ι κ → Server σ ρ ο κ → Prop
  | invoke {n : Server σ ρ ο κ} {i : κ} {r : ρ} (hnew : n.tickets i = none) :
      Step H M n (.invoke i r) (n.put i { request := r })
  | call {n : Server σ ρ ο κ} {i : κ} {t : Ticket ρ ο} {c : ι} (ht : n.tickets i = some t)
      (hc : (H.calls t.request)[t.answers.length]? = some c) :
      Step H M n (.call i c)
        ({ n with object := M.next n.object c }.put i
          { t with answers := t.answers ++ [M.out n.object c] })
  | respond {n : Server σ ρ ο κ} {i : κ} {t : Ticket ρ ο} (ht : n.tickets i = some t)
      (hall : t.answers.length = (H.calls t.request).length) (hopen : t.responded = false) :
      Step H M n (.respond i) (n.put i { t with responded := true })

variable (H : Handlers ρ ι ο π) (M : Mealy σ ι ο) (start : σ)

/-- The events `es` lead a fresh server over `start` to `n`. -/
def Execution (es : List (ServerEvent ρ ι κ)) (n : Server σ ρ ο κ) : Prop :=
  Runs (Step H M) { object := start } es n

/-- Every request has been answered. -/
def Complete (n : Server σ ρ ο κ) : Prop :=
  ∀ i t, n.tickets i = some t → t.responded = true

/-- The response to a request. -/
def response (n : Server σ ρ ο κ) (i : κ) : Option π :=
  (n.tickets i).map fun t => H.respond t.request t.answers

/-- An order of all requests that explains the execution `es` to `n`. -/
structure Linearization (es : List (ServerEvent ρ ι κ)) (n : Server σ ρ ο κ)
    (order : List (κ × ρ)) : Prop where
  nodup : (order.map Prod.fst).Nodup
  requests : ∀ i r, (i, r) ∈ order ↔ ∃ t, n.tickets i = some t ∧ t.request = r
  realTime : ∀ i j r, Earlier es (.respond i) (.invoke j r) →
    Earlier (order.map Prod.fst) i j
  responses : ((H.atomically M).outputs start (order.map Prod.snd)).map some =
    order.map fun entry => n.response H entry.1
  object : (H.atomically M).run start (order.map Prod.snd) = n.object

def Linearizable (es : List (ServerEvent ρ ι κ)) (n : Server σ ρ ο κ) : Prop :=
  ∃ order, Linearization H M start es n order

/-! ## What a server's steps do to its tickets -/

section Tickets

variable (n : Server σ ρ ο κ) (i j : κ) (t : Ticket ρ ο)

@[simp] theorem put_object : (n.put i t).object = n.object := rfl

@[simp] theorem put_tickets_self : (n.put i t).tickets i = some t := by
  simp [put]

@[simp] theorem put_tickets_of_ne (h : j ≠ i) : (n.put i t).tickets j = n.tickets j := by
  simp [put, h]

/-- The request and the first answer of a handler that has begun. -/
def first : Option (ρ × ο) :=
  (n.tickets i).bind fun t => t.answers.head?.map (Prod.mk t.request)

/-- The other requests keep their first calls. -/
theorem first_put_of_ne (h : j ≠ i) : (n.put i t).first j = n.first j := by
  simp [first, h]

/-- A ticket with the same request and the same first answer, if any. -/
theorem first_put (h : t.answers.head?.map (Prod.mk t.request) = n.first i) :
    (n.put i t).first = n.first := by
  funext j
  by_cases hj : j = i
  · rw [hj, ← h]
    simp [first]
  · exact n.first_put_of_ne i j t hj

end Tickets

variable {H M start} {es : List (ServerEvent ρ ι κ)} {e : ServerEvent ρ ι κ}
  {n n' : Server σ ρ ο κ}

/-- A response is sent when all calls have been made, and it is sent once. -/
structure Served (H : Handlers ρ ι ο π) (es : List (ServerEvent ρ ι κ)) (n : Server σ ρ ο κ) :
    Prop where
  answered : ∀ i t, n.tickets i = some t → t.responded = true →
    t.answers.length = (H.calls t.request).length
  responded : ∀ i, .respond i ∈ es → ∃ t, n.tickets i = some t ∧ t.responded = true

/-- One event. -/
theorem Served.step (h : Served H es n) (hstep : Step H M n e n') : Served H (es ++ [e]) n' := by
  cases hstep with
  | @invoke i r hnew =>
      constructor
      · intro j t ht hresponded
        by_cases hj : j = i
        · subst hj
          cases (put_tickets_self n j _).symm.trans ht
          cases hresponded
        · exact h.answered j t (by simpa [hj] using ht) hresponded
      · intro j hj
        obtain ⟨t, ht, hresponded⟩ := h.responded j (by simpa using hj)
        have hne : j ≠ i := by
          intro hji
          rw [hji, hnew] at ht
          cases ht
        exact ⟨t, by simp [hne, ht], hresponded⟩
  | @call i t c ht hc =>
      have hopen : t.responded ≠ true := by
        intro hresponded
        have hlt := (List.getElem?_eq_some_iff.mp hc).1
        have hall := h.answered i t ht hresponded
        omega
      constructor
      · intro j u hu hresponded
        by_cases hj : j = i
        · subst hj
          cases (put_tickets_self _ j _).symm.trans hu
          exact absurd hresponded hopen
        · exact h.answered j u (by simpa [hj] using hu) hresponded
      · intro j hj
        obtain ⟨u, hu, hresponded⟩ := h.responded j (by simpa using hj)
        have hne : j ≠ i := by
          intro hji
          rw [hji, ht] at hu
          exact hopen (Option.some.inj hu ▸ hresponded)
        exact ⟨u, by simp [hne, hu], hresponded⟩
  | @respond i t ht hall hopen =>
      constructor
      · intro j u hu hresponded
        by_cases hj : j = i
        · subst hj
          cases (put_tickets_self _ j _).symm.trans hu
          exact hall
        · exact h.answered j u (by simpa [hj] using hu) hresponded
      · intro j hj
        by_cases hji : j = i
        · exact ⟨_, by rw [hji, put_tickets_self], rfl⟩
        · obtain ⟨u, hu, hresponded⟩ := h.responded j (by simpa [hji] using hj)
          exact ⟨u, by simp [hji, hu], hresponded⟩

/-- Every request that is served has been made. -/
theorem Execution.served (h : Execution H M start es n) : Served H es n := by
  induction h with
  | nil => exact ⟨by simp, by simp⟩
  | concat _ hlast ih => exact ih.step hlast

omit [DecidableEq κ] in
/-- The handler of a request that has been answered has begun. -/
theorem Served.first_ne_none (hacts : H.ActsFirst M) (h : Served H es n) {i : κ} {t : Ticket ρ ο}
    (ht : n.tickets i = some t) (hresponded : t.responded = true) : n.first i ≠ none := by
  have hlength := h.answered i t ht hresponded
  have hpos := List.length_pos_iff.mpr (hacts.calls_ne_nil t.request)
  obtain ⟨o, os, hanswers⟩ := List.exists_cons_of_length_pos (hlength ▸ hpos)
  simp [Server.first, ht, hanswers]

/-- The handler of `i` has the answer `o` to its call `c`. -/
def Answered (H : Handlers ρ ι ο π) (n : Server σ ρ ο κ) (i : κ) (c : ι) (o : ο) : Prop :=
  ∃ (t : Ticket ρ ο) (k : ℕ), n.tickets i = some t ∧ (H.calls t.request)[k]? = some c ∧
    t.answers[k]? = some o

/-- When the call `c` of `i` was made, its answer was `o`. -/
def Asked (M : Mealy σ ι ο) (start : σ) (es : List (ServerEvent ρ ι κ)) (i : κ) (c : ι) (o : ο) :
    Prop :=
  ∃ before rest, es = before ++ .call i c :: rest ∧ M.out (M.run start (callsMade before)) c = o

omit [DecidableEq κ] in
/-- At the newest event. -/
theorem asked_concat {i : κ} {c : ι} {o : ο} :
    Asked M start (es ++ [e]) i c o ↔
      Asked M start es i c o ∨ e = .call i c ∧ M.out (M.run start (callsMade es)) c = o := by
  constructor
  · intro h
    obtain ⟨before, rest, hsplit, ho⟩ := h
    rcases History.split_concat hsplit with ⟨rfl, he, _⟩ | ⟨rest, _, hrest⟩
    · exact Or.inr ⟨he.symm, ho⟩
    · exact Or.inl ⟨before, rest, hrest, ho⟩
  · intro h
    rcases h with ⟨before, rest, hsplit, ho⟩ | ⟨he, ho⟩
    · exact ⟨before, rest ++ [e], by simp [hsplit], ho⟩
    · exact ⟨es, [], by rw [he], ho⟩

omit [DecidableEq κ] in
/-- An element of a longer list is the new one or was there. -/
theorem getElem?_concat_eq_some {l : List ο} {a o : ο} {k : ℕ} :
    (l ++ [a])[k]? = some o ↔ l[k]? = some o ∨ k = l.length ∧ a = o := by
  rcases lt_trichotomy k l.length with hlt | heq | hgt
  · simp [List.getElem?_append_left hlt, hlt.ne]
  · simp [heq]
  · have hpast : (l ++ [a])[k]? = none := List.getElem?_eq_none (by simp; omega)
    simp [hpast, List.getElem?_eq_none hgt.le, hgt.ne']

/-- A handler that gets the answer `a` to its call `c` has that one besides
those it had. -/
theorem answered_put_concat {i : κ} {t : Ticket ρ ο} {c d : ι} {a o : ο}
    (ht : n.tickets i = some t) (hc : (H.calls t.request)[t.answers.length]? = some c) :
    Answered H (n'.put i { t with answers := t.answers ++ [a] }) i d o ↔
      Answered H n i d o ∨ c = d ∧ a = o := by
  constructor
  · intro h
    obtain ⟨u, k, hu, hk, ho⟩ := h
    cases (put_tickets_self _ i _).symm.trans hu
    rcases getElem?_concat_eq_some.mp ho with hold | ⟨rfl, hnew⟩
    · exact Or.inl ⟨t, k, ht, hk, hold⟩
    · exact Or.inr ⟨Option.some.inj (hc.symm.trans hk), hnew⟩
  · intro h
    rcases h with ⟨u, k, hu, hk, ho⟩ | ⟨rfl, ho⟩
    · cases ht.symm.trans hu
      exact ⟨_, k, put_tickets_self _ _ _, hk, getElem?_concat_eq_some.mpr (Or.inl ho)⟩
    · exact ⟨_, t.answers.length, put_tickets_self _ _ _, hc,
        getElem?_concat_eq_some.mpr (Or.inr ⟨rfl, ho⟩)⟩

/-- The events of an execution tell all there is to a server. -/
structure Recorded (H : Handlers ρ ι ο π) (M : Mealy σ ι ο) (start : σ)
    (es : List (ServerEvent ρ ι κ)) (n : Server σ ρ ο κ) : Prop where
  object : M.run start (callsMade es) = n.object
  invoked : ∀ i r, .invoke i r ∈ es ↔ ∃ t, n.tickets i = some t ∧ t.request = r
  answered : ∀ i c o, Answered H n i c o ↔ Asked M start es i c o

/-- One event. -/
theorem Recorded.step (h : Recorded H M start es n) (hstep : Step H M n e n') :
    Recorded H M start (es ++ [e]) n' := by
  cases hstep with
  | @invoke i r hnew =>
      refine ⟨?_, ?_, ?_⟩
      · rw [callsMade_append]
        simpa [callsMade] using h.object
      · intro j s
        by_cases hj : j = i
        · subst hj
          have hnone : .invoke j s ∉ es := by
            intro hmem
            obtain ⟨t, ht, _⟩ := (h.invoked j s).mp hmem
            rw [hnew] at ht
            cases ht
          simp [hnone, eq_comm]
        · simp [hj, h.invoked j s]
      · intro j c o
        rw [asked_concat, ← h.answered j c o]
        by_cases hj : j = i
        · subst hj
          simp [Answered, hnew]
        · simp [Answered, hj]
  | @call i t c ht hc =>
      refine ⟨?_, ?_, ?_⟩
      · rw [callsMade_append, callsMade, callsMade, Mealy.run_concat, h.object]
        rfl
      · intro j s
        by_cases hj : j = i
        · subst hj
          simp [h.invoked j s, ht]
        · simp [hj, h.invoked j s]
      · intro j d o
        rw [asked_concat, ← h.answered j d o, h.object]
        by_cases hj : j = i
        · subst hj
          rw [answered_put_concat ht hc]
          simp only [ServerEvent.call.injEq, true_and]
          exact or_congr_right (and_congr_right fun hcd => by rw [hcd])
        · have hne : ¬ (ServerEvent.call i c : ServerEvent ρ ι κ) = .call j d := by
            intro he
            cases he
            exact hj rfl
          simp [Answered, hj, hne]
  | @respond i t ht hall hopen =>
      refine ⟨?_, ?_, ?_⟩
      · rw [callsMade_append]
        simpa [callsMade] using h.object
      · intro j s
        by_cases hj : j = i
        · subst hj
          simp [h.invoked j s, ht]
        · simp [hj, h.invoked j s]
      · intro j c o
        rw [asked_concat, ← h.answered j c o]
        by_cases hj : j = i
        · subst hj
          simp [Answered, ht]
        · simp [Answered, hj]

/-- What the server has noted is what has happened. -/
theorem Execution.recorded (h : Execution H M start es n) : Recorded H M start es n := by
  induction h with
  | nil =>
      refine ⟨rfl, by simp, ?_⟩
      intro i c o
      simp [Answered, Asked]
  | concat _ hlast ih => exact ih.step hlast

/-- An execution is complete once every request in it has been answered. -/
theorem Execution.complete (h : Execution H M start es n)
    (hall : ∀ i r, .invoke i r ∈ es → .respond i ∈ es) : n.Complete := by
  intro i t ht
  have hinvoke := ((Execution.recorded h).invoked i t.request).mpr ⟨t, ht, rfl⟩
  obtain ⟨u, hu, hresponded⟩ := (Execution.served h).responded i (hall i _ hinvoke)
  rw [ht] at hu
  exact Option.some.inj hu ▸ hresponded

/-! ## The order of the first calls -/

/-- `lin` lists the requests in the order in which their handlers began. -/
structure Tracks (H : Handlers ρ ι ο π) (M : Mealy σ ι ο) (start : σ)
    (es : List (ServerEvent ρ ι κ)) (n : Server σ ρ ο κ) (lin : List (κ × ρ)) : Prop where
  nodup : (lin.map Prod.fst).Nodup
  object : (H.atomically M).run start (lin.map Prod.snd) = n.object
  begun : ∀ i, i ∈ lin.map Prod.fst ↔ n.first i ≠ none
  first : ∀ before i r after, lin = before ++ (i, r) :: after →
    n.first i = (M.outputs ((H.atomically M).run start (before.map Prod.snd))
      (H.calls r)).head?.map (Prod.mk r)
  realTime : ∀ i j r, j ∈ lin.map Prod.fst → Earlier es (.respond i) (.invoke j r) →
    Earlier (lin.map Prod.fst) i j

namespace Tracks

variable {lin : List (κ × ρ)}

omit [DecidableEq κ] in
/-- An event that begins no handler. -/
theorem keep (h : Tracks H M start es n lin) (hfirst : n'.first = n.first)
    (hobject : n'.object = n.object) (hnew : ∀ j r, e = .invoke j r → n.first j = none) :
    Tracks H M start (es ++ [e]) n' lin where
  nodup := h.nodup
  object := h.object.trans hobject.symm
  begun := by rw [hfirst]; exact h.begun
  first := by rw [hfirst]; exact h.first
  realTime := by
    intro i j r hj hearlier
    rcases earlier_concat.mp hearlier with hold | ⟨_, he⟩
    · exact h.realTime i j r hj hold
    · exact absurd (hnew j r he.symm) ((h.begun j).mp hj)

/-- The first call of a handler. -/
theorem begins (hacts : H.ActsFirst M) (hserved : Served H es n)
    (h : Tracks H M start es n lin) {i : κ} {t : Ticket ρ ο} {c : ι}
    (ht : n.tickets i = some t) (hempty : t.answers = [])
    (hc : (H.calls t.request)[0]? = some c) :
    Tracks H M start (es ++ [.call i c])
      ({ n with object := M.next n.object c }.put i
        { t with answers := t.answers ++ [M.out n.object c] })
      (lin ++ [(i, t.request)]) := by
  have hnot : i ∉ lin.map Prod.fst := by
    intro hi
    exact (h.begun i).mp hi (by simp [Server.first, ht, hempty])
  have hmap : (lin ++ [(i, t.request)]).map Prod.fst = lin.map Prod.fst ++ [i] := by simp
  refine ⟨?_, ?_, ?_, ?_, ?_⟩
  · rw [hmap]
    exact List.nodup_append'.mpr ⟨h.nodup, by simp, by simpa using hnot⟩
  · rw [List.map_append, List.map_singleton, Mealy.run_concat, h.object]
    exact hacts.next_eq hc _
  · intro j
    rw [hmap]
    by_cases hj : j = i
    · subst hj
      simp [Server.first, hempty]
    · rw [first_put_of_ne _ _ _ _ hj]
      show _ ↔ n.first j ≠ none
      simpa [hj] using h.begun j
  · intro before j r after hsplit
    rcases History.split_concat hsplit with ⟨rfl, hentry, _⟩ | ⟨rest, _, hrest⟩
    · obtain ⟨rfl, rfl⟩ := Prod.mk.inj hentry
      obtain ⟨d, cs, hcalls, _⟩ := hacts t.request
      have hdc : d = c := by simpa [hcalls] using hc
      rw [h.object, hcalls, hdc]
      simp [Server.first, hempty]
    · have hj : j ≠ i := by
        intro hji
        exact hnot (by simp [hrest, hji])
      rw [first_put_of_ne _ _ _ _ hj]
      exact h.first before j r rest hrest
  · intro a j r hj hearlier
    rw [hmap] at hj ⊢
    have hold : Earlier es (.respond a) (.invoke j r) := by
      rcases earlier_concat.mp hearlier with hold | ⟨_, he⟩
      · exact hold
      · cases he
    rcases List.mem_append.mp hj with hj | hj
    · exact earlier_concat.mpr (Or.inl (h.realTime a j r hj hold))
    · -- a request answered before this one was made has begun before it
      obtain ⟨u, hu, hresponded⟩ := hserved.responded a hold.mem_left
      have ha := hserved.first_ne_none hacts hu hresponded
      exact earlier_concat.mpr (Or.inr ⟨(h.begun a).mpr ha, List.mem_singleton.mp hj⟩)

/-- One event, with a place for every request. -/
theorem step (hacts : H.ActsFirst M) (hserved : Served H es n) (h : Tracks H M start es n lin)
    (hstep : Step H M n e n') : ∃ lin', Tracks H M start (es ++ [e]) n' lin' := by
  cases hstep with
  | @invoke i r hnew =>
      have hnone : n.first i = none := by simp [Server.first, hnew]
      refine ⟨lin, h.keep (first_put n i _ ?_) rfl ?_⟩
      · rw [hnone]
        rfl
      · intro j s he
        cases he
        exact hnone
  | @call i t c ht hc =>
      cases hanswers : t.answers with
      | nil =>
          rw [hanswers] at hc
          have hbegin := h.begins hacts hserved ht hanswers hc
          rw [hanswers] at hbegin
          exact ⟨_, hbegin⟩
      | cons o os =>
          rw [hanswers, List.length_cons] at hc
          refine ⟨lin, h.keep ?_ (hacts.next_later hc _) (by simp)⟩
          have hfirst : n.first i = some (t.request, o) := by
            simp [Server.first, ht, hanswers]
          exact first_put ⟨_, n.tickets⟩ i _ (hfirst.symm ▸ rfl)
  | @respond i t ht hall hopen =>
      refine ⟨lin, h.keep (first_put n i _ ?_) rfl (by simp)⟩
      simp [Server.first, ht]

end Tracks

/-- Every execution can be tracked. -/
theorem Execution.tracks (hacts : H.ActsFirst M) (h : Execution H M start es n) :
    ∃ lin, Tracks H M start es n lin := by
  induction h with
  | nil =>
      refine ⟨[], by simp, rfl, ?_, by simp, by simp⟩
      intro i
      simp [Server.first]
  | concat hbefore hlast ih =>
      obtain ⟨lin, hlin⟩ := ih
      exact hlin.step hacts (Execution.served hbefore) hlast

/-! ## When an execution is linearizable -/

omit [DecidableEq κ] in
/-- What a linearization explains, a request could have been answered alone. -/
theorem Linearization.response_eq {order : List (κ × ρ)}
    (h : Linearization H M start es n order) {i : κ} {t : Ticket ρ ο}
    (ht : n.tickets i = some t) :
    ∃ s, (H.atomically M).out s t.request = H.respond t.request t.answers := by
  have hmem : (i, t.request) ∈ order := (h.requests i t.request).mpr ⟨t, ht, rfl⟩
  obtain ⟨k, hk⟩ := List.mem_iff_getElem?.mp hmem
  have hresponse := congrArg (fun responses => responses[k]?) h.responses
  simp only [List.getElem?_map, Mealy.getElem?_outputs, hk, Option.map_some,
    Option.some.injEq] at hresponse
  rw [response, ht, Option.map_some, Option.some.injEq] at hresponse
  exact ⟨_, hresponse⟩

omit [DecidableEq κ] in
/-- In a complete execution every handler has begun, and the order of their
first calls lists each request once. -/
theorem Tracks.requests (hacts : H.ActsFirst M) (hserved : Served H es n) (hcomplete : n.Complete)
    {lin : List (κ × ρ)} (h : Tracks H M start es n lin) (i : κ) (r : ρ) :
    (i, r) ∈ lin ↔ ∃ t, n.tickets i = some t ∧ t.request = r := by
  have hrequest : ∀ s, (i, s) ∈ lin → ∃ t, n.tickets i = some t ∧ t.request = s := by
    intro s hs
    obtain ⟨before, after, hsplit⟩ := List.append_of_mem hs
    have hfirst := h.first before i s after hsplit
    obtain ⟨c, cs, hcalls, _⟩ := hacts s
    rw [hcalls, Mealy.outputs_cons, List.head?_cons, Option.map_some, Server.first,
      Option.bind_eq_some_iff] at hfirst
    obtain ⟨t, ht, ho⟩ := hfirst
    obtain ⟨o, _, hpair⟩ := Option.map_eq_some_iff.mp ho
    exact ⟨t, ht, (Prod.mk.inj hpair).1⟩
  constructor
  · exact hrequest r
  · intro hticket
    obtain ⟨t, ht, hr⟩ := hticket
    have hbegun : i ∈ lin.map Prod.fst :=
      (h.begun i).mpr (hserved.first_ne_none hacts ht (hcomplete i t ht))
    obtain ⟨entry, hentry, hi⟩ := List.mem_map.mp hbegun
    obtain ⟨j, s⟩ := entry
    cases hi
    obtain ⟨u, hu, hs⟩ := hrequest s hentry
    rw [ht] at hu
    cases hu
    rwa [← hr, hs]

/-- **Linearizability of handlers that act first.**  Let the response of every
handler with more than one call be the same whenever it runs alone.  Then a
complete execution is linearizable if and only if each of these responses is
one that its request can get alone. -/
theorem linearizable_iff (hacts : H.ActsFirst M)
    (halone : ∀ r, (H.calls r).length = 1 ∨
      ∀ s t, (H.atomically M).out s r = (H.atomically M).out t r)
    (h : Execution H M start es n) (hcomplete : n.Complete) :
    Linearizable H M start es n ↔
      ∀ i t, n.tickets i = some t → (H.calls t.request).length ≠ 1 →
        ∃ s, (H.atomically M).out s t.request = H.respond t.request t.answers := by
  constructor
  · intro hlinearizable i t ht _
    obtain ⟨order, horder⟩ := hlinearizable
    exact horder.response_eq ht
  · intro hresponses
    have hserved := Execution.served h
    obtain ⟨lin, hlin⟩ := Execution.tracks hacts h
    have hrequests := hlin.requests hacts hserved hcomplete
    refine ⟨lin, hlin.nodup, hrequests, ?_, ?_, hlin.object⟩
    · intro i j r hearlier
      apply hlin.realTime i j r _ hearlier
      have hj := ((Execution.recorded h).invoked j r).mp hearlier.mem_right
      exact List.mem_map.mpr ⟨(j, r), (hrequests j r).mpr hj, rfl⟩
    · apply Mealy.map_outputs_eq
      intro before entry after hsplit
      obtain ⟨i, r⟩ := entry
      obtain ⟨t, ht, rfl⟩ := (hrequests i r).mp (by simp [hsplit])
      rw [response, ht, Option.map_some, Option.some.injEq]
      by_cases hsingle : (H.calls t.request).length = 1
      · -- a single call: its answer is the first one
        have hfirst := hlin.first before i t.request after hsplit
        have hlength := hserved.answered i t ht (hcomplete i t ht)
        obtain ⟨c, hcalls⟩ := List.length_eq_one_iff.mp hsingle
        obtain ⟨o, hanswers⟩ := List.length_eq_one_iff.mp (hlength.trans hsingle)
        have ho : o = M.out ((H.atomically M).run start (before.map Prod.snd)) c := by
          simpa [Server.first, ht, hanswers, hcalls] using hfirst
        rw [Handlers.atomically_out, hcalls, hanswers, ho]
        rfl
      · obtain ⟨s, hs⟩ := hresponses i t ht hsingle
        exact ((halone t.request).resolve_left hsingle _ s).trans hs

end Server
