import RvcControl.BodyReading

/-!
# Whitespace in request bodies

The parsers see whitespace between the tokens of a body.  `parseBool` looks
eight positions ahead of the colon, `parseString` wants the quote of the value
directly behind the colon, and all of them want the colon directly behind the
name and go past a member that has a gap there.  `layout_irrelevant_iff` says
for which bodies that does not show: there the values are those of the body
without whitespace.

The bodies are any flat objects; names may repeat, and a name that only ends in
a quoted key is taken for the key.  For the requests of a client with each name
at most once the condition is simpler (`harmless_iff_layout`).
-/

namespace RvcControl

open TextSearch

def sensorKeys : List String :=
  ["front_blocked", "left_blocked", "right_blocked", "dust_detected"]

def requestKeys : List String := "turn_strategy" :: "timer_advance_ms" :: sensorKeys

/-- The bodies of requests: the members the server knows have values of their
types, and each is there at most once. -/
structure FlatBody.IsRequest (b : FlatBody) : Prop where
  once : ∀ key ∈ requestKeys, Once key b.members
  sensors : ∀ key ∈ sensorKeys, ∀ m ∈ b.members, m.name.EndsIn key →
    m.value.bool?.isSome = true
  turnStrategy : ∀ m ∈ b.members, m.name.EndsIn "turn_strategy" → m.value.string?.isSome = true
  timerAdvance : ∀ m ∈ b.members, m.name.EndsIn "timer_advance_ms" →
    ∃ n, m.value.int? = some n ∧ InInt32 n

/-! ## Without whitespace -/

section Compact

/-- Without whitespace the first member of a name is seen. -/
theorem seenMember?_compact (key : String) (ms : List Member) :
    seenMember? key (ms.map Member.compact) =
      (namedMember? key ms).map fun found => (found.1.compact, found.2.map Member.compact) :=
  firstOf?_map (p := fun m : Member => m.name.EndsIn key)
    (r := fun m : Member => m.name.EndsIn key ∧ m.beforeColon.text = []) (f := Member.compact)
    (fun _ => and_iff_left rfl) ms

theorem seenString?_compact (key : String) (ms : List Member) :
    seenString? key (ms.map Member.compact) =
      (stringMember? key ms).map fun found => (found.1.compact, found.2.map Member.compact) :=
  firstOf?_map (p := fun m : Member => m.name.EndsIn key ∧ m.value.string?.isSome = true)
    (r := fun m : Member => (m.name.EndsIn key ∧ m.value.string?.isSome = true) ∧
      m.beforeColon.text = [] ∧ m.afterColon.text = []) (f := Member.compact)
    (fun _ => and_iff_left ⟨rfl, rfl⟩) ms

end Compact

/-! ## One member -/

/-- The name of the next member begins with `true`. -/
def FollowedByTrue (after : List Member) : Prop :=
  ∃ next ∈ after.head?, trueWord <+: next.name.text

/-- What `parseBool` reads of a member without whitespace. -/
def Member.SaysTrue (m : Member) (after : List Member) : Prop :=
  m.compact.TrueAhead .empty (after.map Member.compact)

/-- What it reads of the member it sees, if it sees one. -/
def SeenTrue (key : String) (tail : Gap) (ms : List Member) : Prop :=
  ∃ m after, seenMember? key ms = some (m, after) ∧ m.TrueAhead tail after

/-- Without whitespace only the name behind the value counts. -/
theorem beginsWithTrue_compact (after : List Member) :
    BeginsWithTrue (after.map Member.compact) ↔ FollowedByTrue after := by
  cases after with
  | nil => simp [BeginsWithTrue, FollowedByTrue]
  | cons next after => simp [BeginsWithTrue, FollowedByTrue, Member.compact]

/-- A boolean says `true` if it is, or by the name behind it. -/
theorem saysTrue_iff {m : Member} {v : Bool} (hvalue : m.value.bool? = some v)
    (after : List Member) : m.SaysTrue after ↔ v = true ∨ FollowedByTrue after := by
  have hcompact : m.compact.value.bool? = some v := hvalue
  cases v with
  | true =>
      rw [Member.SaysTrue, Member.TrueAhead, within_true hcompact]
      simp [Member.compact]
  | false =>
      rw [Member.SaysTrue, Member.TrueAhead, within_false hcompact, beginsWithTrue_compact]
      simp [Member.compact]

/-- The whitespace that `parseBool` does not see around the first member that is
taken for a sensor. -/
structure SensorHarmless (key : String) (tail : Gap) (m : Member) (after : List Member) :
    Prop where
  /-- A `true` has at most seven characters behind its colon. -/
  near : m.beforeColon.text = [] → m.value.bool? = some true → m.afterColon.text.length ≤ 7
  /-- A `false` that is read as `true` anyway has none around it. -/
  tight : m.beforeColon.text = [] → m.value.bool? = some false →
    ∀ next ∈ after.head?, trueWord <+: next.name.text →
      m.afterColon.text = [] ∧ m.trail.text = [] ∧ next.lead.text = []
  /-- What is no boolean can stand only behind a name that ends in the key. -/
  other : m.beforeColon.text = [] → m.value.bool? = none →
    (m.TrueAhead tail after ↔ m.SaysTrue after)
  /-- A gap before the colon hides the member, and one behind it is read. -/
  hidden : m.beforeColon.text ≠ [] → (SeenTrue key tail after ↔ m.SaysTrue after)

/-- What the parser reads at a member, or behind it. -/
def Member.ReadTrue (key : String) (tail : Gap) (m : Member) (after : List Member) : Prop :=
  if m.beforeColon.text = [] then m.TrueAhead tail after else SeenTrue key tail after

/-- What is read of the sensor is what is read at the first member of its name. -/
theorem seenTrue_iff (key : String) (tail : Gap) (ms : List Member) :
    SeenTrue key tail ms ↔
      ∃ m after, namedMember? key ms = some (m, after) ∧ m.ReadTrue key tail after := by
  rw [SeenTrue, seenMember?_eq]
  cases namedMember? key ms with
  | none => simp
  | some found =>
      obtain ⟨m, after⟩ := found
      rw [Option.bind_some, exists_found_iff, Member.ReadTrue]
      split
      · exact exists_found_iff
      · exact Iff.rfl

section Harmless

variable {key : String} {tail : Gap} {m : Member} {after : List Member}

/-- A member that goes on with `true` goes on with such a name. -/
theorem BeginsWithTrue.followed (h : BeginsWithTrue after) : FollowedByTrue after := by
  obtain ⟨next, hnext, _, hname⟩ := h
  exact ⟨next, hnext, hname⟩

/-- For a `true` that is seen only the distance from its colon counts. -/
theorem sensorHarmless_of_true (htight : m.beforeColon.text = [])
    (hvalue : m.value.bool? = some true) :
    SensorHarmless key tail m after ↔ m.afterColon.text.length ≤ 7 := by
  constructor
  · intro h
    exact h.near htight hvalue
  · intro h
    refine ⟨fun _ _ => h, ?_, ?_, fun hgap => absurd htight hgap⟩
    · intro _ hfalse
      rw [hvalue] at hfalse
      cases hfalse
    · intro _ hnone
      rw [hvalue] at hnone
      cases hnone

/-- For a `false` that is seen only a name with `true` behind it counts. -/
theorem sensorHarmless_of_false (htight : m.beforeColon.text = [])
    (hvalue : m.value.bool? = some false) :
    SensorHarmless key tail m after ↔ (FollowedByTrue after →
      m.afterColon.text = [] ∧ m.trail.text = [] ∧ BeginsWithTrue after) := by
  constructor
  · intro h hfollowed
    obtain ⟨next, hnext, hname⟩ := hfollowed
    obtain ⟨hafter, htrail, hlead⟩ := h.tight htight hvalue next hnext hname
    exact ⟨hafter, htrail, next, hnext, hlead, hname⟩
  · intro h
    refine ⟨?_, ?_, ?_, fun hgap => absurd htight hgap⟩
    · intro _ htrue
      rw [hvalue] at htrue
      cases htrue
    · intro _ _ next hnext hname
      obtain ⟨hafter, htrail, next', hnext', hlead, _⟩ := h ⟨next, hnext, hname⟩
      cases Option.mem_unique hnext hnext'
      exact ⟨hafter, htrail, hlead⟩
    · intro _ hnone
      rw [hvalue] at hnone
      cases hnone

/-- For any other value that is seen, what the look-ahead finds counts. -/
theorem sensorHarmless_of_other (htight : m.beforeColon.text = [])
    (hvalue : m.value.bool? = none) :
    SensorHarmless key tail m after ↔ (m.TrueAhead tail after ↔ m.SaysTrue after) := by
  constructor
  · intro h
    exact h.other htight hvalue
  · intro h
    refine ⟨?_, ?_, fun _ _ => h, fun hgap => absurd htight hgap⟩
    · intro _ htrue
      rw [hvalue] at htrue
      cases htrue
    · intro _ hfalse
      rw [hvalue] at hfalse
      cases hfalse

/-- For a member that is not seen, what is seen in its place counts. -/
theorem sensorHarmless_of_hidden (hgap : m.beforeColon.text ≠ []) :
    SensorHarmless key tail m after ↔ (SeenTrue key tail after ↔ m.SaysTrue after) := by
  constructor
  · intro h
    exact h.hidden hgap
  · intro h
    exact ⟨fun htight => absurd htight hgap, fun htight => absurd htight hgap,
      fun htight => absurd htight hgap, fun _ => h⟩

/-- What `parseBool` reads from a member is not changed by whitespace. -/
theorem sensorHarmless_iff :
    (m.ReadTrue key tail after ↔ m.SaysTrue after) ↔ SensorHarmless key tail m after := by
  rw [Member.ReadTrue]
  by_cases htight : m.beforeColon.text = []
  · rw [if_pos htight]
    cases hvalue : m.value.bool? with
    | none => exact (sensorHarmless_of_other htight hvalue).symm
    | some v =>
        rw [saysTrue_iff hvalue]
        cases v with
        | true =>
            rw [sensorHarmless_of_true htight hvalue, Member.TrueAhead, within_true hvalue]
            simp
        | false =>
            rw [sensorHarmless_of_false htight hvalue, Member.TrueAhead, within_false hvalue]
            constructor
            · intro h hfollowed
              exact h.mpr (Or.inr hfollowed)
            · intro h
              constructor
              · intro hreads
                exact Or.inr hreads.2.2.followed
              · intro hreads
                exact h (hreads.resolve_left Bool.false_ne_true)
  · rw [if_neg htight]
    exact (sensorHarmless_of_hidden htight).symm

end Harmless

/-! ## The three parsers -/

/-- The strategy that is read from some members. -/
def seenStrategy (ms : List Member) : String :=
  ((seenString? "turn_strategy" ms).map fun found => found.1.value.stringText).getD "prefer_left"

/-- The time that is read from some members. -/
def seenTime (ms : List Member) : Int :=
  ((seenMember? "timer_advance_ms" ms).map fun found => found.1.value.readInt).getD 0

/-- The bodies in which whitespace does not show.  A strategy or a time that is
hidden by its whitespace must be what is read in its place. -/
structure FlatBody.Harmless (b : FlatBody) : Prop where
  sensors : ∀ key ∈ sensorKeys, ∀ m after, namedMember? key b.members = some (m, after) →
    SensorHarmless key b.tail m after
  turnStrategy : ∀ m after, stringMember? "turn_strategy" b.members = some (m, after) →
    (m.beforeColon.text = [] ∧ m.afterColon.text = []) ∨ seenStrategy after = m.value.stringText
  timerAdvance : ∀ m after, namedMember? "timer_advance_ms" b.members = some (m, after) →
    m.beforeColon.text = [] ∨ seenTime after = m.value.readInt

section Parsers

variable (b : FlatBody)

theorem sensorKeys_isKey : ∀ key ∈ sensorKeys, IsKey key := by decide

/-- No key has a `true` in it. -/
theorem sensorKeys_noTrue : ∀ key ∈ sensorKeys, ¬ "true".toList <:+: keyPattern key := by decide

/-- `parseBool` reads the member it sees. -/
theorem parseBool_sensor {key : String} (hkey : key ∈ sensorKeys) :
    parseBool b.body key = true ↔ SeenTrue key b.tail b.members :=
  parseBool_body (sensorKeys_isKey key hkey) (sensorKeys_noTrue key hkey) b

/-- Without whitespace `parseBool` reads the first member of a name. -/
theorem parseBool_compact {key : String} (hkey : key ∈ sensorKeys) :
    parseBool b.compact.body key = true ↔
      ∃ m after, namedMember? key b.members = some (m, after) ∧ m.SaysTrue after := by
  rw [parseBool_sensor b.compact hkey, SeenTrue, FlatBody.compact, seenMember?_compact]
  cases namedMember? key b.members with
  | none => simp
  | some found =>
      obtain ⟨m, after⟩ := found
      rw [Option.map_some, exists_found_iff, exists_found_iff]
      exact Iff.rfl

/-- Whitespace does not show in a sensor exactly if it is harmless around the
first member of its name. -/
theorem parseBool_compact_iff {key : String} (hkey : key ∈ sensorKeys) :
    parseBool b.body key = parseBool b.compact.body key ↔
      ∀ m after, namedMember? key b.members = some (m, after) →
        SensorHarmless key b.tail m after := by
  rw [Bool.eq_iff_iff, parseBool_sensor b hkey, parseBool_compact b hkey, seenTrue_iff]
  cases namedMember? key b.members with
  | none => simp
  | some found =>
      obtain ⟨m, after⟩ := found
      rw [exists_found_iff, exists_found_iff, forall_found_iff]
      exact sensorHarmless_iff

/-- `parseString` reads the first string it sees. -/
theorem parseString_strategy :
    parseString b.body "turn_strategy" "prefer_left" = seenStrategy b.members :=
  parseString_body (by decide) b "prefer_left"

/-- Without whitespace `parseString` reads the first string of the name. -/
theorem parseString_compact :
    parseString b.compact.body "turn_strategy" "prefer_left" =
      ((stringMember? "turn_strategy" b.members).map fun found =>
        found.1.value.stringText).getD "prefer_left" := by
  rw [parseString_strategy, seenStrategy, FlatBody.compact, seenString?_compact, Option.map_map]
  rfl

/-- Whitespace does not show in the strategy exactly if it does not hide one
that says something else. -/
theorem parseString_compact_iff :
    parseString b.body "turn_strategy" "prefer_left" =
        parseString b.compact.body "turn_strategy" "prefer_left" ↔
      ∀ m after, stringMember? "turn_strategy" b.members = some (m, after) →
        (m.beforeColon.text = [] ∧ m.afterColon.text = []) ∨
          seenStrategy after = m.value.stringText := by
  rw [parseString_strategy, parseString_compact, seenStrategy, seenString?_eq]
  cases stringMember? "turn_strategy" b.members with
  | none => simp
  | some found =>
      obtain ⟨m, after⟩ := found
      rw [forall_found_iff, Option.bind_some, Option.map_some, Option.getD_some]
      by_cases htight : m.beforeColon.text = [] ∧ m.afterColon.text = []
      · rw [if_pos htight]
        exact iff_of_true rfl (Or.inl htight)
      · rw [if_neg htight]
        exact (or_iff_right htight).symm

/-- `parseInt` reads the member it sees. -/
theorem parseInt_time : parseInt b.body "timer_advance_ms" 0 = seenTime b.members :=
  parseInt_body (by decide) b

/-- Without whitespace `parseInt` reads the first member of the name. -/
theorem parseInt_compact :
    parseInt b.compact.body "timer_advance_ms" 0 =
      ((namedMember? "timer_advance_ms" b.members).map fun found =>
        found.1.value.readInt).getD 0 := by
  rw [parseInt_time, seenTime, FlatBody.compact, seenMember?_compact, Option.map_map]
  rfl

/-- Whitespace does not show in the time exactly if it does not hide one that
says something else. -/
theorem parseInt_compact_iff :
    parseInt b.body "timer_advance_ms" 0 = parseInt b.compact.body "timer_advance_ms" 0 ↔
      ∀ m after, namedMember? "timer_advance_ms" b.members = some (m, after) →
        m.beforeColon.text = [] ∨ seenTime after = m.value.readInt := by
  rw [parseInt_time, parseInt_compact, seenTime, seenMember?_eq]
  cases namedMember? "timer_advance_ms" b.members with
  | none => simp
  | some found =>
      obtain ⟨m, after⟩ := found
      rw [forall_found_iff, Option.bind_some, Option.map_some, Option.getD_some]
      by_cases htight : m.beforeColon.text = []
      · rw [if_pos htight]
        exact iff_of_true rfl (Or.inl htight)
      · rw [if_neg htight]
        exact (or_iff_right htight).symm

end Parsers

/-! ## Requests -/

/-- The whitespace `parseBool` tolerates in a request: behind the colon of a
`true` up to seven characters, and none around a `false` that only the
look-ahead reads as `true` anyway. -/
structure SensorLayout (m : Member) (after : List Member) : Prop where
  true_tight : m.value.bool? = some true →
    m.beforeColon.text = [] ∧ m.afterColon.text.length ≤ 7
  false_tight : m.value.bool? = some false → ∀ next ∈ after.head?, trueWord <+: next.name.text →
    m.beforeColon.text = [] ∧ m.afterColon.text = [] ∧ m.trail.text = [] ∧ next.lead.text = []

/-- The layouts of requests in which whitespace does not show. -/
structure FlatBody.Layout (b : FlatBody) : Prop where
  sensors : ∀ key ∈ sensorKeys, ∀ m after, namedMember? key b.members = some (m, after) →
    SensorLayout m after
  turnStrategy : ∀ m after, namedMember? "turn_strategy" b.members = some (m, after) →
    m.value.string?.map RawString.text ≠ some "prefer_left".toList →
      m.beforeColon.text = [] ∧ m.afterColon.text = []
  timerAdvance : ∀ m after, namedMember? "timer_advance_ms" b.members = some (m, after) →
    m.value.int? ≠ some 0 → m.beforeColon.text = []

section Requests

variable {b : FlatBody}

/-- Where nothing else is taken for the sensor, its whitespace must not hide it. -/
theorem sensorHarmless_iff_layout {key : String} {tail : Gap} {m : Member} {after : List Member}
    (hvalue : m.value.bool?.isSome = true) (hlast : seenMember? key after = none) :
    SensorHarmless key tail m after ↔ SensorLayout m after := by
  have hunseen : ¬ SeenTrue key tail after := by
    rintro ⟨m', after', hseen, _⟩
    rw [hlast] at hseen
    cases hseen
  obtain ⟨v, hv⟩ := Option.isSome_iff_exists.mp hvalue
  constructor
  · intro h
    have htight : v = true ∨ FollowedByTrue after → m.beforeColon.text = [] := by
      intro hsays
      by_contra hgap
      exact hunseen ((h.hidden hgap).mpr ((saysTrue_iff hv after).mpr hsays))
    refine ⟨?_, ?_⟩
    · intro htrue
      have hbefore := htight (Or.inl (Option.some.inj (hv.symm.trans htrue)))
      exact ⟨hbefore, h.near hbefore htrue⟩
    · intro hfalse next hnext hname
      have hbefore := htight (Or.inr ⟨next, hnext, hname⟩)
      exact ⟨hbefore, h.tight hbefore hfalse next hnext hname⟩
  · intro h
    refine ⟨fun _ htrue => (h.true_tight htrue).2, ?_, ?_, ?_⟩
    · intro _ hfalse next hnext hname
      exact (h.false_tight hfalse next hnext hname).2
    · intro _ hnone
      rw [hv] at hnone
      cases hnone
    · intro hgap
      refine iff_of_false hunseen fun hsays => ?_
      rcases (saysTrue_iff hv after).mp hsays with rfl | ⟨next, hnext, hname⟩
      · exact hgap (h.true_tight hv).1
      · cases v with
        | true => exact hgap (h.true_tight hv).1
        | false => exact hgap (h.false_tight hv next hnext hname).1

/-- A raw string is cut at an escaped quote, so it reads as a text without
quotes and escapes only if it is that text. -/
theorem takeWhile_quote_eq_iff (raw : RawString) {w : List Char} (hquote : '"' ∉ w)
    (hescape : '\\' ∉ w) : raw.text.takeWhile (· ≠ '"') = w ↔ raw.text = w := by
  by_cases hmem : '"' ∈ raw.text
  · obtain ⟨u, v, huv, hu⟩ := List.eq_append_cons_of_mem hmem
    obtain ⟨x, rfl⟩ := raw.escaped.before_quote huv
    constructor
    · intro h
      rw [huv, takeWhile_ne_append hu] at h
      exact absurd (h ▸ List.mem_append_right x List.mem_cons_self) hescape
    · intro h
      exact absurd (h ▸ hmem) hquote
  · rw [takeWhile_ne_self hmem]

/-- The strategy is the default only if it says so. -/
theorem stringText_eq_default {value : Scalar} (hvalue : value.string?.isSome = true) :
    value.stringText = "prefer_left" ↔
      value.string?.map RawString.text = some "prefer_left".toList := by
  obtain ⟨raw, hraw⟩ := Option.isSome_iff_exists.mp hvalue
  rw [hraw, Scalar.eq_of_string? hraw, Scalar.stringText, Option.map_some, Option.some.injEq,
    ← String.toList_inj, String.toList_ofList,
    takeWhile_quote_eq_iff raw (by decide) (by decide)]

/-- **For requests** with each name at most once, whitespace does not show if
nothing that says more than the default is hidden by it. -/
theorem harmless_iff_layout (h : b.IsRequest) : b.Harmless ↔ b.Layout := by
  have hsensors : ∀ key ∈ sensorKeys, ∀ m after,
      namedMember? key b.members = some (m, after) →
        (SensorHarmless key b.tail m after ↔ SensorLayout m after) := by
    intro key hkey m after hfound
    have hrequest : key ∈ requestKeys := List.mem_cons_of_mem _ (List.mem_cons_of_mem _ hkey)
    obtain ⟨hmem, hends⟩ := namedMember?_endsIn hfound
    exact sensorHarmless_iff_layout (h.sensors key hkey m hmem hends)
      ((h.once key hrequest).seenMember?_after hfound)
  have hstring : stringMember? "turn_strategy" b.members =
      namedMember? "turn_strategy" b.members := by
    rw [stringMember?_eq]
    cases hfound : namedMember? "turn_strategy" b.members with
    | none => rfl
    | some found =>
        obtain ⟨m, after⟩ := found
        obtain ⟨hmem, hends⟩ := namedMember?_endsIn hfound
        rw [Option.bind_some, if_pos (h.turnStrategy m hmem hends)]
  have hstrategy : ∀ m after, namedMember? "turn_strategy" b.members = some (m, after) →
      ((m.beforeColon.text = [] ∧ m.afterColon.text = []) ∨
          seenStrategy after = m.value.stringText ↔
        (m.value.string?.map RawString.text ≠ some "prefer_left".toList →
          m.beforeColon.text = [] ∧ m.afterColon.text = [])) := by
    intro m after hfound
    obtain ⟨hmem, hends⟩ := namedMember?_endsIn hfound
    have hlast := (h.once _ (by decide)).seenString?_after hfound
    have hseen : seenStrategy after = "prefer_left" := by
      rw [seenStrategy, hlast]
      rfl
    rw [hseen, eq_comm (a := "prefer_left"),
      stringText_eq_default (h.turnStrategy m hmem hends), or_iff_not_imp_right]
  have htime : ∀ m after, namedMember? "timer_advance_ms" b.members = some (m, after) →
      (m.beforeColon.text = [] ∨ seenTime after = m.value.readInt ↔
        (m.value.int? ≠ some 0 → m.beforeColon.text = [])) := by
    intro m after hfound
    obtain ⟨hmem, hends⟩ := namedMember?_endsIn hfound
    have hlast := (h.once _ (by decide)).seenMember?_after hfound
    have hseen : seenTime after = 0 := by
      rw [seenTime, hlast]
      rfl
    obtain ⟨n, hn, hint⟩ := h.timerAdvance m hmem hends
    rw [hseen, Scalar.readInt_of_int? hn hint, hn, or_iff_not_imp_right, eq_comm (a := (0 : Int)),
      ne_eq, Option.some.injEq]
  constructor
  · intro hharmless
    refine ⟨?_, ?_, ?_⟩
    · intro key hkey m after hfound
      exact (hsensors key hkey m after hfound).mp (hharmless.sensors key hkey m after hfound)
    · intro m after hfound
      exact (hstrategy m after hfound).mp (hharmless.turnStrategy m after (hstring.trans hfound))
    · intro m after hfound
      exact (htime m after hfound).mp (hharmless.timerAdvance m after hfound)
  · intro hlayout
    refine ⟨?_, ?_, ?_⟩
    · intro key hkey m after hfound
      exact (hsensors key hkey m after hfound).mpr (hlayout.sensors key hkey m after hfound)
    · intro m after hfound
      rw [hstring] at hfound
      exact (hstrategy m after hfound).mpr (hlayout.turnStrategy m after hfound)
    · intro m after hfound
      exact (htime m after hfound).mpr (hlayout.timerAdvance m after hfound)

end Requests

/-! ## Whole requests -/

/-- Snapshots are read alike if their four sensors are. -/
theorem sensorSnapshot_eq_iff (body body' : String) :
    parseSensors body = parseSensors body' ↔
      ∀ key ∈ sensorKeys, parseBool body key = parseBool body' key := by
  simp [parseSensors, sensorKeys]

/-- A name that ends in the quoted key is read for it, unless a gap hides it. -/
example :
    parseBool "\x7b\"x\\\"front_blocked\" :true,\"front_blocked\":false\x7d" "front_blocked" = false ∧
      parseBool "\x7b\"x\\\"front_blocked\":true,\"front_blocked\":false\x7d" "front_blocked" =
        true := by
  decide

end RvcControl
