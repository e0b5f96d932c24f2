import RvcControl.BodyLayout

/-!
# The meaning of request bodies

`JSON.stringify` writes the object of a request without whitespace.  The
parsers then read what the object says, but for one case: `parseBool` looks
eight positions ahead, and behind a `false` these reach the name of the next
member.  A sensor that is `false` is read as `true` if that name begins with
`true` (`request_read_iff`).
-/

namespace RvcControl

open Json (Value PlainText)

/-! ## Request objects -/

/-- The values a flat object has: no lists and objects, plain strings, numbers
of type `int`. -/
def IsFlat : Value → Prop
  | .bool _ => True
  | .string s => PlainText s
  | .number mantissa exponent => exponent = 0 ∧ InInt32 mantissa
  | _ => False

instance (v : Value) : Decidable (IsFlat v) :=
  match v with
  | .bool _ => inferInstanceAs (Decidable True)
  | .string s => inferInstanceAs (Decidable (PlainText s))
  | .number mantissa exponent => inferInstanceAs (Decidable (exponent = 0 ∧ InInt32 mantissa))
  | .null => inferInstanceAs (Decidable False)
  | .array _ => inferInstanceAs (Decidable False)
  | .object _ => inferInstanceAs (Decidable False)

/-- The object of a request; members the server does not know are welcome. -/
structure RequestObject where
  members : List (String × Value)
  distinct : (members.map Prod.fst).Nodup
  names : ∀ m ∈ members, PlainText m.1
  values : ∀ m ∈ members, IsFlat m.2
  sensors : ∀ key ∈ sensorKeys, ∀ v, (key, v) ∈ members → ∃ b, v = .bool b
  turnStrategy : ∀ v, ("turn_strategy", v) ∈ members → ∃ s, v = .string s
  timerAdvance : ∀ v, ("timer_advance_ms", v) ∈ members → ∃ n, v = .int n

namespace RequestObject

def value (o : RequestObject) : Value := .object o.members

/-- The body a client sends. -/
def body (o : RequestObject) : String := String.ofList (Json.print o.value)

/-- What the object says of a sensor; it is `false` if it is not there. -/
def sensor (o : RequestObject) (key : String) : Bool :=
  ((o.value.member? key).bind Value.bool?).getD false

def sensorSnapshot (o : RequestObject) : SensorSnapshot where
  frontBlocked := o.sensor "front_blocked"
  leftBlocked := o.sensor "left_blocked"
  rightBlocked := o.sensor "right_blocked"
  dustDetected := o.sensor "dust_detected"

def timerAdvanceMs (o : RequestObject) : Int :=
  ((o.value.member? "timer_advance_ms").bind Value.int?).getD 0

def turnStrategyText (o : RequestObject) : String :=
  ((o.value.member? "turn_strategy").bind Value.string?).getD "prefer_left"

end RequestObject

/-! ## The object as a flat body -/

def rawOf (s : String) : RawString :=
  if h : PlainText s then .ofText s h else ⟨[], .nil⟩

def wordOf (s : List Char) : Word :=
  if h : s.all isWordChar = true then .ofText s h else .ofText [] rfl

def scalarOf : Value → Scalar
  | .string s => .string (rawOf s)
  | v => .bare (wordOf (Json.print v))

/-- A member without whitespace. -/
def memberOf (m : String × Value) : Member where
  lead := .empty
  name := rawOf m.1
  beforeColon := .empty
  afterColon := .empty
  value := scalarOf m.2
  trail := .empty

def RequestObject.flat (o : RequestObject) : FlatBody where
  lead := .empty
  inner := .empty
  members := o.members.map memberOf
  tail := .empty

section Texts

/-- A plain text needs no escapes. -/
theorem rawOf_text {s : String} (h : PlainText s) : (rawOf s).text = s.toList := by
  rw [rawOf, dif_pos h]
  rfl

/-- A word is its characters. -/
theorem wordOf_text {s : List Char} (h : ∀ c ∈ s, isWordChar c = true) : (wordOf s).text = s := by
  rw [wordOf, dif_pos (List.all_eq_true.mpr h)]
  rfl

/-- Integers are written with word characters. -/
theorem isWordChar_repr (n : Int) : ∀ c ∈ n.repr.toList, isWordChar c = true := by
  intro c hc
  rw [Json.toList_repr] at hc
  rcases List.mem_append.mp hc with hminus | hdigit
  · split at hminus
    · cases List.mem_singleton.mp hminus
      rfl
    · cases hminus
  · simp [isWordChar, Char.isAlphanum, Json.digits_isDigit _ c hdigit]

/-- An integer is printed in decimal. -/
theorem print_int (n : Int) : Json.print (.number n 0) = n.repr.toList := by
  simp [Json.print, Json.exponentText]

/-- A flat value is written as it is printed. -/
theorem scalarOf_text {v : Value} (h : IsFlat v) : (scalarOf v).text = Json.print v := by
  cases v with
  | bool b => cases b <;> rfl
  | string s =>
      rw [scalarOf, Scalar.text, RawString.quoted, rawOf_text h]
      rfl
  | number mantissa exponent =>
      obtain ⟨rfl, _⟩ := h
      exact wordOf_text (by rw [print_int]; exact isWordChar_repr mantissa)
  | null => exact absurd h id
  | array elements => exact absurd h id
  | object members => exact absurd h id

theorem memberOf_text {m : String × Value} (hname : PlainText m.1) (hvalue : IsFlat m.2) :
    (memberOf m).text = Json.quoted m.1 ++ ':' :: Json.print m.2 := by
  simp [Member.text, memberOf, Member.valueText, RawString.quoted, rawOf_text hname,
    scalarOf_text hvalue, Json.quoted]

theorem membersText_memberOf {ms : List (String × Value)} (hnames : ∀ m ∈ ms, PlainText m.1)
    (hvalues : ∀ m ∈ ms, IsFlat m.2) :
    membersText .empty (ms.map memberOf) =
      (Json.printMembers ms).flatMap (',' :: ·) ++ ['\x7d'] := by
  induction ms with
  | nil => rfl
  | cons m ms ih =>
      have hrest := ih (fun m' hm' => hnames m' (List.mem_cons_of_mem m hm'))
        (fun m' hm' => hvalues m' (List.mem_cons_of_mem m hm'))
      rw [List.map_cons, membersText, hrest,
        memberOf_text (hnames m List.mem_cons_self) (hvalues m List.mem_cons_self)]
      simp [Json.printMembers]

/-- The flat body of an object is its text. -/
theorem RequestObject.flat_body (o : RequestObject) : o.flat.body = o.body := by
  obtain ⟨members, _, names, values, _, _, _⟩ := o
  apply congrArg String.ofList
  show FlatBody.text ⟨.empty, .empty, members.map memberOf, .empty⟩ = Json.print (.object members)
  cases members with
  | nil => rfl
  | cons m ms =>
      have hms := membersText_memberOf (fun m' hm' => names m' (List.mem_cons_of_mem m hm'))
        (fun m' hm' => values m' (List.mem_cons_of_mem m hm'))
      have hm := memberOf_text (names m List.mem_cons_self) (values m List.mem_cons_self)
      rw [Json.print, Json.printMembers, Json.commaJoin_cons]
      simp [FlatBody.text, hms, hm]

/-- `JSON.stringify` writes no whitespace. -/
theorem RequestObject.flat_compact (o : RequestObject) : o.flat.compact = o.flat := by
  simp only [FlatBody.compact, flat, List.map_map]
  rfl

end Texts

/-! ## Its members -/

section Members

/-- The boolean that was written is read. -/
theorem bool?_scalarOf (b : Bool) : (scalarOf (.bool b)).bool? = some b := by
  cases b <;> rfl

/-- The integer that was written is read. -/
theorem int?_scalarOf (n : Int) : (scalarOf (.int n)).int? = some n := by
  have htext : (wordOf (Json.print (.int n))).text = n.repr.toList := by
    rw [Value.int, print_int]
    exact wordOf_text (isWordChar_repr n)
  have hsign := Json.readSign_repr n []
  rw [List.append_nil, List.append_nil] at hsign
  show Scalar.int? (.bare (wordOf (Json.print (.int n)))) = some n
  simp only [Scalar.int?, htext, hsign]
  rw [if_pos ⟨Nat.toDigits_ne_nil, List.all_eq_true.mpr (Json.digits_isDigit n.natAbs)⟩,
    Nat.ofDigitChars_ten_toDigits, Json.signed_natAbs]

/-- A plain name is taken for a key only if it is the key. -/
theorem endsIn_rawOf {key name : String} (h : PlainText name) :
    (rawOf name).EndsIn key ↔ name = key := by
  rw [RawString.EndsIn, rawOf_text h]
  constructor
  · intro hsuffix
    obtain ⟨before, hbefore⟩ := hsuffix
    cases before with
    | nil => exact (String.toList_inj.mp (List.tail_eq_of_cons_eq hbefore)).symm
    | cons c before =>
        have hname : name.toList = before ++ '"' :: key.toList :=
          (List.tail_eq_of_cons_eq hbefore).symm
        have hquote : '"' ∈ name.toList := by
          rw [hname]
          exact List.mem_append_right before List.mem_cons_self
        exact absurd rfl (h '"' hquote).1
  · intro hname
    rw [hname]

variable {o : RequestObject} {key : String} {v : Value}
  {before rest : List (String × Value)}

/-- No name stands twice in a request object. -/
theorem RequestObject.once (o : RequestObject) (key : String) : Once key o.flat.members := by
  apply List.pairwise_map.mpr
  have hdistinct : o.members.Pairwise fun a b => a.1 ≠ b.1 := List.pairwise_map.mp o.distinct
  refine hdistinct.imp_of_mem ?_
  intro a b ha hb hne hboth
  have hfirst := (endsIn_rawOf (o.names a ha)).mp hboth.1
  have hsecond := (endsIn_rawOf (o.names b hb)).mp hboth.2
  exact hne (hfirst.trans hsecond.symm)

/-- A name that ends in a key is that key. -/
theorem RequestObject.member_of_endsIn {m : Member} (hmem : m ∈ o.flat.members)
    (hends : m.name.EndsIn key) : ∃ v, (key, v) ∈ o.members ∧ m = memberOf (key, v) := by
  obtain ⟨⟨name, v⟩, hv, rfl⟩ := List.mem_map.mp hmem
  obtain rfl := (endsIn_rawOf (o.names _ hv)).mp hends
  exact ⟨v, hv, rfl⟩

/-- The body of a request object is that of a request. -/
theorem RequestObject.flat_isRequest (o : RequestObject) : o.flat.IsRequest where
  once key _ := o.once key
  sensors := by
    intro key hkey m hmem hends
    obtain ⟨v, hv, rfl⟩ := member_of_endsIn hmem hends
    obtain ⟨b, rfl⟩ := o.sensors key hkey v hv
    exact Option.isSome_iff_exists.mpr ⟨b, bool?_scalarOf b⟩
  turnStrategy := by
    intro m hmem hends
    obtain ⟨v, hv, rfl⟩ := member_of_endsIn hmem hends
    obtain ⟨s, rfl⟩ := o.turnStrategy v hv
    exact Option.isSome_iff_exists.mpr ⟨rawOf s, rfl⟩
  timerAdvance := by
    intro m hmem hends
    obtain ⟨v, hv, rfl⟩ := member_of_endsIn hmem hends
    obtain ⟨n, rfl⟩ := o.timerAdvance v hv
    exact ⟨n, int?_scalarOf n, (o.values _ hv).2⟩

/-- The search finds the member of the name. -/
theorem namedMember?_memberOf (hnames : ∀ m ∈ before, PlainText m.1 ∧ m.1 ≠ key)
    (hkey : PlainText key) :
    namedMember? key ((before ++ (key, v) :: rest).map memberOf) =
      some (memberOf (key, v), rest.map memberOf) := by
  induction before with
  | nil =>
      have hends : (memberOf (key, v)).name.EndsIn key := (endsIn_rawOf hkey).mpr rfl
      rw [List.nil_append, List.map_cons, namedMember?, TextSearch.firstOf?, if_pos hends]
  | cons m before ih =>
      obtain ⟨hplain, hne⟩ := hnames m List.mem_cons_self
      have hends : ¬ (memberOf m).name.EndsIn key := fun h => hne ((endsIn_rawOf hplain).mp h)
      rw [List.cons_append, List.map_cons, namedMember?, TextSearch.firstOf?, if_neg hends]
      exact ih fun m' hm' => hnames m' (List.mem_cons_of_mem m hm')

/-- The lookup finds the value of the name. -/
theorem lookup_append_cons (hnames : ∀ m ∈ before, m.1 ≠ key) :
    (before ++ (key, v) :: rest).lookup key = some v := by
  induction before with
  | nil => simp
  | cons m before ih =>
      have hne : (key == m.1) = false := beq_false_of_ne (hnames m List.mem_cons_self).symm
      rw [List.cons_append, List.lookup_cons, hne]
      exact ih fun m' hm' => hnames m' (List.mem_cons_of_mem m hm')

/-- What is found under a name, as a member of the flat body and as a value. -/
theorem RequestObject.found (hsplit : o.members = before ++ (key, v) :: rest) :
    namedMember? key o.flat.members = some (memberOf (key, v), rest.map memberOf) ∧
      o.value.member? key = some v := by
  have hplain : ∀ m ∈ o.members, PlainText m.1 := o.names
  have hdistinct := o.distinct
  rw [hsplit] at hplain hdistinct
  have hne : ∀ m ∈ before, m.1 ≠ key := by
    intro m hm hkey
    rw [List.map_append, List.nodup_append] at hdistinct
    exact hdistinct.2.2 m.1 (List.mem_map_of_mem hm) key List.mem_cons_self hkey
  refine ⟨?_, ?_⟩
  · rw [flat, hsplit]
    exact namedMember?_memberOf (fun m hm => ⟨hplain m (List.mem_append_left _ hm), hne m hm⟩)
      (hplain (key, v) (List.mem_append_right before List.mem_cons_self))
  · rw [value, Value.member?, hsplit]
    exact lookup_append_cons hne

/-- What is not among the members is found by neither. -/
theorem RequestObject.notFound (h : ∀ v, (key, v) ∉ o.members) :
    namedMember? key o.flat.members = none ∧ o.value.member? key = none := by
  refine ⟨?_, ?_⟩
  · cases hfound : namedMember? key o.flat.members with
    | none => rfl
    | some found =>
        obtain ⟨m, after⟩ := found
        obtain ⟨hmem, hends⟩ := namedMember?_endsIn hfound
        obtain ⟨v, hv, _⟩ := member_of_endsIn hmem hends
        exact absurd hv (h v)
  · rw [value, Value.member?, List.lookup_eq_none_iff]
    intro m hm
    have hne : m.1 ≠ key := fun hkey => h m.2 (hkey ▸ hm)
    simpa using hne.symm

/-- A member of that name with what stands around it, or none. -/
theorem RequestObject.split_or_none (o : RequestObject) (key : String) :
    (∃ before v rest, o.members = before ++ (key, v) :: rest) ∨ ∀ v, (key, v) ∉ o.members := by
  by_cases h : ∃ v, (key, v) ∈ o.members
  · obtain ⟨v, hv⟩ := h
    obtain ⟨before, rest, hsplit⟩ := List.append_of_mem hv
    exact Or.inl ⟨before, v, rest, hsplit⟩
  · exact Or.inr fun v hv => h ⟨v, hv⟩

end Members

/-! ## What is read -/

section Reading

variable {o : RequestObject} {key : String}

/-- The name behind a member is the name of the next one. -/
theorem followedByTrue_memberOf {rest : List (String × Value)}
    (hnames : ∀ m ∈ rest, PlainText m.1) :
    FollowedByTrue (rest.map memberOf) ↔ ∃ next ∈ rest.head?, trueWord <+: next.1.toList := by
  cases rest with
  | nil => simp [FollowedByTrue]
  | cons next rest =>
      simp [FollowedByTrue, memberOf, rawOf_text (hnames next List.mem_cons_self)]

/-- A sensor that is there is read as `true` if it is or the next name looks so. -/
theorem RequestObject.parseBool_iff {b : Bool} {before rest : List (String × Value)}
    (hkey : key ∈ sensorKeys) (hsplit : o.members = before ++ (key, .bool b) :: rest) :
    parseBool o.body key = true ↔
      b = true ∨ ∃ next ∈ rest.head?, trueWord <+: next.1.toList := by
  have hnames : ∀ m ∈ rest, PlainText m.1 := by
    intro m hm
    apply o.names
    rw [hsplit]
    exact List.mem_append_right before (List.mem_cons_of_mem _ hm)
  rw [← o.flat_body, ← o.flat_compact, parseBool_compact _ hkey, (found hsplit).1,
    exists_found_iff, saysTrue_iff (bool?_scalarOf b), followedByTrue_memberOf hnames]

/-- A sensor means its boolean. -/
theorem RequestObject.sensor_eq {b : Bool} {before rest : List (String × Value)}
    (hsplit : o.members = before ++ (key, .bool b) :: rest) : o.sensor key = b := by
  rw [sensor, (found hsplit).2]
  rfl

/-- What the members split at is one of them. -/
theorem RequestObject.mem_of_split {v : Value} {before rest : List (String × Value)}
    (hsplit : o.members = before ++ (key, v) :: rest) : (key, v) ∈ o.members := by
  rw [hsplit]
  exact List.mem_append_right before List.mem_cons_self

/-- Whether one sensor is read right. -/
theorem RequestObject.parseBool_eq_iff (hkey : key ∈ sensorKeys) :
    parseBool o.body key = o.sensor key ↔
      ∀ before next rest, o.members = before ++ (key, .bool false) :: next :: rest →
        ¬ trueWord <+: next.1.toList := by
  constructor
  · intro h before next rest hsplit hname
    have hread := (RequestObject.parseBool_iff hkey hsplit).mpr (Or.inr ⟨next, rfl, hname⟩)
    rw [h, sensor_eq hsplit] at hread
    cases hread
  · intro h
    rcases o.split_or_none key with ⟨before, v, rest, hsplit⟩ | hnone
    · obtain ⟨b, rfl⟩ := o.sensors key hkey v (mem_of_split hsplit)
      rw [sensor_eq hsplit, Bool.eq_iff_iff, RequestObject.parseBool_iff hkey hsplit]
      constructor
      · intro hread
        rcases hread with hb | ⟨next, hnext, hname⟩
        · exact hb
        · cases b with
          | true => rfl
          | false =>
              obtain ⟨rest', rfl⟩ := List.head?_eq_some_iff.mp hnext
              exact absurd hname (h before next rest' hsplit)
      · exact Or.inl
    · have hread : parseBool o.body key = false := by
        rw [Bool.eq_false_iff, ne_eq, ← o.flat_body, ← o.flat_compact, parseBool_compact _ hkey,
          (notFound hnone).1]
        simp
      rw [hread, sensor, (notFound hnone).2]
      rfl

/-- The strategy is read right, in any object. -/
theorem RequestObject.parseString_eq (o : RequestObject) :
    parseString o.body "turn_strategy" "prefer_left" = o.turnStrategyText := by
  rw [← o.flat_body, ← o.flat_compact, parseString_compact, stringMember?_eq, turnStrategyText]
  rcases o.split_or_none "turn_strategy" with ⟨before, v, rest, hsplit⟩ | hnone
  · obtain ⟨s, rfl⟩ := o.turnStrategy v (mem_of_split hsplit)
    have hplain : PlainText s := o.values _ (mem_of_split hsplit)
    have hquote : '"' ∉ s.toList := fun hmem => (hplain '"' hmem).1 rfl
    have hread : (memberOf ("turn_strategy", .string s)).value.stringText = s := by
      show String.ofList ((rawOf s).text.takeWhile (· ≠ '"')) = s
      rw [rawOf_text hplain, TextSearch.takeWhile_ne_self hquote, String.ofList_toList]
    have hstring : (memberOf ("turn_strategy", .string s)).value.string?.isSome = true := rfl
    rw [(found hsplit).1, (found hsplit).2, Option.bind_some, if_pos hstring, Option.map_some, hread]
    rfl
  · rw [(notFound hnone).1, (notFound hnone).2]
    rfl

/-- The time is read right, in any object. -/
theorem RequestObject.parseInt_eq (o : RequestObject) :
    parseInt o.body "timer_advance_ms" 0 = o.timerAdvanceMs := by
  rw [← o.flat_body, ← o.flat_compact, parseInt_compact, timerAdvanceMs]
  rcases o.split_or_none "timer_advance_ms" with ⟨before, v, rest, hsplit⟩ | hnone
  · obtain ⟨n, rfl⟩ := o.timerAdvance v (mem_of_split hsplit)
    have hread : (memberOf ("timer_advance_ms", .int n)).value.readInt = n :=
      Scalar.readInt_of_int? (int?_scalarOf n) (o.values _ (mem_of_split hsplit)).2
    rw [(found hsplit).1, (found hsplit).2, Option.map_some, hread]
    rfl
  · rw [(notFound hnone).1, (notFound hnone).2]
    rfl

/-- Flat values are plain ones. -/
theorem IsFlat.plain {v : Value} (h : IsFlat v) : v.Plain := by
  cases v with
  | string s => exact h
  | array elements => exact absurd h id
  | object members => exact absurd h id
  | null | bool _ | number _ _ => trivial

/-- Plain names and flat values make plain members. -/
theorem plainMembers {ms : List (String × Value)} (hnames : ∀ m ∈ ms, PlainText m.1)
    (hvalues : ∀ m ∈ ms, IsFlat m.2) : Json.PlainMembers ms := by
  induction ms with
  | nil => trivial
  | cons m ms ih =>
      exact ⟨hnames m List.mem_cons_self, (hvalues m List.mem_cons_self).plain,
        ih (fun m' hm' => hnames m' (List.mem_cons_of_mem m hm'))
          fun m' hm' => hvalues m' (List.mem_cons_of_mem m hm')⟩

/-- A JSON reader reads the object. -/
theorem RequestObject.read_body (o : RequestObject) : Json.read o.body = some o.value :=
  Json.read_print (plainMembers o.names o.values)

/-- No sensor that is `false` comes directly before a name that begins with
`true`. -/
def RequestObject.Readable (o : RequestObject) : Prop :=
  ∀ key ∈ sensorKeys, ∀ before next rest,
    o.members = before ++ (key, .bool false) :: next :: rest →
      ¬ "true".toList <+: next.1.toList

/-- The sensors are read as they are meant exactly if all of them are readable. -/
theorem RequestObject.parseSensors_eq_iff (o : RequestObject) :
    parseSensors o.body = o.sensorSnapshot ↔ o.Readable := by
  have hsensors : parseSensors o.body = o.sensorSnapshot ↔
      ∀ key ∈ sensorKeys, parseBool o.body key = o.sensor key := by
    simp [parseSensors, RequestObject.sensorSnapshot, sensorKeys]
  have htrue : "true".toList = trueWord := by decide
  rw [hsensors, Readable, htrue]
  constructor
  · intro h key hkey
    exact (RequestObject.parseBool_eq_iff hkey).mp (h key hkey)
  · intro h key hkey
    exact (RequestObject.parseBool_eq_iff hkey).mpr (h key hkey)

/-- A start request is the one the client has asked for. -/
theorem RequestObject.startRequest_eq (o : RequestObject) :
    startRequest o.body = .start o.turnStrategyText :=
  congrArg ApiRequest.start o.parseString_eq

/-- **When a request is read as it is written.**  The parsers return what the
object of a request says if and only if no sensor that is `false` is directly
followed by a member whose name begins with `true`. -/
theorem request_read_iff (o : RequestObject) :
    (parseSensors o.body = o.sensorSnapshot ∧
      parseInt o.body "timer_advance_ms" 0 = o.timerAdvanceMs ∧
      parseString o.body "turn_strategy" "prefer_left" = o.turnStrategyText) ↔ o.Readable := by
  rw [o.parseSensors_eq_iff]
  constructor
  · intro h
    exact h.1
  · intro h
    exact ⟨h, o.parseInt_eq, o.parseString_eq⟩

end Reading

/-- A clear front, and a number the server does not know. -/
def trueNorth : RequestObject where
  members := [("front_blocked", .bool false), ("true_north", .int 1)]
  distinct := by decide
  names := by decide
  values := by decide
  sensors := by
    intro key hkey v hv
    rcases List.mem_pair.mp hv with heq | heq
    · cases heq
      exact ⟨false, rfl⟩
    · cases heq
      exact absurd hkey (by decide)
  turnStrategy := by
    intro v hv
    simp at hv
  timerAdvance := by
    intro v hv
    simp at hv

/-- **A request that is read wrongly.**  The sensor in front is reported to be
blocked. -/
theorem request_misread :
    trueNorth.body = "\x7b\"front_blocked\":false,\"true_north\":1\x7d" ∧
      trueNorth.sensorSnapshot.frontBlocked = false ∧
      (parseSensors trueNorth.body).frontBlocked = true := by
  decide

end RvcControl
