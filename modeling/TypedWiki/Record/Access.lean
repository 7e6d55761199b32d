import TypedWiki.Field.Definition
import TypedWiki.OrderedMap

/-!
# Field access on records — program values through a table of members

A record is a value of a program's own type.  Its members are reached through a table keyed by accessor names; a
field whose accessor name is not in the table is missing.
-/

namespace TypedWiki

/-- A member of records, reached as a field value. -/
structure Member (β : Type) where
  /-- The name of the member's type in errors. -/
  typeName : String
  get : β → Option Value
  /-- Writes a value and tells whether it differs from the former one; a value of another type is refused by the
  name of its type. -/
  set : β → Option Value → Except String (Bool × β)

namespace Member

/-- A value as a member of type `τ` takes it. -/
def typed? {τ : Type} [FieldValue τ] : Option Value → Except String (Option τ)
  | none => .ok none
  | some v =>
    match FieldValue.ofValue? v with
    | some x => .ok (some x)
    | none => .error v.typeName

/-- The member behind a getter and a setter. -/
def of {β τ : Type} [FieldValue τ] [DecidableEq τ] (get : β → Option τ) (set : β → Option τ → β) : Member β where
  typeName := FieldValue.typeName τ
  get b := (get b).map FieldValue.toValue
  set b v :=
    match typed? (τ := τ) v with
    | .error actual => .error actual
    | .ok x => if get b = x then .ok (false, b) else .ok (true, set b x)

/-- Whether a member refuses a value depends on the type of the value, not on the record. -/
theorem set_of_eq_error_iff {β τ : Type} [FieldValue τ] [DecidableEq τ] {get : β → Option τ} {set : β → Option τ → β}
    {b : β} {v : Option Value} {actual : String} :
    (of get set).set b v = .error actual ↔ typed? (τ := τ) v = .error actual := by
  cases typed : typed? (τ := τ) v with
  | error actual' => simp only [of, typed, Except.error.injEq]
  | ok x =>
    simp only [of, typed, reduceCtorEq, iff_false]
    split <;> exact fun refused => nomatch refused

end Member

/-- Reads and writes the fields of records. -/
structure RecordAccessor (β : Type) where
  /-- The name of the type of records in errors. -/
  typeName : String
  members : OrderedMap String (Member β)

namespace RecordAccessor

variable {β : Type}

/-- The accessor without members. -/
def empty (typeName : String) : RecordAccessor β := ⟨typeName, OrderedMap.empty⟩

/-- Backs a field by a member; the last member for an accessor name counts. -/
def withMember (a : RecordAccessor β) (fieldName : String) (m : Member β) : RecordAccessor β :=
  { a with members := a.members.insert (FieldName.accessor fieldName) m }

/-- Whether a member backs the field of a name. -/
def hasMember (a : RecordAccessor β) (fieldName : String) : Bool :=
  a.members.contains (FieldName.accessor fieldName)

/-- The member that backs a field. -/
def member (a : RecordAccessor β) (f : FieldDef) : Except FieldError (Member β) :=
  match a.members.get? (FieldName.accessor f.name) with
  | some m => .ok m
  | none => .error (.missing f.name a.typeName)

/-- The value of a field, or nothing when it is unset. -/
def get (a : RecordAccessor β) (b : β) (f : FieldDef) : Except FieldError (Option Value) :=
  match a.member f with
  | .ok m => .ok (m.get b)
  | .error e => .error e

/-- A selection of at most one value as the member behind it takes it: a text or nothing. -/
def reduceSelection (f : FieldDef) (v : Option Value) : Option Value :=
  match v with
  | some (.list []) => if f.kind.isSingleSelect then none else v
  | some (.list [item]) => if f.kind.isSingleSelect then some (.text item) else v
  | v => v

/-- Writes a field, or clears it; tells whether the member changed. -/
def set (a : RecordAccessor β) (b : β) (f : FieldDef) (v : Option Value) : Except FieldError (Bool × β) :=
  match a.member f with
  | .error e => .error e
  | .ok m =>
    match m.set b (reduceSelection f v) with
    | .ok r => .ok r
    | .error actual => .error (.typeMismatch f.name m.typeName actual)

/-! ### Laws -/

theorem member_of_hasMember {a : RecordAccessor β} {f : FieldDef} (h : a.hasMember f.name = true) :
    ∃ m, a.member f = .ok m := by
  obtain ⟨m, found⟩ := Option.isSome_iff_exists.1 h
  exact ⟨m, by rw [member, found]⟩

theorem member_of_not_hasMember {a : RecordAccessor β} {f : FieldDef} (h : a.hasMember f.name = false) :
    a.member f = .error (.missing f.name a.typeName) := by
  have unfound : a.members.get? (FieldName.accessor f.name) = none :=
    Option.not_isSome_iff_eq_none.1 (Bool.eq_false_iff.1 h)
  rw [member, unfound]

theorem get_of_member {a : RecordAccessor β} {f : FieldDef} {m : Member β} (h : a.member f = .ok m) (b : β) :
    a.get b f = .ok (m.get b) := by
  rw [get, h]

/-- Reading reports a field as missing exactly if no member backs it. -/
theorem get_missing_iff {a : RecordAccessor β} {b : β} {f : FieldDef} :
    (∃ err, a.get b f = .error err ∧ err.isMissing = true) ↔ a.hasMember f.name = false := by
  cases backed : a.hasMember f.name with
  | false =>
    rw [get, member_of_not_hasMember backed]
    exact ⟨fun _ => rfl, fun _ => ⟨_, rfl, rfl⟩⟩
  | true =>
    obtain ⟨m, found⟩ := member_of_hasMember backed
    simp [get_of_member found]

/-- Writing reports a field as missing exactly if no member backs it. -/
theorem set_missing_iff {a : RecordAccessor β} {b : β} {f : FieldDef} {v : Option Value} :
    (∃ err, a.set b f v = .error err ∧ err.isMissing = true) ↔ a.hasMember f.name = false := by
  cases backed : a.hasMember f.name with
  | false =>
    rw [set, member_of_not_hasMember backed]
    exact ⟨fun _ => rfl, fun _ => ⟨_, rfl, rfl⟩⟩
  | true =>
    obtain ⟨m, found⟩ := member_of_hasMember backed
    simp only [reduceCtorEq, iff_false]
    rintro ⟨err, failed, missing⟩
    rw [set, found] at failed
    cases taken : m.set b (reduceSelection f v) with
    | ok r => simp only [taken, reduceCtorEq] at failed
    | error actual =>
      simp only [taken, Except.error.injEq] at failed
      rw [← failed] at missing
      cases missing

/-- Where several values can be selected a value is taken as it is. -/
theorem reduceSelection_of_isMultiSelect {f : FieldDef} (h : f.kind.isMultiSelect = true) (v : Option Value) :
    reduceSelection f v = v := by
  have single := FieldKind.isSingleSelect_of_isMultiSelect h
  unfold reduceSelection
  split <;> simp only [single, Bool.false_eq_true, if_false]

/-- A value of the type of a member is written unless the member has it. -/
theorem set_of_member {a : RecordAccessor β} {f : FieldDef} {τ : Type} [FieldValue τ] [DecidableEq τ]
    {getter : β → Option τ} {setter : β → Option τ → β} (h : a.member f = .ok (Member.of getter setter))
    {v : Option Value} {x : Option τ} (typed : Member.typed? (reduceSelection f v) = .ok x) (b : β) :
    a.set b f v = .ok (if getter b = x then (false, b) else (true, setter b x)) := by
  simp only [set, h, Member.of, typed]
  by_cases same : getter b = x
  · simp only [same, if_true]
  · simp only [same, if_false]

end RecordAccessor

end TypedWiki
