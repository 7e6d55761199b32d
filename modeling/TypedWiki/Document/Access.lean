import TypedWiki.Document.Basic
import TypedWiki.Object.Access
import TypedWiki.Schema.DocumentClass

/-!
# Field access on documents — the fields of the document class

Only fields of the document class exist on a document.  The default language is read from and written to the
document itself, and an empty one counts as unset.
-/

namespace TypedWiki.DocumentAccess

/-- Refuses every field that is not one of the document class. -/
def checkField (f : FieldDef) : Except FieldError Unit :=
  if f.classRef ≠ DocumentClass.ref ∨ DocumentClass.definition.hasField f.name = false then
    .error (.missing f.name "document")
  else .ok ()

/-- The value held for a field of the document class. -/
def held (d : Document) (name : String) : Option Value :=
  if name = DocumentClass.defaultLanguage then
    if d.defaultLanguage = "" then none else some (.text d.defaultLanguage)
  else d.field? name

/-- The value of a field, or nothing when it is unset. -/
def get (d : Document) (f : FieldDef) : Except FieldError (Option Value) := do
  checkField f
  .ok (held d f.name)

/-- Lists are stored as one text. -/
def flatten : Value → Value
  | .list items => .text (Value.joinItems items)
  | v => v

/-- What a write stores. -/
def rawOf (f : FieldDef) (v : Option Value) : Except FieldError (Option Value) :=
  match Value.normalizeBlank v with
  | none => .ok none
  | some v => do
    f.checkAccepts v
    .ok (some (flatten v))

/-- Stores a value. -/
def store (d : Document) (name : String) (raw : Option Value) : Document :=
  if name = DocumentClass.defaultLanguage then { d with defaultLanguage := (raw.map Value.rawText).getD "" }
  else (d.setField name raw).2

/-- Writes a field, or clears it; tells whether the stored value changed. -/
def set (d : Document) (f : FieldDef) (v : Option Value) : Except FieldError (Bool × Document) := do
  checkField f
  let raw ← rawOf f v
  if held d f.name = raw then .ok (false, d)
  else .ok (true, store d f.name raw)

/-! ### Laws -/

theorem checkField_eq_ok_iff {f : FieldDef} : checkField f = .ok () ↔
    f.classRef = DocumentClass.ref ∧ DocumentClass.definition.hasField f.name = true := by
  rw [checkField]
  split
  · rename_i refused
    simp only [reduceCtorEq, false_iff, not_and, Bool.not_eq_true]
    exact fun own => refused.resolve_left (not_not_intro own)
  · rename_i known
    simpa [not_or] using known

/-- Writing a field of the document class leaves the reference and the objects. -/
theorem frame_store (d : Document) (name : String) (raw : Option Value) :
    (store d name raw).ref = d.ref ∧ (store d name raw).objects = d.objects := by
  rw [store]
  split
  · exact ⟨rfl, rfl⟩
  · cases raw <;> exact ⟨rfl, rfl⟩

/-- A write that succeeds leaves a document that holds what it would store, and stores it otherwise. -/
theorem set_eq_ok_iff {d : Document} {f : FieldDef} {v : Option Value} {report : Bool × Document} :
    set d f v = .ok report ↔ checkField f = .ok () ∧ ∃ raw, rawOf f v = .ok raw ∧
      report = if held d f.name = raw then (false, d) else (true, store d f.name raw) := by
  simp only [set, bind, Except.bind]
  cases checkField f with
  | error err => simp
  | ok u =>
    cases rawOf f v with
    | error err => simp
    | ok raw =>
      by_cases same : held d f.name = raw
      · simp only [same, if_true, Except.ok.injEq, true_and, exists_eq_left']
        exact eq_comm
      · simp only [same, if_false, Except.ok.injEq, true_and, exists_eq_left']
        exact eq_comm

theorem frame_set {d d' : Document} {f : FieldDef} {v : Option Value} {changed : Bool}
    (h : set d f v = .ok (changed, d')) : d'.ref = d.ref ∧ d'.objects = d.objects := by
  obtain ⟨-, raw, -, report⟩ := set_eq_ok_iff.1 h
  split at report
  · cases report
    exact ⟨rfl, rfl⟩
  · cases report
    exact frame_store d f.name raw

/-- A write stores nothing or a value that is not blank and that the field accepts, as one text if it is a list. -/
theorem rawOf_eq_ok_iff {f : FieldDef} {v raw : Option Value} :
    rawOf f v = .ok raw ↔ (Value.normalizeBlank v = none ∧ raw = none) ∨
      ∃ w, Value.normalizeBlank v = some w ∧ f.kind.accepts w = true ∧ raw = some (flatten w) := by
  rw [rawOf]
  cases Value.normalizeBlank v with
  | none =>
    simp only [Except.ok.injEq, true_and, reduceCtorEq, false_and, exists_const, or_false]
    exact eq_comm
  | some w =>
    by_cases accepts : f.kind.accepts w = true
    · simp only [FieldDef.checkAccepts, accepts, if_true, bind, Except.bind, Except.ok.injEq, Option.some.injEq,
        reduceCtorEq, false_and, false_or, exists_eq_left', true_and]
      exact eq_comm
    · simp [FieldDef.checkAccepts, accepts, bind, Except.bind]

end TypedWiki.DocumentAccess
