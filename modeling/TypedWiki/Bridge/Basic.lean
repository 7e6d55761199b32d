import TypedWiki.Bridge.Error
import TypedWiki.Config.Settings
import TypedWiki.Document.Access
import TypedWiki.Schema.Registry

/-!
# Bridges — how queries reach the objects of a document

The live bridge works on primary documents and creates objects of registered classes.  The empty bridge reports
neither classes nor objects.
-/

namespace TypedWiki

/-- A way to the objects of documents. -/
inductive Bridge where
  | live (registry : ClassRegistry) (accessor : ObjectAccessor)
  | empty

namespace Bridge

/-- The live bridge over a registry, with the standard accessor. -/
def ofRegistry (r : ClassRegistry) : Bridge := .live r {}

/-- The live bridge whose reference mode is configured. -/
def ofSettings (r : ClassRegistry) (s : Settings) : Except ReferenceError Bridge :=
  match ReferenceMode.parse (s.property Settings.referenceModeKey ReferenceMode.standard.name) with
  | .ok mode => .ok (.live r { mode := mode })
  | .error e => .error e

/-- The accessor for fields of objects. -/
def accessor : Bridge → ObjectAccessor
  | live _ a => a
  | empty => {}

/-- The bridge with another accessor; the empty one has no choice. -/
def withAccessor (f : ObjectAccessor → ObjectAccessor) : Bridge → Bridge
  | live r a => live r (f a)
  | empty => empty

/-- Refuses a localized view. -/
def requirePrimary (d : Document) : Except BridgeError Unit :=
  if d.isPrimary then .ok () else .error (.notPrimary d.ref d.language)

/-- The classes with objects on a document. -/
def classesOn (b : Bridge) (d : Document) : List ClassRef :=
  match b with
  | live .. => d.classRefs
  | empty => []

/-- The objects of a class, listed with the numbers under which they are stored. -/
def entriesOf (b : Bridge) (d : Document) (c : ClassRef) : Except BridgeError (List (UInt32 × PropertyObject)) :=
  match b with
  | live .. =>
    match requirePrimary d with
    | .ok () => .ok (d.group c).entries
    | .error e => .error e
  | empty => .ok []

/-- The objects of a class by number. -/
def objectsOf (b : Bridge) (d : Document) (c : ClassRef) : Except BridgeError (List PropertyObject) :=
  (b.entriesOf d c).map fun entries => entries.map (·.2)

/-- The name of creation in errors. -/
def createName : String := "create_object"

/-- Adds a new object of a class, without an identifier. -/
def createObject (b : Bridge) (d : Document) (c : ClassRef) (guid : Guid) :
    Except BridgeError (PropertyObject × Document) :=
  match b with
  | live r _ =>
    match requirePrimary d with
    | .error e => .error e
    | .ok () =>
      match r.get? c with
      | none => .error (.unknownClass c)
      | some k => .ok (d.addObject k guid)
  | empty => .error (.unsupported createName)

/-- Removes the object of a class and number, if there is one. -/
def deleteObject (b : Bridge) (d : Document) (c : ClassRef) (n : UInt32) :
    Except BridgeError (Option PropertyObject × Document) :=
  match b with
  | live .. =>
    match requirePrimary d with
    | .error e => .error e
    | .ok () => .ok (d.removeObject c n)
  | empty => .ok (none, d)

/-! ### Laws -/

theorem objectsOf_live {r : ClassRegistry} {a : ObjectAccessor} {d : Document} (primary : d.isPrimary = true)
    (c : ClassRef) : (live r a).objectsOf d c = .ok (d.objectsOf c) := by
  rw [objectsOf, entriesOf, requirePrimary, if_pos primary]
  rfl

/-- No bridge reports objects that are not on the document. -/
theorem object?_of_entriesOf_eq_ok {b : Bridge} {d : Document} {c : ClassRef} {entries : List (UInt32 × PropertyObject)}
    (h : b.entriesOf d c = .ok entries) {n : UInt32} {o : PropertyObject} (ho : (n, o) ∈ entries) :
    d.object? c n = some o := by
  cases b with
  | empty =>
    cases h
    cases ho
  | live r a =>
    by_cases primary : d.isPrimary = true
    · simp only [entriesOf, requirePrimary, primary, if_true, Except.ok.injEq] at h
      rw [← h] at ho
      exact Numbered.get?_eq_some_iff.2 ho
    · simp [entriesOf, requirePrimary, primary] at h

/-- Objects are created by the live bridge only, on primary documents and of registered classes. -/
theorem createObject_eq_ok_iff {b : Bridge} {d d' : Document} {c : ClassRef} {guid : Guid} {o : PropertyObject} :
    b.createObject d c guid = .ok (o, d') ↔
      ∃ r a k, b = .live r a ∧ d.isPrimary = true ∧ r.get? c = some k ∧ d.addObject k guid = (o, d') := by
  cases b with
  | empty => simp [createObject]
  | live r a =>
    by_cases hp : d.isPrimary = true
    · cases hk : r.get? c with
      | none => simp [createObject, requirePrimary, hp, hk]
      | some k => simp [createObject, requirePrimary, hp, hk]
    · simp [createObject, requirePrimary, hp]

/-- Why no object is created does not depend on the mark that it would get. -/
theorem createObject_eq_error_congr {b : Bridge} {d : Document} {c : ClassRef} {guid : Guid} {e : BridgeError}
    (h : b.createObject d c guid = .error e) (guid' : Guid) : b.createObject d c guid' = .error e := by
  cases b with
  | empty => exact h
  | live r a =>
    simp only [createObject] at h ⊢
    split at h
    · exact h
    · split at h
      · exact h
      · cases h

/-- Objects are removed by the live bridge from primary documents; the empty one finds none. -/
theorem deleteObject_eq_ok {b : Bridge} {d d' : Document} {c : ClassRef} {n : UInt32} {o : Option PropertyObject}
    (h : b.deleteObject d c n = .ok (o, d')) :
    (d.isPrimary = true ∧ d.removeObject c n = (o, d')) ∨ (o = none ∧ d' = d) := by
  cases b with
  | empty =>
    simp only [deleteObject, Except.ok.injEq, Prod.mk.injEq] at h
    exact Or.inr ⟨h.1.symm, h.2.symm⟩
  | live r a =>
    by_cases hp : d.isPrimary = true
    · simp only [deleteObject, requirePrimary, hp, if_true, Except.ok.injEq] at h
      exact Or.inl ⟨hp, h⟩
    · simp [deleteObject, requirePrimary, hp] at h

end Bridge

end TypedWiki
