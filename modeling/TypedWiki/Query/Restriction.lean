import TypedWiki.Object.Access

/-!
# Restrictions — conditions on objects

A restriction on a class or a field is scoped to that class; one on numbers or identities is not scoped.  A field
that cannot be read satisfies no restriction.  Identities are compared by their hashes only, so that an object whose
hash collides with that of a given one counts as given.
-/

namespace TypedWiki

/-- A condition on an object. -/
inductive Restriction where
  /-- The object is of a class. -/
  | ofClass (c : ClassRef)
  /-- A field holds one of the candidate values, which are sorted. -/
  | field (f : FieldDef) (candidates : List Value) {sorted : Value.IsSorted candidates}
  /-- A field holds a value. -/
  | present (f : FieldDef)
  /-- A field is declared and unset. -/
  | absent (f : FieldDef)
  /-- The identity of the object has one of the hashes. -/
  | identity (hashes : List UInt64)
  /-- The object has a number. -/
  | number (n : UInt32)

namespace Restriction

/-- A candidate as the field would be read: a list for a single selection is any of its items, a text for a multiple
selection is the list of it. -/
def candidatesOf (kind : FieldKind) : Value → List Value
  | .list items => if kind.isSingleSelect then items.map .text else [.list items]
  | .text item => if kind.isMultiSelect then [.list [item]] else [.text item]
  | v => [v]

/-- A field holds one of the values. -/
def fieldAnyOf (f : FieldDef) (values : List Value) : Restriction :=
  @field f (Value.sortedSet (values.flatMap (candidatesOf f.kind))) (Value.isSorted_sortedSet _)

/-- The object is one of the given ones, by the hashes of their identities. -/
def anyOf (hash : ObjectIdentity → UInt64) (objects : List PropertyObject) : Restriction :=
  .identity (objects.map (·.identityHash hash)).eraseDups

/-- The class to which a restriction is scoped. -/
def scope? : Restriction → Option ClassRef
  | .ofClass c => some c
  | .field f _ => some f.classRef
  | .present f => some f.classRef
  | .absent f => some f.classRef
  | .identity _ => none
  | .number _ => none

/-- Whether an object satisfies a restriction, with fields read through an accessor. -/
def appliesTo (r : Restriction) (a : ObjectAccessor) (o : PropertyObject) : Bool :=
  match r with
  | .ofClass c => o.classRef = c
  | .field f candidates =>
    match a.get o f with
    | .ok (some v) => candidates.contains v
    | _ => false
  | .present f =>
    match a.get o f with
    | .ok (some _) => true
    | _ => false
  | .absent f =>
    match a.get o f with
    | .ok none => true
    | _ => false
  | .identity hashes => hashes.contains (o.identityHash a.platform.identityHash)
  | .number n => o.number = n

/-- Whether two restrictions are equal; of a field only class and name count. -/
def same : Restriction → Restriction → Bool
  | .ofClass c, .ofClass d => c = d
  | .field f v, .field g w => f.sameField g && v = w
  | .present f, .present g => f.sameField g
  | .absent f, .absent g => f.sameField g
  | .identity a, .identity b => a.all b.contains && b.all a.contains
  | .number n, .number m => n = m
  | _, _ => false

/-! ### Laws -/

/-- A filter on a field looks for the value that is read among the candidates. -/
theorem appliesTo_fieldAnyOf {f : FieldDef} {values : List Value} {a : ObjectAccessor} {o : PropertyObject} {v : Value}
    (read : a.get o f = .ok (some v)) :
    (fieldAnyOf f values).appliesTo a o = true ↔ ∃ w ∈ values, v ∈ candidatesOf f.kind w := by
  simp only [fieldAnyOf, appliesTo, read, List.contains_iff_mem, Value.mem_sortedSet, List.mem_flatMap]

/-- The field that a restriction reads. -/
def field? : Restriction → Option FieldDef
  | .field f _ => some f
  | .present f => some f
  | .absent f => some f
  | _ => none

theorem same_refl (r : Restriction) : r.same r = true := by
  cases r <;> simp [same, FieldDef.sameField]

theorem same_trans {r s t : Restriction} (h : r.same s = true) (h' : s.same t = true) : r.same t = true := by
  cases r <;> cases s <;> cases t <;> simp_all [same, FieldDef.sameField]

/-- Equal restrictions are scoped alike. -/
theorem scope?_of_same {r s : Restriction} (h : r.same s = true) : r.scope? = s.scope? := by
  cases r <;> cases s <;> simp_all [same, scope?, FieldDef.sameField]

/-- A restriction that is scoped to a class applies to objects of this class only. -/
theorem classRef_of_appliesTo {r : Restriction} {a : ObjectAccessor} {o : PropertyObject} {c : ClassRef}
    (onClass : r.scope? = some c) (applies : r.appliesTo a o = true) : o.classRef = c := by
  -- a field is read on objects of its own class only
  have read : ∀ {f v}, a.get o f = .ok v → some f.classRef = some c → o.classRef = c := by
    intro f v read own
    rw [← Option.some.inj own]
    exact (ObjectAccessor.declares_of_get read).1.symm
  cases r with
  | ofClass c' => exact (of_decide_eq_true applies).trans (Option.some.inj onClass)
  | field f candidates =>
    cases found : a.get o f with
    | error e => simp [appliesTo, found] at applies
    | ok v => exact read found onClass
  | present f =>
    cases found : a.get o f with
    | error e => simp [appliesTo, found] at applies
    | ok v => exact read found onClass
  | absent f =>
    cases found : a.get o f with
    | error e => simp [appliesTo, found] at applies
    | ok v => exact read found onClass
  | identity hashes => cases onClass
  | number n => cases onClass

/-- Equal restrictions hold for the same objects if they do not read two fields under one name. -/
theorem appliesTo_of_same {r s : Restriction} (h : r.same s = true)
    (fields : ∀ f g, r.field? = some f → s.field? = some g → f.classRef = g.classRef → f.name = g.name → f = g)
    (a : ObjectAccessor) (o : PropertyObject) : r.appliesTo a o = s.appliesTo a o := by
  have oneField : ∀ {f g}, r.field? = some f → s.field? = some g → f.sameField g = true → f = g := by
    intro f g hf hg named
    simp only [FieldDef.sameField, Bool.and_eq_true, decide_eq_true_eq] at named
    exact fields f g hf hg named.1 named.2
  cases r with
  | ofClass c =>
    cases s with
    | ofClass d =>
      obtain rfl : c = d := by simpa [same] using h
      rfl
    | _ => cases h
  | field f candidates =>
    cases s with
    | field g candidates' =>
      obtain ⟨named, rfl⟩ : f.sameField g = true ∧ candidates = candidates' := by simpa [same] using h
      obtain rfl := oneField rfl rfl named
      rfl
    | _ => cases h
  | present f =>
    cases s with
    | present g =>
      obtain rfl := oneField rfl rfl h
      rfl
    | _ => cases h
  | absent f =>
    cases s with
    | absent g =>
      obtain rfl := oneField rfl rfl h
      rfl
    | _ => cases h
  | identity hashes =>
    cases s with
    | identity hashes' =>
      obtain ⟨into, back⟩ : (∀ i ∈ hashes, i ∈ hashes') ∧ ∀ i ∈ hashes', i ∈ hashes := by simpa [same] using h
      rw [Bool.eq_iff_iff]
      simpa [appliesTo] using ⟨into _, back _⟩
    | _ => cases h
  | number n =>
    cases s with
    | number m =>
      obtain rfl : n = m := by simpa [same] using h
      rfl
    | _ => cases h

end Restriction

end TypedWiki
