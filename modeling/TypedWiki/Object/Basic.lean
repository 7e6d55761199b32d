import TypedWiki.Identifier.Packing
import TypedWiki.Schema.Class

/-!
# Property objects — named values under the schema of a class

The fields of an object are fixed when it is created from its class, so that a field it does not declare is told
apart from one that is declared but unset.
-/

namespace TypedWiki

/-- A mark that every new object gets and its copies keep. -/
abbrev Guid := Nat

/-- What tells an object from the others: its document, class and number. -/
structure ObjectIdentity where
  document : DocumentRef
  classRef : ClassRef
  number : UInt32
  deriving DecidableEq, Repr

/-- An object of a class on a document. -/
structure PropertyObject where
  document : DocumentRef
  classRef : ClassRef
  /-- The place among the objects of its class. -/
  number : UInt32
  guid : Guid
  /-- The declared fields with their raw values. -/
  properties : OrderedMap String (Option Value)
  /-- The identifier with the scheme that it follows. -/
  id : Option (ObjectId × IdVersion) := none
  deriving DecidableEq

namespace PropertyObject

/-- A new object that declares every field of its class and sets none. -/
def create (document : DocumentRef) (c : ClassDef) (number : UInt32) (guid : Guid) : PropertyObject where
  document := document
  classRef := c.classRef
  number := number
  guid := guid
  properties := c.fieldMap.mapValues fun _ _ => none

/-- Whether a field is declared. -/
def hasField (o : PropertyObject) (name : String) : Bool := o.properties.contains name

/-- The declared fields in the order of the class. -/
def fieldNames (o : PropertyObject) : List String := o.properties.keys

/-- The raw value of a field: nothing at all for one that is not declared. -/
def property? (o : PropertyObject) (name : String) : Option (Option Value) := o.properties.get? name

/-- The raw value of a field that is declared and set. -/
def rawValue? (o : PropertyObject) (name : String) : Option Value := (o.property? name).join

/-- Overwrites a declared field; any other name is refused and changes nothing. -/
def setProperty (o : PropertyObject) (name : String) (v : Option Value) : Bool × PropertyObject :=
  if o.hasField name then (true, { o with properties := o.properties.insert name v }) else (false, o)

/-- What tells the object from the others. -/
def identity (o : PropertyObject) : ObjectIdentity := ⟨o.document, o.classRef, o.number⟩

/-- What tells the object from the others, as a number. -/
def identityHash (o : PropertyObject) (hash : ObjectIdentity → UInt64) : UInt64 := hash o.identity

/-- The object with an identifier. -/
def withId (o : PropertyObject) (id : ObjectId) (version : IdVersion) : PropertyObject :=
  { o with id := some (id, version) }

/-- Whether the object has an identifier of a scheme. -/
def hasIdOf (o : PropertyObject) (version : IdVersion) : Bool := o.id.any (·.2 = version)

/-- Whether two objects are equal; the order of their fields does not matter. -/
def same (a b : PropertyObject) : Bool :=
  a.identity = b.identity && a.guid = b.guid && a.id = b.id
    && a.properties.sameContent (fun v w => v = w) b.properties

/-! ### Laws -/

theorem hasField_iff {o : PropertyObject} {name : String} :
    o.hasField name = true ↔ ∃ v, o.property? name = some v := by
  rw [hasField, OrderedMap.contains, Option.isSome_iff_exists]
  rfl

theorem property?_of_hasField {o : PropertyObject} {name : String} (h : o.hasField name = true) :
    o.property? name = some (o.rawValue? name) := by
  obtain ⟨v, hv⟩ := hasField_iff.1 h
  simp [rawValue?, hv]

/-- Writing a field sets it if it is declared, and leaves every other field. -/
theorem property?_setProperty (o : PropertyObject) (name name' : String) (v : Option Value) :
    (o.setProperty name v).2.property? name' =
      if name = name' ∧ o.hasField name = true then some v else o.property? name' := by
  rw [setProperty]
  by_cases h : o.hasField name = true
  · rw [if_pos h, property?, OrderedMap.get?_insert]
    simp only [h, and_true, property?]
  · simp [h]

theorem rawValue?_setProperty {o : PropertyObject} {name : String} (h : o.hasField name = true)
    (v : Option Value) : (o.setProperty name v).2.rawValue? name = v := by
  simp [rawValue?, property?_setProperty, h]

theorem rawValue?_setProperty_of_ne {o : PropertyObject} {name name' : String} (h : name ≠ name')
    (v : Option Value) : (o.setProperty name v).2.rawValue? name' = o.rawValue? name' := by
  simp [rawValue?, property?_setProperty, h]

/-- A field that is not declared is not set, and writing it changes nothing. -/
theorem rawValue?_of_not_hasField {o : PropertyObject} {name : String} (h : o.hasField name = false) :
    o.rawValue? name = none := by
  have undeclared : o.property? name = none := Option.not_isSome_iff_eq_none.1 (Bool.eq_false_iff.1 h)
  rw [rawValue?, undeclared]
  rfl

theorem setProperty_of_not_hasField {o : PropertyObject} {name : String} (h : o.hasField name = false)
    (v : Option Value) : o.setProperty name v = (false, o) := by
  rw [setProperty, h]
  rfl

@[simp] theorem hasField_setProperty (o : PropertyObject) (name name' : String) (v : Option Value) :
    (o.setProperty name v).2.hasField name' = o.hasField name' := by
  rw [Bool.eq_iff_iff, hasField_iff, hasField_iff, property?_setProperty]
  split
  · rename_i h
    obtain ⟨w, hw⟩ := hasField_iff.1 h.2
    rw [h.1] at hw
    simp [hw]
  · rfl

@[simp] theorem identity_setProperty (o : PropertyObject) (name : String) (v : Option Value) :
    (o.setProperty name v).2.identity = o.identity := by
  rw [setProperty]
  split <;> rfl

@[simp] theorem guid_setProperty (o : PropertyObject) (name : String) (v : Option Value) :
    (o.setProperty name v).2.guid = o.guid := by
  rw [setProperty]
  split <;> rfl

@[simp] theorem id_setProperty (o : PropertyObject) (name : String) (v : Option Value) :
    (o.setProperty name v).2.id = o.id := by
  rw [setProperty]
  split <;> rfl

@[simp] theorem fieldNames_setProperty (o : PropertyObject) (name : String) (v : Option Value) :
    (o.setProperty name v).2.fieldNames = o.fieldNames := by
  rw [setProperty]
  split
  · rename_i declared
    exact (OrderedMap.keys_insert _ _ _).trans (if_pos (OrderedMap.contains_iff_mem_keys.1 declared))
  · rfl

/-- Writing the value that a field has changes nothing. -/
theorem setProperty_rawValue? {o : PropertyObject} {name : String} (h : o.hasField name = true) :
    (o.setProperty name (o.rawValue? name)).2 = o := by
  have hp : o.properties.insert name (o.rawValue? name) = o.properties :=
    OrderedMap.insert_of_get? (property?_of_hasField h)
  rw [setProperty, if_pos h, hp]

@[simp] theorem identity_withId (o : PropertyObject) (id : ObjectId) (version : IdVersion) :
    (o.withId id version).identity = o.identity := rfl

theorem identity_eq_mk_iff {o : PropertyObject} {document : DocumentRef} {c : ClassRef} {n : UInt32} :
    o.identity = ⟨document, c, n⟩ ↔ o.document = document ∧ o.classRef = c ∧ o.number = n := by
  simp [identity]

/-- Objects of one document and class that declare the same fields. -/
structure Alike (o p : PropertyObject) : Prop where
  document : o.document = p.document
  classRef : o.classRef = p.classRef
  hasField : ∀ name, o.hasField name = p.hasField name

theorem Alike.symm {o p : PropertyObject} (h : o.Alike p) : p.Alike o :=
  ⟨h.document.symm, h.classRef.symm, fun name => (h.hasField name).symm⟩

theorem Alike.trans {o p q : PropertyObject} (h : o.Alike p) (h' : p.Alike q) : o.Alike q :=
  ⟨h.document.trans h'.document, h.classRef.trans h'.classRef, fun name => (h.hasField name).trans (h'.hasField name)⟩

/-- Writing a field keeps what an object is. -/
theorem alike_setProperty (o : PropertyObject) (name : String) (v : Option Value) :
    (o.setProperty name v).2.Alike o := by
  have identity := o.identity_setProperty name v
  exact ⟨congrArg ObjectIdentity.document identity, congrArg ObjectIdentity.classRef identity,
    fun name' => o.hasField_setProperty name name' v⟩

/-- A new object declares the fields of its class. -/
theorem hasField_create (document : DocumentRef) (c : ClassDef) (number : UInt32) (guid : Guid) (name : String) :
    (create document c number guid).hasField name = c.hasField name := by
  rw [hasField, create, ClassDef.hasField, OrderedMap.contains, OrderedMap.get?_mapValues, Option.isSome_map]
  rfl

/-- It declares them in the order of the class, and none of them is set. -/
theorem fieldNames_create (document : DocumentRef) (c : ClassDef) (number : UInt32) (guid : Guid) :
    (create document c number guid).fieldNames = c.fieldMap.keys := OrderedMap.keys_mapValues _ _

theorem property?_create (document : DocumentRef) (c : ClassDef) (number : UInt32) (guid : Guid) (name : String) :
    (create document c number guid).property? name = (c.field? name).map fun _ => none :=
  OrderedMap.get?_mapValues _ _ name

end PropertyObject

end TypedWiki
