import TypedWiki.Config.Settings
import TypedWiki.Field.Definition
import TypedWiki.OrderedMap

/-!
# Class definitions — the fields of a kind of object

A class definition lists field definitions; those of another class and those whose name was already used in the
class do not count.
-/

namespace TypedWiki

/-- Whether objects of a class are described by a stored schema. -/
inductive ClassKind where
  /-- The schema is stored on a class document. -/
  | standard
  /-- The fields are not backed by a class document. -/
  | pseudo
  deriving DecidableEq, Repr

/-- The definition of a class. -/
structure ClassDef where
  classRef : ClassRef
  kind : ClassKind := .standard
  /-- Whether the host keeps the objects in a table of their own. -/
  internalMapping : Bool := false
  /-- The field definitions as listed. -/
  declared : List FieldDef

namespace ClassDef

/-- Whether the class only describes fields. -/
def isPseudo (c : ClassDef) : Bool := c.kind = .pseudo

/-- Whether the class may be stored on a class document. -/
def isStorable (c : ClassDef) : Bool := !c.isPseudo

/-- Whether configuration keeps the class from being created; pseudo classes never are. -/
def isBlacklisted (c : ClassDef) (s : Settings) : Bool :=
  !c.isPseudo &&
    (Text.splitAll (· = ',') (s.property Settings.blacklistKey "").toList).any fun entry =>
      String.ofList (Text.trimChars entry) = c.classRef.text

/-- Adds a field definition, unless it is of another class or its name is taken. -/
def addField (classRef : ClassRef) (m : OrderedMap String FieldDef) (f : FieldDef) : OrderedMap String FieldDef :=
  if f.classRef ≠ classRef then m
  else if m.contains f.name then m
  else m.insert f.name f

/-- The fields by name, in order of definition. -/
def fieldMap (c : ClassDef) : OrderedMap String FieldDef :=
  c.declared.foldl (addField c.classRef) OrderedMap.empty

/-- The fields in order of definition. -/
def fields (c : ClassDef) : List FieldDef := c.fieldMap.values

/-- The field of a name. -/
def field? (c : ClassDef) (name : String) : Option FieldDef := c.fieldMap.get? name

/-- Whether the class has a field of a name. -/
def hasField (c : ClassDef) (name : String) : Bool := c.fieldMap.contains name

/-- The number of fields. -/
def fieldCount (c : ClassDef) : Nat := c.fieldMap.size

/-- The type tokens of the fields by name. -/
def schema (c : ClassDef) : OrderedMap String String := c.fieldMap.mapValues fun _ f => f.kind.token

/-! ### Laws -/

/-- A definition of another class changes nothing. -/
theorem addField_of_ne {classRef : ClassRef} {m : OrderedMap String FieldDef} {f : FieldDef}
    (foreign : f.classRef ≠ classRef) : addField classRef m f = m := if_pos foreign

/-- A definition of the class is appended if its name is new. -/
theorem entries_addField (classRef : ClassRef) (m : OrderedMap String FieldDef) (f : FieldDef) :
    (addField classRef m f).entries =
      if f.classRef = classRef ∧ f.name ∉ m.keys then m.entries ++ [(f.name, f)] else m.entries := by
  by_cases own : f.classRef = classRef
  · rw [addField, if_neg (Decidable.not_not.2 own)]
    by_cases taken : f.name ∈ m.keys
    · rw [if_pos (OrderedMap.contains_iff_mem_keys.2 taken), if_neg fun h => h.2 taken]
    · rw [if_neg fun h => taken (OrderedMap.contains_iff_mem_keys.1 h), if_pos ⟨own, taken⟩,
        OrderedMap.entries_insert_of_not_mem taken]
  · rw [addField_of_ne own, if_neg fun h => own h.1]

/-- A field that is added goes under its name, and is of the class. -/
theorem get?_addField {classRef : ClassRef} {m : OrderedMap String FieldDef} {f g : FieldDef} {name : String}
    (h : (addField classRef m f).get? name = some g) :
    m.get? name = some g ∨ g.name = name ∧ g.classRef = classRef := by
  rw [addField] at h
  by_cases foreign : f.classRef ≠ classRef
  · rw [if_pos foreign] at h
    exact .inl h
  by_cases taken : m.contains f.name = true
  · rw [if_neg foreign, if_pos taken] at h
    exact .inl h
  rw [if_neg foreign, if_neg taken, OrderedMap.get?_insert] at h
  by_cases same : f.name = name
  · rw [if_pos same, Option.some.injEq] at h
    exact .inr ⟨h ▸ same, h ▸ Decidable.not_not.1 foreign⟩
  · rw [if_neg same] at h
    exact .inl h

theorem get?_foldl_addField {classRef : ClassRef} {g : FieldDef} {name : String} (fs : List FieldDef)
    (m : OrderedMap String FieldDef) (h : (fs.foldl (addField classRef) m).get? name = some g) :
    m.get? name = some g ∨ g.name = name ∧ g.classRef = classRef := by
  induction fs generalizing m with
  | nil => exact .inl h
  | cons f fs ih =>
    rcases ih (addField classRef m f) h with before | added
    · exact get?_addField before
    · exact .inr added

/-- The fields are of the class and listed under their names. -/
theorem name_of_field? {c : ClassDef} {f : FieldDef} {name : String} (h : c.field? name = some f) :
    f.name = name ∧ f.classRef = c.classRef :=
  (get?_foldl_addField c.declared OrderedMap.empty h).resolve_left (by simp)

theorem mem_fields_iff {c : ClassDef} {f : FieldDef} : f ∈ c.fields ↔ c.field? f.name = some f := by
  rw [fields, OrderedMap.mem_values_iff]
  constructor
  · rintro ⟨name, h⟩
    rw [(name_of_field? h).1]
    exact h
  · exact fun h => ⟨f.name, h⟩

theorem classRef_of_mem_fields {c : ClassDef} {f : FieldDef} (h : f ∈ c.fields) : f.classRef = c.classRef :=
  (name_of_field? (mem_fields_iff.1 h)).2

theorem hasField_of_mem_fields {c : ClassDef} {f : FieldDef} (h : f ∈ c.fields) : c.hasField f.name = true :=
  Option.isSome_iff_exists.2 ⟨f, mem_fields_iff.1 h⟩

theorem hasField_iff_mem_fields {c : ClassDef} {name : String} :
    c.hasField name = true ↔ name ∈ c.fields.map FieldDef.name := by
  rw [List.mem_map]
  constructor
  · intro h
    obtain ⟨f, found⟩ := Option.isSome_iff_exists.1 h
    obtain rfl := (name_of_field? found).1
    exact ⟨f, mem_fields_iff.2 found, rfl⟩
  · rintro ⟨f, hf, rfl⟩
    exact hasField_of_mem_fields hf

/-- The fields of a class are told apart by their names. -/
theorem eq_of_mem_fields {c : ClassDef} {f g : FieldDef} (hf : f ∈ c.fields) (hg : g ∈ c.fields)
    (h : f.name = g.name) : f = g :=
  Option.some.inj ((mem_fields_iff.1 hf).symm.trans (h ▸ mem_fields_iff.1 hg))

end ClassDef

end TypedWiki
