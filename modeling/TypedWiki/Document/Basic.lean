import TypedWiki.Numbered
import TypedWiki.Object.Basic

/-!
# Documents — fields and numbered objects by class

A primary document holds the objects.  A localized view shares its reference but has a language of its own.  Objects
of a class are numbered; a new one gets the number after the largest, and so does an inserted one whose number is
taken.  Where the numbers wrap around, that number may be taken too, and then the object that has it stands in for the
new one.  A class without objects left keeps its place in the order of classes.
-/

namespace TypedWiki

/-- A view of a document. -/
structure Document where
  ref : DocumentRef
  language : String := ""
  defaultLanguage : String := ""
  isLocalized : Bool := false
  /-- The fields of the document itself. -/
  fields : OrderedMap String Value := OrderedMap.empty
  /-- The objects by class and number. -/
  objects : OrderedMap ClassRef (Numbered PropertyObject) := OrderedMap.empty
  /-- The schema held by a class document: type tokens by field name. -/
  schema : Option (OrderedMap String String) := none
  deriving DecidableEq

namespace Document

/-- An empty primary document. -/
def create (ref : DocumentRef) : Document := { ref := ref }

/-- An empty localized view. -/
def createLocalized (ref : DocumentRef) (language : String) : Document :=
  { ref := ref, language := language, isLocalized := true }

/-- Whether the view is the primary one. -/
def isPrimary (d : Document) : Bool := !d.isLocalized

/-- The value of a field of the document itself. -/
def field? (d : Document) (name : String) : Option Value := d.fields.get? name

/-- Sets or clears a field of the document itself; the former value comes back. -/
def setField (d : Document) (name : String) (v : Option Value) : Option Value × Document :=
  (d.fields.get? name,
    match v with
    | some v => { d with fields := d.fields.insert name v }
    | none => { d with fields := d.fields.erase name })

/-- The objects of a class by number. -/
def group (d : Document) (c : ClassRef) : Numbered PropertyObject := (d.objects.get? c).getD Numbered.empty

/-- The classes with at least one object, in order of first use. -/
def classRefs (d : Document) : List ClassRef :=
  (d.objects.entries.filter fun e => !e.2.values.isEmpty).map (·.1)

/-- The objects of a class by increasing number. -/
def objectsOf (d : Document) (c : ClassRef) : List PropertyObject := (d.group c).values

/-- Every object, class by class. -/
def allObjects (d : Document) : List PropertyObject := d.objects.values.flatMap Numbered.values

/-- The object of a class and number. -/
def object? (d : Document) (c : ClassRef) (n : UInt32) : Option PropertyObject := (d.group c).get? n

/-- The number of objects. -/
def objectCount (d : Document) : Nat := d.allObjects.length

/-- Replaces the objects of a class. -/
def setGroup (d : Document) (c : ClassRef) (g : Numbered PropertyObject) : Document :=
  { d with objects := d.objects.insert c g }

/-- Changes the object of a class and number, if there is one. -/
def modifyObject (d : Document) (c : ClassRef) (n : UInt32) (f : PropertyObject → PropertyObject) : Document :=
  { d with objects := d.objects.modify c fun g => g.modify n f }

/-- The document with an object under the next number of a class. -/
def putNext (d : Document) (c : ClassRef) (o : PropertyObject) : Document :=
  d.setGroup c ((d.group c).insert (d.group c).nextNumber o)

/-- Adds a new object of a class under the next number.  If this number is taken, the object that has it comes back. -/
def addObject (d : Document) (c : ClassDef) (guid : Guid) : PropertyObject × Document :=
  let g := d.group c.classRef
  let (o, g) := g.insertNew g.nextNumber (PropertyObject.create d.ref c g.nextNumber guid)
  (o, d.setGroup c.classRef g)

/-- Inserts an object, which moves to this document and is renumbered if its number is taken.  If its new number is
taken as well, the object that has it comes back, and the one to be inserted is dropped. -/
def insertObject (d : Document) (o : PropertyObject) : PropertyObject × Document :=
  let g := d.group o.classRef
  let number := if g.contains o.number then g.nextNumber else o.number
  let (o', g) := g.insertNew number { o with document := d.ref, number := number }
  (o', d.setGroup o.classRef g)

/-- Removes the object of a class and number. -/
def removeObject (d : Document) (c : ClassRef) (n : UInt32) : Option PropertyObject × Document :=
  (d.object? c n, { d with objects := d.objects.modify c fun g => g.erase n })

/-- Whether two views are equal; the order of fields and classes does not matter. -/
def same (a b : Document) : Bool :=
  a.ref = b.ref && a.language = b.language && a.defaultLanguage = b.defaultLanguage
    && a.isLocalized = b.isLocalized
    && a.fields.sameContent (fun v w => v = w) b.fields
    && a.objects.sameContent (Numbered.same PropertyObject.same) b.objects
    && match a.schema, b.schema with
      | none, none => true
      | some s, some t => s.sameContent (fun v w => v = w) t
      | _, _ => false

/-! ### Laws -/

theorem group_setGroup (d : Document) (c c' : ClassRef) (g : Numbered PropertyObject) :
    (d.setGroup c g).group c' = if c = c' then g else d.group c' := by
  rw [group, setGroup, OrderedMap.get?_insert]
  split <;> rfl

theorem group_modifyObject (d : Document) (c c' : ClassRef) (n : UInt32) (f : PropertyObject → PropertyObject) :
    (d.modifyObject c n f).group c' = if c' = c then (d.group c').modify n f else d.group c' := by
  rw [group, modifyObject, OrderedMap.get?_modify]
  split
  · rw [group]
    cases d.objects.get? c' <;> rfl
  · rfl

theorem group_removeObject (d : Document) (c c' : ClassRef) (n : UInt32) :
    (d.removeObject c n).2.group c' = if c' = c then (d.group c').erase n else d.group c' := by
  rw [group, removeObject, OrderedMap.get?_modify]
  split
  · rw [group]
    cases d.objects.get? c' <;> rfl
  · rfl

theorem group_putNext (d : Document) (c c' : ClassRef) (o : PropertyObject) :
    (d.putNext c o).group c' =
      if c = c' then (d.group c).insert (d.group c).nextNumber o else d.group c' :=
  group_setGroup d c c' _

theorem object?_setGroup (d : Document) (c c' : ClassRef) (g : Numbered PropertyObject) (n : UInt32) :
    (d.setGroup c g).object? c' n = if c = c' then g.get? n else d.object? c' n := by
  rw [object?, group_setGroup]
  split <;> rfl

/-- Storing an object under a class and number leaves all others. -/
theorem object?_setGroup_insert (d : Document) (c c' : ClassRef) (n k : UInt32) (o : PropertyObject) :
    (d.setGroup c ((d.group c).insert n o)).object? c' k =
      if c' = c ∧ k = n then some o else d.object? c' k := by
  rw [object?_setGroup]
  by_cases hc : c = c'
  · subst hc
    simp only [if_true, true_and, Numbered.get?_insert, object?, eq_comm]
  · simp [hc, Ne.symm hc]

theorem object?_putNext (d : Document) (c c' : ClassRef) (k : UInt32) (o : PropertyObject) :
    (d.putNext c o).object? c' k =
      if c' = c ∧ k = (d.group c).nextNumber then some o else d.object? c' k :=
  object?_setGroup_insert d c c' _ k o

/-- A new object of a class is put under the next number, or the object that is there stays. -/
theorem addObject_eq (d : Document) (c : ClassDef) (guid : Guid) :
    d.addObject c guid = ((d.addObject c guid).1, d.putNext c.classRef (d.addObject c guid).1) := by
  simp only [addObject, Numbered.insertNew_eq, putNext]

/-- Replacing the object under the next number after an addition is putting the other one there. -/
theorem modifyObject_addObject (d : Document) (c : ClassDef) (guid : Guid) (o : PropertyObject) :
    ((d.addObject c guid).2.modifyObject c.classRef (d.group c.classRef).nextNumber fun _ => o) =
      d.putNext c.classRef o := by
  rw [addObject_eq]
  simp only [putNext, setGroup, modifyObject, OrderedMap.modify_insert, Numbered.modify_insert]

/-- Whether one more object of a class gets a number of its own: none of them has the last number, or none has 0, which
comes next after it. -/
def HasRoom (d : Document) (c : ClassRef) : Prop := (d.group c).HasRoom

/-- The room in a class depends on its objects only. -/
theorem HasRoom.congr {d d' : Document} {c : ClassRef} (room : d.HasRoom c) (same : d'.group c = d.group c) :
    d'.HasRoom c := by
  rw [HasRoom, same]
  exact room

/-- No object is under the next number exactly if there is room. -/
theorem object?_nextNumber_eq_none_iff {d : Document} {c : ClassRef} :
    d.object? c (d.group c).nextNumber = none ↔ d.HasRoom c := Numbered.get?_nextNumber_eq_none_iff

/-- Where there is room, an addition is one of a new object. -/
theorem addObject_of_hasRoom {d : Document} {c : ClassDef} (room : d.HasRoom c.classRef) (guid : Guid) :
    (d.addObject c guid).1 = PropertyObject.create d.ref c (d.group c.classRef).nextNumber guid := by
  have free : (d.group c.classRef).get? (d.group c.classRef).nextNumber = none :=
    object?_nextNumber_eq_none_iff.2 room
  simp only [addObject, Numbered.insertNew_eq, free, Option.getD_none]

/-- Where there is none, the object that has the next number stands in for it. -/
theorem addObject_of_taken {d : Document} {c : ClassDef} {o : PropertyObject}
    (taken : d.object? c.classRef (d.group c.classRef).nextNumber = some o) (guid : Guid) :
    (d.addObject c guid).1 = o := by
  have held : (d.group c.classRef).get? (d.group c.classRef).nextNumber = some o := taken
  simp only [addObject, Numbered.insertNew_eq, held, Option.getD_some]

/-- Changing the object of a class and number leaves all others. -/
theorem object?_modifyObject (d : Document) (c c' : ClassRef) (n k : UInt32) (f : PropertyObject → PropertyObject) :
    (d.modifyObject c n f).object? c' k =
      if c' = c ∧ k = n then (d.object? c' k).map f else d.object? c' k := by
  rw [object?, group_modifyObject]
  by_cases hc : c' = c
  · simp only [hc, if_true, true_and, Numbered.get?_modify, object?]
  · simp [hc, object?]

/-- Removing the object of a class and number leaves all others. -/
theorem object?_removeObject (d : Document) (c c' : ClassRef) (n k : UInt32) :
    (d.removeObject c n).2.object? c' k = if c' = c ∧ k = n then none else d.object? c' k := by
  rw [object?, group_removeObject]
  by_cases hc : c' = c
  · simp only [hc, if_true, true_and, Numbered.get?_erase, object?, eq_comm]
  · simp [hc, object?]

/-- Replacing the objects of a class exchanges their number. -/
theorem objectCount_setGroup (d : Document) (c : ClassRef) (g : Numbered PropertyObject) :
    (d.setGroup c g).objectCount + (d.group c).size = d.objectCount + g.size := by
  have size : ∀ g : Numbered PropertyObject, g.size = g.values.length := fun g => (List.length_map _).symm
  have former : (d.group c).values = (d.objects.get? c).elim [] Numbered.values := by
    rw [group]
    cases d.objects.get? c <;> rfl
  rw [size, size, former]
  exact OrderedMap.length_flatMap_insert Numbered.values d.objects c g

theorem mem_objectsOf_iff {d : Document} {c : ClassRef} {o : PropertyObject} :
    o ∈ d.objectsOf c ↔ ∃ n, d.object? c n = some o :=
  Numbered.mem_values_iff

/-- The objects of all classes and numbers are all objects. -/
theorem mem_allObjects_iff {d : Document} {o : PropertyObject} :
    o ∈ d.allObjects ↔ ∃ c n, d.object? c n = some o := by
  simp only [allObjects, List.mem_flatMap, OrderedMap.mem_values_iff, Numbered.mem_values_iff]
  constructor
  · rintro ⟨g, ⟨c, hc⟩, n, hn⟩
    refine ⟨c, n, ?_⟩
    rw [object?, group, hc]
    exact hn
  · rintro ⟨c, n, hn⟩
    cases hc : d.objects.get? c with
    | none => simp [object?, group, hc] at hn
    | some g =>
      refine ⟨g, ⟨c, hc⟩, n, ?_⟩
      simpa [object?, group, hc] using hn

theorem mem_classRefs_iff {d : Document} {c : ClassRef} : c ∈ d.classRefs ↔ d.objectsOf c ≠ [] := by
  simp only [classRefs, List.mem_map, List.mem_filter, objectsOf, group]
  constructor
  · rintro ⟨⟨c, g⟩, ⟨hg, hne⟩, rfl⟩
    rw [OrderedMap.get?_eq_some_iff.2 hg]
    simpa using hne
  · intro hne
    cases hc : d.objects.get? c with
    | none => simp [hc, Numbered.values, Numbered.empty] at hne
    | some g =>
      refine ⟨(c, g), ⟨OrderedMap.get?_eq_some_iff.1 hc, ?_⟩, rfl⟩
      simpa [hc] using hne

theorem nodup_classRefs (d : Document) : d.classRefs.Nodup :=
  d.objects.nodup_keys.sublist (List.filter_sublist.map _)

end Document

end TypedWiki
