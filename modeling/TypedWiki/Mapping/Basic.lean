import TypedWiki.Mapping.Error
import TypedWiki.Object.Access
import TypedWiki.Record.Access

/-!
# Mappings — records from objects and objects from records

A mapping copies the fields of one class between a record and an object.  A field that either side does not have is
skipped, so the other side keeps what it holds; any other field error stops the copy.  Fields copied before the
error stay copied.
-/

namespace TypedWiki

/-- A mapping between records and the objects of one class. -/
structure Mapping (β : Type) where
  records : RecordAccessor β
  objects : ObjectAccessor := {}
  /-- The record that a conversion starts from, once it is set. -/
  blank : Option β := none
  /-- The class of the objects, once it is set. -/
  classDef : Option ClassDef := none

namespace Mapping

variable {β : Type}

/-- The name of the starting record in errors. -/
def supplierName : String := "instance supplier"

/-- The name of the class in errors. -/
def className : String := "class definition"

/-- Sets the record that conversions start from; it can be set once. -/
def setBlank (m : Mapping β) (b : β) : Except MappingError (Mapping β) :=
  match m.blank with
  | none => .ok { m with blank := some b }
  | some _ => .error (.alreadyInitialized supplierName)

/-- Sets the class; it can be set once. -/
def setClass (m : Mapping β) (c : ClassDef) : Except MappingError (Mapping β) :=
  match m.classDef with
  | none => .ok { m with classDef := some c }
  | some _ => .error (.alreadyInitialized className)

/-- The class, which has to be set. -/
def requireClass (m : Mapping β) : Except MappingError ClassDef :=
  match m.classDef with
  | some c => .ok c
  | none => .error (.notInitialized className)

/-- The starting record, which has to be set. -/
def requireBlank (m : Mapping β) : Except MappingError β :=
  match m.blank with
  | some b => .ok b
  | none => .error (.notInitialized supplierName)

/-- The class, which has to be that of an object. -/
def requireClassOf (m : Mapping β) (o : PropertyObject) : Except MappingError ClassDef :=
  match m.requireClass with
  | .error e => .error e
  | .ok c => if c.classRef = o.classRef then .ok c else .error (.classMismatch c.classRef o.classRef)

/-- What is read from the source of a copy: nothing at all for a field it does not have. -/
def readField (f : FieldDef) (read : Except FieldError (Option Value)) :
    Except MappingError (Option (Option Value)) :=
  match read with
  | .ok v => .ok (some v)
  | .error (.missing ..) => .ok none
  | .error e => .error (.conversion f.name e)

/-- What is written to the target of a copy, which stays as it is for a field it does not have. -/
def writeField {τ : Type} (f : FieldDef) (target : τ) (written : Except FieldError (Bool × τ)) :
    Except MappingError (Bool × τ) :=
  match written with
  | .ok r => .ok r
  | .error (.missing ..) => .ok (false, target)
  | .error e => .error (.conversion f.name e)

/-- Copies one field; the target comes back with the change told or with the error. -/
def copyField {τ : Type} (read : FieldDef → Except FieldError (Option Value))
    (write : τ → FieldDef → Option Value → Except FieldError (Bool × τ)) (f : FieldDef) (target : τ) :
    Except MappingError (Bool × τ) :=
  match readField f (read f) with
  | .error e => .error e
  | .ok none => .ok (false, target)
  | .ok (some v) => writeField f target (write target f v)

/-- Copies fields one after the other; what was copied before an error stays. -/
def copyFields {τ : Type} (read : FieldDef → Except FieldError (Option Value))
    (write : τ → FieldDef → Option Value → Except FieldError (Bool × τ)) :
    List FieldDef → Bool → τ → Except MappingError Bool × τ
  | [], changed, target => (.ok changed, target)
  | f :: fs, changed, target =>
    match copyField read write f target with
    | .error e => (.error e, target)
    | .ok (c, target) => copyFields read write fs (changed || c) target

/-- The record with the fields of an object. -/
def toRecord (m : Mapping β) (o : PropertyObject) : Except MappingError β :=
  match m.requireClassOf o with
  | .error e => .error e
  | .ok c =>
    match m.requireBlank with
    | .error e => .error e
    | .ok b =>
      match copyFields (m.objects.get o) m.records.set c.fields false b with
      | (.error e, _) => .error e
      | (.ok _, b) => .ok b

/-- Copies the fields of a record to an object; tells whether any of them changed. -/
def applyTo (m : Mapping β) (b : β) (o : PropertyObject) : Except MappingError Bool × PropertyObject :=
  match m.requireClassOf o with
  | .error e => (.error e, o)
  | .ok c => copyFields (m.records.get b) m.objects.set c.fields false o

/-! ### Laws -/

section Copy

variable {τ : Type} {read : FieldDef → Except FieldError (Option Value)}
  {write : τ → FieldDef → Option Value → Except FieldError (Bool × τ)} {value : FieldDef → Option Value}

theorem copyField_of_ok {f : FieldDef} {target : τ} {v : Option Value} {r : Bool × τ} (hread : read f = .ok v)
    (hwrite : write target f v = .ok r) : copyField read write f target = .ok r := by
  simp only [copyField, readField, hread, writeField, hwrite]

theorem copyFields_cons_of_ok {f : FieldDef} {fs : List FieldDef} {target target' : τ} {v : Option Value}
    {changed c : Bool} (hread : read f = .ok v) (hwrite : write target f v = .ok (c, target')) :
    copyFields read write (f :: fs) changed target = copyFields read write fs (changed || c) target' := by
  rw [copyFields, copyField_of_ok hread hwrite]

/-- Whether a target has a value in a field already. -/
def Holds (write : τ → FieldDef → Option Value → Except FieldError (Bool × τ)) (target : τ) (f : FieldDef)
    (v : Option Value) : Prop := write target f v = .ok (false, target)

/-- Writing the values of some fields succeeds on every target with a property, which it keeps; the field holds its
value then, and so does each of the others that held it before. -/
def Settles (write : τ → FieldDef → Option Value → Except FieldError (Bool × τ)) (value : FieldDef → Option Value)
    (fs : List FieldDef) (P : τ → Prop) : Prop :=
  ∀ f ∈ fs, ∀ target, P target → ∃ changed target',
    write target f (value f) = .ok (changed, target') ∧ P target' ∧ Holds write target' f (value f) ∧
      ∀ g ∈ fs, g ≠ f → Holds write target g (value g) → Holds write target' g (value g)

/-- A copy through such writes succeeds, and all its fields hold their values then. -/
theorem copyFields_of_settles {all : List FieldDef} {P : τ → Prop} (reads : ∀ f ∈ all, read f = .ok (value f))
    (settles : Settles write value all P) (fs : List FieldDef) (hfs : ∀ f ∈ fs, f ∈ all) (changed : Bool) (target : τ)
    (h : P target) :
    ∃ changed' target', copyFields read write fs changed target = (.ok changed', target') ∧ P target' ∧
      ∀ g ∈ all, g ∈ fs ∨ Holds write target g (value g) → Holds write target' g (value g) := by
  -- throughout the copy a field is still listed or holds its value already
  induction fs generalizing changed target with
  | nil => exact ⟨changed, target, rfl, h, fun g _ hg => hg.resolve_left List.not_mem_nil⟩
  | cons f fs ih =>
    have hf : f ∈ all := hfs f List.mem_cons_self
    obtain ⟨c, target', written, kept, holds, others⟩ := settles f hf target h
    rw [copyFields_cons_of_ok (reads f hf) written]
    obtain ⟨changed'', target'', copied, kept', holds'⟩ :=
      ih (fun g hg => hfs g (List.mem_cons_of_mem f hg)) (changed || c) target' kept
    refine ⟨changed'', target'', copied, kept', fun g hg which => holds' g hg ?_⟩
    by_cases same : g = f
    · exact .inr (same ▸ holds)
    · rcases which with listed | held
      · exact .inl ((List.mem_cons.1 listed).resolve_left same)
      · exact .inr (others g hg same held)

/-- A copy to a target whose fields hold their values changes nothing. -/
theorem copyFields_of_holds {fs : List FieldDef} {target : τ} (reads : ∀ f ∈ fs, read f = .ok (value f))
    (holds : ∀ f ∈ fs, Holds write target f (value f)) (changed : Bool) :
    copyFields read write fs changed target = (.ok changed, target) := by
  induction fs with
  | nil => rfl
  | cons f fs ih =>
    rw [copyFields_cons_of_ok (reads f List.mem_cons_self) (holds f List.mem_cons_self), Bool.or_false]
    exact ih (fun g hg => reads g (List.mem_cons_of_mem f hg)) (fun g hg => holds g (List.mem_cons_of_mem f hg))

end Copy

theorem requireClassOf_of_classRef {m : Mapping β} {c : ClassDef} {o : PropertyObject} (h : m.classDef = some c)
    (same : c.classRef = o.classRef) : m.requireClassOf o = .ok c := by
  simp only [requireClassOf, requireClass, h, same, if_true]

end Mapping

end TypedWiki
