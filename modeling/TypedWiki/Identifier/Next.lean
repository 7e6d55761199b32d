import TypedWiki.Document.Basic
import TypedWiki.Identifier.Packing

/-!
# The next identifier — the first free ordinal on a document

Ordinals are tried from one upwards until the identifier of one is not in use by an object with a packed
identifier.  Different ordinals give different identifiers, so one more try than there are used identifiers is
enough.
-/

namespace TypedWiki

/-- The packed identifier of an object, if it has one. -/
def PropertyObject.packedId? (o : PropertyObject) : Option ObjectId :=
  match o.id with
  | some (id, .packed) => some id
  | _ => none

/-- The packed identifiers of the objects of a document. -/
def Document.packedIds (d : Document) : List ObjectId := d.allObjects.filterMap PropertyObject.packedId?

namespace IdLayout

/-- The identifier for an ordinal on a document, without collisions. -/
def ordinalId (l : IdLayout) (d : Document) (ordinal : Nat) : ObjectId :=
  l.packWords (documentHash d.ref d.language) 0 ordinal.toUInt64

/-- The ordinals that are tried. -/
def candidateOrdinals (l : IdLayout) (used : Nat) : List Nat :=
  List.range' 1 (min (l.ordinalLimit - 1) (used + 1))

/-- The identifier for the first ordinal whose identifier is free. -/
def nextId (l : IdLayout) (d : Document) : Except IdError ObjectId :=
  let used := d.packedIds
  match ((l.candidateOrdinals used.length).map (l.ordinalId d)).find? (!used.contains ·) with
  | some id => .ok id
  | none => .error (.outOfRange ordinalCountName l.ordinalLimit.toUInt64.toInt64.toInt l.ordinalLimit)

end IdLayout

/-! ### Laws -/

theorem PropertyObject.packedId?_eq_some_iff {o : PropertyObject} {id : ObjectId} :
    o.packedId? = some id ↔ o.id = some (id, .packed) := by
  rw [packedId?]
  split
  · rename_i id' hid
    simp [hid]
  · rename_i other
    simp only [reduceCtorEq, false_iff]
    exact other id

theorem Document.mem_packedIds_iff {d : Document} {id : ObjectId} :
    id ∈ d.packedIds ↔ ∃ c n o, d.object? c n = some o ∧ o.id = some (id, .packed) := by
  simp only [packedIds, List.mem_filterMap, mem_allObjects_iff, PropertyObject.packedId?_eq_some_iff]
  constructor
  · rintro ⟨o, ⟨c, n, ho⟩, hid⟩
    exact ⟨c, n, o, ho, hid⟩
  · rintro ⟨c, n, o, ho, hid⟩
    exact ⟨o, ⟨c, n, ho⟩, hid⟩

end TypedWiki
