import TypedWiki.Query.Restriction

/-!
# Queries — restrictions that hold together

A query is a set of restrictions in order of insertion.  For objects of a class only those restrictions count that
are scoped to the class or not scoped at all, so that one query can filter several classes.
-/

namespace TypedWiki

/-- A set of restrictions in order of insertion. -/
structure Query where
  restrictions : List Restriction

namespace Query

/-- The query without restrictions. -/
def empty : Query := ⟨[]⟩

instance : EmptyCollection Query := ⟨empty⟩
instance : Inhabited Query := ⟨empty⟩

/-- Whether an equal restriction is in the query. -/
def contains (q : Query) (r : Restriction) : Bool := q.restrictions.any r.same

/-- Adds a restriction; tells whether no equal one was there. -/
def add (q : Query) (r : Restriction) : Bool × Query :=
  if q.contains r then (false, q) else (true, ⟨q.restrictions ++ [r]⟩)

/-- The query with one more restriction. -/
def filter (q : Query) (r : Restriction) : Query := (q.add r).2

/-- Adds restrictions one after the other. -/
def addAll (q : Query) (rs : List Restriction) : Query := rs.foldl filter q

/-- The query of some restrictions. -/
def ofList (rs : List Restriction) : Query := empty.addAll rs

/-- Adds every restriction of another query. -/
def merge (q p : Query) : Query := q.addAll p.restrictions

/-- Objects of a class. -/
def filterClass (q : Query) (c : ClassRef) : Query := q.filter (.ofClass c)

/-- Objects with one of the values in a field. -/
def filterField (q : Query) (f : FieldDef) (values : List Value) : Query := q.filter (.fieldAnyOf f values)

/-- Exactly one object. -/
def filterObject (hash : ObjectIdentity → UInt64) (q : Query) (o : PropertyObject) : Query :=
  (q.filterClass o.classRef).filter (.anyOf hash [o])

/-- Exactly the given objects. -/
def filterObjects (hash : ObjectIdentity → UInt64) (q : Query) (os : List PropertyObject) : Query :=
  (os.foldl (fun q o => q.filterClass o.classRef) q).filter (.anyOf hash os)

/-- The restrictions that count for objects of a class. -/
def scopedTo (q : Query) (c : ClassRef) : List Restriction :=
  q.restrictions.filter fun r => r.scope?.all (· = c)

/-- Whether an object satisfies the restrictions that count for a class. -/
def matchesIn (q : Query) (c : ClassRef) (a : ObjectAccessor) (o : PropertyObject) : Bool :=
  (q.scopedTo c).all fun r => r.appliesTo a o

/-- The classes that the query names, in order of first mention. -/
def classRefs (q : Query) : List ClassRef := (q.restrictions.filterMap Restriction.scope?).eraseDups

/-- The field restrictions on a class: fields and candidate values. -/
def fieldRestrictions (q : Query) (c : ClassRef) : List (FieldDef × List Value) :=
  q.restrictions.filterMap fun
    | .field f candidates => if f.classRef = c then some (f, candidates) else none
    | _ => none

/-- The number of restrictions. -/
def size (q : Query) : Nat := q.restrictions.length

/-- Whether two queries have equal restrictions, in whatever order. -/
def same (q p : Query) : Bool := q.size == p.size && q.restrictions.all p.contains

/-! ### Laws -/

theorem mem_scopedTo_iff {q : Query} {c : ClassRef} {r : Restriction} :
    r ∈ q.scopedTo c ↔ r ∈ q.restrictions ∧ (r.scope? = none ∨ r.scope? = some c) := by
  rw [scopedTo, List.mem_filter]
  cases r.scope? <;> simp

theorem matchesIn_iff {q : Query} {c : ClassRef} {a : ObjectAccessor} {o : PropertyObject} :
    q.matchesIn c a o = true ↔
      ∀ r ∈ q.restrictions, r.scope? = none ∨ r.scope? = some c → r.appliesTo a o = true := by
  simp only [matchesIn, List.all_eq_true, mem_scopedTo_iff, and_imp]

/-- A query names the classes to which its restrictions are scoped. -/
theorem mem_classRefs_iff {q : Query} {c : ClassRef} :
    c ∈ q.classRefs ↔ ∃ r ∈ q.restrictions, r.scope? = some c := by
  rw [classRefs, List.mem_eraseDups, List.mem_filterMap]

theorem nodup_eraseDups {α : Type} [DecidableEq α] (l : List α) : l.eraseDups.Nodup := by
  match l with
  | [] => exact List.Pairwise.nil
  | a :: l =>
    have shorter : (l.filter fun b => !b == a).length < (a :: l).length :=
      Nat.lt_succ_of_le (List.length_filter_le _ l)
    rw [List.eraseDups_cons]
    refine List.nodup_cons.2 ⟨fun ha => ?_, nodup_eraseDups _⟩
    simpa using (List.mem_filter.1 (List.mem_eraseDups.1 ha)).2
  termination_by l.length
  decreasing_by exact shorter

/-- It names each of them once. -/
theorem nodup_classRefs (q : Query) : q.classRefs.Nodup := nodup_eraseDups _

theorem classRefs_eq_nil_iff {q : Query} : q.classRefs = [] ↔ ∀ r ∈ q.restrictions, r.scope? = none := by
  rw [List.eq_nil_iff_forall_not_mem]
  constructor
  · intro h r hr
    rw [Option.eq_none_iff_forall_ne_some]
    exact fun c hc => h c (mem_classRefs_iff.2 ⟨r, hr, hc⟩)
  · intro h c hc
    obtain ⟨r, hr, hscope⟩ := mem_classRefs_iff.1 hc
    rw [h r hr] at hscope
    cases hscope

end Query

end TypedWiki
