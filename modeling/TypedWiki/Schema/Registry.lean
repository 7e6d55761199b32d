import TypedWiki.Schema.Class
import TypedWiki.Schema.Error

/-!
# Class registries — the classes that a program knows
-/

namespace TypedWiki

/-- Class definitions by reference, in order of registration. -/
structure ClassRegistry where
  classes : OrderedMap ClassRef ClassDef
  /-- A definition is registered under its own reference. -/
  classRef_of_get? : ∀ c k, classes.get? c = some k → k.classRef = c

namespace ClassRegistry

/-- The registry without classes. -/
def empty : ClassRegistry := ⟨OrderedMap.empty, fun _ _ h => nomatch h⟩

instance : EmptyCollection ClassRegistry := ⟨empty⟩

/-- The registry with one more class. -/
def insert (r : ClassRegistry) (c : ClassDef) : ClassRegistry where
  classes := r.classes.insert c.classRef c
  classRef_of_get? := by
    intro c' k h
    rw [OrderedMap.get?_insert] at h
    split at h
    · rename_i hc
      rw [← Option.some.inj h, hc]
    · exact r.classRef_of_get? c' k h

/-- Registers a class; a second definition of one reference is refused. -/
def register (r : ClassRegistry) (c : ClassDef) : Except ClassError ClassRegistry :=
  if r.classes.contains c.classRef then .error (.duplicate c.classRef) else .ok (r.insert c)

/-- The class of a reference. -/
def get? (r : ClassRegistry) (c : ClassRef) : Option ClassDef := r.classes.get? c

/-- The class of a reference; an unknown one is an error. -/
def require (r : ClassRegistry) (c : ClassRef) : Except ClassError ClassDef :=
  match r.get? c with
  | some d => .ok d
  | none => .error (.unknown c)

/-- The class of a written reference. -/
def getByName? (r : ClassRegistry) (name : String) : Option ClassDef :=
  match ClassRef.parse name with
  | .ok c => r.get? c
  | .error _ => none

/-- Whether a class is registered. -/
def contains (r : ClassRegistry) (c : ClassRef) : Bool := r.classes.contains c

/-- The classes in order of registration. -/
def toList (r : ClassRegistry) : List ClassDef := r.classes.values

/-- The number of classes. -/
def size (r : ClassRegistry) : Nat := r.classes.size

/-! ### Laws -/

theorem get?_insert (r : ClassRegistry) (k : ClassDef) (c : ClassRef) :
    (r.insert k).get? c = if k.classRef = c then some k else r.get? c :=
  OrderedMap.get?_insert r.classes k.classRef c k

/-- The classes are listed in the order of their references. -/
theorem map_classRef_toList (r : ClassRegistry) : r.toList.map ClassDef.classRef = r.classes.keys := by
  rw [toList, OrderedMap.values, OrderedMap.keys, List.map_map]
  refine List.map_congr_left fun e he => ?_
  exact r.classRef_of_get? e.1 e.2 (OrderedMap.get?_eq_some_iff.2 he)

/-- A class that is registered is found under its reference, and so are those that were registered before. -/
theorem get?_of_register {r r' : ClassRegistry} {k : ClassDef} (h : r.register k = .ok r') :
    r'.get? k.classRef = some k ∧ ∀ c k', r.get? c = some k' → r'.get? c = some k' := by
  rw [register] at h
  by_cases taken : r.classes.contains k.classRef = true
  · simp [taken] at h
  · rw [if_neg taken, Except.ok.injEq] at h
    subst h
    refine ⟨by rw [get?_insert, if_pos rfl], fun c k' found => ?_⟩
    have other : k.classRef ≠ c := by
      rintro rfl
      exact taken (Option.isSome_iff_exists.2 ⟨k', found⟩)
    rw [get?_insert, if_neg other, found]

end ClassRegistry

end TypedWiki
