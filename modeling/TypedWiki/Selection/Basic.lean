import TypedWiki.Bridge.Basic
import TypedWiki.Error
import TypedWiki.Mapping.Basic
import TypedWiki.Query.Basic

/-!
# Selections — the objects of a document that match a query

Only the classes that the query names are looked at, or every class of the document when it names none.  Matches
come class by class and within a class by number; a class without matches is left out.
-/

namespace TypedWiki

/-- A query on a document through a bridge. -/
structure Selection where
  bridge : Bridge
  document : Document
  query : Query := Query.empty

namespace Selection

/-- A selection that matches nothing and looks at no document. -/
def empty : Selection := ⟨Bridge.empty, Document.create ⟨"", "", ""⟩, Query.empty⟩

/-- The classes that are looked at. -/
def scannedClasses (b : Bridge) (d : Document) (q : Query) : List ClassRef :=
  let named := q.classRefs
  if named = [] then b.classesOn d else named

/-- The matches in one class. -/
def matchesOf (s : Selection) (c : ClassRef) : Except BridgeError (List PropertyObject) :=
  match s.bridge.objectsOf s.document c with
  | .ok objects => .ok (objects.filter (s.query.matchesIn c s.bridge.accessor))
  | .error e => .error e

/-- The matches in one class, listed with the numbers under which they are stored. -/
def entriesIn (s : Selection) (c : ClassRef) : Except BridgeError (List (UInt32 × PropertyObject)) :=
  match s.bridge.entriesOf s.document c with
  | .ok entries => .ok (entries.filter fun e => s.query.matchesIn c s.bridge.accessor e.2)
  | .error e => .error e

/-- The matches in several classes. -/
def groupsIn (s : Selection) : List ClassRef → Except BridgeError (List (ClassRef × List PropertyObject))
  | [] => .ok []
  | c :: cs =>
    match s.matchesOf c with
    | .error e => .error e
    | .ok objects =>
      match s.groupsIn cs with
      | .error e => .error e
      | .ok groups => .ok (if objects = [] then groups else (c, objects) :: groups)

/-- The matches by class. -/
def groups (s : Selection) : Except Error (List (ClassRef × List PropertyObject)) :=
  (s.groupsIn (scannedClasses s.bridge s.document s.query)).mapError .bridge

/-- All matches. -/
def objects (s : Selection) : Except Error (List PropertyObject) :=
  s.groups.map fun groups => groups.flatMap (·.2)

/-- The number of matches. -/
def count (s : Selection) : Except Error Nat := s.objects.map (·.length)

/-- The first match. -/
def first (s : Selection) : Except Error (Option PropertyObject) := s.objects.map (·.head?)

/-- Whether there is a match. -/
def exists? (s : Selection) : Except Error Bool := s.first.map (·.isSome)

/-- The only match, if there is one; several are an error. -/
def unique (s : Selection) : Except Error (Option PropertyObject) :=
  match s.objects with
  | .error e => .error e
  | .ok [] => .ok none
  | .ok [o] => .ok (some o)
  | .ok os => .error (.selection (.notUnique os.length))

/-- The values of a field on objects of its class; unset ones are left out. -/
def valuesOf (a : ObjectAccessor) (f : FieldDef) : List PropertyObject → Except FieldError (List Value)
  | [] => .ok []
  | o :: os =>
    if o.classRef ≠ f.classRef then valuesOf a f os
    else match a.get o f with
      | .error e => .error e
      | .ok v =>
        match valuesOf a f os with
        | .error e => .error e
        | .ok vs => .ok (v.toList ++ vs)

/-- The values of a field on the matches of its class. -/
def fieldValues (s : Selection) (f : FieldDef) : Except Error (List Value) :=
  match s.objects with
  | .error e => .error e
  | .ok os => (valuesOf s.bridge.accessor f os).mapError .field

/-- The records of objects. -/
def recordsOf {β : Type} (m : Mapping β) : List PropertyObject → Except MappingError (List β)
  | [] => .ok []
  | o :: os =>
    match m.toRecord o with
    | .error e => .error e
    | .ok b =>
      match recordsOf m os with
      | .error e => .error e
      | .ok bs => .ok (b :: bs)

/-- The records of the matches of the mapped class. -/
def records {β : Type} (s : Selection) (m : Mapping β) : Except Error (List β) :=
  match m.requireClass with
  | .error e => .error (.mapping e)
  | .ok c =>
    match s.objects with
    | .error e => .error e
    | .ok os => (recordsOf m (os.filter (·.classRef = c.classRef))).mapError .mapping

/-! ### Laws -/

theorem matchesOf_eq_ok_iff {s : Selection} {c : ClassRef} {os : List PropertyObject} :
    s.matchesOf c = .ok os ↔ ∃ objects, s.bridge.objectsOf s.document c = .ok objects ∧
      os = objects.filter (s.query.matchesIn c s.bridge.accessor) := by
  rw [matchesOf]
  cases s.bridge.objectsOf s.document c with
  | error e => simp
  | ok objects => simp [eq_comm]

/-- On a primary document the live bridge finds the matches of a class among its objects. -/
theorem matchesOf_live {r : ClassRegistry} {a : ObjectAccessor} {d : Document} (primary : d.isPrimary = true)
    (q : Query) (c : ClassRef) :
    matchesOf ⟨.live r a, d, q⟩ c = .ok ((d.objectsOf c).filter (q.matchesIn c a)) :=
  matchesOf_eq_ok_iff.2 ⟨d.objectsOf c, Bridge.objectsOf_live primary c, rfl⟩

/-- The matches on a document in some classes, class by class; classes without matches are left out. -/
def matchGroups (a : ObjectAccessor) (d : Document) (q : Query) (cs : List ClassRef) :
    List (ClassRef × List PropertyObject) :=
  (cs.map fun c => (c, (d.objectsOf c).filter (q.matchesIn c a))).filter (·.2 ≠ [])

section MatchGroups

variable {a : ObjectAccessor} {d : Document} {q : Query} {cs : List ClassRef} {c : ClassRef} {os : List PropertyObject}

theorem mem_matchGroups_iff :
    (c, os) ∈ matchGroups a d q cs ↔ c ∈ cs ∧ os = (d.objectsOf c).filter (q.matchesIn c a) ∧ os ≠ [] := by
  simp only [matchGroups, List.mem_filter, List.mem_map, Prod.mk.injEq, decide_eq_true_eq]
  constructor
  · rintro ⟨⟨c', hc, rfl, rfl⟩, hne⟩
    exact ⟨hc, rfl, hne⟩
  · rintro ⟨hc, rfl, hne⟩
    exact ⟨⟨c, hc, rfl, rfl⟩, hne⟩

theorem mem_keys_matchGroups_iff :
    c ∈ (matchGroups a d q cs).map Prod.fst ↔ c ∈ cs ∧ (d.objectsOf c).filter (q.matchesIn c a) ≠ [] := by
  simp only [List.mem_map, Prod.exists, exists_and_right, exists_eq_right, mem_matchGroups_iff]
  constructor
  · rintro ⟨os, hc, rfl, hne⟩
    exact ⟨hc, hne⟩
  · rintro ⟨hc, hne⟩
    exact ⟨_, hc, rfl, hne⟩

theorem keys_matchGroups_sublist : ((matchGroups a d q cs).map Prod.fst).Sublist cs := by
  have all : (cs.map fun c => (c, (d.objectsOf c).filter (q.matchesIn c a))).map Prod.fst = cs := by
    rw [List.map_map]
    exact List.map_id cs
  have sublist : ((matchGroups a d q cs).map Prod.fst).Sublist _ := List.filter_sublist.map Prod.fst
  rw [all] at sublist
  exact sublist

theorem groupsIn_live {r : ClassRegistry} (primary : d.isPrimary = true) :
    groupsIn ⟨.live r a, d, q⟩ cs = .ok (matchGroups a d q cs) := by
  induction cs with
  | nil => rfl
  | cons c cs ih =>
    simp only [groupsIn, matchesOf_live primary, ih, matchGroups, List.map_cons, List.filter_cons]
    by_cases h : (d.objectsOf c).filter (q.matchesIn c a) = []
    · rw [if_pos h, if_neg (by simp [h])]
    · rw [if_neg h, if_pos (by simpa using h)]

/-- On a primary document the live bridge finds the matches in the classes that are scanned. -/
theorem groups_live {r : ClassRegistry} (primary : d.isPrimary = true) :
    groups ⟨.live r a, d, q⟩ = .ok (matchGroups a d q (scannedClasses (.live r a) d q)) := by
  rw [groups, groupsIn_live primary]
  rfl

end MatchGroups

/-- Through the empty bridge nothing matches. -/
theorem groups_empty (d : Document) (q : Query) : groups ⟨.empty, d, q⟩ = .ok [] := by
  have none : ∀ cs, groupsIn ⟨.empty, d, q⟩ cs = .ok [] := by
    intro cs
    induction cs with
    | nil => rfl
    | cons c cs ih =>
      rw [groupsIn, ih]
      rfl
  rw [groups, none]
  rfl

/-- A selection fails only where its bridge does. -/
theorem groups_eq_error {s : Selection} {err : Error} (h : s.groups = .error err) : ∃ cause, err = .bridge cause := by
  rw [groups] at h
  cases hg : s.groupsIn (scannedClasses s.bridge s.document s.query) with
  | ok groups =>
    rw [hg] at h
    cases h
  | error cause =>
    rw [hg] at h
    exact ⟨cause, (Except.error.inj h).symm⟩

/-- The matches in a class are among its objects. -/
theorem object?_of_entriesIn_eq_ok {s : Selection} {c : ClassRef} {entries : List (UInt32 × PropertyObject)}
    (h : s.entriesIn c = .ok entries) {n : UInt32} {o : PropertyObject} (ho : (n, o) ∈ entries) :
    s.document.object? c n = some o := by
  rw [entriesIn] at h
  cases hb : s.bridge.entriesOf s.document c with
  | error err => simp [hb] at h
  | ok all =>
    simp only [hb, Except.ok.injEq] at h
    rw [← h] at ho
    exact Bridge.object?_of_entriesOf_eq_ok hb (List.mem_filter.1 ho).1

end Selection

end TypedWiki
