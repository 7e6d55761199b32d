import Mathlib.Data.List.Nodup
import TypedWiki.Proofs.Document.AllObjects
import TypedWiki.Proofs.Selection.Answer

/-!
# Matches — the objects that a query finds on a document, as one list

A query that names no class looks at the classes with objects only.  A class without objects has no match, so the list
of matches is the same when all classes of the document are looked at, and these stay while objects are dropped.

* `Selection.matched`: the matches, over classes that do not depend on which objects there are.
* `objects_live`: what the live bridge finds.
* `mem_matched_iff`: the objects that match as ones of their class.
* `matched_without`: matches are dropped as the objects of the document are.
* `filter_matched`: the matches of one class are those among its objects.
-/

namespace TypedWiki

namespace Selection

variable {r : ClassRegistry} {a : ObjectAccessor} {d : Document} {q : Query} {c : ClassRef} {o : PropertyObject}

/-- The classes in which matches can be: those that the query names, or all of the document when it names none. -/
def candidates (d : Document) (q : Query) : List ClassRef :=
  if q.classRefs = [] then d.objects.keys else q.classRefs

/-- The matches on a document, class by class. -/
def matched (a : ObjectAccessor) (d : Document) (q : Query) : List PropertyObject :=
  (candidates d q).flatMap fun c => (d.objectsOf c).filter (q.matchesIn c a)

/-! ### What the live bridge finds -/

theorem flatMap_matchGroups (cs : List ClassRef) :
    (matchGroups a d q cs).flatMap Prod.snd = cs.flatMap fun c => (d.objectsOf c).filter (q.matchesIn c a) := by
  induction cs with
  | nil => rfl
  | cons c cs ih =>
    rw [List.flatMap_cons, ← ih, matchGroups, List.map_cons, List.filter_cons]
    by_cases none : (d.objectsOf c).filter (q.matchesIn c a) = []
    · simp [none, matchGroups]
    · simp [none, matchGroups]

/-- Nothing is found in a class without objects. -/
theorem flatMap_classRefs {α : Type} (g : ClassRef → List α) (empty : ∀ c, d.objectsOf c = [] → g c = []) :
    d.classRefs.flatMap g = d.objects.keys.flatMap g := by
  have found : ∀ es : List (ClassRef × Numbered PropertyObject), (∀ e ∈ es, e ∈ d.objects.entries) →
      ((es.filter fun e => !e.2.values.isEmpty).map (·.1)).flatMap g = (es.map Prod.fst).flatMap g := by
    intro es
    induction es with
    | nil => exact fun _ => rfl
    | cons e es ih =>
      intro listed
      have rest := ih fun e' he' => listed e' (List.mem_cons_of_mem e he')
      rw [List.map_cons, List.flatMap_cons, ← rest, List.filter_cons]
      by_cases none : e.2.values = []
      · have objects : d.objectsOf e.1 = [] := by
          rw [Document.objectsOf, Document.group, OrderedMap.get?_eq_some_iff.2 (listed e List.mem_cons_self)]
          exact none
        simp [none, empty e.1 objects]
      · simp [none]
  exact found d.objects.entries fun _ he => he

theorem flatMap_scannedClasses (r : ClassRegistry) (a : ObjectAccessor) (d : Document) (q : Query) :
    ((scannedClasses (.live r a) d q).flatMap fun c => (d.objectsOf c).filter (q.matchesIn c a)) = matched a d q := by
  unfold scannedClasses matched candidates
  by_cases named : q.classRefs = []
  · rw [if_pos named, if_pos named]
    exact flatMap_classRefs _ fun c none => by rw [none]; rfl
  · rw [if_neg named, if_neg named]

/-- **The live bridge finds the matches** on a primary document. -/
theorem objects_live (primary : d.isPrimary = true) : objects ⟨.live r a, d, q⟩ = .ok (matched a d q) := by
  rw [objects, groups_live primary, ← flatMap_scannedClasses r, ← flatMap_matchGroups]
  rfl

/-! ### Which objects match -/

theorem candidates_nodup (d : Document) (q : Query) : (candidates d q).Nodup := by
  unfold candidates
  split
  · exact d.objects.nodup_keys
  · exact q.nodup_classRefs

/-- On a well-formed document the matches are the objects that match as ones of their class. -/
theorem mem_matched_iff (wf : d.WellFormed) : o ∈ matched a d q ↔ o ∈ d.allObjects ∧ q.Selects a o.classRef o := by
  rw [← flatMap_scannedClasses ∅, List.mem_flatMap]
  simp only [← matches_iff wf]
  constructor
  · rintro ⟨c, there, rfl, selects⟩
    exact ⟨there, selects⟩
  · rintro ⟨there, selects⟩
    exact ⟨o.classRef, there, rfl, selects⟩

/-- On a well-formed document a match is at its place. -/
theorem object?_of_mem_matched (wf : d.WellFormed) (h : o ∈ matched a d q) :
    d.object? o.classRef o.number = some o := by
  obtain ⟨c, -, hc⟩ := List.mem_flatMap.1 h
  obtain ⟨n, there⟩ := Document.mem_objectsOf_iff.1 (List.mem_filter.1 hc).1
  obtain ⟨rfl, rfl, -⟩ := wf.fits there
  exact there

/-- Every match is listed once. -/
theorem nodup_matched (wf : d.WellFormed) : (matched a d q).Nodup := by
  refine List.nodup_flatMap.2 ⟨fun c _ => ?_, (candidates_nodup d q).imp fun {c c'} ne o ho ho' => ne ?_⟩
  · have distinct : (d.objectsOf c).Nodup := (wf.pairwise_number c).imp fun {o o'} lt (same : o = o') => by
      rw [same] at lt
      exact Nat.lt_irrefl _ lt
    exact distinct.filter _
  · have classRef := (wf.mem_objectsOf_iff.1 (List.mem_filter.1 ho).1).2
    have classRef' := (wf.mem_objectsOf_iff.1 (List.mem_filter.1 ho').1).2
    exact classRef.symm.trans classRef'

/-- **What is dropped from a document is dropped from the matches**, and nothing else. -/
theorem matched_without (a : ObjectAccessor) (d : Document) (q : Query) (os : List PropertyObject) :
    matched a (d.without os) q = (matched a d q).filter (· ∉ os) := by
  have classes : candidates (d.without os) q = candidates d q := by
    rw [candidates, candidates, Document.without, OrderedMap.keys_mapValues]
  simp only [matched, classes, Document.objectsOf_without, List.filter_flatMap, List.filter_filter, Bool.and_comm]

/-- Where objects are listed class by class, those of one class are listed together. -/
theorem filter_flatMap {cs : List ClassRef} (nodup : cs.Nodup) {g : ClassRef → List PropertyObject}
    (own : ∀ c, ∀ o ∈ g c, o.classRef = c) (c : ClassRef) :
    (cs.flatMap g).filter (·.classRef = c) = if c ∈ cs then g c else [] := by
  induction cs with
  | nil => rfl
  | cons c' cs ih =>
    obtain ⟨fresh, rest⟩ := List.nodup_cons.1 nodup
    rw [List.flatMap_cons, List.filter_append, ih rest]
    by_cases same : c' = c
    · subst same
      have all : (g c').filter (·.classRef = c') = g c' :=
        List.filter_eq_self.2 fun o ho => decide_eq_true (own c' o ho)
      rw [all, if_neg fresh, if_pos List.mem_cons_self, List.append_nil]
    · have none : (g c').filter (·.classRef = c) = [] := by
        refine List.filter_eq_nil_iff.2 fun o ho => ?_
        rw [own c' o ho, decide_eq_true_eq]
        exact same
      rw [none, List.nil_append]
      exact if_congr (List.mem_cons.trans (or_iff_right (Ne.symm same))).symm rfl rfl

/-- The matches of one class are those among its objects, if the class is looked at. -/
theorem filter_matched (wf : d.WellFormed) (r : ClassRegistry) (c : ClassRef) :
    (matched a d q).filter (·.classRef = c) =
      if c ∈ scannedClasses (.live r a) d q then (d.objectsOf c).filter (q.matchesIn c a) else [] := by
  have nodup : (scannedClasses (.live r a) d q).Nodup := by
    unfold scannedClasses
    by_cases named : q.classRefs = []
    · rw [if_pos named]
      exact d.nodup_classRefs
    · rw [if_neg named]
      exact q.nodup_classRefs
  rw [← flatMap_scannedClasses r]
  exact filter_flatMap nodup (fun c o ho => (wf.mem_objectsOf_iff.1 (List.mem_filter.1 ho).1).2) c

end Selection

end TypedWiki
