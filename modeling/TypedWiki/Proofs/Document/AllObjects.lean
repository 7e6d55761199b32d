import TypedWiki.Proofs.Document.Representation

/-!
# All objects at once — changing and dropping objects throughout a document

Changes and removals of single objects go through places, their effects are better told by objects: these are changed,
those are dropped, and everything else on the document is as it was, order and empty classes included.

* `Document.mapObjects`: every object changed, at its place.
* `Document.without`: some objects dropped, the others at their places.
* `modifyObject_mapObjects`, `removeObject_eq_without`: where objects agree with their places, changing and removing
  the object of a class and number are of this kind.
-/

namespace TypedWiki

/-- The values that pass a test, under their numbers. -/
def Numbered.filter {ν : Type} (p : ν → Bool) (m : Numbered ν) : Numbered ν :=
  ⟨m.entries.filter fun e => p e.2, m.sorted.sublist (List.filter_sublist.map _)⟩

namespace Numbered

variable {ν : Type} {p q : ν → Bool} {m : Numbered ν}

theorem eq_of_entries {m' : Numbered ν} (h : m.entries = m'.entries) : m = m' := by
  cases m
  cases m'
  cases h
  rfl

theorem values_filter (p : ν → Bool) (m : Numbered ν) : (m.filter p).values = m.values.filter p :=
  List.filter_map.symm

theorem filter_congr (same : ∀ e ∈ m.entries, p e.2 = q e.2) : m.filter p = m.filter q :=
  eq_of_entries (List.filter_congr same)

theorem filter_filter (p q : ν → Bool) (m : Numbered ν) : (m.filter p).filter q = m.filter fun v => p v && q v :=
  eq_of_entries (by simp [filter, List.filter_filter, Bool.and_comm])

@[simp] theorem filter_true (m : Numbered ν) : (m.filter fun _ => true) = m := eq_of_entries (List.filter_true _)

theorem get?_filter (p : ν → Bool) (m : Numbered ν) (n : UInt32) : (m.filter p).get? n = (m.get? n).filter p := by
  refine Option.ext fun v => ?_
  rw [get?_eq_some_iff, Option.filter_eq_some_iff, get?_eq_some_iff]
  exact List.mem_filter

end Numbered

namespace Document

variable {d : Document} {c : ClassRef} {n : UInt32} {o : PropertyObject}

/-- The document with every object changed, at its place. -/
def mapObjects (g : PropertyObject → PropertyObject) (d : Document) : Document :=
  { d with objects := d.objects.mapValues fun _ group => group.mapValues fun _ o => g o }

/-- The document without some objects, the others at their places; a class keeps its place even without objects. -/
def without (os : List PropertyObject) (d : Document) : Document :=
  { d with objects := d.objects.mapValues fun _ group => group.filter (· ∉ os) }

theorem object?_of_mem_entries {e : ClassRef × Numbered PropertyObject} (he : e ∈ d.objects.entries)
    {i : UInt32 × PropertyObject} (hi : i ∈ e.2.entries) : d.object? e.1 i.1 = some i.2 :=
  mem_placed_iff.1 (List.mem_flatMap.2 ⟨e, he, List.mem_map_of_mem hi⟩)

/-! ### Changed objects -/

section Map

variable {g h : PropertyObject → PropertyObject}

theorem group_mapObjects (g : PropertyObject → PropertyObject) (d : Document) (c : ClassRef) :
    (d.mapObjects g).group c = (d.group c).mapValues fun _ o => g o := by
  rw [group, group, mapObjects, OrderedMap.get?_mapValues]
  cases d.objects.get? c <;> rfl

theorem object?_mapObjects (g : PropertyObject → PropertyObject) (d : Document) (c : ClassRef) (n : UInt32) :
    (d.mapObjects g).object? c n = (d.object? c n).map g := by
  rw [object?, group_mapObjects, Numbered.get?_mapValues]
  rfl

theorem mapObjects_congr (same : ∀ c n o, d.object? c n = some o → g o = h o) : d.mapObjects g = d.mapObjects h := by
  refine congrArg (fun objects => { d with objects := objects }) (OrderedMap.mapValues_congr fun e he => ?_)
  exact Numbered.mapValues_congr fun i hi => same e.1 i.1 i.2 (object?_of_mem_entries he hi)

/-- Changing no object changes nothing. -/
theorem mapObjects_of_eq (same : ∀ c n o, d.object? c n = some o → g o = o) : d.mapObjects g = d := by
  rw [mapObjects_congr same, mapObjects]
  simp only [Numbered.mapValues_self, OrderedMap.mapValues_self]

/-- On a well-formed document an object is at one place only. -/
theorem WellFormed.eq_iff (wf : d.WellFormed) {c' : ClassRef} {n' : UInt32} {o' : PropertyObject}
    (there : d.object? c n = some o) (there' : d.object? c' n' = some o') : c' = c ∧ n' = n ↔ o' = o := by
  constructor
  · rintro ⟨rfl, rfl⟩
    exact Option.some.inj (there'.symm.trans there)
  · rintro rfl
    obtain ⟨hc, hn, -⟩ := wf.fits there
    obtain ⟨hc', hn', -⟩ := wf.fits there'
    exact ⟨hc'.symm.trans hc, hn'.symm.trans hn⟩

/-- Replacing the object at a place is replacing this object, also where objects were changed before. -/
theorem modifyObject_mapObjects (wf : d.WellFormed) (there : d.object? c n = some o) (p : PropertyObject) :
    ((d.mapObjects g).modifyObject c n fun _ => p) = d.mapObjects fun q => if q = o then p else g q := by
  simp only [mapObjects, modifyObject, OrderedMap.modify, Numbered.modify, OrderedMap.mapValues_mapValues]
  refine congrArg (fun objects => { d with objects := objects }) (OrderedMap.mapValues_congr fun e he => ?_)
  by_cases hc : e.1 = c
  · rw [if_pos hc, Numbered.mapValues_mapValues]
    refine Numbered.mapValues_congr fun i hi => ?_
    have place := wf.eq_iff there (object?_of_mem_entries he hi)
    rw [and_iff_right hc] at place
    simp only [place]
  · rw [if_neg hc]
    refine Numbered.mapValues_congr fun i hi => ?_
    have place := wf.eq_iff there (object?_of_mem_entries he hi)
    exact (if_neg fun same => hc (place.2 same).1).symm

end Map

/-! ### Dropped objects -/

section Without

variable {os os' : List PropertyObject}

theorem group_without (os : List PropertyObject) (d : Document) (c : ClassRef) :
    (d.without os).group c = (d.group c).filter (· ∉ os) := by
  rw [group, group, without, OrderedMap.get?_mapValues]
  cases d.objects.get? c <;> rfl

theorem objectsOf_without (os : List PropertyObject) (d : Document) (c : ClassRef) :
    (d.without os).objectsOf c = (d.objectsOf c).filter (· ∉ os) := by
  rw [objectsOf, group_without, Numbered.values_filter]
  rfl

theorem object?_without (os : List PropertyObject) (d : Document) (c : ClassRef) (n : UInt32) :
    (d.without os).object? c n = (d.object? c n).filter (· ∉ os) := by
  rw [object?, group_without]
  exact Numbered.get?_filter _ (d.group c) n

@[simp] theorem without_nil (d : Document) : d.without [] = d := by
  simp only [without, List.not_mem_nil, not_false_eq_true, decide_true, Numbered.filter_true, OrderedMap.mapValues_self]

theorem without_without (os os' : List PropertyObject) (d : Document) :
    (d.without os).without os' = d.without (os ++ os') := by
  simp only [without, OrderedMap.mapValues_mapValues, Numbered.filter_filter, List.mem_append, not_or, Bool.decide_and]

theorem WellFormed.without (wf : d.WellFormed) (os : List PropertyObject) : (d.without os).WellFormed := by
  intro c n o ho
  rw [object?_without] at ho
  exact wf c n o (Option.filter_eq_some_iff.1 ho).1

/-- Removing the object at a place is dropping this object. -/
theorem removeObject_eq_without (wf : d.WellFormed) (there : d.object? c n = some o) :
    (d.removeObject c n).2 = d.without [o] := by
  refine congrArg (fun objects => { d with objects := objects }) (OrderedMap.mapValues_congr fun e he => ?_)
  by_cases hc : e.1 = c
  · rw [if_pos hc]
    refine Numbered.eq_of_entries (List.filter_congr fun i hi => ?_)
    have place := wf.eq_iff there (object?_of_mem_entries he hi)
    rw [and_iff_right hc] at place
    simp only [ne_eq, place, List.mem_singleton]
  · rw [if_neg hc]
    refine (Numbered.filter_true e.2).symm.trans (Numbered.filter_congr fun i hi => ?_)
    have place := wf.eq_iff there (object?_of_mem_entries he hi)
    have other : i.2 ∉ [o] := fun same => hc (place.2 (List.mem_singleton.1 same)).1
    exact (decide_eq_true other).symm

end Without

end Document

end TypedWiki
