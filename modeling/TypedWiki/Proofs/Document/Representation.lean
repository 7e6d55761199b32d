import Mathlib.Data.List.Basic
import TypedWiki.Proofs.Document.Reachable

/-!
# Representation of documents — every object at one place, listed once

The class and the number of an object are stored twice, in the object and as its place on the document, and so is the
reference of the document.  Listings go through the places, so what they give rests on the places being distinct and
on the objects agreeing with them.

* `Document.placed`: the objects with their places; `nodup_places`, `mem_placed_iff`.
* `Document.Gains`, `Document.Loses`: one object more, at a place that was free, and at most one object less.
* `Document.Takes`: an object can be inserted under a free number.
* `Document.KeptIn`: all objects of a document are on another one as they are.
* `Document.Represented`: objects agree with their places, listings are complete, without repetitions and in order, and
  documents grow and shrink by single objects.
* `Reachable.represented`: this holds of every reachable document.
-/

namespace TypedWiki

namespace Document

/-! ### Places -/

/-- The objects with the classes and numbers under which they are stored. -/
def placed (d : Document) : List ((ClassRef × UInt32) × PropertyObject) :=
  d.objects.entries.flatMap fun g => g.2.entries.map fun e => ((g.1, e.1), e.2)

theorem map_snd_placed (d : Document) : d.placed.map Prod.snd = d.allObjects := by
  rw [placed, allObjects, OrderedMap.values, List.map_flatMap, List.flatMap_map]
  refine List.flatMap_congr fun g _ => ?_
  rw [List.map_map]
  rfl

/-- No two objects are stored at one place. -/
theorem nodup_places (d : Document) : (d.placed.map Prod.fst).Nodup := by
  have classes := List.pairwise_map.1 d.objects.nodup_keys
  refine List.pairwise_map.2 (List.pairwise_flatMap.2 ⟨fun g _ => ?_, classes.imp fun {g g'} hne p hp p' hp' => ?_⟩)
  · have numbers := List.pairwise_map.1 g.2.nodup_numbers
    refine List.pairwise_map.2 (numbers.imp fun {e e'} hne heq => ?_)
    exact hne (congrArg Prod.snd heq)
  · obtain ⟨e, -, rfl⟩ := List.mem_map.1 hp
    obtain ⟨e', -, rfl⟩ := List.mem_map.1 hp'
    intro (heq : (g.1, e.1) = (g'.1, e'.1))
    exact hne (Prod.mk.inj heq).1

theorem mem_placed_iff {d : Document} {c : ClassRef} {n : UInt32} {o : PropertyObject} :
    ((c, n), o) ∈ d.placed ↔ d.object? c n = some o := by
  simp only [placed, List.mem_flatMap, List.mem_map, Prod.mk.injEq]
  constructor
  · rintro ⟨⟨c', g⟩, hg, ⟨n', o'⟩, ho, ⟨rfl, rfl⟩, rfl⟩
    rw [object?, group, OrderedMap.get?_eq_some_iff.2 hg]
    exact Numbered.get?_eq_some_iff.2 ho
  · intro h
    rw [object?, group] at h
    cases hg : d.objects.get? c with
    | none => simp [hg] at h
    | some g =>
      rw [hg] at h
      exact ⟨(c, g), OrderedMap.get?_eq_some_iff.1 hg, (n, o), Numbered.get?_eq_some_iff.1 h, ⟨rfl, rfl⟩, rfl⟩

/-! ### One object more or less -/

/-- A document with one object more than another, at a place that was free; all other places are as they were. -/
structure Gains (d : Document) (o : PropertyObject) (d' : Document) : Prop where
  objectCount_eq : d'.objectCount = d.objectCount + 1
  free : d.object? o.classRef o.number = none
  added : d'.object? o.classRef o.number = some o
  others : ∀ c n, ¬ (c = o.classRef ∧ n = o.number) → d'.object? c n = d.object? c n

/-- A document without the object of a class and number, if there was one; all other places are as they were. -/
structure Loses (d : Document) (c : ClassRef) (n : UInt32) (o : Option PropertyObject) (d' : Document) : Prop where
  removed : o = d.object? c n
  free : d'.object? c n = none
  others : ∀ c' n', ¬ (c' = c ∧ n' = n) → d'.object? c' n' = d.object? c' n'
  objectCount_eq : d'.objectCount + o.toList.length = d.objectCount

/-- An object that is stored at a free place of its own is one object more. -/
theorem gains_insert {d : Document} {o : PropertyObject} (free : d.object? o.classRef o.number = none) :
    d.Gains o (d.setGroup o.classRef ((d.group o.classRef).insert o.number o)) := by
  refine ⟨?_, free, ?_, fun c n hne => ?_⟩
  · have count := objectCount_setGroup d o.classRef ((d.group o.classRef).insert o.number o)
    rw [Numbered.size_insert free] at count
    omega
  · rw [object?_setGroup_insert, if_pos ⟨rfl, rfl⟩]
  · rw [object?_setGroup_insert, if_neg hne]

/-- Where there is room, a new object gets the next number, which is free. -/
theorem gains_addObject {d : Document} {c : ClassDef} (room : d.HasRoom c.classRef) (guid : Guid) :
    d.Gains (d.addObject c guid).1 (d.addObject c guid).2 := by
  have free : d.object? c.classRef (d.group c.classRef).nextNumber = none := object?_nextNumber_eq_none_iff.2 room
  rw [addObject_eq, addObject_of_hasRoom room]
  exact gains_insert free

/-- An object can be inserted into a document: its own number is free, or there is room for another one. -/
def Takes (d : Document) (o : PropertyObject) : Prop := d.object? o.classRef o.number = none ∨ d.HasRoom o.classRef

/-- An inserted object is stored under a free number, as it is but for its document and number. -/
theorem insertObject_of_takes {d : Document} {o : PropertyObject} (takes : d.Takes o) :
    ∃ n, d.object? o.classRef n = none ∧
      d.insertObject o = ({ o with document := d.ref, number := n },
        d.setGroup o.classRef ((d.group o.classRef).insert n { o with document := d.ref, number := n })) := by
  -- the number is kept where it is free
  obtain ⟨n, chosen, free⟩ : ∃ n, (if (d.group o.classRef).contains o.number then (d.group o.classRef).nextNumber
      else o.number) = n ∧ (d.group o.classRef).get? n = none := by
    refine ⟨_, rfl, ?_⟩
    split
    · rename_i taken
      have room : d.HasRoom o.classRef := by
        refine takes.resolve_left fun free => ?_
        have free : (d.group o.classRef).get? o.number = none := free
        rw [Numbered.contains, free] at taken
        cases taken
      exact Numbered.get?_nextNumber_eq_none_iff.2 room
    · rename_i free
      exact Option.not_isSome_iff_eq_none.1 free
  refine ⟨n, free, ?_⟩
  simp only [insertObject, chosen, Numbered.insertNew_eq, free, Option.getD_none]

theorem gains_insertObject {d : Document} {o : PropertyObject} (takes : d.Takes o) :
    (∃ n, (d.insertObject o).1 = { o with document := d.ref, number := n }) ∧
      d.Gains (d.insertObject o).1 (d.insertObject o).2 := by
  obtain ⟨n, free, inserted⟩ := insertObject_of_takes takes
  rw [inserted]
  exact ⟨⟨n, rfl⟩, gains_insert free⟩

theorem loses_removeObject (d : Document) (c : ClassRef) (n : UInt32) :
    d.Loses c n (d.removeObject c n).1 (d.removeObject c n).2 := by
  refine ⟨rfl, ?_, fun c' n' hne => ?_, ?_⟩
  · rw [object?_removeObject, if_pos ⟨rfl, rfl⟩]
  · rw [object?_removeObject, if_neg hne]
  · show (d.removeObject c n).2.objectCount + (d.object? c n).toList.length = d.objectCount
    cases hg : d.objects.get? c with
    | none =>
      -- the class was never used, so nothing is removed
      have same : (d.removeObject c n).2 = d := by
        rw [removeObject, OrderedMap.modify_of_get?_eq_none hg]
      have none : d.object? c n = none := by
        rw [object?, group, hg]
        rfl
      rw [same, none]
      rfl
    | some g =>
      have group_eq : d.group c = g := by
        rw [group, hg]
        rfl
      have erased : (d.removeObject c n).2 = d.setGroup c (g.erase n) := by
        rw [removeObject, OrderedMap.modify_of_get? hg, setGroup]
      have count := objectCount_setGroup d c (g.erase n)
      have size := g.size_erase n
      rw [group_eq] at count
      rw [erased, object?, group_eq]
      omega

/-- Every object of a document is on another one, at its place and as it is. -/
def KeptIn (d d' : Document) : Prop := ∀ c n o, d.object? c n = some o → d'.object? c n = some o

theorem KeptIn.refl (d : Document) : d.KeptIn d := fun _ _ _ h => h

theorem KeptIn.trans {d d' d'' : Document} (h : d.KeptIn d') (h' : d'.KeptIn d'') : d.KeptIn d'' :=
  fun c n o ho => h' c n o (h c n o ho)

/-- Where there is room, an object under the next number takes no other's place. -/
theorem keptIn_putNext {d : Document} {c : ClassRef} (room : d.HasRoom c) (o : PropertyObject) :
    d.KeptIn (d.putNext c o) := by
  intro c' n p hp
  have hne : ¬ (c' = c ∧ n = (d.group c).nextNumber) := by
    rintro ⟨rfl, rfl⟩
    rw [object?_nextNumber_eq_none_iff.2 room] at hp
    cases hp
  rw [object?_putNext, if_neg hne]
  exact hp

/-- Where there is room, there was no object under the next number before. -/
theorem putNext_ne {d : Document} {c : ClassRef} (room : d.HasRoom c) (o : PropertyObject) : d.putNext c o ≠ d := by
  intro same
  have put := d.object?_putNext c c (d.group c).nextNumber o
  rw [if_pos ⟨rfl, rfl⟩, same, object?_nextNumber_eq_none_iff.2 room] at put
  cases put

/-! ### The invariant -/

/-- How a document holds its objects. -/
structure Represented (d : Document) : Prop where
  /-- An object stored under a class and number has this class, this number and the reference of the document. -/
  fits : ∀ c n o, d.object? c n = some o → o.classRef = c ∧ o.number = n ∧ o.document = d.ref
  /-- The objects of a class are listed, by increasing numbers. -/
  mem_objectsOf_iff : ∀ c o, o ∈ d.objectsOf c ↔ d.object? c o.number = some o
  increasing : ∀ c, (d.objectsOf c).Pairwise (·.number < ·.number)
  /-- Every object is listed among all objects, once. -/
  mem_allObjects_iff : ∀ o, o ∈ d.allObjects ↔ d.object? o.classRef o.number = some o
  nodup_allObjects : (d.allObjects.map (·.identity)).Nodup
  /-- The classes with objects are listed, once. -/
  mem_classRefs_iff : ∀ c, c ∈ d.classRefs ↔ ∃ n o, d.object? c n = some o
  nodup_classRefs : d.classRefs.Nodup
  /-- Where there is room, a new object is one object more, of its class. -/
  addObject : ∀ k guid, d.HasRoom k.classRef → (d.addObject k guid).1.classRef = k.classRef ∧
    d.Gains (d.addObject k guid).1 (d.addObject k guid).2
  /-- An inserted object is one object more, and it keeps all but its document and number. -/
  insertObject : ∀ o, d.Takes o → (∃ n, (d.insertObject o).1 = { o with document := d.ref, number := n }) ∧
    d.Gains (d.insertObject o).1 (d.insertObject o).2
  /-- A removal takes away the object of its class and number and no other. -/
  removeObject : ∀ c n, d.Loses c n (d.removeObject c n).1 (d.removeObject c n).2

theorem WellFormed.fits {d : Document} (h : d.WellFormed) {c : ClassRef} {n : UInt32} {o : PropertyObject}
    (ho : d.object? c n = some o) : o.classRef = c ∧ o.number = n ∧ o.document = d.ref := by
  obtain ⟨document, classRef, number⟩ := PropertyObject.identity_eq_mk_iff.1 (h c n o ho)
  exact ⟨classRef, number, document⟩

/-- The objects of a class are listed by increasing numbers. -/
theorem WellFormed.pairwise_number {d : Document} (h : d.WellFormed) (c : ClassRef) :
    (d.objectsOf c).Pairwise (·.number < ·.number) := by
  have sorted := List.pairwise_map.1 (d.group c).sorted
  have number : ∀ e ∈ (d.group c).entries, e.2.number = e.1 := fun e he =>
    (h.fits (Numbered.get?_eq_some_iff.2 he)).2.1
  refine List.pairwise_map.2 (sorted.imp_of_mem fun {e e'} he he' hlt => ?_)
  rw [number e he, number e' he']
  exact hlt

/-- Objects that agree with their places are told apart by them. -/
theorem WellFormed.nodup_allObjects {d : Document} (h : d.WellFormed) : (d.allObjects.map (·.identity)).Nodup := by
  rw [← map_snd_placed, List.map_map]
  have places := List.pairwise_map.1 d.nodup_places
  refine List.pairwise_map.2 (places.imp_of_mem fun {p p'} hp hp' hne heq => hne ?_)
  have identity : p.2.identity = ⟨d.ref, p.1.1, p.1.2⟩ := h p.1.1 p.1.2 p.2 (mem_placed_iff.1 hp)
  have identity' : p'.2.identity = ⟨d.ref, p'.1.1, p'.1.2⟩ := h p'.1.1 p'.1.2 p'.2 (mem_placed_iff.1 hp')
  have same : (⟨d.ref, p.1.1, p.1.2⟩ : ObjectIdentity) = ⟨d.ref, p'.1.1, p'.1.2⟩ :=
    identity.symm.trans (heq.trans identity')
  exact Prod.ext (congrArg ObjectIdentity.classRef same) (congrArg ObjectIdentity.number same)

/-- **Every reachable document represents its objects**: they agree with their places, are listed completely, once and
in order, and are added, as long as there is room, and removed one at a time. -/
theorem Reachable.represented {d : Document} (reachable : d.Reachable) : d.Represented := by
  have wf := reachable.wellFormed
  refine ⟨fun c n o ho => wf.fits ho, fun c o => ?_, wf.pairwise_number, fun o => ?_, wf.nodup_allObjects, fun c => ?_,
    d.nodup_classRefs, fun k guid room => ⟨?_, gains_addObject room guid⟩, fun o => gains_insertObject,
    d.loses_removeObject⟩
  · rw [mem_objectsOf_iff]
    refine ⟨fun ⟨n, hn⟩ => ?_, fun ho => ⟨_, ho⟩⟩
    rw [(wf.fits hn).2.1]
    exact hn
  · rw [mem_allObjects_iff]
    refine ⟨fun ⟨c, n, hn⟩ => ?_, fun ho => ⟨_, _, ho⟩⟩
    rw [(wf.fits hn).1, (wf.fits hn).2.1]
    exact hn
  · rw [mem_classRefs_iff, ne_eq, List.eq_nil_iff_forall_not_mem]
    simp only [mem_objectsOf_iff, not_forall, not_not]
    exact exists_comm
  · rw [addObject_of_hasRoom room]
    rfl

/-- A class of comments without fields. -/
def comment : ClassDef := ⟨⟨"Blog", "CommentClass"⟩, .standard, false, []⟩

/-- A post with two comments; the second one was the first comment of another document. -/
def commentedPost : Document :=
  (((Document.create ⟨"xwiki", "Blog", "Post"⟩).addObject comment 0).2.insertObject
    (PropertyObject.create ⟨"de", "Blog", "Entry"⟩ comment 0 1)).2

theorem represented_commentedPost : commentedPost.Reachable ∧ commentedPost.Represented := by
  have reachable : commentedPost.Reachable :=
    .change (.change (.create _) (.addObject _ comment 0)) (.insertObject _ _)
  exact ⟨reachable, reachable.represented⟩

/-- The comment from the other document was renumbered. -/
example : commentedPost.allObjects.map (·.identity) =
    [⟨⟨"xwiki", "Blog", "Post"⟩, comment.classRef, 0⟩, ⟨⟨"xwiki", "Blog", "Post"⟩, comment.classRef, 1⟩] := by rfl

end Document

end TypedWiki
