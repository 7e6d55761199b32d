import TypedWiki.Selection.Edit

/-!
# Reachable documents — what every sequence of operations keeps

A document starts empty and is changed by the operations of documents, bridges and editors, of which a failing one may
have changed it too.

* `Document.Change`: one operation.
* `Document.Reachable`: any number of them.
* `Document.WellFormed`: an object stored under a class and number has this class, this number and the reference of
  the document.
* `wellFormed_change`, `Reachable.wellFormed`: every operation keeps this.
-/

namespace TypedWiki

namespace Document

/-- One operation on a document, of the document itself, through a bridge or by an editor. -/
inductive Change : Document → Document → Prop where
  | setLanguage (d : Document) (language : String) : Change d { d with language := language }
  | setDefaultLanguage (d : Document) (language : String) : Change d { d with defaultLanguage := language }
  | setField (d : Document) (name : String) (v : Option Value) : Change d (d.setField name v).2
  | setSchema (d : Document) (schema : OrderedMap String String) : Change d { d with schema := some schema }
  | addObject (d : Document) (c : ClassDef) (guid : Guid) : Change d (d.addObject c guid).2
  | insertObject (d : Document) (o : PropertyObject) : Change d (d.insertObject o).2
  | removeObject (d : Document) (c : ClassRef) (n : UInt32) : Change d (d.removeObject c n).2
  | setProperty (d : Document) (c : ClassRef) (n : UInt32) (name : String) (v : Option Value) :
    Change d (d.modifyObject c n fun o => (o.setProperty name v).2)
  | setId (d : Document) (c : ClassRef) (n : UInt32) (id : ObjectId) (version : IdVersion) :
    Change d (d.modifyObject c n fun o => o.withId id version)
  | setObjectField {d : Document} {c : ClassRef} {n : UInt32} {o o' : PropertyObject} {a : ObjectAccessor} {f : FieldDef}
    {v : Option Value} {changed : Bool} (there : d.object? c n = some o) (set : a.set o f v = .ok (changed, o')) :
    Change d (d.modifyObject c n fun _ => o')
  | setDocumentField {d d' : Document} {f : FieldDef} {v : Option Value} {changed : Bool}
    (set : DocumentAccess.set d f v = .ok (changed, d')) : Change d d'
  | createObject {d d' : Document} {b : Bridge} {c : ClassRef} {guid : Guid} {o : PropertyObject}
    (created : b.createObject d c guid = .ok (o, d')) : Change d d'
  | deleteObject {d d' : Document} {b : Bridge} {c : ClassRef} {n : UInt32} {o : Option PropertyObject}
    (deleted : b.deleteObject d c n = .ok (o, d')) : Change d d'
  | create (e : Editor) (w : Workspace) : Change w.document (e.create w).2.document
  | createFirst (e : Editor) (w : Workspace) : Change w.document (e.createFirst w).2.document
  | createIfNotExists (e : Editor) (w : Workspace) : Change w.document (e.createIfNotExists w).2.document
  | editField (e : Editor) (f : FieldDef) (firstOnly : Bool) (v : Option Value) (d : Document) :
    Change d (e.editField f firstOnly v d).2
  | deleteFirst (e : Editor) (d : Document) : Change d (e.deleteFirst d).2
  | deleteAll (e : Editor) (d : Document) : Change d (e.deleteAll d).2

/-- The documents that start empty and are changed by operations. -/
inductive Reachable : Document → Prop where
  | create (ref : DocumentRef) : Reachable (Document.create ref)
  | createLocalized (ref : DocumentRef) (language : String) : Reachable (Document.createLocalized ref language)
  | change {d d' : Document} (reachable : Reachable d) (change : Change d d') : Reachable d'

/-- An object belongs to the place where it is stored. -/
def Fits (d : Document) (c : ClassRef) (n : UInt32) (o : PropertyObject) : Prop := o.identity = ⟨d.ref, c, n⟩

/-- Every object belongs to the place where it is stored. -/
def WellFormed (d : Document) : Prop := ∀ c n o, d.object? c n = some o → d.Fits c n o

/-! ### Single objects -/

theorem wellFormed_of_objects_eq {d d' : Document} (h : d.WellFormed) (ho : d'.objects = d.objects)
    (hr : d'.ref = d.ref) : d'.WellFormed := by
  intro c n o hget
  rw [Fits, hr]
  refine h c n o ?_
  rw [← hget, object?, object?, group, group, ho]

theorem wellFormed_insert {d : Document} (h : d.WellFormed) {c : ClassRef} {n : UInt32} {o : PropertyObject}
    (ho : d.Fits c n o) : (d.setGroup c ((d.group c).insert n o)).WellFormed := by
  intro c' k p hget
  rw [object?_setGroup_insert] at hget
  split at hget
  · rename_i place
    obtain ⟨rfl, rfl⟩ := place
    rw [← Option.some.inj hget]
    exact ho
  · exact h c' k p hget

theorem wellFormed_modifyObject {d : Document} (h : d.WellFormed) {c : ClassRef} {n : UInt32}
    {f : PropertyObject → PropertyObject} (hf : ∀ o, d.object? c n = some o → d.Fits c n (f o)) :
    (d.modifyObject c n f).WellFormed := by
  intro c' k p hget
  rw [object?_modifyObject] at hget
  split at hget
  · rename_i hk
    obtain ⟨rfl, rfl⟩ := hk
    obtain ⟨o, ho, rfl⟩ := Option.map_eq_some_iff.1 hget
    exact hf o ho
  · exact h c' k p hget

/-- What is under a number belongs there, be it found there or put there. -/
theorem WellFormed.getD_fits {d : Document} (h : d.WellFormed) {c : ClassRef} {n : UInt32} {o : PropertyObject}
    (ho : d.Fits c n o) : d.Fits c n (((d.group c).get? n).getD o) := by
  cases held : (d.group c).get? n with
  | none => exact ho
  | some p => exact h c n p held

/-- The object of an addition belongs under the next number, be it new or the one that was there. -/
theorem WellFormed.fits_addObject {d : Document} (h : d.WellFormed) (c : ClassDef) (guid : Guid) :
    d.Fits c.classRef (d.group c.classRef).nextNumber (d.addObject c guid).1 := by
  simp only [addObject, Numbered.insertNew_eq]
  exact h.getD_fits rfl

theorem wellFormed_addObject {d : Document} (h : d.WellFormed) (c : ClassDef) (guid : Guid) :
    (d.addObject c guid).2.WellFormed := by
  rw [addObject_eq]
  exact wellFormed_insert h (h.fits_addObject c guid)

theorem wellFormed_insertObject {d : Document} (h : d.WellFormed) (o : PropertyObject) :
    (d.insertObject o).2.WellFormed := by
  simp only [insertObject, Numbered.insertNew_eq]
  exact wellFormed_insert h (h.getD_fits rfl)

theorem wellFormed_removeObject {d : Document} (h : d.WellFormed) (c : ClassRef) (n : UInt32) :
    (d.removeObject c n).2.WellFormed := by
  intro c' k p hget
  rw [object?_removeObject] at hget
  split at hget
  · cases hget
  · exact h c' k p hget

end Document

namespace Editor

open Document (wellFormed_insert wellFormed_modifyObject)

/-! ### Editors -/

theorem wellFormed_createIn (e : Editor) (c : ClassRef) (w : Workspace) (h : w.document.WellFormed) :
    (e.createIn c w).2.document.WellFormed := by
  rcases e.createIn_cases c w with ⟨err, -, failed⟩ | ⟨r, a, k, id, live, primary, registered, rfl, next⟩
  · rw [failed]
    exact h
  · rw [createIn_eq live primary registered next]
    exact wellFormed_insert h ((e.identity_made k id w).trans (h.fits_addObject k w.nextGuid))

/-- Objects that are written back keep their places, so the objects of the document stay at theirs. -/
theorem wellFormed_editField (e : Editor) (f : FieldDef) (firstOnly : Bool) (v : Option Value) {d : Document}
    (h : d.WellFormed) : (e.editField f firstOnly v d).2.WellFormed := by
  have kept : (e.editField f firstOnly v d).2.WellFormed ∧ (e.editField f firstOnly v d).2.ref = d.ref := by
    refine editField_preserves (P := fun d' => d'.WellFormed ∧ d'.ref = d.ref) e f firstOnly v ?_ ⟨h, rfl⟩
    rintro d' n o o' changed ⟨h', ref⟩ there set
    have fits : d'.Fits f.classRef n o' := by
      rw [Document.Fits, ref]
      exact (ObjectAccessor.identity_set set).trans (h f.classRef n o there)
    exact ⟨wellFormed_modifyObject h' fun _ _ => fits, ref⟩
  exact kept.1

end Editor

namespace Document

/-! ### Operations -/

/-- **Every operation keeps objects at the places to which they belong.** -/
theorem wellFormed_change {d d' : Document} (h : d.WellFormed) (change : Change d d') : d'.WellFormed := by
  cases change with
  | setLanguage _ language => exact wellFormed_of_objects_eq h rfl rfl
  | setDefaultLanguage _ language => exact wellFormed_of_objects_eq h rfl rfl
  | setField _ name v => cases v <;> exact wellFormed_of_objects_eq h rfl rfl
  | setSchema _ schema => exact wellFormed_of_objects_eq h rfl rfl
  | addObject _ c guid => exact wellFormed_addObject h c guid
  | insertObject _ o => exact wellFormed_insertObject h o
  | removeObject _ c n => exact wellFormed_removeObject h c n
  | setProperty _ c n name v =>
    exact wellFormed_modifyObject h fun o ho => (o.identity_setProperty name v).trans (h c n o ho)
  | setId _ c n id version =>
    exact wellFormed_modifyObject h fun o ho => (o.identity_withId id version).trans (h c n o ho)
  | setObjectField there set =>
    exact wellFormed_modifyObject h fun _ _ => (ObjectAccessor.identity_set set).trans (h _ _ _ there)
  | setDocumentField set =>
    obtain ⟨ref, objects⟩ := DocumentAccess.frame_set set
    exact wellFormed_of_objects_eq h objects ref
  | createObject created =>
    obtain ⟨r, a, k, -, -, -, added⟩ := Bridge.createObject_eq_ok_iff.1 created
    rw [← show (d.addObject k _).2 = d' from congrArg Prod.snd added]
    exact wellFormed_addObject h k _
  | deleteObject deleted =>
    exact Editor.deleteObject_preserves (P := WellFormed) (fun _ c n h => wellFormed_removeObject h c n) deleted h
  | create e w =>
    exact Editor.create_preserves (P := fun w => w.document.WellFormed)
      (fun c _ w' _ => e.wellFormed_createIn c w') h
  | createFirst e w =>
    exact Editor.createFirst_preserves (P := fun w => w.document.WellFormed)
      (fun c _ w' _ => e.wellFormed_createIn c w') h
  | createIfNotExists e w =>
    exact Editor.createIfNotExists_preserves (P := fun w => w.document.WellFormed)
      (fun c _ w' _ => e.wellFormed_createIn c w') h
  | editField e f firstOnly v => exact e.wellFormed_editField f firstOnly v h
  | deleteFirst e => exact e.deleteFirst_preserves (P := WellFormed) (fun _ c n h => wellFormed_removeObject h c n) h
  | deleteAll e => exact e.deleteAll_preserves (P := WellFormed) (fun _ c n h => wellFormed_removeObject h c n) h

theorem wellFormed_of_noObjects {d : Document} (h : d.objects = OrderedMap.empty) : d.WellFormed := by
  intro c n o ho
  rw [object?, group, h] at ho
  cases ho

/-- **On every reachable document each object belongs to the place where it is stored.** -/
theorem Reachable.wellFormed {d : Document} (h : d.Reachable) : d.WellFormed := by
  induction h with
  | create ref => exact wellFormed_of_noObjects rfl
  | createLocalized ref language => exact wellFormed_of_noObjects rfl
  | change _ change ih => exact wellFormed_change ih change

end Document

end TypedWiki
