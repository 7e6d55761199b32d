import Mathlib.Data.List.TakeWhile
import TypedWiki.Proofs.Identifier.Unique
import TypedWiki.Store.Basic

/-!
# Declared fields — what an object has whatever was done to it

The fields of an object are those of its class, and writes refuse every other name.  An object is written directly,
through accessors and by editors; it is inserted into documents and stored with them.  None of this changes which
fields it declares, so that a missing field stays apart from one that is not set.

* `FieldWrite`, `FieldWrite.last`: what the writes of a run gave a field last.
* `PropertyObject.Undergoes`: one operation on an object, with the write that it makes, if any.
* `Editor.reached`: the objects that an edit of a field writes before it ends or fails.
* `PropertyObject.Effect`, `Undergoes.effect`: what one operation does to the declared fields.
* `exists_run_of_taken`: a creation that takes an object for a new one as a run of such operations.
* `tellsApart_of_run`: what every run leaves of an object of a class.
-/

namespace TypedWiki

/-- A value given to a field; none clears it. -/
structure FieldWrite where
  name : String
  value : Option Value

/-- What the last write of a field gave it, and nothing if there was none. -/
def FieldWrite.last (name : String) (ws : List (Option FieldWrite)) : Option Value :=
  ws.foldl (fun value w =>
    match w with
    | some ⟨name', value'⟩ => if name' = name then value' else value
    | none => value) none

/-- What an attempt to write a field leaves of an object, with the write if it succeeds. -/
def ObjectAccessor.attempt (a : ObjectAccessor) (o : PropertyObject) (f : FieldDef) (v : Option Value) :
    Option FieldWrite × PropertyObject :=
  match a.set o f v with
  | .ok (_, o') => (some ⟨f.name, Value.normalizeBlank v⟩, o')
  | .error _ => (none, o)

namespace Editor

/-- The numbers of the entries that are written in turn until one fails. -/
def writtenNumbers (a : ObjectAccessor) (f : FieldDef) (v : Option Value) (entries : List (UInt32 × PropertyObject)) :
    List UInt32 :=
  (entries.takeWhile fun p => (a.attempt p.2 f v).1.isSome).map Prod.fst

/-- The entries that an edit of a field is to write. -/
def targets (e : Editor) (f : FieldDef) (firstOnly : Bool) (d : Document) : List (UInt32 × PropertyObject) :=
  if (Selection.scannedClasses e.bridge d e.query).contains f.classRef then
    match (e.selection d).entriesIn f.classRef with
    | .error _ => []
    | .ok entries => if firstOnly then entries.take 1 else entries
  else []

/-- The numbers of the objects that an edit of a field writes. -/
def reached (e : Editor) (f : FieldDef) (firstOnly : Bool) (v : Option Value) (d : Document) : List UInt32 :=
  writtenNumbers e.bridge.accessor f v (e.targets f firstOnly d)

/-- The write that an operation makes to the object of a class and number. -/
def writeAt (e : Editor) (d : Document) (c : ClassRef) (n : UInt32) : Operation → Option FieldWrite
  | .editField f firstOnly v =>
    if c = f.classRef ∧ n ∈ e.reached f firstOnly v d then some ⟨f.name, Value.normalizeBlank v⟩ else none
  | _ => none

end Editor

namespace PropertyObject

/-- One operation on an object, with the write that it makes. -/
inductive Undergoes : PropertyObject → Option FieldWrite → PropertyObject → Prop where
  | setProperty (o : PropertyObject) (name : String) (v : Option Value) :
    Undergoes o (some ⟨name, v⟩) (o.setProperty name v).2
  | setId (o : PropertyObject) (id : ObjectId) (version : IdVersion) : Undergoes o none (o.withId id version)
  /-- A write through an accessor, which may fail. -/
  | write (a : ObjectAccessor) (o : PropertyObject) (f : FieldDef) (v : Option Value) :
    Undergoes o (a.attempt o f v).1 (a.attempt o f v).2
  /-- An operation of an editor on the document of the object, which is still there afterwards.  What the operation
  creates gets numbers of its own; a creation that takes the object for a new one is a run of the operations above
  (`exists_run_of_taken`). -/
  | edit (e : Editor) (op : Editor.Operation) {w : Workspace} {c : ClassRef} {n : UInt32} {o o' : PropertyObject}
    (room : e.HasRoom w.document op) (before : w.document.object? c n = some o)
    (after : (e.perform w op).document.object? c n = some o') : Undergoes o (e.writeAt w.document c n op) o'
  /-- The insertion into a document, which takes the object and does not drop it. -/
  | insert {d : Document} {o : PropertyObject} (takes : d.Takes o) : Undergoes o none (d.insertObject o).1
  /-- The document of the object is saved and loaded again. -/
  | reload {m m' : MemoryStore} {d : Document} {comment : String} {c : ClassRef} {n : UInt32} {o o' : PropertyObject}
    (before : d.object? c n = some o) (saved : m.save d comment = .ok m')
    (after : (m'.document d.ref).object? c n = some o') : Undergoes o none o'

/-! ### Effects -/

/-- What an operation does to the declared fields: at most the written one changes. -/
structure Effect (o : PropertyObject) (w : Option FieldWrite) (o' : PropertyObject) : Prop where
  classRef : o'.classRef = o.classRef
  hasField : ∀ name, o'.hasField name = o.hasField name
  others : ∀ name, (∀ v, w ≠ some ⟨name, v⟩) → o'.rawValue? name = o.rawValue? name
  cleared : ∀ name, w = some ⟨name, none⟩ → o'.rawValue? name = none

theorem effect_of_properties_eq {o o' : PropertyObject} (classRef : o'.classRef = o.classRef)
    (properties : o'.properties = o.properties) : Effect o none o' where
  classRef := classRef
  hasField name := by rw [PropertyObject.hasField, PropertyObject.hasField, properties]
  others name _ := by rw [rawValue?, rawValue?, property?, property?, properties]
  cleared name h := by cases h

theorem Effect.refl (o : PropertyObject) : Effect o none o := effect_of_properties_eq rfl rfl

/-- A value that is stored may differ from the one that was given, but none is stored as none. -/
theorem effect_setProperty (o : PropertyObject) {name : String} {v raw : Option Value}
    (stored : v = none → raw = none) : Effect o (some ⟨name, v⟩) (o.setProperty name raw).2 where
  classRef := (o.alike_setProperty name raw).classRef
  hasField name' := o.hasField_setProperty name name' raw
  others name' h := by
    refine rawValue?_setProperty_of_ne ?_ raw
    rintro rfl
    exact h v rfl
  cleared name' h := by
    obtain ⟨rfl, rfl⟩ := FieldWrite.mk.inj (Option.some.inj h)
    cases declared : o.hasField name with
    | true => rw [rawValue?_setProperty declared, stored rfl]
    | false => rw [setProperty_of_not_hasField declared, rawValue?_of_not_hasField declared]

theorem effect_attempt (a : ObjectAccessor) (o : PropertyObject) (f : FieldDef) (v : Option Value) :
    Effect o (a.attempt o f v).1 (a.attempt o f v).2 := by
  rw [ObjectAccessor.attempt]
  rcases hset : a.set o f v with err | ⟨changed, o'⟩
  · exact Effect.refl o
  · obtain ⟨-, raw, hraw, -, rfl⟩ := ObjectAccessor.set_eq_ok_iff.1 hset
    refine effect_setProperty o fun blank => ?_
    rw [ObjectAccessor.rawOf, blank] at hraw
    exact (Except.ok.inj hraw).symm

end PropertyObject

/-! ### Editors -/

/-- What a removal leaves was there before. -/
theorem Document.keptIn_of_removeObject (d : Document) (c : ClassRef) (n : UInt32) :
    (d.removeObject c n).2.KeptIn d := by
  intro c' n' o there
  rw [Document.object?_removeObject] at there
  split at there
  · cases there
  · exact there

namespace Editor

open PropertyObject (Effect)

variable {d : Document} {c : ClassRef} {n : UInt32} {o : PropertyObject}

theorem writtenNumbers_cons (a : ObjectAccessor) (f : FieldDef) (v : Option Value) (p : UInt32 × PropertyObject)
    (entries : List (UInt32 × PropertyObject)) :
    writtenNumbers a f v (p :: entries) =
      if (a.attempt p.2 f v).1.isSome then p.1 :: writtenNumbers a f v entries else [] := by
  rw [writtenNumbers, List.takeWhile_cons]
  split <;> rfl

/-- The entries are objects of the document as it was before; those before the first failure are written. -/
theorem object?_writeField (a : ObjectAccessor) (f : FieldDef) (v : Option Value)
    {entries : List (UInt32 × PropertyObject)} (listed : ∀ p ∈ entries, c = f.classRef → p.1 = n → p.2 = o)
    (changed : Bool) {p : PropertyObject} (there : d.object? c n = some p) :
    (writeField a f v entries changed d).2.object? c n =
      some (if c = f.classRef ∧ n ∈ writtenNumbers a f v entries then (a.attempt o f v).2 else p) := by
  induction entries generalizing changed d p with
  | nil => simpa [writeField, writtenNumbers] using there
  | cons q entries ih =>
    rw [writeField]
    rcases hset : a.set q.2 f v with err | ⟨changed', o'⟩
    · have attempt : a.attempt q.2 f v = (none, q.2) := by
        rw [ObjectAccessor.attempt, hset]
      simpa [writtenNumbers_cons, attempt] using there
    · have attempt : a.attempt q.2 f v = (some ⟨f.name, Value.normalizeBlank v⟩, o') := by
        rw [ObjectAccessor.attempt, hset]
      have written : (d.modifyObject f.classRef q.1 fun _ => o').object? c n =
          some (if c = f.classRef ∧ n = q.1 then o' else p) := by
        rw [Document.object?_modifyObject, there]
        split <;> rfl
      refine (ih (fun q' hq' => listed q' (List.mem_cons_of_mem q hq')) _ written).trans ?_
      simp only [writtenNumbers_cons, attempt, Option.isSome_some, if_true, List.mem_cons]
      by_cases here : c = f.classRef ∧ n = q.1
      · -- listed once more or not, the object gets what was written to the one before
        obtain ⟨rfl, rfl⟩ := here
        obtain rfl := listed q List.mem_cons_self rfl rfl
        simp [attempt]
      · have rest : ∀ m : Prop, c = f.classRef ∧ (n = q.1 ∨ m) ↔ c = f.classRef ∧ m := fun m =>
          and_congr_right fun hc => or_iff_right fun hn => here ⟨hc, hn⟩
        simp only [here, if_false, rest]

theorem editField_eq_writeField (e : Editor) (f : FieldDef) (firstOnly : Bool) (v : Option Value) (d : Document) :
    (e.editField f firstOnly v d).2 =
      (writeField e.bridge.accessor f v (e.targets f firstOnly d) false d).2 := by
  rw [editField_eq, targets]
  split
  · cases (e.selection d).entriesIn f.classRef <;> rfl
  · rfl

theorem object?_of_mem_targets {e : Editor} {f : FieldDef} {firstOnly : Bool} {p : UInt32 × PropertyObject}
    (h : p ∈ e.targets f firstOnly d) : d.object? f.classRef p.1 = some p.2 := by
  rw [targets] at h
  split at h
  · cases found : (e.selection d).entriesIn f.classRef with
    | error err => simp [found] at h
    | ok entries =>
      simp only [found] at h
      refine Selection.object?_of_entriesIn_eq_ok found ?_
      cases firstOnly with
      | true => exact List.mem_of_mem_take h
      | false => exact h
  · cases h

/-- An edit of a field writes the objects that it reaches and leaves all others. -/
theorem object?_editField (e : Editor) (f : FieldDef) (firstOnly : Bool) (v : Option Value)
    (there : d.object? c n = some o) :
    (e.editField f firstOnly v d).2.object? c n =
      some (if c = f.classRef ∧ n ∈ e.reached f firstOnly v d then (e.bridge.accessor.attempt o f v).2 else o) := by
  rw [editField_eq_writeField]
  refine object?_writeField _ f v (fun p hp hc hn => ?_) false there
  have held := object?_of_mem_targets hp
  rw [← hc, hn] at held
  exact Option.some.inj (held.symm.trans there)

/-- The write of an object that an edit reaches succeeds. -/
theorem attempt_of_mem_reached {e : Editor} {f : FieldDef} {firstOnly : Bool} {v : Option Value}
    (there : d.object? f.classRef n = some o) (h : n ∈ e.reached f firstOnly v d) :
    (e.bridge.accessor.attempt o f v).1 = some ⟨f.name, Value.normalizeBlank v⟩ := by
  obtain ⟨p, hp, rfl⟩ := List.mem_map.1 h
  have held := object?_of_mem_targets ((List.takeWhile_sublist _).subset hp)
  obtain rfl := Option.some.inj (held.symm.trans there)
  have succeeds := List.mem_takeWhile_imp hp
  rw [ObjectAccessor.attempt] at succeeds ⊢
  cases hset : e.bridge.accessor.set p.2 f v with
  | error err => simp [hset] at succeeds
  | ok q => rfl

theorem keptIn_createIn (e : Editor) {c : ClassRef} {w : Workspace} (room : w.document.HasRoom c) :
    w.document.KeptIn (e.createIn c w).2.document := by
  rcases e.createIn_cases c w with ⟨err, -, failed⟩ | ⟨r, a, k, id, live, primary, registered, rfl, next⟩
  · rw [failed]
    exact Document.KeptIn.refl _
  · rw [createIn_eq live primary registered next]
    exact Document.keptIn_putNext room _

/-- An operation of an editor writes an object on its document by an edit of a field or not at all. -/
theorem effect_perform (e : Editor) (op : Operation) {w : Workspace} {o' : PropertyObject}
    (room : e.HasRoom w.document op) (before : w.document.object? c n = some o)
    (after : (e.perform w op).document.object? c n = some o') :
    Effect o (e.writeAt w.document c n op) o' := by
  -- a creation keeps every object as it is, and a deletion leaves only such objects
  have added : w.document.KeptIn (e.perform w op).document → Effect o none o' := by
    intro kept
    rw [Option.some.inj ((kept c n o before).symm.trans after)]
    exact Effect.refl o'
  have removed : (e.perform w op).document.KeptIn w.document → Effect o none o' := by
    intro kept
    rw [Option.some.inj ((kept c n o' after).symm.trans before)]
    exact Effect.refl o
  have creates : ∀ c ∈ e.creates w.document op, ∀ w', w'.document.group c = w.document.group c →
      w.document.KeptIn w'.document → w.document.KeptIn (e.createIn c w').2.document := by
    intro c hc w' same kept
    exact kept.trans (e.keptIn_createIn ((room c hc).congr same))
  have deletes : ∀ (d : Document) c n, d.KeptIn w.document → (d.removeObject c n).2.KeptIn w.document :=
    fun d c n kept => (d.keptIn_of_removeObject c n).trans kept
  have start := Document.KeptIn.refl w.document
  cases op with
  | create => exact added (create_preserves (P := fun w' => w.document.KeptIn w'.document) creates start)
  | createFirst =>
    exact added (createFirst_preserves (P := fun w' => w.document.KeptIn w'.document) creates start)
  | createIfNotExists =>
    exact added (createIfNotExists_preserves (P := fun w' => w.document.KeptIn w'.document) creates start)
  | deleteFirst => exact removed (e.deleteFirst_preserves (P := fun d => d.KeptIn w.document) deletes start)
  | deleteAll => exact removed (e.deleteAll_preserves (P := fun d => d.KeptIn w.document) deletes start)
  | editField f firstOnly v =>
    rw [perform, object?_editField e f firstOnly v before, Option.some.injEq] at after
    rw [writeAt, ← after]
    split_ifs with reached
    · obtain ⟨rfl, reached⟩ := reached
      rw [← attempt_of_mem_reached before reached]
      exact PropertyObject.effect_attempt _ o f v
    · exact Effect.refl o

end Editor

namespace PropertyObject

/-! ### Runs -/

theorem Undergoes.effect {o o' : PropertyObject} {w : Option FieldWrite} (h : Undergoes o w o') : Effect o w o' := by
  cases h with
  | setProperty name v => exact effect_setProperty o fun none => none
  | setId id version => exact effect_of_properties_eq rfl rfl
  | write a _ f v => exact effect_attempt a o f v
  | edit e op room before after => exact e.effect_perform op room before after
  | insert takes =>
    obtain ⟨n, -, inserted⟩ := Document.insertObject_of_takes takes
    rw [inserted]
    exact effect_of_properties_eq rfl rfl
  | reload before saved after =>
    obtain ⟨-, rfl⟩ := MemoryStore.save_eq_ok_iff.1 saved
    rw [MemoryStore.document_put, if_pos rfl] at after
    rw [Option.some.inj (before.symm.trans after)]
    exact Effect.refl o'

/-- The values that are written to an object, up to the first that is refused, are single writes. -/
theorem exists_run_writeAll (a : ObjectAccessor) (vs : List (FieldDef × Value)) (o : PropertyObject) :
    ∃ ws, Run Undergoes o ws (Editor.writeAll a vs o).2 := by
  induction vs generalizing o with
  | nil => exact ⟨[], .nil o⟩
  | cons fv vs ih =>
    have step := Undergoes.write a o fv.1 (some fv.2)
    rw [ObjectAccessor.attempt] at step
    rw [Editor.writeAll]
    cases hset : a.set o fv.1 (some fv.2) with
    | error err => exact ⟨[], .nil o⟩
    | ok p =>
      obtain ⟨ws, run⟩ := ih p.2
      rw [hset] at step
      exact ⟨_, .cons step run⟩

/-- Where numbers wrap around, a creation takes an object for a new one.  For this object it is a run of single
operations: its identifier is set, and the initial values are written. -/
theorem exists_run_of_taken {e : Editor} {c : ClassRef} {w : Workspace} {o o' : PropertyObject}
    (taken : w.document.object? c (w.document.group c).nextNumber = some o)
    (after : (e.createIn c w).2.document.object? c (w.document.group c).nextNumber = some o') :
    ∃ ws, Run Undergoes o ws o' := by
  rcases e.createIn_cases c w with ⟨err, -, failed⟩ | ⟨r, a, k, id, live, primary, registered, rfl, next⟩
  · rw [failed] at after
    rw [Option.some.inj (taken.symm.trans after)]
    exact ⟨[], .nil o'⟩
  · rw [Editor.createIn_eq live primary registered next, Document.object?_putNext, if_pos ⟨rfl, rfl⟩,
      Option.some.injEq, Editor.made, Document.addObject_of_taken taken] at after
    obtain ⟨ws, run⟩ := exists_run_writeAll e.bridge.accessor (e.initialValues k.classRef) (Editor.tag id o)
    rw [after] at run
    cases id with
    | none => exact ⟨ws, run⟩
    | some id => exact ⟨_, .cons (.setId o id .packed) run⟩

end PropertyObject

namespace FieldWrite

theorem last_concat_self (name : String) (v : Option Value) (ws : List (Option FieldWrite)) :
    last name (ws ++ [some ⟨name, v⟩]) = v := by
  simp [last, List.foldl_append]

theorem last_concat_of_ne {name : String} {w : Option FieldWrite} (h : ∀ v, w ≠ some ⟨name, v⟩)
    (ws : List (Option FieldWrite)) : last name (ws ++ [w]) = last name ws := by
  rcases w with - | ⟨name', v⟩
  · simp [last, List.foldl_append]
  · have other : name' ≠ name := by
      rintro rfl
      exact h v rfl
    simp [last, List.foldl_append, other]

end FieldWrite

namespace PropertyObject

/-- An object with the fields of a class, of which those that the writes left unset are not set. -/
structure Follows (c : ClassDef) (ws : List (Option FieldWrite)) (o : PropertyObject) : Prop where
  classRef : o.classRef = c.classRef
  hasField : ∀ name, o.hasField name = c.hasField name
  unset : ∀ name, FieldWrite.last name ws = none → o.rawValue? name = none

theorem follows_create (document : DocumentRef) (c : ClassDef) (number : UInt32) (guid : Guid) :
    Follows c [] (create document c number guid) where
  classRef := rfl
  hasField name := hasField_create document c number guid name
  unset name _ := by
    rw [rawValue?, property?_create]
    cases c.field? name <;> rfl

theorem Follows.step {c : ClassDef} {ws : List (Option FieldWrite)} {w : Option FieldWrite} {o o' : PropertyObject}
    (h : Follows c ws o) (effect : Effect o w o') : Follows c (ws ++ [w]) o' := by
  refine ⟨effect.classRef.trans h.classRef, fun name => (effect.hasField name).trans (h.hasField name), ?_⟩
  intro name unset
  by_cases written : ∃ v, w = some ⟨name, v⟩
  · obtain ⟨v, rfl⟩ := written
    rw [FieldWrite.last_concat_self] at unset
    rw [unset] at effect
    exact effect.cleared name rfl
  · have other : ∀ v, w ≠ some ⟨name, v⟩ := fun v h => written ⟨v, h⟩
    rw [FieldWrite.last_concat_of_ne other] at unset
    rw [effect.others name other]
    exact h.unset name unset

theorem follows_of_run {document : DocumentRef} {c : ClassDef} {number : UInt32} {guid : Guid}
    {ws : List (Option FieldWrite)} {o : PropertyObject} (run : Run Undergoes (create document c number guid) ws o) :
    Follows c ws o := by
  induction run with
  | nil => exact follows_create document c number guid
  | snoc _ step ih => exact ih.step step.effect

/-- An object tells a field that its class does not have from one that is not set. -/
structure TellsApart (c : ClassDef) (ws : List (Option FieldWrite)) (o : PropertyObject) : Prop where
  get_missing : ∀ (a : ObjectAccessor) (f : FieldDef), (∃ err, a.get o f = .error err ∧ err.isMissing = true) ↔
    f.classRef ≠ o.classRef ∨ f.name ∉ c.fields.map FieldDef.name
  set_missing : ∀ (a : ObjectAccessor) (f : FieldDef) v, (∃ err, a.set o f v = .error err ∧ err.isMissing = true) ↔
    f.classRef ≠ o.classRef ∨ f.name ∉ c.fields.map FieldDef.name
  /-- A declared field that no write gave a value, or the last one cleared, reads as none. -/
  unset : ∀ (a : ObjectAccessor) (f : FieldDef), f.classRef = o.classRef → f.name ∈ c.fields.map FieldDef.name →
    FieldWrite.last f.name ws = none → a.get o f = .ok none
  refused : ∀ name v, name ∉ c.fields.map FieldDef.name → o.setProperty name v = (false, o)

/-- **A field is missing exactly if it is undeclared**, after any operations on an object of a class: reading and
writing report it as missing, and a direct write changes nothing.  A declared field without a value reads as none. -/
theorem tellsApart_of_run {document : DocumentRef} {c : ClassDef} {number : UInt32} {guid : Guid}
    {ws : List (Option FieldWrite)} {o : PropertyObject} (run : Run Undergoes (create document c number guid) ws o) :
    o.classRef = c.classRef ∧ TellsApart c ws o := by
  obtain ⟨classRef, hasField, unset⟩ := follows_of_run run
  have declared : ∀ name, o.hasField name = true ↔ name ∈ c.fields.map FieldDef.name := by
    intro name
    rw [hasField]
    exact ClassDef.hasField_iff_mem_fields
  have undeclared : ∀ f : FieldDef, ¬ ObjectAccessor.Declares o f ↔
      f.classRef ≠ o.classRef ∨ f.name ∉ c.fields.map FieldDef.name := by
    intro f
    rw [ObjectAccessor.Declares, declared, Classical.not_and_iff_not_or_not]
  refine ⟨classRef, ?_, ?_, ?_, ?_⟩
  · exact fun a f => ObjectAccessor.get_missing_iff.trans (undeclared f)
  · exact fun a f v => ObjectAccessor.set_missing_iff.trans (undeclared f)
  · intro a f hclass hname none
    rw [ObjectAccessor.get_of_declares ⟨hclass, (declared f.name).2 hname⟩, unset f.name none]
    rfl
  · intro name v hname
    exact setProperty_of_not_hasField (Bool.eq_false_iff.2 (mt (declared name).1 hname)) v

/-- The title of a note. -/
def noteTitle : FieldDef := ⟨⟨"Blog", "NoteClass"⟩, "title", .text none, "Title", none, none⟩

/-- A class of notes that hold a title. -/
def note : ClassDef := ⟨noteTitle.classRef, .standard, false, [noteTitle]⟩

/-- An editor of notes. -/
def noteEditor : Editor where
  bridge := .live (ClassRegistry.empty.insert note) {}
  query := ⟨[.ofClass note.classRef]⟩

/-- A note with a title. -/
def titledNote : PropertyObject :=
  ((create ⟨"xwiki", "Blog", "Home"⟩ note 0 0).setProperty "title" (some (.text "Home"))).2

/-- A document into which the note was inserted. -/
def archive : Workspace := ⟨((Document.create ⟨"xwiki", "Blog", "Archive"⟩).insertObject titledNote).2, 1⟩

/-- A note gets a title, refuses an author and a number as its title, moves to another document, loses its title by an
edit of all notes there, and is stored and loaded with the document. -/
def noteWrites : List (Option FieldWrite) :=
  [some ⟨"title", some (.text "Home")⟩, some ⟨"author", some (.text "Ada")⟩, none, none, some ⟨"title", none⟩, none]

theorem tellsApart_of_run_clearedNote :
    ∃ o, Run Undergoes (create ⟨"xwiki", "Blog", "Home"⟩ note 0 0) noteWrites o ∧
      o.document = ⟨"xwiki", "Blog", "Archive"⟩ ∧ ObjectAccessor.get {} o noteTitle = .ok none ∧
      o.classRef = note.classRef ∧ TellsApart note noteWrites o := by
  have titled : Undergoes (create ⟨"xwiki", "Blog", "Home"⟩ note 0 0) (some ⟨"title", some (.text "Home")⟩)
      titledNote := .setProperty _ "title" (some (.text "Home"))
  have refused : Undergoes titledNote (some ⟨"author", some (.text "Ada")⟩) titledNote :=
    .setProperty titledNote "author" (some (.text "Ada"))
  have failed : Undergoes titledNote none titledNote := .write {} titledNote noteTitle (some (.int 3))
  have moved : Undergoes titledNote none
      ((Document.create ⟨"xwiki", "Blog", "Archive"⟩).insertObject titledNote).1 := .insert (Or.inl rfl)
  obtain ⟨o, after, document⟩ : ∃ o, (noteEditor.perform archive (.editField noteTitle false none)).document.object?
      note.classRef 0 = some o ∧ o.document = ⟨"xwiki", "Blog", "Archive"⟩ := ⟨_, rfl, rfl⟩
  have cleared : Undergoes ((Document.create ⟨"xwiki", "Blog", "Archive"⟩).insertObject titledNote).1
      (some ⟨"title", none⟩) o :=
    .edit noteEditor (.editField noteTitle false none) (w := archive) (List.forall_mem_nil _) rfl after
  have loaded : Undergoes o none o := by
    have saved : ({} : MemoryStore).save (noteEditor.perform archive (.editField noteTitle false none)).document "" =
        .ok (({} : MemoryStore).put _ "") := MemoryStore.save_eq_ok_iff.2 ⟨rfl, rfl⟩
    refine .reload after saved ?_
    rw [MemoryStore.document_put, if_pos rfl]
    exact after
  have run : Run Undergoes (create ⟨"xwiki", "Blog", "Home"⟩ note 0 0) noteWrites o :=
    Run.cons titled (Run.cons refused (Run.cons failed (Run.cons moved (Run.cons cleared (Run.single loaded)))))
  obtain ⟨classRef, apart⟩ := tellsApart_of_run run
  have listed : noteTitle.name ∈ note.fields.map FieldDef.name := List.mem_cons_self
  exact ⟨o, run, document, apart.unset {} noteTitle classRef.symm listed rfl, classRef, apart⟩

end PropertyObject

end TypedWiki
