import TypedWiki.Identifier.Next
import TypedWiki.Selection.Basic

/-!
# Edits — creating, changing and deleting the objects that match a query

A created object takes the least candidate of every field restriction on its class, so that it matches the query
that created it.  An edit that fails keeps what it did before it failed.
-/

namespace TypedWiki

/-- A document being edited and the next mark for a new object. -/
structure Workspace where
  document : Document
  nextGuid : Guid

/-- What an edit leaves behind: its result and the document, changed also where it failed. -/
abbrev Edited (α : Type) := Except Error α × Workspace

/-- A query for editing, with a layout if new objects are to get identifiers. -/
structure Editor where
  bridge : Bridge
  query : Query := Query.empty
  layout : Option IdLayout := none

namespace Editor

/-- The selection of the editor's query on a document. -/
def selection (e : Editor) (d : Document) : Selection := ⟨e.bridge, d, e.query⟩

/-- The classes that the query names, of which there has to be one. -/
def namedClasses (e : Editor) : Except Error (List ClassRef) :=
  match e.query.classRefs with
  | [] => .error (.selection .noClass)
  | cs => .ok cs

/-- The identifier for the next new object, if the editor assigns any. -/
def nextId (e : Editor) (d : Document) : Except Error (Option ObjectId) :=
  match e.layout with
  | none => .ok none
  | some l =>
    match l.nextId d with
    | .ok id => .ok (some id)
    | .error err => .error (.id err)

/-- The values that a new object of a class starts with. -/
def initialValues (e : Editor) (c : ClassRef) : List (FieldDef × Value) :=
  (e.query.fieldRestrictions c).filterMap fun (f, candidates) => candidates.head?.map fun v => (f, v)

/-- Writes values to an object; the values before the first that is refused are written. -/
def writeAll (a : ObjectAccessor) : List (FieldDef × Value) → PropertyObject → Except FieldError Unit × PropertyObject
  | [], o => (.ok (), o)
  | (f, v) :: rest, o =>
    match a.set o f (some v) with
    | .error err => (.error err, o)
    | .ok (_, o) => writeAll a rest o

/-- A new object with its identifier, if it gets one. -/
def tag : Option ObjectId → PropertyObject → PropertyObject
  | some id, o => o.withId id .packed
  | none, o => o

/-- Creates an object of a class. -/
def createIn (e : Editor) (c : ClassRef) (w : Workspace) : Edited PropertyObject :=
  match e.nextId w.document with
  | .error err => (.error err, w)
  | .ok id =>
    match e.bridge.createObject w.document c w.nextGuid with
    | .error err => (.error (.bridge err), w)
    | .ok (o, d) =>
      let (result, o) := writeAll e.bridge.accessor (e.initialValues c) (tag id o)
      -- the object is written where the creation put or found it, whatever its own class and number
      let d := d.modifyObject c (w.document.group c).nextNumber fun _ => o
      let w := { document := d, nextGuid := w.nextGuid + 1 }
      match result with
      | .ok () => (.ok o, w)
      | .error err => (.error (.field err), w)

/-- Creates an object in each of several classes; the keys of the new objects come back. -/
def createInAll (e : Editor) : List ClassRef → Workspace → Edited (List (ClassRef × UInt32))
  | [], w => (.ok [], w)
  | c :: cs, w =>
    match e.createIn c w with
    | (.error err, w) => (.error err, w)
    | (.ok o, w) =>
      match e.createInAll cs w with
      | (.error err, w) => (.error err, w)
      | (.ok keys, w) => (.ok ((c, o.number) :: keys), w)

/-- Creates an object in every class that the query names. -/
def create (e : Editor) (w : Workspace) : Edited (List (ClassRef × UInt32)) :=
  match e.namedClasses with
  | .error err => (.error err, w)
  | .ok cs => e.createInAll cs w

/-- Creates an object in the first class that the query names. -/
def createFirst (e : Editor) (w : Workspace) : Edited PropertyObject :=
  match e.query.classRefs with
  | [] => (.error (.selection .noClass), w)
  | c :: _ => e.createIn c w

/-- Creates an object in every class that the query names and that has no match. -/
def createIfNotExists (e : Editor) (w : Workspace) : Edited (List (ClassRef × UInt32)) :=
  match e.namedClasses with
  | .error err => (.error err, w)
  | .ok cs =>
    match (e.selection w.document).groups with
    | .error err => (.error err, w)
    | .ok groups =>
      let existing := groups.map (·.1)
      e.createInAll (cs.filter fun c => !existing.contains c) w

/-- Writes a field of the objects that match, which are stored under their numbers in the class of the field.  Each is
tested when its turn comes; what was written before an error stays. -/
def writeMatches (a : ObjectAccessor) (isMatch : PropertyObject → Bool) (f : FieldDef) (v : Option Value)
    (firstOnly : Bool) : List (UInt32 × PropertyObject) → Bool → Document → Except Error Bool × Document
  | [], changed, d => (.ok changed, d)
  | (n, o) :: entries, changed, d =>
    if isMatch o then
      match a.set o f v with
      | .error err => (.error (.field err), d)
      | .ok (c, o') =>
        let d := d.modifyObject f.classRef n fun _ => o'
        if firstOnly then (.ok (changed || c), d)
        else writeMatches a isMatch f v firstOnly entries (changed || c) d
    else writeMatches a isMatch f v firstOnly entries changed d

/-- Writes a field of the matches of its class, or of the first of them; tells whether any of them changed. -/
def editField (e : Editor) (f : FieldDef) (firstOnly : Bool) (v : Option Value) (d : Document) :
    Except Error Bool × Document :=
  if (Selection.scannedClasses e.bridge d e.query).contains f.classRef then
    match e.bridge.entriesOf d f.classRef with
    | .error err => (.error (.bridge err), d)
    | .ok entries =>
      writeMatches e.bridge.accessor (e.query.matchesIn f.classRef e.bridge.accessor) f v firstOnly entries false d
  else (.ok false, d)

/-- Deletes the first match; tells whether there was one. -/
def deleteFirst (e : Editor) (d : Document) : Except Error Bool × Document :=
  match (e.selection d).first with
  | .error err => (.error err, d)
  | .ok none => (.ok false, d)
  | .ok (some o) =>
    match e.bridge.deleteObject d o.classRef o.number with
    | .error err => (.error (.bridge err), d)
    | .ok (removed, d) => (.ok removed.isSome, d)

/-- Deletes objects by their keys; the number of those that were there comes back. -/
def deleteKeys (b : Bridge) : List (ClassRef × UInt32) → Nat → Document → Except Error Nat × Document
  | [], n, d => (.ok n, d)
  | (c, k) :: keys, n, d =>
    match b.deleteObject d c k with
    | .error err => (.error (.bridge err), d)
    | .ok (removed, d) => deleteKeys b keys (if removed.isSome then n + 1 else n) d

/-- Deletes every match; the number of them comes back. -/
def deleteAll (e : Editor) (d : Document) : Except Error Nat × Document :=
  match (e.selection d).objects with
  | .error err => (.error err, d)
  | .ok os => deleteKeys e.bridge (os.map fun o => (o.classRef, o.number)) 0 d

/-! ### Laws -/

/-- Writes a field of objects, all of them; what was written before an error stays. -/
def writeField (a : ObjectAccessor) (f : FieldDef) (v : Option Value) :
    List (UInt32 × PropertyObject) → Bool → Document → Except Error Bool × Document
  | [], changed, d => (.ok changed, d)
  | (n, o) :: entries, changed, d =>
    match a.set o f v with
    | .error err => (.error (.field err), d)
    | .ok (c, o') => writeField a f v entries (changed || c) (d.modifyObject f.classRef n fun _ => o')

/-- Testing each object when its turn comes is as good as looking for the matches first: a write touches no other
object. -/
theorem writeMatches_eq (a : ObjectAccessor) (isMatch : PropertyObject → Bool) (f : FieldDef) (v : Option Value)
    (firstOnly : Bool) (entries : List (UInt32 × PropertyObject)) (changed : Bool) (d : Document) :
    writeMatches a isMatch f v firstOnly entries changed d =
      writeField a f v (if firstOnly then (entries.filter fun p => isMatch p.2).take 1
        else entries.filter fun p => isMatch p.2) changed d := by
  induction entries generalizing changed d with
  | nil => cases firstOnly <;> rfl
  | cons p entries ih =>
    rw [writeMatches]
    by_cases hp : isMatch p.2 = true
    · rw [if_pos hp, List.filter_cons_of_pos (p := fun p : UInt32 × PropertyObject => isMatch p.2) hp]
      cases firstOnly with
      | false =>
        simp only [Bool.false_eq_true, if_false, writeField] at ih ⊢
        cases a.set p.2 f v with
        | error err => rfl
        | ok q => exact ih _ _
      | true =>
        simp only [if_true, List.take_succ_cons, List.take_zero, writeField]
    · rw [if_neg hp, List.filter_cons_of_neg (p := fun p : UInt32 × PropertyObject => isMatch p.2) hp]
      exact ih changed d

/-- An edit of a field writes the matches in the class of the field, or the first of them. -/
theorem editField_eq (e : Editor) (f : FieldDef) (firstOnly : Bool) (v : Option Value) (d : Document) :
    e.editField f firstOnly v d =
      if (Selection.scannedClasses e.bridge d e.query).contains f.classRef then
        match (e.selection d).entriesIn f.classRef with
        | .error err => (.error (.bridge err), d)
        | .ok entries => writeField e.bridge.accessor f v (if firstOnly then entries.take 1 else entries) false d
      else (.ok false, d) := by
  simp only [editField, writeMatches_eq, Selection.entriesIn, selection]
  cases e.bridge.entriesOf d f.classRef <;> rfl

theorem namedClasses_eq_ok {e : Editor} {cs : List ClassRef} (h : e.namedClasses = .ok cs) :
    cs = e.query.classRefs ∧ e.query.classRefs ≠ [] := by
  rw [namedClasses] at h
  split at h
  · cases h
  · rename_i ne
    exact ⟨(Except.ok.inj h).symm, ne⟩

theorem namedClasses_eq_error {e : Editor} {err : Error} (h : e.namedClasses = .error err) :
    e.query.classRefs = [] ∧ err = .selection .noClass := by
  rw [namedClasses] at h
  split at h
  · rename_i none
    exact ⟨none, (Except.error.inj h).symm⟩
  · cases h

@[simp] theorem identity_tag (id : Option ObjectId) (o : PropertyObject) : (tag id o).identity = o.identity := by
  cases id <;> rfl

@[simp] theorem identity_writeAll (a : ObjectAccessor) (vs : List (FieldDef × Value)) (o : PropertyObject) :
    (writeAll a vs o).2.identity = o.identity := by
  induction vs generalizing o with
  | nil => rfl
  | cons fv vs ih =>
    rw [writeAll]
    cases hs : a.set o fv.1 (some fv.2) with
    | error err => rfl
    | ok p => exact (ih p.2).trans (ObjectAccessor.identity_set hs)

/-- The object that is made in a class: the initial values are written to the one under the next number, which is new
where there is room. -/
def made (e : Editor) (k : ClassDef) (id : Option ObjectId) (w : Workspace) : Except FieldError Unit × PropertyObject :=
  writeAll e.bridge.accessor (e.initialValues k.classRef) (tag id (w.document.addObject k w.nextGuid).1)

theorem identity_made (e : Editor) (k : ClassDef) (id : Option ObjectId) (w : Workspace) :
    (e.made k id w).2.identity = (w.document.addObject k w.nextGuid).1.identity := by
  rw [made, identity_writeAll, identity_tag]

/-- A creation that gets as far as its object puts it under the next number, also where a value is refused. -/
theorem createIn_eq {e : Editor} {r : ClassRegistry} {a : ObjectAccessor} {k : ClassDef} {id : Option ObjectId}
    {w : Workspace} (live : e.bridge = .live r a) (primary : w.document.isPrimary = true)
    (registered : r.get? k.classRef = some k) (next : e.nextId w.document = .ok id) :
    e.createIn k.classRef w =
      (((e.made k id w).1.mapError .field).map fun _ => (e.made k id w).2,
        ⟨w.document.putNext k.classRef (e.made k id w).2, w.nextGuid + 1⟩) := by
  have created : e.bridge.createObject w.document k.classRef w.nextGuid = .ok (w.document.addObject k w.nextGuid) :=
    Bridge.createObject_eq_ok_iff.2 ⟨r, a, k, live, primary, registered, rfl⟩
  rw [createIn, next]
  simp only [created]
  rw [← Document.modifyObject_addObject _ k w.nextGuid]
  show (match (e.made k id w).1 with
    | .ok () => _
    | .error err => _) = _
  cases (e.made k id w).1 <;> rfl

/-- A creation in a class does not get as far as its object. -/
inductive Refuses (e : Editor) (d : Document) (c : ClassRef) : Error → Prop
  /-- No identifier is left for the object. -/
  | identifier {err : Error} (exhausted : e.nextId d = .error err) : Refuses e d c err
  /-- The bridge does not create it. -/
  | object {cause : BridgeError} {id : Option ObjectId} (next : e.nextId d = .ok id)
      (refused : ∀ guid, e.bridge.createObject d c guid = .error cause) : Refuses e d c (.bridge cause)

/-- Then no value was refused. -/
theorem Refuses.ne_field {e : Editor} {d : Document} {c : ClassRef} {err : Error} (h : e.Refuses d c err)
    (refusal : FieldError) : err ≠ .field refusal := by
  rintro rfl
  cases h with
  | identifier exhausted =>
    rw [nextId] at exhausted
    split at exhausted
    · cases exhausted
    · split at exhausted <;> cases exhausted

/-- A creation is refused without any effect, or it gets as far as its object. -/
theorem createIn_cases (e : Editor) (c : ClassRef) (w : Workspace) :
    (∃ err, e.Refuses w.document c err ∧ e.createIn c w = (.error err, w)) ∨
      ∃ r a k id, e.bridge = .live r a ∧ w.document.isPrimary = true ∧ r.get? c = some k ∧ k.classRef = c ∧
        e.nextId w.document = .ok id := by
  cases hid : e.nextId w.document with
  | error err => exact Or.inl ⟨err, .identifier hid, by rw [createIn, hid]⟩
  | ok id =>
    cases hc : e.bridge.createObject w.document c w.nextGuid with
    | error cause =>
      have refused : ∀ guid, e.bridge.createObject w.document c guid = .error cause := fun guid =>
        Bridge.createObject_eq_error_congr hc guid
      exact Or.inl ⟨.bridge cause, .object hid refused, by simp only [createIn, hid, hc]⟩
    | ok p =>
      obtain ⟨r, a, k, live, primary, registered, -⟩ := Bridge.createObject_eq_ok_iff.1 hc
      exact Or.inr ⟨r, a, k, id, live, primary, registered, r.classRef_of_get? c k registered, rfl⟩

/-- A creation in a class leaves the objects of every other class. -/
theorem group_createIn_of_ne (e : Editor) {c c' : ClassRef} (ne : c ≠ c') (w : Workspace) :
    (e.createIn c w).2.document.group c' = w.document.group c' := by
  rcases e.createIn_cases c w with ⟨err, -, failed⟩ | ⟨r, a, k, id, live, primary, registered, rfl, next⟩
  · rw [failed]
  · rw [createIn_eq live primary registered next]
    exact (Document.group_putNext _ _ _ _).trans (if_neg ne)

/-! ### Classes without a match -/

/-- The named classes in which the selection of the editor finds no match. -/
def unmatched (e : Editor) (d : Document) : List ClassRef :=
  match (e.selection d).groups with
  | .ok groups => e.query.classRefs.filter fun c => !(groups.map (·.1)).contains c
  | .error _ => []

theorem unmatched_sublist (e : Editor) (d : Document) : (e.unmatched d).Sublist e.query.classRefs := by
  rw [unmatched]
  split
  · exact List.filter_sublist
  · exact List.nil_sublist _

/-- The creation of missing objects is one creation in every class in which no match is found. -/
theorem createIfNotExists_of_groups {e : Editor} {w : Workspace} {groups : List (ClassRef × List PropertyObject)}
    (ne : e.query.classRefs ≠ []) (found : (e.selection w.document).groups = .ok groups) :
    e.createIfNotExists w = e.createInAll (e.unmatched w.document) w := by
  have named : e.namedClasses = .ok e.query.classRefs := by
    rw [namedClasses]
    split
    · exact absurd ‹_› ne
    · rfl
  rw [createIfNotExists, named]
  simp only [found, unmatched]

/-! ### What single changes keep -/

section Creation

variable {P : Workspace → Prop} {e : Editor} {w : Workspace}

/-- What every creation of one object keeps is kept by creations in several classes, also if one of them fails.  When
the turn of a class comes, its objects are those that were there at the start. -/
theorem createInAll_preserves {cs : List ClassRef} (distinct : cs.Nodup)
    (step : ∀ c ∈ cs, ∀ w', w'.document.group c = w.document.group c → P w' → P (e.createIn c w').2) (h : P w) :
    P (e.createInAll cs w).2 := by
  induction cs generalizing w with
  | nil => exact h
  | cons c cs ih =>
    obtain ⟨hc, hcs⟩ := List.nodup_cons.1 distinct
    have first := step c List.mem_cons_self w rfl h
    have others : ∀ c' ∈ cs, (e.createIn c w).2.document.group c' = w.document.group c' := by
      intro c' hc'
      refine e.group_createIn_of_ne ?_ w
      rintro rfl
      exact hc hc'
    rw [createInAll]
    rcases hin : e.createIn c w with ⟨result, w'⟩
    rw [hin] at first others
    cases result with
    | error err => exact first
    | ok o =>
      have rest := ih hcs
        (fun c' hc' w'' same => step c' (List.mem_cons_of_mem c hc') w'' (same.trans (others c' hc'))) first
      simp only
      rcases hall : e.createInAll cs w' with ⟨keys, w''⟩
      rw [hall] at rest
      cases keys <;> exact rest

theorem create_preserves
    (step : ∀ c ∈ e.query.classRefs, ∀ w', w'.document.group c = w.document.group c → P w' → P (e.createIn c w').2)
    (h : P w) : P (e.create w).2 := by
  rw [create]
  split
  · exact h
  · rename_i named
    obtain ⟨rfl, -⟩ := namedClasses_eq_ok named
    exact createInAll_preserves e.query.nodup_classRefs step h

theorem createFirst_preserves
    (step : ∀ c ∈ e.query.classRefs.take 1, ∀ w', w'.document.group c = w.document.group c → P w' →
      P (e.createIn c w').2)
    (h : P w) : P (e.createFirst w).2 := by
  rw [createFirst]
  split
  · exact h
  · rename_i c _ named
    rw [named] at step
    exact step c List.mem_cons_self w rfl h

theorem createIfNotExists_preserves
    (step : ∀ c ∈ e.unmatched w.document, ∀ w', w'.document.group c = w.document.group c → P w' →
      P (e.createIn c w').2)
    (h : P w) : P (e.createIfNotExists w).2 := by
  by_cases named : e.query.classRefs = []
  · rw [createIfNotExists, namedClasses, named]
    exact h
  cases found : (e.selection w.document).groups with
  | error err =>
    rw [createIfNotExists, found]
    cases e.namedClasses <;> exact h
  | ok groups =>
    rw [createIfNotExists_of_groups named found]
    exact createInAll_preserves ((e.unmatched_sublist w.document).nodup e.query.nodup_classRefs) step h

end Creation

section Change

variable {P : Document → Prop} {d : Document}

/-- What every write to an object keeps is kept by an edit of a field, where the objects are those of the document
before. -/
theorem editField_preserves (e : Editor) (f : FieldDef) (firstOnly : Bool) (v : Option Value)
    (step : ∀ d' n o o' changed, P d' → d.object? f.classRef n = some o →
      e.bridge.accessor.set o f v = .ok (changed, o') → P (d'.modifyObject f.classRef n fun _ => o'))
    (h : P d) : P (e.editField f firstOnly v d).2 := by
  have writes : ∀ (entries : List (UInt32 × PropertyObject)) (changed : Bool) (d' : Document),
      (∀ p ∈ entries, d.object? f.classRef p.1 = some p.2) → P d' →
        P (writeField e.bridge.accessor f v entries changed d').2 := by
    intro entries
    induction entries with
    | nil => exact fun _ _ _ h' => h'
    | cons p entries ih =>
      intro changed d' there h'
      rw [writeField]
      cases hset : e.bridge.accessor.set p.2 f v with
      | error err => exact h'
      | ok q =>
        refine ih _ _ (fun p' hp' => there p' (List.mem_cons_of_mem p hp')) ?_
        exact step d' p.1 p.2 q.2 q.1 h' (there p List.mem_cons_self) hset
  rw [editField_eq]
  split
  · cases hentries : (e.selection d).entriesIn f.classRef with
    | error err => exact h
    | ok entries =>
      refine writes _ false d (fun p hp => Selection.object?_of_entriesIn_eq_ok hentries ?_) h
      cases firstOnly with
      | true => exact List.mem_of_mem_take hp
      | false => exact hp
  · exact h

theorem deleteObject_preserves (step : ∀ d c n, P d → P (d.removeObject c n).2) {b : Bridge} {c : ClassRef} {n : UInt32}
    {d' : Document} {o : Option PropertyObject} (deleted : b.deleteObject d c n = .ok (o, d')) (h : P d) : P d' := by
  rcases Bridge.deleteObject_eq_ok deleted with ⟨-, removed⟩ | ⟨-, rfl⟩
  · rw [← show (d.removeObject c n).2 = d' from congrArg Prod.snd removed]
    exact step d c n h
  · exact h

/-- What every removal of an object keeps is kept by a deletion of the first match. -/
theorem deleteFirst_preserves (e : Editor) (step : ∀ d c n, P d → P (d.removeObject c n).2) (h : P d) :
    P (e.deleteFirst d).2 := by
  rw [deleteFirst]
  split
  · exact h
  · exact h
  · rename_i o _
    cases hdel : e.bridge.deleteObject d o.classRef o.number with
    | error err => exact h
    | ok p => exact deleteObject_preserves step hdel h

/-- What every removal of an object keeps is kept by a deletion of all matches. -/
theorem deleteAll_preserves (e : Editor) (step : ∀ d c n, P d → P (d.removeObject c n).2) (h : P d) :
    P (e.deleteAll d).2 := by
  have deletes : ∀ (keys : List (ClassRef × UInt32)) (count : Nat) (d' : Document),
      P d' → P (deleteKeys e.bridge keys count d').2 := by
    intro keys
    induction keys with
    | nil => exact fun _ _ h' => h'
    | cons key keys ih =>
      intro count d' h'
      rw [deleteKeys]
      cases hdel : e.bridge.deleteObject d' key.1 key.2 with
      | error err => exact h'
      | ok p => exact ih _ _ (deleteObject_preserves step hdel h')
  rw [deleteAll]
  split
  · exact h
  · exact deletes _ 0 d h

end Change

end Editor

end TypedWiki
