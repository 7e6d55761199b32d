import TypedWiki.Proofs.Object.Declared
import TypedWiki.Proofs.Selection.Matches

/-!
# Bulk edits — one field of all matches, or none

An edit of a field tests and writes object by object, and a write may change which objects match.  It concerns the
written object only, so the objects that are written are the matches that were there before.  Objects of one class
declare the same fields, so a write that fails for one of them fails for all, and at the first.

* `Document.CreatedFrom`: the objects are of registered classes.
* `Editor.Edits`: all of some objects are written, as the accessor does it, or the document is left alone.
* `writeField_mapObjects`: what a run of successful writes leaves.
* `edits_of_reachable`: edits of all matches and of the first one, and the repetition of the former.
-/

namespace TypedWiki

/-- Every object declares the fields of the class that is registered for it, as objects that were created from it do. -/
def Document.CreatedFrom (d : Document) (r : ClassRegistry) : Prop :=
  ∀ c n o, d.object? c n = some o → ∃ k, r.get? o.classRef = some k ∧ ∀ name, o.hasField name = k.hasField name

namespace Editor

/-- An object after a value was written to a field of some objects. -/
def overwritten (a : ObjectAccessor) (f : FieldDef) (v : Option Value) (os : List PropertyObject)
    (o : PropertyObject) : PropertyObject :=
  if o ∈ os then (a.attempt o f v).2 else o

/-- What an edit does that is to write a value to a field of some objects of a document. -/
structure Edits (a : ObjectAccessor) (f : FieldDef) (v : Option Value) (os : List PropertyObject) (d : Document)
    (outcome : Except Error Bool × Document) : Prop where
  /-- It fails if there are such objects and the writes of them fail. -/
  fails_iff : (∃ err, outcome.1 = .error err) ↔ os ≠ [] ∧ ∀ o ∈ os, ∃ cause, a.set o f v = .error cause
  /-- Then it reports their error and leaves the document. -/
  failed : ∀ err, outcome.1 = .error err →
    (∀ o ∈ os, ∃ cause, err = .field cause ∧ a.set o f v = .error cause) ∧ outcome.2 = d
  /-- Otherwise each of them becomes what a write of it leaves, and nothing else changes. -/
  written : ∀ changed, outcome.1 = .ok changed → (∀ o ∈ os, ∃ report, a.set o f v = .ok report) ∧
    outcome.2 = d.mapObjects (overwritten a f v os)
  /-- It reports whether the document changed. -/
  reports : ∀ changed, outcome.1 = .ok changed → (changed = true ↔ outcome.2 ≠ d)

end Editor

namespace Document

variable {d : Document} {r : ClassRegistry}

/-- A bridge creates objects of registered classes, or none where numbers wrap around. -/
theorem CreatedFrom.createObject (created : d.CreatedFrom r) (a : ObjectAccessor) (c : ClassRef) (guid : Guid)
    {o : PropertyObject} {d' : Document} (h : (Bridge.live r a).createObject d c guid = .ok (o, d')) :
    d'.CreatedFrom r := by
  obtain ⟨r', a', k, live, -, registered, added⟩ := Bridge.createObject_eq_ok_iff.1 h
  cases live
  obtain rfl : (d.addObject k guid).2 = d' := congrArg Prod.snd added
  obtain rfl := r.classRef_of_get? c k registered
  intro c' n p there
  rw [addObject_eq, object?_putNext] at there
  split at there
  · obtain rfl := Option.some.inj there
    cases held : d.object? k.classRef (d.group k.classRef).nextNumber with
    | none =>
      rw [addObject_of_hasRoom (object?_nextNumber_eq_none_iff.1 held)]
      exact ⟨k, registered, PropertyObject.hasField_create d.ref k _ guid⟩
    | some q =>
      rw [addObject_of_taken held]
      exact created k.classRef _ q held
  · exact created c' n p there

/-- Objects of one class are alike. -/
theorem CreatedFrom.alike (created : d.CreatedFrom r) (wf : d.WellFormed) {c : ClassRef} {n m : UInt32}
    {o p : PropertyObject} (ho : d.object? c n = some o) (hp : d.object? c m = some p) : o.Alike p := by
  obtain ⟨hc, -, hd⟩ := wf.fits ho
  obtain ⟨hc', -, hd'⟩ := wf.fits hp
  have classRef := hc.trans hc'.symm
  obtain ⟨k, registered, fields⟩ := created c n o ho
  obtain ⟨k', registered', fields'⟩ := created c m p hp
  rw [classRef, registered'] at registered
  obtain rfl := Option.some.inj registered
  exact ⟨hd.trans hd'.symm, classRef, fun name => (fields name).trans (fields' name).symm⟩

end Document

namespace Editor

variable {a : ObjectAccessor} {f : FieldDef} {v : Option Value} {d : Document}

theorem attempt_of_set {o : PropertyObject} {report : Bool × PropertyObject} (h : a.set o f v = .ok report) :
    (a.attempt o f v).2 = report.2 := by
  rw [ObjectAccessor.attempt, h]

/-! ### Writes in turn -/

/-- Writes that succeed leave what each of them leaves, also where objects were changed before. -/
theorem writeField_mapObjects (wf : d.WellFormed) {entries : List (UInt32 × PropertyObject)}
    (there : ∀ p ∈ entries, d.object? f.classRef p.1 = some p.2)
    (succeed : ∀ p ∈ entries, ∃ report, a.set p.2 f v = .ok report) (changed : Bool)
    (g : PropertyObject → PropertyObject) :
    writeField a f v entries changed (d.mapObjects g) =
      (.ok (changed || entries.any fun p => (a.attempt p.2 f v).2 ≠ p.2),
        d.mapObjects fun o => if o ∈ entries.map Prod.snd then (a.attempt o f v).2 else g o) := by
  induction entries generalizing changed g with
  | nil => simp [writeField]
  | cons p entries ih =>
    obtain ⟨report, hset⟩ := succeed p List.mem_cons_self
    have left : (a.attempt p.2 f v).2 = report.2 := attempt_of_set hset
    have reported : report.1 = decide ((a.attempt p.2 f v).2 ≠ p.2) := by
      rw [left, Bool.eq_iff_iff, decide_eq_true_eq]
      exact ObjectAccessor.changed_iff_of_set hset
    have rest := ih (fun q hq => there q (List.mem_cons_of_mem p hq))
      (fun q hq => succeed q (List.mem_cons_of_mem p hq)) (changed || report.1)
      fun q => if q = p.2 then report.2 else g q
    rw [writeField, hset]
    simp only [Document.modifyObject_mapObjects wf (there p List.mem_cons_self)]
    rw [rest, List.any_cons, reported, Bool.or_assoc]
    refine Prod.ext rfl (Document.mapObjects_congr fun _ _ q _ => ?_)
    by_cases here : q = p.2
    · subst here
      simp [left]
    · simp only [List.map_cons, List.mem_cons, here, false_or, if_false]

/-- Writes that succeed leave all objects written, and report whether this changed one of them. -/
theorem writeField_eq (wf : d.WellFormed) {entries : List (UInt32 × PropertyObject)}
    (there : ∀ p ∈ entries, d.object? f.classRef p.1 = some p.2)
    (succeed : ∀ p ∈ entries, ∃ report, a.set p.2 f v = .ok report) :
    writeField a f v entries false d =
      (.ok (entries.any fun p => (a.attempt p.2 f v).2 ≠ p.2),
        d.mapObjects (overwritten a f v (entries.map Prod.snd))) := by
  have outcome := writeField_mapObjects wf there succeed false id
  rw [Document.mapObjects_of_eq (g := id) fun _ _ _ _ => rfl, Bool.false_or] at outcome
  exact outcome

/-- Writes of what is held change nothing. -/
theorem overwritten_of_held {os : List PropertyObject} (held : ∀ o ∈ os, (a.attempt o f v).2 = o) :
    d.mapObjects (overwritten a f v os) = d := by
  refine Document.mapObjects_of_eq fun _ _ o _ => ?_
  rw [overwritten]
  split
  · rename_i ho
    exact held o ho
  · rfl

/-- Writes that succeed change the document exactly if they change one of the objects. -/
theorem any_changed_iff {entries : List (UInt32 × PropertyObject)}
    (there : ∀ p ∈ entries, d.object? f.classRef p.1 = some p.2) :
    (entries.any fun p => (a.attempt p.2 f v).2 ≠ p.2) = true ↔
      d.mapObjects (overwritten a f v (entries.map Prod.snd)) ≠ d := by
  rw [List.any_eq_true]
  constructor
  · rintro ⟨p, hp, different⟩ same
    have after := Document.object?_mapObjects (overwritten a f v (entries.map Prod.snd)) d f.classRef p.1
    rw [same, there p hp, Option.map_some, overwritten, if_pos (List.mem_map_of_mem hp)] at after
    exact of_decide_eq_true different (Option.some.inj after).symm
  · intro different
    refine Classical.byContradiction fun none => different (overwritten_of_held fun o ho => ?_)
    obtain ⟨p, hp, rfl⟩ := List.mem_map.1 ho
    exact Classical.byContradiction fun ne => none ⟨p, hp, decide_eq_true ne⟩

/-- An edit whose writes fail for one and the same reason fails with it. -/
theorem edits_of_error {os : List PropertyObject} {cause : FieldError} (nonempty : os ≠ [])
    (all : ∀ o ∈ os, a.set o f v = .error cause) : Edits a f v os d (.error (.field cause), d) where
  fails_iff := ⟨fun _ => ⟨nonempty, fun o ho => ⟨cause, all o ho⟩⟩, fun _ => ⟨_, rfl⟩⟩
  failed := by
    rintro err ⟨⟩
    exact ⟨fun o ho => ⟨cause, rfl, all o ho⟩, rfl⟩
  written := by
    rintro changed ⟨⟩
  reports := by
    rintro changed ⟨⟩

/-- An edit whose writes succeed makes all of them. -/
theorem edits_of_ok {os : List PropertyObject} {changed : Bool} (succeed : ∀ o ∈ os, ∃ report, a.set o f v = .ok report)
    (reports : changed = true ↔ d.mapObjects (overwritten a f v os) ≠ d) :
    Edits a f v os d (.ok changed, d.mapObjects (overwritten a f v os)) where
  fails_iff := by
    constructor
    · rintro ⟨err, ⟨⟩⟩
    · rintro ⟨nonempty, failed⟩
      obtain ⟨o, ho⟩ := List.exists_mem_of_ne_nil os nonempty
      obtain ⟨report, written⟩ := succeed o ho
      obtain ⟨cause, refused⟩ := failed o ho
      cases written.symm.trans refused
  failed := by
    rintro err ⟨⟩
  written := fun _ _ => ⟨succeed, rfl⟩
  reports := by
    rintro changed ⟨⟩
    exact reports

/-- Writes of objects that are alike succeed or fail together. -/
theorem edits_writeField (wf : d.WellFormed) {entries : List (UInt32 × PropertyObject)}
    (there : ∀ p ∈ entries, d.object? f.classRef p.1 = some p.2)
    (alike : ∀ p ∈ entries, ∀ q ∈ entries, p.2.Alike q.2) :
    Edits a f v (entries.map Prod.snd) d (writeField a f v entries false d) := by
  by_cases fails : ∃ p ∈ entries, ∃ cause, a.set p.2 f v = .error cause
  · obtain ⟨p, hp, cause, failed⟩ := fails
    have all : ∀ q ∈ entries, a.set q.2 f v = .error cause := fun q hq =>
      ObjectAccessor.set_eq_error_congr (alike p hp q hq) failed
    have outcome : writeField a f v entries false d = (.error (.field cause), d) := by
      cases entries with
      | nil => cases hp
      | cons q entries => rw [writeField, all q List.mem_cons_self]
    rw [outcome]
    exact edits_of_error (List.ne_nil_of_mem (List.mem_map_of_mem hp)) (List.forall_mem_map.2 all)
  · have succeed : ∀ p ∈ entries, ∃ report, a.set p.2 f v = .ok report := by
      intro p hp
      cases hset : a.set p.2 f v with
      | error cause => exact absurd ⟨p, hp, cause, hset⟩ fails
      | ok report => exact ⟨report, rfl⟩
    rw [writeField_eq wf there succeed]
    exact edits_of_ok (List.forall_mem_map.2 succeed) (any_changed_iff there)

/-! ### Which objects are written -/

section Live

variable {r : ClassRegistry} {q : Query} {l : Option IdLayout}

theorem targets_first (e : Editor) (f : FieldDef) (d : Document) :
    e.targets f true d = (e.targets f false d).take 1 := by
  rw [targets, targets]
  split
  · cases (e.selection d).entriesIn f.classRef <;> rfl
  · rfl

theorem entriesIn_live (primary : d.isPrimary = true) (c : ClassRef) :
    (selection ⟨.live r a, q, l⟩ d).entriesIn c =
      .ok ((d.group c).entries.filter fun p => q.matchesIn c a p.2) := by
  rw [Selection.entriesIn, selection, Bridge.entriesOf, Bridge.requirePrimary, if_pos primary]
  rfl

theorem editField_live (primary : d.isPrimary = true) (f : FieldDef) (firstOnly : Bool) (v : Option Value) :
    editField ⟨.live r a, q, l⟩ f firstOnly v d =
      writeField a f v (targets ⟨.live r a, q, l⟩ f firstOnly d) false d := by
  rw [editField_eq, targets, entriesIn_live primary]
  split <;> rfl

/-- The objects to be written are the matches of the class. -/
theorem map_snd_targets (wf : d.WellFormed) (primary : d.isPrimary = true) (f : FieldDef) :
    (targets ⟨.live r a, q, l⟩ f false d).map Prod.snd =
      (Selection.matched a d q).filter (·.classRef = f.classRef) := by
  rw [Selection.filter_matched wf r, targets, entriesIn_live primary]
  by_cases scanned : f.classRef ∈ Selection.scannedClasses (.live r a) d q
  · rw [if_pos (List.contains_iff_mem.2 scanned), if_pos scanned]
    exact (List.filter_map (f := Prod.snd) (p := q.matchesIn f.classRef a)).symm
  · rw [if_neg (mt List.contains_iff_mem.1 scanned), if_neg scanned]
    rfl

/-- Whether an object is to be written depends on this object only. -/
theorem mem_targets_iff (primary : d.isPrimary = true) {p : UInt32 × PropertyObject} :
    p ∈ targets ⟨.live r a, q, l⟩ f false d ↔
      d.object? f.classRef p.1 = some p.2 ∧ q.Selects a f.classRef p.2 := by
  have scanned_iff : d.object? f.classRef p.1 = some p.2 →
      (f.classRef ∈ Selection.scannedClasses (.live r a) d q ↔ q.classRefs = [] ∨ f.classRef ∈ q.classRefs) := by
    intro there
    unfold Selection.scannedClasses
    by_cases named : q.classRefs = []
    · rw [if_pos named]
      refine iff_of_true (Document.mem_classRefs_iff.2 ?_) (Or.inl named)
      exact List.ne_nil_of_mem (Document.mem_objectsOf_iff.2 ⟨p.1, there⟩)
    · rw [if_neg named, or_iff_right named]
  rw [targets, entriesIn_live primary, Query.selects_iff]
  by_cases scanned : f.classRef ∈ Selection.scannedClasses (.live r a) d q
  · rw [if_pos (List.contains_iff_mem.2 scanned)]
    refine (List.mem_filter.trans (and_congr_left' Numbered.get?_eq_some_iff.symm)).trans ?_
    exact and_congr_right fun there => (and_iff_right ((scanned_iff there).1 scanned)).symm
  · rw [if_neg (mt List.contains_iff_mem.1 scanned)]
    refine iff_of_false List.not_mem_nil ?_
    rintro ⟨there, looked, -⟩
    exact scanned ((scanned_iff there).2 looked)

/-- After an edit of all matches, whatever matches then holds the value: what was written holds it, and nothing else
came to match. -/
theorem set_of_mem_targets (primary : d.isPrimary = true)
    (succeed : ∀ p ∈ targets ⟨.live r a, q, l⟩ f false d, ∃ report, a.set p.2 f v = .ok report)
    {p : UInt32 × PropertyObject} (hp : p ∈ targets ⟨.live r a, q, l⟩ f false
      (d.mapObjects (overwritten a f v ((targets ⟨.live r a, q, l⟩ f false d).map Prod.snd)))) :
    a.set p.2 f v = .ok (false, p.2) := by
  obtain ⟨there, selects⟩ := (mem_targets_iff (d := d.mapObjects _) primary).1 hp
  rw [Document.object?_mapObjects] at there
  obtain ⟨o, before, left⟩ := Option.map_eq_some_iff.1 there
  rw [overwritten] at left
  split at left
  · rename_i ho
    obtain ⟨p', hp', rfl⟩ := List.mem_map.1 ho
    obtain ⟨report, hset⟩ := succeed p' hp'
    rw [attempt_of_set hset] at left
    rw [← left]
    exact ObjectAccessor.set_again hset
  · rename_i ho
    subst left
    exact absurd (List.mem_map_of_mem (f := Prod.snd) ((mem_targets_iff primary).2 ⟨before, selects⟩)) ho

theorem edits_targets (wf : d.WellFormed) (primary : d.isPrimary = true) (created : d.CreatedFrom r) (f : FieldDef)
    (v : Option Value) (firstOnly : Bool) :
    Edits a f v ((targets ⟨.live r a, q, l⟩ f firstOnly d).map Prod.snd) d
      (editField ⟨.live r a, q, l⟩ f firstOnly v d) := by
  rw [editField_live primary]
  exact edits_writeField wf (fun p hp => object?_of_mem_targets hp) fun p hp p' hp' =>
    created.alike wf (object?_of_mem_targets hp) (object?_of_mem_targets hp')

/-- **An edit of all matches that was made changes nothing when it is made again.** -/
theorem editField_again (primary : d.isPrimary = true)
    (succeed : ∀ p ∈ targets ⟨.live r a, q, l⟩ f false d, ∃ report, a.set p.2 f v = .ok report)
    {d' : Document} (after : d' =
      d.mapObjects (overwritten a f v ((targets ⟨.live r a, q, l⟩ f false d).map Prod.snd)))
    (wf' : d'.WellFormed) : editField ⟨.live r a, q, l⟩ f false v d' = (.ok false, d') := by
  have primary' : d'.isPrimary = true := by
    rw [after]
    exact primary
  have held : ∀ p ∈ targets ⟨.live r a, q, l⟩ f false d', a.set p.2 f v = .ok (false, p.2) := fun p hp =>
    set_of_mem_targets primary succeed (after ▸ hp)
  have kept : ∀ p ∈ targets ⟨.live r a, q, l⟩ f false d', (a.attempt p.2 f v).2 = p.2 := fun p hp =>
    attempt_of_set (held p hp)
  rw [editField_live primary', writeField_eq wf' (fun p hp => object?_of_mem_targets hp) fun p hp => ⟨_, held p hp⟩]
  refine Prod.ext (congrArg Except.ok (List.any_eq_false.2 fun p hp => ?_)) (overwritten_of_held fun o ho => ?_)
  · simp [kept p hp]
  · obtain ⟨p, hp, rfl⟩ := List.mem_map.1 ho
    exact kept p hp

end Live

/-- **An edit of a field writes all matches or none**, where objects are of registered classes; it reports whether the
document changed, and making it again changes nothing.  An edit of the first match is like it. -/
theorem edits_of_reachable {e : Editor} {r : ClassRegistry} (live : e.bridge = .live r a) (reachable : d.Reachable)
    (primary : d.isPrimary = true) (created : d.CreatedFrom r) (f : FieldDef) (v : Option Value) :
    ∃ os, (e.selection d).objects = .ok os ∧
      Edits a f v (os.filter (·.classRef = f.classRef)) d (e.editField f false v d) ∧
      Edits a f v ((os.filter (·.classRef = f.classRef)).take 1) d (e.editField f true v d) ∧
      ∀ changed d', e.editField f false v d = (.ok changed, d') → e.editField f false v d' = (.ok false, d') := by
  obtain ⟨bridge, q, l⟩ := e
  obtain rfl : bridge = .live r a := live
  have wf := reachable.wellFormed
  have all := edits_targets (a := a) (q := q) (l := l) wf primary created f v false
  have first := edits_targets (a := a) (q := q) (l := l) wf primary created f v true
  have matches_eq := map_snd_targets (r := r) (a := a) (q := q) (l := l) wf primary f
  rw [targets_first, List.map_take, matches_eq] at first
  refine ⟨_, Selection.objects_live primary, matches_eq ▸ all, first, fun changed d' edited => ?_⟩
  obtain ⟨succeed, after⟩ := all.written changed (by rw [edited])
  have wf' := wellFormed_editField ⟨.live r a, q, l⟩ f false v wf
  rw [edited] at after wf'
  exact editField_again primary (fun p hp => succeed p.2 (List.mem_map_of_mem hp)) after wf'

/-- The rank of a tag. -/
def tagRank : FieldDef := FieldDef.make Selection.rankedTag.classRef "rank" .number

/-- A post with two tags that have no rank yet. -/
def taggedPost : Document :=
  ((((Document.create ⟨"xwiki", "Blog", "Post"⟩).addObject Selection.rankedTag 0).2).addObject Selection.rankedTag 1).2

/-- An editor of the tags that have no rank. -/
def unrankedTags : Editor where
  bridge := .live (ClassRegistry.empty.insert Selection.rankedTag) {}
  query := ⟨[.absent tagRank]⟩

/-- Both tags get a rank, and none is left without one. -/
theorem edits_of_reachable_unrankedTags :
    taggedPost.Reachable ∧ taggedPost.isPrimary = true ∧
      taggedPost.CreatedFrom (ClassRegistry.empty.insert Selection.rankedTag) ∧
      ∃ os d', (unrankedTags.selection taggedPost).objects = .ok os ∧
        Edits {} tagRank (some (.int 1)) (os.filter (·.classRef = tagRank.classRef)) taggedPost (.ok true, d') ∧
        Edits {} tagRank (some (.int 1)) ((os.filter (·.classRef = tagRank.classRef)).take 1) taggedPost
          (unrankedTags.editField tagRank true (some (.int 1)) taggedPost) ∧
        unrankedTags.editField tagRank false (some (.int 1)) d' = (.ok false, d') := by
  have reachable : taggedPost.Reachable := .change (.change (.create _) (.addObject _ _ _)) (.addObject _ _ _)
  have blank : (Document.create ⟨"xwiki", "Blog", "Post"⟩).CreatedFrom
      (ClassRegistry.empty.insert Selection.rankedTag) := by
    rintro c n o ⟨⟩
  have created : taggedPost.CreatedFrom (ClassRegistry.empty.insert Selection.rankedTag) :=
    (blank.createObject {} Selection.rankedTag.classRef 0 rfl).createObject {} Selection.rankedTag.classRef 1 rfl
  obtain ⟨os, objects, all, first, again⟩ :=
    edits_of_reachable (e := unrankedTags) rfl reachable rfl created tagRank (some (.int 1))
  obtain ⟨d', edited⟩ : ∃ d', unrankedTags.editField tagRank false (some (.int 1)) taggedPost = (.ok true, d') :=
    ⟨_, rfl⟩
  rw [edited] at all
  exact ⟨reachable, rfl, created, os, d', objects, all, first, again true d' edited⟩

end Editor

end TypedWiki
