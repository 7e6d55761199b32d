import TypedWiki.Proofs.Selection.Matches

/-!
# Deletion — all matches at once, or the first one until there is none

Deleting all matches fixes their places up front; deleting the first one looks for it again on a document that became
smaller, where classes may have run out of objects.  Both come to the same end.

* `Editor.Exhausts`: the first match is deleted until there is none.
* `Editor.Deletes`: what each way of deletion does.
* `exhausts_matched`: one step drops the head of the matches, so a run takes as many steps as there are matches.
* `deletes_of_reachable`: this is so on every reachable primary document.
-/

namespace TypedWiki

namespace Editor

/-- Repeating the deletion of the first match until it finds none takes a number of successful steps and leaves a
document. -/
inductive Exhausts (e : Editor) : Document → Nat → Document → Prop where
  | done {d d' : Document} (none : e.deleteFirst d = (.ok false, d')) : Exhausts e d 0 d'
  | step {d d' d'' : Document} {n : Nat} (deleted : e.deleteFirst d = (.ok true, d')) (rest : Exhausts e d' n d'') :
    Exhausts e d (n + 1) d''

/-- What an editor deletes where its query finds some objects. -/
structure Deletes (e : Editor) (d : Document) (os : List PropertyObject) : Prop where
  objects : (e.selection d).objects = .ok os
  count : (e.selection d).count = .ok os.length
  /-- The matches are dropped and counted; every other object is at its place as it was. -/
  deleteAll : e.deleteAll d = (.ok os.length, d.without os)
  none_left : (e.selection (d.without os)).objects = .ok []
  /-- Only the first match is dropped, if there is one. -/
  deleteFirst : e.deleteFirst d = (.ok os.head?.isSome, d.without (os.take 1))
  /-- Deleting the first match until there is none is deleting all of them. -/
  exhausts_iff : ∀ n d', e.Exhausts d n d' ↔ e.deleteAll d = (.ok n, d')

/-- There is one way to repeat the deletion of the first match. -/
theorem Exhausts.unique {e : Editor} {d d' d'' : Document} {n m : Nat} (h : e.Exhausts d n d')
    (h' : e.Exhausts d m d'') : n = m ∧ d' = d'' := by
  induction h generalizing m with
  | done none =>
    cases h' with
    | done none' => exact ⟨rfl, (Prod.mk.inj (none.symm.trans none')).2⟩
    | step deleted' rest' => cases none.symm.trans deleted'
  | step deleted rest ih =>
    cases h' with
    | done none' => cases deleted.symm.trans none'
    | step deleted' rest' =>
      obtain rfl := (Prod.mk.inj (deleted.symm.trans deleted')).2
      obtain ⟨rfl, rfl⟩ := ih rest'
      exact ⟨rfl, rfl⟩

theorem Exhausts.iff_of_eq {e : Editor} {d d' : Document} {n : Nat} {answer : Except Error Nat × Document}
    (h : e.Exhausts d n d') (deleted : answer = (.ok n, d')) (m : Nat) (d'' : Document) :
    e.Exhausts d m d'' ↔ answer = (.ok m, d'') := by
  rw [deleted]
  constructor
  · intro h'
    obtain ⟨rfl, rfl⟩ := h.unique h'
    rfl
  · intro same
    cases same
    exact h

/-! ### Through the live bridge -/

section Live

open Selection (matched)

variable {r : ClassRegistry} {a : ObjectAccessor} {q : Query} {l : Option IdLayout} {d : Document}

/-- Removing an object by its key drops it. -/
theorem deleteObject_live (wf : d.WellFormed) (primary : d.isPrimary = true) {o : PropertyObject}
    (there : d.object? o.classRef o.number = some o) :
    (Bridge.live r a).deleteObject d o.classRef o.number = .ok (some o, d.without [o]) := by
  rw [Bridge.deleteObject, Bridge.requirePrimary, if_pos primary]
  exact congrArg Except.ok (Prod.ext there (Document.removeObject_eq_without wf there))

/-- Deleting by keys drops the objects that have them. -/
theorem deleteKeys_live {os : List PropertyObject} (wf : d.WellFormed) (primary : d.isPrimary = true)
    (nodup : os.Nodup) (there : ∀ o ∈ os, d.object? o.classRef o.number = some o) (n : Nat) :
    deleteKeys (.live r a) (os.map fun o => (o.classRef, o.number)) n d = (.ok (n + os.length), d.without os) := by
  induction os generalizing d n with
  | nil =>
    rw [Document.without_nil]
    rfl
  | cons o os ih =>
    obtain ⟨fresh, nodup⟩ := List.nodup_cons.1 nodup
    have stay : ∀ p ∈ os, (d.without [o]).object? p.classRef p.number = some p := by
      intro p hp
      have other : p ≠ o := fun same => fresh (same ▸ hp)
      rw [Document.object?_without, there p (List.mem_cons_of_mem o hp)]
      simp [Option.filter, other]
    have rest := ih (wf.without [o]) primary nodup stay (n + 1)
    rw [Document.without_without, List.singleton_append, Nat.add_right_comm] at rest
    rw [List.map_cons, deleteKeys, deleteObject_live wf primary (there o List.mem_cons_self)]
    exact rest

/-- The first match is dropped, if there is one. -/
theorem deleteFirst_live (wf : d.WellFormed) (primary : d.isPrimary = true) :
    deleteFirst ⟨.live r a, q, l⟩ d =
      (.ok (matched a d q).head?.isSome, d.without ((matched a d q).take 1)) := by
  have objects : (selection ⟨.live r a, q, l⟩ d).objects = .ok (matched a d q) := Selection.objects_live primary
  have there : ∀ o ∈ matched a d q, d.object? o.classRef o.number = some o := fun o ho =>
    Selection.object?_of_mem_matched wf ho
  rw [deleteFirst, Selection.first, objects]
  cases found : matched a d q with
  | nil =>
    rw [List.take_nil, Document.without_nil]
    rfl
  | cons o os =>
    rw [found] at there
    simp only [Except.map, List.head?_cons, deleteObject_live wf primary (there o List.mem_cons_self)]
    rfl

/-- What is left of the matches when the first one is dropped are the others. -/
theorem matched_without_head (wf : d.WellFormed) {o : PropertyObject} {os : List PropertyObject}
    (h : matched a d q = o :: os) : matched a (d.without [o]) q = os := by
  have nodup := Selection.nodup_matched (a := a) (q := q) wf
  rw [h] at nodup
  obtain ⟨fresh, -⟩ := List.nodup_cons.1 nodup
  rw [Selection.matched_without, h, List.filter_cons_of_neg (by simp)]
  refine List.filter_eq_self.2 fun p hp => decide_eq_true fun same => fresh ?_
  rw [← List.mem_singleton.1 same]
  exact hp

/-- **Deleting the first match until there is none takes as many steps as there are matches** and drops them. -/
theorem exhausts_matched {os : List PropertyObject} (wf : d.WellFormed) (primary : d.isPrimary = true)
    (h : matched a d q = os) : Exhausts ⟨.live r a, q, l⟩ d os.length (d.without os) := by
  have first := deleteFirst_live (r := r) (a := a) (q := q) (l := l) wf primary
  induction os generalizing d with
  | nil =>
    rw [h, List.take_nil, Document.without_nil] at first
    rw [Document.without_nil]
    exact .done first
  | cons o os ih =>
    rw [h] at first
    have rest := ih (wf.without [o]) primary (matched_without_head wf h) (deleteFirst_live (wf.without [o]) primary)
    rw [Document.without_without] at rest
    exact .step first rest

theorem deletes_live (wf : d.WellFormed) (primary : d.isPrimary = true) :
    Deletes ⟨.live r a, q, l⟩ d (matched a d q) := by
  have objects : ∀ d', d'.isPrimary = true →
      (selection ⟨.live r a, q, l⟩ d').objects = .ok (matched a d' q) := fun _ => Selection.objects_live
  have all : deleteAll ⟨.live r a, q, l⟩ d = (.ok (matched a d q).length, d.without (matched a d q)) := by
    have keys := deleteKeys_live (r := r) (a := a) wf primary (Selection.nodup_matched (a := a) (q := q) wf)
      (fun o ho => Selection.object?_of_mem_matched wf ho) 0
    rw [Nat.zero_add] at keys
    rw [deleteAll, objects d primary]
    exact keys
  refine ⟨objects d primary, ?_, all, ?_, deleteFirst_live wf primary, (exhausts_matched wf primary rfl).iff_of_eq all⟩
  · rw [Selection.count, objects d primary]
    rfl
  · rw [objects (d.without _) primary, Selection.matched_without, List.filter_eq_nil_iff.2 fun o ho => by simp [ho]]

end Live

/-! ### Through any bridge -/

/-- The empty bridge finds nothing and deletes nothing. -/
theorem deletes_empty (q : Query) (l : Option IdLayout) (d : Document) : Deletes ⟨.empty, q, l⟩ d [] := by
  have objects : ∀ d, (selection ⟨.empty, q, l⟩ d).objects = .ok [] := fun d => by
    rw [Selection.objects, selection, Selection.groups_empty]
    rfl
  have all : deleteAll ⟨.empty, q, l⟩ d = (.ok 0, d.without []) := by
    rw [deleteAll, objects, Document.without_nil]
    rfl
  have first : deleteFirst ⟨.empty, q, l⟩ d = (.ok false, d.without []) := by
    rw [deleteFirst, Selection.first, objects, Document.without_nil]
    rfl
  refine ⟨objects d, ?_, all, objects _, first, (Exhausts.done first).iff_of_eq all⟩
  rw [Selection.count, objects]
  rfl

/-- **Deleting all matches drops exactly these, and so does deleting the first one until there is none**, in as many
steps as there are matches, on every reachable primary document and through every bridge. -/
theorem deletes_of_reachable (e : Editor) {d : Document} (reachable : d.Reachable) (primary : d.isPrimary = true) :
    ∃ os, e.Deletes d os := by
  obtain ⟨bridge, q, l⟩ := e
  cases bridge with
  | live r a => exact ⟨_, deletes_live reachable.wellFormed primary⟩
  | empty => exact ⟨[], deletes_empty q l d⟩

/-- An editor that looks for the tags and the comments of a post. -/
def tagsAndComments : Editor where
  bridge := .live ∅ {}
  query := ⟨[.ofClass Selection.rankedTag.classRef, .ofClass Document.comment.classRef]⟩

/-- A post with two tags and, after them, a comment and a note. -/
def discussedPost : Document :=
  ((Selection.misrankedPost.addObject Document.comment 2).2.addObject ⟨⟨"Blog", "NoteClass"⟩, .standard, false, []⟩ 3).2

/-- The three matches are found in two classes, and nothing else is deleted. -/
theorem deletes_of_reachable_discussedPost :
    discussedPost.Reachable ∧ discussedPost.isPrimary = true ∧
      ∃ os, tagsAndComments.Deletes discussedPost os ∧ os.length = 3 := by
  have reachable : discussedPost.Reachable :=
    .change (.change Selection.reachable_misrankedPost (.addObject _ _ _)) (.addObject _ _ _)
  obtain ⟨os, deletes⟩ := tagsAndComments.deletes_of_reachable reachable rfl
  have counted : (tagsAndComments.selection discussedPost).count = .ok 3 := by rfl
  exact ⟨reachable, rfl, os, deletes, Except.ok.inj (deletes.count.symm.trans counted)⟩

end Editor

end TypedWiki
