import TypedWiki.Proofs.Document.Representation
import TypedWiki.Proofs.Run
import TypedWiki.Proofs.Selection.Creation

/-!
# Failed creations — what is left of a creation that stops half-way

Classes are handled one after the other, and the initial values of an object are written one after the other to the
object on the document.  Nothing of this is undone by a failure: the objects of the classes before stay, and so does
the object to which a value was refused, with the values before that one.  This is about classes with room for one
more object, so that what is created is new.

* `Document.Extends`: a document with more objects in some classes and no other change.
* `Editor.Begins`: a new object of a class with some values written to it.
* `Editor.Adds`, `Editor.Fails`: a creation in one class that succeeds, and one that fails.
* `Editor.StopsIn`: creations in several classes up to the first that fails.
* `abandons_of_error`: what every failed creation leaves behind.
-/

namespace TypedWiki

/-- A document with more objects in some classes and no other change. -/
structure Document.Extends (d : Document) (cs : List ClassRef) (d' : Document) : Prop where
  /-- The objects that were there are as they were. -/
  kept : d.KeptIn d'
  /-- Every other class is as it was. -/
  others : ∀ c, c ∉ cs → d'.group c = d.group c
  /-- All else on the document is as it was. -/
  frame : { d' with objects := d.objects } = d

namespace Document.Extends

variable {d d' : Document} {cs : List ClassRef}

theorem refl (d : Document) (cs : List ClassRef) : d.Extends cs d := ⟨KeptIn.refl d, fun _ _ => rfl, rfl⟩

/-- One more object in one of the classes. -/
theorem putNext (h : d.Extends cs d') {c : ClassRef} (hc : c ∈ cs) (room : d'.HasRoom c) (o : PropertyObject) :
    d.Extends cs (d'.putNext c o) := by
  refine ⟨h.kept.trans (keptIn_putNext room o), fun c' hc' => ?_, h.frame⟩
  have hne : c ≠ c' := by
    rintro rfl
    exact hc' hc
  rw [group_putNext, if_neg hne]
  exact h.others c' hc'

end Document.Extends

namespace Editor

/-! ### One object -/

/-- Values are written up to the first that is refused. -/
theorem exists_refused_of_writeAll {a : ObjectAccessor} {vs : List (FieldDef × Value)} {o o' : PropertyObject}
    {refusal : FieldError} (h : writeAll a vs o = (.error refusal, o')) :
    ∃ done f v rest, vs = done ++ (f, v) :: rest ∧ writeAll a done o = (.ok (), o') ∧
      a.set o' f (some v) = .error refusal := by
  induction vs generalizing o with
  | nil => cases h
  | cons fv vs ih =>
    rw [writeAll] at h
    cases hset : a.set o fv.1 (some fv.2) with
    | error err =>
      simp only [hset] at h
      cases h
      exact ⟨[], fv.1, fv.2, vs, rfl, rfl, hset⟩
    | ok p =>
      simp only [hset] at h
      obtain ⟨done, f, v, rest, rfl, written, refused⟩ := ih h
      refine ⟨fv :: done, f, v, rest, rfl, ?_, refused⟩
      rw [writeAll, hset]
      exact written

/-- A new object of a class, under the next number, which is free, with its identifier and with some values written to
it. -/
def Begins (e : Editor) (d : Document) (c : ClassRef) (vs : List (FieldDef × Value)) (o : PropertyObject) : Prop :=
  d.HasRoom c ∧ ∃ r a k id guid, e.bridge = .live r a ∧ d.isPrimary = true ∧ r.get? c = some k ∧ e.nextId d = .ok id ∧
    writeAll a vs (tag id (PropertyObject.create d.ref k (d.group c).nextNumber guid)) = (.ok (), o)

/-- A creation in one class adds a new object with all its initial values. -/
def Adds (e : Editor) (d : Document) (c : ClassRef) (d' : Document) : Prop :=
  ∃ o, e.Begins d c (e.initialValues c) o ∧ d' = d.putNext c o

/-- A creation in one class fails. -/
inductive Fails (e : Editor) (d : Document) (c : ClassRef) : Error → Document → Prop
  /-- It is refused, and there is no new object. -/
  | unbegun {err : Error} (refuses : e.Refuses d c err) : Fails e d c err d
  /-- A value was refused; the new object is there with the values before this one. -/
  | refused {done rest : List (FieldDef × Value)} {f : FieldDef} {v : Value} {o : PropertyObject} {refusal : FieldError}
      (values : e.initialValues c = done ++ (f, v) :: rest) (begun : e.Begins d c done o)
      (refused : e.bridge.accessor.set o f (some v) = .error refusal) : Fails e d c (.field refusal) (d.putNext c o)

/-- The new object is there exactly if a value was refused. -/
theorem Fails.unchanged_iff {e : Editor} {d d' : Document} {c : ClassRef} {err : Error} (h : e.Fails d c err d') :
    d' = d ↔ ∀ refusal, err ≠ .field refusal := by
  cases h with
  | unbegun refuses => exact iff_of_true rfl refuses.ne_field
  | refused _ begun _ => exact iff_of_false (Document.putNext_ne begun.1 _) fun notRefused => notRefused _ rfl

/-- A creation in one class adds an object or fails. -/
theorem createIn_outcome (e : Editor) {c : ClassRef} {w : Workspace} (room : w.document.HasRoom c) :
    (∃ o w', e.createIn c w = (.ok o, w') ∧ e.Adds w.document c w'.document) ∨
      ∃ err w', e.createIn c w = (.error err, w') ∧ e.Fails w.document c err w'.document := by
  rcases e.createIn_cases c w with ⟨err, refuses, failed⟩ | ⟨r, a, k, id, live, primary, registered, rfl, next⟩
  · exact Or.inr ⟨err, w, failed, .unbegun refuses⟩
  · have begins : ∀ vs o, writeAll a vs (tag id (PropertyObject.create w.document.ref k
        (w.document.group k.classRef).nextNumber w.nextGuid)) = (.ok (), o) → e.Begins w.document k.classRef vs o :=
      fun vs o written => ⟨room, r, a, k, id, w.nextGuid, live, primary, registered, next, written⟩
    rw [createIn_eq live primary registered next]
    rcases hmade : e.made k id w with ⟨result, o⟩
    rw [made, live, Bridge.accessor, Document.addObject_of_hasRoom room] at hmade
    cases result with
    | ok u => exact Or.inl ⟨o, _, rfl, o, begins _ o hmade, rfl⟩
    | error refusal =>
      obtain ⟨done, f, v, rest, values, written, refused⟩ := exists_refused_of_writeAll hmade
      refine Or.inr ⟨.field refusal, _, rfl, .refused values (begins done o written) ?_⟩
      rw [live]
      exact refused

/-! ### Several classes -/

/-- Creations in several classes stop at the first that fails. -/
def StopsIn (e : Editor) (cs : List ClassRef) (err : Error) (d d' : Document) : Prop :=
  ∃ done c rest d₁, cs = done ++ c :: rest ∧ Run e.Adds d done d₁ ∧ e.Fails d₁ c err d'

theorem stopsIn_of_createInAll {e : Editor} {cs : List ClassRef} {w w' : Workspace} {err : Error}
    (distinct : cs.Nodup) (room : ∀ c ∈ cs, w.document.HasRoom c) (h : e.createInAll cs w = (.error err, w')) :
    e.StopsIn cs err w.document w'.document := by
  induction cs generalizing w with
  | nil => cases h
  | cons c cs ih =>
    obtain ⟨hc, hcs⟩ := List.nodup_cons.1 distinct
    rw [createInAll] at h
    rcases e.createIn_outcome (room c List.mem_cons_self) with ⟨o, w₁, created, adds⟩ | ⟨err', w₁, failed, fails⟩
    · -- the classes that are still to come have the objects that they had
      have room₁ : ∀ c' ∈ cs, w₁.document.HasRoom c' := by
        intro c' hc'
        have ne : c ≠ c' := by
          rintro rfl
          exact hc hc'
        have same := e.group_createIn_of_ne ne w
        rw [created] at same
        exact (room c' (List.mem_cons_of_mem c hc')).congr same
      simp only [created] at h
      rcases hall : e.createInAll cs w₁ with ⟨result, w₂⟩
      simp only [hall] at h
      cases result with
      | ok keys => cases h
      | error err' =>
        cases h
        obtain ⟨done, c', rest, d₁, rfl, run, fails⟩ := ih hcs room₁ hall
        exact ⟨c :: done, c', rest, d₁, rfl, Run.cons adds run, fails⟩
    · simp only [failed] at h
      cases h
      exact ⟨[], c, cs, w.document, rfl, Run.nil _, fails⟩

theorem extends_of_run {e : Editor} {cs done : List ClassRef} {d d' : Document} (run : Run e.Adds d done d')
    (sub : ∀ c ∈ done, c ∈ cs) : d.Extends cs d' := by
  induction run with
  | nil => exact .refl _ cs
  | snoc _ step ih =>
    obtain ⟨o, begun, rfl⟩ := step
    have before := ih fun c hc => sub c (List.mem_append_left _ hc)
    exact before.putNext (sub _ (List.mem_append_right _ List.mem_cons_self)) begun.1 o

theorem StopsIn.extends {e : Editor} {cs : List ClassRef} {err : Error} {d d' : Document}
    (h : e.StopsIn cs err d d') : d.Extends cs d' := by
  obtain ⟨done, c, rest, d₁, rfl, run, fails⟩ := h
  have added := extends_of_run run fun c' hc' => List.mem_append_left (c :: rest) hc'
  cases fails with
  | unbegun => exact added
  | refused _ begun => exact added.putNext (List.mem_append_right done List.mem_cons_self) begun.1 _

/-- In at most one class something is left behind exactly if a value was refused. -/
theorem StopsIn.unchanged_iff {e : Editor} {cs : List ClassRef} {err : Error} {d d' : Document}
    (h : e.StopsIn cs err d d') (single : cs.length ≤ 1) : d' = d ↔ ∀ refusal, err ≠ .field refusal := by
  obtain ⟨done, c, rest, d₁, rfl, run, fails⟩ := h
  obtain rfl : done = [] := by
    rw [List.length_append, List.length_cons] at single
    exact List.length_eq_zero_iff.1 (by omega)
  rw [← run.eq_of_nil]
  exact fails.unchanged_iff

/-! ### Failed creations -/

/-- The query names no class to create objects in. -/
def Unnamed (e : Editor) (err : Error) : Prop := e.query.classRefs = [] ∧ err = .selection .noClass

/-- What a creation leaves behind that was to add an object in each of some classes and failed. -/
structure Abandons (e : Editor) (unstarted : Prop) (cs : List ClassRef) (err : Error) (d d' : Document) : Prop where
  /-- No class was tried, or one class after the other got its object up to the one that failed. -/
  outcome : (unstarted ∧ d' = d) ∨ e.StopsIn cs err d d'
  /-- Nothing that was there is lost or changed. -/
  extension : d.Extends cs d'
  /-- A creation in one class has an effect exactly if a value was refused. -/
  unchanged_iff : cs.length ≤ 1 → (d' = d ↔ ∀ refusal, err ≠ .field refusal)

theorem abandons_of_unstarted {e : Editor} {unstarted : Prop} {cs : List ClassRef} {err : Error} {d : Document}
    (h : unstarted) (notRefused : ∀ refusal, err ≠ .field refusal) : e.Abandons unstarted cs err d d :=
  ⟨Or.inl ⟨h, rfl⟩, .refl d cs, fun _ => iff_of_true rfl notRefused⟩

theorem abandons_of_unnamed {e : Editor} {unstarted : Prop} {cs : List ClassRef} {err : Error} {d : Document}
    (sufficient : e.Unnamed err → unstarted) (h : e.Unnamed err) : e.Abandons unstarted cs err d d := by
  refine abandons_of_unstarted (sufficient h) fun refusal refused => ?_
  cases h.2.symm.trans refused

theorem StopsIn.abandons {e : Editor} {unstarted : Prop} {cs : List ClassRef} {err : Error} {d d' : Document}
    (h : e.StopsIn cs err d d') : e.Abandons unstarted cs err d d' :=
  ⟨Or.inr h, h.extends, h.unchanged_iff⟩

section Failure

variable {e : Editor} {w w' : Workspace} {err : Error}

theorem abandons_of_create (room : ∀ c ∈ e.query.classRefs, w.document.HasRoom c) (h : e.create w = (.error err, w')) :
    e.Abandons (e.Unnamed err) e.query.classRefs err w.document w'.document := by
  rw [create] at h
  split at h
  · rename_i failed
    cases h
    exact abandons_of_unnamed id (namedClasses_eq_error failed)
  · rename_i named
    obtain ⟨rfl, -⟩ := namedClasses_eq_ok named
    exact (stopsIn_of_createInAll e.query.nodup_classRefs room h).abandons

theorem abandons_of_createFirst (room : ∀ c ∈ e.query.classRefs.take 1, w.document.HasRoom c)
    (h : e.createFirst w = (.error err, w')) :
    e.Abandons (e.Unnamed err) (e.query.classRefs.take 1) err w.document w'.document := by
  rw [createFirst] at h
  split at h
  · rename_i none
    cases h
    exact abandons_of_unnamed id ⟨none, rfl⟩
  · rename_i c rest named
    rw [named, List.take_succ_cons, List.take_zero] at room ⊢
    refine (stopsIn_of_createInAll (List.pairwise_singleton _ c) room ?_).abandons
    rw [createInAll, h]

theorem abandons_of_createIfNotExists (room : ∀ c ∈ e.unmatched w.document, w.document.HasRoom c)
    (h : e.createIfNotExists w = (.error err, w')) :
    e.Abandons (e.Unnamed err ∨ (e.selection w.document).groups = .error err) (e.unmatched w.document) err w.document
      w'.document := by
  by_cases none : e.query.classRefs = []
  · rw [createIfNotExists, namedClasses, none] at h
    cases h
    exact abandons_of_unnamed Or.inl ⟨none, rfl⟩
  cases found : (e.selection w.document).groups with
  | ok groups =>
    rw [createIfNotExists_of_groups none found] at h
    have distinct := (e.unmatched_sublist w.document).nodup e.query.nodup_classRefs
    exact (stopsIn_of_createInAll distinct room h).abandons
  | error cause =>
    rw [createIfNotExists] at h
    split at h
    · rename_i failed
      exact absurd (namedClasses_eq_error failed).1 none
    · simp only [found, Prod.mk.injEq, Except.error.injEq] at h
      obtain ⟨rfl, rfl⟩ := h
      obtain ⟨bridge, rfl⟩ := Selection.groups_eq_error found
      exact abandons_of_unstarted (Or.inr rfl) fun refusal => Error.noConfusion

/-- **What a failed creation leaves behind**: nothing that was there is lost or changed; the classes before the one that
failed have one new object each, with all its initial values, and the one that failed has a new object exactly if a
value was refused, with the values before this one. -/
theorem abandons_of_error (e : Editor) (w w' : Workspace) (err : Error) :
    ((∀ c ∈ e.query.classRefs.take 1, w.document.HasRoom c) → e.createFirst w = (.error err, w') →
        e.Abandons (e.Unnamed err) (e.query.classRefs.take 1) err w.document w'.document) ∧
      ((∀ c ∈ e.query.classRefs, w.document.HasRoom c) → e.create w = (.error err, w') →
        e.Abandons (e.Unnamed err) e.query.classRefs err w.document w'.document) ∧
      ((∀ c ∈ e.unmatched w.document, w.document.HasRoom c) → e.createIfNotExists w = (.error err, w') →
        e.Abandons (e.Unnamed err ∨ (e.selection w.document).groups = .error err) (e.unmatched w.document) err
          w.document w'.document) :=
  ⟨abandons_of_createFirst, abandons_of_create, abandons_of_createIfNotExists⟩

end Failure

/-- The rank of a label. -/
def rank : FieldDef := FieldDef.make ⟨"Blog", "LabelClass"⟩ "rank" .number

/-- A class of labels with a name and a rank. -/
def rankedLabel : ClassDef :=
  ⟨rank.classRef, .standard, false, [FieldDef.make rank.classRef "name" (.text none), rank]⟩

/-- An editor of labels of the name `a` with a rank that is not a number. -/
def mistakenLabels : Editor where
  bridge := .live (ClassRegistry.empty.insert rankedLabel) {}
  query := ⟨[.fieldAnyOf (FieldDef.make rank.classRef "name" (.text none)) [.text "a"],
    .fieldAnyOf rank [.text "high"]]⟩

/-- An editor of labels and of objects of a class that is not registered. -/
def unregistered : Editor where
  bridge := .live (ClassRegistry.empty.insert rankedLabel) {}
  query := ⟨[.ofClass rankedLabel.classRef, .ofClass ⟨"Blog", "GhostClass"⟩]⟩

/-- A document without objects. -/
def blankDocument : Workspace := ⟨Document.create ⟨"xwiki", "Blog", "Post"⟩, 0⟩

theorem abandons_of_error_mistakenLabels :
    ∃ err w', mistakenLabels.createFirst blankDocument = (.error err, w') ∧
      mistakenLabels.create blankDocument = (.error err, w') ∧
      mistakenLabels.createIfNotExists blankDocument = (.error err, w') ∧
      mistakenLabels.Abandons (mistakenLabels.Unnamed err) (mistakenLabels.query.classRefs.take 1) err
        blankDocument.document w'.document ∧
      mistakenLabels.Abandons (mistakenLabels.Unnamed err) mistakenLabels.query.classRefs err blankDocument.document
        w'.document ∧
      mistakenLabels.Abandons (mistakenLabels.Unnamed err ∨
          (mistakenLabels.selection blankDocument.document).groups = .error err)
        (mistakenLabels.unmatched blankDocument.document) err blankDocument.document w'.document := by
  obtain ⟨err, w', first, each, missing⟩ : ∃ err w', mistakenLabels.createFirst blankDocument = (.error err, w') ∧
      mistakenLabels.create blankDocument = (.error err, w') ∧
      mistakenLabels.createIfNotExists blankDocument = (.error err, w') := ⟨_, _, rfl, rfl, rfl⟩
  have room : ∀ c, blankDocument.document.HasRoom c := fun _ => Or.inl rfl
  obtain ⟨ofFirst, ofEach, ofMissing⟩ := abandons_of_error mistakenLabels blankDocument w' err
  exact ⟨err, w', first, each, missing, ofFirst (fun c _ => room c) first, ofEach (fun c _ => room c) each,
    ofMissing (fun c _ => room c) missing⟩

/-- A label to which a rank was refused stays, and so does the label before an object of an unregistered class. -/
theorem not_unchanged_of_error :
    ¬ (∀ (e : Editor) (w w' : Workspace) (err : Error), e.createFirst w = (.error err, w') → w'.document = w.document) ∧
      ¬ ∀ (e : Editor) (w w' : Workspace) (err : Error), e.create w = (.error err, w') →
        (∀ refusal, err ≠ .field refusal) → w'.document = w.document := by
  constructor
  · intro h
    have same := h mistakenLabels blankDocument _ _ rfl
    exact absurd (congrArg Document.objectCount same) (by decide)
  · intro h
    have same := h unregistered blankDocument _ _ rfl (by simp)
    exact absurd (congrArg Document.objectCount same) (by decide)

end Editor

end TypedWiki
