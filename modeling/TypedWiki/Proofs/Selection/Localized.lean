import TypedWiki.Proofs.Identifier.Unique

/-!
# Localized views — out of reach of selections and editors

Objects belong to primary documents, but nothing keeps a localized view from holding some: the view itself takes them.
Through the live bridge they stay out of reach.  The bridge refuses to list, create and delete objects of such a view;
it does name their classes, and an editor looks for an identifier before it asks the bridge, so each operation comes to
the refusal in its own way or has nothing to do before that.

* `Withholds`: an answer that is an error or the one for no objects.
* `Selection.Barred`: no reading hands out an object.
* `Editor.Idle`: no operation has an effect or reports one.
* `barred_of_run`: this holds of every localized view, also after any operations on it.
-/

namespace TypedWiki

/-- An answer that gives nothing away: an error, or the answer for no objects. -/
def Withholds {α : Type} (nothing : α) (answer : Except Error α) : Prop :=
  answer = .ok nothing ∨ ∃ err, answer = .error err

/-- No reading of a selection hands out an object. -/
structure Selection.Barred (s : Selection) : Prop where
  groups : Withholds [] s.groups
  objects : Withholds [] s.objects
  count : Withholds 0 s.count
  exists? : Withholds false s.exists?
  first : Withholds none s.first
  unique : Withholds none s.unique
  fieldValues : ∀ f, Withholds [] (s.fieldValues f)
  records : ∀ {β : Type} (m : Mapping β), Withholds [] (s.records m)

/-- No operation of an editor has an effect or reports one; creations do not even answer. -/
structure Editor.Idle (e : Editor) (w : Workspace) : Prop where
  create : ∃ err, e.create w = (.error err, w)
  createFirst : ∃ err, e.createFirst w = (.error err, w)
  createIfNotExists : ∃ err, e.createIfNotExists w = (.error err, w)
  editField : ∀ f firstOnly v, Withholds false (e.editField f firstOnly v w.document).1 ∧
    (e.editField f firstOnly v w.document).2 = w.document
  deleteFirst : Withholds false (e.deleteFirst w.document).1 ∧ (e.deleteFirst w.document).2 = w.document
  deleteAll : Withholds 0 (e.deleteAll w.document).1 ∧ (e.deleteAll w.document).2 = w.document

theorem Withholds.map {α β : Type} {nothing : α} {answer : Except Error α} (h : Withholds nothing answer)
    (f : α → β) : Withholds (f nothing) (answer.map f) := by
  rcases h with rfl | ⟨err, rfl⟩
  · exact Or.inl rfl
  · exact Or.inr ⟨err, rfl⟩

section

variable {r : ClassRegistry} {a : ObjectAccessor} {d : Document} {q : Query}

theorem Bridge.entriesOf_of_localized (localized : d.isPrimary = false) (c : ClassRef) :
    (Bridge.live r a).entriesOf d c = .error (.notPrimary d.ref d.language) := by
  simp only [Bridge.entriesOf, Bridge.requirePrimary, localized, Bool.false_eq_true, if_false]

/-! ### Readings -/

namespace Selection

/-- The first class that is looked at is refused. -/
theorem groupsIn_of_localized (localized : d.isPrimary = false) (cs : List ClassRef) :
    groupsIn ⟨.live r a, d, q⟩ cs = if cs = [] then .ok [] else .error (.notPrimary d.ref d.language) := by
  cases cs with
  | nil => rfl
  | cons c cs =>
    have refused : matchesOf ⟨.live r a, d, q⟩ c = .error (.notPrimary d.ref d.language) := by
      simp only [matchesOf, Bridge.objectsOf, Bridge.entriesOf_of_localized localized]
      rfl
    rw [if_neg (List.cons_ne_nil c cs), groupsIn, refused]

theorem groups_of_localized (localized : d.isPrimary = false) :
    groups ⟨.live r a, d, q⟩ =
      if scannedClasses (.live r a) d q = [] then .ok [] else .error (.bridge (.notPrimary d.ref d.language)) := by
  rw [groups, groupsIn_of_localized localized]
  split <;> rfl

theorem barred_of_localized (localized : d.isPrimary = false) : Barred ⟨.live r a, d, q⟩ := by
  have groups : Withholds [] (groups ⟨.live r a, d, q⟩) := by
    rw [groups_of_localized localized]
    split
    · exact Or.inl rfl
    · exact Or.inr ⟨_, rfl⟩
  have objects : Withholds [] (objects ⟨.live r a, d, q⟩) := groups.map _
  have first : Withholds none (first ⟨.live r a, d, q⟩) := objects.map _
  refine ⟨groups, objects, objects.map _, first.map _, first, ?_, fun f => ?_, fun m => ?_⟩
  · rw [unique]
    rcases objects with empty | ⟨err, failed⟩
    · exact Or.inl (by rw [empty])
    · exact Or.inr ⟨err, by rw [failed]⟩
  · rw [fieldValues]
    rcases objects with empty | ⟨err, failed⟩
    · exact Or.inl (by rw [empty]; rfl)
    · exact Or.inr ⟨err, by rw [failed]⟩
  · rw [records]
    cases m.requireClass with
    | error cause => exact Or.inr ⟨_, rfl⟩
    | ok c =>
      rcases objects with empty | ⟨err, failed⟩
      · exact Or.inl (by rw [empty]; rfl)
      · exact Or.inr ⟨err, by rw [failed]⟩

end Selection

/-! ### Operations -/

namespace Editor

variable {w : Workspace} {layout : Option IdLayout}

/-- A creation fails, for want of an identifier if not at the bridge. -/
theorem createIn_of_localized (localized : w.document.isPrimary = false) (e : Editor) (c : ClassRef) :
    ∃ err, e.createIn c w = (.error err, w) := by
  rcases e.createIn_cases c w with ⟨err, -, failed⟩ | ⟨r, a, k, id, -, primary, -⟩
  · exact ⟨err, failed⟩
  · rw [localized] at primary
    cases primary

theorem createInAll_of_localized (localized : w.document.isPrimary = false) (e : Editor) {cs : List ClassRef}
    (named : cs ≠ []) : ∃ err, e.createInAll cs w = (.error err, w) := by
  obtain ⟨c, cs, rfl⟩ := List.exists_cons_of_ne_nil named
  obtain ⟨err, failed⟩ := createIn_of_localized localized e c
  exact ⟨err, by rw [createInAll, failed]⟩

theorem create_of_localized (localized : w.document.isPrimary = false) (e : Editor) :
    ∃ err, e.create w = (.error err, w) := by
  rw [create]
  cases named : e.namedClasses with
  | error err => exact ⟨err, rfl⟩
  | ok cs =>
    obtain ⟨rfl, hne⟩ := namedClasses_eq_ok named
    exact createInAll_of_localized localized e hne

theorem createFirst_of_localized (localized : w.document.isPrimary = false) (e : Editor) :
    ∃ err, e.createFirst w = (.error err, w) := by
  rw [createFirst]
  cases e.query.classRefs with
  | nil => exact ⟨_, rfl⟩
  | cons c cs => exact createIn_of_localized localized e c

/-- The named classes are looked at first, which is refused. -/
theorem createIfNotExists_of_localized (localized : w.document.isPrimary = false) :
    ∃ err, createIfNotExists ⟨.live r a, q, layout⟩ w = (.error err, w) := by
  rw [createIfNotExists]
  cases named : namedClasses ⟨.live r a, q, layout⟩ with
  | error err => exact ⟨err, rfl⟩
  | ok cs =>
    obtain ⟨rfl, hne⟩ := namedClasses_eq_ok named
    have scanned : Selection.scannedClasses (.live r a) w.document q = q.classRefs := if_neg hne
    have refused : (selection ⟨.live r a, q, layout⟩ w.document).groups =
        .error (.bridge (.notPrimary w.document.ref w.document.language)) := by
      refine (Selection.groups_of_localized localized).trans ?_
      rw [scanned, if_neg hne]
    refine ⟨.bridge (.notPrimary w.document.ref w.document.language), ?_⟩
    simp only [refused]

theorem editField_of_localized (localized : d.isPrimary = false) (f : FieldDef) (firstOnly : Bool)
    (v : Option Value) :
    Withholds false (editField ⟨.live r a, q, layout⟩ f firstOnly v d).1 ∧
      (editField ⟨.live r a, q, layout⟩ f firstOnly v d).2 = d := by
  rw [editField_eq]
  split
  · have refused : (selection ⟨.live r a, q, layout⟩ d).entriesIn f.classRef =
        .error (.notPrimary d.ref d.language) := by
      simp only [selection, Selection.entriesIn, Bridge.entriesOf_of_localized localized]
    rw [refused]
    exact ⟨Or.inr ⟨_, rfl⟩, rfl⟩
  · exact ⟨Or.inl rfl, rfl⟩

theorem deleteFirst_of_localized (localized : d.isPrimary = false) :
    Withholds false (deleteFirst ⟨.live r a, q, layout⟩ d).1 ∧ (deleteFirst ⟨.live r a, q, layout⟩ d).2 = d := by
  have first : Withholds none (selection ⟨.live r a, q, layout⟩ d).first :=
    (Selection.barred_of_localized localized).first
  rw [deleteFirst]
  rcases first with empty | ⟨err, failed⟩
  · rw [empty]
    exact ⟨Or.inl rfl, rfl⟩
  · rw [failed]
    exact ⟨Or.inr ⟨err, rfl⟩, rfl⟩

theorem deleteAll_of_localized (localized : d.isPrimary = false) :
    Withholds 0 (deleteAll ⟨.live r a, q, layout⟩ d).1 ∧ (deleteAll ⟨.live r a, q, layout⟩ d).2 = d := by
  have objects : Withholds [] (selection ⟨.live r a, q, layout⟩ d).objects :=
    (Selection.barred_of_localized localized).objects
  rw [deleteAll]
  rcases objects with empty | ⟨err, failed⟩
  · rw [empty]
    exact ⟨Or.inl rfl, rfl⟩
  · rw [failed]
    exact ⟨Or.inr ⟨err, rfl⟩, rfl⟩

theorem idle_of_localized (localized : w.document.isPrimary = false) : Idle ⟨.live r a, q, layout⟩ w where
  create := create_of_localized localized _
  createFirst := createFirst_of_localized localized _
  createIfNotExists := createIfNotExists_of_localized localized
  editField := editField_of_localized localized
  deleteFirst := deleteFirst_of_localized localized
  deleteAll := deleteAll_of_localized localized

theorem Idle.perform_eq {e : Editor} (h : e.Idle w) (op : Operation) : e.perform w op = w := by
  cases op with
  | create =>
    obtain ⟨err, failed⟩ := h.create
    rw [perform, failed]
  | createFirst =>
    obtain ⟨err, failed⟩ := h.createFirst
    rw [perform, failed]
  | createIfNotExists =>
    obtain ⟨err, failed⟩ := h.createIfNotExists
    rw [perform, failed]
  | editField f firstOnly v => rw [perform, (h.editField f firstOnly v).2]
  | deleteFirst => rw [perform, h.deleteFirst.2]
  | deleteAll => rw [perform, h.deleteAll.2]

/-- Operations through the live bridge leave a localized view as it is, whatever they are and in whatever order. -/
theorem eq_of_run {w' : Workspace} {steps : List (Editor × Operation)} (localized : w.document.isPrimary = false)
    (live : ∀ step ∈ steps, ∃ r a, step.1.bridge = .live r a) (run : Run Performs w steps w') : w' = w := by
  induction run with
  | nil => rfl
  | @snoc u v steps step _ performs ih =>
    obtain rfl : u = w := ih fun s hs => live s (List.mem_append_left _ hs)
    obtain ⟨r, a, hbridge⟩ := live step (List.mem_append_right _ List.mem_cons_self)
    obtain ⟨⟨bridge, q, layout⟩, op⟩ := step
    obtain rfl : bridge = .live r a := hbridge
    rw [performs]
    exact (idle_of_localized localized).perform_eq op

/-- **Localized views are neither read nor written through the live bridge**: whatever operations were tried on such a
view, it is as it was, no selection on it hands out an object, and no operation has an effect or reports one. -/
theorem barred_of_run {w' : Workspace} {steps : List (Editor × Operation)} (localized : w.document.isPrimary = false)
    (live : ∀ step ∈ steps, ∃ r a, step.1.bridge = .live r a) (run : Run Performs w steps w') :
    w' = w ∧ ∀ (r : ClassRegistry) (a : ObjectAccessor) (q : Query),
      Selection.Barred ⟨.live r a, w'.document, q⟩ ∧ ∀ layout, Idle ⟨.live r a, q, layout⟩ w' := by
  obtain rfl := eq_of_run localized live run
  exact ⟨rfl, fun r a q => ⟨Selection.barred_of_localized localized, fun layout => idle_of_localized localized⟩⟩

/-- A French view of a plan that holds a task. -/
def frenchPlan : Workspace where
  document := ((Document.createLocalized ⟨"xwiki", "Plan", "Week"⟩ "fr").addObject task 0).2
  nextGuid := 1

theorem barred_of_run_frenchPlan :
    frenchPlan.document.objectCount = 1 ∧ frenchPlan.document.isPrimary = false ∧
      ∃ w', Run Performs frenchPlan [(taskEditor .standard, .create), (taskEditor .standard, .deleteAll)] w' ∧
        w' = frenchPlan ∧ ∀ (r : ClassRegistry) (a : ObjectAccessor) (q : Query),
          Selection.Barred ⟨.live r a, w'.document, q⟩ ∧ ∀ layout, Idle ⟨.live r a, q, layout⟩ w' := by
  have localized : frenchPlan.document.isPrimary = false := rfl
  have performs : ∀ w e op, Performs w (e, op) (e.perform w op) := fun _ _ _ => rfl
  have run := Run.cons (performs frenchPlan (taskEditor .standard) .create)
    (Run.single (performs _ (taskEditor .standard) .deleteAll))
  have live : ∀ step ∈ [(taskEditor .standard, Operation.create), (taskEditor .standard, .deleteAll)],
      ∃ r a, step.1.bridge = .live r a := by
    intro step hstep
    simp only [List.mem_cons, List.not_mem_nil, or_false] at hstep
    rcases hstep with rfl | rfl <;> exact ⟨_, _, rfl⟩
  exact ⟨rfl, localized, _, run, barred_of_run localized live run⟩

end Editor

end

end TypedWiki
