import Mathlib.Data.List.Nodup
import Mathlib.Data.List.Perm.Subperm
import TypedWiki.Schema.Install

/-!
# Installed schemas — the installation of a registry settles after one run

Installing a registry walks through its classes and compares each schema with the one stored on the class document.
The classes have documents of their own, so what becomes of a class depends on the store at the start and not on the
classes before it.

* `Schema.outcome`: what becomes of a class.
* `installList_eq`: the report of a run lists the classes by their outcomes, and its store has every created class
  written.
* `MemoryStore.AgreeAt`, `agreeAt_writeAll`: a document of that store is as its own class, if any, left it.
* `Installed`: what one run reports and leaves behind.
* `installAll_converges`: every run on a store in memory does this, and a second run finds nothing left to write.
-/

namespace TypedWiki

namespace OrderedMap

variable {κ : Type} {ν : Type} [DecidableEq κ] [DecidableEq ν]

/-- Maps of the same content have the same value at every key. -/
theorem sameContent_iff {m n : OrderedMap κ ν} :
    m.sameContent (fun v w => v = w) n = true ↔ ∀ k, m.get? k = n.get? k := by
  have nodup : ∀ m : OrderedMap κ ν, m.entries.Nodup := fun m => m.nodup_keys.of_map
  have found : ∀ e : κ × ν, ((n.get? e.1).any fun w => e.2 = w) = true ↔ e ∈ n.entries := by
    intro e
    rw [Option.any_eq_true, ← get?_eq_some_iff]
    constructor
    · rintro ⟨w, hw, same⟩
      rw [hw, of_decide_eq_true same]
    · exact fun h => ⟨e.2, h, decide_eq_true rfl⟩
  have within : m.sameContent (fun v w => v = w) n = true ↔
      m.entries.length = n.entries.length ∧ m.entries ⊆ n.entries := by
    rw [sameContent, Bool.and_eq_true, beq_iff_eq, List.all_eq_true]
    exact and_congr_right fun _ => forall₂_congr fun e _ => found e
  rw [within]
  constructor
  · rintro ⟨length, subset⟩ k
    -- a list without repetition that holds as many entries of another one holds all of them
    have perm := (List.subperm_of_subset (nodup m) subset).perm_of_length_le (Nat.le_of_eq length.symm)
    refine Option.ext fun v => ?_
    rw [get?_eq_some_iff, get?_eq_some_iff, perm.mem_iff]
  · intro same
    have perm : m.entries.Perm n.entries := by
      refine (List.perm_ext_iff_of_nodup (nodup m) (nodup n)).2 fun e => ?_
      rw [← get?_eq_some_iff, ← get?_eq_some_iff, same]
    exact ⟨perm.length_eq, perm.subset⟩

end OrderedMap

/-- A document stores the schema of a class: the names of its fields, each with the token of its kind. -/
def ClassDef.IsStoredOn (c : ClassDef) (d : Document) : Prop :=
  ∃ schema, d.schema = some schema ∧ ∀ name, schema.get? name = (c.field? name).map fun f => f.kind.token

/-- Two stores hold the same at a document. -/
structure MemoryStore.AgreeAt (r : DocumentRef) (m n : MemoryStore) : Prop where
  saved : m.documents.get? r = n.documents.get? r
  history : m.history r = n.history r
  language : m.defaultLanguage = n.defaultLanguage

namespace MemoryStore.AgreeAt

variable {r : DocumentRef} {l m n : MemoryStore}

theorem refl (r : DocumentRef) (m : MemoryStore) : AgreeAt r m m := ⟨rfl, rfl, rfl⟩

theorem trans (h : AgreeAt r l m) (h' : AgreeAt r m n) : AgreeAt r l n :=
  ⟨h.saved.trans h'.saved, h.history.trans h'.history, h.language.trans h'.language⟩

theorem document (h : AgreeAt r m n) : m.document r = n.document r := by
  rw [MemoryStore.document, MemoryStore.document, fresh, fresh, h.saved, h.language]

end MemoryStore.AgreeAt

namespace Schema

open MemoryStore (AgreeAt)

variable {settings : Settings} {wiki : String} {m n : MemoryStore} {c : ClassDef} {cs : List ClassDef}

theorem get?_schema (c : ClassDef) (name : String) :
    c.schema.get? name = (c.field? name).map fun f => f.kind.token :=
  OrderedMap.get?_mapValues _ _ name

theorem isStoredOn_withSchema (c : ClassDef) (d : Document) : c.IsStoredOn { d with schema := some c.schema } :=
  ⟨c.schema, rfl, get?_schema c⟩

theorem isCurrent_iff {d : Document} : isCurrent d.schema c.schema = true ↔ c.IsStoredOn d := by
  rw [isCurrent, Option.any_eq_true]
  simp only [OrderedMap.sameContent_iff, get?_schema]
  rfl

/-! ### One class -/

/-- What becomes of a class. -/
inductive Outcome where
  | created
  | unchanged
  | skipped
  deriving DecidableEq

/-- The outcome for a class by what is stored on its document. -/
def outcome (settings : Settings) (wiki : String) (m : MemoryStore) (c : ClassDef) : Outcome :=
  if !c.isStorable || c.isBlacklisted settings then .skipped
  else if isCurrent (m.document (c.classRef.document wiki)).schema c.schema then .unchanged
  else .created

/-- The store with the schema of a class on its document. -/
def write (wiki : String) (m : MemoryStore) (c : ClassDef) : MemoryStore :=
  let d := m.document (c.classRef.document wiki)
  m.put { d with schema := some c.schema } (comment d.schema)

theorem outcome_eq_skipped_iff :
    outcome settings wiki m c = .skipped ↔ c.isPseudo = true ∨ c.isBlacklisted settings = true := by
  have either : (!c.isStorable || c.isBlacklisted settings) = true ↔
      c.isPseudo = true ∨ c.isBlacklisted settings = true := by
    simp [ClassDef.isStorable]
  rw [outcome, ← either]
  split_ifs with barred current <;> simp [barred]

theorem outcome_eq_unchanged_iff :
    outcome settings wiki m c = .unchanged ↔
      outcome settings wiki m c ≠ .skipped ∧ c.IsStoredOn (m.document (c.classRef.document wiki)) := by
  rw [← isCurrent_iff, outcome]
  split_ifs with barred current
  · simp
  · simp [current]
  · simp [current]

/-- The outcome depends on the document of the class only. -/
theorem outcome_congr (h : AgreeAt (c.classRef.document wiki) m n) :
    outcome settings wiki m c = outcome settings wiki n c := by
  rw [outcome, outcome, h.document]

/-- The document of a class is loaded as the primary one, so the store takes it. -/
theorem save_write (built : m.Built) (wiki : String) (c : ClassDef) :
    m.save { m.document (c.classRef.document wiki) with schema := some c.schema }
      (comment (m.document (c.classRef.document wiki)).schema) = .ok (write wiki m c) :=
  MemoryStore.save_eq_ok_iff.2 ⟨(built.document (c.classRef.document wiki)).2, rfl⟩

theorem isStorable_of_outcome (h : outcome settings wiki m c ≠ .skipped) : c.isStorable = true := by
  obtain ⟨storable, -⟩ := not_or.1 (mt outcome_eq_skipped_iff.2 h)
  simpa [ClassDef.isStorable] using storable

theorem install_of_unchanged (h : outcome settings wiki m c = .unchanged) : install wiki c m = .ok (false, m) := by
  have storable := isStorable_of_outcome (h.trans_ne Outcome.noConfusion)
  have current := isCurrent_iff.2 (outcome_eq_unchanged_iff.1 h).2
  simp [install, storable, DocumentStore.load, current]

theorem install_of_created (built : m.Built) (h : outcome settings wiki m c = .created) :
    install wiki c m = .ok (true, write wiki m c) := by
  have ne : outcome settings wiki m c ≠ .skipped := h.trans_ne Outcome.noConfusion
  have outdated : ¬ isCurrent (m.document (c.classRef.document wiki)).schema c.schema = true := fun current =>
    absurd (h.symm.trans (outcome_eq_unchanged_iff.2 ⟨ne, isCurrent_iff.1 current⟩)) Outcome.noConfusion
  have saved := MemoryStore.store_save_eq_ok_iff.2 (save_write built wiki c)
  simp [install, isStorable_of_outcome ne, DocumentStore.load, outdated, saved]

/-! ### The store of a run -/

theorem document_injective {c c' : ClassRef} (h : c.document wiki = c'.document wiki) : c = c' := by
  cases c
  cases c'
  simpa [ClassRef.document] using h

theorem built_write (built : m.Built) (wiki : String) (c : ClassDef) : (write wiki m c).Built :=
  .save built (save_write built wiki c)

theorem document_write (built : m.Built) (wiki : String) (c : ClassDef) :
    (write wiki m c).document (c.classRef.document wiki) =
      { m.document (c.classRef.document wiki) with schema := some c.schema } := by
  have ref := (built.document (c.classRef.document wiki)).1
  exact (MemoryStore.document_put _ _ _ _).trans (if_pos ref)

theorem history_write (built : m.Built) (wiki : String) (c : ClassDef) :
    (write wiki m c).history (c.classRef.document wiki) =
      m.history (c.classRef.document wiki) ++ [comment (m.document (c.classRef.document wiki)).schema] := by
  have ref := (built.document (c.classRef.document wiki)).1
  exact (MemoryStore.history_put _ _ _ _).trans (if_pos ref)

theorem agreeAt_write_of_ne (built : m.Built) {r : DocumentRef} (h : c.classRef.document wiki ≠ r) :
    AgreeAt r (write wiki m c) m := by
  have other : (m.document (c.classRef.document wiki)).ref ≠ r := (built.document _).1.trans_ne h
  refine ⟨?_, (MemoryStore.history_put _ _ _ _).trans (if_neg other), rfl⟩
  exact (OrderedMap.get?_insert _ _ _ _).trans (if_neg other)

/-- What is written to the document of a class depends on this document only. -/
theorem agreeAt_write (built : m.Built) (built' : n.Built) (h : AgreeAt (c.classRef.document wiki) m n) :
    AgreeAt (c.classRef.document wiki) (write wiki m c) (write wiki n c) := by
  refine ⟨?_, ?_, h.language⟩
  · rw [write, write, h.document, MemoryStore.put, MemoryStore.put, OrderedMap.get?_insert, OrderedMap.get?_insert,
      if_pos (built'.document _).1, if_pos (built'.document _).1]
  · rw [history_write built, history_write built', h.history, h.document]

/-- The store with the schemas of several classes on their documents. -/
def writeAll (wiki : String) (m : MemoryStore) (cs : List ClassDef) : MemoryStore := cs.foldl (write wiki) m

theorem built_writeAll (built : m.Built) (wiki : String) (cs : List ClassDef) : (writeAll wiki m cs).Built := by
  induction cs generalizing m with
  | nil => exact built
  | cons c cs ih => exact ih (built_write built wiki c)

/-- A document that belongs to none of the classes stays. -/
theorem agreeAt_writeAll_of_ne (built : m.Built) {r : DocumentRef} (h : ∀ c ∈ cs, c.classRef.document wiki ≠ r) :
    AgreeAt r (writeAll wiki m cs) m := by
  induction cs generalizing m with
  | nil => exact .refl r m
  | cons c cs ih =>
    have rest := ih (built_write built wiki c) fun c' hc' => h c' (List.mem_cons_of_mem c hc')
    exact rest.trans (agreeAt_write_of_ne built (h c List.mem_cons_self))

/-- The document of one of the classes is as if this class alone had been written. -/
theorem agreeAt_writeAll (built : m.Built) (nodup : (cs.map ClassDef.classRef).Nodup) (mem : c ∈ cs) :
    AgreeAt (c.classRef.document wiki) (writeAll wiki m cs) (write wiki m c) := by
  induction cs generalizing m with
  | nil => cases mem
  | cons c' cs ih =>
    obtain ⟨new, nodup⟩ := List.nodup_cons.1 nodup
    have other : ∀ k ∈ cs, k.classRef.document wiki ≠ c'.classRef.document wiki := by
      intro k hk same
      exact new (document_injective same ▸ List.mem_map_of_mem hk)
    rcases List.mem_cons.1 mem with rfl | later
    · exact agreeAt_writeAll_of_ne (built_write built wiki c) other
    · have before := agreeAt_write_of_ne built (other c later).symm
      exact (ih (built_write built wiki c') nodup later).trans (agreeAt_write (built_write built wiki c') built before)

/-! ### Runs -/

/-- The classes with an outcome. -/
def withOutcome (settings : Settings) (wiki : String) (m : MemoryStore) (o : Outcome) (cs : List ClassDef) :
    List ClassDef :=
  cs.filter fun c => outcome settings wiki m c = o

theorem withOutcome_cons (o : Outcome) :
    withOutcome settings wiki m o (c :: cs) =
      if outcome settings wiki m c = o then c :: withOutcome settings wiki m o cs
      else withOutcome settings wiki m o cs := by
  simp [withOutcome, List.filter_cons]

theorem withOutcome_congr (h : ∀ c ∈ cs, outcome settings wiki m c = outcome settings wiki n c) (o : Outcome) :
    withOutcome settings wiki m o cs = withOutcome settings wiki n o cs :=
  List.filter_congr fun c hc => by rw [h c hc]

/-- A run adds each class to the list of its outcome at the start, and writes those to be created. -/
theorem installList_eq (built : m.Built) (nodup : (cs.map ClassDef.classRef).Nodup) (report : InstallReport) :
    installList settings wiki cs report m =
      ({ report with
          created := report.created ++ (withOutcome settings wiki m .created cs).map ClassDef.classRef
          unchanged := report.unchanged ++ (withOutcome settings wiki m .unchanged cs).map ClassDef.classRef
          skipped := report.skipped ++ (withOutcome settings wiki m .skipped cs).map ClassDef.classRef },
        writeAll wiki m (withOutcome settings wiki m .created cs)) := by
  induction cs generalizing m report with
  | nil => simp [installList, withOutcome, writeAll]
  | cons c cs ih =>
    obtain ⟨new, nodup⟩ := List.nodup_cons.1 nodup
    have barred : (!c.isStorable || c.isBlacklisted settings) = true ↔ outcome settings wiki m c = .skipped := by
      rw [outcome_eq_skipped_iff]
      simp [ClassDef.isStorable]
    rw [installList]
    simp only [barred]
    cases became : outcome settings wiki m c with
    | skipped =>
      rw [if_pos rfl, ih built nodup]
      simp [withOutcome_cons, became]
    | unchanged =>
      rw [if_neg Outcome.noConfusion, install_of_unchanged became]
      simp [withOutcome_cons, became, ih built nodup]
    | created =>
      -- the classes to come have other documents, so the write does not change their outcomes
      have others : ∀ c' ∈ cs, outcome settings wiki (write wiki m c) c' = outcome settings wiki m c' := by
        intro c' hc'
        refine outcome_congr (agreeAt_write_of_ne built fun same => ?_)
        exact new (document_injective same ▸ List.mem_map_of_mem hc')
      rw [if_neg Outcome.noConfusion, install_of_created built became]
      simp [withOutcome_cons, became, ih (built_write built wiki c) nodup, withOutcome_congr others, writeAll]

/-! ### Registries -/

/-- What an installation of a registry reports and leaves behind. -/
structure Installed (settings : Settings) (wiki : String) (registry : ClassRegistry) (old : MemoryStore)
    (report : InstallReport) (new : MemoryStore) : Prop where
  failed : report.failed = []
  /-- Every class is listed once, in one of the lists. -/
  perm : (report.created ++ report.unchanged ++ report.skipped).Perm (registry.toList.map ClassDef.classRef)
  nodup : (report.created ++ report.unchanged ++ report.skipped).Nodup
  created_sublist : report.created.Sublist (registry.toList.map ClassDef.classRef)
  unchanged_sublist : report.unchanged.Sublist (registry.toList.map ClassDef.classRef)
  skipped_sublist : report.skipped.Sublist (registry.toList.map ClassDef.classRef)
  mem_skipped_iff : ∀ c ∈ registry.toList,
    c.classRef ∈ report.skipped ↔ c.isPseudo = true ∨ c.isBlacklisted settings = true
  mem_unchanged_iff : ∀ c ∈ registry.toList, c.classRef ∈ report.unchanged ↔
    c.classRef ∉ report.skipped ∧ c.IsStoredOn (old.document (c.classRef.document wiki))
  isStoredOn : ∀ c ∈ registry.toList, c.classRef ∈ report.created ∨ c.classRef ∈ report.unchanged →
    c.IsStoredOn (new.document (c.classRef.document wiki))
  /-- On every document nothing but the schema is written. -/
  frame : ∀ r, { new.document r with schema := (old.document r).schema } = old.document r
  /-- A created class adds one comment to the history of its document. -/
  history : ∀ c ∈ registry.toList, c.classRef ∈ report.created →
    new.history (c.classRef.document wiki) =
      old.history (c.classRef.document wiki) ++ [comment (old.document (c.classRef.document wiki)).schema]
  /-- Any other document stays, and so does its history. -/
  others : ∀ r, (∀ c ∈ report.created, c.document wiki ≠ r) → MemoryStore.AgreeAt r new old

variable {registry : ClassRegistry}

theorem nodup_map_classRef (registry : ClassRegistry) : (registry.toList.map ClassDef.classRef).Nodup :=
  registry.map_classRef_toList ▸ registry.classes.nodup_keys

/-- The lists of a run hold the classes of their outcome. -/
theorem mem_map_withOutcome_iff (nodup : (cs.map ClassDef.classRef).Nodup) (mem : c ∈ cs) (o : Outcome) :
    c.classRef ∈ (withOutcome settings wiki m o cs).map ClassDef.classRef ↔ outcome settings wiki m c = o := by
  rw [List.mem_map]
  constructor
  · rintro ⟨c', hc', same⟩
    obtain ⟨mem', became⟩ := List.mem_filter.1 hc'
    rw [← List.inj_on_of_nodup_map nodup mem' mem same]
    exact of_decide_eq_true became
  · exact fun became => ⟨c, List.mem_filter.2 ⟨mem, decide_eq_true became⟩, rfl⟩

/-- Every class has one of the outcomes. -/
theorem perm_withOutcome (settings : Settings) (wiki : String) (m : MemoryStore) (cs : List ClassDef) :
    (withOutcome settings wiki m .created cs ++ withOutcome settings wiki m .unchanged cs ++
      withOutcome settings wiki m .skipped cs).Perm cs := by
  induction cs with
  | nil => exact .nil
  | cons c cs ih =>
    simp only [withOutcome_cons]
    cases outcome settings wiki m c with
    | created => exact ih.cons c
    | unchanged => exact (List.perm_middle.append_right _).trans (ih.cons c)
    | skipped => exact List.perm_middle.trans (ih.cons c)

theorem installAll_eq (built : m.Built) (settings : Settings) (wiki : String) (registry : ClassRegistry) :
    installAll settings wiki registry m =
      ({ created := (withOutcome settings wiki m .created registry.toList).map ClassDef.classRef
         unchanged := (withOutcome settings wiki m .unchanged registry.toList).map ClassDef.classRef
         skipped := (withOutcome settings wiki m .skipped registry.toList).map ClassDef.classRef },
        writeAll wiki m (withOutcome settings wiki m .created registry.toList)) :=
  installList_eq built (nodup_map_classRef registry) {}

theorem agreeAt_installAll_of_created (built : m.Built) (mem : c ∈ registry.toList)
    (created : outcome settings wiki m c = .created) :
    AgreeAt (c.classRef.document wiki) (installAll settings wiki registry m).2 (write wiki m c) := by
  have sublist : (withOutcome settings wiki m .created registry.toList).Sublist registry.toList := List.filter_sublist
  rw [installAll_eq built]
  exact agreeAt_writeAll built ((nodup_map_classRef registry).sublist (sublist.map _))
    (List.mem_filter.2 ⟨mem, decide_eq_true created⟩)

theorem agreeAt_installAll_of_ne (built : m.Built) {r : DocumentRef}
    (apart : ∀ c ∈ registry.toList, outcome settings wiki m c = .created → c.classRef.document wiki ≠ r) :
    AgreeAt r (installAll settings wiki registry m).2 m := by
  rw [installAll_eq built]
  refine agreeAt_writeAll_of_ne built fun c hc => ?_
  obtain ⟨mem, created⟩ := List.mem_filter.1 hc
  exact apart c mem (of_decide_eq_true created)

/-- The classes of a registry are told apart by their documents. -/
theorem eq_of_document_eq {c' : ClassDef} (mem : c ∈ registry.toList) (mem' : c' ∈ registry.toList)
    (h : c'.classRef.document wiki = c.classRef.document wiki) : c' = c :=
  List.inj_on_of_nodup_map (nodup_map_classRef registry) mem' mem (document_injective h)

/-- After a run the schema of every class is stored that is not skipped. -/
theorem isStoredOn_installAll (built : m.Built) (mem : c ∈ registry.toList)
    (h : outcome settings wiki m c ≠ .skipped) :
    c.IsStoredOn ((installAll settings wiki registry m).2.document (c.classRef.document wiki)) := by
  cases became : outcome settings wiki m c with
  | skipped => exact absurd became h
  | created =>
    rw [(agreeAt_installAll_of_created built mem became).document, document_write built]
    exact isStoredOn_withSchema c _
  | unchanged =>
    have kept : AgreeAt (c.classRef.document wiki) (installAll settings wiki registry m).2 m := by
      refine agreeAt_installAll_of_ne built fun c' mem' created same => ?_
      rw [eq_of_document_eq mem mem' same, became] at created
      cases created
    rw [kept.document]
    exact (outcome_eq_unchanged_iff.1 became).2

theorem frame_installAll (built : m.Built) (settings : Settings) (wiki : String) (registry : ClassRegistry)
    (r : DocumentRef) :
    { (installAll settings wiki registry m).2.document r with schema := (m.document r).schema } = m.document r := by
  by_cases touched : ∃ c ∈ registry.toList, outcome settings wiki m c = .created ∧ c.classRef.document wiki = r
  · obtain ⟨c, mem, created, rfl⟩ := touched
    rw [(agreeAt_installAll_of_created built mem created).document, document_write built]
  · have apart : ∀ c ∈ registry.toList, outcome settings wiki m c = .created → c.classRef.document wiki ≠ r :=
      fun c mem created same => touched ⟨c, mem, created, same⟩
    rw [(agreeAt_installAll_of_ne built apart).document]

theorem installed_installAll (built : m.Built) (settings : Settings) (wiki : String) (registry : ClassRegistry) :
    Installed settings wiki registry m (installAll settings wiki registry m).1
      (installAll settings wiki registry m).2 := by
  have nodup := nodup_map_classRef registry
  have listed : ∀ c ∈ registry.toList, ∀ o,
      c.classRef ∈ (withOutcome settings wiki m o registry.toList).map ClassDef.classRef ↔
        outcome settings wiki m c = o := fun c mem => mem_map_withOutcome_iff nodup mem
  have perm := (perm_withOutcome settings wiki m registry.toList).map ClassDef.classRef
  rw [List.map_append, List.map_append] at perm
  have report := congrArg Prod.fst (installAll_eq built settings wiki registry)
  rw [report]
  constructor
  case failed => rfl
  case perm => exact perm
  case nodup => exact perm.nodup_iff.2 nodup
  case created_sublist => exact List.filter_sublist.map _
  case unchanged_sublist => exact List.filter_sublist.map _
  case skipped_sublist => exact List.filter_sublist.map _
  case mem_skipped_iff => exact fun c mem => (listed c mem .skipped).trans outcome_eq_skipped_iff
  case mem_unchanged_iff =>
    intro c mem
    rw [listed c mem, listed c mem]
    exact outcome_eq_unchanged_iff
  case isStoredOn =>
    intro c mem settled
    refine isStoredOn_installAll built mem fun skipped => ?_
    rw [listed c mem, listed c mem, skipped] at settled
    rcases settled with created | unchanged
    · cases created
    · cases unchanged
  case frame => exact frame_installAll built settings wiki registry
  case history =>
    intro c mem created
    have became := (listed c mem .created).1 created
    rw [(agreeAt_installAll_of_created built mem became).history, history_write built]
  case others =>
    intro r apart
    exact agreeAt_installAll_of_ne built fun c mem created => apart c.classRef ((listed c mem .created).2 created)

theorem built_installAll (built : m.Built) (settings : Settings) (wiki : String) (registry : ClassRegistry) :
    (installAll settings wiki registry m).2.Built := by
  rw [installAll_eq built]
  exact built_writeAll built wiki _

/-- After a run no schema is left to be written. -/
theorem outcome_installAll (built : m.Built) (mem : c ∈ registry.toList) :
    outcome settings wiki (installAll settings wiki registry m).2 c =
      if outcome settings wiki m c = .skipped then .skipped else .unchanged := by
  split_ifs with skipped
  · exact outcome_eq_skipped_iff.2 (outcome_eq_skipped_iff.1 skipped)
  · refine outcome_eq_unchanged_iff.2 ⟨?_, isStoredOn_installAll built mem skipped⟩
    exact fun skipped' => skipped (outcome_eq_skipped_iff.2 (outcome_eq_skipped_iff.1 skipped'))

/-- A second run writes nothing and finds every class unchanged that is not skipped. -/
theorem installAll_again (built : m.Built) (settings : Settings) (wiki : String) (registry : ClassRegistry) :
    installAll settings wiki registry (installAll settings wiki registry m).2 =
      ({ unchanged := (registry.toList.filter fun c => outcome settings wiki m c ≠ .skipped).map ClassDef.classRef
         skipped := (withOutcome settings wiki m .skipped registry.toList).map ClassDef.classRef },
        (installAll settings wiki registry m).2) := by
  have again : ∀ c ∈ registry.toList, outcome settings wiki (installAll settings wiki registry m).2 c =
      if outcome settings wiki m c = .skipped then .skipped else .unchanged :=
    fun c mem => outcome_installAll built mem
  have built' := built_installAll built settings wiki registry
  generalize (installAll settings wiki registry m).2 = new at again built'
  have created : withOutcome settings wiki new .created registry.toList = [] := by
    refine List.filter_eq_nil_iff.2 fun c mem => ?_
    rw [again c mem]
    split_ifs <;> simp
  have unchanged : withOutcome settings wiki new .unchanged registry.toList =
      registry.toList.filter fun c => outcome settings wiki m c ≠ .skipped := by
    refine List.filter_congr fun c mem => decide_eq_decide.2 ?_
    rw [again c mem]
    split_ifs with skipped <;> simp [skipped]
  have skipped : withOutcome settings wiki new .skipped registry.toList =
      withOutcome settings wiki m .skipped registry.toList := by
    refine List.filter_congr fun c mem => decide_eq_decide.2 ?_
    rw [again c mem]
    split_ifs with skipped <;> simp [skipped]
  rw [installAll_eq built', created, unchanged, skipped]
  rfl

/-- **The installation of a registry converges**: one run on a store in memory stores the schema of every class that is
for storing, touches nothing else and reports what became of each class; another run finds all of them unchanged. -/
theorem installAll_converges (built : m.Built) (settings : Settings) (wiki : String) (registry : ClassRegistry) :
    ∃ report new, installAll settings wiki registry m = (report, new) ∧
      Installed settings wiki registry m report new ∧
      installAll settings wiki registry new =
        ({ unchanged := (registry.toList.map ClassDef.classRef).filter fun c =>
             c ∈ report.created ∨ c ∈ report.unchanged
           skipped := report.skipped }, new) := by
  have nodup := nodup_map_classRef registry
  refine ⟨(installAll settings wiki registry m).1, (installAll settings wiki registry m).2, rfl,
    installed_installAll built settings wiki registry, ?_⟩
  have report := congrArg Prod.fst (installAll_eq built settings wiki registry)
  rw [installAll_again built, report, List.filter_map]
  -- a class is listed as created or unchanged exactly if it is not skipped
  have settled : ∀ c ∈ registry.toList, outcome settings wiki m c ≠ .skipped ↔
      c.classRef ∈ (withOutcome settings wiki m .created registry.toList).map ClassDef.classRef ∨
        c.classRef ∈ (withOutcome settings wiki m .unchanged registry.toList).map ClassDef.classRef := by
    intro c mem
    rw [mem_map_withOutcome_iff nodup mem, mem_map_withOutcome_iff nodup mem]
    cases outcome settings wiki m c <;> simp
  rw [List.filter_congr fun c mem => decide_eq_decide.2 (settled c mem)]
  rfl

/-- A class of the space `Blog` whose fields hold texts. -/
def textClass (name : String) (kind : ClassKind) (fields : List String) : ClassDef where
  classRef := ⟨"Blog", name⟩
  kind := kind
  declared := fields.map fun field => ⟨⟨"Blog", name⟩, field, .text none, field, none, none⟩

/-- Five classes, of which one is pseudo. -/
def blogRegistry : ClassRegistry :=
  ((((ClassRegistry.empty.insert (textClass "PostClass" .standard ["title", "author"])).insert
    (textClass "CommentClass" .standard ["body", "author"])).insert
    (textClass "BlogClass" .pseudo ["title"])).insert (textClass "TagClass" .standard ["name"])).insert
    (textClass "DraftClass" .standard ["title"])

/-- A class document with an earlier schema and an object beside it. -/
def storedPosts : Document :=
  let d := ((Document.create ⟨"xwiki", "Blog", "PostClass"⟩).addObject (textClass "PostClass" .standard ["title"]) 0).2
  { d with schema := some (OrderedMap.ofList [("title", "largetext"), ("teaser", "text")]) }

/-- A class document with the schema of its class, fields in another order. -/
def storedComments : Document :=
  { Document.create ⟨"xwiki", "Blog", "CommentClass"⟩ with
    schema := some (OrderedMap.ofList [("author", "text"), ("body", "text")]) }

/-- A store that holds two of the class documents. -/
def blogStore : MemoryStore :=
  (({ defaultLanguage := "en" } : MemoryStore).put storedPosts "imported").put storedComments "imported"

/-- Settings that keep a class from being created. -/
def blogSettings : Settings := Settings.ofEntries [(Settings.blacklistKey, "Blog.DraftClass, Blog.Other")]

theorem installAll_converges_blog :
    blogStore.Built ∧
      ∃ new, installAll blogSettings "xwiki" blogRegistry blogStore =
          ({ created := [⟨"Blog", "PostClass"⟩, ⟨"Blog", "TagClass"⟩]
             unchanged := [⟨"Blog", "CommentClass"⟩]
             skipped := [⟨"Blog", "BlogClass"⟩, ⟨"Blog", "DraftClass"⟩] }, new) ∧
        Installed blogSettings "xwiki" blogRegistry blogStore (installAll blogSettings "xwiki" blogRegistry blogStore).1
          new ∧
        installAll blogSettings "xwiki" blogRegistry new =
          ({ unchanged := [⟨"Blog", "PostClass"⟩, ⟨"Blog", "CommentClass"⟩, ⟨"Blog", "TagClass"⟩]
             skipped := [⟨"Blog", "BlogClass"⟩, ⟨"Blog", "DraftClass"⟩] }, new) := by
  have built : blogStore.Built := by
    have posts : (({ defaultLanguage := "en" } : MemoryStore).put storedPosts "imported").Built :=
      .save (.empty "en") (MemoryStore.save_eq_ok_iff.2 ⟨by rfl, rfl⟩)
    exact .save posts (MemoryStore.save_eq_ok_iff.2 ⟨by rfl, rfl⟩)
  have lists : (installAll blogSettings "xwiki" blogRegistry blogStore).1 =
      { created := [⟨"Blog", "PostClass"⟩, ⟨"Blog", "TagClass"⟩]
        unchanged := [⟨"Blog", "CommentClass"⟩]
        skipped := [⟨"Blog", "BlogClass"⟩, ⟨"Blog", "DraftClass"⟩] } := by decide +kernel
  obtain ⟨report, new, run, installed, again⟩ := installAll_converges built blogSettings "xwiki" blogRegistry
  rw [run] at lists ⊢
  obtain rfl := lists
  refine ⟨built, new, rfl, installed, again.trans ?_⟩
  rfl

end Schema

end TypedWiki
