import TypedWiki.Proofs.Selection.Deletion
import TypedWiki.Proofs.Selection.Narrowing

/-!
# Given objects — filters for the objects of a list

A filter for given objects names their classes, so that these are looked at, and asks for the hashes of their
identities.  The classes alone select nothing: an object of a named class still has to be one of those given, and where
filters are chained, one of those given each time.  That an object with the hash of a given one is this one has to be
assumed.

* `Query.matchesIn_filter_of_field?_eq_none`: one more restriction that reads no field, on any query.
* `Query.matchesIn_filterObjects`, `Query.mem_classRefs_filterObjects`: what such a filter changes of a query.
* `Query.filterEach`: several of them, one after the other.
* `Document.HashedApart`: no hash of an object on the document is that of another one that was given.
* `Selection.Picks`: what filters for given objects find and delete.
* `picks_of_reachable`: so they do, any number of them, on every reachable primary document.
-/

namespace TypedWiki

/-! ### Queries -/

namespace Query

variable {q : Query} {r : Restriction} {a : ObjectAccessor} {c : ClassRef} {o : PropertyObject}

/-- A restriction that reads no field is kept as it is, or an equal one was there that judges all objects alike. -/
theorem matchesIn_filter_of_field?_eq_none (noField : r.field? = none) :
    (q.filter r).matchesIn c a o = (q.matchesIn c a o && r.allows a c o) := by
  rw [filter, add]
  by_cases known : q.contains r = true
  · rw [if_pos known]
    obtain ⟨s, hs, same⟩ := List.any_eq_true.1 known
    have alike : r.appliesTo a o = s.appliesTo a o := by
      refine Restriction.appliesTo_of_same same (fun f g hf => ?_) a o
      rw [noField] at hf
      cases hf
    -- where the query lets an object through, so does the equal restriction in it
    have allowed : q.matchesIn c a o = true → r.allows a c o = true := by
      intro through
      cases counts : r.scope?.all (· = c) with
      | false => simp [Restriction.allows, counts]
      | true =>
        rw [Restriction.scope?_of_same same] at counts
        rw [Restriction.allows, alike, List.all_eq_true.1 through s (List.mem_filter.2 ⟨hs, counts⟩), Bool.or_true]
    cases through : q.matchesIn c a o with
    | false => rfl
    | true => exact (allowed through).symm
  · rw [if_neg known]
    cases counts : r.scope?.all (· = c) <;> simp [matchesIn, scopedTo, Restriction.allows, counts]

theorem mem_classRefs_filter : c ∈ (q.filter r).classRefs ↔ c ∈ q.classRefs ∨ r.scope? = some c := by
  by_cases named : c ∈ q.classRefs <;> simp [classRefs_filter, named]

/-- Naming classes does not change how an object is judged for its own class. -/
theorem matchesIn_filterClasses (own : o.classRef = c) (os : List PropertyObject) :
    (os.foldl (fun q s => q.filterClass s.classRef) q).matchesIn c a o = q.matchesIn c a o := by
  induction os generalizing q with
  | nil => rfl
  | cons s os ih =>
    have allowed : (Restriction.ofClass s.classRef).allows a c o = true := by
      by_cases same : s.classRef = c <;>
        simp [Restriction.allows, Restriction.scope?, Restriction.appliesTo, own, same]
    rw [List.foldl_cons, ih, filterClass, matchesIn_filter_of_field?_eq_none rfl, allowed, Bool.and_true]

/-- A filter for given objects lets through those with their hashes that the query lets through. -/
theorem matchesIn_filterObjects (own : o.classRef = c) (os : List PropertyObject) :
    (q.filterObjects a.platform.identityHash os).matchesIn c a o = true ↔ q.matchesIn c a o = true ∧
      ∃ s ∈ os, s.identityHash a.platform.identityHash = o.identityHash a.platform.identityHash := by
  rw [filterObjects, matchesIn_filter_of_field?_eq_none rfl, matchesIn_filterClasses own, Bool.and_eq_true]
  simp [Restriction.allows, Restriction.anyOf, Restriction.scope?, Restriction.appliesTo]

/-- It names the classes of the objects. -/
theorem mem_classRefs_filterObjects {hash : ObjectIdentity → UInt64} {os : List PropertyObject} :
    c ∈ (q.filterObjects hash os).classRefs ↔ c ∈ q.classRefs ∨ ∃ s ∈ os, s.classRef = c := by
  have classes : ∀ q : Query, c ∈ (os.foldl (fun q s => q.filterClass s.classRef) q).classRefs ↔
      c ∈ q.classRefs ∨ ∃ s ∈ os, s.classRef = c := by
    induction os with
    | nil => simp
    | cons s os ih =>
      intro q
      rw [List.foldl_cons, ih, filterClass, mem_classRefs_filter, or_assoc]
      simp [Restriction.scope?]
  rw [filterObjects, mem_classRefs_filter, classes]
  simp [Restriction.anyOf, Restriction.scope?]

/-! ### Chained filters -/

/-- A query with filters for the objects of several lists, one after the other. -/
def filterEach (hash : ObjectIdentity → UInt64) (q : Query) (given : List (List PropertyObject)) : Query :=
  given.foldl (filterObjects hash) q

/-- An object is let through by several filters if its hash is among those given each time. -/
theorem matchesIn_filterEach (own : o.classRef = c) (given : List (List PropertyObject)) :
    (q.filterEach a.platform.identityHash given).matchesIn c a o = true ↔ q.matchesIn c a o = true ∧
      ∀ os ∈ given, ∃ s ∈ os, s.identityHash a.platform.identityHash = o.identityHash a.platform.identityHash := by
  induction given generalizing q with
  | nil => simp [filterEach]
  | cons os given ih =>
    rw [List.forall_mem_cons, ← and_assoc, ← matchesIn_filterObjects own]
    exact ih

theorem mem_classRefs_filterEach {hash : ObjectIdentity → UInt64} {given : List (List PropertyObject)} :
    c ∈ (q.filterEach hash given).classRefs ↔ c ∈ q.classRefs ∨ ∃ os ∈ given, ∃ s ∈ os, s.classRef = c := by
  induction given generalizing q with
  | nil => simp [filterEach]
  | cons os given ih =>
    simp only [List.mem_cons, exists_eq_or_imp]
    rw [← or_assoc, ← mem_classRefs_filterObjects]
    exact ih

/-- An object that is given each time is looked at: its class is named, unless nothing was given at all. -/
theorem named_of_given {hash : ObjectIdentity → UInt64} {given : List (List PropertyObject)}
    (each : ∀ os ∈ given, ∃ s ∈ os, s.identity = o.identity) :
    (empty.filterEach hash given).classRefs = [] ∨ o.classRef ∈ (empty.filterEach hash given).classRefs := by
  cases given with
  | nil => exact .inl rfl
  | cons os given =>
    obtain ⟨s, hs, same⟩ := each os List.mem_cons_self
    have classRef : s.classRef = o.classRef := congrArg ObjectIdentity.classRef same
    exact .inr (mem_classRefs_filterEach.2 (.inr ⟨os, List.mem_cons_self, s, hs, classRef⟩))

end Query

/-! ### Matches -/

/-- No object of the document has the hash of a given object that is another one. -/
def Document.HashedApart (d : Document) (hash : ObjectIdentity → UInt64) (given : List (List PropertyObject)) : Prop :=
  ∀ o ∈ d.allObjects, ∀ os ∈ given, ∀ s ∈ os, s.identityHash hash = o.identityHash hash → s.identity = o.identity

namespace Selection

variable {a : ObjectAccessor} {d : Document}

/-- What a fresh query with filters for given objects finds on a document and deletes there. -/
structure Picks (registry : ClassRegistry) (a : ObjectAccessor) (d : Document) (given : List (List PropertyObject))
    (os : List PropertyObject) : Prop where
  objects : objects ⟨.live registry a, d, Query.empty.filterEach a.platform.identityHash given⟩ = .ok os
  nodup : os.Nodup
  /-- An object is found if it shares document, class and number with one of each list. -/
  mem_iff : ∀ o, o ∈ os ↔ o ∈ d.allObjects ∧ ∀ l ∈ given, ∃ s ∈ l, s.identity = o.identity
  /-- Deletion drops these objects, and leaves every other one at its place as it was. -/
  deleteAll : ∀ layout,
    Editor.deleteAll ⟨.live registry a, Query.empty.filterEach a.platform.identityHash given, layout⟩ d =
      (.ok os.length, d.without os)

theorem mem_matched_filterEach_iff (wf : d.WellFormed) {given : List (List PropertyObject)}
    (apart : d.HashedApart a.platform.identityHash given) {o : PropertyObject} :
    o ∈ matched a d (Query.empty.filterEach a.platform.identityHash given) ↔
      o ∈ d.allObjects ∧ ∀ os ∈ given, ∃ s ∈ os, s.identity = o.identity := by
  have all : Query.empty.matchesIn o.classRef a o = true := rfl
  rw [mem_matched_iff wf, Query.selects_iff, Query.matchesIn_filterEach rfl, and_iff_right all]
  refine and_congr_right fun there => ?_
  -- on the document, the hash of a given object stands for its identity
  have hashed : ∀ os ∈ given, (∃ s ∈ os, s.identityHash a.platform.identityHash =
      o.identityHash a.platform.identityHash) ↔ ∃ s ∈ os, s.identity = o.identity := by
    refine fun os hos => exists_congr fun s => and_congr_right fun hs => ⟨apart o there os hos s hs, fun same => ?_⟩
    rw [PropertyObject.identityHash, same, PropertyObject.identityHash]
  rw [forall₂_congr hashed]
  exact and_iff_right_of_imp Query.named_of_given

/-- **Filters for given objects find exactly the objects that are given each time, and an editor deletes exactly
these**, on every reachable primary document, for one list, for two or for any number of them, whatever the documents
and classes of the objects, if no hashes collide. -/
theorem picks_of_reachable {d : Document} (reachable : d.Reachable) (primary : d.isPrimary = true)
    (registry : ClassRegistry) (a : ObjectAccessor) (given : List (List PropertyObject))
    (apart : d.HashedApart a.platform.identityHash given) : ∃ os, Picks registry a d given os := by
  have wf := reachable.wellFormed
  refine ⟨matched a d (Query.empty.filterEach a.platform.identityHash given), objects_live primary, nodup_matched wf,
    fun o => ?_, fun layout => (Editor.deletes_live wf primary).deleteAll⟩
  exact mem_matched_filterEach_iff wf apart

/-- A tag and a comment that are on the post, the comment twice, and a tag of another page. -/
def mixedObjects : List PropertyObject :=
  let on (page : String) (c : ClassDef) (n : UInt32) := PropertyObject.create ⟨"xwiki", "Blog", page⟩ c n 9
  [on "Post" rankedTag 1, on "Post" Document.comment 0, on "Post" Document.comment 0, on "Draft" rankedTag 0]

/-- The tags of the post. -/
def bothTags : List PropertyObject :=
  let tag (n : UInt32) := PropertyObject.create ⟨"xwiki", "Blog", "Post"⟩ rankedTag n 9
  [tag 0, tag 1]

/-- The comment is looked at but not found, as it is given only once. -/
theorem picks_of_reachable_discussedPost :
    Editor.discussedPost.Reachable ∧ Editor.discussedPost.isPrimary = true ∧
      ∃ os os', Picks ∅ {} Editor.discussedPost [mixedObjects] os ∧
        Picks ∅ {} Editor.discussedPost [mixedObjects, bothTags] os' ∧ os.length = 2 ∧ os'.length = 1 := by
  have reachable : Editor.discussedPost.Reachable :=
    .change (.change reachable_misrankedPost (.addObject _ _ _)) (.addObject _ _ _)
  have apart : Editor.discussedPost.HashedApart ObjectIdentity.fnv [mixedObjects, bothTags] := by
    unfold Document.HashedApart
    decide +kernel
  obtain ⟨os, picks⟩ := picks_of_reachable reachable rfl ∅ {} [mixedObjects]
    fun o ho l hl => apart o ho l (List.mem_cons.2 (.inl (List.mem_singleton.1 hl)))
  obtain ⟨os', picks'⟩ := picks_of_reachable reachable rfl ∅ {} [mixedObjects, bothTags] apart
  have counted : (count ⟨.live ∅ {}, Editor.discussedPost,
      Query.empty.filterEach ({} : ObjectAccessor).platform.identityHash [mixedObjects]⟩).toOption = some 2 := by
    decide +kernel
  have counted' : (count ⟨.live ∅ {}, Editor.discussedPost, Query.empty.filterEach
      ({} : ObjectAccessor).platform.identityHash [mixedObjects, bothTags]⟩).toOption = some 1 := by decide +kernel
  rw [count, picks.objects] at counted
  rw [count, picks'.objects] at counted'
  exact ⟨reachable, rfl, os, os', picks, picks', Option.some.inj counted, Option.some.inj counted'⟩

end Selection

end TypedWiki
