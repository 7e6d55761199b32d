import TypedWiki.Proofs.Query.Collection
import TypedWiki.Proofs.Selection.Matches

/-!
# One more restriction — when it narrows a selection and when it widens it

A restriction on a class judges the objects of this class, and it also makes a query look at the class.  One more
restriction therefore takes matches away in most cases; on a class that a query does not name beside others it adds
matches instead.

* `Query.matchesIn_filter`, `Query.classRefs_filter`: what one more restriction changes of a query.
* `Selection.Refines`: what becomes of the matches, by the class of the restriction.
* `matched_filter_of_classRefs_eq`, `matched_filter_of_not_mem`: the matches where no class is named anew, and where
  one is.
* `refines_of_filter`: this is so on every reachable primary document.
* `not_refines_overwrittenPost`: it is not so where an object was overwritten by one of another class.
-/

namespace TypedWiki

/-! ### Queries with one more restriction -/

/-- Whether an object is allowed by a restriction, which says nothing about objects of a class that it is not on. -/
def Restriction.allows (r : Restriction) (a : ObjectAccessor) (c : ClassRef) (o : PropertyObject) : Bool :=
  !r.scope?.all (· = c) || r.appliesTo a o

namespace Query

variable {q : Query} {r : Restriction} {a : ObjectAccessor} {c : ClassRef} {o : PropertyObject}

/-- An object is judged by the restrictions that were there and by the one that was added. -/
theorem matchesIn_filter (agree : FieldsAgree (q.restrictions ++ [r])) :
    (q.filter r).matchesIn c a o = (q.matchesIn c a o && r.allows a c o) := by
  have counts : r.allows a c o = true ↔ (r.scope? = none ∨ r.scope? = some c → r.appliesTo a o = true) := by
    cases h : r.scope? <;> simp [Restriction.allows, h, imp_iff_not_or]
  rw [Bool.eq_iff_iff, Bool.and_eq_true, counts,
    (reflects_of_condenses (condenses_filter q r) agree).matchesIn_iff, matchesIn_iff, AllApply,
    List.forall_mem_append, List.forall_mem_singleton]

/-- The class of a restriction that is added is named last, unless it was named before. -/
theorem classRefs_filter (q : Query) (r : Restriction) :
    (q.filter r).classRefs = q.classRefs ++ r.scope?.toList.filter (· ∉ q.classRefs) := by
  rw [classRefs, (condenses_filter q r).scopes, List.filterMap_append, List.eraseDups_append]
  refine congrArg (q.classRefs ++ ·) ?_
  cases h : r.scope? with
  | none => simp [h, List.removeAll]
  | some c =>
    have named : (∃ s ∈ q.restrictions, s.scope? = some c) ↔ c ∈ q.classRefs := mem_classRefs_iff.symm
    by_cases known : c ∈ q.classRefs <;> simp [h, List.removeAll, List.eraseDups_cons, named, known]

theorem classRefs_filter_of_mem (h : ∀ c, r.scope? = some c → c ∈ q.classRefs) :
    (q.filter r).classRefs = q.classRefs := by
  rw [classRefs_filter, List.filter_eq_nil_iff.2 fun c hc => ?_, List.append_nil]
  simpa using h c (Option.mem_toList.1 hc)

theorem classRefs_filter_of_not_mem (onClass : r.scope? = some c) (h : c ∉ q.classRefs) :
    (q.filter r).classRefs = q.classRefs ++ [c] := by
  rw [classRefs_filter, onClass]
  simp [h]

/-- Where a query does not name a class, its objects are judged by the restrictions that are on no class. -/
theorem matchesIn_of_not_mem (h : c ∉ q.classRefs) :
    q.matchesIn c a o = q.restrictions.all fun s => s.scope?.isSome || s.appliesTo a o := by
  rw [Bool.eq_iff_iff, matchesIn_iff, List.all_eq_true]
  refine forall₂_congr fun s hs => ?_
  have other : s.scope? ≠ some c := fun onClass => h (mem_classRefs_iff.2 ⟨s, hs, onClass⟩)
  cases hscope : s.scope? with
  | none => simp
  | some c' =>
    rw [hscope] at other
    simp [other]

end Query

namespace Selection

variable {a : ObjectAccessor} {d : Document} {q : Query} {r : Restriction} {c : ClassRef}

/-! ### Matches -/

/-- What one more restriction makes of the matches on a document, which are listed before and after. -/
structure Refines (a : ObjectAccessor) (d : Document) (q : Query) (r : Restriction) (os os' : List PropertyObject) :
    Prop where
  /-- A restriction on no class, or the first one on a class, leaves the matches to which it applies. -/
  narrows : r.scope? = none ∨ (∀ s ∈ q.restrictions, s.scope? = none) → os' = os.filter (r.appliesTo a)
  /-- A restriction on a class that is named takes away the objects of this class to which it does not apply. -/
  thins : ∀ c, r.scope? = some c → c ∈ q.classRefs →
    os' = os.filter fun o => !(o.classRef = c && !r.appliesTo a o)
  /-- A restriction on a class that is not named, where others are, adds the objects of this class to which it applies
  and every restriction on no class does. -/
  widens : ∀ c, r.scope? = some c → c ∉ q.classRefs → (∃ s ∈ q.restrictions, s.scope? ≠ none) →
    os' = os ++ (d.objectsOf c).filter fun o =>
      r.appliesTo a o && q.restrictions.all fun s => s.scope?.isSome || s.appliesTo a o

/-- Where the query names the same classes, the matches are left that are allowed. -/
theorem matched_filter_of_classRefs_eq (wf : d.WellFormed) (agree : FieldsAgree (q.restrictions ++ [r]))
    (same : (q.filter r).classRefs = q.classRefs) :
    matched a d (q.filter r) = (matched a d q).filter fun o => r.allows a o.classRef o := by
  rw [matched, matched, candidates, same, List.filter_flatMap]
  refine List.flatMap_congr fun c _ => ?_
  rw [List.filter_filter]
  refine List.filter_congr fun o ho => ?_
  rw [Query.matchesIn_filter agree, (wf.mem_objectsOf_iff.1 ho).2, Bool.and_comm]

/-- Where the query names one more class, the matches in this class are added. -/
theorem matched_filter_of_not_mem (agree : FieldsAgree (q.restrictions ++ [r])) (onClass : r.scope? = some c)
    (unnamed : c ∉ q.classRefs) (named : q.classRefs ≠ []) :
    matched a d (q.filter r) = matched a d q ++ (d.objectsOf c).filter fun o =>
      r.appliesTo a o && q.restrictions.all fun s => s.scope?.isSome || s.appliesTo a o := by
  have classes := Query.classRefs_filter_of_not_mem onClass unnamed
  rw [matched, matched, candidates, candidates, if_neg named, classes, if_neg (by simp), List.flatMap_append,
    List.flatMap_singleton]
  refine congrArg₂ (· ++ ·) (List.flatMap_congr fun c' hc' => ?_) (List.filter_congr fun o _ => ?_)
  · refine List.filter_congr fun o _ => ?_
    have other : c ≠ c' := fun h => unnamed (h ▸ hc')
    simp [Query.matchesIn_filter agree, Restriction.allows, onClass, other]
  · rw [Query.matchesIn_filter agree, Query.matchesIn_of_not_mem unnamed, Bool.and_comm]
    simp [Restriction.allows, onClass]

/-- The first restriction on a class leaves only objects of this class, to which it applies. -/
theorem matched_filter_of_unnamed (wf : d.WellFormed) (agree : FieldsAgree (q.restrictions ++ [r]))
    (onClass : r.scope? = some c) (unnamed : q.classRefs = []) :
    matched a d (q.filter r) = (matched a d q).filter (r.appliesTo a) := by
  have classes : (q.filter r).classRefs = [c] := by
    rw [Query.classRefs_filter_of_not_mem onClass (unnamed ▸ List.not_mem_nil), unnamed, List.nil_append]
  have own : ∀ o, (o.classRef = c && r.appliesTo a o) = r.appliesTo a o := by
    intro o
    cases applies : r.appliesTo a o with
    | false => exact Bool.and_false _
    | true => simp [Restriction.classRef_of_appliesTo onClass applies]
  have among : (matched a d q).filter (·.classRef = c) = (d.objectsOf c).filter (q.matchesIn c a) := by
    rw [filter_matched wf ∅ c]
    split
    · rfl
    · rename_i apart
      rw [scannedClasses, if_pos unnamed] at apart
      have empty : d.objectsOf c = [] := Decidable.not_not.1 (mt Document.mem_classRefs_iff.2 apart)
      rw [empty]
      rfl
  calc matched a d (q.filter r)
      = (d.objectsOf c).filter ((q.filter r).matchesIn c a) := by
        rw [matched, candidates, classes, if_neg (List.cons_ne_nil _ _), List.flatMap_singleton]
    _ = ((matched a d q).filter (·.classRef = c)).filter (r.appliesTo a) := by
        rw [among, List.filter_filter]
        refine List.filter_congr fun o _ => ?_
        rw [Query.matchesIn_filter agree, Bool.and_comm]
        simp [Restriction.allows, onClass]
    _ = (matched a d q).filter (r.appliesTo a) := by
        rw [List.filter_filter]
        refine List.filter_congr fun o _ => ?_
        rw [Bool.and_comm, own]

theorem refines_matched (wf : d.WellFormed) (agree : FieldsAgree (q.restrictions ++ [r])) :
    Refines a d q r (matched a d q) (matched a d (q.filter r)) where
  narrows h := by
    cases onClass : r.scope? with
    | none =>
      have same : (q.filter r).classRefs = q.classRefs := Query.classRefs_filter_of_mem (by simp [onClass])
      rw [matched_filter_of_classRefs_eq wf agree same]
      simp [Restriction.allows, onClass]
    | some c =>
      have unnamed : q.classRefs = [] := Query.classRefs_eq_nil_iff.2 (h.resolve_left (by simp [onClass]))
      exact matched_filter_of_unnamed wf agree onClass unnamed
  thins c onClass named := by
    have same : (q.filter r).classRefs = q.classRefs := by
      refine Query.classRefs_filter_of_mem fun c' hc' => ?_
      rw [← Option.some.inj (onClass.symm.trans hc')]
      exact named
    rw [matched_filter_of_classRefs_eq wf agree same]
    refine List.filter_congr fun o _ => ?_
    simp [Restriction.allows, onClass, eq_comm]
  widens c onClass unnamed others := by
    refine matched_filter_of_not_mem agree onClass unnamed fun none => ?_
    obtain ⟨s, hs, on⟩ := others
    exact on (Query.classRefs_eq_nil_iff.1 none s hs)

/-- **One more restriction takes matches away, unless it is on a class that was not named beside others: then it adds
the matches in this class.**  This is so on every reachable primary document, where no two fields share class and
name. -/
theorem refines_of_filter {d : Document} (reachable : d.Reachable) (primary : d.isPrimary = true)
    (registry : ClassRegistry) (a : ObjectAccessor) {q : Query} {r : Restriction}
    (agree : FieldsAgree (q.restrictions ++ [r])) :
    ∃ os os', objects ⟨.live registry a, d, q⟩ = .ok os ∧ objects ⟨.live registry a, d, q.filter r⟩ = .ok os' ∧
      os.Nodup ∧ os'.Nodup ∧ Refines a d q r os os' :=
  have wf := reachable.wellFormed
  ⟨_, _, objects_live primary, objects_live primary, nodup_matched wf, nodup_matched wf, refines_matched wf agree⟩

/-- A post with two tags, of which one cannot be read, and a comment. -/
def remarkedPost : Document := (misrankedPost.addObject Document.comment 2).2

/-- The comments of a post. -/
def comments : Query := ⟨[.ofClass Document.comment.classRef]⟩

/-- Who looks for comments and then also for tags without a rank finds one object more. -/
theorem refines_of_filter_remarkedPost :
    remarkedPost.Reachable ∧ remarkedPost.isPrimary = true ∧
      FieldsAgree (comments.restrictions ++ [.absent Query.rank]) ∧
        ∃ os os', objects ⟨.live ∅ {}, remarkedPost, comments⟩ = .ok os ∧
          objects ⟨.live ∅ {}, remarkedPost, comments.filter (.absent Query.rank)⟩ = .ok os' ∧
          Refines {} remarkedPost comments (.absent Query.rank) os os' ∧ os.length = 1 ∧ os'.length = 2 := by
  have reachable : remarkedPost.Reachable := .change reachable_misrankedPost (.addObject _ _ _)
  have agree : FieldsAgree (comments.restrictions ++ [.absent Query.rank]) := by
    have onlyRank : ∀ r ∈ comments.restrictions ++ [.absent Query.rank], ∀ f, r.field? = some f → f = Query.rank := by
      simp [comments, Restriction.field?, eq_comm]
    intro r hr s hs f g hf hg _ _
    rw [onlyRank r hr f hf, onlyRank s hs g hg]
  obtain ⟨os, os', found, found', -, -, refines⟩ := refines_of_filter reachable rfl ∅ {} agree
  have before : count ⟨.live ∅ {}, remarkedPost, comments⟩ = .ok 1 := by rfl
  have after : count ⟨.live ∅ {}, remarkedPost, comments.filter (.absent Query.rank)⟩ = .ok 2 := by rfl
  rw [count, found] at before
  rw [count, found'] at after
  exact ⟨reachable, rfl, agree, os, os', found, found', refines, Except.ok.inj before, Except.ok.inj after⟩

/-- A tag with a number of its own choice. -/
def strayTag : PropertyObject := .create ⟨"xwiki", "Blog", "Post"⟩ rankedTag 7 1

/-- A post whose comment was overwritten in place by a tag, which is now stored as a comment. -/
def overwrittenPost : Document :=
  ((Document.create ⟨"xwiki", "Blog", "Post"⟩).addObject Document.comment 0).2.modifyObject
    Document.comment.classRef 0 fun _ => strayTag

/-- An object that was overwritten by one of another class matches as long as no class is asked for, and not any more
when its own class is.  Through the empty bridge nothing is found, whatever the document holds. -/
theorem not_refines_overwrittenPost :
    (overwrittenPost.isPrimary = true ∧ FieldsAgree (Query.empty.restrictions ++ [.ofClass rankedTag.classRef]) ∧
      objects ⟨.live ∅ {}, overwrittenPost, Query.empty⟩ = .ok [strayTag] ∧
      objects ⟨.live ∅ {}, overwrittenPost, Query.empty.filter (.ofClass rankedTag.classRef)⟩ = .ok [] ∧
      ¬ Refines {} overwrittenPost Query.empty (.ofClass rankedTag.classRef) [strayTag] []) ∧
    remarkedPost.isPrimary = true ∧ FieldsAgree (comments.restrictions ++ [.ofClass rankedTag.classRef]) ∧
      objects ⟨.empty, remarkedPost, comments⟩ = .ok [] ∧
      objects ⟨.empty, remarkedPost, comments.filter (.ofClass rankedTag.classRef)⟩ = .ok [] ∧
      ¬ Refines {} remarkedPost comments (.ofClass rankedTag.classRef) [] [] := by
  have fieldless : ∀ rs : List Restriction, (∀ r ∈ rs, r.field? = none) → FieldsAgree rs := by
    intro rs none r hr s hs f g hf
    cases (none r hr).symm.trans hf
  refine ⟨⟨rfl, fieldless _ (by decide), rfl, rfl, fun h => ?_⟩, rfl, fieldless _ (by decide), rfl, rfl, fun h => ?_⟩
  · have kept : [strayTag].filter ((Restriction.ofClass rankedTag.classRef).appliesTo {}) = [strayTag] := rfl
    cases (h.narrows (.inr fun s hs => (List.not_mem_nil hs).elim)).trans kept
  · have unnamed : rankedTag.classRef ∉ comments.classRefs := by decide
    have added := h.widens _ rfl unnamed ⟨_, List.mem_singleton_self _, Option.some_ne_none _⟩
    have two : ((remarkedPost.objectsOf rankedTag.classRef).filter fun o =>
        (Restriction.ofClass rankedTag.classRef).appliesTo {} o &&
          comments.restrictions.all fun s => s.scope?.isSome || s.appliesTo {} o).length = 2 := rfl
    rw [List.nil_append] at added
    rw [← added] at two
    cases two

end Selection

end TypedWiki
