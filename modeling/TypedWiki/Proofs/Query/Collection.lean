import TypedWiki.Proofs.Selection.Answer

/-!
# Collecting restrictions — a query means its restrictions, however they were collected

Restrictions reach a query one by one, by merging queries or all at once, in any order and more than once; equal ones
are kept once.  Where no two fields share class and name, none of this shows in what the query selects.

* `Query.Collects`: the restrictions that went into a query, in order.
* `Covered`, `Condenses`: a list that keeps an equal restriction for each one of another list, and the order of scopes.
* `FieldsAgree`: no two fields share class and name.
* `Query.Collects.condenses`: a query condenses what went into it.
* `Query.Reflects`: the query judges objects and names classes as the restrictions do.
* `Query.Indistinguishable`: two queries that select the same objects everywhere.
* `Query.Collects.reflects_and_determined`: a query reflects what went into it and is determined by the set of it.
-/

namespace TypedWiki

/-! ### Erasing repetitions -/

section EraseDups

variable {α : Type} [DecidableEq α]

theorem eraseDups_filter (p : α → Bool) (l : List α) : (l.filter p).eraseDups = l.eraseDups.filter p := by
  match l with
  | [] => rfl
  | a :: l =>
    have shorter : (l.filter fun b => !b == a).length < (a :: l).length :=
      Nat.lt_succ_of_le (List.length_filter_le _ l)
    have ih := eraseDups_filter p (l.filter fun b => !b == a)
    rw [List.eraseDups_cons]
    by_cases hp : p a = true
    · rw [List.filter_cons_of_pos hp, List.filter_cons_of_pos hp, List.eraseDups_cons, ← ih, List.filter_filter,
        List.filter_filter]
      simp only [Bool.and_comm]
    · rw [List.filter_cons_of_neg hp, List.filter_cons_of_neg hp, ← ih, List.filter_filter]
      refine congrArg List.eraseDups (List.filter_congr fun b _ => ?_)
      by_cases hb : b = a
      · simp [hb, hp]
      · simp [hb]
  termination_by l.length
  decreasing_by exact shorter

/-- The distinct members of two lists in a row depend on the distinct members of each. -/
theorem eraseDups_append_congr {l l' m m' : List α} (hl : l.eraseDups = l'.eraseDups) (hm : m.eraseDups = m'.eraseDups) :
    (l ++ m).eraseDups = (l' ++ m').eraseDups := by
  have mem : ∀ a, a ∈ l ↔ a ∈ l' := by
    intro a
    rw [← List.mem_eraseDups, hl, List.mem_eraseDups]
  have removed : ∀ n : List α, n.removeAll l = n.removeAll l' := by
    intro n
    refine List.filter_congr fun a _ => ?_
    simp [mem]
  rw [List.eraseDups_append, List.eraseDups_append, hl, removed]
  unfold List.removeAll
  rw [eraseDups_filter, eraseDups_filter, hm]

end EraseDups

/-! ### Equal restrictions kept once -/

/-- Every restriction of a list has an equal one in another list. -/
def Covered (rs ps : List Restriction) : Prop := ∀ r ∈ rs, ∃ s ∈ ps, r.same s = true

/-- No two fields that restrictions read share class and name. -/
def FieldsAgree (rs : List Restriction) : Prop :=
  ∀ r ∈ rs, ∀ s ∈ rs, ∀ f g, r.field? = some f → s.field? = some g → f.classRef = g.classRef → f.name = g.name → f = g

theorem FieldsAgree.subset {rs ps : List Restriction} (h : FieldsAgree ps) (sub : rs ⊆ ps) : FieldsAgree rs :=
  fun r hr s hs => h r (sub hr) s (sub hs)

/-- The restrictions that count for objects of a class apply to an object. -/
def AllApply (rs : List Restriction) (a : ObjectAccessor) (c : ClassRef) (o : PropertyObject) : Prop :=
  ∀ r ∈ rs, r.scope? = none ∨ r.scope? = some c → r.appliesTo a o = true

namespace Covered

variable {rs ps : List Restriction}

/-- What satisfies the restrictions of a list satisfies those that have equals there. -/
theorem allApply (covered : Covered rs ps) {qs : List Restriction} (agree : FieldsAgree qs) (left : rs ⊆ qs)
    (right : ps ⊆ qs) {a : ObjectAccessor} {c : ClassRef} {o : PropertyObject} (h : AllApply ps a c o) :
    AllApply rs a c o := by
  intro r hr counts
  obtain ⟨s, hs, same⟩ := covered r hr
  rw [Restriction.scope?_of_same same] at counts
  rw [Restriction.appliesTo_of_same same (agree r (left hr) s (right hs))]
  exact h s hs counts

theorem exists_scope (covered : Covered rs ps) {c : ClassRef} (h : ∃ r ∈ rs, r.scope? = some c) :
    ∃ s ∈ ps, s.scope? = some c := by
  obtain ⟨r, hr, hc⟩ := h
  obtain ⟨s, hs, same⟩ := covered r hr
  exact ⟨s, hs, (Restriction.scope?_of_same same).symm.trans hc⟩

end Covered

/-- A list that keeps an equal restriction for each one of another list, and mentions the scopes in the same order. -/
structure Condenses (rs ps : List Restriction) : Prop where
  subset : rs ⊆ ps
  covered : Covered ps rs
  scopes : (rs.filterMap Restriction.scope?).eraseDups = (ps.filterMap Restriction.scope?).eraseDups

namespace Condenses

variable {rs rs' ps ps' : List Restriction}

theorem refl (rs : List Restriction) : Condenses rs rs :=
  ⟨fun _ hr => hr, fun r hr => ⟨r, hr, r.same_refl⟩, rfl⟩

theorem trans (h : Condenses rs ps) (h' : Condenses ps ps') : Condenses rs ps' where
  subset r hr := h'.subset (h.subset hr)
  covered r hr := by
    obtain ⟨s, hs, same⟩ := h'.covered r hr
    obtain ⟨t, ht, same'⟩ := h.covered s hs
    exact ⟨t, ht, Restriction.same_trans same same'⟩
  scopes := h.scopes.trans h'.scopes

theorem append (h : Condenses rs ps) (h' : Condenses rs' ps') : Condenses (rs ++ rs') (ps ++ ps') where
  subset r hr := by
    rcases List.mem_append.1 hr with hr | hr
    · exact List.mem_append_left _ (h.subset hr)
    · exact List.mem_append_right _ (h'.subset hr)
  covered r hr := by
    rcases List.mem_append.1 hr with hr | hr
    · obtain ⟨s, hs, same⟩ := h.covered r hr
      exact ⟨s, List.mem_append_left _ hs, same⟩
    · obtain ⟨s, hs, same⟩ := h'.covered r hr
      exact ⟨s, List.mem_append_right _ hs, same⟩
  scopes := by
    rw [List.filterMap_append, List.filterMap_append]
    exact eraseDups_append_congr h.scopes h'.scopes

/-- A restriction with an equal one in front of it can be left out. -/
theorem concat_of_same {r s : Restriction} (hs : s ∈ rs) (same : r.same s = true) : Condenses rs (rs ++ [r]) where
  subset t ht := List.mem_append_left _ ht
  covered t ht := by
    rcases List.mem_append.1 ht with ht | ht
    · exact ⟨t, ht, t.same_refl⟩
    · exact ⟨s, hs, List.mem_singleton.1 ht ▸ same⟩
  scopes := by
    have mentioned : ∀ c, r.scope? = some c → c ∈ rs.filterMap Restriction.scope? := by
      intro c hc
      exact List.mem_filterMap.2 ⟨s, hs, (Restriction.scope?_of_same same).symm.trans hc⟩
    rw [List.filterMap_append, List.eraseDups_append]
    cases hr : r.scope? with
    | none => simp [hr, List.removeAll]
    | some c =>
      have removed : [c].removeAll (rs.filterMap Restriction.scope?) = [] :=
        List.filter_eq_nil_iff.2 (by simpa using mentioned c hr)
      simp [hr, removed]

end Condenses

/-! ### Collecting -/

namespace Query

/-- The restrictions that went into a query, in order: added singly, with another query, or all at once. -/
inductive Collects : Query → List Restriction → Prop where
  | empty : Collects Query.empty []
  | add {q : Query} {rs : List Restriction} (collects : Collects q rs) (r : Restriction) :
    Collects (q.add r).2 (rs ++ [r])
  | filter {q : Query} {rs : List Restriction} (collects : Collects q rs) (r : Restriction) :
    Collects (q.filter r) (rs ++ [r])
  | merge {q p : Query} {rs ps : List Restriction} (collects : Collects q rs) (collects' : Collects p ps) :
    Collects (q.merge p) (rs ++ ps)
  | ofList (rs : List Restriction) : Collects (Query.ofList rs) rs

theorem condenses_filter (q : Query) (r : Restriction) :
    Condenses (q.filter r).restrictions (q.restrictions ++ [r]) := by
  rw [filter, add]
  by_cases known : q.contains r = true
  · rw [if_pos known]
    obtain ⟨s, hs, same⟩ := List.any_eq_true.1 known
    exact .concat_of_same hs same
  · rw [if_neg known]
    exact .refl _

theorem condenses_addAll (q : Query) (rs : List Restriction) :
    Condenses (q.addAll rs).restrictions (q.restrictions ++ rs) := by
  induction rs generalizing q with
  | nil =>
    rw [List.append_nil]
    exact .refl _
  | cons r rs ih =>
    have first := (condenses_filter q r).append (.refl rs)
    rw [List.append_assoc] at first
    exact (ih (q.filter r)).trans first

/-- **A query condenses what went into it.** -/
theorem Collects.condenses {q : Query} {rs : List Restriction} (h : q.Collects rs) : Condenses q.restrictions rs := by
  induction h with
  | empty => exact .refl []
  | @add q rs _ r ih => exact (condenses_filter q r).trans (ih.append (.refl [r]))
  | @filter q rs _ r ih => exact (condenses_filter q r).trans (ih.append (.refl [r]))
  | @merge q p rs ps _ _ ih ih' => exact (condenses_addAll q p.restrictions).trans (ih.append ih')
  | ofList rs => exact condenses_addAll Query.empty rs

/-! ### What a query means -/

/-- The query judges objects and names classes as the restrictions do. -/
structure Reflects (q : Query) (rs : List Restriction) : Prop where
  /-- An object is judged for a class by the restrictions that are on this class or on none. -/
  matchesIn_iff : ∀ a c o, q.matchesIn c a o = true ↔ AllApply rs a c o
  mem_classRefs_iff : ∀ c, c ∈ q.classRefs ↔ ∃ r ∈ rs, r.scope? = some c
  nodup_classRefs : q.classRefs.Nodup
  /-- Classes are named in the order of their first mention. -/
  ordered : q.classRefs.Pairwise
    ((rs.filterMap Restriction.scope?).idxOf · < (rs.filterMap Restriction.scope?).idxOf ·)

/-- Two queries that judge all objects alike, name the same classes, and find the same objects of each class on every
primary document. -/
structure Indistinguishable (q p : Query) : Prop where
  matchesIn_eq : ∀ c a o, q.matchesIn c a o = p.matchesIn c a o
  mem_classRefs_iff : ∀ c, c ∈ q.classRefs ↔ c ∈ p.classRefs
  groups : ∀ (b : Bridge) (d : Document), d.isPrimary = true →
    ∃ gs hs, Selection.groups ⟨b, d, q⟩ = .ok gs ∧ Selection.groups ⟨b, d, p⟩ = .ok hs ∧
      ∀ c os, (c, os) ∈ gs ↔ (c, os) ∈ hs

theorem reflects_of_condenses {q : Query} {rs : List Restriction} (condenses : Condenses q.restrictions rs)
    (agree : FieldsAgree rs) : q.Reflects rs where
  matchesIn_iff a c o := by
    rw [matchesIn_iff]
    constructor
    · exact condenses.covered.allApply agree (List.Subset.refl rs) condenses.subset
    · exact fun h r hr => h r (condenses.subset hr)
  mem_classRefs_iff c := by
    rw [classRefs, condenses.scopes, List.mem_eraseDups, List.mem_filterMap]
  nodup_classRefs := q.nodup_classRefs
  ordered := by
    rw [classRefs, condenses.scopes]
    exact pairwise_idxOf_eraseDups _

theorem indistinguishable_of_matchesIn_eq {q p : Query} (judge : ∀ c a o, q.matchesIn c a o = p.matchesIn c a o)
    (named : ∀ c, c ∈ q.classRefs ↔ c ∈ p.classRefs) : q.Indistinguishable p := by
  refine ⟨judge, named, fun b d primary => ?_⟩
  cases b with
  | empty => exact ⟨[], [], Selection.groups_empty d q, Selection.groups_empty d p, fun _ _ => Iff.rfl⟩
  | live r a =>
    -- A query that names no class scans the classes of the document, and both queries name none then.
    have scanned : ∀ c, c ∈ Selection.scannedClasses (.live r a) d q ↔ c ∈ Selection.scannedClasses (.live r a) d p := by
      have unnamed : q.classRefs = [] ↔ p.classRefs = [] := by
        simp only [List.eq_nil_iff_forall_not_mem, named]
      intro c
      unfold Selection.scannedClasses
      by_cases h : q.classRefs = []
      · rw [if_pos h, if_pos (unnamed.1 h)]
      · rw [if_neg h, if_neg fun h' => h (unnamed.2 h')]
        exact named c
    refine ⟨_, _, Selection.groups_live primary, Selection.groups_live primary, fun c os => ?_⟩
    have matching : q.matchesIn c a = p.matchesIn c a := funext (judge c a)
    rw [Selection.mem_matchGroups_iff, Selection.mem_matchGroups_iff, scanned, matching]

/-- **A query reflects the restrictions that went into it, and the set of these determines it.** -/
theorem Collects.reflects_and_determined {q : Query} {rs : List Restriction} (collects : q.Collects rs)
    (agree : FieldsAgree rs) :
    q.Reflects rs ∧ ∀ (p : Query) (ps : List Restriction), p.Collects ps → FieldsAgree (rs ++ ps) →
      Covered rs ps → Covered ps rs → q.Indistinguishable p := by
  have reflects := reflects_of_condenses collects.condenses agree
  refine ⟨reflects, fun p ps collects' both into back => ?_⟩
  have left := List.subset_append_left rs ps
  have right := List.subset_append_right rs ps
  have reflects' := reflects_of_condenses collects'.condenses (both.subset right)
  refine indistinguishable_of_matchesIn_eq (fun c a o => ?_) fun c => ?_
  · rw [Bool.eq_iff_iff, reflects.matchesIn_iff, reflects'.matchesIn_iff]
    exact ⟨back.allApply both right left, into.allApply both left right⟩
  · rw [reflects.mem_classRefs_iff, reflects'.mem_classRefs_iff]
    exact ⟨into.exists_scope, back.exists_scope⟩

/-- The rank of a tag. -/
def rank : FieldDef := FieldDef.make Selection.rankedTag.classRef "rank" .number

/-- First tags with a rank; that they have one is asked for twice. -/
def firstRanked : Query := (empty.filter (.present rank)).merge (ofList [.number 0, .present rank])

/-- Ranked tags that are the first ones. -/
def rankedFirst : Query := ((ofList [.number 0, .number 0]).add (.present rank)).2

theorem reflects_and_determined_firstRanked :
    firstRanked.Collects [.present rank, .number 0, .present rank] ∧
      rankedFirst.Collects [.number 0, .number 0, .present rank] ∧
        firstRanked.Reflects [.present rank, .number 0, .present rank] ∧ firstRanked.Indistinguishable rankedFirst := by
  have collects : firstRanked.Collects [.present rank, .number 0, .present rank] :=
    .merge (.filter .empty _) (.ofList _)
  have collects' : rankedFirst.Collects [.number 0, .number 0, .present rank] := .add (.ofList _) _
  have onlyRank : ∀ r ∈ [Restriction.present rank, .number 0, .present rank, .number 0, .number 0, .present rank],
      ∀ f, r.field? = some f → f = rank := by
    simp [Restriction.field?, eq_comm]
  have agree : FieldsAgree [.present rank, .number 0, .present rank, .number 0, .number 0, .present rank] := by
    intro r hr s hs f g hf hg _ _
    rw [onlyRank r hr f hf, onlyRank s hs g hg]
  obtain ⟨reflects, determined⟩ := Collects.reflects_and_determined collects
    (agree.subset (List.subset_append_left [_, _, _] [_, _, _]))
  refine ⟨collects, collects', reflects, determined _ _ collects' agree ?_ ?_⟩
  · simp [Covered, Restriction.same, FieldDef.sameField]
  · simp [Covered, Restriction.same, FieldDef.sameField]

end Query

end TypedWiki
