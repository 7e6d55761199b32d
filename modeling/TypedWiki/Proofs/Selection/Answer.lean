import TypedWiki.Proofs.Document.Representation

/-!
# Answers of selections — exactly the objects that match, class by class

Reading through the live bridge never fails on a primary document, and the groups that come back are determined by
the query and the objects.

* `Query.Selects`: what it means for an object of a class to match.
* `Selection.IsAnswer`: the groups hold the matches and nothing else, once each and in order.
* `Selection.Reports`: the groups and what the other readings make of them.
* `exists_answer`: every selection on a reachable primary document reports an answer.
-/

namespace TypedWiki

/-- Whether an object of a class matches: the query names this class or no class at all, and the object satisfies
every restriction that is not on another class. -/
def Query.Selects (q : Query) (a : ObjectAccessor) (c : ClassRef) (o : PropertyObject) : Prop :=
  ((∀ r ∈ q.restrictions, r.scope? = none) ∨ ∃ r ∈ q.restrictions, r.scope? = some c) ∧
    ∀ r ∈ q.restrictions, r.scope? = none ∨ r.scope? = some c → r.appliesTo a o = true

theorem Query.selects_iff {q : Query} {a : ObjectAccessor} {c : ClassRef} {o : PropertyObject} :
    q.Selects a c o ↔ (q.classRefs = [] ∨ c ∈ q.classRefs) ∧ q.matchesIn c a o = true := by
  rw [Selects, classRefs_eq_nil_iff, mem_classRefs_iff, matchesIn_iff]

/-! ### Order of first mention -/

section Mention

variable {α : Type} [DecidableEq α]

theorem idxOf_filter_lt_iff {p : α → Bool} {l : List α} {a b : α} (ha : p a = true) (hb : p b = true) :
    (l.filter p).idxOf a < (l.filter p).idxOf b ↔ l.idxOf a < l.idxOf b := by
  induction l with
  | nil => rfl
  | cons x xs ih =>
    by_cases hx : p x = true
    · rw [List.filter_cons_of_pos hx]
      by_cases hxb : x = b
      · simp [hxb]
      · rw [List.idxOf_cons_ne _ hxb, List.idxOf_cons_ne _ hxb]
        by_cases hxa : x = a
        · simp [hxa]
        · rw [List.idxOf_cons_ne _ hxa, List.idxOf_cons_ne _ hxa, Nat.succ_lt_succ_iff, ih, Nat.succ_lt_succ_iff]
    · have hxa : x ≠ a := fun h => hx (h ▸ ha)
      have hxb : x ≠ b := fun h => hx (h ▸ hb)
      rw [List.filter_cons_of_neg hx, ih, List.idxOf_cons_ne xs hxa, List.idxOf_cons_ne xs hxb,
        Nat.succ_lt_succ_iff]

theorem pairwise_idxOf_cons {a : α} {l l' : List α} (hl : l'.Pairwise (l.idxOf · < l.idxOf ·)) (ha : a ∉ l') :
    (a :: l').Pairwise ((a :: l).idxOf · < (a :: l).idxOf ·) := by
  have hne : ∀ b ∈ l', a ≠ b := fun b hb h => ha (h ▸ hb)
  refine List.pairwise_cons.2 ⟨fun b hb => ?_, hl.imp_of_mem fun {b c} hb hc hbc => ?_⟩
  · rw [List.idxOf_cons_self, List.idxOf_cons_ne l (hne b hb)]
    exact Nat.succ_pos _
  · rw [List.idxOf_cons_ne l (hne b hb), List.idxOf_cons_ne l (hne c hc)]
    exact Nat.succ_lt_succ hbc

/-- A list without repetitions is in the order of its own mentions. -/
theorem pairwise_idxOf_of_nodup {l : List α} (h : l.Nodup) : l.Pairwise (l.idxOf · < l.idxOf ·) := by
  induction l with
  | nil => exact List.Pairwise.nil
  | cons a l ih =>
    obtain ⟨ha, hl⟩ := List.nodup_cons.1 h
    exact pairwise_idxOf_cons (ih hl) ha

/-- Dropping repetitions leaves every member at its first mention. -/
theorem pairwise_idxOf_eraseDups (l : List α) : l.eraseDups.Pairwise (l.idxOf · < l.idxOf ·) := by
  match l with
  | [] => exact List.Pairwise.nil
  | a :: l =>
    have hlen : (l.filter fun b => !b == a).length < (a :: l).length :=
      Nat.lt_succ_of_le (List.length_filter_le _ l)
    rw [List.eraseDups_cons]
    refine pairwise_idxOf_cons ((pairwise_idxOf_eraseDups (l.filter fun b => !b == a)).imp_of_mem ?_) ?_
    · intro b c hb hc hbc
      have hb' := (List.mem_filter.1 (List.mem_eraseDups.1 hb)).2
      have hc' := (List.mem_filter.1 (List.mem_eraseDups.1 hc)).2
      exact (idxOf_filter_lt_iff (p := fun b => !b == a) hb' hc').1 hbc
    · intro ha
      simpa using (List.mem_filter.1 (List.mem_eraseDups.1 ha)).2
  termination_by l.length
  decreasing_by exact hlen

end Mention

/-! ### Objects of a class -/

namespace Document

/-- On a well-formed document the objects listed for a class are the objects of the class. -/
theorem WellFormed.mem_objectsOf_iff {d : Document} (h : d.WellFormed) {c : ClassRef} {o : PropertyObject} :
    o ∈ d.objectsOf c ↔ o ∈ d.allObjects ∧ o.classRef = c := by
  rw [Document.mem_objectsOf_iff, mem_allObjects_iff]
  constructor
  · rintro ⟨n, hn⟩
    exact ⟨⟨c, n, hn⟩, (PropertyObject.identity_eq_mk_iff.1 (h c n o hn)).2.1⟩
  · rintro ⟨⟨c', n, hn⟩, rfl⟩
    have hc : o.classRef = c' := (PropertyObject.identity_eq_mk_iff.1 (h c' n o hn)).2.1
    exact ⟨n, hc ▸ hn⟩

end Document

namespace Selection

/-! ### Answers -/

/-- The classes in the order in which the query mentions them; a query that names none leaves them in the order of
the document. -/
def order (s : Selection) : List ClassRef :=
  if s.query.classRefs = [] then s.document.classRefs else s.query.restrictions.filterMap Restriction.scope?

/-- Whether an object of the document matches as one of a class. -/
def Matches (s : Selection) (c : ClassRef) (o : PropertyObject) : Prop :=
  o ∈ s.document.allObjects ∧ o.classRef = c ∧ s.query.Selects s.bridge.accessor c o

/-- The groups hold the matches and nothing else, once each and in order. -/
structure IsAnswer (s : Selection) (groups : List (ClassRef × List PropertyObject)) : Prop where
  /-- A class has a group if one of its objects matches. -/
  mem_keys_iff : ∀ c, c ∈ groups.map Prod.fst ↔ ∃ o, s.Matches c o
  /-- Its group holds the matches. -/
  mem_iff : ∀ c os, (c, os) ∈ groups → ∀ o, o ∈ os ↔ s.Matches c o
  /-- Every class comes once, at its first mention. -/
  ordered : (groups.map Prod.fst).Pairwise (s.order.idxOf · < s.order.idxOf ·)
  /-- Every object comes once, by its number. -/
  increasing : ∀ c os, (c, os) ∈ groups → os.Pairwise (·.number < ·.number)

/-- What the readings of a selection make of its groups. -/
structure Reports (s : Selection) (groups : List (ClassRef × List PropertyObject)) : Prop where
  groups_eq : s.groups = .ok groups
  objects_eq : s.objects = .ok (groups.flatMap Prod.snd)
  count_eq : s.count = .ok (groups.flatMap Prod.snd).length
  exists_eq : s.exists? = .ok (!groups.isEmpty)
  first_eq : s.first = .ok (groups.head?.bind (·.2.head?))
  unique_eq : (groups.flatMap Prod.snd).length ≤ 1 → s.unique = .ok (groups.head?.bind (·.2.head?))
  unique_error : 1 < (groups.flatMap Prod.snd).length →
    s.unique = .error (.selection (.notUnique (groups.flatMap Prod.snd).length))

/-- The readings agree where no group is empty. -/
theorem reports_of_groups_eq {s : Selection} {groups : List (ClassRef × List PropertyObject)}
    (h : s.groups = .ok groups) (nonempty : ∀ g ∈ groups, g.2 ≠ []) : s.Reports groups := by
  have objects : s.objects = .ok (groups.flatMap Prod.snd) := by
    rw [Selection.objects, h]
    rfl
  have head : (groups.flatMap Prod.snd).head? = groups.head?.bind (·.2.head?) := by
    cases groups with
    | nil => rfl
    | cons g gs =>
      obtain ⟨o, os, ho⟩ := List.exists_cons_of_ne_nil (nonempty g List.mem_cons_self)
      simp [ho]
  have first : s.first = .ok (groups.head?.bind (·.2.head?)) := by
    rw [Selection.first, objects, ← head]
    rfl
  refine ⟨h, objects, ?_, ?_, first, fun one => ?_, fun many => ?_⟩
  · rw [Selection.count, objects]
    rfl
  · rw [exists?, first]
    cases groups with
    | nil => rfl
    | cons g gs =>
      obtain ⟨o, os, ho⟩ := List.exists_cons_of_ne_nil (nonempty g List.mem_cons_self)
      simp [Except.map, ho]
  · rw [unique, objects, ← head]
    match groups.flatMap Prod.snd, one with
    | [], _ => rfl
    | [o], _ => rfl
  · rw [unique, objects]
    match groups.flatMap Prod.snd, many with
    | _ :: _ :: _, _ => rfl

/-! ### The live bridge -/

section Live

variable {r : ClassRegistry} {a : ObjectAccessor} {d : Document} {q : Query} {c : ClassRef}

/-- Classes are scanned in the order in which they are mentioned. -/
theorem pairwise_scannedClasses (s : Selection) (live : s.bridge = .live r a) :
    (scannedClasses s.bridge s.document s.query).Pairwise (s.order.idxOf · < s.order.idxOf ·) := by
  unfold scannedClasses order
  rw [live]
  by_cases h : s.query.classRefs = []
  · rw [if_pos h, if_pos h]
    exact pairwise_idxOf_of_nodup s.document.nodup_classRefs
  · rw [if_neg h, if_neg h]
    exact pairwise_idxOf_eraseDups _

/-- An object that matches as one of a class is found among the objects of the class, and the class is scanned. -/
theorem matches_iff (wf : d.WellFormed) {o : PropertyObject} :
    Matches ⟨.live r a, d, q⟩ c o ↔
      c ∈ scannedClasses (.live r a) d q ∧ o ∈ (d.objectsOf c).filter (q.matchesIn c a) := by
  have scanned : (q.classRefs = [] ∨ c ∈ q.classRefs) ∧ o ∈ d.objectsOf c ↔
      c ∈ scannedClasses (.live r a) d q ∧ o ∈ d.objectsOf c := by
    unfold scannedClasses
    by_cases h : q.classRefs = []
    · rw [if_pos h]
      simp only [h, true_or, true_and]
      refine ⟨fun ho => ⟨?_, ho⟩, And.right⟩
      exact Document.mem_classRefs_iff.2 (List.ne_nil_of_mem ho)
    · rw [if_neg h, or_iff_right h]
  calc Matches ⟨.live r a, d, q⟩ c o
      ↔ (q.classRefs = [] ∨ c ∈ q.classRefs) ∧ o ∈ d.objectsOf c ∧ q.matchesIn c a o = true := by
        rw [Matches, wf.mem_objectsOf_iff, Query.selects_iff]
        exact ⟨fun ⟨h, hc, hq, hm⟩ => ⟨hq, ⟨h, hc⟩, hm⟩, fun ⟨hq, ⟨h, hc⟩, hm⟩ => ⟨h, hc, hq, hm⟩⟩
    _ ↔ c ∈ scannedClasses (.live r a) d q ∧ o ∈ d.objectsOf c ∧ q.matchesIn c a o = true := by
        rw [← and_assoc, scanned, and_assoc]
    _ ↔ _ := by rw [List.mem_filter]

end Live

/-- **Every selection through the live bridge on a reachable primary document reports an answer.** -/
theorem exists_answer {d : Document} (reachable : d.Reachable) (primary : d.isPrimary = true) (r : ClassRegistry)
    (a : ObjectAccessor) (q : Query) :
    ∃ groups, Reports ⟨.live r a, d, q⟩ groups ∧ IsAnswer ⟨.live r a, d, q⟩ groups := by
  have wf := reachable.wellFormed
  have nonempty : ∀ g ∈ matchGroups a d q (scannedClasses (.live r a) d q), g.2 ≠ [] := fun g hg =>
    (mem_matchGroups_iff.1 hg).2.2
  refine ⟨_, reports_of_groups_eq (groups_live primary) nonempty, ?_, ?_, ?_, ?_⟩
  · intro c
    rw [mem_keys_matchGroups_iff]
    simp only [matches_iff wf]
    constructor
    · rintro ⟨hc, hne⟩
      obtain ⟨o, ho⟩ := List.exists_mem_of_ne_nil _ hne
      exact ⟨o, hc, ho⟩
    · rintro ⟨o, hc, ho⟩
      exact ⟨hc, List.ne_nil_of_mem ho⟩
  · intro c os hos o
    obtain ⟨hc, rfl, -⟩ := mem_matchGroups_iff.1 hos
    rw [matches_iff wf]
    exact (and_iff_right hc).symm
  · exact (pairwise_scannedClasses ⟨.live r a, d, q⟩ rfl).sublist keys_matchGroups_sublist
  · intro c os hos
    obtain ⟨-, rfl, -⟩ := mem_matchGroups_iff.1 hos
    exact (wf.pairwise_number c).filter _

/-- A class of tags with a rank. -/
def rankedTag : ClassDef where
  classRef := ⟨"Blog", "TagClass"⟩
  declared := [FieldDef.make ⟨"Blog", "TagClass"⟩ "rank" .number]

/-- A post with two tags; the rank of the second one was stored as a list, so that it cannot be read. -/
def misrankedPost : Document :=
  ((((Document.create ⟨"xwiki", "Blog", "Post"⟩).addObject rankedTag 0).2).addObject rankedTag 1).2.modifyObject
    rankedTag.classRef 1 fun o => (o.setProperty "rank" (some (.list ["high"]))).2

theorem reachable_misrankedPost : misrankedPost.Reachable :=
  .change (.change (.change (.create _) (.addObject _ _ _)) (.addObject _ _ _)) (.setProperty _ _ _ _ _)

/-- The tags of the post that have no rank. -/
def unrankedTags : Selection :=
  ⟨.live ∅ {}, misrankedPost, ⟨[.absent (FieldDef.make rankedTag.classRef "rank" .number)]⟩⟩

theorem exists_answer_unrankedTags :
    misrankedPost.Reachable ∧ misrankedPost.isPrimary = true ∧
      ∃ groups, unrankedTags.Reports groups ∧ unrankedTags.IsAnswer groups :=
  ⟨reachable_misrankedPost, rfl, exists_answer reachable_misrankedPost rfl ∅ {} _⟩

/-- The tag whose rank cannot be read counts neither as ranked nor as unranked. -/
example : unrankedTags.count = .ok 1 := by rfl

end Selection

end TypedWiki
