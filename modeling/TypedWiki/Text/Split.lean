/-!
# Splitting and joining — cutting characters at a separator

`splitFirst` cuts at the first separator, `splitLast` at the last, `splitAll` at every one; `join` puts texts
together again.  A cut never keeps the separator.
-/

namespace TypedWiki.Text

/-- The characters before and after the first `sep`, if there is one. -/
def splitFirst (sep : Char) : List Char → Option (List Char × List Char)
  | [] => none
  | c :: cs => if c = sep then some ([], cs) else (splitFirst sep cs).map fun (l, r) => (c :: l, r)

/-- The characters before and after the last `sep`, if there is one. -/
def splitLast (sep : Char) : List Char → Option (List Char × List Char)
  | [] => none
  | c :: cs =>
    match splitLast sep cs with
    | some (l, r) => some (c :: l, r)
    | none => if c = sep then some ([], cs) else none

/-- The parts between the characters that satisfy `isSep`; there is always at least one part. -/
def splitAll (isSep : Char → Bool) : List Char → List (List Char)
  | [] => [[]]
  | c :: cs =>
    if isSep c then [] :: splitAll isSep cs
    else match splitAll isSep cs with
      | [] => [[c]]
      | part :: parts => (c :: part) :: parts

/-- The texts in order with `sep` between neighbours. -/
def join (sep : String) (parts : List String) : String :=
  String.ofList (List.intercalate sep.toList (parts.map String.toList))

/-! ### Laws -/

@[simp] theorem splitFirst_nil (sep : Char) : splitFirst sep [] = none := rfl
@[simp] theorem splitLast_nil (sep : Char) : splitLast sep [] = none := rfl

/-- No first cut exactly when the separator does not occur. -/
theorem splitFirst_eq_none_iff {sep : Char} {cs : List Char} :
    splitFirst sep cs = none ↔ sep ∉ cs := by
  induction cs with
  | nil => simp
  | cons c cs ih =>
    by_cases h : c = sep
    · simp [splitFirst, h]
    · simp [splitFirst, h, ih, Ne.symm h]

/-- The first cut: the parts around a separator that does not occur in the left one. -/
theorem splitFirst_eq_some_iff {sep : Char} {cs l r : List Char} :
    splitFirst sep cs = some (l, r) ↔ cs = l ++ sep :: r ∧ sep ∉ l := by
  induction cs generalizing l with
  | nil => simp
  | cons c cs ih =>
    by_cases h : c = sep
    · subst h
      cases l with
      | nil => simp [splitFirst]
      | cons d l => simp [splitFirst]; intro h; simp [h]
    · cases l with
      | nil => simp [splitFirst, h]
      | cons d l =>
        have := ih (l := l)
        simp only [splitFirst, h, if_false, List.cons_append, List.cons.injEq, List.mem_cons, not_or]
        constructor
        · intro hm
          obtain ⟨⟨l', r'⟩, hs, he⟩ := Option.map_eq_some_iff.1 hm
          simp only [Prod.mk.injEq, List.cons.injEq] at he
          obtain ⟨⟨rfl, rfl⟩, rfl⟩ := he
          exact ⟨⟨rfl, (this.1 hs).1⟩, Ne.symm h, (this.1 hs).2⟩
        · rintro ⟨⟨rfl, hcs⟩, -, hl⟩
          simp [this.2 ⟨hcs, hl⟩]

/-- No last cut exactly when the separator does not occur. -/
theorem splitLast_eq_none_iff {sep : Char} {cs : List Char} :
    splitLast sep cs = none ↔ sep ∉ cs := by
  induction cs with
  | nil => simp
  | cons c cs ih =>
    rw [splitLast]
    cases hs : splitLast sep cs with
    | some p =>
      have : sep ∈ cs := by
        by_cases hm : sep ∈ cs
        · exact hm
        · rw [ih.2 hm] at hs; cases hs
      simp [this]
    | none =>
      have hn := ih.1 hs
      by_cases h : c = sep
      · simp [h]
      · simp [h, hn, Ne.symm h]

/-- The last cut: the parts around a separator that does not occur in the right one. -/
theorem splitLast_eq_some_iff {sep : Char} {cs l r : List Char} :
    splitLast sep cs = some (l, r) ↔ cs = l ++ sep :: r ∧ sep ∉ r := by
  induction cs generalizing l with
  | nil => simp
  | cons c cs ih =>
    rw [splitLast]
    cases hs : splitLast sep cs with
    | some p =>
      obtain ⟨l', r'⟩ := p
      have hp := (ih (l := l')).1
      cases l with
      | nil =>
        simp only [Option.some.injEq, Prod.mk.injEq, List.cons_ne_nil, false_and, List.nil_append,
          List.cons.injEq, false_iff, not_and]
        rintro ⟨rfl, rfl⟩ hr
        rw [splitLast_eq_none_iff.2 hr] at hs
        cases hs
      | cons d l =>
        have := ih (l := l)
        rw [hs] at this
        simp only [Option.some.injEq, Prod.mk.injEq] at this
        simp only [Option.some.injEq, Prod.mk.injEq, List.cons.injEq, List.cons_append]
        constructor
        · rintro ⟨⟨rfl, rfl⟩, rfl⟩
          have h := this.1 ⟨rfl, rfl⟩
          exact ⟨⟨rfl, h.1⟩, h.2⟩
        · rintro ⟨⟨rfl, hcs⟩, hr⟩
          obtain ⟨rfl, rfl⟩ := this.2 ⟨hcs, hr⟩
          exact ⟨⟨rfl, rfl⟩, rfl⟩
    | none =>
      have hn := splitLast_eq_none_iff.1 hs
      cases l with
      | nil =>
        by_cases h : c = sep
        · subst h
          simp only [if_true, Option.some.injEq, Prod.mk.injEq, true_and, List.nil_append,
            List.cons.injEq]
          constructor
          · rintro rfl; exact ⟨rfl, hn⟩
          · rintro ⟨rfl, -⟩; rfl
        · simp [h]
      | cons d l =>
        by_cases h : c = sep
        · simp only [h, if_true, Option.some.injEq, Prod.mk.injEq, List.nil_eq, List.cons_ne_nil,
            false_and, List.cons_append, List.cons.injEq, false_iff, not_and]
          rintro ⟨-, rfl⟩
          simp at hn
        · simp only [h, if_false, List.cons_append, List.cons.injEq, reduceCtorEq, false_iff, not_and]
          rintro ⟨-, rfl⟩
          simp at hn

/-- Cutting at every separator is the splitting of core. -/
theorem splitAll_eq_splitOnP (isSep : Char → Bool) (cs : List Char) : splitAll isSep cs = cs.splitOnP isSep := by
  induction cs with
  | nil => rfl
  | cons c cs ih =>
    rw [splitAll, List.splitOnP_cons_eq_if_modifyHead, ih]
    by_cases h : isSep c = true
    · rw [if_pos h, if_pos h]
    · rw [if_neg h, if_neg h]
      obtain ⟨part, parts, hp⟩ := List.exists_cons_of_ne_nil (List.splitOnP_ne_nil isSep cs)
      rw [hp]
      rfl

/-- A text is made of its characters. -/
theorem ofList_eq_iff {cs : List Char} {s : String} : String.ofList cs = s ↔ cs = s.toList :=
  ⟨fun h => by rw [← h, String.toList_ofList], fun h => by rw [h, String.ofList_toList]⟩

theorem join_singleton (sep part : String) : join sep [part] = part := by
  simp [join]

theorem join_cons_cons (sep part next : String) (parts : List String) :
    join sep (part :: next :: parts) = part ++ sep ++ join sep (next :: parts) := by
  apply String.toList_injective
  simp [join, List.intercalate_cons_cons]

theorem length_le_length_join (sep : String) {part : String} {parts : List String} (h : part ∈ parts) :
    part.length ≤ (join sep parts).length := by
  induction parts with
  | nil => cases h
  | cons first rest ih =>
    cases rest with
    | nil => simp [List.mem_singleton.1 h, join_singleton]
    | cons next rest =>
      rw [join_cons_cons, String.length_append, String.length_append]
      rcases List.mem_cons.1 h with rfl | h
      · omega
      · have := ih h
        omega

/-- Joining keeps the characters of every part. -/
theorem toList_subset_join (sep : String) {part : String} {parts : List String} (h : part ∈ parts) :
    part.toList ⊆ (join sep parts).toList := by
  induction parts with
  | nil => cases h
  | cons first rest ih =>
    cases rest with
    | nil => simp [List.mem_singleton.1 h, join_singleton]
    | cons next rest =>
      rw [join_cons_cons, String.toList_append, String.toList_append]
      rcases List.mem_cons.1 h with rfl | h
      · exact List.subset_append_of_subset_left _ (List.subset_append_left _ _)
      · exact List.subset_append_of_subset_right _ (ih h)

/-- Only a single part is what joining gives: several parts are shorter than all of them with separators between. -/
theorem join_mem_iff {sep : String} {parts : List String} (sep_ne : 0 < sep.length) (ne : parts ≠ []) :
    join sep parts ∈ parts ↔ parts.length = 1 := by
  cases parts with
  | nil => exact absurd rfl ne
  | cons first rest =>
    cases rest with
    | nil => simp [join_singleton]
    | cons next rest =>
      simp only [List.length_cons, Nat.reduceEqDiff, iff_false]
      intro h
      have longer := congrArg String.length (join_cons_cons sep first next rest)
      rw [String.length_append, String.length_append] at longer
      rcases List.mem_cons.1 h with same | h
      · rw [same] at longer
        omega
      · have := length_le_length_join sep h
        omega

end TypedWiki.Text
