import TypedWiki.Reference.Document

/-!
# Round trip of references — what is read where a reference was written

Each mode leaves out parts of a reference which reading takes from the base again.

* `DocumentRef.Unambiguous`: the segments of a reference can be told apart in its written form.
* `DocumentRef.arrival`: the document that a written reference leads to.
* `parse_serialize`: writing and reading relative to the same base arrives there.
-/

namespace TypedWiki.DocumentRef

/-- A reference whose segments can be told apart in its written form. -/
structure Unambiguous (r : DocumentRef) : Prop where
  wiki_ne : r.wiki ≠ ""
  space_ne : r.space ≠ ""
  name_ne : r.name ≠ ""
  colon_wiki : ':' ∉ r.wiki.toList
  colon_space : ':' ∉ r.space.toList
  colon_name : ':' ∉ r.name.toList
  dot_name : '.' ∉ r.name.toList
  tight_wiki : Text.IsTight r.wiki.toList
  tight_space : Text.IsTight r.space.toList
  tight_name : Text.IsTight r.name.toList

/-- The document that a reference leads to when it was written relative to a base: without the wiki it leads to the
wiki of the base. -/
def arrival (r : DocumentRef) (mode : ReferenceMode) (base : DocumentRef) : DocumentRef :=
  match mode with
  | .inWiki => r.withWiki base.wiki
  | .global | .compact => r

theorem arrival_of_ne_inWiki {mode : ReferenceMode} (h : mode ≠ .inWiki) (r base : DocumentRef) :
    r.arrival mode base = r := by
  cases mode with
  | inWiki => exact absurd rfl h
  | _ => rfl

/-! ### Cuts -/

namespace Written

theorem cutWiki_append {wiki rest : List Char} (h : ':' ∉ wiki) :
    cutWiki (wiki ++ ':' :: rest) = (some wiki, rest) := by
  rw [cutWiki, Text.splitFirst_eq_some_iff.2 ⟨rfl, h⟩]

theorem cutWiki_of_not_mem {cs : List Char} (h : ':' ∉ cs) : cutWiki cs = (none, cs) := by
  rw [cutWiki, Text.splitFirst_eq_none_iff.2 h]

theorem cutSpace_append {space name : List Char} (h : '.' ∉ name) :
    cutSpace (space ++ '.' :: name) = (some space, name) := by
  rw [cutSpace, Text.splitLast_eq_some_iff.2 ⟨rfl, h⟩]

theorem cutSpace_of_not_mem {cs : List Char} (h : '.' ∉ cs) : cutSpace cs = (none, cs) := by
  rw [cutSpace, Text.splitLast_eq_none_iff.2 h]

/-- The parts that two cuts leave are read where none is empty. -/
theorem read_of_cuts {cs rest name : List Char} {wiki space : Option (List Char)}
    (hwiki : cutWiki cs = (wiki, rest)) (hspace : cutSpace rest = (space, name)) (wiki_ne : wiki ≠ some [])
    (space_ne : space ≠ some []) (name_ne : name ≠ []) : read cs = .ok ⟨wiki, space, name⟩ := by
  simp only [read, hwiki, hspace, wiki_ne, space_ne, name_ne, if_false]

end Written

theorem parse_of_read {input : String} {base : Option DocumentRef} {w : Written} {r : DocumentRef}
    (tight : Text.IsTight input.toList) (ne : input.toList ≠ []) (read : Written.read input.toList = .ok w)
    (complete : w.complete base = .ok r) : parse input base = .ok r := by
  simp only [parse, tight.trimChars_eq, ne, if_false, read, complete]

/-! ### Written forms -/

namespace Unambiguous

variable {r : DocumentRef}

theorem wiki_toList_ne (h : r.Unambiguous) : r.wiki.toList ≠ [] := by simpa using h.wiki_ne
theorem space_toList_ne (h : r.Unambiguous) : r.space.toList ≠ [] := by simpa using h.space_ne
theorem name_toList_ne (h : r.Unambiguous) : r.name.toList ≠ [] := by simpa using h.name_ne

/-- The bare name takes wiki and space from the base. -/
theorem parse_name (h : r.Unambiguous) (base : DocumentRef) :
    parse r.name (some base) = .ok ⟨base.wiki, base.space, r.name⟩ := by
  have read : Written.read r.name.toList = .ok ⟨none, none, r.name.toList⟩ :=
    Written.read_of_cuts (Written.cutWiki_of_not_mem h.colon_name) (Written.cutSpace_of_not_mem h.dot_name)
      (by simp) (by simp) h.name_toList_ne
  refine parse_of_read h.tight_name h.name_toList_ne read ?_
  simp [Written.complete]

/-- Space and name take the wiki from the base. -/
theorem parse_textInWiki (h : r.Unambiguous) (base : DocumentRef) :
    parse r.textInWiki (some base) = .ok (r.withWiki base.wiki) := by
  have chars : r.textInWiki.toList = r.space.toList ++ '.' :: r.name.toList := by simp [textInWiki]
  have colon : ':' ∉ r.space.toList ++ '.' :: r.name.toList := by
    simp [h.colon_space, h.colon_name]
  have read : Written.read r.textInWiki.toList = .ok ⟨none, some r.space.toList, r.name.toList⟩ := by
    rw [chars]
    exact Written.read_of_cuts (Written.cutWiki_of_not_mem colon) (Written.cutSpace_append h.dot_name)
      (by simp) (by simpa using h.space_ne) h.name_toList_ne
  have tight : Text.IsTight r.textInWiki.toList := by
    have := Text.IsTight.append (m := ['.']) h.tight_space h.tight_name h.space_toList_ne h.name_toList_ne
    simpa [chars] using this
  refine parse_of_read tight (by simp [chars]) read ?_
  simp [Written.complete, withWiki]

/-- The full form needs no base. -/
theorem parse_text (h : r.Unambiguous) (base : Option DocumentRef) : parse r.text base = .ok r := by
  have chars : r.text.toList = r.wiki.toList ++ ':' :: (r.space.toList ++ '.' :: r.name.toList) := by
    simp [text]
  have read : Written.read r.text.toList = .ok ⟨some r.wiki.toList, some r.space.toList, r.name.toList⟩ := by
    rw [chars]
    exact Written.read_of_cuts (Written.cutWiki_append h.colon_wiki) (Written.cutSpace_append h.dot_name)
      (by simpa using h.wiki_ne) (by simpa using h.space_ne) h.name_toList_ne
  have tight : Text.IsTight r.text.toList := by
    have := Text.IsTight.append (m := ':' :: (r.space.toList ++ ['.'])) h.tight_wiki h.tight_name h.wiki_toList_ne
      h.name_toList_ne
    simpa [chars] using this
  refine parse_of_read tight (by simp [chars]) read ?_
  simp [Written.complete]

end Unambiguous

/-- **A reference written relative to a base is read back relative to it**, except that without its wiki it moves to
the wiki of the base. -/
theorem parse_serialize {r : DocumentRef} (h : r.Unambiguous) (mode : ReferenceMode) (base : DocumentRef) :
    parse (r.serialize mode (some base)) (some base) = .ok (r.arrival mode base) := by
  cases mode with
  | global => exact h.parse_text (some base)
  | inWiki => exact h.parse_textInWiki base
  | compact =>
    show parse (if base.wiki = r.wiki then if base.space = r.space then r.name else r.textInWiki else r.text)
      (some base) = .ok r
    by_cases hw : base.wiki = r.wiki
    · rw [if_pos hw]
      by_cases hs : base.space = r.space
      · rw [if_pos hs, h.parse_name, hw, hs]
      · rw [if_neg hs, h.parse_textInWiki, hw]
        rfl
    · rw [if_neg hw]
      exact h.parse_text (some base)

end TypedWiki.DocumentRef
