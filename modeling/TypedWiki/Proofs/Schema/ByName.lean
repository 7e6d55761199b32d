import TypedWiki.Proofs.Reference.ShortForm
import TypedWiki.Schema.Registry

/-!
# Classes by name — which classes are found under their written form

A class is written as space, dot and name.  Reading takes what stands before the first colon for a wiki and cuts at
the first dot, where documents are cut at the last one, so a class in a nested space is not found under its own name.

* `ClassRef.parse_text_eq_iff`: which class references are read back.
* `ClassRef.CutApart`: what the class of a parsed document needs for that.
* `ClassRegistry.getByName?_text_iff_of_parse`: a registered class is found under its name exactly if it has this.
* `not_getByName?_nestedClass`: a class in a nested space is not found.
-/

namespace TypedWiki

namespace ClassRef

theorem toList_text (c : ClassRef) : c.text.toList = c.space.toList ++ '.' :: c.name.toList := by
  simp [text]

theorem dropWiki_of_not_mem {cs : List Char} (h : ':' ∉ cs) : dropWiki cs = cs := by
  rw [dropWiki, Text.splitFirst_eq_none_iff.2 h]

theorem length_dropWiki_lt {cs : List Char} (h : ':' ∈ cs) : (dropWiki cs).length < cs.length := by
  rw [dropWiki]
  split
  · rename_i wiki rest cut
    obtain ⟨rfl, -⟩ := Text.splitFirst_eq_some_iff.1 cut
    rw [List.length_append, List.length_cons]
    omega
  · rename_i cut
    exact absurd h (Text.splitFirst_eq_none_iff.1 cut)

/-- A class is read from its space, a dot and its name; the space ends at the first dot. -/
theorem parse_eq_ok_iff {input : String} {c : ClassRef} :
    parse input = .ok c ↔ dropWiki (Text.trimChars input.toList) = c.text.toList ∧ c.space ≠ "" ∧ c.name ≠ "" ∧
      '.' ∉ c.space.toList := by
  rw [parse, toList_text]
  constructor
  · intro h
    split_ifs at h with blank
    split at h
    · rename_i space name cut
      split_ifs at h with empty
      obtain rfl := Except.ok.inj h
      obtain ⟨written, dot⟩ := Text.splitFirst_eq_some_iff.1 cut
      obtain ⟨space_ne, name_ne⟩ := not_or.1 empty
      simp [written, dot, space_ne, name_ne]
    · cases h
  · rintro ⟨written, space_ne, name_ne, dot⟩
    have blank : Text.trimChars input.toList ≠ [] := by
      intro blank
      rw [blank] at written
      cases hs : c.space.toList <;> simp [dropWiki, hs] at written
    have cut := Text.splitFirst_eq_some_iff.2 ⟨written, dot⟩
    simp [blank, cut, space_ne, name_ne]

/-- **A class reference is read back exactly if its text can be cut where it was joined**: at its first dot, without a
colon before that would end a wiki, and without white space at its ends. -/
theorem parse_text_eq_iff {c : ClassRef} :
    parse c.text = .ok c ↔ (':' ∉ c.text.toList ∧ Text.IsTight c.text.toList) ∧ c.space ≠ "" ∧ c.name ≠ "" ∧
      '.' ∉ c.space.toList := by
  rw [parse_eq_ok_iff]
  refine and_congr_left fun _ => ⟨fun written => ?_, ?_⟩
  · have trimmed := (Text.trimChars_isInfix c.text.toList).length_le
    by_cases colon : ':' ∈ Text.trimChars c.text.toList
    · have shorter := length_dropWiki_lt colon
      rw [written] at shorter
      omega
    · have same := (dropWiki_of_not_mem colon).symm.trans written
      exact ⟨same ▸ colon, Text.trimChars_eq_self_iff.1 same⟩
  · rintro ⟨colon, tight⟩
    rw [tight.trimChars_eq, dropWiki_of_not_mem colon]

/-- What the class of a parsed document needs to be read back: a space without dot, without colon and without white
space in front, and a name without colon. -/
structure CutApart (c : ClassRef) : Prop where
  space_ne : c.space ≠ ""
  dot_space : '.' ∉ c.space.toList
  colon_space : ':' ∉ c.space.toList
  colon_name : ':' ∉ c.name.toList
  start_space : c.space.toList.head?.any Text.isSpace = false

/-- The class of a document whose name was parsed is read back exactly if its space can be cut off. -/
theorem parse_text_ofDocument_eq_iff {r : DocumentRef} (named : r.Named) :
    parse (ofDocument r).text = .ok (ofDocument r) ↔ (ofDocument r).CutApart := by
  have chars : (ofDocument r).text.toList = DocumentRef.Written.chars ⟨none, some r.space.toList, r.name.toList⟩ := by
    simp [toList_text, ofDocument, DocumentRef.Written.chars]
  have colon : ':' ∉ (ofDocument r).text.toList ↔ ':' ∉ r.space.toList ∧ ':' ∉ r.name.toList := by
    simp [toList_text, ofDocument]
  have first : r.space ≠ "" → (ofDocument r).text.toList.head? = r.space.toList.head? := by
    intro space_ne
    obtain ⟨c, cs, hspace⟩ := List.exists_cons_of_ne_nil (by simpa using space_ne : r.space.toList ≠ [])
    simp [toList_text, ofDocument, hspace]
  have tight : Text.IsTight (ofDocument r).text.toList ↔
      (ofDocument r).text.toList.head?.any Text.isSpace = false := by
    rw [chars]
    exact named.isTight_chars_iff rfl
  rw [parse_text_eq_iff, colon, tight]
  constructor
  · rintro ⟨⟨⟨colon_space, colon_name⟩, start⟩, space_ne, -, dot⟩
    rw [first space_ne] at start
    exact ⟨space_ne, dot, colon_space, colon_name, start⟩
  · rintro ⟨space_ne, dot, colon_space, colon_name, start⟩
    rw [first space_ne]
    exact ⟨⟨⟨colon_space, colon_name⟩, start⟩, space_ne, named.name_ne, dot⟩

end ClassRef

namespace ClassRegistry

variable {registry : ClassRegistry} {c : ClassRef} {k : ClassDef}

/-- A registered class is found under a text exactly if the text is read as its reference. -/
theorem getByName?_eq_some_iff (registered : registry.get? c = some k) {name : String} :
    registry.getByName? name = some k ↔ ClassRef.parse name = .ok c := by
  rw [getByName?]
  constructor
  · intro found
    cases hread : ClassRef.parse name with
    | error e => simp [hread] at found
    | ok c' =>
      rw [hread] at found
      rw [← registry.classRef_of_get? c' k found, registry.classRef_of_get? c k registered]
  · intro read
    rw [read]
    exact registered

/-- **The class of a parsed document, once it is registered, is found under its own name exactly if the name can be
cut where it was joined.** -/
theorem getByName?_text_iff_of_parse {input : String} {source : Option DocumentRef} {r : DocumentRef}
    (read : DocumentRef.parse input source = .ok r) (registered : registry.get? (.ofDocument r) = some k) :
    registry.getByName? (ClassRef.ofDocument r).text = some k ↔ (ClassRef.ofDocument r).CutApart :=
  (getByName?_eq_some_iff registered).trans (ClassRef.parse_text_ofDocument_eq_iff (DocumentRef.named_of_parse read))

/-- A class that is named after a document in the space `Blog`. -/
def postClass : ClassDef where
  classRef := ⟨"Blog", "Post v2"⟩
  declared := []

/-- A class in a space below `Blog`. -/
def pollClass : ClassDef where
  classRef := ⟨"Blog.Polls", "PollClass"⟩
  declared := []

theorem getByName?_text_iff_of_parse_post :
    DocumentRef.parse " xwiki:Blog.Post v2 " none = .ok ⟨"xwiki", "Blog", "Post v2"⟩ ∧
      (empty.insert postClass).get? ⟨"Blog", "Post v2"⟩ = some postClass ∧
      (empty.insert postClass).getByName? "Blog.Post v2" = some postClass := by
  have read : DocumentRef.parse " xwiki:Blog.Post v2 " none = .ok ⟨"xwiki", "Blog", "Post v2"⟩ := rfl
  have registered := (get?_of_register (r := empty) (k := postClass) rfl).1
  have apart : ClassRef.CutApart ⟨"Blog", "Post v2"⟩ := ⟨by decide, by decide, by decide, by decide, by decide⟩
  exact ⟨read, registered, (getByName?_text_iff_of_parse read registered).2 apart⟩

/-- The class of a document in a nested space is registered and is not found under its name. -/
theorem not_getByName?_nestedClass :
    ¬ ∀ (registry : ClassRegistry) (k : ClassDef) (input : String) (source : Option DocumentRef) (r : DocumentRef),
      DocumentRef.parse input source = .ok r → registry.get? (.ofDocument r) = some k →
        registry.getByName? (ClassRef.ofDocument r).text = some k := by
  intro h
  have read : DocumentRef.parse "xwiki:Blog.Polls.PollClass" none = .ok ⟨"xwiki", "Blog.Polls", "PollClass"⟩ := rfl
  have registered := (get?_of_register (r := empty) (k := pollClass) rfl).1
  have found := h _ _ _ _ _ read registered
  have missed : (empty.insert pollClass).getByName? "Blog.Polls.PollClass" = none := rfl
  have same := missed.symm.trans found
  cases same

end ClassRegistry

end TypedWiki
