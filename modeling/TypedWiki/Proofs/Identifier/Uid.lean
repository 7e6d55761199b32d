import TypedWiki.Identifier.Uid

/-!
# Local uids — the parts read back from the text

A local uid writes parts one after the other, each behind its length.  Parts may hold digits and colons themselves;
still there is only one way to cut the text, because a length ends at the first colon and says where its part ends.

* `PrefixFree`: what is written can be cut off whatever follows it.
* `prefixFree_uidSegment`: so can a part behind its length.
* `dottedParts`: the parts of a document and a language as the dots cut them.
* `localUid_eq_iff`: two local uids are equal exactly if the parts are.
-/

namespace TypedWiki

/-! ### Prefix-free writing -/

/-- What is written for a value can be cut off whatever follows it. -/
def PrefixFree {α β : Type} (write : α → List β) : Prop :=
  ∀ a b rest rest', write a ++ rest = write b ++ rest' → a = b ∧ rest = rest'

/-- Values that were written one after the other are read back. -/
theorem PrefixFree.flatMap_inj {α β : Type} {write : α → List β} (free : PrefixFree write)
    (nonempty : ∀ a, write a ≠ []) {as bs : List α} : as.flatMap write = bs.flatMap write ↔ as = bs := by
  refine ⟨fun h => ?_, fun h => h ▸ rfl⟩
  induction as generalizing bs with
  | nil =>
    cases bs with
    | nil => rfl
    | cons b bs => simp [nonempty b] at h
  | cons a as ih =>
    cases bs with
    | nil => simp [nonempty a] at h
    | cons b bs =>
      rw [List.flatMap_cons, List.flatMap_cons] at h
      obtain ⟨rfl, rest⟩ := free a b _ _ h
      rw [ih rest]

/-! ### Parts behind their lengths -/

theorem colon_not_mem_toDigits (n : Nat) : ':' ∉ Nat.toDigits 10 n := by
  intro h
  have digit : ':'.isDigit = true := Nat.isDigit_of_mem_toDigits (by decide) (by decide) h
  exact absurd digit (by decide)

/-- Equal texts whose beginnings have one length in bytes begin with one text. -/
theorem append_inj_of_byteLength {a b rest rest' : List Char} (h : a ++ rest = b ++ rest')
    (length : byteLength a = byteLength b) : a = b ∧ rest = rest' := by
  induction a generalizing b with
  | nil =>
    have hb : b = [] := byteLength_eq_zero_iff.1 length.symm
    subst hb
    exact ⟨rfl, h⟩
  | cons c a ih =>
    cases b with
    | nil => exact absurd (byteLength_eq_zero_iff.1 length) (by simp)
    | cons d b =>
      rw [List.cons_append, List.cons_append, List.cons.injEq] at h
      obtain ⟨rfl, h⟩ := h
      have length' : byteLength a = byteLength b := by simpa using length
      obtain ⟨rfl, rest⟩ := ih h length'
      exact ⟨rfl, rest⟩

/-- A part behind its length is cut off at the first colon and then by the length, also where the part begins with
digits or holds colons. -/
theorem prefixFree_uidSegment : PrefixFree uidSegment := by
  intro a b rest rest' h
  have written : ∀ part rest, uidSegment part ++ rest = Nat.toDigits 10 (byteLength part) ++ ':' :: (part ++ rest) := by
    intro part rest
    simp [uidSegment]
  have cut : ∀ part rest, Text.splitFirst ':' (uidSegment part ++ rest) =
      some (Nat.toDigits 10 (byteLength part), part ++ rest) := by
    intro part rest
    rw [written]
    exact Text.splitFirst_eq_some_iff.2 ⟨rfl, colon_not_mem_toDigits _⟩
  have cuts := cut a rest
  rw [h, cut b rest', Option.some.injEq, Prod.mk.injEq] at cuts
  obtain ⟨digits, parts⟩ := cuts
  have length := congrArg (Nat.ofDigitChars 10 · 0) digits
  simp only [Nat.ofDigitChars_ten_toDigits] at length
  exact append_inj_of_byteLength parts.symm length.symm

theorem flatMap_uidSegment_inj {parts parts' : List (List Char)} :
    parts.flatMap uidSegment = parts'.flatMap uidSegment ↔ parts = parts' :=
  prefixFree_uidSegment.flatMap_inj fun part => by simp [uidSegment]

/-! ### Parts between dots -/

/-- Space, name and trimmed language with dots between them, cut at every dot, without the empty parts. -/
def dottedParts (r : DocumentRef) (language : String) : List (List Char) :=
  ((r.space ++ "." ++ r.name ++ "." ++ Text.trim language).toList.splitOn '.').filter (· ≠ [])

theorem uidSegments_eq_dottedParts (r : DocumentRef) (language : String) :
    uidSegments r language = dottedParts r language := by
  have chars : (r.space ++ "." ++ r.name ++ "." ++ Text.trim language).toList =
      r.textInWiki.toList ++ '.' :: Text.trimChars language.toList := by
    simp [DocumentRef.textInWiki, Text.trim]
  rw [uidSegments, dottedParts, chars, Text.splitAll_eq_splitOnP, List.splitOn]
  rfl

/-- A document with space and name, neither they nor the language with dots. -/
structure DocumentRef.Undotted (r : DocumentRef) (language : String) : Prop where
  space_ne : r.space ≠ ""
  name_ne : r.name ≠ ""
  dot_space : '.' ∉ r.space.toList
  dot_name : '.' ∉ r.name.toList
  dot_language : '.' ∉ language.toList

/-- Without dots the parts are the space, the name and the language, unless it is blank. -/
theorem DocumentRef.Undotted.dottedParts_eq {r : DocumentRef} {language : String} (h : r.Undotted language) :
    dottedParts r language =
      r.space.toList :: r.name.toList :: [(Text.trim language).toList].filter (· ≠ []) := by
  have whole : ∀ {cs : List Char}, '.' ∉ cs → ∀ c ∈ cs, (c == '.') = false := by
    intro cs hcs c hc
    exact beq_false_of_ne fun same => hcs (same ▸ hc)
  have trimmed : '.' ∉ (Text.trim language).toList := by
    intro hc
    rw [Text.trim, String.toList_ofList] at hc
    exact h.dot_language ((Text.trimChars_isInfix _).subset hc)
  have chars : (r.space ++ "." ++ r.name ++ "." ++ Text.trim language).toList =
      r.space.toList ++ '.' :: (r.name.toList ++ '.' :: (Text.trim language).toList) := by
    simp
  have space_ne : r.space.toList ≠ [] := by simpa using h.space_ne
  have name_ne : r.name.toList ≠ [] := by simpa using h.name_ne
  rw [dottedParts, chars, List.splitOn, List.splitOnP_append_cons_of_forall_mem (whole h.dot_space) _ (by simp),
    List.splitOnP_append_cons_of_forall_mem (whole h.dot_name) _ (by simp),
    List.splitOnP_eq_singleton (whole trimmed), List.filter_cons_of_pos (by simpa using space_ne),
    List.filter_cons_of_pos (by simpa using name_ne)]

/-- **Local uids are equal exactly if the parts between dots are.**  The wiki is not among them, and without dots the
parts are those of the reference and the language. -/
theorem localUid_eq_iff (r r' : DocumentRef) (language language' : String) :
    (localUid r language = localUid r' language' ↔ dottedParts r language = dottedParts r' language') ∧
    (∀ wiki, localUid (r.withWiki wiki) language = localUid r language) ∧
    (r.Undotted language → r'.Undotted language' → localUid r language = localUid r' language' →
      r.space = r'.space ∧ r.name = r'.name ∧ Text.trim language = Text.trim language') := by
  have decoded : localUid r language = localUid r' language' ↔ dottedParts r language = dottedParts r' language' := by
    rw [localUid, localUid, String.ofList_inj, flatMap_uidSegment_inj, uidSegments_eq_dottedParts,
      uidSegments_eq_dottedParts]
  refine ⟨decoded, fun wiki => localUid_withWiki r wiki language, fun h h' same => ?_⟩
  have parts := decoded.1 same
  rw [h.dottedParts_eq, h'.dottedParts_eq, List.cons.injEq, List.cons.injEq] at parts
  obtain ⟨space, name, rest⟩ := parts
  refine ⟨String.toList_injective space, String.toList_injective name, String.toList_injective ?_⟩
  -- A blank language has no part, and no other language has none.
  by_cases blank : (Text.trim language).toList = [] <;> by_cases blank' : (Text.trim language').toList = []
  · rw [blank, blank']
  · simp [blank, blank'] at rest
  · simp [blank, blank'] at rest
  · simpa [blank, blank'] using rest

theorem localUid_eq_iff_mirroredPage :
    DocumentRef.Undotted ⟨"xwiki", "4:Blog", "1"⟩ " en" ∧ DocumentRef.Undotted ⟨"mirror", "4:Blog", "1"⟩ "en " ∧
      localUid ⟨"xwiki", "4:Blog", "1"⟩ " en" = localUid ⟨"mirror", "4:Blog", "1"⟩ "en " ∧
      Text.trim " en" = Text.trim "en " := by
  have here : DocumentRef.Undotted ⟨"xwiki", "4:Blog", "1"⟩ " en" :=
    ⟨by decide, by decide, by decide, by decide, by decide⟩
  have there : DocumentRef.Undotted ⟨"mirror", "4:Blog", "1"⟩ "en " :=
    ⟨by decide, by decide, by decide, by decide, by decide⟩
  have same : localUid ⟨"xwiki", "4:Blog", "1"⟩ " en" = localUid ⟨"mirror", "4:Blog", "1"⟩ "en " := rfl
  exact ⟨here, there, same, ((localUid_eq_iff _ _ _ _).2.2 here there same).2.2⟩

/-- A part may itself look like a part behind its length. -/
example : localUid ⟨"xwiki", "4:Blog", "1"⟩ "" = "6:4:Blog1:1" := rfl

end TypedWiki
