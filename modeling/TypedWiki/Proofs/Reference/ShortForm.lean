import TypedWiki.Codec
import TypedWiki.Proofs.Reference.Grammar

/-!
# Short forms of references — which references come back from them

The full form of a parsed reference is read as this reference again.  The compact form leaves out what the base has
too, and where it leaves out the wiki, a colon in the space or in the name is taken for the end of a wiki.

* `written`: the parts that a mode writes relative to a base.
* `parse_serialize_eq_iff`: a reference comes back exactly if these parts can be told apart and nothing is trimmed.
* `Produced`: what parsing gives, with bases of the same kind.
* `Anchored`, `Shortens`: what the full and the short form need of a parsed reference.
* `roundTrips_iff_of_parse`: a parsed reference comes back exactly if it has this.
* `not_roundTrips_helpPage`: a parsed reference that does not come back from its short form.
-/

namespace TypedWiki.DocumentRef

/-! ### Parts that are written -/

/-- The parts that a mode writes of a reference relative to a base. -/
def written (r : DocumentRef) (mode : ReferenceMode) (base : DocumentRef) : Written where
  wiki := if mode = .inWiki ∨ mode = .compact ∧ base.wiki = r.wiki then none else some r.wiki.toList
  space := if mode = .compact ∧ base.wiki = r.wiki ∧ base.space = r.space then none else some r.space.toList
  name := r.name.toList

theorem toList_serialize (r : DocumentRef) (mode : ReferenceMode) (base : DocumentRef) :
    (r.serialize mode (some base)).toList = (r.written mode base).chars := by
  cases mode with
  | global => simp [serialize, text, written, Written.chars, Written.marked]
  | inWiki => simp [serialize, textInWiki, written, Written.chars, Written.marked]
  | compact =>
    by_cases hw : base.wiki = r.wiki <;> by_cases hs : base.space = r.space <;>
      simp [serialize, text, textInWiki, written, Written.chars, Written.marked, hw, hs]

/-- Completed by a base, the parts of a reference are its own or left out where the base has them. -/
theorem Written.complete_some_iff {w : Written} {base r : DocumentRef} :
    w.complete (some base) = .ok r ↔
      (w.wiki = some r.wiki.toList ∨ w.wiki = none ∧ base.wiki = r.wiki) ∧
      (w.space = some r.space.toList ∨ w.space = none ∧ base.space = r.space) ∧
      w.name = r.name.toList := by
  rw [complete_eq_ok_iff]
  cases w.wiki <;> cases w.space <;> simp [Text.ofList_eq_iff]

theorem complete_written (r : DocumentRef) {mode : ReferenceMode} (h : mode ≠ .inWiki) (base : DocumentRef) :
    (r.written mode base).complete (some base) = .ok r := by
  rw [Written.complete_some_iff]
  refine ⟨?_, ?_, rfl⟩
  · by_cases shared : mode = .compact ∧ base.wiki = r.wiki
    · exact .inr ⟨if_pos (.inr shared), shared.2⟩
    · exact .inl (if_neg (not_or.2 ⟨h, shared⟩))
  · by_cases shared : mode = .compact ∧ base.wiki = r.wiki ∧ base.space = r.space
    · exact .inr ⟨if_pos shared, shared.2.2⟩
    · exact .inl (if_neg shared)

/-- What is read as a reference in its trimmed written form are the parts that were written: a part more would make
the text longer, and without a part that was written its mark would be missing. -/
theorem eq_written_of_chars {r base : DocumentRef} {mode : ReferenceMode} {w : Written} (h : mode ≠ .inWiki)
    (proper : w.Proper) (chars : w.chars = Text.trimChars (r.written mode base).chars)
    (complete : w.complete (some base) = .ok r) : w = r.written mode base := by
  have shorter : w.chars.length ≤ (r.written mode base).chars.length := by
    rw [chars]
    exact (Text.trimChars_isInfix _).length_le
  have colons : w.chars.count ':' = (r.written mode base).chars.count ':' := by
    rw [chars, Text.count_trimChars rfl]
  have dots : w.chars.count '.' = (r.written mode base).chars.count '.' := by
    rw [chars, Text.count_trimChars rfl]
  obtain ⟨hwiki, hspace, hname⟩ := Written.complete_some_iff.1 complete
  obtain ⟨wiki, space, name⟩ := w
  dsimp only at hwiki hspace hname
  subst hname
  by_cases shared : mode = .compact ∧ base.wiki = r.wiki
  · by_cases same : base.space = r.space
    · -- The name alone is written, and the text is too short for a mark.
      have parts : r.written mode base = ⟨none, none, r.name.toList⟩ := by simp [written, shared, same]
      simp only [parts, Written.length_chars, Written.marked_none, List.length_nil] at shorter
      have wiki_none : wiki = none := (Written.length_marked_eq_zero_iff ':').1 (by omega)
      have space_none : space = none := (Written.length_marked_eq_zero_iff '.').1 (by omega)
      rw [parts, wiki_none, space_none]
    · -- The base has another space, so a space was read, and a wiki before it would be too long.
      have parts : r.written mode base = ⟨none, some r.space.toList, r.name.toList⟩ := by
        simp [written, shared, same]
      have space_some : space = some r.space.toList := hspace.resolve_right fun left => same left.2
      simp only [parts, Written.length_chars, Written.marked_none, List.length_nil, space_some] at shorter
      have wiki_none : wiki = none := (Written.length_marked_eq_zero_iff ':').1 (by omega)
      rw [parts, wiki_none, space_some]
  · -- The whole text is written; the base could fill in the same parts, but then a mark would be missing.
    have parts : r.written mode base = ⟨some r.wiki.toList, some r.space.toList, r.name.toList⟩ := by
      simp [written, h, shared, ← and_assoc]
    have wiki_some : wiki = some r.wiki.toList := by
      refine hwiki.resolve_right ?_
      rintro ⟨rfl, -⟩
      rw [List.count_eq_zero.2 (proper.colon_chars rfl), parts, Written.count_chars, Written.marked_some,
        List.count_append, List.count_singleton_self] at colons
      omega
    have space_some : space = some r.space.toList := by
      refine hspace.resolve_right ?_
      rintro ⟨rfl, -⟩
      simp only [parts, Written.count_chars, wiki_some, Written.marked_none, Written.marked_some, List.count_append,
        List.count_nil, List.count_singleton_self] at dots
      omega
    rw [parts, wiki_some, space_some]

/-- **A reference comes back exactly if its written parts can be told apart and nothing of them is trimmed.** -/
theorem parse_serialize_eq_iff {r base : DocumentRef} {mode : ReferenceMode} (h : mode ≠ .inWiki) :
    parse (r.serialize mode (some base)) (some base) = .ok r ↔
      (r.written mode base).Proper ∧ Text.IsTight (r.written mode base).chars := by
  rw [parse_eq_ok_iff, toList_serialize]
  constructor
  · rintro ⟨w, chars, proper, complete⟩
    obtain rfl := eq_written_of_chars h proper chars complete
    exact ⟨proper, Text.trimChars_eq_self_iff.1 chars.symm⟩
  · rintro ⟨proper, tight⟩
    exact ⟨_, tight.trimChars_eq.symm, proper, complete_written r h base⟩

/-! ### Parsed references -/

/-- What parsing gives, with bases that parsing gave. -/
inductive Produced : DocumentRef → Prop where
  | of_parse {input : String} {base : Option DocumentRef} {r : DocumentRef}
    (bases : ∀ b, base = some b → Produced b) (read : parse input base = .ok r) : Produced r

/-- What parsing makes sure of in a name. -/
structure Named (r : DocumentRef) : Prop where
  name_ne : r.name ≠ ""
  dot_name : '.' ∉ r.name.toList
  end_name : r.name.toList.getLast?.any Text.isSpace = false

/-- Wiki and space that the full form of a named reference can carry. -/
structure Anchored (r : DocumentRef) : Prop where
  wiki_ne : r.wiki ≠ ""
  space_ne : r.space ≠ ""
  colon_wiki : ':' ∉ r.wiki.toList
  start_wiki : r.wiki.toList.head?.any Text.isSpace = false

/-- What the short form of a named reference needs in the wiki of the base: a space, if it is written, no colon, which
would end a wiki, and no white space in front, which would be trimmed. -/
structure Shortens (r base : DocumentRef) : Prop where
  space : base.space = r.space ∨ r.space ≠ ""
  colon : ':' ∉ (r.serialize .compact (some base)).toList
  start : (r.serialize .compact (some base)).toList.head?.any Text.isSpace = false

theorem named_of_parse {input : String} {base : Option DocumentRef} {r : DocumentRef}
    (read : parse input base = .ok r) : r.Named := by
  obtain ⟨w, chars, proper, complete⟩ := parse_eq_ok_iff.1 read
  have name : r.name.toList = w.name := by
    rw [← (Written.complete_eq_ok_iff.1 complete).2.2, String.toList_ofList]
  have tight : Text.IsTight w.chars := chars ▸ Text.isTight_trimChars input.toList
  refine ⟨fun empty => proper.name_ne ?_, ?_, ?_⟩
  · rw [← name, empty]
    rfl
  · rw [name]
    exact proper.dot_name
  · rw [name, ← Written.getLast?_chars proper.name_ne]
    exact tight.2

/-- The segments that are read are kept by the parser as the full form needs them, and the others come from the
base. -/
theorem anchored_of_parse {input : String} {base : Option DocumentRef} {r : DocumentRef}
    (bases : ∀ b, base = some b → b.Anchored) (read : parse input base = .ok r) : r.Anchored := by
  obtain ⟨w, chars, proper, complete⟩ := parse_eq_ok_iff.1 read
  obtain ⟨hwiki, hspace, -⟩ := Written.complete_eq_ok_iff.1 complete
  have tight : Text.IsTight w.chars := chars ▸ Text.isTight_trimChars input.toList
  have wiki : r.wiki ≠ "" ∧ ':' ∉ r.wiki.toList ∧ r.wiki.toList.head?.any Text.isSpace = false := by
    cases h : w.wiki with
    | none =>
      obtain ⟨b, hb, same⟩ : ∃ b, base = some b ∧ b.wiki = r.wiki := by simpa [h] using hwiki
      exact same ▸ ⟨(bases b hb).wiki_ne, (bases b hb).colon_wiki, (bases b hb).start_wiki⟩
    | some part =>
      have same : String.ofList part = r.wiki := by simpa [h] using hwiki
      have part_ne : part ≠ [] := fun empty => proper.wiki_ne (empty ▸ h)
      rw [← same, String.toList_ofList]
      refine ⟨by simpa using part_ne, proper.colon_wiki part h, ?_⟩
      rw [← Written.head?_chars h part_ne]
      exact tight.1
  have space : r.space ≠ "" := by
    cases h : w.space with
    | none =>
      obtain ⟨b, hb, same⟩ : ∃ b, base = some b ∧ b.space = r.space := by simpa [h] using hspace
      exact same ▸ (bases b hb).space_ne
    | some part =>
      have same : String.ofList part = r.space := by simpa [h] using hspace
      have part_ne : part ≠ [] := fun empty => proper.space_ne (empty ▸ h)
      simpa [← same] using part_ne
  exact ⟨wiki.1, space, wiki.2.1, wiki.2.2⟩

theorem Produced.anchored {r : DocumentRef} (h : r.Produced) : r.Anchored := by
  induction h with
  | of_parse _ read ih => exact anchored_of_parse ih read

/-! ### Coming back -/

namespace Named

variable {r : DocumentRef}

theorem name_toList_ne (h : r.Named) : r.name.toList ≠ [] := by simpa using h.name_ne

/-- The text of a name behind other parts has no white space at the end. -/
theorem isTight_chars_iff (h : r.Named) {w : Written} (name : w.name = r.name.toList) :
    Text.IsTight w.chars ↔ w.chars.head?.any Text.isSpace = false := by
  refine ⟨And.left, fun start => ⟨start, ?_⟩⟩
  rw [Written.getLast?_chars (name ▸ h.name_toList_ne), name]
  exact h.end_name

theorem anchored_iff (h : r.Named) {w : Written}
    (full : w = ⟨some r.wiki.toList, some r.space.toList, r.name.toList⟩) :
    w.Proper ∧ Text.IsTight w.chars ↔ r.Anchored := by
  subst full
  rw [h.isTight_chars_iff rfl]
  constructor
  · rintro ⟨proper, start⟩
    have wiki_ne : r.wiki.toList ≠ [] := fun empty => proper.wiki_ne (congrArg some empty)
    have space_ne : r.space.toList ≠ [] := fun empty => proper.space_ne (congrArg some empty)
    rw [Written.head?_chars rfl wiki_ne] at start
    exact ⟨by simpa using wiki_ne, by simpa using space_ne, proper.colon_wiki _ rfl, start⟩
  · intro anchored
    have wiki_ne : r.wiki.toList ≠ [] := by simpa using anchored.wiki_ne
    have space_ne : r.space.toList ≠ [] := by simpa using anchored.space_ne
    refine ⟨⟨?_, ?_, h.name_toList_ne, ?_, fun h => (by cases h), h.dot_name⟩, ?_⟩
    · exact fun empty => wiki_ne (Option.some.inj empty)
    · exact fun empty => space_ne (Option.some.inj empty)
    · exact fun part hpart => Option.some.inj hpart ▸ anchored.colon_wiki
    · rw [Written.head?_chars rfl wiki_ne]
      exact anchored.start_wiki

theorem shortens_iff (h : r.Named) {base : DocumentRef} (same : base.wiki = r.wiki) :
    (r.written .compact base).Proper ∧ Text.IsTight (r.written .compact base).chars ↔ r.Shortens base := by
  have wiki_none : (r.written .compact base).wiki = none := by simp [written, same]
  rw [h.isTight_chars_iff rfl]
  constructor
  · rintro ⟨proper, start⟩
    refine ⟨?_, ?_, ?_⟩
    · by_cases space : base.space = r.space
      · exact .inl space
      · refine .inr fun empty => proper.space_ne ?_
        have written_space : (r.written .compact base).space = some r.space.toList :=
          if_neg fun shared => space shared.2.2
        rw [written_space, empty]
        rfl
    · rw [toList_serialize]
      exact proper.colon_chars wiki_none
    · rw [toList_serialize]
      exact start
  · rintro ⟨space, colon, start⟩
    rw [toList_serialize] at colon start
    refine ⟨⟨by simp [wiki_none], ?_, h.name_toList_ne, by simp [wiki_none], fun _ => colon, h.dot_name⟩, start⟩
    by_cases shared : base.space = r.space
    · simp [written, same, shared]
    · simpa [written, shared] using space.resolve_left shared

end Named

theorem roundTrips_iff {r base : DocumentRef} {mode : ReferenceMode} (h : mode ≠ .inWiki) :
    (Codec.reference .plain mode (some base)).RoundTrips r ↔
      (r.written mode base).Proper ∧ Text.IsTight (r.written mode base).chars := by
  rw [← parse_serialize_eq_iff h]
  exact Codec.resolve_reference_eq_some_iff

/-- **A parsed reference comes back from its full form if its wiki and space can stand there, which is so for all that
parsing produces by itself, and from its short form in the wiki of the base if the text has no colon and no white space
in front.** -/
theorem roundTrips_iff_of_parse {input : String} {source : Option DocumentRef} {r : DocumentRef}
    (read : parse input source = .ok r) (base : DocumentRef) :
    ((Codec.reference .plain .global (some base)).RoundTrips r ↔ r.Anchored) ∧
    ((Codec.reference .plain .compact (some base)).RoundTrips r ↔
      if base.wiki = r.wiki then r.Shortens base else r.Anchored) ∧
    (r.Produced → r.Anchored) := by
  have named := named_of_parse read
  refine ⟨?_, ?_, Produced.anchored⟩
  · exact (roundTrips_iff (by decide)).trans (named.anchored_iff (by simp [written]))
  · refine (roundTrips_iff (by decide)).trans ?_
    by_cases same : base.wiki = r.wiki
    · rw [if_pos same]
      exact named.shortens_iff same
    · rw [if_neg same]
      exact named.anchored_iff (by simp [written, same])

/-- The front page of a wiki. -/
def home : DocumentRef := ⟨"xwiki", "Main", "Home"⟩

/-- A page beside it with a colon in its name. -/
def helpPage : DocumentRef := ⟨"xwiki", "Main", "Help: Editing"⟩

theorem parse_helpPage : parse "xwiki:Main.Help: Editing" none = .ok helpPage := rfl

theorem roundTrips_iff_of_parse_helpPage :
    parse "xwiki:Main.Help: Editing" none = .ok helpPage ∧ (Codec.reference .plain .global (some home)).RoundTrips helpPage ∧
      ((Codec.reference .plain .compact (some home)).RoundTrips helpPage ↔ helpPage.Shortens home) := by
  obtain ⟨full, short, anchored⟩ := roundTrips_iff_of_parse parse_helpPage home
  have produced : helpPage.Produced := .of_parse (fun _ h => by cases h) parse_helpPage
  exact ⟨parse_helpPage, full.2 (anchored produced), short⟩

/-- The short form of the page beside the front page is read as a page of a wiki called `Help`.  A parse result is here
what one parse gives, with any base; these two are parsed without a base, so that they are `Produced` as well. -/
theorem not_roundTrips_helpPage :
    ¬ ∀ (input input' : String) (source source' : Option DocumentRef) (r base : DocumentRef),
      parse input source = .ok r → parse input' source' = .ok base →
        (Codec.reference .plain .compact (some base)).RoundTrips r := by
  intro h
  have front : parse "xwiki:Main.Home" none = .ok home := rfl
  have returned := h _ _ _ _ _ _ parse_helpPage front
  have elsewhere : (Codec.reference .plain .compact (some home)).resolve
      ((Codec.reference .plain .compact (some home)).serialize helpPage) = some ⟨"Help", "Main", " Editing"⟩ := rfl
  rw [Codec.RoundTrips, elsewhere] at returned
  exact absurd returned (by decide)

end TypedWiki.DocumentRef
