import Mathlib.Tactic.SplitIfs
import TypedWiki.Proofs.Reference.RoundTrip

/-!
# The grammar of references — which texts are read, and as what

A written reference has a name, before it a space and a dot, and before these a wiki and a colon; space and wiki may
be left out.

* `Written.chars`: the text of the parts.
* `Written.Proper`: the parts can be told apart in it.
* `read_eq_ok_iff`: a text is read as the proper parts of which it is the text.
* `parse_eq_ok_iff`: parsing trims the text and takes the parts left out from the base.
-/

namespace TypedWiki.DocumentRef

namespace Written

/-- A part with the mark that ends it; a part left out has none. -/
def marked (mark : Char) : Option (List Char) → List Char
  | some part => part ++ [mark]
  | none => []

/-- The text of the parts. -/
def chars (w : Written) : List Char := marked ':' w.wiki ++ (marked '.' w.space ++ w.name)

/-- Parts that can be told apart in their text: none is empty, the wiki ends at the first colon and the space at the
last dot. -/
structure Proper (w : Written) : Prop where
  wiki_ne : w.wiki ≠ some []
  space_ne : w.space ≠ some []
  name_ne : w.name ≠ []
  /-- The colon that ends the wiki is the first one. -/
  colon_wiki : ∀ part, w.wiki = some part → ':' ∉ part
  /-- Without a wiki there is no colon. -/
  colon_chars : w.wiki = none → ':' ∉ w.chars
  /-- The dot that ends the space is the last one. -/
  dot_name : '.' ∉ w.name

@[simp] theorem marked_none (mark : Char) : marked mark none = [] := rfl
@[simp] theorem marked_some (mark : Char) (part : List Char) : marked mark (some part) = part ++ [mark] := rfl

theorem length_marked_eq_zero_iff (mark : Char) {part : Option (List Char)} :
    (marked mark part).length = 0 ↔ part = none := by
  cases part <;> simp

theorem length_chars (w : Written) :
    w.chars.length = (marked ':' w.wiki).length + ((marked '.' w.space).length + w.name.length) := by
  rw [chars, List.length_append, List.length_append]

theorem count_chars (c : Char) (w : Written) :
    w.chars.count c = (marked ':' w.wiki).count c + ((marked '.' w.space).count c + w.name.count c) := by
  rw [chars, List.count_append, List.count_append]

theorem getLast?_chars {w : Written} (h : w.name ≠ []) : w.chars.getLast? = w.name.getLast? := by
  obtain ⟨init, last, hname⟩ := (List.eq_nil_or_concat w.name).resolve_left h
  rw [chars, hname, List.concat_eq_append, ← List.append_assoc, ← List.append_assoc, List.getLast?_concat,
    List.getLast?_concat]

theorem head?_chars {w : Written} {part : List Char} (h : w.wiki = some part) (ne : part ≠ []) :
    w.chars.head? = part.head? := by
  obtain ⟨c, cs, rfl⟩ := List.exists_cons_of_ne_nil ne
  rw [chars, h]
  rfl

variable {cs rest name : List Char} {wiki space : Option (List Char)} {w : Written}

theorem cutWiki_eq_iff :
    cutWiki cs = (wiki, rest) ↔
      marked ':' wiki ++ rest = cs ∧ (∀ part, wiki = some part → ':' ∉ part) ∧ (wiki = none → ':' ∉ rest) := by
  constructor
  · intro h
    rw [cutWiki] at h
    split at h
    · rename_i part rest' cut
      obtain ⟨rfl, rfl⟩ := Prod.mk.inj h
      obtain ⟨rfl, colon⟩ := Text.splitFirst_eq_some_iff.1 cut
      exact ⟨by simp, fun _ hpart => Option.some.inj hpart ▸ colon, fun h => (by cases h)⟩
    · rename_i cut
      obtain ⟨rfl, rfl⟩ := Prod.mk.inj h
      exact ⟨rfl, fun _ h => (by cases h), fun _ => Text.splitFirst_eq_none_iff.1 cut⟩
  · rintro ⟨rfl, colon_wiki, colon_rest⟩
    cases wiki with
    | none => exact cutWiki_of_not_mem (colon_rest rfl)
    | some part =>
      rw [marked_some, List.append_assoc]
      exact cutWiki_append (colon_wiki part rfl)

theorem cutSpace_eq_iff : cutSpace cs = (space, name) ↔ marked '.' space ++ name = cs ∧ '.' ∉ name := by
  constructor
  · intro h
    rw [cutSpace] at h
    split at h
    · rename_i part name' cut
      obtain ⟨rfl, rfl⟩ := Prod.mk.inj h
      obtain ⟨rfl, dot⟩ := Text.splitLast_eq_some_iff.1 cut
      exact ⟨by simp, dot⟩
    · rename_i cut
      obtain ⟨rfl, rfl⟩ := Prod.mk.inj h
      exact ⟨rfl, Text.splitLast_eq_none_iff.1 cut⟩
  · rintro ⟨rfl, dot⟩
    cases space with
    | none => exact cutSpace_of_not_mem dot
    | some part =>
      rw [marked_some, List.append_assoc]
      exact cutSpace_append dot

/-- **A text is read as the proper parts of which it is the text.** -/
theorem read_eq_ok_iff : read cs = .ok w ↔ w.chars = cs ∧ w.Proper := by
  constructor
  · intro h
    cases hw : cutWiki cs with
    | mk wiki rest =>
      cases hs : cutSpace rest with
      | mk space name =>
        simp only [read, hw, hs] at h
        split_ifs at h with wiki_ne space_ne name_ne
        obtain rfl := Except.ok.inj h
        obtain ⟨rfl, colon_wiki, colon_rest⟩ := cutWiki_eq_iff.1 hw
        obtain ⟨rfl, dot_name⟩ := cutSpace_eq_iff.1 hs
        refine ⟨rfl, wiki_ne, space_ne, name_ne, colon_wiki, fun unwritten => ?_, dot_name⟩
        subst unwritten
        exact colon_rest rfl
  · rintro ⟨rfl, proper⟩
    refine read_of_cuts (cutWiki_eq_iff.2 ⟨rfl, proper.colon_wiki, fun unwritten => ?_⟩)
      (cutSpace_eq_iff.2 ⟨rfl, proper.dot_name⟩) proper.wiki_ne proper.space_ne proper.name_ne
    have colon := proper.colon_chars unwritten
    rw [chars, unwritten] at colon
    exact colon

/-- Parts left out come from the base, and there must be one for them. -/
theorem complete_eq_ok_iff {base : Option DocumentRef} {r : DocumentRef} :
    w.complete base = .ok r ↔
      (w.wiki.map String.ofList <|> base.map (·.wiki)) = some r.wiki ∧
      (w.space.map String.ofList <|> base.map (·.space)) = some r.space ∧
      String.ofList w.name = r.name := by
  rw [complete]
  cases w.wiki.map String.ofList <|> base.map (·.wiki) with
  | none => simp
  | some wiki =>
    cases w.space.map String.ofList <|> base.map (·.space) with
    | none => simp
    | some space =>
      cases r
      simp

end Written

/-- **Parsing trims a text, cuts it into proper parts and takes the parts left out from the base.** -/
theorem parse_eq_ok_iff {input : String} {base : Option DocumentRef} {r : DocumentRef} :
    parse input base = .ok r ↔
      ∃ w : Written, w.chars = Text.trimChars input.toList ∧ w.Proper ∧ w.complete base = .ok r := by
  rw [parse]
  constructor
  · intro h
    split_ifs at h with blank
    cases hread : Written.read (Text.trimChars input.toList) with
    | error reason => simp [hread] at h
    | ok w =>
      cases hcomplete : w.complete base with
      | error reason => simp [hread, hcomplete] at h
      | ok r' =>
        simp only [hread, hcomplete, Except.ok.injEq] at h
        obtain ⟨chars, proper⟩ := Written.read_eq_ok_iff.1 hread
        exact ⟨w, chars, proper, h ▸ hcomplete⟩
  · rintro ⟨w, chars, proper, complete⟩
    have written : Text.trimChars input.toList ≠ [] := by
      rw [← chars]
      simp [Written.chars, proper.name_ne]
    simp only [written, if_false, Written.read_eq_ok_iff.2 ⟨chars, proper⟩, complete]

end TypedWiki.DocumentRef
