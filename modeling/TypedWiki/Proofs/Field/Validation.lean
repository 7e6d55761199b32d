import TypedWiki.Field.Definition
import TypedWiki.Proofs.Pattern.Enclosed
import TypedWiki.Proofs.Pattern.Walk

/-!
# Validation — what a built field allows

The pattern of a field is put as text between the marks for the start and the end of the value.  If it is a pattern by
itself, it is read there as itself, and the field allows the values that it matches as a whole.  But nothing checks
that it is one: a text that closes the group put around it is taken too, and its marks no longer hold it together.

* `validate_iff_of_build`: what is allowed by a built field whose pattern is one by itself.
* `not_validate_unopened`: a pattern that is none by itself is built, and allows values that it matches in part.
-/

namespace TypedWiki.FieldDef

/-- A built field with a pattern keeps the pattern as it was read between the marks. -/
theorem validation_of_build {d : FieldDraft} {f : FieldDef} {source : String} (built : d.build = .ok f)
    (given : d.pattern = some source) :
    ∃ q, Pattern.parseAnchored source = .ok q ∧ f.validation = some ⟨source, q⟩ := by
  rw [FieldDraft.build, given] at built
  split at built
  · cases built
  · simp only at built
    split at built
    · rename_i q read
      cases built
      exact ⟨q, read, rfl⟩
    · cases built

/-- **A built field whose pattern is one by itself allows the values that can be selected and that the pattern matches
from the first to the last character.** -/
theorem validate_iff_of_build {d : FieldDraft} {f : FieldDef} {source : String} {p : Pattern}
    (built : d.build = .ok f) (given : d.pattern = some source) (valid : Pattern.parse source.toList = .ok p)
    (v : Value) : f.validate v = true ↔ f.allowsSelection v = true ∧ p.Matches v.rawText := by
  obtain ⟨q, read, validation⟩ := validation_of_build built given
  rw [validate, validation, Option.all_some, Bool.and_eq_true, Pattern.parseAnchored_eq valid read,
    Pattern.isMatch_enclosed_iff (Pattern.countsOrdered_of_parse valid)]

/-- A code of three capitals or of digits. -/
def codeDraft : FieldDraft :=
  { classRef := ⟨"Menu", "MenuItemClass"⟩, name := "code", pattern := some "[A-Z]\x7b3\x7d|[0-9]+" }

theorem validate_iff_of_build_code :
    ∃ f p, codeDraft.build = .ok f ∧ codeDraft.pattern = some "[A-Z]\x7b3\x7d|[0-9]+" ∧
      Pattern.parse "[A-Z]\x7b3\x7d|[0-9]+".toList = .ok p ∧ p.Matches "ABC" ∧ ¬ p.Matches "ABCD" := by
  have allows : codeDraft.build.toOption.map (fun f => f.validate (.text "ABC")) = some true := by decide +kernel
  have refuses : codeDraft.build.toOption.map
      (fun f => f.validate (.text "ABCD") || !f.allowsSelection (.text "ABCD")) = some false := by decide +kernel
  have reads : (Pattern.parse "[A-Z]\x7b3\x7d|[0-9]+".toList).toOption.isSome = true := by decide +kernel
  cases valid : Pattern.parse "[A-Z]\x7b3\x7d|[0-9]+".toList with
  | error e =>
    rw [valid] at reads
    cases reads
  | ok p =>
    cases built : codeDraft.build with
    | error e =>
      rw [built] at allows
      cases allows
    | ok f =>
      rw [built] at allows refuses
      have refused := Bool.or_eq_false_iff.1 (Option.some.inj refuses)
      have matched := validate_iff_of_build built rfl valid
      refine ⟨f, p, rfl, rfl, rfl, ((matched (.text "ABC")).1 (Option.some.inj allows)).2, fun longer => ?_⟩
      have allowed := (matched (.text "ABCD")).2 ⟨by simpa using refused.2, longer⟩
      exact Bool.false_ne_true (refused.1.symm.trans allowed)

/-- A text that is no pattern by itself, since it closes a group that it does not open. -/
def unopenedDraft : FieldDraft :=
  { classRef := ⟨"Menu", "MenuItemClass"⟩, name := "code", pattern := some "a)|(?:b" }

/-- A text that is no pattern by itself is built all the same. -/
theorem not_validate_unopened :
    ¬ ∀ (d : FieldDraft) (f : FieldDef) (source : String), d.build = .ok f → d.pattern = some source →
      ∃ p, Pattern.parse source.toList = .ok p ∧ ∀ v, f.validate v = true → p.Matches v.rawText := by
  intro h
  have builds : unopenedDraft.build.toOption.isSome = true := by decide +kernel
  have refused : (Pattern.parse "a)|(?:b".toList).toOption = none := by decide +kernel
  cases built : unopenedDraft.build with
  | error e =>
    rw [built] at builds
    cases builds
  | ok f =>
    obtain ⟨p, valid, -⟩ := h unopenedDraft f "a)|(?:b" built rfl
    rw [valid] at refused
    cases refused

/-- The field allows a value of which the marks hold but the start. -/
example : unopenedDraft.build.toOption.map (fun f => f.validate (.text "ax")) = some true := by decide +kernel

end TypedWiki.FieldDef
