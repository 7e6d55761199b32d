import TypedWiki.Proofs.Object.ReadBack
import TypedWiki.Query.Restriction

/-!
# Filtering for written values — which values a filter finds again

Writing brings a value into the form in which its field stores it; a filter brings its candidates into a form by rules
of its own.  The two agree on every value except on lists: a list that was joined to one text is not looked for as
that text, and blank items are dropped by the write only.

* `FieldDef.IsLiteral`: the fields that store neither references nor values behind a codec.
* `FieldKind.Findable`: the values on which writing and filtering agree.
* `appliesTo_set_iff`: a filter for a written value finds it exactly if it is one of these.
* `not_appliesTo_set_joinedTitle`: two titles in one list are not found.
-/

namespace TypedWiki

/-- A field that stores neither references nor values behind a codec of its own. -/
def FieldDef.IsLiteral (f : FieldDef) : Prop := f.IsPlain ∧ ∀ config, f.kind ≠ .reference config

/-- The values that a filter finds where they were written: of lists, those without a blank item where several values
can be selected, and those of one item where one value can be selected. -/
def FieldKind.Findable (kind : FieldKind) : Value → Prop
  | .list items =>
    kind.isMultiSelect = true ∧ (∀ i ∈ items, Text.isBlank i = false) ∨
      kind.isSingleSelect = true ∧ items.length = 1
  | _ => True

theorem FieldDef.IsLiteral.ne_reference {f : FieldDef} {v : Value} (literal : f.IsLiteral)
    (accepts : f.kind.accepts v = true) (r : DocumentRef) : v ≠ .reference r := by
  rintro rfl
  cases hk : f.kind with
  | reference config => exact literal.2 config hk
  | custom config => exact literal.1 config hk
  | _ => simp [hk, FieldKind.accepts] at accepts

namespace Restriction

open ObjectAccessor (canonicalValue keptItems Declares)

variable {kind : FieldKind} {items : List String} {mode : ReferenceMode} {base : DocumentRef}

/-- Of a list the stored form is a candidate if no item was dropped, or if its only item was taken out. -/
theorem canonicalValue_list_mem_iff (blank : (Value.list items).isBlank = false) :
    canonicalValue mode base kind (.list items) ∈ candidatesOf kind (.list items) ↔ kind.Findable (.list items) := by
  rw [canonicalValue, candidatesOf, FieldKind.Findable]
  by_cases multi : kind.isMultiSelect = true
  · rw [if_pos multi, FieldKind.isSingleSelect_of_isMultiSelect multi]
    simp only [Bool.false_eq_true, if_false, List.mem_singleton, Value.list.injEq, multi, true_and, false_and, or_false]
    rw [keptItems, List.filter_eq_self]
    simp only [Bool.not_eq_true']
  · rw [if_neg multi]
    by_cases single : kind.isSingleSelect = true
    · have ne : items ≠ [] := by
        rintro rfl
        cases blank
      have delimited : 0 < Value.listDelimiter.length := by decide
      rw [if_pos single, List.mem_map]
      simp only [Value.text.injEq, exists_eq_right, multi, Bool.false_eq_true, false_and, false_or, single, true_and]
      exact Text.join_mem_iff delimited ne
    · simp [multi, single]

/-- The form in which a value is read back is a candidate exactly for the values that are found. -/
theorem canonicalValue_mem_iff {v : Value} (blank : v.isBlank = false) (single : ∀ r, v ≠ .reference r) :
    canonicalValue mode base kind v ∈ candidatesOf kind v ↔ kind.Findable v := by
  cases v with
  | list items => exact canonicalValue_list_mem_iff blank
  | reference r => exact absurd rfl (single r)
  | text s => by_cases multi : kind.isMultiSelect = true <;> simp [canonicalValue, candidatesOf, FieldKind.Findable, multi]
  | _ => simp [canonicalValue, candidatesOf, FieldKind.Findable]

/-- **A filter for a value finds the objects on which it was written exactly if it is findable**, whatever the
accessors of the write and of the filter. -/
theorem appliesTo_set_iff {o : PropertyObject} {f : FieldDef} {v : Value} (literal : f.IsLiteral)
    (declares : Declares o f) (accepts : f.kind.accepts v = true) (blank : v.isBlank = false) (a b : ObjectAccessor) :
    ∃ changed o', a.set o f (some v) = .ok (changed, o') ∧
      ((fieldAnyOf f [v]).appliesTo b o' = true ↔ f.kind.Findable v) := by
  obtain ⟨changed, o', written⟩ : ∃ changed o', a.set o f (some v) = .ok (changed, o') :=
    ⟨_, _, ObjectAccessor.set_eq_ok_iff.2 ⟨declares, _, ObjectAccessor.rawOf_of_accepts blank accepts a o, rfl, rfl⟩⟩
  refine ⟨changed, o', written, ?_⟩
  obtain ⟨raw, stored, read⟩ := ObjectAccessor.get_of_set (b := b) written
  have single := literal.ne_reference accepts
  have encoded := (ObjectAccessor.rawOf_eq_ok blank stored).2
  rw [encoded, ObjectAccessor.reading_encode_of_ne_reference literal.1 accepts blank single a b .global o.document]
    at read
  rw [appliesTo_fieldAnyOf read]
  simp only [List.mem_singleton, exists_eq_left]
  exact canonicalValue_mem_iff blank single

/-- The labels of a page, of which it can have several. -/
def labels : FieldDef := FieldDef.make ⟨"Wiki", "PageClass"⟩ "labels" (.list { multiSelect := true })

/-- The title of a page. -/
def pageTitle : FieldDef := FieldDef.make ⟨"Wiki", "PageClass"⟩ "title" (.text none)

/-- A page without labels and title. -/
def bare : PropertyObject :=
  PropertyObject.create ⟨"xwiki", "Main", "Page"⟩ ⟨labels.classRef, .standard, false, [labels, pageTitle]⟩ 0 0

theorem appliesTo_set_labels :
    ∃ changed o', ObjectAccessor.set {} bare labels (some (.list ["new", "hot"])) = .ok (changed, o') ∧
      (fieldAnyOf labels [.list ["new", "hot"]]).appliesTo {} o' = true := by
  have literal : labels.IsLiteral := ⟨fun _ h => (by cases h), fun _ h => (by cases h)⟩
  have declares : Declares bare labels := ⟨rfl, by decide⟩
  have accepts : labels.kind.accepts (.list ["new", "hot"]) = true := rfl
  have blank : (Value.list ["new", "hot"]).isBlank = false := by decide
  obtain ⟨changed, o', written, finds⟩ := appliesTo_set_iff literal declares accepts blank {} {}
  exact ⟨changed, o', written, finds.2 (.inl ⟨rfl, by decide⟩)⟩

/-- A title takes a list and holds it as one text, for which a filter with this list does not look. -/
theorem not_appliesTo_set_joinedTitle :
    ¬ ∀ (a b : ObjectAccessor) (o o' : PropertyObject) (f : FieldDef) (v : Value) (changed : Bool),
      f.IsLiteral → Declares o f → f.kind.accepts v = true → v.isBlank = false →
        a.set o f (some v) = .ok (changed, o') → (fieldAnyOf f [v]).appliesTo b o' = true := by
  intro h
  have literal : pageTitle.IsLiteral := ⟨fun _ h => (by cases h), fun _ h => (by cases h)⟩
  have declares : Declares bare pageTitle := ⟨rfl, by decide⟩
  have accepts : pageTitle.kind.accepts (.list ["a", "b"]) = true := rfl
  have blank : (Value.list ["a", "b"]).isBlank = false := by decide
  obtain ⟨changed, o', written⟩ : ∃ changed o',
      ObjectAccessor.set {} bare pageTitle (some (.list ["a", "b"])) = .ok (changed, o') := ⟨_, _, rfl⟩
  have found := h {} {} bare o' pageTitle (.list ["a", "b"]) changed literal declares accepts blank written
  obtain ⟨raw, stored, read⟩ := ObjectAccessor.get_of_set (b := {}) written
  have encoded := (ObjectAccessor.rawOf_eq_ok blank stored).2
  rw [encoded, ObjectAccessor.reading_encode_list literal.1 accepts blank] at read
  rw [appliesTo_fieldAnyOf read] at found
  simp [candidatesOf, pageTitle, FieldDef.make, FieldKind.isMultiSelect, FieldKind.isSingleSelect,
    FieldKind.listConfig?] at found

end Restriction

end TypedWiki
