import TypedWiki.Proofs.Object.WriteBack

/-!
# Typed reads — when a field gives values of its own type

A host can store any raw value.  Texts are resolved into the type of a field, and a value that a write would refuse is
refused when it is read.  But a write takes more than the type of a field: lists for one text, which it joins, and
texts for a selection of several values, which it puts into a list.  A read takes them too, and leaves them as they
are.

* `FieldKind.IsForeign`: the values that a kind accepts although they are of another type.
* `IsTyped`: an answer as a typed read gives it.
* `get_of_accepts`, `get_of_refused_text`, `get_of_refused`: what is read, by what is stored.
* `isTyped_get_iff`: a read is typed exactly if no foreign value is stored.
* `isTyped_get_of_set`: after a write through an accessor it always is.
* `not_isTyped_get_listedTitle`: a list that a host stored for a title is read as a list.
-/

namespace TypedWiki

/-! ### Kinds -/

namespace FieldKind

/-- A value that a kind accepts although it is of another type than the kind holds. -/
def IsForeign (kind : FieldKind) (v : Value) : Prop := kind.accepts v = true ∧ v.typeName ≠ kind.valueType

variable {kind : FieldKind}

/-- Kinds without a codec of their own accept other types only among texts and lists: a text where several values can
be selected, and a list where one text is held. -/
theorem isForeign_iff (plain : ∀ config, kind ≠ .custom config) {v : Value} :
    kind.IsForeign v ↔ kind.accepts (.text "") = true ∧
      ((kind.isMultiSelect = true ∧ ∃ s, v = .text s) ∨ (kind.isMultiSelect = false ∧ ∃ items, v = .list items)) := by
  cases kind with
  | custom config => exact absurd rfl (plain config)
  | list config =>
    cases multi : config.multiSelect <;> cases v <;>
      simp [IsForeign, accepts, valueType, Value.typeName, isMultiSelect, listConfig?, multi]
  | _ => cases v <;> simp [IsForeign, accepts, valueType, Value.typeName, isMultiSelect, listConfig?]

/-- A kind that accepts no texts accepts values of its own type only. -/
theorem typeName_of_accepts (plain : ∀ config, kind ≠ .custom config) (noText : kind.accepts (.text "") = false)
    {v : Value} (accepted : kind.accepts v = true) : v.typeName = kind.valueType := by
  refine Decidable.byContradiction fun other => ?_
  rw [((isForeign_iff plain).1 ⟨accepted, other⟩).1] at noText
  cases noText

theorem accepts_text (s t : String) : kind.accepts (.text s) = kind.accepts (.text t) := by
  cases kind <;> rfl

end FieldKind

namespace ObjectAccessor

variable {a : ObjectAccessor} {o : PropertyObject} {f : FieldDef} {raw : Value}

/-! ### What is read -/

/-- A typed answer: nothing, a value of the type of the field, or the refusal of what is stored. -/
def IsTyped (o : PropertyObject) (f : FieldDef) : Except FieldError (Option Value) → Prop
  | .ok none => True
  | .ok (some v) => v.typeName = f.kind.valueType
  | .error err => ∃ raw, o.rawValue? f.name = some raw ∧ err = .typeMismatch f.name f.kind.valueType raw.typeName

theorem get_of_rawValue? (declares : Declares o f) (stored : o.rawValue? f.name = some raw) :
    a.get o f = a.decode o f raw := by
  rw [get_of_declares declares, stored]
  rfl

/-- What a write would accept is read as it is stored. -/
theorem get_of_accepts (plain : f.IsPlain) (declares : Declares o f) (stored : o.rawValue? f.name = some raw)
    (accepted : f.kind.accepts raw = true) : a.get o f = .ok (some raw) := by
  rw [get_of_rawValue? declares stored]
  by_cases text : ∃ s, raw = .text s
  · obtain ⟨s, rfl⟩ := text
    exact decode_text plain accepted a
  · exact decode_of_ne_text (fun s h => text ⟨s, h⟩) accepted a

/-- A text that a write would refuse is resolved into the type of the field, or counts as unset. -/
theorem get_of_refused_text (plain : f.IsPlain) (declares : Declares o f) {s : String}
    (stored : o.rawValue? f.name = some (.text s)) (refused : f.kind.accepts (.text s) = false) :
    ∃ v, a.get o f = .ok v ∧ ∀ w, v = some w → w.typeName = f.kind.valueType := by
  have read : ∃ v, a.decode o f (.text s) = .ok v := by
    cases hk : f.kind with
    | custom config => exact absurd hk (plain config)
    | number =>
      simp only [decode, hk]
      exact ⟨_, rfl⟩
    | boolean =>
      simp only [decode, hk]
      exact ⟨_, rfl⟩
    | date format =>
      simp only [decode, hk]
      exact ⟨_, rfl⟩
    | reference config =>
      simp only [decode, hk]
      exact ⟨_, rfl⟩
    | _ => simp [hk, FieldKind.accepts] at refused
  obtain ⟨v, read⟩ := read
  refine ⟨v, (get_of_rawValue? declares stored).trans read, ?_⟩
  rintro w rfl
  have noText : f.kind.accepts (.text "") = false := (FieldKind.accepts_text "" s).trans refused
  exact FieldKind.typeName_of_accepts plain noText (accepts_of_decode read)

/-- Any other value that a write would refuse is refused. -/
theorem get_of_refused (declares : Declares o f) (stored : o.rawValue? f.name = some raw)
    (text : ∀ s, raw ≠ .text s) (refused : f.kind.accepts raw = false) :
    a.get o f = .error (.typeMismatch f.name f.kind.valueType raw.typeName) := by
  rw [get_of_rawValue? declares stored, decode_of_not_text text, decodePlain, refused]
  rfl

/-- **A read of a field without a codec of its own is typed exactly if no foreign value is stored**; what a write would
accept, foreign or not, is read as it is. -/
theorem isTyped_get_iff (plain : f.IsPlain) (declares : Declares o f) :
    (IsTyped o f (a.get o f) ↔ ∀ raw, o.rawValue? f.name = some raw → ¬ f.kind.IsForeign raw) ∧
      ∀ raw, o.rawValue? f.name = some raw → f.kind.accepts raw = true → a.get o f = .ok (some raw) := by
  refine ⟨?_, fun raw stored => get_of_accepts plain declares stored⟩
  cases stored : o.rawValue? f.name with
  | none =>
    have unset : a.get o f = .ok none := by
      rw [get_of_declares declares, stored]
      rfl
    rw [unset]
    exact iff_of_true trivial (by simp)
  | some raw =>
    simp only [Option.some.injEq, forall_eq']
    cases accepted : f.kind.accepts raw with
    | true =>
      rw [get_of_accepts plain declares stored accepted, FieldKind.IsForeign, IsTyped]
      simp [accepted]
    | false =>
      -- what is refused is not foreign, and the answer is typed
      refine iff_of_true ?_ fun foreign => Bool.false_ne_true (accepted.symm.trans foreign.1)
      by_cases text : ∃ s, raw = .text s
      · obtain ⟨s, rfl⟩ := text
        obtain ⟨v, read, typed⟩ := get_of_refused_text (a := a) plain declares stored accepted
        rw [read]
        cases v with
        | none => trivial
        | some w => exact typed w rfl
      · rw [get_of_refused declares stored (fun s h => text ⟨s, h⟩) accepted]
        exact ⟨raw, stored, rfl⟩

/-- The title of a page, of which a host stored two parts in a list. -/
def listedPage : PropertyObject := (Restriction.bare.setProperty "title" (some (.list ["Sand", "Box"]))).2

/-- The labels of a page, of which a host stored two in a list. -/
def labelledPage : PropertyObject := (Restriction.bare.setProperty "labels" (some (.list ["new", "hot"]))).2

theorem isTyped_get_iff_labels :
    Restriction.labels.IsPlain ∧ Declares labelledPage Restriction.labels ∧
      labelledPage.rawValue? Restriction.labels.name = some (.list ["new", "hot"]) ∧
      IsTyped labelledPage Restriction.labels (get {} labelledPage Restriction.labels) := by
  have plain : Restriction.labels.IsPlain := fun _ h => by cases h
  have declares : Declares labelledPage Restriction.labels := ⟨rfl, by decide⟩
  have stored : labelledPage.rawValue? Restriction.labels.name = some (.list ["new", "hot"]) := by decide
  refine ⟨plain, declares, stored, (isTyped_get_iff plain declares).1.2 fun raw held => ?_⟩
  obtain rfl := Option.some.inj (stored.symm.trans held)
  exact fun foreign => foreign.2 rfl

/-- A list that a host stored for a title, which holds a text, is read as a list. -/
theorem not_isTyped_get_listedTitle :
    ¬ ∀ (a : ObjectAccessor) (o : PropertyObject) (f : FieldDef), f.IsPlain → Declares o f →
      IsTyped o f (a.get o f) := by
  intro h
  have plain : Restriction.pageTitle.IsPlain := fun _ h => by cases h
  have declares : Declares listedPage Restriction.pageTitle := ⟨rfl, by decide⟩
  have stored : listedPage.rawValue? Restriction.pageTitle.name = some (.list ["Sand", "Box"]) := by decide
  have read : get {} listedPage Restriction.pageTitle = .ok (some (.list ["Sand", "Box"])) :=
    get_of_accepts plain declares stored rfl
  have answer := h {} listedPage Restriction.pageTitle plain declares
  rw [read] at answer
  have typed : "list" = "text" := answer
  exact absurd typed (by decide)

/-! ### What a write leaves -/

/-- A write puts lists and texts into the form of the field. -/
theorem not_isForeign_of_encode (plain : f.IsPlain) {v : Value} (stored : a.encode o f v = some raw) :
    ¬ f.kind.IsForeign raw := by
  rw [FieldKind.isForeign_iff plain]
  rintro ⟨-, ⟨multi, s, rfl⟩ | ⟨single, items, rfl⟩⟩
  · -- where several values can be selected, texts and lists become lists and nothing becomes a text
    have kind : f.kind.isMultiSelect = true → ∀ w : Value, a.encodeSingle o f w = w := by
      intro multi w
      cases hk : f.kind with
      | list config => simp only [encodeSingle, hk]
      | _ => simp [hk, FieldKind.isMultiSelect, FieldKind.listConfig?] at multi
    cases v with
    | text t => simp [encode, multi] at stored
    | list items =>
      rw [encode, if_pos multi] at stored
      split at stored <;> cases stored
    | _ =>
      rw [encode_single (by simp) (by simp), kind multi] at stored
      cases stored
  · cases v with
    | text t =>
      rw [encode, if_neg (by simp [single]), encodeSingle_of_ne_reference plain (by simp)] at stored
      cases stored
    | list items => simp [encode, single] at stored
    | reference r =>
      rw [encode_single (by simp) (by simp)] at stored
      unfold encodeSingle at stored
      split at stored <;> cases stored
    | _ =>
      rw [encode_single (by simp) (by simp), encodeSingle_of_ne_reference plain (by simp)] at stored
      cases stored

/-- **What was written through an accessor is read typed**, whatever was written and however it is read. -/
theorem isTyped_get_of_set {b : ObjectAccessor} {o' : PropertyObject} {v : Option Value} {changed : Bool}
    (plain : f.IsPlain) (set : a.set o f v = .ok (changed, o')) : IsTyped o' f (b.get o' f) := by
  obtain ⟨declares, stored, raw, -, rfl⟩ := set_eq_ok_iff.1 set
  refine (isTyped_get_iff plain ((declares_congr (o.alike_setProperty f.name stored) f).2 declares)).1.2 ?_
  intro held there
  rw [PropertyObject.rawValue?_setProperty declares.2] at there
  subst there
  obtain ⟨w, rfl⟩ : ∃ w, v = some w := by
    cases v with
    | none => cases raw
    | some w => exact ⟨w, rfl⟩
  cases blank : w.isBlank with
  | true =>
    rw [rawOf_of_blank blank] at raw
    cases raw
  | false => exact not_isForeign_of_encode plain (rawOf_eq_ok blank raw).2.symm

end ObjectAccessor

end TypedWiki
