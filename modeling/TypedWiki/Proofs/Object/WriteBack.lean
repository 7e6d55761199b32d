import TypedWiki.Proofs.Object.CustomField
import TypedWiki.Proofs.Query.Findable

/-!
# Writing back — which stored values are kept when a field is given what it holds

A host can store any raw value.  Reading decodes it, and a write compares what it would store with the raw value that
is there, so giving a field its own value back changes the object wherever a write stores this value in another form.

* `ObjectAccessor.IsStoredForm`: the raw values in the form in which a write leaves what they are read as.
* `rawOf_of_decode`: what is read is always accepted by a write.
* `storedValue_of_decode_iff`: decoding and encoding again gives the raw value exactly if it is in this form.
* `set_get_unchanged_iff`: a field keeps its raw value exactly if it is in this form.
* `set_get_set`: after a write through an accessor it is, for fields that store neither references nor custom values.
* `not_set_get_textNumber`: a number that a host stored as text is not kept.
-/

namespace TypedWiki

/-- A truth value, a number or a point in time. -/
def Value.IsScalar : Value → Prop
  | .bool _ => True
  | .int _ => True
  | .date _ => True
  | _ => False

namespace ObjectAccessor

/-- Whether a raw value is in the form in which writing what it is read as leaves it: texts that are not blank where one
text is held, lists without blank items where several can be selected, and texts that their codec writes again. -/
def IsStoredForm (a : ObjectAccessor) (o : PropertyObject) (f : FieldDef) : Value → Prop
  | .text s =>
    match f.kind with
    | .text _ => Text.isBlank s = false
    | .largeText => Text.isBlank s = false
    | .list config => config.multiSelect = false ∧ Text.isBlank s = false
    | .reference _ => (a.referenceCodec o f.kind).canonical? s = some s
    | .custom config => ∃ v, config.codec.resolve s = some v ∧ v.isBlank = false ∧ customText config.codec v = s
    | _ => False
  | .list items => f.kind.isMultiSelect = true ∧ items ≠ [] ∧ ∀ i ∈ items, Text.isBlank i = false
  | .reference _ => False
  | raw => f.IsPlain ∧ f.kind.accepts raw = true

section Raw

variable {a : ObjectAccessor} {o : PropertyObject} {f : FieldDef} {raw : Value} {v : Option Value}

/-! ### What is read is accepted -/

/-- Every value that is read from a field is of a type that the field accepts. -/
theorem accepts_of_decode {w : Value} (h : a.decode o f raw = .ok (some w)) : f.kind.accepts w = true := by
  have plain : decodePlain f raw = .ok (some w) → f.kind.accepts w = true := by
    intro h
    rw [decodePlain] at h
    split at h
    · rename_i accepts
      cases h
      exact accepts
    · cases h
  -- a text is resolved into the type of its field, every other value stays as it is
  unfold decode at h
  split at h
  case h_1 config s hk =>
    obtain ⟨r, -, rfl⟩ := Option.map_eq_some_iff.1 (Except.ok.inj h)
    rw [hk]
    rfl
  case h_2 config s hk =>
    rw [hk]
    rfl
  case h_3 s hk =>
    obtain ⟨n, -, rfl⟩ := Option.map_eq_some_iff.1 (Except.ok.inj h)
    rw [hk]
    rfl
  case h_4 s hk =>
    obtain ⟨b, -, rfl⟩ := Option.map_eq_some_iff.1 (Except.ok.inj h)
    rw [hk]
    rfl
  case h_5 format s hk =>
    obtain ⟨t, -, rfl⟩ := Option.map_eq_some_iff.1 (Except.ok.inj h)
    rw [hk]
    rfl
  case h_6 => exact plain h

/-- What a write stores of a value that the field accepts: nothing of a blank one, any other encoded. -/
def storedValue (a : ObjectAccessor) (o : PropertyObject) (f : FieldDef) (v : Option Value) : Option Value :=
  (Value.normalizeBlank v).bind (a.encode o f)

theorem storedValue_some (a : ObjectAccessor) (o : PropertyObject) (f : FieldDef) (w : Value) :
    a.storedValue o f (some w) = if w.isBlank then none else a.encode o f w := by
  rw [storedValue, Value.normalizeBlank_some]
  split <;> rfl

/-- What is read can be written. -/
theorem rawOf_of_decode (h : a.decode o f raw = .ok v) : a.rawOf o f v = .ok (a.storedValue o f v) := by
  cases v with
  | none => rfl
  | some w =>
    rw [storedValue_some]
    cases blank : w.isBlank with
    | true => exact rawOf_of_blank blank a o f
    | false => exact rawOf_of_accepts blank (accepts_of_decode h) a o

/-! ### What is read is stored as it was -/

/-- A text comes back as the same text where one text is held, unless it is blank. -/
theorem storedValue_text_iff (plain : f.IsPlain) {s : String} :
    a.storedValue o f (some (.text s)) = some (.text s) ↔ f.kind.isMultiSelect = false ∧ Text.isBlank s = false := by
  rw [storedValue_some, Value.isBlank, encode, encodeSingle_of_ne_reference plain (by simp)]
  by_cases blank : Text.isBlank s = true
  · simp [blank]
  · by_cases multi : f.kind.isMultiSelect = true <;> simp [blank, multi]

/-- A list comes back as the same list where several values can be selected and no item is blank. -/
theorem storedValue_list_iff {items : List String} :
    a.storedValue o f (some (.list items)) = some (.list items) ↔
      f.kind.isMultiSelect = true ∧ items ≠ [] ∧ ∀ i ∈ items, Text.isBlank i = false := by
  have all : keptItems items = items ↔ ∀ i ∈ items, Text.isBlank i = false := by
    rw [keptItems, List.filter_eq_self]
    simp only [Bool.not_eq_true']
  rw [storedValue_some, encode, ← all]
  by_cases multi : f.kind.isMultiSelect = true
  · rw [if_pos multi]
    constructor
    · intro h
      split at h
      · cases h
      · split at h
        · cases h
        · rename_i ne
          have same : keptItems items = items := by simpa using h
          exact ⟨multi, same ▸ ne, same⟩
    · rintro ⟨-, ne, same⟩
      have visible : (Value.list items).isBlank = false := by
        obtain ⟨item, hitem⟩ := List.exists_mem_of_ne_nil items ne
        exact List.all_eq_false.2 ⟨item, hitem, by simp [all.1 same item hitem]⟩
      rw [visible, same, if_neg ne]
      rfl
  · rw [if_neg multi]
    refine iff_of_false (fun h => ?_) fun h => multi h.1
    split at h <;> cases h

/-- Scalar values are stored as they are in fields without a codec of their own. -/
theorem storedValue_of_isScalar {w : Value} (plain : f.IsPlain) (scalar : w.IsScalar) :
    a.storedValue o f (some w) = some w := by
  have text : ∀ s, w ≠ .text s := by
    rintro s rfl
    exact scalar
  have list : ∀ items, w ≠ .list items := by
    rintro items rfl
    exact scalar
  have reference : ∀ r, w ≠ .reference r := by
    rintro r rfl
    exact scalar
  have blank : w.isBlank = false := by
    cases w with
    | text s => exact absurd rfl (text s)
    | list items => exact absurd rfl (list items)
    | _ => rfl
  rw [storedValue_some, blank, encode_single text list, encodeSingle_of_ne_reference plain reference]
  rfl

/-- So no text comes back from them. -/
theorem storedValue_map_ne_text {α : Type} {g : α → Value} (plain : f.IsPlain) (scalar : ∀ x, (g x).IsScalar)
    (x : Option α) (s : String) : a.storedValue o f (x.map g) ≠ some (.text s) := by
  cases x with
  | none => simp [storedValue, Value.normalizeBlank]
  | some x =>
    rw [Option.map_some, storedValue_of_isScalar plain (scalar x), ne_eq, Option.some.injEq]
    intro h
    have := scalar x
    rw [h] at this
    exact this

/-- A custom field stores a text, whatever it is given. -/
theorem storedValue_custom_iff {config : CustomConfig} (custom : f.kind = .custom config) :
    a.storedValue o f v = some raw ↔
      ∃ w, v = some w ∧ w.isBlank = false ∧ raw = .text (customText config.codec w) := by
  cases v with
  | none => simp [storedValue, Value.normalizeBlank]
  | some w =>
    rw [storedValue_some, encode_custom custom]
    by_cases blank : w.isBlank = true
    · simp [blank]
    · simp only [blank, Bool.false_eq_true, if_false, Option.some.injEq, exists_eq_left', true_and]
      exact eq_comm

/-- A reference field stores the text of a reference. -/
theorem storedValue_reference_iff {config : ReferenceConfig} (kind : f.kind = .reference config)
    {r : Option DocumentRef} :
    a.storedValue o f (r.map .reference) = some raw ↔
      (r.map (a.referenceCodec o f.kind).serialize).map .text = some raw := by
  cases r with
  | none => rfl
  | some r =>
    have encoded : a.encode o f (.reference r) = some (.text ((a.referenceCodec o f.kind).serialize r)) := by
      simp only [encode, encodeSingle, kind]
    rw [Option.map_some, storedValue_some, encoded]
    rfl

/-- A value of another type than text is read only where the field accepts it, and then as it is. -/
theorem eq_of_decode_of_ne_text (text : ∀ s, raw ≠ .text s) (h : a.decode o f raw = .ok v) :
    f.kind.accepts raw = true ∧ v = some raw := by
  rw [decode_of_not_text text, decodePlain] at h
  split at h
  · rename_i accepts
    cases h
    exact ⟨accepts, rfl⟩
  · cases h

/-- In custom fields scalar values are not stored as they are. -/
theorem storedValue_scalar_iff (scalar : raw.IsScalar) : a.storedValue o f (some raw) = some raw ↔ f.IsPlain := by
  by_cases plain : f.IsPlain
  · exact iff_of_true (storedValue_of_isScalar plain scalar) plain
  · obtain ⟨config, custom⟩ := Classical.not_forall_not.1 plain
    rw [storedValue_custom_iff custom]
    refine iff_of_false ?_ plain
    rintro ⟨w, -, -, rfl⟩
    exact scalar

theorem isStoredForm_text_iff (plain : f.IsPlain) {s : String} (accepts : f.kind.accepts (.text s) = true) :
    a.IsStoredForm o f (.text s) ↔ f.kind.isMultiSelect = false ∧ Text.isBlank s = false := by
  cases hk : f.kind with
  | text size => simp [IsStoredForm, hk, FieldKind.isMultiSelect, FieldKind.listConfig?]
  | largeText => simp [IsStoredForm, hk, FieldKind.isMultiSelect, FieldKind.listConfig?]
  | list config => simp [IsStoredForm, hk, FieldKind.isMultiSelect, FieldKind.listConfig?]
  | custom config => exact absurd hk (plain config)
  | _ => simp [hk, FieldKind.accepts] at accepts

theorem isStoredForm_scalar_iff (scalar : raw.IsScalar) :
    a.IsStoredForm o f raw ↔ f.IsPlain ∧ f.kind.accepts raw = true := by
  cases raw with
  | bool b => rfl
  | int n => rfl
  | date t => rfl
  | _ => exact absurd scalar id

/-- The text of a value that was read comes back as the same text where it is in the stored form. -/
theorem storedValue_of_decode_text_iff {s : String} (h : a.decode o f (.text s) = .ok v) :
    a.storedValue o f v = some (.text s) ↔ a.IsStoredForm o f (.text s) := by
  have holdsText : f.IsPlain → f.kind.accepts (.text s) = true →
      (a.storedValue o f v = some (.text s) ↔ a.IsStoredForm o f (.text s)) := by
    intro plain accepts
    rw [decode_text plain accepts, Except.ok.injEq] at h
    rw [← h, isStoredForm_text_iff plain accepts]
    exact storedValue_text_iff plain
  cases hk : f.kind with
  | text size => exact holdsText (by simp [FieldDef.IsPlain, hk]) (by rw [hk]; rfl)
  | largeText => exact holdsText (by simp [FieldDef.IsPlain, hk]) (by rw [hk]; rfl)
  | list config => exact holdsText (by simp [FieldDef.IsPlain, hk]) (by rw [hk]; rfl)
  | number =>
    simp only [decode, hk, Except.ok.injEq] at h
    simp only [IsStoredForm, hk, iff_false, ← h]
    exact storedValue_map_ne_text (by simp [FieldDef.IsPlain, hk]) (fun _ => by trivial) _ s
  | boolean =>
    simp only [decode, hk, Except.ok.injEq] at h
    simp only [IsStoredForm, hk, iff_false, ← h]
    exact storedValue_map_ne_text (by simp [FieldDef.IsPlain, hk]) (fun _ => by trivial) _ s
  | date format =>
    simp only [decode, hk, Except.ok.injEq] at h
    simp only [IsStoredForm, hk, iff_false, ← h]
    exact storedValue_map_ne_text (by simp [FieldDef.IsPlain, hk]) (fun _ => by trivial) _ s
  | reference config =>
    have read : v = ((a.referenceCodec o f.kind).resolve s).map .reference := by
      simp only [decode, hk, Except.ok.injEq] at h
      rw [hk, h]
    rw [read, storedValue_reference_iff hk]
    simp [IsStoredForm, hk, Codec.canonical?]
  | custom config =>
    rw [decode_custom hk, Except.ok.injEq] at h
    rw [storedValue_custom_iff hk, ← h]
    simp only [IsStoredForm, hk, Value.text.injEq, eq_comm (a := s)]

/-- A reference that a host stored as such is written as text. -/
theorem storedValue_reference_ne (r : DocumentRef) (accepts : f.kind.accepts (.reference r) = true) :
    a.storedValue o f (some (.reference r)) ≠ some (.reference r) := by
  intro stored
  cases hk : f.kind with
  | reference config =>
    have text := (storedValue_reference_iff (r := some r) hk).1 stored
    cases text
  | custom config =>
    obtain ⟨w, -, -, same⟩ := (storedValue_custom_iff hk).1 stored
    cases same
  | _ => simp [hk, FieldKind.accepts] at accepts

/-- Reading and writing back gives the raw value exactly if it is in the stored form. -/
theorem storedValue_of_decode_iff (h : a.decode o f raw = .ok v) :
    a.storedValue o f v = some raw ↔ a.IsStoredForm o f raw := by
  by_cases text : ∃ s, raw = .text s
  · obtain ⟨s, rfl⟩ := text
    exact storedValue_of_decode_text_iff h
  obtain ⟨accepts, rfl⟩ := eq_of_decode_of_ne_text (fun s hs => text ⟨s, hs⟩) h
  by_cases scalar : raw.IsScalar
  · rw [storedValue_scalar_iff scalar, isStoredForm_scalar_iff scalar, and_iff_left accepts]
  cases raw with
  | text s => exact absurd ⟨s, rfl⟩ text
  | list items => exact storedValue_list_iff
  | reference r => exact iff_of_false (storedValue_reference_ne r accepts) id
  | _ => exact absurd trivial scalar

/-! ### What a write stores is in the stored form -/

/-- Fields that store neither references nor custom values only store what is in the stored form. -/
theorem isStoredForm_of_rawOf {w : Option Value} (literal : f.IsLiteral) (h : a.rawOf o f w = .ok (some raw)) :
    a.IsStoredForm o f raw := by
  obtain ⟨w, rfl⟩ : ∃ w', w = some w' := by
    cases w with
    | none => cases h
    | some w => exact ⟨w, rfl⟩
  have blank : w.isBlank = false := by
    refine Bool.eq_false_iff.2 fun blank => ?_
    rw [rawOf_of_blank blank] at h
    cases h
  obtain ⟨accepts, stored⟩ := rawOf_eq_ok blank h
  cases w with
  | text s =>
    rw [encode, encodeSingle_of_ne_reference literal.1 (by simp)] at stored
    split at stored
    · rename_i multi
      obtain rfl := Option.some.inj stored
      exact ⟨multi, List.cons_ne_nil s [], fun i hi => List.mem_singleton.1 hi ▸ blank⟩
    · rename_i multi
      obtain rfl := Option.some.inj stored
      exact (isStoredForm_text_iff literal.1 accepts).2 ⟨Bool.eq_false_iff.2 multi, blank⟩
  | list items =>
    rw [encode] at stored
    split at stored
    · rename_i multi
      split at stored
      · cases stored
      · rename_i kept
        obtain rfl := Option.some.inj stored
        exact ⟨multi, kept, fun i hi => by simpa using (List.mem_filter.1 hi).2⟩
    · rename_i multi
      obtain rfl := Option.some.inj stored
      have accepts' : f.kind.accepts (.text (Value.joinItems items)) = true :=
        (accepts_list_eq literal.1).symm.trans accepts
      exact (isStoredForm_text_iff literal.1 accepts').2 ⟨Bool.eq_false_iff.2 multi, Value.isBlank_joinItems blank⟩
  | reference r => exact absurd rfl (literal.ne_reference accepts r)
  | _ =>
    rw [encode_single (by simp) (by simp), encodeSingle_of_ne_reference literal.1 (by simp)] at stored
    obtain rfl := Option.some.inj stored
    exact ⟨literal.1, accepts⟩

end Raw

/-! ### Objects -/

section Objects

variable {a : ObjectAccessor} {o : PropertyObject} {f : FieldDef} {v : Option Value}

theorem rawOf_of_get (read : a.get o f = .ok v) : a.rawOf o f v = .ok (a.storedValue o f v) := by
  rw [get_of_declares (declares_of_get read)] at read
  cases hraw : o.rawValue? f.name with
  | none =>
    rw [hraw] at read
    obtain rfl := Except.ok.inj read
    rfl
  | some raw =>
    rw [hraw] at read
    exact rawOf_of_decode read

/-- A field would be given its raw value again exactly if this is in the stored form; an unset field always would. -/
theorem rawValue?_eq_storedValue_iff (read : a.get o f = .ok v) :
    o.rawValue? f.name = a.storedValue o f v ↔
      ∀ raw, o.rawValue? f.name = some raw → a.IsStoredForm o f raw := by
  rw [get_of_declares (declares_of_get read)] at read
  cases hraw : o.rawValue? f.name with
  | none =>
    rw [hraw] at read
    obtain rfl := Except.ok.inj read
    simp [storedValue, Value.normalizeBlank]
  | some raw =>
    rw [hraw] at read
    simp only [Option.some.injEq, forall_eq']
    exact eq_comm.trans (storedValue_of_decode_iff read)

/-- **Giving a field what it holds changes nothing exactly if its raw value is in the stored form.**  The write always
succeeds. -/
theorem set_get_unchanged_iff (read : a.get o f = .ok v) :
    ∃ changed o', a.set o f v = .ok (changed, o') ∧
      (changed = false ↔ ∀ raw, o.rawValue? f.name = some raw → a.IsStoredForm o f raw) ∧
      (o' = o ↔ ∀ raw, o.rawValue? f.name = some raw → a.IsStoredForm o f raw) := by
  have declares := declares_of_get read
  have written := set_eq_ok_iff.2 ⟨declares, _, rawOf_of_get read, rfl, rfl⟩
  refine ⟨_, _, written, ?_, ?_⟩
  · rw [← rawValue?_eq_storedValue_iff read]
    simp
  · rw [← rawValue?_eq_storedValue_iff read]
    constructor
    · intro same
      have stored := PropertyObject.rawValue?_setProperty declares.2 (a.storedValue o f v)
      rw [same] at stored
      exact stored
    · intro same
      rw [← same]
      exact PropertyObject.setProperty_rawValue? declares.2

/-- The target of an entry of a menu. -/
def linkTarget : FieldDef := FieldDef.make ⟨"Menu", "ItemClass"⟩ "target" (.reference {})

/-- The position of an entry of a menu. -/
def position : FieldDef := FieldDef.make ⟨"Menu", "ItemClass"⟩ "position" .number

/-- An entry of a menu for which a host stored its own texts: the target with its wiki, and the position. -/
def importedItem : PropertyObject :=
  let item := PropertyObject.create ⟨"xwiki", "Main", "Menu"⟩
    ⟨linkTarget.classRef, .standard, false, [linkTarget, position]⟩ 0 0
  ((item.setProperty "target" (some (.text "xwiki:Main.Contact"))).2.setProperty "position" (some (.text "7"))).2

theorem set_get_unchanged_iff_importedTarget :
    get {} importedItem linkTarget = .ok (some (.reference ⟨"xwiki", "Main", "Contact"⟩)) ∧
      ∃ changed o', set {} importedItem linkTarget (some (.reference ⟨"xwiki", "Main", "Contact"⟩)) =
          .ok (changed, o') ∧
        (changed = false ↔ ∀ raw, importedItem.rawValue? linkTarget.name = some raw →
          IsStoredForm {} importedItem linkTarget raw) ∧
        (o' = importedItem ↔ ∀ raw, importedItem.rawValue? linkTarget.name = some raw →
          IsStoredForm {} importedItem linkTarget raw) := by
  have read : get {} importedItem linkTarget = .ok (some (.reference ⟨"xwiki", "Main", "Contact"⟩)) := by rfl
  exact ⟨read, set_get_unchanged_iff read⟩

/-- A position that a host stored as text is read as a number, and writing this number stores it as a number. -/
theorem not_set_get_textNumber :
    ¬ ∀ (a : ObjectAccessor) (o : PropertyObject) (f : FieldDef) (v : Option Value),
      a.get o f = .ok v → a.set o f v = .ok (false, o) := by
  intro h
  have read : get {} importedItem position = .ok (some (.int 7)) := by rfl
  obtain ⟨o', written⟩ : ∃ o', set {} importedItem position (some (.int 7)) = .ok (true, o') := ⟨_, rfl⟩
  have unchanged := h {} importedItem position _ read
  rw [written] at unchanged
  cases unchanged

/-- What a write through an accessor left can be read and written back without a change. -/
theorem set_get_set {o' : PropertyObject} {w : Option Value} {changed : Bool} (literal : f.IsLiteral)
    (set : a.set o f w = .ok (changed, o')) (read : a.get o' f = .ok v) : a.set o' f v = .ok (false, o') := by
  refine set_eq_unchanged_iff.2 ⟨declares_of_get read, ?_⟩
  rw [rawOf_of_get read, (rawValue?_eq_storedValue_iff read).2]
  intro raw hraw
  obtain ⟨declares, raw', stored, -, rfl⟩ := set_eq_ok_iff.1 set
  rw [PropertyObject.rawValue?_setProperty declares.2] at hraw
  rw [hraw, ← rawOf_congr (o.alike_setProperty f.name raw')] at stored
  exact isStoredForm_of_rawOf literal stored

end Objects

end ObjectAccessor

end TypedWiki
