import TypedWiki.Object.Access

/-!
# Custom fields — values behind a codec of the field's own

A custom field takes values of every type and stores them as text.  Reading goes through the codec of the field
whatever the text, but a list is written as its joined items and passes the codec by.

* `customText`: the text that a custom field stores.
* `encode_custom`, `decode_custom`: writing and reading of this text.
* `get_set_custom`: what is read back of a value that the codec round-trips.
-/

namespace TypedWiki

namespace ObjectAccessor

/-- The text that a custom field stores: the joined items of a list, and what the codec writes for any other value. -/
def customText (c : Codec Value) : Value → String
  | .list items => Value.joinItems items
  | v => c.serialize v

variable {a : ObjectAccessor} {o o' : PropertyObject} {f : FieldDef} {config : CustomConfig} {v : Value}

theorem customText_of_ne_list (h : ∀ items, v ≠ .list items) (c : Codec Value) : customText c v = c.serialize v := by
  cases v with
  | list items => exact absurd rfl (h items)
  | _ => rfl

theorem encodeSingle_custom (custom : f.kind = .custom config) (v : Value) :
    a.encodeSingle o f v = .text (config.codec.serialize v) := by
  cases v <;> simp only [encodeSingle, custom]

theorem encode_custom (custom : f.kind = .custom config) (v : Value) :
    a.encode o f v = some (.text (customText config.codec v)) := by
  have single : ¬ f.kind.isMultiSelect = true := by
    rw [custom]
    exact Bool.false_ne_true
  cases v with
  | list items => rw [encode, if_neg single, customText]
  | _ => simp [encode, single, encodeSingle_custom custom, customText]

theorem decode_custom (custom : f.kind = .custom config) (s : String) :
    a.decode o f (.text s) = .ok (config.codec.resolve s) := by
  simp only [decode, custom]

/-- A value that is not blank comes back as the codec resolves the text that was stored. -/
theorem get_of_set_custom (custom : f.kind = .custom config) (blank : v.isBlank = false) {changed : Bool}
    (set : a.set o f (some v) = .ok (changed, o')) (b : ObjectAccessor) :
    b.get o' f = .ok (config.codec.resolve (customText config.codec v)) := by
  obtain ⟨raw, hraw, hget⟩ := get_of_set (b := b) set
  obtain ⟨-, rfl⟩ := rawOf_eq_ok blank hraw
  rw [hget, encode_custom custom, reading, decode_custom custom]

/-- **Custom fields read back what their codec round-trips**, unless it is a list: of a list, the codec is given the
joined items. -/
theorem get_set_custom (custom : f.kind = .custom config) (blank : v.isBlank = false)
    (roundTrips : config.codec.RoundTrips v) {changed : Bool} (set : a.set o f (some v) = .ok (changed, o'))
    (b : ObjectAccessor) :
    ((∀ items, v ≠ .list items) → b.get o' f = .ok (some v)) ∧
      ∀ items, v = .list items → b.get o' f = .ok (config.codec.resolve (Value.joinItems items)) := by
  have hget := get_of_set_custom custom blank set b
  constructor
  · intro single
    rw [hget, customText_of_ne_list single, roundTrips]
  · rintro items rfl
    exact hget

/-- Integers in decimal. -/
def integers : CustomConfig := ⟨Codec.int.dynamic, "int"⟩

/-- Lists in JSON. -/
def jsonItems : CustomConfig := ⟨(Codec.json (Json.Form.list Json.Form.string)).dynamic, "list"⟩

/-- The number of visits of a post. -/
def visits : FieldDef := FieldDef.make ⟨"Blog", "PostClass"⟩ "visits" (.custom integers)

/-- The topics of a post. -/
def topics : FieldDef := FieldDef.make ⟨"Blog", "PostClass"⟩ "topics" (.custom jsonItems)

/-- A post without visits and topics. -/
def newPost : PropertyObject :=
  PropertyObject.create ⟨"xwiki", "Blog", "Post"⟩ ⟨visits.classRef, .standard, false, [visits, topics]⟩ 0 0

theorem get_set_custom_visits :
    ∃ o', visits.kind = .custom integers ∧ (Value.int 42).isBlank = false ∧ integers.codec.RoundTrips (.int 42) ∧
      set {} newPost visits (some (.int 42)) = .ok (true, o') ∧ get {} o' visits = .ok (some (.int 42)) := by
  have custom : visits.kind = .custom integers := rfl
  have blank : (Value.int 42).isBlank = false := rfl
  have roundTrips : integers.codec.RoundTrips (.int 42) := by rfl
  obtain ⟨o', written⟩ : ∃ o', set {} newPost visits (some (.int 42)) = .ok (true, o') := ⟨_, rfl⟩
  have read := get_set_custom custom blank roundTrips written {}
  exact ⟨o', custom, blank, roundTrips, written, read.1 (by simp)⟩

/-- The codec of lists in JSON round-trips two topics, but joined by a bar they are no JSON. -/
theorem not_get_set_custom_topics :
    ¬ ∀ (a b : ObjectAccessor) (o o' : PropertyObject) (f : FieldDef) (config : CustomConfig) (v : Value)
      (changed : Bool), f.kind = .custom config → v.isBlank = false → config.codec.RoundTrips v →
        a.set o f (some v) = .ok (changed, o') → b.get o' f = .ok (some v) := by
  intro h
  have custom : topics.kind = .custom jsonItems := rfl
  have blank : (Value.list ["a", "b"]).isBlank = false := by decide
  have roundTrips : jsonItems.codec.RoundTrips (.list ["a", "b"]) := by
    unfold Codec.RoundTrips
    decide +kernel
  have lost : jsonItems.codec.resolve (customText jsonItems.codec (.list ["a", "b"])) = none := by decide +kernel
  obtain ⟨o', written⟩ : ∃ o', set {} newPost topics (some (.list ["a", "b"])) = .ok (true, o') := ⟨_, rfl⟩
  have expected := h {} {} newPost o' topics jsonItems (.list ["a", "b"]) true custom blank roundTrips written
  have read := get_of_set_custom custom blank written {}
  rw [expected, lost] at read
  cases read

end ObjectAccessor

end TypedWiki
