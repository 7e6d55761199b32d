import TypedWiki.Object.Access
import TypedWiki.Proofs.Reference.RoundTrip

/-!
# Reading back — what a field gives after a value was written to it

Encoding and decoding are two case distinctions of their own, with the blank values taken out in front.

* `FieldDef.IsPlain`: a field without a codec of its own.
* `ObjectAccessor.canonical`: the form in which a value is read back.
* `decode_encode`: decoding what was encoded gives this form.
* `get_set`: a write that succeeds is read back in this form.
-/

namespace TypedWiki

/-- A field without a codec of its own. -/
def FieldDef.IsPlain (f : FieldDef) : Prop := ∀ config, f.kind ≠ .custom config

namespace ObjectAccessor

/-- The form of a value that is not blank after it was written to a field in a mode, on an object of a document. -/
def canonicalValue (mode : ReferenceMode) (base : DocumentRef) (kind : FieldKind) : Value → Value
  | .text s => if kind.isMultiSelect then .list [s] else .text s
  | .list items => if kind.isMultiSelect then .list (keptItems items) else .text (Value.joinItems items)
  | .reference r =>
    match kind with
    | .reference config => .reference (r.arrival (config.mode.getD mode) base)
    | _ => .reference r
  | v => v

/-- The form in which a value written to a field is read back; none for a blank value. -/
def canonical (mode : ReferenceMode) (base : DocumentRef) (kind : FieldKind) (v : Value) : Option Value :=
  if v.isBlank then none else some (canonicalValue mode base kind v)

section Kinds

variable {o : PropertyObject} {f : FieldDef} {s : String} {items : List String} {v : Value} {platform : Platform}

/-! ### Stored values -/

/-- A text is read as it is stored where a field accepts texts. -/
theorem decode_text (plain : f.IsPlain) (accepts : f.kind.accepts (.text s) = true) (a : ObjectAccessor) :
    a.decode o f (.text s) = .ok (some (.text s)) := by
  cases hk : f.kind with
  | text size => simp [decode, decodePlain, hk, FieldKind.accepts]
  | largeText => simp [decode, decodePlain, hk, FieldKind.accepts]
  | list config => simp [decode, decodePlain, hk, FieldKind.accepts]
  | custom config => exact absurd hk (plain config)
  | _ => simp [hk, FieldKind.accepts] at accepts

/-- Every other value is read as it is stored where its field accepts it. -/
theorem decode_of_ne_text (h : ∀ s, v ≠ .text s) (accepts : f.kind.accepts v = true) (a : ObjectAccessor) :
    a.decode o f v = .ok (some v) := by
  rw [decode_of_not_text h, decodePlain, if_pos accepts]

/-- Only references are stored in another form. -/
theorem encodeSingle_of_ne_reference (plain : f.IsPlain) (h : ∀ r, v ≠ .reference r) (a : ObjectAccessor) :
    a.encodeSingle o f v = v := by
  unfold encodeSingle
  cases hk : f.kind with
  | custom config => exact absurd hk (plain config)
  | reference config =>
    cases v with
    | reference r => exact absurd rfl (h r)
    | _ => rfl
  | _ => rfl

/-! ### Texts and lists -/

theorem accepts_list_eq (plain : f.IsPlain) : f.kind.accepts (.list items) = f.kind.accepts (.text s) := by
  cases hk : f.kind with
  | custom config => exact absurd hk (plain config)
  | _ => rfl

/-- A text comes back as it is, from a multiple selection as the list of it. -/
theorem reading_encode_text (plain : f.IsPlain) (accepts : f.kind.accepts (.text s) = true) (a b : ObjectAccessor) :
    b.reading o f (a.encode o f (.text s)) = .ok (some (if f.kind.isMultiSelect then .list [s] else .text s)) := by
  rw [encode]
  by_cases multi : f.kind.isMultiSelect = true
  · rw [if_pos multi, if_pos multi]
    exact decode_of_ne_text (by simp) ((accepts_list_eq plain).trans accepts) b
  · rw [if_neg multi, if_neg multi, encodeSingle_of_ne_reference plain (by simp)]
    exact decode_text plain accepts b

/-- A list that is not blank comes back as one text, from a multiple selection as its items that are not blank. -/
theorem reading_encode_list (plain : f.IsPlain) (accepts : f.kind.accepts (.list items) = true)
    (blank : (Value.list items).isBlank = false) (a b : ObjectAccessor) :
    b.reading o f (a.encode o f (.list items)) =
      .ok (some (if f.kind.isMultiSelect then .list (keptItems items) else .text (Value.joinItems items))) := by
  rw [encode]
  by_cases multi : f.kind.isMultiSelect = true
  · have kept : keptItems items ≠ [] := by
      intro none
      have all : items.all Text.isBlank = true := by simpa [keptItems] using none
      rw [Value.isBlank, all] at blank
      cases blank
    rw [if_pos multi, if_neg kept, if_pos multi]
    have text : f.kind.accepts (.text "") = true := (accepts_list_eq plain).symm.trans accepts
    exact decode_of_ne_text (by simp) ((accepts_list_eq plain).trans text) b
  · rw [if_neg multi, if_neg multi]
    exact decode_text plain ((accepts_list_eq plain).symm.trans accepts) b

/-! ### References -/

/-- A reference comes back relative to the document of the object. -/
theorem reading_encode_reference {config : ReferenceConfig} {r : DocumentRef} (kind : f.kind = .reference config)
    (h : r.Unambiguous) (mode mode' : ReferenceMode) :
    reading { mode := mode', platform := platform } o f
        (encode { mode := mode, platform := platform } o f (.reference r)) =
      .ok (some (.reference (r.arrival (config.mode.getD mode) o.document))) := by
  have stored : encode { mode := mode, platform := platform } o f (.reference r) =
      some (.text (r.serialize (config.mode.getD mode) (some o.document))) := by
    simp only [encode, encodeSingle, kind, referenceCodec]
    rfl
  have read : DocumentRef.parse (r.serialize (config.mode.getD mode) (some o.document)) (some o.document) =
      .ok (r.arrival (config.mode.getD mode) o.document) := DocumentRef.parse_serialize h _ _
  rw [stored]
  simp only [reading, decode, kind, referenceCodec, Codec.reference, ReferenceResolver.plain, read]
  rfl

/-! ### All values -/

theorem encode_single (text : ∀ s, v ≠ .text s) (list : ∀ items, v ≠ .list items) (a : ObjectAccessor) :
    a.encode o f v = some (a.encodeSingle o f v) := by
  cases v with
  | text s => exact absurd rfl (text s)
  | list items => exact absurd rfl (list items)
  | _ => rfl

/-- A value other than a reference comes back in the canonical form, whatever the accessors. -/
theorem reading_encode_of_ne_reference (plain : f.IsPlain) (accepts : f.kind.accepts v = true)
    (blank : v.isBlank = false) (single : ∀ r, v ≠ .reference r) (a b : ObjectAccessor) (mode : ReferenceMode)
    (base : DocumentRef) : b.reading o f (a.encode o f v) = .ok (some (canonicalValue mode base f.kind v)) := by
  by_cases text : ∃ s, v = .text s
  · obtain ⟨s, rfl⟩ := text
    exact reading_encode_text plain accepts a b
  by_cases list : ∃ items, v = .list items
  · obtain ⟨items, rfl⟩ := list
    exact reading_encode_list plain accepts blank a b
  -- a value of any other type is stored and read as it is
  have ne_text : ∀ s, v ≠ .text s := fun s h => text ⟨s, h⟩
  have ne_list : ∀ items, v ≠ .list items := fun items h => list ⟨items, h⟩
  have same : canonicalValue mode base f.kind v = v := by
    cases v with
    | text s => exact absurd rfl (ne_text s)
    | list items => exact absurd rfl (ne_list items)
    | reference r => exact absurd rfl (single r)
    | _ => rfl
  rw [encode_single ne_text ne_list, encodeSingle_of_ne_reference plain single, same]
  exact decode_of_ne_text ne_text accepts b

/-- Decoding what was encoded gives the canonical form. -/
theorem reading_encode (plain : f.IsPlain) (accepts : f.kind.accepts v = true) (blank : v.isBlank = false)
    (unambiguous : ∀ r, v = .reference r → r.Unambiguous) (mode mode' : ReferenceMode) :
    reading { mode := mode', platform := platform } o f (encode { mode := mode, platform := platform } o f v) =
      .ok (some (canonicalValue mode o.document f.kind v)) := by
  by_cases reference : ∃ r, v = .reference r
  · obtain ⟨r, rfl⟩ := reference
    cases hk : f.kind with
    | reference config => exact reading_encode_reference hk (unambiguous r rfl) mode mode'
    | custom config => exact absurd hk (plain config)
    | _ => simp [hk, FieldKind.accepts] at accepts
  · exact reading_encode_of_ne_reference plain accepts blank (fun r h => reference ⟨r, h⟩) _ _ mode o.document

/-- A value that a field accepts can be stored, and what is stored is read in the canonical form. -/
theorem exists_rawOf_eq_ok (plain : f.IsPlain) (accepts : f.kind.accepts v = true)
    (unambiguous : ∀ r, v = .reference r → r.Unambiguous) (mode mode' : ReferenceMode) (o : PropertyObject) :
    ∃ raw, rawOf { mode := mode, platform := platform } o f (some v) = .ok raw ∧
      reading { mode := mode', platform := platform } o f raw = .ok (canonical mode o.document f.kind v) := by
  rw [canonical]
  cases blank : v.isBlank with
  | true => exact ⟨none, rawOf_of_blank blank _ o f, rfl⟩
  | false => exact ⟨_, rawOf_of_accepts blank accepts _ o, reading_encode plain accepts blank unambiguous mode mode'⟩

end Kinds

/-- **A write that succeeds is read back in the canonical form**, whatever the modes of writing and reading. -/
theorem get_set {o o' : PropertyObject} {f : FieldDef} {v : Value} {changed : Bool} {mode mode' : ReferenceMode}
    {platform : Platform} (plain : f.IsPlain)
    (set : ObjectAccessor.set { mode := mode, platform := platform } o f (some v) = .ok (changed, o'))
    (unambiguous : ∀ r, v = .reference r → r.Unambiguous) :
    get { mode := mode', platform := platform } o' f = .ok (canonical mode o.document f.kind v) := by
  obtain ⟨raw, hraw, hget⟩ := get_of_set (b := { mode := mode', platform := platform }) set
  rw [hget]
  cases blank : v.isBlank with
  | true =>
    have none : Value.normalizeBlank (some v) = none := by simp [Value.normalizeBlank, Option.filter, blank]
    simp only [rawOf, none, Except.ok.injEq] at hraw
    rw [← hraw, canonical, if_pos blank]
    rfl
  | false =>
    have some : Value.normalizeBlank (some v) = some v := by simp [Value.normalizeBlank, Option.filter, blank]
    simp only [rawOf, some, FieldDef.checkAccepts, bind, Except.bind] at hraw
    by_cases accepts : f.kind.accepts v = true
    · simp only [accepts, if_true, Except.ok.injEq] at hraw
      rw [← hraw, canonical, blank]
      exact reading_encode plain accepts blank unambiguous mode mode'
    · simp [accepts] at hraw

/-- The author of a post, whose wiki is not written. -/
def author : FieldDef := FieldDef.make ⟨"Blog", "PostClass"⟩ "author" (.reference { mode := some .inWiki })

/-- A post without an author. -/
def anonymousPost : PropertyObject :=
  PropertyObject.create ⟨"xwiki", "Blog", "Post"⟩ ⟨author.classRef, .standard, false, [author]⟩ 0 0

theorem get_set_author :
    ∃ o', set { mode := .compact } anonymousPost author (some (.reference ⟨"de", "Users", "Ada"⟩)) = .ok (true, o') ∧
      (⟨"de", "Users", "Ada"⟩ : DocumentRef).Unambiguous ∧
      get { mode := .global } o' author = .ok (some (.reference ⟨"xwiki", "Users", "Ada"⟩)) := by
  have plain : author.IsPlain := by
    intro config h
    cases h
  have unambiguous : (⟨"de", "Users", "Ada"⟩ : DocumentRef).Unambiguous := by
    refine ⟨by decide, by decide, by decide, by decide, by decide, by decide, by decide, ?_, ?_, ?_⟩ <;>
      exact ⟨by decide, by decide⟩
  obtain ⟨o', written⟩ : ∃ o', set { mode := .compact } anonymousPost author
      (some (.reference ⟨"de", "Users", "Ada"⟩)) = .ok (true, o') := ⟨_, rfl⟩
  exact ⟨o', written, unambiguous, get_set plain written fun r h => Value.reference.inj h ▸ unambiguous⟩

end ObjectAccessor

end TypedWiki
