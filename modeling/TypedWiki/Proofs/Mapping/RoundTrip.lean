import TypedWiki.Mapping.Basic
import TypedWiki.Proofs.Object.ReadBack

/-!
# Round trip of records — what a record gives after it was copied to an object and back

Every field is read through one table and written through the other, and either side has a form of its own for what
it holds.  Field by field the two agree; that no field disturbs another one lifts this to the copy of a class.

* `Slot`: a member of records with its type, getter and setter.
* `Mapping.Covers`: a mapping that is set up, with a member of its own and of the right type for every field.
* `MemberType.kept`: what a member of a type has after its value was stored.
* `settles_objects`, `settles_records`: what one write does to an object and to a record.
* `toRecord_applyTo`: what a record gives after it was copied to an object and back.
-/

namespace TypedWiki

open Time (Timestamp)

/-- What is stored of a text. -/
def keptText (s : String) : Option String := if Text.isBlank s then none else some s

/-- What is stored of a list. -/
def keptList (items : List String) : Option (List String) :=
  if ObjectAccessor.keptItems items = [] then none else some (ObjectAccessor.keptItems items)

/-- The types of members behind fields without a codec of their own. -/
inductive MemberType where
  | text
  | int
  | bool
  | date
  | list
  | reference
  deriving DecidableEq, Repr

namespace MemberType

/-- The values of a type. -/
def Carrier : MemberType → Type
  | text => String
  | int => Int64
  | bool => Bool
  | date => Timestamp
  | list => List String
  | reference => DocumentRef

instance instFieldValue : (t : MemberType) → FieldValue t.Carrier
  | text => inferInstanceAs (FieldValue String)
  | int => inferInstanceAs (FieldValue Int64)
  | bool => inferInstanceAs (FieldValue Bool)
  | date => inferInstanceAs (FieldValue Timestamp)
  | list => inferInstanceAs (FieldValue (List String))
  | reference => inferInstanceAs (FieldValue DocumentRef)

instance instDecidableEq : (t : MemberType) → DecidableEq t.Carrier
  | text => inferInstanceAs (DecidableEq String)
  | int => inferInstanceAs (DecidableEq Int64)
  | bool => inferInstanceAs (DecidableEq Bool)
  | date => inferInstanceAs (DecidableEq Timestamp)
  | list => inferInstanceAs (DecidableEq (List String))
  | reference => inferInstanceAs (DecidableEq DocumentRef)

/-- What a member has after its value was stored: no blank text, and of a list the items that are not blank, if there
are any. -/
def kept : (t : MemberType) → Option t.Carrier → Option t.Carrier
  | text, x => x.bind keptText
  | list, x => x.bind keptList
  | _, x => x

end MemberType

/-- The type of the members that match a kind of field: a selection of one value is held as a text. -/
inductive FieldKind.Matches : FieldKind → MemberType → Prop
  | text (size : Option Nat) : Matches (.text size) .text
  | largeText : Matches .largeText .text
  | number : Matches .number .int
  | boolean : Matches .boolean .bool
  | date (format : String) : Matches (.date format) .date
  | multiple {config : ListConfig} (h : config.multiSelect = true) : Matches (.list config) .list
  | single {config : ListConfig} (h : config.multiSelect = false) : Matches (.list config) .text
  | reference (config : ReferenceConfig) : Matches (.reference config) .reference

/-- A member of records: its type, and a setter that its getter reads back. -/
structure Slot (β : Type) where
  type : MemberType
  get : β → Option type.Carrier
  set : β → Option type.Carrier → β
  get_set : ∀ b x, get (set b x) = x

/-- The entry of a member in the table of an accessor. -/
def Slot.member {β : Type} (s : Slot β) : Member β := Member.of s.get s.set

/-- Two records agree on everything that the members behind some fields leave alone. -/
def AgreeBeyond {β : Type} (slot : FieldDef → Slot β) (fs : List FieldDef) (b b' : β) : Prop :=
  ∀ (γ : Type) (view : β → γ), (∀ f ∈ fs, ∀ b x, view ((slot f).set b x) = view b) → view b' = view b

/-- A mapping of a class with everything set: each field has a member of its own, whose type matches the field, and
no reference is stored without a wiki that differs from that of the object. -/
structure Mapping.Covers {β : Type} (m : Mapping β) (c : ClassDef) (blank : β) (slot : FieldDef → Slot β)
    (mode : ReferenceMode) : Prop where
  classDef : m.classDef = some c
  blank : m.blank = some blank
  objects : m.objects = { mode := mode, platform := m.objects.platform }
  member : ∀ f ∈ c.fields, m.records.member f = .ok (slot f).member
  fits : ∀ f ∈ c.fields, f.kind.Matches (slot f).type
  own : ∀ f ∈ c.fields, ∀ g ∈ c.fields, g ≠ f → ∀ b x, (slot g).get ((slot f).set b x) = (slot g).get b
  wiki : ∀ f ∈ c.fields, ∀ config, f.kind = .reference config → config.mode.getD mode ≠ .inWiki

/-! ### Values of members -/

namespace FieldKind.Matches

variable {kind : FieldKind} {t : MemberType}

theorem ne_custom (h : kind.Matches t) (config : CustomConfig) : kind ≠ .custom config := by
  rintro rfl
  cases h

theorem isMultiSelect_list (h : kind.Matches .list) : kind.isMultiSelect = true := by
  cases h with
  | multiple h => simpa [isMultiSelect, listConfig?] using h

theorem isMultiSelect_text (h : kind.Matches .text) : kind.isMultiSelect = false := by
  cases h with
  | single h => simpa [isMultiSelect, listConfig?] using h
  | _ => rfl

theorem accepts_toValue (h : kind.Matches t) (x : t.Carrier) : kind.accepts (FieldValue.toValue x) = true := by
  cases h <;> rfl

/-- A text is read back unless it is blank. -/
theorem canonical_text (h : kind.Matches .text) (mode : ReferenceMode) (base : DocumentRef) (s : String) :
    ObjectAccessor.canonical mode base kind (.text s) = (keptText s).map .text := by
  have held : ObjectAccessor.canonicalValue mode base kind (.text s) = .text s := by
    rw [ObjectAccessor.canonicalValue, h.isMultiSelect_text]
    rfl
  rw [ObjectAccessor.canonical, held, Value.isBlank, keptText]
  split <;> rfl

/-- A list is read back with the items that are not blank, unless there are none. -/
theorem canonical_list (h : kind.Matches .list) (mode : ReferenceMode) (base : DocumentRef) (items : List String) :
    ObjectAccessor.canonical mode base kind (.list items) = (keptList items).map .list := by
  have held : ObjectAccessor.canonicalValue mode base kind (.list items) = .list (ObjectAccessor.keptItems items) := by
    rw [ObjectAccessor.canonicalValue, h.isMultiSelect_list]
    rfl
  have blank : (Value.list items).isBlank = true ↔ ObjectAccessor.keptItems items = [] := by
    simp [Value.isBlank, ObjectAccessor.keptItems]
  simp only [ObjectAccessor.canonical, held, blank, keptList]
  split <;> rfl

/-- What is read back is what the member has after its value was stored. -/
theorem canonical_toValue {mode : ReferenceMode} (h : kind.Matches t)
    (wiki : ∀ config, kind = .reference config → config.mode.getD mode ≠ .inWiki) (base : DocumentRef)
    (x : t.Carrier) :
    ObjectAccessor.canonical mode base kind (FieldValue.toValue x) = (t.kept (some x)).map FieldValue.toValue := by
  cases t with
  | text => exact h.canonical_text mode base x
  | list => exact h.canonical_list mode base x
  | reference =>
    cases h with
    | reference config =>
      have arrives := DocumentRef.arrival_of_ne_inWiki (wiki config rfl) x base
      show some (Value.reference (DocumentRef.arrival x (config.mode.getD mode) base)) = some (Value.reference x)
      rw [arrives]
  | _ => rfl

end FieldKind.Matches

/-- A member takes its own values back. -/
theorem MemberType.typed?_toValue {t : MemberType} (x : Option t.Carrier) :
    Member.typed? (x.map FieldValue.toValue) = .ok x := by
  cases x with
  | none => rfl
  | some x => cases t <;> rfl

/-- Only a text is behind a selection of one value. -/
theorem reduceSelection_toValue {f : FieldDef} {t : MemberType} (h : f.kind.Matches t) (x : Option t.Carrier) :
    RecordAccessor.reduceSelection f (x.map FieldValue.toValue) = x.map FieldValue.toValue := by
  cases x with
  | none => rfl
  | some x =>
    cases t with
    | list => exact RecordAccessor.reduceSelection_of_isMultiSelect h.isMultiSelect_list _
    | _ => rfl

/-! ### Fields -/

namespace Mapping.Covers

variable {β : Type} {m : Mapping β} {c : ClassDef} {blank b : β} {slot : FieldDef → Slot β} {mode : ReferenceMode}
  {o : PropertyObject} {f : FieldDef}

/-- The value of a member can be stored, and is then read as the member has it after that. -/
theorem exists_rawOf (covers : m.Covers c blank slot mode) (hf : f ∈ c.fields) (x : Option (slot f).type.Carrier)
    (unambiguous : ∀ r, x.map FieldValue.toValue = some (.reference r) → r.Unambiguous) (o : PropertyObject) :
    ∃ raw, m.objects.rawOf o f (x.map FieldValue.toValue) = .ok raw ∧
      m.objects.reading o f raw = .ok (((slot f).type.kept x).map FieldValue.toValue) := by
  cases x with
  | none =>
    have unset : (slot f).type.kept none = none := by cases (slot f).type <;> rfl
    rw [unset]
    exact ⟨none, rfl, rfl⟩
  | some x =>
    have fits := covers.fits f hf
    rw [covers.objects, ← fits.canonical_toValue (covers.wiki f hf) o.document x]
    exact ObjectAccessor.exists_rawOf_eq_ok fits.ne_custom (fits.accepts_toValue x)
      (fun r h => unambiguous r (congrArg some h)) mode mode o

/-- Writing a member to its field succeeds on every object of the class, and leaves every other field. -/
theorem settles_objects (covers : m.Covers c blank slot mode)
    (unambiguous : ∀ f ∈ c.fields, ∀ r, (slot f).member.get b = some (.reference r) → r.Unambiguous)
    (created : o.Alike (PropertyObject.create o.document c o.number o.guid)) :
    Settles m.objects.set (fun f => (slot f).member.get b) c.fields (·.Alike o) := by
  intro f hf p alike
  have declares := ObjectAccessor.declares_of_created (alike.trans created) hf
  obtain ⟨raw, hraw, -⟩ := covers.exists_rawOf hf ((slot f).get b) (unambiguous f hf) p
  have written : m.objects.set p f ((slot f).member.get b) =
      .ok (decide (p.rawValue? f.name ≠ raw), (p.setProperty f.name raw).2) :=
    ObjectAccessor.set_eq_ok_iff.2 ⟨declares, raw, hraw, rfl, rfl⟩
  refine ⟨_, _, written, (ObjectAccessor.alike_set written).trans alike, ObjectAccessor.set_again written, ?_⟩
  intro g hg ne held
  exact ObjectAccessor.set_unchanged_of_set held written fun same => ne (ClassDef.eq_of_mem_fields hg hf same.symm)

/-- A field that holds the value of a member is read as the member has it after it was stored. -/
theorem get_of_holds (covers : m.Covers c blank slot mode) (hf : f ∈ c.fields)
    (unambiguous : ∀ r, (slot f).member.get b = some (.reference r) → r.Unambiguous)
    (holds : Holds m.objects.set o f ((slot f).member.get b)) :
    m.objects.get o f = .ok (((slot f).type.kept ((slot f).get b)).map FieldValue.toValue) := by
  obtain ⟨raw, hraw, read⟩ := covers.exists_rawOf hf ((slot f).get b) unambiguous o
  obtain ⟨raw', hraw', get⟩ := ObjectAccessor.get_of_set (b := m.objects) holds
  have same : raw = raw' := Except.ok.inj (hraw.symm.trans hraw')
  rw [get, ← same, read]

theorem set_record (covers : m.Covers c blank slot mode) (hf : f ∈ c.fields) (x : Option (slot f).type.Carrier)
    (b : β) :
    m.records.set b f (x.map FieldValue.toValue) =
      .ok (if (slot f).get b = x then (false, b) else (true, (slot f).set b x)) := by
  refine RecordAccessor.set_of_member (covers.member f hf) ?_ b
  rw [reduceSelection_toValue (covers.fits f hf)]
  exact MemberType.typed?_toValue x

theorem holds_record_iff (covers : m.Covers c blank slot mode) (hf : f ∈ c.fields)
    (x : Option (slot f).type.Carrier) (b : β) :
    Holds m.records.set b f (x.map FieldValue.toValue) ↔ (slot f).get b = x := by
  rw [Holds, covers.set_record hf]
  by_cases same : (slot f).get b = x <;> simp [same]

/-- Writing values to members succeeds on every record, and leaves every other member. -/
theorem settles_records (covers : m.Covers c blank slot mode) (x : ∀ f, Option (slot f).type.Carrier) :
    Settles m.records.set (fun f => (x f).map FieldValue.toValue) c.fields (AgreeBeyond slot c.fields blank) := by
  intro f hf b agree
  rw [covers.set_record hf]
  by_cases same : (slot f).get b = x f
  · rw [if_pos same]
    exact ⟨false, b, rfl, agree, (covers.holds_record_iff hf (x f) b).2 same, fun g _ _ held => held⟩
  rw [if_neg same]
  refine ⟨true, (slot f).set b (x f), rfl, ?_, ?_, ?_⟩
  · intro γ view beyond
    rw [beyond f hf, agree γ view beyond]
  · exact (covers.holds_record_iff hf (x f) _).2 ((slot f).get_set b (x f))
  · intro g hg ne held
    rw [covers.holds_record_iff hg] at held ⊢
    rw [covers.own f hf g hg ne, held]

end Mapping.Covers

/-! ### Whole records -/

/-- **A record that is copied to an object and back comes back as it was**, except that blank texts and lists without
an item that is not blank are unset, and that the other items of a list are dropped.  What its members leave alone is as
the mapping starts with.  The copy to the object succeeds, and a second one changes nothing. -/
theorem Mapping.toRecord_applyTo {β : Type} {m : Mapping β} {c : ClassDef} {blank : β} {slot : FieldDef → Slot β}
    {mode : ReferenceMode} (covers : m.Covers c blank slot mode) (b : β)
    (unambiguous : ∀ f ∈ c.fields, ∀ r, (slot f).member.get b = some (.reference r) → r.Unambiguous)
    (o : PropertyObject) (created : o.Alike (PropertyObject.create o.document c o.number o.guid)) :
    ∃ changed o' b', m.applyTo b o = (.ok changed, o') ∧ m.applyTo b o' = (.ok false, o') ∧
      m.toRecord o' = .ok b' ∧ (∀ f ∈ c.fields, (slot f).get b' = (slot f).type.kept ((slot f).get b)) ∧
      AgreeBeyond slot c.fields blank b' := by
  have reads : ∀ f ∈ c.fields, m.records.get b f = .ok ((slot f).member.get b) := fun f hf =>
    RecordAccessor.get_of_member (covers.member f hf) b
  have start : o.Alike o := ⟨rfl, rfl, fun _ => rfl⟩
  obtain ⟨changed, o', copied, alike, holds⟩ :=
    copyFields_of_settles reads (covers.settles_objects unambiguous created) c.fields (fun _ hf => hf) false o start
  have held : ∀ f ∈ c.fields, Holds m.objects.set o' f ((slot f).member.get b) := fun f hf => holds f hf (.inl hf)
  obtain ⟨changed', b', copied', agree, holds'⟩ :=
    copyFields_of_settles (fun f hf => covers.get_of_holds hf (unambiguous f hf) (held f hf))
      (covers.settles_records fun f => (slot f).type.kept ((slot f).get b)) c.fields (fun _ hf => hf) false blank
      fun _ _ _ => rfl
  have bound := requireClassOf_of_classRef covers.classDef created.classRef.symm
  have bound' := requireClassOf_of_classRef covers.classDef (alike.trans created).classRef.symm
  refine ⟨changed, o', b', ?_, ?_, ?_, fun f hf => ?_, agree⟩
  · simp only [applyTo, bound, copied]
  · simp only [applyTo, bound', copyFields_of_holds reads held]
  · simp only [toRecord, bound', requireBlank, covers.blank, copied']
  · exact (covers.holds_record_iff hf _ b').1 (holds' f hf (.inl hf))

/-- An entry of a menu, with a note that no field is for. -/
structure MenuItem where
  label : Option String := none
  tags : Option (List String) := none
  target : Option DocumentRef := none
  note : String := ""

namespace MenuItem

/-- The label of an entry. -/
def labelField : FieldDef := FieldDef.make ⟨"Menu", "ItemClass"⟩ "label" (.text none)

/-- The tags of an entry. -/
def tagsField : FieldDef := FieldDef.make ⟨"Menu", "ItemClass"⟩ "tags" (.list { multiSelect := true })

/-- The document that an entry leads to. -/
def targetField : FieldDef := FieldDef.make ⟨"Menu", "ItemClass"⟩ "target" (.reference {})

/-- The class of entries. -/
def itemClass : ClassDef where
  classRef := ⟨"Menu", "ItemClass"⟩
  declared := [labelField, tagsField, targetField]

/-- The member behind a field. -/
def slot (f : FieldDef) : Slot MenuItem :=
  match f.kind with
  | .list _ => ⟨.list, tags, fun b x => { b with tags := x }, fun _ _ => rfl⟩
  | .reference _ => ⟨.reference, target, fun b x => { b with target := x }, fun _ _ => rfl⟩
  | _ => ⟨.text, label, fun b x => { b with label := x }, fun _ _ => rfl⟩

/-- The mapping of entries, which starts with a note. -/
def mapping : Mapping MenuItem where
  records := (((RecordAccessor.empty "MenuItem").withMember "label" (slot labelField).member).withMember "tags"
    (slot tagsField).member).withMember "target" (slot targetField).member
  blank := some { note := "draft" }
  classDef := some itemClass

theorem mem_fields_iff {f : FieldDef} : f ∈ itemClass.fields ↔ f = labelField ∨ f = tagsField ∨ f = targetField := by
  have fields : itemClass.fields = [labelField, tagsField, targetField] := rfl
  simp only [fields, List.mem_cons, List.not_mem_nil, or_false]

theorem covers : mapping.Covers itemClass { note := "draft" } slot .compact where
  classDef := rfl
  blank := rfl
  objects := rfl
  member f hf := by
    rcases mem_fields_iff.1 hf with rfl | rfl | rfl <;> rfl
  fits f hf := by
    rcases mem_fields_iff.1 hf with rfl | rfl | rfl
    · exact .text none
    · exact .multiple rfl
    · exact .reference {}
  own f hf g hg ne b x := by
    rcases mem_fields_iff.1 hf with rfl | rfl | rfl <;> rcases mem_fields_iff.1 hg with rfl | rfl | rfl <;>
      first
      | exact absurd rfl ne
      | rfl
  wiki f hf config kind := by
    rcases mem_fields_iff.1 hf with rfl | rfl | rfl <;> cases kind
    decide

/-- An entry with a blank label, for a document in another wiki. -/
def contact : MenuItem where
  label := some " "
  tags := some ["new", ""]
  target := some ⟨"de", "Users", "Ada"⟩
  note := "seen"

theorem toRecord_applyTo_contact :
    let o := PropertyObject.create ⟨"xwiki", "Menu", "Main"⟩ itemClass 0 0
    mapping.Covers itemClass { note := "draft" } slot .compact ∧
      ∃ changed o' b', mapping.applyTo contact o = (.ok changed, o') ∧ mapping.applyTo contact o' = (.ok false, o') ∧
        mapping.toRecord o' = .ok b' ∧ b'.label = none ∧ b'.tags = some ["new"] ∧
        b'.target = some ⟨"de", "Users", "Ada"⟩ ∧ b'.note = "draft" := by
  intro o
  have ada : (⟨"de", "Users", "Ada"⟩ : DocumentRef).Unambiguous := by
    refine ⟨by decide, by decide, by decide, by decide, by decide, by decide, by decide, ?_, ?_, ?_⟩ <;>
      exact ⟨by decide, by decide⟩
  have unambiguous : ∀ f ∈ itemClass.fields, ∀ r, (slot f).member.get contact = some (.reference r) → r.Unambiguous := by
    intro f hf r h
    rcases mem_fields_iff.1 hf with rfl | rfl | rfl <;> cases h
    exact ada
  obtain ⟨changed, o', b', copied, again, back, members, agree⟩ :=
    Mapping.toRecord_applyTo covers contact unambiguous o ⟨rfl, rfl, fun _ => rfl⟩
  have label := members labelField (mem_fields_iff.2 (.inl rfl))
  have tags := members tagsField (mem_fields_iff.2 (.inr (.inl rfl)))
  have target := members targetField (mem_fields_iff.2 (.inr (.inr rfl)))
  have note : b'.note = "draft" := agree String MenuItem.note fun f hf b x => by
    rcases mem_fields_iff.1 hf with rfl | rfl | rfl <;> rfl
  exact ⟨covers, changed, o', b', copied, again, back, label, tags, target, note⟩

end MenuItem

end TypedWiki
