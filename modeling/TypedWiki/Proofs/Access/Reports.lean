import TypedWiki.Document.Access
import TypedWiki.Proofs.Mapping.RoundTrip

/-!
# Change reports — whether a write says truly that it changed something

A write reports a change exactly if there is one, the change is at the place of its field, and making the write again
changes nothing.  Each of the three representations decides this in another form: objects compare what they store,
documents what they read, and records the typed values of a member.

Documents compare before the default language takes the value as a text.  A field of that name need not be one of
texts, and then what is stored is never equal to what is written: the same write reports a change every time.

* `ReportsChanges`: what makes the reports of a write accurate.
* `PropertyObject.DiffersAt`, `Document.DiffersAt`, `RecordAccessor.DiffersAt`: a change at one place.
* `DocumentAccess.StoresForeign`: a write that gives the default language a value that is no text.
* `reportsChanges`: reports are accurate for objects and records, and for documents except in this case.
-/

namespace TypedWiki

section

variable {σ : Type}

/-- A write as it is made on an instance: the report, and the instance afterwards, which a failure leaves alone. -/
def performed (write : σ → Except FieldError (Bool × σ)) (s : σ) : Except FieldError Bool × σ :=
  match write s with
  | .ok (changed, s') => (.ok changed, s')
  | .error err => (.error err, s)

/-- The reports of a write are accurate. -/
structure ReportsChanges (write : σ → Except FieldError (Bool × σ)) (DiffersAt : σ → σ → Prop) : Prop where
  /-- Without the report of a change there is none. -/
  unchanged : ∀ s, (performed write s).1 ≠ .ok true → (performed write s).2 = s
  /-- With the report there is one, at the place of the field only. -/
  changed : ∀ s, (performed write s).1 = .ok true → DiffersAt s (performed write s).2
  /-- A write that succeeded changes nothing when it is made again. -/
  again : ∀ s changed, (performed write s).1 = .ok changed →
    performed write (performed write s).2 = (.ok false, (performed write s).2)

theorem performed_eq_ok_iff {write : σ → Except FieldError (Bool × σ)} {s s' : σ} {changed : Bool} :
    performed write s = (.ok changed, s') ↔ write s = .ok (changed, s') := by
  rw [performed]
  cases write s with
  | error err => simp
  | ok report => simp [Prod.ext_iff]

/-- Reports are accurate if successful writes tell a change, and leave what they do not change. -/
theorem reportsChanges_of_ok {write : σ → Except FieldError (Bool × σ)} {DiffersAt : σ → σ → Prop}
    (unchanged : ∀ s s', write s = .ok (false, s') → s' = s)
    (changed : ∀ s s', write s = .ok (true, s') → DiffersAt s s')
    (again : ∀ s s', write s = .ok (true, s') → write s' = .ok (false, s')) : ReportsChanges write DiffersAt := by
  refine ⟨fun s h => ?_, fun s h => ?_, fun s reported h => ?_⟩
  · rcases hwrite : write s with err | ⟨reported, s'⟩
    · rw [performed, hwrite]
    · rw [performed_eq_ok_iff.2 hwrite] at h ⊢
      cases reported with
      | true => exact absurd rfl h
      | false => exact unchanged s s' hwrite
  · rcases hwrite : write s with err | ⟨reported, s'⟩
    · rw [performed, hwrite] at h
      cases h
    · rw [performed_eq_ok_iff.2 hwrite] at h ⊢
      cases h
      exact changed s s' hwrite
  · rcases hwrite : write s with err | ⟨reported', s'⟩
    · rw [performed, hwrite] at h
      cases h
    · rw [performed_eq_ok_iff.2 hwrite]
      refine performed_eq_ok_iff.2 ?_
      cases reported' with
      | true => exact again s s' hwrite
      | false =>
        obtain rfl := unchanged s s' hwrite
        exact hwrite

end

/-! ### Objects -/

/-- Two objects that differ in the value of one field only. -/
structure PropertyObject.DiffersAt (name : String) (o o' : PropertyObject) : Prop where
  identity : o'.identity = o.identity
  guid : o'.guid = o.guid
  id : o'.id = o.id
  fieldNames : o'.fieldNames = o.fieldNames
  others : ∀ name', name' ≠ name → o'.property? name' = o.property? name'
  differs : o'.rawValue? name ≠ o.rawValue? name

theorem ObjectAccessor.reportsChanges_set (a : ObjectAccessor) (f : FieldDef) (v : Option Value) :
    ReportsChanges (fun o => a.set o f v) (PropertyObject.DiffersAt f.name) := by
  refine reportsChanges_of_ok (fun o o' h => ?_) (fun o o' h => ?_) fun o o' h => set_again h
  · exact Classical.not_not.1 (mt (changed_iff_of_set h).2 Bool.false_ne_true)
  · obtain ⟨hd, raw, -, differs, rfl⟩ := set_eq_ok_iff.1 h
    refine ⟨o.identity_setProperty _ _, o.guid_setProperty _ _, o.id_setProperty _ _, o.fieldNames_setProperty _ _,
      fun name' ne => ?_, ?_⟩
    · rw [PropertyObject.property?_setProperty, if_neg fun same => ne same.1.symm]
    · rw [PropertyObject.rawValue?_setProperty hd.2]
      exact Ne.symm (of_decide_eq_true differs.symm)

/-! ### Documents -/

/-- Two documents that differ in one of their own fields only, or in the default language only. -/
def Document.DiffersAt (name : String) (d d' : Document) : Prop :=
  if name = DocumentClass.defaultLanguage then
    ∃ language, language ≠ d.defaultLanguage ∧ d' = { d with defaultLanguage := language }
  else
    ∃ fields, d' = { d with fields := fields } ∧ fields.get? name ≠ d.fields.get? name ∧
      ∀ name', name' ≠ name → fields.get? name' = d.fields.get? name'

namespace DocumentAccess

/-- Whether a write gives the default language a value that is no text, which a field of its name may accept. -/
def StoresForeign (f : FieldDef) (v : Option Value) : Prop :=
  f.classRef = DocumentClass.ref ∧ f.name = DocumentClass.defaultLanguage ∧
    ∃ w, Value.normalizeBlank v = some w ∧ f.kind.accepts w = true ∧ ∀ s, flatten w ≠ .text s

variable {f : FieldDef} {v raw : Option Value} {d d' : Document} {name : String}

theorem ne_empty_of_flatten {w : Value} {s : String} (blank : w.isBlank = false) (text : flatten w = .text s) :
    s ≠ "" := by
  rintro rfl
  cases w with
  | text t =>
    obtain rfl : t = "" := Value.text.inj text
    cases blank
  | list items =>
    have visible := Value.isBlank_joinItems blank
    rw [show Value.joinItems items = "" from Value.text.inj text] at visible
    cases visible
  | _ => cases text

/-- What is stored and is not foreign to its place is none or a text that is not empty, where a text is held. -/
theorem fits_of_rawOf (h : rawOf f v = .ok raw) (own : f.classRef = DocumentClass.ref) (fine : ¬ StoresForeign f v)
    (language : f.name = DocumentClass.defaultLanguage) : raw = none ∨ ∃ s, s ≠ "" ∧ raw = some (.text s) := by
  rcases rawOf_eq_ok_iff.1 h with ⟨-, rfl⟩ | ⟨w, kept, accepts, rfl⟩
  · exact Or.inl rfl
  · have blank : w.isBlank = false := by simpa using (Option.filter_eq_some_iff.1 kept).2
    obtain ⟨s, text⟩ : ∃ s, flatten w = .text s :=
      Classical.byContradiction fun foreign => fine ⟨own, language, w, kept, accepts, fun s text => foreign ⟨s, text⟩⟩
    exact Or.inr ⟨s, ne_empty_of_flatten blank text, congrArg some text⟩

theorem held_of_ne (h : name ≠ DocumentClass.defaultLanguage) (d : Document) : held d name = d.fields.get? name :=
  if_neg h

/-- What is stored in a field is held, and every other field keeps its value. -/
theorem get?_setField (d : Document) (name name' : String) (raw : Option Value) :
    (d.setField name raw).2.fields.get? name' = if name = name' then raw else d.fields.get? name' := by
  cases raw with
  | none => exact OrderedMap.get?_erase d.fields name name'
  | some v => exact OrderedMap.get?_insert d.fields name name' v

/-- What was stored is held, if it has the form in which it is held. -/
theorem held_store (d : Document)
    (fits : name = DocumentClass.defaultLanguage → raw = none ∨ ∃ s, s ≠ "" ∧ raw = some (.text s)) :
    held (store d name raw) name = raw := by
  by_cases language : name = DocumentClass.defaultLanguage
  · rw [held, store, if_pos language, if_pos language]
    rcases fits language with rfl | ⟨s, visible, rfl⟩
    · rfl
    · exact if_neg visible
  · rw [held_of_ne language, store, if_neg language, get?_setField, if_pos rfl]

theorem differsAt_store (differs : held d name ≠ raw)
    (fits : name = DocumentClass.defaultLanguage → raw = none ∨ ∃ s, s ≠ "" ∧ raw = some (.text s)) :
    Document.DiffersAt name d (store d name raw) := by
  rw [Document.DiffersAt]
  by_cases language : name = DocumentClass.defaultLanguage
  · rw [if_pos language, store, if_pos language]
    refine ⟨_, fun same => differs ?_, rfl⟩
    rw [held, if_pos language, ← same]
    rcases fits language with rfl | ⟨s, visible, rfl⟩
    · rfl
    · exact if_neg visible
  · rw [held_of_ne language] at differs
    rw [if_neg language, store, if_neg language]
    refine ⟨(d.setField name raw).2.fields, ?_, ?_, fun name' ne => ?_⟩
    · cases raw <;> rfl
    · rw [get?_setField, if_pos rfl]
      exact differs.symm
    · rw [get?_setField, if_neg ne.symm]

theorem reportsChanges_set (fine : ¬ StoresForeign f v) :
    ReportsChanges (fun d => set d f v) (Document.DiffersAt f.name) := by
  have cases_of_set : ∀ d report, set d f v = .ok report → ∃ raw, rawOf f v = .ok raw ∧ checkField f = .ok () ∧
      (report = if held d f.name = raw then (false, d) else (true, store d f.name raw)) ∧
      (f.name = DocumentClass.defaultLanguage → raw = none ∨ ∃ s, s ≠ "" ∧ raw = some (.text s)) := by
    intro d report h
    obtain ⟨checked, raw, hraw, reported⟩ := set_eq_ok_iff.1 h
    exact ⟨raw, hraw, checked, reported, fits_of_rawOf hraw (checkField_eq_ok_iff.1 checked).1 fine⟩
  refine reportsChanges_of_ok (fun d d' h => ?_) (fun d d' h => ?_) fun d d' h => ?_
  · obtain ⟨raw, -, -, reported, -⟩ := cases_of_set d _ h
    split at reported
    · exact (Prod.mk.inj reported).2
    · cases reported
  · obtain ⟨raw, -, -, reported, fits⟩ := cases_of_set d _ h
    split at reported
    · cases reported
    · rename_i differs
      rw [(Prod.mk.inj reported).2]
      exact differsAt_store differs fits
  · obtain ⟨raw, hraw, checked, reported, fits⟩ := cases_of_set d _ h
    split at reported
    · cases reported
    · rw [(Prod.mk.inj reported).2]
      refine set_eq_ok_iff.2 ⟨checked, raw, hraw, ?_⟩
      rw [if_pos (held_store d fits)]

/-- A value that is foreign to its place is never held there, so a write of it always reports a change. -/
theorem set_of_storesForeign (foreign : StoresForeign f v) (d : Document) : ∃ d', set d f v = .ok (true, d') := by
  obtain ⟨own, language, w, kept, accepts, noText⟩ := foreign
  have checked : checkField f = .ok () := checkField_eq_ok_iff.2 ⟨own, by rw [language]; rfl⟩
  have different : held d f.name ≠ some (flatten w) := by
    rw [held, if_pos language]
    split
    · exact (Option.some_ne_none _).symm
    · exact fun same => noText d.defaultLanguage (Option.some.inj same).symm
  exact ⟨_, set_eq_ok_iff.2 ⟨checked, _, rawOf_eq_ok_iff.2 (.inr ⟨w, kept, accepts, rfl⟩), (if_neg different).symm⟩⟩

theorem not_reportsChanges_set (foreign : StoresForeign f v) (DiffersAt : Document → Document → Prop) :
    ¬ ReportsChanges (fun d => set d f v) DiffersAt := by
  intro reports
  have writes : ∀ d, ∃ d', performed (fun d => set d f v) d = (.ok true, d') := fun d =>
    (set_of_storesForeign foreign d).imp fun _ => performed_eq_ok_iff.2
  obtain ⟨d', first⟩ := writes (Document.create ⟨"", "", ""⟩)
  obtain ⟨d'', second⟩ := writes d'
  have again := reports.again _ true (by rw [first])
  rw [first, second] at again
  cases again

end DocumentAccess

/-! ### Records -/

/-- A member of records whose getter reads what its setter writes, and whose setter writes nothing else. -/
structure Part (β : Type) where
  Carrier : Type
  fieldValue : FieldValue Carrier
  decidableEq : DecidableEq Carrier
  get : β → Option Carrier
  set : β → Option Carrier → β
  get_set : ∀ b x, get (set b x) = x
  set_set : ∀ b x y, set (set b x) y = set b y

namespace Part

variable {β : Type}

instance (p : Part β) : FieldValue p.Carrier := p.fieldValue

instance (p : Part β) : DecidableEq p.Carrier := p.decidableEq

/-- The entry of a part in the table of an accessor. -/
def member (p : Part β) : Member β := Member.of p.get p.set

end Part

/-- A member with a type of its own as a part, if its setter writes nothing else. -/
def Slot.part {β : Type} (s : Slot β) (set_set : ∀ b x y, s.set (s.set b x) y = s.set b y) : Part β where
  Carrier := s.type.Carrier
  fieldValue := inferInstance
  decidableEq := inferInstance
  get := s.get
  set := s.set
  get_set := s.get_set
  set_set := set_set

namespace RecordAccessor

variable {β : Type} {a : RecordAccessor β} {f : FieldDef}

/-- Every member of an accessor reads and writes a part of the records. -/
def IsOverParts (a : RecordAccessor β) : Prop := ∀ f m, a.member f = .ok m → ∃ p : Part β, m = p.member

/-- Two records that differ in the part behind one field only: they agree once this part is overwritten. -/
def DiffersAt (a : RecordAccessor β) (f : FieldDef) (b b' : β) : Prop :=
  ∃ p : Part β, a.member f = .ok p.member ∧ p.get b' ≠ p.get b ∧ ∀ x, p.set b' x = p.set b x

theorem isOverParts_empty (typeName : String) : (empty typeName : RecordAccessor β).IsOverParts := by
  rintro f m ⟨⟩

theorem IsOverParts.withMember (parts : a.IsOverParts) (fieldName : String) (p : Part β) :
    (a.withMember fieldName p.member).IsOverParts := by
  intro f m h
  by_cases here : FieldName.accessor fieldName = FieldName.accessor f.name
  · rw [member, RecordAccessor.withMember, OrderedMap.get?_insert, if_pos here] at h
    exact ⟨p, (Except.ok.inj h).symm⟩
  · refine parts f m ?_
    rw [member, RecordAccessor.withMember, OrderedMap.get?_insert, if_neg here] at h
    exact h

/-- A write that succeeds leaves a record whose part has the written value, and writes it otherwise. -/
theorem set_eq_ok {p : Part β} (h : a.member f = .ok p.member) {v : Option Value} {b : β} {report : Bool × β}
    (written : a.set b f v = .ok report) : ∃ x, Member.typed? (reduceSelection f v) = .ok x ∧
      report = if p.get b = x then (false, b) else (true, p.set b x) := by
  cases typed : Member.typed? (τ := p.Carrier) (reduceSelection f v) with
  | error actual => simp [set, h, Part.member, Member.of, typed] at written
  | ok x =>
    rw [set_of_member h typed] at written
    exact ⟨x, rfl, (Except.ok.inj written).symm⟩

theorem reportsChanges_set (parts : a.IsOverParts) (f : FieldDef) (v : Option Value) :
    ReportsChanges (fun b => a.set b f v) (a.DiffersAt f) := by
  cases hm : a.member f with
  | error err =>
    have refused : ∀ b report, a.set b f v ≠ .ok report := fun b report => by simp [set, hm]
    exact reportsChanges_of_ok (fun b _ h => absurd h (refused b _)) (fun b _ h => absurd h (refused b _))
      fun b _ h => absurd h (refused b _)
  | ok m =>
    obtain ⟨p, rfl⟩ := parts f m hm
    refine reportsChanges_of_ok (fun b b' h => ?_) (fun b b' h => ?_) fun b b' h => ?_
    · obtain ⟨x, -, reported⟩ := set_eq_ok hm h
      split at reported
      · exact (Prod.mk.inj reported).2
      · cases reported
    · obtain ⟨x, -, reported⟩ := set_eq_ok hm h
      split at reported
      · cases reported
      · rename_i differs
        rw [(Prod.mk.inj reported).2]
        refine ⟨p, hm, ?_, p.set_set b x⟩
        rw [p.get_set]
        exact Ne.symm differs
    · obtain ⟨x, typed, reported⟩ := set_eq_ok hm h
      split at reported
      · cases reported
      · rw [(Prod.mk.inj reported).2, set_of_member hm typed]
        exact congrArg Except.ok (if_pos (p.get_set b x))

end RecordAccessor

/-! ### All representations -/

/-- **Writes report accurately whether they changed something** on objects and on records; on documents they do except
where the default language gets a value that is no text, and there they never do. -/
theorem reportsChanges (f : FieldDef) (v : Option Value) :
    (∀ a : ObjectAccessor, ReportsChanges (fun o => a.set o f v) (PropertyObject.DiffersAt f.name)) ∧
      (ReportsChanges (fun d => DocumentAccess.set d f v) (Document.DiffersAt f.name) ↔
        ¬ DocumentAccess.StoresForeign f v) ∧
      ∀ (β : Type) (a : RecordAccessor β), a.IsOverParts → ReportsChanges (fun b => a.set b f v) (a.DiffersAt f) := by
  refine ⟨fun a => a.reportsChanges_set f v, ⟨fun accurate foreign => ?_, DocumentAccess.reportsChanges_set⟩,
    fun β a parts => RecordAccessor.reportsChanges_set parts f v⟩
  exact DocumentAccess.not_reportsChanges_set foreign _ accurate

/-- The members behind the fields of menu entries are parts of them. -/
theorem MenuItem.isOverParts_records : MenuItem.mapping.records.IsOverParts := by
  have blank : (RecordAccessor.empty "MenuItem" : RecordAccessor MenuItem).IsOverParts :=
    RecordAccessor.isOverParts_empty "MenuItem"
  have label := blank.withMember "label" ((slot labelField).part fun _ _ _ => rfl)
  have tags := label.withMember "tags" ((slot tagsField).part fun _ _ _ => rfl)
  exact tags.withMember "target" ((slot targetField).part fun _ _ _ => rfl)

theorem reportsChanges_itemLabel :
    MenuItem.mapping.records.IsOverParts ∧
      ReportsChanges (fun b => MenuItem.mapping.records.set b MenuItem.labelField (some (.text "Home")))
        (MenuItem.mapping.records.DiffersAt MenuItem.labelField) ∧
      (performed (fun b => MenuItem.mapping.records.set b MenuItem.labelField (some (.text "Home"))) {}).1 = .ok true :=
  ⟨MenuItem.isOverParts_records, (reportsChanges _ _).2.2 MenuItem _ MenuItem.isOverParts_records, by rfl⟩

/-- A field for the default language that takes numbers. -/
def numberedLanguage : FieldDef := FieldDef.make DocumentClass.ref DocumentClass.defaultLanguage .number

/-- A number given to the default language is stored as a text, and giving it again counts as a change. -/
theorem not_reportsChanges_numberedLanguage :
    (∃ d, DocumentAccess.set (Document.create ⟨"xwiki", "Main", "Home"⟩) numberedLanguage (some (.int 5)) =
          .ok (true, d) ∧
        DocumentAccess.get d numberedLanguage = .ok (some (.text "5")) ∧
        DocumentAccess.set d numberedLanguage (some (.int 5)) = .ok (true, d)) ∧
      ¬ ∀ f v, ReportsChanges (fun d => DocumentAccess.set d f v) (Document.DiffersAt f.name) := by
  have foreign : DocumentAccess.StoresForeign numberedLanguage (some (.int 5)) :=
    ⟨rfl, rfl, .int 5, rfl, rfl, fun s => by simp [DocumentAccess.flatten]⟩
  exact ⟨⟨_, rfl, rfl, rfl⟩, fun accurate =>
    DocumentAccess.not_reportsChanges_set foreign _ (accurate numberedLanguage (some (.int 5)))⟩

end TypedWiki
