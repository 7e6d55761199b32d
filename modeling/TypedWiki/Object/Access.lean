import TypedWiki.Digest.FNV
import TypedWiki.Object.Basic

/-!
# Field access on objects — values behind their stored form

Values are stored raw: references and custom values as text, lists as joined text unless several values can be
selected.  Reading decodes what is stored into the type of the field.  Writing drops blank values, refuses types
that the field does not accept, and reports whether anything changed.
-/

namespace TypedWiki

/-- Refuses a value of a type that a field does not accept. -/
def FieldDef.checkAccepts (f : FieldDef) (v : Value) : Except FieldError Unit :=
  if f.kind.accepts v then .ok () else .error (.typeMismatch f.name f.kind.valueType v.typeName)

/-- What rests on libraries and not on the code: the formats of dates, and the hash that stands for the identity of an
object in filters, of which no more is known than that it is a function. -/
structure Platform where
  dates : Time.DateFormats
  identityHash : ObjectIdentity → UInt64

/-- A hash of the characters of an identity. -/
def ObjectIdentity.fnv (i : ObjectIdentity) : UInt64 :=
  let words (s : String) : List UInt64 := s.toList.map fun c => c.val.toUInt64
  let texts := [i.document.wiki, i.document.space, i.document.name, i.classRef.space, i.classRef.name]
  Digest.FNV.hash ((texts.flatMap fun s => words s ++ [0xFFFFFFFF]) ++ [i.number.toUInt64])

/-- A platform to run on. -/
def Platform.standard : Platform := ⟨.common, ObjectIdentity.fnv⟩

/-- Reads and writes the fields of objects. -/
structure ObjectAccessor where
  resolver : ReferenceResolver := .plain
  /-- The mode of reference fields without a mode of their own. -/
  mode : ReferenceMode := .standard
  /-- The platform comes with the accessor, which is at hand wherever objects are read or judged. -/
  platform : Platform := .standard

namespace ObjectAccessor

/-- The codec of references on an object for a kind of field. -/
def referenceCodec (a : ObjectAccessor) (o : PropertyObject) (kind : FieldKind) : Codec DocumentRef :=
  let mode := match kind with
    | .reference config => config.mode.getD a.mode
    | _ => a.mode
  Codec.reference a.resolver mode (some o.document)

/-- Refuses a field of another class and one that the object does not declare. -/
def checkDeclared (o : PropertyObject) (f : FieldDef) : Except FieldError Unit :=
  if f.classRef ≠ o.classRef ∨ o.hasField f.name = false then .error (.missing f.name o.classRef.text)
  else .ok ()

/-- A value as the field accepts it, with lists kept as they are. -/
def decodePlain (f : FieldDef) (raw : Value) : Except FieldError (Option Value) :=
  if f.kind.accepts raw then .ok (some raw)
  else .error (.typeMismatch f.name f.kind.valueType raw.typeName)

/-- The value behind a stored one; text that cannot be read counts as unset. -/
def decode (a : ObjectAccessor) (o : PropertyObject) (f : FieldDef) (raw : Value) :
    Except FieldError (Option Value) :=
  match f.kind, raw with
  | .reference _, .text s => .ok (((a.referenceCodec o f.kind).resolve s).map .reference)
  | .custom config, .text s => .ok (config.codec.resolve s)
  | .number, .text s => .ok ((Codec.int.resolve s).map .int)
  | .boolean, .text s => .ok ((Codec.bool.resolve s).map .bool)
  | .date format, .text s => .ok (((Codec.date a.platform.dates format).resolve s).map .date)
  | _, raw => decodePlain f raw

/-- The items of a list that are not blank. -/
def keptItems (items : List String) : List String := items.filter fun i => !Text.isBlank i

/-- How a value that is not a list is stored. -/
def encodeSingle (a : ObjectAccessor) (o : PropertyObject) (f : FieldDef) (v : Value) : Value :=
  match f.kind, v with
  | .reference _, .reference r => .text ((a.referenceCodec o f.kind).serialize r)
  | .custom config, v => .text (config.codec.serialize v)
  | _, v => v

/-- How a value is stored. -/
def encode (a : ObjectAccessor) (o : PropertyObject) (f : FieldDef) (v : Value) : Option Value :=
  match v with
  | .list items =>
    if f.kind.isMultiSelect then
      if keptItems items = [] then none else some (.list (keptItems items))
    else some (.text (Value.joinItems items))
  | .text s =>
    if f.kind.isMultiSelect then some (.list [s]) else some (a.encodeSingle o f (.text s))
  | v => some (a.encodeSingle o f v)

/-- What is read where a value or nothing is stored. -/
def reading (a : ObjectAccessor) (o : PropertyObject) (f : FieldDef) : Option Value → Except FieldError (Option Value)
  | some raw => a.decode o f raw
  | none => .ok none

/-- The value of a field, or nothing when it is unset. -/
def get (a : ObjectAccessor) (o : PropertyObject) (f : FieldDef) : Except FieldError (Option Value) := do
  checkDeclared o f
  a.reading o f (o.rawValue? f.name)

/-- What a write stores. -/
def rawOf (a : ObjectAccessor) (o : PropertyObject) (f : FieldDef) (v : Option Value) :
    Except FieldError (Option Value) :=
  match Value.normalizeBlank v with
  | none => .ok none
  | some v => do
    f.checkAccepts v
    .ok (a.encode o f v)

/-- Writes a field, or clears it; tells whether the stored value changed. -/
def set (a : ObjectAccessor) (o : PropertyObject) (f : FieldDef) (v : Option Value) :
    Except FieldError (Bool × PropertyObject) := do
  checkDeclared o f
  let raw ← a.rawOf o f v
  if o.rawValue? f.name = raw then .ok (false, o)
  else .ok (true, (o.setProperty f.name raw).2)

/-! ### Laws -/

/-- A field of the class of an object that the object declares. -/
def Declares (o : PropertyObject) (f : FieldDef) : Prop := f.classRef = o.classRef ∧ o.hasField f.name = true

theorem checkDeclared_eq_ok_iff {o : PropertyObject} {f : FieldDef} :
    checkDeclared o f = .ok () ↔ Declares o f := by
  rw [checkDeclared, Declares]
  split
  · rename_i h
    simp only [reduceCtorEq, false_iff, not_and, Bool.not_eq_true]
    exact fun hc => h.resolve_left (not_not_intro hc)
  · rename_i h
    simpa [not_or] using h

theorem declares_congr {o p : PropertyObject} (h : o.Alike p) (f : FieldDef) : Declares o f ↔ Declares p f := by
  rw [Declares, Declares, h.classRef, h.hasField]

/-- An object that was created from a class declares the fields of the class. -/
theorem declares_of_created {o : PropertyObject} {document : DocumentRef} {c : ClassDef} {number : UInt32} {guid : Guid}
    {f : FieldDef} (created : o.Alike (PropertyObject.create document c number guid)) (h : f ∈ c.fields) :
    Declares o f := by
  refine (declares_congr created f).2 ⟨ClassDef.classRef_of_mem_fields h, ?_⟩
  rw [PropertyObject.hasField_create]
  exact ClassDef.hasField_of_mem_fields h

/-- Reading and writing depend on what an object is and on the field. -/
theorem decode_congr {o p : PropertyObject} (h : o.Alike p) (a : ObjectAccessor) (f : FieldDef) (raw : Value) :
    a.decode o f raw = a.decode p f raw := by
  simp only [decode, referenceCodec, h.document]

/-- Only texts are resolved. -/
theorem decode_of_not_text {raw : Value} (text : ∀ s, raw ≠ .text s) (a : ObjectAccessor) (o : PropertyObject)
    (f : FieldDef) : a.decode o f raw = decodePlain f raw := by
  unfold decode
  cases raw with
  | text s => exact absurd rfl (text s)
  | _ => cases f.kind <;> rfl

theorem encode_congr {o p : PropertyObject} (h : o.Alike p) (a : ObjectAccessor) (f : FieldDef) (v : Value) :
    a.encode o f v = a.encode p f v := by
  simp only [encode, encodeSingle, referenceCodec, h.document]

theorem rawOf_congr {o p : PropertyObject} (h : o.Alike p) (a : ObjectAccessor) (f : FieldDef) (v : Option Value) :
    a.rawOf o f v = a.rawOf p f v := by
  simp only [rawOf, encode_congr h]

theorem reading_congr {o p : PropertyObject} (h : o.Alike p) (a : ObjectAccessor) (f : FieldDef)
    (raw : Option Value) : a.reading o f raw = a.reading p f raw := by
  cases raw with
  | none => rfl
  | some raw => exact decode_congr h a f raw

theorem get_of_declares {o : PropertyObject} {f : FieldDef} (h : Declares o f) (a : ObjectAccessor) :
    a.get o f = a.reading o f (o.rawValue? f.name) := by
  rw [get, checkDeclared_eq_ok_iff.2 h]
  rfl

/-! ### Missing fields -/

theorem checkDeclared_of_not_declares {o : PropertyObject} {f : FieldDef} (h : ¬ Declares o f) :
    checkDeclared o f = .error (.missing f.name o.classRef.text) := by
  have refused : f.classRef ≠ o.classRef ∨ o.hasField f.name = false := by
    rw [Declares, Classical.not_and_iff_not_or_not, Bool.not_eq_true] at h
    exact h
  rw [checkDeclared, if_pos refused]

theorem declares_of_get {a : ObjectAccessor} {o : PropertyObject} {f : FieldDef} {v : Option Value}
    (read : a.get o f = .ok v) : Declares o f := by
  refine Classical.byContradiction fun undeclared => ?_
  rw [get, checkDeclared_of_not_declares undeclared] at read
  cases read

/-- What is stored may be of another type than that of the field, but then the field is there. -/
theorem isMissing_of_decode_eq_error {a : ObjectAccessor} {o : PropertyObject} {f : FieldDef} {raw : Value}
    {err : FieldError} (h : a.decode o f raw = .error err) : err.isMissing = false := by
  have plain : decodePlain f raw = .error err := by
    unfold decode at h
    split at h
    all_goals first | cases h | exact h
  rw [decodePlain] at plain
  split at plain
  · cases plain
  · rw [← Except.error.inj plain]
    rfl

theorem isMissing_of_rawOf_eq_error {a : ObjectAccessor} {o : PropertyObject} {f : FieldDef} {v : Option Value}
    {err : FieldError} (h : a.rawOf o f v = .error err) : err.isMissing = false := by
  rw [rawOf] at h
  split at h
  · cases h
  · rename_i v _
    by_cases accepts : f.kind.accepts v = true
    · simp [FieldDef.checkAccepts, accepts, bind, Except.bind] at h
    · simp only [FieldDef.checkAccepts, accepts, bind, Except.bind] at h
      rw [← Except.error.inj h]
      rfl

/-- Reading reports a field as missing exactly if the object does not declare it. -/
theorem get_missing_iff {a : ObjectAccessor} {o : PropertyObject} {f : FieldDef} :
    (∃ err, a.get o f = .error err ∧ err.isMissing = true) ↔ ¬ Declares o f := by
  constructor
  · rintro ⟨err, failed, missing⟩ declares
    rw [get_of_declares declares] at failed
    cases hraw : o.rawValue? f.name with
    | none =>
      rw [hraw] at failed
      cases failed
    | some raw =>
      rw [hraw] at failed
      rw [isMissing_of_decode_eq_error failed] at missing
      cases missing
  · intro undeclared
    refine ⟨.missing f.name o.classRef.text, ?_, rfl⟩
    rw [get, checkDeclared_of_not_declares undeclared]
    rfl

/-- Writing reports a field as missing exactly if the object does not declare it. -/
theorem set_missing_iff {a : ObjectAccessor} {o : PropertyObject} {f : FieldDef} {v : Option Value} :
    (∃ err, a.set o f v = .error err ∧ err.isMissing = true) ↔ ¬ Declares o f := by
  constructor
  · rintro ⟨err, failed, missing⟩ declares
    rw [set, checkDeclared_eq_ok_iff.2 declares] at failed
    cases hraw : a.rawOf o f v with
    | error err' =>
      simp only [hraw, bind, Except.bind] at failed
      rw [← Except.error.inj failed, isMissing_of_rawOf_eq_error hraw] at missing
      cases missing
    | ok raw =>
      simp only [hraw, bind, Except.bind] at failed
      split at failed <;> cases failed
  · intro undeclared
    refine ⟨.missing f.name o.classRef.text, ?_, rfl⟩
    rw [set, checkDeclared_of_not_declares undeclared]
    rfl

/-! ### Writing -/

theorem rawOf_of_blank {v : Value} (blank : v.isBlank = true) (a : ObjectAccessor) (o : PropertyObject)
    (f : FieldDef) : a.rawOf o f (some v) = .ok none := by
  simp only [rawOf, Value.normalizeBlank_some, blank, if_true]

theorem rawOf_of_accepts {f : FieldDef} {v : Value} (blank : v.isBlank = false) (accepts : f.kind.accepts v = true)
    (a : ObjectAccessor) (o : PropertyObject) : a.rawOf o f (some v) = .ok (a.encode o f v) := by
  simp only [rawOf, Value.normalizeBlank_some, blank, Bool.false_eq_true, if_false, FieldDef.checkAccepts, accepts,
    if_true, bind, Except.bind]

/-- A value that is not blank is stored encoded if the field accepts it. -/
theorem rawOf_eq_ok {a : ObjectAccessor} {o : PropertyObject} {f : FieldDef} {v : Value} {raw : Option Value}
    (blank : v.isBlank = false) (h : a.rawOf o f (some v) = .ok raw) :
    f.kind.accepts v = true ∧ raw = a.encode o f v := by
  simp only [rawOf, Value.normalizeBlank_some, blank, Bool.false_eq_true, if_false, FieldDef.checkAccepts, bind,
    Except.bind] at h
  by_cases accepts : f.kind.accepts v = true
  · simp only [accepts, if_true, Except.ok.injEq] at h
    exact ⟨accepts, h.symm⟩
  · simp [accepts] at h

/-- A write that succeeds stores the raw value in the field, and reports whether another one was there. -/
theorem set_eq_ok_iff {a : ObjectAccessor} {o o' : PropertyObject} {f : FieldDef} {v : Option Value}
    {changed : Bool} :
    a.set o f v = .ok (changed, o') ↔
      Declares o f ∧ ∃ raw, a.rawOf o f v = .ok raw ∧ changed = decide (o.rawValue? f.name ≠ raw) ∧
        o' = (o.setProperty f.name raw).2 := by
  by_cases hd : Declares o f
  · cases hr : a.rawOf o f v with
    | error e => simp [set, checkDeclared_eq_ok_iff.2 hd, hr, bind, Except.bind]
    | ok raw =>
      have hset : a.set o f v = .ok (decide (o.rawValue? f.name ≠ raw), (o.setProperty f.name raw).2) := by
        simp only [set, checkDeclared_eq_ok_iff.2 hd, hr, bind, Except.bind]
        by_cases h : o.rawValue? f.name = raw
        · subst h
          simp [PropertyObject.setProperty_rawValue? hd.2]
        · simp [h]
      rw [hset]
      simp only [Except.ok.injEq, Prod.mk.injEq, hd, true_and, exists_eq_left', eq_comm]
  · have hc : checkDeclared o f ≠ .ok () := fun h => hd (checkDeclared_eq_ok_iff.1 h)
    cases he : checkDeclared o f with
    | ok u => exact absurd he hc
    | error e => simp [set, he, bind, Except.bind, hd]

/-- A write reports a change exactly if it makes one. -/
theorem changed_iff_of_set {a : ObjectAccessor} {o o' : PropertyObject} {f : FieldDef} {v : Option Value}
    {changed : Bool} (h : a.set o f v = .ok (changed, o')) : changed = true ↔ o' ≠ o := by
  obtain ⟨hd, raw, -, rfl, rfl⟩ := set_eq_ok_iff.1 h
  rw [decide_eq_true_eq]
  refine not_congr ⟨fun held => ?_, fun same => ?_⟩
  · rw [← held, PropertyObject.setProperty_rawValue? hd.2]
  · rw [← PropertyObject.rawValue?_setProperty hd.2 raw, same]

/-- Whether a write fails, and with which error, depends on what an object is. -/
theorem set_eq_error_congr {a : ObjectAccessor} {o p : PropertyObject} (h : o.Alike p) {f : FieldDef}
    {v : Option Value} {err : FieldError} (failed : a.set o f v = .error err) : a.set p f v = .error err := by
  rw [set, checkDeclared, h.classRef, h.hasField, rawOf_congr h] at failed
  rw [set, checkDeclared]
  split at failed
  · rename_i refused
    rw [if_pos refused]
    exact failed
  · rename_i declared
    rw [if_neg declared]
    cases hraw : a.rawOf p f v with
    | error cause =>
      rw [hraw] at failed
      exact failed
    | ok raw =>
      simp only [hraw, bind, Except.bind] at failed
      split at failed <;> cases failed

theorem identity_set {a : ObjectAccessor} {o o' : PropertyObject} {f : FieldDef} {v : Option Value} {changed : Bool}
    (h : a.set o f v = .ok (changed, o')) : o'.identity = o.identity := by
  obtain ⟨-, raw, -, -, rfl⟩ := set_eq_ok_iff.1 h
  exact PropertyObject.identity_setProperty o f.name raw

theorem alike_set {a : ObjectAccessor} {o o' : PropertyObject} {f : FieldDef} {v : Option Value} {changed : Bool}
    (h : a.set o f v = .ok (changed, o')) : o'.Alike o := by
  obtain ⟨-, raw, -, -, rfl⟩ := set_eq_ok_iff.1 h
  exact o.alike_setProperty f.name raw

/-- After a write the field is read from what was stored. -/
theorem get_of_set {a b : ObjectAccessor} {o o' : PropertyObject} {f : FieldDef} {v : Option Value} {changed : Bool}
    (h : a.set o f v = .ok (changed, o')) :
    ∃ raw, a.rawOf o f v = .ok raw ∧ b.get o' f = b.reading o f raw := by
  obtain ⟨hd, raw, hraw, -, rfl⟩ := set_eq_ok_iff.1 h
  have alike := o.alike_setProperty f.name raw
  refine ⟨raw, hraw, ?_⟩
  rw [get_of_declares ((declares_congr alike f).2 hd), PropertyObject.rawValue?_setProperty hd.2]
  exact reading_congr alike b f raw

/-- A write changes nothing exactly if the field holds what it would store. -/
theorem set_eq_unchanged_iff {a : ObjectAccessor} {o : PropertyObject} {f : FieldDef} {v : Option Value} :
    a.set o f v = .ok (false, o) ↔ Declares o f ∧ a.rawOf o f v = .ok (o.rawValue? f.name) := by
  rw [set_eq_ok_iff]
  constructor
  · rintro ⟨hd, raw, hraw, same, -⟩
    have held : o.rawValue? f.name = raw := by simpa using same.symm
    exact ⟨hd, held ▸ hraw⟩
  · rintro ⟨hd, hraw⟩
    exact ⟨hd, _, hraw, by simp, (PropertyObject.setProperty_rawValue? hd.2).symm⟩

/-- Writing a value again changes nothing. -/
theorem set_again {a : ObjectAccessor} {o o' : PropertyObject} {f : FieldDef} {v : Option Value} {changed : Bool}
    (h : a.set o f v = .ok (changed, o')) : a.set o' f v = .ok (false, o') := by
  obtain ⟨hd, raw, hraw, -, rfl⟩ := set_eq_ok_iff.1 h
  have alike := o.alike_setProperty f.name raw
  refine set_eq_unchanged_iff.2 ⟨(declares_congr alike f).2 hd, ?_⟩
  rw [rawOf_congr alike, hraw, PropertyObject.rawValue?_setProperty hd.2]

/-- What a field holds it still holds after another field was written. -/
theorem set_unchanged_of_set {a : ObjectAccessor} {o o' : PropertyObject} {f g : FieldDef} {v w : Option Value}
    {changed : Bool} (held : a.set o g w = .ok (false, o)) (h : a.set o f v = .ok (changed, o'))
    (hne : f.name ≠ g.name) : a.set o' g w = .ok (false, o') := by
  obtain ⟨hd, hraw⟩ := set_eq_unchanged_iff.1 held
  obtain ⟨-, raw, -, -, rfl⟩ := set_eq_ok_iff.1 h
  have alike := o.alike_setProperty f.name raw
  refine set_eq_unchanged_iff.2 ⟨(declares_congr alike g).2 hd, ?_⟩
  rw [rawOf_congr alike, hraw, PropertyObject.rawValue?_setProperty_of_ne hne]

end ObjectAccessor

end TypedWiki
