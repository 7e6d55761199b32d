import TypedWiki.Proofs.Mapping.RoundTrip
import TypedWiki.Proofs.Run

/-!
# Skipping — what a conversion passes over and where it stops

A copy writes its fields one after the other, so a field meets a target that the fields before it have changed.  A
write does not change which writes fail, so whether a field is copied, skipped or stops the copy is told on the target
that the copy starts with.

* `Mapping.Fails`, `Mapping.Skips`: what becomes of a field that is not copied.
* `Mapping.Steady`: writes that do not change which writes fail.
* `Mapping.Ends`, `Mapping.ends_copyFields`: how a copy of fields ends.
* `RecordAccessor.Built`: the tables that are built from getters and setters.
* `Mapping.skipsMissing`: what the conversions of a class skip, where they stop and what they leave.
-/

namespace TypedWiki

/-- A write to a member leaves a part of the record. -/
def Member.Leaves {β γ : Type} (s : Member β) (view : β → γ) : Prop :=
  ∀ b v changed b', s.set b v = .ok (changed, b') → view b' = view b

/-- The tables that are built from getters and setters of members. -/
inductive RecordAccessor.Built {β : Type} : RecordAccessor β → Prop where
  | empty (typeName : String) : Built (RecordAccessor.empty typeName)
  | withMember {a : RecordAccessor β} (built : Built a) (fieldName : String) {τ : Type} [FieldValue τ] [DecidableEq τ]
      (get : β → Option τ) (set : β → Option τ → β) : Built (a.withMember fieldName (Member.of get set))

namespace Mapping

section Copy

variable {τ : Type} (read : FieldDef → Except FieldError (Option Value))
  (write : τ → FieldDef → Option Value → Except FieldError (Bool × τ))

/-- A field meets an error: it cannot be read, or what is read cannot be written. -/
def Meets (target : τ) (f : FieldDef) (err : FieldError) : Prop :=
  read f = .error err ∨ ∃ v, read f = .ok v ∧ write target f v = .error err

/-- A field fails: it meets an error, and not because a side does not have it. -/
def Fails (target : τ) (f : FieldDef) (err : FieldError) : Prop :=
  Meets read write target f err ∧ err.isMissing = false

/-- A field is skipped: the source does not have it, or the target does not. -/
def Skips (target : τ) (f : FieldDef) : Prop :=
  ∃ err, Meets read write target f err ∧ err.isMissing = true

/-- What is read in a field is written. -/
def Writes (target : τ) (f : FieldDef) (target' : τ) : Prop :=
  ∃ v changed, read f = .ok v ∧ write target f v = .ok (changed, target')

/-- Writes fail alike on two targets. -/
def FailAlike (target target' : τ) : Prop :=
  ∀ f v err, write target f v = .error err ↔ write target' f v = .error err

/-- A write that succeeds does not change which writes fail. -/
def Steady : Prop :=
  ∀ target f v changed target', write target f v = .ok (changed, target') → FailAlike write target' target

/-- A field that is skipped leaves the target, and another one is written. -/
def Copies (start target : τ) (f : FieldDef) (target' : τ) : Prop :=
  Skips read write start f ∧ target' = target ∨ ¬ Skips read write start f ∧ Writes read write target f target'

/-- How a copy of fields ends: none of them fails and each is written or skipped, or it stops at the first that fails. -/
inductive Ends (start target : τ) (fs : List FieldDef) : Except MappingError Bool × τ → Prop where
  | done {changed : Bool} {target' : τ} (sound : ∀ f ∈ fs, ∀ err, ¬ Fails read write start f err)
      (run : Run (Copies read write start) target fs target') : Ends start target fs (.ok changed, target')
  | stopped {before after : List FieldDef} {f : FieldDef} {err : FieldError} {target' : τ}
      (split : fs = before ++ f :: after) (sound : ∀ g ∈ before, ∀ err, ¬ Fails read write start g err)
      (fails : Fails read write start f err) : Ends start target fs (.error (.conversion f.name err), target')

end Copy

/-- An answer is a conversion error exactly if one of some fields fails; it names the first of them with the cause, and
there is no other error. -/
structure StopsAtFirst {α : Type} (fails : FieldDef → FieldError → Prop) (fs : List FieldDef)
    (answer : Except MappingError α) : Prop where
  conversion_iff : (∃ name cause, answer = .error (.conversion name cause)) ↔ ∃ f ∈ fs, ∃ err, fails f err
  first : ∀ e, answer = .error e → ∃ before f after err, fs = before ++ f :: after ∧
    (∀ g ∈ before, ∀ err, ¬ fails g err) ∧ fails f err ∧ e = .conversion f.name err

/-- Both sides have a field. -/
def Shares {β : Type} (m : Mapping β) (o : PropertyObject) (f : FieldDef) : Prop :=
  m.records.hasMember f.name = true ∧ ObjectAccessor.Declares o f

/-- A field that both sides have is written, and another one leaves the target. -/
def CopiesShared {β τ : Type} (m : Mapping β) (o : PropertyObject) (read : FieldDef → Except FieldError (Option Value))
    (write : τ → FieldDef → Option Value → Except FieldError (Bool × τ)) (target : τ) (f : FieldDef) (target' : τ) :
    Prop :=
  m.Shares o f ∧ Writes read write target f target' ∨ ¬ m.Shares o f ∧ target' = target

/-- The conversions of a class skip the fields that one side does not have, and stop at the first that fails. -/
structure SkipsMissing {β : Type} (m : Mapping β) (c : ClassDef) (blank b : β) (o : PropertyObject) : Prop where
  toRecord_missing : ∀ e err, m.toRecord o = .error e → e.fieldError? = some err → err.isMissing = false
  toRecord_stops : StopsAtFirst (Fails (m.objects.get o) m.records.set blank) c.fields (m.toRecord o)
  toRecord_copies : ∀ b', m.toRecord o = .ok b' →
    Run (m.CopiesShared o (m.objects.get o) m.records.set) blank c.fields b'
  toRecord_leaves : ∀ b', m.toRecord o = .ok b' → ∀ (γ : Type) (view : β → γ),
    (∀ f ∈ c.fields, ∀ s, m.records.member f = .ok s → s.Leaves view) → view b' = view blank
  applyTo_missing : ∀ e err, (m.applyTo b o).1 = .error e → e.fieldError? = some err → err.isMissing = false
  applyTo_stops : StopsAtFirst (Fails (m.records.get b) m.objects.set o) c.fields (m.applyTo b o).1
  applyTo_copies : ∀ changed o', m.applyTo b o = (.ok changed, o') →
    Run (m.CopiesShared o (m.records.get b) m.objects.set) o c.fields o'
  applyTo_leaves : ∀ changed o', m.applyTo b o = (.ok changed, o') → ∀ name,
    (c.hasField name = false ∨ m.records.hasMember name = false) → o'.property? name = o.property? name

/-! ### One field -/

section Copy

variable {τ : Type} {read : FieldDef → Except FieldError (Option Value)}
  {write : τ → FieldDef → Option Value → Except FieldError (Bool × τ)} {f : FieldDef} {target target' : τ}

/-- What is made of the error that a field meets. -/
theorem copyField_of_meets {err : FieldError} (h : Meets read write target f err) :
    copyField read write f target =
      if err.isMissing then .ok (false, target) else .error (.conversion f.name err) := by
  obtain unread | ⟨v, hread, unwritten⟩ := h
  · cases err <;> simp [copyField, readField, unread, FieldError.isMissing]
  · cases err <;> simp [copyField, readField, hread, writeField, unwritten, FieldError.isMissing]

theorem copyField_of_fails {err : FieldError} (h : Fails read write target f err) :
    copyField read write f target = .error (.conversion f.name err) := by
  rw [copyField_of_meets h.1, h.2, if_neg Bool.false_ne_true]

theorem copyField_of_skips (h : Skips read write target f) : copyField read write f target = .ok (false, target) := by
  obtain ⟨err, meets, missing⟩ := h
  rw [copyField_of_meets meets, missing, if_pos rfl]

/-- A field meets an error or is written. -/
theorem meets_or_writes (read : FieldDef → Except FieldError (Option Value))
    (write : τ → FieldDef → Option Value → Except FieldError (Bool × τ)) (f : FieldDef) (target : τ) :
    (∃ err, Meets read write target f err) ∨ ∃ target', Writes read write target f target' := by
  cases hread : read f with
  | error err => exact .inl ⟨err, .inl hread⟩
  | ok v =>
    cases hwrite : write target f v with
    | error err => exact .inl ⟨err, .inr ⟨v, hread, hwrite⟩⟩
    | ok r => exact .inr ⟨r.2, v, r.1, hread, hwrite⟩

/-- A field meets one error at most. -/
theorem Meets.unique {err err' : FieldError} (h : Meets read write target f err) (h' : Meets read write target f err') :
    err = err' := by
  rcases h with unread | ⟨v, hread, unwritten⟩ <;> rcases h' with unread' | ⟨v', hread', unwritten'⟩
  · exact Except.error.inj (unread.symm.trans unread')
  · cases unread.symm.trans hread'
  · cases hread.symm.trans unread'
  · obtain rfl := Except.ok.inj (hread.symm.trans hread')
    exact Except.error.inj (unwritten.symm.trans unwritten')

/-- A field that is written meets no error. -/
theorem Writes.not_meets (h : Writes read write target f target') (err : FieldError) :
    ¬ Meets read write target f err := by
  obtain ⟨v, changed, hread, hwrite⟩ := h
  rintro (unread | ⟨v', hread', unwritten⟩)
  · cases hread.symm.trans unread
  · obtain rfl := Except.ok.inj (hread.symm.trans hread')
    cases hwrite.symm.trans unwritten

theorem not_fails_of_skips (h : Skips read write target f) (err : FieldError) : ¬ Fails read write target f err := by
  obtain ⟨err', meets, missing⟩ := h
  rintro ⟨meets', real⟩
  rw [meets'.unique meets, missing] at real
  cases real

theorem meets_congr (alike : FailAlike write target target') {err : FieldError} :
    Meets read write target f err ↔ Meets read write target' f err := by
  simp only [Meets, alike f]

theorem fails_congr (alike : FailAlike write target target') {err : FieldError} :
    Fails read write target f err ↔ Fails read write target' f err := and_congr_left' (meets_congr alike)

theorem skips_congr (alike : FailAlike write target target') :
    Skips read write target f ↔ Skips read write target' f := by
  simp only [Skips, meets_congr alike]

/-! ### Copies -/

/-- A field that does not fail is copied before the others. -/
theorem Ends.cons {start : τ} {fs : List FieldDef} {answer : Except MappingError Bool × τ}
    (sound : ∀ err, ¬ Fails read write start f err) (step : Copies read write start target f target')
    (ends : Ends read write start target' fs answer) : Ends read write start target (f :: fs) answer := by
  cases ends with
  | done sounds run => exact .done (List.forall_mem_cons.2 ⟨sound, sounds⟩) (.cons step run)
  | stopped split sounds fails =>
    exact .stopped (congrArg (f :: ·) split) (List.forall_mem_cons.2 ⟨sound, sounds⟩) fails

/-- A copy ends at the first field that fails on the target that it started with. -/
theorem ends_copyFields (read : FieldDef → Except FieldError (Option Value)) (steady : Steady write) {start : τ}
    (fs : List FieldDef) (changed : Bool) (target : τ) (alike : FailAlike write target start) :
    Ends read write start target fs (copyFields read write fs changed target) := by
  -- the target changes from field to field; that writes fail on it as on the first one carries the induction
  induction fs generalizing changed target with
  | nil => exact .done (fun f hf => absurd hf List.not_mem_nil) (.nil target)
  | cons f fs ih =>
    rcases meets_or_writes read write f target with ⟨err, meets⟩ | ⟨target', writes⟩
    · cases missing : err.isMissing with
      | false =>
        have fails : Fails read write target f err := ⟨meets, missing⟩
        rw [copyFields, copyField_of_fails fails]
        exact .stopped (List.nil_append _).symm (fun g hg => absurd hg List.not_mem_nil) ((fails_congr alike).1 fails)
      | true =>
        have skips : Skips read write target f := ⟨err, meets, missing⟩
        have skips' := (skips_congr alike).1 skips
        rw [copyFields, copyField_of_skips skips]
        exact (ih (changed || false) target alike).cons (not_fails_of_skips skips') (.inl ⟨skips', rfl⟩)
    · have met : ∀ err, ¬ Meets read write start f err := fun err meets =>
        writes.not_meets err ((meets_congr alike).2 meets)
      have copied : ¬ Skips read write start f := by
        rintro ⟨err, meets, -⟩
        exact met err meets
      obtain ⟨v, c, hread, hwrite⟩ := writes
      have alike' : FailAlike write target' start := fun g w err =>
        (steady _ _ _ _ _ hwrite g w err).trans (alike g w err)
      rw [copyFields, copyField_of_ok hread hwrite]
      exact (ih (changed || c) target' alike').cons (fun err fails => met err fails.1)
        (.inr ⟨copied, v, c, hread, hwrite⟩)

/-- A copy answers with the first failure, if there is one. -/
theorem stopsAtFirst_copyFields (steady : Steady write) (start : τ) (fs : List FieldDef) (changed : Bool) :
    StopsAtFirst (Fails read write start) fs (copyFields read write fs changed start).1 := by
  cases hends : copyFields read write fs changed start with
  | mk answer target' =>
    have ends := ends_copyFields read steady fs changed start fun _ _ _ => Iff.rfl
    rw [hends] at ends
    cases ends with
    | done sound run =>
      refine ⟨?_, fun e failed => nomatch failed⟩
      constructor
      · rintro ⟨name, cause, failed⟩
        cases failed
      · rintro ⟨f, hf, err, fails⟩
        exact absurd fails (sound f hf err)
    | @stopped before after f err target' split sound fails =>
      have hf : f ∈ fs := by simp [split]
      refine ⟨⟨fun _ => ⟨f, hf, err, fails⟩, fun _ => ⟨f.name, err, rfl⟩⟩, fun e failed => ?_⟩
      exact ⟨before, f, after, err, split, sound, fails, (Except.error.inj failed).symm⟩

/-- A copy that succeeds writes or skips every field. -/
theorem run_of_copyFields (steady : Steady write) {start : τ} {fs : List FieldDef} {changed changed' : Bool}
    (copied : copyFields read write fs changed start = (.ok changed', target')) :
    Run (Copies read write start) start fs target' := by
  have ends := ends_copyFields read steady fs changed start fun _ _ _ => Iff.rfl
  rw [copied] at ends
  cases ends with
  | done sound run => exact run

/-- An answer that has the same errors stops alike. -/
theorem StopsAtFirst.congr {α δ : Type} {fails : FieldDef → FieldError → Prop} {fs : List FieldDef}
    {answer : Except MappingError α} {answer' : Except MappingError δ} (stops : StopsAtFirst fails fs answer)
    (same : ∀ e, answer' = .error e ↔ answer = .error e) : StopsAtFirst fails fs answer' where
  conversion_iff := by
    simp only [same]
    exact stops.conversion_iff
  first e failed := stops.first e ((same e).1 failed)

/-- What stops at a failure does not report a field as missing. -/
theorem StopsAtFirst.isMissing_of_fieldError? {α : Type} {start : τ} {fs : List FieldDef} {answer : Except MappingError α}
    (stops : StopsAtFirst (Fails read write start) fs answer) {e : MappingError} {err : FieldError}
    (failed : answer = .error e) (cause : e.fieldError? = some err) : err.isMissing = false := by
  obtain ⟨before, f, after, err', split, sound, fails, rfl⟩ := stops.first e failed
  rw [← Option.some.inj cause]
  exact fails.2

end Copy

/-! ### Objects and records -/

theorem steady_objects (a : ObjectAccessor) : Steady a.set := by
  intro o f v changed o' written g w err
  have alike := ObjectAccessor.alike_set written
  exact ⟨ObjectAccessor.set_eq_error_congr alike, ObjectAccessor.set_eq_error_congr alike.symm⟩

end Mapping

namespace RecordAccessor

variable {β : Type} {a : RecordAccessor β}

theorem Built.exists_of_member (built : a.Built) {f : FieldDef} {s : Member β} (h : a.member f = .ok s) :
    ∃ (τ : Type) (_ : FieldValue τ) (_ : DecidableEq τ) (get : β → Option τ) (set : β → Option τ → β),
      s = Member.of get set := by
  induction built with
  | empty typeName => simp [member, RecordAccessor.empty] at h
  | withMember built fieldName get set ih =>
    rw [member, RecordAccessor.withMember, OrderedMap.get?_insert] at h
    by_cases same : FieldName.accessor fieldName = FieldName.accessor f.name
    · rw [if_pos same] at h
      exact ⟨_, _, _, get, set, (Except.ok.inj h).symm⟩
    · rw [if_neg same] at h
      exact ih h

/-- Whether a write fails, and with which error, does not depend on the record. -/
theorem Built.set_eq_error_congr (built : a.Built) {b b' : β} {f : FieldDef} {v : Option Value} {err : FieldError}
    (failed : a.set b f v = .error err) : a.set b' f v = .error err := by
  cases found : a.member f with
  | error missing =>
    rw [set, found] at failed ⊢
    exact failed
  | ok s =>
    obtain ⟨τ, _, _, getter, setter, rfl⟩ := built.exists_of_member found
    rw [set, found] at failed ⊢
    cases refused : (Member.of getter setter).set b (reduceSelection f v) with
    | ok r => simp only [refused, reduceCtorEq] at failed
    | error actual =>
      have refused' : (Member.of getter setter).set b' (reduceSelection f v) = .error actual :=
        Member.set_of_eq_error_iff.2 (Member.set_of_eq_error_iff.1 refused)
      simp only [refused] at failed
      simp only [refused', failed]

end RecordAccessor

namespace Mapping

theorem steady_records {β : Type} {a : RecordAccessor β} (built : a.Built) : Steady a.set :=
  fun _ _ _ _ _ _ _ _ _ => ⟨built.set_eq_error_congr, built.set_eq_error_congr⟩

/-! ### Conversions -/

section Conversion

variable {β : Type} {m : Mapping β} {c : ClassDef} {blank b : β} {o : PropertyObject} {f : FieldDef}

/-- A copy tells the fields that one side does not have by the errors that report them as missing. -/
theorem copiesShared_of_copies {τ : Type} {read : FieldDef → Except FieldError (Option Value)}
    {write : τ → FieldDef → Option Value → Except FieldError (Bool × τ)} {start t t' : τ} {source target : Prop}
    (shares : m.Shares o f ↔ source ∧ target)
    (unread : (∃ err, read f = .error err ∧ err.isMissing = true) ↔ ¬ source)
    (unwritten : ∀ v, (∃ err, write start f v = .error err ∧ err.isMissing = true) ↔ ¬ target)
    (step : Copies read write start t f t') : m.CopiesShared o read write t f t' := by
  rcases step with ⟨⟨err, meets, missing⟩, same⟩ | ⟨copied, writes⟩
  · refine .inr ⟨fun shared => ?_, same⟩
    obtain ⟨onSource, onTarget⟩ := shares.1 shared
    rcases meets with failed | ⟨v, -, failed⟩
    · exact unread.1 ⟨err, failed, missing⟩ onSource
    · exact (unwritten v).1 ⟨err, failed, missing⟩ onTarget
  · refine .inl ⟨shares.2 ⟨?_, ?_⟩, writes⟩
    · refine Classical.byContradiction fun lacking => ?_
      obtain ⟨err, failed, missing⟩ := unread.2 lacking
      exact copied ⟨err, .inl failed, missing⟩
    · obtain ⟨v, changed, hread, -⟩ := writes
      refine Classical.byContradiction fun lacking => ?_
      obtain ⟨err, failed, missing⟩ := (unwritten v).2 lacking
      exact copied ⟨err, .inr ⟨v, hread, failed⟩, missing⟩

theorem copiesShared_toRecord (t : β) (f : FieldDef) (t' : β)
    (step : Copies (m.objects.get o) m.records.set blank t f t') :
    m.CopiesShared o (m.objects.get o) m.records.set t f t' :=
  copiesShared_of_copies and_comm ObjectAccessor.get_missing_iff
    (fun _ => RecordAccessor.set_missing_iff.trans Bool.eq_false_iff) step

theorem copiesShared_applyTo (t : PropertyObject) (f : FieldDef) (t' : PropertyObject)
    (step : Copies (m.records.get b) m.objects.set o t f t') :
    m.CopiesShared o (m.records.get b) m.objects.set t f t' :=
  copiesShared_of_copies Iff.rfl (RecordAccessor.get_missing_iff.trans Bool.eq_false_iff)
    (fun _ => ObjectAccessor.set_missing_iff) step

/-- Copying a field to a record leaves what the member behind it leaves. -/
theorem view_eq_of_copiesShared {γ : Type} {view : β → γ}
    (leaves : ∀ s, m.records.member f = .ok s → s.Leaves view) {t t' : β}
    (step : m.CopiesShared o (m.objects.get o) m.records.set t f t') : view t' = view t := by
  rcases step with ⟨shares, v, changed, -, written⟩ | ⟨-, rfl⟩
  · obtain ⟨s, found⟩ := RecordAccessor.member_of_hasMember shares.1
    rw [RecordAccessor.set, found] at written
    cases taken : s.set t (RecordAccessor.reduceSelection f v) with
    | error actual => simp only [taken, reduceCtorEq] at written
    | ok r =>
      simp only [taken, Except.ok.injEq] at written
      exact leaves s found t _ changed t' (written ▸ taken)
  · rfl

/-- Copying a field to an object leaves every property but the one of a field that has a member. -/
theorem property?_of_copiesShared (hf : f ∈ c.fields) {name : String}
    (other : c.hasField name = false ∨ m.records.hasMember name = false) {t t' : PropertyObject}
    (step : m.CopiesShared o (m.records.get b) m.objects.set t f t') : t'.property? name = t.property? name := by
  rcases step with ⟨shares, v, changed, -, written⟩ | ⟨-, rfl⟩
  · have ne : f.name ≠ name := by
      rintro rfl
      rcases other with undefined | unbacked
      · exact Bool.false_ne_true (undefined.symm.trans (ClassDef.hasField_of_mem_fields hf))
      · exact Bool.false_ne_true (unbacked.symm.trans shares.1)
    obtain ⟨-, raw, -, -, rfl⟩ := ObjectAccessor.set_eq_ok_iff.1 written
    rw [PropertyObject.property?_setProperty, if_neg fun same => ne same.1]
  · rfl

/-- A conversion to a record copies the fields of the class to the starting record. -/
theorem toRecord_eq_error_iff (classDef : m.classDef = some c) (wired : m.blank = some blank)
    (bound : o.classRef = c.classRef) (e : MappingError) :
    m.toRecord o = .error e ↔ (copyFields (m.objects.get o) m.records.set c.fields false blank).1 = .error e := by
  simp only [toRecord, requireClassOf_of_classRef classDef bound.symm, requireBlank, wired]
  rcases copyFields (m.objects.get o) m.records.set c.fields false blank with ⟨_ | _, _⟩ <;> simp

theorem toRecord_eq_ok_iff (classDef : m.classDef = some c) (wired : m.blank = some blank)
    (bound : o.classRef = c.classRef) {b' : β} :
    m.toRecord o = .ok b' ↔
      ∃ changed, copyFields (m.objects.get o) m.records.set c.fields false blank = (.ok changed, b') := by
  simp only [toRecord, requireClassOf_of_classRef classDef bound.symm, requireBlank, wired]
  rcases copyFields (m.objects.get o) m.records.set c.fields false blank with ⟨_ | _, _⟩ <;> simp

theorem applyTo_eq (classDef : m.classDef = some c) (bound : o.classRef = c.classRef) (b : β) :
    m.applyTo b o = copyFields (m.records.get b) m.objects.set c.fields false o := by
  simp only [applyTo, requireClassOf_of_classRef classDef bound.symm]

end Conversion

/-- **The conversions of a class skip exactly the fields that one side does not have, and stop at the first field that
fails otherwise.**  What they skip stays as it is in the object, and as the mapping starts with in the record. -/
theorem skipsMissing {β : Type} {m : Mapping β} {c : ClassDef} {blank : β} (classDef : m.classDef = some c)
    (wired : m.blank = some blank) (built : m.records.Built) (b : β) (o : PropertyObject)
    (bound : o.classRef = c.classRef) : m.SkipsMissing c blank b o := by
  have applied := applyTo_eq classDef bound b
  have toRecord_stops : StopsAtFirst (Fails (m.objects.get o) m.records.set blank) c.fields (m.toRecord o) :=
    (stopsAtFirst_copyFields (steady_records built) blank c.fields false).congr
      (toRecord_eq_error_iff classDef wired bound)
  have applyTo_stops : StopsAtFirst (Fails (m.records.get b) m.objects.set o) c.fields (m.applyTo b o).1 := by
    rw [applied]
    exact stopsAtFirst_copyFields (steady_objects m.objects) o c.fields false
  have toRecord_copies : ∀ b', m.toRecord o = .ok b' →
      Run (m.CopiesShared o (m.objects.get o) m.records.set) blank c.fields b' := by
    intro b' made
    obtain ⟨changed, copied⟩ := (toRecord_eq_ok_iff classDef wired bound).1 made
    exact (run_of_copyFields (steady_records built) copied).imp copiesShared_toRecord
  have applyTo_copies : ∀ changed o', m.applyTo b o = (.ok changed, o') →
      Run (m.CopiesShared o (m.records.get b) m.objects.set) o c.fields o' := by
    intro changed o' copied
    rw [applied] at copied
    exact (run_of_copyFields (steady_objects m.objects) copied).imp copiesShared_applyTo
  exact
    { toRecord_missing := fun e err failed cause => toRecord_stops.isMissing_of_fieldError? failed cause
      toRecord_stops := toRecord_stops
      toRecord_copies := toRecord_copies
      toRecord_leaves := fun b' made γ view leaves =>
        (toRecord_copies b' made).view_eq view fun f hf _ _ => view_eq_of_copiesShared (leaves f hf)
      applyTo_missing := fun e err failed cause => applyTo_stops.isMissing_of_fieldError? failed cause
      applyTo_stops := applyTo_stops
      applyTo_copies := applyTo_copies
      applyTo_leaves := fun changed o' copied name other =>
        (applyTo_copies changed o' copied).view_eq (·.property? name) fun f hf _ _ =>
          property?_of_copiesShared hf other }

end Mapping

namespace MenuItem

/-- A mapping of entries that has no tags, and takes the note for a target. -/
def draft : Mapping MenuItem where
  records := ((RecordAccessor.empty "MenuItem").withMember "label" (slot labelField).member).withMember "target"
    (Member.of (fun b => some b.note) fun b x => { b with note := x.getD "" })
  blank := some { tags := some ["new"] }
  classDef := some itemClass

/-- An entry that leads to a document. -/
def homeEntry : PropertyObject :=
  let o := PropertyObject.create ⟨"xwiki", "Menu", "Main"⟩ itemClass 0 0
  let o := (o.setProperty "label" (some (.text "Home"))).2
  let o := (o.setProperty "tags" (some (.list ["nav"]))).2
  (o.setProperty "target" (some (.text "Contact"))).2

/-- The document does not fit the note, so no record is made of the entry; a record without a note is copied to it, and
leaves the tags. -/
theorem skipsMissing_homeEntry :
    draft.records.Built ∧ homeEntry.classRef = itemClass.classRef ∧
      (∃ name cause, draft.toRecord homeEntry = .error (.conversion name cause)) ∧
      ∃ o', draft.applyTo { label := some "Start" } homeEntry = (.ok true, o') ∧
        o'.property? "tags" = some (some (.list ["nav"])) := by
  have built : draft.records.Built := .withMember (.withMember (.empty _) _ _ _) _ _ _
  have skips := Mapping.skipsMissing (m := draft) rfl rfl built { label := some "Start" } homeEntry rfl
  have read : draft.objects.get homeEntry targetField = .ok (some (.reference ⟨"xwiki", "Menu", "Contact"⟩)) := by rfl
  have refused : Mapping.Fails (draft.objects.get homeEntry) draft.records.set { tags := some ["new"] } targetField
      (.typeMismatch "target" "text" "reference") := ⟨.inr ⟨_, read, rfl⟩, rfl⟩
  refine ⟨built, rfl, ?_, _, rfl, skips.applyTo_leaves true _ rfl "tags" (.inr rfl)⟩
  exact skips.toRecord_stops.conversion_iff.2 ⟨targetField, mem_fields_iff.2 (.inr (.inr rfl)), _, refused⟩

end MenuItem

end TypedWiki
