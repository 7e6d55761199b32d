import Mathlib.Data.List.Induction
import TypedWiki.Object.Basic

/-!
# First definitions — which definitions of a list are the fields of a class

The fields of a class are read off a list of definitions, one after the other.  A definition is passed over if it is of
another class or if its name is taken, and only a definition that was not passed over takes a name.  So what counts of
the list so far are the definitions of the class alone.

* `ClassDef.ComesFirst`, `ClassDef.firsts`: the definitions that nothing before them in the list keeps out.
* `entries_foldl_addField`: the fields after any part of the list.
* `KeepsFirst`: the fields of a class, how they are looked up, and what a new object has of them.
* `keepsFirst`: so it is for every class and every list.
-/

namespace TypedWiki.ClassDef

variable {classRef : ClassRef} {fs : List FieldDef} {f : FieldDef}

/-- A definition of the class whose name no earlier definition of the class has. -/
def ComesFirst (classRef : ClassRef) (earlier : List FieldDef) (f : FieldDef) : Prop :=
  f.classRef = classRef ∧ ∀ g ∈ earlier, g.classRef = classRef → g.name ≠ f.name

instance (classRef : ClassRef) (earlier : List FieldDef) (f : FieldDef) : Decidable (ComesFirst classRef earlier f) :=
  inferInstanceAs (Decidable (_ ∧ _))

/-- The part of a list that is made of the definitions that come first at their places. -/
def firsts (classRef : ClassRef) (fs : List FieldDef) : List FieldDef :=
  (fs.zipIdx.filter fun e => ComesFirst classRef (fs.take e.2) e.1).map Prod.fst

/-! ### Definitions that come first -/

/-- One more definition at the end of the list keeps those before it. -/
theorem firsts_concat (classRef : ClassRef) (fs : List FieldDef) (f : FieldDef) :
    firsts classRef (fs ++ [f]) =
      if ComesFirst classRef fs f then firsts classRef fs ++ [f] else firsts classRef fs := by
  have before : (fs.zipIdx.filter fun e => ComesFirst classRef ((fs ++ [f]).take e.2) e.1) =
      fs.zipIdx.filter fun e => ComesFirst classRef (fs.take e.2) e.1 := by
    refine List.filter_congr fun e he => ?_
    have place : e.2 ≤ fs.length := Nat.le_of_lt (List.snd_lt_of_mem_zipIdx he)
    rw [List.take_append_of_le_length place]
  rw [firsts, List.zipIdx_append, List.filter_append, before, List.map_append, ← firsts]
  by_cases first : ComesFirst classRef fs f <;> simp [first]

theorem mem_firsts {pre post : List FieldDef} (first : ComesFirst classRef pre f) :
    f ∈ firsts classRef (pre ++ f :: post) := by
  have placed : (f, pre.length) ∈ (pre ++ f :: post).zipIdx :=
    List.mk_mem_zipIdx_iff_getElem?.2 (by simp)
  refine List.mem_map.2 ⟨_, List.mem_filter.2 ⟨placed, ?_⟩, rfl⟩
  rw [List.take_left]
  exact decide_eq_true first

/-- The definitions that come first have the names of all definitions of the class. -/
theorem mem_map_name_firsts_iff {name : String} :
    name ∈ (firsts classRef fs).map FieldDef.name ↔ ∃ g ∈ fs, g.classRef = classRef ∧ g.name = name := by
  induction fs using List.reverseRecOn with
  | nil => simp [firsts]
  | append_singleton fs f ih =>
    have ends : (∃ g ∈ fs ++ [f], g.classRef = classRef ∧ g.name = name) ↔
        (∃ g ∈ fs, g.classRef = classRef ∧ g.name = name) ∨ f.classRef = classRef ∧ f.name = name := by
      simp [or_and_right, exists_or]
    rw [firsts_concat, ends, ← ih]
    by_cases first : ComesFirst classRef fs f
    · rw [if_pos first, List.map_append, List.mem_append]
      simp [first.1, eq_comm]
    · rw [if_neg first]
      -- a definition of the class that does not come first has a name that is taken
      refine ⟨.inl, fun h => h.elim id ?_⟩
      rintro ⟨own, rfl⟩
      rw [ih]
      by_contra free
      exact first ⟨own, fun g hg of same => free ⟨g, hg, of, same⟩⟩

/-- So to come first is to be of the class and to have a name that is not taken. -/
theorem comesFirst_iff :
    ComesFirst classRef fs f ↔ f.classRef = classRef ∧ f.name ∉ (firsts classRef fs).map FieldDef.name := by
  rw [mem_map_name_firsts_iff, ComesFirst]
  simp only [not_exists, not_and, ne_eq]

/-! ### The fields -/

/-- The keys of a map that has definitions under their names. -/
theorem keys_of_entries {m : OrderedMap String FieldDef} (named : m.entries = fs.map fun f => (f.name, f)) :
    m.keys = fs.map FieldDef.name := by
  rw [OrderedMap.keys, named, List.map_map]
  rfl

/-- After any part of the list the fields are those that come first in it, under their names. -/
theorem entries_foldl_addField (classRef : ClassRef) (fs : List FieldDef) :
    (fs.foldl (addField classRef) OrderedMap.empty).entries = (firsts classRef fs).map fun f => (f.name, f) := by
  induction fs using List.reverseRecOn with
  | nil => rfl
  | append_singleton fs f ih =>
    rw [List.foldl_append, List.foldl_cons, List.foldl_nil, entries_addField, keys_of_entries ih, ih, firsts_concat]
    -- the names that are taken are those of the definitions that came first
    simp only [← comesFirst_iff]
    by_cases first : ComesFirst classRef fs f <;> simp [first]

theorem fields_eq_firsts (c : ClassDef) : c.fields = firsts c.classRef c.declared := by
  rw [fields, OrderedMap.values, fieldMap, entries_foldl_addField, List.map_map]
  exact List.map_id _

theorem keys_fieldMap (c : ClassDef) : c.fieldMap.keys = c.fields.map FieldDef.name := by
  rw [fields_eq_firsts]
  exact keys_of_entries (entries_foldl_addField c.classRef c.declared)

/-- What the fields of a class are, by the list of its definitions. -/
structure KeepsFirst (c : ClassDef) : Prop where
  /-- The fields are the definitions that come first in the list, in its order. -/
  fields : c.fields = firsts c.classRef c.declared
  /-- A field is found under its name, and nothing else is. -/
  field?_iff : ∀ name f, c.field? name = some f ↔ f ∈ c.fields ∧ f.name = name
  hasField_iff : ∀ name, c.hasField name = true ↔ ∃ f ∈ c.fields, f.name = name
  fieldCount : c.fieldCount = c.fields.length
  /-- A new object declares the names of the fields in their order and no other name, and none of them is set. -/
  create : ∀ document number guid,
    (PropertyObject.create document c number guid).fieldNames = c.fields.map FieldDef.name ∧
      ∀ name, (PropertyObject.create document c number guid).property? name =
        if name ∈ c.fields.map FieldDef.name then some none else none
  /-- The first definition of the class with a name is found, also after definitions of other classes with it. -/
  found : ∀ pre f post, c.declared = pre ++ f :: post → f.classRef = c.classRef →
    (∀ g ∈ pre, g.name = f.name → g.classRef ≠ c.classRef) → c.field? f.name = some f
  /-- Without a definition of another class the fields are the same. -/
  foreign : ∀ pre g post, c.declared = pre ++ g :: post → g.classRef ≠ c.classRef →
    { c with declared := pre ++ post }.fields = c.fields

/-- **The fields of a class are the first definitions of the class in its list, in their order**, for every class and
every list of definitions, and whatever else the list holds. -/
theorem keepsFirst (c : ClassDef) : c.KeepsFirst where
  fields := fields_eq_firsts c
  field?_iff name f := by
    constructor
    · intro h
      obtain rfl := (name_of_field? h).1
      exact ⟨mem_fields_iff.2 h, rfl⟩
    · rintro ⟨hf, rfl⟩
      exact mem_fields_iff.1 hf
  hasField_iff name := by rw [hasField_iff_mem_fields, List.mem_map]
  fieldCount := (List.length_map _).symm
  create document number guid := by
    refine ⟨(PropertyObject.fieldNames_create document c number guid).trans (keys_fieldMap c), fun name => ?_⟩
    simp only [PropertyObject.property?_create, ← hasField_iff_mem_fields, hasField, OrderedMap.contains, field?]
    cases c.fieldMap.get? name <;> rfl
  found pre f post listed own others := by
    have first : ComesFirst c.classRef pre f := ⟨own, fun g hg of same => others g hg same of⟩
    rw [← mem_fields_iff, fields_eq_firsts, listed]
    exact mem_firsts first
  foreign pre g post listed other := by
    rw [ClassDef.fields, ClassDef.fields, fieldMap, fieldMap, listed, List.foldl_append, List.foldl_append,
      List.foldl_cons, addField_of_ne other]

/-- The title of a survey. -/
def surveyTitle : FieldDef := FieldDef.make ⟨"Blog", "SurveyClass"⟩ "title" (.text none)

/-- The number of votes in a survey. -/
def surveyVotes : FieldDef := FieldDef.make ⟨"Blog", "SurveyClass"⟩ "votes" .number

/-- A class with a second title at the end of its list, and with a title of another class in front. -/
def surveyClass : ClassDef where
  classRef := ⟨"Blog", "SurveyClass"⟩
  declared :=
    [FieldDef.make ⟨"Blog", "PollClass"⟩ "title" .boolean, surveyTitle, surveyVotes,
      { surveyTitle with kind := .largeText }]

theorem keepsFirst_surveyClass :
    surveyClass.KeepsFirst ∧ surveyClass.fields = [surveyTitle, surveyVotes] ∧
      surveyClass.field? "title" = some surveyTitle := by
  have keeps := keepsFirst surveyClass
  have others : ∀ g ∈ [FieldDef.make ⟨"Blog", "PollClass"⟩ "title" .boolean],
      g.name = surveyTitle.name → g.classRef ≠ surveyClass.classRef := by decide
  exact ⟨keeps, keeps.fields.trans rfl, keeps.found [_] surveyTitle _ rfl rfl others⟩

end TypedWiki.ClassDef
