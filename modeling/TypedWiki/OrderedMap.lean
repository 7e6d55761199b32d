/-!
# Ordered maps — finite maps that list their keys in order of first insertion

A map is a list of entries with distinct keys.  Writing a present key keeps its place, writing a new key appends
it, erasing closes the gap.  `get?` is the view through which each operation is stated; `SameContent` compares two
maps as sets of entries, so it ignores their orders.
-/

namespace TypedWiki

universe u v

/-- A map with a place for every key. -/
structure OrderedMap (κ : Type u) (ν : Type v) where
  entries : List (κ × ν)
  nodup_keys : (entries.map Prod.fst).Nodup
  deriving DecidableEq

namespace OrderedMap

variable {κ : Type u} {ν : Type v}

/-- The keys in order. -/
def keys (m : OrderedMap κ ν) : List κ := m.entries.map Prod.fst

/-- The values in the order of their keys. -/
def values (m : OrderedMap κ ν) : List ν := m.entries.map Prod.snd

/-- The number of entries. -/
def size (m : OrderedMap κ ν) : Nat := m.entries.length

/-- The map without entries. -/
def empty : OrderedMap κ ν := ⟨[], List.nodup_nil⟩

instance : EmptyCollection (OrderedMap κ ν) := ⟨empty⟩
instance : Inhabited (OrderedMap κ ν) := ⟨empty⟩

/-- Changes every value, which may depend on its key. -/
def mapValues {μ : Type v} (f : κ → ν → μ) (m : OrderedMap κ ν) : OrderedMap κ μ :=
  ⟨m.entries.map fun e => (e.1, f e.1 e.2), by
    have h : (m.entries.map fun e => (e.1, f e.1 e.2)).map Prod.fst = m.entries.map Prod.fst := by
      simp [Function.comp_def]
    rw [h]
    exact m.nodup_keys⟩

variable [DecidableEq κ]

/-- The value listed for `k`. -/
def lookup (k : κ) : List (κ × ν) → Option ν
  | [] => none
  | e :: es => if e.1 = k then some e.2 else lookup k es

/-- Overwrites the entry of `k`, or appends one. -/
def put (k : κ) (v : ν) : List (κ × ν) → List (κ × ν)
  | [] => [(k, v)]
  | e :: es => if e.1 = k then (k, v) :: es else e :: put k v es

/-- The value of `k`, if it has one. -/
def get? (m : OrderedMap κ ν) (k : κ) : Option ν := lookup k m.entries

/-- Whether `k` has a value. -/
def contains (m : OrderedMap κ ν) (k : κ) : Bool := (m.get? k).isSome

/-! ### Entries -/

theorem lookup_eq_none_iff {k : κ} {es : List (κ × ν)} :
    lookup k es = none ↔ k ∉ es.map Prod.fst := by
  induction es with
  | nil => simp [lookup]
  | cons e es ih =>
    by_cases h : e.1 = k
    · simp [lookup, h]
    · simp [lookup, h, ih, Ne.symm h]

theorem lookup_put (k k' : κ) (v : ν) (es : List (κ × ν)) :
    lookup k' (put k v es) = if k = k' then some v else lookup k' es := by
  induction es with
  | nil => simp [put, lookup]
  | cons e es ih =>
    by_cases h : e.1 = k
    · by_cases hk : k = k' <;> simp [put, lookup, h, hk]
    · by_cases hk : k = k'
      · subst hk
        simp [put, lookup, h, ih]
      · simp [put, lookup, h, ih, hk]

theorem map_fst_put (k : κ) (v : ν) (es : List (κ × ν)) :
    (put k v es).map Prod.fst =
      if k ∈ es.map Prod.fst then es.map Prod.fst else es.map Prod.fst ++ [k] := by
  induction es with
  | nil => simp [put]
  | cons e es ih =>
    by_cases h : e.1 = k
    · simp [put, h]
    · rw [put, if_neg h, List.map_cons, ih]
      by_cases hm : k ∈ es.map Prod.fst
      · simp only [hm, if_true, List.map_cons, List.mem_cons, or_true]
      · simp only [hm, if_false, List.map_cons, List.mem_cons, Ne.symm h, or_self, List.cons_append]

theorem nodup_map_fst_put {k : κ} {v : ν} {es : List (κ × ν)} (h : (es.map Prod.fst).Nodup) :
    ((put k v es).map Prod.fst).Nodup := by
  rw [map_fst_put]
  split
  · exact h
  · rename_i hk
    exact List.nodup_append.2 ⟨h, by simp, by
      intro a ha b hb
      simp only [List.mem_singleton] at hb
      rintro rfl
      exact hk (hb ▸ ha)⟩

theorem lookup_eq_some_iff {k : κ} {v : ν} {es : List (κ × ν)} (h : (es.map Prod.fst).Nodup) :
    lookup k es = some v ↔ (k, v) ∈ es := by
  induction es with
  | nil => simp [lookup]
  | cons e es ih =>
    obtain ⟨he, hes⟩ := List.nodup_cons.1 h
    by_cases hk : e.1 = k
    · have hv : (k, v) ∉ es := fun hm => he (hk ▸ List.mem_map.2 ⟨_, hm, rfl⟩)
      rw [lookup, if_pos hk, List.mem_cons, or_iff_left hv, Option.some.injEq, Prod.ext_iff]
      simp only [hk, true_and]
      exact eq_comm
    · rw [lookup, if_neg hk, ih hes, List.mem_cons, or_iff_right]
      rintro rfl
      exact hk rfl

theorem lookup_map {μ : Type v} (f : κ → ν → μ) (k : κ) (es : List (κ × ν)) :
    lookup k (es.map fun e => (e.1, f e.1 e.2)) = (lookup k es).map (f k) := by
  induction es with
  | nil => rfl
  | cons e es ih =>
    by_cases h : e.1 = k
    · simp [lookup, h]
    · simpa [lookup, h] using ih

theorem map_of_not_mem {k : κ} {es : List (κ × ν)} (h : k ∉ es.map Prod.fst) (f : ν → ν) :
    (es.map fun e => (e.1, if e.1 = k then f e.2 else e.2)) = es := by
  induction es with
  | nil => rfl
  | cons e es ih =>
    have hk : e.1 ≠ k := fun hk => h (hk ▸ List.mem_cons_self)
    rw [List.map_cons, if_neg hk, ih fun hm => h (List.mem_cons_of_mem _ hm)]

theorem map_put {k : κ} {es : List (κ × ν)} (h : (es.map Prod.fst).Nodup) (v : ν) (f : ν → ν) :
    ((put k v es).map fun e => (e.1, if e.1 = k then f e.2 else e.2)) = put k (f v) es := by
  induction es with
  | nil => simp [put]
  | cons e es ih =>
    obtain ⟨he, hes⟩ := List.nodup_cons.1 h
    by_cases hk : e.1 = k
    · subst hk
      simp [put, map_of_not_mem he]
    · simp [put, hk, ih hes]

theorem lookup_filter_ne (k k' : κ) (es : List (κ × ν)) :
    lookup k' (es.filter (·.1 ≠ k)) = if k = k' then none else lookup k' es := by
  simp only [ne_eq, decide_not]
  induction es with
  | nil => simp [lookup]
  | cons e es ih =>
    by_cases h : e.1 = k
    · rw [List.filter_cons_of_neg (by simp [h]), ih]
      by_cases hk : k = k'
      · simp [hk]
      · have he : e.1 ≠ k' := fun he => hk (h.symm.trans he)
        simp [hk, lookup, he]
    · rw [List.filter_cons_of_pos (by simp [h]), lookup, ih]
      by_cases hk : k = k'
      · simp [hk, hk ▸ h]
      · simp [hk, lookup]

/-! ### Operations -/

/-- Writes `v` under `k`; a present key keeps its place, a new key comes last. -/
def insert (m : OrderedMap κ ν) (k : κ) (v : ν) : OrderedMap κ ν :=
  ⟨put k v m.entries, nodup_map_fst_put m.nodup_keys⟩

/-- Removes `k`; the order of the others stays. -/
def erase (m : OrderedMap κ ν) (k : κ) : OrderedMap κ ν :=
  ⟨m.entries.filter (·.1 ≠ k), m.nodup_keys.sublist (List.filter_sublist.map _)⟩

/-- Changes the value of `k` if it has one. -/
def modify (m : OrderedMap κ ν) (k : κ) (f : ν → ν) : OrderedMap κ ν :=
  m.mapValues fun k' v => if k' = k then f v else v

/-- Writes the entries one after the other. -/
def ofList (es : List (κ × ν)) : OrderedMap κ ν :=
  es.foldl (fun m e => m.insert e.1 e.2) empty

/-- Whether two maps hold the same entries, in whatever order. -/
def sameContent (same : ν → ν → Bool) (m n : OrderedMap κ ν) : Bool :=
  m.size == n.size && m.entries.all fun e => (n.get? e.1).any (same e.2)

/-! ### Laws -/

@[simp] theorem get?_empty (k : κ) : (empty : OrderedMap κ ν).get? k = none := rfl

theorem get?_eq_none_iff {m : OrderedMap κ ν} {k : κ} : m.get? k = none ↔ k ∉ m.keys :=
  lookup_eq_none_iff

theorem contains_iff_mem_keys {m : OrderedMap κ ν} {k : κ} : m.contains k = true ↔ k ∈ m.keys := by
  rw [contains, Option.isSome_iff_ne_none, ne_eq, get?_eq_none_iff, Decidable.not_not]

/-- After a write the key has the new value and every other key its former one. -/
theorem get?_insert (m : OrderedMap κ ν) (k k' : κ) (v : ν) :
    (m.insert k v).get? k' = if k = k' then some v else m.get? k' :=
  lookup_put k k' v m.entries

/-- A write appends a new key and leaves the order of present keys. -/
theorem keys_insert (m : OrderedMap κ ν) (k : κ) (v : ν) :
    (m.insert k v).keys = if k ∈ m.keys then m.keys else m.keys ++ [k] :=
  map_fst_put k v m.entries

/-- After erasing a key it has no value and every other key its former one. -/
theorem get?_erase (m : OrderedMap κ ν) (k k' : κ) :
    (m.erase k).get? k' = if k = k' then none else m.get? k' :=
  lookup_filter_ne k k' m.entries

omit [DecidableEq κ] in
@[simp] theorem keys_mapValues {μ : Type v} (f : κ → ν → μ) (m : OrderedMap κ ν) :
    (m.mapValues f).keys = m.keys := by
  simp [keys, mapValues, Function.comp_def]

theorem get?_mapValues {μ : Type v} (f : κ → ν → μ) (m : OrderedMap κ ν) (k : κ) :
    (m.mapValues f).get? k = (m.get? k).map (f k) :=
  lookup_map f k m.entries

omit [DecidableEq κ] in
theorem mapValues_congr {μ : Type v} {f g : κ → ν → μ} {m : OrderedMap κ ν}
    (h : ∀ e ∈ m.entries, f e.1 e.2 = g e.1 e.2) : m.mapValues f = m.mapValues g := by
  simp only [mapValues, OrderedMap.mk.injEq]
  exact List.map_congr_left fun e he => congrArg (Prod.mk e.1) (h e he)

omit [DecidableEq κ] in
theorem mapValues_mapValues {μ ρ : Type v} (f : κ → ν → μ) (g : κ → μ → ρ) (m : OrderedMap κ ν) :
    (m.mapValues f).mapValues g = m.mapValues fun k v => g k (f k v) := by
  simp [mapValues, Function.comp_def]

omit [DecidableEq κ] in
@[simp] theorem mapValues_self (m : OrderedMap κ ν) : (m.mapValues fun _ v => v) = m := by
  simp [mapValues]

/-- The values are listed under their keys. -/
theorem get?_eq_some_iff {m : OrderedMap κ ν} {k : κ} {v : ν} : m.get? k = some v ↔ (k, v) ∈ m.entries :=
  lookup_eq_some_iff m.nodup_keys

theorem put_of_lookup {k : κ} {v : ν} {es : List (κ × ν)} (h : lookup k es = some v) : put k v es = es := by
  induction es with
  | nil => cases h
  | cons e es ih =>
    by_cases hk : e.1 = k
    · rw [lookup, if_pos hk, Option.some.injEq] at h
      rw [put, if_pos hk, ← hk, ← h]
    · rw [lookup, if_neg hk] at h
      rw [put, if_neg hk, ih h]

theorem put_of_not_mem {k : κ} {es : List (κ × ν)} (h : k ∉ es.map Prod.fst) (v : ν) : put k v es = es ++ [(k, v)] := by
  induction es with
  | nil => rfl
  | cons e es ih =>
    obtain ⟨head, tail⟩ := not_or.1 fun hm => h (List.mem_cons.2 hm)
    rw [put, if_neg (Ne.symm head), ih tail, List.cons_append]

/-- A new key is appended with its value. -/
theorem entries_insert_of_not_mem {m : OrderedMap κ ν} {k : κ} (h : k ∉ m.keys) (v : ν) :
    (m.insert k v).entries = m.entries ++ [(k, v)] :=
  put_of_not_mem h v

/-- Writing the value that a key has changes nothing. -/
theorem insert_of_get? {m : OrderedMap κ ν} {k : κ} {v : ν} (h : m.get? k = some v) : m.insert k v = m := by
  have he : (m.insert k v).entries = m.entries := put_of_lookup h
  cases m
  simpa [insert] using he

theorem mem_values_iff {m : OrderedMap κ ν} {v : ν} : v ∈ m.values ↔ ∃ k, m.get? k = some v := by
  simp only [values, List.mem_map, get?_eq_some_iff]
  constructor
  · rintro ⟨e, he, rfl⟩
    exact ⟨e.1, he⟩
  · rintro ⟨k, hk⟩
    exact ⟨(k, v), hk, rfl⟩

theorem get?_modify (m : OrderedMap κ ν) (k k' : κ) (f : ν → ν) :
    (m.modify k f).get? k' = if k' = k then (m.get? k').map f else m.get? k' := by
  rw [modify, get?_mapValues]
  by_cases h : k' = k <;> simp [h]

/-- Changing what was just written is writing the changed value. -/
theorem modify_insert (m : OrderedMap κ ν) (k : κ) (v : ν) (f : ν → ν) :
    (m.insert k v).modify k f = m.insert k (f v) := by
  have h : ((m.insert k v).modify k f).entries = (m.insert k (f v)).entries := map_put m.nodup_keys v f
  cases hm : (m.insert k v).modify k f
  cases hi : m.insert k (f v)
  rw [hm, hi] at h
  congr

/-- Changing the value that a key has is writing the changed one. -/
theorem modify_of_get? {m : OrderedMap κ ν} {k : κ} {v : ν} (h : m.get? k = some v) (f : ν → ν) :
    m.modify k f = m.insert k (f v) := by
  have written := modify_insert m k v f
  rw [insert_of_get? h] at written
  exact written

theorem modify_of_get?_eq_none {m : OrderedMap κ ν} {k : κ} (h : m.get? k = none) (f : ν → ν) : m.modify k f = m := by
  have he : (m.modify k f).entries = m.entries := map_of_not_mem (get?_eq_none_iff.1 h) f
  cases hm : m.modify k f
  cases m
  rw [hm] at he
  congr

theorem length_flatMap_put {β : Type} (f : ν → List β) (k : κ) (v : ν) (es : List (κ × ν)) :
    ((put k v es).flatMap fun e => f e.2).length + ((lookup k es).elim [] f).length =
      (es.flatMap fun e => f e.2).length + (f v).length := by
  induction es with
  | nil => simp [put, lookup]
  | cons e es ih =>
    by_cases h : e.1 = k
    · rw [put, if_pos h, lookup, if_pos h]
      simp only [List.flatMap_cons, List.length_append, Option.elim_some]
      omega
    · rw [put, if_neg h, lookup, if_neg h]
      simp only [List.flatMap_cons, List.length_append]
      omega

/-- A write exchanges what is listed for the former value for what is listed for the new one. -/
theorem length_flatMap_insert {β : Type} (f : ν → List β) (m : OrderedMap κ ν) (k : κ) (v : ν) :
    ((m.insert k v).values.flatMap f).length + ((m.get? k).elim [] f).length =
      (m.values.flatMap f).length + (f v).length := by
  simp only [values, List.flatMap_map]
  exact length_flatMap_put f k v m.entries

end OrderedMap

end TypedWiki
