import TypedWiki.OrderedMap

/-!
# Numbered collections — values listed by increasing number

The entries are kept sorted by number, so listing them needs no sorting and the largest number is the last one.
Numbers have 32 bits.  The number after the last of them all is zero again, so that a collection can be out of room
for one more value long before it is full: when both the last number and zero are taken.
-/

namespace TypedWiki

universe u

/-- Values under distinct numbers, smallest number first. -/
structure Numbered (ν : Type u) where
  entries : List (UInt32 × ν)
  sorted : (entries.map Prod.fst).Pairwise (· < ·)
  deriving DecidableEq

namespace Numbered

variable {ν : Type u}

/-- The collection without values. -/
def empty : Numbered ν := ⟨[], List.Pairwise.nil⟩

instance : EmptyCollection (Numbered ν) := ⟨empty⟩
instance : Inhabited (Numbered ν) := ⟨empty⟩

/-- The numbers, increasing. -/
def numbers (m : Numbered ν) : List UInt32 := m.entries.map Prod.fst

/-- The values, by increasing number. -/
def values (m : Numbered ν) : List ν := m.entries.map Prod.snd

/-- The number of values. -/
def size (m : Numbered ν) : Nat := m.entries.length

/-- The value listed under `n`. -/
def lookup (n : UInt32) : List (UInt32 × ν) → Option ν
  | [] => none
  | e :: es => if e.1 = n then some e.2 else lookup n es

/-- The value under `n`, if there is one. -/
def get? (m : Numbered ν) (n : UInt32) : Option ν := lookup n m.entries

/-- Whether there is a value under `n`. -/
def contains (m : Numbered ν) (n : UInt32) : Bool := (m.get? n).isSome

/-- One past the largest number, which wraps around to zero; zero when there is none. -/
def nextNumber (m : Numbered ν) : UInt32 :=
  match m.numbers.getLast? with
  | some n => n + 1
  | none => 0

/-- Puts an entry at its place, replacing one of the same number. -/
def put (n : UInt32) (v : ν) : List (UInt32 × ν) → List (UInt32 × ν)
  | [] => [(n, v)]
  | e :: es =>
    if n < e.1 then (n, v) :: e :: es
    else if n = e.1 then (n, v) :: es
    else e :: put n v es

theorem mem_map_fst_put {n k : UInt32} {v : ν} {es : List (UInt32 × ν)} :
    k ∈ (put n v es).map Prod.fst ↔ k = n ∨ k ∈ es.map Prod.fst := by
  induction es with
  | nil => simp [put]
  | cons e es ih =>
    by_cases hlt : n < e.1
    · simp [put, hlt]
    · by_cases heq : n = e.1
      · rw [put, if_neg hlt, if_pos heq, List.map_cons, List.map_cons, List.mem_cons, List.mem_cons]
        constructor
        · rintro (h | h)
          · exact Or.inl h
          · exact Or.inr (Or.inr h)
        · rintro (h | h | h)
          · exact Or.inl h
          · exact Or.inl (h.trans heq.symm)
          · exact Or.inr h
      · rw [put, if_neg hlt, if_neg heq, List.map_cons, List.map_cons, List.mem_cons, List.mem_cons, ih]
        exact or_left_comm

/-- A number that is neither below nor equal to another is above it. -/
theorem lt_of_not_lt_of_ne {n k : UInt32} (lt : ¬ n < k) (ne : n ≠ k) : k < n :=
  UInt32.lt_of_le_of_ne (UInt32.not_lt.1 lt) (Ne.symm ne)

theorem sorted_put {n : UInt32} {v : ν} {es : List (UInt32 × ν)}
    (h : (es.map Prod.fst).Pairwise (· < ·)) : ((put n v es).map Prod.fst).Pairwise (· < ·) := by
  induction es with
  | nil => simp [put]
  | cons e es ih =>
    have h' := List.pairwise_cons.1 h
    rw [put]
    split
    · rename_i hlt
      refine List.pairwise_cons.2 ⟨?_, h⟩
      intro k hk
      rcases List.mem_cons.1 hk with rfl | hk
      · exact hlt
      · exact UInt32.lt_trans hlt (h'.1 k hk)
    · split
      · rename_i heq
        refine List.pairwise_cons.2 ⟨?_, h'.2⟩
        intro k hk
        rw [heq]
        exact h'.1 k hk
      · rename_i hlt hne
        refine List.pairwise_cons.2 ⟨?_, ih h'.2⟩
        intro k hk
        rcases mem_map_fst_put.1 hk with rfl | hk
        · exact lt_of_not_lt_of_ne hlt hne
        · exact h'.1 k hk

/-- Writes `v` under `n`. -/
def insert (m : Numbered ν) (n : UInt32) (v : ν) : Numbered ν := ⟨put n v m.entries, sorted_put m.sorted⟩

/-- Writes `v` under `n` unless a value is there already; the value that is there afterwards comes back. -/
def insertNew (m : Numbered ν) (n : UInt32) (v : ν) : ν × Numbered ν :=
  match m.get? n with
  | some held => (held, m)
  | none => (v, m.insert n v)

/-- Removes the value under `n`. -/
def erase (m : Numbered ν) (n : UInt32) : Numbered ν :=
  ⟨m.entries.filter (·.1 ≠ n), m.sorted.sublist (List.filter_sublist.map _)⟩

/-- Changes every value, which may depend on its number. -/
def mapValues {μ : Type u} (f : UInt32 → ν → μ) (m : Numbered ν) : Numbered μ :=
  ⟨m.entries.map fun e => (e.1, f e.1 e.2), by
    have h : (m.entries.map fun e => (e.1, f e.1 e.2)).map Prod.fst = m.entries.map Prod.fst := by
      simp [Function.comp_def]
    rw [h]
    exact m.sorted⟩

/-- Changes the value under `n` if there is one. -/
def modify (m : Numbered ν) (n : UInt32) (f : ν → ν) : Numbered ν :=
  m.mapValues fun k v => if k = n then f v else v

/-- Whether two collections hold equal values under the same numbers. -/
def same (eq : ν → ν → Bool) (m n : Numbered ν) : Bool :=
  m.size == n.size && (m.entries.zip n.entries).all fun (a, b) => a.1 == b.1 && eq a.2 b.2

/-! ### Laws -/

@[simp] theorem get?_empty (n : UInt32) : (empty : Numbered ν).get? n = none := rfl

theorem lookup_eq_none_iff {n : UInt32} {es : List (UInt32 × ν)} :
    lookup n es = none ↔ n ∉ es.map Prod.fst := by
  induction es with
  | nil => simp [lookup]
  | cons e es ih =>
    by_cases h : e.1 = n
    · simp [lookup, h]
    · simp [lookup, h, ih, Ne.symm h]

theorem get?_eq_none_iff {m : Numbered ν} {n : UInt32} : m.get? n = none ↔ n ∉ m.numbers :=
  lookup_eq_none_iff

theorem lookup_eq (n : UInt32) (es : List (UInt32 × ν)) : lookup n es = OrderedMap.lookup n es := by
  induction es with
  | nil => rfl
  | cons e es ih => rw [lookup, OrderedMap.lookup, ih]

theorem lookup_put (n k : UInt32) (v : ν) (es : List (UInt32 × ν)) :
    lookup k (put n v es) = if n = k then some v else lookup k es := by
  induction es with
  | nil => simp [put, lookup]
  | cons e es ih =>
    rw [put]
    split
    · rfl
    · split
      · rename_i h
        by_cases hk : n = k
        · simp [lookup, hk]
        · simp [lookup, hk, ← h]
      · rename_i h
        by_cases he : e.1 = k
        · have hk : n ≠ k := fun hk => h (hk.trans he.symm)
          simp [lookup, he, hk]
        · simp [lookup, he, ih]

/-- After a write the number has the new value and every other number its former one. -/
theorem get?_insert (m : Numbered ν) (n k : UInt32) (v : ν) :
    (m.insert n v).get? k = if n = k then some v else m.get? k :=
  lookup_put n k v m.entries

/-- After erasing a number it has no value and every other number its former one. -/
theorem get?_erase (m : Numbered ν) (n k : UInt32) :
    (m.erase n).get? k = if n = k then none else m.get? k := by
  simp only [get?, lookup_eq, erase]
  exact OrderedMap.lookup_filter_ne n k m.entries

theorem get?_mapValues {μ : Type u} (f : UInt32 → ν → μ) (m : Numbered ν) (n : UInt32) :
    (m.mapValues f).get? n = (m.get? n).map (f n) := by
  simp only [get?, lookup_eq, mapValues]
  exact OrderedMap.lookup_map f n m.entries

theorem mapValues_congr {μ : Type u} {f g : UInt32 → ν → μ} {m : Numbered ν}
    (h : ∀ e ∈ m.entries, f e.1 e.2 = g e.1 e.2) : m.mapValues f = m.mapValues g := by
  simp only [mapValues, Numbered.mk.injEq]
  exact List.map_congr_left fun e he => congrArg (Prod.mk e.1) (h e he)

theorem mapValues_mapValues {μ ρ : Type u} (f : UInt32 → ν → μ) (g : UInt32 → μ → ρ) (m : Numbered ν) :
    (m.mapValues f).mapValues g = m.mapValues fun n v => g n (f n v) := by
  simp [mapValues, Function.comp_def]

@[simp] theorem mapValues_self (m : Numbered ν) : (m.mapValues fun _ v => v) = m := by
  simp [mapValues]

theorem get?_modify (m : Numbered ν) (n k : UInt32) (f : ν → ν) :
    (m.modify n f).get? k = if k = n then (m.get? k).map f else m.get? k := by
  rw [modify, get?_mapValues]
  by_cases h : k = n <;> simp [h]

theorem nodup_numbers (m : Numbered ν) : m.numbers.Nodup := m.sorted.imp UInt32.ne_of_lt

/-- The values are listed under their numbers. -/
theorem get?_eq_some_iff {m : Numbered ν} {n : UInt32} {v : ν} : m.get? n = some v ↔ (n, v) ∈ m.entries := by
  rw [get?, lookup_eq]
  exact OrderedMap.lookup_eq_some_iff m.nodup_numbers

theorem mem_values_iff {m : Numbered ν} {v : ν} : v ∈ m.values ↔ ∃ n, m.get? n = some v := by
  simp only [values, List.mem_map, get?_eq_some_iff]
  constructor
  · rintro ⟨e, he, rfl⟩
    exact ⟨e.1, he⟩
  · rintro ⟨n, hn⟩
    exact ⟨(n, v), hn, rfl⟩

theorem put_of_lookup {n : UInt32} {v : ν} {es : List (UInt32 × ν)} (sorted : (es.map Prod.fst).Pairwise (· < ·))
    (h : lookup n es = some v) : put n v es = es := by
  induction es with
  | nil => cases h
  | cons e es ih =>
    obtain ⟨he, hes⟩ := List.pairwise_cons.1 sorted
    rw [lookup] at h
    split at h
    · rename_i heq
      obtain rfl := Option.some.inj h
      obtain rfl := heq
      rw [put, if_neg (UInt32.lt_irrefl _), if_pos rfl]
    · rename_i hne
      have later : n ∈ es.map Prod.fst := Decidable.not_not.1 (mt lookup_eq_none_iff.2 (by simp [h]))
      rw [put, if_neg (UInt32.lt_asymm (he n later)), if_neg (Ne.symm hne), ih hes h]

/-- Writing the value that a number has changes nothing. -/
theorem insert_of_get? {m : Numbered ν} {n : UInt32} {v : ν} (h : m.get? n = some v) : m.insert n v = m := by
  cases m with
  | mk entries sorted =>
    rw [insert, mk.injEq]
    exact put_of_lookup sorted h

/-- A value that is there already is as good as written once more. -/
theorem insertNew_eq (m : Numbered ν) (n : UInt32) (v : ν) :
    m.insertNew n v = ((m.get? n).getD v, m.insert n ((m.get? n).getD v)) := by
  rw [insertNew]
  cases held : m.get? n with
  | none => rfl
  | some old => rw [Option.getD_some, insert_of_get? held]

theorem map_put {n : UInt32} {es : List (UInt32 × ν)} (h : (es.map Prod.fst).Pairwise (· < ·)) (v : ν) (f : ν → ν) :
    ((put n v es).map fun e => (e.1, if e.1 = n then f e.2 else e.2)) = put n (f v) es := by
  induction es with
  | nil => simp [put]
  | cons e es ih =>
    obtain ⟨he, hes⟩ := List.pairwise_cons.1 h
    rw [put, put]
    split
    · rename_i hlt
      have hn : n ∉ (e :: es).map Prod.fst := by
        intro hm
        rcases List.mem_cons.1 hm with hm | hm
        · exact UInt32.ne_of_lt hlt hm
        · exact UInt32.lt_asymm hlt (he n hm)
      simpa using OrderedMap.map_of_not_mem hn f
    · split
      · rename_i heq
        subst heq
        have hn : e.1 ∉ es.map Prod.fst := fun hm => UInt32.lt_irrefl _ (he _ hm)
        simpa using OrderedMap.map_of_not_mem hn f
      · rename_i hne
        simp [ih hes, Ne.symm hne]

/-- Changing what was just written is writing the changed value. -/
theorem modify_insert (m : Numbered ν) (n : UInt32) (v : ν) (f : ν → ν) :
    (m.insert n v).modify n f = m.insert n (f v) := by
  have h : ((m.insert n v).modify n f).entries = (m.insert n (f v)).entries := map_put m.sorted v f
  cases hm : (m.insert n v).modify n f
  cases hi : m.insert n (f v)
  rw [hm, hi] at h
  congr

theorem length_put {n : UInt32} {v : ν} {es : List (UInt32 × ν)} (h : n ∉ es.map Prod.fst) :
    (put n v es).length = es.length + 1 := by
  induction es with
  | nil => rfl
  | cons e es ih =>
    rw [List.map_cons, List.mem_cons, not_or] at h
    rw [put]
    split
    · rfl
    · rw [if_neg h.1, List.length_cons, ih h.2, List.length_cons]

/-- A write under a free number adds a value. -/
theorem size_insert {m : Numbered ν} {n : UInt32} (h : m.get? n = none) (v : ν) : (m.insert n v).size = m.size + 1 :=
  length_put (get?_eq_none_iff.1 h)

theorem length_filter_ne {n : UInt32} {es : List (UInt32 × ν)} (h : (es.map Prod.fst).Nodup) :
    (es.filter (·.1 ≠ n)).length + (lookup n es).toList.length = es.length := by
  induction es with
  | nil => rfl
  | cons e es ih =>
    obtain ⟨he, hes⟩ := List.nodup_cons.1 h
    by_cases hn : e.1 = n
    · have others : es.filter (·.1 ≠ n) = es :=
        List.filter_eq_self.2 fun e' he' => by
          have hne : e'.1 ≠ n := fun heq => he (hn.trans heq.symm ▸ List.mem_map_of_mem he')
          simpa using hne
      rw [List.filter_cons_of_neg (by simpa using hn), others, lookup, if_pos hn]
      rfl
    · rw [List.filter_cons_of_pos (by simpa using hn), lookup, if_neg hn, List.length_cons, List.length_cons,
        ← ih hes]
      omega

/-- Erasing a number removes the value that it has. -/
theorem size_erase (m : Numbered ν) (n : UInt32) : (m.erase n).size + (m.get? n).toList.length = m.size :=
  length_filter_ne m.nodup_numbers

/-! ### Room for one more -/

/-- The last of all numbers. -/
def lastNumber : UInt32 := 4294967295

/-- Whether one more value gets a number of its own: the last number is not taken, or the one after it is not. -/
def HasRoom (m : Numbered ν) : Prop := m.get? lastNumber = none ∨ m.get? 0 = none

/-- A number is below the one after another that it does not exceed, unless numbers wrap around there. -/
theorem lt_succ_of_le {n k : UInt32} (le : n ≤ k) (ne : k ≠ lastNumber) : n < k + 1 := by
  have hne : k.toNat ≠ 4294967295 := fun h => ne (UInt32.toNat_inj.1 h)
  rw [UInt32.le_iff_toNat_le] at le
  rw [UInt32.lt_iff_toNat_lt, UInt32.toNat_add, UInt32.toNat_one]
  have := k.toNat_lt
  omega

theorem le_lastNumber (n : UInt32) : n ≤ lastNumber := by
  rw [UInt32.le_iff_toNat_le]
  exact Nat.le_of_lt_succ n.toNat_lt

/-- No number is above the last one that is taken. -/
theorem le_of_getLast? {m : Numbered ν} {n last : UInt32} (h : m.numbers.getLast? = some last) (hn : n ∈ m.numbers) :
    n ≤ last := by
  obtain ⟨init, split⟩ := List.getLast?_eq_some_iff.1 h
  have sorted : m.numbers.Pairwise (· < ·) := m.sorted
  rw [split] at hn sorted
  rcases List.mem_append.1 hn with hn | hn
  · exact UInt32.le_of_lt ((List.pairwise_append.1 sorted).2.2 n hn last (List.mem_singleton.2 rfl))
  · exact UInt32.le_of_eq (List.mem_singleton.1 hn)

/-- **The next number is free exactly if there is room.** -/
theorem get?_nextNumber_eq_none_iff {m : Numbered ν} : m.get? m.nextNumber = none ↔ m.HasRoom := by
  rw [HasRoom]
  cases h : m.numbers.getLast? with
  | none =>
    have free : ∀ n, m.get? n = none := fun n => get?_eq_none_iff.2 (by simp [List.getLast?_eq_none_iff.1 h])
    simp [free]
  | some last =>
    have next : m.nextNumber = last + 1 := by rw [nextNumber, h]
    by_cases full : last = lastNumber
    · -- the numbers wrap around to zero
      have taken : m.get? lastNumber ≠ none := fun free =>
        get?_eq_none_iff.1 free (full ▸ List.mem_of_getLast? h)
      have zero : m.nextNumber = 0 := by rw [next, full]; rfl
      rw [zero, or_iff_right taken]
    · have free : ∀ n, last < n → m.get? n = none := fun n above =>
        get?_eq_none_iff.2 fun hn => UInt32.not_lt.2 (le_of_getLast? h hn) above
      have above : last < lastNumber := UInt32.lt_of_le_of_ne (le_lastNumber last) full
      refine iff_of_true ?_ (Or.inl (free lastNumber above))
      rw [next]
      exact free _ (lt_succ_of_le (UInt32.le_refl last) full)

end Numbered

end TypedWiki
