import Mathlib.Data.List.Nodup
import Mathlib.Data.List.Perm.Subperm
import TypedWiki.Proofs.Identifier.Lossless
import TypedWiki.Proofs.Identifier.Unique

/-!
# The first free ordinal — what the next identifier is, and how long it is searched

Different ordinals have different identifiers, so objects can make no more ordinals unavailable than there are objects
with a packed identifier.  The search from one upwards therefore ends soon, and it fails only where no ordinal is left.

* `Document.Carries`, `Document.packedCount`: the identifiers that are in use, and how many objects use one.
* `IdLayout.Free`: an ordinal that fits, with its identifier, which is not in use.
* `IdLayout.probe`: the search, round by round up to the limit of ordinals.
* `IdLayout.firstFree?`: the least free ordinal; `firstFree?_le`: it is among the first ones.
* `nextId_eq`, `probe_eq`: the next identifier and the search give its identifier.
* `findsLeastFree`: what the next identifier of a document is.
-/

namespace TypedWiki

namespace Document

/-- An object of the document carries an identifier as a packed one. -/
def Carries (d : Document) (id : ObjectId) : Prop := ∃ o ∈ d.allObjects, o.id = some (id, .packed)

/-- The number of objects that carry a packed identifier. -/
def packedCount (d : Document) : Nat := d.allObjects.countP (·.hasIdOf .packed)

theorem mem_packedIds_iff_carries {d : Document} {id : ObjectId} : id ∈ d.packedIds ↔ d.Carries id := by
  simp only [packedIds, List.mem_filterMap, PropertyObject.packedId?_eq_some_iff, Carries]

theorem length_packedIds (d : Document) : d.packedIds.length = d.packedCount := by
  rw [packedIds, List.length_filterMap_eq_countP, packedCount]
  refine List.countP_congr fun o _ => ?_
  rw [PropertyObject.packedId?, PropertyObject.hasIdOf]
  rcases o.id with _ | ⟨id, _ | _⟩ <;> simp

end Document

namespace IdLayout

variable {l : IdLayout} {d : Document} {id : ObjectId} {k : Nat}

/-- An ordinal from one on that fits into its bits, and whose identifier on a document no object carries. -/
structure Free (l : IdLayout) (d : Document) (k : Nat) (id : ObjectId) : Prop where
  positive : 1 ≤ k
  fits : k < 2 ^ l.ordinalBits
  computed : l.objectId d.ref d.language 0 k = .ok id
  unused : ¬ d.Carries id

/-- The answer where no ordinal is free; the limit is reported as a signed count, too. -/
def exhausted (l : IdLayout) : IdError :=
  .outOfRange ordinalCountName l.ordinalLimit.toUInt64.toInt64.toInt l.ordinalLimit

/-- The search from an ordinal on for at most some rounds: the number of rounds that it takes and its answer.  The
ordinal is a word that is read as a signed count, and a count that is refused ends the search. -/
def probe (l : IdLayout) (d : Document) : Nat → Nat → Nat × Except IdError ObjectId
  | 0, _ => (0, .error l.exhausted)
  | rounds + 1, ordinal =>
    match l.objectId d.ref d.language 0 ordinal.toUInt64.toInt64.toInt with
    | .error e => (1, .error e)
    | .ok id =>
      if id ∈ d.packedIds then
        let (taken, answer) := probe l d rounds (ordinal + 1)
        (taken + 1, answer)
      else (1, .ok id)

/-! ### Identifiers of ordinals -/

theorem ordinalLimit_eq (l : IdLayout) : l.ordinalLimit = 2 ^ l.ordinalBits := Nat.one_shiftLeft _

theorem ordinalLimit_le (l : IdLayout) : l.ordinalLimit ≤ 2 ^ 63 := by
  have bits := l.leaves_hash
  rw [ordinalLimit_eq]
  exact Nat.pow_le_pow_right (by decide) (by omega)

/-- An ordinal that fits is not refused. -/
theorem objectId_eq_ordinalId (fits : k < 2 ^ l.ordinalBits) (d : Document) :
    l.objectId d.ref d.language 0 k = .ok (l.ordinalId d k) := by
  have collision : FitsBits l.collisionBits 0 := ⟨by decide, Int.pow_pos (by decide)⟩
  have ordinal : FitsBits l.ordinalBits k := ⟨Int.natCast_nonneg k, by exact_mod_cast fits⟩
  exact pack_eq_ok_iff.2 ⟨collision, ordinal, rfl⟩

/-- The ordinal is read back from its identifier. -/
theorem ordinalId_inj {k' : Nat} (fits : k < 2 ^ l.ordinalBits) (fits' : k' < 2 ^ l.ordinalBits)
    (same : l.ordinalId d k = l.ordinalId d k') : k = k' := by
  have holds := holds_of_pack (objectId_eq_ordinalId fits d)
  have holds' := holds_of_pack (objectId_eq_ordinalId fits' d)
  exact_mod_cast ((holds.eq_iff holds').1 same).2.1

theorem free_iff : l.Free d k id ↔
    1 ≤ k ∧ k < 2 ^ l.ordinalBits ∧ id = l.ordinalId d k ∧ l.ordinalId d k ∉ d.packedIds := by
  rw [Document.mem_packedIds_iff_carries]
  constructor
  · rintro ⟨positive, fits, computed, unused⟩
    obtain rfl := Except.ok.inj ((objectId_eq_ordinalId fits d).symm.trans computed)
    exact ⟨positive, fits, rfl, unused⟩
  · rintro ⟨positive, fits, rfl, unused⟩
    exact ⟨positive, fits, objectId_eq_ordinalId fits d, unused⟩

/-! ### The least free ordinal -/

/-- Whether the identifier of an ordinal is not in use. -/
def isUnused (l : IdLayout) (d : Document) (k : Nat) : Bool := !d.packedIds.contains (l.ordinalId d k)

/-- The least ordinal from one on, below the limit, whose identifier is not in use. -/
def firstFree? (l : IdLayout) (d : Document) : Option Nat :=
  (List.range' 1 (l.ordinalLimit - 1)).find? (l.isUnused d)

theorem isUnused_iff : l.isUnused d k = true ↔ l.ordinalId d k ∉ d.packedIds := by simp [isUnused]

theorem mem_ordinals_iff : k ∈ List.range' 1 (l.ordinalLimit - 1) ↔ 1 ≤ k ∧ k < 2 ^ l.ordinalBits := by
  rw [List.mem_range'_1, ordinalLimit_eq]
  have positive : 0 < 2 ^ l.ordinalBits := Nat.two_pow_pos _
  omega

theorem firstFree?_eq_some_iff :
    l.firstFree? d = some k ↔ l.Free d k (l.ordinalId d k) ∧ ∀ k' id', l.Free d k' id' → k ≤ k' := by
  rw [firstFree?, List.find?_range'_eq_some, mem_ordinals_iff, free_iff, isUnused_iff]
  simp only [true_and]
  constructor
  · rintro ⟨unused, ⟨positive, fits⟩, before⟩
    refine ⟨⟨positive, fits, unused⟩, fun k' id' free => Nat.le_of_not_lt fun less => ?_⟩
    obtain ⟨positive', -, -, unused'⟩ := free_iff.1 free
    have used := before k' positive' less
    rw [isUnused_iff.2 unused'] at used
    cases used
  · rintro ⟨⟨positive, fits, unused⟩, least⟩
    refine ⟨unused, ⟨positive, fits⟩, fun j positive' less => ?_⟩
    by_contra used
    have free : l.Free d j (l.ordinalId d j) :=
      free_iff.2 ⟨positive', Nat.lt_trans less fits, rfl, isUnused_iff.1 (by simpa using used)⟩
    exact Nat.not_le_of_lt less (least j _ free)

theorem firstFree?_eq_none_iff : l.firstFree? d = none ↔ ∀ k id, ¬ l.Free d k id := by
  rw [firstFree?, List.find?_eq_none]
  constructor
  · intro used k id free
    obtain ⟨positive, fits, -, unused⟩ := free_iff.1 free
    exact used k (mem_ordinals_iff.2 ⟨positive, fits⟩) (isUnused_iff.2 unused)
  · intro none k hk unused
    obtain ⟨positive, fits⟩ := mem_ordinals_iff.1 hk
    exact none k _ (free_iff.2 ⟨positive, fits, rfl, isUnused_iff.1 unused⟩)

/-- As many ordinals as fit cannot all be in use by fewer objects. -/
theorem le_packedCount_of_used {n : Nat} (fit : n < 2 ^ l.ordinalBits)
    (used : ∀ k, 1 ≤ k → k ≤ n → l.ordinalId d k ∈ d.packedIds) : n ≤ d.packedCount := by
  have below : ∀ k ∈ List.range' 1 n, k < 2 ^ l.ordinalBits := fun k hk => by
    have := List.mem_range'_1.1 hk
    omega
  have distinct : ((List.range' 1 n).map (l.ordinalId d)).Nodup :=
    (List.nodup_range' 1).map_on fun k hk k' hk' same => ordinalId_inj (below k hk) (below k' hk') same
  have among : (List.range' 1 n).map (l.ordinalId d) ⊆ d.packedIds := by
    intro id hid
    obtain ⟨k, hk, rfl⟩ := List.mem_map.1 hid
    have bounds := List.mem_range'_1.1 hk
    exact used k bounds.1 (by omega)
  have shorter := (List.subperm_of_subset distinct among).length_le
  rwa [List.length_map, List.length_range', d.length_packedIds] at shorter

/-- The least free ordinal is at most one more than there are identifiers in use. -/
theorem firstFree?_le (h : l.firstFree? d = some k) : k ≤ d.packedCount + 1 := by
  obtain ⟨free, least⟩ := firstFree?_eq_some_iff.1 h
  have used : ∀ j, 1 ≤ j → j ≤ k - 1 → l.ordinalId d j ∈ d.packedIds := by
    intro j positive less
    by_contra unused
    have := least j _ (free_iff.2 ⟨positive, by have := free.fits; omega, rfl, unused⟩)
    have := free.positive
    omega
  have := le_packedCount_of_used (Nat.lt_of_le_of_lt (Nat.sub_le k 1) free.fits) used
  omega

/-- Where no ordinal is free there are as many identifiers in use as ordinals. -/
theorem le_packedCount_of_exhausted (h : l.firstFree? d = none) : 2 ^ l.ordinalBits - 1 ≤ d.packedCount := by
  have positive : 0 < 2 ^ l.ordinalBits := Nat.two_pow_pos _
  have fit : 2 ^ l.ordinalBits - 1 < 2 ^ l.ordinalBits := by omega
  refine le_packedCount_of_used fit fun k positive' less => ?_
  by_contra unused
  exact firstFree?_eq_none_iff.1 h k _ (free_iff.2 ⟨positive', by omega, rfl, unused⟩)

/-! ### The search -/

/-- What the search answers and how many rounds it takes, by the least free ordinal. -/
def outcome (l : IdLayout) (d : Document) : Nat × Except IdError ObjectId :=
  match l.firstFree? d with
  | some k => (k, .ok (l.ordinalId d k))
  | none => (l.ordinalLimit - 1, .error l.exhausted)

theorem probe_of_le {rounds ordinal : Nat} (bound : ordinal + rounds ≤ l.ordinalLimit) :
    l.probe d rounds ordinal =
      match (List.range' ordinal rounds).find? (l.isUnused d) with
      | some k => (k - ordinal + 1, .ok (l.ordinalId d k))
      | none => (rounds, .error l.exhausted) := by
  induction rounds generalizing ordinal with
  | zero => rfl
  | succ rounds ih =>
    have fits : ordinal < 2 ^ l.ordinalBits := by
      rw [← ordinalLimit_eq]
      omega
    have word : ordinal.toUInt64.toInt64.toInt = ordinal :=
      Int64.toInt_ofNat_of_lt (by have := l.ordinalLimit_le; omega)
    rw [probe, word, objectId_eq_ordinalId fits, List.range'_succ, List.find?_cons]
    by_cases used : l.ordinalId d ordinal ∈ d.packedIds
    · have unused : l.isUnused d ordinal = false := by simp [isUnused, used]
      simp only [used, if_true, unused, ih (show ordinal + 1 + rounds ≤ l.ordinalLimit by omega)]
      cases found : (List.range' (ordinal + 1) rounds).find? (l.isUnused d) with
      | none => rfl
      | some k =>
        have above := (List.mem_range'_1.1 (List.mem_of_find?_eq_some found)).1
        exact Prod.ext (by simp only; omega) rfl
    · simp [isUnused, used]

/-- The search from one on ends at the least free ordinal. -/
theorem probe_eq (l : IdLayout) (d : Document) : l.probe d (l.ordinalLimit - 1) 1 = l.outcome d := by
  have positive : 0 < l.ordinalLimit := by
    rw [ordinalLimit_eq]
    exact Nat.two_pow_pos _
  rw [probe_of_le (by omega), outcome, firstFree?]
  cases found : (List.range' 1 (l.ordinalLimit - 1)).find? (l.isUnused d) with
  | none => rfl
  | some k =>
    have above := (List.mem_range'_1.1 (List.mem_of_find?_eq_some found)).1
    exact Prod.ext (by simp only; omega) rfl

/-- Looking at one ordinal more than there are identifiers in use is enough. -/
theorem find?_candidateOrdinals (l : IdLayout) (d : Document) :
    (l.candidateOrdinals d.packedIds.length).find? (l.isUnused d) = l.firstFree? d := by
  rw [candidateOrdinals, d.length_packedIds]
  cases found : l.firstFree? d with
  | none =>
    rw [List.find?_eq_none]
    rw [firstFree?, List.find?_eq_none] at found
    intro k hk
    have bounds := List.mem_range'_1.1 hk
    exact found k (List.mem_range'_1.2 (by omega))
  | some k =>
    have near := firstFree?_le found
    rw [firstFree?, List.find?_range'_eq_some] at found
    obtain ⟨unused, hk, before⟩ := found
    have bounds := List.mem_range'_1.1 hk
    exact List.find?_range'_eq_some.2 ⟨unused, List.mem_range'_1.2 (by omega), before⟩

theorem nextId_eq (l : IdLayout) (d : Document) : l.nextId d = (l.outcome d).2 := by
  have search : ((l.candidateOrdinals d.packedIds.length).map (l.ordinalId d)).find? (!d.packedIds.contains ·) =
      (l.firstFree? d).map (l.ordinalId d) := by
    rw [List.find?_map, ← find?_candidateOrdinals]
    rfl
  simp only [nextId, search, outcome]
  cases l.firstFree? d <;> rfl

/-! ### The next identifier -/

theorem nextId_eq_ok_iff :
    l.nextId d = .ok id ↔ ∃ k, l.Free d k id ∧ ∀ k' id', l.Free d k' id' → k ≤ k' := by
  have found : l.nextId d = .ok id ↔ ∃ k, l.firstFree? d = some k ∧ id = l.ordinalId d k := by
    rw [nextId_eq, outcome]
    cases l.firstFree? d <;> simp [eq_comm]
  rw [found]
  constructor
  · rintro ⟨k, first, rfl⟩
    exact ⟨k, firstFree?_eq_some_iff.1 first⟩
  · rintro ⟨k, free, least⟩
    obtain ⟨-, -, rfl, -⟩ := free_iff.1 free
    exact ⟨k, firstFree?_eq_some_iff.2 ⟨free, least⟩, rfl⟩

theorem nextId_eq_error_iff {e : IdError} :
    l.nextId d = .error e ↔ (∀ k id, ¬ l.Free d k id) ∧ e = l.exhausted := by
  rw [nextId_eq, outcome, ← firstFree?_eq_none_iff]
  cases l.firstFree? d <;> simp [eq_comm]

/-- Reference, language and the identifiers in use are all that matters of a document. -/
theorem nextId_congr {d' : Document} (ref : d'.ref = d.ref) (language : d'.language = d.language)
    (carries : ∀ id, d'.Carries id ↔ d.Carries id) : l.nextId d' = l.nextId d := by
  have ordinals : l.ordinalId d' = l.ordinalId d := by
    funext k
    rw [ordinalId, ordinalId, ref, language]
  have unused : l.isUnused d' = l.isUnused d := by
    funext k
    rw [Bool.eq_iff_iff, isUnused_iff, isUnused_iff, ordinals, Document.mem_packedIds_iff_carries, carries,
      Document.mem_packedIds_iff_carries]
  rw [nextId_eq, nextId_eq, outcome, outcome, firstFree?, firstFree?, unused, ordinals]

/-- What the next identifier of a document is, and how it is found. -/
structure FindsLeastFree (l : IdLayout) (d : Document) : Prop where
  /-- There is one exactly if an ordinal is free. -/
  exists_iff : (∃ id, l.nextId d = .ok id) ↔ ∃ k id, l.Free d k id
  /-- It is that of the least free ordinal. -/
  ok_iff : ∀ id, l.nextId d = .ok id ↔ ∃ k, l.Free d k id ∧ ∀ k' id', l.Free d k' id' → k ≤ k'
  /-- Otherwise the ordinal count is out of range. -/
  error_iff : ∀ e, l.nextId d = .error e ↔ (∀ k id, ¬ l.Free d k id) ∧ e = l.exhausted
  /-- Objects without a packed identifier do not matter. -/
  eq_of_carries : ∀ d', d'.ref = d.ref → d'.language = d.language → (∀ id, d'.Carries id ↔ d.Carries id) →
    l.nextId d' = l.nextId d
  /-- While there are fewer identifiers in use than ordinals, one of the first ordinals is free. -/
  near : d.packedCount < 2 ^ l.ordinalBits - 1 →
    ∃ k id, l.nextId d = .ok id ∧ l.Free d k id ∧ k ≤ d.packedCount + 1
  /-- The search through all ordinals below the limit has the same answer, and takes at most one round more than there
  are identifiers in use. -/
  search : (l.probe d (l.ordinalLimit - 1) 1).2 = l.nextId d ∧
    (l.probe d (l.ordinalLimit - 1) 1).1 ≤ d.packedCount + 1

/-- **The next identifier is that of the least free ordinal, and there is none only if no ordinal is free**, for every
layout and every document. -/
theorem findsLeastFree (l : IdLayout) (d : Document) : l.FindsLeastFree d where
  exists_iff := by
    constructor
    · rintro ⟨id, next⟩
      obtain ⟨k, free, -⟩ := nextId_eq_ok_iff.1 next
      exact ⟨k, id, free⟩
    · rintro ⟨k, id, free⟩
      cases next : l.nextId d with
      | ok id' => exact ⟨id', rfl⟩
      | error e => exact absurd free ((nextId_eq_error_iff.1 next).1 k id)
  ok_iff _ := nextId_eq_ok_iff
  error_iff _ := nextId_eq_error_iff
  eq_of_carries _ := nextId_congr
  near few := by
    cases first : l.firstFree? d with
    | none =>
      have := le_packedCount_of_exhausted first
      omega
    | some k =>
      have answer : l.nextId d = .ok (l.ordinalId d k) := by rw [nextId_eq, outcome, first]
      exact ⟨k, _, answer, (firstFree?_eq_some_iff.1 first).1, firstFree?_le first⟩
  search := by
    rw [probe_eq, nextId_eq]
    refine ⟨rfl, ?_⟩
    rw [outcome]
    cases first : l.firstFree? d with
    | none =>
      have := le_packedCount_of_exhausted first
      rw [← ordinalLimit_eq] at this
      exact Nat.le_succ_of_le this
    | some k => exact firstFree?_le first

/-- A plan whose tasks have the identifiers of the first and the third ordinal, and that of the second one under an
earlier scheme. -/
def gappedPlan : Document :=
  let plan := Document.create ⟨"xwiki", "Plan", "Week"⟩
  ((plan.putNext Editor.task.classRef (Editor.taskWithId 0 (standard.ordinalId plan 1) .packed)).putNext
    Editor.task.classRef (Editor.taskWithId 1 (standard.ordinalId plan 2) .legacy)).putNext
    Editor.task.classRef (Editor.taskWithId 2 (standard.ordinalId plan 3) .packed)

theorem findsLeastFree_gappedPlan :
    gappedPlan.packedCount = 2 ∧ standard.FindsLeastFree gappedPlan ∧
      standard.nextId gappedPlan = .ok (standard.ordinalId gappedPlan 2) := by
  have finds := findsLeastFree standard gappedPlan
  have used : ∀ id, gappedPlan.Carries id ↔
      id = standard.ordinalId gappedPlan 1 ∨ id = standard.ordinalId gappedPlan 3 := by
    intro id
    rw [← Document.mem_packedIds_iff_carries]
    show id ∈ [standard.ordinalId gappedPlan 1, standard.ordinalId gappedPlan 3] ↔ _
    simp
  have small : ∀ {k : Nat}, k ≤ 3 → k < 2 ^ standard.ordinalBits := fun h => Nat.lt_of_le_of_lt h (by decide)
  have free : standard.Free gappedPlan 2 (standard.ordinalId gappedPlan 2) := by
    refine ⟨by decide, small (by decide), objectId_eq_ordinalId (small (by decide)) _, fun carried => ?_⟩
    rcases (used _).1 carried with same | same
    · exact absurd (ordinalId_inj (small (by decide)) (small (by decide)) same) (by decide)
    · exact absurd (ordinalId_inj (small (by decide)) (small (by decide)) same) (by decide)
  refine ⟨rfl, finds, (finds.ok_iff _).2 ⟨2, free, fun k id free' => ?_⟩⟩
  obtain ⟨positive, -, rfl, -⟩ := free_iff.1 free'
  by_contra less
  obtain rfl : k = 1 := by omega
  exact free'.unused ((used _).2 (.inl rfl))

end IdLayout

end TypedWiki
