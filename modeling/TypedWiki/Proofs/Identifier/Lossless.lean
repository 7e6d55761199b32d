import Mathlib.Algebra.Group.Int.Defs
import Mathlib.Algebra.Group.Nat.Defs
import Mathlib.Tactic.SplitIfs
import TypedWiki.Identifier.Packing

/-!
# Lossless packing — hash and counts read back from an identifier

An identifier is one sum: the hash without its low bits, the ordinal above the collision count, and the collision
count.  Its parts come back by division, and counts that do not fit are refused instead of cut.

* `FitsBits`, `RefusesCount`: the counts that a number of bits can hold, and why any other is refused.
* `IdLayout.StaysInWord`: no shift and no mask of a layout goes beyond 64 bits.
* `IdLayout.Holds`: the identifier from which a hash and two counts can be read back.
* `toNat_packWords`: the packed word as a sum.
* `pack_lossless`: what packing gives, for every layout, every hash and all counts.
-/

namespace TypedWiki

/-- A count that a number of bits can hold. -/
def FitsBits (bits : Nat) (count : Int) : Prop := 0 ≤ count ∧ count < 2 ^ bits

/-- Why a count is refused that a number of bits cannot hold. -/
inductive RefusesCount (what : String) (bits : Nat) (count : Int) : IdError → Prop where
  | negative (h : count < 0) : RefusesCount what bits count (.negativeCount what count)
  | tooLarge (h : 2 ^ bits ≤ count) : RefusesCount what bits count (.outOfRange what count (2 ^ bits))

/-! ### Counts -/

theorem FitsBits.toNat_lt {bits : Nat} {count : Int} (h : FitsBits bits count) : count.toNat < 2 ^ bits := by
  have below : (count.toNat : Int) < ((2 ^ bits : Nat) : Int) := by
    rw [Int.toNat_of_nonneg h.1]
    exact_mod_cast h.2
  exact_mod_cast below

theorem RefusesCount.not_fits {what : String} {bits : Nat} {count : Int} {e : IdError}
    (h : RefusesCount what bits count e) : ¬ FitsBits bits count := by
  rintro ⟨nonneg, below⟩
  cases h with
  | negative h => omega
  | tooLarge h => omega

theorem checkCount_eq (what : String) (count : Int) (bits : Nat) :
    checkCount what count (1 <<< bits) =
      if count < 0 then .error (.negativeCount what count)
      else if 2 ^ bits ≤ count then .error (.outOfRange what count (2 ^ bits))
      else .ok count.toNat := by
  rw [checkCount, Nat.one_shiftLeft]
  by_cases negative : count < 0
  · rw [if_pos negative, if_pos negative]
  · have large : 2 ^ bits ≤ count.toNat ↔ (2 ^ bits : Int) ≤ count := by
      rw [← Int.ofNat_le, Int.toNat_of_nonneg (by omega)]
      norm_cast
    simp only [negative, if_false, large]

/-- A count passes exactly if it fits. -/
theorem checkCount_eq_ok_iff {what : String} {count : Int} {bits n : Nat} :
    checkCount what count (1 <<< bits) = .ok n ↔ FitsBits bits count ∧ n = count.toNat := by
  rw [checkCount_eq, FitsBits]
  split_ifs with negative large
  · simp only [false_iff]
    omega
  · simp only [false_iff]
    omega
  · rw [Except.ok.injEq, eq_comm]
    exact ⟨fun h => ⟨⟨by omega, by omega⟩, h⟩, fun h => h.2⟩

theorem checkCount_eq_error_iff {what : String} {count : Int} {bits : Nat} {e : IdError} :
    checkCount what count (1 <<< bits) = .error e ↔ RefusesCount what bits count e := by
  rw [checkCount_eq]
  constructor
  · intro h
    split_ifs at h with negative large
    · exact Except.error.inj h ▸ .negative negative
    · exact Except.error.inj h ▸ .tooLarge large
  · rintro (negative | large)
    · rw [if_pos negative]
    · have positive : (0 : Int) < 2 ^ bits := Int.pow_pos (by omega)
      rw [if_neg (by omega), if_pos large]

namespace IdLayout

variable {l : IdLayout} {hash hash' : UInt64} {c c' o o' : Int} {id id' : ObjectId}

theorem pack_eq_ok_iff :
    l.pack hash c o = .ok id ↔
      FitsBits l.collisionBits c ∧ FitsBits l.ordinalBits o ∧
        id = l.packWords hash c.toNat.toUInt64 o.toNat.toUInt64 := by
  rw [pack, collisionLimit, ordinalLimit]
  split
  · rename_i e refused
    have unfit := (checkCount_eq_error_iff.1 refused).not_fits
    simp [unfit]
  · rename_i n passed
    obtain ⟨fits, rfl⟩ := checkCount_eq_ok_iff.1 passed
    split
    · rename_i e refused
      have unfit := (checkCount_eq_error_iff.1 refused).not_fits
      simp [unfit]
    · rename_i k passed'
      obtain ⟨fits', rfl⟩ := checkCount_eq_ok_iff.1 passed'
      simp [fits, fits', eq_comm]

/-- The collision count is judged first. -/
theorem pack_eq_error_iff {e : IdError} :
    l.pack hash c o = .error e ↔
      RefusesCount collisionCountName l.collisionBits c e ∨
        FitsBits l.collisionBits c ∧ RefusesCount ordinalCountName l.ordinalBits o e := by
  rw [pack, collisionLimit, ordinalLimit, ← checkCount_eq_error_iff, ← checkCount_eq_error_iff]
  split
  · rename_i e' refused
    have unfit := (checkCount_eq_error_iff.1 refused).not_fits
    simp [refused, unfit]
  · rename_i n passed
    obtain ⟨fits, rfl⟩ := checkCount_eq_ok_iff.1 passed
    split
    · rename_i e' refused
      simp [passed, refused, fits]
    · rename_i k passed'
      simp [passed, passed']

/-! ### Words -/

theorem toNat_shiftAmount {bits : Nat} (h : bits < 64) : bits.toUInt64.toNat % 64 = bits := by
  rw [Nat.toUInt64_eq, UInt64.toNat_ofNat', Nat.mod_eq_of_lt (a := bits) (b := 2 ^ 64) (by omega),
    Nat.mod_eq_of_lt h]

theorem two_pow_lt_word {bits : Nat} (h : bits < 64) : 2 ^ bits < 2 ^ 64 := Nat.pow_lt_pow_right (by omega) h

theorem toNat_reservedMask (l : IdLayout) : l.reservedMask.toNat = 2 ^ l.reservedBits - 1 := by
  have bits : l.reservedBits < 64 := l.leaves_hash
  have one : (1 <<< l.reservedBits.toUInt64 : UInt64).toNat = 2 ^ l.reservedBits := by
    rw [UInt64.toNat_shiftLeft, toNat_shiftAmount bits, UInt64.toNat_one, Nat.one_shiftLeft,
      Nat.mod_eq_of_lt (two_pow_lt_word bits)]
  have le : (1 : UInt64) ≤ 1 <<< l.reservedBits.toUInt64 := by
    rw [UInt64.le_iff_toNat_le, one, UInt64.toNat_one]
    exact Nat.one_le_two_pow
  rw [reservedMask, UInt64.toNat_sub_of_le _ _ le, one, UInt64.toNat_one]

/-- The mask leaves of a hash what is above the reserved bits. -/
theorem toNat_maskedHash (l : IdLayout) (hash : UInt64) :
    (hash &&& ~~~l.reservedMask).toNat = 2 ^ l.reservedBits * (hash.toNat / 2 ^ l.reservedBits) := by
  have word := hash.toNat_lt
  have below : 2 ^ l.reservedBits - 1 < 2 ^ 64 :=
    Nat.lt_of_le_of_lt (Nat.sub_le _ _) (two_pow_lt_word l.leaves_hash)
  have cleared : UInt64.size - 1 - (2 ^ l.reservedBits - 1) = 2 ^ 64 - (2 ^ l.reservedBits - 1 + 1) := by
    show 2 ^ 64 - 1 - _ = _
    omega
  rw [UInt64.toNat_and, UInt64.toNat_not, toNat_reservedMask, cleared]
  apply Nat.eq_of_testBit_eq
  intro i
  rw [Nat.testBit_and, Nat.testBit_two_pow_sub_succ below, Nat.testBit_two_pow_sub_one,
    Nat.testBit_two_pow_mul, Nat.testBit_div_two_pow]
  by_cases low : i < l.reservedBits
  · simp [low, Nat.not_le.2 low]
  · have back : i - l.reservedBits + l.reservedBits = i := by omega
    by_cases inside : i < 64
    · simp [low, inside, back, Nat.not_lt.1 low]
    · have outside : hash.toNat.testBit i = false :=
        Nat.testBit_lt_two_pow (Nat.lt_of_lt_of_le word (Nat.pow_le_pow_right (by omega) (Nat.not_lt.1 inside)))
      simp [low, inside, back, outside]

/-- The ordinal is shifted above the collision count as a whole. -/
theorem toNat_shiftedOrdinal {ordinal : UInt64} (fits : ordinal.toNat < 2 ^ l.ordinalBits) :
    (ordinal <<< l.collisionBits.toUInt64).toNat = 2 ^ l.collisionBits * ordinal.toNat := by
  have bits := l.leaves_hash
  have whole : 2 ^ l.collisionBits * ordinal.toNat < 2 ^ 64 := by
    calc 2 ^ l.collisionBits * ordinal.toNat
        < 2 ^ l.collisionBits * 2 ^ l.ordinalBits := Nat.mul_lt_mul_of_pos_left fits (Nat.two_pow_pos _)
      _ = 2 ^ (l.collisionBits + l.ordinalBits) := (Nat.pow_add ..).symm
      _ < 2 ^ 64 := two_pow_lt_word bits
  rw [UInt64.toNat_shiftLeft, toNat_shiftAmount (by omega), Nat.shiftLeft_eq, Nat.mul_comm, Nat.mod_eq_of_lt whole]

/-- Two counts that fit stay below the reserved bits. -/
theorem counts_lt {collision ordinal : Nat} (hc : collision < 2 ^ l.collisionBits)
    (ho : ordinal < 2 ^ l.ordinalBits) : 2 ^ l.collisionBits * ordinal + collision < 2 ^ l.reservedBits := by
  rw [reservedBits, Nat.pow_add]
  calc 2 ^ l.collisionBits * ordinal + collision
      < 2 ^ l.collisionBits * ordinal + 2 ^ l.collisionBits := Nat.add_lt_add_left hc _
    _ = 2 ^ l.collisionBits * (ordinal + 1) := (Nat.mul_succ ..).symm
    _ ≤ 2 ^ l.collisionBits * 2 ^ l.ordinalBits := Nat.mul_le_mul_left _ ho

/-- **The packed word is the sum of its parts.** -/
theorem toNat_packWords (hash : UInt64) {collision ordinal : UInt64} (hc : collision.toNat < 2 ^ l.collisionBits)
    (ho : ordinal.toNat < 2 ^ l.ordinalBits) :
    (l.packWords hash collision ordinal).value.toNat =
      2 ^ l.reservedBits * (hash.toNat / 2 ^ l.reservedBits) +
        (2 ^ l.collisionBits * ordinal.toNat + collision.toNat) := by
  rw [packWords, UInt64.toNat_or, UInt64.toNat_or, toNat_maskedHash, toNat_shiftedOrdinal ho, Nat.or_assoc,
    ← Nat.two_pow_add_eq_or_of_lt hc, ← Nat.two_pow_add_eq_or_of_lt (counts_lt hc ho)]

/-! ### Reading back -/

/-- No shift and no mask goes beyond 64 bits: every shift is by less than 64, both limits are words, the mask has
exactly the reserved bits, and an ordinal that fits is shifted as a whole. -/
structure StaysInWord (l : IdLayout) : Prop where
  collisionBits_lt : l.collisionBits < 64
  ordinalBits_lt : l.ordinalBits < 64
  reservedBits_lt : l.reservedBits < 64
  collisionLimit_eq : l.collisionLimit = 2 ^ l.collisionBits ∧ l.collisionLimit < 2 ^ 64
  ordinalLimit_eq : l.ordinalLimit = 2 ^ l.ordinalBits ∧ l.ordinalLimit < 2 ^ 64
  mask_eq : l.reservedMask.toNat = 2 ^ l.reservedBits - 1
  ordinal_whole : ∀ ordinal : UInt64, ordinal.toNat < 2 ^ l.ordinalBits →
    (ordinal <<< l.collisionBits.toUInt64).toNat = 2 ^ l.collisionBits * ordinal.toNat

theorem staysInWord (l : IdLayout) : l.StaysInWord := by
  have bits := l.leaves_hash
  have collision : l.collisionBits < 64 := by omega
  have ordinal : l.ordinalBits < 64 := by omega
  have limit : ∀ b, b < 64 → 1 <<< b = 2 ^ b ∧ 1 <<< b < 2 ^ 64 := fun b hb => by
    rw [Nat.one_shiftLeft]
    exact ⟨rfl, two_pow_lt_word hb⟩
  exact ⟨collision, ordinal, bits, limit _ collision, limit _ ordinal, toNat_reservedMask l,
    fun _ fits => toNat_shiftedOrdinal fits⟩

/-- The identifier from which a hash, up to its low bits, and two counts can be read back. -/
structure Holds (l : IdLayout) (hash : UInt64) (c o : Int) (id : ObjectId) : Prop where
  collision : ((id.value.toNat % 2 ^ l.collisionBits : Nat) : Int) = c
  ordinal : ((id.value.toNat / 2 ^ l.collisionBits % 2 ^ l.ordinalBits : Nat) : Int) = o
  hash : id.value.toNat / 2 ^ (l.collisionBits + l.ordinalBits) = hash.toNat / 2 ^ (l.collisionBits + l.ordinalBits)

theorem holds_packWords {collision ordinal : UInt64} (hc : collision.toNat < 2 ^ l.collisionBits)
    (ho : ordinal.toNat < 2 ^ l.ordinalBits) :
    l.Holds hash collision.toNat ordinal.toNat (l.packWords hash collision ordinal) := by
  have sum := toNat_packWords hash hc ho
  have counts := counts_lt hc ho
  have reserved : 2 ^ l.reservedBits = 2 ^ l.collisionBits * 2 ^ l.ordinalBits := Nat.pow_add ..
  constructor
  · rw [sum, reserved, Nat.mul_assoc, ← Nat.add_assoc, ← Nat.mul_add, Nat.mul_add_mod, Nat.mod_eq_of_lt hc]
  · rw [sum, reserved, Nat.mul_assoc, ← Nat.add_assoc, ← Nat.mul_add, Nat.mul_add_div (Nat.two_pow_pos _),
      Nat.div_eq_of_lt hc, Nat.add_zero, Nat.mul_add_mod, Nat.mod_eq_of_lt ho]
  · rw [← reservedBits, sum, Nat.mul_add_div (Nat.two_pow_pos _), Nat.div_eq_of_lt counts, Nat.add_zero]

theorem holds_of_pack (h : l.pack hash c o = .ok id) : l.Holds hash c o id := by
  obtain ⟨hc, ho, rfl⟩ := pack_eq_ok_iff.1 h
  have bits := l.leaves_hash
  have word : ∀ {bits : Nat} {count : Int}, bits < 64 → FitsBits bits count →
      count.toNat.toUInt64.toNat = count.toNat := fun hb fits => by
    rw [Nat.toUInt64_eq, UInt64.toNat_ofNat', Nat.mod_eq_of_lt (Nat.lt_trans fits.toNat_lt (two_pow_lt_word hb))]
  have collision := word (by omega : l.collisionBits < 64) hc
  have ordinal := word (by omega : l.ordinalBits < 64) ho
  have holds : l.Holds hash c.toNat.toUInt64.toNat o.toNat.toUInt64.toNat
      (l.packWords hash c.toNat.toUInt64 o.toNat.toUInt64) :=
    holds_packWords (by rw [collision]; exact hc.toNat_lt) (by rw [ordinal]; exact ho.toNat_lt)
  rwa [collision, ordinal, Int.toNat_of_nonneg hc.1, Int.toNat_of_nonneg ho.1] at holds

/-- Identifiers are told apart by their counts and by the hash above the low bits. -/
theorem Holds.eq_iff (h : l.Holds hash c o id) (h' : l.Holds hash' c' o' id') :
    id = id' ↔ c = c' ∧ o = o' ∧
      hash.toNat / 2 ^ (l.collisionBits + l.ordinalBits) = hash'.toNat / 2 ^ (l.collisionBits + l.ordinalBits) := by
  constructor
  · rintro rfl
    exact ⟨h.collision.symm.trans h'.collision, h.ordinal.symm.trans h'.ordinal, h.hash.symm.trans h'.hash⟩
  · rintro ⟨rfl, rfl, above⟩
    have low : id.value.toNat % 2 ^ l.collisionBits = id'.value.toNat % 2 ^ l.collisionBits := by
      exact_mod_cast h.collision.trans h'.collision.symm
    have middle : id.value.toNat / 2 ^ l.collisionBits % 2 ^ l.ordinalBits =
        id'.value.toNat / 2 ^ l.collisionBits % 2 ^ l.ordinalBits := by
      exact_mod_cast h.ordinal.trans h'.ordinal.symm
    have high : id.value.toNat / 2 ^ l.collisionBits / 2 ^ l.ordinalBits =
        id'.value.toNat / 2 ^ l.collisionBits / 2 ^ l.ordinalBits := by
      rw [Nat.div_div_eq_div_mul, Nat.div_div_eq_div_mul, ← Nat.pow_add]
      exact h.hash.trans (above.trans h'.hash.symm)
    -- a number is put together again from its quotient and its remainder, twice
    have upper : id.value.toNat / 2 ^ l.collisionBits = id'.value.toNat / 2 ^ l.collisionBits := by
      rw [← Nat.div_add_mod (id.value.toNat / 2 ^ l.collisionBits) (2 ^ l.ordinalBits), high, middle,
        Nat.div_add_mod]
    have same : id.value.toNat = id'.value.toNat := by
      rw [← Nat.div_add_mod id.value.toNat (2 ^ l.collisionBits), upper, low, Nat.div_add_mod]
    cases id
    cases id'
    exact congrArg ObjectId.mk (UInt64.toNat_inj.1 same)

/-- **Packing loses nothing**, whatever the hash of documents and languages is: counts that fit are packed within 64
bits and read back, any other count is refused, the collision count first, and equal identifiers have equal counts and
hashes that agree above the low bits.  The identifier of an object is the case of the document hash.  That the widths of
a layout leave a bit to the hash is checked where it is made (`make_eq_ok_iff`, `make_standard`) and where it is read
from JSON (`read_of_widths`). -/
theorem pack_lossless (l : IdLayout) (hash : DocumentRef → String → UInt64) (r : DocumentRef) (language : String)
    (c o : Int) :
    l.objectId r language c o = l.pack (documentHash r language) c o ∧ l.StaysInWord ∧
      ((∃ id, l.pack (hash r language) c o = .ok id) ↔ FitsBits l.collisionBits c ∧ FitsBits l.ordinalBits o) ∧
      (∀ e, l.pack (hash r language) c o = .error e ↔
        RefusesCount "collision count" l.collisionBits c e ∨
          FitsBits l.collisionBits c ∧ RefusesCount "ordinal count" l.ordinalBits o e) ∧
      ∀ id, l.pack (hash r language) c o = .ok id → l.Holds (hash r language) c o id ∧
        ∀ r' language' c' o' id', l.pack (hash r' language') c' o' = .ok id' →
          (id = id' ↔ c = c' ∧ o = o' ∧
            (hash r language).toNat / 2 ^ (l.collisionBits + l.ordinalBits) =
              (hash r' language').toNat / 2 ^ (l.collisionBits + l.ordinalBits)) := by
  refine ⟨rfl, staysInWord l, ?_, fun e => pack_eq_error_iff, fun id packed => ⟨holds_of_pack packed, ?_⟩⟩
  · constructor
    · rintro ⟨id, packed⟩
      obtain ⟨hc, ho, -⟩ := pack_eq_ok_iff.1 packed
      exact ⟨hc, ho⟩
    · rintro ⟨hc, ho⟩
      exact ⟨_, pack_eq_ok_iff.2 ⟨hc, ho, rfl⟩⟩
  · intro r' language' c' o' id' packed'
    exact (holds_of_pack packed).eq_iff (holds_of_pack packed')

/-- One bit for the hash and all others for the ordinal. -/
def widest : IdLayout := ⟨0, 63, by omega⟩

/-- The greatest ordinal of the widest layout leaves the top bit of the hash; there is no collision count but zero. -/
theorem pack_lossless_widest :
    widest.pack 0xf0da7f3f8545ded5 0 (2 ^ 63 - 1) = .ok ⟨0xffffffffffffffff⟩ ∧
      (∀ id, widest.pack 0xf0da7f3f8545ded5 0 (2 ^ 63 - 1) = .ok id → widest.Holds 0xf0da7f3f8545ded5 0 (2 ^ 63 - 1) id) ∧
      widest.pack 0xf0da7f3f8545ded5 1 (-1) = .error (.outOfRange "collision count" 1 1) := by
  have packed := pack_lossless widest (fun _ _ => 0xf0da7f3f8545ded5) ⟨"xwiki", "space", "page"⟩ "es"
  exact ⟨rfl, fun id h => ((packed 0 (2 ^ 63 - 1)).2.2.2.2 id h).1,
    ((packed 1 (-1)).2.2.2.1 _).2 (.inl (.tooLarge (by decide)))⟩

end IdLayout

end TypedWiki
