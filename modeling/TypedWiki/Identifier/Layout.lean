import TypedWiki.Identifier.Error

/-!
# Identifier layouts — how the bits of an identifier are shared

From the lowest bit up an identifier holds the collision count, the ordinal count and the document hash.  A layout
leaves at least one bit to the hash.
-/

namespace TypedWiki

/-- The widths of the two counts.  Their bound is checked wherever a layout is made (`IdLayout.make_eq_ok_iff`). -/
structure IdLayout where
  collisionBits : Nat
  ordinalBits : Nat
  leaves_hash : collisionBits + ordinalBits < 64 := by omega
  deriving DecidableEq, Repr

namespace IdLayout

/-- Two bits for collisions and twelve for ordinals. -/
def standard : IdLayout := ⟨2, 12, by omega⟩

instance : Inhabited IdLayout := ⟨standard⟩

/-- The layout with the given widths, if it leaves a bit to the hash. -/
def make (collisionBits ordinalBits : Nat) : Except IdError IdLayout :=
  if h : collisionBits + ordinalBits < 64 then .ok ⟨collisionBits, ordinalBits, h⟩
  else .error (.invalidLayout collisionBits ordinalBits)

/-- The least number that is no collision count. -/
def collisionLimit (l : IdLayout) : Nat := 1 <<< l.collisionBits

/-- The least number that is no ordinal count. -/
def ordinalLimit (l : IdLayout) : Nat := 1 <<< l.ordinalBits

/-- The bits that are not left to the hash. -/
def reservedBits (l : IdLayout) : Nat := l.collisionBits + l.ordinalBits

/-- Two widths make a layout exactly if they leave a bit to the hash. -/
theorem make_eq_ok_iff {c o : Nat} {l : IdLayout} :
    make c o = .ok l ↔ c + o < 64 ∧ l.collisionBits = c ∧ l.ordinalBits = o := by
  rw [make]
  split
  · rename_i bound
    cases l
    simp [bound, eq_comm]
  · rename_i beyond
    simp [beyond]

/-- All other widths are refused. -/
theorem make_eq_error_iff {c o : Nat} {e : IdError} :
    make c o = .error e ↔ 64 ≤ c + o ∧ e = .invalidLayout c o := by
  rw [make]
  split
  · rename_i bound
    simp [Nat.not_le.2 bound]
  · rename_i beyond
    simp [Nat.not_lt.1 beyond, eq_comm]

/-- The standard layout is one that can be made. -/
theorem make_standard : make 2 12 = .ok standard := rfl

end IdLayout

end TypedWiki
