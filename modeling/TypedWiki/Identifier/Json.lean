import TypedWiki.Identifier.Packing
import TypedWiki.Json.Form

/-!
# JSON forms of identifiers and layouts

A layout is a record of its two widths, each a byte; widths that leave no bit to the hash are refused once the
record has been read.
-/

namespace TypedWiki

open Json (Form)

/-- Widths of a layout read so far. -/
structure LayoutParts where
  collisionBits : Option Nat := none
  ordinalBits : Option Nat := none

/-- Reads the two widths. -/
def LayoutParts.read : Json.Reader LayoutParts :=
  Json.record
    [⟨"collision_bits", fun p => return { p with collisionBits := some (← (Form.natBelow 256).read) }⟩,
      ⟨"ordinal_bits", fun p => return { p with ordinalBits := some (← (Form.natBelow 256).read) }⟩]
    {}

/-- A layout is a record of its two widths. -/
def IdLayout.form : Form IdLayout where
  write l := Json.writeObject
    [("collision_bits", toString l.collisionBits), ("ordinal_bits", toString l.ordinalBits)]
  read := do
    match ← LayoutParts.read with
    | ⟨some c, some o⟩ =>
      match IdLayout.make c o with
      | .ok l => return l
      | .error _ => Json.fail .refused
    | _ => Json.fail

/-- Widths that leave no bit to the hash are refused, and a layout that was read is made of the widths in the text. -/
theorem IdLayout.read_of_widths {cs rest : List Char} {c o : Nat}
    (h : LayoutParts.read cs = .ok (⟨some c, some o⟩, rest)) :
    (∀ l, IdLayout.form.read cs = .ok (l, rest) ↔ IdLayout.make c o = .ok l) ∧
      (IdLayout.form.read cs = .error .refused ↔ 64 ≤ c + o) := by
  have read : IdLayout.form.read cs = match IdLayout.make c o with
      | .ok l => .ok (l, rest)
      | .error _ => .error .refused := by
    show (LayoutParts.read >>= _) cs = _
    simp only [bind, StateT.bind, h, Except.bind]
    cases IdLayout.make c o <;> rfl
  rw [read]
  cases made : IdLayout.make c o with
  | ok l =>
    have bound := (make_eq_ok_iff.1 made).1
    exact ⟨fun l' => by simp, by simp [Nat.not_le.2 bound]⟩
  | error e =>
    have beyond := (make_eq_error_iff.1 made).1
    exact ⟨fun l' => by simp, by simp [beyond]⟩

/-- An identifier is its number. -/
def ObjectId.form : Form ObjectId where
  write id := toString id.value.toNat
  read := return ⟨(← (Form.natBelow UInt64.size).read).toUInt64⟩

/-- A scheme is its name. -/
def IdVersion.form : Form IdVersion := Form.named IdVersion.name IdVersion.ofName?

end TypedWiki
