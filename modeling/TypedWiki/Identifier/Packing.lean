import TypedWiki.Identifier.Layout
import TypedWiki.Identifier.Uid
import TypedWiki.Text.Decimal

/-!
# Packed identifiers — hash, ordinal and collision count in 64 bits

A count that does not fit is refused before anything is packed; the collision count is judged first.
-/

namespace TypedWiki

/-- A 64-bit identifier. -/
structure ObjectId where
  value : UInt64
  deriving DecidableEq, Repr

/-- The scheme under which an identifier was computed. -/
inductive IdVersion where
  /-- An earlier scheme. -/
  | legacy
  /-- Identifiers packed by a layout. -/
  | packed
  deriving DecidableEq, Repr

namespace IdVersion

/-- The name of a scheme. -/
def name : IdVersion → String
  | .legacy => "Legacy"
  | .packed => "Packed"

/-- The scheme of exactly this name. -/
def ofName? (s : String) : Option IdVersion := [legacy, packed].find? (·.name = s)

/-- The name of a scheme in small letters. -/
def tag : IdVersion → String
  | .legacy => "legacy"
  | .packed => "packed"

end IdVersion

namespace ObjectId

/-- Sixteen hexadecimal digits. -/
def hex (id : ObjectId) : String := Text.padHex 16 id.value.toNat

/-- The identifier of hexadecimal digits; digits beyond 64 bits are lost in front. -/
def ofHex? (s : String) : Option ObjectId :=
  (s.toList.foldlM (fun n c => (Text.hexValue c).map (n * 16 + ·)) 0).map fun n => ⟨n.toUInt64⟩

/-- The same bits as a signed number. -/
def signed (id : ObjectId) : Int64 := id.value.toInt64

end ObjectId

/-- The name of the collision count in errors. -/
def collisionCountName : String := "collision count"

/-- The name of the ordinal count in errors. -/
def ordinalCountName : String := "ordinal count"

/-- A count that lies below its limit. -/
def checkCount (what : String) (count : Int) (limit : Nat) : Except IdError Nat :=
  if count < 0 then .error (.negativeCount what count)
  else if limit ≤ count.toNat then .error (.outOfRange what count limit)
  else .ok count.toNat

namespace IdLayout

/-- The bits that the two counts take up. -/
def reservedMask (l : IdLayout) : UInt64 := (1 <<< l.reservedBits.toUInt64) - 1

/-- Packs a hash and two counts that fit. -/
def packWords (l : IdLayout) (hash collision ordinal : UInt64) : ObjectId :=
  ⟨(hash &&& ~~~l.reservedMask) ||| (ordinal <<< l.collisionBits.toUInt64) ||| collision⟩

/-- The identifier of a hash and two counts. -/
def pack (l : IdLayout) (hash : UInt64) (collision ordinal : Int) : Except IdError ObjectId :=
  match checkCount collisionCountName collision l.collisionLimit with
  | .error e => .error e
  | .ok c =>
    match checkCount ordinalCountName ordinal l.ordinalLimit with
    | .error e => .error e
    | .ok o => .ok (l.packWords hash c.toUInt64 o.toUInt64)

/-- The identifier of an object of a document in a language. -/
def objectId (l : IdLayout) (r : DocumentRef) (language : String) (collision ordinal : Int) :
    Except IdError ObjectId :=
  l.pack (documentHash r language) collision ordinal

/-- The identifier of the document itself has ordinal zero. -/
def documentId (l : IdLayout) (r : DocumentRef) (language : String) (collision : Int) : Except IdError ObjectId :=
  l.objectId r language collision 0

end IdLayout

end TypedWiki
