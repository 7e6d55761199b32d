import TypedWiki.Text.Letter

/-!
# Decimal and hexadecimal numbers — reading and writing integers

A number is read from ASCII digits only, with an optional sign of either kind.  Bounded readers refuse what does
not fit instead of cutting it.
-/

namespace TypedWiki.Text

/-- The value of an ASCII digit. -/
def digitValue (c : Char) : Nat := c.toNat - '0'.toNat

/-- The number that a run of digits denotes. -/
def ofDigits (cs : List Char) : Nat := cs.foldl (fun n c => n * 10 + digitValue c) 0

/-- A natural number: one digit or more and nothing else. -/
def readNat (cs : List Char) : Option Nat :=
  if cs ≠ [] ∧ cs.all isAsciiDigit then some (ofDigits cs) else none

/-- An integer: an optional sign, then one digit or more. -/
def readInt : List Char → Option Int
  | '-' :: cs => (readNat cs).map fun n => -(n : Int)
  | '+' :: cs => (readNat cs).map fun n => (n : Int)
  | cs => (readNat cs).map fun n => (n : Int)

/-- Whether an integer is a signed 64-bit number. -/
def fitsInt64 (n : Int) : Bool := Int64.minValue.toInt ≤ n && n ≤ Int64.maxValue.toInt

/-- A signed 64-bit number in decimal. -/
def readInt64 (s : String) : Option Int64 :=
  match readInt s.toList with
  | some n => if fitsInt64 n then some (Int64.ofInt n) else none
  | none => none

/-- The decimal form of a signed 64-bit number. -/
def showInt64 (n : Int64) : String := toString n.toInt

/-- Decimal digits, with zeros in front up to `width`. -/
def padNat (width n : Nat) : String :=
  let ds := Nat.toDigits 10 n
  String.ofList (List.replicate (width - ds.length) '0' ++ ds)

/-- Lower-case hexadecimal digits, with zeros in front up to `width`. -/
def padHex (width n : Nat) : String :=
  let ds := Nat.toDigits 16 n
  String.ofList (List.replicate (width - ds.length) '0' ++ ds)

/-- The value of a hexadecimal digit of either case. -/
def hexValue (c : Char) : Option Nat :=
  if isAsciiDigit c then some (digitValue c)
  else if 'a' ≤ c ∧ c ≤ 'f' then some (c.toNat - 'a'.toNat + 10)
  else if 'A' ≤ c ∧ c ≤ 'F' then some (c.toNat - 'A'.toNat + 10)
  else none

end TypedWiki.Text
