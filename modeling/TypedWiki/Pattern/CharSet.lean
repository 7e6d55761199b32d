import TypedWiki.Text.Blank
import TypedWiki.Text.LetterCase
import TypedWiki.Text.Recent

/-!
# Character sets — which characters a class of a pattern stands for

A set is kept as it is built.  `contains` is its membership test, `codes` the same set as intervals of code points.
-/

namespace TypedWiki

/-- A set of characters. -/
inductive CharSet where
  /-- The code points from `lo` to `hi`. -/
  | range (lo hi : Nat)
  /-- A listed set with a name. -/
  | named (s : Text.CodeSet)
  /-- Decimal digits. -/
  | digits
  /-- White space. -/
  | spaces
  /-- Word characters. -/
  | words
  /-- A set written between brackets. -/
  | bracketed (a : CharSet)
  | union (a b : CharSet)
  | inter (a b : CharSet)
  | diff (a b : CharSet)
  | symmDiff (a b : CharSet)
  | compl (a : CharSet)
  /-- All characters that equal a member up to case; `ascii` leaves cases outside of ASCII alone. -/
  | folded (ascii : Bool) (a : CharSet)
  deriving DecidableEq, Repr

namespace CharSet

/-- The set without members. -/
def none : CharSet := range 1 0

/-- The set of all characters. -/
def all : CharSet := range 0 0x10FFFF

/-- The set of one character. -/
def single (c : Char) : CharSet := range c.toNat c.toNat

/-- The union of several sets. -/
def ofList (sets : List CharSet) : CharSet :=
  match sets with
  | [] => none
  | s :: rest => rest.foldl union s

/-- Decimal digits that patterns know. -/
def isDigit (c : Char) : Bool := Text.isDecimalDigit c && !Text.isRecent c

/-- Word characters that patterns know. -/
def isWord (c : Char) : Bool := Text.isWordChar c && !Text.isRecent c

/-- The characters that patterns take for equal to `c` up to case, `c` included. -/
def orbit (ascii : Bool) (c : Char) : List Char :=
  if ascii then [c, Text.asciiUpper c, Text.asciiLower c]
  else if Text.isRecent c then [c]
  else (Text.caseOrbit c).filter (!Text.isRecent ·)

/-- Membership. -/
def contains : CharSet → Char → Bool
  | range lo hi, c => lo ≤ c.toNat && c.toNat ≤ hi
  | named s, c => s.contains c
  | digits, c => isDigit c
  | spaces, c => Text.isSpace c
  | words, c => isWord c
  | bracketed a, c => a.contains c
  | union a b, c => a.contains c || b.contains c
  | inter a b, c => a.contains c && b.contains c
  | diff a b, c => a.contains c && !b.contains c
  | symmDiff a b, c => a.contains c != b.contains c
  | compl a, c => !a.contains c
  | folded ascii a, c => (orbit ascii c).any a.contains

/-! ### Intervals -/

/-- The code points of decimal digits. -/
def digitCodes : Text.CodeSet := Text.decimalTable.diff Text.recentTable

/-- The code points of word characters. -/
def wordCodes : Text.CodeSet :=
  (((Text.alphabeticTable.union Text.decimalTable).union Text.markTable).union Text.connectorTable).diff
    Text.recentTable

/-- A set with all cases of its members; only characters with several cases bring others in. -/
def foldCodes (ascii : Bool) (s : Text.CodeSet) : Text.CodeSet :=
  s.union (.ofList (((Text.casedChars.filter s.contains).flatMap (orbit ascii)).map Char.toNat))

/-- The code points of the members. -/
def codes : CharSet → Text.CodeSet
  | range lo hi => (Text.CodeSet.interval lo hi).inter .all
  | named s => s
  | digits => digitCodes
  | spaces => Text.spaceTable
  | words => wordCodes
  | bracketed a => a.codes
  | union a b => a.codes.union b.codes
  | inter a b => a.codes.inter b.codes
  | diff a b => a.codes.diff b.codes
  | symmDiff a b => a.codes.symmDiff b.codes
  | compl a => Text.CodeSet.all.diff a.codes
  | folded ascii a => foldCodes ascii a.codes

/-- Whether all members are ASCII. -/
def isAscii (s : CharSet) : Bool := s.codes.intervals.all (·.2 < 128)

/-! ### Nesting -/

/-- How deep brackets and operators are nested; several members side by side lie one level below their union, which
runs along its left branch. -/
def height : CharSet → Nat
  | range _ _ => 0
  | named _ => 0
  | digits => 0
  | spaces => 0
  | words => 0
  | bracketed a => a.height + 1
  | union (union a b) c => max (union a b).height (c.height + 1)
  | union a b => max a.height b.height + 1
  | inter a b => max a.height b.height + 1
  | diff a b => max a.height b.height + 1
  | symmDiff a b => max a.height b.height + 1
  | compl a => a.height
  | folded _ a => a.height

end CharSet

end TypedWiki
