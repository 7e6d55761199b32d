import TypedWiki.Text.LetterCase
import TypedWiki.Text.Split

/-!
# Field names — labels and accessor names

The label of a field is its name cut into words: at everything that is no letter or digit, before a capital that
follows something else, before the last capital of an acronym, and between digits and letters.  The accessor name
keeps the parts between separators and capitalizes all but the first.
-/

namespace TypedWiki.FieldName

/-- The characters with the first one in upper case. -/
def capitalize : List Char → List Char
  | [] => []
  | c :: cs => Text.upper c ++ cs

/-- Whether a word ends between `p` and `c`, where `next` comes after `c`. -/
def isWordStart (p c : Char) (next : Option Char) : Bool :=
  (Text.isUpper c && !Text.isUpper p)
    || (Text.isUpper c && Text.isUpper p && next.any Text.isLower)
    || (Text.isAsciiDigit c && !Text.isAsciiDigit p)
    || (!Text.isAsciiDigit c && Text.isAsciiDigit p)

/-- Whether a word that has been read so far ends before `c`. -/
def endsBefore (word : List Char) (c : Char) (next : Option Char) : Bool :=
  match word.getLast? with
  | some p => isWordStart p c next
  | none => false

/-- A finished word; the empty one is left out. -/
def finish (word : List Char) : List (List Char) := if word = [] then [] else [word]

/-- The words of a name; `word` is the one being read. -/
def words (word : List Char) : List Char → List (List Char)
  | [] => finish word
  | c :: r =>
    if !Text.isAlphanumeric c then finish word ++ words [] r
    else if endsBefore word c r.head? then word :: words [c] r
    else words (word ++ [c]) r

/-- The label of a field. -/
def pretty (name : String) : String :=
  Text.join " " ((words [] name.toList).map fun w => String.ofList (capitalize w))

/-- The non-empty parts of a name between characters that are no letters or digits. -/
def segments (cs : List Char) : List (List Char) :=
  (Text.splitAll (fun c => !Text.isAlphanumeric c) cs).filter (· ≠ [])

/-- The first part with a small letter in front, the others with a capital. -/
def joinSegments : List (List Char) → List Char
  | [] => []
  | first :: rest =>
    (match first with
      | [] => []
      | c :: cs => Text.lower c ++ cs) ++ rest.flatMap capitalize

/-- The name under which a struct member backs a field. -/
def accessor (name : String) : String := String.ofList (joinSegments (segments name.toList))

end TypedWiki.FieldName
