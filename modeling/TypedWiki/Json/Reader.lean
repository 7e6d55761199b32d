import TypedWiki.Text.Decimal

/-!
# Reading JSON — typed readers over a text

A reader consumes the front of a text and says at once what is wrong, so the first fault in the text is the one
reported.  Records are read from objects, whose known members may come in any order but only once, or from arrays
in the order of their fields; unknown members are skipped by the grammar alone.

The literals `\x7b` and `\x7d` are the two braces: spelled by code point, they leave the brackets of this file balanced.
-/

namespace TypedWiki.Json

/-- Why a text was not read. -/
inductive Fault where
  /-- The text is not of the expected form. -/
  | malformed
  /-- The form is right, but the value breaks a rule of its type. -/
  | refused
  deriving DecidableEq, Repr

/-- A reader of values from the front of a text. -/
abbrev Reader := StateT (List Char) (Except Fault)

/-- Gives up. -/
def fail {α : Type} (fault : Fault := .malformed) : Reader α := fun _ => .error fault

/-- White space between tokens. -/
def isGap (c : Char) : Bool := c == ' ' || c == '\n' || c == '\t' || c == '\r'

/-- Skips white space and shows the next character without taking it. -/
def peek : Reader (Option Char) := fun cs =>
  let r := cs.dropWhile isGap
  .ok (r.head?, r)

/-- Takes the next character whatever it is. -/
def skip : Reader Unit := fun cs => .ok ((), cs.drop 1)

/-- Takes exactly the given characters. -/
def exactly (word : String) : Reader Unit := fun cs =>
  if word.toList.isPrefixOf cs then .ok ((), cs.drop word.length) else .error .malformed

/-- Skips white space, then takes one given character. -/
def token (c : Char) : Reader Unit := do
  let next ← peek
  if next = some c then skip else fail

/-! ### Strings -/

/-- The characters of the short escapes. -/
def shortEscape? : Char → Option Char
  | '"' => some '"'
  | '\\' => some '\\'
  | '/' => some '/'
  | 'b' => some '\x08'
  | 'f' => some '\x0c'
  | 'n' => some '\n'
  | 'r' => some '\r'
  | 't' => some '\t'
  | _ => none

/-- The number of four hexadecimal digits. -/
def hex4? : List Char → Option (Nat × List Char)
  | a :: b :: c :: d :: r => do
    let a ← Text.hexValue a
    let b ← Text.hexValue b
    let c ← Text.hexValue c
    let d ← Text.hexValue d
    return (a * 4096 + b * 256 + c * 16 + d, r)
  | _ => none

/-- The character of a Unicode escape after its `u`; the two halves of a surrogate pair belong together. -/
def unicodeEscape? (cs : List Char) : Option (Char × List Char) := do
  let (n, r) ← hex4? cs
  if n < 0xD800 ∨ 0xE000 ≤ n then some (Char.ofNat n, r)
  else if 0xDC00 ≤ n then none
  else match r with
    | '\\' :: 'u' :: r => do
      let (low, r) ← hex4? r
      if 0xDC00 ≤ low ∧ low < 0xE000 then
        some (Char.ofNat (0x10000 + (n - 0xD800) * 0x400 + (low - 0xDC00)), r)
      else none
    | _ => none

/-- The rest of a string after its opening quote; `acc` holds the characters so far in reverse. -/
def stringRest (acc : List Char) : Nat → List Char → Except Fault (String × List Char)
  | 0, _ => .error .malformed
  | fuel + 1, cs =>
    match cs with
    | [] => .error .malformed
    | '"' :: r => .ok (String.ofList acc.reverse, r)
    | '\\' :: 'u' :: r =>
      match unicodeEscape? r with
      | some (c, r) => stringRest (c :: acc) fuel r
      | none => .error .malformed
    | '\\' :: c :: r =>
      match shortEscape? c with
      | some d => stringRest (d :: acc) fuel r
      | none => .error .malformed
    | c :: r => if c.toNat < 32 then .error .malformed else stringRest (c :: acc) fuel r

/-- A string. -/
def string : Reader String := do
  token '"'
  fun cs => stringRest [] (cs.length + 1) cs

/-! ### Skipping -/

/-- Skips the rest of a string; escapes are checked in form only. -/
def skipString : Nat → List Char → Except Fault (List Char)
  | 0, _ => .error .malformed
  | fuel + 1, cs =>
    match cs with
    | [] => .error .malformed
    | '"' :: r => .ok r
    | '\\' :: 'u' :: r =>
      match hex4? r with
      | some (_, r) => skipString fuel r
      | none => .error .malformed
    | '\\' :: c :: r => if (shortEscape? c).isSome then skipString fuel r else .error .malformed
    | c :: r => if c.toNat < 32 then .error .malformed else skipString fuel r

/-- Skips one digit or more. -/
def skipDigits (cs : List Char) : Except Fault (List Char) :=
  match cs with
  | c :: r => if Text.isAsciiDigit c then .ok (r.dropWhile Text.isAsciiDigit) else .error .malformed
  | [] => .error .malformed

/-- Skips the exponent of a number, if there is one. -/
def skipExponent (cs : List Char) : Except Fault (List Char) :=
  match cs with
  | [] => .ok []
  | c :: r =>
    if c = 'e' ∨ c = 'E' then
      match r with
      | '+' :: r => skipDigits r
      | '-' :: r => skipDigits r
      | r => skipDigits r
    else .ok (c :: r)

/-- Skips a number after its sign. -/
def skipNumber (cs : List Char) : Except Fault (List Char) := do
  let r ← match cs with
    | '0' :: r => if r.head?.any Text.isAsciiDigit then .error .malformed else .ok r
    | r => skipDigits r
  match r with
  | '.' :: r => skipExponent (← skipDigits r)
  | r => skipExponent r

/-- An open bracket around the values being skipped. -/
inductive Frame where
  | array
  | object
  deriving DecidableEq, Repr

/-- Skips a word. -/
def skipWord (word : List Char) (cs : List Char) : Except Fault (List Char) :=
  if word.isPrefixOf cs then .ok (cs.drop word.length) else .error .malformed

/-- Skips the key of a member and its colon. -/
def skipKey (cs : List Char) : Except Fault (List Char) :=
  match cs.dropWhile isGap with
  | '"' :: r => do
    let r ← skipString (r.length + 1) r
    match r.dropWhile isGap with
    | ':' :: r => .ok r
    | _ => .error .malformed
  | _ => .error .malformed

/-- Skips a value, or with `inside` what follows a value up to the last open bracket. -/
def skipValue (inside : Bool) (frames : List Frame) : Nat → List Char → Except Fault (List Char)
  | 0, _ => .error .malformed
  | fuel + 1, cs =>
    if inside then
      match frames with
      | [] => .ok cs
      | .array :: outer =>
        match cs.dropWhile isGap with
        | ',' :: r => skipValue false frames fuel r
        | ']' :: r => skipValue true outer fuel r
        | _ => .error .malformed
      | .object :: outer =>
        match cs.dropWhile isGap with
        | ',' :: r => do skipValue false frames fuel (← skipKey r)
        | '\x7d' :: r => skipValue true outer fuel r
        | _ => .error .malformed
    else
      match cs.dropWhile isGap with
      | [] => .error .malformed
      | 'n' :: r => do skipValue true frames fuel (← skipWord ['u', 'l', 'l'] r)
      | 't' :: r => do skipValue true frames fuel (← skipWord ['r', 'u', 'e'] r)
      | 'f' :: r => do skipValue true frames fuel (← skipWord ['a', 'l', 's', 'e'] r)
      | '-' :: r => do skipValue true frames fuel (← skipNumber r)
      | '"' :: r => do skipValue true frames fuel (← skipString (r.length + 1) r)
      | '[' :: r =>
        match r.dropWhile isGap with
        | ']' :: r => skipValue true frames fuel r
        | r => skipValue false (.array :: frames) fuel r
      | '\x7b' :: r =>
        match r.dropWhile isGap with
        | '\x7d' :: r => skipValue true frames fuel r
        | r => do skipValue false (.object :: frames) fuel (← skipKey r)
      | c :: r => do
        if Text.isAsciiDigit c then skipValue true frames fuel (← skipNumber (c :: r))
        else .error .malformed

/-- Skips one value of any kind. -/
def anything : Reader Unit := fun cs => (skipValue false [] (2 * cs.length + 2) cs).map fun r => ((), r)

/-! ### Scalars -/

/-- The literals `true` and `false`. -/
def bool : Reader Bool := do
  match ← peek with
  | some 't' => exactly "true"; return true
  | some 'f' => exactly "false"; return false
  | _ => fail

/-- The digits of an integer, without leading zeros. -/
def digits : Reader Nat := fun cs =>
  let ds := cs.takeWhile Text.isAsciiDigit
  let r := cs.dropWhile Text.isAsciiDigit
  if ds = [] ∨ (ds.head? = some '0' ∧ ds.length ≠ 1) then .error .malformed
  else if r.head?.any fun c => c = '.' || c = 'e' || c = 'E' then .error .malformed
  else .ok (Text.ofDigits ds, r)

/-- An integer between two bounds; a negative zero is no integer. -/
def integer (lo hi : Int) : Reader Int := do
  let n : Int ← match ← peek with
    | some '-' =>
      skip
      let n ← digits
      if n = 0 then fail else pure (-(n : Int))
    | _ =>
      let n ← digits
      pure (n : Int)
  if lo ≤ n ∧ n ≤ hi then return n else fail

/-- The literal `null`, or a value. -/
def optional {α : Type} (value : Reader α) : Reader (Option α) := do
  match ← peek with
  | some 'n' => exactly "null"; return none
  | _ => return some (← value)

/-! ### Collections -/

/-- The elements of an array after its opening bracket or an element. -/
def elements {α : Type} (element : Reader α) : Nat → Bool → Reader (List α)
  | 0, _ => fail
  | fuel + 1, first => do
    match ← peek with
    | some ']' => skip; return []
    | some ',' =>
      if first then fail
      else
        skip
        let x ← element
        return x :: (← elements element fuel false)
    | _ =>
      if first then
        let x ← element
        return x :: (← elements element fuel false)
      else fail

/-- An array of any length. -/
def array {α : Type} (element : Reader α) : Reader (List α) := do
  token '['
  let cs ← get
  elements element (cs.length + 1) true

/-- A field of a record with its reader, which adds to what has been read of the record. -/
structure Field (σ : Type) where
  name : String
  read : σ → Reader σ

/-- The members of an object after its opening brace or a member; `seen` are the known names so far. -/
def members {σ : Type} (fields : List (Field σ)) : Nat → Bool → List String → σ → Reader σ
  | 0, _, _, _ => fail
  | fuel + 1, first, seen, acc => do
    match ← peek with
    | some '\x7d' => skip; return acc
    | some c =>
      if first ≠ (c ≠ ',') then fail
      else
        if c = ',' then skip
        let name ← string
        match fields.find? (·.name = name) with
        | some field =>
          if seen.contains name then fail
          else
            token ':'
            members fields fuel false (name :: seen) (← field.read acc)
        | none =>
          token ':'
          anything
          members fields fuel false seen acc
    | none => fail

/-- The fields of a record in an array; the last ones may be left out. -/
def positions {σ : Type} : List (Field σ) → Bool → σ → Reader σ
  | [], _, acc => do
    token ']'
    return acc
  | field :: fields, first, acc => do
    match ← peek with
    | some ']' => skip; return acc
    | some c =>
      if first ≠ (c ≠ ',') then fail
      else
        if c = ',' then skip
        positions fields false (← field.read acc)
    | none => fail

/-- A record, as an object or as an array. -/
def record {σ : Type} (fields : List (Field σ)) (start : σ) : Reader σ := do
  match ← peek with
  | some '\x7b' =>
    skip
    let cs ← get
    members fields (cs.length + 1) true [] start
  | some '[' =>
    skip
    positions fields true start
  | _ => fail

/-- A choice named by a string: alone, where it has no content, or as the only member of an object. -/
def tagged {α : Type} (plain : String → Option α) (content : String → Reader α) : Reader α := do
  match ← peek with
  | some '"' =>
    match plain (← string) with
    | some x => return x
    | none => fail
  | some '\x7b' =>
    skip
    let name ← string
    token ':'
    let x ← content name
    token '\x7d'
    return x
  | _ => fail

/-- A choice without content, by the names of its cases. -/
def named {α : Type} (ofName : String → Option α) : Reader α :=
  tagged ofName fun name => do
    match ofName name with
    | some x =>
      match ← peek with
      | some 'n' => exactly "null"; return x
      | _ => fail
    | none => fail

/-- Reads a whole text; only white space may follow the value. -/
def readAll {α : Type} (reader : Reader α) (s : String) : Except Fault α :=
  match reader s.toList with
  | .ok (x, rest) => if rest.all isGap then .ok x else .error .malformed
  | .error e => .error e

end TypedWiki.Json
