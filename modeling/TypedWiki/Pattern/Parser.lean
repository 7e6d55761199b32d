import TypedWiki.Pattern.Property.Name
import TypedWiki.Pattern.Size
import TypedWiki.Text.Decimal
import TypedWiki.Text.Split

/-!
# Reading patterns — the written form of regular expressions

The reader goes through the text once.  Alternatives bind weakest, then sequence, then repetition.  A group
restores the flags that were in force before it; a flag directive such as `(?i)` holds up to the end of the group
around it, later alternatives included.  Look-around and back-references do not exist.  What was read must not be
nested too deep nor be too large to build its automata.

The literals `\x7b` and `\x7d` are the two braces: spelled by code point, they leave the brackets of this file balanced.
-/

namespace TypedWiki.Pattern

/-- Why a written pattern was refused. -/
inductive Fault where
  | unexpectedEnd
  | unclosedGroup
  | unopenedGroup
  | missingOperand
  | badCount
  | badEscape
  | badCodePoint
  | backReference
  | lookAround
  | unclosedClass
  | badRange
  | badGroupName
  | badFlag
  | unknownProperty
  | notAscii
  | tooDeep
  | tooLarge
  deriving DecidableEq, Repr

namespace Fault

/-- A short description of the fault. -/
def message : Fault → String
  | unexpectedEnd => "the pattern ends too early"
  | unclosedGroup => "unclosed group"
  | unopenedGroup => "unopened group"
  | missingOperand => "a repetition has nothing to repeat"
  | badCount => "invalid repetition count"
  | badEscape => "unknown escape sequence"
  | badCodePoint => "invalid code point"
  | backReference => "back-references are not supported"
  | lookAround => "look-around is not supported"
  | unclosedClass => "unclosed character class"
  | badRange => "invalid character class range"
  | badGroupName => "invalid group name"
  | badFlag => "invalid flag"
  | unknownProperty => "unknown character property"
  | notAscii => "characters outside of ASCII are not allowed here"
  | tooDeep => "the pattern is nested too deep"
  | tooLarge => "the pattern is too large"

end Fault

/-- How the following text is read. -/
structure Flags where
  /-- Letters stand for all their cases. -/
  ignoreCase : Bool := false
  /-- The start and end marks also hold at line feeds. -/
  multiLine : Bool := false
  /-- The point also stands for a line feed. -/
  dotAll : Bool := false
  /-- White space and comments between the parts are skipped. -/
  spaced : Bool := false
  /-- Repetitions are lazy unless a question mark makes them greedy. -/
  lazy : Bool := false
  /-- Carriage returns also end lines. -/
  anyLineEnd : Bool := false
  /-- Classes, words and cases are those of ASCII. -/
  ascii : Bool := false
  deriving DecidableEq, Repr

/-- What was read, and the text after it. -/
abbrev Read (α : Type) := α × List Char

/-! ### Parts -/

/-- Skips white space and comments where the flags say so. -/
def skipBlanks (flags : Flags) (cs : List Char) : List Char :=
  if flags.spaced then go false cs else cs
where
  /-- Skips, inside or outside a comment. -/
  go : Bool → List Char → List Char
    | _, [] => []
    | true, c :: r => go (c ≠ '\n') r
    | false, c :: r => if Text.isSpace c then go false r else if c = '#' then go true r else c :: r

/-- Characters with a meaning of their own, which a backslash takes away. -/
def isMeta (c : Char) : Bool := "\\.+*?()|[]\x7b\x7d^$#&-~".toList.contains c

/-- Characters that stand for themselves after a backslash. -/
def isEscapable (c : Char) : Bool :=
  isMeta c || (c.toNat < 128 && !Text.isAsciiLetter c && !Text.isAsciiDigit c && c ≠ '<' && c ≠ '>')

/-- What an escape sequence or a single character stands for. -/
inductive Atom where
  | literal (c : Char)
  | set (s : CharSet)
  | boundary (b : Boundary)
  deriving DecidableEq, Repr

/-- The character of a code point that is one. -/
def charOf? (n : Nat) : Option Char :=
  if n < 0xD800 ∨ (0xE000 ≤ n ∧ n ≤ 0x10FFFF) then some (Char.ofNat n) else none

/-- The number written by hexadecimal digits. -/
def hexNumber (ds : List Char) : Option Nat :=
  ds.foldlM (fun n c => (Text.hexValue c).map (n * 16 + ·)) 0

/-- A code point between braces. -/
def readBracedCode (flags : Flags) (acc : List Char) : Nat → List Char → Except Fault (Read Char)
  | 0, _ => .error .unexpectedEnd
  | fuel + 1, cs =>
    match skipBlanks flags cs with
    | [] => .error .unexpectedEnd
    | '\x7d' :: r =>
      if acc.isEmpty then .error .badCodePoint
      else match (hexNumber acc.reverse).bind charOf? with
        | some c => .ok (c, skipBlanks flags r)
        | none => .error .badCodePoint
    | c :: r => if (Text.hexValue c).isSome then readBracedCode flags (c :: acc) fuel r else .error .badCodePoint

/-- A code point of a fixed number of digits. -/
def readFixedCode (flags : Flags) (acc : List Char) : Nat → List Char → Except Fault (Read Char)
  | 0, cs =>
    match (hexNumber acc.reverse).bind charOf? with
    | some c => .ok (c, skipBlanks flags cs)
    | none => .error .badCodePoint
  | n + 1, cs =>
    match skipBlanks flags cs with
    | [] => .error .unexpectedEnd
    | c :: r => if (Text.hexValue c).isSome then readFixedCode flags (c :: acc) n r else .error .badCodePoint

/-- A code point, either between braces or of the given number of digits. -/
def readCode (flags : Flags) (digits : Nat) (cs : List Char) : Except Fault (Read Char) :=
  match skipBlanks flags cs with
  | [] => .error .unexpectedEnd
  | '\x7b' :: r => readBracedCode flags [] (r.length + 1) r
  | c :: r => readFixedCode flags [] digits (c :: r)

/-- The set of an escape sequence for a class of characters.  Among the sets of ASCII there are no complements. -/
def classOf? (flags : Flags) (c : Char) : Option CharSet :=
  if flags.ascii then
    match c with
    | 'd' => some (.named asciiDigits)
    | 's' => some (.named asciiSpaces)
    | 'w' => some (.named asciiWords)
    | _ => none
  else
    match c with
    | 'd' => some .digits
    | 's' => some .spaces
    | 'w' => some .words
    | 'D' => some (.compl .digits)
    | 'S' => some (.compl .spaces)
    | 'W' => some (.compl .words)
    | _ => none
where
  /-- The digits of ASCII. -/
  asciiDigits : Text.CodeSet := ⟨[48, 58]⟩
  /-- The white space of ASCII. -/
  asciiSpaces : Text.CodeSet := ⟨[9, 14, 32, 33]⟩
  /-- The word characters of ASCII. -/
  asciiWords : Text.CodeSet := ⟨[48, 58, 65, 91, 95, 96, 97, 123]⟩

/-- A set with all cases of its members where case is ignored. -/
def foldCase (flags : Flags) (s : CharSet) : CharSet := if flags.ignoreCase then .folded flags.ascii s else s

/-- The name of a property between braces, with the text after the closing one. -/
def readPropertyName (flags : Flags) (name : List Char) : Nat → List Char → Except Fault (Read (List Char))
  | 0, _ => .error .unexpectedEnd
  | fuel + 1, cs =>
    match skipBlanks flags cs with
    | [] => .error .unexpectedEnd
    | '\x7d' :: r => .ok (name.reverse, r)
    | c :: r => readPropertyName flags (c :: name) fuel r

/-- The set of a property, with or without a value; the flag tells whether the value is excluded. -/
def propertyOf? (name : List Char) : Option (CharSet × Bool) :=
  let valued (name value : List Char) (excluded : Bool) :=
    (Property.valued? (String.ofList name) (String.ofList value)).map fun s => (.named s, excluded)
  match cutAtExclusion name with
  | some (name, value) => valued name value true
  | none =>
    match Text.splitFirst ':' name <|> Text.splitFirst '=' name with
    | some (name, value) => valued name value false
    | none => (Property.named? (String.ofList name)).map fun s => (.named s, false)
where
  /-- The text before and after the first `!=`. -/
  cutAtExclusion : List Char → Option (List Char × List Char)
    | [] => none
    | '!' :: '=' :: r => some ([], r)
    | c :: r => (cutAtExclusion r).map fun (name, value) => (c :: name, value)

/-- What follows an escaped `p` or, where `negated`, `P`: a property by a single letter or by a name between braces. -/
def readProperty (flags : Flags) (negated : Bool) (cs : List Char) : Except Fault (Read CharSet) := do
  let (name, rest) ← match skipBlanks flags cs with
    | [] => .error .unexpectedEnd
    | '\x7b' :: r => readPropertyName flags [] (r.length + 1) r
    | c :: r => .ok ([c], r)
  if flags.ascii then .error .notAscii
  else match propertyOf? name with
    | none => .error .unknownProperty
    | some (s, excluded) =>
      let s := foldCase flags s
      .ok (if negated != excluded then .compl s else s, rest)

/-- The control character of an escape sequence. -/
def controlOf? : Char → Option Char
  | 'a' => some '\x07'
  | 'f' => some '\x0c'
  | 't' => some '\t'
  | 'n' => some '\n'
  | 'r' => some '\r'
  | 'v' => some '\x0b'
  | _ => none

/-- The special word boundary named between braces after an escaped `b`, if there is one. -/
def readNamedBoundary (flags : Flags) (cs : List Char) : Except Fault (Read Boundary) :=
  match cs with
  | '\x7b' :: r =>
    match skipBlanks flags r with
    | [] => .error .unexpectedEnd
    | c :: r' =>
      if isNameChar c then
        let body := collect r'.length (c :: r')
        match body.2, String.ofList body.1 with
        | '\x7d' :: rest, "start" => .ok (.wordStart flags.ascii, rest)
        | '\x7d' :: rest, "end" => .ok (.wordEnd flags.ascii, rest)
        | '\x7d' :: rest, "start-half" => .ok (.wordStartHalf flags.ascii, rest)
        | '\x7d' :: rest, "end-half" => .ok (.wordEndHalf flags.ascii, rest)
        | _, _ => .error .badEscape
      else .ok (.word flags.ascii, cs)
  | _ => .ok (.word flags.ascii, cs)
where
  /-- Characters of boundary names. -/
  isNameChar (c : Char) : Bool := Text.isAsciiLetter c || c == '-'
  /-- The longest name at the start. -/
  collect : Nat → List Char → List Char × List Char
    | 0, cs => ([], cs)
    | _ + 1, [] => ([], [])
    | n + 1, c :: r =>
      if isNameChar c then
        let rest := collect n (skipBlanks flags r)
        (c :: rest.1, rest.2)
      else ([], c :: r)

/-- What follows a backslash. -/
def readEscape (flags : Flags) : List Char → Except Fault (Read Atom)
  | [] => .error .unexpectedEnd
  | c :: r =>
    if Text.isAsciiDigit c then .error .backReference
    else if c = 'x' then do
      let (d, rest) ← readCode flags 2 r
      let isByte := (skipBlanks flags r).head? ≠ some '\x7b'
      if flags.ascii && isByte && d.toNat ≥ 128 then .error .notAscii else .ok (.literal d, rest)
    else if c = 'u' then (readCode flags 4 r).map fun (c, r) => (.literal c, r)
    else if c = 'U' then (readCode flags 8 r).map fun (c, r) => (.literal c, r)
    else if c = 'p' ∨ c = 'P' then (readProperty flags (c = 'P') r).map fun (s, r) => (.set s, r)
    else match classOf? flags c with
      | some s => .ok (.set s, r)
      | none =>
        if isEscapable c then .ok (.literal c, r)
        else match controlOf? c with
          | some d => .ok (.literal d, r)
          | none =>
            match c with
            | 'A' => .ok (.boundary .textStart, r)
            | 'z' => .ok (.boundary .textEnd, r)
            | 'B' => .ok (.boundary (.notWord flags.ascii), r)
            | '<' => .ok (.boundary (.wordStart flags.ascii), r)
            | '>' => .ok (.boundary (.wordEnd flags.ascii), r)
            | 'b' => (readNamedBoundary flags r).map fun (b, r) => (.boundary b, r)
            | _ => .error .badEscape

/-! ### Character classes -/

/-- The named classes of ASCII characters. -/
def namedClass? : String → Option CharSet
  | "alnum" => some (.named ⟨[48, 58, 65, 91, 97, 123]⟩)
  | "alpha" => some (.named ⟨[65, 91, 97, 123]⟩)
  | "ascii" => some (.named ⟨[0, 128]⟩)
  | "blank" => some (.named ⟨[9, 10, 32, 33]⟩)
  | "cntrl" => some (.named ⟨[0, 32, 127, 128]⟩)
  | "digit" => some (.named ⟨[48, 58]⟩)
  | "graph" => some (.named ⟨[33, 127]⟩)
  | "lower" => some (.named ⟨[97, 123]⟩)
  | "print" => some (.named ⟨[32, 127]⟩)
  | "punct" => some (.named ⟨[33, 48, 58, 65, 91, 97, 123, 127]⟩)
  | "space" => some (.named ⟨[9, 14, 32, 33]⟩)
  | "upper" => some (.named ⟨[65, 91]⟩)
  | "word" => some (.named ⟨[48, 58, 65, 91, 95, 96, 97, 123]⟩)
  | "xdigit" => some (.named ⟨[48, 58, 65, 71, 97, 103]⟩)
  | _ => none

/-- A named class after its opening bracket; nothing when the text is not of that form. -/
def readNamedClass (flags : Flags) (cs : List Char) : Option (CharSet × List Char) :=
  match cs with
  | ':' :: '^' :: r => (close r).map fun (s, r) => (.compl (foldCase flags s), r)
  | ':' :: r => close r
  | _ => none
where
  /-- The name, the colon and the closing bracket. -/
  close (r : List Char) : Option (CharSet × List Char) :=
    match Text.splitFirst ':' r with
    | some (name, ']' :: rest) => (namedClass? (String.ofList name)).map fun s => (s, rest)
    | _ => none

/-- How two sets of one class are combined. -/
inductive ClassOp where
  | inter
  | diff
  | symmDiff
  deriving DecidableEq, Repr

/-- Combines two sets; both count with all cases where case is ignored. -/
def ClassOp.apply (flags : Flags) (op : ClassOp) (a b : CharSet) : CharSet :=
  match op with
  | .inter => .inter (foldCase flags a) (foldCase flags b)
  | .diff => .diff (foldCase flags a) (foldCase flags b)
  | .symmDiff => .symmDiff (foldCase flags a) (foldCase flags b)

/-- The operator at the start of the text. -/
def classOp? : List Char → Option (ClassOp × List Char)
  | '&' :: '&' :: r => some (.inter, r)
  | '-' :: '-' :: r => some (.diff, r)
  | '~' :: '~' :: r => some (.symmDiff, r)
  | _ => none

/-- Whether a set can be a class; with classes of ASCII it holds nothing else. -/
def isAllowed (flags : Flags) (s : CharSet) : Bool := !flags.ascii || s.isAscii

/-- One character or escape sequence of a class. -/
def readClassAtom (flags : Flags) : List Char → Except Fault (Read Atom)
  | [] => .error .unclosedClass
  | '\\' :: r => readEscape flags r
  | c :: r => .ok (.literal c, r)

/-- Whether a hyphen at the start of the text stands for itself, being last or the first of two. -/
def isLoneHyphen (flags : Flags) (afterHyphen : List Char) : Bool :=
  match skipBlanks flags afterHyphen with
  | ']' :: _ => true
  | '-' :: _ => true
  | _ => false

/-- A single member of a class or a range of members. -/
def readClassRange (flags : Flags) (cs : List Char) : Except Fault (Read CharSet) := do
  let (first, r) ← readClassAtom flags cs
  let r := skipBlanks flags r
  let single : Except Fault (Read CharSet) :=
    match first with
    | .literal c => .ok (.single c, r)
    | .set s => .ok (s, r)
    | .boundary _ => .error .badEscape
  match r with
  | [] => .error .unclosedClass
  | '-' :: r' =>
    if isLoneHyphen flags r' then single
    else
      let r' := skipBlanks flags r'
      let (last, rest) ← readClassAtom flags r'
      match first, last with
      | .literal a, .literal b =>
        if a.toNat ≤ b.toNat then .ok (.range a.toNat b.toNat, rest) else .error .badRange
      | _, _ => .error .badRange
  | _ => single

/-- The leading part of a class: negation, hyphens and a bracket that stands for itself. -/
def readClassOpening (flags : Flags) (cs : List Char) : Except Fault (Read (Bool × List CharSet)) := do
  let r := skipBlanks flags cs
  let (negated, r) := match r with
    | '^' :: r' => (true, skipBlanks flags r')
    | _ => (false, r)
  let (hyphens, r) := dropHyphens r.length r
  let items := List.replicate hyphens (CharSet.single '-')
  match r with
  | [] => .error .unclosedClass
  | ']' :: r' =>
    if hyphens = 0 then
      match skipBlanks flags r' with
      | [] => .error .unclosedClass
      | r'' => .ok ((negated, [CharSet.single ']']), r'')
    else .ok ((negated, items), r)
  | _ => .ok ((negated, items), r)
where
  /-- Counts and drops the hyphens at the start. -/
  dropHyphens : Nat → List Char → Nat × List Char
    | n + 1, '-' :: r =>
      let rest := dropHyphens n (skipBlanks flags r)
      (rest.1 + 1, rest.2)
    | _, r => (0, r)

/-- A class after its opening bracket, up to and with its closing one. -/
def readClass (flags : Flags) : Nat → List Char → Except Fault (Read CharSet)
  | 0, _ => .error .unclosedClass
  | fuel + 1, cs => do
    let ((negated, items), r) ← readClassOpening flags cs
    let (s, rest) ← members fuel none items r
    let s := foldCase flags s
    let s := if negated then .compl s else s
    if isAllowed flags s then .ok (.bracketed s, rest) else .error .notAscii
where
  /-- The members; `left` is the set and the operator in front of the current ones. -/
  members (fuel : Nat) (left : Option (CharSet × ClassOp)) (items : List CharSet) (cs : List Char) :
      Except Fault (Read CharSet) :=
    match fuel with
    | 0 => .error .unclosedClass
    | fuel + 1 =>
      let current :=
        let s := CharSet.ofList items
        match left with
        | some (l, op) => op.apply flags l s
        | none => s
      let cs := skipBlanks flags cs
      match classOp? cs with
      | some (op, r) => members fuel (some (current, op)) [] r
      | none =>
        match cs with
        | [] => .error .unclosedClass
        | ']' :: r => .ok (current, r)
        | '[' :: r =>
          match readNamedClass flags r with
          | some (s, rest) =>
            if isAllowed flags s then members fuel left (items ++ [s]) rest else .error .notAscii
          | none =>
            match readClass flags fuel r with
            | .ok (s, rest) => members fuel left (items ++ [s]) rest
            | .error e => .error e
        | _ =>
          match readClassRange flags cs with
          | .ok (s, rest) =>
            if isAllowed flags s then members fuel left (items ++ [s]) rest else .error .notAscii
          | .error e => .error e

/-! ### Repetition counts -/

/-- A decimal number with white space around it. -/
def readCountNumber (flags : Flags) (cs : List Char) : Except Fault (Read (Option Nat)) :=
  let r := cs.dropWhile Text.isSpace
  let (ds, r) := digits r.length r
  let r := skipBlanks flags (r.dropWhile Text.isSpace)
  if ds.isEmpty then .ok (none, r)
  else if Text.ofDigits ds < UInt32.size then .ok (some (Text.ofDigits ds), r)
  else .error .badCount
where
  /-- The digits at the start. -/
  digits : Nat → List Char → List Char × List Char
    | n + 1, c :: r =>
      if Text.isAsciiDigit c then
        let rest := digits n (skipBlanks flags r)
        (c :: rest.1, rest.2)
      else ([], c :: r)
    | _, r => ([], r)

/-- The bounds of a counted repetition after its opening brace. -/
def readCount (flags : Flags) (cs : List Char) : Except Fault (Read (Nat × Option Nat)) := do
  let (low, r) ← readCountNumber flags (skipBlanks flags cs)
  match low, r with
  | some n, '\x7d' :: r => .ok ((n, some n), r)
  | some n, ',' :: r =>
    match skipBlanks flags r with
    | '\x7d' :: r => .ok ((n, none), r)
    | r =>
      let (high, r) ← readCountNumber flags r
      match high, r with
      | some m, '\x7d' :: r => if n ≤ m then .ok ((n, some m), r) else .error .badCount
      | _, _ => .error .badCount
  | _, _ => .error .badCount

/-! ### Groups and flags -/

/-- The name of a capture group up to its closing angle bracket. -/
def readGroupName (cs : List Char) : Except Fault (Read String) :=
  match Text.splitFirst '>' cs with
  | some (c :: name, rest) =>
    if (c = '_' || Text.alphabeticTable.contains c)
      && name.all fun d => d = '_' || d = '.' || d = '[' || d = ']' || Text.isAlphanumeric d
    then .ok (String.ofList (c :: name), rest)
    else .error .badGroupName
  | _ => .error .badGroupName

/-- Switches one flag; unknown letters are refused. -/
def setFlag (on : Bool) (flags : Flags) : Char → Option Flags
  | 'i' => some { flags with ignoreCase := on }
  | 'm' => some { flags with multiLine := on }
  | 's' => some { flags with dotAll := on }
  | 'x' => some { flags with spaced := on }
  | 'U' => some { flags with lazy := on }
  | 'R' => some { flags with anyLineEnd := on }
  | 'u' => some { flags with ascii := !on }
  | _ => none

/-- A list of flags up to a colon or closing parenthesis, which stays; `seen` holds the letters so far. -/
def readFlags (seen : List Char) (on : Bool) (flags : Flags) : List Char → Except Fault (Read (Flags × Bool))
  | [] => .error .unexpectedEnd
  | c :: r =>
    if c = ':' ∨ c = ')' then
      if seen.head? = some '-' then .error .badFlag else .ok ((flags, seen.isEmpty), c :: r)
    else if seen.contains c then .error .badFlag
    else if c = '-' then readFlags (c :: seen) false flags r
    else match setFlag on flags c with
      | some flags => readFlags (c :: seen) on flags r
      | none => .error .badFlag

/-! ### Patterns -/

/-- What one step of reading a sequence adds to it. -/
inductive Item where
  | part (p : Pattern)
  /-- A directive, which changes flags and cannot be repeated. -/
  | directive

/-- What an item matches; a directive matches the empty text. -/
def Item.pattern : Item → Pattern
  | .part p => p
  | .directive => .empty

/-- The sequence of items held in reverse. -/
def Item.sequence (items : List Item) : Pattern := Pattern.sequence (items.reverse.map Item.pattern)

/-- One character, in all its cases where case is ignored. -/
def literal (flags : Flags) (c : Char) : Pattern := .chars (foldCase flags (.single c))

/-- The start of the text or, with several lines, of any line. -/
def startMark (flags : Flags) : Boundary :=
  if !flags.multiLine then .textStart else if flags.anyLineEnd then .anyLineStart else .lineStart

/-- The end of the text or, with several lines, of any line. -/
def endMark (flags : Flags) : Boundary :=
  if !flags.multiLine then .textEnd else if flags.anyLineEnd then .anyLineEnd else .lineEnd

/-- The pattern of an atom outside a class. -/
def Atom.pattern (flags : Flags) : Atom → Pattern
  | .literal c => Pattern.literal flags c
  | .set s => .chars s
  | .boundary b => .boundary b

/-- The point: any character, or any that does not end a line. -/
def anyChar (flags : Flags) : CharSet :=
  if flags.dotAll then .all
  else if flags.anyLineEnd then .compl (.named ⟨[10, 11, 13, 14]⟩)
  else .compl (.single '\n')

/-- Looks for the forms of look-around after an opening parenthesis. -/
def isLookAround : List Char → Bool
  | '?' :: '=' :: _ => true
  | '?' :: '!' :: _ => true
  | '?' :: '<' :: '=' :: _ => true
  | '?' :: '<' :: '!' :: _ => true
  | _ => false

/-- The kinds of group, told apart by what follows the opening parenthesis. -/
inductive GroupStart where
  /-- A group whose inside starts under the given flags. -/
  | plain (flags : Flags)
  /-- A group that captures, with its name if it has one. -/
  | capture (name : Option String)
  /-- A directive for the rest of the surrounding group. -/
  | directive (flags : Flags)

/-- What follows an opening parenthesis. -/
def readGroupStart (flags : Flags) (cs : List Char) : Except Fault (Read GroupStart) :=
  let cs := skipBlanks flags cs
  if isLookAround cs then .error .lookAround
  else match cs with
    | '?' :: 'P' :: '<' :: r => (readGroupName r).map fun (n, r) => (.capture (some n), r)
    | '?' :: '<' :: r => (readGroupName r).map fun (n, r) => (.capture (some n), r)
    | '?' :: r =>
      match readFlags [] true flags r with
      | .ok ((inner, _), ':' :: r) => .ok (.plain inner, r)
      | .ok ((inner, isEmpty), ')' :: r) =>
        if isEmpty then .error .missingOperand else .ok (.directive inner, r)
      | .ok _ => .error .badFlag
      | .error e => .error e
    | r => .ok (.capture none, r)

/-- The repetition of the last part of a sequence. -/
def repeatLast (items : List Item) (min : Nat) (max : Option Nat) (greedy : Bool) : Except Fault (List Item) :=
  match items with
  | .part p :: rest => .ok (.part (.times p min max greedy) :: rest)
  | _ => .error .missingOperand

/-- Whether a repetition is greedy; a question mark after it turns what it is by default. -/
def readGreed (flags : Flags) : List Char → Read Bool
  | '?' :: r => (flags.lazy, r)
  | r => (!flags.lazy, r)

/-- The captures read so far, each with its name if it has one. -/
abbrev Captures := List (Option String)

/-- Reads alternatives up to the end of the text or a closing parenthesis, which stays.  The alternatives read so
far and the items of the current one are held in reverse; a name can be given to one capture only. -/
def readAlternatives (fuel : Nat) (flags : Flags) (captures : Captures) (done : List Pattern)
    (items : List Item) (cs : List Char) : Except Fault (Read (Pattern × Captures)) :=
  match fuel with
  | 0 => .error .unexpectedEnd
  | fuel + 1 =>
    let repeated (min : Nat) (max : Option Nat) (r : List Char) :=
      let (greedy, r) := readGreed flags r
      match repeatLast items min max greedy with
      | .ok items => readAlternatives fuel flags captures done items r
      | .error e => .error e
    let add (p : Pattern) (r : List Char) := readAlternatives fuel flags captures done (.part p :: items) r
    let group (number : Option Nat) (inner : Flags) (captures : Captures) (r : List Char) :=
      match readAlternatives fuel inner captures [] [] r with
      | .error e => .error e
      | .ok ((p, captures), ')' :: r) =>
        readAlternatives fuel flags captures done (.part (.group number p) :: items) r
      | .ok _ => .error .unclosedGroup
    match skipBlanks flags cs with
    | [] => .ok ((Pattern.choice (Item.sequence items :: done).reverse, captures), [])
    | ')' :: r => .ok ((Pattern.choice (Item.sequence items :: done).reverse, captures), ')' :: r)
    | '|' :: r => readAlternatives fuel flags captures (Item.sequence items :: done) [] r
    | '?' :: r => repeated 0 (some 1) r
    | '*' :: r => repeated 0 none r
    | '+' :: r => repeated 1 none r
    | '\x7b' :: r =>
      match readCount flags r with
        | .ok ((min, max), r) => repeated min max (skipBlanks flags r)
        | .error e => .error e
    | '[' :: r =>
      match readClass flags (2 * r.length + 2) r with
      | .ok (s, r) => add (.chars s) r
      | .error e => .error e
    | '\\' :: r =>
      match readEscape flags r with
      | .ok (a, r) => add (a.pattern flags) r
      | .error e => .error e
    | '.' :: r => if flags.ascii then .error .notAscii else add (.chars (anyChar flags)) r
    | '^' :: r => add (.boundary (startMark flags)) r
    | '$' :: r => add (.boundary (endMark flags)) r
    | '(' :: r =>
      match readGroupStart flags r with
      | .error e => .error e
      | .ok (.directive inner, r) => readAlternatives fuel inner captures done (.directive :: items) r
      | .ok (.plain inner, r) => group none inner captures r
      | .ok (.capture name, r) =>
        if name.isSome && captures.contains name then .error .badGroupName
        else group (some captures.length) flags (name :: captures) r
    | c :: r => add (literal flags c) r

/-- The greatest height of a pattern. -/
def heightLimit : Nat := 250

/-- Reads a whole text as a pattern. -/
def parse (cs : List Char) : Except Fault Pattern :=
  match readAlternatives (cs.length + 1) {} [] [] [] cs with
  | .ok ((p, _), []) =>
    if p.height > heightLimit then .error .tooDeep
    else if p.isBuildable then .ok p
    else .error .tooLarge
  | .ok _ => .error .unopenedGroup
  | .error e => .error e

/-- Reads a pattern between the marks for the start and the end of the text, put around it as text. -/
def parseAnchored (source : String) : Except Fault Pattern :=
  parse ("^(?:".toList ++ source.toList ++ ")$".toList)

end TypedWiki.Pattern
