import TypedWiki.Pattern.CharSet

/-!
# Patterns — the syntax of regular expressions

A pattern is built from character sets and positions by sequence, choice and counted repetition.  Parentheses do not
change what is matched, but they count towards the nesting and, if they capture, towards the size.  Nor does it
matter for a match whether a repetition is greedy, but patterns that differ in it are not the same.
-/

namespace TypedWiki

/-- A condition on a position between two characters.  The conditions on words take a word character for one of
any script or, if `ascii` is set, of ASCII. -/
inductive Boundary where
  /-- The start of the text. -/
  | textStart
  /-- The end of the text. -/
  | textEnd
  /-- The start of the text or the place after a line feed. -/
  | lineStart
  /-- The end of the text or the place before a line feed. -/
  | lineEnd
  /-- The start of the text or the place after a line end, which may be a carriage return with its line feed. -/
  | anyLineStart
  /-- The end of the text or the place before such a line end. -/
  | anyLineEnd
  /-- Between a word character and something else. -/
  | word (ascii : Bool)
  /-- Not at a word boundary. -/
  | notWord (ascii : Bool)
  /-- Where a word starts. -/
  | wordStart (ascii : Bool)
  /-- Where a word ends. -/
  | wordEnd (ascii : Bool)
  /-- Not after a word character. -/
  | wordStartHalf (ascii : Bool)
  /-- Not before a word character. -/
  | wordEndHalf (ascii : Bool)
  deriving DecidableEq, Repr

/-- A regular expression. -/
inductive Pattern where
  | empty
  | chars (s : CharSet)
  | boundary (b : Boundary)
  /-- A pattern between parentheses, with its number if they capture. -/
  | group (number : Option Nat) (p : Pattern)
  | seq (p q : Pattern)
  | alt (p q : Pattern)
  /-- At least `min` and, if bounded, at most `max` times. -/
  | times (p : Pattern) (min : Nat) (max : Option Nat) (greedy : Bool)
  deriving DecidableEq, Repr

namespace Pattern

/-- One pattern after the other. -/
def sequence : List Pattern → Pattern
  | [] => empty
  | [p] => p
  | p :: ps => seq p (sequence ps)

/-- Any of the patterns. -/
def choice : List Pattern → Pattern
  | [] => empty
  | [p] => p
  | p :: ps => alt p (choice ps)

/-- How deep parts are nested: parentheses, repetitions and bracketed classes lie one level above what they hold,
and so do a sequence and a choice, which run along their right branch. -/
def height : Pattern → Nat
  | empty => 0
  | chars s => s.height
  | boundary _ => 0
  | group _ p => p.height + 1
  | seq p (seq q r) => max (p.height + 1) (seq q r).height
  | seq p q => max p.height q.height + 1
  | alt p (alt q r) => max (p.height + 1) (alt q r).height
  | alt p q => max p.height q.height + 1
  | times p _ _ _ => p.height + 1

end Pattern

end TypedWiki
