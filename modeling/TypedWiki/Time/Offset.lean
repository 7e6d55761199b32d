import TypedWiki.Time.Reading

/-!
# Timestamps with an offset — reading RFC 3339 and its common variants

The date, a `T` or a space, the time with an optional fraction, and the offset from UTC.  White space is allowed
between the parts of the date, of the time and of the offset; the offset may also be `Z` or `UTC`.
-/

namespace TypedWiki.Time

/-- The items of the date. -/
def dateItems : List FormatItem :=
  [.number .year, .blank ' ', .literal '-', .number .month, .blank ' ', .literal '-', .number .day]

/-- The items of the time of day before its fraction. -/
def clockItems : List FormatItem :=
  [.number .hour, .blank ' ', .literal ':', .number .minute, .blank ' ', .literal ':', .number .second]

/-- The nanoseconds of a fraction, of which nine digits count; without a point there are none. -/
def readFraction : List Char → Option (Nat × List Char)
  | '.' :: r => do
    let (n, rest) ← readDigits 9 r
    let length := r.length - rest.length
    return (n * Nat.pow 10 (9 - length), rest.dropWhile Text.isAsciiDigit)
  | r => some (0, r)

/-- Two digits, the first of them at most `top`. -/
def readTwoDigits (top : Char) : List Char → Option (Nat × List Char)
  | a :: b :: r =>
    if Text.isAsciiDigit a ∧ a ≤ top ∧ Text.isAsciiDigit b then
      some (Text.digitValue a * 10 + Text.digitValue b, r)
    else none
  | _ => none

/-- The hours and minutes of an offset, in seconds. -/
def readOffsetSize (cs : List Char) : Option (Nat × List Char) := do
  let (hours, r) ← readTwoDigits '9' cs
  let (minutes, r) ← readTwoDigits '5' (r.dropWhile fun c => c = ':' || Text.isSpace c)
  return (hours * 3600 + minutes * 60, r)

/-- An offset from UTC in seconds. -/
def readOffset (cs : List Char) : Option (Int × List Char) :=
  match dropWord ['U', 'T', 'C'] cs with
  | some r => some (0, r)
  | none =>
    match cs with
    | 'Z' :: r => some (0, r)
    | 'z' :: r => some (0, r)
    | '+' :: r => (readOffsetSize r).map fun (n, r) => ((n : Int), r)
    | '-' :: r => (readOffsetSize r).map fun (n, r) => (-(n : Int), r)
    | '\u2212' :: r => (readOffsetSize r).map fun (n, r) => (-(n : Int), r)
    | _ => none

/-- The timestamp of a date and time with an offset of less than a day. -/
def Timestamp.ofOffsetText? (s : String) : Option Timestamp := do
  let (p, r) ← readItems dateItems {} s.toList
  let r ← match r with
    | 'T' :: r => some r
    | 't' :: r => some r
    | ' ' :: r => some r
    | _ => none
  let (p, r) ← readItems clockItems p r
  let (nanos, r) ← readFraction r
  let (offset, r) ← readOffset (Text.trimStart r)
  guard (Text.trimStart r).isEmpty
  let date ← p.resolveDate
  let clock ← p.resolveClock
  guard (offset.natAbs < 86400)
  let t := Timestamp.ofParts date { clock with nanos := clock.nanos + nanos }
  let t := { t with seconds := t.seconds - offset }
  if t.date.isValid then some t else none

end TypedWiki.Time
