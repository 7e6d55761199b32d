import TypedWiki.Text.Decimal
import TypedWiki.Time.Calendar

/-!
# Timestamps — points in time to the nanosecond

A timestamp counts seconds from the start of 1970 in UTC and nanoseconds within the second.  A leap second is the
59th second of a minute with a nanosecond part of at least one thousand million.  Its RFC 3339 text has zero,
three, six or nine fraction digits, whichever is the first that loses nothing.
-/

namespace TypedWiki.Time

/-- Nanoseconds in a second. -/
def nanosPerSecond : Nat := 1000000000

/-- A point in time; timestamps are ordered by seconds, then nanoseconds. -/
structure Timestamp where
  seconds : Int
  nanos : Nat
  deriving DecidableEq, Repr, Inhabited

/-- The time of day, with leap seconds as nanoseconds past one second. -/
structure Clock where
  hour : Nat
  minute : Nat
  second : Nat
  nanos : Nat
  deriving DecidableEq, Repr

namespace Timestamp

/-- The date on which a timestamp lies. -/
def date (t : Timestamp) : CalendarDate := CalendarDate.ofDays (t.seconds / 86400)

/-- The time of day of a timestamp. -/
def clock (t : Timestamp) : Clock :=
  let s := (t.seconds % 86400).toNat
  ⟨s / 3600, s / 60 % 60, s % 60, t.nanos⟩

/-- The timestamp of a date and a time of day. -/
def ofParts (d : CalendarDate) (c : Clock) : Timestamp :=
  ⟨d.toDays * 86400 + (c.hour * 3600 + c.minute * 60 + c.second : Nat), c.nanos⟩

/-- Timestamps in the order of time. -/
instance : Ord Timestamp := ⟨compareLex (compareOn seconds) (compareOn nanos)⟩

instance : Std.TransOrd Timestamp :=
  inferInstanceAs (Std.TransCmp (compareLex (compareOn seconds) (compareOn nanos)))

instance : Std.LawfulEqOrd Timestamp where
  eq_of_compare {a b} h := by
    obtain ⟨hs, hn⟩ := compareLex_eq_eq.1 h
    cases a
    cases b
    rw [mk.injEq]
    exact ⟨Std.compare_eq_iff_eq.1 hs, Std.compare_eq_iff_eq.1 hn⟩

end Timestamp

namespace Clock

/-- The second as shown, which is 60 in a leap second. -/
def shownSecond (c : Clock) : Nat := c.second + c.nanos / nanosPerSecond

/-- The nanoseconds within the shown second. -/
def shownNanos (c : Clock) : Nat := c.nanos % nanosPerSecond

end Clock

/-- A year with four digits; outside 0 to 9999 it has a sign, and the sign counts as one of five places. -/
def showYear (y : Int) : String :=
  if 0 ≤ y ∧ y ≤ 9999 then Text.padNat 4 y.toNat
  else (if y < 0 then "-" else "+") ++ Text.padNat 4 y.natAbs

/-- The fraction of a second: none, or a point and three, six or nine digits. -/
def showFraction (nanos : Nat) : String :=
  if nanos = 0 then ""
  else if nanos % 1000000 = 0 then "." ++ Text.padNat 3 (nanos / 1000000)
  else if nanos % 1000 = 0 then "." ++ Text.padNat 6 (nanos / 1000)
  else "." ++ Text.padNat 9 nanos

/-- The RFC 3339 text with the given name for UTC. -/
def Timestamp.rfc3339 (zone : String) (t : Timestamp) : String :=
  let d := t.date
  let c := t.clock
  showYear d.year ++ "-" ++ Text.padNat 2 d.month ++ "-" ++ Text.padNat 2 d.day
    ++ "T" ++ Text.padNat 2 c.hour ++ ":" ++ Text.padNat 2 c.minute ++ ":" ++ Text.padNat 2 c.shownSecond
    ++ showFraction c.shownNanos ++ zone

end TypedWiki.Time
