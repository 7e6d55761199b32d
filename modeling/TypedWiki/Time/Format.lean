import TypedWiki.Text.Blank
import TypedWiki.Time.Timestamp

/-!
# Date formats — writing a timestamp by a format text

A format text mixes literal characters with directives, each a percent sign and a letter.  It is cut into items
once; writing an item depends on the date and the time of day alone.
-/

namespace TypedWiki.Time

/-- The numbers that a format can show. -/
inductive NumericField where
  | year
  | shortYear
  | month
  | day
  | ordinal
  | hour
  | hour12
  | minute
  | second
  deriving DecidableEq, Repr

/-- One item of a format. -/
inductive FormatItem where
  /-- A character that stands for itself. -/
  | literal (c : Char)
  /-- A white space character. -/
  | blank (c : Char)
  /-- A number padded with zeros. -/
  | number (f : NumericField)
  /-- The day of the month padded with a space. -/
  | spacedDay
  | monthName (long : Bool)
  | weekdayName (long : Bool)
  /-- The half of the day, `AM` or `PM`. -/
  | dayHalf
  /-- A directive without a meaning. -/
  | unknown
  deriving DecidableEq, Repr

namespace FormatItem

/-- The items of the directive with a given letter. -/
def ofDirective : Char → List FormatItem
  | 'Y' => [.number .year]
  | 'y' => [.number .shortYear]
  | 'm' => [.number .month]
  | 'd' => [.number .day]
  | 'e' => [.spacedDay]
  | 'j' => [.number .ordinal]
  | 'H' => [.number .hour]
  | 'I' => [.number .hour12]
  | 'M' => [.number .minute]
  | 'S' => [.number .second]
  | 'p' => [.dayHalf]
  | 'b' => [.monthName false]
  | 'B' => [.monthName true]
  | 'a' => [.weekdayName false]
  | 'A' => [.weekdayName true]
  | 'F' => [.number .year, .literal '-', .number .month, .literal '-', .number .day]
  | 'T' => [.number .hour, .literal ':', .number .minute, .literal ':', .number .second]
  | 'R' => [.number .hour, .literal ':', .number .minute]
  | 'D' => [.number .month, .literal '/', .number .day, .literal '/', .number .shortYear]
  | '%' => [.literal '%']
  | _ => [.unknown]

/-- The items of a format text. -/
def ofChars : List Char → List FormatItem
  | [] => []
  | ['%'] => [.unknown]
  | '%' :: d :: r => ofDirective d ++ ofChars r
  | c :: r => (if Text.isSpace c then .blank c else .literal c) :: ofChars r

end FormatItem

/-- The English names of the months. -/
def monthNames : List String :=
  ["January", "February", "March", "April", "May", "June", "July", "August", "September", "October", "November",
    "December"]

/-- The English names of the weekdays, Monday first. -/
def weekdayNames : List String :=
  ["Monday", "Tuesday", "Wednesday", "Thursday", "Friday", "Saturday", "Sunday"]

/-- A short name is the first three letters. -/
def shortName (name : String) : String := String.ofList (name.toList.take 3)

/-- The hour on a clock of twelve hours. -/
def hourOf12 (hour : Nat) : Nat := if hour % 12 = 0 then 12 else hour % 12

/-- The text of a number with zeros in front. -/
def NumericField.render (d : CalendarDate) (c : Clock) : NumericField → String
  | .year => showYear d.year
  | .shortYear => Text.padNat 2 (d.year % 100).toNat
  | .month => Text.padNat 2 d.month
  | .day => Text.padNat 2 d.day
  | .ordinal => Text.padNat 3 d.ordinal
  | .hour => Text.padNat 2 c.hour
  | .hour12 => Text.padNat 2 (hourOf12 c.hour)
  | .minute => Text.padNat 2 c.minute
  | .second => Text.padNat 2 c.shownSecond

/-- The text of an item. -/
def FormatItem.render (d : CalendarDate) (c : Clock) : FormatItem → String
  | .literal ch => String.singleton ch
  | .blank ch => String.singleton ch
  | .number f => f.render d c
  | .spacedDay => (if d.day < 10 then " " else "") ++ toString d.day
  | .monthName long =>
    let name := monthNames.getD (d.month - 1) ""
    if long then name else shortName name
  | .weekdayName long =>
    let name := weekdayNames.getD d.weekday ""
    if long then name else shortName name
  | .dayHalf => if c.hour < 12 then "AM" else "PM"
  | .unknown => ""

/-- The text of a timestamp in a format. -/
def Timestamp.format (fmt : String) (t : Timestamp) : String :=
  let d := t.date
  let c := t.clock
  (FormatItem.ofChars fmt.toList).foldl (fun s item => s ++ item.render d c) ""

end TypedWiki.Time
