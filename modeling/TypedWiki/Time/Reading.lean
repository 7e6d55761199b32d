import TypedWiki.Text.LetterCase
import TypedWiki.Time.Format

/-!
# Reading dates — finding a timestamp in a text by a format

Reading collects what the items say into partial information, in which an item may repeat what is known but not
contradict it.  A date needs a year and either month and day or the day of the year; all else that is known has to
agree with it.  Without a full time of day the date gives its midnight.
-/

namespace TypedWiki.Time

/-- What has been read of a date and a time of day. -/
structure PartialTime where
  year : Option Int := none
  shortYear : Option Nat := none
  month : Option Nat := none
  day : Option Nat := none
  ordinal : Option Nat := none
  weekday : Option Nat := none
  /-- Zero before noon, one after. -/
  half : Option Nat := none
  /-- The hour within the half of the day. -/
  hourOfHalf : Option Nat := none
  minute : Option Nat := none
  second : Option Nat := none
  deriving DecidableEq, Repr

/-- Takes up a new piece of information unless it contradicts what is known. -/
def learn {α : Type} [DecidableEq α] (known : Option α) (new : α) : Option (Option α) :=
  match known with
  | none => some (some new)
  | some old => if old = new then some known else none

namespace PartialTime

/-- Takes up the hour of a clock of 24 hours. -/
def learnHour (p : PartialTime) (h : Nat) : Option PartialTime := do
  let half ← learn p.half (h / 12)
  let hourOfHalf ← learn p.hourOfHalf (h % 12)
  return { p with half := half, hourOfHalf := hourOfHalf }

/-- Takes up a number that was read, if it is in range. -/
def learnNumber (p : PartialTime) (f : NumericField) (n : Int) : Option PartialTime :=
  let within (lo hi : Int) (k : Nat → Option PartialTime) : Option PartialTime :=
    if lo ≤ n ∧ n ≤ hi then k n.toNat else none
  match f with
  | .year =>
    if Int32.minValue.toInt ≤ n ∧ n ≤ Int32.maxValue.toInt then (learn p.year n).map fun v => { p with year := v }
    else none
  | .shortYear => within 0 99 fun k => (learn p.shortYear k).map fun v => { p with shortYear := v }
  | .month => within 1 12 fun k => (learn p.month k).map fun v => { p with month := v }
  | .day => within 1 31 fun k => (learn p.day k).map fun v => { p with day := v }
  | .ordinal => within 1 366 fun k => (learn p.ordinal k).map fun v => { p with ordinal := v }
  | .hour => within 0 23 p.learnHour
  | .hour12 => within 1 12 fun k => (learn p.hourOfHalf (k % 12)).map fun v => { p with hourOfHalf := v }
  | .minute => within 0 59 fun k => (learn p.minute k).map fun v => { p with minute := v }
  | .second => within 0 60 fun k => (learn p.second k).map fun v => { p with second := v }

end PartialTime

/-! ### Items -/

/-- The most digits that an unsigned number has. -/
def NumericField.width : NumericField → Nat
  | .year => 4
  | .ordinal => 3
  | _ => 2

/-- A natural number of at least one and at most `width` digits at the start of a text. -/
def readDigits (width : Nat) (cs : List Char) : Option (Nat × List Char) :=
  let ds := (cs.take width).takeWhile Text.isAsciiDigit
  if ds = [] then none else some (Text.ofDigits ds, cs.drop ds.length)

/-- The number of a field after any white space; a year may have a sign and is then not limited in length. -/
def NumericField.read (f : NumericField) (cs : List Char) : Option (Int × List Char) :=
  match f, Text.trimStart cs with
  | .year, '-' :: r => (readDigits r.length r).map fun (n, r) => (-(n : Int), r)
  | .year, '+' :: r => (readDigits r.length r).map fun (n, r) => ((n : Int), r)
  | f, r => (readDigits f.width r).map fun (n, r) => ((n : Int), r)

/-- Drops a word at the start of a text, whatever the case of its ASCII letters. -/
def dropWord (word : List Char) (cs : List Char) : Option (List Char) :=
  match word, cs with
  | [], r => some r
  | _ :: _, [] => none
  | w :: ws, c :: r => if Text.asciiLower w = Text.asciiLower c then dropWord ws r else none

/-- The position of the name at the start of a text; a long name may be shortened where `long` is set. -/
def readName (names : List String) (long : Bool) (cs : List Char) : Option (Nat × List Char) :=
  names.zipIdx.findSome? fun (name, i) =>
    (dropWord (name.toList.take 3) cs).map fun r =>
      if long then (i, (dropWord (name.toList.drop 3) r).getD r) else (i, r)

/-- Reads one item, taking up what it says. -/
def FormatItem.read (item : FormatItem) (p : PartialTime) (cs : List Char) :
    Option (PartialTime × List Char) :=
  match item with
  | .literal c =>
    match cs with
    | d :: r => if c = d then some (p, r) else none
    | [] => none
  | .blank _ => some (p, Text.trimStart cs)
  | .number f => do
    let (n, r) ← f.read cs
    let p ← p.learnNumber f n
    return (p, r)
  | .spacedDay => do
    let (n, r) ← NumericField.day.read cs
    let p ← p.learnNumber .day n
    return (p, r)
  | .monthName long => do
    let (i, r) ← readName monthNames long cs
    let month ← learn p.month (i + 1)
    return ({ p with month := month }, r)
  | .weekdayName long => do
    let (i, r) ← readName weekdayNames long cs
    let weekday ← learn p.weekday i
    return ({ p with weekday := weekday }, r)
  | .dayHalf => do
    let (i, r) ← readName ["AM", "PM"] false cs
    let half ← learn p.half i
    return ({ p with half := half }, r)
  | .unknown => none

/-- Reads the items one after the other. -/
def readItems : List FormatItem → PartialTime → List Char → Option (PartialTime × List Char)
  | [], p, cs => some (p, cs)
  | item :: items, p, cs => (item.read p cs).bind fun (p, r) => readItems items p r

/-! ### Resolution -/

namespace PartialTime

/-- The year; two digits alone count from 1970 to 2069, and next to a full year they have to be its last two. -/
def resolveYear (p : PartialTime) : Option Int :=
  match p.year, p.shortYear with
  | some y, none => some y
  | some y, some r => if 0 ≤ y ∧ y % 100 = r then some y else none
  | none, some r => some (if r < 70 then 2000 + (r : Int) else 1900 + (r : Int))
  | none, none => none

/-- Whether a date agrees with everything known about the date. -/
def agrees (p : PartialTime) (d : CalendarDate) : Bool :=
  p.month.all (· == d.month) && p.day.all (· == d.day) && p.ordinal.all (· == d.ordinal)
    && p.weekday.all (· == d.weekday)

/-- The date, if enough is known and nothing contradicts it. -/
def resolveDate (p : PartialTime) : Option CalendarDate := do
  let year ← p.resolveYear
  let date ← match p.month, p.day, p.ordinal with
    | some m, some d, _ => some ⟨year, m, d⟩
    | _, _, some n => if n ≤ daysInYear year then some (CalendarDate.ofOrdinal year n) else none
    | _, _, none => none
  if date.isValid && p.agrees date then some date else none

/-- The time of day, which needs an hour and a minute; the sixtieth second is a leap second. -/
def resolveClock (p : PartialTime) : Option Clock := do
  let half ← p.half
  let hour ← p.hourOfHalf
  let minute ← p.minute
  let second := p.second.getD 0
  return ⟨half * 12 + hour, minute, min second 59, if second = 60 then nanosPerSecond else 0⟩

end PartialTime

/-- What a text that is in a format as a whole says. -/
def PartialTime.ofText? (fmt s : String) : Option PartialTime := do
  let (p, rest) ← readItems (FormatItem.ofChars fmt.toList) {} s.toList
  guard rest.isEmpty
  return p

/-- The date and the time of day written in a text. -/
def readDateTime (fmt s : String) : Option (CalendarDate × Clock) := do
  let p ← PartialTime.ofText? fmt s
  return (← p.resolveDate, ← p.resolveClock)

/-- The date written in a text. -/
def readDate (fmt s : String) : Option CalendarDate := do
  (← PartialTime.ofText? fmt s).resolveDate

/-- Formats that texts name by directives, and what is written and read by them.  Which directives there are is a matter
of the library that knows them. -/
structure DateFormats where
  write : String → Timestamp → String
  readDateTime : String → String → Option (CalendarDate × Clock)
  readDate : String → String → Option CalendarDate

/-- The formats made of the directives of `FormatItem.ofDirective`; any other directive writes nothing, and nothing is
read by it. -/
def DateFormats.common : DateFormats := ⟨Timestamp.format, Time.readDateTime, Time.readDate⟩

end TypedWiki.Time
