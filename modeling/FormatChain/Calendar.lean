import FormatChain.Process.Bytes

/-!
# Days of the calendar

A moment in universal time has a day of the calendar and a time of day.  Formats show parts of it: a
percent sign and a letter stand for a part.

* `Day`, `Day.ofNumber` : days, and the day of a number of days since the start of 1970.
* `Instant` : a day and a time of day.
* `Instant.shown` : an instant in a format.
-/

namespace FormatChain

open FormatChain.Process

/-- A day of the calendar. -/
structure Day where
  /-- The year. -/
  year : Int
  /-- The month, from one on. -/
  month : Nat
  /-- The day of the month, from one on. -/
  day : Nat
  deriving Repr, DecidableEq, Inhabited

namespace Day

/-- The day of a number of days since the start of 1970; years are counted from March on. -/
def ofNumber (n : Int) : Day :=
  let shifted := n + 719468
  let era := shifted / 146097
  let dayOfEra := (shifted % 146097).toNat
  let yearOfEra := (dayOfEra - dayOfEra / 1460 + dayOfEra / 36524 - dayOfEra / 146096) / 365
  let dayOfYear := dayOfEra - (365 * yearOfEra + yearOfEra / 4 - yearOfEra / 100)
  let part := (5 * dayOfYear + 2) / 153
  let month := if part < 10 then part + 3 else part - 9
  { year := yearOfEra + era * 400 + (if month ≤ 2 then 1 else 0)
    month
    day := dayOfYear - (153 * part + 2) / 5 + 1 }

/-- The number of days since the start of 1970. -/
def toNumber (d : Day) : Int :=
  let year := if d.month ≤ 2 then d.year - 1 else d.year
  let era := year / 400
  let yearOfEra := year % 400
  let part : Int := if d.month > 2 then d.month - 3 else d.month + 9
  let dayOfYear := (153 * part + 2) / 5 + d.day - 1
  era * 146097 + yearOfEra * 365 + yearOfEra / 4 - yearOfEra / 100 + dayOfYear - 719468

/-- The day of the week, Sunday being zero. -/
def weekday (d : Day) : Nat := ((d.toNumber + 4) % 7).toNat

/-- The number of days before it in the year. -/
def ofYear (d : Day) : Nat := (d.toNumber - ({ d with month := 1, day := 1 } : Day).toNumber).toNat

/-- The names of the days of the week. -/
def weekdayNames : List String :=
  ["Sunday", "Monday", "Tuesday", "Wednesday", "Thursday", "Friday", "Saturday"]

/-- The names of the months. -/
def monthNames : List String :=
  ["January", "February", "March", "April", "May", "June", "July", "August", "September", "October",
    "November", "December"]

/-- The week of the year in which weeks begin on Monday and the first one has a Thursday, with the
year that it belongs to. -/
def isoWeek (d : Day) : Int × Nat :=
  let monday := (d.weekday + 6) % 7
  let thursday := ofNumber (d.toNumber - monday + 3)
  (thursday.year, thursday.ofYear / 7 + 1)

end Day

/-- A day and a time of day in universal time. -/
structure Instant where
  /-- The seconds since the start of 1970. -/
  seconds : Int
  /-- The nanoseconds after the second. -/
  nanos : Nat := 0
  deriving Repr, DecidableEq, Inhabited

namespace Instant

/-- The day. -/
def day (t : Instant) : Day := Day.ofNumber (t.seconds / 86400)

/-- The second of the day. -/
def secondOfDay (t : Instant) : Nat := (t.seconds % 86400).toNat

/-- The hour. -/
def hour (t : Instant) : Nat := t.secondOfDay / 3600

/-- The minute. -/
def minute (t : Instant) : Nat := t.secondOfDay / 60 % 60

/-- The second. -/
def second (t : Instant) : Nat := t.secondOfDay % 60

/-- How a part of an instant fills its width. -/
inductive Filling where
  /-- With zeros. -/
  | zeros
  /-- With spaces. -/
  | spaces
  /-- Not at all. -/
  | nothing
  deriving Repr, DecidableEq

/-- A number that fills a width. -/
def filled (filling : Filling) (width : Nat) (n : Int) : Bytes :=
  let digits := digitsOf n.natAbs
  let sign : Bytes := if n < 0 then ['-'] else []
  match filling with
  | .zeros => sign ++ padZeros (width - sign.length) digits
  | .spaces => padStart width (sign ++ digits)
  | .nothing => sign ++ digits

/-- The part of an instant that a letter stands for, with the filling that was asked for; none if the
letter stands for nothing. -/
def simplePart? (t : Instant) (asked : Option Filling) (letter : Char) : Option Bytes :=
  let d := t.day
  let number (filling : Filling) (width : Nat) (n : Int) : Option Bytes :=
    some (filled (asked.getD filling) width n)
  let text (s : String) : Option Bytes := some s.toList
  let hour12 := if t.hour % 12 = 0 then 12 else t.hour % 12
  match letter with
  | 'a' => text (((Day.weekdayNames[d.weekday]?).getD "").take 3).toString
  | 'A' => text ((Day.weekdayNames[d.weekday]?).getD "")
  | 'b' => text (((Day.monthNames[d.month - 1]?).getD "").take 3).toString
  | 'h' => text (((Day.monthNames[d.month - 1]?).getD "").take 3).toString
  | 'B' => text ((Day.monthNames[d.month - 1]?).getD "")
  | 'C' => number .zeros 2 (d.year / 100)
  | 'd' => number .zeros 2 d.day
  | 'e' => number .spaces 2 d.day
  | 'g' => number .zeros 2 (d.isoWeek.1 % 100)
  | 'G' => number .zeros 4 d.isoWeek.1
  | 'H' => number .zeros 2 t.hour
  | 'I' => number .zeros 2 hour12
  | 'j' => number .zeros 3 (d.ofYear + 1 : Nat)
  | 'k' => number .spaces 2 t.hour
  | 'l' => number .spaces 2 hour12
  | 'm' => number .zeros 2 d.month
  | 'M' => number .zeros 2 t.minute
  | 'n' => text "\n"
  | 'p' => text (if t.hour < 12 then "AM" else "PM")
  | 'P' => text (if t.hour < 12 then "am" else "pm")
  | 's' => number .zeros 1 t.seconds
  | 'S' => number .zeros 2 t.second
  | 't' => text "\t"
  | 'u' => number .zeros 1 (if d.weekday = 0 then 7 else d.weekday : Nat)
  | 'U' => number .zeros 2 ((d.ofYear + 7 - d.weekday) / 7 : Nat)
  | 'V' => number .zeros 2 d.isoWeek.2
  | 'w' => number .zeros 1 d.weekday
  | 'W' => number .zeros 2 ((d.ofYear + 7 - (d.weekday + 6) % 7) / 7 : Nat)
  | 'y' => number .zeros 2 (d.year % 100)
  | 'Y' => number .zeros 4 d.year
  | 'z' => text "+0000"
  | 'Z' => text "UTC"
  | '%' => text "%"
  | _ => none

/-- The format that a letter stands for, if it stands for several parts. -/
def compound? (letter : Char) : Option String :=
  match letter with
  | 'c' => some "%a %b %e %H:%M:%S %Y"
  | 'D' => some "%m/%d/%y"
  | 'F' => some "%Y-%m-%d"
  | 'r' => some "%I:%M:%S %p"
  | 'R' => some "%H:%M"
  | 'T' => some "%H:%M:%S"
  | 'x' => some "%m/%d/%y"
  | 'X' => some "%H:%M:%S"
  | _ => none

/-- The part of an instant that a letter stands for, if it stands for one. -/
def part? (t : Instant) (asked : Option Filling) (letter : Char) : Option Bytes :=
  match compound? letter with
  | some format => some (simpleParts format.toList)
  | none => t.simplePart? asked letter
where
  /-- A format without parts of several parts. -/
  simpleParts : Bytes → Bytes
    | '%' :: letter :: rest => (t.simplePart? none letter).getD [] ++ simpleParts rest
    | c :: rest => c :: simpleParts rest
    | [] => []

/-- An instant in a format, letters that stand for nothing left as they are. -/
def shown (t : Instant) : Bytes → Bytes
  | '%' :: letter :: rest =>
    match t.part? none letter with
    | some bytes => bytes ++ t.shown rest
    | none => '%' :: letter :: t.shown rest
  | c :: rest => c :: t.shown rest
  | [] => []

end Instant

end FormatChain
