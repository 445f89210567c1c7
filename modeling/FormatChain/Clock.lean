/-!
# The time of day

Moments are given as the seconds since the start of 1970 in universal time, and the nanoseconds after
the second.  A last second of a minute may go on for another second.  The years end where dates of
the calendar used do.

* `Moment` : a moment within those years.
* `Moment.ofUnix?` : the moment of seconds and nanoseconds.
* `Moment.timeOfDay` : hours, minutes, seconds and milliseconds, the rest cut off.
-/

namespace FormatChain

/-- The first second of the years that dates reach back to. -/
def firstSecond : Int := -8334601228800

/-- The last second of the years that dates reach to. -/
def lastSecond : Int := 8210266876799

/-- A moment. -/
structure Moment where
  /-- The seconds since the start of 1970. -/
  seconds : Int
  /-- The nanoseconds after the second. -/
  nanos : Nat
  deriving Repr, DecidableEq

namespace Moment

/-- The moment of seconds and nanoseconds, if there is one: a second may only have more than a second
of nanoseconds if it is the last of its minute. -/
def ofUnix? (seconds : Int) (nanos : Nat) : Option Moment :=
  if seconds < firstSecond ∨ lastSecond < seconds then none
  else if nanos < 1000000000 then some ⟨seconds, nanos⟩
  else if nanos < 2000000000 ∧ seconds % 60 = 59 then some ⟨seconds, nanos⟩
  else none

/-- A number with as many zeros before it as it takes to fill the width. -/
def padded (width n : Nat) : String :=
  let digits := Nat.toDigits 10 n
  String.ofList (List.replicate (width - digits.length) '0' ++ digits)

/-- The time of day, as in `23:59:59.999`. A second that goes on is shown as the sixtieth. -/
def timeOfDay (m : Moment) : String :=
  let second := (m.seconds % 86400).toNat
  let shown := second % 60 + m.nanos / 1000000000
  let millis := m.nanos % 1000000000 / 1000000
  padded 2 (second / 3600) ++ ":" ++ padded 2 (second / 60 % 60) ++ ":" ++ padded 2 shown ++ "."
    ++ padded 3 millis

end Moment

end FormatChain
