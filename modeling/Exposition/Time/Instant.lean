import Exposition.Text.Numeral
import Exposition.Time.Calendar

/-!
# Time/Instant — points in time, and how lists show them

An instant is a number of seconds since the start of 1970 in UTC and a number of nanoseconds; a
leap second counts as nanoseconds past a thousand million on the second before it.  `display` is
the form that the history shows, such as `Jan 2, 2024, 03:04 PM`.
-/

namespace Exposition

/-- A point in time. -/
structure Instant where
  seconds : Int
  nanos : Nat
deriving DecidableEq, Repr

namespace Instant

/-- The date in UTC. -/
def date (t : Instant) : Date := Date.ofDayNumber (t.seconds / 86400)

/-- The second of the day in UTC. -/
def secondOfDay (t : Instant) : Nat := (t.seconds % 86400).toNat

/-- The short name of a month. -/
def monthName : Nat → String
  | 1 => "Jan"
  | 2 => "Feb"
  | 3 => "Mar"
  | 4 => "Apr"
  | 5 => "May"
  | 6 => "Jun"
  | 7 => "Jul"
  | 8 => "Aug"
  | 9 => "Sep"
  | 10 => "Oct"
  | 11 => "Nov"
  | _ => "Dec"

/-- A year in at least four digits, with a sign if it is negative or takes more than four. -/
def yearText (year : Int) : String :=
  let digits := Text.zeroPadded 4 year.natAbs
  if year < 0 then "-" ++ digits else if 9999 < year then "+" ++ digits else digits

/-- **The form that lists show**: month, day, year, and the time of day on a clock of twelve
hours. -/
def display (t : Instant) : String :=
  let d := t.date
  let hour := t.secondOfDay / 3600
  let minute := t.secondOfDay / 60 % 60
  monthName d.month ++ " " ++ Text.decimal d.day ++ ", " ++ yearText d.year ++ ", " ++
    Text.zeroPadded 2 ((hour + 11) % 12 + 1) ++ ":" ++ Text.zeroPadded 2 minute ++
    (if hour < 12 then " AM" else " PM")

end Instant

end Exposition
