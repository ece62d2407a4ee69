import Exposition.Text.Blank
import Exposition.Time.Instant

/-!
# Time/Timestamp — points in time as the service writes them

A timestamp is date and time of day, perhaps with a fraction of a second.  There are two forms of
it.  The **zoned** form ends with an offset from UTC, and its numbers fill their widths.  The
**bare** form has no offset and counts as UTC; its numbers may have blanks before them and fewer
digits.  A second 60 is a leap second in both.
-/

namespace Exposition

namespace Timestamp

/-- What is wrong with a timestamp. -/
inductive Flaw
  | badCharacter
  | outOfRange
  /-- The text ends too soon. -/
  | cutOff
  /-- Something follows the timestamp. -/
  | surplus
deriving DecidableEq, Repr

/-- What the user is told about it. -/
def Flaw.message : Flaw → String
  | .badCharacter => "input contains invalid characters"
  | .outOfRange => "input is out of range"
  | .cutOff => "premature end of input"
  | .surplus => "trailing input"

/-- Date and time of day, as written. -/
structure Civil where
  date : Date
  hour : Nat
  minute : Nat
  second : Nat
  nanos : Nat
deriving DecidableEq, Repr

/-- **A form of timestamps.** -/
structure Form where
  /-- Numbers fill their widths, and no blanks stand before them. -/
  isStrict : Bool
  /-- What may stand between the date and the time of day. -/
  separators : List Char

/-- The form that an offset ends. -/
def zoned : Form := ⟨true, ['T', 't', ' ']⟩

/-- The form without an offset. -/
def bare : Form := ⟨false, ['T']⟩

/-! ## Pieces -/

/-- At least one digit and at most so many, and what follows them. -/
def takeDigits (most : Nat) (cs : List Char) : Except Flaw (List Char × List Char) :=
  let digits := (cs.take most).takeWhile Char.isDigit
  if cs = [] then .error .cutOff
  else if digits = [] then .error .badCharacter
  else .ok (digits, cs.drop digits.length)

/-- A number of a form, of the given width and within bounds, and what follows it. -/
def Form.number (f : Form) (width low high : Nat) (cs : List Char) :
    Except Flaw (Nat × List Char) := do
  let (digits, rest) ← takeDigits width (if f.isStrict then cs else Text.trimStart cs)
  let n := Text.digitsValue digits
  if f.isStrict ∧ digits.length < width then throw .badCharacter
  else if n < low ∨ high < n then throw .outOfRange
  else return (n, rest)

/-- A number of any width up to `limit`, and what follows it. -/
def longNumber (limit : Nat) (cs : List Char) : Except Flaw (Nat × List Char) := do
  let (digits, rest) ← takeDigits cs.length cs
  let n := Text.digitsValue digits
  if limit < n then throw .outOfRange else return (n, rest)

/-- The largest number of a year that can be written, though not every such year has a date. -/
def maxYear : Nat := 2147483647

/-- A year, and what follows it.  In the bare form it may have a sign, and then any number of
digits. -/
def Form.year (f : Form) (cs : List Char) : Except Flaw (Int × List Char) := do
  match f.isStrict, Text.trimStart cs with
  | false, '-' :: ds =>
    let (n, rest) ← longNumber (maxYear + 1) ds
    return (-(n : Int), rest)
  | false, '+' :: ds =>
    let (n, rest) ← longNumber maxYear ds
    return ((n : Int), rest)
  | _, _ =>
    let (n, rest) ← f.number 4 0 9999 cs
    return ((n : Int), rest)

/-- What follows one of some characters, which must come next. -/
def expect (allowed : List Char) : List Char → Except Flaw (List Char)
  | [] => .error .cutOff
  | c :: rest => if allowed.contains c then .ok rest else .error .badCharacter

/-- The nanoseconds that the digits after the point write; digits after the ninth do not count. -/
def nanosOf (digits : List Char) : Nat :=
  Text.digitsValue ((digits ++ List.replicate 9 '0').take 9)

/-- The nanoseconds of a fraction, if there is one, and what follows it. -/
def fraction (cs : List Char) : Except Flaw (Nat × List Char) :=
  match cs with
  | '.' :: rest =>
    let digits := rest.takeWhile Char.isDigit
    if rest = [] then .error .cutOff
    else if digits = [] then .error .badCharacter
    else .ok (nanosOf digits, rest.drop digits.length)
  | _ => .ok (0, cs)

/-- **Date and time of day** in a form, and what follows them. -/
def Form.civil (f : Form) (cs : List Char) : Except Flaw (Civil × List Char) := do
  let (year, cs) ← f.year cs
  let (month, cs) ← f.number 2 1 12 (← expect ['-'] cs)
  let (day, cs) ← f.number 2 1 31 (← expect ['-'] cs)
  let (hour, cs) ← f.number 2 0 23 (← expect f.separators cs)
  let (minute, cs) ← f.number 2 0 59 (← expect [':'] cs)
  let (second, cs) ← f.number 2 0 60 (← expect [':'] cs)
  let (nanos, cs) ← fraction cs
  return (⟨⟨year, month, day⟩, hour, minute, second, nanos⟩, cs)

/-- The seconds by which an offset runs ahead of UTC, and what follows it. -/
def zone (cs : List Char) : Except Flaw (Int × List Char) :=
  match cs with
  | [] => .error .cutOff
  | c :: rest =>
    if c = 'Z' ∨ c = 'z' then .ok (0, rest)
    else if c = '+' ∨ c = '-' ∨ c = '\u2212' then do
      let (hour, rest) ← zoned.number 2 0 23 rest
      let (minute, rest) ← zoned.number 2 0 59 (← expect [':'] rest)
      let seconds : Int := hour * 3600 + minute * 60
      return (if c = '+' then seconds else -seconds, rest)
    else .error .badCharacter

/-! ## Whole timestamps -/

/-- The years that have dates. -/
def hasDates (year : Int) : Bool := -262143 ≤ year && year ≤ 262142

/-- The instant of a date and time of day that run ahead of UTC by so many seconds. -/
def Civil.instant (c : Civil) (ahead : Int) : Except Flaw Instant :=
  if hasDates c.date.year && c.date.isValid then
    let (second, leap) := if c.second = 60 then (59, 1000000000) else (c.second, 0)
    .ok {
      seconds := c.date.dayNumber * 86400 + (c.hour * 3600 + c.minute * 60 + second : Nat) - ahead
      nanos := leap + c.nanos }
  else .error .outOfRange

/-- Nothing may follow a timestamp. -/
def atEnd (cs : List Char) : Except Flaw Unit :=
  if cs = [] then .ok () else .error .surplus

/-- A timestamp in the zoned form. -/
def readZoned (cs : List Char) : Except Flaw Instant := do
  let (civil, cs) ← zoned.civil cs
  let (ahead, cs) ← zone cs
  atEnd cs
  civil.instant ahead

/-- A timestamp in the bare form. -/
def readBare (cs : List Char) : Except Flaw Instant := do
  let (civil, cs) ← bare.civil cs
  atEnd cs
  civil.instant 0

/-- **The instant that a timestamp gives**, in either form.  What is wrong with a text that is in
neither is said of the bare form. -/
def read (s : String) : Except Flaw Instant :=
  match readZoned s.toList with
  | .ok t => .ok t
  | .error _ => readBare s.toList

end Timestamp

end Exposition
