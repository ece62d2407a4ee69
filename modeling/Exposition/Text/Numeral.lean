/-!
# Text/Numeral — whole numbers as text

Numbers are read from decimal ASCII digits with bounds: `readNat` takes one leading `+` and any
number of leading zeros, `readInt` a sign of either kind.  Anything else, an empty text and a number
out of bounds are refused alike.
-/

namespace Exposition.Text

/-- The value of decimal digits, most significant first. -/
def digitsValue (ds : List Char) : Nat := ds.foldl (fun n d => 10 * n + (d.toNat - 48)) 0

/-- The number written by a non-empty row of ASCII digits. -/
def readDigits (cs : List Char) : Option Nat :=
  if !cs.isEmpty && cs.all Char.isDigit then some (digitsValue cs) else none

/-- **A number from 0 to `limit`**, with at most one `+` before its digits. -/
def readNat (limit : Nat) (cs : List Char) : Option Nat :=
  let digits := match cs with
    | '+' :: ds => ds
    | ds => ds
  (readDigits digits).filter (· ≤ limit)

/-- **A number from `-limit - 1` to `limit`**, with at most one sign before its digits. -/
def readInt (limit : Nat) (cs : List Char) : Option Int :=
  match cs with
  | '-' :: ds => ((readDigits ds).filter (· ≤ limit + 1)).map fun n => -(n : Int)
  | _ => (readNat limit cs).map Int.ofNat

/-- The largest unsigned number of 32 bits. -/
def maxWord : Nat := 4294967295

/-- The largest unsigned number of 64 bits. -/
def maxLong : Nat := 18446744073709551615

/-- The largest signed number of 64 bits. -/
def maxSigned : Nat := 9223372036854775807

/-- A number in decimal digits. -/
def decimal (n : Nat) : String := String.ofList (Nat.toDigits 10 n)

/-- A whole number in decimal digits, after a `-` if it is negative. -/
def decimalInt : Int → String
  | .ofNat n => decimal n
  | .negSucc n => "-" ++ decimal (n + 1)

/-- A number in at least `width` decimal digits, filled up with zeros. -/
def zeroPadded (width n : Nat) : String :=
  let digits := Nat.toDigits 10 n
  String.ofList (List.replicate (width - digits.length) '0' ++ digits)

/-- A text filled up with spaces to at least `width` characters. -/
def paddedRight (width : Nat) (s : String) : String :=
  String.ofList (s.toList ++ List.replicate (width - s.toList.length) ' ')

end Exposition.Text
