import Exposition.Text.Numeral

/-!
# Number/Binary64 — floating-point numbers by their bits

A number of the format binary64 is its 64 bits; the value of a finite one is
`± significand · 2 ^ exponent`.  Arithmetic on values is exact arithmetic on ratios of naturals,
followed by one rounding to the nearest representable magnitude (`ofRatio`), and text with a fixed
number of places is one rounding of the exact value (`fixed`).  Ties go to the even neighbour.
-/

namespace Exposition

/-- The quotient of two naturals, rounded to the nearest natural, a tie to the even one. -/
def roundHalfEven (num den : Nat) : Nat :=
  let q := num / den
  let r := num % den
  if den < 2 * r || (2 * r == den && q % 2 == 1) then q + 1 else q

/-- **A floating-point number**, as the bits of its binary64 encoding. -/
structure Binary64 where
  bits : UInt64
deriving DecidableEq, Repr

namespace Binary64

/-- A power of two. -/
def twoTo (k : Nat) : Nat := Nat.pow 2 k

/-- The sign bit. -/
def isNegative (x : Binary64) : Bool := twoTo 63 ≤ x.bits.toNat

/-- The eleven exponent bits. -/
def exponentField (x : Binary64) : Nat := x.bits.toNat / twoTo 52 % twoTo 11

/-- The fifty-two fraction bits. -/
def fractionField (x : Binary64) : Nat := x.bits.toNat % twoTo 52

/-- The whole number that the value is a power of two times of. -/
def significand (x : Binary64) : Nat :=
  if x.exponentField = 0 then x.fractionField else twoTo 52 + x.fractionField

/-- The exponent of that power of two. -/
def exponent (x : Binary64) : Int := (max 1 x.exponentField : Nat) - 1075

/-- The magnitude is no finite number. -/
def isSpecial (x : Binary64) : Bool := x.exponentField == 2047

/-- The magnitude is infinite. -/
def isInfinite (x : Binary64) : Bool := x.isSpecial && x.fractionField == 0

/-- The magnitude of a finite number as a ratio of naturals. -/
def ratio (x : Binary64) : Nat × Nat :=
  (x.significand * twoTo x.exponent.toNat, twoTo (-x.exponent).toNat)

/-- The whole part of the binary logarithm of a positive ratio. -/
def log2Ratio (num den : Nat) : Int :=
  let e : Int := num.log2 - den.log2
  if num * twoTo (-e).toNat < den * twoTo e.toNat then e - 1 else e

/-- **The nearest representable number** to a ratio, infinity if the ratio is out of range.  Its
significand takes 53 bits, or what the smallest exponent leaves. -/
def ofRatio (num den : Nat) : Binary64 :=
  if num = 0 then ⟨0⟩
  else
    let q := max (log2Ratio num den - 52) (-1074)
    let m := roundHalfEven (num * twoTo (-q).toNat) (den * twoTo q.toNat)
    ⟨.ofNat (min ((q + 1074).toNat * twoTo 52 + m) (2047 * twoTo 52))⟩

/-- The nearest representable number to a natural. -/
def ofNat (n : Nat) : Binary64 := ofRatio n 1

/-- The product of two magnitudes. -/
def mul (x y : Binary64) : Binary64 :=
  ofRatio (x.ratio.1 * y.ratio.1) (x.ratio.2 * y.ratio.2)

/-- The quotient of two magnitudes. -/
def div (x y : Binary64) : Binary64 :=
  ofRatio (x.ratio.1 * y.ratio.2) (x.ratio.2 * y.ratio.1)

/-- The number with its sign bit flipped. -/
def neg (x : Binary64) : Binary64 := ⟨x.bits ^^^ ((1 : UInt64) <<< 63)⟩

/-- The magnitude times `10 ^ places`, rounded to a whole number. -/
def scaled (places : Nat) (x : Binary64) : Nat :=
  roundHalfEven (x.ratio.1 * Nat.pow 10 places) x.ratio.2

/-- **The value with a fixed number of decimal places**, the sign of a negative zero included. -/
def fixed (places : Nat) (x : Binary64) : String :=
  if x.isSpecial && !x.isInfinite then "NaN"
  else
    let sign := if x.isNegative then "-" else ""
    if x.isInfinite then sign ++ "inf"
    else
      let k := x.scaled places
      let unit := Nat.pow 10 places
      sign ++ Text.decimal (k / unit) ++
        (if places = 0 then "" else "." ++ Text.zeroPadded places (k % unit))

end Binary64

end Exposition
