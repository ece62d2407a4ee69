import Exposition.Number.Binary64
import Exposition.Text.Numeral

/-!
# Json — JSON values

A JSON value as it was written: objects keep their fields in order, repeated names included, and a
number keeps its digits (`Json.Number`).  A string literal may be well formed and yet denote no
text, if it holds half of a surrogate pair or bytes that are no UTF-8; its text is then `none`.
-/

namespace Exposition

namespace Json

/-- **A number as it was written**: sign, digits before the point, digits after it if it has a
point, and the exponent with its sign if it has one. -/
structure Number where
  negative : Bool
  whole : List Char
  fraction : Option (List Char) := none
  exponent : Option (Bool × List Char) := none
deriving DecidableEq, Repr

/-- The text of a string literal, if it denotes one. -/
abbrev Text : Type := Option String

end Json

/-- **A JSON value.** -/
inductive Json
  | null
  | bool (b : Bool)
  | number (n : Json.Number)
  | string (text : Json.Text)
  | array (items : List Json)
  | object (fields : List (Json.Text × Json))
deriving Repr

namespace Json

/-- A string. -/
def ofString (s : String) : Json := .string (some s)

/-- A whole number. -/
def ofInt (n : Int) : Json :=
  .number { negative := n < 0, whole := Nat.toDigits 10 n.natAbs }

/-- An object whose names are texts. -/
def ofFields (fields : List (String × Json)) : Json :=
  .object (fields.map fun (name, value) => (some name, value))

namespace Number

/-- The whole number that is written, if it has neither fraction nor exponent.  A zero with a minus
sign is no whole number. -/
def toInt? (n : Number) : Option Int :=
  if n.fraction.isSome || n.exponent.isSome then none
  else
    let value := Text.digitsValue n.whole
    if n.negative then (if value = 0 then none else some (-(value : Int))) else some value

/-- The digits that fit into 64 bits, as a number, and how many of the row are left over. -/
def takeDigits (value : Nat) : List Char → Nat × List Char
  | [] => (value, [])
  | d :: ds =>
    let next := 10 * value + (d.toNat - 48)
    if next ≤ Text.maxLong then takeDigits next ds else (value, d :: ds)

/-- The number as `value · 10 ^ exponent`, where `value` holds as many of the leading digits as fit
into 64 bits.  Once a digit did not fit, the digits after the point are dropped. -/
def leading (n : Number) : Nat × Int :=
  let (value, left) := takeDigits 0 n.whole
  if left.isEmpty then
    let (value', left') := takeDigits value (n.fraction.getD [])
    (value', -(((n.fraction.getD []).length - left'.length : Nat) : Int))
  else
    let (value', left') := takeDigits value (n.fraction.getD [])
    (value', left.length - ((n.fraction.getD []).length - left'.length : Nat))

/-- A power of ten, from 0 to 308, as the nearest floating-point number. -/
def tenTo (k : Nat) : Binary64 := .ofNat (Nat.pow 10 k)

/-- A magnitude times a power of ten: one product, or quotients by powers up to `10 ^ 308`.  None if
the result is out of range. -/
def shift (x : Binary64) (exponent : Int) : Option Binary64 :=
  if 0 ≤ exponent then
    if 308 < exponent then (if x.significand = 0 then some x else none)
    else
      let y := x.mul (tenTo exponent.toNat)
      if y.isSpecial then none else some y
  else
    let k := exponent.natAbs
    let y := if k ≤ 308 then x else x.div (tenTo 308)
    let z := if k ≤ 616 then y else y.div (tenTo 308)
    if k ≤ 308 then some (x.div (tenTo k))
    else if k ≤ 616 then some (y.div (tenTo (k - 308)))
    else if k ≤ 924 then some (z.div (tenTo (k - 616)))
    else some ⟨0⟩

/-- **The floating-point number that is read**: the leading digits rounded once, then shifted by the
power of ten.  None if it is out of range. -/
def toBinary64? (n : Number) : Option Binary64 :=
  let (value, exponent) := n.leading
  let shifted := match n.exponent with
    | none => shift (.ofNat value) exponent
    | some (negative, digits) =>
      let e := Text.digitsValue digits
      if 2147483647 < e then (if value = 0 ∨ negative then some ⟨0⟩ else none)
      else shift (.ofNat value) (if negative then exponent - e else exponent + e)
  shifted.map fun x => if n.negative then x.neg else x

end Number

end Json

end Exposition
