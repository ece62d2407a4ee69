import Exposition.Json
import Exposition.Text.Utf8

/-!
# Json/Token — the tokens of a JSON text

A JSON text is cut into brackets, separators, literal names, numbers and strings; blanks between
them are spaces, tabs, line feeds and carriage returns.  Everything is strict: no control character
inside a string, no leading zero, no other escape than the nine of the standard.
-/

namespace Exposition.Json

/-- One token. -/
inductive Token
  | openArray
  | closeArray
  | openObject
  | closeObject
  | comma
  | colon
  | null
  | bool (b : Bool)
  | number (n : Number)
  | string (text : Text)
deriving DecidableEq, Repr

/-- A blank between tokens. -/
def isGap (b : UInt8) : Bool := b == 0x20 || b == 0x09 || b == 0x0A || b == 0x0D

/-- A decimal digit. -/
def isDigitByte (b : UInt8) : Bool := 0x30 ≤ b && b ≤ 0x39

/-- The value of a hexadecimal digit. -/
def hexValue (b : UInt8) : Option Nat :=
  if 0x30 ≤ b && b ≤ 0x39 then some (b.toNat - 0x30)
  else if 0x41 ≤ b && b ≤ 0x46 then some (b.toNat - 0x37)
  else if 0x61 ≤ b && b ≤ 0x66 then some (b.toNat - 0x57)
  else none

/-- The value of four hexadecimal digits. -/
def hexUnit (a b c d : UInt8) : Option Nat := do
  return (((← hexValue a) * 16 + (← hexValue b)) * 16 + (← hexValue c)) * 16 + (← hexValue d)

/-- The byte that a short escape stands for. -/
def shortEscape (b : UInt8) : Option UInt8 :=
  if b == 0x22 || b == 0x5C || b == 0x2F then some b
  else if b == 0x62 then some 0x08
  else if b == 0x66 then some 0x0C
  else if b == 0x6E then some 0x0A
  else if b == 0x72 then some 0x0D
  else if b == 0x74 then some 0x09
  else none

/-- A piece of a string literal: a byte, or a UTF-16 unit written as an escape. -/
inductive Piece
  | byte (b : UInt8)
  | unit (n : Nat)
deriving DecidableEq, Repr

/-- **The pieces of a string literal** up to its closing quote, and what follows it. -/
def scanString : List UInt8 → Option (List Piece × List UInt8)
  | [] => none
  | b :: rest =>
    if b == 0x22 then some ([], rest)
    else if b < 0x20 then none
    else if b == 0x5C then
      match rest with
      | [] => none
      | e :: rest =>
        if e == 0x75 then
          match rest with
          | w :: x :: y :: z :: rest => do
            let n ← hexUnit w x y z
            let (pieces, rest) ← scanString rest
            return (.unit n :: pieces, rest)
          | _ => none
        else do
          let c ← shortEscape e
          let (pieces, rest) ← scanString rest
          return (.byte c :: pieces, rest)
    else do
      let (pieces, rest) ← scanString rest
      return (.byte b :: pieces, rest)

/-- The first half of a surrogate pair. -/
def isHighUnit (n : Nat) : Bool := 0xD800 ≤ n && n ≤ 0xDBFF

/-- The second half of a surrogate pair. -/
def isLowUnit (n : Nat) : Bool := 0xDC00 ≤ n && n ≤ 0xDFFF

/-- The bytes that the pieces denote; none if half of a surrogate pair stands alone. -/
def pieceBytes : List Piece → Option (List UInt8)
  | [] => some []
  | .byte b :: rest => (b :: ·) <$> pieceBytes rest
  | .unit n :: rest =>
    if isHighUnit n then
      match rest with
      | .unit m :: rest =>
        if isLowUnit m then
          (String.utf8EncodeChar (Char.ofNat (0x10000 + (n - 0xD800) * 0x400 + (m - 0xDC00))) ++ ·)
            <$> pieceBytes rest
        else none
      | _ => none
    else if isLowUnit n then none
    else (String.utf8EncodeChar (Char.ofNat n) ++ ·) <$> pieceBytes rest

/-- The text that the pieces denote, if they denote one. -/
def pieceText (pieces : List Piece) : Text := (pieceBytes pieces).bind Text.Utf8.decode?

/-- A digit byte as a character. -/
def digitChar (b : UInt8) : Char := Char.ofNat b.toNat

/-- The leading digits, and what follows them. -/
def spanDigits (bytes : List UInt8) : List Char × List UInt8 :=
  let (digits, rest) := bytes.span isDigitByte
  (digits.map digitChar, rest)

/-- The digits after a decimal point, if a point with digits comes next. -/
def scanFraction (bytes : List UInt8) : Option (List Char) × List UInt8 :=
  match bytes with
  | [] => (none, [])
  | b :: rest =>
    if b == 0x2E then
      match spanDigits rest with
      | ([], _) => (none, bytes)
      | (digits, rest) => (some digits, rest)
    else (none, bytes)

/-- The exponent, if a complete one comes next: its sign, true for minus, and its digits. -/
def scanExponent (bytes : List UInt8) : Option (Bool × List Char) × List UInt8 :=
  match bytes with
  | [] => (none, [])
  | b :: rest =>
    if b == 0x65 || b == 0x45 then
      let (negative, digits) := match rest with
        | s :: more =>
          if s == 0x2D then (true, more) else if s == 0x2B then (false, more) else (false, rest)
        | [] => (false, [])
      match spanDigits digits with
      | ([], _) => (none, bytes)
      | (ds, rest) => (some (negative, ds), rest)
    else (none, bytes)

/-- **A number** without its sign, and what follows it.  A zero before the point stands alone. -/
def scanNumber (negative : Bool) (bytes : List UInt8) : Option (Number × List UInt8) :=
  match spanDigits bytes with
  | ([], _) => none
  | (d :: ds, rest) =>
    if d = '0' ∧ ds ≠ [] then none
    else
      let (fraction, rest) := scanFraction rest
      let (exponent, rest) := scanExponent rest
      some (⟨negative, d :: ds, fraction, exponent⟩, rest)

/-- What follows a literal name, given the rest of its bytes. -/
def scanName (name : List UInt8) (bytes : List UInt8) : Option (List UInt8) :=
  if name.isPrefixOf bytes then some (bytes.drop name.length) else none

/-- **The token that begins with a byte**, and what follows it. -/
def scanToken (b : UInt8) (rest : List UInt8) : Option (Token × List UInt8) :=
  if b == 0x5B then some (.openArray, rest)
  else if b == 0x5D then some (.closeArray, rest)
  else if b == 0x7B then some (.openObject, rest)
  else if b == 0x7D then some (.closeObject, rest)
  else if b == 0x2C then some (.comma, rest)
  else if b == 0x3A then some (.colon, rest)
  else if b == 0x22 then
    (scanString rest).map fun (pieces, rest) => (.string (pieceText pieces), rest)
  else if b == 0x2D then (scanNumber true rest).map fun (n, rest) => (.number n, rest)
  else if isDigitByte b then (scanNumber false (b :: rest)).map fun (n, rest) => (.number n, rest)
  else if b == 0x6E then (scanName [0x75, 0x6C, 0x6C] rest).map fun rest => (.null, rest)
  else if b == 0x74 then (scanName [0x72, 0x75, 0x65] rest).map fun rest => (.bool true, rest)
  else if b == 0x66 then
    (scanName [0x61, 0x6C, 0x73, 0x65] rest).map fun rest => (.bool false, rest)
  else none

/-- The tokens of a text, by at most `fuel` steps; every step takes at least one byte. -/
def tokensWithin (fuel : Nat) (bytes : List UInt8) : Option (List Token) :=
  match fuel, bytes with
  | _, [] => some []
  | 0, _ => none
  | fuel + 1, b :: rest =>
    if isGap b then tokensWithin fuel rest
    else do
      let (token, rest) ← scanToken b rest
      return token :: (← tokensWithin fuel rest)

/-- **The tokens of a text.** -/
def tokens (bytes : List UInt8) : Option (List Token) := tokensWithin bytes.length bytes

end Exposition.Json
