import Exposition.Text.Utf8

/-!
# Url/Form — percent-encoding, and names and values in a query

A byte may be written as `%` and two hexadecimal digits.  Each part of a URL has a set of characters
that have to be; everything outside ASCII and every control is in all of these sets.  The form
encoding is stricter, and names and values in a query are written in it.
-/

namespace Exposition.Url

/-! ## Percent-encoding -/

/-- A capital hexadecimal digit. -/
def hexDigit (n : Nat) : Char := Char.ofNat (if n < 10 then 0x30 + n else 0x37 + n)

/-- A byte as `%` and two digits. -/
def percentByte (b : UInt8) : List Char :=
  ['%', hexDigit (b.toNat / 16), hexDigit (b.toNat % 16)]

/-- The value of a hexadecimal digit. -/
def hexValue (c : Char) : Option Nat :=
  let n := c.toNat
  if 0x30 ≤ n && n ≤ 0x39 then some (n - 0x30)
  else if 0x41 ≤ n && n ≤ 0x46 then some (n - 0x37)
  else if 0x61 ≤ n && n ≤ 0x66 then some (n - 0x57)
  else none

/-- **A text with the characters of a set percent-encoded.** -/
def percentEncode (set : Char → Bool) (cs : List Char) : List Char :=
  cs.flatMap fun c => if set c then (String.utf8EncodeChar c).flatMap percentByte else [c]

/-- **The bytes that a text denotes**: encoded bytes decoded, every other character in UTF-8. -/
def percentDecode : List Char → List UInt8
  | '%' :: a :: b :: rest =>
    match hexValue a, hexValue b with
    | some m, some n => UInt8.ofNat (16 * m + n) :: percentDecode rest
    | _, _ => UInt8.ofNat 0x25 :: percentDecode (a :: b :: rest)
  | c :: rest => String.utf8EncodeChar c ++ percentDecode rest
  | [] => []
termination_by cs => cs.length

/-- Controls, and everything outside ASCII. -/
def controlSet (c : Char) : Bool := c.toNat < 0x20 || 0x7E < c.toNat

/-- What is encoded in a fragment. -/
def fragmentSet (c : Char) : Bool :=
  controlSet c || [' ', '"', '<', '>', '`'].contains c

/-- What is encoded in a path. -/
def pathSet (c : Char) : Bool := fragmentSet c || ['#', '?', '\x7b', '\x7d'].contains c

/-- What is encoded in a user name or password. -/
def userSet (c : Char) : Bool :=
  pathSet c || ['/', ':', ';', '=', '@', '[', '\\', ']', '^', '|'].contains c

/-- What is encoded in a query; the schemes of the web add the apostrophe. -/
def querySet (special : Bool) (c : Char) : Bool :=
  controlSet c || [' ', '"', '#', '<', '>'].contains c || (special && c == '\'')

/-! ## The form encoding

Letters, digits and `*-._` stay, a space becomes `+`, and every other byte is percent-encoded; `=`
stands between name and value and `&` between the pairs. -/

/-- The characters that the form encoding leaves as they are. -/
def isPlain (c : Char) : Bool :=
  (c.isAlphanum : Bool) || c == '*' || c == '-' || c == '.' || c == '_'

/-- A character in the form encoding. -/
def formChar (c : Char) : List Char :=
  if isPlain c then [c]
  else if c = ' ' then ['+']
  else (String.utf8EncodeChar c).flatMap percentByte

/-- A name or value in the form encoding. -/
def formText (s : String) : List Char := s.toList.flatMap formChar

/-- A name and its value. -/
def formPair (pair : String × String) : List Char := formText pair.1 ++ '=' :: formText pair.2

/-- **Names and values in the form encoding.** -/
def formEncode (pairs : List (String × String)) : String :=
  String.ofList (List.intercalate ['&'] (pairs.map formPair))

end Exposition.Url
