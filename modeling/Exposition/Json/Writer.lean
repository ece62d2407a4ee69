import Exposition.Json

/-!
# Json/Writer — writing JSON

The compact form: no blanks, and strings with the short escapes, `\u00xx` for the other control
characters, and every other character as it is.
-/

namespace Exposition.Json

/-- A hexadecimal digit in small letters. -/
def hexDigit (n : Nat) : Char := Char.ofNat (if n < 10 then 0x30 + n else 0x57 + n)

/-- A character inside a string literal. -/
def escape (c : Char) : List Char :=
  if c = '"' then ['\\', '"']
  else if c = '\\' then ['\\', '\\']
  else if c.toNat = 0x08 then ['\\', 'b']
  else if c.toNat = 0x09 then ['\\', 't']
  else if c.toNat = 0x0A then ['\\', 'n']
  else if c.toNat = 0x0C then ['\\', 'f']
  else if c.toNat = 0x0D then ['\\', 'r']
  else if c.toNat < 0x20 then
    ['\\', 'u', '0', '0', hexDigit (c.toNat / 16), hexDigit (c.toNat % 16)]
  else [c]

/-- A string literal. -/
def quoted (s : String) : List Char := '"' :: (s.toList.flatMap escape ++ ['"'])

/-- A number as it was written. -/
def Number.written (n : Number) : List Char :=
  (if n.negative then ['-'] else []) ++ n.whole ++
    (match n.fraction with
      | none => []
      | some ds => '.' :: ds) ++
    (match n.exponent with
      | none => []
      | some (negative, ds) => 'e' :: (if negative then '-' else '+') :: ds)

mutual

/-- **A value in compact form.**  A string that denotes no text is written as empty. -/
def written : Json → List Char
  | .null => ['n', 'u', 'l', 'l']
  | .bool true => ['t', 'r', 'u', 'e']
  | .bool false => ['f', 'a', 'l', 's', 'e']
  | .number n => n.written
  | .string text => quoted (text.getD "")
  | .array items => '[' :: (writtenItems items ++ [']'])
  | .object fields => '{' :: (writtenFields fields ++ ['}'])

/-- The items of an array, with commas between them. -/
def writtenItems : List Json → List Char
  | [] => []
  | v :: vs => written v ++ (if vs.isEmpty then [] else ',' :: writtenItems vs)

/-- The fields of an object, with commas between them. -/
def writtenFields : List (Text × Json) → List Char
  | [] => []
  | (name, v) :: fields =>
    quoted (name.getD "") ++ ':' :: written v ++
      (if fields.isEmpty then [] else ',' :: writtenFields fields)

end

/-- A value in compact form, as a string. -/
def compact (v : Json) : String := String.ofList (written v)

end Exposition.Json
