/-!
# Text/Utf8 — text as bytes

UTF-8 read strictly (`decode`), which names the first fault and where it stands, and read with
replacement (`decodeLossy`), which puts one U+FFFD for each fault.  A **fault** is a longest run of
bytes that begins a character and cannot be completed, or one byte that begins none; a character
that the end of the input cuts off is a fault without a length.
-/

namespace Exposition.Text.Utf8

/-- What the bytes at some place begin with. -/
inductive Start
  /-- A character, and how many bytes follow its first. -/
  | char (c : Char) (more : Nat)
  /-- A fault that takes in `more` bytes after its first. -/
  | fault (more : Nat)
  /-- A character that the end of the input cuts off. -/
  | cut

/-- A continuation byte. -/
def isTail (b : UInt8) : Bool := 0x80 ≤ b && b ≤ 0xBF

/-- The six payload bits of a continuation byte. -/
def tailBits (b : UInt8) : Nat := b.toNat - 0x80

/-- The second byte that may follow the first byte of a character of three or four bytes: no
overlong form, no surrogate, nothing past U+10FFFF. -/
def isSecond (first second : UInt8) : Bool :=
  if first == 0xE0 then 0xA0 ≤ second && second ≤ 0xBF
  else if first == 0xED then 0x80 ≤ second && second ≤ 0x9F
  else if first == 0xF0 then 0x90 ≤ second && second ≤ 0xBF
  else if first == 0xF4 then 0x80 ≤ second && second ≤ 0x8F
  else isTail second

/-- What a first byte and the bytes after it begin with. -/
def start (b : UInt8) (rest : List UInt8) : Start :=
  if b < 0x80 then .char (Char.ofNat b.toNat) 0
  else if b < 0xC2 then .fault 0
  else if b < 0xE0 then
    match rest with
    | [] => .cut
    | x :: _ =>
      if isTail x then .char (Char.ofNat ((b.toNat - 0xC0) * 64 + tailBits x)) 1 else .fault 0
  else if b < 0xF0 then
    match rest with
    | [] => .cut
    | x :: rest =>
      if isSecond b x then
        match rest with
        | [] => .cut
        | y :: _ =>
          if isTail y then
            .char (Char.ofNat ((b.toNat - 0xE0) * 4096 + tailBits x * 64 + tailBits y)) 2
          else .fault 1
      else .fault 0
  else if b < 0xF5 then
    match rest with
    | [] => .cut
    | x :: rest =>
      if isSecond b x then
        match rest with
        | [] => .cut
        | y :: rest =>
          if isTail y then
            match rest with
            | [] => .cut
            | z :: _ =>
              if isTail z then
                .char (Char.ofNat ((b.toNat - 0xF0) * 262144 + tailBits x * 4096
                  + tailBits y * 64 + tailBits z)) 3
              else .fault 2
          else .fault 1
      else .fault 0
  else .fault 0

/-- Where reading stopped: how many bytes are well formed, and the length of the fault after them,
or none if the input ends inside a character. -/
structure Fault where
  validUpTo : Nat
  length : Option Nat
deriving DecidableEq, Repr

/-- `decode` of what follows `read` bytes. -/
def decodeFrom (read : Nat) : List UInt8 → Except Fault (List Char)
  | [] => .ok []
  | b :: rest =>
    match start b rest with
    | .char c more => (c :: ·) <$> decodeFrom (read + 1 + more) (rest.drop more)
    | .fault more => .error ⟨read, some (more + 1)⟩
    | .cut => .error ⟨read, none⟩
termination_by bytes => bytes.length
decreasing_by simp only [List.length_cons, List.length_drop]; omega

/-- **The text that the bytes write**, or the first fault. -/
def decode (bytes : List UInt8) : Except Fault (List Char) := decodeFrom 0 bytes

/-- The text that the bytes write, with U+FFFD for each fault. -/
def decodeLossy : List UInt8 → List Char
  | [] => []
  | b :: rest =>
    match start b rest with
    | .char c more => c :: decodeLossy (rest.drop more)
    | .fault more => '\uFFFD' :: decodeLossy (rest.drop more)
    | .cut => ['\uFFFD']
termination_by bytes => bytes.length
decreasing_by all_goals (simp only [List.length_cons, List.length_drop]; omega)

/-- The bytes that write a text. -/
def encode (cs : List Char) : List UInt8 := cs.flatMap String.utf8EncodeChar

/-- `decode` to a string, without the reason of a failure. -/
def decode? (bytes : List UInt8) : Option String :=
  (decode bytes).toOption.map String.ofList

end Exposition.Text.Utf8
