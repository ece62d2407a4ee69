import Exposition.Text.Casing

/-!
# Text/Lowercase — the small letters of a text

`lower` maps a text to small letters by Unicode's full rule, independent of any locale.  Two
letters are special: the dotted capital I becomes an `i` with a combining dot, and a capital sigma
becomes the final form `ς` exactly where it ends a word (`endsWord`).
-/

namespace Exposition.Text

/-- The small letter of a character that has a mapping of its own; any other is unchanged. -/
def lowerSimple (c : Char) : Char :=
  match lowerRuns.find? (·.contains c.toNat) with
  | some run => Char.ofNat (c.toNat + run.shift).toNat
  | none => c

/-- The first character that bears on a word's case is a letter with case. -/
def meetsCased (cs : List Char) : Bool :=
  ((cs.dropWhile isCaseIgnorable).head?.map isCased).getD false

/-- **The end of a word**: a letter stands before the place and none after it, marks apart.
`before` is read backwards from the place. -/
def endsWord (before after : List Char) : Bool := meetsCased before && !meetsCased after

/-- The small form of one character between what stands before it (backwards) and after it. -/
def lowerChar (before after : List Char) (c : Char) : List Char :=
  if c.toNat < 0x80 then [c.toLower]
  else if c = 'Σ' then [if endsWord before after then 'ς' else 'σ']
  else if c = 'İ' then ['i', '\u0307']
  else [lowerSimple c]

/-- `lower` of the part of a text that follows `before`, which is read backwards. -/
def lowerAfter (before : List Char) : List Char → List Char
  | [] => []
  | c :: cs => lowerChar before cs c ++ lowerAfter (c :: before) cs

/-- **The small letters of a text.** -/
def lower (cs : List Char) : List Char := lowerAfter [] cs

/-- `lower` on strings. -/
def lowered (s : String) : String := String.ofList (lower s.toList)

/-- The small letters of ASCII alone; every other character is unchanged. -/
def lowerAscii (cs : List Char) : List Char := cs.map Char.toLower

end Exposition.Text
