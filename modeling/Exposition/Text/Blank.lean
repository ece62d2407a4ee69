/-!
# Text/Blank — white space, and trimming by it

Everything a user types and everything the service sends is trimmed by the same rule: a character
is **blank** when it has Unicode's property `White_Space` (`isBlank`).  That takes in the no-break
space, the ideographic space and the line separators, and leaves out the zero-width space and the
byte-order mark.  Texts are cut as character lists; `trim` removes blanks at both ends.
-/

namespace Exposition.Text

/-- **White space**: the 25 characters of Unicode's property `White_Space`. -/
def isBlank (c : Char) : Bool :=
  let n := c.toNat
  (9 ≤ n && n ≤ 13) || n == 0x20 || n == 0x85 || n == 0xA0 || n == 0x1680 ||
    (0x2000 ≤ n && n ≤ 0x200A) || n == 0x2028 || n == 0x2029 || n == 0x202F || n == 0x205F ||
    n == 0x3000

/-- A text without its leading blanks. -/
def trimStart (cs : List Char) : List Char := cs.dropWhile isBlank

/-- A text without its trailing blanks. -/
def trimEnd (cs : List Char) : List Char := (cs.reverse.dropWhile isBlank).reverse

/-- A text without the blanks at its two ends. -/
def trim (cs : List Char) : List Char := trimEnd (trimStart cs)

/-- A text that holds nothing but blanks, if anything. -/
def isBlankText (cs : List Char) : Bool := cs.all isBlank

/-- `trim` on strings. -/
def trimmed (s : String) : String := String.ofList (trim s.toList)

/-- `isBlankText` on strings. -/
def blank (s : String) : Bool := isBlankText s.toList

end Exposition.Text
