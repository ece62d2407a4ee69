import Exposition.Text.Blank
import Exposition.Text.Line
import Exposition.Text.Lowercase
import Exposition.Text.Visible
import Exposition.Url.Punycode

/-!
# Url/Domain — domain names in ASCII

A domain name is brought into the one form in which names are compared: small letters, wide forms
of ASCII as ASCII, ideographic full stops as dots, and every label with other characters in
Punycode after `xn--`.  A name is refused if it holds a character that no domain name may hold, or
an `xn--` label that is not what its own text would be written as.

For names in ASCII without such labels that is the whole rule.  Of Unicode's rule for all other
names only a part is given here: small letters, wide forms, full stops and the usual characters that
leave no trace.  Left out are the rest of the mapping table, the composition of letters with their
marks, and the conditions on joiners and on the direction of writing.  So a name in another script
may be accepted here that the full rule refuses, or be written in another way.
-/

namespace Exposition.Url

open Text

/-- An ASCII character that no domain name may hold. -/
def isForbiddenInDomain (c : Char) : Bool :=
  c.toNat < 0x20 || c.toNat == 0x7F ||
    [' ', '#', '/', ':', '<', '>', '?', '@', '[', '\\', ']', '^', '|', '%'].contains c

/-- A character that leaves no trace in a domain name. -/
def isIgnoredInDomain (c : Char) : Bool :=
  let n := c.toNat
  n == 0xAD || n == 0x34F || n == 0x200B || n == 0x2060 || n == 0x2064 || n == 0xFEFF ||
    (0x180B ≤ n && n ≤ 0x180F && n != 0x180E) || (0xFE00 ≤ n && n ≤ 0xFE0F) ||
    (0xE0100 ≤ n && n ≤ 0xE01EF)

/-- A character of a domain name in the form in which names are compared, as far as case, width and
full stops go. -/
def mapDomainChar (c : Char) : List Char :=
  let n := c.toNat
  if n < 0x80 then [c.toLower]
  else if isIgnoredInDomain c then []
  else if n == 0x3002 || n == 0xFF0E || n == 0xFF61 then ['.']
  else if 0xFF01 ≤ n && n ≤ 0xFF5E then [(Char.ofNat (n - 0xFEE0)).toLower]
  else if isBlank c then [' ']
  else if c = 'İ' then ['i', '\u0307']
  else if c = 'Σ' then ['σ']
  else [lowerSimple c]

/-- A character that a label of another script may hold: one that shows, or a mark, whatever stands
beside it. -/
def isLabelChar (c : Char) : Bool :=
  if c.toNat < 0x80 then !isForbiddenInDomain c else isVisible c || isCaseIgnorable c

/-- The mark before a label in Punycode. -/
def labelMark : List Char := ['x', 'n', '-', '-']

/-- The text of a label in Punycode, if the label is what that text is written as. -/
def isCanonicalLabel (code : List Char) : Bool :=
  match Punycode.decode code with
  | none => false
  | some label =>
    label.any (0x80 ≤ ·.toNat) && label.all isLabelChar && label.flatMap mapDomainChar == label &&
      Punycode.encode label == code

/-- A label in ASCII. -/
def labelToAscii (label : List Char) : Option (List Char) :=
  if label.all (·.toNat < 0x80) then
    if labelMark.isPrefixOf label then
      if isCanonicalLabel (label.drop 4) then some label else none
    else if label.any isForbiddenInDomain then none
    else some label
  else if label.all isLabelChar then some (labelMark ++ Punycode.encode label)
  else none

/-- **A domain name in ASCII**, as far as the part of the rule goes that is given here. -/
def domainToAscii (name : List Char) : Option (List Char) :=
  ((splitEvery (· == '.') (name.flatMap mapDomainChar)).mapM labelToAscii).map
    (List.intercalate ['.'])

end Exposition.Url
