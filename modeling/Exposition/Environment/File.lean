import Exposition.Environment
import Exposition.Text.Blank
import Exposition.Text.Line
import Exposition.Text.Utf8

/-!
# Environment/File — files of variables

A file of variables holds definitions `NAME=value`, one on each line, blank lines and comments.  A
line goes on over a line feed inside quotes.  A variable that already has a value keeps it.  The
first line that makes no sense ends the file, and the definitions before it stay.
-/

namespace Exposition.Environment

open Text

/-! ## Where a line ends -/

/-- What the end of a line stands in. -/
inductive Place
  /-- In nothing that goes on. -/
  | closed
  | blank
  | escape
  | single
  | singleEscape
  | double
  | doubleEscape
deriving DecidableEq, Repr

/-- The place after a character outside quotes. -/
def Place.afterPlain (c : Char) : Place :=
  if c = '\\' then .escape
  else if c = '"' then .double
  else if c = '\'' then .single
  else .closed

/-- The place after one more character. -/
def Place.next (p : Place) (c : Char) : Place :=
  match p with
  | .closed =>
    if isBlank c ∧ c ≠ '\n' ∧ c ≠ '\r' then .blank else .afterPlain c
  | .blank => .afterPlain c
  | .escape => .closed
  | .single => if c = '\\' then .singleEscape else if c = '\'' then .closed else .single
  | .singleEscape => .single
  | .double => if c = '\\' then .doubleEscape else if c = '"' then .closed else .double
  | .doubleEscape => .double

/-- The place at the end of some text, or how many bytes of the text stand before a comment, which
begins with `#` after a blank. -/
def scan (p : Place) (bytes : Nat) : List Char → Except Nat Place
  | [] => .ok p
  | c :: cs =>
    if p = .blank ∧ c = '#' then .error bytes
    else scan (p.next c) (bytes + c.utf8Size) cs

/-- As many characters as fit into a number of bytes. -/
def takeBytes (bytes : Nat) : List Char → List Char
  | [] => []
  | c :: cs => if c.utf8Size ≤ bytes then c :: takeBytes (bytes - c.utf8Size) cs else []

/-- How far a line has come. -/
inductive Extent
  | whole (line : List Char)
  /-- The line goes on in some place. -/
  | open (p : Place)
deriving DecidableEq, Repr

/-- **How far a line has come** that was begun, up to some place, and has got one more piece.  A
line that begins with a comment is empty. -/
def extent (begun : List Char) (p : Place) (piece : List Char) : Extent :=
  let line := begun ++ piece
  if (trimStart line).head? = some '#' then .whole []
  else
    match scan p 0 piece with
    | .error bytes => .whole (takeBytes bytes line)
    | .ok .closed => .whole (dropLineEnd line)
    | .ok p => .open p

/-! ## Definitions -/

/-- A character that may begin a name. -/
def beginsName (c : Char) : Bool := c.isAlpha || c == '_'

/-- A character that may stand in a name. -/
def isInName (c : Char) : Bool := (c.isAlphanum : Bool) || c == '_' || c == '.'

/-- A name, and what follows it and the blanks after it. -/
def takeName (cs : List Char) : Option (List Char × List Char) :=
  match cs with
  | [] => none
  | c :: _ =>
    if beginsName c then some (cs.takeWhile isInName, trimStart (cs.dropWhile isInName)) else none

/-- A name and the text of its value.  The word `export` may stand before the name. -/
def takeDefinition (cs : List Char) : Option (List Char × List Char) := do
  match ← takeName cs with
  | (name, '=' :: value) => return (name, value)
  | (['e', 'x', 'p', 'o', 'r', 't'], rest) =>
    match ← takeName rest with
    | (name, '=' :: value) => return (name, value)
    | _ => none
  | _ => none

/-- **The environment after a line**; none if the line makes no sense. -/
def readLine (e : Environment) (line : List Char) : Option Environment :=
  match trim line with
  | [] => some e
  | '#' :: _ => some e
  | cs => do
    let (name, text) ← takeDefinition cs
    let value ← match trimStart text with
      | [] => some ""
      | '#' :: _ => some ""
      | cs => readValue e cs
    return e.define (String.ofList name) value

/-! ## Files -/

/-- The text of a file up to the first line that is no text. -/
def fileText (bytes : List UInt8) : List Char :=
  ((byteLines bytes).map Utf8.decode).takeWhile (·.isOk) |>.flatMap fun line =>
    line.toOption.getD []

/-- The environment after the pieces of a file, which are cut after every line feed; `begun` is a
line that goes on in the place `p`. -/
def readPieces (e : Environment) (begun : List Char) (p : Place) :
    List (List Char) → Environment
  | [] => e
  | piece :: rest =>
    match extent begun p piece with
    | .open p => readPieces e (begun ++ piece) p rest
    | .whole line =>
      match readLine e line with
      | some e => readPieces e [] .closed rest
      | none => e

/-- **The environment with the variables of a file.**  A byte-order mark at its start does not
count. -/
def load (e : Environment) (file : List Char) : Environment :=
  let cs := if file.head? = some '\uFEFF' then file.tail else file
  readPieces e [] .closed (splitAfter '\n' cs)

end Exposition.Environment
