/-!
# Text/Line — texts as lines

A text is read as lines that end at line feeds.  `splitAfter` cuts it after every line feed, so that
nothing is lost; `lines` takes the ends away, and with a line feed a carriage return right before
it.  The last line needs no end.  A text is written by ending each line with a line feed
(`unlines`).
-/

namespace Exposition.Text

/-- The text before the first element that meets `p`, and what follows it, if there is one. -/
def splitAtFirst {α : Type} (p : α → Bool) : List α → List α × Option (List α)
  | [] => ([], none)
  | c :: cs =>
    if p c then ([], some cs)
    else
      let (head, rest) := splitAtFirst p cs
      (c :: head, rest)

/-- The pieces of a text between the elements that meet `p`: one more than there are of these. -/
def splitEvery {α : Type} (p : α → Bool) : List α → List (List α)
  | [] => [[]]
  | c :: cs =>
    if p c then [] :: splitEvery p cs
    else
      match splitEvery p cs with
      | [] => [[c]]
      | piece :: pieces => (c :: piece) :: pieces

/-- **The pieces of a sequence, cut after every line feed.**  No piece is empty, and together they
are the sequence. -/
def splitAfter {α : Type} [BEq α] (feed : α) : List α → List (List α)
  | [] => []
  | c :: cs =>
    if c == feed then [c] :: splitAfter feed cs
    else
      match splitAfter feed cs with
      | [] => [[c]]
      | piece :: pieces => (c :: piece) :: pieces

/-- A line without its end: a line feed, with the carriage return before it. -/
def dropLineEnd (line : List Char) : List Char :=
  if line.getLast? = some '\n' then
    if line.dropLast.getLast? = some '\r' then line.dropLast.dropLast else line.dropLast
  else line

/-- **The lines of a text.** -/
def lines (cs : List Char) : List (List Char) := (splitAfter '\n' cs).map dropLineEnd

/-- The lines of a sequence of bytes, each with its end. -/
def byteLines (bytes : List UInt8) : List (List UInt8) := splitAfter 0x0A bytes

/-- **A text from its lines**, each ended by a line feed. -/
def unlines (ls : List String) : String := String.join (ls.map (· ++ "\n"))

end Exposition.Text
