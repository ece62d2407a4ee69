import Exposition.Level
import Exposition.Text.Line
import Exposition.Text.Numeral

/-!
# Browse/Command — the commands of the history browser

A line typed into the browser is a command word, in any case, and what follows the first blank after
it.  `Command.read` reads it; `Misread` says why a line is no command.
-/

namespace Exposition.Browse

open Text

/-- **A command of the browser.**  Cards are counted from 1. -/
inductive Command
  | next
  | previous
  | page (number : Nat)
  /-- Filter by language, or lift the filter. -/
  | language (tag : Option String)
  /-- Filter by level, or lift the filter. -/
  | level (level : Option Level)
  /-- Filter by favorite flag, or lift the filter. -/
  | favorite (isFavorite : Option Bool)
  | search (term : String)
  | clear
  | refresh
  | open (card : Nat)
  | close
  /-- Turn the favorite flag over, of a card or of the open record. -/
  | star (card : Option Nat)
  /-- Delete a card or the open record. -/
  | remove (card : Option Nat)
  | help
  | quit
deriving DecidableEq, Repr

/-- Why a line is no command. -/
inductive Misread
  /-- The line is blank. -/
  | blank
  | unknownCommand (word : String)
  | notANumber (text : String)
  | unknownLevel (error : UnknownLevel)
  | notYesOrNo (text : String)
deriving DecidableEq, Repr

/-- What the user is told about it. -/
def Misread.message : Misread → String
  | .blank => "type 'help' for a list of commands"
  | .unknownCommand word => "unknown command '" ++ word ++ "', type 'help'"
  | .notANumber text => "expected a number, got '" ++ text ++ "'"
  | .unknownLevel error => error.message
  | .notYesOrNo text => "expected yes, no or any, got '" ++ text ++ "'"

/-- The text that lists the commands. -/
def help : String := String.intercalate "\n" [
  "Commands:",
  "  n, next            next page",
  "  p, prev            previous page",
  "  page N             jump to page N",
  "  lang [LANG|any]    filter by language",
  "  level [LEVEL|any]  filter by complexity (beginner, intermediate, advanced)",
  "  fav yes|no|any     filter by favorite flag",
  "  search [TEXT]      search code and explanations (empty clears)",
  "  clear              clear all filters",
  "  r, refresh         reload the current page",
  "  open N             show card N in full",
  "  close              close the open explanation",
  "  star [N]           toggle favorite on card N, or on the open explanation",
  "  rm [N]             delete card N, or the open explanation",
  "  h, help            show this help",
  "  q, quit            leave"]

namespace Command

/-- The value of a filter, in small letters; nothing, `any` and `all` lift the filter. -/
def filterValue (text : List Char) : Option String :=
  let value := String.ofList (lower text)
  if value = "" ∨ value = "any" ∨ value = "all" then none else some value

/-- A number up to `limit`. -/
def number (limit : Nat) (text : List Char) : Except Misread Nat :=
  match readNat limit text with
  | some n => .ok n
  | none => .error (.notANumber (String.ofList text))

/-- The number of a card, if one is given. -/
def card? (text : List Char) : Except Misread (Option Nat) :=
  if text.isEmpty then .ok none else some <$> number maxLong text

/-- A level to filter by. -/
def levelFilter (text : List Char) : Except Misread (Option Level) :=
  match filterValue text with
  | none => .ok none
  | some value =>
    match Level.read value with
    | .ok l => .ok (some l)
    | .error e => .error (.unknownLevel e)

/-- A favorite flag to filter by. -/
def favoriteFilter (text : List Char) : Except Misread (Option Bool) :=
  match filterValue text with
  | none => .ok none
  | some "yes" => .ok (some true)
  | some "y" => .ok (some true)
  | some "true" => .ok (some true)
  | some "no" => .ok (some false)
  | some "n" => .ok (some false)
  | some "false" => .ok (some false)
  | some other => .error (.notYesOrNo other)

/-- A command word, with every spelling that it has. -/
inductive Word
  | next | previous | page | language | level | favorite | search | clear | refresh | open | close
  | star | remove | help | quit
deriving DecidableEq, Repr

/-- The spellings of a command word. -/
def Word.spellings : Word → List String
  | .next => ["n", "next"]
  | .previous => ["p", "prev", "previous"]
  | .page => ["page"]
  | .language => ["lang", "language"]
  | .level => ["level", "complexity"]
  | .favorite => ["fav", "favorite"]
  | .search => ["search", "s", "/"]
  | .clear => ["clear"]
  | .refresh => ["r", "refresh", "retry"]
  | .open => ["open", "o"]
  | .close => ["close", "c"]
  | .star => ["star"]
  | .remove => ["rm", "delete"]
  | .help => ["h", "help", "?"]
  | .quit => ["q", "quit", "exit"]

/-- Every command word. -/
def Word.all : List Word :=
  [.next, .previous, .page, .language, .level, .favorite, .search, .clear, .refresh, .open, .close,
    .star, .remove, .help, .quit]

/-- The command word with a spelling. -/
def Word.find? (spelling : String) : Option Word := all.find? (·.spellings.contains spelling)

/-- The command of a word and the text after it. -/
def ofWord (word : Word) (text : List Char) : Except Misread Command :=
  match word with
  | .next => .ok .next
  | .previous => .ok .previous
  | .page => .page <$> number maxWord text
  | .language => .ok (.language (filterValue text))
  | .level => .level <$> levelFilter text
  | .favorite => .favorite <$> favoriteFilter text
  | .search => .ok (.search (String.ofList text))
  | .clear => .ok .clear
  | .refresh => .ok .refresh
  | .open => .open <$> number maxLong text
  | .close => .ok .close
  | .star => .star <$> card? text
  | .remove => .remove <$> card? text
  | .help => .ok .help
  | .quit => .ok .quit

/-- **The command that a line gives.** -/
def read (line : List Char) : Except Misread Command :=
  let (head, rest) := splitAtFirst isBlank (trim line)
  let spelling := String.ofList (lower head)
  match Word.find? spelling with
  | some word => ofWord word (trim (rest.getD []))
  | none => .error (if spelling = "" then .blank else .unknownCommand spelling)

/-- `read` on strings. -/
def readLine (line : String) : Except Misread Command := read line.toList

end Command

end Exposition.Browse
