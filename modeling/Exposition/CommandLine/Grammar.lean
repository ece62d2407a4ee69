import Exposition.Command
import Exposition.Text.Line

/-!
# CommandLine/Grammar — the words of a command line

The words that name commands, the options and flags that stand before and after them, and what the
text of a value may be.  Everything is spelled in full and in small letters.
-/

namespace Exposition.CommandLine

open Text

/-- Why a command line is not carried out. -/
inductive Misuse
  /-- Help was asked for. -/
  | helpWanted
  /-- The version was asked for. -/
  | versionWanted
  /-- Nothing was given at all. -/
  | nothingGiven
  /-- Options were given, but no command. -/
  | noCommand
  | unknownCommand
  | unknownArgument
  /-- Something was given twice, or beside something that excludes it. -/
  | conflict
  | missingArgument
  /-- A value that cannot be read, or that is out of its bounds. -/
  | unreadableValue
  /-- A value that is absent, or not among those that there are. -/
  | unsuitableValue
  /-- A value for a flag. -/
  | surplusValue
deriving DecidableEq, Repr

/-- A word that names a command. -/
inductive Verb
  | languages
  | levels
  | health
  | explain
  | history
  | details
  | favorite
  | delete
  | stats
  | browse
deriving DecidableEq, Repr

namespace Verb

/-- The spelling of a verb. -/
def word : Verb → String
  | .languages => "languages"
  | .levels => "levels"
  | .health => "health"
  | .explain => "explain"
  | .history => "history"
  | .details => "show"
  | .favorite => "favorite"
  | .delete => "delete"
  | .stats => "stats"
  | .browse => "browse"

/-- Every verb. -/
def all : List Verb :=
  [.languages, .levels, .health, .explain, .history, .details, .favorite, .delete, .stats, .browse]

/-- The verb with a spelling. -/
def find? (word : String) : Option Verb := all.find? (·.word == word)

/-- The word that asks for help in the place of a verb. -/
def help : String := "help"

/-- A word that may stand where a verb is expected. -/
def isTopic (word : String) : Bool := word == help || (find? word).isSome

end Verb

/-- An option that takes a value. -/
inductive Key
  | apiUrl
  | logLevel
  | pageSize
  | language
  | level
  | sample
  | isFavorite
  | search
  | page
deriving DecidableEq, Repr

/-- The name of an option, which is written after two dashes. -/
def Key.name : Key → String
  | .apiUrl => "base-url"
  | .logLevel => "log-level"
  | .pageSize => "page-size"
  | .language => "language"
  | .level => "complexity"
  | .sample => "sample"
  | .isFavorite => "favorite"
  | .search => "search"
  | .page => "page"

/-- An option without a value. -/
inductive Flag
  | help
  | version
  /-- Lift the favorite flag. -/
  | off
  /-- Confirm beforehand. -/
  | yes
deriving DecidableEq, Repr

/-- The name of a flag, which is written after two dashes. -/
def Flag.name : Flag → String
  | .help => "help"
  | .version => "version"
  | .off => "off"
  | .yes => "yes"

/-- The letter of a flag, which is written after one dash, alone or with others. -/
def Flag.letter : Flag → Option Char
  | .help => some 'h'
  | .version => some 'V'
  | .off => none
  | .yes => some 'y'

/-- An argument that is known by its place. -/
inductive Place
  | file
  | id
deriving DecidableEq, Repr

/-- **The part of a command line**: before the verb, or after one. -/
abbrev Scope : Type := Option Verb

namespace Scope

/-- The options of the whole program, which every part takes. -/
def common : List Key := [.apiUrl, .logLevel, .pageSize]

/-- The options of a part. -/
def keys : Scope → List Key
  | some .explain => [.language, .level, .sample] ++ common
  | some .history => [.language, .level, .isFavorite, .search, .page] ++ common
  | _ => common

/-- The flags of a part. -/
def flags : Scope → List Flag
  | none => [.help, .version]
  | some .favorite => [.help, .off]
  | some .delete => [.help, .yes]
  | some _ => [.help]

/-- The argument of a part that is known by its place. -/
def place? : Scope → Option Place
  | some .explain => some .file
  | some .details => some .id
  | some .favorite => some .id
  | some .delete => some .id
  | _ => none

/-- The option of a part with a name. -/
def key? (s : Scope) (name : String) : Option Key := s.keys.find? (·.name == name)

/-- The flag of a part with a name. -/
def flag? (s : Scope) (name : String) : Option Flag := s.flags.find? (·.name == name)

/-- The flag of a part with a letter. -/
def letter? (s : Scope) (c : Char) : Option Flag := s.flags.find? (·.letter == some c)

end Scope

/-! ## Values -/

/-- A number from 1 to `limit`. -/
def readCount (limit : Nat) (s : String) : Except Misuse Nat :=
  match readNat limit s.toList with
  | some n => if n = 0 then .error .unreadableValue else .ok n
  | none => .error .unreadableValue

/-- The number of a record. -/
def readId (s : String) : Except Misuse Int :=
  match readInt maxSigned s.toList with
  | some id => .ok id
  | none => .error .unreadableValue

/-- A level of explanation. -/
def readLevel (s : String) : Except Misuse Level :=
  match Level.read s with
  | .ok level => .ok level
  | .error _ => .error .unreadableValue

/-- A level of the log, in small letters. -/
def readLogLevel (s : String) : Except Misuse LogLevel :=
  match LogLevel.all.find? (·.word == s) with
  | some level => .ok level
  | none => .error .unsuitableValue

/-- A truth value. -/
def readBool : String → Except Misuse Bool
  | "true" => .ok true
  | "false" => .ok false
  | _ => .error .unsuitableValue

/-- The name of a file. -/
def readFileName (s : String) : Except Misuse String :=
  if s = "" then .error .unsuitableValue else .ok s

/-- **What one part of a command line has given.** -/
structure Given where
  overrides : Overrides := {}
  language : Option String := none
  level : Option Level := none
  sample : Option String := none
  isFavorite : Option Bool := none
  search : Option String := none
  page : Option Nat := none
  file : Option String := none
  id : Option Int := none
  off : Bool := false
  yes : Bool := false
deriving DecidableEq, Repr

namespace Given

/-- A value for what has none yet.  That it is given twice is noticed before it is read. -/
def once {α : Type} (old : Option α) (value : Except Misuse α) : Except Misuse (Option α) :=
  if old.isSome then .error .conflict else some <$> value

/-- What was given, with a value for an option. -/
def withKey (g : Given) (key : Key) (s : String) : Except Misuse Given := do
  match key with
  | .apiUrl =>
    return { g with overrides.apiUrl := ← once g.overrides.apiUrl (.ok s) }
  | .logLevel =>
    return { g with overrides.logLevel := ← once g.overrides.logLevel (readLogLevel s) }
  | .pageSize =>
    return { g with
      overrides.pageSize := ← once g.overrides.pageSize (readCount largestPageSize s) }
  | .language => return { g with language := ← once g.language (.ok s) }
  | .level => return { g with level := ← once g.level (readLevel s) }
  | .sample => return { g with sample := ← once g.sample (.ok s) }
  | .isFavorite => return { g with isFavorite := ← once g.isFavorite (readBool s) }
  | .search => return { g with search := ← once g.search (.ok s) }
  | .page => return { g with page := ← once g.page (readCount maxWord s) }

/-- What was given, with a text in a place. -/
def withPlace (g : Given) (place : Place) (s : String) : Except Misuse Given := do
  match place with
  | .file => return { g with file := ← once g.file (readFileName s) }
  | .id => return { g with id := ← once g.id (readId s) }

/-- What was given, with a flag. -/
def withFlag (g : Given) : Flag → Except Misuse Given
  | .help => .error .helpWanted
  | .version => .error .versionWanted
  | .off => if g.off then .error .conflict else .ok { g with off := true }
  | .yes => if g.yes then .error .conflict else .ok { g with yes := true }

/-- The record that was named. -/
def record (g : Given) : Except Misuse Int :=
  match g.id with
  | some id => .ok id
  | none => .error .missingArgument

/-- **The command** that a verb is, with what was given after it. -/
def command (g : Given) : Verb → Except Misuse Command
  | .languages => .ok .languages
  | .levels => .ok .levels
  | .health => .ok .health
  | .stats => .ok .stats
  | .browse => .ok .browse
  | .explain =>
    if g.file.isSome && g.sample.isSome then .error .conflict
    else .ok (.explain {
      file := g.file
      language := g.language.getD "auto"
      level := g.level.getD default
      sample := g.sample })
  | .history => .ok (.history {
      language := g.language
      level := g.level
      isFavorite := g.isFavorite
      search := g.search
      page := g.page.getD 1 })
  | .details => do return .details (← g.record)
  | .favorite => do return .favorite (← g.record) (!g.off)
  | .delete => do return .delete (← g.record) g.yes

end Given

end Exposition.CommandLine
