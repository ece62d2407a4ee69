import Exposition.Config
import Exposition.Level

/-!
# Command — what the program can be told to do

The commands of the program with their arguments, and a **command line**: one command, and settings
that take the place of those from the environment.
-/

namespace Exposition

/-- What to explain, and how.  Without a file and without an example the code is read from standard
input. -/
structure ExplainOptions where
  file : Option String := none
  language : String := "auto"
  level : Level := .intermediate
  sample : Option String := none
deriving DecidableEq, Repr

/-- Which records to list, and which page of them. -/
structure HistoryOptions where
  language : Option String := none
  level : Option Level := none
  isFavorite : Option Bool := none
  search : Option String := none
  page : Nat := 1
deriving DecidableEq, Repr

/-- **A command of the program.** -/
inductive Command
  /-- List the languages on offer. -/
  | languages
  /-- List the levels on offer. -/
  | levels
  /-- Show how the service is doing. -/
  | health
  /-- Show counts over the history. -/
  | stats
  /-- Browse the history by typed commands. -/
  | browse
  /-- Explain a snippet. -/
  | explain (options : ExplainOptions)
  /-- List one page of the history. -/
  | history (options : HistoryOptions)
  /-- Print one record in full. -/
  | details (id : Int)
  /-- Set or lift the favorite flag of a record. -/
  | favorite (id : Int) (isFavorite : Bool)
  /-- Delete a record, after a question unless it was confirmed beforehand. -/
  | delete (id : Int) (isConfirmed : Bool)
deriving DecidableEq, Repr

namespace Command

/-- The file that a command reads. -/
def file? : Command → Option String
  | .explain o => if o.sample.isSome then none else o.file
  | _ => none

/-- A command that reads standard input. -/
def readsInput : Command → Bool
  | .browse => true
  | .explain o => o.sample.isNone && o.file.isNone
  | .delete _ isConfirmed => !isConfirmed
  | _ => false

end Command

/-- Settings that a command line may give; an absent one leaves the environment's in place. -/
structure Overrides where
  apiUrl : Option String := none
  logLevel : Option LogLevel := none
  pageSize : Option Nat := none
deriving DecidableEq, Repr

/-- **A command line.** -/
structure CommandLine where
  command : Command
  overrides : Overrides := {}
deriving DecidableEq, Repr

/-- The overrides, and where they are silent, others. -/
def Overrides.orElse (o other : Overrides) : Overrides where
  apiUrl := o.apiUrl.or other.apiUrl
  logLevel := o.logLevel.or other.logLevel
  pageSize := o.pageSize.or other.pageSize

/-- The settings with the overrides in their place; an address has to make sense first. -/
def Overrides.over (o : Overrides) (c : Config) : Except SettingError Config := do
  if let some apiUrl := o.apiUrl then
    checkApiUrl apiUrl
  return { c with
    apiUrl := o.apiUrl.getD c.apiUrl
    logLevel := o.logLevel.getD c.logLevel
    pageSize := o.pageSize.getD c.pageSize }

end Exposition
