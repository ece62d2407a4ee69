import Exposition.Browse.Browser
import Exposition.Command
import Exposition.Display.Catalogue
import Exposition.Display.History
import Exposition.Explaining
import Exposition.Sample

/-!
# Command/Run — carrying out a command

What each command asks of the service, prints and reports.  A command works in a session without a
state of its own; the histories and the browser that it uses begin anew (`Action.startingFrom`).
-/

namespace Exposition

open Text

/-- **What a command finds around it**: the settings that matter to it, standard input, and the
files, by their names. -/
structure Surroundings where
  pageSize : Nat := usualPageSize
  searchDelay : Nat := 300
  input : List UInt8 := []
  file : String → Option (List UInt8) := fun _ => none

/-- The filters that the options ask for. -/
def HistoryOptions.filters (o : HistoryOptions) : Filters :=
  let filters : Filters := { level := o.level, isFavorite := o.isFavorite }
  let filters := match o.language with
    | some language => filters.forLanguage (lowered language)
    | none => filters
  match o.search with
  | some term => filters.forTerm term
  | none => filters

namespace Command

variable {σ : Type}

/-- An action of a command. -/
abbrev Act (σ α : Type) : Type := Action CommandError σ Unit α

/-- Runs an action on a history of its own. -/
def onHistory {α : Type} (s : Surroundings) (act : History.Act σ α) : Act σ α :=
  Action.startingFrom (.start s.pageSize) (Action.mapError .service act)

/-- Runs an action without an earlier explanation. -/
def onExplaining {α : Type} (act : Explaining.Act σ α) : Act σ α :=
  Action.startingFrom {} (Action.mapError .service act)

/-! ## The code to explain -/

/-- The text of a file. -/
def fileText (s : Surroundings) (name : String) : Except InputError String :=
  match s.file name with
  | none => .error .noFile
  | some bytes =>
    match Utf8.decode bytes with
    | .ok cs => .ok (String.ofList cs)
    | .error _ => .error .fileNotText

/-- The text of standard input. -/
def inputText (s : Surroundings) : Except InputError String :=
  match Utf8.decode s.input with
  | .ok cs => .ok (String.ofList cs)
  | .error fault => .error (.notText fault)

/-- The example with a name. -/
def sampleNamed (name : String) : Except Refusal Sample :=
  match Sample.find? name with
  | some sample => .ok sample
  | none => .error (.noSample name (Sample.all.map (·.language)))

/-- A value, or the end of the command. -/
def orFail {ε α : Type} (f : ε → CommandError) : Except ε α → Act σ α
  | .ok a => return a
  | .error e => throw (f e)

/-- **The snippet to explain**: an example, which also gives the language if none is asked for, or a
file, or standard input. -/
def snippet (s : Surroundings) (o : ExplainOptions) : Act σ Snippet := do
  let language := Language.read o.language
  match o.sample, o.file with
  | some name, _ =>
    let sample ← orFail .refused (sampleNamed name)
    Action.notify (.info ("Loaded " ++ sample.language ++ " example code"))
    let language := match language with
      | .auto => .tag sample.language
      | .tag name => .tag name
    return ⟨sample.code, language, o.level⟩
  | none, some name => return ⟨← orFail .input (fileText s name), language, o.level⟩
  | none, none => return ⟨← orFail .input (inputText s), language, o.level⟩

/-! ## The commands -/

variable [Service σ]

/-- The answer to a request, or the end of the command. -/
def demand (r : Request) : Act σ r.Answer := do
  orFail .service (← Action.ask r)

/-- Lists the languages on offer. -/
def listLanguages : Act σ Unit := do
  let options ← onExplaining Explaining.languages
  if options.isEmpty then
    throw (.refused .noLanguages)
  Action.printLine (OfferedLanguage.display options)

/-- Lists the levels on offer. -/
def listLevels : Act σ Unit := do
  let options ← onExplaining Explaining.levels
  if options.isEmpty then
    throw (.refused .noLevels)
  Action.printLine (OfferedLevel.display options)

/-- Shows how the service is doing; anything but perfect health is a warning. -/
def showHealth : Act σ Unit := do
  let report ← demand .health
  Action.printLine report.display
  unless report.isHealthy do
    Action.notify (.warning "The backend reports a degraded state")

/-- A service that does not know of statistics has none to offer. -/
def statsError : ServiceError → ServiceError
  | .notFound _ => .unexpected "this backend does not provide statistics"
  | e => e

/-- Shows counts over the history. -/
def showStats : Act σ Unit := do
  let counts ← orFail (.service <| statsError ·) (← Action.ask .stats)
  Action.printLine counts.display

/-- Explains a snippet; a blank one has no explanation. -/
def explainSnippet (s : Surroundings) (o : ExplainOptions) : Act σ Unit := do
  match ← onExplaining (Explaining.submit (← snippet s o)) with
  | some explanation => Action.printLine explanation.display
  | none => return ()

/-- Loads the page that the options ask for, by way of the first; gives the history and whether
there is such a page. -/
def loadPage (o : HistoryOptions) : History.Act σ (Bool × History) := do
  History.filterBy o.filters
  let found ← if 1 < o.page then History.jumpTo o.page else pure true
  return (found, ← Action.state)

/-- Lists one page of the history. -/
def listHistory (s : Surroundings) (o : HistoryOptions) : Act σ Unit := do
  let (found, reached) ← onHistory s (loadPage o)
  unless found do
    throw (.refused (.noPage o.page reached.paging.totalPages))
  Action.print reached.listing

/-- Prints one record in full. -/
def showRecord (id : Int) : Act σ Unit := do
  let record ← demand (.get id)
  Action.printLine record.detail

/-- Sets or lifts the favorite flag of a record. -/
def markFavorite (s : Surroundings) (id : Int) (isFavorite : Bool) : Act σ Unit :=
  onHistory s (History.markFavorite id isFavorite)

/-- Asks whether to delete, unless that was confirmed beforehand. -/
def confirmDeletion (s : Surroundings) (isConfirmed : Bool) : Act σ Bool := do
  if isConfirmed then return true
  else
    Action.print (confirmation deletionQuestion)
    return isYesLine (byteLines s.input).head?

/-- Deletes a record, if the user wants it. -/
def discard (s : Surroundings) (id : Int) (isConfirmed : Bool) : Act σ Unit := do
  let confirmed ← confirmDeletion s isConfirmed
  unless ← onHistory s (History.discard id confirmed) do
    Action.notify (.info "Deletion cancelled")

/-- Lets the user browse until the end of standard input. -/
def browseHistory (s : Surroundings) : Act σ Unit := do
  let browsing : Browse.Browser.Act σ Browse.Browser := do
    Browse.Browser.startUp
    Browse.Browser.steps (Browse.Browser.typed s.input ++ [.noMore])
    Action.state
  let browser ← Action.startingFrom (.start s.pageSize s.searchDelay)
    (Action.mapError Empty.elim browsing)
  orFail id browser.outcome

/-- **What a command does.** -/
def run (s : Surroundings) : Command → Act σ Unit
  | .languages => listLanguages
  | .levels => listLevels
  | .health => showHealth
  | .stats => showStats
  | .browse => browseHistory s
  | .explain o => explainSnippet s o
  | .history o => listHistory s o
  | .details id => showRecord id
  | .favorite id isFavorite => markFavorite s id isFavorite
  | .delete id isConfirmed => discard s id isConfirmed

end Command

end Exposition
