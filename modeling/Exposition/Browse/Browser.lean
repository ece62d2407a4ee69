import Exposition.Answer
import Exposition.Browse.Command
import Exposition.Browse.Debouncer
import Exposition.CommandError
import Exposition.Display.History
import Exposition.History.Action

/-!
# Browse/Browser — the interactive history browser

The browser reads lines one at a time, each as a command or as the answer to its last question, and
search terms as they settle.  `Browser.step` says what one input does.  After every command that
acts on the history, and after every search, the open record or the list is printed anew.

While a question is open, nothing else happens: a search term that settles in the meantime waits
for the answer.

Lines and settled searches come from two sources, and a program that waits for both may take either
first once both have something.  Here requests take no time, and the order is fixed: a search is
applied as soon as it has settled, or right after the answer.  The orders in which a line overtakes
a search that has settled are left out.
-/

namespace Exposition.Browse

open Text

/-- **What happens to the browser.** -/
inductive Input
  /-- A line was typed; it comes with its line end, which only the last line may lack. -/
  | line (bytes : List UInt8)
  /-- So many milliseconds passed. -/
  | pause (milliseconds : Nat)
  /-- No more lines will come. -/
  | noMore
deriving DecidableEq, Repr

/-- The record that a deletion is about. -/
inductive Target
  | card (id : Int)
  | selected
deriving DecidableEq, Repr

/-- What the browser is waiting for. -/
inductive Phase
  /-- The next command. -/
  | command
  /-- The answer to the question whether to delete. -/
  | answer (target : Target)
  /-- Nothing any more; an error has ended the browser, or it was left. -/
  | over (error : Option CommandError)
deriving DecidableEq, Repr

/-- **The browser**: its history, its clock, the search that waits for a pause, the search that has
settled while a question was open, and what it is waiting for. -/
structure Browser where
  history : History
  now : Nat := 0
  searches : Debouncer String
  settled : Option String := none
  phase : Phase := .command
deriving DecidableEq

namespace Browser

/-- A browser before its start. -/
def start (pageSize searchDelay : Nat) : Browser where
  history := .start pageSize
  searches := { delay := searchDelay }

variable {σ : Type}

/-- An action of the browser; what goes wrong is told to the user on the way. -/
abbrev Act (σ α : Type) : Type := Action Empty σ Browser α

/-- Runs an action on the history. -/
def onHistory {α : Type} (act : History.Act σ α) : Act σ (Except ServiceError α) :=
  Action.attempt (Action.within Browser.history (fun h b => { b with history := h }) act)

/-- Runs an action on the history for its effects. -/
def perform {α : Type} (act : History.Act σ α) : Act σ Unit := do
  let _ ← onHistory act

/-- Changes the phase. -/
def enter (phase : Phase) : Act σ Unit := Action.update fun b => { b with phase }

/-- Prints the open record, or else the list. -/
def view : Act σ Unit := do
  let h := (← Action.state).history
  match h.selected with
  | some r => Action.printLine r.detail
  | none => Action.print h.listing

/-! ## Commands -/

/-- The record on a card. -/
def card? (h : History) (card : Nat) : Option Record :=
  if card = 0 then none else h.records[card - 1]?

/-- The hint that a card number has no card. -/
def noCard (card : Nat) : Notification := .warning ("There is no card " ++ decimal card)

/-- The hint that a command needs an open record. -/
def nothingOpen : Notification := .warning "Open an explanation first, or give a card number"

/-- The hint that pages cannot be turned while the last load has failed, since nobody knows how many
there are. -/
def pagingHint? (h : History) : Option Notification :=
  match h.view with
  | .failed _ => some (.warning "History could not be loaded. Type 'r' to retry.")
  | _ => none

/-- The history with a hint if an action has done nothing. -/
def orHint [Service σ] (act : History.Act σ Bool) (hint : Notification) : History.Act σ Unit := do
  if ← act then return () else Action.notify hint

/-- An action that turns pages, unless the last load has failed. -/
def turning (act : History.Act σ Unit) : History.Act σ Unit := do
  match pagingHint? (← Action.state) with
  | some hint => Action.notify hint
  | none => act

/-- The filters with one of them set or lifted. -/
def refilter [Service σ] (f : Filters → Filters) : History.Act σ Unit := do
  History.filterBy (f (← Action.state).filters)

/-- An action on the record of a card, if there is such a card. -/
def onCard (card : Nat) (act : Record → History.Act σ Unit) : History.Act σ Unit := do
  match card? (← Action.state) card with
  | some r => act r
  | none => Action.notify (noCard card)

/-- **What a command does to the history.**  Searches, questions, help and leaving are no matter of
the history alone. -/
def obey [Service σ] : Command → History.Act σ Unit
  | .next => turning (orHint History.turnForward (.info "Already on the last page"))
  | .previous => turning (orHint History.turnBack (.info "Already on the first page"))
  | .page n => turning (orHint (History.jumpTo n) (.warning ("There is no page " ++ decimal n)))
  | .language tag => refilter fun f => { f with language := tag }
  | .level level => refilter fun f => { f with level }
  | .favorite isFavorite => refilter fun f => { f with isFavorite }
  | .clear => History.liftFilters
  | .refresh => History.load
  | .open card => onCard card fun r => Action.update (·.select r)
  | .close => Action.update (·.deselect)
  | .star none => orHint History.toggleOpen nothingOpen
  | .star (some card) => onCard card fun r => History.markFavorite r.id (!r.isFavorite)
  | .remove none => Action.notify nothingOpen
  | .remove (some card) => Action.notify (noCard card)
  | .search _ => return ()
  | .help => return ()
  | .quit => return ()

/-- What a deletion is about, if the command is one that has something to delete. -/
def target? (h : History) : Command → Option Target
  | .remove none => if h.isOpen then some .selected else none
  | .remove (some card) => (card? h card).map fun r => .card r.id
  | _ => none

variable [Service σ]

/-- Deletes what a question was about, if the answer is yes. -/
def delete (target : Target) (confirmed : Bool) : History.Act σ Bool :=
  match target with
  | .card id => History.discard id confirmed
  | .selected => History.discardOpen confirmed

/-- **Runs a command.** -/
def run (c : Command) : Act σ Unit := do
  match c with
  | .quit => enter (.over none)
  | .help => Action.printLine help
  | .search term => Action.update fun b => { b with searches := b.searches.push b.now term }
  | _ =>
    match target? (← Action.state).history c with
    | some target =>
      Action.print (confirmation deletionQuestion)
      enter (.answer target)
    | none =>
      perform (obey c)
      view

/-! ## Inputs -/

/-- Reads a line as a command. -/
def readCommand (bytes : List UInt8) : Act σ Unit := do
  match Utf8.decode bytes with
  | .error fault => enter (.over (some (.input (.notText fault))))
  | .ok line =>
    match Command.read (dropLineEnd line) with
    | .error e => Action.complain e.message
    | .ok c => run c

/-- Applies a search term. -/
def search (term : String) : Act σ Unit := do
  perform (refilter (·.forTerm term))
  view

/-- Applies the search term that has settled while a question was open. -/
def searchSettled : Act σ Unit := do
  match (← Action.state).settled with
  | none => return ()
  | some term =>
    Action.update fun b => { b with settled := none }
    search term

/-- Takes the answer to a question. -/
def takeAnswer (target : Target) (line : Option (List UInt8)) : Act σ Unit := do
  enter .command
  perform (delete target (isYesLine line))
  view
  searchSettled

/-- Lets time pass; a search term that settles is applied, or waits for the answer to a question. -/
def wait (milliseconds : Nat) : Act σ Unit := do
  Action.update fun b => { b with now := b.now + milliseconds }
  let b ← Action.state
  match b.searches.settle b.now with
  | (none, _) => return ()
  | (some (_, term), searches) =>
    Action.update fun b => { b with searches, settled := some term }
    match b.phase with
    | .command => searchSettled
    | _ => return ()

/-- **What one input does.** -/
def step (input : Input) : Act σ Unit := do
  match (← Action.state).phase, input with
  | .over _, _ => return ()
  | _, .pause milliseconds => wait milliseconds
  | .command, .line bytes => readCommand bytes
  | .command, .noMore => enter (.over none)
  | .answer target, .line bytes => takeAnswer target (some bytes)
  | .answer target, .noMore =>
    takeAnswer target none
    enter (.over none)

/-- **What the browser does first**: it loads the history, names the languages and prints the list.
-/
def startUp : Act σ Unit := do
  perform History.openUp
  let h := (← Action.state).history
  unless h.languages.isEmpty do
    Action.printLine ("Languages: " ++ String.intercalate ", " (h.languages.map (·.value)))
  Action.print h.listing

/-- What several inputs do, one after the other. -/
def steps (inputs : List Input) : Act σ Unit := inputs.forM step

/-- The inputs that a text is, typed line by line. -/
def typed (bytes : List UInt8) : List Input := (byteLines bytes).map .line

/-- How the browser has ended. -/
def outcome (b : Browser) : Except CommandError Unit :=
  match b.phase with
  | .over (some e) => .error e
  | _ => .ok ()

end Browser

end Exposition.Browse
