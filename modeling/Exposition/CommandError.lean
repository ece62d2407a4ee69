import Exposition.Answer
import Exposition.Config
import Exposition.Service
import Exposition.Text.Visible

/-!
# CommandError — why a command fails

The reasons for which a command ends without success, what the user is told (`message`), and the
longer form in which the program reports the reason when it exits (`report`).
-/

namespace Exposition

open Text

/-- A request that cannot be met, though nothing failed. -/
inductive Refusal
  /-- The service offers no languages. -/
  | noLanguages
  /-- The service offers no levels. -/
  | noLevels
  /-- There is no example of this name. -/
  | noSample (name : String) (available : List String)
  /-- The history does not have this page. -/
  | noPage (page totalPages : Nat)
deriving DecidableEq, Repr

/-- What the user is told about it. -/
def Refusal.message : Refusal → String
  | .noLanguages => "the backend offered no languages"
  | .noLevels => "the backend offered no complexity levels"
  | .noSample name available =>
    "no sample for '" ++ name ++ "' (available: " ++ String.intercalate ", " available ++ ")"
  | .noPage page totalPages =>
    "page " ++ decimal page ++ " does not exist (there are " ++ decimal totalPages ++ " pages)"

/-- **Why a command failed.** -/
inductive CommandError
  | config (error : SettingError)
  | service (error : ServiceError)
  | input (error : InputError)
  | refused (refusal : Refusal)
deriving DecidableEq, Repr

/-- The kind of a failed request and its detail, as a report. -/
def ServiceError.report : ServiceError → String
  | .notFound detail => "NotFound(" ++ quoted detail ++ ")"
  | .rejected detail => "Rejected(" ++ quoted detail ++ ")"
  | .transport detail => "Transport(" ++ quoted detail ++ ")"
  | .unexpected detail => "Unexpected(" ++ quoted detail ++ ")"

namespace CommandError

/-- **What the user is told.** -/
def message : CommandError → String
  | .config e => "Configuration error: " ++ e.message
  | .service e => "Backend error: " ++ e.message
  | .input e => "IO error: " ++ e.message
  | .refused r => "An unexpected internal error occurred: " ++ r.message

/-- **The report on exit**, with the kind of the error and quoted texts. -/
def report : CommandError → String
  | .config e =>
    "Config(InvalidValue(" ++ quoted e.source.name ++ ", " ++ quoted e.reason ++ "))"
  | .service e => "Port(" ++ e.report ++ ")"
  | .input e => "Io(" ++ e.report ++ ")"
  | .refused r => "Internal(" ++ quoted r.message ++ ")"

end CommandError

end Exposition
