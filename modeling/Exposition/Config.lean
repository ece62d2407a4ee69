import Exposition.Paging
import Exposition.Text.Blank
import Exposition.Url.Parser

/-!
# Config — settings from the environment

The program takes its settings from environment variables (`Variable`), each with a default.
`Config.ofVariables` reads them one after the other and stops at the first that makes no sense.
-/

namespace Exposition

open Text

/-- How much is written to the log. -/
inductive LogLevel
  | error
  | warn
  | info
  | debug
  | trace
deriving DecidableEq, Repr

namespace LogLevel

/-- Every level, the quietest first. -/
def all : List LogLevel := [.error, .warn, .info, .debug, .trace]

/-- The name of a level. -/
def name : LogLevel → String
  | .error => "ERROR"
  | .warn => "WARN"
  | .info => "INFO"
  | .debug => "DEBUG"
  | .trace => "TRACE"

/-- The name of a level in small letters. -/
def word (l : LogLevel) : String := String.ofList (lowerAscii l.name.toList)

/-- **The level that a text names**: by its number, from 1 for the quietest, or by its name in any
case. -/
def read? (s : String) : Option LogLevel :=
  match readNat maxLong s.toList with
  | some n => if n = 0 then none else all[n - 1]?
  | none => all.find? (·.word == String.ofList (lowerAscii s.toList))

end LogLevel

/-- The environment variables that hold settings. -/
inductive Variable
  | apiUrl
  | logLevel
  | pageSize
  | searchDelay
  | timeout
deriving DecidableEq, Repr

/-- Every variable, in the order in which they are read. -/
def Variable.all : List Variable := [.apiUrl, .logLevel, .pageSize, .searchDelay, .timeout]

/-- The name of a variable. -/
def Variable.name : Variable → String
  | .apiUrl => "CODE_EXPLAINER_API_URL"
  | .logLevel => "RUST_LOG"
  | .pageSize => "HISTORY_PAGE_SIZE"
  | .searchDelay => "SEARCH_DEBOUNCE_MS"
  | .timeout => "REQUEST_TIMEOUT_SECS"

/-- Why a setting makes no sense. -/
inductive SettingError
  /-- The address of the service is no URL. -/
  | badUrl (error : Url.Error)
  /-- The address of the service is no address on the web. -/
  | badScheme (scheme : String)
  | badLogLevel (text : String)
  | notANumber (name : Variable) (text : String)
  | pageSizeOutOfRange
deriving DecidableEq, Repr

namespace SettingError

/-- The variable at fault. -/
def source : SettingError → Variable
  | .badUrl _ => .apiUrl
  | .badScheme _ => .apiUrl
  | .badLogLevel _ => .logLevel
  | .notANumber v _ => v
  | .pageSizeOutOfRange => .pageSize

/-- What is wrong with its value. -/
def reason : SettingError → String
  | .badUrl e => e.message
  | .badScheme scheme => "unsupported scheme '" ++ scheme ++ "'"
  | .badLogLevel text => "'" ++ text ++ "' is not a valid log level"
  | .notANumber _ text => "'" ++ text ++ "' is not a number"
  | .pageSizeOutOfRange => "must be between 1 and " ++ decimal largestPageSize

/-- What the user is told. -/
def message (e : SettingError) : String :=
  "Invalid value for the environment variable " ++ e.source.name ++ ": " ++ e.reason

end SettingError

/-- **The settings.**  Times are in milliseconds for the pause before a search, and in seconds for a
request; without a limit a request may take as long as it takes. -/
structure Config where
  apiUrl : String
  logLevel : LogLevel
  pageSize : Nat
  searchDelay : Nat
  timeout : Option Nat
deriving DecidableEq, Repr

/-- **The check of the service's address**: a URL of the web. -/
def checkApiUrl (s : String) : Except SettingError Unit :=
  match Url.parse s with
  | .error e => .error (.badUrl e)
  | .ok url =>
    if url.scheme = "http" ∨ url.scheme = "https" then .ok () else .error (.badScheme url.scheme)

namespace Config

/-- A number of at most `limit`, with blanks around it. -/
def number (limit : Nat) (v : Variable) (s : String) : Except SettingError Nat :=
  match readNat limit (trim s.toList) with
  | some n => .ok n
  | none => .error (.notANumber v s)

/-- A page size within its bounds. -/
def pageSizeOf (s : String) : Except SettingError Nat := do
  let size ← number maxWord .pageSize s
  if size = 0 ∨ largestPageSize < size then throw .pageSizeOutOfRange
  else return size

/-- A level of the log. -/
def logLevelOf (s : String) : Except SettingError LogLevel :=
  match LogLevel.read? s with
  | some level => .ok level
  | none => .error (.badLogLevel s)

/-- **The settings that the variables give.** -/
def ofVariables (lookup : Variable → Option String) : Except SettingError Config := do
  let apiUrl := (lookup .apiUrl).getD "http://localhost:8000"
  checkApiUrl apiUrl
  let logLevel ← logLevelOf ((lookup .logLevel).getD "WARN")
  let pageSize ← match lookup .pageSize with
    | some s => pageSizeOf s
    | none => .ok usualPageSize
  let searchDelay ← match lookup .searchDelay with
    | some s => number maxLong .searchDelay s
    | none => .ok 300
  let timeout ← match lookup .timeout with
    | some s => some <$> number maxLong .timeout s
    | none => .ok none
  return { apiUrl, logLevel, pageSize, searchDelay, timeout }

end Config

end Exposition
