import Exposition.Command.Run
import Exposition.CommandLine.Reader
import Exposition.Environment.File
import Exposition.Service.Remote

/-!
# Program — a whole run of the program

A run takes everything that the program is started with and a network, and gives what it writes and
the exit code.  The environment has to make sense as a whole, also where the command line then
overrides it.

Two settings are read and checked, and then bear on nothing.  What a run writes is what its command
writes, without the lines of a log, so the log level makes no difference; and whether a request goes
without an answer is up to the network, so the time that the program would wait makes none.
-/

namespace Exposition

/-- **What the program is started with.**  A file of variables adds to the environment. -/
structure Invocation where
  arguments : List String
  environment : Environment := []
  environmentFile : Option (List Char) := none
  input : List UInt8 := []
  file : String → Option (List UInt8) := fun _ => none

/-- **How a run has ended.** -/
structure Ending where
  exitCode : Nat
  output : String
  complaints : String
deriving DecidableEq, Repr

namespace Program

/-- The name and version of the program. -/
def version : String := "code-explainer 0.1.0"

/-- The text that explains the use of the program. -/
def usage : String := String.intercalate "\n" [
  "Client for the Code Explainer API.",
  "",
  "Submit code for an AI-generated explanation, then list, filter,",
  "favorite and delete past explanations.",
  "",
  "Usage: code-explainer [OPTIONS] <COMMAND>",
  "",
  "Commands:",
  "  languages  List the languages the backend can explain",
  "  levels     List the available explanation complexity levels",
  "  health     Show the backend's health status",
  "  explain    Explain a code snippet read from a file, stdin, or a built-in sample",
  "  history    Print one page of the explanation history",
  "  show       Print one explanation in full",
  "  favorite   Mark an explanation as favorite (or unmark it with --off)",
  "  delete     Delete an explanation from the history",
  "  stats      Show aggregate statistics over the history",
  "  browse     Browse the history interactively",
  "  help       Print this message",
  "",
  "Options:",
  "      --base-url <URL>         Backend base URL (overrides CODE_EXPLAINER_API_URL)",
  "      --log-level <LOG_LEVEL>  Log level (overrides RUST_LOG)",
  "      --page-size <N>          History records per page (overrides HISTORY_PAGE_SIZE)",
  "  -h, --help                   Print help",
  "  -V, --version                Print version"]

/-- What is wrong with a command line. -/
def misuseText : CommandLine.Misuse → String
  | .helpWanted => usage
  | .versionWanted => version
  | .nothingGiven => usage
  | .noCommand => "error: a command is required"
  | .unknownCommand => "error: unrecognized command"
  | .unknownArgument => "error: unexpected argument"
  | .conflict => "error: an argument was given twice, or beside another that excludes it"
  | .missingArgument => "error: a required argument was not given"
  | .unreadableValue => "error: invalid value"
  | .unsuitableValue => "error: a value is missing, or not one of the possible values"
  | .surplusValue => "error: unexpected value"

/-- The end of a run whose command line was not carried out. -/
def endOfMisuse (m : CommandLine.Misuse) : Ending :=
  let line := misuseText m ++ "\n"
  match m with
  | .helpWanted | .versionWanted => ⟨0, line, ""⟩
  | _ => ⟨2, "", line⟩

/-- The report of the reason for which a run has failed. -/
def failureReport (e : CommandError) : String := "Error: " ++ e.report ++ "\n"

/-- The end of a run that has carried out a command. -/
def endOfCommand {σ κ : Type} (result : Except CommandError Unit) (s : Session σ κ) : Ending :=
  match result with
  | .ok _ => ⟨0, s.output, s.complaints⟩
  | .error e => ⟨1, s.output, s.complaints ++ failureReport e⟩

/-- The environment of a run, with the variables of the file. -/
def environment (i : Invocation) : Environment :=
  match i.environmentFile with
  | some file => i.environment.load file
  | none => i.environment

/-- The settings of a run: those of the environment, and over them those of the command line. -/
def settings (i : Invocation) (overrides : Overrides) : Except SettingError Config := do
  overrides.over (← (environment i).config)

/-- What a command finds around it. -/
def surroundings (i : Invocation) (c : Config) : Surroundings where
  pageSize := c.pageSize
  searchDelay := c.searchDelay
  input := i.input
  file := i.file

variable {ν : Type} [Http.Network ν]

/-- Carries out a command under some settings.  The log level and the time to wait for an answer
have no part in it. -/
def runCommand (i : Invocation) (network : ν) (command : Command) (c : Config) : Ending × ν :=
  match Remote.connect c.apiUrl network with
  | .error e => (⟨1, "", failureReport (.config e)⟩, network)
  | .ok remote =>
    let start : Session (Remote ν) Unit := { service := remote, state := () }
    let (result, s) := command.run (surroundings i c) start
    (endOfCommand result s, s.service.network)

/-- **A run of the program.** -/
def run (i : Invocation) (network : ν) : Ending × ν :=
  match CommandLine.read i.arguments with
  | .error misuse => (endOfMisuse misuse, network)
  | .ok line =>
    match settings i line.overrides with
    | .error e => (⟨1, "", failureReport (.config e)⟩, network)
    | .ok c => runCommand i network line.command c

end Program

end Exposition
