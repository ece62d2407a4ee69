import Exposition.Program

/-!
# Main — the program at a terminal

Gathers what a run of the program needs, the file `.env` of the working directory included, and
writes what the run gives when standard input has ended.  No network is attached here: every request
to the service ends without a response.
-/

namespace Exposition.Main

/-- The bytes of a file, if it can be read. -/
def readFile? (name : String) : IO (Option (List UInt8)) := do
  try
    return some (← IO.FS.readBinFile name).toList
  catch _ =>
    return none

/-- The bytes of standard input up to its end. -/
def readInput : IO (List UInt8) := do
  return (← (← IO.getStdin).readBinToEnd).toList

/-- The variables that a file of variables may refer to. -/
def wordsOf (file : List Char) : List String :=
  (Text.splitEvery (fun c => !(Text.isAlphanumeric c || c == '_' || c == '.')) file).map
    String.ofList

/-- The environment, as far as a run can ask for it. -/
def environmentFor (file : List Char) : IO Environment :=
  (Variable.all.map Variable.name ++ wordsOf file).filterMapM fun name => do
    if name.isEmpty then return none
    return (← IO.getEnv name).map (name, ·)

end Exposition.Main

open Exposition

/-- Runs the program; its exit code is that of the run. -/
def main (arguments : List String) : IO UInt32 := do
  let command := (CommandLine.read arguments).toOption.map (·.command)
  let environmentFile := (← Main.readFile? ".env").map Environment.fileText
  let environment ← Main.environmentFor (environmentFile.getD [])
  let input ← if (command.map Command.readsInput).getD false then Main.readInput else pure []
  let bytes ← match command.bind Command.file? with
    | some name => Main.readFile? name
    | none => pure none
  let invocation : Invocation :=
    { arguments, environment, environmentFile, input, file := fun _ => bytes }
  let ending := (Program.run invocation Http.Offline.mk).1
  (← IO.getStdout).putStr ending.output
  (← IO.getStderr).putStr ending.complaints
  return ending.exitCode.toUInt32
