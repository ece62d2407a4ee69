import Exposition.CommandLine.Grammar

/-!
# CommandLine/Reader — reading a command line

The arguments are taken one by one.  An argument that begins with a dash is an option or flags,
except for a single dash; a double dash ends them.  A value is read no sooner than the next option,
flag or place is met, so that of two faults the one further to the left counts, and a fault after
the verb counts before one in the value before it.
-/

namespace Exposition.CommandLine

open Text

/-- What still has to be dealt with. -/
inductive Pending
  | nothing
  /-- An option whose value has not come yet. -/
  | key (key : Key)
  /-- The value of an option. -/
  | keyValue (key : Key) (text : String)
  /-- The text in a place. -/
  | placeValue (place : Place) (text : String)
deriving DecidableEq, Repr

/-- **One part of a command line**, as far as it has been read: what it has given, what is pending,
the place that is still free, and whether a double dash has come. -/
structure Reader where
  scope : Scope
  given : Given := {}
  pending : Pending := .nothing
  place : Option Place := scope.place?
  dashed : Bool := false
deriving DecidableEq, Repr

namespace Reader

/-- Deals with what is pending. -/
def resolve (r : Reader) : Except Misuse Reader :=
  match r.pending with
  | .nothing => .ok r
  | .key _ => .error .unsuitableValue
  | .keyValue key text => do
    return { r with given := ← r.given.withKey key text, pending := .nothing }
  | .placeValue place text => do
    return { r with given := ← r.given.withPlace place text, pending := .nothing }

/-- Takes a flag. -/
def takeFlag (r : Reader) (flag : Flag) : Except Misuse Reader := do
  let r ← r.resolve
  return { r with given := ← r.given.withFlag flag }

/-- Takes what follows a double dash: a name, and perhaps a value after `=`. -/
def takeLong (r : Reader) (cs : List Char) : Except Misuse Reader := do
  let (name, value) := splitAtFirst (· == '=') cs
  match r.scope.key? (String.ofList name), r.scope.flag? (String.ofList name), value with
  | some key, _, some text =>
    let r ← r.resolve
    return { r with given := ← r.given.withKey key (String.ofList text) }
  | some key, _, none => return { ← r.resolve with pending := .key key }
  | none, some _, some _ => throw .surplusValue
  | none, some flag, none => r.takeFlag flag
  | none, none, _ => throw .unknownArgument

/-- Takes the letters that follow a single dash. -/
def takeLetters (r : Reader) : List Char → Except Misuse Reader
  | [] => .ok r
  | c :: cs =>
    match r.scope.letter? c with
    | some flag => do takeLetters (← r.takeFlag flag) cs
    | none => .error .unknownArgument

/-- Takes an argument that is known by its place. -/
def takePlace (r : Reader) (argument : String) : Except Misuse Reader := do
  match r.place with
  | some place => return { ← r.resolve with pending := .placeValue place argument, place := none }
  | none =>
    if r.scope.isSome || (r.dashed && Verb.isTopic argument) then throw .unknownArgument
    else throw .unknownCommand

/-- **Takes one argument.** -/
def take (r : Reader) (argument : String) : Except Misuse Reader :=
  if r.dashed then r.takePlace argument
  else
    match argument.toList with
    | ['-', '-'] => .ok { r with dashed := true }
    | '-' :: '-' :: cs => r.takeLong cs
    | '-' :: c :: cs => r.takeLetters (c :: cs)
    | _ =>
      match r.pending with
      | .key key => .ok { r with pending := .keyValue key argument }
      | _ => r.takePlace argument

/-- A verb may come next. -/
def takesVerb (r : Reader) : Bool :=
  !r.dashed &&
    match r.pending with
    | .key _ => false
    | _ => true

end Reader

/-- What comes of a request for help on some topics. -/
def helpOn : List String → Misuse
  | [] => .helpWanted
  | [topic] => if Verb.isTopic topic then .helpWanted else .unknownCommand
  | _ => .unknownCommand

/-- Reads what follows a verb. -/
def readAfter (verb : Verb) (arguments : List String) : Except Misuse CommandLine := do
  let start : Reader := { scope := some verb }
  let given := (← (← arguments.foldlM Reader.take start).resolve).given
  return { command := ← given.command verb, overrides := given.overrides }

/-- Reads a command line from the arguments that are left, before its verb. -/
def readBefore (r : Reader) : List String → Except Misuse CommandLine
  | [] => do
    let given := (← r.resolve).given
    throw (if given.overrides = {} then .nothingGiven else .noCommand)
  | argument :: rest =>
    if r.takesVerb && argument == Verb.help then .error (helpOn rest)
    else
      match if r.takesVerb then Verb.find? argument else none with
      | some verb => do
        let line ← readAfter verb rest
        let given := (← r.resolve).given
        return { line with overrides := line.overrides.orElse given.overrides }
      | none => do readBefore (← r.take argument) rest

/-- **The command line that the arguments give.** -/
def read (arguments : List String) : Except Misuse CommandLine :=
  readBefore { scope := none } arguments

end Exposition.CommandLine
