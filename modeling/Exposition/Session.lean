import Exposition.Notification
import Exposition.Service

/-!
# Session — the work against a service, and its transcript

A **session** is a service together with the state of whatever works against it and the transcript
of all that has passed: requests with their replies, notifications, and text for the terminal.  An
`Action` runs in a session and may end with an error; the state it has reached by then stays.
-/

namespace Exposition

/-- One thing that passed in a session. -/
inductive Event
  /-- A request, and the reply to it. -/
  | asked (request : Request) (reply : request.Reply)
  /-- A notification to the user. -/
  | notified (notification : Notification)
  /-- Text for standard output. -/
  | printed (text : String)
  /-- Text for standard error. -/
  | complained (text : String)

namespace Event

/-- The request of an event. -/
def request? : Event → Option Request
  | .asked request _ => some request
  | _ => none

/-- The notification of an event. -/
def notification? : Event → Option Notification
  | .notified n => some n
  | _ => none

/-- What an event writes to standard output. -/
def output : Event → String
  | .printed text => text
  | _ => ""

/-- What an event writes to standard error; a notification takes a line. -/
def complaint : Event → String
  | .complained text => text
  | .notified n => n.line ++ "\n"
  | _ => ""

end Event

/-- **A session** of a state `κ` against a service `σ`. -/
structure Session (σ κ : Type) where
  service : σ
  state : κ
  transcript : List Event := []

namespace Session

variable {σ κ : Type}

/-- The requests of a session, in order. -/
def requests (s : Session σ κ) : List Request := s.transcript.filterMap Event.request?

/-- The notifications of a session, in order. -/
def notifications (s : Session σ κ) : List Notification :=
  s.transcript.filterMap Event.notification?

/-- What a session has written to standard output. -/
def output (s : Session σ κ) : String := String.join (s.transcript.map Event.output)

/-- What a session has written to standard error. -/
def complaints (s : Session σ κ) : String := String.join (s.transcript.map Event.complaint)

/-- The session with one more event. -/
def record (s : Session σ κ) (e : Event) : Session σ κ :=
  { s with transcript := s.transcript ++ [e] }

/-- The session with another state in the place of its own. -/
def withState {μ : Type} (s : Session σ κ) (state : μ) : Session σ μ :=
  { service := s.service, state, transcript := s.transcript }

end Session

/-- **An action** in a session, which gives a value or ends with an error; the state and the
transcript that it has reached by then stay. -/
abbrev Action (ε σ κ α : Type) : Type := ExceptT ε (StateM (Session σ κ)) α

namespace Action

variable {ε δ σ κ μ α : Type}

/-- Sends a request and gives the reply to it, success or failure. -/
def ask [Service σ] (r : Request) : Action ε σ κ r.Reply := fun s =>
  let (reply, service) := Service.answer r s.service
  (.ok reply, { s with service }.record (.asked r reply))

/-- Notifies the user. -/
def notify (n : Notification) : Action ε σ κ Unit := fun s => (.ok (), s.record (.notified n))

/-- Writes to standard output. -/
def print (text : String) : Action ε σ κ Unit := fun s => (.ok (), s.record (.printed text))

/-- Writes a line to standard output. -/
def printLine (line : String) : Action ε σ κ Unit := print (line ++ "\n")

/-- Writes a line to standard error. -/
def complain (line : String) : Action ε σ κ Unit :=
  fun s => (.ok (), s.record (.complained (line ++ "\n")))

/-- The state that the session works on. -/
def state : Action ε σ κ κ := fun s => (.ok s.state, s)

/-- Changes the state that the session works on. -/
def update (f : κ → κ) : Action ε σ κ Unit := fun s => (.ok (), { s with state := f s.state })

/-- Runs an action on a part of the state. -/
def within (part : μ → κ) (put : κ → μ → μ) (act : Action ε σ κ α) : Action ε σ μ α := fun s =>
  let (result, s') := act (s.withState (part s.state))
  (result, s'.withState (put s'.state s.state))

/-- Runs an action on a state of its own. -/
def startingFrom (start : κ) (act : Action ε σ κ α) : Action ε σ μ α := fun s =>
  let (result, s') := act (s.withState start)
  (result, s'.withState s.state)

/-- The result of an action, its failure included, as a value. -/
def attempt (act : Action ε σ κ α) : Action δ σ κ (Except ε α) := fun s =>
  let (result, s') := act s
  (.ok result, s')

/-- The action with another error in the place of its own. -/
def mapError (f : ε → δ) (act : Action ε σ κ α) : Action δ σ κ α := fun s =>
  let (result, s') := act s
  (result.mapError f, s')

end Action

end Exposition
