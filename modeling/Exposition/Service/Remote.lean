import Exposition.Config
import Exposition.Http.Exchange
import Exposition.Http.Status
import Exposition.Text.Utf8
import Exposition.Url.Form
import Exposition.Wire.Body

/-!
# Service/Remote — the service over a network

Each request to the service is an HTTP request to an **endpoint** below the address of the service,
and the response is read as the reply: a status of success comes with a body that answers the
request, and any other status is a `ServiceError` that takes its detail from the body.
-/

namespace Exposition

/-! ## Errors in responses -/

/-- The detail that a user is told if a response holds none. -/
def noDetail : String := "no details provided"

/-- The messages of several faults in one. -/
def faultMessages (items : List Json) : String :=
  String.intercalate "; " (items.filterMap fun item => (item.field? "msg").bind Json.text?)

/-- A text without the blanks around it, or `noDetail` if nothing is left. -/
def detailOfText (body : List Char) : String :=
  if Text.isBlankText body then noDetail else String.ofList (Text.trim body)

/-- The JSON value of an error body.  Deep nesting, numbers out of range and garbled strings make it
none. -/
def errorValue (body : List Char) : Option Json :=
  (Json.read (Text.Utf8.encode body)).filter (·.isSound 127)

/-- **What went wrong, as an error body tells it**: a detail in text, or a list of faults each with
its message; any other body stands for itself. -/
def complaint (body : List Char) : String :=
  match (errorValue body).bind (·.field? "detail") with
  | some (.string (some detail)) => detail
  | some (.array items) => faultMessages items
  | _ => detailOfText body

/-- The error that a status without success stands for. -/
def errorOfStatus (status : Nat) (detail : String) : ServiceError :=
  if status = 404 then .notFound detail
  else if status = 400 ∨ status = 422 then .rejected detail
  else .unexpected ("backend responded with " ++ Http.statusText status ++ ": " ++ detail)

/-- The text of an error body; one that breaks off counts as empty. -/
def errorText (response : Http.Response) : List Char :=
  if response.isComplete then Text.Utf8.decodeLossy response.body else []

/-! ## Replies -/

/-- A body that is not what the request calls for. -/
def malformedBody (url : Url) : ServiceError :=
  .unexpected ("malformed response body: error decoding response body for url (" ++ url.text ++ ")")

namespace Request

/-- The content of a response. -/
def readResponse (r : Request) (response : Http.Response) : Option (Content r.Answer) :=
  if response.isComplete then r.readBody response.body else none

/-- **The reply that a response from some URL makes.** -/
def replyOf (r : Request) (url : Url) (response : Http.Response) : r.Reply :=
  if Http.isSuccess response.status then
    match r.readResponse response with
    | some content => r.replyOfContent content
    | none => .error (malformedBody url)
  else .error (errorOfStatus response.status (complaint (errorText response)))

/-! ## Endpoints -/

/-- The path of the endpoint of a request, below the address of the service. -/
def path : Request → String
  | .list _ => "history/explanations"
  | .get id => "history/explanations/" ++ Text.decimalInt id
  | .mark id _ => "history/explanations/" ++ Text.decimalInt id ++ "/favorite"
  | .delete id => "history/explanations/" ++ Text.decimalInt id
  | .stats => "history/stats"
  | .languages => "code/languages"
  | .levels => "code/complexity-levels"
  | .explain _ => "code/explain"
  | .health => "health"

/-- The method of a request. -/
def method : Request → Http.Method
  | .mark _ _ => .post
  | .explain _ => .post
  | .delete _ => .delete
  | _ => .get

/-- The names and values that go into the URL of a request. -/
def parameters : Request → List (String × String)
  | .list query => query.pairs
  | _ => []

end Request

/-- **The service at an address**, over a network. -/
structure Remote (ν : Type) where
  base : Url
  network : ν

namespace Remote

/-- An address with one slash at its end. -/
def slashed (address : String) : String :=
  String.ofList ((address.toList.reverse.dropWhile (· == '/')).reverse ++ ['/'])

/-- **The service at an address**, if that is a URL.  Endpoints lie below its path. -/
def connect {ν : Type} (address : String) (network : ν) : Except SettingError (Remote ν) :=
  match Url.parse (slashed address) with
  | .ok base => .ok ⟨base, network⟩
  | .error e => .error (.badUrl e)

/-- The URL with names and values as its query, if there are any. -/
def withParameters (url : Url) (parameters : List (String × String)) : Url :=
  if parameters.isEmpty then url else url.withQuery (Url.formEncode parameters)

/-- The URL of a request. -/
def endpoint (base : Url) (r : Request) : Except ServiceError Url :=
  match base.join r.path with
  | .ok url => .ok (withParameters url r.parameters).withoutCredentials
  | .error e => .error (.unexpected ("invalid endpoint '" ++ r.path ++ "': " ++ e.message))

/-- **The HTTP request** that a request to the service is. -/
def outgoing (base : Url) (r : Request) : Except ServiceError Http.Request := do
  return { method := r.method, url := ← endpoint base r, body := r.body?.map Json.compact }

/-- The reply that the end of an exchange makes. -/
def conclude (r : Request) : Except Http.Failure (Url × Http.Response) → r.Reply
  | .ok (url, response) => r.replyOf url response
  | .error failure => .error (.transport failure.message)

variable {ν : Type} [Http.Network ν]

/-- A remote service answers by exchanges over its network. -/
instance : Service (Remote ν) where
  answer r s :=
    match outgoing s.base r with
    | .error e => (.error e, s)
    | .ok request =>
      let (result, network) := Http.exchange request s.network
      (conclude r result, { s with network })

end Remote

end Exposition
