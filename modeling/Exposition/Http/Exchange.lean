import Exposition.Url.Parser

/-!
# Http/Exchange — requests over a network, and redirects

A **network** is any state that takes requests and gives a response to each, or none.  An exchange
sends a request and follows redirects, up to ten in a row; it ends with the first response that is
no redirect and the URL that gave it.
-/

namespace Exposition.Http

/-- What a request does. -/
inductive Method
  | get
  | post
  | delete
deriving DecidableEq, Repr

/-- The name of a method. -/
def Method.name : Method → String
  | .get => "GET"
  | .post => "POST"
  | .delete => "DELETE"

/-- A request. -/
structure Request where
  method : Method
  url : Url
  body : Option String := none
deriving DecidableEq, Repr

/-- A response.  A body that breaks off before its announced end is not complete. -/
structure Response where
  status : Nat := 200
  location : Option String := none
  body : List UInt8 := []
  isComplete : Bool := true
deriving DecidableEq, Repr

/-- **A network**: states that take requests and move on. -/
class Network (ν : Type) where
  /-- The response to a request, if there is one, and the state after it. -/
  send : Request → ν → Option Response × ν

/-- The network that nothing ever comes back from. -/
structure Offline where
deriving DecidableEq, Repr

/-- Nothing comes back. -/
instance : Network Offline where
  send _ n := (none, n)

/-- A network whose responses are given in advance, with the requests that were sent so far. -/
structure Scripted where
  script : List (Option Response)
  sent : List Request := []
deriving DecidableEq, Repr

/-- Each request takes the next response. -/
instance : Network Scripted where
  send r n := (n.script.head?.join, ⟨n.script.tail, n.sent ++ [r]⟩)

/-! ## Redirects -/

/-- Why an exchange ended without a response. -/
inductive Failure
  | noResponse (url : Url)
  | tooManyRedirects (url : Url)
  /-- The URL is not one of the web. -/
  | badScheme (url : Url)
deriving DecidableEq, Repr

/-- What the user is told about it. -/
def Failure.message : Failure → String
  | .noResponse url => "error sending request for url (" ++ url.text ++ ")"
  | .tooManyRedirects url => "error following redirect for url (" ++ url.text ++ ")"
  | .badScheme url => "builder error for url (" ++ url.text ++ ")"

/-- A URL of the web. -/
def isWeb (url : Url) : Bool := url.scheme == "http" || url.scheme == "https"

/-- The request that takes the place of another after a redirect with some status, if it is one:
after 303 it asks for the new place without a body, and after 301 and 302 so does a post. -/
def Request.redirected (r : Request) (status : Nat) (url : Url) : Option Request :=
  match status with
  | 301 | 302 => some (if r.method = .post then ⟨.get, url, none⟩ else { r with url })
  | 303 => some ⟨.get, url, none⟩
  | 307 | 308 => some { r with url }
  | _ => none

/-- **The request that a response leads to**, if it is a redirect to some place. -/
def Request.next? (r : Request) (response : Response) : Option Request := do
  let url ← (r.url.join (← response.location)).toOption
  r.redirected response.status url.withoutCredentials

/-- How many redirects are followed in a row. -/
def maxRedirects : Nat := 10

variable {ν : Type} [Network ν]

/-- Sends a request that a first URL has led to, and follows at most `left` redirects. -/
def follow (first : Url) (left : Nat) (r : Request) (n : ν) :
    Except Failure (Url × Response) × ν :=
  if !isWeb r.url then (.error (.badScheme r.url), n)
  else
    match Network.send r n with
    | (none, n) => (.error (.noResponse first), n)
    | (some response, n) =>
      match r.next? response, left with
      | none, _ => (.ok (r.url, response), n)
      | some _, 0 => (.error (.tooManyRedirects r.url), n)
      | some next, left + 1 => follow first left next n

/-- **An exchange**: the response in the end and the URL that gave it. -/
def exchange (r : Request) (n : ν) : Except Failure (Url × Response) × ν :=
  follow r.url maxRedirects r n

end Exposition.Http
