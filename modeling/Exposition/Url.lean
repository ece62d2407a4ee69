import Exposition.Url.Address

/-!
# Url — addresses on the web

A **URL** as the parts that it is made of, and its text.  The path is a list of segments, each after
a slash, or for a URL without any slash one plain text.
-/

namespace Exposition

namespace Url

/-- Why a text is no URL. -/
inductive Error
  | emptyHost
  | badDomain
  | badPort
  | badIpv4
  | badIpv6
  | badHostCharacter
  /-- The text has no scheme, and there is nothing to resolve it against. -/
  | noBase
  /-- The text has no scheme, and what it is resolved against has a plain path. -/
  | plainBase
deriving DecidableEq, Repr

/-- What the user is told about it. -/
def Error.message : Error → String
  | .emptyHost => "empty host"
  | .badDomain => "invalid international domain name"
  | .badPort => "invalid port number"
  | .badIpv4 => "invalid IPv4 address"
  | .badIpv6 => "invalid IPv6 address"
  | .badHostCharacter => "invalid domain character"
  | .noBase => "relative URL without a base"
  | .plainBase => "relative URL with a cannot-be-a-base base"

/-- A host. -/
inductive Host
  /-- A name; it is empty where a URL may have an empty host. -/
  | name (text : String)
  | ipv4 (address : Nat)
  | ipv6 (groups : List Nat)
deriving DecidableEq, Repr

/-- The text of a host. -/
def Host.text : Host → String
  | .name text => text
  | .ipv4 address => writeIpv4 address
  | .ipv6 groups => "[" ++ writeIpv6 groups ++ "]"

/-- A path. -/
inductive Path
  | segments (list : List String)
  | plain (text : String)
deriving DecidableEq, Repr

/-- The text of a path. -/
def Path.text : Path → String
  | .segments list => String.join (list.map ("/" ++ ·))
  | .plain text => text

end Url

/-- **A URL.**  `host` is none if the URL has no part for it. -/
structure Url where
  scheme : String
  user : String := ""
  password : String := ""
  host : Option Url.Host
  port : Option Nat := none
  path : Url.Path
  query : Option String := none
  fragment : Option String := none
deriving DecidableEq, Repr

namespace Url

/-- The schemes whose URLs always have a host, and backslashes that count as slashes. -/
def isSpecialScheme (scheme : String) : Bool :=
  ["http", "https", "ws", "wss", "ftp", "file"].contains scheme

/-- The port that a scheme stands for. -/
def defaultPort : String → Option Nat
  | "http" => some 80
  | "ws" => some 80
  | "https" => some 443
  | "wss" => some 443
  | "ftp" => some 21
  | _ => none

/-- User name and password, with the `@` after them. -/
def credentials (u : Url) : String :=
  if u.user = "" ∧ u.password = "" then ""
  else u.user ++ (if u.password = "" then "" else ":" ++ u.password) ++ "@"

/-- What stands between the scheme and the path. -/
def authority (u : Url) : String :=
  match u.host with
  | none => if u.scheme = "file" then "//" else ""
  | some host =>
    "//" ++ u.credentials ++ host.text ++
      (match u.port with
        | none => ""
        | some port => ":" ++ Text.decimal port)

/-- **The text of a URL.** -/
def text (u : Url) : String :=
  u.scheme ++ ":" ++ u.authority ++ u.path.text ++
    (match u.query with
      | none => ""
      | some query => "?" ++ query) ++
    (match u.fragment with
      | none => ""
      | some fragment => "#" ++ fragment)

/-- The URL without user name and password. -/
def withoutCredentials (u : Url) : Url := { u with user := "", password := "" }

/-- The URL with another query. -/
def withQuery (u : Url) (query : String) : Url := { u with query := some query }

end Url

end Exposition
