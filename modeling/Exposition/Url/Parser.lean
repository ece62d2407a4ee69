import Exposition.Url
import Exposition.Url.Domain
import Exposition.Url.Form

/-!
# Url/Parser — reading URLs

A text is read as a URL of its own (`Url.parse`) or against a base (`Url.join`).  Blanks and
controls at its ends and line breaks and tabs anywhere are dropped first.  A path loses its dot
segments, and what may not stand in a part is percent-encoded.
-/

namespace Exposition.Url

open Text

/-! ## Pieces of the text -/

/-- A control or a space. -/
def isC0OrSpace (c : Char) : Bool := c.toNat ≤ 0x20

/-- A tab or a line break. -/
def isTabOrBreak (c : Char) : Bool := c == '\t' || c == '\n' || c == '\r'

/-- The characters that are read. -/
def significant (cs : List Char) : List Char :=
  (((cs.dropWhile isC0OrSpace).reverse.dropWhile isC0OrSpace).reverse).filter (!isTabOrBreak ·)

/-- A character of a scheme after its first. -/
def isSchemeChar (c : Char) : Bool := c.isAlphanum || c == '+' || c == '-' || c == '.'

/-- The scheme, in small letters, and what follows its colon. -/
def splitScheme (cs : List Char) : Option (String × List Char) :=
  match cs with
  | [] => none
  | c :: _ =>
    match cs.dropWhile isSchemeChar with
    | ':' :: rest =>
      if c.isAlpha then some (String.ofList (lowerAscii (cs.takeWhile isSchemeChar)), rest)
      else none
    | _ => none

/-- A slash; where `special` holds, a backslash as well. -/
def isSlash (special : Bool) (c : Char) : Bool := c == '/' || (special && c == '\\')

/-- The end of the part with host and port. -/
def endsAuthority (special : Bool) (c : Char) : Bool :=
  isSlash special c || c == '?' || c == '#'

/-! ## Host and port -/

/-- The host of a special URL. -/
def parseHost (cs : List Char) : Except Error Host :=
  match cs with
  | '[' :: rest =>
    if rest.getLast? == some ']' then
      match readIpv6 rest.dropLast with
      | some groups => .ok (.ipv6 groups)
      | none => .error .badIpv6
    else .error .badIpv6
  | _ =>
    match Utf8.decode (percentDecode cs) with
    | .error _ => .error .badDomain
    | .ok name =>
      match domainToAscii name with
      | none => .error .badDomain
      | some [] => .error .emptyHost
      | some domain =>
        if endsInNumber domain then
          match readIpv4 domain with
          | some address => .ok (.ipv4 address)
          | none => .error .badIpv4
        else .ok (.name (String.ofList domain))

/-- A character that no host may hold. -/
def isForbiddenInHost (c : Char) : Bool :=
  c.toNat == 0 || ['\t', '\n', '\r', ' ', '#', '/', ':', '<', '>', '?', '@', '[', '\\', ']', '^',
    '|'].contains c

/-- The host of any other URL, which is no domain name. -/
def parseOtherHost (cs : List Char) : Except Error Host :=
  match cs with
  | '[' :: rest =>
    if rest.getLast? == some ']' then
      match readIpv6 rest.dropLast with
      | some groups => .ok (.ipv6 groups)
      | none => .error .badIpv6
    else .error .badIpv6
  | _ =>
    if cs.any isForbiddenInHost then .error .badHostCharacter
    else .ok (.name (String.ofList (percentEncode controlSet cs)))

/-- The text of the host, and what follows it: a colon ends it, but not between brackets. -/
def splitHost (inBrackets : Bool) : List Char → List Char × List Char
  | [] => ([], [])
  | c :: cs =>
    if c = ':' ∧ inBrackets = false then ([], c :: cs)
    else
      let inside := if c = '[' then true else if c = ']' then false else inBrackets
      let (host, rest) := splitHost inside cs
      (c :: host, rest)

/-- The port after a colon; none if it is left out or what the scheme stands for. -/
def parsePort (scheme : String) (cs : List Char) : Except Error (Option Nat) :=
  if cs.isEmpty then .ok none
  else
    match (readDigits cs).filter (· ≤ 65535) with
    | none => .error .badPort
    | some port => .ok (if defaultPort scheme = some port then none else some port)

/-- User name and password, as they stand before an `@`. -/
def parseCredentials (cs : List Char) : String × String :=
  let (user, password) := splitAtFirst (· == ':') cs
  let encoded (cs : List Char) := String.ofList (percentEncode userSet cs)
  (encoded user, encoded (password.getD []))

/-- The texts before and after the last `@`, if there is one. -/
def splitLastAt (cs : List Char) : Option (List Char × List Char) :=
  match splitAtFirst (· == '@') cs.reverse with
  | (_, none) => none
  | (tail, some head) => some (head.reverse, tail.reverse)

/-- **Credentials, host and port.** -/
def parseAuthority (scheme : String) (cs : List Char) : Except Error Url := do
  let special := isSpecialScheme scheme
  let (user, password) := (splitLastAt cs).elim ("", "") fun (head, _) => parseCredentials head
  let (hostText, rest) := splitHost false ((splitLastAt cs).elim cs (·.2))
  if special && hostText.isEmpty then throw .emptyHost
  let host ← if special then parseHost hostText else parseOtherHost hostText
  if host = .name "" ∧ (!rest.isEmpty || user != "" || password != "") then throw .emptyHost
  let port ← parsePort scheme (rest.drop 1)
  return { scheme, user, password, host := some host, port, path := .segments [] }

/-! ## Path, query and fragment -/

/-- A segment that stands for the place itself. -/
def isSingleDot (segment : String) : Bool := [".", "%2e", "%2E"].contains segment

/-- A segment that stands for the place above. -/
def isDoubleDot (segment : String) : Bool :=
  ["..", "%2e%2e", "%2e%2E", "%2E%2e", "%2E%2E", "%2e.", "%2E.", ".%2e", ".%2E"].contains segment

/-- **The segments after some more**, given in order; the last of them is not followed by a slash.
-/
def addSegments (segments : List String) : List String → List String
  | [] => segments
  | s :: rest =>
    let isLast := rest.isEmpty
    let next :=
      if isDoubleDot s then segments.dropLast ++ (if isLast then [""] else [])
      else if isSingleDot s then segments ++ (if isLast then [""] else [])
      else segments ++ [s]
    addSegments next rest

/-- The segments of a text after others, which stand for the path that it is relative to. -/
def parseSegments (special : Bool) (segments : List String) (cs : List Char) : List String :=
  addSegments segments
    ((splitEvery (isSlash special) cs).map fun s => String.ofList (percentEncode pathSet s))

/-- A text up to a query or fragment, the query and the fragment. -/
structure Tail where
  head : List Char
  query : Option (List Char)
  fragment : Option (List Char)

/-- Splits off query and fragment. -/
def splitTail (cs : List Char) : Tail :=
  let (front, fragment) := splitAtFirst (· == '#') cs
  let (head, query) := splitAtFirst (· == '?') front
  ⟨head, query, fragment⟩

/-- The URL with a query and a fragment, percent-encoded. -/
def withTail (u : Url) (t : Tail) : Url :=
  { u with
    query := t.query.map fun q =>
      String.ofList (percentEncode (querySet (isSpecialScheme u.scheme)) q)
    fragment := t.fragment.map fun f => String.ofList (percentEncode fragmentSet f) }

/-- The path of a URL with a host, from what follows the host. -/
def parseHostPath (special : Bool) (cs : List Char) : Path :=
  match cs with
  | [] => .segments (if special then [""] else [])
  | c :: rest => .segments (parseSegments special [] (if isSlash special c then rest else cs))

/-- **A URL from the part after the two slashes.** -/
def parseAfterSlashes (scheme : String) (cs : List Char) : Except Error Url := do
  let special := isSpecialScheme scheme
  let front := cs.takeWhile (!endsAuthority special ·)
  let tail := splitTail (cs.drop front.length)
  let u ← parseAuthority scheme front
  return { u with path := parseHostPath special tail.head }.withTail tail

/-- A drive letter with its colon. -/
def isDriveLetter : List Char → Bool
  | [c, s] => c.isAlpha && (s == ':' || s == '|')
  | _ => false

/-- The URL of a file on no host. -/
def hostlessFile (path : List Char) (tail : Tail) : Url :=
  { scheme := "file", host := none, path := .segments (parseSegments true [] path)
    : Url }.withTail tail

/-- A URL of a local file, from what follows the scheme. -/
def parseFile (cs : List Char) : Except Error Url := do
  let tail := splitTail cs
  match tail.head with
  | a :: b :: rest =>
    if isSlash true a && isSlash true b then
      let hostText := rest.takeWhile (!isSlash true ·)
      if hostText.isEmpty || isDriveLetter hostText then
        let path := if hostText.isEmpty then rest.drop 1 else rest
        return { scheme := "file", host := none, path := .segments (parseSegments true [] path)
               : Url }.withTail tail
      else
        let host ← parseHost hostText
        let host := if host = .name "localhost" then none else some host
        return { scheme := "file", host,
                 path := .segments (parseSegments true [] (rest.drop (hostText.length + 1)))
               : Url }.withTail tail
    else return hostlessFile (if isSlash true a then b :: rest else tail.head) tail
  | a :: rest => return hostlessFile (if isSlash true a then rest else a :: rest) tail
  | [] => return hostlessFile [] tail

/-- A URL of a scheme that is not special, from what follows the scheme. -/
def parseOther (scheme : String) (cs : List Char) : Except Error Url :=
  match cs with
  | '/' :: '/' :: rest => parseAfterSlashes scheme rest
  | '/' :: rest =>
    let tail := splitTail rest
    .ok ({ scheme, host := none, path := .segments (parseSegments false [] tail.head)
         : Url }.withTail tail)
  | _ =>
    let tail := splitTail cs
    let path := String.ofList (percentEncode controlSet tail.head)
    .ok ({ scheme, host := none, path := .plain path : Url }.withTail tail)

/-- A URL with its scheme, from what follows the scheme. -/
def parseWithScheme (scheme : String) (cs : List Char) : Except Error Url :=
  if scheme = "file" then parseFile cs
  else if isSpecialScheme scheme then parseAfterSlashes scheme (cs.dropWhile (isSlash true))
  else parseOther scheme cs

/-- **The URL that a text is.** -/
def parse (s : String) : Except Error Url :=
  match splitScheme (significant s.toList) with
  | some (scheme, rest) => parseWithScheme scheme rest
  | none => .error .noBase

/-! ## Against a base -/

/-- The segments of a path; a plain one has none. -/
def Path.list : Path → List String
  | .segments list => list
  | .plain _ => []

/-- The URL with a path that is read after the given segments, and another end. -/
def withPath (base : Url) (segments : List String) (path : List Char) (tail : Tail) : Url :=
  { base with
    path := .segments (parseSegments (isSpecialScheme base.scheme) segments path) }.withTail tail

/-- A URL from a text without a scheme, against a base with a path of segments. -/
def resolve (base : Url) (cs : List Char) : Except Error Url :=
  let special := isSpecialScheme base.scheme
  let tail := splitTail cs
  match tail.head with
  | [] =>
    .ok (if tail.query.isSome then base.withTail tail
      else { base.withTail tail with query := base.query })
  | a :: b :: rest =>
    if isSlash special a && isSlash special b then
      parseAfterSlashes base.scheme
        (if special then cs.dropWhile (isSlash true) else cs.drop 2)
    else if isSlash special a then .ok (base.withPath [] (b :: rest) tail)
    else .ok (base.withPath base.path.list.dropLast tail.head tail)
  | [a] =>
    if isSlash special a then .ok (base.withPath [] [] tail)
    else .ok (base.withPath base.path.list.dropLast tail.head tail)

/-- **The URL that a text is against a base.** -/
def join (base : Url) (s : String) : Except Error Url :=
  let cs := significant s.toList
  match splitScheme cs with
  | some (scheme, rest) =>
    if scheme = base.scheme && isSpecialScheme scheme && scheme != "file" &&
        (rest.takeWhile (isSlash true)).length < 2 then resolve base rest
    else parseWithScheme scheme rest
  | none =>
    match base.path with
    | .plain _ =>
      if cs.head? == some '#' then .ok { base.withTail (splitTail cs) with query := base.query }
      else .error .plainBase
    | .segments _ => resolve base cs

end Exposition.Url
