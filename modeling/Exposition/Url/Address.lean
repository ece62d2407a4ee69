import Exposition.Text.Line
import Exposition.Text.Numeral
import Exposition.Url.Form

/-!
# Url/Address — numeric hosts

IPv4 addresses are read with up to four parts in decimal, octal or hexadecimal digits, the last
part taking all bytes that are left.  IPv6 addresses are eight groups of four hexadecimal digits;
`::` stands for one or more groups of zeros, and the last two groups may be written as an IPv4
address.  IPv6 addresses are written with their longest row of zero groups left out.
-/

namespace Exposition.Url

open Text

/-! ## IPv4 -/

/-- The value of digits in a base; none if one of them is no digit of it. -/
def digitsIn (base : Nat) (cs : List Char) : Option Nat :=
  cs.foldlM (fun n c => do
    let d ← hexValue c
    if d < base then some (base * n + d) else none) 0

/-- **One part of an IPv4 address**: hexadecimal after `0x`, octal after another `0`. -/
def ipv4Part : List Char → Option Nat
  | [] => none
  | '0' :: 'x' :: ds => digitsIn 16 ds
  | '0' :: 'X' :: ds => digitsIn 16 ds
  | ['0'] => some 0
  | '0' :: ds => digitsIn 8 ds
  | ds => digitsIn 10 ds

/-- The parts between the dots of a host; one dot may follow the last. -/
def dottedParts (host : List Char) : List (List Char) :=
  let parts := splitEvery (· == '.') host
  if parts.getLast? == some [] then parts.dropLast else parts

/-- **A host that has to be an IPv4 address**: its last part is a number. -/
def endsInNumber (host : List Char) : Bool :=
  match (dottedParts host).getLast? with
  | none => false
  | some [] => false
  | some part => part.all Char.isDigit || (ipv4Part part).isSome

/-- The address of some parts: each but the last is a byte. -/
def ipv4OfParts (parts : List Nat) : Option Nat :=
  match parts.reverse with
  | [] => none
  | last :: bytes =>
    let bytes := bytes.reverse
    if 4 ≤ bytes.length || bytes.any (255 < ·) || Nat.pow 256 (4 - bytes.length) ≤ last then none
    else some (bytes.zipIdx.foldl (fun sum (b, i) => sum + b * Nat.pow 256 (3 - i)) last)

/-- **The IPv4 address of a host**, as a number of 32 bits. -/
def readIpv4 (host : List Char) : Option Nat :=
  ((dottedParts host).mapM ipv4Part).bind ipv4OfParts

/-- An IPv4 address in four decimal bytes. -/
def writeIpv4 (address : Nat) : String :=
  String.intercalate "." ([3, 2, 1, 0].map fun i => decimal (address / Nat.pow 256 i % 256))

/-! ## IPv6 -/

/-- A byte of an IPv4 address inside an IPv6 address: no leading zero. -/
def plainByte (cs : List Char) : Option Nat :=
  match cs with
  | '0' :: _ :: _ => none
  | _ => (readDigits cs).filter (· ≤ 255)

/-- The two groups of an IPv4 address. -/
def ipv4Groups (cs : List Char) : Option (List Nat) := do
  match ← (splitEvery (· == '.') cs).mapM plainByte with
  | [a, b, c, d] => some [256 * a + b, 256 * c + d]
  | _ => none

/-- One group of up to four digits. -/
def ipv6Group (cs : List Char) : Option Nat :=
  if cs.isEmpty || 4 < cs.length then none else digitsIn 16 cs

/-- Groups between colons, of which the last may be an IPv4 address; no text is no groups. -/
def ipv6Groups (mayEndInIpv4 : Bool) (cs : List Char) : Option (List Nat) :=
  if cs.isEmpty then some []
  else do
    let parts := splitEvery (· == ':') cs
    let last := parts.getLast?.getD []
    let first ← parts.dropLast.mapM ipv6Group
    if mayEndInIpv4 && last.contains '.' then return first ++ (← ipv4Groups last)
    else return first ++ [← ipv6Group last]

/-- The texts before and after the first `::`, if there is one. -/
def splitDoubleColon : List Char → Option (List Char × List Char)
  | ':' :: ':' :: rest => some ([], rest)
  | c :: rest => (splitDoubleColon rest).map fun (head, tail) => (c :: head, tail)
  | [] => none

/-- **The eight groups of an IPv6 address.** -/
def readIpv6 (cs : List Char) : Option (List Nat) :=
  match splitDoubleColon cs with
  | none => do
    let groups ← ipv6Groups true cs
    if groups.length = 8 then some groups else none
  | some (head, tail) => do
    let before ← ipv6Groups false head
    let after ← ipv6Groups true tail
    let missing := 8 - (before.length + after.length)
    if missing = 0 then none else some (before ++ List.replicate missing 0 ++ after)

/-- How many zero groups a list begins with. -/
def leadingZeros (groups : List Nat) : Nat := (groups.takeWhile (· == 0)).length

/-- The first longest row of zero groups, as its place and length. -/
def longestZeros (groups : List Nat) : Nat × Nat :=
  (List.range groups.length).foldl (fun best i =>
    let n := leadingZeros (groups.drop i)
    if best.2 < n then (i, n) else best) (0, 0)

/-- Groups in hexadecimal digits, with colons between them. -/
def hexGroups (groups : List Nat) : String :=
  String.intercalate ":" (groups.map fun n => String.ofList (Nat.toDigits 16 n))

/-- **An IPv6 address** with its longest row of at least two zero groups left out. -/
def writeIpv6 (groups : List Nat) : String :=
  let (i, n) := longestZeros groups
  if n < 2 then hexGroups groups
  else hexGroups (groups.take i) ++ "::" ++ hexGroups (groups.drop (i + n))

end Exposition.Url
