/-!
# Url/Punycode — labels of other scripts in ASCII

A label of a domain name with characters outside ASCII is written with its ASCII characters first
and the others as insertions, in order of their code points: each insertion is the distance from
the one before it, counted over all places of the growing label, in digits of a base that adapts.
-/

namespace Exposition.Url.Punycode

/-- A digit: `a` to `z` for 0 to 25, `0` to `9` for 26 to 35. -/
def digit (d : Nat) : Char := Char.ofNat (if d < 26 then 0x61 + d else 0x16 + d)

/-- The value of a digit. -/
def value (c : Char) : Option Nat :=
  let n := c.toLower.toNat
  if 0x61 ≤ n && n ≤ 0x7A then some (n - 0x61)
  else if 0x30 ≤ n && n ≤ 0x39 then some (n - 0x16)
  else none

/-- The least value that a digit at a place of weight class `k` has to reach to be followed by
another. -/
def threshold (k bias : Nat) : Nat := min 26 (max 1 (k - bias))

theorem threshold_pos (k bias : Nat) : 1 ≤ threshold k bias := by simp only [threshold]; omega

/-- Divides by 35 until at most 455 is left, and counts 36 for every division. -/
def shrink (delta k : Nat) : Nat × Nat :=
  if 455 < delta then shrink (delta / 35) (k + 36) else (delta, k)
termination_by delta
decreasing_by omega

/-- The bias after an insertion of a distance into a label that now has `length` characters. -/
def adapt (delta length : Nat) (first : Bool) : Nat :=
  let d := if first then delta / 700 else delta / 2
  let (d, k) := shrink (d + d / length) 0
  k + 36 * d / (d + 38)

/-- A distance in digits, the least significant first. -/
def digits (bias k q : Nat) : List Char :=
  let t := threshold k bias
  if q < t then [digit q]
  else digit (t + (q - t) % (36 - t)) :: digits bias (k + 36) ((q - t) / (36 - t))
termination_by q
decreasing_by
  have := threshold_pos k bias
  have := Nat.div_le_self (q - threshold k bias) (36 - threshold k bias)
  omega

/-- What is known between two insertions. -/
structure State where
  delta : Nat
  bias : Nat
  /-- How many characters are placed. -/
  placed : Nat
  written : List Char

/-- One character of the label while those with code point `n` are inserted. -/
def visit (basic n : Nat) (s : State) (c : Char) : State :=
  if c.toNat < n then { s with delta := s.delta + 1 }
  else if c.toNat = n then
    { delta := 0
      bias := adapt s.delta (s.placed + 1) (s.placed == basic)
      placed := s.placed + 1
      written := s.written ++ digits s.bias 36 s.delta }
  else s

/-- Inserts the characters with each of the code points, given in ascending order from `next` on. -/
def insertAll (label : List Char) (basic : Nat) : List Nat → Nat → State → State
  | [], _, s => s
  | n :: ns, next, s =>
    let s := { s with delta := s.delta + (n - next) * (s.placed + 1) }
    let s := label.foldl (visit basic n) s
    insertAll label basic ns (n + 1) { s with delta := s.delta + 1 }

/-- The code points outside ASCII, ascending and each once. -/
def codePoints (label : List Char) : List Nat :=
  ((label.map Char.toNat).filter (0x80 ≤ ·)).mergeSort.eraseDups

/-- **A label in ASCII**, without the mark that goes before it. -/
def encode (label : List Char) : List Char :=
  let basic := label.filter (·.toNat < 0x80)
  let s := insertAll label basic.length (codePoints label) 0x80 ⟨0, 72, basic.length, []⟩
  basic ++ (if basic.isEmpty then [] else ['-']) ++ s.written

/-- The distance that digits write at the start of a text, and what follows them. -/
def readDistance (bias : Nat) : Nat → Nat → Nat → List Char → Option (Nat × List Char)
  | _, _, _, [] => none
  | k, weight, sum, c :: rest => do
    let d ← value c
    let t := threshold k bias
    if d < t then some (sum + d * weight, rest)
    else readDistance bias (k + 36) (weight * (36 - t)) (sum + d * weight) rest

theorem length_lt_of_readDistance {bias : Nat} :
    ∀ {cs : List Char} {k weight sum q : Nat} {rest : List Char},
      readDistance bias k weight sum cs = some (q, rest) → rest.length < cs.length
  | [], _, _, _, _, _, h => by simp [readDistance] at h
  | c :: cs, k, weight, sum, q, rest, h => by
    simp only [readDistance, Option.bind_eq_bind] at h
    cases hv : value c with
    | none => simp [hv] at h
    | some d =>
      simp only [hv, Option.bind_some] at h
      split at h
      · simp only [Option.some.injEq, Prod.mk.injEq] at h
        simp [h.2]
      · have := length_lt_of_readDistance h
        simp only [List.length_cons]
        omega

/-- Inserts characters into a label as the rest of a text says.  `n` and `i` are the code point and
the place that the last insertion has led to; `first` holds until there is one. -/
def insertFrom (first : Bool) (label : List Char) (bias n i : Nat) (cs : List Char) :
    Option (List Char) :=
  if cs.isEmpty then some label
  else
    match h : readDistance bias 36 1 0 cs with
    | none => none
    | some (q, rest) =>
      have := length_lt_of_readDistance h
      let length := label.length + 1
      let n := n + (i + q) / length
      let i := (i + q) % length
      if n < 0x110000 ∧ (n < 0xD800 ∨ 0xDFFF < n) then
        insertFrom false (label.take i ++ Char.ofNat n :: label.drop i) (adapt q length first) n
          (i + 1) rest
      else none
termination_by cs.length

/-- **The label that a text in ASCII writes.**  The last hyphen, if there is one, ends the
characters that are written as they are. -/
def decode (cs : List Char) : Option (List Char) :=
  let tail := (cs.reverse.takeWhile (· != '-')).reverse
  let basic := (cs.take (cs.length - tail.length)).dropLast
  if cs.all (·.toNat < 0x80) then insertFrom true basic 72 0x80 0 tail else none

end Exposition.Url.Punycode
