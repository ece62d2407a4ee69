import Exposition.Proofs.Json.Spelling
import Mathlib.Data.Bool.AllAny
import Mathlib.Data.List.TakeDrop

/-!
# Proofs/Json/Tokens — a text is cut into the tokens that it spells

A token is read whatever follows it (`scanToken_spelled`), unless it is a number, which goes on as
long as it can: all that is asked of the next byte is that it is no part of a longer number.  So a
text is cut into the tokens that it spells (`tokens_of_spelled`).
-/

namespace Exposition.Json

open Text.Utf8 (encode)

/-! ## Numbers -/

/-- The bytes do not begin with one of these. -/
def BeginsWithout (p : UInt8 → Bool) (bytes : List UInt8) : Prop := ∀ b ∈ bytes.head?, p b = false

theorem digit_bytes {d : Char} (digit : d.isDigit) : d.toNat < 0x80
    ∧ isDigitByte (UInt8.ofNat d.toNat) = true ∧ digitChar (UInt8.ofNat d.toNat) = d := by
  have bounds : 48 ≤ d.toNat ∧ d.toNat ≤ 57 := by
    rw [Char.isDigit, Bool.and_eq_true, decide_eq_true_iff, decide_eq_true_iff] at digit
    exact digit
  have byte : (UInt8.ofNat d.toNat).toNat = d.toNat := UInt8.toNat_ofNat_of_lt' (by
    rw [UInt8.size]
    omega)
  refine ⟨by omega, ?_, ?_⟩
  · rw [isDigitByte, Bool.and_eq_true, decide_eq_true_iff, decide_eq_true_iff,
      UInt8.le_iff_toNat_le, UInt8.le_iff_toNat_le, byte]
    exact bounds
  · rw [digitChar, byte, Char.ofNat_toNat]

/-- Digits are read up to where they end. -/
theorem spanDigits_encode {ds : List Char} (digits : ∀ d ∈ ds, d.isDigit) {rest : List UInt8}
    (ends : BeginsWithout isDigitByte rest) : spanDigits (encode ds ++ rest) = (ds, rest) := by
  have bytes : encode ds = ds.map fun d => UInt8.ofNat d.toNat :=
    Text.Utf8.encode_of_ascii fun d mem => (digit_bytes (digits d mem)).1
  have all : ∀ b ∈ ds.map fun d => UInt8.ofNat d.toNat, isDigitByte b = true := by
    rw [List.forall_mem_map]
    exact fun d mem => (digit_bytes (digits d mem)).2.1
  have none : rest.takeWhile isDigitByte = [] ∧ rest.dropWhile isDigitByte = rest := by
    cases rest with
    | nil => exact ⟨rfl, rfl⟩
    | cons b rest =>
      have first : isDigitByte b = false := ends b rfl
      rw [List.takeWhile_cons_of_neg (by simp [first]),
        List.dropWhile_cons_of_neg (by simp [first])]
      exact ⟨rfl, rfl⟩
  have back : (ds.map fun d => UInt8.ofNat d.toNat).map digitChar = ds := by
    rw [List.map_map]
    exact (List.map_congr_left fun d mem => (digit_bytes (digits d mem)).2.2).trans (List.map_id _)
  rw [spanDigits, bytes, List.span_eq_takeWhile_dropWhile, List.takeWhile_append_of_pos all,
    List.dropWhile_append_of_pos all, none.1, none.2, List.append_nil]
  simp only [back]

/-- A byte with which a fraction may begin. -/
def isPoint (b : UInt8) : Bool := b == 0x2E

/-- A byte with which an exponent may begin. -/
def isMark (b : UInt8) : Bool := b == 0x65 || b == 0x45

theorem scanFraction_spelled {fraction : Option (List Char)} {cs : List Char}
    (spelled : FractionSpelled fraction cs) {rest : List UInt8}
    (digit : BeginsWithout isDigitByte rest) (point : BeginsWithout isPoint rest) :
    scanFraction (encode cs ++ rest) = (fraction, rest) := by
  cases spelled with
  | none =>
    cases rest with
    | nil => rfl
    | cons b rest =>
      have other : (b == 0x2E) = false := point b rfl
      change scanFraction (b :: rest) = _
      rw [scanFraction, other]
      rfl
  | @some ds digits =>
    obtain ⟨nonempty, digits⟩ := digits
    obtain ⟨d, ds, rfl⟩ := List.exists_cons_of_ne_nil nonempty
    change scanFraction (0x2E :: (encode (d :: ds) ++ rest)) = _
    rw [scanFraction, spanDigits_encode digits digit]
    rfl

section Exponent

variable {b : UInt8} {more rest : List UInt8} {d : Char} {ds : List Char}

theorem scanExponent_of_bare {s : UInt8} (mark : isMark b = true) (minus : s ≠ 0x2D)
    (plus : s ≠ 0x2B) (span : spanDigits (s :: more) = (d :: ds, rest)) :
    scanExponent (b :: s :: more) = (some (false, d :: ds), rest) := by
  rw [isMark] at mark
  rw [scanExponent.eq_def]
  simp [mark, minus, plus, span]

theorem scanExponent_of_signed (mark : isMark b = true) (negative : Bool)
    (span : spanDigits more = (d :: ds, rest)) :
    scanExponent (b :: (if negative then 0x2D else 0x2B) :: more)
      = (some (negative, d :: ds), rest) := by
  rw [isMark] at mark
  rw [scanExponent.eq_def]
  cases negative with
  | _ => simp [mark, span]

theorem mark_byte {m : Char} (mark : m ∈ ['e', 'E']) : m.toNat < 0x80
    ∧ isMark (UInt8.ofNat m.toNat) = true := by
  rw [List.mem_cons, List.mem_singleton] at mark
  rcases mark with rfl | rfl
  · decide
  · decide

theorem scanExponent_spelled {exponent : Option (Bool × List Char)} {cs : List Char}
    (spelled : ExponentSpelled exponent cs) (digit : BeginsWithout isDigitByte rest)
    (mark : BeginsWithout isMark rest) : scanExponent (encode cs ++ rest) = (exponent, rest) := by
  cases spelled with
  | none =>
    cases rest with
    | nil => rfl
    | cons b rest =>
      have other : (b == 0x65 || b == 0x45) = false := mark b rfl
      change scanExponent (b :: rest) = _
      rw [scanExponent.eq_def]
      simp only [other]
      rfl
  | @bare m ds letter digits =>
    obtain ⟨nonempty, digits⟩ := digits
    obtain ⟨d, ds, rfl⟩ := List.exists_cons_of_ne_nil nonempty
    obtain ⟨small, isDigit, -⟩ := digit_bytes (digits d List.mem_cons_self)
    have span := spanDigits_encode digits digit
    rw [Text.Utf8.encode_cons m, Text.Utf8.utf8EncodeChar_of_ascii (mark_byte letter).1]
    rw [Text.Utf8.encode_cons d, Text.Utf8.utf8EncodeChar_of_ascii small] at span ⊢
    refine scanExponent_of_bare (mark_byte letter).2 ?_ ?_ span
    all_goals
      intro same
      exact absurd (same ▸ isDigit) (by decide)
  | @signed m negative ds letter digits =>
    obtain ⟨nonempty, digits⟩ := digits
    obtain ⟨d, ds, rfl⟩ := List.exists_cons_of_ne_nil nonempty
    have sign : encode ((if negative then '-' else '+') :: d :: ds)
        = (if negative then 0x2D else 0x2B) :: encode (d :: ds) := by
      cases negative with
      | _ => rfl
    rw [Text.Utf8.encode_cons m, Text.Utf8.utf8EncodeChar_of_ascii (mark_byte letter).1, sign]
    exact scanExponent_of_signed (mark_byte letter).2 negative (spanDigits_encode digits digit)

end Exponent

/-! What comes after the digits of a number is told apart by its first byte. -/

/-- A byte with which more of a number may come. -/
def goesOn (b : UInt8) : Bool := isDigitByte b || isPoint b || isMark b

theorem beginsWithout_of_goesOn {bytes : List UInt8} (ends : BeginsWithout goesOn bytes) :
    BeginsWithout isDigitByte bytes ∧ BeginsWithout isPoint bytes ∧ BeginsWithout isMark bytes := by
  have each (b : UInt8) (head : b ∈ bytes.head?) :
      (isDigitByte b = false ∧ isPoint b = false) ∧ isMark b = false := by
    rw [← Bool.or_eq_false_iff, ← Bool.or_eq_false_iff]
    exact ends b head
  exact ⟨fun b head => (each b head).1.1, fun b head => (each b head).1.2,
    fun b head => (each b head).2⟩

theorem beginsWithout_encode_cons {p : UInt8 → Bool} {c : Char} (small : c.toNat < 0x80)
    (other : p (UInt8.ofNat c.toNat) = false) (cs : List Char) (rest : List UInt8) :
    BeginsWithout p (encode (c :: cs) ++ rest) := by
  intro b head
  rw [Text.Utf8.encode_cons, Text.Utf8.utf8EncodeChar_of_ascii small] at head
  obtain rfl : UInt8.ofNat c.toNat = b := Option.some.inj head
  exact other

theorem beginsWithout_exponent {p : UInt8 → Bool} (letters : p 0x65 = false ∧ p 0x45 = false)
    {exponent : Option (Bool × List Char)} {cs : List Char} (spelled : ExponentSpelled exponent cs)
    {rest : List UInt8} (ends : BeginsWithout p rest) : BeginsWithout p (encode cs ++ rest) := by
  have first {m : Char} (letter : m ∈ ['e', 'E']) : p (UInt8.ofNat m.toNat) = false := by
    simp only [List.mem_cons, List.not_mem_nil, or_false] at letter
    rcases letter with rfl | rfl
    · exact letters.1
    · exact letters.2
  cases spelled with
  | none => exact ends
  | bare letter _ => exact beginsWithout_encode_cons (mark_byte letter).1 (first letter) _ _
  | signed letter _ => exact beginsWithout_encode_cons (mark_byte letter).1 (first letter) _ _

theorem beginsWithout_fraction {fraction : Option (List Char)} {cs : List Char}
    (spelled : FractionSpelled fraction cs) {rest : List UInt8}
    (ends : BeginsWithout isDigitByte rest) : BeginsWithout isDigitByte (encode cs ++ rest) := by
  cases spelled with
  | none => exact ends
  | some _ => exact beginsWithout_encode_cons (by decide) (by decide) _ _

/-- **A number is read as it was written**, up to where no more of it can come. -/
theorem scanNumber_spelled {n : Number} {cs : List Char} (spelled : NumberSpelled n cs)
    {rest : List UInt8} (ends : BeginsWithout goesOn rest) : ∃ d ds,
      cs = (if n.negative then ['-'] else []) ++ d :: ds ∧ d.isDigit
      ∧ scanNumber n.negative (encode (d :: ds) ++ rest) = some (n, rest) := by
  obtain @⟨fraction, exponent, whole, zero, hfraction, hexponent⟩ := spelled
  obtain ⟨d, ds, cons⟩ := List.exists_cons_of_ne_nil whole.1
  obtain ⟨digit, point, mark⟩ := beginsWithout_of_goesOn ends
  have afterExponent : scanExponent (encode exponent ++ rest) = (n.exponent, rest) :=
    scanExponent_spelled hexponent digit mark
  have digit' := beginsWithout_exponent (by decide) hexponent digit
  have point' := beginsWithout_exponent (by decide) hexponent point
  have afterFraction : scanFraction (encode fraction ++ (encode exponent ++ rest))
      = (n.fraction, encode exponent ++ rest) := scanFraction_spelled hfraction digit' point'
  have afterWhole := spanDigits_encode whole.2 (beginsWithout_fraction hfraction digit')
  have single : ¬ (d = '0' ∧ ds ≠ []) := by
    rintro ⟨rfl, more⟩
    have alone := zero (cons ▸ rfl)
    rw [cons] at alone
    exact more (List.cons.inj alone).2
  refine ⟨d, ds ++ fraction ++ exponent, by simp [cons], whole.2 d (cons ▸ List.mem_cons_self), ?_⟩
  have parts : encode (d :: (ds ++ fraction ++ exponent)) ++ rest
      = encode n.whole ++ (encode fraction ++ (encode exponent ++ rest)) := by
    simp only [cons, ← List.append_assoc, ← Text.Utf8.encode_append, List.cons_append]
  rw [parts, scanNumber, afterWhole, cons]
  simp only [if_neg single, afterFraction, afterExponent, ← cons]

/-! ## Tokens -/

/-- The bytes are cut into these tokens if there is a step for each byte. -/
def Lexes (bytes : List UInt8) (ts : List Token) : Prop :=
  ∀ fuel, bytes.length ≤ fuel → tokensWithin fuel bytes = some ts

theorem lexes_nil : Lexes [] [] := fun fuel _ => by
  cases fuel with
  | _ => rfl

theorem Lexes.gap {b : UInt8} {rest : List UInt8} {ts : List Token} (blank : isGap b = true)
    (lexes : Lexes rest ts) : Lexes (b :: rest) ts := fun fuel enough => by
  cases fuel with
  | zero => exact absurd enough (by simp)
  | succ fuel =>
    rw [tokensWithin, if_pos blank]
    exact lexes fuel (Nat.le_of_succ_le_succ enough)

theorem Lexes.token {b : UInt8} {more rest : List UInt8} {t : Token} {ts : List Token}
    (solid : isGap b = false) (scan : scanToken b more = some (t, rest)) (left : rest <:+ more)
    (lexes : Lexes rest ts) : Lexes (b :: more) (t :: ts) := fun fuel enough => by
  cases fuel with
  | zero => exact absurd enough (by simp)
  | succ fuel =>
    have steps : rest.length ≤ fuel := Nat.le_trans left.length_le (Nat.le_of_succ_le_succ enough)
    rw [tokensWithin, solid, scan]
    simp [lexes fuel steps]

/-- A digit begins a number. -/
theorem scanToken_digit {b : UInt8} (digit : isDigitByte b = true) (rest : List UInt8) :
    isGap b = false ∧ scanToken b rest
      = (scanNumber false (b :: rest)).map fun (n, rest) => (.number n, rest) := by
  have other {c : UInt8} (no : isDigitByte c = false) : (b == c) = false := beq_false_of_ne <| by
    rintro rfl
    exact absurd digit (by simp [no])
  constructor
  · rw [isGap, other (by decide), other (by decide), other (by decide), other (by decide)]
    rfl
  · rw [scanToken, other (by decide), other (by decide), other (by decide), other (by decide),
      other (by decide), other (by decide), other (by decide), other (by decide)]
    simp only [digit, if_true, Bool.false_eq_true, if_false]

/-- **A spelled token is read**, whatever follows it. -/
theorem scanToken_spelled {t : Token} {cs : List Char} (spelled : TokenSpelled t cs)
    {rest : List UInt8} (ends : ∀ n, t = .number n → BeginsWithout goesOn rest) : ∃ b more,
      encode cs ++ rest = b :: more ∧ isGap b = false ∧ scanToken b more = some (t, rest)
        ∧ rest <:+ more := by
  cases spelled with
  | openArray => exact ⟨_, _, rfl, by decide, rfl, List.suffix_rfl⟩
  | closeArray => exact ⟨_, _, rfl, by decide, rfl, List.suffix_rfl⟩
  | openObject => exact ⟨_, _, rfl, by decide, rfl, List.suffix_rfl⟩
  | closeObject => exact ⟨_, _, rfl, by decide, rfl, List.suffix_rfl⟩
  | comma => exact ⟨_, _, rfl, by decide, rfl, List.suffix_rfl⟩
  | colon => exact ⟨_, _, rfl, by decide, rfl, List.suffix_rfl⟩
  | null => exact ⟨_, _, rfl, by decide, rfl, List.suffix_append [_, _, _] _⟩
  | true => exact ⟨_, _, rfl, by decide, rfl, List.suffix_append [_, _, _] _⟩
  | false => exact ⟨_, _, rfl, by decide, rfl, List.suffix_append [_, _, _, _] _⟩
  | @number n cs spelled =>
    obtain ⟨d, ds, rfl, digit, scan⟩ := scanNumber_spelled spelled (ends n rfl)
    cases sign : n.negative with
    | true =>
      rw [sign] at scan
      refine ⟨0x2D, encode (d :: ds) ++ rest, rfl, by decide, ?_, List.suffix_append _ _⟩
      change (scanNumber true _).map _ = _
      rw [scan]
      rfl
    | false =>
      obtain ⟨small, isDigit, -⟩ := digit_bytes digit
      have bytes : encode (d :: ds) ++ rest = UInt8.ofNat d.toNat :: (encode ds ++ rest) := by
        rw [Text.Utf8.encode_cons, Text.Utf8.utf8EncodeChar_of_ascii small]
        rfl
      obtain ⟨solid, token⟩ := scanToken_digit isDigit (encode ds ++ rest)
      rw [sign, bytes] at scan
      refine ⟨_, _, bytes, solid, ?_, List.suffix_append _ _⟩
      rw [token, scan]
      rfl
  | @string s cs spelled =>
    obtain ⟨pieces, scan, text⟩ := scanString_spelled spelled rest
    refine ⟨0x22, encode cs ++ 0x22 :: rest, ?_, by decide, ?_, encode cs ++ [0x22], by simp⟩
    · rw [Text.Utf8.encode_cons, Text.Utf8.encode_append, List.append_assoc, List.append_assoc]
      rfl
    · change (scanString _).map _ = _
      rw [scan]
      exact congrArg (fun text => some (Token.string text, rest)) text

/-! ## Texts -/

theorem lexes_blanks {cs : List Char} (blanks : IsBlanks cs) {rest : List UInt8} {ts : List Token}
    (lexes : Lexes rest ts) : Lexes (encode cs ++ rest) ts := by
  induction cs with
  | nil => exact lexes
  | cons c cs ih =>
    have gap : ∀ c ∈ [' ', '\t', '\n', '\r'],
        c.toNat < 0x80 ∧ isGap (UInt8.ofNat c.toNat) = true :=
      List.all_iff_forall_prop.1 (by decide)
    obtain ⟨small, blank⟩ := gap c (blanks c List.mem_cons_self)
    rw [Text.Utf8.encode_cons, Text.Utf8.utf8EncodeChar_of_ascii small]
    exact (ih fun d mem => blanks d (.tail _ mem)).gap blank

/-- What ends a number in a text ends it in its bytes. -/
theorem beginsWithout_goesOn {cs : List Char} (ends : ∀ c ∈ cs.head?, EndsNumber c) :
    BeginsWithout goesOn (encode cs) := by
  cases cs with
  | nil => exact fun b head => absurd head (by simp [encode])
  | cons c cs =>
    obtain ⟨digit, sign⟩ := ends c rfl
    by_cases small : c.toNat < 0x80
    · have same : ∀ n < 0x80, goesOn (UInt8.ofNat n)
          = ((Char.ofNat n).isDigit || ['.', 'e', 'E'].contains (Char.ofNat n)) := by decide
      have other : goesOn (UInt8.ofNat c.toNat) = false := by
        rw [same _ small, Char.ofNat_toNat, Bool.or_eq_false_iff]
        exact ⟨by simpa using digit, by simpa using sign⟩
      rw [← List.append_nil (encode _)]
      exact beginsWithout_encode_cons small other cs []
    · intro b head
      have mem : b ∈ String.utf8EncodeChar c := by
        obtain ⟨b', more, bytes, -⟩ := Text.Utf8.start_utf8EncodeChar c []
        rw [Text.Utf8.encode_cons, bytes] at head
        obtain rfl : b' = b := Option.some.inj head
        exact bytes ▸ List.mem_cons_self
      have large := Text.Utf8.le_of_mem_utf8EncodeChar (Nat.le_of_not_lt small) mem
      simp only [goesOn, isDigitByte, isPoint, isMark, UInt8.le_iff_toNat_le, Bool.or_eq_false_iff,
        Bool.and_eq_false_iff, decide_eq_false_iff_not, beq_eq_false_iff_ne, ne_eq,
        ← UInt8.toNat_inj]
      simp only [UInt8.reduceToNat]
      omega

theorem lexes_of_spelled {ts : List Token} {cs : List Char} (spelled : Spelled ts cs) :
    Lexes (encode cs) ts := by
  induction spelled with
  | nil blanks =>
    rw [← List.append_nil (encode _)]
    exact lexes_blanks blanks lexes_nil
  | cons blanks token ends _ ih =>
    obtain ⟨b, more, bytes, solid, scan, left⟩ :=
      scanToken_spelled token fun n number => beginsWithout_goesOn (ends n number)
    rw [Text.Utf8.encode_append, Text.Utf8.encode_append, List.append_assoc, bytes]
    exact lexes_blanks blanks (ih.token solid scan left)

/-- **A text is cut into the tokens that it spells.** -/
theorem tokens_of_spelled {ts : List Token} {cs : List Char} (spelled : Spelled ts cs) :
    tokens (encode cs) = some ts := lexes_of_spelled spelled _ (Nat.le_refl _)

end Exposition.Json
