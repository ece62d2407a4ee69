import Exposition.Json.Token
import Exposition.Json.Writer
import Exposition.Proofs.Text.Utf8

/-!
# Proofs/Json/Spelling — the spellings of JSON tokens

A text **spells** a row of tokens if it consists of theirs, with any blanks between them.  Of all
tokens strings have the most spellings: each character stands for itself, as a short escape, as a
UTF-16 unit, or as two such units.  Whatever the choice, the literal is read as its text
(`scanString_spelled`).
-/

namespace Exposition.Json

open Text.Utf8 (encode)

/-! ## Spellings -/

/-- A hexadecimal digit with its value, as a small or a capital letter. -/
def IsHex (c : Char) (n : Nat) : Prop := n < 16 ∧ (c = hexDigit n ∨ c = (hexDigit n).toUpper)

/-- A UTF-16 unit as an escape. -/
inductive UnitSpelled : Nat → List Char → Prop
  | intro {w x y z : Char} {a b c d : Nat} :
    IsHex w a → IsHex x b → IsHex y c → IsHex z d →
      UnitSpelled (((a * 16 + b) * 16 + c) * 16 + d) ['\\', 'u', w, x, y, z]

/-- The letters of the short escapes, with what they stand for. -/
def shortEscapes : List (Char × Char) :=
  [('"', '"'), ('\\', '\\'), ('/', '/'), ('b', '\x08'), ('f', '\x0C'), ('n', '\n'), ('r', '\r'),
    ('t', '\t')]

/-- **The spellings of a character** inside a string literal. -/
inductive CharSpelled (c : Char) : List Char → Prop
  | plain : 0x20 ≤ c.toNat → c ≠ '"' → c ≠ '\\' → CharSpelled c [c]
  | short {e : Char} : (e, c) ∈ shortEscapes → CharSpelled c ['\\', e]
  | unit {cs : List Char} : UnitSpelled c.toNat cs → CharSpelled c cs
  /-- The two halves of a surrogate pair. -/
  | pair {high low : Nat} {cs ds : List Char} : UnitSpelled high cs → UnitSpelled low ds →
    isHighUnit high → isLowUnit low →
    c.toNat = 0x10000 + (high - 0xD800) * 0x400 + (low - 0xDC00) → CharSpelled c (cs ++ ds)

/-- The spellings of a text inside a string literal, one character after another. -/
inductive TextSpelled : List Char → List Char → Prop
  | nil : TextSpelled [] []
  | cons {c : Char} {cs ds es : List Char} :
    CharSpelled c ds → TextSpelled cs es → TextSpelled (c :: cs) (ds ++ es)

/-- Digits, at least one of them. -/
def IsDigits (ds : List Char) : Prop := ds ≠ [] ∧ ∀ d ∈ ds, d.isDigit

/-- The spellings of a fraction. -/
inductive FractionSpelled : Option (List Char) → List Char → Prop
  | none : FractionSpelled none []
  | some {ds : List Char} : IsDigits ds → FractionSpelled (some ds) ('.' :: ds)

/-- The spellings of an exponent. -/
inductive ExponentSpelled : Option (Bool × List Char) → List Char → Prop
  | none : ExponentSpelled none []
  | bare {mark : Char} {ds : List Char} : mark ∈ ['e', 'E'] → IsDigits ds →
    ExponentSpelled (some (false, ds)) (mark :: ds)
  | signed {mark : Char} {negative : Bool} {ds : List Char} : mark ∈ ['e', 'E'] → IsDigits ds →
    ExponentSpelled (some (negative, ds)) (mark :: (if negative then '-' else '+') :: ds)

/-- **The spellings of a number.**  A zero before the point stands alone. -/
inductive NumberSpelled (n : Number) : List Char → Prop
  | intro {fraction exponent : List Char} : IsDigits n.whole → (n.whole.head? = some '0' →
      n.whole = ['0']) → FractionSpelled n.fraction fraction →
    ExponentSpelled n.exponent exponent →
    NumberSpelled n ((if n.negative then ['-'] else []) ++ n.whole ++ fraction ++ exponent)

/-- **The spellings of a token.** -/
inductive TokenSpelled : Token → List Char → Prop
  | openArray : TokenSpelled .openArray ['[']
  | closeArray : TokenSpelled .closeArray [']']
  | openObject : TokenSpelled .openObject ['\x7b']
  | closeObject : TokenSpelled .closeObject ['\x7d']
  | comma : TokenSpelled .comma [',']
  | colon : TokenSpelled .colon [':']
  | null : TokenSpelled .null ['n', 'u', 'l', 'l']
  | true : TokenSpelled (.bool true) ['t', 'r', 'u', 'e']
  | false : TokenSpelled (.bool false) ['f', 'a', 'l', 's', 'e']
  | number {n : Number} {cs : List Char} : NumberSpelled n cs → TokenSpelled (.number n) cs
  | string {s : String} {cs : List Char} : TextSpelled s.toList cs →
    TokenSpelled (.string (some s)) ('"' :: (cs ++ ['"']))

/-- Blanks between tokens. -/
def IsBlanks (cs : List Char) : Prop := ∀ c ∈ cs, c ∈ [' ', '\t', '\n', '\r']

/-- No number goes on with this character. -/
def EndsNumber (c : Char) : Prop := ¬ c.isDigit ∧ c ∉ ['.', 'e', 'E']

/-- **A text spells a row of tokens.**  A number is spelled in full: what follows it is no part of a
longer one. -/
inductive Spelled : List Token → List Char → Prop
  | nil {blanks : List Char} : IsBlanks blanks → Spelled [] blanks
  | cons {t : Token} {ts : List Token} {blanks cs rest : List Char} : IsBlanks blanks →
    TokenSpelled t cs → (∀ n, t = .number n → ∀ c ∈ rest.head?, EndsNumber c) →
    Spelled ts rest → Spelled (t :: ts) (blanks ++ cs ++ rest)

/-! ## String literals -/

/-- Inside a string literal, the bytes are read as these pieces, whatever follows them. -/
def Scans (bytes : List UInt8) (pieces : List Piece) : Prop :=
  ∀ rest, scanString (bytes ++ rest) = (scanString rest).map (Prod.map (pieces ++ ·) id)

theorem scans_nil : Scans [] [] := fun rest => by
  cases h : scanString rest with
  | none => rw [List.nil_append, h, Option.map_none]
  | some p =>
    rw [List.nil_append, h, Option.map_some]
    rfl

theorem Scans.append {bytes bytes' : List UInt8} {pieces pieces' : List Piece}
    (first : Scans bytes pieces) (second : Scans bytes' pieces') :
    Scans (bytes ++ bytes') (pieces ++ pieces') := fun rest => by
  rw [List.append_assoc, first, second, Option.map_map]
  congr 1
  funext p
  exact Prod.ext (List.append_assoc ..).symm rfl

/-- A byte that is neither a quote, nor a backslash, nor a control stands for itself. -/
theorem scans_byte {b : UInt8} (quote : b.toNat ≠ 0x22) (slash : b.toNat ≠ 0x5C)
    (visible : 0x20 ≤ b.toNat) : Scans [b] [.byte b] := fun rest => by
  have hquote : (b == 0x22) = false := beq_false_of_ne fun same => quote (same ▸ rfl)
  have hslash : (b == 0x5C) = false := beq_false_of_ne fun same => slash (same ▸ rfl)
  have hlow : ¬ b < 0x20 := fun low => Nat.not_lt.2 visible low
  rw [List.singleton_append, scanString.eq_def]
  simp only [hquote, hslash, if_neg hlow, Bool.false_eq_true, if_false]
  cases scanString rest with
  | _ => rfl

theorem scans_bytes {bytes : List UInt8}
    (plain : ∀ b ∈ bytes, b.toNat ≠ 0x22 ∧ b.toNat ≠ 0x5C ∧ 0x20 ≤ b.toNat) :
    Scans bytes (bytes.map .byte) := by
  induction bytes with
  | nil => exact scans_nil
  | cons b bytes ih =>
    obtain ⟨quote, slash, visible⟩ := plain b List.mem_cons_self
    exact (scans_byte quote slash visible).append (ih fun b' mem => plain b' (.tail _ mem))

theorem hexValue_of_isHex {c : Char} {n : Nat} (hex : IsHex c n) :
    hexValue (UInt8.ofNat c.toNat) = some n ∧ c.toNat < 0x80 := by
  obtain ⟨small, rfl | rfl⟩ := hex
  all_goals
    revert n
    decide

theorem scans_unit {n : Nat} {cs : List Char} (spelled : UnitSpelled n cs) :
    Scans (encode cs) [.unit n] := fun rest => by
  obtain @⟨w, x, y, z, _, _, _, _, hw, hx, hy, hz⟩ := spelled
  obtain ⟨vw, sw⟩ := hexValue_of_isHex hw
  obtain ⟨vx, sx⟩ := hexValue_of_isHex hx
  obtain ⟨vy, sy⟩ := hexValue_of_isHex hy
  obtain ⟨vz, sz⟩ := hexValue_of_isHex hz
  have ascii : ∀ c ∈ ['\\', 'u', w, x, y, z], c.toNat < 0x80 := by
    simp only [List.forall_mem_cons]
    exact ⟨by decide, by decide, sw, sx, sy, sz, by simp⟩
  have bytes : encode ['\\', 'u', w, x, y, z] = 0x5C :: 0x75 :: UInt8.ofNat w.toNat ::
      UInt8.ofNat x.toNat :: UInt8.ofNat y.toNat :: UInt8.ofNat z.toNat :: [] :=
    Text.Utf8.encode_of_ascii ascii
  rw [bytes]
  simp only [List.cons_append, List.nil_append]
  rw [scanString.eq_def]
  simp [hexUnit, vw, vx, vy, vz]
  cases scanString rest with
  | _ => rfl

theorem scans_short {e c : Char} (mem : (e, c) ∈ shortEscapes) :
    Scans (encode ['\\', e]) [.byte (UInt8.ofNat c.toNat)] := fun rest => by
  have all : ∀ p ∈ shortEscapes, shortEscape (UInt8.ofNat p.1.toNat) = some (UInt8.ofNat p.2.toNat)
      ∧ encode ['\\', p.1] = [0x5C, UInt8.ofNat p.1.toNat]
      ∧ (UInt8.ofNat p.1.toNat == 0x75) = false := by decide
  obtain ⟨value, bytes, other⟩ := all _ mem
  rw [bytes]
  simp only [List.cons_append, List.nil_append]
  rw [scanString.eq_def]
  simp [value, other]
  cases scanString rest with
  | _ => rfl

/-- The pieces denote these bytes, whatever follows them. -/
def Denotes (pieces : List Piece) (bytes : List UInt8) : Prop :=
  ∀ more, pieceBytes (pieces ++ more) = (bytes ++ ·) <$> pieceBytes more

theorem denotes_bytes (bytes : List UInt8) : Denotes (bytes.map .byte) bytes := fun more => by
  induction bytes with
  | nil => exact (id_map _).symm
  | cons b bytes ih =>
    rw [List.map_cons, List.cons_append, pieceBytes, ih, ← comp_map]
    rfl

theorem denotes_unit {c : Char} :
    Denotes [.unit c.toNat] (String.utf8EncodeChar c) := fun more => by
  have bounds : c.toNat < 0xD800 ∨ 0xDFFF < c.toNat ∧ c.toNat < 0x110000 := c.valid
  have notHigh : isHighUnit c.toNat = false := by
    rw [isHighUnit, Bool.and_eq_false_iff, decide_eq_false_iff_not, decide_eq_false_iff_not]
    omega
  have notLow : isLowUnit c.toNat = false := by
    rw [isLowUnit, Bool.and_eq_false_iff, decide_eq_false_iff_not, decide_eq_false_iff_not]
    omega
  rw [List.singleton_append, pieceBytes.eq_def]
  simp only [notHigh, notLow, Bool.false_eq_true, if_false, Char.ofNat_toNat]

theorem denotes_pair {c : Char} {high low : Nat} (first : isHighUnit high) (second : isLowUnit low)
    (value : c.toNat = 0x10000 + (high - 0xD800) * 0x400 + (low - 0xDC00)) :
    Denotes [.unit high, .unit low] (String.utf8EncodeChar c) := fun more => by
  rw [List.cons_append, List.singleton_append, pieceBytes.eq_def]
  simp only [first, second, if_true, ← value, Char.ofNat_toNat]

/-- **Every spelling of a character is read as that character.** -/
theorem scans_of_charSpelled {c : Char} {cs : List Char} (spelled : CharSpelled c cs) :
    ∃ pieces, Scans (encode cs) pieces ∧ Denotes pieces (String.utf8EncodeChar c) := by
  cases spelled with
  | plain visible quote slash =>
    refine ⟨(String.utf8EncodeChar c).map .byte, ?_, denotes_bytes _⟩
    have bytes : encode [c] = String.utf8EncodeChar c := List.flatMap_singleton ..
    rw [bytes]
    refine scans_bytes fun b mem => ?_
    by_cases small : c.toNat < 0x80
    · rw [Text.Utf8.utf8EncodeChar_of_ascii small, List.mem_singleton] at mem
      have value : b.toNat = c.toNat := by
        rw [mem, UInt8.toNat_ofNat_of_lt' (Nat.lt_trans small (by decide))]
      rw [value]
      refine ⟨fun same => quote ?_, fun same => slash ?_, visible⟩
      · exact Char.toNat_inj.1 same
      · exact Char.toNat_inj.1 same
    · have large := Text.Utf8.le_of_mem_utf8EncodeChar (Nat.le_of_not_lt small) mem
      omega
  | short mem =>
    refine ⟨_, scans_short mem, ?_⟩
    have small : c.toNat < 0x80 := by
      have all : ∀ p ∈ shortEscapes, p.2.toNat < 0x80 := by decide
      exact all _ mem
    rw [Text.Utf8.utf8EncodeChar_of_ascii small]
    exact denotes_bytes [_]
  | unit spelled => exact ⟨_, scans_unit spelled, denotes_unit⟩
  | pair first second isHigh isLow value =>
    refine ⟨_, ?_, denotes_pair isHigh isLow value⟩
    rw [Text.Utf8.encode_append]
    exact (scans_unit first).append (scans_unit second)

theorem scans_of_textSpelled {cs ds : List Char} (spelled : TextSpelled cs ds) :
    ∃ pieces, Scans (encode ds) pieces ∧ Denotes pieces (encode cs) := by
  induction spelled with
  | nil => exact ⟨[], scans_nil, denotes_bytes []⟩
  | cons char _ ih =>
    obtain ⟨pieces, scans, denotes⟩ := scans_of_charSpelled char
    obtain ⟨pieces', scans', denotes'⟩ := ih
    refine ⟨pieces ++ pieces', ?_, fun more => ?_⟩
    · rw [Text.Utf8.encode_append]
      exact scans.append scans'
    · rw [List.append_assoc, denotes, denotes', Text.Utf8.encode_cons, ← comp_map]
      congr 1
      funext bytes
      exact (List.append_assoc ..).symm

/-- A string literal is read as its text. -/
theorem scanString_spelled {s : String} {cs : List Char} (spelled : TextSpelled s.toList cs)
    (rest : List UInt8) : ∃ pieces,
      scanString (encode cs ++ 0x22 :: rest) = some (pieces, rest) ∧ pieceText pieces = some s := by
  obtain ⟨pieces, scans, denotes⟩ := scans_of_textSpelled spelled
  refine ⟨pieces, ?_, ?_⟩
  · have ending : scanString (0x22 :: rest) = some ([], rest) := by
      rw [scanString.eq_def]
      rfl
    rw [scans, ending, Option.map_some, Prod.map, List.append_nil, id]
  · have bytes := denotes []
    rw [List.append_nil] at bytes
    rw [pieceText, bytes]
    simp [pieceBytes, Text.Utf8.decode?_encode]

end Exposition.Json
