import Exposition.Proofs.Json.Reading
import Exposition.Proofs.Text.Numeral
import Mathlib.Data.Bool.AllAny

/-!
# Proofs/Json/Writing — what is written is read as it was

The compact form is one of the spellings of a value (`spells_written`), so reading undoes writing
(`read_written`).  That asks for values which can be written at all: their strings are texts, and
their numbers are well formed.
-/

namespace Exposition.Json

open Text.Utf8 (encode)

/-! ## Values that can be written -/

/-- Digits, at least one of them. -/
def areDigits (ds : List Char) : Bool := !ds.isEmpty && ds.all Char.isDigit

/-- A well-formed number: digits where there must be some, and no zero before others. -/
def Number.isWellFormed (n : Number) : Bool :=
  areDigits n.whole && (n.whole.head? != some '0' || n.whole == ['0'])
    && n.fraction.all areDigits && n.exponent.all fun (_, ds) => areDigits ds

mutual

/-- All strings of a value are texts, and its numbers are well formed. -/
def isWritable : Json → Bool
  | .null => true
  | .bool _ => true
  | .number n => n.isWellFormed
  | .string text => text.isSome
  | .array items => areWritable items
  | .object fields => areWritableFields fields

/-- `isWritable` of every item. -/
def areWritable : List Json → Bool
  | [] => true
  | v :: vs => isWritable v && areWritable vs

/-- `isWritable` of every value, under names that are texts. -/
def areWritableFields : List (Text × Json) → Bool
  | [] => true
  | (name, v) :: fields => name.isSome && isWritable v && areWritableFields fields

end

theorem isWritable_ofInt (n : Int) : (ofInt n).isWritable := by
  have nonempty : Nat.toDigits 10 n.natAbs ≠ [] := Nat.toDigits_ne_nil
  have digits : ∀ d ∈ Nat.toDigits 10 n.natAbs, d.isDigit := fun d =>
    Nat.isDigit_of_mem_toDigits (by decide) (by decide)
  have single : (Nat.toDigits 10 n.natAbs).head? ≠ some '0' ∨ Nat.toDigits 10 n.natAbs = ['0'] := by
    cases all : Nat.toDigits 10 n.natAbs with
    | nil => exact absurd all nonempty
    | cons d ds =>
      by_cases zero : d = '0'
      · subst zero
        exact .inr (by rw [Exposition.Text.toDigits_head all])
      · exact .inl (by simpa using zero)
  simp only [ofInt, isWritable, Number.isWellFormed, Option.all_none, Bool.and_true,
    Bool.and_eq_true, Bool.or_eq_true, bne_iff_ne, beq_iff_eq]
  refine ⟨?_, single⟩
  rw [areDigits, Bool.and_eq_true]
  exact ⟨by simp, by simpa using digits⟩

theorem areWritable_of_forall {vs : List Json} (each : ∀ v ∈ vs, v.isWritable) :
    areWritable vs := by
  induction vs with
  | nil => rfl
  | cons v vs ih =>
    rw [areWritable, each v List.mem_cons_self, ih fun w mem => each w (List.mem_cons_of_mem _ mem)]
    rfl

/-! ## Tokens -/

theorem isHex_hexDigit {n : Nat} (small : n < 16) : IsHex (hexDigit n) n := ⟨small, .inl rfl⟩

theorem charSpelled_escape (c : Char) : CharSpelled c (escape c) := by
  have named {d : Char} (same : c.toNat = d.toNat) : c = d := Char.toNat_inj.1 same
  rw [escape]
  split_ifs with quote slash b t n f r low
  · exact .short (by rw [quote]; decide)
  · exact .short (by rw [slash]; decide)
  · exact .short (by rw [named (d := '\x08') b]; decide)
  · exact .short (by rw [named (d := '\t') t]; decide)
  · exact .short (by rw [named (d := '\n') n]; decide)
  · exact .short (by rw [named (d := '\x0C') f]; decide)
  · exact .short (by rw [named (d := '\r') r]; decide)
  · have zero : IsHex '0' 0 := isHex_hexDigit (n := 0) (by decide)
    have unit := UnitSpelled.intro zero zero (isHex_hexDigit (n := c.toNat / 16) (by omega))
      (isHex_hexDigit (n := c.toNat % 16) (by omega))
    have value : ((0 * 16 + 0) * 16 + c.toNat / 16) * 16 + c.toNat % 16 = c.toNat := by omega
    rw [value] at unit
    exact .unit unit
  · exact .plain (Nat.le_of_not_lt low) quote slash

theorem textSpelled_escape (cs : List Char) : TextSpelled cs (cs.flatMap escape) := by
  induction cs with
  | nil => exact .nil
  | cons c cs ih =>
    rw [List.flatMap_cons]
    exact .cons (charSpelled_escape c) ih

theorem tokenSpelled_quoted (s : String) : TokenSpelled (.string (some s)) (quoted s) :=
  .string (textSpelled_escape s.toList)

theorem isDigits_of_areDigits {ds : List Char} (digits : areDigits ds = true) : IsDigits ds := by
  rw [areDigits, Bool.and_eq_true] at digits
  exact ⟨by simpa using digits.1, by simpa using digits.2⟩

theorem numberSpelled_written {n : Number} (wellFormed : n.isWellFormed) :
    NumberSpelled n n.written := by
  obtain ⟨negative, whole, fraction, exponent⟩ := n
  simp only [Number.isWellFormed, Bool.and_eq_true, Bool.or_eq_true, bne_iff_ne, beq_iff_eq]
    at wellFormed
  obtain ⟨⟨⟨digits, zero⟩, hfraction⟩, hexponent⟩ := wellFormed
  refine .intro (isDigits_of_areDigits digits) (fun first => zero.resolve_left (absurd first)) ?_ ?_
  · cases fraction with
    | none => exact .none
    | some ds => exact .some (isDigits_of_areDigits hfraction)
  · cases exponent with
    | none => exact .none
    | some exponent => exact .signed (by decide) (isDigits_of_areDigits hexponent)

/-! ## Values -/

variable {ts : List Token} {rest : List Char}

theorem isBlanks_nil : IsBlanks [] := fun _ mem => nomatch mem

/-- A token at the front of a text. -/
theorem Spelled.token {t : Token} {cs : List Char} (spelled : Spelled ts rest)
    (token : TokenSpelled t cs) (ends : ∀ n, t = .number n → ∀ c ∈ rest.head?, EndsNumber c) :
    Spelled (t :: ts) (cs ++ rest) := .cons isBlanks_nil token ends spelled

/-- No number goes on after a sign that closes or separates. -/
theorem endsNumber_cons {c : Char} (sign : c ∈ [',', ']', '\x7d']) (cs : List Char) :
    ∀ d ∈ (c :: cs).head?, EndsNumber d := by
  intro d head
  obtain rfl : c = d := Option.some.inj head
  have signs : ∀ c ∈ [',', ']', '\x7d'], ¬ c.isDigit ∧ c ∉ ['.', 'e', 'E'] :=
    List.all_iff_forall_prop.1 (by decide)
  exact signs c sign

mutual

/-- **The compact form of a value spells it**, at the front of any text that does not go on with a
number. -/
theorem spelled_written : (v : Json) → v.isWritable → (ts : List Token) → (rest : List Char) →
    Spelled ts rest → (∀ c ∈ rest.head?, EndsNumber c) →
    Spelled (v.inTokens ++ ts) (v.written ++ rest)
  | .null, _, _, _, after, _ => after.token .null (by simp)
  | .bool true, _, _, _, after, _ => after.token .true (by simp)
  | .bool false, _, _, _, after, _ => after.token .false (by simp)
  | .number n, writable, _, _, after, ends => by
    rw [written]
    exact after.token (.number (numberSpelled_written writable)) fun _ _ => ends
  | .string none, writable, _, _, _, _ => nomatch writable
  | .string (some s), _, _, _, after, _ => by
    rw [written]
    exact after.token (tokenSpelled_quoted s) (by simp)
  | .array items, writable, ts, rest, after, _ => by
    have close := after.token .closeArray (by simp)
    have inner := spelled_writtenItems items writable _ _ close (endsNumber_cons (by decide) _)
    have whole := inner.token .openArray (by simp)
    rw [inTokens, written]
    simpa using whole
  | .object fields, writable, ts, rest, after, _ => by
    have close := after.token .closeObject (by simp)
    have inner := spelled_writtenFields fields writable _ _ close (endsNumber_cons (by decide) _)
    have whole := inner.token .openObject (by simp)
    rw [inTokens, written]
    simpa using whole

theorem spelled_writtenItems : (items : List Json) → areWritable items → (ts : List Token) →
    (rest : List Char) → Spelled ts rest → (∀ c ∈ rest.head?, EndsNumber c) →
    Spelled (itemTokens items ++ ts) (writtenItems items ++ rest)
  | [], _, _, _, after, _ => after
  | [v], writable, ts, rest, after, ends => by
    rw [areWritable, Bool.and_eq_true] at writable
    have value := spelled_written v writable.1 ts rest after ends
    rw [itemTokens, writtenItems]
    simpa using value
  | v :: w :: vs, writable, ts, rest, after, ends => by
    rw [areWritable, Bool.and_eq_true] at writable
    have more := spelled_writtenItems (w :: vs) writable.2 ts rest after ends
    have value := spelled_written v writable.1 _ _ (more.token .comma (by simp))
      (endsNumber_cons (by decide) _)
    rw [itemTokens, writtenItems]
    simpa using value

theorem spelled_writtenFields : (fields : List (Text × Json)) → areWritableFields fields →
    (ts : List Token) → (rest : List Char) → Spelled ts rest → (∀ c ∈ rest.head?, EndsNumber c) →
    Spelled (fieldTokens fields ++ ts) (writtenFields fields ++ rest)
  | [], _, _, _, after, _ => after
  | (none, _) :: _, writable, _, _, _, _ => nomatch writable
  | [(some name, v)], writable, ts, rest, after, ends => by
    simp only [areWritableFields, Bool.and_eq_true] at writable
    have value := spelled_written v writable.1.2 ts rest after ends
    have field := (value.token .colon (by simp)).token (tokenSpelled_quoted name) (by simp)
    rw [fieldTokens, writtenFields]
    simpa using field
  | (some name, v) :: f :: fields, writable, ts, rest, after, ends => by
    rw [areWritableFields, Bool.and_eq_true, Bool.and_eq_true] at writable
    have more := spelled_writtenFields (f :: fields) writable.2 ts rest after ends
    have value := spelled_written v writable.1.2 _ _ (more.token .comma (by simp))
      (endsNumber_cons (by decide) _)
    have field := (value.token .colon (by simp)).token (tokenSpelled_quoted name) (by simp)
    rw [fieldTokens, writtenFields]
    simpa using field

end

theorem spells_written {v : Json} (writable : v.isWritable) : v.Spells v.written := by
  have whole := spelled_written v writable [] [] (.nil isBlanks_nil) fun _ head => nomatch head
  rwa [List.append_nil, List.append_nil] at whole

/-- **What is written is read as it was.** -/
theorem read_written {v : Json} (writable : v.isWritable) : read (encode v.written) = some v :=
  read_of_spells (spells_written writable)

end Exposition.Json
