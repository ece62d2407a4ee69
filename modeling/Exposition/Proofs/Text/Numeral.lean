import Exposition.Text.Numeral
import Mathlib.Data.Nat.Digits.Defs

/-!
# Proofs/Text/Numeral — numbers and their digits

The digits of a number write that number and no other, also if zeros fill them up to some width.
Where numbers have bounds, a number within them is read back from its digits.
-/

namespace Exposition.Text

theorem digitsValue_toDigits (n : Nat) : digitsValue (Nat.toDigits 10 n) = n :=
  Nat.ofDigitChars_ten_toDigits

/-- **A number is known by its digits.** -/
theorem decimal_inj {m n : Nat} : decimal m = decimal n ↔ m = n := by
  constructor
  · intro same
    have digits : Nat.toDigits 10 m = Nat.toDigits 10 n := String.ofList_injective same
    rw [← digitsValue_toDigits m, digits, digitsValue_toDigits]
  · exact congrArg decimal

/-! ## Rows of digits -/

theorem digitsValue_append (ds es : List Char) :
    digitsValue (ds ++ es) = digitsValue ds * 10 ^ es.length + digitsValue es := by
  have joined : digitsValue (ds ++ es) = Nat.ofDigitChars 10 es (digitsValue ds) :=
    Nat.ofDigitChars_append 0
  rw [joined, Nat.ofDigitChars_eq_ofDigitChars_zero, Nat.mul_comm]
  rfl

theorem digitsValue_zeros (k : Nat) : digitsValue (List.replicate k '0') = 0 := by
  induction k with
  | zero => rfl
  | succ k ih => exact ih

theorem digitsValue_lt {ds : List Char} (digits : ∀ d ∈ ds, d.isDigit) :
    digitsValue ds < 10 ^ ds.length := by
  induction ds with
  | nil => exact Nat.one_pos
  | cons d ds ih =>
    have first : digitsValue [d] ≤ 9 := by
      have digit := digits d List.mem_cons_self
      rw [Char.isDigit, Bool.and_eq_true, decide_eq_true_iff, decide_eq_true_iff] at digit
      have bound : d.toNat ≤ 57 := digit.2
      change 10 * 0 + (d.toNat - 48) ≤ 9
      omega
    have rest := ih fun e mem => digits e (List.mem_cons_of_mem _ mem)
    calc digitsValue (d :: ds) = digitsValue [d] * 10 ^ ds.length + digitsValue ds :=
          digitsValue_append [d] ds
      _ < 9 * 10 ^ ds.length + 10 ^ ds.length :=
          Nat.add_lt_add_of_le_of_lt (Nat.mul_le_mul_right _ first) rest
      _ = 10 ^ (d :: ds).length := by
          rw [List.length_cons, Nat.pow_succ]
          omega

/-- The digits of a number do not begin with a zero, unless that is all. -/
theorem toDigits_head {n : Nat} {ds : List Char} (digits : Nat.toDigits 10 n = '0' :: ds) :
    ds = [] := by
  by_contra more
  have value : digitsValue ds = n := by
    have split := digitsValue_append ['0'] ds
    have zero : digitsValue ['0'] = 0 := rfl
    rw [List.singleton_append, ← digits, digitsValue_toDigits, zero] at split
    omega
  have all : ∀ d ∈ ds, d.isDigit := fun d mem =>
    Nat.isDigit_of_mem_toDigits (by decide) (by decide) (digits ▸ List.mem_cons_of_mem _ mem)
  have small : n < 10 ^ ds.length := value ▸ digitsValue_lt all
  have short := (Nat.length_toDigits_le_iff (b := 10) (by decide) (List.length_pos_iff.2 more)).2
    small
  rw [digits, List.length_cons] at short
  omega

/-! ## Reading numbers back -/

theorem readDigits_toDigits (n : Nat) : readDigits (Nat.toDigits 10 n) = some n := by
  have digits : (Nat.toDigits 10 n).all Char.isDigit := List.all_eq_true.2 fun d mem =>
    Nat.isDigit_of_mem_toDigits (by decide) (by decide) mem
  have filled : (Nat.toDigits 10 n).isEmpty = false :=
    List.isEmpty_eq_false_iff.2 Nat.toDigits_ne_nil
  rw [readDigits, digits, filled, digitsValue_toDigits]
  rfl

/-- A row of digits does not begin with anything else. -/
theorem toDigits_ne_cons (n : Nat) {c : Char} (other : c.isDigit = false) (cs : List Char) :
    Nat.toDigits 10 n ≠ c :: cs := by
  intro begins
  have digit : c.isDigit := Nat.isDigit_of_mem_toDigits (b := 10) (by decide) (by decide)
    (begins ▸ List.mem_cons_self)
  exact absurd digit (by simp [other])

/-- **A number is read from its digits.** -/
theorem readNat_decimal {limit n : Nat} (small : n ≤ limit) :
    readNat limit (decimal n).toList = some n := by
  rw [decimal, String.toList_ofList, readNat]
  · rw [readDigits_toDigits, Option.filter_some, if_pos (by simpa using small)]
  · exact toDigits_ne_cons n rfl

/-- **A whole number is read from its digits and its sign.** -/
theorem readInt_decimalInt {limit : Nat} {i : Int} (low : -(limit : Int) - 1 ≤ i)
    (high : i ≤ limit) : readInt limit (decimalInt i).toList = some i := by
  cases i with
  | ofNat n =>
    have small : n ≤ limit := Int.ofNat_le.1 high
    rw [decimalInt, readInt]
    · rw [readNat_decimal small]
      rfl
    · rw [decimal, String.toList_ofList]
      exact toDigits_ne_cons n rfl
  | negSucc n =>
    have small : n + 1 ≤ limit + 1 := by omega
    have spelled : (decimalInt (.negSucc n)).toList = '-' :: Nat.toDigits 10 (n + 1) := by
      rw [decimalInt, String.toList_append, decimal, String.toList_ofList (l := Nat.toDigits ..)]
      rfl
    rw [spelled, readInt, readDigits_toDigits, Option.filter_some, if_pos (by simpa using small)]
    rfl

/-! ## What is read as a number -/

/-- **A text writes a number** up to `limit`: digits of ASCII, with at most one `+` before them. -/
def WritesNat (limit n : Nat) (text : List Char) : Prop :=
  ∃ digits, (text = digits ∨ text = '+' :: digits) ∧ digits ≠ [] ∧ (∀ d ∈ digits, d.isDigit)
    ∧ digitsValue digits = n ∧ n ≤ limit

theorem readDigits_eq_some_iff {ds : List Char} {n : Nat} :
    readDigits ds = some n ↔ ds ≠ [] ∧ (∀ d ∈ ds, d.isDigit) ∧ digitsValue ds = n := by
  rw [readDigits]
  constructor
  · intro read
    split at read
    · next digits =>
      obtain ⟨filled, all⟩ := Bool.and_eq_true_iff.1 digits
      exact ⟨by simpa using filled, List.all_eq_true.1 all, Option.some.inj read⟩
    · exact absurd read (by simp)
  · rintro ⟨filled, all, rfl⟩
    refine if_pos (Bool.and_eq_true_iff.2 ⟨?_, List.all_eq_true.2 all⟩)
    simpa using filled

/-- **Exactly the texts that write a number** are read as it. -/
theorem readNat_eq_some_iff {limit n : Nat} {text : List Char} :
    readNat limit text = some n ↔ WritesNat limit n text := by
  have split (digits : List Char) : (readDigits digits).filter (· ≤ limit) = some n
      ↔ (digits ≠ [] ∧ (∀ d ∈ digits, d.isDigit) ∧ digitsValue digits = n) ∧ n ≤ limit := by
    rw [Option.filter_eq_some_iff, readDigits_eq_some_iff, decide_eq_true_iff]
  unfold readNat
  split
  · next digits =>
    rw [split]
    constructor
    · rintro ⟨⟨filled, all, value⟩, small⟩
      exact ⟨digits, .inr rfl, filled, all, value, small⟩
    · rintro ⟨digits', rfl | same, filled, all, value, small⟩
      · exact absurd (all '+' List.mem_cons_self) (by decide)
      · obtain ⟨-, rfl⟩ := List.cons.inj same
        exact ⟨⟨filled, all, value⟩, small⟩
  · next signless =>
    rw [split]
    constructor
    · rintro ⟨⟨filled, all, value⟩, small⟩
      exact ⟨text, .inl rfl, filled, all, value, small⟩
    · rintro ⟨digits, rfl | signed, filled, all, value, small⟩
      · exact ⟨⟨filled, all, value⟩, small⟩
      · exact absurd signed (signless digits)

theorem writesNat_decimal {limit n : Nat} (small : n ≤ limit) :
    WritesNat limit n (decimal n).toList :=
  readNat_eq_some_iff.1 (readNat_decimal small)

/-! ## Numbers of a width -/

section ZeroPadded

variable (width n : Nat)

theorem toList_zeroPadded : (zeroPadded width n).toList
    = List.replicate (width - (Nat.toDigits 10 n).length) '0' ++ Nat.toDigits 10 n :=
  String.toList_ofList ..

theorem digitsValue_zeroPadded : digitsValue (zeroPadded width n).toList = n := by
  rw [toList_zeroPadded, digitsValue_append, digitsValue_zeros, digitsValue_toDigits]
  omega

theorem isDigit_of_mem_zeroPadded : ∀ d ∈ (zeroPadded width n).toList, d.isDigit := by
  intro d mem
  rw [toList_zeroPadded, List.mem_append] at mem
  rcases mem with zero | digit
  · rw [List.eq_of_mem_replicate zero]
    rfl
  · exact Nat.isDigit_of_mem_toDigits (by decide) (by decide) digit

variable {width n}

/-- A number that is not too large fills its width. -/
theorem length_zeroPadded (positive : 0 < width) (small : n < 10 ^ width) :
    (zeroPadded width n).toList.length = width := by
  have short := (Nat.length_toDigits_le_iff (b := 10) (by decide) positive).2 small
  rw [toList_zeroPadded, List.length_append, List.length_replicate]
  omega

end ZeroPadded

end Exposition.Text
