import Exposition.Url.Form
import Exposition.Proofs.Text.Utf8

/-!
# Proofs/Url/Percent — percent-encoding and decoding

Encoded bytes are decoded to themselves (`percentDecode_percentBytes`), and encoding brings in
nothing but percent signs and hexadecimal digits (`mem_percentEncode`).  A character of ASCII that
has no part in an encoded byte outlasts decoding (`mem_percentDecode`).
-/

namespace Exposition.Url

open Text

/-! ## Decoding -/

theorem percentDecode_nil : percentDecode [] = [] := by rw [percentDecode]

/-- A character that begins no encoded byte stands for itself. -/
theorem percentDecode_cons {c : Char} (plain : c ≠ '%') (rest : List Char) :
    percentDecode (c :: rest) = String.utf8EncodeChar c ++ percentDecode rest := by
  rw [percentDecode]
  intro a b rest' sign
  exact absurd sign plain

theorem hexValue_hexDigit {n : Nat} (small : n < 16) : hexValue (hexDigit n) = some n := by
  revert n
  decide

/-- **A percent-encoded byte is read as that byte.** -/
theorem percentDecode_percentByte (b : UInt8) (rest : List Char) :
    percentDecode (percentByte b ++ rest) = b :: percentDecode rest := by
  have bound : b.toNat < 256 := b.toNat_lt
  have byte : UInt8.ofNat (16 * (b.toNat / 16) + b.toNat % 16) = b := by
    rw [Nat.div_add_mod, UInt8.ofNat_toNat]
  rw [percentByte, List.cons_append, List.cons_append, List.singleton_append, percentDecode,
    hexValue_hexDigit (by omega), hexValue_hexDigit (by omega)]
  exact congrArg (· :: percentDecode rest) byte

theorem percentDecode_percentBytes (bytes : List UInt8) (rest : List Char) :
    percentDecode (bytes.flatMap percentByte ++ rest) = bytes ++ percentDecode rest := by
  induction bytes with
  | nil => rfl
  | cons b bytes ih =>
    rw [List.flatMap_cons, List.append_assoc, percentDecode_percentByte, ih, List.cons_append]

/-- **A character that is part of no encoded byte** is decoded to itself. -/
theorem mem_percentDecode {cs : List Char} {c : Char} (mem : c ∈ cs) (sign : c ≠ '%')
    (digit : hexValue c = none) (small : c.toNat < 0x80) :
    UInt8.ofNat c.toNat ∈ percentDecode cs := by
  fun_induction percentDecode cs with
  | case1 a b rest m n low high ih =>
    have notHigh : c ≠ a := by
      rintro rfl
      exact absurd (digit.symm.trans high) (by simp)
    have notLow : c ≠ b := by
      rintro rfl
      exact absurd (digit.symm.trans low) (by simp)
    simp only [List.mem_cons, sign, notHigh, notLow, false_or] at mem
    exact List.mem_cons_of_mem _ (ih mem)
  | case2 a b rest other ih =>
    rcases List.mem_cons.1 mem with here | later
    · exact absurd here sign
    · exact List.mem_cons_of_mem _ (ih later)
  | case3 d rest other ih =>
    rcases List.mem_cons.1 mem with rfl | later
    · rw [Utf8.utf8EncodeChar_of_ascii small]
      exact List.mem_append_left _ List.mem_cons_self
    · exact List.mem_append_right _ (ih later)
  | case4 => exact absurd mem List.not_mem_nil

/-! ## Encoding -/

theorem hexDigit_isAlphanum {n : Nat} (small : n < 16) : (hexDigit n).isAlphanum = true := by
  revert n
  decide

theorem mem_percentByte {b : UInt8} {c : Char} (mem : c ∈ percentByte b) :
    c = '%' ∨ c.isAlphanum = true := by
  have bound : b.toNat < 256 := b.toNat_lt
  rw [percentByte] at mem
  simp only [List.mem_cons, List.not_mem_nil, or_false] at mem
  rcases mem with rfl | rfl | rfl
  · exact .inl rfl
  · exact .inr (hexDigit_isAlphanum (by omega))
  · exact .inr (hexDigit_isAlphanum (by omega))

theorem percentEncode_of_plain {set : Char → Bool} {cs : List Char}
    (plain : ∀ c ∈ cs, set c = false) : percentEncode set cs = cs := by
  rw [percentEncode]
  induction cs with
  | nil => rfl
  | cons c cs ih =>
    rw [List.flatMap_cons, ih fun d mem => plain d (List.mem_cons_of_mem c mem),
      if_neg (by simp [plain c List.mem_cons_self]), List.singleton_append]

/-- What encoding brings in. -/
theorem mem_percentEncode {set : Char → Bool} {cs : List Char} {d : Char}
    (mem : d ∈ percentEncode set cs) : d ∈ cs ∨ d = '%' ∨ d.isAlphanum = true := by
  obtain ⟨c, there, mem⟩ := List.mem_flatMap.1 mem
  split at mem
  · obtain ⟨b, -, mem⟩ := List.mem_flatMap.1 mem
    exact .inr (mem_percentByte mem)
  · rw [List.mem_singleton] at mem
    exact .inl (mem ▸ there)

theorem percentEncode_append (set : Char → Bool) (cs ds : List Char) :
    percentEncode set (cs ++ ds) = percentEncode set cs ++ percentEncode set ds :=
  List.flatMap_append

end Exposition.Url
