import Exposition.Url.Form
import Exposition.Proofs.Text.Split
import Exposition.Proofs.Url.Percent

/-!
# Proofs/Url/Form — names and values read from a query

A query is cut at every `&`, and each piece at its first `=`; in a name or value a `+` is a space,
and the rest is percent-decoded and read as UTF-8.  This undoes the form encoding, whatever the
names and values hold (`formDecode_formEncode`): neither separator is left in an encoded word, and
a `+` of the word is percent-encoded before the `+` of a space is read.
-/

namespace Exposition.Url

open Text

/-! ## The rule for reading -/

/-- A `+` in a query is a space. -/
def unplus (c : Char) : Char := if c = '+' then ' ' else c

/-- A name or value in a query, decoded. -/
def formWord (cs : List Char) : String :=
  String.ofList (Utf8.decodeLossy (percentDecode (cs.map unplus)))

/-- A name and its value in a query; without a `=` there is no value. -/
def readPair (piece : List Char) : String × String :=
  let (name, value) := splitAtFirst (· == '=') piece
  (formWord name, formWord (value.getD []))

/-- **The names and values of a query**; empty pieces do not count. -/
def formDecode (query : List Char) : List (String × String) :=
  ((splitEvery (· == '&') query).filter (!·.isEmpty)).map readPair

/-! ## Words -/

/-! No sign with a meaning of its own is left in an encoded word, and no `+` but that of a space. -/

theorem mem_formChar {c d : Char} (mem : d ∈ formChar c) : d = '%' ∨ d = '+' ∨ isPlain d := by
  rw [formChar] at mem
  split_ifs at mem with plain space
  · rw [List.mem_singleton] at mem
    exact .inr (.inr (mem ▸ plain))
  · rw [List.mem_singleton] at mem
    exact .inr (.inl mem)
  · obtain ⟨b, -, mem⟩ := List.mem_flatMap.1 mem
    rcases mem_percentByte mem with sign | alphanumeric
    · exact .inl sign
    · exact .inr (.inr (by simp [isPlain, alphanumeric]))

/-- No separator is left in an encoded word. -/
theorem ne_of_mem_formText {s : String} {d : Char} (mem : d ∈ formText s) : d ≠ '&' ∧ d ≠ '=' := by
  obtain ⟨c, -, mem⟩ := List.mem_flatMap.1 mem
  rcases mem_formChar mem with rfl | rfl | plain
  · decide
  · decide
  · constructor
    · rintro rfl
      exact absurd plain (by decide)
    · rintro rfl
      exact absurd plain (by decide)

theorem map_unplus_percentByte (b : UInt8) : (percentByte b).map unplus = percentByte b := by
  refine (List.map_congr_left fun c mem => if_neg fun plus => ?_).trans (List.map_id _)
  rcases mem_percentByte mem with sign | alphanumeric
  · exact absurd (plus.symm.trans sign) (by decide)
  · exact absurd (plus ▸ alphanumeric) (by decide)

theorem map_unplus_percentBytes (bytes : List UInt8) :
    (bytes.flatMap percentByte).map unplus = bytes.flatMap percentByte := by
  rw [List.map_flatMap]
  exact congrArg (bytes.flatMap ·) (funext map_unplus_percentByte)

/-- **An encoded character is read as its bytes.** -/
theorem percentDecode_formChar (c : Char) (rest : List Char) :
    percentDecode ((formChar c).map unplus ++ rest)
      = String.utf8EncodeChar c ++ percentDecode rest := by
  rw [formChar]
  split_ifs with plain space
  · have sign : c ≠ '%' := by
      rintro rfl
      exact absurd plain (by decide)
    have plus : c ≠ '+' := by
      rintro rfl
      exact absurd plain (by decide)
    rw [List.map_singleton, unplus, if_neg plus, List.singleton_append, percentDecode_cons sign]
  · subst space
    exact percentDecode_cons (by decide) rest
  · rw [map_unplus_percentBytes, percentDecode_percentBytes]

theorem percentDecode_formChars (cs : List Char) :
    percentDecode ((cs.flatMap formChar).map unplus) = Utf8.encode cs := by
  induction cs with
  | nil => exact percentDecode_nil
  | cons c cs ih =>
    rw [List.flatMap_cons, List.map_append, percentDecode_formChar, ih, Utf8.encode_cons]

/-- **A word is read as it was**, whatever it holds. -/
theorem formWord_formText (s : String) : formWord (formText s) = s := by
  rw [formWord, formText, percentDecode_formChars, Utf8.decodeLossy_encode, String.ofList_toList]

/-! ## Whole queries -/

theorem readPair_formPair (pair : String × String) : readPair (formPair pair) = pair := by
  have whole : ∀ c ∈ formText pair.1, (c == '=') = false := fun c mem =>
    beq_false_of_ne (ne_of_mem_formText mem).2
  rw [readPair, formPair, splitAtFirst_append_cons whole rfl]
  exact Prod.ext (formWord_formText pair.1) (formWord_formText pair.2)

theorem ne_of_mem_formPair {pair : String × String} {c : Char} (mem : c ∈ formPair pair) :
    c ≠ '&' := by
  rw [formPair, List.mem_append, List.mem_cons] at mem
  rcases mem with mem | rfl | mem
  · exact (ne_of_mem_formText mem).1
  · decide
  · exact (ne_of_mem_formText mem).1

/-- **Reading undoes the form encoding**: the same names and values in the same order. -/
theorem formDecode_formEncode (pairs : List (String × String)) :
    formDecode (formEncode pairs).toList = pairs := by
  rw [formEncode, String.toList_ofList, formDecode]
  cases pairs with
  | nil => rfl
  | cons pair pairs =>
    have whole : ∀ piece ∈ (pair :: pairs).map formPair, ∀ c ∈ piece, (c == '&') = false := by
      intro piece mem c hc
      obtain ⟨q, -, rfl⟩ := List.mem_map.1 mem
      exact beq_false_of_ne (ne_of_mem_formPair hc)
    have some : ∀ piece ∈ (pair :: pairs).map formPair, (!piece.isEmpty) = true := by
      intro piece mem
      obtain ⟨q, -, rfl⟩ := List.mem_map.1 mem
      simp [formPair]
    rw [splitEvery_intercalate rfl whole (by simp), List.filter_eq_self.2 some, List.map_map]
    exact List.map_id'' readPair_formPair _

/-- **Names and values are known by their encoding.** -/
theorem formEncode_inj {pairs pairs' : List (String × String)} :
    formEncode pairs = formEncode pairs' ↔ pairs = pairs' := by
  constructor
  · intro same
    rw [← formDecode_formEncode pairs, same, formDecode_formEncode]
  · exact congrArg formEncode

end Exposition.Url
