import Exposition.Markup
import Exposition.Proofs.Text.Trim
import Mathlib.Data.List.Destutter

/-!
# Proofs/Markup/Tidy — white space in order

A text is **tidy** when it is trimmed, when no line of it ends in a blank and when no two blank
lines follow each other.  Bringing the white space of a trimmed text in order, which goes through
its lines with a flag and ends every one of them, comes to the text made tidy line by line
(`collapse_trim`).
-/

namespace Exposition.Markup

open Text

/-- Of two lines, one after the other, one at least is not empty. -/
def Parted (line next : List Char) : Prop := line ≠ [] ∨ next ≠ []

instance : DecidableRel Parted :=
  fun line next => inferInstanceAs (Decidable (line ≠ [] ∨ next ≠ []))

/-- **The text made tidy**: it is trimmed, then each of its lines at the end, and of several blank
lines in a row the first is left. -/
def tidy (cs : List Char) : List Char :=
  List.intercalate ['\n'] ((((trim cs).splitOn '\n').map trimEnd).destutter Parted)

/-! ## Blank lines in a row -/

/-- After a line, blank lines in a row are dropped as repetitions are, once all are trimmed. -/
theorem cons_map_squeeze (before : List Char) (lines : List (List Char)) :
    before :: (squeeze before.isEmpty lines).map trimEnd
      = (lines.map trimEnd).destutter' Parted before := by
  induction lines generalizing before with
  | nil => rfl
  | cons line rest ih =>
    rw [List.map_cons]
    by_cases blank : isBlankText line
    · have empty : trimEnd line = [] := trimEnd_eq_nil_iff.2 blank
      rw [squeeze, if_pos blank, empty]
      cases before with
      | nil => exact (ih []).trans (List.destutter'_cons_neg _ (by simp [Parted])).symm
      | cons c cs =>
        rw [List.destutter'_cons_pos _ (.inl (List.cons_ne_nil c cs)), ← ih [],
          if_neg (by simp), List.map_cons, empty]
        rfl
    · have filled : trimEnd line ≠ [] := mt trimEnd_eq_nil_iff.1 blank
      have go := ih (trimEnd line)
      rw [List.isEmpty_eq_false_iff.2 filled] at go
      rw [squeeze, if_neg blank, List.destutter'_cons_pos _ (.inr filled), ← go, List.map_cons]

/-- **Blank lines in a row are dropped as repetitions are.** -/
theorem map_squeeze (lines : List (List Char)) :
    (squeeze false lines).map trimEnd = (lines.map trimEnd).destutter Parted := by
  cases lines with
  | nil => rfl
  | cons line rest =>
    have flag : (trimEnd line).isEmpty = isBlankText line :=
      Bool.eq_iff_iff.2 (List.isEmpty_iff.trans trimEnd_eq_nil_iff)
    rw [List.map_cons, List.destutter_cons', ← cons_map_squeeze, flag, squeeze]
    cases isBlankText line with
    | true => rfl
    | false => rfl

/-- A line that is not empty stays, whatever stands before it. -/
theorem destutter'_concat {line : List Char} (filled : line ≠ []) (before : List Char)
    (lines : List (List Char)) :
    (lines ++ [line]).destutter' Parted before = lines.destutter' Parted before ++ [line] := by
  induction lines generalizing before with
  | nil => exact List.destutter'_cons_pos _ (.inr filled)
  | cons next lines ih =>
    rw [List.cons_append, List.destutter'_cons, List.destutter'_cons, ih, ih]
    split
    · rfl
    · rfl

theorem destutter_concat {line : List Char} (filled : line ≠ []) (lines : List (List Char)) :
    (lines ++ [line]).destutter Parted = lines.destutter Parted ++ [line] := by
  cases lines with
  | nil => rfl
  | cons next lines => exact destutter'_concat filled next lines

/-! ## The whole text -/

/-- Lines are joined by ending each but the last. -/
theorem intercalate_concat (sep line : List Char) (lines : List (List Char)) :
    List.intercalate sep (lines ++ [line]) = lines.flatMap (· ++ sep) ++ line := by
  induction lines with
  | nil => simp
  | cons next lines ih =>
    have more : List.intercalate sep (next :: (lines ++ [line]))
        = next ++ sep ++ List.intercalate sep (lines ++ [line]) := by
      cases lines with
      | nil => exact List.intercalate_cons_cons
      | cons after lines => exact List.intercalate_cons_cons
    rw [List.cons_append, more, ih, List.flatMap_cons]
    simp only [List.append_assoc]

/-- **White space brought in order makes a trimmed text tidy.** -/
theorem collapse_trim (cs : List Char) : collapse (trim cs) = tidy cs := by
  rcases trim_cases cs with nothing | ⟨front, c, ends, visible⟩
  · rw [tidy, nothing]
    rfl
  · have other : c ≠ '\n' := by
      rintro rfl
      exact absurd visible (by decide)
    obtain ⟨before, last, cut⟩ :=
      splitEvery_concat_of_other (p := (· == '\n')) (by simpa using other) front
    have kept : (squeeze false (lines (front ++ [c]))).map trimEnd
        = (before.map trimEnd).destutter Parted ++ [last ++ [c]] := by
      rw [map_squeeze, lines_map_trimEnd other, cut, List.map_append, List.map_singleton,
        trimEnd_concat_of_visible visible, destutter_concat (by simp)]
    have joined :
        (squeeze false (lines (front ++ [c]))).flatMap (fun line => trimEnd line ++ ['\n'])
          = ((before.map trimEnd).destutter Parted).flatMap (· ++ ['\n'])
            ++ last ++ [c] ++ ['\n'] := by
      rw [← List.flatMap_map trimEnd (· ++ ['\n']), kept]
      simp only [List.flatMap_append, List.flatMap_singleton, List.append_assoc]
    have pieces : (front ++ [c]).splitOn '\n' = before ++ [last ++ [c]] := by
      rw [← cut, splitEvery_eq_splitOnP]
      rfl
    rw [tidy, ends, collapse, joined, trimEnd_concat (by decide), trimEnd_concat_of_visible visible,
      pieces, List.map_append, List.map_singleton, trimEnd_concat_of_visible visible,
      destutter_concat (by simp), intercalate_concat, List.append_assoc]

example : collapse (trim " a \n \n\n b".toList) = "a\n\n b".toList := by decide

end Exposition.Markup
