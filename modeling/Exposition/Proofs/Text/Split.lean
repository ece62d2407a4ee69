import Exposition.Text.Line
import Mathlib.Data.List.Basic

/-!
# Proofs/Text/Split — cutting texts at separators

A text is cut at its first separator or at every one.  Putting the pieces together with a separator
between them is undone by cutting, as long as no piece holds one.
-/

namespace Exposition.Text

variable {α : Type} {p : α → Bool} {xs ys : List α} {s : α}

theorem dropWhile_of_none (none : ∀ x ∈ xs, p x = false) : xs.dropWhile p = xs := by
  cases xs with
  | nil => rfl
  | cons x xs => rw [List.dropWhile_cons_of_neg (by simp [none x])]

theorem dropWhile_append_of_none (none : ∀ y ∈ ys, p y = false) (xs : List α) :
    (xs ++ ys).dropWhile p = xs.dropWhile p ++ ys := by
  rw [List.dropWhile_append, dropWhile_of_none none]
  split
  · next empty => rw [List.isEmpty_iff.1 empty, List.nil_append]
  · rfl

theorem takeWhile_append_of_none (none : ∀ y ∈ ys, p y = false) (xs : List α) :
    (xs ++ ys).takeWhile p = xs.takeWhile p := by
  have whole := List.takeWhile_append_dropWhile (p := p) (l := xs ++ ys)
  rw [dropWhile_append_of_none none, ← List.append_assoc] at whole
  exact List.append_cancel_right
    ((List.append_cancel_right whole).trans List.takeWhile_append_dropWhile.symm)

/-! ## At the first separator -/

theorem splitAtFirst_append_cons (whole : ∀ x ∈ xs, p x = false) (sep : p s = true) :
    splitAtFirst p (xs ++ s :: ys) = (xs, some ys) := by
  induction xs with
  | nil => rw [List.nil_append, splitAtFirst, if_pos sep]
  | cons x xs ih =>
    rw [List.cons_append, splitAtFirst, if_neg (by simp [whole x]),
      ih fun y hy => whole y (List.mem_cons_of_mem x hy)]

theorem splitAtFirst_of_whole (whole : ∀ x ∈ xs, p x = false) :
    splitAtFirst p xs = (xs, none) := by
  induction xs with
  | nil => rfl
  | cons x xs ih =>
    rw [splitAtFirst, if_neg (by simp [whole x]),
      ih fun y hy => whole y (List.mem_cons_of_mem x hy)]

theorem fst_splitAtFirst (p : α → Bool) (xs : List α) :
    (splitAtFirst p xs).1 = xs.takeWhile (!p ·) := by
  induction xs with
  | nil => rfl
  | cons x xs ih =>
    rw [splitAtFirst, List.takeWhile_cons]
    cases p x with
    | true => rfl
    | false => exact congrArg (x :: ·) ih

theorem snd_splitAtFirst (p : α → Bool) (xs : List α) :
    (splitAtFirst p xs).2.getD [] = (xs.dropWhile (!p ·)).tail := by
  induction xs with
  | nil => rfl
  | cons x xs ih =>
    rw [splitAtFirst, List.dropWhile_cons]
    cases p x with
    | true => rfl
    | false => exact ih

/-! ## At every separator -/

/-- Cutting at every separator is what the core library has for it. -/
theorem splitEvery_eq_splitOnP (p : α → Bool) (xs : List α) :
    splitEvery p xs = xs.splitOnP p := by
  induction xs with
  | nil => rfl
  | cons x xs ih =>
    rw [splitEvery, ih, List.splitOnP_cons_eq_if_modifyHead]
    split
    · rfl
    · split
      · next none => exact absurd none (List.splitOnP_ne_nil p xs)
      · next some => rw [some, List.modifyHead_cons]

theorem splitEvery_ne_nil (p : α → Bool) (xs : List α) : splitEvery p xs ≠ [] := by
  rw [splitEvery_eq_splitOnP]
  exact List.splitOnP_ne_nil p xs

theorem splitEvery_of_whole (whole : ∀ x ∈ xs, p x = false) : splitEvery p xs = [xs] := by
  rw [splitEvery_eq_splitOnP, List.splitOnP_eq_singleton whole]

theorem splitEvery_append_cons (sep : p s = true) (xs ys : List α) :
    splitEvery p (xs ++ s :: ys) = splitEvery p xs ++ splitEvery p ys := by
  simp only [splitEvery_eq_splitOnP, List.splitOnP_append_cons xs ys sep]

theorem splitEvery_concat (sep : p s = true) (xs : List α) :
    splitEvery p (xs ++ [s]) = splitEvery p xs ++ [[]] :=
  splitEvery_append_cons sep xs []

/-- Without a separator, what is added to a text is added to its last piece. -/
theorem splitEvery_append (p : α → Bool) (xs : List α) : ∃ before last,
    ∀ ys, (∀ y ∈ ys, p y = false) → splitEvery p (xs ++ ys) = before ++ [last ++ ys] := by
  induction xs with
  | nil => exact ⟨[], [], fun ys whole => splitEvery_of_whole whole⟩
  | cons x xs ih =>
    obtain ⟨before, last, cut⟩ := ih
    by_cases sep : p x = true
    · refine ⟨[] :: before, last, fun ys whole => ?_⟩
      rw [List.cons_append, splitEvery, if_pos sep, cut ys whole, List.cons_append]
    · cases before with
      | nil =>
        refine ⟨[], x :: last, fun ys whole => ?_⟩
        rw [List.cons_append, splitEvery, if_neg sep, cut ys whole]
        rfl
      | cons first before =>
        refine ⟨(x :: first) :: before, last, fun ys whole => ?_⟩
        rw [List.cons_append, splitEvery, if_neg sep, cut ys whole]
        rfl

theorem not_mem_splitEvery (sep : p s = true) {piece : List α}
    (mem : piece ∈ splitEvery p xs) : s ∉ piece := by
  induction xs generalizing piece with
  | nil =>
    rw [splitEvery, List.mem_singleton] at mem
    subst mem
    exact List.not_mem_nil
  | cons x xs ih =>
    obtain ⟨first, pieces, cut⟩ := List.exists_cons_of_ne_nil (splitEvery_ne_nil p xs)
    rw [cut] at ih
    rw [splitEvery, cut] at mem
    split at mem
    · rcases List.mem_cons.1 mem with rfl | later
      · exact List.not_mem_nil
      · exact ih later
    · next other =>
      rcases List.mem_cons.1 mem with rfl | later
      · intro inside
        rcases List.mem_cons.1 inside with rfl | rest
        · exact other sep
        · exact ih List.mem_cons_self rest
      · exact ih (List.mem_cons_of_mem _ later)

/-- The pieces hold nothing that the text does not hold. -/
theorem mem_of_mem_splitEvery {x : α} {piece : List α} (mem : piece ∈ splitEvery p xs)
    (inside : x ∈ piece) : x ∈ xs := by
  induction xs generalizing piece with
  | nil =>
    rw [splitEvery, List.mem_singleton] at mem
    exact mem ▸ inside
  | cons y xs ih =>
    obtain ⟨first, pieces, cut⟩ := List.exists_cons_of_ne_nil (splitEvery_ne_nil p xs)
    rw [cut] at ih
    rw [splitEvery, cut] at mem
    split at mem
    · rcases List.mem_cons.1 mem with rfl | later
      · exact absurd inside List.not_mem_nil
      · exact List.mem_cons_of_mem y (ih later inside)
    · rcases List.mem_cons.1 mem with rfl | later
      · rcases List.mem_cons.1 inside with rfl | rest
        · exact List.mem_cons_self
        · exact List.mem_cons_of_mem y (ih List.mem_cons_self rest)
      · exact List.mem_cons_of_mem y (ih (List.mem_cons_of_mem _ later) inside)

/-- What is no separator is left in some piece. -/
theorem mem_splitEvery {x : α} (mem : x ∈ xs) (other : p x = false) :
    ∃ piece ∈ splitEvery p xs, x ∈ piece := by
  induction xs with
  | nil => exact absurd mem List.not_mem_nil
  | cons y xs ih =>
    obtain ⟨first, pieces, cut⟩ := List.exists_cons_of_ne_nil (splitEvery_ne_nil p xs)
    rw [cut] at ih
    rw [splitEvery, cut]
    rcases List.mem_cons.1 mem with rfl | later
    · rw [if_neg (by simp [other])]
      exact ⟨_, List.mem_cons_self, List.mem_cons_self⟩
    · obtain ⟨piece, there, inside⟩ := ih later
      split
      · exact ⟨piece, List.mem_cons_of_mem _ there, inside⟩
      · rcases List.mem_cons.1 there with rfl | more
        · exact ⟨_, List.mem_cons_self, List.mem_cons_of_mem y inside⟩
        · exact ⟨piece, List.mem_cons_of_mem _ more, inside⟩

/-- What was joined holds separators and what the pieces hold. -/
theorem mem_intercalate {pieces : List (List α)} {x : α} (mem : x ∈ List.intercalate [s] pieces) :
    x = s ∨ ∃ piece ∈ pieces, x ∈ piece := by
  induction pieces with
  | nil => exact absurd mem List.not_mem_nil
  | cons piece pieces ih =>
    cases pieces with
    | nil =>
      rw [List.intercalate_singleton] at mem
      exact .inr ⟨piece, List.mem_cons_self, mem⟩
    | cons next pieces =>
      rw [List.intercalate_cons_cons, List.mem_append, List.mem_append, List.mem_singleton] at mem
      rcases mem with (here | sep) | later
      · exact .inr ⟨piece, List.mem_cons_self, here⟩
      · exact .inl sep
      · exact (ih later).imp_right fun ⟨q, there, mem⟩ => ⟨q, List.mem_cons_of_mem piece there, mem⟩

/-- **Cutting undoes joining.** -/
theorem splitEvery_intercalate (sep : p s = true) {pieces : List (List α)}
    (whole : ∀ piece ∈ pieces, ∀ x ∈ piece, p x = false) (some : pieces ≠ []) :
    splitEvery p (List.intercalate [s] pieces) = pieces := by
  induction pieces with
  | nil => exact absurd rfl some
  | cons piece pieces ih =>
    have first : splitEvery p piece = [piece] := splitEvery_of_whole (whole piece (by simp))
    cases pieces with
    | nil => rwa [List.intercalate_singleton]
    | cons next pieces =>
      rw [List.intercalate_cons_cons, List.append_assoc, List.singleton_append,
        splitEvery_append_cons sep, first,
        ih (fun q hq => whole q (List.mem_cons_of_mem piece hq)) (List.cons_ne_nil _ _)]
      rfl

end Exposition.Text
