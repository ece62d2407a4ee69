import Exposition.Proofs.Text.Split
import Exposition.Text.Blank
import Mathlib.Data.List.DropRight

/-!
# Proofs/Text/Trim — texts without the blanks at their ends

Trimming the end of a text is dropping blanks from the right.  The end of a line consists of blanks,
so it does not matter for a trimmed line whether a text was cut at its line feeds or after them
(`lines_map_trimEnd`).
-/

namespace Exposition.Text

variable {cs : List Char} {c : Char}

/-! ## Blanks at the end -/

theorem trimEnd_eq_rdropWhile (cs : List Char) : trimEnd cs = cs.rdropWhile isBlank := rfl

/-- Trimming takes away the blank that a text ends in. -/
theorem trimEnd_concat (blank : isBlank c) (cs : List Char) : trimEnd (cs ++ [c]) = trimEnd cs :=
  List.rdropWhile_concat_pos isBlank cs c blank

/-- A text that does not end in a blank is trimmed already. -/
theorem trimEnd_concat_of_visible (visible : isBlank c = false) (cs : List Char) :
    trimEnd (cs ++ [c]) = cs ++ [c] :=
  List.rdropWhile_concat_neg isBlank cs c (by simp [visible])

theorem trimEnd_eq_nil_iff : trimEnd cs = [] ↔ isBlankText cs := by
  rw [trimEnd_eq_rdropWhile, List.rdropWhile_eq_nil_iff, isBlankText, List.all_eq_true]

/-- A text that ends in nothing blank is left alone. -/
theorem trimEnd_of_visible (visible : ∀ c ∈ cs.getLast?, isBlank c = false) :
    trimEnd cs = cs := by
  rcases List.eq_nil_or_concat' cs with rfl | ⟨front, c, rfl⟩
  · rfl
  · exact trimEnd_concat_of_visible (visible c (by simp)) front

/-- What is trimmed away at the end is blank. -/
theorem exists_trimEnd (cs : List Char) :
    ∃ after, isBlankText after ∧ cs = trimEnd cs ++ after := by
  refine ⟨cs.rtakeWhile isBlank, ?_, ?_⟩
  · exact List.all_eq_true.2 fun c mem => List.mem_rtakeWhile_imp mem
  · exact List.rdropWhile_append_rtakeWhile.symm

theorem visible_getLast?_trimEnd (cs : List Char) :
    ∀ c ∈ (trimEnd cs).getLast?, isBlank c = false := by
  intro c last
  obtain ⟨front, ends⟩ := List.getLast?_eq_some_iff.1 last
  have some : List.rdropWhile isBlank cs ≠ [] := by
    change trimEnd cs ≠ []
    simp [ends]
  have visible := List.rdropWhile_last_not isBlank cs some
  have same : List.rdropWhile isBlank cs = front ++ [c] := ends
  simpa [same] using visible

/-! ## Blanks at both ends -/

/-- A text that neither begins nor ends in a blank is left alone. -/
theorem trim_of_visible (first : ∀ c ∈ cs.head?, isBlank c = false)
    (last : ∀ c ∈ cs.getLast?, isBlank c = false) : trim cs = cs := by
  have start : trimStart cs = cs := by
    cases cs with
    | nil => rfl
    | cons c cs => exact List.dropWhile_cons_of_neg (by simp [first c rfl])
  rw [trim, start, trimEnd_of_visible last]

/-- A text without blanks is trimmed already. -/
theorem trim_of_none (none : ∀ c ∈ cs, isBlank c = false) : trim cs = cs := by
  refine trim_of_visible ?_ ?_
  · intro c first
    exact none c (List.mem_of_head? first)
  · intro c last
    exact none c (List.mem_of_getLast? last)

/-- What a text begins with is left of it, unless it is a blank. -/
theorem head?_trimEnd (visible : isBlank c = false) (cs : List Char) :
    (trimEnd (c :: cs)).head? = some c := by
  have kept : trimEnd (c :: cs) ≠ [] := by
    rw [Ne, trimEnd_eq_nil_iff, isBlankText, List.all_cons, visible]
    simp
  obtain ⟨d, ds, kept⟩ := List.exists_cons_of_ne_nil kept
  have front : trimEnd (c :: cs) <+: c :: cs := List.rdropWhile_prefix isBlank (c :: cs)
  rw [kept, List.cons_prefix_cons] at front
  rw [kept, front.1]
  rfl

theorem visible_head?_trim (cs : List Char) : ∀ c ∈ (trim cs).head?, isBlank c = false := by
  have visible := List.head?_dropWhile_not isBlank cs
  rw [trim, trimStart]
  cases start : cs.dropWhile isBlank with
  | nil => simp [trimEnd]
  | cons c rest =>
    rw [start] at visible
    rw [head?_trimEnd visible]
    intro d first
    exact Option.some.inj first ▸ visible

theorem visible_getLast?_trim (cs : List Char) : ∀ c ∈ (trim cs).getLast?, isBlank c = false :=
  visible_getLast?_trimEnd (trimStart cs)

theorem mem_of_mem_trim (mem : c ∈ trim cs) : c ∈ cs :=
  (List.dropWhile_sublist isBlank).subset ((List.rdropWhile_prefix isBlank (trimStart cs)).mem mem)

theorem trimEnd_append_blank {after : List Char} (blank : isBlankText after) (cs : List Char) :
    trimEnd (cs ++ after) = trimEnd cs := by
  have blank : ∀ c ∈ after.reverse, isBlank c := by
    intro c mem
    exact List.all_eq_true.1 blank c (List.mem_reverse.1 mem)
  rw [trimEnd, List.reverse_append, List.dropWhile_append_of_pos blank]
  rfl

/-- Blanks before a text are trimmed away. -/
theorem trim_blank_append {before : List Char} (blank : isBlankText before) (cs : List Char) :
    trim (before ++ cs) = trim cs := by
  rw [trim, trimStart, List.dropWhile_append_of_pos (List.all_eq_true.1 blank)]
  rfl

/-- Blanks behind a text are trimmed away. -/
theorem trim_append_blank {after : List Char} (blank : isBlankText after) (cs : List Char) :
    trim (cs ++ after) = trim cs := by
  rw [trim, trim, trimStart, trimStart, List.dropWhile_append]
  split
  · next nothing =>
    have none : after.dropWhile isBlank = [] :=
      List.dropWhile_eq_nil_iff.2 (List.all_eq_true.1 blank)
    rw [none, List.isEmpty_iff.1 nothing]
  · exact trimEnd_append_blank blank _

theorem trim_trim (cs : List Char) : trim (trim cs) = trim cs :=
  trim_of_visible (visible_head?_trim cs) (visible_getLast?_trim cs)

/-- Of blanks alone nothing is left. -/
theorem trim_eq_nil_iff : trim cs = [] ↔ isBlankText cs := by
  rw [trim, trimEnd_eq_nil_iff, trimStart, isBlankText, isBlankText]
  constructor
  · intro rest
    rw [← List.takeWhile_append_dropWhile (p := isBlank) (l := cs), List.all_append, rest,
      List.all_takeWhile]
    rfl
  · intro all
    rw [List.dropWhile_eq_nil_iff.2 (List.all_eq_true.1 all)]
    rfl

/-- A trimmed text is empty, or it ends in something visible. -/
theorem trim_cases (cs : List Char) :
    trim cs = [] ∨ ∃ front c, trim cs = front ++ [c] ∧ isBlank c = false := by
  rcases List.eq_nil_or_concat' (trim cs) with none | ⟨front, c, ends⟩
  · exact .inl none
  · exact .inr ⟨front, c, ends, visible_getLast?_trim cs c (by simp [ends])⟩

/-! ## The lines of a text -/

/-- The end of a line consists of blanks. -/
theorem trimEnd_dropLineEnd (line : List Char) : trimEnd (dropLineEnd line) = trimEnd line := by
  rw [dropLineEnd]
  split
  · next ended =>
    have fed : trimEnd line.dropLast = trimEnd line := by
      rw [← trimEnd_concat (by decide : isBlank '\n') line.dropLast,
        List.dropLast_append_getLast? _ ended]
    split
    · next returned =>
      rw [← fed, ← trimEnd_concat (by decide : isBlank '\r') line.dropLast.dropLast,
        List.dropLast_append_getLast? _ returned]
    · exact fed
  · rfl

/-- **Cutting after every separator** is cutting at every separator and putting the separators back,
without a last piece that is empty. -/
theorem splitAfter_eq {α : Type} [BEq α] [LawfulBEq α] (feed : α) (xs : List α) :
    ∃ pieces last, splitEvery (· == feed) xs = pieces ++ [last]
      ∧ splitAfter feed xs = pieces.map (· ++ [feed]) ++ if last = [] then [] else [last] := by
  induction xs with
  | nil => exact ⟨[], [], rfl, rfl⟩
  | cons x xs ih =>
    obtain ⟨pieces, last, every, after⟩ := ih
    by_cases fed : x = feed
    · refine ⟨[] :: pieces, last, ?_, ?_⟩
      · rw [splitEvery, if_pos (by simp [fed]), every, List.cons_append]
      · rw [splitAfter, if_pos (by simp [fed]), after, fed]
        rfl
    · cases pieces with
      | nil =>
        refine ⟨[], x :: last, ?_, ?_⟩
        · rw [splitEvery, if_neg (by simp [fed]), every]
          rfl
        · rw [splitAfter, if_neg (by simp [fed]), after]
          cases last with
          | nil => rfl
          | cons y last => rfl
      | cons piece pieces =>
        refine ⟨(x :: piece) :: pieces, last, ?_, ?_⟩
        · rw [splitEvery, if_neg (by simp [fed]), every]
          rfl
        · rw [splitAfter, if_neg (by simp [fed]), after]
          rfl

/-- The last piece of a text takes the character that the text ends in. -/
theorem splitEvery_concat_of_other {α : Type} {p : α → Bool} {x : α} (other : p x = false)
    (xs : List α) : ∃ before last, splitEvery p (xs ++ [x]) = before ++ [last ++ [x]] := by
  obtain ⟨before, last, cut⟩ := splitEvery_append p xs
  exact ⟨before, last, cut [x] (by simpa using other)⟩

/-- **The trimmed lines of a text** that does not end in a line feed are its trimmed pieces. -/
theorem lines_map_trimEnd (other : c ≠ '\n') (cs : List Char) :
    (lines (cs ++ [c])).map trimEnd = (splitEvery (· == '\n') (cs ++ [c])).map trimEnd := by
  obtain ⟨pieces, last, every, after⟩ := splitAfter_eq '\n' (cs ++ [c])
  obtain ⟨before, last', every'⟩ :=
    splitEvery_concat_of_other (p := (· == '\n')) (by simpa using other) cs
  obtain ⟨-, rfl⟩ := List.append_singleton_inj.1 (every.symm.trans every')
  have ended (piece : List Char) : trimEnd (piece ++ ['\n']) = trimEnd piece :=
    trimEnd_concat (by decide) piece
  rw [every, lines, after, if_neg (by simp)]
  simp only [List.map_append, List.map_map, Function.comp_def, List.map_cons, List.map_nil,
    trimEnd_dropLineEnd, ended]

end Exposition.Text
