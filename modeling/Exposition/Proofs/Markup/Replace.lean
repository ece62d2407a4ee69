import Exposition.Markup
import Mathlib.Data.List.Infix

/-!
# Proofs/Markup/Replace — replacing a word in a text of pieces

A text is often put together from pieces, and some of these are the word that is to be replaced.
Where a match can begin nowhere else, replacing the word in the text is replacing those pieces
(`replaceAll_flatMap`).
-/

namespace Exposition.Text

variable {first c : Char} {word put cs rest : List Char}

/-! ## One step -/

theorem replaceAll_cons_of_not_prefix (other : ¬ word <+: c :: cs) :
    replaceAll word put (c :: cs) = c :: replaceAll word put cs := by
  rw [replaceAll, if_neg (mt List.isPrefixOf_iff_prefix.1 other)]

theorem replaceAll_word_append : replaceAll (first :: word) put (first :: word ++ rest)
    = put ++ replaceAll (first :: word) put rest := by
  have found : (first :: word).isPrefixOf (first :: (word ++ rest)) :=
    List.isPrefixOf_iff_prefix.2 (List.prefix_append (first :: word) rest)
  rw [List.cons_append, replaceAll, if_pos found, List.length_cons, Nat.add_sub_cancel,
    List.drop_left]

/-- Characters with which the word does not begin are copied. -/
theorem replaceAll_append_of_not_mem (absent : first ∉ cs) :
    replaceAll (first :: word) put (cs ++ rest) = cs ++ replaceAll (first :: word) put rest := by
  induction cs with
  | nil => rfl
  | cons c cs ih =>
    obtain ⟨other, absent⟩ := not_or.1 (mt List.mem_cons.2 absent)
    have differs : ¬ first :: word <+: c :: (cs ++ rest) :=
      fun found => other (List.cons_prefix_cons.1 found).1
    rw [List.cons_append, replaceAll_cons_of_not_prefix differs, ih absent, List.cons_append]

theorem replaceAll_of_not_mem (absent : first ∉ cs) : replaceAll (first :: word) put cs = cs := by
  have copied : replaceAll (first :: word) put (cs ++ [])
      = cs ++ replaceAll (first :: word) put [] := replaceAll_append_of_not_mem absent
  simpa [replaceAll] using copied

/-! ## Pieces -/

/-- **A piece apart from a word**: none of the two begins with the other, and the word begins with
none of the piece's later characters, so no match can begin in the piece. -/
def Apart (word piece : List Char) : Prop :=
  ¬ word <+: piece ∧ ¬ piece <+: word ∧ word.head?.all fun c => !piece.tail.contains c

instance (word piece : List Char) : Decidable (Apart word piece) :=
  inferInstanceAs (Decidable
    (¬ word <+: piece ∧ ¬ piece <+: word ∧ word.head?.all fun c => !piece.tail.contains c))

theorem replaceAll_append_of_apart {piece : List Char} (apart : Apart (first :: word) piece) :
    replaceAll (first :: word) put (piece ++ rest)
      = piece ++ replaceAll (first :: word) put rest := by
  obtain ⟨ahead, behind, inside⟩ := apart
  cases piece with
  | nil => exact absurd List.nil_prefix behind
  | cons c cs =>
    have differs : ¬ first :: word <+: c :: (cs ++ rest) := fun found =>
      (List.prefix_or_prefix_of_prefix found (List.prefix_append (c :: cs) rest)).elim ahead behind
    have absent : first ∉ cs := by simpa using inside
    rw [List.cons_append, replaceAll_cons_of_not_prefix differs,
      replaceAll_append_of_not_mem absent, List.cons_append]

/-- **Replacing a word in a text of pieces**, where each is the word or apart from it. -/
theorem replaceAll_flatMap {α : Type} {f g : α → List Char} {xs : List α}
    (pieces : ∀ x ∈ xs, (f x = first :: word ∧ g x = put)
      ∨ (Apart (first :: word) (f x) ∧ g x = f x)) :
    replaceAll (first :: word) put (xs.flatMap f) = xs.flatMap g := by
  induction xs with
  | nil => simp [replaceAll]
  | cons x xs ih =>
    have later := ih fun y mem => pieces y (List.mem_cons_of_mem x mem)
    rw [List.flatMap_cons, List.flatMap_cons]
    obtain ⟨same, put⟩ | ⟨apart, same⟩ := pieces x List.mem_cons_self
    · rw [same, put, replaceAll_word_append, later]
    · rw [same, replaceAll_append_of_apart apart, later]

end Exposition.Text
