import Exposition.Level
import Exposition.Proofs.Text.Lowercase

/-!
# Proofs/Level — levels by their names

A level is read from its name in letters of either case.  The names consist of small letters of
ASCII, of which neither a blank nor any other character is a variant.
-/

namespace Exposition.Level

open Text

variable {s : String} {level : Level}

/-- **A text names a level** if that is its name in small letters, without the blanks around it. -/
theorem read_eq_ok_iff : Level.read s = .ok level ↔ lowered (trimmed s) = level.name := by
  constructor
  · intro named
    rw [Level.read] at named
    cases found : Level.all.find? (·.name == lowered (trimmed s)) with
    | none =>
      rw [found] at named
      exact absurd named (by simp)
    | some l =>
      have same : (l.name == lowered (trimmed s)) = true := by
        simpa only using List.find?_some found
      rw [found] at named
      rw [← Except.ok.inj named, beq_iff_eq.1 same]
  · intro named
    rw [Level.read, named]
    cases level with
    | _ => rfl

/-- **A level is read from its name in letters of either case.** -/
theorem read_of_letters (named : s.toList.map Char.toLower = level.name.toList) :
    Level.read s = .ok level := by
  have small : level.name.toList.all Char.isLower := by
    cases level with
    | _ => decide
  have letters : ∀ c ∈ s.toList, c.toNat < 0x80 ∧ isBlank c = false := fun c mem =>
    letter_of_toLower (List.all_eq_true.1 small _ (named ▸ List.mem_map_of_mem mem))
  rw [read_eq_ok_iff, lowered, trimmed, String.toList_ofList,
    trim_of_none fun c mem => (letters c mem).2, lower_of_ascii fun c mem => (letters c mem).1,
    named, String.ofList_toList]

end Exposition.Level
