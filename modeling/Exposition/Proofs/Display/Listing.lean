import Exposition.Browse.Command
import Exposition.Display.History
import Mathlib.Data.List.Infix

/-!
# Proofs/Display/Listing — what a printed list shows

A list shows the cards of its records, each in full and at its place
(`History.card_infix_listing`).  What else is printed begins with another letter, so that a list
with cards is taken for nothing else (`History.head?_listing`).
-/

namespace Exposition

namespace Text

theorem head?_append {first second : String} {c : Char} (begins : first.toList.head? = some c) :
    (first ++ second).toList.head? = some c := by
  rw [String.toList_append, List.head?_append, begins]
  rfl

theorem head?_unlines {line : String} {ls : List String} {c : Char}
    (begins : line.toList.head? = some c) : (unlines (line :: ls)).toList.head? = some c := by
  rw [unlines, List.map_cons, String.join_cons]
  exact head?_append (head?_append begins)

theorem head?_intercalate {between line : String} {ls : List String} {c : Char}
    (begins : line.toList.head? = some c) :
    (String.intercalate between (line :: ls)).toList.head? = some c := by
  cases ls with
  | nil => rwa [String.intercalate_singleton]
  | cons l ls =>
    rw [String.intercalate_cons_cons]
    exact head?_append (head?_append begins)

/-- A text shows each of its lines. -/
theorem infix_unlines {line : String} {ls : List String} (mem : line ∈ ls) :
    line.toList <:+: (unlines ls).toList := by
  have ended : (line ++ "\n").toList ∈ (ls.map (· ++ "\n")).map String.toList :=
    List.mem_map_of_mem (List.mem_map_of_mem mem)
  have shown : line.toList <:+: (line ++ "\n").toList := by
    rw [String.toList_append]
    exact (List.prefix_append ..).isInfix
  rw [unlines, String.toList_join, List.flatMap_def]
  exact shown.trans (List.infix_of_mem_flatten ended)

end Text

open Text

namespace Record

theorem head?_detail (r : Record) : r.detail.toList.head? = some 'E' := by
  rw [detail]
  exact head?_append (head?_unlines (head?_append rfl))

/-- A card begins with its place in the list and the number of its record. -/
theorem label_prefix_cardHeader (index : Nat) (r : Record) :
    ("[" ++ decimal index ++ "] #" ++ decimalInt r.id ++ " ").toList
      <+: (r.cardHeader index).toList := by
  unfold cardHeader
  simp only [String.toList_append, List.append_assoc, List.prefix_append_right_inj]
  exact List.prefix_append ..

theorem label_prefix_card (index : Nat) (r : Record) :
    ("[" ++ decimal index ++ "] #" ++ decimalInt r.id ++ " ").toList
      <+: (r.card index).toList := by
  refine (label_prefix_cardHeader index r).trans ?_
  rw [card, List.cons_append, unlines, List.map_cons, String.join_cons]
  simp only [String.toList_append, List.append_assoc]
  exact List.prefix_append ..

end Record

namespace History

variable {h : History}

theorem head?_listing (h : History) : h.listing.toList.head? = some (match h.view with
    | .idle => 'L'
    | .loading => 'L'
    | .failed _ => 'E'
    | .empty => 'N'
    | .items => 'S') := by
  rw [listing, listingLines]
  cases h.view with
  | idle => exact head?_unlines rfl
  | loading => exact head?_unlines rfl
  | failed message => exact head?_unlines (head?_append rfl)
  | empty => exact head?_unlines rfl
  | items => exact head?_unlines (by simp [summaryLine])

/-- **A list shows each of its records as a card.** -/
theorem card_infix_listing (items : h.view = .items) {i : Nat} {r : Record}
    (there : h.records[i]? = some r) : (r.card (i + 1)).toList <:+: h.listing.toList := by
  have mem : r.card (i + 1) ∈ h.cards :=
    List.mem_map.2 ⟨(r, i), List.mk_mem_zipIdx_iff_getElem?.2 there, rfl⟩
  rw [listing, listingLines, items]
  exact infix_unlines (List.mem_append_left _ (List.mem_cons_of_mem _ mem))

end History

theorem Browse.head?_help : help.toList.head? = some 'C' := by
  rw [help]
  exact head?_intercalate (by decide)

end Exposition
