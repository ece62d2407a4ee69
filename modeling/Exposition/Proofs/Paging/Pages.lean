import Exposition.Paging

/-!
# Proofs/Paging/Pages — a page exists when a record stands on it

`pagesFor` rounds up and stops at the largest number of 32 bits.  Since a page number never passes
that bound, rounding and stopping make one law: page `p` exists exactly when the records before it
do not use up all there are (`le_pagesFor_iff`).
-/

namespace Exposition

/-- **A page exists exactly when a record stands on it**, also where the number of pages stops at
its bound. -/
theorem le_pagesFor_iff {total size page : Nat} (hsize : 1 ≤ size) (hpage : 1 ≤ page)
    (hmax : page ≤ Text.maxWord) : page ≤ pagesFor total size ↔ (page - 1) * size < total := by
  obtain ⟨k, rfl⟩ := Nat.exists_eq_add_of_le' hpage
  have hk : k + 1 ≤ pagesFor total size ↔ k + 1 ≤ (total + (size - 1)) / size := by
    simp only [pagesFor, Nat.max_eq_left hsize, Nat.le_min, hmax, and_true]
  rw [hk, Nat.le_div_iff_mul_le hsize, Nat.add_mul, Nat.one_mul, Nat.add_sub_cancel]
  omega

theorem pagesFor_le_max (total size : Nat) : pagesFor total size ≤ Text.maxWord :=
  Nat.min_le_right _ _

/-- No records fill no page. -/
theorem pagesFor_zero (size : Nat) : pagesFor 0 size = 0 := by
  have hsize : 0 + (max size 1 - 1) < max size 1 := by omega
  rw [pagesFor, Nat.div_eq_of_lt hsize, Nat.zero_min]

namespace Paging

/-- A page number within the bounds is taken as it is. -/
theorem atPage_page {p : Paging} {page : Nat} (hpage : 1 ≤ page) (hmax : page ≤ Text.maxWord) :
    (p.atPage page).page = page := by
  change min (max page 1) Text.maxWord = page
  omega

/-- Going to where one is changes nothing. -/
theorem atPage_self (p : Paging) : p.atPage p.page = p := by
  obtain ⟨page, perPage, totalCount, hpage, hmax, hsize, hlargest⟩ := p
  simp only [atPage, Paging.mk.injEq, and_true]
  omega

/-- Going again to the page that was reached changes nothing. -/
theorem atPage_atPage (p : Paging) (page : Nat) : p.atPage (p.atPage page).page = p.atPage page :=
  (p.atPage page).atPage_self

theorem totalPages_le_max (p : Paging) : p.totalPages ≤ Text.maxWord := pagesFor_le_max _ _

/-- The current page exists exactly when a record stands on it. -/
theorem page_le_totalPages_iff (p : Paging) :
    p.page ≤ p.totalPages ↔ (p.page - 1) * p.perPage < p.totalCount :=
  le_pagesFor_iff p.one_le_perPage p.one_le_page p.page_le_max

/-- A page that lies some pages on exists. -/
theorem of_target_eq_some {p : Paging} {delta : Int} {page : Nat} (h : p.target delta = some page) :
    1 ≤ page ∧ page ≤ p.totalPages := by
  simp only [target] at h
  split at h
  · have hpage : ((p.page : Int) + delta).toNat = page := Option.some.inj h
    omega
  · exact absurd h (by simp)

end Paging

end Exposition
