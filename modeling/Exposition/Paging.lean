import Exposition.Text.Numeral

/-!
# Paging — pages, and where they end

A **paging** is the current page, the page size and the number of records that the last answer
gave.  How many pages there are follows from the last two (`pagesFor`).  A page number never drops
below 1 and is a number of 32 bits, and a page holds from 1 to 100 records.
-/

namespace Exposition

/-- How many records a page holds unless the user says otherwise. -/
def usualPageSize : Nat := 12

/-- The most records that a page can hold. -/
def largestPageSize : Nat := 100

/-- **The number of pages** that so many records fill, the last perhaps in part.  A page size of 0
counts as 1, and the number stops at the largest of 32 bits. -/
def pagesFor (totalCount perPage : Nat) : Nat :=
  let size := max perPage 1
  min ((totalCount + (size - 1)) / size) Text.maxWord

/-- The current page, its size and the number of records on all pages. -/
structure Paging where
  page : Nat
  perPage : Nat
  totalCount : Nat
  one_le_page : 1 ≤ page
  page_le_max : page ≤ Text.maxWord
  one_le_perPage : 1 ≤ perPage
  perPage_le_max : perPage ≤ largestPageSize
deriving DecidableEq

/-- Which of the controls for turning pages are shown and can be used. -/
structure PageControls where
  visible : Bool
  hasPrevious : Bool
  hasNext : Bool
deriving DecidableEq, Repr

namespace Paging

/-- Page 1 of nothing, with the page size brought into its bounds. -/
def start (perPage : Nat) : Paging where
  page := 1
  perPage := min (max perPage 1) largestPageSize
  totalCount := 0
  one_le_page := Nat.le_refl 1
  page_le_max := by decide
  one_le_perPage := by simp only [largestPageSize]; omega
  perPage_le_max := Nat.min_le_right _ _

/-- How many pages there are. -/
def totalPages (p : Paging) : Nat := pagesFor p.totalCount p.perPage

/-- The paging at another page; page 0 counts as page 1, and a number past the largest of 32 bits as
that. -/
def atPage (p : Paging) (page : Nat) : Paging :=
  { p with
    page := min (max page 1) Text.maxWord
    one_le_page := by simp only [Text.maxWord]; omega
    page_le_max := Nat.min_le_right _ _ }

/-- The paging with a new number of records. -/
def withTotal (p : Paging) (totalCount : Nat) : Paging := { p with totalCount }

/-- **The page that lies `delta` pages on**, if there is such a page. -/
def target (p : Paging) (delta : Int) : Option Nat :=
  let page := (p.page : Int) + delta
  if 1 ≤ page ∧ page ≤ p.totalPages then some page.toNat else none

/-- The controls, as the current page calls for them. -/
def controls (p : Paging) : PageControls where
  visible := 1 < p.totalPages
  hasPrevious := 1 < p.page
  hasNext := p.page < p.totalPages

/-- **The positions of the records on the current page**, first and last, counted from 1; none if
there are no records at all. -/
def range (p : Paging) : Option (Nat × Nat) :=
  if p.totalCount = 0 then none
  else some ((p.page - 1) * p.perPage + 1, min (p.page * p.perPage) p.totalCount)

end Paging

end Exposition
