import Exposition.Proofs.Paging.Pages
import Mathlib.Order.Lattice

/-!
# Proofs/Paging/Partition — every position lies on one page

The range of a page names the positions of its records.  A position lies on the page that division
by the page size gives (`Paging.covers_iff_page`), so the ranges of the pages cover all positions,
without gaps and without overlaps, up to the last page that a number of 32 bits can name
(`Paging.pages_partition`).  No product or sum on the way to a range leaves the numbers of 64 bits
(`Paging.longRange_eq`).
-/

namespace Exposition

/-- A number, if it is one of 64 bits. -/
def Text.long? (n : Nat) : Option Nat := if n ≤ Text.maxLong then some n else none

theorem Text.long?_eq {n : Nat} (small : n ≤ Text.maxLong) : Text.long? n = some n := if_pos small

namespace Paging

variable {p : Paging} {position : Nat}

/-! ## Ranges in numbers of 64 bits -/

/-- **The range, computed in numbers of 64 bits.**  There is none if a product or a sum on the way
is no such number. -/
def longRange (p : Paging) : Option (Option (Nat × Nat)) :=
  if p.totalCount = 0 then some none
  else do
    let before ← Text.long? ((p.page - 1) * p.perPage)
    let first ← Text.long? (before + 1)
    let through ← Text.long? (p.page * p.perPage)
    return some (first, min through p.totalCount)

/-- The positions up to the end of a page are far from the largest number of 64 bits. -/
theorem mul_le_maxLong (p : Paging) : p.page * p.perPage ≤ Text.maxLong :=
  calc p.page * p.perPage
      ≤ Text.maxWord * largestPageSize := Nat.mul_le_mul p.page_le_max p.perPage_le_max
    _ ≤ Text.maxLong := by decide

/-- A page is as long as its size. -/
theorem pred_mul_add (p : Paging) : (p.page - 1) * p.perPage + p.perPage = p.page * p.perPage := by
  rw [← Nat.succ_mul, Nat.succ_eq_add_one, Nat.sub_add_cancel p.one_le_page]

/-- **Numbers of 64 bits suffice for the range.** -/
theorem longRange_eq (p : Paging) : p.longRange = some p.range := by
  have through := p.mul_le_maxLong
  have ends := p.pred_mul_add
  have size := p.one_le_perPage
  rw [longRange, range]
  split
  · rfl
  · rw [Text.long?_eq (by omega), Text.long?_eq through]
    simp only [Option.bind_eq_bind, Option.bind_some, Text.long?_eq
      (show (p.page - 1) * p.perPage + 1 ≤ Text.maxLong by omega)]
    rfl

/-! ## The positions on a page -/

/-- **A position lies on the page**, within its range. -/
def Covers (p : Paging) (position : Nat) : Prop :=
  ∃ first last, p.range = some (first, last) ∧ first ≤ position ∧ position ≤ last

theorem covers_iff : p.Covers position ↔ (p.page - 1) * p.perPage < position
    ∧ position ≤ p.page * p.perPage ∧ position ≤ p.totalCount := by
  rw [Covers, range]
  split
  · next nothing =>
    constructor
    · rintro ⟨first, last, absent, -⟩
      exact absurd absent (by simp)
    · rintro ⟨after, -, most⟩
      omega
  · constructor
    · rintro ⟨first, last, spans, least, most⟩
      obtain ⟨rfl, rfl⟩ := Prod.mk.inj (Option.some.inj spans)
      exact ⟨least, Nat.le_min.1 most⟩
    · rintro ⟨least, most⟩
      exact ⟨_, _, rfl, least, Nat.le_min.2 most⟩

/-- **Division tells the page of a position.** -/
theorem covers_iff_page : p.Covers position
    ↔ p.page = (position - 1) / p.perPage + 1 ∧ 1 ≤ position ∧ position ≤ p.totalCount := by
  have page := p.one_le_page
  have ends := p.pred_mul_add
  have size := p.one_le_perPage
  have quotient : p.page = (position - 1) / p.perPage + 1
      ↔ (position - 1) / p.perPage = p.page - 1 := by omega
  rw [covers_iff, quotient, Nat.div_eq_iff size]
  omega

/-- A page that covers a position exists. -/
theorem Covers.page_le (covers : p.Covers position) : p.page ≤ p.totalPages := by
  obtain ⟨after, -, most⟩ := covers_iff.1 covers
  exact p.page_le_totalPages_iff.2 (Nat.lt_of_lt_of_le after most)

/-- **The range of a page that exists.** -/
theorem range_of_page_le (there : p.page ≤ p.totalPages) : p.range
    = some ((p.page - 1) * p.perPage + 1, min (p.page * p.perPage) p.totalCount) := by
  have some := p.page_le_totalPages_iff.1 there
  exact if_neg (by omega)

/-! ## All pages of some records -/

/-- The paging at a page of so many records. -/
def paged (total size page : Nat) : Paging := ((start size).withTotal total).atPage page

section Paged

variable {total size page : Nat}

@[simp] theorem paged_totalCount : (paged total size page).totalCount = total := rfl

theorem paged_perPage (least : 1 ≤ size) (most : size ≤ largestPageSize) :
    (paged total size page).perPage = size := by
  change min (max size 1) largestPageSize = size
  omega

theorem paged_page (total size : Nat) (first : 1 ≤ page) (word : page ≤ Text.maxWord) :
    (paged total size page).page = page := atPage_page first word

/-- The page of a position is a number of 32 bits, up to the last position that has one. -/
theorem page_of_position_le {position : Nat} (least : 1 ≤ size) (first : 1 ≤ position)
    (most : position ≤ Text.maxWord * size) : (position - 1) / size + 1 ≤ Text.maxWord :=
  (Nat.div_lt_iff_lt_mul least).2 (by omega)

end Paged

/-- **The pages partition the records.**  For every number of records and every page size, a page
exists exactly when the records before it do not use up all there are.  The range of a page that
exists goes from the position after these to the end of the page, or to the last record, and all of
it is computed in numbers of 64 bits.  The range of the next page begins where it ends.  Every
position lies on exactly one page, up to the last page that a number of 32 bits can name. -/
theorem pages_partition {total size : Nat} (least : 1 ≤ size) (most : size ≤ largestPageSize) :
    (∀ page, 1 ≤ page → page ≤ Text.maxWord →
      (page ≤ pagesFor total size ↔ (page - 1) * size < total)
      ∧ (page ≤ pagesFor total size → (paged total size page).range
          = some ((page - 1) * size + 1, min (page * size) total))
      ∧ (paged total size page).longRange = some (paged total size page).range)
    ∧ (∀ page, 1 ≤ page → page + 1 ≤ pagesFor total size → ∃ first last last',
        (paged total size page).range = some (first, last)
        ∧ (paged total size (page + 1)).range = some (last + 1, last'))
    ∧ ∀ position, 1 ≤ position → position ≤ min total (Text.maxWord * size) →
        ∃ page, (1 ≤ page ∧ page ≤ pagesFor total size) ∧ (paged total size page).Covers position
          ∧ ∀ other, 1 ≤ other → other ≤ Text.maxWord →
              (paged total size other).Covers position → other = page := by
  have perPage (page : Nat) : (paged total size page).perPage = size := paged_perPage least most
  have range {page : Nat} (first : 1 ≤ page) (there : page ≤ pagesFor total size) :
      (paged total size page).range
        = some ((page - 1) * size + 1, min (page * size) total) := by
    have number := paged_page total size first
      (Nat.le_trans there (pagesFor_le_max total size))
    have spans := range_of_page_le (p := paged total size page)
    rw [totalPages, number, perPage, paged_totalCount] at spans
    exact spans there
  refine ⟨?_, ?_, ?_⟩
  · intro page first word
    exact ⟨le_pagesFor_iff least first word, range first, longRange_eq _⟩
  · intro page first there
    have full : page * size < total :=
      (le_pagesFor_iff least (Nat.le_add_left 1 page)
        (Nat.le_trans there (pagesFor_le_max total size))).1 there
    have spans := range (Nat.le_add_left 1 page) there
    rw [Nat.add_sub_cancel, ← Nat.min_eq_left (Nat.le_of_lt full)] at spans
    exact ⟨_, _, _, range first (Nat.le_of_succ_le there), spans⟩
  · intro position first within
    obtain ⟨inside, last⟩ := Nat.le_min.1 within
    have word := page_of_position_le least first last
    have number := paged_page total size
      (Nat.le_add_left 1 ((position - 1) / size)) word
    have covers : (paged total size ((position - 1) / size + 1)).Covers position := by
      rw [covers_iff_page, number, perPage]
      exact ⟨rfl, first, inside⟩
    have there := covers.page_le
    rw [totalPages, number, perPage, paged_totalCount] at there
    refine ⟨_, ⟨Nat.le_add_left 1 _, there⟩, covers, ?_⟩
    intro other first' word' covers'
    rw [covers_iff_page, paged_page total size first' word', perPage] at covers'
    exact covers'.1

/-- The most records that there can be, one to a page: they need more pages than can be named, and
the last page that can be named holds the position of its own number. -/
theorem pages_partition_of_most :
    1 ≤ 1 ∧ 1 ≤ largestPageSize ∧ pagesFor Text.maxLong 1 = Text.maxWord
    ∧ (paged Text.maxLong 1 Text.maxWord).range = some (Text.maxWord, Text.maxWord)
    ∧ ∃ page, (paged Text.maxLong 1 page).Covers Text.maxWord := by
  obtain ⟨ranges, -, positions⟩ :=
    @pages_partition Text.maxLong 1 (by decide) (by decide)
  obtain ⟨-, spans, -⟩ := ranges Text.maxWord (by decide) (by decide)
  obtain ⟨page, -, covers, -⟩ := positions Text.maxWord (by decide) (by decide)
  exact ⟨by decide, by decide, by decide, spans (by decide), page, covers⟩

end Paging

end Exposition
