import Exposition.Proofs.History.Queries
import Exposition.Service.Scripted
import Exposition.Service.Store

/-!
# Proofs/History/Controls — controls, targets and range on a page that may be gone

The controls say which way pages can be turned, the targets where a turn would lead, and the range
which records the page shows.  Each reads page and totals in its own way.  Forward they always agree
(`Paging.hasNext_iff`); back, and on the range, they agree exactly while the page exists or is page
1 (`oneStory_iff`).

After a run the page is the one that the newest ticket asks for, and the totals are those of the
last answer that counted, so whether one story is told is a matter of these two
(`Desk.one_story_iff`).  Between two answers the totals may shrink, and then the story can come
apart (`Desk.story_comes_apart`).
-/

namespace Exposition

namespace Paging

variable (p : Paging)

/-- **The way on** leads to the next page, if there is one. -/
theorem target_next :
    p.target 1 = if p.page < p.totalPages then some (p.page + 1) else none := by
  by_cases next : p.page < p.totalPages
  · rw [target, if_pos (by omega), if_pos next]
    rfl
  · rw [target, if_neg (by omega), if_neg next]

/-- **The way back** leads to the page before, if that one exists. -/
theorem target_previous : p.target (-1)
    = if 1 < p.page ∧ p.page - 1 ≤ p.totalPages then some (p.page - 1) else none := by
  by_cases previous : 1 < p.page ∧ p.page - 1 ≤ p.totalPages
  · have hpage : ((p.page : Int) + -1).toNat = p.page - 1 := by omega
    rw [target, if_pos (by omega), if_pos previous, hpage]
  · rw [target, if_neg (by omega), if_neg previous]

theorem range_eq_none_iff : p.range = none ↔ p.totalCount = 0 := by
  rw [range]
  split
  · exact iff_of_true rfl ‹_›
  · exact iff_of_false (by simp) ‹_›

/-- There are pages as soon as there are records. -/
theorem totalPages_pos_iff : 0 < p.totalPages ↔ 0 < p.totalCount := by
  have first : 1 ≤ pagesFor p.totalCount p.perPage ↔ _ :=
    le_pagesFor_iff p.one_le_perPage (Nat.le_refl 1)
    (by decide)
  rwa [Nat.sub_self, Nat.zero_mul] at first

/-- **The range is a span of records** on a page that exists. -/
theorem span_of_range {first last : Nat} (there : p.page ≤ p.totalPages)
    (shown : p.range = some (first, last)) : 1 ≤ first ∧ first ≤ last ∧ last ≤ p.totalCount := by
  have before : (p.page - 1) * p.perPage < p.totalCount := p.page_le_totalPages_iff.1 there
  have within : (p.page - 1) * p.perPage + 1 ≤ p.page * p.perPage := by
    obtain ⟨k, hk⟩ := Nat.exists_eq_add_of_le' p.one_le_page
    rw [hk, Nat.add_sub_cancel, Nat.add_mul, Nat.one_mul]
    exact Nat.add_le_add_left p.one_le_perPage _
  rw [range, if_neg (by omega)] at shown
  obtain ⟨rfl, rfl⟩ := Prod.mk.inj (Option.some.inj shown)
  exact ⟨Nat.le_add_left _ _, Nat.le_min.2 ⟨within, before⟩, Nat.min_le_right _ _⟩

/-- **Forward, controls and targets always agree.** -/
theorem hasNext_iff : p.controls.hasNext = true ↔ (p.target 1).isSome = true := by
  rw [target_next]
  by_cases next : p.page < p.totalPages
  · simp [controls, next]
  · simp [controls, next]

/-- **Back, they agree** unless the page lies further behind the last one than one step leads. -/
theorem hasPrevious_iff : (p.controls.hasPrevious = true ↔ (p.target (-1)).isSome = true)
    ↔ p.page ≤ p.totalPages + 1 := by
  have first := p.one_le_page
  rw [target_previous]
  by_cases previous : 1 < p.page ∧ p.page - 1 ≤ p.totalPages
  · rw [if_pos previous]
    exact iff_of_true (by simp [controls, previous]) (by omega)
  · rw [if_neg previous]
    simp only [controls, decide_eq_true_eq, Option.isSome_none, Bool.false_eq_true, iff_false]
    omega

end Paging

namespace History

variable {σ : Type} [Service σ]

/-! ## One story -/

/-- **An action turns the page.** -/
def TurnsPage (act : Act σ Bool) (s : Session σ History) : Prop :=
  (act s).2.state.paging.page ≠ s.state.paging.page

/-- **Controls, targets and range tell one story.** -/
structure OneStory (s : Session σ History) : Prop where
  forward : s.state.paging.controls.hasNext = true ↔ (s.state.paging.target 1).isSome = true
  turnsForward : s.state.paging.controls.hasNext = true ↔ TurnsPage turnForward s
  back : s.state.paging.controls.hasPrevious = true ↔ (s.state.paging.target (-1)).isSome = true
  turnsBack : s.state.paging.controls.hasPrevious = true ↔ TurnsPage turnBack s
  /-- There is no range exactly on a page that does not exist. -/
  nowhere : s.state.paging.range = none ↔ s.state.paging.totalPages < s.state.paging.page
  span : ∀ first last, s.state.paging.range = some (first, last) →
    1 ≤ first ∧ first ≤ last ∧ last ≤ s.state.paging.totalCount

theorem load_page (s : Session σ History) :
    (load s).2.state.paging.page = s.state.paging.page := by
  rcases answered : Service.answer (.list s.state.query) s.service with ⟨reply, service⟩
  rw [load_apply answered]
  exact congrArg Query.page (received_query s.state reply)

/-- **A turn is a turn exactly when it leads somewhere.** -/
theorem turnsPage_turnBy_iff {delta : Int} (away : delta ≠ 0) (s : Session σ History) :
    TurnsPage (turnBy delta) s ↔ (s.state.paging.target delta).isSome = true := by
  rcases target : s.state.paging.target delta with _ | page
  · rw [TurnsPage, turnBy_of_none target]
    simp
  · obtain ⟨first, last⟩ := Paging.of_target_eq_some target
    have hmax : page ≤ Text.maxWord := Nat.le_trans last s.state.paging.totalPages_le_max
    have hpage : (page : Int) = s.state.paging.page + delta := by
      rw [Paging.target] at target
      split at target
      · rw [← Option.some.inj target]
        omega
      · exact absurd target (by simp)
    have reached : (turnBy delta s).2.state.paging.page = page := by
      rw [turnBy_of_some target, turnTo_apply, load_page]
      exact Paging.atPage_page first hmax
    rw [TurnsPage, reached]
    exact iff_of_true (by omega) rfl

/-- **Forward, one story is told in every state.** -/
theorem turnsForward_iff (s : Session σ History) :
    s.state.paging.controls.hasNext = true ↔ TurnsPage turnForward s :=
  s.state.paging.hasNext_iff.trans (turnsPage_turnBy_iff (by decide) s).symm

/-- **One story is told exactly on a page that exists, and on page 1.** -/
theorem oneStory_iff (s : Session σ History) :
    OneStory s ↔ s.state.paging.page ≤ max 1 s.state.paging.totalPages := by
  have first := s.state.paging.one_le_page
  have pages := s.state.paging.totalPages_pos_iff
  constructor
  · intro story
    have near := s.state.paging.hasPrevious_iff.1 story.back
    by_cases records : s.state.paging.totalCount = 0
    · omega
    · have there : ¬ s.state.paging.totalPages < s.state.paging.page := fun gone =>
        records (s.state.paging.range_eq_none_iff.1 (story.nowhere.2 gone))
      omega
  · intro there
    have back := s.state.paging.hasPrevious_iff.2 (by omega)
    refine ⟨s.state.paging.hasNext_iff, turnsForward_iff s, back,
      back.trans (turnsPage_turnBy_iff (by decide) s).symm, ?_, fun first last shown => ?_⟩
    · rw [Paging.range_eq_none_iff]
      omega
    · have records : s.state.paging.totalCount ≠ 0 := fun none =>
        absurd (shown.symm.trans (s.state.paging.range_eq_none_iff.2 none)) (by simp)
      exact s.state.paging.span_of_range (by omega) shown

/-! ## After a run -/

namespace Desk

/-- **When one story is told after a run**: forward always, and as a whole exactly when the newest
ticket asks for page 1 or for a page that the last answer knows of. -/
theorem one_story_iff (service : σ) (perPage : Nat) (ops : List Operation) :
    let d := (start service perPage).run ops
    ((d.session.state.paging.controls.hasNext = true
        ↔ (d.session.state.paging.target 1).isSome = true)
      ∧ (d.session.state.paging.controls.hasNext = true ↔ TurnsPage turnForward d.session))
    ∧ (OneStory d.session ↔ ∀ t, d.log.newest? = some t → t.query.page
        ≤ max 1 (pagesFor ((d.log.answer?.map Slice.totalCount).getD 0) t.query.perPage)) := by
  intro d
  have tracks : Tracks d.log d.session.state := tracks_run (Tracks.start perPage) ops
  have lawful : Lawful perPage d.log d.session.state :=
    lawful_run (Tracks.start perPage) (Lawful.start perPage) ops
  refine ⟨⟨d.session.state.paging.hasNext_iff, turnsForward_iff d.session⟩,
    (oneStory_iff d.session).trans ?_⟩
  rw [← tracks.totalCount]
  constructor
  · intro there t newest
    rw [(tracks.newest t newest).2]
    exact there
  · intro known
    rcases newest : d.log.newest? with _ | t
    · rw [lawful.fresh newest]
      exact Nat.le_max_left _ _
    · have there := known t newest
      rw [(tracks.newest t newest).2] at there
      exact there

/-! Totals that shrink: three records, each on a page of its own; on page 3 the page is loaded
again, and by then one record is left. -/

/-- A store of three records, and a third answer that knows of one record only. -/
def shrinking : Scripted Store where
  service := { records := [3, 2, 1].map fun id => ⟨id, "", "", .beginner, "", false, ⟨0, 0⟩, none⟩ }
  script := [none, none, some fun
    | .list _ => .ok ⟨[], 1⟩
    | _ => .error (.unexpected "")]

/-- **The story can come apart**: on page 3 of 1 the way back is said to be open and leads nowhere,
and the page without records is said to show records 3 to 1. -/
theorem story_comes_apart :
    let s := ((start shrinking 1).run [.load, .jumpTo 3, .load]).session
    s.state.paging.page = 3 ∧ s.state.paging.totalPages = 1 ∧ s.state.records = []
    ∧ s.state.paging.controls.hasPrevious = true ∧ s.state.paging.target (-1) = none
    ∧ s.state.paging.range = some (3, 1) ∧ ¬ OneStory s := by
  intro s
  have page : s.state.paging.page = 3 := by decide
  have pages : s.state.paging.totalPages = 1 := by decide
  refine ⟨page, pages, by decide, by decide, by decide, by decide, fun story => ?_⟩
  exact absurd ((oneStory_iff s).1 story) (by rw [page, pages]; decide)

end Desk

end History

end Exposition
