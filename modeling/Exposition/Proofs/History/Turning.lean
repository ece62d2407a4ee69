import Exposition.Proofs.History.Landing
import Exposition.Proofs.History.Walk
import Mathlib.Algebra.Ring.Int.Defs

/-!
# Proofs/History/Turning — turning pages adds up

Pages are turned by a difference or by going straight to a page.  The two test their bounds in
different ways, one on whole numbers and one on numbers of 32 bits, and come to the same
(`turnBy_eq_jumpTo`).  At an archive a turn that leads somewhere **reaches** its page, and what it
shows there depends on the page alone and not on the way (`Reached.same`).  So a row of turns, as
long as each leads to a page that exists, ends where one jump by their sum does
(`turns_add_up`).
-/

namespace Exposition

/-! ## Targets -/

namespace Paging

variable {p : Paging} {delta : Int}

/-- **The target of a turn** is the page that a jump by as much would go to. -/
theorem target_eq_of_page {page : Nat} (away : p.page + delta = page) : p.target delta
    = if page = 0 ∨ p.totalPages < page then none else some page := by
  have number : (p.page + delta).toNat = page := by omega
  by_cases missing : page = 0 ∨ p.totalPages < page
  · rw [target, if_neg (by omega), if_pos missing]
  · rw [target, if_pos (by omega), if_neg missing, number]

/-- A turn to what is no number of a page has no target. -/
theorem target_eq_none (nowhere : ∀ page : Nat, page ≤ Text.maxWord → p.page + delta ≠ page) :
    p.target delta = none := by
  have most := p.totalPages_le_max
  refine if_neg fun there => nowhere (p.page + delta).toNat ?_ ?_
  · omega
  · omega

end Paging

/-! ## Smooth sessions, bit by bit -/

/-- What has been smooth since some time has been smooth since a later one. -/
theorem Smooth.later {σ κ : Type} {s s' s'' : Session σ κ} (smooth : Smooth (s.since s''))
    (passed : s.transcript.length ≤ s'.transcript.length) : Smooth (s'.since s'') := by
  obtain ⟨more, length⟩ := Nat.exists_eq_add_of_le passed
  rw [Session.since, length, ← List.drop_drop]
  exact fun e mem => smooth e (List.mem_of_mem_drop mem)

namespace History

section Bits

variable {σ α β : Type} [Service σ] {allowed : Request → Prop} {s : Session σ History}

/-- A walk lets no event be forgotten. -/
theorem Walks.length_le {ε : Type} {act : Action ε σ History α} (walks : Walks allowed act)
    (s : Session σ History) : s.transcript.length ≤ (act s).2.transcript.length := by
  obtain ⟨events, walk⟩ := walks s
  rw [walk.transcript, List.length_append]
  exact Nat.le_add_right _ _

/-- The first of two actions is smooth if both together are. -/
theorem Walks.smooth_first {ε : Type} {act : Action ε σ History α}
    {next : α → Action ε σ History β} (first : Walks allowed act)
    (second : ∀ a, Walks allowed (next a)) (smooth : Smooth (s.since ((act >>= next) s).2)) :
    Smooth (s.since (act s).2) := by
  obtain ⟨events, walk⟩ := first s
  rw [Action.bind_apply] at smooth
  rcases done : act s with ⟨e | a, s'⟩
  · rwa [done] at smooth
  · rw [done] at smooth walk
    obtain ⟨events', walk'⟩ := second a s'
    rw [(walk.trans walk').since_eq] at smooth
    rw [walk.since_eq]
    exact smooth.left

theorem Walks.mapM {ε : Type} {act : α → Action ε σ History β}
    (walks : ∀ a, Walks allowed (act a)) (as : List α) : Walks allowed (as.mapM act) := by
  induction as with
  | nil => exact .pure []
  | cons a as ih =>
    rw [List.mapM_cons]
    exact .bind (walks a) fun b => .bind ih fun bs => .pure (b :: bs)

end Bits

/-! ## One turn -/

section OneTurn

variable {σ : Type} [Service σ] {s : Session σ History} {delta : Int} {page : Nat}

/-- **A turn is a jump** to the page where it leads. -/
theorem turnBy_eq_jumpTo (away : s.state.paging.page + delta = page) :
    turnBy delta s = jumpTo page s := by
  by_cases missing : page = 0 ∨ s.state.paging.totalPages < page
  · have nowhere : s.state.paging.target delta = none := by
      rw [Paging.target_eq_of_page away, if_pos missing]
    rw [turnBy_of_none nowhere, jumpTo_of_missing missing]
  · have somewhere : s.state.paging.target delta = some page := by
      rw [Paging.target_eq_of_page away, if_neg missing]
    rw [turnBy_of_some somewhere, jumpTo_of_page missing]

/-- Who has gone to a page does not give `false`. -/
theorem map_true_ne_false {ε α : Type} (result : Except ε α) :
    (result.map fun _ => true) ≠ .ok false := by
  cases result with
  | error e => simp [Except.map]
  | ok a => simp [Except.map]

/-- A turn that gives `false` has done nothing. -/
theorem turnBy_idle (idle : (turnBy delta s).1 = .ok false) : (turnBy delta s).2 = s := by
  rcases target : s.state.paging.target delta with _ | page
  · rw [turnBy_of_none target]
  · rw [turnBy_of_some target] at idle
    exact absurd idle (map_true_ne_false _)

/-- A jump that gives `false` has done nothing. -/
theorem jumpTo_idle (idle : (jumpTo page s).1 = .ok false) : (jumpTo page s).2 = s := by
  by_cases missing : page = 0 ∨ s.state.paging.totalPages < page
  · rw [jumpTo_of_missing missing]
  · rw [jumpTo_of_page missing] at idle
    exact absurd idle (map_true_ne_false _)

end OneTurn

/-! ## Reaching a page -/

variable {σ : Type} [Archive σ]

/-- **A page was reached**, under the same filters and among the same records. -/
structure Reached (s s' : Session σ History) (page : Nat) : Prop where
  records : Archive.records s'.service = Archive.records s.service
  shown : Shows s'.service s'.state
  query : s'.state.query = ⟨page, s.state.paging.perPage, s.state.filters⟩

namespace Reached

variable {s s' s'' : Session σ History} {page page' : Nat}

theorem page_eq (reached : Reached s s' page) : s'.state.paging.page = page :=
  congrArg Query.page reached.query

theorem perPage (reached : Reached s s' page) :
    s'.state.paging.perPage = s.state.paging.perPage := congrArg Query.perPage reached.query

theorem filters (reached : Reached s s' page) : s'.state.filters = s.state.filters :=
  congrArg Query.filters reached.query

/-- From there another page is reached. -/
theorem trans (reached : Reached s s' page) (reached' : Reached s' s'' page') :
    Reached s s'' page' where
  records := reached'.records.trans reached.records
  shown := reached'.shown
  query := by rw [reached'.query, reached.perPage, reached.filters]

theorem totalCount (reached : Reached s s' page) :
    s'.state.paging.totalCount = (Archive.matching s.service s.state.filters).length := by
  rw [reached.shown.totalCount, reached.filters, Archive.matching_congr reached.records]

/-- **What is shown depends on the page alone**, and not on the way to it. -/
theorem same (reached : Reached s s' page) (reached' : Reached s s'' page) :
    s'.state.paging = s''.state.paging ∧ s'.state.records = s''.state.records
      ∧ s'.state.view = s''.state.view ∧ s'.state.filters = s''.state.filters := by
  have records : s'.state.records = s''.state.records := by
    rw [reached.shown.records, reached'.shown.records, reached.query, reached'.query,
      Archive.page_congr reached.records, Archive.page_congr reached'.records]
  refine ⟨?_, records, ?_, reached.filters.trans reached'.filters.symm⟩
  · have pages := reached.page_eq.trans reached'.page_eq.symm
    have sizes := reached.perPage.trans reached'.perPage.symm
    have totals := reached.totalCount.trans reached'.totalCount.symm
    generalize s'.state.paging = p, s''.state.paging = p' at pages sizes totals
    obtain ⟨page, perPage, totalCount⟩ := p
    obtain ⟨page', perPage', totalCount'⟩ := p'
    simp only [Paging.mk.injEq]
    exact ⟨pages, sizes, totals⟩
  · rw [reached.shown.view, reached'.shown.view, records]

end Reached

section Reaching

variable {s : Session σ History} {delta : Int} {page : Nat}

/-- **Going to a page reaches it**, if no request fails. -/
theorem turnTo_reaches (first : 1 ≤ page) (most : page ≤ Text.maxWord)
    (smooth : Smooth (s.since (turnTo page s).2)) :
    (turnTo page s).1 = .ok () ∧ Reached s (turnTo page s).2 page := by
  rcases answered : Service.answer (.list (s.state.atPage page).query) s.service
    with ⟨e | slice, service⟩
  · rw [turnTo_apply, load_after answered, Session.since_after] at smooth
    exact absurd smooth (Smooth.not_error (List.mem_cons_self ..))
  · have loaded := Loaded.of_listed answered
    rw [turnTo_apply, load_after answered]
    exact ⟨rfl, loaded.records, loaded.shown, loaded.query.trans (query_atPage first most)⟩

/-- A jump to a page that exists reaches it. -/
theorem jumpTo_reaches (first : 1 ≤ page) (last : page ≤ s.state.paging.totalPages)
    (smooth : Smooth (s.since (jumpTo page s).2)) :
    (jumpTo page s).1 = .ok true ∧ Reached s (jumpTo page s).2 page := by
  have there : ¬ (page = 0 ∨ s.state.paging.totalPages < page) := by omega
  rw [jumpTo_of_page there] at smooth ⊢
  obtain ⟨done, reached⟩ :=
    turnTo_reaches first (Nat.le_trans last s.state.paging.totalPages_le_max) smooth
  rw [done]
  exact ⟨rfl, reached⟩

/-- **The first turn of a row** reaches its page, and the others go on from there. -/
theorem turns_cons {deltas : List Int} (away : s.state.paging.page + delta = page)
    (first : 1 ≤ page) (last : page ≤ s.state.paging.totalPages)
    (smooth : Smooth (s.since ((delta :: deltas).mapM turnBy s).2)) : ∃ s',
      Reached s s' page ∧ Smooth (s'.since (deltas.mapM turnBy s').2)
      ∧ (delta :: deltas).mapM turnBy s
        = ((deltas.mapM turnBy s').1.map (true :: ·), (deltas.mapM turnBy s').2) := by
  have walks : ∀ delta, Walks (fun _ => False) (turnBy delta : Act σ Bool) := .turnBy
  rw [List.mapM_cons] at smooth ⊢
  have turned : Smooth (s.since (turnBy delta s).2) := (walks delta).smooth_first
    (fun b => .bind (.mapM walks deltas) fun bs => .pure (b :: bs)) smooth
  have passed := (walks delta).length_le s
  rw [turnBy_eq_jumpTo away] at turned passed
  obtain ⟨done, reached⟩ := jumpTo_reaches first last turned
  have turn : turnBy delta s = (.ok true, (jumpTo page s).2) :=
    (turnBy_eq_jumpTo away).trans (Prod.ext done rfl)
  rw [Action.bind_of_ok turn, Action.bind_pure_apply] at smooth ⊢
  exact ⟨_, reached, smooth.later passed, rfl⟩

/-- **How many pages there are** under the filters of a history, whatever it knows of them. -/
def pagesOf (s : Session σ History) : Nat :=
  pagesFor (Archive.matching s.service s.state.filters).length s.state.paging.perPage

/-- A history that has reached a page knows how many there are. -/
theorem Reached.totalPages {s' : Session σ History} (reached : Reached s s' page) :
    s'.state.paging.totalPages = pagesOf s := by
  rw [Paging.totalPages, reached.totalCount, reached.perPage]
  rfl

/-- Each of these turns, one after the other from a page, leads to one of so many pages. -/
def StaysWithin (pages page : Nat) (deltas : List Int) : Prop :=
  ∀ k < deltas.length, 1 ≤ page + (deltas.take (k + 1)).sum
    ∧ page + (deltas.take (k + 1)).sum ≤ pages

instance (pages page : Nat) (deltas : List Int) : Decidable (StaysWithin pages page deltas) :=
  inferInstanceAs (Decidable (∀ k < deltas.length, 1 ≤ page + (deltas.take (k + 1)).sum
    ∧ page + (deltas.take (k + 1)).sum ≤ pages))

/-- The first turn leads to a page, and so do the others from there. -/
theorem StaysWithin.cons {pages : Nat} {deltas : List Int}
    (within : StaysWithin pages page (delta :: deltas)) : ∃ next : Nat,
      (page : Int) + delta = next ∧ 1 ≤ next ∧ next ≤ pages ∧ StaysWithin pages next deltas := by
  have first := within 0 (Nat.succ_pos _)
  simp only [List.take_succ_cons, List.take_zero, List.sum_cons, List.sum_nil] at first
  refine ⟨(page + delta).toNat, by omega, by omega, by omega, fun k shorter => ?_⟩
  have later := within (k + 1) (Nat.succ_lt_succ shorter)
  simp only [List.take_succ_cons, List.sum_cons] at later ⊢
  omega

/-- The last turn leads to a page. -/
theorem StaysWithin.last {pages last : Nat} {deltas : List Int} (some : deltas ≠ [])
    (within : StaysWithin pages page deltas) (ends : page + deltas.sum = last) :
    1 ≤ last ∧ last ≤ pages := by
  have length : deltas.length - 1 + 1 = deltas.length :=
    Nat.sub_add_cancel (List.length_pos_iff.2 some)
  have there := within (deltas.length - 1) (Nat.sub_lt (List.length_pos_iff.2 some) Nat.one_pos)
  rw [length, List.take_length, ends] at there
  omega

/-- **A row of turns** from a page that was reached ends on the page that lies as far on as their
sum. -/
theorem Reached.turns {s' : Session σ History} {deltas : List Int} (reached : Reached s s' page)
    (within : StaysWithin (pagesOf s) page deltas) {last : Nat} (ends : page + deltas.sum = last)
    (smooth : Smooth (s'.since (deltas.mapM turnBy s').2)) :
    (deltas.mapM turnBy s').1 = .ok (deltas.map fun _ => true)
      ∧ Reached s (deltas.mapM turnBy s').2 last := by
  induction deltas generalizing s' page with
  | nil =>
    rw [List.sum_nil, Int.add_zero, Int.ofNat_inj] at ends
    exact ⟨rfl, ends ▸ reached⟩
  | cons delta deltas ih =>
    obtain ⟨next, away, first, there, within'⟩ := within.cons
    obtain ⟨s'', reached', smooth', turns⟩ :=
      turns_cons (reached.page_eq ▸ away) first (reached.totalPages ▸ there) smooth
    rw [List.sum_cons, ← Int.add_assoc, away] at ends
    obtain ⟨done, arrived⟩ := ih (reached.trans reached') within' ends smooth'
    rw [turns, done]
    exact ⟨rfl, arrived⟩

end Reaching

/-- **Turning pages adds up.**  In every state of a history and whatever the service replies, a turn
does what a jump to its target does, with the same result, requests and notifications, if the target
is a number of pages at all; if it is no number of 32 bits, the turn gives `false`; and a turn or a
jump that gives `false` has done nothing.  At an archive, in every state that knows how many records
match, a row of turns that stays among the pages ends as one jump by their sum, if no request fails:
all of them turn, and paging, records, view and filters are the same. -/
theorem turns_add_up {τ : Type} [Service τ] :
    (∀ (s : Session τ History) (delta : Int),
      (∀ page : Nat, s.state.paging.page + delta = page → turnBy delta s = jumpTo page s)
      ∧ ((∀ page : Nat, page ≤ Text.maxWord → s.state.paging.page + delta ≠ page) →
          (turnBy delta s).1 = .ok false)
      ∧ ((turnBy delta s).1 = .ok false → (turnBy delta s).2 = s)
      ∧ ∀ page, (jumpTo page s).1 = .ok false → (jumpTo page s).2 = s)
    ∧ ∀ (s : Session σ History) (deltas : List Int) (last : Nat),
      s.state.paging.totalCount = (Archive.matching s.service s.state.filters).length →
      deltas ≠ [] → StaysWithin s.state.paging.totalPages s.state.paging.page deltas →
      s.state.paging.page + deltas.sum = last →
      let turned := deltas.mapM turnBy s
      let jumped := jumpTo last s
      Smooth (s.since turned.2) → Smooth (s.since jumped.2) →
        (turned.1 = .ok (deltas.map fun _ => true) ∧ jumped.1 = .ok true)
        ∧ turned.2.state.paging.page = last
        ∧ turned.2.state.paging = jumped.2.state.paging
        ∧ turned.2.state.records = jumped.2.state.records
        ∧ turned.2.state.view = jumped.2.state.view
        ∧ turned.2.state.filters = jumped.2.state.filters := by
  refine ⟨fun s delta => ⟨fun page away => turnBy_eq_jumpTo away, fun nowhere => ?_, turnBy_idle,
    fun page => jumpTo_idle⟩, ?_⟩
  · rw [turnBy_of_none (Paging.target_eq_none nowhere)]
  · intro s deltas last totals some within ends turned jumped smooth smooth'
    have pages : s.state.paging.totalPages = pagesOf s := by
      rw [Paging.totalPages, totals]
      rfl
    obtain ⟨first, most⟩ := within.last some ends
    obtain ⟨done', arrived'⟩ := jumpTo_reaches first most smooth'
    obtain ⟨delta, deltas, rfl⟩ := List.exists_cons_of_ne_nil some
    obtain ⟨next, away, first, there, within'⟩ := within.cons
    obtain ⟨s', reached, smooth, turns⟩ := turns_cons away first there smooth
    rw [List.sum_cons, ← Int.add_assoc, away] at ends
    obtain ⟨done, arrived⟩ := reached.turns (pages ▸ within') ends smooth
    rw [show turned = _ from turns, done]
    exact ⟨⟨rfl, done'⟩, arrived.page_eq, arrived.same arrived'⟩

/-! Two pages on and one back, among three records that each have a page of their own. -/

/-- A history on page 1 that knows of three records. -/
def onFirstOfThree : Session Store History where
  service := { records := [3, 2, 1].map fun id => ⟨id, "", "", .beginner, "", false, ⟨0, 0⟩, none⟩ }
  state := { start 1 with paging := (Paging.start 1).withTotal 3 }

theorem turns_add_up_of_there_and_back :
    let s := onFirstOfThree
    let deltas : List Int := [2, -1]
    let turned := deltas.mapM turnBy s
    let jumped := jumpTo 2 s
    s.state.paging.totalCount = (Archive.matching s.service s.state.filters).length
    ∧ StaysWithin s.state.paging.totalPages s.state.paging.page deltas
    ∧ s.state.paging.page + deltas.sum = 2
    ∧ Smooth (s.since turned.2) ∧ Smooth (s.since jumped.2)
    ∧ turned.2.state.records = jumped.2.state.records
    ∧ turned.2.state.records.map (·.id) = [2]
    ∧ turnBy (-1) s = jumpTo 0 s := by
  intro s deltas turned jumped
  have totals : s.state.paging.totalCount = (Archive.matching s.service s.state.filters).length :=
    rfl
  have within : StaysWithin s.state.paging.totalPages s.state.paging.page deltas := by decide
  have smooth : Smooth (s.since turned.2) := by decide
  have smooth' : Smooth (s.since jumped.2) := by decide
  obtain ⟨turns, adds⟩ := turns_add_up (σ := Store) (τ := Store)
  obtain ⟨-, -, -, records, -⟩ := adds s deltas 2 totals (by decide) within rfl smooth smooth'
  exact ⟨totals, within, rfl, smooth, smooth', records, by decide,
    (turns s (-1)).1 0 rfl⟩

end History

end Exposition
