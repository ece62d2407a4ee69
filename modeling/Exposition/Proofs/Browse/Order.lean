import Exposition.Proofs.Browse.Effect
import Exposition.Service.Store
import Mathlib.Data.List.Induction

/-!
# Proofs/Browse/Order — filters and the order in which commands were typed

The user types filter commands one after the other, so the filters ought to be those that the
commands set in this order.  They are, as long as no search comes back: a search waits for a pause,
and if `clear` is typed while it waits, the search still takes effect, after the `clear` that was to
lift it.  This is the only way in which the order is lost (`Sitting.keeps_order_iff`), and it can
happen (`Sitting.order_lost`).

A search that waits changes no filter but the search term, so the other filters are always those
that the commands set (`Follows.others`); whether the search term is, too, is read off the commands
typed since.
-/

namespace Exposition.Browse

/-! ## What commands ask for -/

/-- **The filters that commands ask for**, typed in this order. -/
def asked (commands : List Command) : Filters := commands.foldl Filters.told {}

/-- **The search has been cleared**: `clear` was typed, and no search since. -/
def Cleared (commands : List Command) : Prop :=
  ∃ before after, commands = before ++ .clear :: after ∧ ∀ term, .search term ∉ after

/-- The other filters are set alike, whatever the search term was. -/
theorem foldl_told_forTerm (commands : List Command) {f g : Filters} {term : String}
    (alike : f.forTerm term = g.forTerm term) : (commands.foldl Filters.told f).forTerm term
      = (commands.foldl Filters.told g).forTerm term := by
  induction commands generalizing f g with
  | nil => exact alike
  | cons c commands ih =>
    refine ih ?_
    have told (k : Filters) : (k.told c).forTerm term = ((k.forTerm term).told c).forTerm term := by
      cases c with
      | _ => rfl
    rw [told f, told g, alike]

/-- A search for the term that is there already. -/
theorem forTerm_eq_self {f : Filters} {term : String}
    (search : f.search = Filters.unlessBlank term) : f.forTerm term = f := by
  rw [Filters.forTerm, ← search]

/-- Without another search, a search term stays until it is cleared. -/
theorem search_foldl_told {commands : List Command} (last : ∀ term, .search term ∉ commands)
    {f : Filters} (stays : f.search = none ∨ .clear ∉ commands) :
    (commands.foldl Filters.told f).search = f.search := by
  induction commands generalizing f with
  | nil => rfl
  | cons c commands ih =>
    have same : (f.told c).search = f.search := by
      cases c with
      | search term => exact absurd (List.mem_cons_self ..) (last term)
      | clear =>
        rcases stays with none | uncleared
        · exact none.symm
        · exact absurd (List.mem_cons_self ..) uncleared
      | _ => rfl
    rw [List.foldl_cons, ih (fun term mem => last term (List.mem_cons_of_mem _ mem)) ?_, same]
    exact stays.imp (same.trans ·) fun uncleared mem => uncleared (List.mem_cons_of_mem _ mem)

/-- Cleared filters have no search term. -/
theorem Cleared.search_asked {commands : List Command} (cleared : Cleared commands) :
    (asked commands).search = none := by
  obtain ⟨before, after, rfl, last⟩ := cleared
  rw [asked, List.foldl_append, List.foldl_cons]
  exact search_foldl_told last (.inl rfl)

/-! ## Sittings -/

/-- **A user at the browser**: its session, and the commands given so far in the order of typing. -/
structure Sitting (σ : Type) where
  session : Session σ Browser
  given : List Command := []

namespace Sitting

variable {σ : Type}

/-- The filters of the history. -/
def filters (m : Sitting σ) : Filters := m.session.state.history.filters

/-- The search term that waits. -/
def waiting (m : Sitting σ) : Option String := m.session.state.waiting

/-- **In order**: where no search waits, the filters are those that the commands ask for. -/
def InOrder (m : Sitting σ) : Prop := m.waiting = none → m.filters = asked m.given

/-! ## The invariant -/

/-- **The filters follow the commands** but for the search term, and the term that waits is that of
the last search. -/
structure Follows (m : Sitting σ) : Prop where
  tidy : m.session.state.Tidy
  others : ∀ term, m.filters.forTerm term = (asked m.given).forTerm term
  latest : ∀ term, m.waiting = some term → ∃ before after,
    m.given = before ++ .search term :: after ∧ ∀ term', .search term' ∉ after

/-- **The term that waits** is the one that the commands ask for, unless it has been cleared. -/
theorem Follows.search_asked {m : Sitting σ} (follows : Follows m) {term : String}
    (waits : m.waiting = some term) :
    (asked m.given).search = Filters.unlessBlank term ∨ Cleared m.given := by
  obtain ⟨before, after, given, last⟩ := follows.latest term waits
  by_cases cleared : .clear ∈ after
  · obtain ⟨after, rest, rfl⟩ := List.append_of_mem cleared
    refine .inr ⟨before ++ .search term :: after, rest, ?_, fun term' mem => ?_⟩
    · rw [given, List.append_assoc, List.cons_append]
    · exact last term' (List.mem_append_right _ (List.mem_cons_of_mem _ mem))
  · rw [given, asked, List.foldl_append, List.foldl_cons, search_foldl_told last (.inr cleared)]
    exact .inl rfl

/-! ## Inputs -/

variable [Service σ]

/-- The browser has just been started. -/
def start (service : σ) (pageSize searchDelay : Nat) : Sitting σ where
  session := (Browser.startUp { service, state := .start pageSize searchDelay }).2

/-- One input. -/
def step (m : Sitting σ) (input : Input) : Sitting σ where
  session := (Browser.step input m.session).2
  given := m.given ++ (m.session.state.command? input).toList

/-- Several inputs, one after the other. -/
def run (m : Sitting σ) (inputs : List Input) : Sitting σ := inputs.foldl step m

/-- **A search comes back**: at this input a search term takes effect that was cleared while it
waited. -/
def ComesBack (m : Sitting σ) (input : Input) : Prop :=
  ∃ term, m.waiting = some term ∧ (m.step input).waiting = none ∧ Text.blank term = false
    ∧ Cleared m.given

/-- Nothing has been asked for yet. -/
theorem start_state (service : σ) (pageSize searchDelay : Nat) :
    (start service pageSize searchDelay).filters = {}
      ∧ (start service pageSize searchDelay).waiting = none
      ∧ (start service pageSize searchDelay).session.state.Tidy := by
  obtain ⟨h, filters, state⟩ :=
    Browser.startUp_state { service, state := .start pageSize searchDelay }
  rw [Sitting.filters, Sitting.waiting, start, state]
  exact ⟨filters, rfl, .of_none rfl⟩

namespace Follows

variable {m : Sitting σ}

theorem start (service : σ) (pageSize searchDelay : Nat) :
    Follows (start service pageSize searchDelay) := by
  obtain ⟨filters, waiting, tidy⟩ := start_state service pageSize searchDelay
  refine ⟨tidy, fun term => by rw [filters]; rfl, fun term waits => ?_⟩
  exact absurd (waiting.symm.trans waits) (by simp)

/-- **A step**: its command joins those given, and so do the filters. -/
theorem step (follows : Follows m) (input : Input) : Follows (m.step input) := by
  obtain ⟨shift, tidy⟩ := Browser.shift_step follows.tidy input
  have given : (m.step input).given = m.given ++ (m.session.state.command? input).toList := rfl
  generalize m.session.state.command? input = heard at shift given
  cases shift with
  | obeyed _ now filters waiting =>
    refine ⟨tidy, fun other => ?_, fun term waits => ?_⟩
    · rw [given, asked, List.foldl_append]
      exact (congrArg (·.forTerm other) filters).trans
        (foldl_told_forTerm heard.toList (follows.others other))
    · obtain ⟨before, after, split, last⟩ := follows.latest term (waiting.symm.trans waits)
      refine ⟨before, after ++ heard.toList, ?_, fun term' mem => ?_⟩
      · rw [given, split, List.append_assoc, List.cons_append]
      · rcases List.mem_append.1 mem with mem | mem
        · exact last term' mem
        · exact now term' (Option.mem_toList.1 mem)
  | searched term filters waiting =>
    refine ⟨tidy, fun other => ?_, fun term' waits => ?_⟩
    · rw [given, asked, List.foldl_append]
      exact (congrArg (·.forTerm other) filters).trans (follows.others other)
    · obtain rfl : term = term' := Option.some.inj (waiting.symm.trans waits)
      exact ⟨m.given, [], given, by simp⟩
  | applied term waited waiting filters =>
    refine ⟨tidy, fun other => ?_, fun term' waits => ?_⟩
    · rw [given, Option.toList_none, List.append_nil]
      exact (congrArg (·.forTerm other) filters).trans (follows.others other)
    · exact absurd (waiting.symm.trans waits) (by simp)

/-- **The order is kept by every input** but one at which a search comes back. -/
theorem inOrder_step_iff (follows : Follows m) (inOrder : m.InOrder) (input : Input) :
    (m.step input).InOrder ↔ ¬ m.ComesBack input := by
  obtain ⟨shift, -⟩ := Browser.shift_step follows.tidy input
  have given : (m.step input).given = m.given ++ (m.session.state.command? input).toList := rfl
  generalize m.session.state.command? input = heard at shift given
  cases shift with
  | obeyed _ now filters waiting =>
    refine iff_of_true (fun settled => ?_) fun ⟨term, waits, settled, _⟩ => ?_
    · rw [given, asked, List.foldl_append]
      exact filters.trans (congrArg (heard.toList.foldl Filters.told)
        (inOrder (waiting.symm.trans settled)))
    · exact absurd (waits.symm.trans (waiting.symm.trans settled)) (by simp)
  | searched term filters waiting =>
    refine iff_of_true (fun settled => ?_) fun ⟨_, _, settled, _⟩ => ?_
    · exact absurd (waiting.symm.trans settled) (by simp)
    · exact absurd (waiting.symm.trans settled) (by simp)
  | applied term waited waiting filters =>
    rw [Option.toList_none, List.append_nil] at given
    have effect : (m.step input).filters = (asked m.given).forTerm term :=
      filters.trans (follows.others term)
    constructor
    · rintro kept ⟨term', waits, settled, visible, cleared⟩
      obtain rfl : term = term' := Option.some.inj (waited.symm.trans waits)
      -- In order, the search term would be both lifted and set.
      have search := congrArg Filters.search ((kept waiting).symm.trans effect)
      rw [given, cleared.search_asked] at search
      exact absurd search (by simp [Filters.forTerm, Filters.unlessBlank, visible])
    · intro gone settled
      rw [effect, given]
      refine forTerm_eq_self ?_
      rcases follows.search_asked waited with search | cleared
      · exact search
      · rw [cleared.search_asked, Filters.unlessBlank, if_pos]
        exact eq_true_of_ne_false fun visible => gone ⟨term, waited, waiting, visible, cleared⟩

end Follows

/-! ## Runs -/

variable {m : Sitting σ}

theorem run_concat (inputs : List Input) (input : Input) :
    m.run (inputs ++ [input]) = (m.run inputs).step input := by
  rw [run, List.foldl_append]
  rfl

theorem Follows.run (follows : Follows m) (inputs : List Input) : Follows (m.run inputs) := by
  induction inputs generalizing m with
  | nil => exact follows
  | cons input inputs ih => exact ih (follows.step input)

/-- **When filter commands take effect in the order of typing**: at every moment at which no search
waits, the filters are those that the commands ask for, exactly when no search comes back. -/
theorem keeps_order_iff (service : σ) (pageSize searchDelay : Nat) (inputs : List Input) :
    (∀ before after, inputs = before ++ after →
      ((start service pageSize searchDelay).run before).InOrder)
    ↔ ∀ before input after, inputs = before ++ input :: after →
      ¬ ((start service pageSize searchDelay).run before).ComesBack input := by
  have follows := Follows.start service pageSize searchDelay
  constructor
  · intro kept before input after split
    refine ((follows.run before).inOrder_step_iff (kept before _ split) input).1 ?_
    rw [← run_concat]
    exact kept _ after (by rw [split, List.append_assoc]; rfl)
  · intro gone before
    induction before using List.reverseRecOn with
    | nil => exact fun _ _ _ => (start_state service pageSize searchDelay).1
    | append_singleton before input ih =>
      intro after split
      rw [List.append_assoc] at split
      rw [run_concat]
      exact ((follows.run before).inOrder_step_iff (ih _ split) input).2
        (gone before input after split)

/-! ## A search that comes back -/

/-- A search is typed and cleared, and only then the pause comes. -/
def clearedSearch : List Input :=
  [.line (Text.Utf8.encode "search foo\n".toList), .line (Text.Utf8.encode "clear\n".toList),
    .pause 300]

/-- **The order can be lost**: no search waits any more and all filters were lifted last, but the
history is filtered by the search. -/
theorem order_lost :
    let m := (start (⟨[], [], []⟩ : Store) 12 300).run clearedSearch
    asked m.given = {} ∧ m.filters = { search := some "foo" } ∧ ¬ m.InOrder := by
  intro m
  have lifted : asked m.given = {} := by decide +kernel
  have filtered : m.filters = { search := some "foo" } := by decide +kernel
  have settled : m.waiting = none := by decide +kernel
  refine ⟨lifted, filtered, fun inOrder => ?_⟩
  exact absurd (lifted.symm.trans ((inOrder settled).symm.trans filtered)) (by decide)

end Sitting

end Exposition.Browse
