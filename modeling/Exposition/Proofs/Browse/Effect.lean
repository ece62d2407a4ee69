import Exposition.Browse.Browser
import Exposition.Proofs.History.Keeps

/-!
# Proofs/Browse/Effect — what an input does to the browser

The browser tells the user what goes wrong and never fails itself, so its actions are one session
after another (`then_apply`).  What they do to its state comes in few kinds: the history moves on,
the phase changes, a search term is pushed, settles or is applied.

Of all this the filters and the search term that waits are followed here: an input is a command that
the filters obey at once, a search term that will have to wait, or the moment at which the term that
waits takes effect (`Browser.shift_step`).
-/

namespace Exposition

/-- **The filters after a command.** -/
def Filters.told (f : Filters) : Browse.Command → Filters
  | .language tag => { f with language := tag }
  | .level level => { f with level }
  | .favorite isFavorite => { f with isFavorite }
  | .search term => f.forTerm term
  | .clear => {}
  | _ => f

namespace Browse.Browser

open Text Exposition.Action

variable {σ : Type}

/-! ## Actions of the browser -/

/-- **An action of the browser never fails**: what comes after it starts where it has ended. -/
theorem then_apply (act : Act σ Unit) {α : Type} (next : Unit → Act σ α) (s : Session σ Browser) :
    (act >>= next) s = next () (act s).2 := by
  rw [bind_apply]
  rcases act s with ⟨e | ⟨⟩, s'⟩
  · exact e.elim
  · rfl

/-- The history moves on. -/
theorem perform_state {α : Type} (act : History.Act σ α) (s : Session σ Browser) :
    (perform act s).2.state
      = { s.state with history := (act (s.withState s.state.history)).2.state } := rfl

/-- Nothing but text comes of a view. -/
theorem view_state (s : Session σ Browser) : ((view : Act σ Unit) s).2.state = s.state := by
  rw [view, bind_of_ok (state_apply s)]
  cases s.state.history.selected with
  | none => rfl
  | some r => rfl

/-! ## Commands and the filters -/

section Keeps

variable {P : History → Prop}

theorem keeps_turning {act : History.Act σ Unit} (keeps : Keeps P act) :
    Keeps P (turning act) := by
  refine .bind .state fun h => ?_
  cases pagingHint? h with
  | some hint => exact .notify hint
  | none => exact keeps

theorem keeps_orHint [Service σ] {act : History.Act σ Bool} (keeps : Keeps P act)
    (hint : Notification) : Keeps P (orHint act hint) := by
  refine .bind keeps fun done => ?_
  cases done with
  | true => exact .pure ()
  | false => exact .notify hint

theorem keeps_onCard (card : Nat) {act : Record → History.Act σ Unit}
    (keeps : ∀ r, Keeps P (act r)) : Keeps P (onCard card act) := by
  refine .bind .state fun h => ?_
  cases card? h card with
  | some r => exact keeps r
  | none => exact .notify _

end Keeps

variable [Service σ]

/-- A change of the filters, whatever becomes of the load after it. -/
theorem refilter_filters (change : Filters → Filters) (s : Session σ History) :
    (refilter change s).2.state.filters = change s.state.filters :=
  History.filterBy_filters _ s

/-- **The filters obey a command**, unless it is a search, which has to wait. -/
theorem obey_filters {c : Command} (now : ∀ term, c ≠ .search term) (s : Session σ History) :
    (obey c s).2.state.filters = s.state.filters.told c := by
  have lasting := History.Lasting.filters s.state.filters
  have kept {act : History.Act σ Unit} (keeps : Keeps (·.filters = s.state.filters) act) :
      (act s).2.state.filters = s.state.filters := keeps s rfl
  cases c with
  | next => exact kept (keeps_turning (keeps_orHint (lasting.turnBy 1) _))
  | previous => exact kept (keeps_turning (keeps_orHint (lasting.turnBy (-1)) _))
  | page n => exact kept (keeps_turning (keeps_orHint (lasting.jumpTo n) _))
  | language tag => exact refilter_filters (fun f => { f with language := tag }) s
  | level level => exact refilter_filters (fun f => { f with level }) s
  | favorite isFavorite => exact refilter_filters (fun f => { f with isFavorite }) s
  | search term => exact absurd rfl (now term)
  | clear => exact History.filterBy_filters {} s
  | refresh => exact kept lasting.load
  | «open» card => exact kept (keeps_onCard card fun _ => .update fun _ same => same)
  | close => rfl
  | star card =>
    cases card with
    | none => exact kept (keeps_orHint lasting.toggleOpen _)
    | some card => exact kept (keeps_onCard card fun r => lasting.markFavorite r.id _)
  | remove card =>
    cases card with
    | none => rfl
    | some card => rfl
  | help => rfl
  | quit => rfl

theorem delete_filters (target : Target) (confirmed : Bool) (s : Session σ History) :
    (delete target confirmed s).2.state.filters = s.state.filters := by
  have lasting := History.Lasting.filters s.state.filters
  cases target with
  | card id => exact lasting.discard id confirmed s rfl
  | selected => exact lasting.discardOpen confirmed s rfl

/-! ## Inputs -/

/-- The command that a line gives, if it gives one. -/
def heard (bytes : List UInt8) : Option Command :=
  match Utf8.decode bytes with
  | .error _ => none
  | .ok line => (Command.read (dropLineEnd line)).toOption

/-- The command that an input gives: a line that answers a question gives none. -/
def command? (b : Browser) (input : Input) : Option Command :=
  match b.phase, input with
  | .command, .line bytes => heard bytes
  | _, _ => none

theorem command?_line {b : Browser} (free : b.phase = .command) (bytes : List UInt8) :
    b.command? (.line bytes) = heard bytes := by
  simp only [command?, free]

/-- Other inputs give no command. -/
theorem command?_other {b : Browser} {input : Input}
    (other : b.phase = .command → ∀ bytes, input ≠ .line bytes) : b.command? input = none := by
  unfold command?
  split
  · exact absurd rfl (other ‹_› _)
  · rfl

section State

variable (s : Session σ Browser)

theorem search_state (term : String) : ∃ h : History,
    h.filters = s.state.history.filters.forTerm term
      ∧ (search term s).2.state = { s.state with history := h } := by
  refine ⟨_, refilter_filters (·.forTerm term) (s.withState s.state.history), ?_⟩
  rw [search, then_apply, view_state, perform_state]

/-- The first load brings a history with the same filters. -/
theorem startUp_state : ∃ h : History, h.filters = s.state.history.filters
    ∧ (startUp s).2.state = { s.state with history := h } := by
  refine ⟨_, (History.Lasting.filters _).openUp (s.withState s.state.history) rfl, ?_⟩
  rw [startUp, then_apply, bind_of_ok (state_apply _), ← perform_state]
  dsimp only
  split
  · rfl
  · rfl

theorem searchSettled_state : ∃ h : History,
    h.filters = s.state.settled.elim s.state.history.filters s.state.history.filters.forTerm
      ∧ (searchSettled s).2.state = { s.state with history := h, settled := none } := by
  rw [searchSettled, bind_of_ok (state_apply s)]
  rcases settled : s.state.settled with _ | term
  · exact ⟨s.state.history, rfl, congrArg ({ s.state with settled := · }) settled⟩
  · exact search_state { s with state := { s.state with settled := none } } term

theorem takeAnswer_state (target : Target) (line : Option (List UInt8)) : ∃ h : History,
    h.filters = s.state.settled.elim s.state.history.filters s.state.history.filters.forTerm
      ∧ (takeAnswer target line s).2.state
        = { s.state with history := h, settled := none, phase := .command } := by
  rw [takeAnswer, then_apply, then_apply, then_apply]
  obtain ⟨h, filters, state⟩ := searchSettled_state
    (view (perform (delete target (isYesLine line)) (enter .command s).2).2).2
  rw [view_state, perform_state] at filters state
  refine ⟨h, filters.trans ?_, state⟩
  rw [delete_filters]
  rfl

theorem run_search (term : String) : (run (.search term) s).2.state
    = { s.state with searches := s.state.searches.push s.state.now term } := rfl

/-- A question changes no filters, whatever the command. -/
theorem told_of_target {h : History} {c : Command} {target : Target}
    (asks : target? h c = some target) (f : Filters) : f.told c = f := by
  cases c with
  | remove card => rfl
  | _ => exact absurd asks (by simp [target?])

/-- A command asks first, or the history obeys it. -/
theorem acting_state {c : Command} (now : ∀ term, c ≠ .search term) :
    ∃ (h : History) (phase : Phase), h.filters = s.state.history.filters.told c
      ∧ ((match target? s.state.history c with
        | some target => print (confirmation deletionQuestion) >>= fun _ => enter (.answer target)
        | none => perform (obey c) >>= fun _ => view : Act σ Unit) s).2.state
          = { s.state with history := h, phase } := by
  cases asks : target? s.state.history c with
  | none =>
    refine ⟨_, s.state.phase, obey_filters now (s.withState s.state.history), ?_⟩
    dsimp only
    rw [then_apply, view_state, perform_state]
  | some target => exact ⟨s.state.history, .answer target, (told_of_target asks _).symm, rfl⟩

/-- **A command runs**: the filters obey it, unless it is a search. -/
theorem run_state {c : Command} (now : ∀ term, c ≠ .search term) :
    ∃ (h : History) (phase : Phase), h.filters = s.state.history.filters.told c
      ∧ (run c s).2.state = { s.state with history := h, phase } := by
  cases c with
  | search term => exact absurd rfl (now term)
  | quit => exact ⟨s.state.history, .over none, rfl, rfl⟩
  | help => exact ⟨s.state.history, s.state.phase, rfl, rfl⟩
  | _ => exact acting_state s now

/-- A line that gives a command. -/
theorem readCommand_of_heard {bytes : List UInt8} {c : Command} (gives : heard bytes = some c) :
    (readCommand bytes : Act σ Unit) = run c := by
  rw [heard] at gives
  rw [readCommand]
  cases decoded : Utf8.decode bytes with
  | error fault => exact absurd gives (by simp [decoded])
  | ok line =>
    rw [decoded] at gives
    dsimp only at gives ⊢
    cases read : Command.read (dropLineEnd line) with
    | error e => exact absurd gives (by simp [read, Except.toOption])
    | ok c' =>
      rw [read] at gives
      obtain rfl : c' = c := Option.some.inj gives
      rfl

/-- A line that gives none may still end the browser. -/
theorem readCommand_of_unheard {bytes : List UInt8} (gives : heard bytes = none) :
    ∃ phase : Phase, (readCommand bytes s).2.state = { s.state with phase } := by
  rw [heard] at gives
  rw [readCommand]
  cases decoded : Utf8.decode bytes with
  | error fault => exact ⟨.over (some (.input (.notText fault))), rfl⟩
  | ok line =>
    rw [decoded] at gives
    dsimp only at gives ⊢
    cases read : Command.read (dropLineEnd line) with
    | error e => exact ⟨s.state.phase, rfl⟩
    | ok c =>
      rw [read] at gives
      exact absurd gives (by simp [Except.toOption])

theorem wait_of_unsettled {milliseconds : Nat} {searches : Debouncer String}
    (settles : s.state.searches.settle (s.state.now + milliseconds) = (none, searches)) :
    (wait milliseconds s).2.state = { s.state with now := s.state.now + milliseconds } := by
  rw [wait, then_apply, bind_of_ok (state_apply _), update_apply, Session.after_state, settles]
  rfl

/-- A search term settles. -/
theorem wait_of_settled {milliseconds : Nat} {settled : Nat} {term : String}
    {searches : Debouncer String} (settles : s.state.searches.settle (s.state.now + milliseconds)
      = (some (settled, term), searches)) :
    wait milliseconds s = (match s.state.phase with
      | .command => searchSettled
      | _ => return () : Act σ Unit)
        (s.after s.service { s.state with
          now := s.state.now + milliseconds, searches, settled := some term } []) := by
  rw [wait, then_apply, bind_of_ok (state_apply _), update_apply, Session.after_state, settles]
  dsimp only
  rw [then_apply, update_apply, Session.after_after]
  rfl

/-! ## The step -/

theorem step_of_over {error : Option CommandError} (ended : s.state.phase = .over error)
    (input : Input) : step input s = (.ok (), s) := by
  rw [step, bind_of_ok (state_apply s), ended]
  rfl

theorem step_of_command (free : s.state.phase = .command) (bytes : List UInt8) :
    step (.line bytes) s = readCommand bytes s := by
  rw [step, bind_of_ok (state_apply s), free]

theorem step_of_answer {target : Target} (asked : s.state.phase = .answer target)
    (bytes : List UInt8) : step (.line bytes) s = takeAnswer target (some bytes) s := by
  rw [step, bind_of_ok (state_apply s), asked]

theorem step_of_end (free : s.state.phase = .command) :
    step .noMore s = enter (.over none) s := by
  rw [step, bind_of_ok (state_apply s), free]

theorem step_of_lastAnswer {target : Target} (asked : s.state.phase = .answer target) :
    step .noMore s = (takeAnswer target none >>= fun _ => enter (.over none) : Act σ Unit) s := by
  rw [step, bind_of_ok (state_apply s), asked]

theorem step_pause (milliseconds : Nat) (going : ∀ error, s.state.phase ≠ .over error) :
    step (.pause milliseconds) s = wait milliseconds s := by
  rw [step, bind_of_ok (state_apply s)]
  cases phase : s.state.phase with
  | «over» error => exact absurd phase (going error)
  | command => rfl
  | answer target => rfl

end State

/-! ## What an input does to the filters -/

/-- The search term that waits: one that has not settled yet, or one that has settled while a
question is open. -/
def waiting (b : Browser) : Option String := b.settled.or (b.searches.pending.map (·.2))

/-- **A settled term waits for an answer**, and no other term waits behind it. -/
def Tidy (b : Browser) : Prop :=
  ∀ term, b.settled = some term → (∃ target, b.phase = .answer target) ∧ b.searches.pending = none

/-- **What an input does** to the filters and to the search term that waits. -/
inductive Shift (b b' : Browser) : Option Command → Prop
  /-- The filters obey the command at once, if there is one. -/
  | obeyed (heard : Option Command) (now : ∀ term, heard ≠ some (.search term))
      (filters : b'.history.filters = heard.toList.foldl Filters.told b.history.filters)
      (waiting : b'.waiting = b.waiting) : Shift b b' heard
  /-- A search has to wait. -/
  | searched (term : String) (filters : b'.history.filters = b.history.filters)
      (waiting : b'.waiting = some term) : Shift b b' (some (.search term))
  /-- The search that waits takes effect. -/
  | applied (term : String) (waited : b.waiting = some term) (waiting : b'.waiting = none)
      (filters : b'.history.filters = b.history.filters.forTerm term) : Shift b b' none

theorem Tidy.of_none {b : Browser} (unsettled : b.settled = none) : b.Tidy := fun term settled =>
  absurd (unsettled.symm.trans settled) (by simp)

variable {s : Session σ Browser}

/-- No term has settled while a command is awaited. -/
theorem Tidy.settled_eq_none {b : Browser} (tidy : b.Tidy) (free : b.phase = .command) :
    b.settled = none := by
  refine Option.eq_none_iff_forall_ne_some.2 fun term settled => ?_
  obtain ⟨⟨target, asked⟩, -⟩ := tidy term settled
  exact absurd (free.symm.trans asked) (by simp)

/-- Neither the filters change nor the search. -/
theorem Shift.rest {b b' : Browser} (filters : b'.history.filters = b.history.filters)
    (waiting : b'.waiting = b.waiting) : Shift b b' none :=
  .obeyed none (by simp) filters waiting

/-- The phase is no matter of the filters. -/
theorem Shift.entered {b b' : Browser} {heard : Option Command} (shift : Shift b b' heard)
    (phase : Phase) : Shift b { b' with phase } heard := by
  cases shift with
  | obeyed _ now filters waiting => exact .obeyed heard now filters waiting
  | searched term filters waiting => exact .searched term filters waiting
  | applied term waited waiting filters => exact .applied term waited waiting filters

theorem shift_readCommand (tidy : s.state.Tidy) (free : s.state.phase = .command)
    (bytes : List UInt8) : Shift s.state (readCommand bytes s).2.state (heard bytes)
      ∧ (readCommand bytes s).2.state.Tidy := by
  have settled := tidy.settled_eq_none free
  cases gives : heard bytes with
  | none =>
    obtain ⟨phase, state⟩ := readCommand_of_unheard s gives
    rw [state]
    exact ⟨.rest rfl rfl, .of_none settled⟩
  | some c =>
    rw [readCommand_of_heard gives]
    by_cases search : ∃ term, c = .search term
    · obtain ⟨term, rfl⟩ := search
      rw [run_search]
      refine ⟨.searched term rfl ?_, .of_none settled⟩
      rw [waiting, settled]
      rfl
    · have now : ∀ term, c ≠ .search term := fun term same => search ⟨term, same⟩
      obtain ⟨h, phase, filters, state⟩ := run_state s now
      rw [state]
      refine ⟨.obeyed (some c) (fun term same => now term (Option.some.inj same)) filters rfl, ?_⟩
      exact .of_none settled

theorem shift_takeAnswer (tidy : s.state.Tidy) (target : Target) (line : Option (List UInt8)) :
    Shift s.state (takeAnswer target line s).2.state none
      ∧ (takeAnswer target line s).2.state.Tidy := by
  obtain ⟨h, filters, state⟩ := takeAnswer_state s target line
  rw [state]
  refine ⟨?_, .of_none rfl⟩
  cases settled : s.state.settled with
  | none =>
    rw [settled] at filters
    refine .rest filters ?_
    rw [waiting, waiting, settled]
  | some term =>
    have last : s.state.searches.pending = none := (tidy term settled).2
    rw [settled] at filters
    refine .applied term ?_ ?_ filters
    · rw [waiting, settled]
      rfl
    · rw [waiting, last]
      rfl

/-- What settles was pending, and nothing is pending then. -/
theorem pending_of_settle {d d' : Debouncer String} {now settled : Nat} {term : String}
    (settles : d.settle now = (some (settled, term), d')) :
    d.pending.map (·.2) = some term ∧ d'.pending = none := by
  rw [Debouncer.settle] at settles
  cases pending : d.pending with
  | none => simp [pending] at settles
  | some held =>
    obtain ⟨pushed, value⟩ := held
    rw [pending] at settles
    dsimp only at settles
    split at settles
    · obtain ⟨same, rfl⟩ := Prod.mk.inj settles
      obtain ⟨-, rfl⟩ := Prod.mk.inj (Option.some.inj same)
      exact ⟨rfl, rfl⟩
    · exact absurd (congrArg Prod.fst settles) (by simp)

theorem shift_wait (tidy : s.state.Tidy) (going : ∀ error, s.state.phase ≠ .over error)
    (milliseconds : Nat) : Shift s.state (wait milliseconds s).2.state none
      ∧ (wait milliseconds s).2.state.Tidy := by
  rcases settles : s.state.searches.settle (s.state.now + milliseconds)
    with ⟨_ | ⟨settled, term⟩, searches⟩
  · rw [wait_of_unsettled s settles]
    exact ⟨.rest rfl rfl, tidy⟩
  · obtain ⟨pending, last⟩ := pending_of_settle settles
    -- No term waits behind one that has settled, so none has settled before this one.
    have unsettled : s.state.settled = none := by
      refine Option.eq_none_iff_forall_ne_some.2 fun before waits => ?_
      rw [(tidy before waits).2] at pending
      exact absurd pending (by simp)
    have waited : s.state.waiting = some term := by
      rw [waiting, unsettled, pending]
      rfl
    rw [wait_of_settled s settles]
    cases phase : s.state.phase with
    | «over» error => exact absurd phase (going error)
    | answer target => exact ⟨.rest rfl waited.symm, fun _ _ => ⟨⟨target, phase⟩, last⟩⟩
    | command =>
      obtain ⟨h, filters, state⟩ := searchSettled_state (s.after s.service { s.state with
        now := s.state.now + milliseconds, searches, settled := some term } [])
      dsimp only
      rw [state]
      refine ⟨.applied term waited ?_ filters, .of_none rfl⟩
      rw [waiting]
      change Option.or none (searches.pending.map (·.2)) = none
      rw [last]
      rfl

/-- **What an input does** to the filters and to the search term that waits. -/
theorem shift_step (tidy : s.state.Tidy) (input : Input) :
    Shift s.state (step input s).2.state (s.state.command? input)
      ∧ (step input s).2.state.Tidy := by
  cases phase : s.state.phase with
  | «over» error =>
    rw [step_of_over s phase, command?_other (by simp [phase])]
    exact ⟨.rest rfl rfl, tidy⟩
  | command =>
    have going : ∀ error, s.state.phase ≠ .over error := by simp [phase]
    cases input with
    | line bytes =>
      rw [step_of_command s phase, command?_line phase]
      exact shift_readCommand tidy phase bytes
    | pause milliseconds =>
      rw [step_pause s milliseconds going, command?_other (by simp)]
      exact shift_wait tidy going milliseconds
    | noMore =>
      rw [step_of_end s phase, command?_other (by simp)]
      exact ⟨.rest rfl rfl, .of_none (tidy.settled_eq_none phase)⟩
  | answer target =>
    have going : ∀ error, s.state.phase ≠ .over error := by simp [phase]
    rw [command?_other (by simp [phase])]
    cases input with
    | line bytes =>
      rw [step_of_answer s phase]
      exact shift_takeAnswer tidy target (some bytes)
    | pause milliseconds =>
      rw [step_pause s milliseconds going]
      exact shift_wait tidy going milliseconds
    | noMore =>
      obtain ⟨h, -, state⟩ := takeAnswer_state s target none
      rw [step_of_lastAnswer s phase, then_apply]
      refine ⟨(shift_takeAnswer tidy target none).1.entered (.over none), .of_none ?_⟩
      change (takeAnswer target none s).2.state.settled = none
      rw [state]

end Browse.Browser

end Exposition
