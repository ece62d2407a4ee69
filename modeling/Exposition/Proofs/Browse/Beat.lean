import Exposition.Proofs.Browse.Order
import Exposition.Proofs.History.Run

/-!
# Proofs/Browse/Beat — what one input comes to

An input is one **beat** of the browser (`Beat`): a line gets a remark, ends the browser, asks a
question or acts; time passes; a search takes effect.  Whatever acts on the history ends by showing
it, and does at most one operation to it, with perhaps a hint (`Does`); which operation a command
calls for is read off a table (`operation?`).

So what holds of the history and of all that has passed is kept by every beat as soon as remarks
keep it and operations do, each with the view that follows it (`Lasts.beat`).
-/

namespace Exposition

open Exposition.Action
open History (Operation Walk)

/-- The operation turns pages. -/
def History.Operation.TurnsPages : Operation → Prop
  | .turnBy _ | .turnForward | .turnBack | .jumpTo _ => True
  | _ => False

/-- A walk prints nothing. -/
theorem History.Walk.silent {σ : Type} [Service σ] {allowed : Request → Prop}
    {s s' : Session σ History} {events : List Event} (walk : Walk allowed s events s')
    (text : String) : .printed text ∉ events := by
  induction walk with
  | rest => simp
  | on walk stride ih =>
    rw [List.mem_append]
    refine fun mem => mem.elim ih fun mem => ?_
    cases stride with
    | @fetch _ reply =>
      cases reply with
      | _ => simp [History.pageEvents, History.notices] at mem
    | _ => simp at mem

namespace Browse.Browser

variable {σ : Type}

/-! ## Commands as operations -/

/-- An operation that is left out while the last load has failed. -/
def whilePaging (h : History) (o : Operation) : Option Operation :=
  match pagingHint? h with
  | some _ => none
  | none => some o

/-- **The operation that a command calls for**, if it calls for one.  Deletions ask first. -/
def operation? (h : History) : Command → Option Operation
  | .next => whilePaging h .turnForward
  | .previous => whilePaging h .turnBack
  | .page n => whilePaging h (.jumpTo n)
  | .language tag => some (.filterBy { h.filters with language := tag })
  | .level level => some (.filterBy { h.filters with level })
  | .favorite isFavorite => some (.filterBy { h.filters with isFavorite })
  | .clear => some .liftFilters
  | .refresh => some .load
  | .open card => (card? h card).map .select
  | .close => some .deselect
  | .star none => some .toggleOpen
  | .star (some card) => (card? h card).map fun r => .markFavorite r.id (!r.isFavorite)
  | .search _ | .remove _ | .help | .quit => none

/-- The operation that deletes what a question was about. -/
def deletion (confirmed : Bool) : Target → Operation
  | .card id => .discard id confirmed
  | .selected => .discardOpen confirmed

/-- **An operation that the browser can do**: it carries no ticket by hand, and turns no page while
the last load has failed. -/
structure CanDo (h : History) (o : Operation) : Prop where
  whole : o.IsWhole
  bounded : o.TurnsPages → ∀ message, h.view ≠ .failed message

theorem pagingHint?_eq_none_iff {h : History} :
    pagingHint? h = none ↔ ∀ message, h.view ≠ .failed message := by
  cases view : h.view with
  | failed message => simp [pagingHint?, view]
  | _ => simp [pagingHint?, view]

theorem eq_of_whilePaging {h : History} {o o' : Operation} (paging : whilePaging h o = some o') :
    pagingHint? h = none ∧ o = o' := by
  rw [whilePaging] at paging
  cases hint : pagingHint? h with
  | some n => simp [hint] at paging
  | none =>
    rw [hint] at paging
    exact ⟨rfl, Option.some.inj paging⟩

theorem canDo_of_whilePaging {h : History} {o o' : Operation} (whole : o.IsWhole)
    (paging : whilePaging h o = some o') : CanDo h o' := by
  obtain ⟨free, rfl⟩ := eq_of_whilePaging paging
  exact ⟨whole, fun _ => pagingHint?_eq_none_iff.1 free⟩

/-- **Every command calls for an operation that the browser can do.** -/
theorem canDo_operation? {h : History} {c : Command} {o : Operation}
    (calls : operation? h c = some o) : CanDo h o := by
  cases c with
  | next => exact canDo_of_whilePaging (o := .turnForward) trivial calls
  | previous => exact canDo_of_whilePaging (o := .turnBack) trivial calls
  | page n => exact canDo_of_whilePaging (o := .jumpTo n) trivial calls
  | «open» card =>
    obtain ⟨r, -, rfl⟩ := Option.map_eq_some_iff.1 calls
    exact ⟨trivial, False.elim⟩
  | star card =>
    cases card with
    | none =>
      obtain rfl := Option.some.inj calls
      exact ⟨trivial, False.elim⟩
    | some card =>
      obtain ⟨r, -, rfl⟩ := Option.map_eq_some_iff.1 calls
      exact ⟨trivial, False.elim⟩
  | search | remove | help | quit => exact absurd calls (by simp [operation?])
  | _ =>
    obtain rfl := Option.some.inj calls
    exact ⟨trivial, False.elim⟩

theorem canDo_deletion (h : History) (confirmed : Bool) (target : Target) :
    CanDo h (deletion confirmed target) := by
  cases target with
  | _ => exact ⟨trivial, False.elim⟩

/-! ## Showing -/

/-- The open record, or else the list, as it is shown. -/
def viewed (h : History) : String :=
  match h.selected with
  | some r => r.detail ++ "\n"
  | none => h.listing

/-- The session of the history inside that of the browser. -/
def historyPart (s : Session σ Browser) : Session σ History := s.withState s.state.history

/-- **The session after an action on the history**, when the history has been shown. -/
def shown {α : Type} (act : History.Act σ α) (s : Session σ Browser) : Session σ Browser :=
  (view (perform act s).2).2

section Shown

variable {α : Type} (act : History.Act σ α) (s : Session σ Browser)

theorem view_apply : (view : Act σ Unit) s
    = (.ok (), s.after s.service s.state [.printed (viewed s.state.history)]) := by
  rw [view, bind_of_ok (state_apply s)]
  simp only [viewed]
  cases s.state.history.selected with
  | none => rfl
  | some r => rfl

theorem shown_state : (shown act s).state
    = { s.state with history := (act (historyPart s)).2.state } := by
  rw [shown, view_state, perform_state]
  rfl

theorem shown_transcript : (shown act s).transcript
    = (act (historyPart s)).2.transcript ++ [.printed (viewed (act (historyPart s)).2.state)] := by
  rw [shown, view_apply]
  rfl

end Shown

/-- The line that names the languages, if there are any. -/
def naming (h : History) : List Event :=
  if h.languages.isEmpty then []
  else [.printed ("Languages: " ++ String.intercalate ", " (h.languages.map (·.value)) ++ "\n")]

variable [Service σ]

section Start

variable (s : Session σ Browser)

/-- **The start**: the history is opened up, and the languages and the list are shown. -/
theorem startUp_apply : (startUp s).2
    = (perform History.openUp s).2.after (perform History.openUp s).2.service
      (perform History.openUp s).2.state
      (naming (perform History.openUp s).2.state.history
        ++ [.printed (perform History.openUp s).2.state.history.listing]) := by
  rw [startUp, then_apply, bind_of_ok (state_apply _), naming]
  dsimp only
  split
  · rfl
  · exact Session.after_after ..

theorem startUp_opened : (startUp s).2.state
    = { s.state with history := (History.openUp (historyPart s)).2.state } := by
  rw [startUp_apply, Session.after_state, perform_state]
  rfl

theorem startUp_transcript : (startUp s).2.transcript
    = (History.openUp (historyPart s)).2.transcript
      ++ (naming (History.openUp (historyPart s)).2.state
        ++ [.printed (History.openUp (historyPart s)).2.state.listing]) := by
  rw [startUp_apply, Session.after_transcript, perform_state]
  rfl

end Start

/-! ## What is done to a history -/

/-- **What is done to a history**: at most one operation, and hints after it. -/
inductive Does (s : Session σ History) : Option Operation → Session σ History → Prop
  | nothing : Does s none s
  | operation (o : Operation) : Does s (some o) (o.act s).2
  | hinted {o : Option Operation} {s' : Session σ History} (does : Does s o s')
    (n : Notification) : Does s o (s'.after s'.service s'.state [.notified n])

theorem does_orHint {o : Operation} {act : History.Act σ Bool} {s : Session σ History}
    (same : (o.act s).2 = (act s).2) (hint : Notification) :
    Does s (some o) (orHint act hint s).2 := by
  have does : Does s (some o) (act s).2 := same ▸ .operation o
  rw [orHint, bind_apply]
  rcases done : act s with ⟨e | _ | _, s'⟩
  · rw [done] at does
    exact does
  · rw [done] at does
    exact does.hinted hint
  · rw [done] at does
    exact does

theorem does_turning {o : Operation} {act : History.Act σ Bool} {s : Session σ History}
    (same : (o.act s).2 = (act s).2) (hint : Notification) :
    Does s (whilePaging s.state o) (turning (orHint act hint) s).2 := by
  rw [turning, bind_of_ok (state_apply s), whilePaging]
  cases pagingHint? s.state with
  | some n => exact .hinted .nothing n
  | none => exact does_orHint same hint

/-- A search filters the history. -/
theorem does_refilter (f : Filters → Filters) (s : Session σ History) :
    Does s (some (.filterBy (f s.state.filters))) (refilter f s).2 := .operation _

theorem canDo_filterBy (h : History) (filters : Filters) : CanDo h (.filterBy filters) :=
  ⟨trivial, False.elim⟩

theorem does_onCard {o : Record → Operation} {act : Record → History.Act σ Unit}
    {s : Session σ History} (same : ∀ r, ((o r).act s).2 = (act r s).2) (card : Nat) :
    Does s ((card? s.state card).map o) (onCard card act s).2 := by
  rw [onCard, bind_of_ok (state_apply s)]
  cases card? s.state card with
  | some r => exact same r ▸ .operation (o r)
  | none => exact .hinted .nothing _

/-- **A command does what it calls for**, and nothing else but for hints. -/
theorem does_obey (c : Command) (s : Session σ History) :
    Does s (operation? s.state c) (obey c s).2 := by
  cases c with
  | next => exact does_turning rfl _
  | previous => exact does_turning rfl _
  | page n => exact does_turning rfl _
  | language tag => exact .operation (.filterBy _)
  | level level => exact .operation (.filterBy _)
  | favorite isFavorite => exact .operation (.filterBy _)
  | search term => exact .nothing
  | clear => exact .operation .liftFilters
  | refresh => exact .operation .load
  | «open» card => exact does_onCard (fun _ => rfl) card
  | close => exact .operation .deselect
  | star card =>
    cases card with
    | none => exact does_orHint rfl _
    | some card => exact does_onCard (fun _ => rfl) card
  | remove card =>
    cases card with
    | none => exact .hinted .nothing _
    | some card => exact .hinted .nothing _
  | help => exact .nothing
  | quit => exact .nothing

theorem does_delete (target : Target) (confirmed : Bool) (s : Session σ History) :
    Does s (some (deletion confirmed target)) (delete target confirmed s).2 := by
  cases target with
  | card id => exact .operation (.discard id confirmed)
  | selected => exact .operation (.discardOpen confirmed)

/-- What is done is a walk. -/
theorem Does.walk {s s' : Session σ History} {o : Option Operation} {allowed : Request → Prop}
    (does : Does s o s') (whole : ∀ o', o = some o' → o'.IsWhole)
    (may : ∀ o' r, o = some o' → o'.MayAsk r → allowed r) :
    ∃ events, Walk allowed s events s' := by
  induction does with
  | nothing => exact ⟨[], .rest s⟩
  | operation o => exact o.walks (whole o rfl) (fun r => may o r rfl) s
  | hinted does n ih =>
    obtain ⟨events, walk⟩ := ih whole may
    exact ⟨_, walk.on (.tell _ n)⟩

/-! ## Beats -/

/-- **A line that ends the browser**: it says so, or it is no text, which is an error. -/
inductive Ends (bytes : List UInt8) : Option CommandError → Prop
  | quits (gives : heard bytes = some .quit) : Ends bytes none
  | garbled {fault : Text.Utf8.Fault} (garbled : Text.Utf8.decode bytes = .error fault) :
    Ends bytes (some (.input (.notText fault)))

theorem heard_of_garbled {bytes : List UInt8} {fault : Text.Utf8.Fault}
    (garbled : Text.Utf8.decode bytes = .error fault) : heard bytes = none := by
  rw [heard, garbled]

theorem Ends.unique {bytes : List UInt8} {error error' : Option CommandError}
    (ends : Ends bytes error) (ends' : Ends bytes error') : error = error' := by
  cases ends with
  | quits gives =>
    cases ends' with
    | quits => rfl
    | garbled garbled => exact absurd ((heard_of_garbled garbled).symm.trans gives) (by simp)
  | garbled garbled =>
    cases ends' with
    | quits gives => exact absurd ((heard_of_garbled garbled).symm.trans gives) (by simp)
    | garbled garbled' =>
      obtain rfl := Except.error.inj (garbled.symm.trans garbled')
      rfl

/-- **A remark**: a word about a line, the help, or a question. -/
inductive IsRemark : Event → Prop
  | complaint (text : String) : IsRemark (.complained text)
  | help : IsRemark (.printed (help ++ "\n"))
  | question : IsRemark (.printed (confirmation deletionQuestion))

/-- The session after a deletion was confirmed or not. -/
def decided (target : Target) (confirmed : Bool) (s : Session σ Browser) : Session σ Browser :=
  (searchSettled (shown (delete target confirmed)
    (s.after s.service { s.state with phase := .command } []))).2

/-- **What an input comes to.** -/
inductive Beat (s : Session σ Browser) : Input → Session σ Browser → Prop
  /-- Nothing happens any more. -/
  | ended {error : Option CommandError} (finished : s.state.phase = .over error) (input : Input) :
    Beat s input s
  /-- A line that is no command, or calls for help. -/
  | remarked {bytes : List UInt8} {e : Event} (free : s.state.phase = .command)
    (idle : ∀ c, heard bytes = some c → c = .help) (stays : ∀ error, ¬ Ends bytes error)
    (remark : IsRemark e) (unasked : e ≠ .printed (confirmation deletionQuestion)) :
    Beat s (.line bytes) (s.after s.service s.state [e])
  | left {bytes : List UInt8} {error : Option CommandError} (free : s.state.phase = .command)
    (ends : Ends bytes error) :
    Beat s (.line bytes) (s.after s.service { s.state with phase := .over error } [])
  /-- A search has to wait. -/
  | searched {bytes : List UInt8} {term : String} (free : s.state.phase = .command)
    (gives : heard bytes = some (.search term)) :
    Beat s (.line bytes) (s.after s.service
      { s.state with searches := s.state.searches.push s.state.now term } [])
  /-- A deletion asks first. -/
  | asked {bytes : List UInt8} {c : Command} {target : Target} (free : s.state.phase = .command)
    (gives : heard bytes = some c) (asks : target? s.state.history c = some target) :
    Beat s (.line bytes) (s.after s.service { s.state with phase := .answer target }
      [.printed (confirmation deletionQuestion)])
  | obeyed {bytes : List UInt8} {c : Command} (free : s.state.phase = .command)
    (gives : heard bytes = some c) (stays : c ≠ .quit)
    (unasked : target? s.state.history c = none) : Beat s (.line bytes) (shown (obey c) s)
  | answered {target : Target} (asking : s.state.phase = .answer target) (bytes : List UInt8) :
    Beat s (.line bytes) (decided target (isYesLine (some bytes)) s)
  | closed (free : s.state.phase = .command) :
    Beat s .noMore (s.after s.service { s.state with phase := .over none } [])
  /-- No answer will come any more. -/
  | cutOff {target : Target} (asking : s.state.phase = .answer target) : Beat s .noMore
      (enter (.over none) (decided target false s)).2
  /-- Time passes. -/
  | passed (going : ∀ error, s.state.phase ≠ .over error) (milliseconds : Nat) :
    Beat s (.pause milliseconds)
      (s.after s.service { s.state with now := s.state.now + milliseconds } [])
  /-- A search has settled while a question is open. -/
  | held {target : Target} (asking : s.state.phase = .answer target) (milliseconds : Nat)
    (searches : Debouncer String) (term : String) : Beat s (.pause milliseconds)
      (s.after s.service { s.state with
        now := s.state.now + milliseconds, searches, settled := some term } [])
  /-- A search has settled and takes effect. -/
  | settled (free : s.state.phase = .command) (milliseconds : Nat)
    (searches : Debouncer String) (term : String) : Beat s (.pause milliseconds)
      (searchSettled (s.after s.service { s.state with
        now := s.state.now + milliseconds, searches, settled := some term } [])).2

section Beat

variable (s : Session σ Browser)

theorem searchSettled_of_none (unsettled : s.state.settled = none) :
    (searchSettled s).2 = s := by
  rw [searchSettled, bind_of_ok (state_apply s), unsettled]
  rfl

/-- A search that has settled is shown. -/
theorem searchSettled_of_some {term : String} (settled : s.state.settled = some term) :
    (searchSettled s).2 = shown (refilter (·.forTerm term))
      (s.after s.service { s.state with settled := none } []) := by
  rw [searchSettled, bind_of_ok (state_apply s), settled]
  dsimp only
  rw [then_apply, update_apply, search, then_apply]
  rfl

theorem takeAnswer_apply (target : Target) (line : Option (List UInt8)) :
    (takeAnswer target line s).2 = decided target (isYesLine line) s := by
  have entered : enter (.command) s
      = (.ok (ε := Empty) (), s.after s.service { s.state with phase := .command } []) :=
    update_apply ..
  rw [takeAnswer, then_apply, then_apply, then_apply, entered]
  rfl

/-- A command that acts asks first, or the history obeys it. -/
theorem run_of_acting {c : Command} (stays : c ≠ .quit) (help : c ≠ .help)
    (now : ∀ term, c ≠ .search term) :
    run c s = (match target? s.state.history c with
      | some target => print (confirmation deletionQuestion) >>= fun _ => enter (.answer target)
      | none => perform (obey c) >>= fun _ => view : Act σ Unit) s := by
  cases c with
  | quit => exact absurd rfl stays
  | help => exact absurd rfl help
  | search term => exact absurd rfl (now term)
  | _ => rfl

theorem not_ends_of_heard {bytes : List UInt8} {c : Command} (gives : heard bytes = some c)
    (stays : c ≠ .quit) (error : Option CommandError) : ¬ Ends bytes error := fun ends => by
  cases ends with
  | quits quits => exact stays (Option.some.inj (gives.symm.trans quits))
  | garbled garbled => exact absurd ((heard_of_garbled garbled).symm.trans gives) (by simp)

theorem beat_readCommand {bytes : List UInt8} (free : s.state.phase = .command) :
    Beat s (.line bytes) (readCommand bytes s).2 := by
  cases gives : heard bytes with
  | none =>
    cases decoded : Text.Utf8.decode bytes with
    | error fault =>
      have garbled : readCommand bytes s = enter (.over (some (.input (.notText fault)))) s := by
        rw [readCommand, decoded]
      rw [garbled, enter, update_apply]
      exact .left free (.garbled decoded)
    | ok line =>
      cases read : Command.read (Text.dropLineEnd line) with
      | error e =>
        have misread : readCommand bytes s = complain e.message s := by
          simp only [readCommand, decoded, read]
        rw [misread]
        refine .remarked free (by simp [gives]) (fun error ends => ?_) (.complaint _) (by simp)
        cases ends with
        | quits quits => exact absurd (gives.symm.trans quits) (by simp)
        | garbled garbled => exact absurd (decoded.symm.trans garbled) (by simp)
      | ok c => exact absurd gives (by simp [heard, decoded, read, Except.toOption])
  | some c =>
    rw [readCommand_of_heard gives]
    by_cases quits : c = .quit
    · subst quits
      change Beat s _ (enter (.over none) s).2
      rw [enter, update_apply]
      exact .left free (.quits gives)
    have stays := not_ends_of_heard gives quits
    by_cases help : c = .help
    · subst help
      refine .remarked free (fun c' gives' => Option.some.inj (gives'.symm.trans gives)) stays
        .help fun same => ?_
      exact absurd (Event.printed.inj same) (by decide +kernel)
    by_cases search : ∃ term, c = .search term
    · obtain ⟨term, rfl⟩ := search
      change Beat s _ (update _ s).2
      rw [update_apply]
      exact .searched free gives
    rw [run_of_acting s quits help fun term same => search ⟨term, same⟩]
    cases asks : target? s.state.history c with
    | some target =>
      exact .asked free gives asks
    | none =>
      dsimp only
      rw [then_apply]
      exact .obeyed free gives quits asks

theorem beat_wait (going : ∀ error, s.state.phase ≠ .over error) (milliseconds : Nat) :
    Beat s (.pause milliseconds) (wait milliseconds s).2 := by
  rcases settles : s.state.searches.settle (s.state.now + milliseconds)
    with ⟨_ | ⟨settled, term⟩, searches⟩
  · have unsettled : (wait milliseconds s).2
        = s.after s.service { s.state with now := s.state.now + milliseconds } [] := by
      rw [wait, then_apply, bind_of_ok (state_apply _), update_apply, Session.after_state, settles]
      rfl
    rw [unsettled]
    exact .passed going milliseconds
  · rw [wait_of_settled s settles]
    cases phase : s.state.phase with
    | «over» error => exact absurd phase (going error)
    | answer target => exact .held phase milliseconds searches term
    | command => exact .settled phase milliseconds searches term

/-- A command comes from a line that is read as one. -/
theorem of_command?_eq_some {b : Browser} {input : Input} {c : Command}
    (gives : b.command? input = some c) :
    b.phase = .command ∧ ∃ bytes, input = .line bytes ∧ heard bytes = some c := by
  unfold command? at gives
  split at gives
  · rename_i bytes phase
    exact ⟨phase, bytes, rfl, gives⟩
  · exact absurd gives (by simp)

/-- The history obeys a command that acts without a question. -/
theorem step_of_obeyed {input : Input} {c : Command} (gives : s.state.command? input = some c)
    (stays : c ≠ .quit) (help : c ≠ .help) (now : ∀ term, c ≠ .search term)
    (unasked : target? s.state.history c = none) : (step input s).2 = shown (obey c) s := by
  obtain ⟨free, bytes, rfl, heard⟩ := of_command?_eq_some gives
  rw [step_of_command s free, readCommand_of_heard heard, run_of_acting s stays help now, unasked]
  dsimp only
  rw [then_apply]
  rfl

/-- A deletion asks first. -/
theorem step_of_asking {input : Input} {c : Command} (gives : s.state.command? input = some c)
    {target : Target} (asks : target? s.state.history c = some target) : (step input s).2
      = s.after s.service { s.state with phase := .answer target }
        [.printed (confirmation deletionQuestion)] := by
  obtain ⟨free, bytes, rfl, heard⟩ := of_command?_eq_some gives
  rw [step_of_command s free, readCommand_of_heard heard]
  cases c with
  | remove card =>
    rw [run_of_acting s (by simp) (by simp) (by simp), asks]
    rfl
  | _ => exact absurd asks (by simp [target?])

/-- **Every input is a beat.** -/
theorem beat_step (input : Input) : Beat s input (step input s).2 := by
  cases phase : s.state.phase with
  | «over» error =>
    rw [step_of_over s phase]
    exact .ended phase input
  | command =>
    cases input with
    | line bytes =>
      rw [step_of_command s phase]
      exact beat_readCommand s phase
    | pause milliseconds =>
      rw [step_pause s milliseconds (by simp [phase])]
      exact beat_wait s (by simp [phase]) milliseconds
    | noMore =>
      rw [step_of_end s phase, enter, update_apply]
      exact .closed phase
  | answer target =>
    cases input with
    | line bytes =>
      rw [step_of_answer s phase, takeAnswer_apply]
      exact .answered phase bytes
    | pause milliseconds =>
      rw [step_pause s milliseconds (by simp [phase])]
      exact beat_wait s (by simp [phase]) milliseconds
    | noMore =>
      rw [step_of_lastAnswer s phase, then_apply, takeAnswer_apply]
      exact .cutOff phase

end Beat

/-! ## What every beat keeps -/

/-- **What survives remarks and operations**: a property of all that has passed and of the history
that a remark keeps, and an operation together with the view after it. -/
structure Lasts (σ : Type) [Service σ] (P : List Event → History → Prop) : Prop where
  remark : ∀ {events h e}, IsRemark e → P events h → P (events ++ [e]) h
  does : ∀ {s s' : Session σ History} {o}, Does s o s' → (∀ o', o = some o' → CanDo s.state o') →
    P s.transcript s.state → P (s'.transcript ++ [.printed (viewed s'.state)]) s'.state

namespace Lasts

variable {P : List Event → History → Prop} {s : Session σ Browser}

theorem shown (lasts : Lasts σ P) {α : Type} {act : History.Act σ α} {o : Option Operation}
    (does : Does (historyPart s) o (act (historyPart s)).2)
    (can : ∀ o', o = some o' → CanDo s.state.history o')
    (holds : P s.transcript s.state.history) :
    P (shown act s).transcript (shown act s).state.history := by
  rw [shown_transcript, shown_state]
  exact lasts.does does can holds

theorem searchSettled (lasts : Lasts σ P) (holds : P s.transcript s.state.history) :
    P (searchSettled s).2.transcript (searchSettled s).2.state.history := by
  cases settled : s.state.settled with
  | none => rwa [searchSettled_of_none s settled]
  | some term =>
    rw [searchSettled_of_some s settled]
    refine lasts.shown (does_refilter _ _) ?_ ?_
    · rintro _ ⟨⟩
      exact canDo_filterBy _ _
    · rw [Session.after_transcript, List.append_nil]
      exact holds

theorem decided (lasts : Lasts σ P) (target : Target) (confirmed : Bool)
    (holds : P s.transcript s.state.history) :
    P (decided target confirmed s).transcript (decided target confirmed s).state.history := by
  refine lasts.searchSettled (lasts.shown (does_delete target confirmed _) ?_ ?_)
  · rintro _ ⟨⟩
    exact canDo_deletion _ confirmed target
  · rw [Session.after_transcript, List.append_nil]
    exact holds

/-- **Every beat keeps it.** -/
theorem beat (lasts : Lasts σ P) {input : Input} {s' : Session σ Browser} (beat : Beat s input s')
    (holds : P s.transcript s.state.history) : P s'.transcript s'.state.history := by
  have quiet {b : Browser} (same : b.history = s.state.history) :
      P (s.after s.service b []).transcript (s.after s.service b []).state.history := by
    rw [Session.after_transcript, List.append_nil, Session.after_state, same]
    exact holds
  cases beat with
  | ended => exact holds
  | remarked free idle stays remark => exact lasts.remark remark holds
  | left => exact quiet rfl
  | searched => exact quiet rfl
  | asked => exact lasts.remark .question holds
  | obeyed => exact lasts.shown (does_obey _ _) (fun _ calls => canDo_operation? calls) holds
  | answered => exact lasts.decided _ _ holds
  | closed => exact quiet rfl
  | cutOff => exact lasts.decided _ _ holds
  | passed => exact quiet rfl
  | held => exact quiet rfl
  | settled => exact lasts.searchSettled (quiet rfl)

end Lasts

end Browse.Browser

namespace Browse.Sitting

open Browser

variable {σ : Type} [Service σ] {P : List Event → History → Prop}

/-- **What holds at the start and lasts holds after every run.** -/
theorem lasts_run (lasts : Lasts σ P) {m : Sitting σ}
    (holds : P m.session.transcript m.session.state.history) (inputs : List Input) :
    P (m.run inputs).session.transcript (m.run inputs).session.state.history := by
  induction inputs generalizing m with
  | nil => exact holds
  | cons input inputs ih => exact ih (lasts.beat (beat_step m.session input) holds)

end Browse.Sitting

end Exposition
