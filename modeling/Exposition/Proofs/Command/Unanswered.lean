import Exposition.Proofs.Browse.Beat
import Exposition.Proofs.Command.Effect
import Exposition.Proofs.Display.Listing
import Exposition.Proofs.Explaining

/-!
# Proofs/Command/Unanswered — commands to a service that never answers

A service that is out of reach fails every request.  A command then fails as well, and what it
leaves behind says so: it has written something, has notified the user before any other complaint,
or ends with an error of its own (`Command.tells_run`).  Nobody takes this for a run that has
stopped before its command.
-/

namespace Exposition

open Exposition.Action

/-- **A service that never answers.** -/
class Mute (σ : Type) [Service σ] : Prop where
  fails (r : Request) (s : σ) : ∃ e s', Service.answer r s = (.error e, s')

/-- An event that complains of nothing. -/
def Event.IsSilent (e : Event) : Prop := e.complaint = ""

/-- **What a command leaves behind** and a run that has stopped before its command does not. -/
inductive Telltale : Except CommandError Unit → List Event → Prop
  | done (events : List Event) : Telltale (.ok ()) events
  /-- Something was written to standard output. -/
  | shown {result : Except CommandError Unit} {events : List Event} {text : String} {c : Char}
    (begins : text.toList.head? = some c) (mem : .printed text ∈ events) : Telltale result events
  /-- A notification comes before any other complaint. -/
  | told {result : Except CommandError Unit} {before : List Event}
    (silent : ∀ e ∈ before, e.IsSilent) (n : Notification) (after : List Event) :
    Telltale result (before ++ .notified n :: after)
  /-- The error is none of the settings, and there is no other complaint. -/
  | failed {error : CommandError} {events : List Event} (other : ∀ e, error ≠ .config e)
    (silent : ∀ e ∈ events, e.IsSilent) : Telltale (.error error) events

theorem Event.silent_asked {r : Request} {reply : r.Reply} :
    ∀ e ∈ [Event.asked r reply], e.IsSilent := by
  rintro e mem
  obtain rfl := List.mem_singleton.1 mem
  rfl

namespace Telltale

/-- A request has failed, and nothing was said about it. -/
theorem failed_asked {error : CommandError} (other : ∀ e, error ≠ .config e) {r : Request}
    {reply : r.Reply} : Telltale (.error error) [.asked r reply] :=
  .failed other Event.silent_asked

/-- A notification follows a request. -/
theorem told_asked (result : Except CommandError Unit) {r : Request} (reply : r.Reply)
    (n : Notification) : Telltale result [.asked r reply, .notified n] :=
  .told Event.silent_asked n []

/-- A notification comes first of all. -/
theorem told_first (result : Except CommandError Unit) (n : Notification) (after : List Event) :
    Telltale result (.notified n :: after) := by
  have silent : ∀ e ∈ ([] : List Event), e.IsSilent := by simp
  exact .told silent n after

end Telltale

namespace Command

variable {σ : Type}

/-- An action leaves a telltale behind. -/
def Tells (act : Act σ Unit) (s : Session σ Unit) : Prop :=
  Telltale (act s).1 (act s).2.transcript

variable {s : Session σ Unit}

theorem Tells.of_apply {act : Act σ Unit} {result : Except CommandError Unit} {service : σ}
    {events : List Event} (fresh : s.transcript = [])
    (ends : act s = (result, s.after service () events)) (telltale : Telltale result events) :
    Tells act s := by
  rw [Tells, ends, Session.after_transcript, fresh]
  exact telltale

variable [Service σ] [Mute σ]

/-! ## Commands that ask once -/

/-- A command ends with the error of the request that it makes first. -/
theorem tells_reply (fresh : s.transcript = []) {f : ServiceError → CommandError}
    (other : ∀ e setting, f e ≠ .config setting) (r : Request) (next : r.Answer → Act σ Unit) :
    Tells (ask r >>= fun reply => orFail f reply >>= next) s := by
  obtain ⟨e, service, answered⟩ := Mute.fails r s.service
  have ends : (ask r >>= fun reply => orFail f reply >>= next : Act σ Unit) s
      = (.error (f e), s.after service () [.asked r (.error e)]) := by
    rw [bind_of_ok (ask_apply s r), answered]
    rfl
  exact .of_apply fresh ends (.failed_asked (other e))

theorem tells_demand (fresh : s.transcript = []) (r : Request) (next : r.Answer → Act σ Unit) :
    Tells (demand r >>= next) s := by
  rw [demand, bind_assoc]
  exact tells_reply fresh (by simp) r next

/-- A command that asks for what is on offer, on a state of its own, and takes no answer for an
empty offer is refused. -/
theorem tells_offer (fresh : s.transcript = []) {α : Type} {r : Request}
    {heard : r.Reply → Explaining.Act σ (List α)} {next : List α → Act σ Unit} {refusal : Refusal}
    (unheard : ∀ e, heard (.error e) = pure []) (refused : next [] = throw (.refused refusal)) :
    Tells (onExplaining (ask r >>= heard) >>= next) s := by
  obtain ⟨e, service, answered⟩ := Mute.fails r s.service
  have none : (ask r >>= heard : Explaining.Act σ (List α)) (s.withState {})
      = (.ok [], (s.withState {}).after service {} [.asked r (.error e)]) := by
    rw [bind_of_ok (ask_apply ..), Session.withState, answered, unheard]
    rfl
  have ends : (onExplaining (ask r >>= heard) >>= next) s
      = (.error (.refused refusal), s.after service () [.asked r (.error e)]) := by
    rw [onExplaining, bind_of_ok (apart_apply none), refused]
    rfl
  exact .of_apply fresh ends (.failed_asked (by simp))

theorem tells_showStats (fresh : s.transcript = []) : Tells (σ := σ) showStats s :=
  tells_reply fresh (by simp) .stats _

/-! ## Commands that work on a history -/

section Histories

variable (surroundings : Surroundings)

theorem tells_listHistory (fresh : s.transcript = []) (o : HistoryOptions) :
    Tells (listHistory (σ := σ) surroundings o) s := by
  obtain ⟨e, service, answered⟩ := Mute.fails
    (.list ((History.start surroundings.pageSize).withFilters o.filters).query) s.service
  have fails := loadPage_error (s := s.withState (.start surroundings.pageSize)) answered
  exact .of_apply fresh (listHistory_error fails) (.told_asked ..)

theorem tells_markFavorite (fresh : s.transcript = []) (id : Int) (isFavorite : Bool) :
    Tells (markFavorite (σ := σ) surroundings id isFavorite) s := by
  obtain ⟨e, service, answered⟩ := Mute.fails (.mark id isFavorite) s.service
  exact .of_apply fresh (apart_apply (History.markFavorite_error answered)) (.told_asked ..)

/-- Who is asked first has been shown the question; without consent the command succeeds. -/
theorem tells_discard (fresh : s.transcript = []) (id : Int) (isConfirmed : Bool) :
    Tells (discard (σ := σ) surroundings id isConfirmed) s := by
  obtain ⟨e, service, answered⟩ := Mute.fails (.delete id) s.service
  cases isConfirmed with
  | true =>
    have fails : onHistory surroundings (History.discard id true) s = _ :=
      apart_apply (History.discard_error answered)
    exact .of_apply fresh (bind_of_error fails _) (.told_asked ..)
  | false =>
    have asks : (confirmDeletion surroundings false : Act σ Bool) s
        = (.ok (isYesLine (Text.byteLines surroundings.input).head?),
          s.after s.service () [.printed (confirmation deletionQuestion)]) := rfl
    rw [Tells, discard, bind_of_ok asks]
    cases isYesLine (Text.byteLines surroundings.input).head? with
    | false => exact .done _
    | true =>
      have fails : onHistory surroundings (History.discard id true)
          (s.after s.service () [.printed (confirmation deletionQuestion)]) = _ :=
        apart_apply (History.discard_error answered)
      rw [bind_of_error fails]
      exact .shown (c := 'A') (Text.head?_append rfl)
        (List.mem_append_left _ (List.mem_append_right _ (List.mem_singleton_self _)))

end Histories

/-! ## Browsing -/

section Browsing

open Browse Browse.Browser

omit [Mute σ]

/-- What was printed stays printed. -/
theorem lasts_printed (text : String) : Lasts σ fun events _ => .printed text ∈ events where
  remark _ mem := List.mem_append_left _ mem
  does := by
    intro s s' o does can mem
    obtain ⟨events, walk⟩ : ∃ events, History.Walk (fun _ => True) s events s' :=
      does.walk (fun o' same => (can o' same).whole) fun _ _ _ _ => trivial
    rw [walk.transcript]
    exact List.mem_append_left _ (List.mem_append_left _ mem)

/-- The steps of the browser, one after the other, are a sitting. -/
theorem steps_apply (inputs : List Input) (m : Sitting σ) :
    steps inputs m.session = (.ok (), (m.run inputs).session) := by
  induction inputs generalizing m with
  | nil => rfl
  | cons input inputs ih =>
    rw [steps, List.forM_eq_forM, List.forM_cons, then_apply]
    exact ih (m.step input)

/-- The list is printed before the first line is read. -/
theorem listing_printed (service : σ) (pageSize searchDelay : Nat) : ∃ h : History,
    .printed h.listing ∈ (Sitting.start service pageSize searchDelay).session.transcript := by
  rw [Sitting.start, startUp_transcript]
  exact ⟨_, List.mem_append_right _ (List.mem_append_right _ (List.mem_singleton_self _))⟩

theorem tells_browseHistory (fresh : s.transcript = []) (surroundings : Surroundings) :
    Tells (browseHistory (σ := σ) surroundings) s := by
  let start := Sitting.start s.service surroundings.pageSize surroundings.searchDelay
  let inputs := typed surroundings.input ++ [.noMore]
  have browses : (do startUp; steps inputs; Action.state : Browser.Act σ Browser)
      (s.withState (.start surroundings.pageSize surroundings.searchDelay))
      = (.ok (start.run inputs).session.state, (start.run inputs).session) := by
    rw [then_apply, Session.withState, fresh]
    exact bind_of_ok (steps_apply inputs start) _
  obtain ⟨h, printed⟩ := listing_printed s.service surroundings.pageSize surroundings.searchDelay
  have stays : .printed h.listing ∈ (start.run inputs).session.transcript :=
    Sitting.lasts_run (lasts_printed h.listing) printed inputs
  rw [Tells, browseHistory, bind_of_ok (apart_apply browses)]
  refine .shown (History.head?_listing h) ?_
  cases (start.run inputs).session.state.outcome with
  | ok => exact stays
  | error => exact stays

end Browsing

/-! ## Explaining -/

section Explaining

omit [Service σ] [Mute σ]

theorem orFail_ok {ε α : Type} (f : ε → CommandError) (a : α) :
    (orFail f (.ok a) : Act σ α) s = (.ok a, s) := rfl

theorem orFail_error {ε α : Type} (f : ε → CommandError) (e : ε) :
    (orFail f (.error e) : Act σ α) s = (.error (f e), s) := rfl

/-- **A snippet is found without asking**, perhaps with a notification, or the command ends with an
error of its own. -/
theorem snippet_apply (surroundings : Surroundings) (o : ExplainOptions) :
    (∃ error, (∀ e, error ≠ .config e)
      ∧ (snippet surroundings o : Act σ Snippet) s = (.error error, s))
    ∨ ∃ found, ∃ told : Option Notification, (snippet surroundings o : Act σ Snippet) s
      = (.ok found, s.after s.service () (told.toList.map .notified)) := by
  rw [snippet]
  cases o.sample with
  | some name =>
    dsimp only
    cases sampleNamed name with
    | error refusal => exact .inl ⟨.refused refusal, by simp, bind_of_error (orFail_error ..) _⟩
    | ok sample =>
      exact .inr ⟨_, some _, (bind_of_ok (orFail_ok ..) _).trans
        ((bind_of_ok (notify_apply ..) _).trans (pure_apply ..))⟩
  | none =>
    have quiet : s = s.after s.service () (Option.none.toList.map .notified) :=
      (Session.after_self s).symm
    cases o.file with
    | some name =>
      dsimp only
      cases fileText surroundings name with
      | error e => exact .inl ⟨.input e, by simp, bind_of_error (orFail_error ..) _⟩
      | ok code =>
        refine .inr ⟨⟨code, Language.read o.language, o.level⟩, none, ?_⟩
        rw [bind_of_ok (orFail_ok ..), pure_apply, ← quiet]
    | none =>
      dsimp only
      cases inputText surroundings with
      | error e => exact .inl ⟨.input e, by simp, bind_of_error (orFail_error ..) _⟩
      | ok code =>
        refine .inr ⟨⟨code, Language.read o.language, o.level⟩, none, ?_⟩
        rw [bind_of_ok (orFail_ok ..), pure_apply, ← quiet]

end Explaining

/-- A blank snippet is no failure, and any other one is sent. -/
theorem tells_submit {told : Option Notification}
    (before : s.transcript = told.toList.map .notified) (found : Snippet)
    {next : Option Explanation → Act σ Unit} (idle : next none = pure ()) :
    Tells (onExplaining (Explaining.submit found) >>= next) s := by
  rw [Tells, onExplaining]
  by_cases blank : Text.blank found.code
  · rw [bind_of_ok (apart_apply (Explaining.submit_blank blank)), idle]
    exact .done _
  · obtain ⟨e, service, answered⟩ := Mute.fails (.explain found) s.service
    have fails := Explaining.submit_error (s := s.withState {}) blank answered
    rw [bind_of_error (apart_apply fails)]
    change Telltale _ (s.transcript ++ _)
    rw [before]
    cases told with
    | none => exact .told_asked ..
    | some n => exact .told_first ..

theorem tells_explainSnippet (fresh : s.transcript = []) (surroundings : Surroundings)
    (o : ExplainOptions) : Tells (explainSnippet (σ := σ) surroundings o) s := by
  rcases snippet_apply surroundings o with ⟨error, other, ends⟩ | ⟨found, told, ends⟩
  · rw [Tells, explainSnippet, bind_of_error ends, fresh]
    exact .failed other (by simp)
  · rw [Tells, explainSnippet, bind_of_ok ends]
    exact tells_submit (by rw [Session.after_transcript, fresh, List.nil_append]) found rfl

/-- **What a command leaves behind** where the service never answers. -/
theorem tells_run (fresh : s.transcript = []) (surroundings : Surroundings) (c : Command) :
    Tells (c.run surroundings) s := by
  cases c with
  | languages => exact tells_offer fresh (fun _ => rfl) rfl
  | levels => exact tells_offer fresh (fun _ => rfl) rfl
  | health => exact tells_demand fresh .health _
  | stats => exact tells_showStats fresh
  | browse => exact tells_browseHistory fresh surroundings
  | explain o => exact tells_explainSnippet fresh surroundings o
  | history o => exact tells_listHistory surroundings fresh o
  | details id => exact tells_demand fresh (.get id) _
  | favorite id isFavorite => exact tells_markFavorite surroundings fresh id isFavorite
  | delete id isConfirmed => exact tells_discard surroundings fresh id isConfirmed

end Command

end Exposition
