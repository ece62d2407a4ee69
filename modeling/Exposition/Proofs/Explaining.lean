import Exposition.Explaining
import Exposition.Proofs.Session.Effect
import Mathlib.Data.List.Induction

/-!
# Proofs/Explaining — the last explanation over a whole run

Whoever works with the last explanation submits snippets and clears it, in any order.  A snippet is
refused, explained or failed, and each way is one exchange with the service at most and one
notification (`Submitted`).  A **desk** keeps a log of what was done and what passed
meanwhile, so that "the latest answer since it was last cleared" is read off the log; that is what
there is at every moment of every run (`keeps_latest_answer`).
-/

namespace Exposition.Explaining

open Exposition.Action

variable {σ : Type}

theorem clear_apply (s : Session σ Explaining) : clear s = (.ok (), s.after s.service {} []) :=
  update_apply ..

variable [Service σ]

/-! ## One submission -/

section Submission

variable {s : Session σ Explaining} {snippet : Snippet} {service : σ}

/-- A blank snippet is not sent. -/
theorem submit_blank (blank : Text.blank snippet.code) : submit snippet s
    = (.ok none, s.after s.service s.state
      [.notified (.warning "Please enter some code to explain")]) := by
  rw [submit, if_pos blank]
  rfl

/-- An answer becomes the last explanation. -/
theorem submit_ok (filled : ¬ Text.blank snippet.code) {explanation : Explanation}
    (answered : Service.answer (.explain snippet) s.service = (.ok explanation, service)) :
    submit snippet s = (.ok (some explanation), s.after service ⟨some explanation⟩
      [.asked (.explain snippet) (.ok explanation),
        .notified (.success "Explanation generated successfully!")]) := by
  rw [submit, if_neg filled, bind_of_ok (ask_apply ..), answered]
  dsimp only
  rw [bind_of_ok (notify_apply ..), bind_of_ok (update_apply ..), Session.after_after,
    Session.after_after]
  rfl

/-- A failure leaves the last explanation in place. -/
theorem submit_error (filled : ¬ Text.blank snippet.code) {e : ServiceError}
    (answered : Service.answer (.explain snippet) s.service = (.error e, service)) :
    submit snippet s = (.error e, s.after service s.state [.asked (.explain snippet) (.error e),
      .notified (.error "Failed to generate explanation. Please try again.")]) := by
  rw [submit, if_neg filled, bind_of_ok (ask_apply ..), answered]
  dsimp only
  rw [bind_of_ok (notify_apply ..), Session.after_after]
  rfl

end Submission

/-- The reply to the first snippet that was sent. -/
def reply? (events : List Event) : Option (Except ServiceError Explanation) :=
  events.findSome? fun
    | .asked (.explain _) reply => some reply
    | _ => none

/-- **What a submission comes to**: what passes, its result, and the last explanation after it. -/
structure Submitted (s : Session σ Explaining) (snippet : Snippet) (events : List Event)
    (result : Except ServiceError (Option Explanation)) (last : Option Explanation) : Prop where
  asks : events.filterMap Event.request?
    = if Text.blank snippet.code then [] else [.explain snippet]
  answers : reply? events = if Text.blank snippet.code then none
    else some (Service.answer (.explain snippet) s.service).1
  /-- It emits one notification, whose tone says how it went. -/
  notifies : ∃ n, events.filterMap Event.notification? = [n]
    ∧ (n.tone = .warning ↔ Text.blank snippet.code)
    ∧ (n.tone = .success ↔ ∃ explanation, reply? events = some (.ok explanation))
    ∧ (n.tone = .error ↔ ∃ e, reply? events = some (.error e))
  refused : Text.blank snippet.code → result = .ok none ∧ last = s.state.last
  explained : ∀ explanation, reply? events = some (.ok explanation) →
    result = .ok (some explanation) ∧ last = some explanation
  failed : ∀ e, reply? events = some (.error e) → result = .error e ∧ last = s.state.last

/-- **Every submission is refused, explained or failed.** -/
theorem exists_submitted (s : Session σ Explaining) (snippet : Snippet) :
    ∃ result service last events, submit snippet s = (result, s.after service ⟨last⟩ events)
      ∧ Submitted s snippet events result last := by
  by_cases blank : Text.blank snippet.code
  · refine ⟨_, _, _, _, submit_blank blank, ?_, ?_, ⟨_, rfl, ?_⟩, ?_, ?_, ?_⟩
    all_goals simp [blank, reply?, Event.request?, Notification.warning]
  · rcases answered : Service.answer (.explain snippet) s.service with ⟨e | explanation, service⟩
    · refine ⟨_, _, _, _, submit_error blank answered, ?_, ?_, ⟨_, rfl, ?_⟩, ?_, ?_, ?_⟩
      all_goals simp [blank, answered, reply?, Event.request?, Notification.error]
    · refine ⟨_, _, _, _, submit_ok blank answered, ?_, ?_, ⟨_, rfl, ?_⟩, ?_, ?_, ?_⟩
      all_goals simp [blank, answered, reply?, Event.request?, Notification.success]

/-- What is left of a submission, by what the service had to say to it. -/
theorem Submitted.last_eq {s : Session σ Explaining} {snippet : Snippet} {events : List Event}
    {result : Except ServiceError (Option Explanation)} {last : Option Explanation}
    (submitted : Submitted s snippet events result last) :
    last = match reply? events with
      | some (.ok explanation) => some explanation
      | _ => s.state.last := by
  rcases heard : reply? events with _ | e | explanation
  · have blank : Text.blank snippet.code := by
      by_contra filled
      have answers := submitted.answers
      rw [heard, if_neg filled] at answers
      cases answers
    exact (submitted.refused blank).2
  · exact (submitted.failed e heard).2
  · exact (submitted.explained explanation heard).2

/-! ## Runs -/

/-- **What can be done with the last explanation.** -/
inductive Operation
  | submit (snippet : Snippet)
  | clear

namespace Operation

/-- What an operation leaves. -/
def act (s : Session σ Explaining) : Operation → Session σ Explaining
  | .submit snippet => (Explaining.submit snippet s).2
  | .clear => (Explaining.clear s).2

/-- The request that an operation makes: a snippet is sent as it is, unless it is blank. -/
def request? : Operation → Option Request
  | .submit snippet => if Text.blank snippet.code then none else some (.explain snippet)
  | .clear => none

end Operation

/-- **What was done and what passed meanwhile**, the latest first. -/
abbrev Log := List (Operation × List Event)

/-- **The latest answer** to a snippet since the last explanation was cleared. -/
def Log.latest? : Log → Option Explanation
  | [] => none
  | (.clear, _) :: _ => none
  | (.submit _, events) :: log =>
    match reply? events with
    | some (.ok explanation) => some explanation
    | _ => latest? log

/-- **The last explanation at work.** -/
structure Desk (σ : Type) where
  session : Session σ Explaining
  log : Log := []

namespace Desk

/-- A desk at which nothing has been done. -/
def start (service : σ) : Desk σ where
  session := { service, state := {} }

/-- One operation at a desk. -/
def step (d : Desk σ) (o : Operation) : Desk σ :=
  ⟨o.act d.session, (o, d.session.since (o.act d.session)) :: d.log⟩

/-- **Several operations at a desk**, one after the other. -/
def run (d : Desk σ) (ops : List Operation) : Desk σ := ops.foldl step d

@[simp] theorem run_concat (d : Desk σ) (ops : List Operation) (o : Operation) :
    d.run (ops ++ [o]) = (d.run ops).step o := List.foldl_append ..

/-- **What a run comes to.**  The log tells what was done and what has passed; all requests are
those of the operations, one for each snippet that is not blank; and the last explanation is the
latest answer. -/
structure Tracks (d : Desk σ) (ops : List Operation) : Prop where
  operations : d.log.reverse.map Prod.fst = ops
  events : d.log.reverse.flatMap Prod.snd = d.session.transcript
  requests : d.session.requests = ops.filterMap Operation.request?
  last : d.session.state.last = d.log.latest?

variable {d : Desk σ} {ops : List Operation}

/-- What passes in an operation is added to the log. -/
theorem Tracks.concat (tracks : d.Tracks ops) {o : Operation} {service : σ} {state : Explaining}
    {events : List Event} (ends : o.act d.session = d.session.after service state events)
    (asks : events.filterMap Event.request? = [o].filterMap Operation.request?)
    (latest : state.last = Log.latest? ((o, events) :: d.log)) : (d.step o).Tracks (ops ++ [o]) := by
  have stepped :
      d.step o = ⟨d.session.after service state events, (o, events) :: d.log⟩ := by
    rw [step, ends, Session.since_after]
  obtain ⟨operations, passed, requests, -⟩ := tracks
  rw [stepped]
  refine ⟨?_, ?_, ?_, latest⟩
  · rw [List.reverse_cons, List.map_append, operations]
    rfl
  · rw [List.reverse_cons, List.flatMap_append, passed, Session.after_transcript,
      List.flatMap_singleton]
  · rw [Session.requests] at requests ⊢
    rw [Session.after_transcript, List.filterMap_append, requests, asks, List.filterMap_append]

/-- **One more operation.** -/
theorem Tracks.step (tracks : d.Tracks ops) (o : Operation) : (d.step o).Tracks (ops ++ [o]) := by
  cases o with
  | clear =>
    have ends : Operation.clear.act d.session = d.session.after d.session.service {} [] := by
      rw [Operation.act, clear_apply]
    exact tracks.concat ends rfl rfl
  | submit snippet =>
    obtain ⟨result, service, last, events, ends, submitted⟩ := exists_submitted d.session snippet
    have ends : (Operation.submit snippet).act d.session
        = d.session.after service ⟨last⟩ events := by rw [Operation.act, ends]
    refine tracks.concat ends ?_ ?_
    · rw [submitted.asks, List.filterMap_cons, Operation.request?]
      split
      · rfl
      · rfl
    · rw [Log.latest?, ← tracks.last]
      exact submitted.last_eq

theorem tracks_run (service : σ) (ops : List Operation) : ((start service).run ops).Tracks ops := by
  induction ops using List.reverseRecOn with
  | nil => exact ⟨rfl, rfl, rfl, rfl⟩
  | append_singleton ops o ih =>
    rw [run_concat]
    exact ih.step o

/-- **At every moment of every run** the last explanation is the latest answer since it was last
cleared, the service was asked for each snippet that was submitted, unless it was blank, and for
nothing else; and the next submission is refused, explained or failed with one notification that
says so. -/
theorem keeps_latest_answer (service : σ) (ops : List Operation) :
    let d := (start service).run ops
    d.Tracks ops ∧ ∀ snippet, ∃ events,
      (submit snippet d.session).2.transcript = d.session.transcript ++ events
        ∧ Submitted d.session snippet events (submit snippet d.session).1
          (submit snippet d.session).2.state.last := by
  refine ⟨tracks_run service ops, fun snippet => ?_⟩
  obtain ⟨result, service', last, events, ends, submitted⟩ :=
    exists_submitted ((start service).run ops).session snippet
  rw [ends]
  exact ⟨events, rfl, submitted⟩

end Desk

end Exposition.Explaining
