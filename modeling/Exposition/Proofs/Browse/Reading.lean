import Exposition.Proofs.Browse.Beat
import Exposition.Proofs.Display.Listing
import Exposition.Service.Store
import Mathlib.Data.List.Chain

/-!
# Proofs/Browse/Reading — which line is read as what

The browser and its questions share one row of lines, and a search may settle at any moment.  No
line gets lost or is read twice: each line that is typed before the browser is over is read once, as
a command or as the answer to the question that the line before it has raised (`Reading`).  What is
asked and what is deleted can be read off the readings (`Reading.marks`), so a record is deleted
exactly on a yes to the question about it (`Sitting.reads_each_line_once`).

A question is about the record that the line has chosen, and while it is open the history rests;
that is what carries the record from the question to the answer (`Browser.Awaits`).
-/

namespace Exposition

open Exposition.Action
open History (Operation Walk Walks)

/-- **A yes** is `y` or `yes`, in any case and with blanks around it; what is no text is a no. -/
theorem isYesLine_iff (line : List UInt8) : isYesLine (some line) = true
    ↔ ∃ answer, Text.Utf8.decode line = .ok answer
      ∧ String.ofList (Text.lower (Text.trim answer)) ∈ ["y", "yes"] := by
  rw [isYesLine, Option.map_some]
  cases Text.Utf8.decode line with
  | error fault => simp
  | ok answer => simp [isYes]

namespace Browse

/-! ## Readings -/

/-- The line that an input types. -/
def Input.line? : Input → Option (List UInt8)
  | .line bytes => some bytes
  | _ => none

/-- **How a line is read**: as a command, which may be about to delete a record, or as the answer to
the question whether to delete one. -/
inductive Reading
  | command (line : List UInt8) (doomed : Option Int)
  | answer (line : List UInt8) (id : Int)
deriving DecidableEq

/-- What a reading leaves behind: a question, or a request to delete a record. -/
inductive Mark
  | question
  | deletion (id : Int)
deriving DecidableEq

namespace Reading

open Browser (heard)

/-- The line that is read. -/
def line : Reading → List UInt8
  | .command line _ => line
  | .answer line _ => line

/-- The record that it asks about. -/
def asks? : Reading → Option Int
  | .command _ doomed => doomed
  | .answer _ _ => none

/-- The record that was asked about before it. -/
def repliesTo? : Reading → Option Int
  | .command _ _ => none
  | .answer _ id => some id

/-- The command that it gives. -/
def given? : Reading → Option Command
  | .command line _ => heard line
  | .answer _ _ => none

/-- **The marks of a reading**: a command that is about to delete a record asks first, and a record
is deleted when the answer is a yes. -/
def marks : Reading → List Mark
  | .command _ doomed => if doomed.isSome then [.question] else []
  | .answer line id => if isYesLine (some line) then [.deletion id] else []

end Reading

/-- The record that a deletion is about. -/
def Target.id? (h : History) : Target → Option Int
  | .card id => some id
  | .selected => h.selectedId

namespace Browser

/-- **The record that a line is about to delete**: that of a card that is there, or the open one. -/
def doomed? (h : History) (bytes : List UInt8) : Option Int :=
  match heard bytes with
  | some (.remove none) => h.selectedId
  | some (.remove (some card)) => (card? h card).map (·.id)
  | _ => none

/-- **How the browser reads an input**, if it is a line. -/
def reading? (b : Browser) : Input → Option Reading
  | .line bytes =>
    match b.phase with
    | .command => some (.command bytes (doomed? b.history bytes))
    | .answer target => (target.id? b.history).map (.answer bytes)
    | .over _ => none
  | _ => none

end Browser

end Browse

/-- The mark of an event. -/
def Event.mark? : Event → Option Browse.Mark
  | .printed text => if text = confirmation deletionQuestion then some .question else none
  | .asked (.delete id) _ => some (.deletion id)
  | _ => none

/-- The marks of what has passed. -/
def marks (events : List Event) : List Browse.Mark := events.filterMap Event.mark?

namespace Browse.Browser

variable {σ : Type}

theorem marks_append (events events' : List Event) :
    marks (events ++ events') = marks events ++ marks events' := List.filterMap_append ..

/-! ## What leaves no mark -/

/-- A text that is no question. -/
theorem marks_printed {text : String} {c : Char} (begins : text.toList.head? = some c)
    (other : c ≠ 'A') : marks [.printed text] = [] := by
  have unasked : text ≠ confirmation deletionQuestion := by
    rintro rfl
    exact other (Option.some.inj (begins.symm.trans rfl))
  simp [marks, Event.mark?, unasked]

theorem marks_listing (h : History) : marks [.printed h.listing] = [] := by
  refine marks_printed h.head?_listing ?_
  cases h.view with
  | _ => simp

theorem marks_viewed (h : History) : marks [.printed (viewed h)] = [] := by
  rw [viewed]
  cases h.selected with
  | some r => exact marks_printed (Text.head?_append r.head?_detail) (by decide)
  | none => exact marks_listing h

theorem marks_naming (h : History) : marks (naming h) = [] := by
  rw [naming]
  cases h.languages with
  | nil => rfl
  | cons => exact marks_printed (Text.head?_append (Text.head?_append (c := 'L') rfl)) (by decide)

variable [Service σ]

/-- A request that deletes nothing. -/
def Spares (r : Request) : Prop := ∀ id, r ≠ .delete id

/-- A walk without deletions leaves no mark. -/
theorem marks_walk {s s' : Session σ History} {events : List Event}
    (walk : Walk Spares s events s') : marks events = [] := by
  induction walk with
  | rest => rfl
  | on walk stride ih =>
    rw [marks_append, ih]
    cases stride with
    | @fetch h reply =>
      cases reply with
      | _ => rfl
    | @exchange r reply _ may =>
      cases r with
      | delete id => exact absurd rfl (may id)
      | _ => rfl
    | _ => rfl

/-- What a command calls for deletes nothing. -/
theorem not_mayAsk_delete {h : History} {c : Command} {o : Operation}
    (calls : operation? h c = some o) (id : Int) : ¬ o.MayAsk (.delete id) := by
  cases c with
  | next | previous | page n =>
    obtain ⟨-, rfl⟩ := eq_of_whilePaging calls
    exact False.elim
  | «open» card =>
    obtain ⟨r, -, rfl⟩ := Option.map_eq_some_iff.1 calls
    exact False.elim
  | star card =>
    cases card with
    | none =>
      obtain rfl := Option.some.inj calls
      rintro ⟨id', isFavorite, same⟩
      exact absurd same (by simp)
    | some card =>
      obtain ⟨r, -, rfl⟩ := Option.map_eq_some_iff.1 calls
      exact fun same => absurd same (by simp [Operation.MayAsk])
  | search | remove | help | quit => exact absurd calls (by simp [operation?])
  | _ =>
    obtain rfl := Option.some.inj calls
    exact False.elim

/-- What is done to a history without a deletion leaves no mark. -/
theorem marks_does {s s' : Session σ History} {o : Option Operation} (does : Does s o s')
    (can : ∀ o', o = some o' → CanDo s.state o')
    (keeps : ∀ o', o = some o' → ∀ id, ¬ o'.MayAsk (.delete id)) :
    marks s'.transcript = marks s.transcript := by
  have walks : ∃ events, Walk Spares s events s' :=
    does.walk (fun o' same => (can o' same).whole)
      fun o' r same may id same' => keeps o' same id (same' ▸ may)
  obtain ⟨events, walk⟩ := walks
  rw [walk.transcript, marks_append, marks_walk walk, List.append_nil]

theorem marks_discard (id : Int) (confirmed : Bool) (s : Session σ History) :
    marks (History.discard id confirmed s).2.transcript
      = marks s.transcript ++ if confirmed then [.deletion id] else [] := by
  cases confirmed with
  | false => exact (List.append_nil _).symm
  | true =>
    rcases answered : Service.answer (.delete id) s.service with ⟨e | ⟨⟩, service⟩
    · rw [History.discard_error answered]
      exact marks_append ..
    · have walks : Walks Spares (History.load >>= fun _ => History.leaveVanishedPage >>= fun _ =>
          pure true : History.Act σ Bool) := .bind .load fun _ => .bind .leaveVanishedPage fun _ =>
          .pure true
      obtain ⟨events, walk⟩ := walks
        (s.after service (s.state.forget id) (History.deleteEvents id))
      rw [History.discard_ok answered, walk.transcript, marks_append, marks_walk walk,
        List.append_nil]
      exact marks_append ..

/-- **A deletion leaves its mark** if it is confirmed. -/
theorem marks_deletion {target : Target} {id : Int} (confirmed : Bool) {s : Session σ History}
    (known : target.id? s.state = some id) :
    marks (delete target confirmed s).2.transcript
      = marks s.transcript ++ if confirmed then [.deletion id] else [] := by
  cases target with
  | card id' =>
    obtain rfl : id' = id := Option.some.inj known
    exact marks_discard id' confirmed s
  | selected =>
    have discarded := marks_discard id confirmed s
    rw [delete, History.discardOpen_of_some known]
    rcases done : History.discard id confirmed s with ⟨e | _ | _, s'⟩
    · rwa [done] at discarded
    · rwa [done] at discarded
    · rw [done] at discarded
      simpa using discarded

/-! ## What an input is read as -/

/-- **What is awaited**: a command, or the answer about a record that is there to be deleted. -/
def Awaits (b : Browser) (pending : Option Int) : Prop :=
  match b.phase with
  | .command => pending = none
  | .answer target => pending.isSome ∧ target.id? b.history = pending
  | .over _ => True

/-- **What an input is read as**, and what it leaves behind. -/
structure ReadAs (s : Session σ Browser) (input : Input) (s' : Session σ Browser)
    (pending : Option Int) (reading : Option Reading) : Prop where
  line : reading.map Reading.line = input.line?
  replies : ∀ r, reading = some r → r.repliesTo? = pending
  marks : marks s'.transcript = marks s.transcript ++ reading.toList.flatMap Reading.marks
  awaits : Awaits s'.state (reading.elim pending Reading.asks?)

variable {s : Session σ Browser}

/-- The history is shown after something that was not a deletion. -/
theorem marks_shown {act : History.Act σ Unit} {o : Option Operation}
    (does : Does (historyPart s) o (act (historyPart s)).2)
    (can : ∀ o', o = some o' → CanDo s.state.history o')
    (keeps : ∀ o', o = some o' → ∀ id, ¬ o'.MayAsk (.delete id)) :
    marks (shown act s).transcript = marks s.transcript := by
  rw [shown_transcript, marks_append, marks_viewed, List.append_nil, marks_does does can keeps]
  rfl

theorem marks_searchSettled :
    marks (searchSettled s).2.transcript = marks s.transcript := by
  cases settled : s.state.settled with
  | none => rw [searchSettled_of_none s settled]
  | some term =>
    rw [searchSettled_of_some s settled, marks_shown (does_refilter _ _)]
    · rw [Session.after_transcript, List.append_nil]
    · rintro _ ⟨⟩
      exact canDo_filterBy _ _
    · rintro _ ⟨⟩ id
      exact False.elim

theorem phase_searchSettled : (searchSettled s).2.state.phase = s.state.phase := by
  obtain ⟨h, -, state⟩ := searchSettled_state s
  rw [state]

theorem marks_decided {target : Target} {id : Int} (confirmed : Bool)
    (known : target.id? s.state.history = some id) : marks (decided target confirmed s).transcript
      = marks s.transcript ++ if confirmed then [.deletion id] else [] := by
  rw [decided, marks_searchSettled, shown_transcript, marks_append, marks_viewed, List.append_nil,
    marks_deletion confirmed known]
  change marks (s.transcript ++ []) ++ _ = _
  rw [List.append_nil]

theorem phase_decided (target : Target) (confirmed : Bool) :
    (decided target confirmed s).state.phase = .command := by
  rw [decided, phase_searchSettled, shown_state]
  rfl

/-- A question is about the record that the line has chosen. -/
theorem doomed?_of_asking {h : History} {bytes : List UInt8} {c : Command} {target : Target}
    (gives : heard bytes = some c) (asks : target? h c = some target) :
    (doomed? h bytes).isSome ∧ target.id? h = doomed? h bytes := by
  cases c with
  | remove card =>
    rw [doomed?, gives]
    cases card with
    | none =>
      rw [target?] at asks
      split at asks
      · rename_i opened
        obtain rfl := Option.some.inj asks
        exact ⟨by simpa [History.selectedId, History.isOpen] using opened, rfl⟩
      · exact absurd asks (by simp)
    | some card =>
      obtain ⟨r, there, rfl⟩ := Option.map_eq_some_iff.1 asks
      dsimp only
      rw [there]
      exact ⟨rfl, rfl⟩
  | _ => exact absurd asks (by simp [target?])

theorem doomed?_of_heard {h : History} {bytes : List UInt8} {c : Command}
    (gives : heard bytes = some c) (unasked : target? h c = none) : doomed? h bytes = none := by
  cases c with
  | remove card =>
    rw [doomed?, gives]
    cases card with
    | none =>
      rw [target?] at unasked
      split at unasked
      · exact absurd unasked (by simp)
      · rename_i closed
        simpa [History.isOpen, History.selectedId] using closed
    | some card =>
      rw [target?, Option.map_eq_none_iff] at unasked
      dsimp only
      rw [unasked]
      rfl
  | _ =>
    rw [doomed?, gives]

theorem doomed?_of_unheard {h : History} {bytes : List UInt8} (gives : heard bytes = none) :
    doomed? h bytes = none := by
  rw [doomed?, gives]

/-- A line that ends the browser deletes nothing. -/
theorem doomed?_of_ends {h : History} {bytes : List UInt8} {error : Option CommandError}
    (ends : Ends bytes error) : doomed? h bytes = none := by
  cases ends with
  | quits gives => exact doomed?_of_heard gives rfl
  | garbled garbled => exact doomed?_of_unheard (heard_of_garbled garbled)

theorem reading?_of_command {b : Browser} (free : b.phase = .command) (bytes : List UInt8) :
    b.reading? (.line bytes) = some (.command bytes (doomed? b.history bytes)) := by
  simp only [reading?, free]

/-- Only a line that is read as a command gives one. -/
theorem command?_eq (b : Browser) (input : Input) :
    b.command? input = (b.reading? input).bind Reading.given? := by
  cases input with
  | line bytes =>
    cases phase : b.phase with
    | command =>
      rw [command?_line phase, reading?_of_command phase]
      rfl
    | answer target =>
      simp only [command?, reading?, phase]
      cases target.id? b.history with
      | _ => rfl
    | «over» error =>
      simp only [command?, reading?, phase]
      rfl
  | _ =>
    rw [command?_other (by simp)]
    rfl

/-- When the browser is over, nothing is read any more. -/
theorem reading?_of_over {b : Browser} {error : Option CommandError} (ended : b.phase = .over error)
    (input : Input) : b.reading? input = none := by
  cases input with
  | line bytes => simp only [reading?, ended]
  | _ => rfl

omit [Service σ] in
/-- A line that is read as a command leaves a question if a record is about to be deleted. -/
theorem ReadAs.command {bytes : List UInt8} {s' : Session σ Browser} {pending doomed : Option Int}
    (free : s.state.phase = .command) (awaits : Awaits s.state pending)
    (marks : Exposition.marks s'.transcript
      = Exposition.marks s.transcript ++ if doomed.isSome then [.question] else [])
    (awaits' : Awaits s'.state doomed) :
    ReadAs s (.line bytes) s' pending (some (.command bytes doomed)) where
  line := rfl
  replies r same := by
    obtain rfl := Option.some.inj same
    rw [Awaits, free] at awaits
    exact awaits.symm
  marks := by
    rw [marks, Option.toList_some, List.flatMap_singleton]
    rfl
  awaits := awaits'

omit [Service σ] in
/-- What types no line leaves no mark and keeps the question, if there is one. -/
theorem ReadAs.unread {input : Input} {s' : Session σ Browser} {pending : Option Int}
    (blank : input.line? = none)
    (marks : Exposition.marks s'.transcript = Exposition.marks s.transcript)
    (awaits : Awaits s'.state pending) : ReadAs s input s' pending none where
  line := blank.symm
  replies r same := absurd same (by simp)
  marks := by rw [marks, Option.toList_none, List.flatMap_nil, List.append_nil]
  awaits := awaits

/-- Nothing has passed but a remark. -/
theorem marks_remark {e : Event} (remark : IsRemark e)
    (unasked : e ≠ .printed (confirmation deletionQuestion)) : marks [e] = [] := by
  cases remark with
  | complaint text => rfl
  | help => exact marks_printed (Text.head?_append head?_help) (by decide)
  | question => exact absurd rfl unasked

/-- **Every beat reads its line**, if it has one. -/
theorem readAs_beat {input : Input} {s' : Session σ Browser} (beat : Beat s input s')
    (going : ∀ error, s.state.phase ≠ .over error) {pending : Option Int}
    (awaits : Awaits s.state pending) :
    ReadAs s input s' pending (s.state.reading? input) := by
  have quiet (b : Browser) :
      marks (s.after s.service b []).transcript = marks s.transcript := by
    rw [Session.after_transcript, List.append_nil]
  cases beat with
  | ended finished => exact absurd finished (going _)
  | @remarked bytes e free idle stays remark unasked =>
    have spared : doomed? s.state.history bytes = none := by
      cases gives : heard bytes with
      | none => exact doomed?_of_unheard gives
      | some c => exact doomed?_of_heard gives (by rw [idle c gives]; rfl)
    rw [reading?_of_command free, spared]
    refine .command free awaits ?_ ?_
    · rw [Session.after_transcript, marks_append, marks_remark remark unasked]
      rfl
    · rw [Awaits, Session.after_state, free]
  | @left bytes _ free ends =>
    rw [reading?_of_command free, doomed?_of_ends ends]
    exact .command free awaits ((quiet _).trans (List.append_nil _).symm) trivial
  | @searched bytes _ free gives =>
    rw [reading?_of_command free, doomed?_of_heard gives rfl]
    refine .command free awaits ((quiet _).trans (List.append_nil _).symm) ?_
    rw [Awaits, Session.after_state, free]
  | @asked bytes _ target free gives asks =>
    obtain ⟨doomed, same⟩ := doomed?_of_asking gives asks
    rw [reading?_of_command free]
    refine .command free awaits ?_ ⟨doomed, same⟩
    rw [Session.after_transcript, marks_append, if_pos doomed]
    simp [marks, Event.mark?]
  | @obeyed bytes c free gives stays unasked =>
    rw [reading?_of_command free, doomed?_of_heard gives unasked]
    refine .command free awaits ?_ ?_
    · rw [marks_shown (does_obey c (historyPart s)) (fun _ calls => canDo_operation? calls)
        fun _ calls => not_mayAsk_delete calls]
      exact (List.append_nil _).symm
    · rw [Awaits, shown_state, free]
  | @answered target asking bytes =>
    rw [Awaits, asking] at awaits
    obtain ⟨id, rfl⟩ := Option.isSome_iff_exists.1 awaits.1
    have read : s.state.reading? (.line bytes) = some (.answer bytes id) := by
      simp only [reading?, asking]
      rw [awaits.2]
      rfl
    rw [read]
    refine ⟨rfl, fun r same => ?_, ?_, ?_⟩
    · obtain rfl := Option.some.inj same
      rfl
    · rw [marks_decided _ awaits.2, Option.toList_some, List.flatMap_singleton]
      rfl
    · rw [Awaits, phase_decided]
      rfl
  | closed free => exact .unread rfl (quiet _) trivial
  | @cutOff target asking =>
    rw [Awaits, asking] at awaits
    obtain ⟨id, rfl⟩ := Option.isSome_iff_exists.1 awaits.1
    refine .unread rfl ?_ trivial
    rw [enter, update_apply, Session.after_transcript, List.append_nil,
      marks_decided false awaits.2]
    exact List.append_nil _
  | passed => exact .unread rfl (quiet _) awaits
  | held => exact .unread rfl (quiet _) awaits
  | settled free =>
    rw [Awaits, free] at awaits
    refine .unread rfl (marks_searchSettled.trans (quiet _)) ?_
    rw [Awaits, phase_searchSettled, Session.after_state]
    dsimp only
    rw [free]
    exact awaits

/-- **When an input ends the browser**, and with which error. -/
theorem over_beat_iff {input : Input} {s' : Session σ Browser} (beat : Beat s input s')
    (going : ∀ error, s.state.phase ≠ .over error) {error : Option CommandError} :
    s'.state.phase = .over error ↔ (error = none ∧ input = .noMore)
      ∨ ∃ line doomed, s.state.reading? input = some (.command line doomed) ∧ Ends line error := by
  have typed {bytes : List UInt8} (free : s.state.phase = .command) :
      ((error = none ∧ .line bytes = Input.noMore) ∨ ∃ line doomed,
        s.state.reading? (.line bytes) = some (.command line doomed) ∧ Ends line error)
        ↔ Ends bytes error := by
    rw [reading?_of_command free]
    constructor
    · rintro (⟨-, line⟩ | ⟨line, doomed, read, ends⟩)
      · exact absurd line (by simp)
      · obtain ⟨rfl, -⟩ := Reading.command.inj (Option.some.inj read)
        exact ends
    · exact fun ends => .inr ⟨bytes, _, rfl, ends⟩
  cases beat with
  | ended finished => exact absurd finished (going _)
  | remarked free idle stays =>
    rw [typed free, Session.after_state, free]
    exact iff_of_false (by simp) (stays error)
  | left free ends =>
    rw [typed free, Session.after_state]
    constructor
    · intro same
      obtain rfl := Phase.over.inj same
      exact ends
    · exact fun ends' => congrArg Phase.over (ends.unique ends')
  | searched free gives =>
    rw [typed free, Session.after_state]
    exact iff_of_false (by simp [free]) (not_ends_of_heard gives (by simp) error)
  | @asked bytes c target free gives asks =>
    have stays : c ≠ .quit := by
      rintro rfl
      exact absurd asks (by simp [target?])
    rw [typed free, Session.after_state]
    exact iff_of_false (by simp) (not_ends_of_heard gives stays error)
  | obeyed free gives stays =>
    rw [typed free, shown_state]
    exact iff_of_false (by simp [free]) (not_ends_of_heard gives stays error)
  | @answered target asking bytes =>
    rw [phase_decided]
    refine iff_of_false (by simp) ?_
    rintro (⟨-, line⟩ | ⟨line, doomed, read, -⟩)
    · exact absurd line (by simp)
    · simp [reading?, asking] at read
  | closed free => simp [reading?, eq_comm]
  | cutOff asking =>
    rw [enter, update_apply, Session.after_state]
    simp [reading?, eq_comm]
  | passed going milliseconds => simp [reading?, going]
  | held asking milliseconds => simp [reading?, asking]
  | settled free milliseconds =>
    rw [phase_searchSettled, Session.after_state]
    simp [reading?, free]

end Browse.Browser

/-! ## Runs -/

namespace Browse.Sitting

open Browser

variable {σ : Type} [Service σ]

/-- **How the lines of a run are read.** -/
def readings (m : Sitting σ) : List Input → List Reading
  | [] => []
  | input :: inputs =>
    (m.session.state.reading? input).toList ++ (m.step input).readings inputs

theorem readings_append (m : Sitting σ) (inputs inputs' : List Input) :
    m.readings (inputs ++ inputs') = m.readings inputs ++ (m.run inputs).readings inputs' := by
  induction inputs generalizing m with
  | nil => rfl
  | cons input inputs ih =>
    rw [List.cons_append, readings, readings, ih, List.append_assoc]
    rfl

theorem readings_of_over {m : Sitting σ} {error : Option CommandError}
    (ended : m.session.state.phase = .over error) (inputs : List Input) :
    m.readings inputs = [] := by
  induction inputs generalizing m with
  | nil => rfl
  | cons input inputs ih =>
    have same : (m.step input).session = m.session := by
      rw [Sitting.step, step_of_over m.session ended]
    rw [readings, reading?_of_over ended, ih (same ▸ ended)]
    rfl

/-- **What is known of a run** when its inputs have been read as `rs`. -/
structure Reads (m : Sitting σ) (inputs : List Input) (rs : List Reading) : Prop where
  awaits : Awaits m.session.state (rs.getLast?.bind Reading.asks?)
  lines : (∀ error, m.session.state.phase ≠ .over error) →
    rs.map Reading.line = inputs.filterMap Input.line?
  first : rs.head?.bind Reading.repliesTo? = none
  chain : rs.IsChain fun r r' => r'.repliesTo? = r.asks?
  given : m.given = rs.filterMap Reading.given?
  marks : marks m.session.transcript = rs.flatMap Reading.marks
  left : ∀ error, m.session.state.phase = .over error → (error = none ∧ .noMore ∈ inputs)
    ∨ ∃ line doomed, .command line doomed ∈ rs ∧ Ends line error
  closed : .noMore ∈ inputs → ∃ error, m.session.state.phase = .over error
  ends : ∀ line doomed error, .command line doomed ∈ rs → Ends line error →
    m.session.state.phase = .over error

namespace Reads

variable {m : Sitting σ} {inputs : List Input} {rs : List Reading}

theorem start (service : σ) (pageSize searchDelay : Nat) :
    Reads (Sitting.start service pageSize searchDelay) [] [] := by
  have opens : Walks Spares (History.openUp : History.Act σ Unit) := .openUp (by simp [Spares])
  obtain ⟨events, walk⟩ := opens
    (historyPart { service, state := .start pageSize searchDelay })
  have phase : (Sitting.start service pageSize searchDelay).session.state.phase = .command := by
    rw [Sitting.start, startUp_opened]
    rfl
  refine ⟨?_, fun _ => rfl, rfl, .nil, rfl, ?_, ?_, by simp, by simp⟩
  · rw [Awaits, phase]
    rfl
  · rw [Sitting.start, startUp_transcript, walk.transcript, marks_append, marks_append,
      marks_append, marks_walk walk, marks_naming, marks_listing]
    rfl
  · rw [phase]
    simp

/-- While the browser is not over, the next line is read. -/
theorem lines_concat (reads : Reads m inputs rs)
    (going : ∀ error, m.session.state.phase ≠ .over error) (input : Input) :
    (rs ++ (m.session.state.reading? input).toList).map Reading.line
      = (inputs ++ [input]).filterMap Input.line? := by
  have read := (readAs_beat (beat_step m.session input) going reads.awaits).line
  have last : ((m.session.state.reading? input).toList).map Reading.line
      = [input].filterMap Input.line? := by
    rw [List.filterMap_cons, ← read]
    cases m.session.state.reading? input with
    | none => rfl
    | some r => rfl
  rw [List.map_append, reads.lines going, List.filterMap_append, last]

/-- Once the browser is over, an input changes nothing. -/
theorem step_of_over (reads : Reads m inputs rs) {error : Option CommandError}
    (ended : m.session.state.phase = .over error) (input : Input) :
    Reads (m.step input) (inputs ++ [input]) rs := by
  have same : (m.step input).session = m.session := by
    rw [Sitting.step, Browser.step_of_over m.session ended]
  constructor
  · exact same ▸ reads.awaits
  · exact fun going => absurd ended (same ▸ going error)
  · exact reads.first
  · exact reads.chain
  · rw [Sitting.step, command?_eq, reading?_of_over ended]
    exact (List.append_nil _).trans reads.given
  · exact same ▸ reads.marks
  · intro error finished
    exact (reads.left error (same ▸ finished)).imp_left (.imp_right (List.mem_append_left _))
  · exact fun _ => ⟨error, same ▸ ended⟩
  · exact fun line doomed error mem ends => same ▸ reads.ends line doomed error mem ends

/-- Until then the beat of the input reads its line. -/
theorem step_of_going (reads : Reads m inputs rs)
    (going : ∀ error, m.session.state.phase ≠ .over error) (input : Input) :
    Reads (m.step input) (inputs ++ [input])
      (rs ++ (m.session.state.reading? input).toList) := by
  have beat := beat_step m.session input
  have read := readAs_beat beat going reads.awaits
  have finishes {error : Option CommandError} := @over_beat_iff _ _ _ _ _ beat going error
  refine ⟨?_, fun _ => reads.lines_concat going input, ?_, ?_, ?_, ?_, fun error ended => ?_,
    fun mem => ?_, fun line doomed error mem ends => ?_⟩
  · have awaits : Awaits (m.step input).session.state _ := read.awaits
    cases reading : m.session.state.reading? input with
    | none => simpa [reading] using awaits
    | some r => simpa [reading] using awaits
  · cases rs with
    | nil =>
      cases reading : m.session.state.reading? input with
      | none => rfl
      | some r => exact read.replies r reading
    | cons r rs => exact reads.first
  · refine List.isChain_append.2 ⟨reads.chain, ?_, fun r last r' next => ?_⟩
    · cases m.session.state.reading? input with
      | none => exact .nil
      | some r => exact .singleton r
    · have reading : m.session.state.reading? input = some r' := by simpa using next
      rw [read.replies r' reading, last]
      rfl
  · rw [Sitting.step, command?_eq, List.filterMap_append, ← reads.given]
    cases m.session.state.reading? input with
    | none => rfl
    | some r => cases given : r.given? with
      | _ => simp [given]
  · rw [List.flatMap_append, ← reads.marks]
    exact read.marks
  · rcases finishes.1 ended with ⟨none, rfl⟩ | ⟨line, doomed, reading, ends⟩
    · exact .inl ⟨none, List.mem_append_right _ (List.mem_singleton_self _)⟩
    · exact .inr ⟨line, doomed, by simp [reading], ends⟩
  · rcases List.mem_append.1 mem with mem | mem
    · obtain ⟨error, ended⟩ := reads.closed mem
      exact absurd ended (going error)
    · exact ⟨none, finishes.2 (.inl ⟨rfl, (List.mem_singleton.1 mem).symm⟩)⟩
  · rcases List.mem_append.1 mem with mem | mem
    · exact absurd (reads.ends line doomed error mem ends) (going error)
    · exact finishes.2 (.inr ⟨line, doomed, Option.mem_toList.1 mem, ends⟩)

theorem step (reads : Reads m inputs rs) (input : Input) :
    Reads (m.step input) (inputs ++ [input])
      (rs ++ (m.session.state.reading? input).toList) := by
  by_cases ended : ∃ error, m.session.state.phase = .over error
  · obtain ⟨error, ended⟩ := ended
    rw [reading?_of_over ended, Option.toList_none, List.append_nil]
    exact reads.step_of_over ended input
  · exact reads.step_of_going (fun error finished => ended ⟨error, finished⟩) input

theorem run (reads : Reads m [] []) (inputs : List Input) :
    Reads (m.run inputs) inputs (m.readings inputs) := by
  induction inputs using List.reverseRecOn with
  | nil => exact reads
  | append_singleton inputs input ih =>
    rw [run_concat, readings_append, readings, readings, List.append_nil]
    exact ih.step input

end Reads

/-- **Each line is read once**, in order, as a command or as the answer to the question that the
line before it has raised; and a record is deleted exactly on a yes to the question about it. -/
theorem reads_each_line_once (service : σ) (pageSize searchDelay : Nat) (inputs : List Input) :
    let m := start service pageSize searchDelay
    let rs := m.readings inputs
    ((∀ error, (m.run inputs).session.state.phase ≠ .over error) → ∀ input,
      (m.readings (inputs ++ [input])).map Reading.line
        = (inputs ++ [input]).filterMap Input.line?)
    ∧ (∀ error, (m.run inputs).session.state.phase = .over error → ∀ more,
      m.readings (inputs ++ more) = rs)
    ∧ rs.head?.bind Reading.repliesTo? = none
    ∧ (rs.IsChain fun r r' => r'.repliesTo? = r.asks?)
    ∧ (m.run inputs).given = rs.filterMap Reading.given?
    ∧ marks (m.run inputs).session.transcript = rs.flatMap Reading.marks
    ∧ (∀ line, isYesLine (some line) = true ↔ ∃ answer, Text.Utf8.decode line = .ok answer
      ∧ String.ofList (Text.lower (Text.trim answer)) ∈ ["y", "yes"])
    ∧ (∀ error, (m.run inputs).session.state.phase = .over error →
      (error = none ∧ .noMore ∈ inputs)
        ∨ ∃ line doomed, .command line doomed ∈ rs ∧ Ends line error)
    ∧ (.noMore ∈ inputs → ∃ error, (m.run inputs).session.state.phase = .over error)
    ∧ ∀ line doomed error, .command line doomed ∈ rs → Ends line error →
      (m.run inputs).session.state.phase = .over error := by
  intro m rs
  have reads : Reads (m.run inputs) inputs rs := (Reads.start ..).run inputs
  refine ⟨fun going input => ?_, fun error ended more => ?_, reads.first, reads.chain, reads.given,
    reads.marks, isYesLine_iff, reads.left, reads.closed, reads.ends⟩
  · rw [readings_append, readings, readings, List.append_nil]
    exact reads.lines_concat going input
  · rw [readings_append, readings_of_over ended, List.append_nil]

/-! A line that is no text, and a line after it. -/

/-- A byte that begins no character, and a command. -/
def garbledFirst : List Input :=
  [.line [0xff, 0x0a], .line (Text.Utf8.encode "r\n".toList)]

/-- **A line can be left unread** although nobody has left the browser and more lines would come: a
line that is no text ends it with an error. -/
theorem line_left_unread :
    let m := start (⟨[], [], []⟩ : Store) 1 300
    (∀ line ∈ garbledFirst.filterMap Input.line?, heard line ≠ some .quit)
    ∧ .noMore ∉ garbledFirst
    ∧ (∃ e, (m.run garbledFirst).session.state.phase = .over (some e))
    ∧ (m.readings garbledFirst).map Reading.line ≠ garbledFirst.filterMap Input.line? := by
  intro m
  have read : m.readings garbledFirst = [.command [0xff, 0x0a] none] := by decide +kernel
  have ended : (m.run garbledFirst).session.state.phase
      = .over (some (.input (.notText ⟨0, some 1⟩))) := by decide +kernel
  exact ⟨by decide +kernel, by decide +kernel, ⟨_, ended⟩, by rw [read]; decide +kernel⟩

end Browse.Sitting

end Exposition
