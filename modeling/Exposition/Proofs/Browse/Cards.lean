import Exposition.Proofs.Browse.Beat
import Exposition.Proofs.Display.Listing
import Exposition.Proofs.History.Account
import Exposition.Service.Store

/-!
# Proofs/Browse/Cards — what a card number refers to

Cards are counted on the page that came last, and the user has seen that page if its list was
printed.  It was, unless a record was open when the page came: then the record is shown in the place
of the list, and the numbers of the cards are those of a page that nobody has seen
(`Sitting.card_unseen`).  In all other cases card `n` is the card `n` of the list that was printed
last (`Sitting.cards_as_printed`).
-/

namespace Exposition

open History (Operation)

/-! ## What has come and what was printed -/

/-- The records of the page that comes with an event. -/
def Event.records? : Event → Option (List Record)
  | .asked (.list _) (.ok slice) => some slice.records
  | _ => none

/-- The text that an event prints. -/
def Event.text? : Event → Option String
  | .printed text => some text
  | _ => none

/-- **The records on the page**, after what has passed since. -/
def pageAfter (records : List Record) (events : List Event) : List Record :=
  events.foldl (fun records e => e.records?.getD records) records

/-- **A list with cards.** -/
def IsCardList (text : String) : Prop := ∃ h : History, h.view = .items ∧ text = h.listing

/-- No list with cards is printed. -/
def NoList (events : List Event) : Prop := ∀ text, .printed text ∈ events → ¬ IsCardList text

/-- **The list with cards that was printed last**; it is the list of the page that had come last by
then. -/
def LastListed (events : List Event) (listed : History) : Prop :=
  ∃ before after, events = before ++ .printed listed.listing :: after ∧ listed.view = .items
    ∧ listed.records = pageAfter [] before ∧ NoList after

/-- **The page is hidden**: when it came, an open record was shown in the place of its list, and no
list with cards has been printed since. -/
def Hidden (events : List Event) : Prop :=
  ∃ (before : List Event) (came : Event) (between : List Event) (r : Record) (after : List Event),
    events = before ++ came :: (between ++ .printed (r.detail ++ "\n") :: after)
      ∧ came.records?.isSome ∧ (∀ text, .printed text ∉ between) ∧ NoList after

theorem IsCardList.head? {text : String} (list : IsCardList text) :
    text.toList.head? = some 'S' := by
  obtain ⟨h, items, rfl⟩ := list
  rw [h.head?_listing, items]

theorem not_isCardList_of_head? {text : String} {c : Char} (begins : text.toList.head? = some c)
    (other : c ≠ 'S') : ¬ IsCardList text := fun list =>
  other (Option.some.inj (begins.symm.trans list.head?))

theorem noList_printed {text : String} (other : ¬ IsCardList text) :
    NoList [.printed text] := fun text' mem => by
  obtain rfl := Event.printed.inj (List.mem_singleton.1 mem)
  exact other

theorem noList_of_silent {events : List Event} (silent : ∀ text, .printed text ∉ events) :
    NoList events := fun text mem => absurd mem (silent text)

theorem NoList.append {events events' : List Event} (unlisted : NoList events)
    (unlisted' : NoList events') : NoList (events ++ events') := fun text mem =>
  (List.mem_append.1 mem).elim (unlisted text) (unlisted' text)

theorem LastListed.append {events events' : List Event} {listed : History}
    (last : LastListed events listed) (unlisted : NoList events') :
    LastListed (events ++ events') listed := by
  obtain ⟨before, after, rfl, items, records, quiet⟩ := last
  exact ⟨before, after ++ events', by simp, items, records, quiet.append unlisted⟩

theorem Hidden.append {events events' : List Event} (hidden : Hidden events)
    (unlisted : NoList events') : Hidden (events ++ events') := by
  obtain ⟨before, e, between, r, after, rfl, came, silent, quiet⟩ := hidden
  exact ⟨before, e, between, r, after ++ events', by simp, came, silent, quiet.append unlisted⟩

theorem pageAfter_append (records : List Record) (events events' : List Event) :
    pageAfter records (events ++ events') = pageAfter (pageAfter records events) events' :=
  List.foldl_append ..

theorem pageAfter_of_pageless {records : List Record} {events : List Event}
    (pageless : ∀ e ∈ events, e.records? = none) : pageAfter records events = records := by
  induction events with
  | nil => rfl
  | cons e events ih =>
    rw [pageAfter, List.foldl_cons, pageless e (List.mem_cons_self ..)]
    exact ih fun e mem => pageless e (List.mem_cons_of_mem _ mem)

theorem pageAfter_printed (records : List Record) (events : List Event) (text : String) :
    pageAfter records (events ++ [.printed text]) = pageAfter records events :=
  pageAfter_append ..

namespace History

/-! ## The page and its cards -/

/-- A history that has heard of a page holds its records. -/
theorem records_hear (h : History) (e : Event) :
    (hear h e).records = e.records?.getD h.records := by
  cases e with
  | asked r reply =>
    cases r with
    | list q =>
      change ((h.follow q).received reply).records = _
      cases reply with
      | ok slice => rw [received_ok]; rfl
      | error e => rw [received_error]; rfl
    | delete id =>
      cases reply with
      | ok =>
        change (h.forget id).records = h.records
        rw [forget_eq]
      | error e => rfl
    | mark id isFavorite => cases reply <;> rfl
    | languages => cases reply <;> rfl
    | _ => rfl
  | _ => rfl

theorem records_foldl_hear (events : List Event) (h : History) :
    (events.foldl hear h).records = pageAfter h.records events := by
  induction events generalizing h with
  | nil => rfl
  | cons e events ih =>
    rw [List.foldl_cons, ih, records_hear]
    rfl

theorem view_received (h : History) (slice : Slice) :
    (h.received (.ok slice)).records = [] ∨ (h.received (.ok slice)).view = .items := by
  rw [received_ok]
  cases records : slice.records with
  | nil => exact .inl rfl
  | cons => exact .inr rfl

/-- **The page that comes is listed**, or there is nothing to list. -/
theorem Account.fresh {result : Option ServiceError} {events : List Event}
    (account : Account result events) (h : History) : (∀ e ∈ events, e.records? = none)
      ∨ (events.foldl hear h).records = [] ∨ (events.foldl hear h).view = .items := by
  cases account with
  | nothing => exact .inl (by simp)
  | learned reply => exact .inl (by simp [Event.records?])
  | @refused r change e message =>
    refine .inl ?_
    cases r with
    | _ => simp [Event.records?]
  | @loaded before lead q reply =>
    rw [List.foldl_append, hear_pageEvents]
    cases reply with
    | ok slice => exact .inr (view_received _ slice)
    | error e =>
      rw [received_error]
      cases lead with
      | emptied id q' empty =>
        refine .inr (.inl ?_)
        rw [List.foldl_append, hear_pageEvents]
        change ((((deleteEvents id).foldl hear h).follow q').received _).records = []
        rw [received_ok, empty]
      | _ => exact .inl (by simp [pageEvents, notices, markEvents, deleteEvents, Event.records?])
  | opened q reply reply' =>
    rw [List.foldl_append, hear_pageEvents]
    cases reply with
    | ok slice =>
      refine .inr ?_
      cases reply' with
      | _ => exact view_received (h.follow q) slice
    | error e => exact .inl (by simp [pageEvents, notices, Event.records?])

/-- **What becomes of the page** while some events pass: it is the page that comes last, if one
comes, and then it can be listed. -/
structure Paged (h : History) (events : List Event) (h' : History) : Prop where
  silent : ∀ text, .printed text ∉ events
  records : h'.records = pageAfter h.records events
  fresh : (∀ e ∈ events, e.records? = none) ∨ h'.records = [] ∨ h'.view = .items

variable {σ : Type} [Service σ]

theorem Operation.paged {o : Operation} (whole : o.IsWhole) (s : Session σ History) :
    ∃ events, (o.act s).2.transcript = s.transcript ++ events
      ∧ Paged s.state events (o.act s).2.state := by
  by_cases remote : o.IsRemote
  · obtain ⟨events, account, heard⟩ := o.accounts remote s
    obtain ⟨events', walk⟩ := o.walks whole (fun _ may => may) s
    obtain rfl : events = events' := heard.since_eq.symm.trans walk.since_eq
    refine ⟨events, heard.transcript, walk.silent, ?_, ?_⟩
    · rw [heard.state, records_foldl_hear]
    · rw [heard.state]
      exact account.fresh s.state
  · refine ⟨[], ?_, by simp, ?_, .inl (by simp)⟩
    · cases o with
      | select | deselect => exact (List.append_nil _).symm
      | issue | settle => exact whole.elim
      | _ => exact absurd trivial remote
    · cases o with
      | select | deselect => rfl
      | issue | settle => exact whole.elim
      | _ => exact absurd trivial remote

end History

/-! ## The browser and its cards -/

namespace Browse.Browser

variable {σ : Type} [Service σ]

/-- **Each card is known to the user**, or the page is hidden. -/
structure Carded (events : List Event) (h : History) : Prop where
  page : h.records = pageAfter [] events
  known : h.records = [] ∨ (∃ listed, LastListed events listed ∧ listed.records = h.records)
    ∨ Hidden events

theorem card?_eq_some_iff {h : History} {n : Nat} {r : Record} :
    card? h n = some r ↔ 0 < n ∧ h.records[n - 1]? = some r := by
  rw [card?]
  split
  · simp [*]
  · simp [Nat.pos_of_ne_zero, *]

/-- **What a card number refers to**: a record of the page that came last, and a card of the list
that was printed last, unless the page is hidden. -/
theorem Carded.shows {events : List Event} {h : History} (carded : Carded events h) {n : Nat}
    {r : Record} (there : card? h n = some r) :
    0 < n ∧ (pageAfter [] events)[n - 1]? = some r
      ∧ ((∃ listed, LastListed events listed ∧ card? listed n = some r
          ∧ (r.card n).toList <:+: listed.listing.toList) ∨ Hidden events) := by
  obtain ⟨first, held⟩ := card?_eq_some_iff.1 there
  refine ⟨first, carded.page ▸ held, ?_⟩
  rcases carded.known with empty | ⟨listed, last, same⟩ | hidden
  · rw [empty] at held
    exact absurd held (by simp)
  · rw [← same] at held
    obtain ⟨-, -, -, items, -⟩ := id last
    have shown := History.card_infix_listing items held
    rw [Nat.sub_add_cancel first] at shown
    exact .inl ⟨listed, last, card?_eq_some_iff.2 ⟨first, held⟩, shown⟩
  · exact .inr hidden

/-- No page has come, and no list with cards was printed. -/
theorem Carded.quiet {events events' : List Event} {h h' : History} (carded : Carded events h)
    (pageless : ∀ e ∈ events', e.records? = none) (unlisted : NoList events')
    (records : h'.records = h.records) : Carded (events ++ events') h' where
  page := by rw [records, pageAfter_append, pageAfter_of_pageless pageless, carded.page]
  known := by
    rw [records]
    exact carded.known.imp_right (.imp
      (fun ⟨listed, last, same⟩ => ⟨listed, last.append unlisted, same⟩) (.append · unlisted))

theorem paged_does {s s' : Session σ History} {o : Option Operation} (does : Does s o s')
    (can : ∀ o', o = some o' → CanDo s.state o') :
    ∃ events, s'.transcript = s.transcript ++ events ∧ History.Paged s.state events s'.state := by
  induction does with
  | nothing => exact ⟨[], (List.append_nil _).symm, by simp, rfl, .inl (by simp)⟩
  | operation o => exact o.paged (can o rfl).whole s
  | hinted does n ih =>
    obtain ⟨events, passed, paged⟩ := ih can
    refine ⟨events ++ [.notified n], ?_, ?_, ?_, ?_⟩
    · rw [Session.after_transcript, passed, List.append_assoc]
    · simpa using paged.silent
    · rw [pageAfter_append, Session.after_state, paged.records]
      rfl
    · refine paged.fresh.imp_left fun pageless e mem => ?_
      rcases List.mem_append.1 mem with mem | mem
      · exact pageless e mem
      · rw [List.mem_singleton.1 mem]
        rfl

theorem not_isCardList_viewed {h : History} (hides : h.selected = none → h.view ≠ .items) :
    ¬ IsCardList (viewed h) := by
  rw [viewed]
  cases opened : h.selected with
  | some r =>
    exact not_isCardList_of_head? (Text.head?_append r.head?_detail) (by decide)
  | none =>
    refine not_isCardList_of_head? h.head?_listing ?_
    cases view : h.view with
    | items => exact absurd view (hides opened)
    | _ => simp

/-- **The view after what was done**: it lists the page that has come, unless a record is open. -/
theorem Carded.viewed {events events' : List Event} {h h' : History} (carded : Carded events h)
    (paged : History.Paged h events' h') :
    Carded (events ++ events' ++ [.printed (viewed h')]) h' := by
  have page : h'.records = pageAfter [] (events ++ events') := by
    rw [pageAfter_append, ← carded.page, paged.records]
  have page' := page.trans (pageAfter_printed [] (events ++ events') (Browser.viewed h')).symm
  by_cases empty : h'.records = []
  · exact ⟨page', .inl empty⟩
  by_cases lists : h'.selected = none ∧ h'.view = .items
  · refine ⟨page', .inr (.inl ⟨h', ⟨events ++ events', [], ?_, lists.2, page, by simp [NoList]⟩,
      rfl⟩)⟩
    rw [Browser.viewed, lists.1]
  have unlisted : NoList [.printed (Browser.viewed h')] :=
    noList_printed (not_isCardList_viewed fun closed items => lists ⟨closed, items⟩)
  by_cases pageless : ∀ e ∈ events', e.records? = none
  · have same : h'.records = h.records := by rw [paged.records, pageAfter_of_pageless pageless]
    exact (carded.quiet pageless (noList_of_silent paged.silent) same).quiet
      (by simp [Event.records?]) unlisted rfl
  · -- The page that has come could be listed, so it is the open record that is shown.
    have items : h'.view = .items := (paged.fresh.resolve_left pageless).resolve_left empty
    obtain ⟨r, opened⟩ : ∃ r, h'.selected = some r :=
      Option.ne_none_iff_exists'.1 fun closed => lists ⟨closed, items⟩
    obtain ⟨e, mem, came⟩ : ∃ e ∈ events', e.records? ≠ none := by simpa using pageless
    obtain ⟨before, between, rfl⟩ := List.append_of_mem mem
    refine ⟨page', .inr (.inr ⟨events ++ before, e, between, r, [], ?_,
      Option.isSome_iff_ne_none.2 came, fun text mem => ?_, by simp [NoList]⟩)⟩
    · rw [Browser.viewed, opened]
      simp
    · exact paged.silent text (by simp [mem])

/-- A remark is no list. -/
theorem noList_remark {e : Event} (remark : IsRemark e) : NoList [e] := by
  cases remark with
  | complaint text => simp [NoList]
  | help =>
    exact noList_printed (not_isCardList_of_head? (Text.head?_append head?_help) (by decide))
  | question => exact noList_printed (not_isCardList_of_head? (c := 'A') rfl (by decide))

/-- **The cards stay known** while the browser is at work, or else the page is hidden. -/
theorem carded_lasts : Lasts σ Carded where
  remark remark carded := by
    refine carded.quiet ?_ (noList_remark remark) rfl
    cases remark with
    | _ => simp [Event.records?]
  does does can carded := by
    obtain ⟨events, passed, paged⟩ := paged_does does can
    rw [passed]
    exact carded.viewed paged

/-- The first page, and its list after the languages. -/
theorem Carded.started {pageSize : Nat} {events : List Event} {h : History}
    (paged : History.Paged (.start pageSize) events h) :
    Carded (events ++ (naming h ++ [.printed h.listing])) h := by
  have unpaged : ∀ e ∈ naming h, e.records? = none := by
    rw [naming]
    cases h.languages with
    | nil => simp
    | cons => simp [Event.records?]
  have page : h.records = pageAfter [] (events ++ naming h) := by
    rw [pageAfter_append, pageAfter_of_pageless unpaged]
    exact paged.records
  rw [← List.append_assoc]
  refine ⟨page.trans (pageAfter_printed ..).symm, ?_⟩
  by_cases items : h.view = .items
  · exact .inr (.inl ⟨h, ⟨events ++ naming h, [], rfl, items, page, by simp [NoList]⟩, rfl⟩)
  · rcases paged.fresh with pageless | empty | listed
    · exact .inl (paged.records.trans (pageAfter_of_pageless pageless))
    · exact .inl empty
    · exact absurd listed items

theorem carded_startUp (service : σ) (pageSize searchDelay : Nat) :
    let s := (startUp { service, state := .start pageSize searchDelay }).2
    Carded s.transcript s.state.history := by
  obtain ⟨events, passed, paged⟩ := Operation.paged (o := .openUp) trivial
    (historyPart { service, state := .start pageSize searchDelay })
  intro s
  rw [startUp_transcript, startUp_opened]
  change Carded ((Operation.openUp.act (historyPart _)).2.transcript ++ _) _
  rw [passed]
  exact .started paged

/-! ## Commands on cards -/

/-- The number of the card that a command is about. -/
def cardNumber? : Command → Option Nat
  | .open card => some card
  | .star card => card
  | .remove card => card
  | _ => none

/-- **A command acts on a record**: it opens it, has its favorite flag turned over, or offers it for
deletion. -/
def ActsOn (r : Record) (s s' : Session σ Browser) : Command → Prop
  | .open _ => s'.state.history.selected = some r
  | .star _ => ∃ reply events,
    s'.transcript = s.transcript ++ .asked (.mark r.id (!r.isFavorite)) reply :: events
  | .remove _ => s'.transcript = s.transcript ++ [.printed (confirmation deletionQuestion)]
    ∧ s'.state.phase = .answer (.card r.id)
  | _ => False

omit [Service σ] in
theorem onCard_apply {s : Session σ History} {card : Nat} {r : Record}
    (there : card? s.state card = some r) (act : Record → History.Act σ Unit) :
    onCard card act s = act r s := by
  rw [onCard, Action.bind_of_ok (Action.state_apply s), there]

omit [Service σ] in
theorem onCard_missing {s : Session σ History} {card : Nat} (missing : card? s.state card = none)
    (act : Record → History.Act σ Unit) :
    (onCard card act s).2 = s.after s.service s.state [.notified (noCard card)] := by
  rw [onCard, Action.bind_of_ok (Action.state_apply s), missing]
  rfl

/-- Setting a favorite flag begins with the request for it. -/
theorem transcript_markFavorite (id : Int) (isFavorite : Bool) (s : Session σ History) :
    ∃ reply events, (History.markFavorite id isFavorite s).2.transcript
      = s.transcript ++ .asked (.mark id isFavorite) reply :: events := by
  rcases answered : Service.answer (.mark id isFavorite) s.service with ⟨e | message, service⟩
  · rw [History.markFavorite_error answered]
    exact ⟨.error e, _, rfl⟩
  · have loads : History.Walks (fun _ => False) (History.load : History.Act σ Unit) := .load
    obtain ⟨events, walk⟩ := loads
      (s.after service (s.state.mark id isFavorite) (History.markEvents id isFavorite message))
    rw [History.markFavorite_ok answered, walk.transcript, Session.after_transcript,
      List.append_assoc]
    exact ⟨.ok message, _, rfl⟩

variable {s : Session σ Browser} {input : Input} {c : Command} {n : Nat}

theorem actsOn_step (gives : s.state.command? input = some c) (numbered : cardNumber? c = some n)
    {r : Record} (there : card? s.state.history n = some r) :
    ActsOn r s (step input s).2 c := by
  cases c with
  | «open» card =>
    obtain rfl : card = n := Option.some.inj numbered
    rw [step_of_obeyed s gives (by simp) (by simp) (by simp) rfl, ActsOn, shown_state, obey,
      onCard_apply there]
    rfl
  | star card =>
    obtain rfl : card = some n := numbered
    obtain ⟨reply, events, marked⟩ := transcript_markFavorite r.id (!r.isFavorite) (historyPart s)
    rw [step_of_obeyed s gives (by simp) (by simp) (by simp) rfl, ActsOn, shown_transcript, obey,
      onCard_apply there, marked, List.append_assoc]
    exact ⟨reply, _, rfl⟩
  | remove card =>
    obtain rfl : card = some n := numbered
    have asks : target? s.state.history (.remove (some n)) = some (.card r.id) := by
      rw [target?, there]
      rfl
    rw [step_of_asking s gives asks]
    exact ⟨rfl, rfl⟩
  | _ => exact absurd numbered (by simp [cardNumber?])

/-- **A number without a card selects nothing.** -/
theorem step_of_missing (gives : s.state.command? input = some c)
    (numbered : cardNumber? c = some n) (missing : card? s.state.history n = none) :
    (step input s).2 = s.after s.service s.state
      [.notified (noCard n), .printed (viewed s.state.history)] := by
  have hinted {act : History.Act σ Unit} (does : (act (historyPart s)).2
      = (historyPart s).after s.service s.state.history [.notified (noCard n)]) :
      shown act s = s.after s.service s.state
        [.notified (noCard n), .printed (viewed s.state.history)] := by
    have performed : (perform act s).2
        = s.after s.service s.state [.notified (noCard n)] := by
      change (act (historyPart s)).2.withState
        { s.state with history := (act (historyPart s)).2.state } = _
      rw [does]
      rfl
    rw [shown, performed, view_apply, Session.after_after]
    rfl
  cases c with
  | «open» card =>
    obtain rfl : card = n := Option.some.inj numbered
    rw [step_of_obeyed s gives (by simp) (by simp) (by simp) rfl]
    exact hinted (onCard_missing missing _)
  | star card =>
    obtain rfl : card = some n := numbered
    rw [step_of_obeyed s gives (by simp) (by simp) (by simp) rfl]
    exact hinted (onCard_missing missing _)
  | remove card =>
    obtain rfl : card = some n := numbered
    rw [step_of_obeyed s gives (by simp) (by simp) (by simp) (by rw [target?, missing]; rfl)]
    exact hinted rfl
  | _ => exact absurd numbered (by simp [cardNumber?])

end Browse.Browser

/-! ## Runs -/

namespace Browse.Sitting

open Browser

variable {σ : Type} [Service σ]

/-- **Card numbers mean what was printed**, in every run: a command on card `n` acts on the record
`n` of the page that came last; and the list with cards that was printed last shows this record as
its card `n`, unless an open record was shown in the place of that page.  A number without a card
selects nothing. -/
theorem cards_as_printed (service : σ) (pageSize searchDelay : Nat) (inputs : List Input)
    {input : Input} {c : Command} {n : Nat}
    (gives : ((start service pageSize searchDelay).run inputs).session.state.command? input
      = some c) (numbered : cardNumber? c = some n) :
    let m := (start service pageSize searchDelay).run inputs
    (∀ r, card? m.session.state.history n = some r →
      ActsOn r m.session (m.step input).session c
      ∧ 0 < n ∧ (pageAfter [] m.session.transcript)[n - 1]? = some r
      ∧ ((∃ listed, LastListed m.session.transcript listed ∧ card? listed n = some r
          ∧ (r.card n).toList <:+: listed.listing.toList)
        ∨ Hidden m.session.transcript))
    ∧ (card? m.session.state.history n = none → (m.step input).session
      = m.session.after m.session.service m.session.state
        [.notified (noCard n), .printed (viewed m.session.state.history)]) := by
  intro m
  have carded : Carded m.session.transcript m.session.state.history :=
    lasts_run carded_lasts (carded_startUp service pageSize searchDelay) inputs
  exact ⟨fun r there => ⟨actsOn_step gives numbered there, carded.shows there⟩,
    step_of_missing gives numbered⟩

/-! Three records, each on a page of its own. -/

/-- A store of three records. -/
def threeCards : Store where
  records := [3, 2, 1].map fun id => ⟨id, "", "", .beginner, "", false, ⟨0, 0⟩, none⟩

/-- Card 1 is opened as it was printed. -/
theorem cards_as_printed_of_first :
    let m := (start threeCards 1 300).run []
    let input := Input.line (Text.Utf8.encode "open 1\n".toList)
    m.session.state.command? input = some (.open 1) ∧ cardNumber? (.open 1) = some 1
    ∧ ∃ r, card? m.session.state.history 1 = some r ∧ r.id = 3
      ∧ (m.step input).session.state.history.selected = some r
      ∧ ∃ listed, LastListed m.session.transcript listed ∧ card? listed 1 = some r := by
  intro m input
  have gives : m.session.state.command? input = some (.open 1) := by decide +kernel
  have first : (card? m.session.state.history 1).map (·.id) = some 3 := by decide +kernel
  have texts : ∀ text ∈ m.session.transcript.filterMap Event.text?,
      text.toList.head? ≠ some 'E' := by decide +kernel
  obtain ⟨r, there, number⟩ := Option.map_eq_some_iff.1 first
  obtain ⟨acts, -, -, shown⟩ := (cards_as_printed threeCards 1 300 [] gives rfl).1 r there
  refine ⟨gives, rfl, r, there, number, acts, ?_⟩
  rcases shown with ⟨listed, last, held, -⟩ | ⟨before, e, between, r', after, split, -⟩
  · exact ⟨listed, last, held⟩
  · have mem : r'.detail ++ "\n" ∈ m.session.transcript.filterMap Event.text? :=
      List.mem_filterMap.2 ⟨.printed (r'.detail ++ "\n"), by rw [split]; simp, rfl⟩
    exact absurd (Text.head?_append r'.head?_detail) (texts _ mem)

/-- **A card can be unseen**: while record 3 is open the next page comes, and then card 1 is record
2, which no list has shown as its card 1. -/
theorem card_unseen :
    let m := (start threeCards 1 300).run
      [.line (Text.Utf8.encode "open 1\n".toList), .line (Text.Utf8.encode "next\n".toList)]
    let input := Input.line (Text.Utf8.encode "star 1\n".toList)
    m.session.state.command? input = some (.star (some 1))
    ∧ ∃ r, card? m.session.state.history 1 = some r ∧ r.id = 2
      ∧ ActsOn r m.session (m.step input).session (.star (some 1))
      ∧ ∀ listed : History, .printed listed.listing ∈ m.session.transcript → listed.view = .items →
        (card? listed 1).map (·.id) ≠ some r.id := by
  intro m input
  have gives : m.session.state.command? input = some (.star (some 1)) := by decide +kernel
  have second : (card? m.session.state.history 1).map (·.id) = some 2 := by decide +kernel
  have texts : ∀ text ∈ m.session.transcript.filterMap Event.text?,
      text.toList.head? = some 'S' → ¬ "[1] #2 ".toList <:+: text.toList := by decide +kernel
  obtain ⟨r, there, number⟩ := Option.map_eq_some_iff.1 second
  refine ⟨gives, r, there, number, actsOn_step gives rfl there, fun listed printed items same => ?_⟩
  obtain ⟨r', held, same⟩ := Option.map_eq_some_iff.1 same
  have mem : listed.listing ∈ m.session.transcript.filterMap Event.text? :=
    List.mem_filterMap.2 ⟨_, printed, rfl⟩
  have label := (r'.label_prefix_card 1).isInfix.trans
    (History.card_infix_listing items (card?_eq_some_iff.1 held).2)
  rw [same, number] at label
  exact texts _ mem (by rw [listed.head?_listing, items]) label

end Browse.Sitting

end Exposition
