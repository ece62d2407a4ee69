import Exposition.Proofs.Browse.Cards
import Exposition.Proofs.History.Footing
import Exposition.Proofs.Paging.Partition
import Exposition.Proofs.Text.Numeral
import Exposition.Proofs.Text.Trim

/-!
# Proofs/Display/CardLines — the numbered lines of a list

A card begins with a line that has its number in brackets.  No other line of a list looks like that,
whatever code and explanations are made of: code stands behind a bar, and an explanation and a date
behind blanks (`Record.cardLines_card`).  So the numbered lines of a list are the first lines of its
cards, and no others (`History.cardLines_listing`).
-/

namespace Exposition

namespace Text

/-! ## Texts in one line -/

/-- **A text in one line.** -/
def IsLine (s : String) : Prop := '\n' ∉ s.toList

instance (s : String) : Decidable (IsLine s) := inferInstanceAs (Decidable ('\n' ∉ s.toList))

theorem isLine_append {first second : String} :
    IsLine (first ++ second) ↔ IsLine first ∧ IsLine second := by
  rw [IsLine, String.toList_append, List.mem_append, not_or]
  rfl

theorem isLine_of_digits {s : String} (digits : ∀ d ∈ s.toList, d.isDigit) : IsLine s := by
  intro feed
  exact absurd (digits _ feed) (by decide)

theorem isLine_zeroPadded (width n : Nat) : IsLine (zeroPadded width n) :=
  isLine_of_digits (isDigit_of_mem_zeroPadded width n)

theorem isLine_decimal (n : Nat) : IsLine (decimal n) := by
  refine isLine_of_digits ?_
  intro d mem
  rw [decimal, String.toList_ofList] at mem
  exact Nat.isDigit_of_mem_toDigits (by decide) (by decide) mem

theorem isLine_decimalInt (i : Int) : IsLine (decimalInt i) := by
  cases i with
  | ofNat n => exact isLine_decimal n
  | negSucc n => exact isLine_append.2 ⟨by decide, isLine_decimal (n + 1)⟩

/-- The end of a line is cut off. -/
theorem dropLineEnd_prefix_line (line : List Char) : dropLineEnd line <+: line := by
  rw [dropLineEnd]
  split
  · split
    · exact (List.dropLast_prefix _).trans (List.dropLast_prefix _)
    · exact List.dropLast_prefix _
  · exact List.prefix_rfl

theorem dropLineEnd_concat_prefix_line (line : List Char) :
    dropLineEnd (line ++ ['\n']) <+: line := by
  rw [dropLineEnd, if_pos (List.getLast?_concat ..), List.dropLast_concat]
  split
  · exact List.dropLast_prefix line
  · exact List.prefix_rfl

/-- The lines of a text hold no line feed. -/
theorem not_mem_of_mem_lines {cs line : List Char} (mem : line ∈ lines cs) : '\n' ∉ line := by
  obtain ⟨pieces, last, every, after⟩ := splitAfter_eq '\n' cs
  have whole {piece : List Char} (there : piece ∈ pieces ++ [last]) : '\n' ∉ piece :=
    not_mem_splitEvery (by decide) (every ▸ there)
  rw [lines, after, List.map_append, List.mem_append, List.map_map] at mem
  rcases mem with ended | unended
  · obtain ⟨piece, there, rfl⟩ := List.mem_map.1 ended
    exact mt (dropLineEnd_concat_prefix_line piece).mem (whole (List.mem_append_left _ there))
  · obtain ⟨piece, there, rfl⟩ := List.mem_map.1 unended
    obtain rfl : piece = last := by
      split at there
      · exact absurd there List.not_mem_nil
      · exact List.mem_singleton.1 there
    have feedless := whole (List.mem_append_right _ List.mem_cons_self)
    exact mt (dropLineEnd_prefix_line piece).mem feedless

/-! ## Lines with a number -/

/-- **A line reads as a card does**: it begins with a bracket and a digit. -/
def looksNumbered : List Char → Bool
  | '[' :: c :: _ => c.isDigit
  | _ => false

/-- **The lines of a text that read as cards do.** -/
def cardLines (cs : List Char) : List (List Char) := (cs.splitOn '\n').filter looksNumbered

section CardLines

variable {cs ds : List Char}

theorem looksNumbered_of_head? {c : Char} (begins : cs.head? = some c) (other : c ≠ '[') :
    looksNumbered cs = false := by
  obtain ⟨rest, rfl⟩ := List.head?_eq_some_iff.1 begins
  cases rest with
  | nil => simp [looksNumbered]
  | cons d rest => simp [looksNumbered, other]

theorem cardLines_of_numbered (whole : '\n' ∉ cs) (numbered : looksNumbered cs) :
    cardLines cs = [cs] := by
  rw [cardLines, List.splitOn_eq_singleton whole, List.filter_singleton, numbered]
  rfl

theorem cardLines_of_unnumbered (whole : '\n' ∉ cs) (plain : looksNumbered cs = false) :
    cardLines cs = [] := by
  rw [cardLines, List.splitOn_eq_singleton whole, List.filter_singleton, plain]
  rfl

theorem cardLines_of_other {c : Char} (whole : '\n' ∉ cs) (begins : cs.head? = some c)
    (other : c ≠ '[') : cardLines cs = [] :=
  cardLines_of_unnumbered whole (looksNumbered_of_head? begins other)

theorem cardLines_append_feed (cs ds : List Char) :
    cardLines (cs ++ '\n' :: ds) = cardLines cs ++ cardLines ds := by
  rw [cardLines, List.splitOn, List.splitOnP_append_cons cs ds (by decide), List.filter_append]
  rfl

/-- Lines that are ended each, with any text behind. -/
theorem cardLines_unlines_append (ls : List String) (cs : List Char) :
    cardLines ((unlines ls).toList ++ cs)
      = ls.flatMap (fun line => cardLines line.toList) ++ cardLines cs := by
  induction ls with
  | nil => rfl
  | cons line ls ih =>
    have first : (unlines (line :: ls)).toList ++ cs
        = line.toList ++ '\n' :: ((unlines ls).toList ++ cs) := by
      rw [unlines, List.map_cons, String.join_cons]
      simp [unlines]
    rw [first, cardLines_append_feed, ih, List.flatMap_cons, List.append_assoc]

end CardLines

end Text

open Text

/-! ## The lines of a card -/

theorem isLine_iconOfLanguage (tag : String) : IsLine (iconOfLanguage tag) := by
  unfold iconOfLanguage
  split <;> decide

/-- The head of a text holds what the text holds, and perhaps dots. -/
theorem mem_preview {limit : Nat} {cs : List Char} {c : Char} (mem : c ∈ preview limit cs) :
    c ∈ cs ∨ c = '.' := by
  rw [preview] at mem
  split at mem
  · rcases List.mem_append.1 mem with front | dots
    · exact .inl (List.mem_of_mem_take front)
    · exact .inr (by simpa using dots)
  · exact .inl mem

namespace Instant

theorem isLine_monthName (month : Nat) : IsLine (monthName month) := by
  unfold monthName
  split <;> decide

theorem isLine_yearText (year : Int) : IsLine (yearText year) := by
  have digits := isLine_zeroPadded 4 year.natAbs
  rw [yearText]
  split
  · exact isLine_append.2 ⟨by decide, digits⟩
  · split
    · exact isLine_append.2 ⟨by decide, digits⟩
    · exact digits

/-- A date is shown in one line. -/
theorem isLine_display (t : Instant) : IsLine t.display := by
  have half (hour : Nat) : IsLine (if hour < 12 then " AM" else " PM") := by
    split <;> decide
  simp only [display, isLine_append, isLine_monthName, isLine_decimal, isLine_yearText,
    isLine_zeroPadded, half, true_and, and_true]
  decide

end Instant

namespace Record

variable {r : Record}

/-- The first line of a card is one line. -/
theorem isLine_cardHeader (index : Nat) (whole : IsLine r.language) :
    IsLine (r.cardHeader index) := by
  have icon : IsLine r.level.icon := by
    cases r.level <;> decide
  have name : IsLine r.level.name := by
    cases r.level <;> decide
  have heart : IsLine (if r.isFavorite then " ♥" else "") := by
    split <;> decide
  unfold cardHeader
  simp only [isLine_append, isLine_decimal, isLine_decimalInt, isLine_iconOfLanguage, whole, icon,
    name, heart, and_true]
  decide

theorem looksNumbered_cardHeader (index : Nat) (r : Record) :
    looksNumbered (r.cardHeader index).toList := by
  obtain ⟨d, ds, digits⟩ := List.exists_cons_of_ne_nil
    (Nat.toDigits_ne_nil : Nat.toDigits 10 index ≠ [])
  have digit : d.isDigit := Nat.isDigit_of_mem_toDigits (b := 10) (by decide) (by decide)
    (digits ▸ List.mem_cons_self)
  obtain ⟨rest, header⟩ := label_prefix_cardHeader index r
  rw [← header, decimal]
  simpa [digits, looksNumbered] using digit

/-- Code is shown behind a bar, line by line. -/
theorem cardLines_of_mem_cardCode {line : String} (mem : line ∈ r.cardCode) :
    cardLines line.toList = [] := by
  obtain ⟨piece, there, rfl⟩ := List.mem_map.1 mem
  have whole : IsLine (String.ofList piece) := by
    rw [IsLine, String.toList_ofList]
    exact not_mem_of_mem_lines there
  exact cardLines_of_other (c := ' ') (isLine_append.2 ⟨by decide, whole⟩) (head?_append rfl)
    (by decide)

/-- The explanation is shown behind blanks, in one line. -/
theorem cardLines_cardSummary (r : Record) : cardLines r.cardSummary.toList = [] := by
  have whole : '\n' ∉ (Markup.strip r.explanation.toList).map
      fun c => if c = '\n' then ' ' else c := by
    intro feed
    obtain ⟨c, -, same⟩ := List.mem_map.1 feed
    split at same
    · exact absurd same (by decide)
    · next other => exact other same
  rw [cardSummary]
  refine cardLines_of_other (c := ' ') ?_ (head?_append rfl) (by decide)
  refine isLine_append.2 ⟨by decide, ?_⟩
  rw [IsLine, String.toList_ofList]
  intro feed
  rcases mem_preview feed with inside | dot
  · exact whole inside
  · exact absurd dot (by decide)

theorem cardLines_date (r : Record) : cardLines ("    " ++ r.created.display).toList = [] :=
  cardLines_of_other (c := ' ') (isLine_append.2 ⟨by decide, r.created.isLine_display⟩)
    (head?_append rfl) (by decide)

/-- **Only the first line of a card reads as a card does**, whatever its code and its explanation
are made of. -/
theorem cardLines_card (index : Nat) (whole : IsLine r.language) :
    cardLines (r.card index).toList = [(r.cardHeader index).toList] := by
  have header : cardLines (r.cardHeader index).toList = [(r.cardHeader index).toList] :=
    cardLines_of_numbered (isLine_cardHeader index whole) (looksNumbered_cardHeader index r)
  have code : r.cardCode.flatMap (fun line => cardLines line.toList) = [] :=
    List.flatMap_eq_nil_iff.2 fun line => cardLines_of_mem_cardCode
  rw [card, String.append_assoc, String.toList_append, cardLines_unlines_append, cardLines_date,
    List.cons_append, List.flatMap_cons, List.flatMap_append, header, code, List.flatMap_singleton,
    cardLines_cardSummary]
  rfl

end Record

/-! ## The lines of a list -/

namespace History

variable {h : History}

theorem cardLines_summaryLine (h : History) : cardLines h.summaryLine.toList = [] := by
  refine cardLines_of_other (c := 'S') ?_ (by simp [summaryLine]) (by decide)
  have whole : IsLine h.summaryLine := by
    simp only [summaryLine, isLine_append, isLine_decimal, and_true]
    decide
  exact whole

/-- The line with the page number may begin with a bracket, but no digit follows. -/
theorem cardLines_pageLine (h : History) : cardLines h.pageLine.toList = [] := by
  have previous : IsLine (if h.paging.controls.hasPrevious then "[p]rev" else " prev ") := by
    split <;> decide
  have next : IsLine (if h.paging.controls.hasNext then "[n]ext" else " next ") := by
    split <;> decide
  have whole : IsLine h.pageLine := by
    simp only [pageLine, isLine_append, isLine_decimal, previous, next, true_and, and_true]
    decide
  have plain : looksNumbered h.pageLine.toList = false := by
    rw [pageLine]
    split
    · simp [looksNumbered]
    · simp [looksNumbered]
  exact cardLines_of_unnumbered whole plain

/-- **The numbered lines of a list are the first lines of its cards.** -/
theorem cardLines_listing (items : h.view = .items)
    (whole : ∀ r ∈ h.records, IsLine r.language) :
    cardLines h.listing.toList
      = h.records.zipIdx.map fun card => (card.1.cardHeader (card.2 + 1)).toList := by
  have cards : h.cards.flatMap (fun line => cardLines line.toList)
      = h.records.zipIdx.map fun card => (card.1.cardHeader (card.2 + 1)).toList := by
    rw [History.cards, List.flatMap_map, List.map_eq_flatMap]
    refine List.flatMap_congr ?_
    intro card mem
    exact Record.cardLines_card _ (whole _ (List.fst_mem_of_mem_zipIdx mem))
  have page : (if h.paging.controls.visible then [h.pageLine] else []).flatMap
      (fun line => cardLines line.toList) = [] := by
    split
    · rw [List.flatMap_singleton, cardLines_pageLine]
    · rfl
  have ended := cardLines_unlines_append h.listingLines []
  rw [List.append_nil] at ended
  rw [listing, ended, listingLines, items]
  rw [List.cons_append, List.flatMap_cons, List.flatMap_append, cardLines_summaryLine, cards, page,
    List.nil_append, List.append_nil]
  exact List.append_nil _

/-! ## What a list tells -/

section Shows

variable {σ : Type} [Archive σ] {store : σ}

/-- **A list tells the positions of its records** among those that match. -/
theorem Shows.range_eq (shown : Shows store h) (items : h.view = .items) :
    h.range.1 ≤ h.range.2 ∧ h.range.2 - h.range.1 + 1 = h.records.length
      ∧ h.records
        = ((Archive.matching store h.filters).take h.range.2).drop (h.range.1 - 1) := by
  have some : h.records ≠ [] := by
    intro none
    rw [shown.view, none] at items
    exact absurd items (by simp)
  have there : h.paging.page ≤ h.paging.totalPages :=
    Nat.le_of_not_lt (mt shown.records_eq_nil_iff.2 some)
  have reached := h.paging.page_le_totalPages_iff.1 there
  have ends := h.paging.pred_mul_add
  have size := h.paging.one_le_perPage
  have records : h.records = ((Archive.matching store h.filters).take
      (min (h.paging.page * h.paging.perPage) (Archive.matching store h.filters).length)).drop
        ((h.paging.page - 1) * h.paging.perPage) :=
    shown.records.trans (Slice.cut_eq_between _ h.query h.paging.one_le_page)
  have range : h.range = ((h.paging.page - 1) * h.paging.perPage + 1,
      min (h.paging.page * h.paging.perPage) h.paging.totalCount) := by
    rw [History.range, Paging.range_of_page_le there]
    rfl
  have length := congrArg List.length records
  rw [List.length_drop, List.length_take] at length
  rw [range, Nat.add_sub_cancel, shown.totalCount]
  rw [shown.totalCount] at reached
  refine ⟨by omega, by omega, records⟩

/-- A history shows the page of the archive if its list area shows the records of that page. -/
theorem Shows.of_answer {log : Log} (tracks : Tracks log h) (items : h.view = .items)
    (answered : log.reply? = some (.ok (Archive.page store h.query))) : Shows store h := by
  have answer := Log.answer?_of_reply? answered
  have records : h.records = (Archive.page store h.query).records := by
    rw [tracks.records, answer]
    rfl
  refine ⟨records, ?_, ?_⟩
  · rw [tracks.totalCount, answer]
    rfl
  · have view := tracks.view
    rw [items] at view
    obtain ⟨t, slice, -, answered', shown⟩ := Log.of_view_items_or_empty (.inl view.symm)
    obtain rfl := Except.ok.inj (Option.some.inj (answered.symm.trans answered'))
    have some : ¬ h.records.isEmpty := by
      rw [records, List.isEmpty_iff]
      exact shown.1 view.symm
    rw [items, if_neg some]

end Shows

/-- **A list is truthful, and its numbers are those that commands use.**  After any run, if the list
area shows records and they are the page that an archive has, the list begins with the positions of
these records among those that match and with the number of these.  As long as the languages of the
records are single lines, as many lines as there are records begin with a bracket and a digit,
whatever code and explanations are made of; line `k` of these begins with `k` and with the number of
the record on card `k`.  No other card exists. -/
theorem Desk.lists_truthfully {σ : Type} [Archive σ] (service store : σ) (perPage : Nat)
    (ops : List Operation) :
    let d := (Desk.start service perPage).run ops
    let h := d.session.state
    let matching := Archive.matching store h.filters
    let shown := cardLines h.listing.toList
    h.view = .items → d.log.reply? = some (.ok (Archive.page store h.query)) →
    (∀ r ∈ h.records, '\n' ∉ r.language.toList) →
    (∃ first last rest, h.listing = "Showing " ++ decimal first ++ "-" ++ decimal last ++ " of "
          ++ decimal matching.length ++ " explanations\n" ++ rest
        ∧ first ≤ last ∧ last - first + 1 = h.records.length
        ∧ h.records = (matching.take last).drop (first - 1))
    ∧ shown.length = h.records.length
    ∧ (∀ k r, Browse.Browser.card? h k = some r → ∃ line, shown[k - 1]? = some line
        ∧ ("[" ++ decimal k ++ "] #" ++ decimalInt r.id ++ " ").toList <+: line)
    ∧ ∀ k, (Browse.Browser.card? h k).isSome ↔ 1 ≤ k ∧ k ≤ h.records.length := by
  intro d h matching shown items answered whole
  have tracks : Tracks d.log h := Desk.tracks_run (Tracks.start perPage) ops
  have shows := Shows.of_answer tracks items answered
  have lines : shown = h.records.zipIdx.map fun card => (card.1.cardHeader (card.2 + 1)).toList :=
    cardLines_listing items whole
  refine ⟨?_, ?_, ?_, ?_⟩
  · obtain ⟨rest, begins⟩ : ∃ rest, h.listing = h.summaryLine ++ "\n" ++ rest := by
      rw [listing, listingLines, items, unlines]
      exact ⟨_, String.join_cons⟩
    refine ⟨h.range.1, h.range.2, rest, ?_, shows.range_eq items⟩
    rw [begins, summaryLine, shows.totalCount]
    simp only [String.append_assoc]
    rfl
  · rw [lines, List.length_map, List.length_zipIdx]
  · intro k r there
    obtain ⟨first, there⟩ := Browse.Browser.card?_eq_some_iff.1 there
    refine ⟨(r.cardHeader k).toList, ?_, r.label_prefix_cardHeader k⟩
    rw [lines, List.getElem?_map, List.getElem?_zipIdx, there]
    simp [Nat.sub_add_cancel first]
  · intro k
    rw [Browse.Browser.card?]
    split
    · next zero => simp [zero]
    · next some =>
      rw [isSome_getElem?]
      omega

/-- Two records whose code and explanation hold lines that look like cards. -/
def lookalikes : Store where
  records := [⟨7, "x\n[1] #9\r\n[2] #9", "c", .beginner, "<p>\n[1] #9</p>[3] #9", true, ⟨0, 0⟩,
    none⟩, ⟨5, "\n\n[1] #9", "[1]", .advanced, "[1]&nbsp;#9", false, ⟨0, 0⟩, none⟩]

theorem Desk.lists_lookalikes_truthfully :
    let d := (Desk.start lookalikes 1).run [.load, .turnForward]
    let h := d.session.state
    h.view = .items ∧ d.log.reply? = some (.ok (Archive.page lookalikes h.query))
    ∧ (∀ r ∈ h.records, '\n' ∉ r.language.toList)
    ∧ (cardLines h.listing.toList).length = 1
    ∧ ∃ line, (cardLines h.listing.toList)[0]? = some line ∧ "[1] #5 ".toList <+: line := by
  intro d h
  have items : h.view = .items := by decide
  have answered : d.log.reply? = some (.ok (Archive.page lookalikes h.query)) := rfl
  have whole : ∀ r ∈ h.records, '\n' ∉ r.language.toList := by decide
  obtain ⟨-, length, labels, -⟩ :=
    Desk.lists_truthfully lookalikes lookalikes 1 [.load, .turnForward] items answered whole
  have second : Browse.Browser.card? h 1 = lookalikes.records[1]? := rfl
  have spelled : "[" ++ decimal 1 ++ "] #" ++ decimalInt 5 ++ " " = "[1] #5 " := by decide
  have label := labels 1 _ second
  exact ⟨items, answered, whole, length, spelled ▸ label⟩

end History

end Exposition
