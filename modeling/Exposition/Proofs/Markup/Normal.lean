import Exposition.Proofs.Markup.Items

/-!
# Proofs/Markup/Normal — plain text is tidy

Whatever markup is made of, the text that is left of it is tidy (`IsTidy`), because making a text
tidy makes it so (`isTidy_tidy`).  A tidy text is left as it is (`IsTidy.tidy_eq`), so making a text
tidy twice comes to making it tidy once, and so does reading a text as markup in which no tag and no
entity begins (`strips_to_tidy_text`).
-/

namespace Exposition.Markup

open Text

/-- **A tidy text.**  It neither begins nor ends in a blank, no line of it ends in one, and of two
lines, one after the other, one at least is not blank. -/
structure IsTidy (cs : List Char) : Prop where
  begins : ∀ c ∈ cs.head?, isBlank c = false
  ends : ∀ c ∈ cs.getLast?, isBlank c = false
  lineEnds : ∀ line ∈ cs.splitOn '\n', ∀ c ∈ line.getLast?, isBlank c = false
  parted : (cs.splitOn '\n').IsChain fun line next => ¬ (isBlankText line ∧ isBlankText next)

/-- **A tidy text is left as it is.** -/
theorem IsTidy.tidy_eq {cs : List Char} (tidied : IsTidy cs) : tidy cs = cs := by
  have trimmed : (cs.splitOn '\n').map trimEnd = cs.splitOn '\n' := by
    refine (List.map_congr_left ?_).trans (List.map_id _)
    intro line mem
    exact trimEnd_of_visible (tidied.lineEnds line mem)
  have parted : (cs.splitOn '\n').IsChain Parted := by
    refine tidied.parted.imp ?_
    intro line next apart
    by_contra both
    obtain ⟨rfl, rfl⟩ : line = [] ∧ next = [] := by simpa [Parted] using both
    exact apart ⟨rfl, rfl⟩
  rw [tidy, trim_of_visible tidied.begins tidied.ends, trimmed,
    List.destutter_of_isChain _ _ parted, List.intercalate_splitOn]

/-! ## Making a text tidy -/

/-- The lines of the text made tidy. -/
def tidyLines (cs : List Char) : List (List Char) :=
  (((trim cs).splitOn '\n').map trimEnd).destutter Parted

theorem trimEnd_of_mem_tidyLines {cs line : List Char} (mem : line ∈ tidyLines cs) :
    ∃ whole ∈ (trim cs).splitOn '\n', trimEnd whole = line :=
  List.mem_map.1 ((List.destutter_sublist ..).subset mem)

theorem splitOn_tidy (cs : List Char) : (tidy cs).splitOn '\n' = tidyLines cs := by
  have whole : ∀ line ∈ tidyLines cs, '\n' ∉ line := by
    intro line mem inside
    obtain ⟨whole, there, rfl⟩ := trimEnd_of_mem_tidyLines mem
    have piece : whole ∈ splitEvery (· == '\n') (trim cs) := by
      rwa [splitEvery_eq_splitOnP]
    exact not_mem_splitEvery (by decide) piece
      ((List.rdropWhile_prefix isBlank whole).mem inside)
  have some : tidyLines cs ≠ [] := by
    rw [tidyLines, Ne, List.destutter_eq_nil, List.map_eq_nil_iff]
    exact List.splitOnP_ne_nil _ _
  exact List.splitOn_intercalate '\n' whole some

/-- The text made tidy begins as the trimmed text does. -/
theorem head?_tidy (cs : List Char) : (tidy cs).head? = (trim cs).head? := by
  have visible := visible_head?_trim cs
  rw [tidy]
  cases start : trim cs with
  | nil => rfl
  | cons c rest =>
    have visible := visible c (by rw [start]; rfl)
    have other : c ≠ '\n' := by
      rintro rfl
      exact absurd visible (by decide)
    obtain ⟨line, lines, cut⟩ := List.exists_cons_of_ne_nil (splitEvery_ne_nil (· == '\n') rest)
    have pieces : splitEvery (· == '\n') (c :: rest) = (c :: line) :: lines := by
      rw [splitEvery, if_neg (by simpa using other), cut]
    have pieces : (c :: rest).splitOn '\n' = (c :: line) :: lines := by
      rwa [splitEvery_eq_splitOnP] at pieces
    obtain ⟨last, kept⟩ := List.head?_eq_some_iff.1 (head?_trimEnd visible line)
    rw [pieces, List.map_cons, kept, List.destutter_cons', ← cons_map_squeeze]
    cases (squeeze (c :: last).isEmpty lines).map trimEnd with
    | nil => rw [List.intercalate_singleton]; rfl
    | cons next after => rw [List.intercalate_cons_cons]; rfl

/-- **A text made tidy is tidy.** -/
theorem isTidy_tidy (cs : List Char) : IsTidy (tidy cs) where
  begins := by
    rw [head?_tidy]
    exact visible_head?_trim cs
  ends := by
    rw [← collapse_trim, collapse]
    exact visible_getLast?_trimEnd _
  lineEnds := by
    rw [splitOn_tidy]
    intro line mem
    obtain ⟨whole, -, rfl⟩ := trimEnd_of_mem_tidyLines mem
    exact visible_getLast?_trimEnd whole
  parted := by
    have empty (whole : List Char) (blank : isBlankText (trimEnd whole)) : trimEnd whole = [] := by
      rw [← trimEnd_of_visible (visible_getLast?_trimEnd whole)]
      exact trimEnd_eq_nil_iff.2 blank
    rw [splitOn_tidy]
    refine (List.isChain_destutter _ _).imp_of_mem_imp ?_
    intro line next mem mem' apart both
    obtain ⟨whole, -, rfl⟩ := trimEnd_of_mem_tidyLines mem
    obtain ⟨whole', -, rfl⟩ := trimEnd_of_mem_tidyLines mem'
    exact apart.elim (· (empty whole both.1)) (· (empty whole' both.2))

/-- Nothing gets into a text by making it tidy, line breaks apart. -/
theorem mem_of_mem_tidy {c : Char} {cs : List Char} (mem : c ∈ tidy cs) : c = '\n' ∨ c ∈ cs := by
  refine (mem_intercalate mem).imp_right ?_
  rintro ⟨line, there, inside⟩
  obtain ⟨whole, piece, rfl⟩ := trimEnd_of_mem_tidyLines there
  have piece : whole ∈ splitEvery (· == '\n') (trim cs) := by
    rwa [splitEvery_eq_splitOnP]
  exact mem_of_mem_trim
    (mem_of_mem_splitEvery piece ((List.rdropWhile_prefix isBlank whole).mem inside))

/-! ## Texts in which no markup begins -/

theorem untag_of_plain {cs : List Char} (plain : '<' ∉ cs) : untag cs = cs := by
  simpa [untag] using untag_append_of_not_mem plain []

theorem readEntities_of_plain {cs : List Char} (plain : '&' ∉ cs) : readEntities cs = cs := by
  have begins : ∀ entity ∈ entities, ∃ word, entity.1.toList = '&' :: word := by
    simp [entities]
  refine List.foldlRecOn entities _ (motive := fun text => text = cs) rfl ?_
  intro text same entity mem
  obtain ⟨word, begins⟩ := begins entity mem
  change replaceAll entity.1.toList [entity.2] text = cs
  rw [begins, same, replaceAll_of_not_mem plain]

/-- A text in which neither a tag nor an entity begins is made tidy. -/
theorem strip_of_plain {cs : List Char} (tagless : '<' ∉ cs) (bare : '&' ∉ cs) :
    strip cs = tidy cs := by
  rw [strip, untag_of_plain tagless, readEntities_of_plain bare, collapse_trim]

/-- **What is left of markup is a tidy text**, whatever the markup is made of: bringing its white
space in order once more changes nothing.  So reading a text as markup in which neither a tag nor an
entity begins, and then again, comes to reading it once. -/
theorem strips_to_tidy_text :
    (∀ html : String, IsTidy (stripped html).toList
      ∧ String.ofList (collapse (trim (stripped html).toList)) = stripped html)
    ∧ ∀ text : String, '<' ∉ text.toList → '&' ∉ text.toList →
        stripped (stripped text) = stripped text := by
  refine ⟨?_, ?_⟩
  · intro html
    have tidied : IsTidy (strip html.toList) := by
      rw [strip, collapse_trim]
      exact isTidy_tidy _
    rw [stripped, String.toList_ofList, collapse_trim, tidied.tidy_eq]
    exact ⟨tidied, rfl⟩
  · intro text tagless bare
    have lacks {c : Char} (other : c ≠ '\n') (absent : c ∉ text.toList) :
        c ∉ tidy text.toList := by
      intro mem
      exact (mem_of_mem_tidy mem).elim other absent
    rw [stripped, stripped, String.toList_ofList, strip_of_plain tagless bare,
      strip_of_plain (lacks (by decide) tagless) (lacks (by decide) bare),
      (isTidy_tidy _).tidy_eq]

/-- Two lines with a no-break space, a carriage return and blank lines of several kinds. -/
theorem strips_to_tidy_text_of_blanks :
    let text := " a\u00A0\r\n\u3000\n\t\n\n> b\r\n"
    '<' ∉ text.toList ∧ '&' ∉ text.toList ∧ stripped (stripped text) = stripped text := by
  intro text
  have tagless : '<' ∉ text.toList := by decide
  have bare : '&' ∉ text.toList := by decide
  exact ⟨tagless, bare, strips_to_tidy_text.2 text tagless bare⟩

end Exposition.Markup
