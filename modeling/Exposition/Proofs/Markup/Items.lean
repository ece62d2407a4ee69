import Exposition.Proofs.Markup.Replace
import Exposition.Proofs.Markup.Tidy

/-!
# Proofs/Markup/Items — well-formed markup as plain text

Well-formed markup is a row of **items**, texts and tags, where a text is written with entities for
the characters that mean something in markup.  Taking the tags out leaves the entities of one text
(`untag_markup`), since a text is written without angle brackets; and decoding the entities, one
kind after the other, never decodes twice, since every `&` that was written begins an entity and its
own is the last to be decoded (`readEntities_written`).  So what is left of the markup is the text
of its items, made tidy (`strips_to_plain_text`).
-/

namespace Exposition

open Text

namespace Markup

/-! ## Tags that break a line -/

/-- **A tag that breaks a line**, by what stands between its brackets.  Trimmed and in small letters
it begins with slashes, if any, and goes on with its name, which ends at a blank or a slash; the
name is `br`, or there are slashes and it is the name of a block. -/
def BreaksLine (inner : List Char) : Prop :=
  ∃ slashes name rest, lowerAscii (trim inner) = slashes ++ (name ++ rest)
    ∧ (∀ c ∈ slashes, c = '/') ∧ (∀ c ∈ rest.head?, isBlank c ∨ c = '/')
    ∧ (String.ofList name = "br" ∨ slashes ≠ [] ∧ String.ofList name ∈
      ["p", "div", "li", "ul", "ol", "pre", "h1", "h2", "h3", "h4", "h5", "h6"])

/-- Between slashes and the end of the name stands the name. -/
theorem tagName_append {slashes name rest : List Char} (lead : ∀ c ∈ slashes, c = '/')
    (some : name ≠ []) (whole : ∀ c ∈ name, isBlank c = false ∧ c ≠ '/')
    (ended : ∀ c ∈ rest.head?, isBlank c ∨ c = '/') :
    tagName (slashes ++ (name ++ rest)) = name := by
  have named : (slashes ++ (name ++ rest)).dropWhile (· == '/') = name ++ rest := by
    rw [List.dropWhile_append_of_pos (by simpa using lead)]
    obtain ⟨c, cs, rfl⟩ := List.exists_cons_of_ne_nil some
    exact List.dropWhile_cons_of_neg (by simp [whole c List.mem_cons_self])
  have stops : rest.takeWhile (fun c => !(isBlank c || c == '/')) = [] := by
    cases rest with
    | nil => rfl
    | cons c rest =>
      have ends : (isBlank c || c == '/') = true := by simpa using ended c rfl
      exact List.takeWhile_cons_of_neg (by simp [ends])
  rw [tagName, named, List.takeWhile_append_of_pos fun c mem => by simp [whole c mem], stops,
    List.append_nil]

/-- The names that count are plain words. -/
theorem whole_of_mem {name : List Char} (mem : String.ofList name ∈ "br" :: blockNames) :
    name ≠ [] ∧ ∀ c ∈ name, isBlank c = false ∧ c ≠ '/' := by
  have words : ∀ word ∈ "br" :: blockNames,
      word.toList ≠ [] ∧ word.toList.all fun c => !isBlank c && c != '/' := by decide
  obtain ⟨some, plain⟩ := words _ mem
  rw [String.toList_ofList] at some plain
  exact ⟨some, fun c there => by simpa using List.all_eq_true.1 plain c there⟩

theorem endsLine_iff {inner : List Char} : endsLine inner ↔ BreaksLine inner := by
  rw [endsLine, BreaksLine]
  generalize lowerAscii (trim inner) = tag
  simp only [Bool.or_eq_true, Bool.and_eq_true, beq_iff_eq, List.contains_iff_mem]
  constructor
  · intro breaks
    refine ⟨tag.takeWhile (· == '/'), tagName tag,
      (tag.dropWhile (· == '/')).dropWhile fun c => !(isBlank c || c == '/'), ?_, ?_, ?_, ?_⟩
    · rw [tagName, List.takeWhile_append_dropWhile, List.takeWhile_append_dropWhile]
    · exact fun c mem => by simpa using List.mem_takeWhile_imp mem
    · intro c head
      have stopped := List.head?_dropWhile_not (fun c => !(isBlank c || c == '/'))
        (tag.dropWhile (· == '/'))
      rw [Option.mem_def.1 head] at stopped
      simpa only [Bool.not_eq_false', Bool.or_eq_true, beq_iff_eq] using stopped
    · refine breaks.imp_right fun block => ⟨?_, block.1⟩
      obtain ⟨rest, rfl⟩ := List.head?_eq_some_iff.1 block.2
      simp
  · rintro ⟨slashes, name, rest, rfl, lead, ended, counts⟩
    have known : String.ofList name ∈ "br" :: blockNames :=
      List.mem_cons.2 (counts.imp_right And.right)
    obtain ⟨some, whole⟩ := whole_of_mem known
    rw [tagName_append lead some whole ended]
    refine counts.imp_right fun block => ⟨block.2, ?_⟩
    obtain ⟨c, slashes, rfl⟩ := List.exists_cons_of_ne_nil block.1
    rw [lead c List.mem_cons_self]
    rfl

instance : DecidablePred BreaksLine := fun _ => decidable_of_iff _ endsLine_iff

/-! ## Items -/

/-- **How a character is written** in a text of markup. -/
def written : Char → List Char
  | '&' => "&amp;".toList
  | '<' => "&lt;".toList
  | '>' => "&gt;".toList
  | '"' => "&quot;".toList
  | '\'' => "&#39;".toList
  | c => [c]

/-- The characters that mean something in markup. -/
def specials : List Char := ['&', '<', '>', '"', '\'']

theorem written_of_ordinary {c : Char} (ordinary : c ∉ specials) : written c = [c] := by
  unfold written
  split
  case h_6 => rfl
  all_goals exact absurd (by decide) ordinary

/-- **An item of well-formed markup**: a text, or a tag with what stands between its brackets. -/
inductive Item
  | text (cs : List Char)
  | tag (inner : List Char) (whole : '>' ∉ inner)

namespace Item

/-- The item as it is written. -/
def markup : Item → List Char
  | .text cs => cs.flatMap written
  | .tag inner _ => '<' :: (inner ++ ['>'])

/-- The item as it is read: a text is read as it is, and of a tag at most a line break is left. -/
def plain : Item → List Char
  | .text cs => cs
  | .tag inner _ => if BreaksLine inner then ['\n'] else []

end Item

/-! ## Taking the tags out -/

theorem untag_append_of_not_mem {cs : List Char} (absent : '<' ∉ cs) (rest : List Char) :
    untag (cs ++ rest) = cs ++ untag rest := by
  induction cs with
  | nil => rfl
  | cons c cs ih =>
    obtain ⟨other, absent⟩ := not_or.1 (mt List.mem_cons.2 absent)
    rw [List.cons_append, untag, if_neg (Ne.symm other), ih absent, List.cons_append]

theorem untag_tag {inner : List Char} (whole : '>' ∉ inner) (rest : List Char) :
    untag ('<' :: (inner ++ '>' :: rest))
      = (if BreaksLine inner then ['\n'] else []) ++ untag rest := by
  have cut : splitAtFirst (· == '>') (inner ++ '>' :: rest) = (inner, some rest) := by
    refine splitAtFirst_append_cons (fun c mem => ?_) rfl
    exact beq_false_of_ne fun same => whole (same ▸ mem)
  rw [untag, if_pos rfl]
  split
  · next inner' rest' cut' =>
    obtain ⟨rfl, rfl⟩ : inner = inner' ∧ rest = rest' := by simpa [cut] using cut'
    simp only [endsLine_iff]
  · next cut' => simp [cut] at cut'

/-- A text is written without angle brackets. -/
theorem lt_not_mem_written (cs : List Char) : '<' ∉ cs.flatMap written := by
  intro mem
  obtain ⟨c, -, there⟩ := List.mem_flatMap.1 mem
  have special : specials.all fun c => !(written c).contains '<' := by decide
  by_cases ordinary : c ∈ specials
  · exact absurd there (by simpa using List.all_eq_true.1 special c ordinary)
  · rw [written_of_ordinary ordinary, List.mem_singleton] at there
    exact ordinary (there ▸ by decide)

theorem untag_item (item : Item) (rest : List Char) :
    untag (item.markup ++ rest) = item.plain.flatMap written ++ untag rest := by
  cases item with
  | text cs => exact untag_append_of_not_mem (lt_not_mem_written cs) rest
  | tag inner whole =>
    rw [Item.markup, List.cons_append, List.append_assoc, List.singleton_append, untag_tag whole,
      Item.plain]
    split
    · rfl
    · rfl

/-- **Without its tags**, markup is the text of its items as it would be written. -/
theorem untag_markup (items : List Item) :
    untag (items.flatMap Item.markup) = (items.flatMap Item.plain).flatMap written := by
  induction items with
  | nil => simp [untag]
  | cons item items ih =>
    rw [List.flatMap_cons, untag_item, ih, List.flatMap_cons, List.flatMap_append]

/-! ## Decoding the entities -/

/-- How a character is written when the entities of some characters have been decoded. -/
def partly (decoded : List Char) (c : Char) : List Char := if c ∈ decoded then [c] else written c

/-- **Decoding one more entity.**  Every `&` that is still there begins the entity of a character,
so a match can begin nowhere else. -/
theorem replaceAll_partly (entity : List Char) (c : Char) (decoded cs : List Char)
    (own : written c = '&' :: entity ∨ written c = [c] ∧ c ≠ '&') (later : '&' ∉ decoded)
    (others : specials.all fun d => d ≠ c → Apart ('&' :: entity) (written d)) :
    replaceAll ('&' :: entity) [c] (cs.flatMap (partly decoded))
      = cs.flatMap (partly (c :: decoded)) := by
  have single {d : Char} (other : d ≠ '&') : Apart ('&' :: entity) [d] :=
    ⟨fun ahead => other (List.cons_prefix_cons.1 ahead).1.symm,
      fun behind => other (List.cons_prefix_cons.1 behind).1, by simp⟩
  refine replaceAll_flatMap fun d _ => ?_
  by_cases done : d ∈ decoded
  · have other : d ≠ '&' := fun same => later (same ▸ done)
    rw [partly, if_pos done, partly, if_pos (List.mem_cons_of_mem c done)]
    exact .inr ⟨single other, rfl⟩
  rw [partly, if_neg done, partly]
  by_cases same : d = c
  · rw [if_pos (List.mem_cons.2 (.inl same)), same]
    obtain ⟨word⟩ | ⟨plain, other⟩ := own
    · exact .inl ⟨word, rfl⟩
    · rw [plain]
      exact .inr ⟨single other, rfl⟩
  · rw [if_neg (List.not_mem_cons_of_ne_of_not_mem same done)]
    refine .inr ⟨?_, rfl⟩
    by_cases special : d ∈ specials
    · exact of_decide_eq_true (List.all_eq_true.1 others d special) same
    · rw [written_of_ordinary special]
      exact single fun amp => special (amp ▸ by decide)

/-- **What was written is read**: no entity is decoded twice. -/
theorem readEntities_written (cs : List Char) : readEntities (cs.flatMap written) = cs := by
  have start : written = partly [] := by
    funext c
    simp [partly]
  have done : partly ['&', ' ', '\'', '"', '>', '<'] = fun c => [c] := by
    funext c
    rw [partly]
    split
    · rfl
    · next pending =>
      refine written_of_ordinary fun special => pending ?_
      exact (by decide : specials ⊆ ['&', ' ', '\'', '"', '>', '<']) special
  rw [start]
  change replaceAll ('&' :: ['a', 'm', 'p', ';']) ['&']
    (replaceAll ('&' :: ['n', 'b', 's', 'p', ';']) [' ']
      (replaceAll ('&' :: ['#', '3', '9', ';']) ['\'']
        (replaceAll ('&' :: ['q', 'u', 'o', 't', ';']) ['"']
          (replaceAll ('&' :: ['g', 't', ';']) ['>']
            (replaceAll ('&' :: ['l', 't', ';']) ['<'] (cs.flatMap (partly [])))))))
    = cs
  simp (disch := decide) only [replaceAll_partly, done, List.flatMap_singleton']

/-- **Well-formed markup is read as its text, made tidy**: the texts of its items as they are, a
line break for each tag that breaks a line, and nothing for any other tag.  So a text that was
written as markup comes back tidy. -/
theorem strips_to_plain_text :
    (∀ items : List Item, stripped (String.ofList (items.flatMap Item.markup))
      = String.ofList (tidy (items.flatMap Item.plain)))
    ∧ ∀ cs : List Char,
      stripped (String.ofList (cs.flatMap written)) = String.ofList (tidy cs) := by
  have reads (items : List Item) : stripped (String.ofList (items.flatMap Item.markup))
      = String.ofList (tidy (items.flatMap Item.plain)) := by
    rw [stripped, String.toList_ofList, strip, untag_markup, readEntities_written, collapse_trim]
  refine ⟨reads, fun cs => ?_⟩
  simpa only [List.flatMap_singleton, Item.markup, Item.plain] using reads [.text cs]

end Markup

end Exposition
