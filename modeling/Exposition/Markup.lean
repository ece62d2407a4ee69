import Exposition.Text.Blank
import Exposition.Text.Line
import Exposition.Text.Lowercase

/-!
# Markup — HTML as plain text

Explanations arrive in HTML and are shown as text (`Markup.strip`): tags are taken out, some of them
leaving a line break (`untag`), the six common entities are decoded, each kind by replacing it in
the whole text (`readEntities`), and white space is brought in order (`collapse`).  A `<` without a
`>` after it begins no tag and stays.
-/

namespace Exposition

namespace Text

/-- **Every occurrence of a word replaced**, from the left; what was put in is not looked at again,
and occurrences do not overlap. -/
def replaceAll (word put : List Char) : List Char → List Char
  | [] => []
  | c :: cs =>
    if word.isPrefixOf (c :: cs) then put ++ replaceAll word put (cs.drop (word.length - 1))
    else c :: replaceAll word put cs
termination_by cs => cs.length
decreasing_by all_goals (simp; try omega)

end Text

open Text

/-- What follows the first element that meets `p` is shorter than the whole. -/
theorem length_lt_of_splitAtFirst {p : Char → Bool} :
    ∀ {cs head rest : List Char}, splitAtFirst p cs = (head, some rest) → rest.length < cs.length
  | [], _, _, h => by simp [splitAtFirst] at h
  | c :: cs, head, rest, h => by
    simp only [splitAtFirst] at h
    split at h
    · simp only [Prod.mk.injEq, Option.some.injEq] at h
      rw [← h.2]
      simp
    · simp only [Prod.mk.injEq] at h
      have := length_lt_of_splitAtFirst (Prod.ext rfl h.2 : splitAtFirst p cs = (_, some rest))
      simp only [List.length_cons]
      omega

namespace Markup

/-- The end tags that break a line. -/
def blockNames : List String :=
  ["p", "div", "li", "ul", "ol", "pre", "h1", "h2", "h3", "h4", "h5", "h6"]

/-- The name of a tag: what stands before the first blank or slash, leading slashes apart. -/
def tagName (tag : List Char) : List Char :=
  (tag.dropWhile (· == '/')).takeWhile fun c => !(isBlank c || c == '/')

/-- **A tag breaks the line** if it is `br`, or the end of a block.  `inner` is what stands between
the angle brackets. -/
def endsLine (inner : List Char) : Bool :=
  let tag := lowerAscii (trim inner)
  let name := String.ofList (tagName tag)
  name == "br" || (blockNames.contains name && tag.head? == some '/')

/-- **The text without its tags.** -/
def untag : List Char → List Char
  | [] => []
  | c :: cs =>
    if c = '<' then
      match h : splitAtFirst (· == '>') cs with
      | (inner, some rest) =>
        have := length_lt_of_splitAtFirst h
        (if endsLine inner then ['\n'] else []) ++ untag rest
      | (_, none) => c :: cs
    else c :: untag cs
termination_by cs => cs.length

/-- The entities and what they stand for, in the order in which they are decoded. -/
def entities : List (String × Char) :=
  [("&lt;", '<'), ("&gt;", '>'), ("&quot;", '"'), ("&#39;", '\''), ("&nbsp;", ' '), ("&amp;", '&')]

/-- **The text with its entities decoded**, one kind after the other. -/
def readEntities (cs : List Char) : List Char :=
  entities.foldl (fun cs (entity, c) => replaceAll entity.toList [c] cs) cs

/-- The lines without those that are blank and follow a blank one. -/
def squeeze (afterBlank : Bool) : List (List Char) → List (List Char)
  | [] => []
  | line :: rest =>
    if isBlankText line then
      if afterBlank then squeeze true rest else line :: squeeze true rest
    else line :: squeeze false rest

/-- **White space in order**: no blank lines in a row, no blanks before a line's end, none at the
end of the text. -/
def collapse (cs : List Char) : List Char :=
  trimEnd ((squeeze false (lines cs)).flatMap fun line => trimEnd line ++ ['\n'])

/-- **HTML as plain text.** -/
def strip (html : List Char) : List Char := collapse (trim (readEntities (untag html)))

/-- `strip` on strings. -/
def stripped (html : String) : String := String.ofList (strip html.toList)

end Markup

end Exposition
