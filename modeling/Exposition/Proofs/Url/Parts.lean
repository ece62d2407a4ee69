import Exposition.Proofs.Url.Authority
import Exposition.Proofs.Url.Path

/-!
# Proofs/Url/Parts — more text at the end of a URL

A URL of the web is read in parts: scheme, authority, path, query, fragment.  More text at the end
leaves the scheme as it is (`splitScheme_append`), and the authority as well if that has ended
(`parseAfterSlashes_append`).  What follows the authority `complete`s the URL; if it has a query or
fragment the path is as before (`path_complete_append`), and if not the text is on the path, where
slashes leave the stem as it is (`stem_complete`) and other characters do not (`complete_longer`).
Without a path there is no URL with these characters at its end (`not_parseAfterSlashes_of_blank`).
-/

namespace Exposition.Url

open Text

/-! ## The scheme -/

theorem splitScheme_colon {name rest : List Char} (chars : ∀ c ∈ name, isSchemeChar c) :
    splitScheme (name ++ ':' :: rest)
      = if name.head?.any Char.isAlpha then some (String.ofList (lowerAscii name), rest)
        else none := by
  have start : (name ++ ':' :: rest).takeWhile isSchemeChar = name := by
    rw [List.takeWhile_append_of_pos chars, List.takeWhile_cons_of_neg (by decide), List.append_nil]
  have back : (name ++ ':' :: rest).dropWhile isSchemeChar = ':' :: rest := by
    rw [List.dropWhile_append_of_pos chars, List.dropWhile_cons_of_neg (by decide)]
  cases name with
  | nil => rfl
  | cons c name =>
    rw [List.cons_append] at start back ⊢
    simp only [splitScheme, start, back]
    rfl

theorem splitScheme_eq_some {cs rest : List Char} {scheme : String}
    (split : splitScheme cs = some (scheme, rest)) :
    ∃ name, cs = name ++ ':' :: rest ∧ ∀ c ∈ name, isSchemeChar c := by
  cases cs with
  | nil => cases split
  | cons c cs =>
    simp only [splitScheme] at split
    split at split
    · next more found =>
      split at split
      · obtain ⟨-, rfl⟩ := Prod.mk.inj (Option.some.inj split)
        refine ⟨(c :: cs).takeWhile isSchemeChar, ?_, fun d mem => List.mem_takeWhile_imp mem⟩
        rw [← found, List.takeWhile_append_dropWhile]
      · cases split
    · cases split

/-- What follows the scheme may have other ends than slashes. -/
theorem splitScheme_append {front rest : List Char} {k : Nat} {scheme : String}
    (split : splitScheme (front ++ List.replicate k '/') = some (scheme, rest)) :
    ∃ after, rest = after ++ List.replicate k '/' ∧
      ∀ more, splitScheme (front ++ more) = some (scheme, after ++ more) := by
  have noColon : ':' ∉ List.replicate k '/' := fun mem =>
    absurd (List.eq_of_mem_replicate mem) (by decide)
  obtain ⟨name, text, chars⟩ := splitScheme_eq_some split
  obtain ⟨after, rfl, rfl⟩ : ∃ after, front = name ++ ':' :: after ∧
      rest = after ++ List.replicate k '/' := by
    rcases List.append_eq_append_iff.1 text with ⟨more, -, slashes⟩ | ⟨more, front, later⟩
    · exact absurd (slashes ▸ List.mem_append_right more List.mem_cons_self) noColon
    · rcases List.cons_eq_append_iff.1 later with ⟨-, slashes⟩ | ⟨after, rfl, same⟩
      · exact absurd (slashes ▸ List.mem_cons_self) noColon
      · exact ⟨after, front, same⟩
  refine ⟨after, rfl, fun more => ?_⟩
  rw [List.append_assoc, List.cons_append, splitScheme_colon chars] at split ⊢
  split at split
  · next letter =>
    rw [if_pos letter, (Prod.mk.inj (Option.some.inj split)).1]
  · cases split

/-! ## Query and fragment -/

theorem splitTail_append_of_hash {cs : List Char} (hash : '#' ∈ cs) (more : List Char) :
    (splitTail (cs ++ more)).head = (splitTail cs).head ∧ (splitTail cs).fragment.isSome := by
  obtain ⟨front, fragment, rfl, none⟩ := List.eq_append_cons_of_mem hash
  have whole : ∀ c ∈ front, (c == '#') = false := fun c mem =>
    beq_false_of_ne fun same => none (same ▸ mem)
  have cut : splitAtFirst (· == '#') (front ++ '#' :: fragment) = (front, some fragment) :=
    splitAtFirst_append_cons whole rfl
  have cutMore : splitAtFirst (· == '#') (front ++ '#' :: (fragment ++ more))
      = (front, some (fragment ++ more)) := splitAtFirst_append_cons whole rfl
  rw [List.append_assoc, List.cons_append, splitTail, splitTail, cut, cutMore]
  exact ⟨rfl, rfl⟩

theorem splitTail_of_no_hash {cs : List Char} (noHash : '#' ∉ cs) : splitTail cs
    = ⟨(splitAtFirst (· == '?') cs).1, (splitAtFirst (· == '?') cs).2, none⟩ := by
  have whole : splitAtFirst (· == '#') cs = (cs, none) :=
    splitAtFirst_of_whole fun c mem => beq_false_of_ne fun same => noHash (same ▸ mem)
  rw [splitTail, whole]

theorem splitTail_append_of_mark {cs more : List Char} (noHash : '#' ∉ cs) (mark : '?' ∈ cs)
    (noHashMore : '#' ∉ more) :
    (splitTail (cs ++ more)).head = (splitTail cs).head ∧ (splitTail cs).query.isSome := by
  rw [splitTail_of_no_hash noHash,
    splitTail_of_no_hash (List.not_mem_append noHash noHashMore)]
  obtain ⟨front, query, rfl, none⟩ := List.eq_append_cons_of_mem mark
  have whole : ∀ c ∈ front, (c == '?') = false := fun c mem =>
    beq_false_of_ne fun same => none (same ▸ mem)
  rw [List.append_assoc, List.cons_append, splitAtFirst_append_cons whole rfl,
    splitAtFirst_append_cons whole rfl]
  exact ⟨rfl, rfl⟩

/-- A text that a query or fragment ends is cut where it is without what is put to its end. -/
theorem splitTail_append {cs more : List Char} (ended : '#' ∈ cs ∨ '?' ∈ cs) (noHash : '#' ∉ more) :
    (splitTail (cs ++ more)).head = (splitTail cs).head ∧
      ¬ ((splitTail cs).query = none ∧ (splitTail cs).fragment = none) := by
  by_cases hash : '#' ∈ cs
  · obtain ⟨same, some⟩ := splitTail_append_of_hash hash more
    exact ⟨same, fun none => absurd some (by simp [none.2])⟩
  · obtain ⟨same, some⟩ := splitTail_append_of_mark hash (ended.resolve_left hash) noHash
    exact ⟨same, fun none => absurd some (by simp [none.1])⟩

/-! ## After the authority -/

/-- The characters of the authority. -/
def isInAuthority (c : Char) : Bool := !endsAuthority true c

/-- A URL of the web from its part up to the path, and the text of the rest. -/
def complete (u : Url) (cs : List Char) : Url :=
  { u with path := parseHostPath true (splitTail cs).head }.withTail (splitTail cs)

section Complete

variable {u : Url} {cs : List Char}

/-- Without query and fragment the rest is the path. -/
theorem complete_of_plain (hash : '#' ∉ cs) (mark : '?' ∉ cs) : complete u cs
    = { u with path := parseHostPath true cs, query := none, fragment := none } := by
  rw [complete, splitTail_of_plain hash mark]
  rfl

theorem path_complete_append {more : List Char} (ended : '#' ∈ cs ∨ '?' ∈ cs)
    (noHash : '#' ∉ more) : (complete u (cs ++ more)).path = (complete u cs).path :=
  congrArg (parseHostPath true) (splitTail_append ended noHash).1

/-- There is a query or a fragment if the rest has a sign that begins one. -/
theorem complete_plain_iff : (complete u cs).query = none ∧ (complete u cs).fragment = none
    ↔ ¬ ('#' ∈ cs ∨ '?' ∈ cs) := by
  constructor
  · rintro ⟨query, fragment⟩ ended
    have some := (splitTail_append ended (List.not_mem_nil (a := '#'))).2
    exact some ⟨Option.map_eq_none_iff.1 query, Option.map_eq_none_iff.1 fragment⟩
  · intro plain
    obtain ⟨hash, mark⟩ := not_or.1 plain
    rw [complete_of_plain hash mark]
    exact ⟨rfl, rfl⟩

/-- Slashes at the end leave the stem of the path as it is. -/
theorem stem_complete (u : Url) (cs : List Char) (k : Nat) :
    (complete u (cs ++ List.replicate k '/')).path.stem = (complete u cs).path.stem := by
  have noSlash {c : Char} (other : c ≠ '/') : c ∉ List.replicate k '/' := fun mem =>
    other (List.eq_of_mem_replicate mem)
  by_cases ended : '#' ∈ cs ∨ '?' ∈ cs
  · rw [path_complete_append ended (noSlash (by decide))]
  · obtain ⟨hash, mark⟩ := not_or.1 ended
    rw [complete_of_plain hash mark, complete_of_plain
      (List.not_mem_append hash (noSlash (by decide)))
      (List.not_mem_append mark (noSlash (by decide)))]
    exact stem_parseHostPath cs k

/-- Controls and spaces before a slash at the end make the path longer. -/
theorem complete_longer {blanks : List Char} {c : Char}
    (begins : ∀ d ∈ cs.head?, ¬ isInAuthority d = true) (some : cs ≠ [])
    (plain : ¬ ('#' ∈ cs ∨ '?' ∈ cs)) (all : ∀ d ∈ blanks ++ [c], isC0OrSpace d) :
    ∃ before last,
      (complete u (cs ++ (blanks ++ [c] ++ ['/']))).path = .segments (before ++ [last, ""]) ∧
      (complete u cs).path.text.length < (Path.segments (before ++ [last])).text.length := by
  obtain ⟨hash, mark⟩ := not_or.1 plain
  have none {d : Char} (out : d ∉ cs) (visible : 0x20 < d.toNat) (noSlash : d ≠ '/') :
      d ∉ cs ++ (blanks ++ [c] ++ ['/']) := by
    refine List.not_mem_append out fun mem => ?_
    rcases List.mem_append.1 mem with blank | slash
    · exact ne_of_isC0OrSpace (all d blank) visible rfl
    · exact noSlash (List.mem_singleton.1 slash)
  rw [complete_of_plain hash mark,
    complete_of_plain (none hash (by decide) (by decide)) (none mark (by decide) (by decide))]
  obtain ⟨slash, path, rfl⟩ := List.exists_cons_of_ne_nil some
  have isSlash : isSlash true slash := by
    have noHash : slash ≠ '#' := fun same => hash (same ▸ List.mem_cons_self)
    have noMark : slash ≠ '?' := fun same => mark (same ▸ List.mem_cons_self)
    simpa [isInAuthority, endsAuthority, noHash, noMark] using begins slash rfl
  rw [List.cons_append, ← List.append_assoc]
  exact parseHostPath_longer isSlash all

/-- The first part of a text ends where it does without more, if it ends before that or there. -/
theorem span_append {p : Char → Bool} {front more : List Char}
    (ends : front.dropWhile p ≠ [] ∨ ∀ c ∈ more.head?, ¬ p c = true) :
    (front ++ more).takeWhile p = front.takeWhile p ∧
      (front ++ more).dropWhile p = front.dropWhile p ++ more := by
  by_cases none : front.dropWhile p = []
  · have all := List.dropWhile_eq_nil_iff.1 none
    have first := ends.resolve_left (not_not_intro none)
    rw [none, List.takeWhile_append_of_pos all, List.dropWhile_append_of_pos all,
      List.takeWhile_eq_self_iff.2 all]
    cases more with
    | nil => exact ⟨List.append_nil _, rfl⟩
    | cons c more =>
      rw [List.takeWhile_cons_of_neg (first c rfl), List.dropWhile_cons_of_neg (first c rfl)]
      exact ⟨List.append_nil _, rfl⟩
  · have part : (front.takeWhile p).length ≠ front.length := fun same => by
      have whole := (List.takeWhile_prefix p).eq_of_length same
      exact none (List.dropWhile_eq_nil_iff.2 (List.takeWhile_eq_self_iff.1 whole))
    rw [List.takeWhile_append, if_neg part, List.dropWhile_append, if_neg (by simpa using none)]
    exact ⟨rfl, rfl⟩

theorem parseAfterSlashes_eq {scheme : String} (special : isSpecialScheme scheme) (cs : List Char) :
    parseAfterSlashes scheme cs = (parseAuthority scheme (cs.takeWhile isInAuthority)).map
      (complete · (cs.dropWhile isInAuthority)) := by
  have rest : cs.drop (cs.takeWhile isInAuthority).length = cs.dropWhile isInAuthority := by
    have cut {front back : List Char} (whole : front ++ back = cs) :
        cs.drop front.length = back := by
      rw [← whole, List.drop_left]
    exact cut List.takeWhile_append_dropWhile
  have chars : (fun c => !endsAuthority true c) = isInAuthority := rfl
  simp only [parseAfterSlashes, special, chars, rest]
  rfl

/-- **More text after the authority** is text after the authority. -/
theorem parseAfterSlashes_append {scheme : String} (special : isSpecialScheme scheme)
    {front more : List Char} (ends : front.dropWhile isInAuthority ≠ [] ∨
      ∀ c ∈ more.head?, ¬ isInAuthority c = true) :
    parseAfterSlashes scheme (front ++ more)
      = (parseAuthority scheme (front.takeWhile isInAuthority)).map
          (complete · (front.dropWhile isInAuthority ++ more)) := by
  obtain ⟨start, rest⟩ := span_append ends
  rw [parseAfterSlashes_eq special, start, rest]

theorem isInAuthority_of_isC0OrSpace {c : Char} (blank : isC0OrSpace c) : isInAuthority c := by
  have other {d : Char} (visible : 0x20 < d.toNat) : (c == d) = false :=
    beq_false_of_ne (ne_of_isC0OrSpace blank visible)
  rw [isInAuthority, endsAuthority, isSlash, other (by decide), other (by decide),
    other (by decide), other (by decide)]
  rfl

/-- Nothing but slashes is no URL. -/
theorem parseAfterSlashes_nil {scheme : String} (special : isSpecialScheme scheme) :
    parseAfterSlashes scheme [] ≠ .ok u := by
  intro read
  obtain ⟨a, readAuthority, -⟩ := exists_of_bind_eq_ok read
  exact (parseAuthority_eq_ok special readAuthority).1 rfl

/-- Controls and spaces before a slash at the end of the authority make it none. -/
theorem not_parseAfterSlashes_of_blank {scheme : String} (special : isSpecialScheme scheme)
    {front blanks : List Char} {c : Char} (authority : ∀ d ∈ front, isInAuthority d)
    (all : ∀ d ∈ blanks ++ [c], isC0OrSpace d) :
    parseAfterSlashes scheme (front ++ (blanks ++ [c] ++ ['/'])) ≠ .ok u := by
  intro read
  have inside : ∀ d ∈ front ++ (blanks ++ [c]), isInAuthority d := fun d mem =>
    (List.mem_append.1 mem).elim (authority d) fun blank =>
      isInAuthority_of_isC0OrSpace (all d blank)
  have ends : ∀ d ∈ ['/'].head?, ¬ isInAuthority d = true := fun d first => by
    obtain rfl := Option.some.inj first
    decide
  rw [← List.append_assoc, parseAfterSlashes_append special (.inr ends),
    List.takeWhile_eq_self_iff.2 inside, ← List.append_assoc] at read
  obtain ⟨b, readBlank, -⟩ := exists_of_map_eq_ok read
  exact not_parseAuthority_of_blank special
    (all c (List.mem_append_right _ List.mem_cons_self)) readBlank

end Complete

/-! ## The scheme of a URL -/

theorem scheme_parseAfterSlashes {scheme : String} {cs : List Char} {u : Url}
    (read : parseAfterSlashes scheme cs = .ok u) : u.scheme = scheme := by
  obtain ⟨a, readAuthority, whole⟩ := exists_of_bind_eq_ok read
  obtain rfl := Except.ok.inj whole
  have same : a.scheme = scheme := scheme_parseAuthority readAuthority
  exact same

theorem scheme_parseFile {cs : List Char} {u : Url} (read : parseFile cs = .ok u) :
    u.scheme = "file" := by
  unfold parseFile at read
  simp only at read
  split at read
  · split at read
    · split at read
      · cases read
        rfl
      · obtain ⟨host, -, whole⟩ := exists_of_bind_eq_ok read
        cases whole
        rfl
    · cases read
      rfl
  · cases read
    rfl
  · cases read
    rfl

theorem scheme_parseOther {scheme : String} {cs : List Char} {u : Url}
    (read : parseOther scheme cs = .ok u) : u.scheme = scheme := by
  unfold parseOther at read
  split at read
  · exact scheme_parseAfterSlashes read
  · cases read
    rfl
  · cases read
    rfl

theorem scheme_parseWithScheme {scheme : String} {cs : List Char} {u : Url}
    (read : parseWithScheme scheme cs = .ok u) : u.scheme = scheme := by
  unfold parseWithScheme at read
  split at read
  · next file => exact (scheme_parseFile read).trans file.symm
  · split at read
    · exact scheme_parseAfterSlashes read
    · exact scheme_parseOther read

end Exposition.Url
