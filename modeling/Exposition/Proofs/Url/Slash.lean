import Exposition.Proofs.Url.Parts

/-!
# Proofs/Url/Slash — an address with a slash put to its end

An address may be read as it is, and with one slash in place of those at its end.  If it is a URL of
the web, the second URL has the same origin and the same stem of the path
(`parse_addSlash_of_kept`): all that the slash can change is what follows the stem.  The exception
are controls and spaces at the end of the address.  They are no part of the first URL, but with the
slash after them they are part of the second one (`parse_addSlash_of_blank`).
-/

namespace Exposition.Url

open Text

/-! ## The text that is read -/

/-- A text with one slash in place of those at its end. -/
def endWithSlash (cs : List Char) : List Char := cs.rdropWhile (· == '/') ++ ['/']

/-- The controls and spaces at the end of a text, less those that are read nowhere. -/
def blankEnd (cs : List Char) : List Char :=
  (cs.rtakeWhile isC0OrSpace).filter (!isTabOrBreak ·)

theorem significant_eq (cs : List Char) : significant cs
    = ((cs.dropWhile isC0OrSpace).rdropWhile isC0OrSpace).filter (!isTabOrBreak ·) := rfl

/-- Slashes at the end of a text are read, and so are the controls and spaces before them. -/
theorem significant_append_slashes (cs : List Char) (k : Nat) :
    significant (cs ++ List.replicate (k + 1) '/')
      = (cs.dropWhile isC0OrSpace).filter (!isTabOrBreak ·) ++ List.replicate (k + 1) '/' := by
  have start : (cs ++ List.replicate (k + 1) '/').dropWhile isC0OrSpace
      = cs.dropWhile isC0OrSpace ++ List.replicate (k + 1) '/' := by
    rw [List.dropWhile_append]
    split
    · next none =>
      rw [List.isEmpty_iff.1 none]
      rfl
    · rfl
  have visible : ¬ isC0OrSpace '/' = true := by decide
  have kept : (!isTabOrBreak '/') = true := by decide
  rw [significant_eq, start, List.replicate_succ', ← List.append_assoc,
    List.rdropWhile_concat_neg _ _ _ visible, List.filter_append, List.filter_append,
    List.filter_replicate, if_pos kept, List.filter_singleton, kept, cond_true, List.append_assoc]

/-- The controls and spaces at the end of a text are none of those at its start. -/
theorem rtakeWhile_dropWhile {p : Char → Bool} {cs : List Char} (some : cs.dropWhile p ≠ []) :
    (cs.dropWhile p).rtakeWhile p = cs.rtakeWhile p := by
  have other := List.head_dropWhile_not p some
  have part : ((cs.dropWhile p).reverse.takeWhile p).length ≠ (cs.dropWhile p).reverse.length :=
    fun same => by
      have all := List.takeWhile_eq_self_iff.1 ((List.takeWhile_prefix p).eq_of_length same)
      exact absurd (all _ (List.mem_reverse.2 (List.head_mem some))) (by simp [other])
  conv_rhs => rw [← List.takeWhile_append_dropWhile (p := p) (l := cs)]
  rw [List.rtakeWhile, List.rtakeWhile, List.reverse_append, List.takeWhile_append, if_neg part]

theorem dropWhile_ne_nil_of_significant {cs : List Char} (some : significant cs ≠ []) :
    cs.dropWhile isC0OrSpace ≠ [] := by
  intro none
  rw [significant_eq, none] at some
  exact some rfl

/-- With a slash at the end of a text the controls and spaces before it are read. -/
theorem significant_append_slash {cs : List Char} (some : significant cs ≠ []) :
    significant (cs ++ ['/']) = significant cs ++ (blankEnd cs ++ ['/']) := by
  have parts := congrArg (List.filter (!isTabOrBreak ·))
    (List.rdropWhile_append_rtakeWhile (p := isC0OrSpace) (l := cs.dropWhile isC0OrSpace))
  rw [List.filter_append, ← significant_eq,
    rtakeWhile_dropWhile (dropWhile_ne_nil_of_significant some)] at parts
  rw [← List.append_assoc, blankEnd, parts]
  exact significant_append_slashes cs 0

theorem rdropWhile_append_slashes (cs : List Char) :
    ∃ k, cs.rdropWhile (· == '/') ++ List.replicate k '/' = cs := by
  have slashes : cs.rtakeWhile (· == '/')
      = List.replicate (cs.rtakeWhile (· == '/')).length '/' :=
    List.eq_replicate_iff.2 ⟨rfl, fun c mem => by simpa using List.mem_rtakeWhile_imp mem⟩
  refine ⟨(cs.rtakeWhile (· == '/')).length, ?_⟩
  rw [← slashes, List.rdropWhile_append_rtakeWhile]

/-- **What is read of a text, and of the text with a slash at its end.** -/
theorem significant_endWithSlash {cs : List Char} (some : significant cs ≠ []) : ∃ front k,
    significant cs = front ++ List.replicate k '/' ∧
      significant (endWithSlash cs) = front ++ (blankEnd cs ++ ['/']) ∧
      (k = 0 ∨ blankEnd cs = []) := by
  obtain ⟨k, whole⟩ := rdropWhile_append_slashes cs
  cases k with
  | zero =>
    rw [List.replicate_zero, List.append_nil] at whole
    refine ⟨significant cs, 0, by rw [List.replicate_zero, List.append_nil], ?_, .inl rfl⟩
    rw [endWithSlash, whole, significant_append_slash some]
  | succ k =>
    have noBlank : blankEnd cs = [] := by
      rw [blankEnd, ← whole, List.replicate_succ', ← List.append_assoc,
        List.rtakeWhile_concat_neg _ _ _ (by decide)]
      rfl
    refine ⟨_, k + 1, whole ▸ significant_append_slashes _ k, ?_, .inr noBlank⟩
    rw [noBlank]
    exact significant_append_slashes _ 0

/-! ## An address and the address with a slash at its end -/

/-- A URL of the web. -/
def IsWeb (u : Url) : Prop := u.scheme = "http" ∨ u.scheme = "https"

/-- **Two URLs with one origin.** -/
structure SameOrigin (u v : Url) : Prop where
  scheme : u.scheme = v.scheme
  host : u.host = v.host
  port : u.port = v.port

theorem SameOrigin.trans {u v w : Url} (first : u.SameOrigin v) (next : v.SameOrigin w) :
    u.SameOrigin w :=
  ⟨first.scheme.trans next.scheme, first.host.trans next.host, first.port.trans next.port⟩

/-- An address with one slash in place of those at its end. -/
def addSlash (address : String) : String := String.ofList (endWithSlash address.toList)

theorem isSpecialScheme_of_isWeb {u : Url} (web : u.IsWeb) :
    isSpecialScheme u.scheme ∧ u.scheme ≠ "file" := by
  rcases web with http | https
  · rw [http]
    decide
  · rw [https]
    decide

/-- There is something after the slashes that follow the scheme. -/
theorem dropWhile_append_of_host {scheme : String} (special : isSpecialScheme scheme)
    {after : List Char} {k : Nat} {u : Url} (parsed : parseAfterSlashes scheme
      ((after ++ List.replicate k '/').dropWhile (isSlash true)) = .ok u) (more : List Char) :
    (after ++ more).dropWhile (isSlash true) = after.dropWhile (isSlash true) ++ more := by
  have host : after.dropWhile (isSlash true) ≠ [] := by
    intro none
    have slashes : (after ++ List.replicate k '/').dropWhile (isSlash true) = [] := by
      rw [List.dropWhile_append, none, List.dropWhile_replicate]
      rfl
    rw [slashes] at parsed
    exact parseAfterSlashes_nil special parsed
  rw [List.dropWhile_append, if_neg (by simpa using host)]

section Address

variable {address : String} {u : Url}

/-- **Both texts are read alike up to their ends**: the same authority, and what follows it. -/
theorem parse_addSlash (parsed : parse address = .ok u) (web : u.IsWeb) : ∃ front k a,
    parseAuthority u.scheme (front.takeWhile isInAuthority) = .ok a ∧
      complete a (front.dropWhile isInAuthority ++ List.replicate k '/') = u ∧
      parse (addSlash address)
        = parseAfterSlashes u.scheme (front ++ (blankEnd address.toList ++ ['/'])) ∧
      (k = 0 ∨ blankEnd address.toList = []) := by
  obtain ⟨special, noFile⟩ := isSpecialScheme_of_isWeb web
  unfold parse at parsed ⊢
  split at parsed
  · next scheme rest found =>
    obtain rfl := scheme_parseWithScheme parsed
    have some : significant address.toList ≠ [] := by
      intro none
      rw [none] at found
      cases found
    obtain ⟨front, k, text, slashed, oneEnd⟩ := significant_endWithSlash some
    rw [text] at found
    obtain ⟨after, rfl, split⟩ := splitScheme_append found
    simp only [addSlash, String.toList_ofList, slashed, split]
    simp only [parseWithScheme, noFile, special, if_false, if_true] at parsed ⊢
    have kept := dropWhile_append_of_host special parsed
    have ends : ∀ c ∈ (List.replicate k '/').head?, ¬ isInAuthority c = true := by
      intro c first
      rw [List.eq_of_mem_replicate (List.mem_of_mem_head? first)]
      decide
    rw [kept, parseAfterSlashes_append special (.inr ends)] at parsed
    obtain ⟨a, readAuthority, whole⟩ := exists_of_map_eq_ok parsed
    exact ⟨_, k, a, readAuthority, whole, congrArg _ (kept _), oneEnd⟩
  · cases parsed

theorem not_mem_blankEnd {c : Char} (visible : 0x20 < c.toNat) (other : c ≠ '/')
    (cs : List Char) : c ∉ blankEnd cs ++ ['/'] := by
  intro mem
  rcases List.mem_append.1 mem with blank | slash
  · have blank : isC0OrSpace c := List.mem_rtakeWhile_imp (List.mem_of_mem_filter blank)
    exact ne_of_isC0OrSpace blank visible rfl
  · exact other (List.mem_singleton.1 slash)

/-- **The same origin, and the same path but for the slashes at its end**: that is what a slash at
the end of an address leaves of the URL, unless controls or spaces come before it.  A query or a
fragment keeps these off the path. -/
theorem parse_addSlash_of_kept (parsed : parse address = .ok u) (web : u.IsWeb)
    (kept : u.query = none ∧ u.fragment = none → blankEnd address.toList = []) :
    ∃ base before last, parse (addSlash address) = .ok base ∧ base.SameOrigin u ∧
      base.path.stem = u.path.stem ∧
      base.path = .segments (before ++ [last]) ∧ '/' ∉ last.toList := by
  obtain ⟨front, k, a, readAuthority, rfl, edited, -⟩ := parse_addSlash parsed web
  set rest := front.dropWhile isInAuthority
  set more := blankEnd address.toList ++ ['/'] with def_more
  have slash (plain : ¬ ('#' ∈ rest ∨ '?' ∈ rest)) : more = List.replicate 1 '/' := by
    have noSign : ¬ ('#' ∈ rest ++ List.replicate k '/' ∨ '?' ∈ rest ++ List.replicate k '/') := by
      simpa [List.mem_replicate] using plain
    rw [def_more, kept (complete_plain_iff.2 noSign)]
    rfl
  have ends : rest ≠ [] ∨ ∀ c ∈ more.head?, ¬ isInAuthority c = true := by
    by_cases ended : '#' ∈ rest ∨ '?' ∈ rest
    · refine .inl fun none => ?_
      rw [none] at ended
      exact ended.elim List.not_mem_nil List.not_mem_nil
    · refine .inr fun c first => ?_
      rw [slash ended] at first
      obtain rfl := Option.some.inj first
      decide
  have base : parse (addSlash address) = .ok (complete a (rest ++ more)) := by
    rw [edited, parseAfterSlashes_append (isSpecialScheme_of_isWeb web).1 ends, readAuthority]
    rfl
  obtain ⟨before, last, path, noSlash⟩ := parseHostPath_eq (splitTail (rest ++ more)).head
  refine ⟨_, before, last, base, ⟨rfl, rfl, rfl⟩, ?_, path, noSlash⟩
  rw [stem_complete]
  by_cases ended : '#' ∈ rest ∨ '?' ∈ rest
  · rw [path_complete_append ended (not_mem_blankEnd (by decide) (by decide) _)]
  · rw [slash ended, stem_complete]

/-- **Controls or spaces before the slash are put on the path**, and make it longer; if there is no
path, there is no URL. -/
theorem parse_addSlash_of_blank (parsed : parse address = .ok u) (web : u.IsWeb)
    (plain : u.query = none ∧ u.fragment = none) (blank : blankEnd address.toList ≠ []) {base : Url}
    (readBase : parse (addSlash address) = .ok base) : ∃ before last,
      base.path = .segments (before ++ [last, ""]) ∧
        u.path.text.length < (Path.segments (before ++ [last])).text.length := by
  have special := (isSpecialScheme_of_isWeb web).1
  obtain ⟨front, k, a, readAuthority, rfl, edited, oneEnd⟩ := parse_addSlash parsed web
  obtain rfl := oneEnd.resolve_right blank
  obtain ⟨blanks, c, shape⟩ := (List.eq_nil_or_concat _).resolve_left blank
  rw [List.concat_eq_append] at shape
  have all : ∀ d ∈ blanks ++ [c], isC0OrSpace d := fun d mem =>
    List.mem_rtakeWhile_imp (List.mem_of_mem_filter (shape ▸ mem))
  rw [List.replicate_zero, List.append_nil] at plain ⊢
  rw [edited, shape] at readBase
  by_cases none : front.dropWhile isInAuthority = []
  · exact absurd readBase
      (not_parseAfterSlashes_of_blank special (List.dropWhile_eq_nil_iff.1 none) all)
  · rw [parseAfterSlashes_append special (.inl none), readAuthority] at readBase
    obtain rfl := Except.ok.inj readBase
    have begins : ∀ d ∈ (front.dropWhile isInAuthority).head?, ¬ isInAuthority d = true :=
      fun d first => by
        have other := List.head?_dropWhile_not isInAuthority front
        rw [Option.mem_def.1 first] at other
        simpa using other
    exact complete_longer begins none (complete_plain_iff.1 plain) all

end Address

end Exposition.Url
