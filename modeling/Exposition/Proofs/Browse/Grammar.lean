import Exposition.Browse.Command
import Exposition.Proofs.Each
import Exposition.Proofs.Level
import Exposition.Proofs.Text.Lowercase
import Exposition.Proofs.Text.Numeral

/-!
# Proofs/Browse/Grammar — the lines that give a command

A line has a first word and a text after it (`wordOf`, `textOf`), and what command it gives is a
matter of these two: the word is a spelling of the command's word, in letters of either case, and
the text writes the command's argument (`Command.read_eq_ok_iff`).  So blanks and the choice of
spelling do not matter, and every command that is read is read again from its canonical spelling
(`Command.reads_every_spelling`).
-/

namespace Exposition.Browse

open Text

variable {text : List Char}

/-! ## Words in letters of either case -/

/-- **One of some spellings**, in letters of either case. -/
def SpelledIn (spellings : List String) (word : List Char) : Prop :=
  ∃ s ∈ spellings, word.map Char.toLower = s.toList

instance (spellings : List String) (word : List Char) : Decidable (SpelledIn spellings word) :=
  inferInstanceAs (Decidable (∃ s ∈ spellings, word.map Char.toLower = s.toList))

/-- A spelling of ASCII without a `k`, as all of them are. -/
def isPlain (s : String) : Bool := s.toList.all fun c => c.toNat < 0x80 && c != 'k'

theorem spelledIn_iff {spellings : List String} {word : List Char} (plain : spellings.all isPlain) :
    SpelledIn spellings word ↔ String.ofList (lower word) ∈ spellings := by
  have same {s : String} (mem : s ∈ spellings) :
      word.map Char.toLower = s.toList ↔ String.ofList (lower word) = s := by
    have plain : ∀ c ∈ s.toList, c.toNat < 0x80 ∧ c ≠ 'k' := by
      simpa [isPlain] using List.all_eq_true.1 plain s mem
    rw [← lower_eq_iff plain, ← String.toList_inj, String.toList_ofList]
  constructor
  · rintro ⟨s, mem, spelled⟩
    rwa [(same mem).1 spelled]
  · intro mem
    exact ⟨_, mem, (same mem).2 rfl⟩

/-- What lifts a filter. -/
def lifting : List String := ["", "any", "all"]

theorem spelledIn_lifting_iff :
    SpelledIn lifting text ↔ String.ofList (lower text) ∈ lifting := spelledIn_iff (by decide)

/-- What asks for a favorite flag, or for none. -/
def flagSpellings : Option Bool → List String
  | none => lifting
  | some true => ["yes", "y", "true"]
  | some false => ["no", "n", "false"]

/-- A spelling asks for one thing. -/
theorem flagSpellings_inj {spelling : String} {flag flag' : Option Bool}
    (mem : spelling ∈ flagSpellings flag) (mem' : spelling ∈ flagSpellings flag') :
    flag = flag' := by
  have alone : flag = flag'
      ∨ ∀ spelling ∈ flagSpellings flag, spelling ∉ flagSpellings flag' := by
    rcases flag with _ | _ | _ <;> rcases flag' with _ | _ | _ <;> decide
  exact alone.resolve_right fun apart => apart spelling mem mem'

namespace Command

/-! ## Words of commands -/

theorem Word.find?_eq_some_iff {spelling : String} {w : Word} :
    Word.find? spelling = some w ↔ spelling ∈ w.spellings := by
  constructor
  · intro found
    have spelled : w.spellings.contains spelling = true := by
      simpa only using List.find?_some found
    exact List.contains_iff_mem.1 spelled
  · intro mem
    have unique : w.spellings.all fun s => Word.find? s = some w := by
      cases w with
      | _ => decide
    simpa using List.all_eq_true.1 unique spelling mem

theorem Word.isPlain_spellings (w : Word) : w.spellings.all isPlain := by
  cases w with
  | _ => decide

/-- **A word is found by its spellings**, in letters of either case. -/
theorem Word.find?_lower_iff {w : Word} {word : List Char} :
    Word.find? (String.ofList (lower word)) = some w ↔ SpelledIn w.spellings word := by
  rw [find?_eq_some_iff, spelledIn_iff w.isPlain_spellings]

/-- The word of a command. -/
def word : Command → Word
  | .next => .next
  | .previous => .previous
  | .page _ => .page
  | .language _ => .language
  | .level _ => .level
  | .favorite _ => .favorite
  | .search _ => .search
  | .clear => .clear
  | .refresh => .refresh
  | .open _ => .open
  | .close => .close
  | .star _ => .star
  | .remove _ => .remove
  | .help => .help
  | .quit => .quit

/-! ## Arguments of commands -/

/-- A text writes a card, or none. -/
def WritesCard : Option Nat → List Char → Prop
  | none, text => text = []
  | some card, text => WritesNat maxLong card text

/-- A text writes a language to filter by, or lifts the filter. -/
def WritesLanguage : Option String → List Char → Prop
  | none, text => SpelledIn lifting text
  | some tag, text => lower text = tag.toList ∧ ¬ SpelledIn lifting text

/-- A text writes a level to filter by, or lifts the filter. -/
def WritesLevel : Option Level → List Char → Prop
  | none, text => SpelledIn lifting text
  | some l, text => SpelledIn [l.name] text

/-- A text writes a favorite flag to filter by, or lifts the filter. -/
def WritesFlag (isFavorite : Option Bool) (text : List Char) : Prop :=
  SpelledIn (flagSpellings isFavorite) text

/-- **A command takes a text as its argument.**  Commands without an argument take any. -/
def Takes : Command → List Char → Prop
  | .page n, text => WritesNat maxWord n text
  | .language tag, text => WritesLanguage tag text
  | .level l, text => WritesLevel l text
  | .favorite isFavorite, text => WritesFlag isFavorite text
  | .search term, text => text = term.toList
  | .open card, text => WritesNat maxLong card text
  | .star card, text => WritesCard card text
  | .remove card, text => WritesCard card text
  | _, _ => True

theorem number_eq_ok_iff {limit n : Nat} : number limit text = .ok n ↔ WritesNat limit n text := by
  rw [← readNat_eq_some_iff, number]
  cases readNat limit text with
  | none => simp
  | some m => simp

theorem number_of_other {limit : Nat} (other : ∀ n, ¬ WritesNat limit n text) :
    number limit text = .error (.notANumber (String.ofList text)) := by
  rw [number]
  cases read : readNat limit text with
  | none => rfl
  | some n => exact absurd (readNat_eq_some_iff.1 read) (other n)

theorem card?_of_other (some : text ≠ []) (other : ∀ n, ¬ WritesNat maxLong n text) :
    card? text = .error (.notANumber (String.ofList text)) := by
  rw [card?, if_neg (by simpa using some), number_of_other other]
  rfl

theorem card?_eq_ok_iff {card : Option Nat} : card? text = .ok card ↔ WritesCard card text := by
  rw [card?]
  cases text with
  | nil =>
    cases card with
    | none => exact iff_of_true rfl rfl
    | some n =>
      refine iff_of_false (by simp) ?_
      rintro ⟨digits, rfl | signed, filled, -⟩
      · exact filled rfl
      · exact absurd signed (by simp)
  | cons c text =>
    rw [if_neg (by simp)]
    cases card with
    | none =>
      refine iff_of_false ?_ (List.cons_ne_nil c text)
      cases number maxLong (c :: text) with
      | error e => simp
      | ok m => simp
    | some n =>
      rw [WritesCard, ← number_eq_ok_iff]
      cases number maxLong (c :: text) with
      | error e => simp
      | ok m => simp

theorem filterValue_eq_none_iff : filterValue text = none ↔ SpelledIn lifting text := by
  rw [spelledIn_lifting_iff, filterValue]
  split
  · next lifts => simpa [lifting] using lifts
  · next other => simpa [lifting] using other

theorem filterValue_eq_some_iff {value : String} : filterValue text = some value
    ↔ ¬ SpelledIn lifting text ∧ String.ofList (lower text) = value := by
  rw [← filterValue_eq_none_iff, filterValue]
  split
  · simp
  · simp

theorem language_iff {tag : Option String} : filterValue text = tag ↔ WritesLanguage tag text := by
  cases tag with
  | none => exact filterValue_eq_none_iff
  | some tag =>
    rw [filterValue_eq_some_iff, and_comm, ← String.toList_inj, String.toList_ofList]
    rfl

theorem spelledIn_name_iff {l : Level} :
    SpelledIn [l.name] text ↔ String.ofList (lower text) = l.name := by
  have plain : [l.name].all isPlain := by
    cases l with
    | _ => decide
  rw [spelledIn_iff plain, List.mem_singleton]

theorem levelFilter_eq_ok_iff (trimmed : trim text = text) {level : Option Level} :
    levelFilter text = .ok level ↔ WritesLevel level text := by
  rw [levelFilter]
  cases filtered : filterValue text with
  | none =>
    have lifts := filterValue_eq_none_iff.1 filtered
    cases level with
    | none => exact iff_of_true rfl lifts
    | some l =>
      refine iff_of_false (by simp) ?_
      rw [WritesLevel, spelledIn_name_iff]
      intro named
      rw [spelledIn_lifting_iff, named] at lifts
      cases l with
      | _ => exact absurd lifts (by decide)
  | some value =>
    obtain ⟨other, rfl⟩ := filterValue_eq_some_iff.1 filtered
    have reads {l : Level} :
        Level.read (String.ofList (lower text)) = .ok l ↔ SpelledIn [l.name] text := by
      rw [Level.read_eq_ok_iff, lowered, Text.trimmed, String.toList_ofList, String.toList_ofList,
        trim_lower trimmed, lower_lower, spelledIn_name_iff]
    dsimp only
    generalize Level.read (String.ofList (lower text)) = read at reads
    cases level with
    | none =>
      refine iff_of_false ?_ other
      cases read with
      | error e => simp
      | ok l => simp
    | some l =>
      rw [WritesLevel, ← reads]
      cases read with
      | error e => simp
      | ok l => simp

theorem favoriteFilter_eq_ok_iff {isFavorite : Option Bool} :
    favoriteFilter text = .ok isFavorite ↔ WritesFlag isFavorite text := by
  have plain : (flagSpellings isFavorite).all isPlain := by
    rcases isFavorite with _ | _ | _ <;> decide
  have decided {flag : Option Bool} {spelling : String}
      (value : String.ofList (lower text) = spelling) (mem : spelling ∈ flagSpellings flag) :
      (Except.ok flag : Except Misread _) = .ok isFavorite
        ↔ String.ofList (lower text) ∈ flagSpellings isFavorite := by
    rw [value]
    constructor
    · intro same
      rwa [← Except.ok.inj same]
    · intro mem'
      rw [flagSpellings_inj mem mem']
  rw [WritesFlag, spelledIn_iff plain, favoriteFilter]
  cases filtered : filterValue text with
  | none =>
    have lifts := spelledIn_lifting_iff.1 (filterValue_eq_none_iff.1 filtered)
    exact decided rfl lifts
  | some spelling =>
    obtain ⟨other, value⟩ := filterValue_eq_some_iff.1 filtered
    rw [spelledIn_lifting_iff, value] at other
    split
    · next nothing => exact absurd nothing (by simp)
    · next found => exact decided (value.trans (Option.some.inj found)) (by decide)
    · next found => exact decided (value.trans (Option.some.inj found)) (by decide)
    · next found => exact decided (value.trans (Option.some.inj found)) (by decide)
    · next found => exact decided (value.trans (Option.some.inj found)) (by decide)
    · next found => exact decided (value.trans (Option.some.inj found)) (by decide)
    · next found => exact decided (value.trans (Option.some.inj found)) (by decide)
    · refine iff_of_false (by simp) ?_
      rw [value]
      rcases isFavorite with _ | _ | _
      · exact other
      · simp_all [flagSpellings]
      · simp_all [flagSpellings]

/-- **A command takes what its word reads.** -/
theorem ofWord_of_takes (trimmed : trim text = text) {c : Command} (takes : c.Takes text) :
    ofWord c.word text = .ok c := by
  cases c with
  | next | previous | clear | refresh | close | help | quit => rfl
  | page n => exact congrArg (Functor.map page) (number_eq_ok_iff.2 takes)
  | language tag => exact congrArg (Except.ok ∘ language) (language_iff.2 takes)
  | level l => exact congrArg (Functor.map level) ((levelFilter_eq_ok_iff trimmed).2 takes)
  | favorite isFavorite => exact congrArg (Functor.map favorite) (favoriteFilter_eq_ok_iff.2 takes)
  | search term =>
    obtain rfl : text = term.toList := takes
    exact congrArg (Except.ok ∘ search) String.ofList_toList
  | «open» card => exact congrArg (Functor.map Command.open) (number_eq_ok_iff.2 takes)
  | star card => exact congrArg (Functor.map star) (card?_eq_ok_iff.2 takes)
  | remove card => exact congrArg (Functor.map remove) (card?_eq_ok_iff.2 takes)

/-- **What a word reads** is a command of that word, which takes the text. -/
theorem takes_of_ofWord (trimmed : trim text = text) {w : Word} {c : Command}
    (given : ofWord w text = .ok c) : c.word = w ∧ c.Takes text := by
  cases w with
  | next | previous | clear | refresh | close | help | quit =>
    obtain rfl := Except.ok.inj given
    exact ⟨rfl, trivial⟩
  | page =>
    obtain ⟨n, part, rfl⟩ := exists_of_map_eq_ok given
    exact ⟨rfl, number_eq_ok_iff.1 part⟩
  | language =>
    obtain rfl := Except.ok.inj given
    exact ⟨rfl, language_iff.1 rfl⟩
  | level =>
    obtain ⟨l, part, rfl⟩ := exists_of_map_eq_ok given
    exact ⟨rfl, (levelFilter_eq_ok_iff trimmed).1 part⟩
  | favorite =>
    obtain ⟨isFavorite, part, rfl⟩ := exists_of_map_eq_ok given
    exact ⟨rfl, favoriteFilter_eq_ok_iff.1 part⟩
  | search =>
    obtain rfl := Except.ok.inj given
    exact ⟨rfl, String.toList_ofList.symm⟩
  | «open» =>
    obtain ⟨card, part, rfl⟩ := exists_of_map_eq_ok given
    exact ⟨rfl, number_eq_ok_iff.1 part⟩
  | star =>
    obtain ⟨card, part, rfl⟩ := exists_of_map_eq_ok given
    exact ⟨rfl, card?_eq_ok_iff.1 part⟩
  | remove =>
    obtain ⟨card, part, rfl⟩ := exists_of_map_eq_ok given
    exact ⟨rfl, card?_eq_ok_iff.1 part⟩

end Command

/-! ## Lines -/

/-- **The first word of a line.** -/
def wordOf (line : List Char) : List Char := (trimStart line).takeWhile (!isBlank ·)

/-- **The text after the first word of a line**, without the blanks around it. -/
def textOf (line : List Char) : List Char := trim ((trimStart line).dropWhile (!isBlank ·))

theorem trim_textOf (line : List Char) : trim (textOf line) = textOf line := trim_trim _

/-- The parts of a line that is put together from a word and what follows it. -/
theorem parts_append {before word rest : List Char} (blank : isBlankText before) (some : word ≠ [])
    (visible : ∀ c ∈ word, isBlank c = false) (parted : ∀ c ∈ rest.head?, isBlank c) :
    wordOf (before ++ (word ++ rest)) = word ∧ textOf (before ++ (word ++ rest)) = trim rest := by
  have starts : trimStart (before ++ (word ++ rest)) = word ++ rest := by
    obtain ⟨c, front, rfl⟩ := List.exists_cons_of_ne_nil some
    rw [trimStart, List.dropWhile_append_of_pos (List.all_eq_true.1 blank), List.cons_append,
      List.dropWhile_cons_of_neg (by simp [visible c List.mem_cons_self])]
  have visible : ∀ c ∈ word, (!isBlank c) = true := by
    intro c mem
    rw [visible c mem]
    rfl
  have ended : rest.takeWhile (!isBlank ·) = [] ∧ rest.dropWhile (!isBlank ·) = rest := by
    cases rest with
    | nil => exact ⟨rfl, rfl⟩
    | cons c rest => simp [parted c rfl]
  rw [wordOf, textOf, starts, List.takeWhile_append_of_pos visible,
    List.dropWhile_append_of_pos visible, ended.1, ended.2, List.append_nil]
  exact ⟨rfl, rfl⟩

/-- A trimmed line is cut behind its first word. -/
theorem splitAtFirst_trim (line : List Char) :
    (splitAtFirst isBlank (trim line)).1 = wordOf line
      ∧ trim ((splitAtFirst isBlank (trim line)).2.getD []) = textOf line := by
  obtain ⟨after, blank, ends⟩ := exists_trimEnd (trimStart line)
  have hidden : ∀ c ∈ after, (!isBlank c) = false := by
    intro c mem
    rw [List.all_eq_true.1 blank c mem]
    rfl
  rw [wordOf, textOf, ends, takeWhile_append_of_none hidden, dropWhile_append_of_none hidden,
    trim_append_blank blank]
  refine ⟨fst_splitAtFirst isBlank (trim line), ?_⟩
  rw [snd_splitAtFirst]
  change trim ((trim line).dropWhile (!isBlank ·)).tail = trim ((trim line).dropWhile (!isBlank ·))
  have stops := List.head?_dropWhile_not (!isBlank ·) (trim line)
  cases rest : (trim line).dropWhile (!isBlank ·) with
  | nil => rfl
  | cons c rest' =>
    rw [rest] at stops
    have blank : isBlankText [c] := by simpa [isBlankText] using stops
    exact (trim_blank_append blank rest').symm

namespace Command

/-- **What a line gives** is a matter of its first word and of the text after it. -/
theorem read_eq (line : List Char) : read line
    = (Word.find? (String.ofList (lower (wordOf line)))).elim
      (.error (if wordOf line = [] then .blank
        else .unknownCommand (String.ofList (lower (wordOf line)))))
      fun w => ofWord w (textOf line) := by
  have nothing : String.ofList (lower (wordOf line)) = "" ↔ wordOf line = [] := by
    rw [← String.toList_inj, String.toList_ofList, String.toList_empty, lower_eq_iff (by simp),
      List.map_eq_nil_iff]
  obtain ⟨first, rest⟩ := splitAtFirst_trim line
  rw [read, ← first, ← rest]
  rw [← first] at nothing
  simp only [nothing]
  cases Word.find? (String.ofList (lower (splitAtFirst isBlank (trim line)).1)) with
  | none => rfl
  | some w => rfl

/-- A line that begins with a spelling of a word is read as that word. -/
theorem read_of_spelled {line : List Char} {w : Word}
    (spelled : SpelledIn w.spellings (wordOf line)) : read line = ofWord w (textOf line) := by
  rw [read_eq, Word.find?_lower_iff.2 spelled]
  rfl

/-- Any other line is refused, with its word in small letters. -/
theorem read_of_unknown {line : List Char}
    (unknown : ∀ w : Word, ¬ SpelledIn w.spellings (wordOf line)) :
    read line = .error (if wordOf line = [] then .blank
      else .unknownCommand (String.ofList (lower (wordOf line)))) := by
  have none : Word.find? (String.ofList (lower (wordOf line))) = none := by
    refine Option.eq_none_iff_forall_ne_some.2 ?_
    intro w found
    exact unknown w (Word.find?_lower_iff.1 found)
  rw [read_eq, none]
  rfl

/-- **The lines that give a command**: they begin with a spelling of its word, and the command takes
the text after it. -/
theorem read_eq_ok_iff {line : List Char} {c : Command} :
    read line = .ok c ↔ SpelledIn c.word.spellings (wordOf line) ∧ c.Takes (textOf line) := by
  constructor
  · intro given
    by_cases unknown : ∀ w : Word, ¬ SpelledIn w.spellings (wordOf line)
    · rw [read_of_unknown unknown] at given
      exact absurd given (by simp)
    · obtain ⟨w, spelled⟩ := not_forall_not.1 unknown
      rw [read_of_spelled spelled] at given
      obtain ⟨rfl, takes⟩ := takes_of_ofWord (trim_textOf line) given
      exact ⟨spelled, takes⟩
  · rintro ⟨spelled, takes⟩
    rw [read_of_spelled spelled, ofWord_of_takes (trim_textOf line) takes]

/-! ## Canonical spellings -/

/-- The argument of a command as it is usually written, if it has one. -/
def argument : Command → List Char
  | .page n => (decimal n).toList
  | .language (some tag) => tag.toList
  | .level (some l) => l.name.toList
  | .favorite (some isFavorite) => (if isFavorite then "yes" else "no").toList
  | .search term => term.toList
  | .open card => (decimal card).toList
  | .star (some card) => (decimal card).toList
  | .remove (some card) => (decimal card).toList
  | _ => []

theorem trim_decimal (n : Nat) : trim (decimal n).toList = (decimal n).toList := by
  refine trim_of_none ?_
  intro d mem
  rw [decimal, String.toList_ofList] at mem
  exact visible_of_digit (Nat.isDigit_of_mem_toDigits (by decide) (by decide) mem)

/-- A command that takes some text takes its argument as it is usually written. -/
theorem takes_argument (trimmed : trim text = text) {c : Command} (takes : c.Takes text) :
    c.Takes c.argument ∧ trim c.argument = c.argument := by
  have written {limit n : Nat} (takes : WritesNat limit n text) :
      WritesNat limit n (decimal n).toList ∧ trim (decimal n).toList = (decimal n).toList := by
    obtain ⟨-, -, -, -, -, small⟩ := takes
    exact ⟨writesNat_decimal small, trim_decimal n⟩
  have lifted : SpelledIn lifting [] := ⟨"", List.mem_cons_self, rfl⟩
  cases c with
  | page n => exact written takes
  | language tag =>
    cases tag with
    | none => exact ⟨lifted, rfl⟩
    | some tag =>
      obtain ⟨small, other⟩ := takes
      have own : lower tag.toList = tag.toList := by
        rw [← small, lower_lower]
      have other : ¬ SpelledIn lifting tag.toList := by
        rwa [spelledIn_lifting_iff, own, ← small, ← spelledIn_lifting_iff]
      refine ⟨⟨own, other⟩, ?_⟩
      change trim tag.toList = tag.toList
      rw [← small, trim_lower trimmed]
  | level l =>
    cases l with
    | none => exact ⟨lifted, rfl⟩
    | some l =>
      cases l with
      | _ => exact ⟨⟨_, List.mem_cons_self, by decide⟩, by decide⟩
  | favorite isFavorite =>
    rcases isFavorite with _ | _ | _
    · exact ⟨lifted, rfl⟩
    · exact ⟨⟨_, List.mem_cons_self, by decide⟩, by decide⟩
    · exact ⟨⟨_, List.mem_cons_self, by decide⟩, by decide⟩
  | search term =>
    obtain rfl : text = term.toList := takes
    exact ⟨rfl, trimmed⟩
  | «open» card => exact written takes
  | star card =>
    cases card with
    | none => exact ⟨rfl, rfl⟩
    | some card => exact written takes
  | remove card =>
    cases card with
    | none => exact ⟨rfl, rfl⟩
    | some card => exact written takes
  | _ => exact ⟨trivial, rfl⟩

theorem Word.visible_of_spelledIn {w : Word} {word : List Char}
    (spelled : SpelledIn w.spellings word) : word ≠ [] ∧ ∀ c ∈ word, isBlank c = false := by
  obtain ⟨s, mem, spelled⟩ := spelled
  have visible : w.spellings.all fun s => s != "" && s.toList.all (!isBlank ·) := by
    cases w with
    | _ => decide
  obtain ⟨some, visible⟩ := Bool.and_eq_true_iff.1 (List.all_eq_true.1 visible s mem)
  constructor
  · rintro rfl
    exact bne_iff_ne.1 some (String.toList_inj.1 spelled.symm)
  · intro c there
    have small := List.all_eq_true.1 visible c.toLower (spelled ▸ List.mem_map_of_mem there)
    rw [isBlank_toLower] at small
    simpa using small

/-- **A line that is put together** from a spelling of a command's word and a text that the command
takes. -/
theorem read_assembled {c : Command} (takes : c.Takes text) (trimmed : trim text = text)
    {before word between after : List Char} (blank : isBlankText before)
    (spelled : SpelledIn c.word.spellings word) (blank' : isBlankText between)
    (blank'' : isBlankText after) (parted : text ≠ [] → between ≠ []) :
    read (before ++ word ++ between ++ text ++ after) = .ok c := by
  obtain ⟨some, visible⟩ := Word.visible_of_spelledIn spelled
  have parted : ∀ d ∈ (between ++ (text ++ after)).head?, isBlank d := by
    intro d first
    have blanks : isBlankText (between ++ after) := by
      rw [isBlankText, List.all_append, Bool.and_eq_true]
      exact ⟨blank', blank''⟩
    refine List.all_eq_true.1 blanks d ?_
    cases between with
    | nil =>
      obtain rfl : text = [] := not_ne_iff.1 fun some => parted some rfl
      exact List.mem_of_head? first
    | cons e between =>
      obtain rfl := Option.some.inj first
      exact List.mem_cons_self
  obtain ⟨first, rest⟩ := parts_append blank some visible parted
  rw [List.append_assoc, List.append_assoc, List.append_assoc, read_eq_ok_iff, first, rest,
    trim_blank_append blank', trim_append_blank blank'', trimmed]
  exact ⟨spelled, takes⟩

/-- The usual spelling of a word. -/
def Word.name (w : Word) : String := w.spellings.headD ""

theorem Word.spelledIn_name (w : Word) : SpelledIn w.spellings w.name.toList := by
  cases w with
  | _ => exact ⟨_, List.mem_cons_self, by decide⟩

/-- **A command as it is usually written.** -/
def spelling (c : Command) : List Char :=
  c.word.name.toList ++ if c.argument = [] then [] else ' ' :: c.argument

theorem read_spelling {c : Command} (takes : c.Takes c.argument)
    (trimmed : trim c.argument = c.argument) : read c.spelling = .ok c := by
  have spelled := c.word.spelledIn_name
  rw [spelling]
  split
  · next none =>
    have given : read ([] ++ c.word.name.toList ++ [] ++ c.argument ++ []) = .ok c :=
      read_assembled takes trimmed rfl spelled rfl rfl fun some => absurd none some
    simpa [none] using given
  · have given : read ([] ++ c.word.name.toList ++ [' '] ++ c.argument ++ []) = .ok c :=
      read_assembled takes trimmed rfl spelled (by decide) rfl fun _ => List.cons_ne_nil _ _
    simpa using given

/-- The largest number that a word takes, if it takes one. -/
def Word.limit? : Word → Option Nat
  | .page => some maxWord
  | .open => some maxLong
  | .star => some maxLong
  | .remove => some maxLong
  | _ => none

/-- **The grammar of commands.**  A command that some line gives is given by every line that is put
together from a spelling of its word, in letters of either case, and its argument, with any blanks
around them and some between them; so it is read again from its usual spelling.  The language of a
filter is its own lower-case form.  A line is refused if its first word is no spelling of any word.
Where a number up to some limit follows the word, a line is refused, too, if the number is missing
although it is required, if it is not made of digits with at most one `+` before them, or if it is
too large. -/
theorem reads_every_spelling :
    (∀ line c, read line = .ok c →
      (∀ tag, c = .language (some tag) → lowered tag = tag)
      ∧ (∀ before word between after, isBlankText before → SpelledIn c.word.spellings word →
          isBlankText between → isBlankText after → (c.argument ≠ [] → between ≠ []) →
          read (before ++ word ++ between ++ c.argument ++ after) = .ok c)
      ∧ read c.spelling = .ok c)
    ∧ ∀ line,
      ((∀ w : Word, ¬ SpelledIn w.spellings (wordOf line)) → read line
        = .error (if wordOf line = [] then .blank
            else .unknownCommand (String.ofList (lower (wordOf line)))))
      ∧ ∀ (w : Word) limit, w.limit? = some limit → SpelledIn w.spellings (wordOf line) →
          (textOf line = [] → w = .page ∨ w = .open) →
          (∀ n, ¬ WritesNat limit n (textOf line)) →
          read line = .error (.notANumber (String.ofList (textOf line))) := by
  refine ⟨?_, ?_⟩
  · intro line c given
    obtain ⟨-, takes⟩ := read_eq_ok_iff.1 given
    obtain ⟨takes', trimmed⟩ := takes_argument (trim_textOf line) takes
    refine ⟨?_, ?_, ?_⟩
    · rintro tag rfl
      exact String.toList_inj.1 (String.toList_ofList.trans takes'.1)
    · intro before word between after blank spelled blank' blank'' parted
      exact read_assembled takes' trimmed blank spelled blank' blank'' parted
    · exact read_spelling takes' trimmed
  · intro line
    refine ⟨read_of_unknown, ?_⟩
    intro w limit takes spelled required other
    rw [read_of_spelled spelled]
    have refused := number_of_other other
    cases w with
    | page | «open» =>
      obtain rfl := Option.some.inj takes
      exact congrArg (Functor.map _) refused
    | star | remove =>
      obtain rfl := Option.some.inj takes
      have some : textOf line ≠ [] := fun none => by simpa using required none
      exact congrArg (Functor.map _) (card?_of_other some other)
    | _ => exact absurd takes (by simp [Word.limit?])

/-- A language that ends in a sigma, a page beyond the largest number of 32 bits, and a word that is
no command's although its small letters look like one. -/
theorem reads_every_spelling_of_language :
    let line := "\u00A0LANGUAGE\u3000 ΟΔΟΣ \t".toList
    let c := Command.language (some "οδος")
    let behind := "PAGE 4294967296".toList
    let unknown := "Next, please".toList
    (read line = .ok c ∧ lowered "οδος" = "οδος"
      ∧ read ("\n".toList ++ "Lang".toList ++ "\u2003 ".toList ++ "οδος".toList ++ []) = .ok c)
    ∧ (SpelledIn Word.page.spellings (wordOf behind)
      ∧ read behind = .error (.notANumber "4294967296"))
    ∧ (∀ w : Word, ¬ SpelledIn w.spellings (wordOf unknown))
    ∧ read unknown = .error (.unknownCommand "next,") := by
  intro line c behind unknown
  have given : read line = .ok c := by decide +kernel
  have spelled : SpelledIn Word.page.spellings (wordOf behind) := by decide
  have none : readNat maxWord (textOf behind) = none := by decide
  have other : ∀ n, ¬ WritesNat maxWord n (textOf behind) := by
    intro n written
    exact absurd (none.symm.trans (readNat_eq_some_iff.2 written)) (by simp)
  have wordless : ∀ w : Word, ¬ SpelledIn w.spellings (wordOf unknown) := by
    intro w
    cases w with
    | _ => decide
  obtain ⟨accepted, refused⟩ := reads_every_spelling
  obtain ⟨own, again, -⟩ := accepted line c given
  refine ⟨⟨given, own _ rfl, ?_⟩, ⟨spelled, ?_⟩, wordless, ?_⟩
  · exact again _ _ _ _ (by decide) (by decide) (by decide) rfl (by decide)
  · exact (refused behind).2 .page maxWord rfl spelled (fun _ => .inl rfl) other
  · exact (refused unknown).1 wordless

end Command

end Exposition.Browse
