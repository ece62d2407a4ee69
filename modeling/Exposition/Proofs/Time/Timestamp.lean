import Exposition.Proofs.Text.Lowercase
import Exposition.Proofs.Text.Numeral
import Exposition.Proofs.Time.Calendar
import Exposition.Time.Timestamp
import Mathlib.Data.Bool.AllAny
import Mathlib.Data.List.TakeWhile

/-!
# Proofs/Time/Timestamp — a timestamp is read as the instant that it writes

An instant has many timestamps in the zoned form (`Writes`): a fraction of its second may have any
number of digits as long as they are exact, and date and time may be put together by any separator
and end with any name of UTC.  All of them are read as the instant (`read_of_writes`).
-/

namespace Exposition.Timestamp

/-! ## What writes an instant -/

/-- A number filled up with zeros to a width. -/
def padded (width n : Nat) : List Char := (Text.zeroPadded width n).toList

/-- The fractions that write some nanoseconds: digits after a point that are exact, or nothing. -/
inductive FractionWrites : Nat → List Char → Prop
  | none : FractionWrites 0 []
  | digits {nanos : Nat} {ds : List Char} : ds ≠ [] → (∀ d ∈ ds, d.isDigit) →
    Text.digitsValue ds * 10 ^ 9 = nanos * 10 ^ ds.length → FractionWrites nanos ('.' :: ds)

/-- The names of UTC. -/
def utcNames : List (List Char) :=
  [['Z'], ['z'], ['+', '0', '0', ':', '0', '0'], ['-', '0', '0', ':', '0', '0']]

/-- A leap second is told by nanoseconds past a thousand million on a second 59. -/
def IsTold (t : Instant) : Prop :=
  t.nanos < 10 ^ 9 ∨ t.nanos < 2 * 10 ^ 9 ∧ t.secondOfDay % 60 = 59

/-- Date and time of day of an instant in UTC; a leap second is the second 60. -/
def Civil.ofInstant (t : Instant) : Civil where
  date := t.date
  hour := t.secondOfDay / 3600
  minute := t.secondOfDay / 60 % 60
  second := if t.nanos < 10 ^ 9 then t.secondOfDay % 60 else 60
  nanos := t.nanos % 10 ^ 9

/-- Date and time of day with all numbers in full, a fraction as it was written, and a zone. -/
def Civil.written (c : Civil) (separator : Char) (fraction zone : List Char) : List Char :=
  padded 4 c.date.year.toNat ++ '-' :: padded 2 c.date.month ++ '-' :: padded 2 c.date.day
    ++ separator :: padded 2 c.hour ++ ':' :: padded 2 c.minute ++ ':' :: padded 2 c.second
    ++ fraction ++ zone

/-- **The timestamps in UTC that write an instant**, in the zoned form. -/
inductive Writes (t : Instant) : List Char → Prop
  | intro {separator : Char} {fraction zone : List Char} : separator ∈ ['T', 't', ' '] →
    FractionWrites (Civil.ofInstant t).nanos fraction → zone ∈ utcNames →
    Writes t ((Civil.ofInstant t).written separator fraction zone)

/-- A timestamp of an instant, with all digits of its fraction. -/
def ofInstant (t : Instant) : List Char :=
  (Civil.ofInstant t).written 'T' ('.' :: padded 9 (Civil.ofInstant t).nanos) ['Z']

theorem writes_ofInstant (t : Instant) : Writes t (ofInstant t) := by
  have small : (Civil.ofInstant t).nanos < 10 ^ 9 := Nat.mod_lt _ (by decide)
  have length : (padded 9 (Civil.ofInstant t).nanos).length = 9 :=
    Text.length_zeroPadded (by decide) small
  refine .intro (by decide) (.digits ?_ (Text.isDigit_of_mem_zeroPadded _ _) ?_) (by decide)
  · intro none
    rw [none] at length
    exact absurd length (by decide)
  · rw [length]
    exact congrArg (· * 10 ^ 9) (Text.digitsValue_zeroPadded ..)

/-! ## Pieces -/

theorem padded_eq_cons {width n : Nat} (positive : 0 < width) (small : n < 10 ^ width) :
    ∃ d ds, padded width n = d :: ds ∧ d.isDigit := by
  have length : (padded width n).length = width := Text.length_zeroPadded positive small
  obtain ⟨d, ds, digits⟩ := List.exists_cons_of_length_pos (length ▸ positive)
  have first : d ∈ padded width n := digits ▸ List.mem_cons_self
  exact ⟨d, ds, digits, Text.isDigit_of_mem_zeroPadded width n d first⟩

/-- A number has no blanks before it. -/
theorem trimStart_padded {width n : Nat} (positive : 0 < width) (small : n < 10 ^ width)
    (rest : List Char) : Text.trimStart (padded width n ++ rest) = padded width n ++ rest := by
  obtain ⟨d, ds, digits, digit⟩ := padded_eq_cons positive small
  rw [digits]
  exact List.dropWhile_cons_of_neg (by simp [Text.visible_of_digit digit])

/-- A number that fills its width is read alike in both forms: no blanks stand before it. -/
theorem number_padded (f : Form) {width low high n : Nat} (positive : 0 < width)
    (small : n < 10 ^ width) (least : low ≤ n) (most : n ≤ high) (rest : List Char) :
    f.number width low high (padded width n ++ rest) = .ok (n, rest) := by
  have length : (padded width n).length = width := Text.length_zeroPadded positive small
  have digits : (padded width n).takeWhile Char.isDigit = padded width n :=
    List.takeWhile_eq_self_iff.2 (Text.isDigit_of_mem_zeroPadded width n)
  have nonempty : padded width n ≠ [] := by
    intro none
    rw [none, List.length_nil] at length
    omega
  have taken : takeDigits width (padded width n ++ rest) = .ok (padded width n, rest) := by
    rw [takeDigits, List.take_left' length, digits, List.drop_left, if_neg (by simp [nonempty]),
      if_neg nonempty]
  have value : Text.digitsValue (padded width n) = n := Text.digitsValue_zeroPadded width n
  rw [Form.number, trimStart_padded positive small, ite_self, taken]
  change (if f.isStrict ∧ (padded width n).length < width then _ else _) = _
  rw [if_neg (by omega), value, if_neg (by omega)]
  rfl

/-- **Nine digits are enough**: those after the ninth are zeros if the digits are exact, and zeros
stand for those that are missing. -/
theorem nanosOf_eq {nanos : Nat} {ds : List Char} (digits : ∀ d ∈ ds, d.isDigit)
    (exact_ : Text.digitsValue ds * 10 ^ 9 = nanos * 10 ^ ds.length) : nanosOf ds = nanos := by
  rw [nanosOf]
  by_cases short : ds.length ≤ 9
  · obtain ⟨k, nine⟩ := Nat.exists_eq_add_of_le short
    have filled : (ds ++ List.replicate 9 '0').take 9 = ds ++ List.replicate k '0' := by
      rw [List.take_append, List.take_of_length_le short, List.take_replicate]
      congr 2
      omega
    rw [filled, Text.digitsValue_append, Text.digitsValue_zeros, List.length_replicate]
    rw [nine, Nat.pow_add, Nat.mul_comm (10 ^ _), ← Nat.mul_assoc] at exact_
    exact Nat.mul_right_cancel (Nat.pow_pos (by decide)) exact_
  · have first : (ds.take 9).length = 9 := List.length_take_of_le (by omega)
    have taken : (ds ++ List.replicate 9 '0').take 9 = ds.take 9 :=
      List.take_append_of_le_length (by omega)
    have split : Text.digitsValue ds
        = Text.digitsValue (ds.take 9) * 10 ^ (ds.drop 9).length
          + Text.digitsValue (ds.drop 9) := by
      rw [← Text.digitsValue_append, List.take_append_drop]
    have rest : Text.digitsValue (ds.drop 9) < 10 ^ (ds.drop 9).length :=
      Text.digitsValue_lt fun d mem => digits d (List.mem_of_mem_drop mem)
    have length : ds.length = 9 + (ds.drop 9).length := by
      rw [List.length_drop]
      omega
    rw [taken]
    rw [length, Nat.pow_add, ← Nat.mul_assoc, Nat.mul_right_comm] at exact_
    have whole := Nat.mul_right_cancel (Nat.pow_pos (by decide)) exact_
    calc Text.digitsValue (ds.take 9)
        = Text.digitsValue ds / 10 ^ (ds.drop 9).length := by
          rw [split, Nat.mul_comm, Nat.mul_add_div (Nat.pow_pos (by decide)), Nat.div_eq_of_lt rest,
            Nat.add_zero]
      _ = nanos := by rw [whole, Nat.mul_div_cancel _ (Nat.pow_pos (by decide))]

theorem fraction_writes {nanos : Nat} {cs : List Char} (writes : FractionWrites nanos cs)
    {rest : List Char} (ends : ∀ c ∈ rest.head?, c ≠ '.' ∧ ¬ c.isDigit) :
    fraction (cs ++ rest) = .ok (nanos, rest) := by
  cases writes with
  | none =>
    cases rest with
    | nil => rfl
    | cons c rest =>
      change fraction (c :: rest) = _
      rw [fraction]
      rintro rest' ⟨⟩
      exact (ends '.' rfl).1 rfl
  | @digits _ ds nonempty digits exact_ =>
    have taken : (ds ++ rest).takeWhile Char.isDigit = ds := by
      rw [List.takeWhile_append_of_pos digits]
      cases rest with
      | nil => simp
      | cons c rest =>
        have other := (ends c rfl).2
        rw [List.takeWhile_cons_of_neg other, List.append_nil]
    change fraction ('.' :: (ds ++ rest)) = _
    simp only [fraction]
    rw [if_neg (by simp [nonempty]), taken, if_neg nonempty, nanosOf_eq digits exact_,
      List.drop_left]

/-- What a zone begins with continues no fraction. -/
theorem ends_of_sign {c : Char} (sign : c ∈ ['Z', 'z', '+', '-']) : c ≠ '.' ∧ ¬ c.isDigit := by
  have signs : ∀ d ∈ ['Z', 'z', '+', '-'], d ≠ '.' ∧ ¬ d.isDigit :=
    List.all_iff_forall_prop.1 (by decide)
  exact signs c sign

theorem expect_of_mem {allowed : List Char} {c : Char} (mem : c ∈ allowed) (rest : List Char) :
    expect allowed (c :: rest) = .ok rest := by
  rw [expect, if_pos (by simpa using mem)]

/-- **An offset is read as it is written**, whatever its sign. -/
theorem zone_signed {sign : Char} (signed : sign ∈ ['+', '-']) {hours minutes : Nat}
    (hours_le : hours ≤ 23) (minutes_le : minutes ≤ 59) :
    zone (sign :: (padded 2 hours ++ ':' :: padded 2 minutes))
      = .ok (if sign = '+' then (hours * 3600 + minutes * 60 : Int)
          else -(hours * 3600 + minutes * 60), []) := by
  have hour (rest : List Char) :
      zoned.number 2 0 23 (padded 2 hours ++ rest) = .ok (hours, rest) :=
    number_padded zoned (by decide) (by omega) (Nat.zero_le _) hours_le rest
  have minute : zoned.number 2 0 59 (padded 2 minutes) = .ok (minutes, []) := by
    simpa using number_padded zoned (by decide) (by omega) (Nat.zero_le _) minutes_le []
  have colon : expect [':'] (':' :: padded 2 minutes) = .ok (padded 2 minutes) :=
    expect_of_mem (List.mem_singleton_self _) _
  have plusOrMinus : sign = '+' ∨ sign = '-' ∨ sign = '\u2212' := by
    simp only [List.mem_cons, List.not_mem_nil, or_false] at signed
    exact signed.imp_right .inl
  have other : ¬ (sign = 'Z' ∨ sign = 'z') := by
    rcases plusOrMinus with rfl | rfl | rfl
    all_goals decide
  rw [zone, if_neg other, if_pos plusOrMinus]
  simp only [bind, Except.bind, hour, colon, minute]
  rfl

theorem zone_utc {cs : List Char} (utc : cs ∈ utcNames) : zone cs = .ok (0, []) := by
  have zero : padded 2 0 = ['0', '0'] := by decide
  have offset {sign : Char} (signed : sign ∈ ['+', '-']) :
      zone (sign :: ['0', '0', ':', '0', '0']) = .ok (0, []) := by
    simpa [zero] using zone_signed signed (Nat.zero_le 23) (Nat.zero_le 59)
  simp only [utcNames, List.mem_cons, List.not_mem_nil, or_false] at utc
  rcases utc with rfl | rfl | rfl | rfl
  · rfl
  · rfl
  · exact offset (by decide)
  · exact offset (by decide)

/-! ## Whole timestamps -/

theorem year_padded (f : Form) {n : Nat} (high : n ≤ 9999) (rest : List Char) :
    f.year (padded 4 n ++ rest) = .ok ((n : Int), rest) := by
  have small : n < 10 ^ 4 := by omega
  have number : f.number 4 0 9999 (padded 4 n ++ rest) = .ok (n, rest) :=
    number_padded f (by decide) small (Nat.zero_le n) high rest
  obtain ⟨d, ds, digits, digit⟩ := padded_eq_cons (by decide) small
  rw [Form.year, trimStart_padded (by decide) small, number]
  rw [digits, List.cons_append]
  -- a digit is no sign
  split
  · next minus => cases (List.cons.inj minus).1 ▸ digit
  · next plus => cases (List.cons.inj plus).1 ▸ digit
  · rfl

/-- **Date and time of day that can be written in full**: the date is one of the years 0 to 9999,
and the second may be a leap second. -/
structure Civil.IsWritable (c : Civil) : Prop where
  low : 0 ≤ c.date.year
  high : c.date.year ≤ 9999
  valid : c.date.isValid = true
  hour : c.hour ≤ 23
  minute : c.minute ≤ 59
  second : c.second ≤ 60

section Written

variable {c : Civil} {separator : Char} {digits rest : List Char}

/-- **Date and time of day are read as they are written**, in both forms. -/
theorem civil_written (f : Form) (writable : c.IsWritable) (separates : separator ∈ f.separators)
    (writes : FractionWrites c.nanos digits) (ends : ∀ d ∈ rest.head?, d ≠ '.' ∧ ¬ d.isDigit) :
    f.civil (c.written separator digits rest) = .ok (c, rest) := by
  obtain ⟨low, high, valid, hour, minute, second⟩ := writable
  obtain ⟨⟨january, december⟩, first, last⟩ := Date.isValid_iff.1 valid
  have thirtyFirst := last.trans (Date.monthLength_le c.date.year c.date.month)
  have two {low high n : Nat} (least : low ≤ n) (most : n ≤ high) (small : n < 100)
      (more : List Char) : f.number 2 low high (padded 2 n ++ more) = .ok (n, more) :=
    number_padded f (by decide) small least most more
  have year (more : List Char) :
      f.year (padded 4 c.date.year.toNat ++ more) = .ok (c.date.year, more) := by
    rw [year_padded f (by omega), Int.toNat_of_nonneg low]
  have month := two january december (by omega)
  have day := two first thirtyFirst (by omega)
  have hour := two (Nat.zero_le _) hour (by omega)
  have minute := two (Nat.zero_le _) minute (by omega)
  have second := two (Nat.zero_le _) second (by omega)
  have dash : ∀ more, expect ['-'] ('-' :: more) = .ok more :=
    expect_of_mem (List.mem_singleton_self _)
  have colon : ∀ more, expect [':'] (':' :: more) = .ok more :=
    expect_of_mem (List.mem_singleton_self _)
  have separator : ∀ more, expect f.separators (separator :: more) = .ok more :=
    expect_of_mem separates
  simp only [Civil.written, List.append_assoc, List.cons_append, Form.civil, bind, Except.bind,
    year, month, day, hour, minute, second, dash, colon, separator, fraction_writes writes ends]
  rfl

/-- **The zoned form** is read as date and time of day at the offset that ends it. -/
theorem readZoned_written (writable : c.IsWritable) (separates : separator ∈ zoned.separators)
    (writes : FractionWrites c.nanos digits) (ends : ∀ d ∈ rest.head?, d ≠ '.' ∧ ¬ d.isDigit)
    {ahead : Int} (offset : zone rest = .ok (ahead, [])) :
    readZoned (c.written separator digits rest) = c.instant ahead := by
  rw [readZoned, civil_written zoned writable separates writes ends]
  simp only [bind, Except.bind, offset]
  rfl

end Written

theorem isWritable_ofInstant {t : Instant} (low : 0 ≤ t.date.year) (high : t.date.year ≤ 9999) :
    (Civil.ofInstant t).IsWritable := by
  have day : t.secondOfDay < 86400 := by
    rw [Instant.secondOfDay]
    omega
  refine ⟨low, high, Date.isValid_ofDayNumber _, ?_, ?_, ?_⟩
  · simp only [Civil.ofInstant]
    omega
  · simp only [Civil.ofInstant]
    omega
  · simp only [Civil.ofInstant]
    split
    · omega
    · omega

/-- The instant of the date and time of day of an instant is that instant. -/
theorem instant_ofInstant {t : Instant} (told : IsTold t) (low : 0 ≤ t.date.year)
    (high : t.date.year ≤ 9999) : (Civil.ofInstant t).instant 0 = .ok t := by
  have dates : hasDates t.date.year = true := by
    rw [hasDates, Bool.and_eq_true, decide_eq_true_iff, decide_eq_true_iff]
    omega
  have valid : t.date.isValid = true := Date.isValid_ofDayNumber _
  have day : t.date.dayNumber = t.seconds / 86400 := Date.dayNumber_ofDayNumber _
  have second : t.secondOfDay = (t.seconds % 86400).toNat := rfl
  have whole : t.seconds / 86400 * 86400 + (t.secondOfDay / 3600 * 3600
      + t.secondOfDay / 60 % 60 * 60 + t.secondOfDay % 60 : Nat) - 0 = t.seconds := by omega
  simp only [Civil.instant, Civil.ofInstant, dates, valid, day, Bool.and_self, if_true]
  by_cases plain : t.nanos < 10 ^ 9
  · have second : t.secondOfDay % 60 ≠ 60 := by omega
    simp only [if_pos plain, if_neg second, whole, Nat.mod_eq_of_lt plain, Nat.zero_add]
  · obtain ⟨leap, last⟩ := told.resolve_left plain
    have nanos : 1000000000 + t.nanos % 10 ^ 9 = t.nanos := by omega
    rw [last] at whole
    simp only [if_neg plain, if_true, whole, nanos]

/-- **A timestamp is read as the instant that it writes.** -/
theorem read_of_writes {t : Instant} (told : IsTold t) (low : 0 ≤ t.date.year)
    (high : t.date.year ≤ 9999) {cs : List Char} (writes : Writes t cs) :
    read (String.ofList cs) = .ok t := by
  obtain @⟨separator, fraction, utc, separates, digits, named⟩ := writes
  have ends : ∀ c ∈ utc.head?, c ≠ '.' ∧ ¬ c.isDigit := by
    intro c first
    have heads : ∀ name ∈ utcNames, name.head? ∈ [some 'Z', some 'z', some '+', some '-'] := by
      decide
    exact ends_of_sign (by simpa [Option.mem_def.1 first] using heads utc named)
  have zoned : readZoned ((Civil.ofInstant t).written separator fraction utc) = .ok t := by
    rw [readZoned_written (isWritable_ofInstant low high) separates digits ends (zone_utc named),
      instant_ofInstant told low high]
  rw [read, String.toList_ofList, zoned]

end Exposition.Timestamp
