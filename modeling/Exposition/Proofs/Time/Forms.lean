import Exposition.Proofs.Time.Timestamp

/-!
# Proofs/Time/Forms — a timestamp means the same in both forms

Date and time of day that are written in full can be read in both forms.  Without a zone they are no
timestamp of the zoned form, so the bare form is read, and it is read as UTC; with a name of UTC or
with an offset the zoned form is read.  All of them give the instant that has the date and time of
day, the offset apart (`forms_agree`).
-/

namespace Exposition.Timestamp

/-! ## What is written -/

/-- **A fraction of a second** with one digit at least and nine at most, or none. -/
inductive IsFraction : List Char → Prop
  | none : IsFraction []
  | digits {ds : List Char} : ds ≠ [] → ds.length ≤ 9 → (∀ d ∈ ds, d.isDigit) →
    IsFraction ('.' :: ds)

/-- A fraction writes some nanoseconds. -/
theorem IsFraction.writes {fraction : List Char} (written : IsFraction fraction) :
    ∃ nanos, nanos < 10 ^ 9 ∧ FractionWrites nanos fraction := by
  cases written with
  | none => exact ⟨0, by decide, .none⟩
  | @digits ds some short digits =>
    obtain ⟨k, nine⟩ := Nat.exists_eq_add_of_le short
    have small := Text.digitsValue_lt digits
    refine ⟨Text.digitsValue ds * 10 ^ k, ?_, .digits some digits ?_⟩
    · rw [nine, Nat.pow_add]
      exact Nat.mul_lt_mul_of_pos_right small (Nat.pow_pos (by decide))
    · rw [nine, Nat.pow_add, Nat.mul_assoc, Nat.mul_comm (10 ^ k)]

/-- **An offset from UTC.** -/
structure Offset where
  isBehind : Bool
  hours : Nat
  minutes : Nat
  hours_le : hours ≤ 23 := by omega
  minutes_le : minutes ≤ 59 := by omega

namespace Offset

variable (o : Offset)

/-- The offset as it is written. -/
def written : List Char :=
  (if o.isBehind then '-' else '+') :: (padded 2 o.hours ++ ':' :: padded 2 o.minutes)

/-- The seconds by which a clock at the offset runs ahead of UTC. -/
def ahead : Int :=
  if o.isBehind then -(o.hours * 3600 + o.minutes * 60) else o.hours * 3600 + o.minutes * 60

theorem zone_written : zone o.written = .ok (o.ahead, []) := by
  obtain ⟨isBehind, hours, minutes, hours_le, minutes_le⟩ := o
  have signs : '+' ∈ ['+', '-'] ∧ '-' ∈ ['+', '-'] := by decide
  cases isBehind with
  | true => exact zone_signed signs.2 hours_le minutes_le
  | false => exact zone_signed signs.1 hours_le minutes_le

end Offset

/-! ## What is read -/

section Instants

variable {c : Civil} {digits : List Char}

/-- **The bare form** is read as date and time of day in UTC. -/
theorem readBare_written (writable : c.IsWritable) (writes : FractionWrites c.nanos digits) :
    readBare (c.written 'T' digits []) = c.instant 0 := by
  rw [readBare, civil_written bare writable (List.mem_singleton_self _) writes (by simp)]
  rfl

/-- Without a zone there is no timestamp of the zoned form. -/
theorem readZoned_unzoned (writable : c.IsWritable) (writes : FractionWrites c.nanos digits) :
    readZoned (c.written 'T' digits []) = .error .cutOff := by
  rw [readZoned, civil_written zoned writable (by decide) writes (by simp)]
  rfl

/-- **The instant of date and time of day** has that date and that time, the offset apart. -/
theorem exists_instant (writable : c.IsWritable) (ordinary : c.second ≤ 59) :
    ∃ t : Instant, t.date = c.date ∧ t.secondOfDay = c.hour * 3600 + c.minute * 60 + c.second
      ∧ t.nanos = c.nanos
      ∧ ∀ ahead, c.instant ahead = .ok { t with seconds := t.seconds - ahead } := by
  obtain ⟨low, high, valid, hour, minute, -⟩ := writable
  have dates : hasDates c.date.year = true := by
    rw [hasDates, Bool.and_eq_true, decide_eq_true_iff, decide_eq_true_iff]
    omega
  have second : c.second ≠ 60 := by omega
  refine ⟨⟨c.date.dayNumber * 86400 + (c.hour * 3600 + c.minute * 60 + c.second : Nat), c.nanos⟩,
    ?_, ?_, rfl, fun ahead => ?_⟩
  · have day : (c.date.dayNumber * 86400
        + (c.hour * 3600 + c.minute * 60 + c.second : Nat)) / 86400 = c.date.dayNumber := by omega
    rw [Instant.date, day, Date.ofDayNumber_dayNumber valid]
  · simp only [Instant.secondOfDay]
    omega
  · rw [Civil.instant, dates, valid]
    simp only [second, Bool.and_self, if_true, if_false, Nat.zero_add]

/-- **A timestamp with a zone** is read at the offset of the zone. -/
theorem read_zoned (writable : c.IsWritable) (writes : FractionWrites c.nanos digits)
    {sign : Char} {rest : List Char} (begins : sign ∈ ['Z', 'z', '+', '-']) {ahead : Int}
    (offset : zone (sign :: rest) = .ok (ahead, [])) {t : Instant}
    (same : c.instant ahead = .ok t) :
    read (String.ofList (c.written 'T' digits (sign :: rest))) = .ok t := by
  have ends : ∀ d ∈ (sign :: rest).head?, d ≠ '.' ∧ ¬ d.isDigit := by
    rintro d ⟨⟩
    exact ends_of_sign begins
  rw [read, String.toList_ofList, readZoned_written writable (by decide) writes ends offset, same]

/-- **Both forms agree.**  Date and time of day in full, with a fraction of one to nine digits or
none, are read as the same instant without a zone, with `Z` and with `+00:00`, and this instant has
that date and that time; with an offset they are read as the instant that is earlier by the
offset. -/
theorem forms_agree (writable : c.IsWritable) (ordinary : c.second ≤ 59)
    (fraction : IsFraction digits) (o : Offset) :
    ∃ t : Instant, t.date = c.date ∧ t.secondOfDay = c.hour * 3600 + c.minute * 60 + c.second
      ∧ t.nanos < 10 ^ 9 ∧ FractionWrites t.nanos digits
      ∧ read (String.ofList (c.written 'T' digits [])) = .ok t
      ∧ read (String.ofList (c.written 'T' digits ['Z'])) = .ok t
      ∧ read (String.ofList (c.written 'T' digits "+00:00".toList)) = .ok t
      ∧ read (String.ofList (c.written 'T' digits o.written))
        = .ok { t with seconds := t.seconds - o.ahead } := by
  obtain ⟨nanos, small, writes⟩ := fraction.writes
  obtain ⟨low, high, valid, hour, minute, second⟩ := writable
  have writable : { c with nanos }.IsWritable := ⟨low, high, valid, hour, minute, second⟩
  obtain ⟨t, date, time, rfl, instant⟩ := exists_instant writable ordinary
  have utc : { c with nanos := t.nanos }.instant 0 = .ok t := by
    rw [instant 0, Int.sub_zero]
  have sign : (if o.isBehind then '-' else '+') ∈ ['Z', 'z', '+', '-'] := by
    cases o.isBehind with
    | true => decide
    | false => decide
  -- the fraction is written as it is given, whatever nanoseconds there are
  have text (zone : List Char) :
      c.written 'T' digits zone = { c with nanos := t.nanos }.written 'T' digits zone := rfl
  refine ⟨t, date, time, small, writes, ?_, ?_, ?_, ?_⟩
  · rw [text, read, String.toList_ofList, readZoned_unzoned writable writes,
      readBare_written writable writes, utc]
  · rw [text]
    exact read_zoned writable writes (by decide) (zone_utc (by decide)) utc
  · rw [text]
    exact read_zoned writable writes (by decide) (zone_utc (by decide)) utc
  · rw [text]
    exact read_zoned writable writes sign o.zone_written (instant o.ahead)

end Instants

/-- Half past midnight of a leap day, with an offset that leads back to the day before. -/
theorem forms_agree_of_leap_day : ∃ t : Instant,
    t.date = ⟨2024, 2, 29⟩ ∧ t.secondOfDay = 0 * 3600 + 30 * 60 + 0
      ∧ t.nanos < 10 ^ 9 ∧ FractionWrites t.nanos ['.', '5']
      ∧ read "2024-02-29T00:30:00.5" = .ok t
      ∧ read "2024-02-29T00:30:00.5Z" = .ok t
      ∧ read "2024-02-29T00:30:00.5+00:00" = .ok t
      ∧ read "2024-02-29T00:30:00.5+01:00" = .ok { t with seconds := t.seconds - 3600 } := by
  let c : Civil := ⟨⟨2024, 2, 29⟩, 0, 30, 0, 0⟩
  let o : Offset := ⟨false, 1, 0, by decide, by decide⟩
  have writable : c.IsWritable :=
    ⟨by decide, by decide, by decide, by decide, by decide, by decide⟩
  have fraction : IsFraction ['.', '5'] := .digits (by decide) (by decide) (by simp)
  have unzoned : String.ofList (c.written 'T' ['.', '5'] []) = "2024-02-29T00:30:00.5" := by decide
  have utc : String.ofList (c.written 'T' ['.', '5'] ['Z']) = "2024-02-29T00:30:00.5Z" := by decide
  have zero : String.ofList (c.written 'T' ['.', '5'] "+00:00".toList)
      = "2024-02-29T00:30:00.5+00:00" := by decide
  have east : String.ofList (c.written 'T' ['.', '5'] o.written)
      = "2024-02-29T00:30:00.5+01:00" := by decide
  have hour : o.ahead = 3600 := by decide
  have agree := forms_agree writable (by decide) fraction o
  rw [unzoned, utc, zero, east, hour] at agree
  exact agree

end Exposition.Timestamp
