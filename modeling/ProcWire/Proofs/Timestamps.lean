import ProcWire.Calendar.Rfc3339
import ProcWire.Proofs.Days
import ProcWire.Proofs.Instants
import ProcWire.Proofs.Parameters
import ProcWire.Proofs.Scanning

/-! # Timestamps and the instants that they denote

`Rfc3339.Spelling` is a date with a time of day, a fraction of a second and an offset, as they are
written; its digits are in their ranges by their types, but the calendar need not have the date.
Where it has, the text is read as the instant that it denotes, and where it has not, the
text is refused (`instant?_text`).  The instant is the time shown, counted from the epoch day by
day, less the offset (`nanosSinceEpoch`).

So `parse_timestamp_text` says what the parameter is: the nearest number of microseconds.  It
depends on nothing but the instant, so clocks at different offsets that show the same
instant give the same value.
-/
namespace ProcWire.Rfc3339
open Scanner Numeral

variable {rest : List Char}

/-! ## Spellings -/

/-- The distance of a clock from universal time, as it is written. -/
inductive Offset where
  | universal
  | east (hours : Fin 24) (minutes : Fin 60)
  | west (hours : Fin 24) (minutes : Fin 60)

/-- The seconds by which a clock is ahead of universal time. -/
def Offset.seconds : Offset → Int
  | universal => 0
  | east hours minutes => (3600 * hours.val + 60 * minutes.val : Nat)
  | west hours minutes => -(3600 * hours.val + 60 * minutes.val : Nat)

/-- The letter for universal time, or a sign with hours and minutes. -/
def Offset.text : Offset → List Char
  | universal => ['Z']
  | east hours minutes => '+' :: (padded 2 hours ++ ':' :: padded 2 minutes)
  | west hours minutes => '-' :: (padded 2 hours ++ ':' :: padded 2 minutes)

/-- A date, a time of day and an offset, as they are written. -/
structure Spelling where
  year : Fin 10000
  month : Fin 100
  day : Fin 100
  hour : Fin 24
  minute : Fin 60
  second : Fin 60
  /-- The digits behind the point; without any there is no point either. -/
  fraction : List (Fin 10)
  fraction_le : fraction.length ≤ 9
  offset : Offset

namespace Spelling

/-- The date, which the calendar may have or not. -/
def date (spelling : Spelling) : Date := ⟨spelling.year, spelling.month, spelling.day⟩

/-- The seconds since midnight. -/
def secondOfDay (spelling : Spelling) : Nat :=
  3600 * spelling.hour.val + 60 * spelling.minute.val + spelling.second.val

/-- The fraction of a second, in nanoseconds. -/
def nanos (spelling : Spelling) : Nat :=
  Nat.ofDigits 10 (spelling.fraction.reverse.map Fin.val) * 10 ^ (9 - spelling.fraction.length)

/-- The nanoseconds from the epoch to the instant, for a date so many days after it. -/
def nanosSinceEpoch (spelling : Spelling) (days : Int) : Int :=
  1000000000 * (86400 * days + spelling.secondOfDay - spelling.offset.seconds) + spelling.nanos

def dateText (spelling : Spelling) : List Char :=
  padded 4 spelling.year ++ '-' :: (padded 2 spelling.month ++ '-' :: padded 2 spelling.day)

/-- Digits as they are written. -/
def digitText (digits : List (Fin 10)) : List Char :=
  digits.map fun digit : Fin 10 => Nat.digitChar digit.val

def fractionText (spelling : Spelling) : List Char :=
  if spelling.fraction = [] then [] else '.' :: digitText spelling.fraction

def timeText (spelling : Spelling) : List Char :=
  padded 2 spelling.hour ++ ':' :: (padded 2 spelling.minute ++
    ':' :: (padded 2 spelling.second ++ spelling.fractionText))

def text (spelling : Spelling) : List Char :=
  spelling.dateText ++ 'T' :: (spelling.timeText ++ spelling.offset.text)

end Spelling

/-! ## Reading -/

theorem number_padded (width : Nat) {n : Nat} (h : n < 10 ^ width) (rest : List Char) :
    number width (padded width n ++ rest) = some (n, rest) := by
  have all : (padded width n).all isDigit = true :=
    List.all_eq_true.mpr fun c mem => isDigit_of_mem_padded mem
  have front : (padded width n ++ rest).take width = padded width n :=
    List.take_left' (length_padded width n)
  have behind : (padded width n ++ rest).drop width = rest :=
    List.drop_left' (length_padded width n)
  simp only [number, front, behind, all, length_padded, value_padded h]
  simp

variable (spelling : Spelling)

theorem date_dateText (rest : List Char) : date (spelling.dateText ++ rest) =
    if spelling.date.isValid then some (spelling.date, rest) else none := by
  have year := number_padded 4 spelling.year.isLt
  have month := number_padded 2 spelling.month.isLt
  have day := number_padded 2 spelling.day.isLt
  simp only [Spelling.dateText, List.append_assoc, List.cons_append]
  refine (bind_of_some (year _)).trans ((bind_of_some (char_cons _ _)).trans ?_)
  refine (bind_of_some (month _)).trans ((bind_of_some (char_cons _ _)).trans ?_)
  refine (bind_of_some (day _)).trans ?_
  change (if spelling.date.isValid = true then _ else _ : Scanner Date) rest = _
  split
  · rfl
  · rfl

theorem value_digitText (digits : List (Fin 10)) :
    value (Spelling.digitText digits) = Nat.ofDigits 10 (digits.reverse.map Fin.val) := by
  have each (digit : Fin 10) : digitValue (Nat.digitChar digit.val) = digit.val := by
    rw [digitValue, Nat.toNat_digitChar_of_lt_ten digit.isLt]
    exact Nat.add_sub_cancel_left 48 digit.val
  rw [value_eq_ofDigits, Spelling.digitText, ← List.map_reverse, List.map_map]
  exact congrArg (fun f => Nat.ofDigits 10 (digits.reverse.map f)) (funext each)

theorem isDigit_of_mem_digitText {c : Char} {digits : List (Fin 10)}
    (mem : c ∈ Spelling.digitText digits) : isDigit c = true := by
  obtain ⟨digit, -, rfl⟩ := List.mem_map.mp mem
  rw [isDigit_eq, Nat.isDigit_digitChar]
  exact decide_eq_true digit.isLt

/-- A fraction is read as the nanoseconds that it denotes; it may be missing. -/
theorem fraction_fractionText (digits : Stops isDigit rest) (point : Stops (· = '.') rest) :
    fraction (spelling.fractionText ++ rest) = some (spelling.nanos, rest) := by
  rw [Spelling.fractionText]
  split
  · rename_i none
    -- Nothing was written, so what comes next must not be taken for a point.
    have no_point : rest.head?.any (· = '.') = false := by
      cases rest with
      | nil => rfl
      | cons c rest => exact stops_cons.mp point
    have zero : spelling.nanos = 0 := by
      rw [Spelling.nanos, none]
      rfl
    rw [List.nil_append, zero, fraction]
    refine (bind_of_some rfl).trans ?_
    rw [no_point]
    rfl
  · rename_i some_digits
    have length : (Spelling.digitText spelling.fraction).length = spelling.fraction.length :=
      List.length_map _
    have run := takeWhile1_append (fun c mem => isDigit_of_mem_digitText mem) digits
      (mt (fun none => List.map_eq_nil_iff.mp none) some_digits)
    rw [fraction, List.cons_append]
    refine (bind_of_some rfl).trans ?_
    refine (bind_of_some (char_cons _ _)).trans ((bind_of_some run).trans ?_)
    rw [fractionNanos, List.take_of_length_le (length ▸ spelling.fraction_le), value_digitText,
      length]
    rfl

theorem time_timeText (digits : Stops isDigit rest) (point : Stops (· = '.') rest) :
    time (spelling.timeText ++ rest) = some ((spelling.secondOfDay, spelling.nanos), rest) := by
  have hour := number_padded 2 (Nat.lt_trans spelling.hour.isLt (by decide))
  have minute := number_padded 2 (Nat.lt_trans spelling.minute.isLt (by decide))
  have second := number_padded 2 (Nat.lt_trans spelling.second.isLt (by decide))
  have within : spelling.hour.val ≤ 23 ∧ spelling.minute.val ≤ 59 ∧ spelling.second.val ≤ 60 := by
    omega
  have no_leap : spelling.second.val ≠ 60 := by omega
  simp only [Spelling.timeText, List.append_assoc, List.cons_append]
  refine (bind_of_some (hour _)).trans ((bind_of_some (char_cons _ _)).trans ?_)
  refine (bind_of_some (minute _)).trans ((bind_of_some (char_cons _ _)).trans ?_)
  refine (bind_of_some (second _)).trans ?_
  refine (bind_of_some (fraction_fractionText spelling digits point)).trans ?_
  rw [if_pos within]
  simp only [if_neg no_leap, Nat.sub_zero, Nat.zero_mul, Nat.add_zero, Spelling.secondOfDay,
    Nat.mul_comm]
  rfl

theorem offsetSize_text (hours : Fin 24) (minutes : Fin 60) :
    offsetSize (padded 2 hours ++ ':' :: padded 2 minutes) =
      some (3600 * hours.val + 60 * minutes.val, []) := by
  have hour := number_padded 2 (Nat.lt_trans hours.isLt (by decide))
  have minute := number_padded 2 (Nat.lt_trans minutes.isLt (by decide)) []
  have within : hours.val ≤ 23 ∧ minutes.val ≤ 59 := by omega
  rw [List.append_nil] at minute
  refine (bind_of_some (hour _)).trans ((bind_of_some (char_cons _ _)).trans ?_)
  refine (bind_of_some minute).trans ?_
  rw [if_pos within, Nat.mul_comm 3600, Nat.mul_comm 60]
  rfl

theorem offset_text (offset : Offset) : Rfc3339.offset offset.text = some (offset.seconds, []) := by
  cases offset with
  | universal => rfl
  | east hours minutes =>
    have size := offsetSize_text hours minutes
    exact (bind_of_some rfl).trans (bind_of_some size)
  | west hours minutes =>
    have size := offsetSize_text hours minutes
    exact (bind_of_some rfl).trans (bind_of_some size)

theorem stops_offset {p : Char → Bool} (offset : Offset) (letter : p 'Z' = false)
    (plus : p '+' = false) (minus : p '-' = false) : Stops p offset.text := by
  cases offset with
  | universal => exact stops_cons.mpr letter
  | east hours minutes => exact stops_cons.mpr plus
  | west hours minutes => exact stops_cons.mpr minus

/-- **A date that the calendar has is read with its time as an instant**, and any other date is
refused. -/
theorem instant?_text : instant? spelling.text = if spelling.date.isValid then
    some ⟨Int64.ofInt (spelling.date.daysSinceEpoch * 86400 + spelling.secondOfDay -
      spelling.offset.seconds), UInt32.ofNat spelling.nanos⟩ else none := by
  have read := date_dateText spelling ('T' :: (spelling.timeText ++ spelling.offset.text))
  have time := time_timeText spelling
    (stops_offset (p := isDigit) spelling.offset (by decide) (by decide) (by decide))
    (stops_offset (p := (· = '.')) spelling.offset (by decide) (by decide) (by decide))
  by_cases valid : spelling.date.isValid = true
  · rw [if_pos valid] at read ⊢
    have whole : instant spelling.text =
        some (⟨Int64.ofInt (spelling.date.daysSinceEpoch * 86400 + spelling.secondOfDay -
          spelling.offset.seconds), UInt32.ofNat spelling.nanos⟩, []) := by
      refine (bind_of_some read).trans ((bind_of_some (satisfy_cons rfl)).trans ?_)
      exact (bind_of_some time).trans (bind_of_some (offset_text spelling.offset))
    rw [instant?, whole?, whole]
  · rw [if_neg valid] at read ⊢
    have refused : instant spelling.text = none := bind_of_none read
    rw [instant?, whole?, refused]

/-! ## Ranges -/

theorem nanos_lt : spelling.nanos < 1000000000 := by
  have digits : ∀ n ∈ spelling.fraction.reverse.map Fin.val, n < 10 := by
    intro n mem
    obtain ⟨digit, -, rfl⟩ := List.mem_map.mp mem
    exact digit.isLt
  have below := Nat.ofDigits_lt_base_pow_length (by decide) digits
  rw [List.length_map, List.length_reverse] at below
  calc spelling.nanos
      < 10 ^ spelling.fraction.length * 10 ^ (9 - spelling.fraction.length) :=
        Nat.mul_lt_mul_of_pos_right below (Nat.pow_pos (by decide))
    _ = 1000000000 := by rw [← Nat.pow_add, Nat.add_sub_cancel' spelling.fraction_le]

theorem offset_seconds_lt (offset : Offset) : -86400 < offset.seconds ∧ offset.seconds < 86400 := by
  cases offset with
  | universal => decide
  | east hours minutes =>
    simp only [Offset.seconds]
    omega
  | west hours minutes =>
    simp only [Offset.seconds]
    omega

theorem secondOfDay_lt : spelling.secondOfDay < 86400 := by
  rw [Spelling.secondOfDay]
  omega

/-- The dates of four-digit years are within some three million days of the epoch. -/
theorem daysSinceEpoch_within (valid : spelling.date.isValid = true) :
    -719528 ≤ spelling.date.daysSinceEpoch ∧ spelling.date.daysSinceEpoch < 3000000 := by
  obtain ⟨low, high, -, -⟩ := Date.isValid_iff.mp valid
  have months : Date.daysBeforeMonth spelling.year spelling.month ≤ 366 :=
    Date.daysBeforeMonth_le high
  have year := spelling.year.isLt
  have day := spelling.day.isLt
  have epoch : Date.epoch.ordinal = 719528 := rfl
  have ordinal : spelling.date.ordinal < 3700000 := by
    simp only [Date.ordinal, Spelling.date, Date.daysBeforeYear]
    omega
  rw [Date.daysSinceEpoch_eq, epoch]
  omega

/-- The instant of a text in microseconds: that of its nanoseconds, to the nearest. -/
theorem micros_text (valid : spelling.date.isValid = true) :
    ∃ instant, instant? spelling.text = some instant ∧ instant.micros.toInt =
      (spelling.nanosSinceEpoch spelling.date.daysSinceEpoch + 500) / 1000 := by
  have read := instant?_text spelling
  rw [if_pos valid] at read
  refine ⟨_, read, ?_⟩
  obtain ⟨low, high⟩ := daysSinceEpoch_within spelling valid
  obtain ⟨behind, ahead⟩ := offset_seconds_lt spelling.offset
  have time := secondOfDay_lt spelling
  have small := nanos_lt spelling
  have seconds : (Int64.ofInt (spelling.date.daysSinceEpoch * 86400 + spelling.secondOfDay -
      spelling.offset.seconds)).toInt = spelling.date.daysSinceEpoch * 86400 +
        spelling.secondOfDay - spelling.offset.seconds :=
    Int64.toInt_ofInt_of_le (by omega) (by omega)
  have nanos : (UInt32.ofNat spelling.nanos).toNat = spelling.nanos :=
    UInt32.toNat_ofNat_of_lt' (Nat.lt_trans small (by decide))
  rw [Instant.toInt_micros _ (by rw [seconds]; omega) (by rw [seconds]; omega), seconds, nanos,
    Spelling.nanosSinceEpoch, Int.mul_comm 86400]

end ProcWire.Rfc3339

namespace ProcWire.Parameter
open Numeral Rfc3339

/-- A date with a time is no integer. -/
theorem signed?_text (spelling : Spelling) : signed? 64 spelling.text = none := by
  rw [signed?_eq_none_iff]
  rintro ⟨z, denotes, -⟩
  have letter : 'T' ∈ spelling.text := by simp [Spelling.text]
  rcases denotes.mem letter with plus | minus | digit
  · cases plus
  · cases minus
  · cases digit

theorem parse_timestamp (spelling : Spelling) : parse (Scalar.timestamp.parameter spelling.text) =
    match instant? spelling.text with
    | some instant => .ok (.timestamp instant.micros)
    | none => .error (fault spelling.text .notTimestamp) := by
  rw [parse_scalar, Scalar.read, Scalar.timestamp?, signed?_text]
  cases instant? spelling.text <;> rfl

theorem parse_timestamp_of_isValid {spelling : Spelling} {days : Int}
    (valid : spelling.date.isValid = true) (counted : Date.epoch.DaysTo spelling.date days) :
    ∃ micros : Int64, parse (Scalar.timestamp.parameter spelling.text) = .ok (.timestamp micros) ∧
      micros.toInt = (spelling.nanosSinceEpoch days + 500) / 1000 := by
  obtain rfl := (Date.daysTo_epoch_iff valid).mp counted
  obtain ⟨instant, read, rounded⟩ := micros_text spelling valid
  refine ⟨instant.micros, ?_, rounded⟩
  rw [parse_timestamp, read]

/-- **A timestamp is the instant that its text denotes, to the nearest microsecond**, and a text
with a date that the calendar has not is refused.  Texts of one instant are one timestamp, whatever
their offsets. -/
theorem parse_timestamp_text :
    (∀ spelling : Spelling, spelling.date.isValid = true →
      (∃ days, Date.epoch.DaysTo spelling.date days) ∧
      ∀ days, Date.epoch.DaysTo spelling.date days → ∃ micros : Int64,
        parse ("timestamp:".toList ++ spelling.text) = .ok (.timestamp micros) ∧
          micros.toInt = (spelling.nanosSinceEpoch days + 500) / 1000) ∧
    (∀ spelling : Spelling, spelling.date.isValid = false →
      parse ("timestamp:".toList ++ spelling.text) =
        .error (.invalidValue (.badParameter spelling.text .notTimestamp))) ∧
    (∀ (spelling other : Spelling) (days others : Int), spelling.date.isValid = true →
      other.date.isValid = true → Date.epoch.DaysTo spelling.date days →
      Date.epoch.DaysTo other.date others →
      spelling.nanosSinceEpoch days = other.nanosSinceEpoch others →
        parse ("timestamp:".toList ++ spelling.text) =
          parse ("timestamp:".toList ++ other.text)) := by
  refine ⟨fun spelling valid => ⟨⟨_, (Date.daysTo_epoch_iff valid).mpr rfl⟩, fun days counted =>
    parse_timestamp_of_isValid valid counted⟩, fun spelling invalid => ?_,
    fun spelling other days others valid valid' counted counted' same => ?_⟩
  · have none := instant?_text spelling
    rw [if_neg (by simp [invalid])] at none
    have refused := parse_timestamp spelling
    rw [none] at refused
    exact refused
  · obtain ⟨micros, read, rounded⟩ := parse_timestamp_of_isValid valid counted
    obtain ⟨micros', read', rounded'⟩ := parse_timestamp_of_isValid valid' counted'
    have equal : micros = micros' := by
      rw [← Int64.toInt_inj, rounded, rounded', same]
    exact read.trans (equal ▸ read'.symm)

/-- On a clock half an hour ahead, the last microsecond of a leap day is read on the day after, and
rounding takes it there.  A century is no leap year unless four hundred divides it.  A clock behind
shows the first instant of a year in the year before. -/
theorem parse_timestamp_text_across_days :
    parse ("timestamp:".toList ++ "2000-03-01T00:29:59.9999996+00:30".toList) =
      .ok (.timestamp 951868800000000) ∧
    parse ("timestamp:".toList ++ "1900-02-29T00:00:00Z".toList) =
      .error (.invalidValue (.badParameter "1900-02-29T00:00:00Z".toList .notTimestamp)) ∧
    parse ("timestamp:".toList ++ "1969-12-31T23:30:00-00:30".toList) =
      parse ("timestamp:".toList ++ "1970-01-01T00:00:00Z".toList) := by
  obtain ⟨read, refused, alike⟩ := parse_timestamp_text
  have counted {date : Date} {days : Int} (valid : date.isValid = true)
      (number : date.daysSinceEpoch = days) : Date.epoch.DaysTo date days :=
    (Date.daysTo_epoch_iff valid).mpr number.symm
  refine ⟨?leap_day, ?century, ?new_year⟩
  case leap_day =>
    have text : Spelling.text ⟨2000, 3, 1, 0, 29, 59, [9, 9, 9, 9, 9, 9, 6], by decide,
        .east 0 30⟩ = "2000-03-01T00:29:59.9999996+00:30".toList := by decide
    obtain ⟨micros, parsed, rounded⟩ :=
      (read ⟨2000, 3, 1, 0, 29, 59, [9, 9, 9, 9, 9, 9, 6], by decide, .east 0 30⟩
        (by decide)).2 11017 (counted (by decide) (by decide))
    have midnight : micros = 951868800000000 :=
      Int64.toInt_inj.mp (rounded.trans (by decide))
    rw [text, midnight] at parsed
    exact parsed
  case century =>
    have text : Spelling.text ⟨1900, 2, 29, 0, 0, 0, [], by decide, .universal⟩ =
        "1900-02-29T00:00:00Z".toList := by decide
    rw [← text]
    exact refused _ (by decide)
  case new_year =>
    have behind : Spelling.text ⟨1969, 12, 31, 23, 30, 0, [], by decide, .west 0 30⟩ =
        "1969-12-31T23:30:00-00:30".toList := by decide
    have universal : Spelling.text ⟨1970, 1, 1, 0, 0, 0, [], by decide, .universal⟩ =
        "1970-01-01T00:00:00Z".toList := by decide
    rw [← behind, ← universal]
    exact alike _ _ (-1) 0 (by decide) (by decide) (counted (by decide) (by decide))
      (counted (by decide) (by decide)) (by decide)

end ProcWire.Parameter
