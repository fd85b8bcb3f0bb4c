import Mathlib.Data.List.GetD
import Mathlib.Logic.Function.Iterate
import ProcWire.Calendar.Date

/-! # Day by day

`Date.next` is the day after a date: the next of the month, or the first of the next month, or the
first of the next year.  `Date.DaysTo` counts how often it has to be taken to get from one date to
another, forwards or back.  This needs no formula, and `daysTo_epoch_iff` says that the formula by
which dates are reckoned counts the same.

Two facts carry this.  The day after a date has the next ordinal (`ordinal_next`), and every
date of the calendar but the first of all is the day after another (`exists_next`), so all
are reached from that one.
-/
namespace ProcWire.Date

variable {date a b : Date} {year month day : Nat} {days : Int}

/-- The number of days of a month. -/
def monthLength (year month : Nat) : Nat := (monthLengths year).getD (month - 1) 0

/-- The day after a date. -/
def next (date : Date) : Date :=
  if date.day < monthLength date.year date.month then ⟨date.year, date.month, date.day + 1⟩
  else if date.month < 12 then ⟨date.year, date.month + 1, 1⟩
  else ⟨date.year + 1, 1, 1⟩

/-- The first date of the calendar. -/
def first : Date := ⟨0, 1, 1⟩

/-- 1970-01-01. -/
def epoch : Date := ⟨1970, 1, 1⟩

/-- One date is so many days after another: as often as that, the day after the one has to be taken
to get to the other.  If the number is negative, the other comes first. -/
def DaysTo (a b : Date) (days : Int) : Prop :=
  ∃ n : Nat, (next^[n] a = b ∧ days = n) ∨ (next^[n] b = a ∧ days = -n)

/-- The days from the first date to a date. -/
def ordinal (date : Date) : Nat :=
  daysBeforeYear date.year + daysBeforeMonth date.year date.month + (date.day - 1)

theorem daysSinceEpoch_eq (date : Date) :
    date.daysSinceEpoch = (date.ordinal : Int) - (epoch.ordinal : Int) := rfl

theorem isValid_iff : (Date.mk year month day).isValid = true ↔
    1 ≤ month ∧ month ≤ 12 ∧ 1 ≤ day ∧ day ≤ monthLength year month := by
  simp only [isValid, monthLength, Bool.and_eq_true, decide_eq_true_eq, and_assoc]

/-! ## Months -/

theorem length_monthLengths (year : Nat) : (monthLengths year).length = 12 := rfl

theorem one_le_monthLength (year : Nat) (low : 1 ≤ month) (high : month ≤ 12) :
    1 ≤ monthLength year month := by
  have all : ∀ length ∈ monthLengths year, 1 ≤ length := by
    rw [monthLengths]
    split <;> decide
  have inside : month - 1 < (monthLengths year).length := by
    rw [length_monthLengths]
    omega
  rw [monthLength, List.getD_eq_getElem _ _ inside]
  exact all _ (List.getElem_mem inside)

/-- A month begins where the one before it ends. -/
theorem daysBeforeMonth_succ (year : Nat) (low : 1 ≤ month) (high : month ≤ 12) :
    daysBeforeMonth year (month + 1) = daysBeforeMonth year month + monthLength year month := by
  obtain ⟨index, rfl⟩ := Nat.exists_eq_add_of_le' low
  have inside : index < (monthLengths year).length := by
    rw [length_monthLengths]
    omega
  simp only [daysBeforeMonth, monthLength, Nat.add_sub_cancel]
  rw [List.take_succ_eq_append_getElem inside, List.foldl_append,
    List.getD_eq_getElem _ _ inside]
  rfl

theorem daysBeforeMonth_one (year : Nat) : daysBeforeMonth year 1 = 0 := rfl

theorem daysBeforeMonth_le (high : month ≤ 12) : daysBeforeMonth year month ≤ 366 := by
  have all : ∀ index : Fin 12, ((monthLengths year).take index).foldl (· + ·) 0 ≤ 366 := by
    rw [monthLengths]
    split <;> decide
  exact all ⟨month - 1, by omega⟩

/-! ## The day after -/

theorem isValid_next (valid : date.isValid = true) : date.next.isValid = true := by
  obtain ⟨low, high, first_day, last_day⟩ := isValid_iff.mp valid
  rw [next]
  split
  · rename_i more
    exact isValid_iff.mpr ⟨low, high, Nat.le_add_left 1 _, more⟩
  · split
    · rename_i not_last
      have length := one_le_monthLength date.year (Nat.le_add_left 1 date.month) not_last
      exact isValid_iff.mpr ⟨Nat.le_add_left 1 _, not_last, Nat.le_refl 1, length⟩
    · have length := one_le_monthLength (date.year + 1) (Nat.le_refl 1) (by decide)
      exact isValid_iff.mpr ⟨Nat.le_refl 1, by decide, Nat.le_refl 1, length⟩

theorem ordinal_next (valid : date.isValid = true) : date.next.ordinal = date.ordinal + 1 := by
  obtain ⟨year, month, day⟩ := date
  obtain ⟨low, high, first_day, last_day⟩ := isValid_iff.mp valid
  have end_of_month := daysBeforeMonth_succ year low high
  rw [next]
  dsimp only
  split
  · simp only [ordinal]
    omega
  · split
    · simp only [ordinal, end_of_month]
      omega
    · obtain rfl : month = 12 := by omega
      simp only [ordinal, daysBeforeYear_succ, daysBeforeMonth_one, end_of_month]
      omega

theorem ordinal_iterate (valid : date.isValid = true) (n : Nat) :
    (next^[n] date).isValid = true ∧ (next^[n] date).ordinal = date.ordinal + n := by
  induction n with
  | zero => exact ⟨valid, rfl⟩
  | succ n ih =>
    rw [Function.iterate_succ_apply']
    exact ⟨isValid_next ih.1, by rw [ordinal_next ih.1, ih.2, Nat.add_assoc]⟩

/-- Every date but the first of all is the day after another. -/
theorem exists_next (valid : date.isValid = true) (not_first : date ≠ first) :
    ∃ before : Date, before.isValid = true ∧ before.next = date := by
  obtain ⟨year, month, day⟩ := date
  obtain ⟨low, high, first_day, last_day⟩ := isValid_iff.mp valid
  by_cases within : 1 < day
  · refine ⟨⟨year, month, day - 1⟩, isValid_iff.mpr ⟨low, high, ?_, ?_⟩, ?_⟩
    · exact Nat.le_sub_one_of_lt within
    · exact Nat.le_trans (Nat.sub_le day 1) last_day
    · have more : day - 1 < monthLength year month := by omega
      rw [next, if_pos more, Nat.sub_add_cancel first_day]
  · obtain rfl : day = 1 := by omega
    -- The first of a month is the day after the last of the month before, and that of January
    -- the day after the last of the year before.
    by_cases later : 1 < month
    · have length : 1 ≤ monthLength year (month - 1) :=
        one_le_monthLength year (by omega) (by omega)
      refine ⟨⟨year, month - 1, monthLength year (month - 1)⟩,
        isValid_iff.mpr ⟨Nat.le_sub_one_of_lt later, Nat.le_trans (Nat.sub_le month 1) high, length,
          Nat.le_refl _⟩, ?_⟩
      have not_last : month - 1 < 12 := by omega
      rw [next, if_neg (Nat.lt_irrefl _), if_pos not_last, Nat.sub_add_cancel low]
    · obtain rfl : month = 1 := by omega
      have positive : 1 ≤ year := Nat.one_le_iff_ne_zero.mpr (by rintro rfl; exact not_first rfl)
      have december : 31 ≤ monthLength (year - 1) 12 := Nat.le_refl 31
      refine ⟨⟨year - 1, 12, 31⟩,
        isValid_iff.mpr ⟨by decide, Nat.le_refl 12, by decide, december⟩, ?_⟩
      have end_of_month : ¬ 31 < monthLength (year - 1) 12 := Nat.lt_irrefl 31
      rw [next, if_neg end_of_month, if_neg (Nat.lt_irrefl 12), Nat.sub_add_cancel positive]

/-- All dates of the calendar are reached from the first. -/
theorem iterate_ordinal_first (valid : date.isValid = true) : next^[date.ordinal] first = date := by
  induction days : date.ordinal generalizing date with
  | zero =>
    by_cases is_first : date = first
    · exact is_first.symm
    · obtain ⟨before, valid', rfl⟩ := exists_next valid is_first
      rw [ordinal_next valid'] at days
      cases days
  | succ n ih =>
    have not_first : date ≠ first := by
      rintro rfl
      cases days
    obtain ⟨before, valid', rfl⟩ := exists_next valid not_first
    rw [ordinal_next valid'] at days
    rw [Function.iterate_succ_apply', ih valid' (Nat.succ.inj days)]

/-! ## Days from one date to another -/

theorem iterate_of_le (hb : b.isValid = true) (ha : a.isValid = true)
    (le : a.ordinal ≤ b.ordinal) : next^[b.ordinal - a.ordinal] a = b := by
  -- Both are reached from the first date, and the earlier of them on the way to the later.
  calc next^[b.ordinal - a.ordinal] a
      = next^[b.ordinal - a.ordinal] (next^[a.ordinal] first) := by rw [iterate_ordinal_first ha]
    _ = next^[b.ordinal] first := by
        rw [← Function.iterate_add_apply, Nat.sub_add_cancel le]
    _ = b := iterate_ordinal_first hb

/-- **The days from one date to another are the difference of their ordinals.** -/
theorem daysTo_iff (ha : a.isValid = true) (hb : b.isValid = true) :
    DaysTo a b days ↔ days = (b.ordinal : Int) - (a.ordinal : Int) := by
  constructor
  · rintro ⟨n, ⟨rfl, rfl⟩ | ⟨rfl, rfl⟩⟩
    · rw [(ordinal_iterate ha n).2]
      omega
    · rw [(ordinal_iterate hb n).2]
      omega
  · rintro rfl
    rcases Nat.le_total a.ordinal b.ordinal with le | le
    · exact ⟨b.ordinal - a.ordinal, Or.inl ⟨iterate_of_le hb ha le, by omega⟩⟩
    · exact ⟨a.ordinal - b.ordinal, Or.inr ⟨iterate_of_le ha hb le, by omega⟩⟩

theorem daysTo_epoch_iff (valid : date.isValid = true) :
    epoch.DaysTo date days ↔ days = date.daysSinceEpoch := by
  rw [daysTo_iff rfl valid, daysSinceEpoch_eq]

end ProcWire.Date
