import Mathlib.Tactic.IntervalCases
import Mathlib.Tactic.Linarith

/-!
# Proleptic Gregorian dates and their ordinals

A date carries the proof that its month and day exist in its year. The ordinal of a date
counts the days from the first of January, which is day one. Within one year the ordinal
determines the month and the day, because the days before a month include the whole of
every earlier month.
-/

namespace Calendar

/-- Every fourth year is a leap year, except the centuries not divisible by 400. -/
def isLeap (year : Nat) : Bool := year % 4 == 0 && (year % 100 != 0 || year % 400 == 0)

/-- Days of a month of a year; numbers that are no month have no days. -/
def daysInMonth (year : Nat) : Nat → Nat
  | 1 => 31
  | 2 => if isLeap year then 29 else 28
  | 3 => 31
  | 4 => 30
  | 5 => 31
  | 6 => 30
  | 7 => 31
  | 8 => 31
  | 9 => 30
  | 10 => 31
  | 11 => 30
  | 12 => 31
  | _ => 0

/-- A date of the proleptic Gregorian calendar. -/
structure Date where
  /-- Year number. -/
  year : Nat
  /-- Month, counted from one. -/
  month : Nat
  /-- Day of the month, counted from one. -/
  day : Nat
  /-- The month exists. -/
  month_valid : 1 ≤ month ∧ month ≤ 12
  /-- The day exists in its month. -/
  day_valid : 1 ≤ day ∧ day ≤ daysInMonth year month
  deriving DecidableEq

/-- Days of the year in the months before the given one. -/
def daysBefore (year : Nat) : Nat → Nat
  | 0 => 0
  | month + 1 => daysBefore year month + daysInMonth year month

namespace Date

/-- Position of the date in its year; the first of January is day one. -/
def dayOfYear (date : Date) : Nat := daysBefore date.year date.month + date.day

end Date

/-- Later months have at least as many days before them. -/
theorem daysBefore_mono (year : Nat) : Monotone (daysBefore year) :=
  monotone_nat_of_le_succ fun month => Nat.le_add_right _ (daysInMonth year month)

/-- A year has 365 days, or 366 when it is a leap year. -/
theorem daysBefore_year (year : Nat) :
    daysBefore year 13 = if isLeap year then 366 else 365 := by
  simp only [daysBefore, daysInMonth]
  split <;> rfl

namespace Date

/-- Ordinals start at one. -/
theorem one_le_dayOfYear (date : Date) : 1 ≤ date.dayOfYear :=
  le_trans date.day_valid.1 (Nat.le_add_left _ _)

/-- The ordinal stays below the days before the next month, plus one. -/
theorem dayOfYear_le_daysBefore (date : Date) :
    date.dayOfYear ≤ daysBefore date.year (date.month + 1) :=
  Nat.add_le_add_left date.day_valid.2 _

/-- No ordinal is past 366. -/
theorem dayOfYear_le (date : Date) : date.dayOfYear ≤ 366 := by
  have inside := date.dayOfYear_le_daysBefore
  have year : daysBefore date.year (date.month + 1) ≤ daysBefore date.year 13 :=
    daysBefore_mono date.year (Nat.succ_le_succ date.month_valid.2)
  rw [daysBefore_year] at year
  split at year <;> omega

/-- A date in an earlier month has a smaller ordinal. -/
theorem dayOfYear_lt_of_month_lt {first second : Date} (year : first.year = second.year)
    (month : first.month < second.month) : first.dayOfYear < second.dayOfYear := by
  have inside := first.dayOfYear_le_daysBefore
  have later := daysBefore_mono first.year (Nat.succ_le_of_lt month)
  have counted := second.day_valid.1
  simp only [dayOfYear, ← year] at inside ⊢
  simp only [Nat.succ_eq_add_one] at later
  omega

/-- The year and the ordinal identify a date. -/
theorem eq_of_dayOfYear {first second : Date} (year : first.year = second.year)
    (ordinal : first.dayOfYear = second.dayOfYear) : first = second := by
  have month : first.month = second.month := by
    rcases Nat.lt_trichotomy first.month second.month with earlier | same | later
    · exact absurd ordinal (dayOfYear_lt_of_month_lt year earlier).ne
    · exact same
    · exact absurd ordinal (dayOfYear_lt_of_month_lt year.symm later).ne'
  have day : first.day = second.day := by
    simp only [dayOfYear, year, month] at ordinal
    omega
  cases first
  cases second
  simp_all

end Date

end Calendar
