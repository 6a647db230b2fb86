import LinkContract.Time.Instant
import Mathlib.Tactic.IntervalCases

/-!
# Counting days

The rules of the Gregorian calendar, and the number of a day from 1970 on as these rules give
it: the days of the whole years that have passed, of the whole months of the year, and of the
month. A later date has a greater number, because a month or a year that has begun is less than
a whole one.
-/
namespace LinkContract.Time

/-- Every fourth year is a leap year, but of the centuries only every fourth. -/
def IsLeapYear (year : Int) : Prop := 4 ∣ year ∧ (100 ∣ year → 400 ∣ year)

instance (year : Int) : Decidable (IsLeapYear year) :=
  inferInstanceAs (Decidable (4 ∣ year ∧ (100 ∣ year → 400 ∣ year)))

/-- The number of leap days in a year. -/
def leapDays (year : Int) : Nat := if IsLeapYear year then 1 else 0

theorem leapDays_cases (year : Int) :
    IsLeapYear year ∧ leapDays year = 1 ∨ ¬ IsLeapYear year ∧ leapDays year = 0 := by
  by_cases leap : IsLeapYear year
  · exact .inl ⟨leap, if_pos leap⟩
  · exact .inr ⟨leap, if_neg leap⟩

theorem leapDays_le_one (year : Int) : leapDays year ≤ 1 := by
  rw [leapDays]
  split <;> decide

def monthLength (year : Int) (month : Nat) : Nat :=
  if month = 2 then 28 + leapDays year
  else if month = 4 ∨ month = 6 ∨ month = 9 ∨ month = 11 then 30
  else 31

theorem monthLength_le (year : Int) (month : Nat) : monthLength year month ≤ 31 := by
  have leap := leapDays_le_one year
  rw [monthLength]
  split
  · omega
  · split <;> decide

/-- The length of the first so many of a row of periods. -/
def total (length : Nat → Nat) (count : Nat) : Nat := ((List.range count).map length).sum

/-- The days of the months before a month of the same year. -/
def daysBeforeMonth (year : Int) (month : Nat) : Nat :=
  total (fun passed => monthLength year (passed + 1)) (month - 1)

def yearLength (year : Int) : Nat := daysBeforeMonth year 13

/-- The days of the years from 1970 on that are before a year. -/
def daysBeforeYear (year : Int) : Nat :=
  total (fun passed => yearLength (1970 + passed)) (year - 1970).toNat

namespace Date

/-- The month and the day are in the calendar. -/
structure IsValid (date : Date) : Prop where
  month : 1 ≤ date.month ∧ date.month ≤ 12
  day : 1 ≤ date.day ∧ date.day ≤ monthLength date.year date.month

/-- The number of the day, 1970-01-01 having the number 0. -/
def dayCount (date : Date) : Nat :=
  daysBeforeYear date.year + daysBeforeMonth date.year date.month + (date.day - 1)

/-- The order of dates by year, month and day. -/
def Before (first second : Date) : Prop :=
  first.year < second.year ∨ first.year = second.year
    ∧ (first.month < second.month ∨ first.month = second.month ∧ first.day < second.day)

end Date

/-! ### Rows of periods -/

theorem total_succ (length : Nat → Nat) (count : Nat) :
    total length (count + 1) = total length count + length count := by
  simp [total, List.range_succ]

theorem total_mono (length : Nat → Nat) (first second : Nat) (order : first ≤ second) :
    total length first ≤ total length second := by
  induction order with
  | refl => exact Nat.le_refl _
  | step _ ih => exact Nat.le_trans ih (by simp [total_succ])

/-- A part of one period ends before any later period begins. -/
theorem total_add_lt (length : Nat → Nat) (first second part : Nat) (before : first < second)
    (inside : part < length first) : total length first + part < total length second := by
  have whole := total_mono length (first + 1) second before
  rw [total_succ] at whole
  omega

/-! ### Months and years -/

theorem daysBeforeMonth_add_lt (year : Int) (first second part : Nat) (begun : 1 ≤ first)
    (before : first < second) (inside : part < monthLength year first) :
    daysBeforeMonth year first + part < daysBeforeMonth year second := by
  apply total_add_lt
  · omega
  · rwa [Nat.sub_add_cancel begun]

theorem daysBeforeYear_add_lt (first second : Int) (part : Nat) (since : 1970 ≤ first)
    (before : first < second) (inside : part < yearLength first) :
    daysBeforeYear first + part < daysBeforeYear second := by
  have year : (1970 + ((first - 1970).toNat : Nat) : Int) = first := by omega
  apply total_add_lt
  · omega
  · rwa [year]

theorem daysBeforeYear_succ (year : Int) (since : 1970 ≤ year) :
    daysBeforeYear (year + 1) = daysBeforeYear year + yearLength year := by
  have passed : (year + 1 - 1970).toNat = (year - 1970).toNat + 1 := by omega
  have same : (1970 + ((year - 1970).toNat : Nat) : Int) = year := by omega
  rw [daysBeforeYear, passed, total_succ, same, daysBeforeYear]

theorem yearLength_eq (year : Int) : yearLength year = 365 + leapDays year := by
  simp [yearLength, daysBeforeMonth, total, List.range_succ, monthLength]
  omega

namespace Date

variable {date first second : Date}

theorem IsValid.day_inside (valid : date.IsValid) :
    date.day - 1 < monthLength date.year date.month := by
  have day := valid.day
  omega

theorem IsValid.inside_year (valid : date.IsValid) :
    daysBeforeMonth date.year date.month + (date.day - 1) < yearLength date.year :=
  daysBeforeMonth_add_lt date.year date.month 13 _ valid.month.1
    (Nat.lt_succ_of_le valid.month.2) valid.day_inside

theorem dayCount_lt_of_before (valid : first.IsValid) (since : 1970 ≤ first.year)
    (before : first.Before second) : first.dayCount < second.dayCount := by
  rw [dayCount, dayCount]
  rcases before with year | ⟨sameYear, month | ⟨sameMonth, day⟩⟩
  · -- the rest of an earlier year ends before the later year begins
    have whole := daysBeforeYear_add_lt first.year second.year _ since year valid.inside_year
    omega
  · -- and so does the rest of a month within one year
    have whole := daysBeforeMonth_add_lt first.year first.month second.month _ valid.month.1 month
      valid.day_inside
    rw [← sameYear]
    omega
  · have begun := valid.day.1
    rw [sameYear, sameMonth]
    omega

/-- The number of a day gives the order of dates. -/
theorem before_of_dayCount_lt (valid : second.IsValid) (since : 1970 ≤ second.year)
    (less : first.dayCount < second.dayCount) : first.Before second := by
  by_contra notBefore
  -- the dates would be equal or the other way round, and their numbers too
  have order : first = second ∨ second.Before first := by
    obtain ⟨firstYear, firstMonth, firstDay⟩ := first
    obtain ⟨secondYear, secondMonth, secondDay⟩ := second
    simp only [Before, Date.mk.injEq] at notBefore ⊢
    omega
  rcases order with rfl | after
  · exact Nat.lt_irrefl _ less
  · exact Nat.lt_asymm less (dayCount_lt_of_before valid since after)

end Date

end LinkContract.Time
