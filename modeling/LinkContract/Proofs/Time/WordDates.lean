import LinkContract.Time.Instant
import LinkContract.Proofs.Time.CivilDate

/-!
# Dates in words

The date of a day number step by step, every step with the range of the words that a machine
has for it: 64 bits with a sign for the calculation, where a quotient is cut towards zero, and
32 bits without a sign for the month and the day. A step that leaves its range has no result.
For the days of every instant that is counted in 64 bits all steps stay in their ranges, and the
result is the date.
-/
namespace LinkContract.Time

/-- The value, if a signed word of 64 bits holds it. -/
def word? (value : Int) : Option Int :=
  if -9223372036854775808 ≤ value ∧ value ≤ 9223372036854775807 then some value else none

/-- The value, if an unsigned word of 32 bits holds it. -/
def shortWord? (value : Int) : Option Nat :=
  if 0 ≤ value ∧ value ≤ 4294967295 then some value.toNat else none

def yearOfEra? (dayOfEra : Int) : Option Int := do
  let cycles ← word? (dayOfEra.tdiv 1460)
  let centuries ← word? (dayOfEra.tdiv 36524)
  let eras ← word? (dayOfEra.tdiv 146096)
  let days ← word? (dayOfEra - cycles)
  let days ← word? (days + centuries)
  let days ← word? (days - eras)
  word? (days.tdiv 365)

def yearStart? (year : Int) : Option Int := do
  let days ← word? (365 * year)
  let cycles ← word? (year.tdiv 4)
  let centuries ← word? (year.tdiv 100)
  let days ← word? (days + cycles)
  word? (days - centuries)

/-- The quotient `(factor * number + 2) / divisor`, which leads from days to months and back. -/
def spread? (factor divisor number : Int) : Option Int := do
  let product ← word? (factor * number)
  let sum ← word? (product + 2)
  word? (sum.tdiv divisor)

namespace Date

/-- The date of a day of a year that begins in March, the year being given within its era. -/
def ofMarchYear? (eras year dayOfYear : Int) : Option Date := do
  let monthFromMarch ← spread? 5 153 dayOfYear
  let start ← spread? 153 5 monthFromMarch
  let daysBefore ← word? (dayOfYear - start)
  let day ← word? (daysBefore + 1)
  let day ← shortWord? day
  let month ← word? (if monthFromMarch < 10 then monthFromMarch + 3 else monthFromMarch - 9)
  let month ← shortWord? month
  let yearsBefore ← word? (eras * 400)
  let year ← word? (year + yearsBefore)
  let year ← word? (year + (if month ≤ 2 then 1 else 0))
  return ⟨year, month, day⟩

def ofDayNumber? (dayNumber : Int) : Option Date := do
  let shifted ← word? (dayNumber + epochOffset)
  let eras ← word? (shifted / daysPerEra)
  let dayOfEra ← word? (shifted % daysPerEra)
  let year ← yearOfEra? dayOfEra
  let start ← yearStart? year
  let dayOfYear ← word? (dayOfEra - start)
  ofMarchYear? eras year dayOfYear

end Date

/-- The date of an instant, whose day is counted in a word without a sign before it is taken for
one with a sign. -/
def Instant.date? (instant : Instant) : Option Date :=
  (word? ((instant.seconds / secondsPerDay : Nat) : Int)).bind Date.ofDayNumber?

/-! ### No step leaves its range -/

theorem word?_of_bounds (value : Int) (low : -9223372036854775808 ≤ value)
    (high : value ≤ 9223372036854775807) : word? value = some value :=
  if_pos ⟨low, high⟩

theorem shortWord?_of_bounds (value : Int) (low : 0 ≤ value) (high : value ≤ 4294967295) :
    shortWord? value = some value.toNat :=
  if_pos ⟨low, high⟩

theorem yearOfEra?_eq (dayOfEra : Int) (low : 0 ≤ dayOfEra) (high : dayOfEra < daysPerEra) :
    yearOfEra? dayOfEra = some (yearOfEra dayOfEra) := by
  have bound : dayOfEra < 146097 := high
  simp (disch := omega) only [yearOfEra?, Int.tdiv_eq_ediv_of_nonneg, word?_of_bounds,
    Option.bind_eq_bind, Option.bind_some, yearOfEra]

theorem yearStart?_eq (year : Int) (low : 0 ≤ year) (high : year < 400) :
    yearStart? year = some (yearStart year) := by
  simp (disch := omega) only [yearStart?, Int.tdiv_eq_ediv_of_nonneg, word?_of_bounds,
    Option.bind_eq_bind, Option.bind_some, yearStart]

theorem spread?_eq (factor divisor number : Int) (low : 0 ≤ factor * number)
    (high : factor * number ≤ 2000) (positive : 0 < divisor) :
    spread? factor divisor number = some ((factor * number + 2) / divisor) := by
  have small := Int.ediv_le_self (a := factor * number + 2) divisor (by omega)
  have nonneg := Int.ediv_nonneg (a := factor * number + 2) (b := divisor) (by omega) (by omega)
  simp (disch := omega) only [spread?, Int.tdiv_eq_ediv_of_nonneg, word?_of_bounds,
    Option.bind_eq_bind, Option.bind_some]

namespace Date

theorem ofMarchYear?_eq (eras year dayOfYear : Int) (past : 0 ≤ eras ∧ eras ≤ 2000000000)
    (inEra : 0 ≤ year ∧ year < 400) (inYear : 0 ≤ dayOfYear ∧ dayOfYear ≤ 365) :
    ofMarchYear? eras year dayOfYear = some (ofMarchYear (year + eras * 400) dayOfYear) := by
  have found : spread? 5 153 dayOfYear = some ((5 * dayOfYear + 2) / 153) :=
    spread?_eq 5 153 dayOfYear (by omega) (by omega) (by decide)
  -- from here on the quotients count only by their bounds, each in the order it is computed
  generalize shape : (5 * dayOfYear + 2) / 153 = monthFromMarch at found
  have months : 0 ≤ monthFromMarch ∧ monthFromMarch ≤ 11 := by omega
  have begun : spread? 153 5 monthFromMarch = some ((153 * monthFromMarch + 2) / 5) :=
    spread?_eq 153 5 monthFromMarch (by omega) (by omega) (by decide)
  generalize place : (153 * monthFromMarch + 2) / 5 = start at begun
  have daysBefore : word? (dayOfYear - start) = some (dayOfYear - start) :=
    word?_of_bounds _ (by omega) (by omega)
  have day : word? (dayOfYear - start + 1) = some (dayOfYear - start + 1) :=
    word?_of_bounds _ (by omega) (by omega)
  have shortDay : shortWord? (dayOfYear - start + 1) = some (dayOfYear - start + 1).toNat :=
    shortWord?_of_bounds _ (by omega) (by omega)
  generalize turn : (if monthFromMarch < 10 then monthFromMarch + 3 else monthFromMarch - 9)
    = month
  have bounds : 0 ≤ month ∧ month ≤ 12 := by split at turn <;> omega
  have monthWord : word? month = some month := word?_of_bounds _ (by omega) (by omega)
  have shortMonth : shortWord? month = some month.toNat :=
    shortWord?_of_bounds _ (by omega) (by omega)
  have yearsBefore : word? (eras * 400) = some (eras * 400) :=
    word?_of_bounds _ (by omega) (by omega)
  have yearWord : word? (year + eras * 400) = some (year + eras * 400) :=
    word?_of_bounds _ (by omega) (by omega)
  -- January and February belong to the year that follows the one begun in March
  have next : word? (year + eras * 400 + (if month.toNat ≤ 2 then 1 else 0))
      = some (year + eras * 400 + (if month.toNat ≤ 2 then 1 else 0)) := by
    apply word?_of_bounds <;> split <;> omega
  have early : month.toNat ≤ 2 ↔ month ≤ 2 := by omega
  simp only [ofMarchYear?, Option.bind_eq_bind, Option.bind_some, found, begun, daysBefore, day,
    shortDay, turn, monthWord, shortMonth, yearsBefore, yearWord, next]
  simp only [ofMarchYear, shape, place, turn, early]
  rfl

/-- Up to the last day of an instant in 64 bits all steps stay in the ranges of their words. -/
theorem ofDayNumber?_eq (dayNumber : Int) (low : 0 ≤ dayNumber)
    (high : dayNumber ≤ 213503982334601) :
    ofDayNumber? dayNumber = some (ofDayNumber dayNumber) := by
  have offset : epochOffset = 719468 := rfl
  have eraLength : daysPerEra = 146097 := rfl
  have shifted : word? (dayNumber + epochOffset) = some (dayNumber + epochOffset) :=
    word?_of_bounds _ (by omega) (by omega)
  have first := Int.emod_nonneg (dayNumber + epochOffset) (b := daysPerEra) (by decide)
  have last := Int.emod_lt_of_pos (dayNumber + epochOffset) (b := daysPerEra) (by decide)
  have whole := Int.mul_ediv_add_emod (dayNumber + epochOffset) daysPerEra
  simp only [ofDayNumber?, ofDayNumber_eq, Option.bind_eq_bind, shifted, Option.bind_some]
  -- the era and the day in it only matter by their bounds
  generalize (dayNumber + epochOffset) % daysPerEra = dayOfEra at *
  generalize (dayNumber + epochOffset) / daysPerEra = eras at *
  rw [eraLength] at whole last
  obtain ⟨yearLow, yearHigh, dayLow, dayHigh⟩ := yearOfEra_spec dayOfEra first last
  have leap := leapDays_le_one (yearOfEra dayOfEra + 1)
  have erasWord : word? eras = some eras := word?_of_bounds _ (by omega) (by omega)
  have dayWord : word? dayOfEra = some dayOfEra := word?_of_bounds _ (by omega) (by omega)
  have inYear : word? (dayOfEra - yearStart (yearOfEra dayOfEra))
      = some (dayOfEra - yearStart (yearOfEra dayOfEra)) :=
    word?_of_bounds _ (by omega) (by omega)
  rw [erasWord, Option.bind_some, dayWord, Option.bind_some, yearOfEra?_eq dayOfEra first last,
    Option.bind_some, yearStart?_eq _ yearLow yearHigh, Option.bind_some, inYear,
    Option.bind_some]
  exact ofMarchYear?_eq eras _ _ ⟨by omega, by omega⟩ ⟨yearLow, yearHigh⟩ ⟨by omega, by omega⟩

end Date

theorem Instant.date?_eq (instant : Instant) (inRange : instant.seconds < UInt64.size) :
    instant.date? = some instant.date := by
  have bound : instant.seconds < 18446744073709551616 := inRange
  have days : instant.seconds / secondsPerDay ≤ 213503982334601 := by
    rw [secondsPerDay]
    omega
  rw [Instant.date?, Instant.date]
  generalize instant.seconds / secondsPerDay = day at days
  have signed : word? (day : Int) = some (day : Int) := word?_of_bounds _ (by omega) (by omega)
  rw [signed, Option.bind_some]
  exact Date.ofDayNumber?_eq _ (by omega) (by omega)

end LinkContract.Time
