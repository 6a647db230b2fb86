import LinkContract.Proofs.Time.DayCount

/-!
# Dates of day numbers

A day of an era belongs to a century, in it to a cycle of four years, in that to a year; all
of them are of one length except that the last cycle of a century is a day short and the last
century of an era a day long. Counting them off gives the year that the divisions compute, and
the day in a year that begins in March. Its months follow the same pattern whether or not the
year ends in a leap day, so the month and the day are found without looking at the year.

`isValid_ofDayNumber` and `dayCount_ofDayNumber` say that the date of a day number is a date of
the calendar and the one with this number.
-/
namespace LinkContract.Time

/-- The days from the first of March of the year 0 to that of another year. -/
def marchStart (year : Int) : Int := 365 * year + year / 4 - year / 100 + year / 400

/-- A day of a year that begins in March, counted from 0. The leap day of the next calendar year
is its last. -/
def InMarchYear (year dayOfYear : Int) : Prop :=
  0 ≤ dayOfYear ∧ dayOfYear < 365 + leapDays (year + 1)

/-! ### The year -/

/-- A year of an era, counted from March: so many centuries, cycles of four years and years of
the era are before it. -/
structure YearParts where
  century : Int
  cycle : Int
  year : Int
  centuries : 0 ≤ century ∧ century ≤ 3
  cycles : 0 ≤ cycle ∧ cycle ≤ 24
  years : 0 ≤ year ∧ year ≤ 3

namespace YearParts

def value (parts : YearParts) : Int := 100 * parts.century + 4 * parts.cycle + parts.year

/-- The first day of the year, the periods before it being of their usual lengths. -/
def start (parts : YearParts) : Int :=
  36524 * parts.century + 1461 * parts.cycle + 365 * parts.year

theorem value_bounds (parts : YearParts) : 0 ≤ parts.value ∧ parts.value < 400 := by
  obtain ⟨century, cycle, year, centuries, cycles, years⟩ := parts
  simp only [value]
  omega

theorem yearStart_value (parts : YearParts) : yearStart parts.value = parts.start := by
  obtain ⟨century, cycle, year, centuries, cycles, years⟩ := parts
  simp only [yearStart, value, start]
  omega

/-- The last year of a cycle ends in a leap day, unless the cycle is the last of a century that
is not the last of the era. -/
theorem inMarchYear_iff (parts : YearParts) (day : Int) :
    InMarchYear parts.value day ↔ 0 ≤ day ∧ (day < 365
      ∨ day = 365 ∧ parts.year = 3 ∧ (parts.cycle = 24 → parts.century = 3)) := by
  obtain ⟨century, cycle, year, centuries, cycles, years⟩ := parts
  have leap := leapDays_cases (100 * century + 4 * cycle + year + 1)
  simp only [IsLeapYear] at leap
  simp only [InMarchYear, value]
  omega

/-- Centuries, cycles and years are counted off one after the other; a remainder that fills one
more of them belongs to the last. -/
theorem exists_of_day (dayOfEra : Int) (low : 0 ≤ dayOfEra) (high : dayOfEra < daysPerEra) :
    ∃ parts : YearParts, InMarchYear parts.value (dayOfEra - parts.start) := by
  have bound : dayOfEra < 146097 := high
  let century := min (dayOfEra / 36524) 3
  let dayOfCentury := dayOfEra - 36524 * century
  let cycle := dayOfCentury / 1461
  let dayOfCycle := dayOfCentury - 1461 * cycle
  let year := min (dayOfCycle / 365) 3
  refine ⟨⟨century, cycle, year, by omega, by omega, by omega⟩, ?_⟩
  rw [inMarchYear_iff]
  simp only [start]
  omega

theorem yearOfEra_start_add (parts : YearParts) (day : Int)
    (inside : InMarchYear parts.value day) : yearOfEra (parts.start + day) = parts.value := by
  rw [inMarchYear_iff] at inside
  obtain ⟨century, cycle, year, centuries, cycles, years⟩ := parts
  simp only [start, value] at inside ⊢
  rw [yearOfEra]
  generalize shape : 36524 * century + 1461 * cycle + 365 * year + day = dayOfEra
  have dayOfCentury : 1461 * cycle + 365 * year + day < 36524
      ∨ century = 3 ∧ 1461 * cycle + 365 * year + day = 36524 := by omega
  -- the last day of the era would be a fifth century
  have passedCenturies : dayOfEra / 36524 - dayOfEra / 146096 = century := by omega
  -- a cycle is a day longer than the divisor, so late in the era its last year is one too early
  have passedCycles : dayOfEra / 1460 = 25 * century + cycle
      + (24 * century + cycle + 365 * year + day) / 1460 := by omega
  have inYear : 0 ≤ day - (24 * century + cycle + 365 * year + day) / 1460
      ∧ day - (24 * century + cycle + 365 * year + day) / 1460 < 365 := by omega
  omega

end YearParts

/-- The divisions find the year to which a day of the era belongs. -/
theorem yearOfEra_spec (dayOfEra : Int) (low : 0 ≤ dayOfEra) (high : dayOfEra < daysPerEra) :
    0 ≤ yearOfEra dayOfEra ∧ yearOfEra dayOfEra < 400
      ∧ InMarchYear (yearOfEra dayOfEra) (dayOfEra - yearStart (yearOfEra dayOfEra)) := by
  obtain ⟨parts, inside⟩ := YearParts.exists_of_day dayOfEra low high
  have found : yearOfEra dayOfEra = parts.value := by
    rw [← parts.yearOfEra_start_add _ inside]
    congr 1
    omega
  rw [found, parts.yearStart_value]
  exact ⟨parts.value_bounds.1, parts.value_bounds.2, inside⟩

theorem marchStart_add_eras (year era : Int) (low : 0 ≤ year) (high : year < 400) :
    marchStart (year + era * 400) = yearStart year + daysPerEra * era := by
  rw [marchStart, yearStart, daysPerEra]
  omega

theorem marchStart_succ (year : Int) :
    marchStart (year + 1) = marchStart year + 365 + leapDays (year + 1) := by
  have leap := leapDays_cases (year + 1)
  simp only [IsLeapYear] at leap
  rw [marchStart, marchStart]
  omega

theorem leapDays_add_eras (year era : Int) : leapDays (year + era * 400) = leapDays year := by
  have leap : IsLeapYear (year + era * 400) ↔ IsLeapYear year := by
    simp only [IsLeapYear]
    omega
  simp only [leapDays, leap]

/-- The first of January is 306 days after the first of March before. -/
theorem daysBeforeYear_eq (year : Int) (since : 1970 ≤ year) :
    (daysBeforeYear year : Int) = marchStart (year - 1) + 306 - epochOffset := by
  induction year, since using Int.leInduction with
  | base => rfl
  | succ year since ih =>
    have passed := marchStart_succ (year - 1)
    rw [Int.sub_add_cancel] at passed
    rw [daysBeforeYear_succ year since, yearLength_eq, Nat.cast_add, Nat.cast_add, ih,
      Int.add_sub_cancel, passed]
    omega

/-! ### The month and the day -/

/-- The first day of a month, both counted from March on, where five months have 153 days. -/
def monthStart (month : Nat) : Nat := (153 * month + 2) / 5

theorem daysBeforeMonth_of_spring (year : Int) (month : Nat) (last : month ≤ 10) :
    daysBeforeMonth year (month + 3) = monthStart month + 59 + leapDays year := by
  interval_cases month <;>
    simp [daysBeforeMonth, total, List.range_succ, monthLength, monthStart] <;> omega

theorem daysBeforeMonth_of_winter (year : Int) (month : Nat) (first : 1 ≤ month)
    (last : month ≤ 2) : daysBeforeMonth year month + 306 = monthStart (month + 9) := by
  interval_cases month <;> rfl

/-- From March to December the months have their lengths by the same rule. -/
theorem monthStart_succ (year : Int) (month : Nat) (last : month ≤ 9) :
    monthStart (month + 1) = monthStart month + monthLength year (month + 3) := by
  interval_cases month <;> rfl

theorem InMarchYear.exists_month {year dayOfYear : Int} (inside : InMarchYear year dayOfYear) :
    ∃ month : Nat, (5 * dayOfYear + 2) / 153 = month ∧ month ≤ 11
      ∧ monthStart month ≤ dayOfYear ∧ dayOfYear < monthStart (month + 1) := by
  obtain ⟨low, high⟩ := inside
  have leap := leapDays_le_one (year + 1)
  refine ⟨((5 * dayOfYear + 2) / 153).toNat, ?_, ?_, ?_, ?_⟩
  · omega
  · omega
  · rw [monthStart]
    omega
  · rw [monthStart]
    omega

namespace Date

/-- The date of a day of a year that begins in March. -/
def ofMarchYear (year dayOfYear : Int) : Date :=
  let monthFromMarch := (5 * dayOfYear + 2) / 153
  let day := dayOfYear - (153 * monthFromMarch + 2) / 5 + 1
  let month := if monthFromMarch < 10 then monthFromMarch + 3 else monthFromMarch - 9
  ⟨year + (if month ≤ 2 then 1 else 0), month.toNat, day.toNat⟩

section

variable {year dayOfYear : Int} {month : Nat}

theorem ofMarchYear_of_spring (found : (5 * dayOfYear + 2) / 153 = month) (spring : month < 10)
    (begun : monthStart month ≤ dayOfYear) :
    ofMarchYear year dayOfYear
      = ⟨year, month + 3, (dayOfYear - monthStart month).toNat + 1⟩ := by
  have early : (month : Int) < 10 := by omega
  have late : ¬ (month : Int) + 3 ≤ 2 := by omega
  simp only [ofMarchYear, found, early, if_true, late, if_false, monthStart, Date.mk.injEq]
  simp only [monthStart] at begun
  omega

theorem ofMarchYear_of_winter (found : (5 * dayOfYear + 2) / 153 = month) (winter : 10 ≤ month)
    (last : month ≤ 11) (begun : monthStart month ≤ dayOfYear) :
    ofMarchYear year dayOfYear
      = ⟨year + 1, month - 9, (dayOfYear - monthStart month).toNat + 1⟩ := by
  have late : ¬ (month : Int) < 10 := by omega
  have early : (month : Int) - 9 ≤ 2 := by omega
  simp only [ofMarchYear, found, late, if_false, early, if_true, monthStart, Date.mk.injEq,
    true_and]
  simp only [monthStart] at begun
  omega

end

theorem isValid_ofMarchYear (year dayOfYear : Int) (inside : InMarchYear year dayOfYear) :
    (ofMarchYear year dayOfYear).IsValid := by
  obtain ⟨month, found, last, begun, ended⟩ := inside.exists_month
  obtain ⟨low, high⟩ := inside
  by_cases spring : month < 10
  · have length := monthStart_succ year month (by omega)
    rw [ofMarchYear_of_spring found spring begun]
    constructor
    · simp only
      omega
    · simp only
      omega
  · rw [ofMarchYear_of_winter found (by omega) last begun]
    have winter : month = 10 ∨ month = 11 := by omega
    rcases winter with rfl | rfl
    · have start : monthStart 10 = 306 := rfl
      have next : monthStart (10 + 1) = 337 := rfl
      have length : monthLength (year + 1) (10 - 9) = 31 := rfl
      constructor
      · simp only
        omega
      · simp only
        omega
    · -- February ends with the year, so here the length of the year decides
      have start : monthStart 11 = 337 := rfl
      have length : monthLength (year + 1) (11 - 9) = 28 + leapDays (year + 1) := rfl
      constructor
      · simp only
        omega
      · simp only
        omega

theorem dayCount_ofMarchYear (year dayOfYear : Int) (inside : InMarchYear year dayOfYear)
    (since : 1970 ≤ (ofMarchYear year dayOfYear).year) :
    ((ofMarchYear year dayOfYear).dayCount : Int) = marchStart year + dayOfYear - epochOffset := by
  obtain ⟨month, found, last, begun, ended⟩ := inside.exists_month
  obtain ⟨low, high⟩ := inside
  by_cases spring : month < 10
  · rw [ofMarchYear_of_spring found spring begun] at since ⊢
    have years := daysBeforeYear_eq year since
    have months := daysBeforeMonth_of_spring year month (by omega)
    -- the leap day of the year is before March, so it ends the year that began in the March before
    have passed := marchStart_succ (year - 1)
    rw [Int.sub_add_cancel] at passed
    simp only [dayCount]
    omega
  · rw [ofMarchYear_of_winter found (by omega) last begun] at since ⊢
    have years := daysBeforeYear_eq (year + 1) since
    have months := daysBeforeMonth_of_winter (year + 1) (month - 9) (by omega) (by omega)
    rw [Int.add_sub_cancel] at years
    rw [Nat.sub_add_cancel (by omega)] at months
    simp only [dayCount]
    omega

/-- A date before 1970 belongs to a day before the first one. -/
theorem since_ofMarchYear (year dayOfYear : Int) (inside : InMarchYear year dayOfYear)
    (since : epochOffset ≤ marchStart year + dayOfYear) :
    1970 ≤ (ofMarchYear year dayOfYear).year := by
  obtain ⟨month, found, last, begun, ended⟩ := inside.exists_month
  obtain ⟨low, high⟩ := inside
  rw [epochOffset, marchStart] at since
  by_cases spring : month < 10
  · rw [ofMarchYear_of_spring found spring begun]
    rw [monthStart] at ended
    simp only
    omega
  · rw [ofMarchYear_of_winter found (by omega) last begun]
    rw [monthStart] at ended
    simp only
    omega

/-! ### Day numbers -/

theorem ofDayNumber_eq (dayNumber : Int) :
    ofDayNumber dayNumber
      = ofMarchYear (yearOfEra ((dayNumber + epochOffset) % daysPerEra)
          + (dayNumber + epochOffset) / daysPerEra * 400)
        ((dayNumber + epochOffset) % daysPerEra
          - yearStart (yearOfEra ((dayNumber + epochOffset) % daysPerEra))) :=
  rfl

/-- Every day number is that of a day of a year that begins in March. -/
theorem exists_marchYear (dayNumber : Int) :
    ∃ year dayOfYear, InMarchYear year dayOfYear
      ∧ marchStart year + dayOfYear = dayNumber + epochOffset
      ∧ ofDayNumber dayNumber = ofMarchYear year dayOfYear := by
  have whole := Int.mul_ediv_add_emod (dayNumber + epochOffset) daysPerEra
  have low := Int.emod_nonneg (dayNumber + epochOffset) (b := daysPerEra) (by decide)
  have high := Int.emod_lt_of_pos (dayNumber + epochOffset) (b := daysPerEra) (by decide)
  obtain ⟨first, last, inside⟩ := yearOfEra_spec _ low high
  refine ⟨_, _, ?_, ?_, ofDayNumber_eq dayNumber⟩
  · rwa [InMarchYear, Int.add_right_comm, leapDays_add_eras]
  · rw [marchStart_add_eras _ _ first last]
    omega

theorem isValid_ofDayNumber (dayNumber : Int) : (ofDayNumber dayNumber).IsValid := by
  obtain ⟨year, dayOfYear, inside, -, same⟩ := exists_marchYear dayNumber
  rw [same]
  exact isValid_ofMarchYear year dayOfYear inside

theorem since_ofDayNumber (dayNumber : Nat) : 1970 ≤ (ofDayNumber dayNumber).year := by
  obtain ⟨year, dayOfYear, inside, number, same⟩ := exists_marchYear dayNumber
  rw [same]
  exact since_ofMarchYear year dayOfYear inside (by omega)

theorem dayCount_ofDayNumber (dayNumber : Nat) : (ofDayNumber dayNumber).dayCount = dayNumber := by
  have since := since_ofDayNumber dayNumber
  obtain ⟨year, dayOfYear, inside, number, same⟩ := exists_marchYear dayNumber
  rw [same] at since ⊢
  have count := dayCount_ofMarchYear year dayOfYear inside since
  omega

end Date

end LinkContract.Time
