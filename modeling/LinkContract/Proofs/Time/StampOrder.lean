import LinkContract.Proofs.Text.ByteOrder
import LinkContract.Proofs.Time.Stamp

/-!
# The order of stamps

Fields of fixed widths with equal marks between them are ordered as the rows of their numbers
are: the first number that differs decides. A stamp has its numbers in the order in which time
is counted, years first, and as long as years have four digits all its fields keep their widths,
so stamps are ordered like the instants that they tell.
-/
namespace LinkContract.Time

/-- The first texts decide when they differ, and being of one length they differ inside. -/
theorem append_lt_append (first second : List Char) (before : first < second)
    (lengths : first.length = second.length) (rest others : List Char) :
    first ++ rest < second ++ others := by
  induction before with
  | nil => cases lengths
  | rel smaller => exact List.Lex.rel smaller
  | cons _ ih => exact List.Lex.cons (ih (Nat.succ.inj lengths))

/-- The numbers have no more digits than the fields have places. -/
def Fits : List Field → List Nat → Prop
  | [], [] => True
  | field :: fields, number :: numbers =>
    (0 < field.width ∧ number < 10 ^ field.width) ∧ Fits fields numbers
  | _, _ => False

/-- By induction on the common beginning of the two rows. -/
theorem fieldsText_lt (fields : List Field) (first second : List Nat) (before : first < second)
    (fits : Fits fields first) (others : Fits fields second) :
    fieldsText fields first < fieldsText fields second := by
  induction before generalizing fields with
  | nil =>
    cases fields with
    | nil => exact others.elim
    | cons field fields => exact fits.elim
  | @rel number firstRest greater secondRest less =>
    cases fields with
    | nil => exact fits.elim
    | cons field fields =>
      -- both texts fill the width of the field, so neither is only the beginning of the other
      have lengths : (padded field.width number).length = (padded field.width greater).length := by
        rw [length_padded _ _ fits.1.1 fits.1.2, length_padded _ _ others.1.1 others.1.2]
      exact append_lt_append _ _ (padded_lt_padded _ _ _ fits.1.1 less others.1.2) lengths _ _
  | @cons number firstRest secondRest before ih =>
    cases fields with
    | nil => exact fits.elim
    | cons field fields =>
      have rests := ih fields fits.2 others.2
      exact List.append_left_lt (List.Lex.cons rests)

namespace Instant

/-- An instant is before another one by its seconds, or by its milliseconds in the same second. -/
def Before (first second : Instant) : Prop :=
  first.seconds < second.seconds ∨ first.seconds = second.seconds ∧ first.millis < second.millis

theorem before_or_after_of_ne (first second : Instant) (different : first ≠ second) :
    first.Before second ∨ second.Before first := by
  obtain ⟨seconds, millis⟩ := first
  obtain ⟨otherSeconds, otherMillis⟩ := second
  simp only [Before, ne_eq, Instant.mk.injEq] at different ⊢
  omega

/-- The year 10000 begins 2932897 days after 1970. -/
theorem year_le (instant : Instant) (fourDigits : instant.seconds < 253402300800) :
    instant.date.year ≤ 9999 := by
  have since : 1970 ≤ instant.date.year := Date.since_ofDayNumber _
  have count : instant.date.dayCount = instant.seconds / 86400 := Date.dayCount_ofDayNumber _
  have passed := daysBeforeYear_eq instant.date.year since
  rw [Date.dayCount] at count
  rw [marchStart, epochOffset] at passed
  omega

theorem date_before (first second : Instant)
    (earlier : first.seconds / 86400 < second.seconds / 86400) :
    first.date.Before second.date := by
  have count : first.date.dayCount = first.seconds / 86400 := Date.dayCount_ofDayNumber _
  have otherCount : second.date.dayCount = second.seconds / 86400 := Date.dayCount_ofDayNumber _
  have valid : second.date.IsValid := Date.isValid_ofDayNumber _
  have since : 1970 ≤ second.date.year := Date.since_ofDayNumber _
  rw [← count, ← otherCount] at earlier
  exact Date.before_of_dayCount_lt valid since earlier

theorem date_eq (first second : Instant)
    (same : first.seconds / 86400 = second.seconds / 86400) : first.date = second.date :=
  congrArg (fun days : Nat => Date.ofDayNumber (days : Int)) same

theorem fits_numbers (instant : Instant) (millis : instant.millis < 1000)
    (fourDigits : instant.seconds < 253402300800) : Fits stampFields instant.numbers := by
  have year := instant.year_le fourDigits
  have valid : instant.date.IsValid := Date.isValid_ofDayNumber _
  have month := valid.month
  have day := Nat.le_trans valid.day.2 (monthLength_le _ _)
  have second : instant.secondOfDay < 86400 := Nat.mod_lt _ (by decide)
  rw [numbers]
  generalize instant.secondOfDay = second at second
  simp only [stampFields, Fits, Nat.reducePow, Nat.reduceLT, true_and, and_true]
  omega

/-- The days decide first, then the seconds of the day, then the milliseconds. -/
theorem numbers_lt (first second : Instant) (before : first.Before second) :
    first.numbers < second.numbers := by
  have clock : first.secondOfDay = first.seconds % 86400 := rfl
  have otherClock : second.secondOfDay = second.seconds % 86400 := rfl
  have order : first.seconds / 86400 < second.seconds / 86400
      ∨ first.seconds / 86400 = second.seconds / 86400 := by
    rw [Before] at before
    omega
  rw [numbers, numbers]
  rcases order with earlier | same
  · have dates : first.date.Before second.date := first.date_before second earlier
    have since : 1970 ≤ first.date.year := Date.since_ofDayNumber _
    have otherSince : 1970 ≤ second.date.year := Date.since_ofDayNumber _
    rw [Date.Before] at dates
    -- how the dates are computed does not matter any more
    generalize first.date = date at *
    generalize second.date = otherDate at *
    simp only [List.cons_lt_cons_iff, List.not_lt_nil, and_false, or_false]
    omega
  · -- On one day the clocks differ, or they agree and the milliseconds differ.
    have times : first.secondOfDay < second.secondOfDay
        ∨ first.secondOfDay = second.secondOfDay ∧ first.millis < second.millis := by
      rw [Before] at before
      omega
    rw [first.date_eq second same]
    generalize second.date.year.toNat = year
    generalize second.date.month = month
    generalize second.date.day = day
    generalize first.secondOfDay = time at times
    generalize second.secondOfDay = otherTime at times
    simp only [List.cons_lt_cons_iff, List.not_lt_nil, and_false, or_false, Nat.lt_irrefl,
      true_and, false_or]
    omega

theorem stamp_lt (first second : Instant) (before : first.Before second)
    (millis : first.millis < 1000 ∧ second.millis < 1000)
    (fourDigits : first.seconds < 253402300800 ∧ second.seconds < 253402300800) :
    Text.BytesBefore first.stamp second.stamp := by
  rw [Text.bytesBefore_iff, String.lt_iff, toList_stamp, toList_stamp]
  exact fieldsText_lt stampFields _ _ (numbers_lt first second before)
    (first.fits_numbers millis.1 fourDigits.1) (second.fits_numbers millis.2 fourDigits.2)

end Instant

/-- Through the end of the year 9999 stamps are sorted as bytes just as their instants are in
time, and so different instants have different stamps. -/
theorem stamps_sort_like_time (first second : Instant)
    (millis : first.millis < 1000 ∧ second.millis < 1000)
    (fourDigits : first.seconds < 253402300800 ∧ second.seconds < 253402300800) :
    (Text.BytesBefore first.stamp second.stamp
        ↔ first.seconds < second.seconds
          ∨ first.seconds = second.seconds ∧ first.millis < second.millis)
      ∧ (first ≠ second → first.stamp ≠ second.stamp) := by
  have forward := fun before => first.stamp_lt second before millis fourDigits
  have backward := fun after => second.stamp_lt first after millis.symm fourDigits.symm
  have differ : first ≠ second → first.stamp ≠ second.stamp := by
    intro different same
    rw [same] at forward backward
    rcases first.before_or_after_of_ne second different with before | after
    · exact List.lt_irrefl _ (forward before)
    · exact List.lt_irrefl _ (backward after)
  refine ⟨⟨?_, forward⟩, differ⟩
  intro sorted
  by_cases same : first = second
  · subst same
    exact absurd sorted (List.lt_irrefl _)
  · rcases first.before_or_after_of_ne second same with before | after
    · exact before
    · exact absurd sorted (List.lt_asymm (backward after))

/-- The last millisecond of a leap day and the first one of the month after it. -/
theorem stamps_sort_around_leap_day :
    let leapDay : Instant := ⟨951868799, 999⟩
    let march : Instant := ⟨951868800, 0⟩
    (leapDay.millis < 1000 ∧ march.millis < 1000)
      ∧ (leapDay.seconds < 253402300800 ∧ march.seconds < 253402300800)
      ∧ leapDay.stamp = "2000-02-29T23:59:59.999Z" ∧ march.stamp = "2000-03-01T00:00:00.000Z"
      ∧ Text.BytesBefore leapDay.stamp march.stamp ∧ ¬ Text.BytesBefore march.stamp leapDay.stamp
      ∧ leapDay.stamp ≠ march.stamp := by
  intro leapDay march
  have millis : leapDay.millis < 1000 ∧ march.millis < 1000 := by decide
  have fourDigits : leapDay.seconds < 253402300800 ∧ march.seconds < 253402300800 := by decide
  have sorted := stamps_sort_like_time leapDay march millis fourDigits
  have backward := stamps_sort_like_time march leapDay millis.symm fourDigits.symm
  exact ⟨millis, fourDigits, by decide +kernel, by decide +kernel, sorted.1.mpr (by decide),
    fun after => absurd (backward.1.mp after) (by decide), sorted.2 (by decide)⟩

end LinkContract.Time
