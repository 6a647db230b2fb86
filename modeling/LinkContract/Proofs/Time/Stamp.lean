import LinkContract.Proofs.Time.Padded
import LinkContract.Proofs.Time.WordDates
import Mathlib.Data.List.Forall2

/-!
# Stamps that read back

A stamp is a row of decimal fields, each of a least width and with a mark behind it. A field
ends where its digits end, so a reader that knows the widths and the marks finds the numbers
again. What the stamp of an instant says is its date, which the calendar confirms, and its time
of day; counted together, they give back the instant.
-/
namespace LinkContract.Time

/-! ### Rows of fields -/

/-- A decimal number of a least width and the character behind it. -/
structure Field where
  width : Nat
  mark : Char

def fieldsText : List Field → List Nat → List Char
  | field :: fields, number :: numbers =>
    padded field.width number ++ field.mark :: fieldsText fields numbers
  | _, _ => []

/-- The numbers of a text that has these fields and no more. -/
def readFields? : List Field → List Char → Option (List Nat)
  | [], [] => some []
  | [], _ :: _ => none
  | field :: fields, text =>
    match Json.scanDigits text with
    | some (shown, mark :: rest) =>
      if field.width ≤ shown.length ∧ mark = field.mark then
        (readFields? fields rest).map (Json.numberOfDigits shown :: ·)
      else none
    | _ => none

/-- By induction on the fields; a mark that is no digit ends the number in front of it. -/
theorem readFields?_fieldsText (fields : List Field) (numbers : List Nat)
    (marks : ∀ field ∈ fields, field.mark.isDigit = false)
    (lengths : fields.length = numbers.length) :
    readFields? fields (fieldsText fields numbers) = some numbers := by
  induction fields generalizing numbers with
  | nil =>
    cases numbers with
    | nil => rfl
    | cons number rest => cases lengths
  | cons field fields ih =>
    cases numbers with
    | nil => cases lengths
    | cons number rest =>
      rw [List.forall_mem_cons] at marks
      -- the scan takes the digits of the number and stops at the mark
      have scanned : Json.scanDigits
          (padded field.width number ++ field.mark :: fieldsText fields rest)
            = some (padded field.width number, field.mark :: fieldsText fields rest) := by
        apply Json.scanDigits_append _ _ (padded_ne_nil field.width number)
          (isDigit_of_mem_padded field.width number)
        intro c first
        cases first
        exact marks.1
      have others := ih rest marks.2 (Nat.succ.inj lengths)
      simp [fieldsText, readFields?, scanned, le_length_padded, numberOfDigits_padded, others]

/-! ### Stamps -/

def stampFields : List Field :=
  [⟨4, '-'⟩, ⟨2, '-'⟩, ⟨2, 'T'⟩, ⟨2, ':'⟩, ⟨2, ':'⟩, ⟨2, '.'⟩, ⟨3, 'Z'⟩]

/-- The numbers in the stamp of an instant. -/
def Instant.numbers (instant : Instant) : List Nat :=
  [instant.date.year.toNat, instant.date.month, instant.date.day, instant.secondOfDay / 3600,
    instant.secondOfDay % 3600 / 60, instant.secondOfDay % 60, instant.millis]

theorem fieldsText_stampFields (year month day hour minute second millis : Nat) :
    fieldsText stampFields [year, month, day, hour, minute, second, millis]
      = padded 4 year ++ '-' :: padded 2 month ++ '-' :: padded 2 day ++ 'T' ::
        (padded 2 hour ++ ':' :: padded 2 minute ++ ':' :: padded 2 second
          ++ '.' :: padded 3 millis) ++ ['Z'] := by
  simp [fieldsText, stampFields]

theorem Instant.toList_stamp (instant : Instant) :
    instant.stamp.toList = fieldsText stampFields instant.numbers := by
  rw [numbers, fieldsText_stampFields, stamp, String.toList_ofList, Date.text, clockText]

/-- A date and a time of day. -/
structure Moment where
  date : Date
  hour : Nat
  minute : Nat
  second : Nat
  millis : Nat

namespace Moment

/-- The clock shows this time of a valid day from 1970 on. -/
structure IsValid (moment : Moment) : Prop where
  date : moment.date.IsValid
  since : 1970 ≤ moment.date.year
  hour : moment.hour < 24
  minute : moment.minute < 60
  second : moment.second < 60
  millis : moment.millis < 1000

/-- The instant that is reached when days, hours, minutes and seconds are counted. -/
def instant (moment : Moment) : Instant where
  seconds := ((moment.date.dayCount * 24 + moment.hour) * 60 + moment.minute) * 60 + moment.second
  millis := moment.millis

/-- Reads a stamp. -/
def ofStamp? (text : String) : Option Moment :=
  match readFields? stampFields text.toList with
  | some [year, month, day, hour, minute, second, millis] =>
    some ⟨⟨year, month, day⟩, hour, minute, second, millis⟩
  | _ => none

end Moment

/-- What the stamp of an instant shows. -/
def Instant.moment (instant : Instant) : Moment where
  date := instant.date
  hour := instant.secondOfDay / 3600
  minute := instant.secondOfDay % 3600 / 60
  second := instant.secondOfDay % 60
  millis := instant.millis

theorem Instant.ofStamp?_stamp (instant : Instant) :
    Moment.ofStamp? instant.stamp = some instant.moment := by
  have year : ((instant.date.year.toNat : Nat) : Int) = instant.date.year := by
    have since : 1970 ≤ instant.date.year := Date.since_ofDayNumber _
    omega
  have shown : readFields? stampFields instant.stamp.toList = some instant.numbers := by
    rw [instant.toList_stamp]
    exact readFields?_fieldsText stampFields instant.numbers (by decide) rfl
  rw [Moment.ofStamp?, shown, numbers, moment]
  generalize instant.date = date at year
  simp only [year]

theorem Instant.instant_moment (instant : Instant) : instant.moment.instant = instant := by
  have days : instant.date.dayCount = instant.seconds / 86400 := Date.dayCount_ofDayNumber _
  obtain ⟨seconds, millis⟩ := instant
  simp only [Moment.instant, Instant.moment, secondOfDay, secondsPerDay, days, Instant.mk.injEq,
    and_true]
  omega

theorem Instant.isValid_moment (instant : Instant) (millis : instant.millis < 1000) :
    instant.moment.IsValid where
  date := Date.isValid_ofDayNumber _
  since := Date.since_ofDayNumber _
  hour := by simp only [Instant.moment, secondOfDay, secondsPerDay]; omega
  minute := by simp only [Instant.moment]; omega
  second := by simp only [Instant.moment]; omega
  millis := millis

/-- The stamp of an instant that is counted in 64 bits tells the instant. Its date is the date of
the calendar for the days that have passed since 1970, found without leaving the range of a word,
and the text shows this date and a time of day that together give the instant back. -/
theorem stamp_tells_instant (instant : Instant) (seconds : instant.seconds < UInt64.size)
    (millis : instant.millis < 1000) :
    let date := Date.ofDayNumber ((instant.seconds / 86400 : Nat) : Int)
    date.IsValid ∧ 1970 ≤ date.year ∧ date.dayCount = instant.seconds / 86400
      ∧ instant.date? = some date
      ∧ ∃ moment, Moment.ofStamp? instant.stamp = some moment ∧ moment.date = date
        ∧ moment.IsValid ∧ moment.instant = instant := by
  intro date
  refine ⟨Date.isValid_ofDayNumber _, Date.since_ofDayNumber _, Date.dayCount_ofDayNumber _,
    instant.date?_eq seconds, instant.moment, instant.ofStamp?_stamp, rfl,
    instant.isValid_moment millis, instant.instant_moment⟩

/-- The last instant that 64 bits hold. -/
theorem stamp_tells_last_instant :
    let last : Instant := ⟨18446744073709551615, 999⟩
    (last.seconds < UInt64.size ∧ last.millis < 1000)
      ∧ last.stamp = "584554051223-11-09T07:00:15.999Z"
      ∧ last.date? = some ⟨584554051223, 11, 9⟩
      ∧ (Date.mk 584554051223 11 9).dayCount = 213503982334601
      ∧ ∃ moment, Moment.ofStamp? last.stamp = some moment
        ∧ moment.date = ⟨584554051223, 11, 9⟩ ∧ moment.IsValid ∧ moment.instant = last := by
  intro last
  have inRange : last.seconds < UInt64.size ∧ last.millis < 1000 := by decide
  have date : Date.ofDayNumber ((last.seconds / 86400 : Nat) : Int) = ⟨584554051223, 11, 9⟩ := by
    decide +kernel
  have tells := stamp_tells_instant last inRange.1 inRange.2
  simp only [date] at tells
  obtain ⟨-, -, count, words, told⟩ := tells
  exact ⟨inRange, by decide +kernel, words, count.trans (by decide), told⟩

end LinkContract.Time
