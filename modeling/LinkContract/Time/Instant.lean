import LinkContract.Decimal

/-!
# Instants and time stamps

An instant counts seconds and milliseconds from the beginning of 1970. Its stamp is
the date and time in UTC with all fields padded by zeros, so that stamps of years
with four digits have one length.

The date is that of the Gregorian calendar. Years are taken to begin in March, so
that the leap day ends its year; four hundred of them make an era of 146097 days,
and five months from March on have 153 days.
-/
namespace LinkContract.Time

/-! ### Calendar dates -/

structure Date where
  year : Int
  month : Nat
  day : Nat
  deriving DecidableEq, Repr

/-- The days from the first of March of the year 0 to 1970-01-01. -/
def epochOffset : Int := 719468

def daysPerEra : Int := 146097

/-- The year of an era, counted from 0, to which a day of the era belongs. -/
def yearOfEra (dayOfEra : Int) : Int :=
  (dayOfEra - dayOfEra / 1460 + dayOfEra / 36524 - dayOfEra / 146096) / 365

/-- The first day of a year of an era. -/
def yearStart (year : Int) : Int := 365 * year + year / 4 - year / 100

def Date.ofDayNumber (dayNumber : Int) : Date :=
  let shifted := dayNumber + epochOffset
  let era := shifted / daysPerEra
  let dayOfEra := shifted % daysPerEra
  let year := yearOfEra dayOfEra
  let dayOfYear := dayOfEra - yearStart year
  let monthFromMarch := (5 * dayOfYear + 2) / 153
  let day := dayOfYear - (153 * monthFromMarch + 2) / 5 + 1
  let month := if monthFromMarch < 10 then monthFromMarch + 3 else monthFromMarch - 9
  ⟨year + era * 400 + (if month ≤ 2 then 1 else 0), month.toNat, day.toNat⟩

/-! ### Instants -/

structure Instant where
  seconds : Nat
  millis : Nat
  deriving DecidableEq, Repr

def Instant.epoch : Instant := ⟨0, 0⟩

/-- Reads a clock that counts from 1970; earlier times read as its beginning, and
parts of a millisecond are dropped. -/
def Instant.ofClock (seconds : Int) (nanoseconds : Nat) : Instant :=
  if seconds < 0 then .epoch else ⟨seconds.toNat, nanoseconds / 1000000⟩

/-- Decimal digits with zeros in front up to a least width. -/
def padded (width number : Nat) : List Char :=
  let shown := Decimal.digits number
  Decimal.zeros (width - shown.length) ++ shown

def secondsPerDay : Nat := 86400

def Date.text (date : Date) : List Char :=
  padded 4 date.year.toNat ++ '-' :: padded 2 date.month ++ '-' :: padded 2 date.day

namespace Instant

def date (instant : Instant) : Date := .ofDayNumber ((instant.seconds / secondsPerDay : Nat) : Int)

def secondOfDay (instant : Instant) : Nat := instant.seconds % secondsPerDay

def clockText (instant : Instant) : List Char :=
  let second := instant.secondOfDay
  padded 2 (second / 3600) ++ ':' :: padded 2 (second % 3600 / 60) ++ ':' :: padded 2 (second % 60)
    ++ '.' :: padded 3 instant.millis

def stamp (instant : Instant) : String :=
  String.ofList (instant.date.text ++ 'T' :: instant.clockText ++ ['Z'])

end Instant

end LinkContract.Time
