/-!
# Decimals and doubles

A finite double is a sign and a product of an integer below 2^53 with a power of
two, whose exponent is at least -1074. Every non-negative quotient of integers has
a nearest double, where a tie goes to the even integer; beyond the range there is
none. Products and quotients of doubles are the nearest doubles to the exact ones.

A decimal is read in three steps. Its leading digits become a significand, as many
of them as fit into 64 bits; the significand is rounded to a double; the double is
multiplied or divided by the double nearest to a power of ten. Each step rounds, so
the result can differ in its last place from the double nearest to the decimal.
Scaling up beyond the range of doubles fails, scaling down ends at zero.

Among the decimals that round to a given double, the ones with the fewest digits
are the multiples of the largest power of ten that has a multiple there. The
double lies between two neighbouring multiples; the nearer one is chosen, and the
even one at a tie. All comparisons are between integers.

A decimal is laid out positionally when the power of ten of its first digit lies
within given bounds, with at least one digit on either side of the point, and
otherwise with an exponent, which always carries a sign.
-/
namespace LinkContract

/-! ### Finite doubles -/

structure Binary64 where
  negative : Bool
  mantissa : Nat
  exponent : Int
  deriving DecidableEq, Repr

namespace Binary64

def leastExponent : Int := -1074

def greatestExponent : Int := 971

/-- The least integer with 53 binary digits, 2^52. -/
def leastFull : Nat := 4503599627370496

def zero (negative : Bool) : Binary64 := ⟨negative, 0, leastExponent⟩

def isZero (double : Binary64) : Bool := double.mantissa == 0

/-- The integer nearest to a quotient; a tie goes to the even one. -/
def nearestInteger (numerator denominator : Nat) : Nat :=
  let quotient := numerator / denominator
  let rest := numerator % denominator
  if 2 * rest < denominator then quotient
  else if denominator < 2 * rest then quotient + 1
  else quotient + quotient % 2

/-- Numerator and denominator of a quotient after division by a power of two. -/
def divideByPower (numerator denominator : Nat) (exponent : Int) : Nat × Nat :=
  (numerator * Nat.pow 2 (-exponent).toNat, denominator * Nat.pow 2 exponent.toNat)

/-- The exponent at which the quotient has 53 binary digits before the point. -/
def fullExponent (numerator denominator : Nat) : Int :=
  let low : Int := (numerator.log2 : Int) - denominator.log2 - 53
  let (scaled, unit) := divideByPower numerator denominator low
  if 2 * leastFull ≤ scaled / unit then low + 1 else low

/-- The nearest double to a quotient, unless it is too large for every double. -/
def ofQuotient (negative : Bool) (numerator denominator : Nat) : Option Binary64 :=
  if numerator = 0 then some (zero negative)
  else
    let exponent := max (fullExponent numerator denominator) leastExponent
    let (scaled, unit) := divideByPower numerator denominator exponent
    let mantissa := nearestInteger scaled unit
    let (mantissa, exponent) :=
      if mantissa = 2 * leastFull then (leastFull, exponent + 1) else (mantissa, exponent)
    if greatestExponent < exponent then none else some ⟨negative, mantissa, exponent⟩

/-- The magnitude as a quotient of integers. -/
def toQuotient (double : Binary64) : Nat × Nat :=
  (double.mantissa * Nat.pow 2 double.exponent.toNat, Nat.pow 2 (-double.exponent).toNat)

def multiply (first second : Binary64) : Option Binary64 :=
  let (numerator, denominator) := first.toQuotient
  let (numerator', denominator') := second.toQuotient
  ofQuotient (first.negative != second.negative)
    (numerator * numerator') (denominator * denominator')

def divide (first second : Binary64) : Option Binary64 :=
  let (numerator, denominator) := first.toQuotient
  let (numerator', denominator') := second.toQuotient
  ofQuotient (first.negative != second.negative)
    (numerator * denominator') (denominator * numerator')

def negate (double : Binary64) : Binary64 := { double with negative := !double.negative }

end Binary64

namespace Decimal

/-! ### Reading decimals -/

/-- The parts of a decimal: its digits around the point and its exponent. -/
structure Numeral where
  negative : Bool
  whole : List Nat
  fraction : List Nat
  exponent : Int
  deriving DecidableEq, Repr

/-- Leading digits that fit into 64 bits, and how often they are to be multiplied by ten. -/
structure Significand where
  value : Nat := 0
  power : Int := 0
  full : Bool := false
  deriving DecidableEq, Repr

namespace Significand

def fits (significand : Significand) (digit : Nat) : Bool :=
  significand.value * 10 + digit < UInt64.size

/-- Once a digit before the point has not fitted, those after it only count. -/
def addWhole (significand : Significand) (digit : Nat) : Significand :=
  if significand.full || !significand.fits digit then
    { significand with power := significand.power + 1, full := true }
  else { significand with value := significand.value * 10 + digit }

/-- Once a digit after the point has not fitted, those after it are ignored. -/
def addFraction (significand : Significand) (digit : Nat) : Significand :=
  if significand.full || !significand.fits digit then { significand with full := true }
  else { significand with value := significand.value * 10 + digit, power := significand.power - 1 }

def ofNumeral (numeral : Numeral) : Significand :=
  let whole := numeral.whole.foldl addWhole {}
  numeral.fraction.foldl addFraction { whole with full := false }

end Significand

/-- The largest power of ten that is a double. -/
def greatestPower : Nat := 308

theorem sub_greatestPower_lt {power : Nat} (large : ¬ power ≤ greatestPower) :
    power - greatestPower < power :=
  Nat.sub_lt (Nat.zero_lt_of_lt (Nat.lt_of_not_le large)) (by decide)

def powerOfTen (power : Nat) : Binary64 :=
  (Binary64.ofQuotient false (Nat.pow 10 power) 1).getD (.zero false)

def scaleUp (double : Binary64) (power : Nat) : Option Binary64 :=
  if power ≤ greatestPower then double.multiply (powerOfTen power)
  else if double.isZero then some double
  else none

def scaleDown (double : Binary64) (power : Nat) : Option Binary64 :=
  if power ≤ greatestPower then double.divide (powerOfTen power)
  else if double.isZero then some double
  else
    (double.divide (powerOfTen greatestPower)).bind fun smaller =>
      scaleDown smaller (power - greatestPower)
termination_by power
decreasing_by exact sub_greatestPower_lt ‹_›

def scale (double : Binary64) (power : Int) : Option Binary64 :=
  if 0 ≤ power then scaleUp double power.toNat else scaleDown double (-power).toNat

/-- The largest exponent that is taken at its value, 2^31 - 1: larger ones stand for
infinity. -/
def greatestExponent : Int := 2147483647

def Numeral.toDouble (numeral : Numeral) : Option Binary64 :=
  let significand := Significand.ofNumeral numeral
  let magnitude :=
    if greatestExponent < numeral.exponent then
      if significand.value = 0 then some (Binary64.zero false) else none
    else if numeral.exponent < -greatestExponent then some (Binary64.zero false)
    else
      (Binary64.ofQuotient false significand.value 1).bind fun double =>
        scale double (significand.power + numeral.exponent)
  magnitude.map fun double => if numeral.negative then double.negate else double

/-! ### Shortest decimals -/

/-- A positive decimal `coefficient * 10 ^ power`. -/
structure Scientific where
  coefficient : Nat
  power : Int
  deriving DecidableEq, Repr

/-- A double in quarters of its last place, with the bounds of what rounds to it. -/
structure Interval where
  low : Nat
  middle : Nat
  high : Nat
  closed : Bool
  exponent : Int
  deriving DecidableEq, Repr

/-- Below a power of two the doubles are twice as dense. -/
def Interval.ofDouble (double : Binary64) : Interval where
  low :=
    if double.mantissa = Binary64.leastFull ∧ Binary64.leastExponent < double.exponent then
      4 * double.mantissa - 1
    else 4 * double.mantissa - 2
  middle := 4 * double.mantissa
  high := 4 * double.mantissa + 2
  closed := double.mantissa % 2 = 0
  exponent := double.exponent - 2

namespace Interval

/-- A number of quarters, in a unit that it shares with the multiples of `10 ^ power`. -/
def quarters (interval : Interval) (power : Int) (count : Nat) : Nat :=
  count * Nat.pow 2 interval.exponent.toNat * Nat.pow 10 (-power).toNat

def multiples (interval : Interval) (power : Int) (count : Nat) : Nat :=
  count * Nat.pow 10 power.toNat * Nat.pow 2 (-interval.exponent).toNat

def contains (interval : Interval) (power : Int) (count : Nat) : Bool :=
  let point := interval.multiples power count
  let low := interval.quarters power interval.low
  let high := interval.quarters power interval.high
  if interval.closed then low ≤ point && point ≤ high else low < point && point < high

/-- The multiple of `10 ^ power` that is chosen, if there is one in the interval. -/
def choose (interval : Interval) (power : Int) : Option Nat :=
  let middle := interval.quarters power interval.middle
  let below := middle / interval.multiples power 1
  let above := below + 1
  match interval.contains power below, interval.contains power above with
  | false, false => none
  | true, false => some below
  | false, true => some above
  | true, true =>
    let shortfall := middle - interval.multiples power below
    let excess := interval.multiples power above - middle
    if shortfall < excess then some below
    else if excess < shortfall then some above
    else some (below + below % 2)

/-- Tries the powers from `power` downward. -/
def search (interval : Interval) : Nat → Int → Scientific
  | 0, power => ⟨interval.middle, power⟩
  | steps + 1, power =>
    match interval.choose power with
    | some count => ⟨count, power⟩
    | none => search interval steps (power - 1)

end Interval

/-- A power of ten above the double: a binary digit is worth less than 0.302 decimal ones. -/
def ceilingPower (double : Binary64) : Int :=
  ((double.mantissa.log2 : Int) + 1 + double.exponent) * 30103 / 100000 + 2

/-- Seventeen digits tell any two doubles apart, so twenty-four steps are enough. -/
def shortest (double : Binary64) : Scientific :=
  (Interval.ofDouble double).search 24 (ceilingPower double)

/-! ### Layout -/

/-- The powers of ten of the first digit for which the layout is positional. -/
structure TextStyle where
  leastPositional : Int
  greatestPositional : Int
  deriving DecidableEq, Repr

def digits (number : Nat) : List Char := Nat.toDigits 10 number

def zeros (count : Nat) : List Char := List.replicate count '0'

/-- Digits with a point such that the first one has the power `first`. -/
def positional (shown : List Char) (first : Int) : List Char :=
  if first < 0 then '0' :: '.' :: zeros (-first - 1).toNat ++ shown
  else
    let before := first.toNat + 1
    if shown.length ≤ before then shown ++ zeros (before - shown.length) ++ ['.', '0']
    else shown.take before ++ '.' :: shown.drop before

def withExponent (shown : List Char) (first : Int) : List Char :=
  let mantissa :=
    match shown with
    | [] => []
    | [digit] => [digit]
    | digit :: rest => digit :: '.' :: rest
  mantissa ++ 'e' :: (if first < 0 then '-' else '+') :: digits first.natAbs

def TextStyle.scientificText (style : TextStyle) (scientific : Scientific) : List Char :=
  let shown := digits scientific.coefficient
  let first := scientific.power + shown.length - 1
  if style.leastPositional ≤ first ∧ first ≤ style.greatestPositional then positional shown first
  else withExponent shown first

def TextStyle.doubleText (style : TextStyle) (double : Binary64) : List Char :=
  let magnitude :=
    if double.isZero then ['0', '.', '0'] else style.scientificText (shortest double)
  if double.negative then '-' :: magnitude else magnitude

end Decimal

end LinkContract
