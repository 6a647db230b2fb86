import LinkContract.Decimal
import LinkContract.Json.Basic

/-!
# Tokens of JSON text

Each scanner takes a token off the front of a text and returns it with the rest,
or fails. An escape `\u` with a surrogate must be followed by the other half of
the pair; control characters must be escaped. A number has no leading zeros and
digits on both sides of its point.
-/
namespace LinkContract.Json

def isSpace (c : Char) : Bool := c == ' ' || c == '\t' || c == '\n' || c == '\r'

def skipSpace (text : List Char) : List Char := text.dropWhile isSpace

def hexValue? (c : Char) : Option Nat :=
  if c.isDigit then some (c.toNat - '0'.toNat)
  else if 'a' ≤ c ∧ c ≤ 'f' then some (c.toNat - 'a'.toNat + 10)
  else if 'A' ≤ c ∧ c ≤ 'F' then some (c.toNat - 'A'.toNat + 10)
  else none

/-- The number that four hexadecimal digits spell. -/
def hexUnit? (a b c d : Char) : Option Nat :=
  match hexValue? a, hexValue? b, hexValue? c, hexValue? d with
  | some a, some b, some c, some d => some (((a * 16 + b) * 16 + c) * 16 + d)
  | _, _, _, _ => none

def isHighSurrogate (unit : Nat) : Bool := 0xD800 ≤ unit && unit < 0xDC00

def isLowSurrogate (unit : Nat) : Bool := 0xDC00 ≤ unit && unit < 0xE000

/-- The character that a pair of surrogates stands for. -/
def ofSurrogates (high low : Nat) : Char :=
  Char.ofNat (0x10000 + (high - 0xD800) * 0x400 + (low - 0xDC00))

def shortEscape? (c : Char) : Option Char :=
  if c = '"' then some '"'
  else if c = '\\' then some '\\'
  else if c = '/' then some '/'
  else if c = 'b' then some '\x08'
  else if c = 'f' then some '\x0c'
  else if c = 'n' then some '\n'
  else if c = 'r' then some '\r'
  else if c = 't' then some '\t'
  else none

/-- Puts a character in front of a scanned text. -/
def prepend (c : Char) : Option (List Char × List Char) → Option (List Char × List Char)
  | some (text, rest) => some (c :: text, rest)
  | none => none

/-- Scans the characters of a string, whose opening quote has been taken. -/
def scanString : List Char → Option (List Char × List Char)
  | [] => none
  | '"' :: rest => some ([], rest)
  | '\\' :: 'u' :: a :: b :: c :: d :: rest =>
    match hexUnit? a b c d with
    | none => none
    | some unit =>
      if isLowSurrogate unit then none
      else if isHighSurrogate unit then
        match rest with
        | '\\' :: 'u' :: e :: f :: g :: h :: rest =>
          match hexUnit? e f g h with
          | none => none
          | some low =>
            if isLowSurrogate low then prepend (ofSurrogates unit low) (scanString rest) else none
        | _ => none
      else prepend (Char.ofNat unit) (scanString rest)
  | '\\' :: c :: rest =>
    match shortEscape? c with
    | none => none
    | some c => prepend c (scanString rest)
  | c :: rest => if c.toNat < 0x20 ∨ c = '\\' then none else prepend c (scanString rest)

/-- The digits at the front of a text, if there are any, and the rest. -/
def scanDigits (text : List Char) : Option (List Char × List Char) :=
  match text.takeWhile Char.isDigit with
  | [] => none
  | digits => some (digits, text.dropWhile Char.isDigit)

/-- A number as it is spelled. -/
structure Spelling where
  negative : Bool
  whole : List Char
  fraction : Option (List Char)
  exponent : Option (Bool × List Char)
  deriving DecidableEq, Repr

def scanFraction : List Char → Option (Option (List Char) × List Char)
  | '.' :: rest => (scanDigits rest).map fun (digits, rest) => (some digits, rest)
  | text => some (none, text)

/-- The sign of an exponent; without one it is positive. -/
def scanSign : List Char → Bool × List Char
  | '+' :: rest => (false, rest)
  | '-' :: rest => (true, rest)
  | text => (false, text)

def scanExponent : List Char → Option (Option (Bool × List Char) × List Char)
  | c :: rest =>
    if c = 'e' ∨ c = 'E' then
      let (negative, rest) := scanSign rest
      (scanDigits rest).map fun (digits, rest) => (some (negative, digits), rest)
    else some (none, c :: rest)
  | [] => some (none, [])

def hasLeadingZero : List Char → Bool
  | '0' :: _ :: _ => true
  | _ => false

def scanUnsigned (negative : Bool) (text : List Char) : Option (Spelling × List Char) := do
  let (whole, rest) ← scanDigits text
  if hasLeadingZero whole then none
  else
    let (fraction, rest) ← scanFraction rest
    let (exponent, rest) ← scanExponent rest
    some (⟨negative, whole, fraction, exponent⟩, rest)

def scanNumber : List Char → Option (Spelling × List Char)
  | '-' :: rest => scanUnsigned true rest
  | text => scanUnsigned false text

def digitValue (c : Char) : Nat := c.toNat - '0'.toNat

def numberOfDigits (digits : List Char) : Nat :=
  digits.foldl (fun number c => number * 10 + digitValue c) 0

namespace Spelling

def numeral (spelling : Spelling) : Decimal.Numeral where
  negative := spelling.negative
  whole := spelling.whole.map digitValue
  fraction := (spelling.fraction.getD []).map digitValue
  exponent :=
    match spelling.exponent with
    | none => 0
    | some (negative, digits) =>
      if negative then -(numberOfDigits digits : Int) else numberOfDigits digits

/-- The integer that is spelled, if it is to stay one: minus zero is a double. -/
def integer? (spelling : Spelling) : Option Int :=
  match spelling.fraction, spelling.exponent with
  | none, none =>
    let magnitude : Int := numberOfDigits spelling.whole
    let number := if spelling.negative then -magnitude else magnitude
    if isInteger number && !(spelling.negative && magnitude == 0) then some number else none
  | _, _ => none

/-- The value of a number; it fails beyond the range of doubles. -/
def value? (spelling : Spelling) : Option Json :=
  match spelling.integer? with
  | some number => some (.integer number)
  | none => spelling.numeral.toDouble.map .double

end Spelling

end LinkContract.Json
