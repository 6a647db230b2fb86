import LinkContract.Json.Parse
import LinkContract.Json.Render

/-!
# Strings that read back

The scanner takes a written character off the front of a text and goes on behind it,
whether the character was escaped or stands for itself.
-/
namespace LinkContract.Json

theorem hexValue?_hexDigit : ∀ digit, digit < 16 → hexValue? (hexDigit digit) = some digit := by
  decide

theorem hexUnit?_hexDigits (number : Nat) (small : number < 256) :
    hexUnit? '0' '0' (hexDigit (number / 16)) (hexDigit (number % 16)) = some number := by
  have zero : hexValue? '0' = some 0 := by decide
  have high := hexValue?_hexDigit (number / 16) (by omega)
  have low := hexValue?_hexDigit (number % 16) (by omega)
  simp only [hexUnit?, zero, high, low, Option.some.injEq]
  omega

theorem scanString_short (letter c : Char) (rest : List Char) (plain : letter ≠ 'u')
    (short : shortEscape? letter = some c) :
    scanString ('\\' :: letter :: rest) = prepend c (scanString rest) := by
  rw [scanString]
  · simp only [short]
  · intro _ _ _ _ _ same
    exact absurd same plain

/-- A control character is far below the surrogates. -/
theorem scanString_unit (c : Char) (rest : List Char) (control : c.toNat < 0x20) :
    scanString ('\\' :: 'u' :: '0' :: '0' :: hexDigit (c.toNat / 16)
        :: hexDigit (c.toNat % 16) :: rest)
      = prepend c (scanString rest) := by
  have unit := hexUnit?_hexDigits c.toNat (by omega)
  have low : isLowSurrogate c.toNat = false := by simp [isLowSurrogate]; omega
  have high : isHighSurrogate c.toNat = false := by simp [isHighSurrogate]; omega
  rw [scanString]
  simp only [unit, low, high, Bool.false_eq_true, if_false, Char.ofNat_toNat]

theorem scanString_plain (c : Char) (rest : List Char) (notQuote : c ≠ '"')
    (notBackslash : c ≠ '\\') (printed : ¬ c.toNat < 0x20) :
    scanString (c :: rest) = prepend c (scanString rest) := by
  rw [scanString, if_neg (not_or.mpr ⟨printed, notBackslash⟩)]
  · exact fun same => notQuote same
  · intro _ _ _ _ _ same
    exact absurd same notBackslash
  · intro _ _ same
    exact absurd same notBackslash

theorem scanString_escape (c : Char) (rest : List Char) :
    scanString (escape c ++ rest) = prepend c (scanString rest) := by
  simp only [escape]
  -- the cases are those of `escape`: two marks, five letters, a code, and the character itself
  split
  next quote =>
    subst quote
    exact scanString_short '"' '"' rest (by decide) (by decide)
  split
  next backslash =>
    subst backslash
    exact scanString_short '\\' '\\' rest (by decide) (by decide)
  split
  next same =>
    subst same
    exact scanString_short 'b' '\x08' rest (by decide) (by decide)
  split
  next same =>
    subst same
    exact scanString_short 'f' '\x0c' rest (by decide) (by decide)
  split
  next same =>
    subst same
    exact scanString_short 'n' '\n' rest (by decide) (by decide)
  split
  next same =>
    subst same
    exact scanString_short 'r' '\r' rest (by decide) (by decide)
  split
  next same =>
    subst same
    exact scanString_short 't' '\t' rest (by decide) (by decide)
  split
  next control => exact scanString_unit c rest control
  next notQuote notBackslash _ _ _ _ _ printed =>
    exact scanString_plain c rest notQuote notBackslash printed

/-- By induction on the text; the closing quote is the first one that is not escaped. -/
theorem scanString_escaped (text rest : List Char) :
    scanString (text.flatMap escape ++ '"' :: rest) = some (text, rest) := by
  induction text with
  | nil => rw [List.flatMap_nil, List.nil_append, scanString]
  | cons c others ih =>
    rw [List.flatMap_cons, List.append_assoc, scanString_escape, ih, prepend]

end LinkContract.Json
