import LinkContract.Json.Parse
import LinkContract.Json.Render

/-!
# Integers that read back

A written integer has no leading zero, so the scanner accepts it, and its digits give the
number again. It ends where a character stands that cannot continue a number.
-/
namespace LinkContract.Json

/-- A number may go on with it. -/
def continuesNumber (c : Char) : Bool := c.isDigit || c == '.' || c == 'e' || c == 'E'

/-- What follows does not continue a number. -/
def EndsNumber (rest : List Char) : Prop := ∀ c, rest.head? = some c → continuesNumber c = false

theorem continuesNumber_eq_false_iff (c : Char) :
    continuesNumber c = false ↔ c.isDigit = false ∧ c ≠ '.' ∧ c ≠ 'e' ∧ c ≠ 'E' := by
  simp [continuesNumber, and_assoc]

theorem endsNumber_nil : EndsNumber [] := by
  intro c first
  cases first

theorem endsNumber_cons (c : Char) (rest : List Char) (stops : continuesNumber c = false) :
    EndsNumber (c :: rest) := by
  intro d first
  cases first
  exact stops

theorem isDigit_of_mem_digits (number : Nat) (c : Char) (member : c ∈ Decimal.digits number) :
    c.isDigit = true :=
  Nat.isDigit_of_mem_toDigits (by decide) (by decide) member

theorem numberOfDigits_digits (number : Nat) : numberOfDigits (Decimal.digits number) = number := by
  have value := @Nat.ofDigitChars_ten_toDigits number
  rw [Nat.ofDigitChars_eq_foldl] at value
  simpa only [numberOfDigits, digitValue, Decimal.digits, Nat.mul_comm] using value

theorem digits_cons (number : Nat) :
    ∃ c rest, Decimal.digits number = c :: rest ∧ c.isDigit = true := by
  cases shape : Decimal.digits number with
  | nil => exact absurd shape Nat.toDigits_ne_nil
  | cons c rest =>
    exact ⟨c, rest, rfl, isDigit_of_mem_digits number c (shape ▸ List.mem_cons_self)⟩

theorem digitChar_ne_zero : ∀ digit, digit < 10 → 0 < digit → Nat.digitChar digit ≠ '0' := by
  decide

/-- By induction on the digits, the last one being split off. -/
theorem head_digits (number : Nat) (positive : 0 < number) :
    ∃ c rest, Decimal.digits number = c :: rest ∧ c ≠ '0' := by
  induction number using Nat.base_induction 10 (by decide) with
  | single digit small =>
    refine ⟨Nat.digitChar digit, [], ?_, digitChar_ne_zero digit small positive⟩
    rw [Decimal.digits, Nat.toDigits_of_lt_base small]
  | digit number digit small leading ih =>
    obtain ⟨c, rest, shape, other⟩ := ih leading
    refine ⟨c, rest ++ Nat.toDigits 10 digit, ?_, other⟩
    rw [Decimal.digits, ← Nat.toDigits_append_toDigits (by decide) leading small]
    rw [Decimal.digits] at shape
    rw [shape, List.cons_append]

theorem hasLeadingZero_digits (number : Nat) : hasLeadingZero (Decimal.digits number) = false := by
  rcases Nat.eq_zero_or_pos number with rfl | positive
  · decide
  · obtain ⟨c, rest, shape, other⟩ := head_digits number positive
    rw [shape]
    unfold hasLeadingZero
    split
    next same => exact absurd (List.cons.inj same).1 other
    next => rfl

theorem scanDigits_append (digits rest : List Char) (occupied : digits ≠ [])
    (each : ∀ c ∈ digits, c.isDigit = true)
    (stops : ∀ c, rest.head? = some c → c.isDigit = false) :
    scanDigits (digits ++ rest) = some (digits, rest) := by
  have front : rest.takeWhile Char.isDigit = [] := by
    cases rest with
    | nil => rfl
    | cons c others => simp [stops c rfl]
  have back : rest.dropWhile Char.isDigit = rest := by
    cases rest with
    | nil => rfl
    | cons c others => simp [stops c rfl]
  rw [scanDigits, List.takeWhile_append_of_pos each, List.dropWhile_append_of_pos each, front, back,
    List.append_nil]
  cases digits with
  | nil => exact absurd rfl occupied
  | cons c others => rfl

theorem scanFraction_of_endsNumber (rest : List Char) (ends : EndsNumber rest) :
    scanFraction rest = some (none, rest) := by
  unfold scanFraction
  split
  next others => exact absurd rfl ((continuesNumber_eq_false_iff '.').mp (ends '.' rfl)).2.1
  next => rfl

theorem scanExponent_of_endsNumber (rest : List Char) (ends : EndsNumber rest) :
    scanExponent rest = some (none, rest) := by
  cases rest with
  | nil => rfl
  | cons c others =>
    have stops := (continuesNumber_eq_false_iff c).mp (ends c rfl)
    have notExponent : ¬ (c = 'e' ∨ c = 'E') := not_or.mpr stops.2.2
    rw [scanExponent, if_neg notExponent]

theorem scanUnsigned_digits (negative : Bool) (number : Nat) (rest : List Char)
    (ends : EndsNumber rest) :
    scanUnsigned negative (Decimal.digits number ++ rest)
      = some (⟨negative, Decimal.digits number, none, none⟩, rest) := by
  have whole : scanDigits (Decimal.digits number ++ rest) = some (Decimal.digits number, rest) :=
    scanDigits_append _ rest Nat.toDigits_ne_nil (isDigit_of_mem_digits number)
      fun c first => ((continuesNumber_eq_false_iff c).mp (ends c first)).1
  simp [scanUnsigned, whole, hasLeadingZero_digits, scanFraction_of_endsNumber rest ends,
    scanExponent_of_endsNumber rest ends]

/-- A sign is written for negative numbers only, and a digit is no sign. -/
theorem scanNumber_integerText (number : Int) (rest : List Char) (ends : EndsNumber rest) :
    scanNumber (integerText number ++ rest)
      = some (⟨decide (number < 0), Decimal.digits number.natAbs, none, none⟩, rest) := by
  by_cases negative : number < 0
  · simp only [integerText, negative, if_true, List.cons_append, scanNumber, decide_true,
      scanUnsigned_digits true number.natAbs rest ends]
  · have unsigned := scanUnsigned_digits false number.natAbs rest ends
    obtain ⟨c, others, shape, digit⟩ := digits_cons number.natAbs
    -- the scanner looks for a sign first
    have notSign : c ≠ '-' := by
      rintro rfl
      revert digit
      decide
    simp only [integerText, negative, if_false, decide_false]
    rw [shape, List.cons_append] at unsigned ⊢
    rw [scanNumber, unsigned]
    exact fun _ same => absurd (List.cons.inj same).1 notSign

/-- Minus zero is not written for any integer. -/
theorem value?_integer (number : Int) (fits : isInteger number = true) :
    Spelling.value? ⟨decide (number < 0), Decimal.digits number.natAbs, none, none⟩
      = some (.integer number) := by
  -- the sign is read apart from the digits, which spell the magnitude
  have magnitude : ((number.natAbs : Nat) : Int) = if number < 0 then -number else number := by
    split <;> omega
  have kept : Spelling.integer? ⟨decide (number < 0), Decimal.digits number.natAbs, none, none⟩
      = some number := by
    simp only [Spelling.integer?, numberOfDigits_digits, magnitude]
    by_cases negative : number < 0
    · have nonzero : number ≠ 0 := by omega
      simp [negative, fits, nonzero]
    · simp [negative, fits]
  rw [Spelling.value?, kept]

end LinkContract.Json
