import LinkContract.Time.Instant
import LinkContract.Proofs.Json.Numbers
import Mathlib.Algebra.Group.Nat.Defs

/-!
# Numbers of a fixed width

Zeros in front of its digits do not change a number. Numbers that do not need more digits than
the width are all as long as the width, and among digits of one length the greater number comes
later in the order of texts.
-/
namespace LinkContract.Time

theorem isDigit_of_mem_padded (width number : Nat) (c : Char)
    (inside : c ∈ padded width number) : c.isDigit = true := by
  rw [padded, List.mem_append] at inside
  rcases inside with zero | digit
  · rw [List.eq_of_mem_replicate zero]
    decide
  · exact Json.isDigit_of_mem_digits number c digit

theorem padded_ne_nil (width number : Nat) : padded width number ≠ [] := by
  rw [padded]
  exact List.append_ne_nil_of_right_ne_nil _ Nat.toDigits_ne_nil

theorem length_padded (width number : Nat) (positive : 0 < width) (fits : number < 10 ^ width) :
    (padded width number).length = width := by
  have short : (Decimal.digits number).length ≤ width :=
    (Nat.length_toDigits_le_iff (by decide) positive).mpr fits
  rw [padded, List.length_append, Decimal.zeros, List.length_replicate]
  omega

theorem le_length_padded (width number : Nat) : width ≤ (padded width number).length := by
  rw [padded, List.length_append, Decimal.zeros, List.length_replicate]
  omega

/-! ### Numbers of digits -/

theorem numberOfDigits_eq (digits : List Char) :
    Json.numberOfDigits digits = Nat.ofDigitChars 10 digits 0 := by
  rw [Nat.ofDigitChars_eq_foldl]
  simp only [Json.numberOfDigits, Json.digitValue, Nat.mul_comm]

theorem numberOfDigits_cons (c : Char) (rest : List Char) :
    Json.numberOfDigits (c :: rest)
      = 10 ^ rest.length * Json.digitValue c + Json.numberOfDigits rest := by
  rw [numberOfDigits_eq, numberOfDigits_eq, Nat.ofDigitChars_cons,
    Nat.ofDigitChars_eq_ofDigitChars_zero, Nat.mul_zero, Nat.zero_add, Json.digitValue]

theorem numberOfDigits_padded (width number : Nat) :
    Json.numberOfDigits (padded width number) = number := by
  rw [numberOfDigits_eq, padded, Nat.ofDigitChars_append, Decimal.zeros,
    Nat.ofDigitChars_replicate_zero, Nat.mul_zero]
  exact Nat.ofDigitChars_ten_toDigits

theorem isDigit_iff (c : Char) : c.isDigit = true ↔ 48 ≤ c.toNat ∧ c.toNat ≤ 57 := by
  simp only [Char.isDigit, ge_iff_le, Bool.and_eq_true, decide_eq_true_eq, UInt32.le_iff_toNat_le]
  rfl

theorem digitValue_lt (c : Char) (digit : c.isDigit = true) : Json.digitValue c < 10 := by
  rw [isDigit_iff] at digit
  have zero : '0'.toNat = 48 := rfl
  rw [Json.digitValue]
  omega

theorem digitValue_lt_of_lt (c d : Char) (smaller : c < d) (digit : c.isDigit = true) :
    Json.digitValue c < Json.digitValue d := by
  have order : c.toNat < d.toNat := smaller
  rw [isDigit_iff] at digit
  have zero : '0'.toNat = 48 := rfl
  rw [Json.digitValue, Json.digitValue]
  omega

theorem numberOfDigits_lt (digits : List Char) (all : ∀ c ∈ digits, c.isDigit = true) :
    Json.numberOfDigits digits < 10 ^ digits.length := by
  induction digits with
  | nil => decide
  | cons c rest ih =>
    rw [List.forall_mem_cons] at all
    have value := digitValue_lt c all.1
    have below := ih all.2
    rw [numberOfDigits_cons, List.length_cons, Nat.pow_succ]
    calc 10 ^ rest.length * Json.digitValue c + Json.numberOfDigits rest
        < 10 ^ rest.length * Json.digitValue c + 10 ^ rest.length := Nat.add_lt_add_left below _
      _ = 10 ^ rest.length * (Json.digitValue c + 1) := (Nat.mul_succ _ _).symm
      _ ≤ 10 ^ rest.length * 10 := Nat.mul_le_mul_left _ value

/-- By induction on the common beginning; the first digits that differ decide, as the ones behind
them make up less than one in their place. -/
theorem numberOfDigits_lt_of_lt (first second : List Char) (before : first < second)
    (same : first.length = second.length) (one : ∀ c ∈ first, c.isDigit = true)
    (other : ∀ c ∈ second, c.isDigit = true) :
    Json.numberOfDigits first < Json.numberOfDigits second := by
  induction before with
  | nil => cases same
  | @rel c firstRest d secondRest smaller =>
    rw [List.forall_mem_cons] at one other
    have values := digitValue_lt_of_lt c d smaller one.1
    have below := numberOfDigits_lt firstRest one.2
    have lengths : firstRest.length = secondRest.length := Nat.succ.inj same
    rw [numberOfDigits_cons, numberOfDigits_cons, ← lengths]
    calc 10 ^ firstRest.length * Json.digitValue c + Json.numberOfDigits firstRest
        < 10 ^ firstRest.length * Json.digitValue c + 10 ^ firstRest.length :=
          Nat.add_lt_add_left below _
      _ = 10 ^ firstRest.length * (Json.digitValue c + 1) := (Nat.mul_succ _ _).symm
      _ ≤ 10 ^ firstRest.length * Json.digitValue d := Nat.mul_le_mul_left _ values
      _ ≤ 10 ^ firstRest.length * Json.digitValue d + Json.numberOfDigits secondRest :=
          Nat.le_add_right _ _
  | @cons c firstRest secondRest before ih =>
    rw [List.forall_mem_cons] at one other
    have lengths : firstRest.length = secondRest.length := Nat.succ.inj same
    rw [numberOfDigits_cons, numberOfDigits_cons, lengths]
    exact Nat.add_lt_add_left (ih lengths one.2 other.2) _

theorem padded_lt_padded (width first second : Nat) (positive : 0 < width) (less : first < second)
    (fits : second < 10 ^ width) : padded width first < padded width second := by
  have lengths : (padded width first).length = (padded width second).length := by
    rw [length_padded width first positive (Nat.lt_trans less fits),
      length_padded width second positive fits]
  -- were the texts equal or in the other order, the numbers would be so too
  rcases Std.lt_trichotomy (padded width first) (padded width second) with before | same | after
  · exact before
  · have numbers := numberOfDigits_padded width first
    rw [same, numberOfDigits_padded] at numbers
    exact absurd numbers (Nat.ne_of_gt less)
  · have numbers := numberOfDigits_lt_of_lt _ _ after lengths.symm
      (isDigit_of_mem_padded width second) (isDigit_of_mem_padded width first)
    rw [numberOfDigits_padded, numberOfDigits_padded] at numbers
    exact absurd numbers (Nat.lt_asymm less)

end LinkContract.Time
