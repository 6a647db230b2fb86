import LinkContract.Allocation.Request
import Mathlib.Order.Bounds.Basic

/-!
# Rounding requests

A mask that is one less than a power of two selects the remainder, so clearing the bits of
the mask rounds a word down to a multiple, and adding the mask first rounds it up. The sum
stays in the range of words exactly when the multiple does.

`requestFor_eq_ok_iff` and `requestFor_eq_error_iff` say with numbers alone what is asked of
the host, and when it is not asked; `aligned_requests_exact` puts both together for requests
with an alignment.
-/
namespace LinkContract.Allocation

theorem isPowerOfTwo_iff (word : Word) :
    isPowerOfTwo word = true ↔ word.toNat.isPowerOfTwo := by
  rw [← Nat.ne_zero_and_sub_one_eq_zero_iff_isPowerOfTwo, isPowerOfTwo]
  by_cases zero : word = 0
  · simp [zero]
  · have positive : word.toNat ≠ 0 := fun same => zero (UInt64.toNat_inj.mp same)
    have one : (1 : Word) ≤ word := UInt64.le_iff_toNat_le.mpr (Nat.one_le_iff_ne_zero.mpr positive)
    simp [← UInt64.toNat_inj, UInt64.toNat_sub_of_le word 1 one]

theorem one_le_of_isPowerOfTwo (alignment : Word) (power : alignment.toNat.isPowerOfTwo) :
    1 ≤ alignment.toNat :=
  Nat.pos_of_isPowerOfTwo power

/-! ### Masks -/

theorem toNat_mask (alignment : Word) (power : alignment.toNat.isPowerOfTwo) :
    (alignment - 1).toNat = alignment.toNat - 1 :=
  UInt64.toNat_sub_of_le alignment 1
    (UInt64.le_iff_toNat_le.mpr (one_le_of_isPowerOfTwo alignment power))

theorem toNat_and_mask (word alignment : Word) (power : alignment.toNat.isPowerOfTwo) :
    (word &&& (alignment - 1)).toNat = word.toNat % alignment.toNat := by
  obtain ⟨exponent, same⟩ := power
  rw [UInt64.toNat_and, toNat_mask alignment ⟨exponent, same⟩, same,
    Nat.and_two_pow_sub_one_eq_mod]

/-- A mask and its complement share the bits of a word out between them. -/
theorem toNat_and_not_add (word mask : Word) :
    (word &&& ~~~mask).toNat + (word &&& mask).toNat = word.toNat := by
  have apart : (word.toBitVec &&& ~~~mask.toBitVec) &&& (word.toBitVec &&& mask.toBitVec)
      = 0#64 := by
    ext i
    simp only [BitVec.getElem_and, BitVec.getElem_not, BitVec.getElem_zero]
    cases word.toBitVec[i] <;> cases mask.toBitVec[i] <;> rfl
  have together : (word.toBitVec &&& ~~~mask.toBitVec) ||| (word.toBitVec &&& mask.toBitVec)
      = word.toBitVec := by
    ext i
    simp only [BitVec.getElem_or, BitVec.getElem_and, BitVec.getElem_not]
    cases word.toBitVec[i] <;> cases mask.toBitVec[i] <;> rfl
  have sum := BitVec.toNat_add_of_and_eq_zero apart
  rw [BitVec.add_eq_or_of_and_eq_zero _ _ apart, together] at sum
  exact sum.symm

theorem toNat_and_not_mask (word alignment : Word) (power : alignment.toNat.isPowerOfTwo) :
    (word &&& ~~~(alignment - 1)).toNat = word.toNat / alignment.toNat * alignment.toNat := by
  have shared := toNat_and_not_add word (alignment - 1)
  have whole := Nat.div_add_mod' word.toNat alignment.toNat
  rw [toNat_and_mask word alignment power] at shared
  omega

/-- A word whose masked bits are clear is a multiple, whether or not it came from rounding. -/
theorem isAlignedTo_iff (address alignment : Word) (power : alignment.toNat.isPowerOfTwo) :
    isAlignedTo address alignment = true ↔ alignment.toNat ∣ address.toNat := by
  have nonzero : alignment ≠ 0 := by
    rintro rfl
    exact absurd (one_le_of_isPowerOfTwo 0 power) (by decide)
  rw [Nat.dvd_iff_mod_eq_zero, ← toNat_and_mask address alignment power, isAlignedTo]
  simp [nonzero, ← UInt64.toNat_inj]

/-! ### Multiples with room -/

/-- The multiples of an alignment that have room for so many bytes. -/
def roomyMultiples (alignment size : Nat) : Set Nat :=
  {multiple | alignment ∣ multiple ∧ size ≤ multiple}

theorem isLeast_roomyMultiples (alignment size : Nat) (positive : 1 ≤ alignment) :
    IsLeast (roomyMultiples alignment size)
      ((size + (alignment - 1)) / alignment * alignment) := by
  have whole := Nat.div_add_mod' (size + (alignment - 1)) alignment
  have remainder := Nat.mod_lt (size + (alignment - 1)) positive
  refine ⟨⟨Nat.dvd_mul_left _ _, by omega⟩, ?_⟩
  rintro multiple ⟨⟨factor, rfl⟩, room⟩
  -- a smaller factor leaves less room than the size
  rw [Nat.mul_comm alignment factor]
  apply Nat.mul_le_mul_right
  apply Nat.le_of_lt_succ
  rw [Nat.div_lt_iff_lt_mul positive, Nat.succ_mul, Nat.mul_comm factor alignment]
  omega

theorem dvd_size_of_isPowerOfTwo (alignment : Word) (power : alignment.toNat.isPowerOfTwo) :
    alignment.toNat ∣ UInt64.size := by
  obtain ⟨exponent, same⟩ := power
  have below := alignment.toNat_lt
  rw [same] at below ⊢
  have order : exponent ≤ 64 := Nat.le_of_lt ((Nat.pow_lt_pow_iff_right (by decide)).mp below)
  exact Nat.pow_dvd_pow 2 order

/-- Room for the bytes of the mask is room for a multiple. -/
theorem roundUp_eq_none_iff (size alignment : Word) (power : alignment.toNat.isPowerOfTwo) :
    roundUp size alignment = none
      ↔ ∀ multiple ∈ roomyMultiples alignment.toNat size.toNat, UInt64.size ≤ multiple := by
  have positive := one_le_of_isPowerOfTwo alignment power
  simp only [roundUp, toNat_mask alignment power, ite_eq_right_iff, reduceCtorEq, imp_false,
    Nat.not_lt]
  constructor
  · rintro tooLarge multiple ⟨divides, room⟩
    by_contra below
    -- from a multiple to the end of the range it is another multiple
    have gap : alignment.toNat ∣ UInt64.size - multiple :=
      Nat.dvd_sub (dvd_size_of_isPowerOfTwo alignment power) divides
    have wide := Nat.le_of_dvd (by omega) gap
    omega
  · intro beyond
    -- the least multiple with room is no word, and it is at most the sum
    have least := isLeast_roomyMultiples alignment.toNat size.toNat positive
    have bound := Nat.div_mul_le_self (size.toNat + (alignment.toNat - 1)) alignment.toNat
    exact Nat.le_trans (beyond _ least.1) bound

theorem isLeast_of_roundUp_eq_some (size alignment rounded : Word)
    (power : alignment.toNat.isPowerOfTwo) (found : roundUp size alignment = some rounded) :
    IsLeast (roomyMultiples alignment.toNat size.toNat) rounded.toNat := by
  rw [roundUp] at found
  split at found
  next fits =>
    cases found
    have sum : (size + (alignment - 1)).toNat = size.toNat + (alignment.toNat - 1) := by
      rw [UInt64.toNat_add, Nat.mod_eq_of_lt fits, toNat_mask alignment power]
    rw [toNat_and_not_mask _ alignment power, sum]
    exact isLeast_roomyMultiples _ _ (one_le_of_isPowerOfTwo alignment power)
  next => cases found

/-- There is no word among the multiples when there is none at the least of them. -/
theorem beyond_iff_least (alignment size : Nat) (positive : 1 ≤ alignment) :
    (∀ multiple ∈ roomyMultiples alignment size, UInt64.size ≤ multiple)
      ↔ ∃ least, IsLeast (roomyMultiples alignment size) least ∧ UInt64.size ≤ least := by
  have found := isLeast_roomyMultiples alignment size positive
  constructor
  · exact fun beyond => ⟨_, found, beyond _ found.1⟩
  · rintro ⟨least, lowest, large⟩ multiple roomy
    exact Nat.le_trans large (lowest.2 roomy)

/-! ### Requests -/

theorem toNat_atLeastOne (size : Word) : (atLeastOne size).toNat = max size.toNat 1 := by
  rw [atLeastOne]
  split
  next zero => simp [zero]
  next positive =>
    have occupied : size.toNat ≠ 0 := fun same => positive (UInt64.toNat_inj.mp same)
    omega

/-- The request has room for the size, and no more than that calls for: a plain one is for the
size itself, an aligned one for the least multiple of the alignment. -/
inductive Request.Covers (size : Word) : Option Word → Request → Prop where
  | plain (asked : Word) (exact : asked.toNat = max size.toNat 1) : Covers size none ⟨asked, none⟩
  | aligned (alignment asked : Word) (power : alignment.toNat.isPowerOfTwo)
      (least : IsLeast (roomyMultiples alignment.toNat (max size.toNat 1)) asked.toNat) :
      Covers size (some alignment) ⟨asked, some alignment⟩

/-- The operands call for no request: the alignment is no power of two, or none of its multiples
that has room is a word. -/
inductive Refuses (size : Word) : Option Word → Refusal → Prop where
  | invalidAlignment (alignment : Word) (power : ¬ alignment.toNat.isPowerOfTwo) :
      Refuses size (some alignment) (.invalidAlignment alignment)
  | sizeOverflow (alignment : Word) (power : alignment.toNat.isPowerOfTwo)
      (beyond : ∀ multiple ∈ roomyMultiples alignment.toNat (max size.toNat 1),
        UInt64.size ≤ multiple) :
      Refuses size (some alignment) (.sizeOverflow size alignment)

theorem covers_of_requestFor (size : Word) (alignment : Option Word) (request : Request)
    (asked : requestFor size alignment = .ok request) : request.Covers size alignment := by
  cases alignment with
  | none =>
    cases asked
    exact .plain _ (toNat_atLeastOne size)
  | some alignment =>
    rw [requestFor, Request.aligned] at asked
    split at asked
    next power =>
      rw [isPowerOfTwo_iff] at power
      cases found : roundUp (atLeastOne size) alignment with
      | none => simp [found] at asked
      | some rounded =>
        rw [found] at asked
        cases asked
        have least := isLeast_of_roundUp_eq_some _ alignment rounded power found
        rw [toNat_atLeastOne] at least
        exact .aligned alignment rounded power least
    next => cases asked

theorem refuses_of_requestFor (size : Word) (alignment : Option Word) (refusal : Refusal)
    (refused : requestFor size alignment = .error refusal) : Refuses size alignment refusal := by
  cases alignment with
  | none => cases refused
  | some alignment =>
    rw [requestFor, Request.aligned] at refused
    split at refused
    next power =>
      rw [isPowerOfTwo_iff] at power
      cases found : roundUp (atLeastOne size) alignment with
      | some rounded => simp [found] at refused
      | none =>
        rw [found] at refused
        cases refused
        have beyond := (roundUp_eq_none_iff _ alignment power).mp found
        rw [toNat_atLeastOne] at beyond
        exact .sizeOverflow alignment power beyond
    next odd =>
      cases refused
      rw [isPowerOfTwo_iff] at odd
      exact .invalidAlignment alignment odd

theorem Request.Covers.room {size : Word} {alignment : Option Word} {request : Request}
    (covers : request.Covers size alignment) :
    size.toNat ≤ request.size.toNat ∧ 1 ≤ request.size.toNat := by
  cases covers with
  | plain asked exact => exact ⟨by simp [exact], by simp [exact]⟩
  | aligned alignment asked power least => exact Nat.max_le.mp least.1.2

theorem not_refuses_of_covers (size : Word) (alignment : Option Word) (request : Request)
    (covers : request.Covers size alignment) (refusal : Refusal) :
    ¬ Refuses size alignment refusal := by
  intro refuses
  cases refuses with
  | invalidAlignment alignment odd =>
    cases covers with
    | aligned _ asked power least => exact odd power
  | sizeOverflow alignment _ beyond =>
    cases covers with
    | aligned _ asked power least => exact absurd asked.toNat_lt (Nat.not_lt.mpr (beyond _ least.1))

theorem covers_unique (size : Word) (alignment : Option Word) (first second : Request)
    (one : first.Covers size alignment) (other : second.Covers size alignment) :
    first = second := by
  cases one with
  | plain asked exact =>
    cases other with
    | plain same exactly => rw [UInt64.toNat_inj.mp (exact.trans exactly.symm)]
  | aligned alignment asked power least =>
    cases other with
    | aligned _ same _ also => rw [UInt64.toNat_inj.mp (least.unique also)]

theorem refuses_unique (size : Word) (alignment : Option Word) (first second : Refusal)
    (one : Refuses size alignment first) (other : Refuses size alignment second) :
    first = second := by
  cases one with
  | invalidAlignment alignment odd =>
    cases other with
    | invalidAlignment => rfl
    | sizeOverflow _ power => exact absurd power odd
  | sizeOverflow alignment power =>
    cases other with
    | invalidAlignment _ odd => exact absurd power odd
    | sizeOverflow => rfl

/-- The host is asked for just the request that covers the operands. -/
theorem requestFor_eq_ok_iff (size : Word) (alignment : Option Word) (request : Request) :
    requestFor size alignment = .ok request ↔ request.Covers size alignment := by
  refine ⟨covers_of_requestFor size alignment request, fun covers => ?_⟩
  cases outcome : requestFor size alignment with
  | ok other =>
    have also := covers_of_requestFor size alignment other outcome
    rw [covers_unique size alignment other request also covers]
  | error refusal =>
    have refuses := refuses_of_requestFor size alignment refusal outcome
    exact absurd refuses (not_refuses_of_covers size alignment request covers refusal)

theorem requestFor_eq_error_iff (size : Word) (alignment : Option Word) (refusal : Refusal) :
    requestFor size alignment = .error refusal ↔ Refuses size alignment refusal := by
  refine ⟨refuses_of_requestFor size alignment refusal, fun refuses => ?_⟩
  cases outcome : requestFor size alignment with
  | ok request =>
    have covers := covers_of_requestFor size alignment request outcome
    exact absurd refuses (not_refuses_of_covers size alignment request covers refusal)
  | error other =>
    have also := refuses_of_requestFor size alignment other outcome
    rw [refuses_unique size alignment other refusal also refuses]

/-! ### Aligned requests -/

theorem aligned_eq_ok_iff (size alignment : Word) (request : Request) :
    Request.aligned size alignment = .ok request
      ↔ alignment.toNat.isPowerOfTwo ∧ request.alignment = some alignment
        ∧ IsLeast (roomyMultiples alignment.toNat (max size.toNat 1)) request.size.toNat := by
  refine (requestFor_eq_ok_iff size (some alignment) request).trans ⟨?_, ?_⟩
  · rintro ⟨⟩
    next asked power least => exact ⟨power, rfl, least⟩
  · obtain ⟨asked, named⟩ := request
    rintro ⟨power, rfl, least⟩
    exact .aligned alignment asked power least

/-- Aligned requests are exact on all words. An alignment is refused just when it is no power of
two, whatever the size; a size is refused, and named as it was given, just when the least multiple
of the alignment with room for it is no word; else that multiple is asked for. Of the addresses
the multiples of the alignment are the aligned ones. -/
theorem aligned_requests_exact (size alignment : Word) :
    let power := alignment.toNat.isPowerOfTwo
    let least := IsLeast (roomyMultiples alignment.toNat (max size.toNat 1))
    let outcome := Request.aligned size alignment
    (∀ named, outcome = .error (.invalidAlignment named) ↔ named = alignment ∧ ¬ power)
      ∧ (∀ carried named, outcome = .error (.sizeOverflow carried named)
        ↔ (carried = size ∧ named = alignment)
          ∧ power ∧ ∃ multiple, least multiple ∧ UInt64.size ≤ multiple)
      ∧ (∀ request, outcome = .ok request
        ↔ power ∧ request.alignment = some alignment ∧ least request.size.toNat)
      ∧ ((∃ request, outcome = .ok request)
        ↔ power ∧ ∃ multiple, least multiple ∧ multiple < UInt64.size)
      ∧ (∀ request, outcome = .ok request → isAlignedTo request.size alignment = true)
      ∧ (power → ∀ address,
        isAlignedTo address alignment = true ↔ alignment.toNat ∣ address.toNat) := by
  intro power least outcome
  have succeeds (request : Request) := aligned_eq_ok_iff size alignment request
  refine ⟨?_, ?_, succeeds, ?_, ?_, fun isPower address =>
    isAlignedTo_iff address alignment isPower⟩
  · intro named
    refine (requestFor_eq_error_iff size (some alignment) _).trans ⟨?_, ?_⟩
    · rintro ⟨⟩
      next odd => exact ⟨rfl, odd⟩
    · rintro ⟨rfl, odd⟩
      exact .invalidAlignment named odd
  · intro carried named
    refine (requestFor_eq_error_iff size (some alignment) _).trans ⟨?_, ?_⟩
    · rintro ⟨⟩
      next isPower beyond =>
        have positive := one_le_of_isPowerOfTwo alignment isPower
        exact ⟨⟨rfl, rfl⟩, isPower, (beyond_iff_least _ _ positive).mp beyond⟩
    · rintro ⟨⟨rfl, rfl⟩, isPower, large⟩
      have positive := one_le_of_isPowerOfTwo named isPower
      exact .sizeOverflow named isPower ((beyond_iff_least _ _ positive).mpr large)
  · constructor
    · rintro ⟨request, asked⟩
      obtain ⟨isPower, -, lowest⟩ := (succeeds request).mp asked
      exact ⟨isPower, _, lowest, request.size.toNat_lt⟩
    · rintro ⟨isPower, multiple, lowest, small⟩
      -- the least multiple is a word, and that word is asked for
      have same : (UInt64.ofNat multiple).toNat = multiple := UInt64.toNat_ofNat_of_lt small
      refine ⟨⟨UInt64.ofNat multiple, some alignment⟩, (succeeds _).mpr ⟨isPower, rfl, ?_⟩⟩
      rwa [same]
  · intro request asked
    obtain ⟨isPower, -, lowest⟩ := (succeeds request).mp asked
    exact (isAlignedTo_iff request.size alignment isPower).mpr lowest.1.1

example : Request.aligned 18446744073709551600 16 = .ok ⟨18446744073709551600, some 16⟩
    ∧ Request.aligned 18446744073709551601 16 = .error (.sizeOverflow 18446744073709551601 16) :=
  ⟨rfl, rfl⟩

end LinkContract.Allocation
