import Keyspace.Proofs.Number.Order
import Mathlib.Algebra.Order.Ring.Pow
import Mathlib.Tactic.Ring

/-!
# The range of binary values

An integer has a binary value nearest to it unless it is out of range. `ofInt?_cases` says which
integers are: those from halfway above the greatest value on. All others that are not zero have a value
of their sign that is not zero either. A value is positive when its place is above that of zero.
-/

namespace Keyspace

namespace Binary64

/-- A quotient is rounded to one of its two neighbours. -/
theorem roundQuotient_bounds (numerator denominator : Nat) :
    numerator / denominator ≤ roundQuotient numerator denominator ∧
      roundQuotient numerator denominator ≤ numerator / denominator + 1 := by
  unfold roundQuotient
  dsimp only
  split_ifs <;> omega

/-- A quotient below an even number is rounded to it from halfway below it on. -/
theorem roundQuotient_eq_even_iff {numerator denominator : Nat} (half : Nat)
    (positive : 0 < denominator) (below : numerator < 2 * half * denominator) :
    roundQuotient numerator denominator = 2 * half ↔
      (4 * half - 1) * denominator ≤ 2 * numerator := by
  have divided := Nat.div_add_mod numerator denominator
  have rest := Nat.mod_lt numerator positive
  have under : numerator / denominator < 2 * half := (Nat.div_lt_iff_lt_mul positive).2 below
  have bounds := roundQuotient_bounds numerator denominator
  by_cases last : numerator / denominator + 1 = 2 * half
  · -- The quotient is odd, so that a tie is rounded up.
    have halfway : (4 * half - 1) * denominator =
        2 * (denominator * (numerator / denominator)) + denominator := by
      have twice : 4 * half - 1 = 2 * (numerator / denominator) + 1 := by omega
      rw [twice]
      ring
    unfold roundQuotient
    dsimp only
    split_ifs <;> omega
  · have beyond : (2 * (numerator / denominator) + 3) * denominator ≤
        (4 * half - 1) * denominator := Nat.mul_le_mul_right _ (by omega)
    have expanded : (2 * (numerator / denominator) + 3) * denominator =
        2 * (denominator * (numerator / denominator)) + 3 * denominator := by ring
    omega

/-- A natural number keeps a number of bits when its others are cut off behind these, or when it is
filled up to them. -/
theorem le_scaledQuotient {number : Nat} (nonzero : number ≠ 0) (bits : Nat) :
    2 ^ bits ≤ scaledQuotient number 1 ((Nat.log2 number : Int) - bits) := by
  have divisor : 0 < 2 ^ ((Nat.log2 number : Int) - bits).toNat := Nat.two_pow_pos _
  rw [scaledQuotient, one_mul, Nat.le_div_iff_mul_le divisor, ← Nat.pow_add]
  have sameBits : bits + ((Nat.log2 number : Int) - bits).toNat =
      Nat.log2 number + (-((Nat.log2 number : Int) - bits)).toNat := by omega
  rw [sameBits, Nat.pow_add]
  exact Nat.mul_le_mul_right _ (Nat.log2_self_le nonzero)

/-- The exponent of a natural number leaves 52 bits below its highest one. -/
theorem exponentOf_one {number : Nat} (nonzero : number ≠ 0) :
    exponentOf number 1 = (Nat.log2 number : Int) - 52 := by
  have enough := Nat.not_lt.2 (le_scaledQuotient nonzero precision)
  have noBits : Nat.log2 1 = 0 := by decide
  simp only [exponentOf, noBits, Nat.cast_zero, Int.sub_zero, if_neg enough]
  simp only [precision, leastExponent]
  omega

/-- Where integers begin to be out of range: halfway above the greatest value. -/
def rangeEnd : Nat := 2 ^ 1024 - 2 ^ 970

/-- Zero is in range. -/
theorem rangeEnd_pos : 0 < rangeEnd := by
  have more : 2 ^ 970 < 2 ^ 1024 := pow_lt_pow_right₀ one_lt_two (by decide)
  exact Nat.sub_pos_of_lt more

/-- Among the natural numbers of at most 1024 bits, those from the end of the range on are rounded up
to one that has more. -/
theorem roundQuotient_eq_iff_rangeEnd_le {number : Nat} (below : number < 2 ^ 1024) :
    roundQuotient number (2 ^ 971) = 2 ^ 53 ↔ rangeEnd ≤ number := by
  have whole : 2 ^ 1024 = 2 ^ 54 * 2 ^ 970 := by rw [← Nat.pow_add]
  have divisor : 2 ^ 971 = 2 ^ 1 * 2 ^ 970 := by rw [← Nat.pow_add]
  have positive : 0 < 2 ^ 970 := pow_pos two_pos _
  rw [whole] at below
  rw [rangeEnd, whole, divisor]
  generalize 2 ^ 970 = half at below positive ⊢
  have even := roundQuotient_eq_even_iff (2 ^ 52) (show 0 < 2 ^ 1 * half by omega)
    (show number < 2 * 2 ^ 52 * (2 ^ 1 * half) by omega)
  have bits : 2 * 2 ^ 52 = 2 ^ 53 := by decide
  rw [bits] at even
  rw [even]
  omega

/-- A natural number rounded to as many bits as a significand has. -/
def roundedBits (number : Nat) : Nat :=
  roundQuotient (number * 2 ^ (-((Nat.log2 number : Int) - 52)).toNat)
    (1 * 2 ^ ((Nat.log2 number : Int) - 52).toNat)

/-- A natural number that is not zero keeps its highest bit when it is rounded. -/
theorem le_roundedBits {number : Nat} (nonzero : number ≠ 0) : 2 ^ 52 ≤ roundedBits number :=
  Nat.le_trans (le_scaledQuotient nonzero 52) (roundQuotient_bounds _ _).1

/-- The natural numbers of 1024 bits are rounded to multiples of one power. -/
theorem roundedBits_of_log2 {number : Nat} (isTop : Nat.log2 number = 1023) :
    roundedBits number = roundQuotient number (2 ^ 971) := by
  have above : ((1023 : Nat) : Int) - 52 = (971 : Nat) := by decide
  have noFactor : (-((971 : Nat) : Int)).toNat = 0 := by decide
  rw [roundedBits, isTop, above, noFactor, Nat.pow_zero, Nat.mul_one, Nat.one_mul,
    Int.toNat_natCast]

/-- Which natural numbers are out of range, by their bits. -/
theorem rangeEnd_le_iff {number : Nat} (nonzero : number ≠ 0) :
    rangeEnd ≤ number ↔ 1023 < Nat.log2 number ∨
      Nat.log2 number = 1023 ∧ roundedBits number = 2 ^ 53 := by
  have least := Nat.log2_self_le nonzero
  have greatest := Nat.lt_log2_self (n := number)
  have whole : 2 ^ 1024 = 2 ^ 54 * 2 ^ 970 := by rw [← Nat.pow_add]
  have half : 2 ^ 1023 = 2 ^ 53 * 2 ^ 970 := by rw [← Nat.pow_add]
  have positive : 0 < 2 ^ 970 := pow_pos two_pos _
  rcases Nat.lt_trichotomy (Nat.log2 number) 1023 with few | isTop | many
  · have below : number < 2 ^ 1023 := lt_of_lt_of_le greatest (pow_le_pow_right₀ one_le_two few)
    rw [half] at below
    rw [rangeEnd, whole]
    omega
  · have below : number < 2 ^ 1024 :=
      lt_of_lt_of_le greatest (pow_le_pow_right₀ one_le_two (by omega))
    rw [roundedBits_of_log2 isTop, roundQuotient_eq_iff_rangeEnd_le below]
    omega
  · have above : 2 ^ 1024 ≤ number := le_trans (pow_le_pow_right₀ one_le_two many) least
    rw [whole] at above
    rw [rangeEnd, whole]
    omega

/-- The value nearest to a natural number that is not zero has a significand that is not zero, and an
exponent that is too great exactly when the number is out of range. -/
theorem exists_significand {number : Nat} (nonzero : number ≠ 0) (negative : Bool) :
    ∃ significand exponent, significand ≠ 0 ∧
      ofQuotient negative number 1 =
        (if greatestExponent < exponent then .infinite negative
          else .finite negative significand exponent) ∧
      (greatestExponent < exponent ↔ rangeEnd ≤ number) := by
  have enough := le_roundedBits nonzero
  have isRounded : roundQuotient (number * 2 ^ (-((Nat.log2 number : Int) - 52)).toNat)
      (1 * 2 ^ ((Nat.log2 number : Int) - 52).toNat) = roundedBits number := rfl
  have isGreatest : greatestExponent = 971 := rfl
  have bits : 2 ^ 53 = 2 ^ precision := rfl
  rw [ofQuotient, if_neg nonzero, exponentOf_one nonzero, rangeEnd_le_iff nonzero, bits]
  simp only [isRounded]
  -- Rounding up to one more bit moves the exponent, which matters at the end of the range only.
  by_cases carries : roundedBits number = 2 ^ precision
  · refine ⟨2 ^ (precision - 1), (Nat.log2 number : Int) - 52 + 1, by decide, ?_, ?_⟩
    · rw [if_pos carries]
    · simp only [carries, and_true]
      omega
  · refine ⟨roundedBits number, (Nat.log2 number : Int) - 52, by omega, ?_, ?_⟩
    · rw [if_neg carries]
    · simp only [carries, and_false, or_false]
      omega

/-- The value of an integer that is not zero has its sign, and a significand that is not zero. There is
none exactly when the integer is out of range. -/
theorem ofInt?_cases {number : Int} (nonzero : number ≠ 0) :
    (rangeEnd ≤ number.natAbs ∧ ofInt? number = none) ∨
      (number.natAbs < rangeEnd ∧ ∃ significand exponent, significand ≠ 0 ∧
        ofInt? number = some (.finite (number < 0) significand exponent)) := by
  obtain ⟨significand, exponent, notZero, isValue, isBeyond⟩ :=
    exists_significand (Int.natAbs_ne_zero.2 nonzero) (number < 0)
  rw [ofInt?, isValue]
  by_cases beyond : greatestExponent < exponent
  · exact .inl ⟨isBeyond.1 beyond, by rw [if_pos beyond]⟩
  · exact .inr ⟨Nat.not_le.1 (beyond ∘ isBeyond.2), significand, exponent, notZero,
      by rw [if_neg beyond]⟩

end Binary64

namespace Number

theorem finitePlace_lt_finitePlace {value other : ℚ} :
    finitePlace value < finitePlace other ↔ value < other := by
  rw [finitePlace, finitePlace, WithBot.coe_lt_coe, WithTop.coe_lt_coe]

/-- A number is positive when it has a place above that of zero. -/
def IsPositive (number : Number) : Prop := ∃ place ∈ number.place?, finitePlace 0 < place

/-- A value is positive exactly when it is a number, and not tested to be zero or less. -/
theorem isPositive_real_iff {value : Binary64} :
    (Number.real value).IsPositive ↔ value ≠ .nan ∧ value.isNonpositive = false := by
  cases value with
  | finite negative significand exponent =>
    have scale : (0 : ℚ) < 2 ^ exponent := zpow_pos two_pos _
    have isAbove : (Number.real (.finite negative significand exponent)).IsPositive ↔
        0 < Binary64.signed negative significand := by
      simp only [IsPositive, place?, Option.mem_some_iff, exists_eq_left',
        finitePlace_lt_finitePlace]
      rw [mul_pos_iff_of_pos_right scale, Int.cast_pos]
    rw [isAbove]
    cases negative <;> simp [Binary64.signed, Binary64.isNonpositive, Nat.pos_iff_ne_zero]
  | infinite negative =>
    have isBelow : finitePlace 0 < ⊤ := lt_top_iff_ne_top.2 (finitePlace_ne_top 0)
    cases negative <;> simp [IsPositive, place?, Binary64.isNonpositive, isBelow]
  | nan => simp [IsPositive, place?]

end Number

end Keyspace
