import Keyspace.Number.Binary64
import Mathlib.Algebra.Order.Field.Power
import Mathlib.Data.Rat.Cast.Order
import Mathlib.Order.WithBot

/-!
# The order of numbers

Integers and binary64 values are compared exactly. Every number except not-a-number has a place on
the rational line with both of its ends, and numbers are ordered as their places are
(`le_eq_true_iff`). So the order is total on numbers that have a place, and it is transitive.
-/

namespace Keyspace

namespace Binary64

/-- Scaled significands are compared as the rational numbers that they stand for. -/
theorem scaledLe_eq_true_iff (significand exponent other otherExponent : Int) :
    scaledLe significand exponent other otherExponent = true ↔
      (significand : ℚ) * 2 ^ exponent ≤ other * 2 ^ otherExponent := by
  -- Both powers share the lower one as a factor.
  have shared : ∀ high low : Int,
      (2 : ℚ) ^ high = 2 ^ (high - low).toNat * 2 ^ min high low := by
    intro high low
    rw [← zpow_natCast, ← zpow_add₀ two_ne_zero]
    congr 1
    omega
  have positive : (0 : ℚ) < 2 ^ min exponent otherExponent := zpow_pos two_pos _
  rw [shared exponent otherExponent, shared otherExponent exponent, min_comm otherExponent,
    ← mul_assoc, ← mul_assoc, mul_le_mul_iff_left₀ positive]
  simp only [scaledLe, decide_eq_true_eq]
  exact_mod_cast Iff.rfl

end Binary64

namespace Number

/-- The place of a rational number on the line that has an end on each side. -/
def finitePlace (value : ℚ) : WithBot (WithTop ℚ) := ((value : WithTop ℚ) : WithBot (WithTop ℚ))

theorem finitePlace_le_finitePlace {value other : ℚ} :
    finitePlace value ≤ finitePlace other ↔ value ≤ other := by
  rw [finitePlace, finitePlace, WithBot.coe_le_coe, WithTop.coe_le_coe]

theorem finitePlace_ne_bot (value : ℚ) : finitePlace value ≠ ⊥ := WithBot.coe_ne_bot

theorem finitePlace_ne_top (value : ℚ) : finitePlace value ≠ ⊤ := by
  intro same
  exact WithTop.coe_ne_top (WithBot.coe_injective same)

/-- The place of a number, if it has one. An infinite value is at the end of its sign. -/
def place? : Number → Option (WithBot (WithTop ℚ))
  | .int value => some (finitePlace value)
  | .real (.finite negative significand exponent) =>
    some (finitePlace (Binary64.signed negative significand * 2 ^ exponent))
  | .real (.infinite negative) => some (if negative then ⊥ else ⊤)
  | .real .nan => none

/-- Numbers are ordered as their places are. -/
theorem le_eq_true_iff {number other : Number} :
    number.le other = true ↔
      ∃ place ∈ number.place?, ∃ otherPlace ∈ other.place?, place ≤ otherPlace := by
  rcases number with value | (⟨negative, significand, exponent⟩ | (_ | _) | _) <;>
  rcases other with other | (⟨otherNegative, otherSignificand, otherExponent⟩ | (_ | _) | _) <;>
  simp [le, Binary64.le, place?, Binary64.scaledLe_eq_true_iff, finitePlace_le_finitePlace,
    finitePlace_ne_bot, finitePlace_ne_top]

/-- A number can be compared with others when it is a number at all. -/
def IsComparable (number : Number) : Prop := number ≠ .real .nan

/-- Numbers that can be compared have a place. -/
theorem IsComparable.exists_place {number : Number} (comparable : number.IsComparable) :
    ∃ place, number.place? = some place := by
  rcases number with value | (_ | _ | _)
  · exact ⟨_, rfl⟩
  · exact ⟨_, rfl⟩
  · exact ⟨_, rfl⟩
  · exact absurd rfl comparable

/-- The order is total on numbers that can be compared. -/
theorem le_total {number other : Number} (comparable : number.IsComparable)
    (otherComparable : other.IsComparable) : number.le other = true ∨ other.le number = true := by
  obtain ⟨place, isPlace⟩ := comparable.exists_place
  obtain ⟨otherPlace, isOther⟩ := otherComparable.exists_place
  rw [le_eq_true_iff, le_eq_true_iff]
  rcases Std.le_total (a := place) (b := otherPlace) with before | after
  · exact .inl ⟨place, isPlace, otherPlace, isOther, before⟩
  · exact .inr ⟨otherPlace, isOther, place, isPlace, after⟩

/-- The order is transitive. -/
theorem le_trans {number middle other : Number} (first : number.le middle = true)
    (second : middle.le other = true) : number.le other = true := by
  rw [le_eq_true_iff] at first second ⊢
  obtain ⟨place, isPlace, middlePlace, isMiddle, before⟩ := first
  obtain ⟨samePlace, isSame, otherPlace, isOther, after⟩ := second
  obtain rfl : middlePlace = samePlace := Option.mem_unique isMiddle isSame
  exact ⟨place, isPlace, otherPlace, isOther, before.trans after⟩

/-- Numbers that are the same as a third one are in order, both ways. -/
theorem le_of_same_of_same {number other third : Number} (same : number.same third = true)
    (otherSame : other.same third = true) : number.le other = true := by
  simp only [Number.same, Bool.and_eq_true] at same otherSame
  exact le_trans same.1 otherSame.2

end Number
end Keyspace
