import Mathlib.Algebra.Order.Field.Rat
import Mathlib.Tactic.FieldSimp
import Mathlib.Tactic.Positivity
import Mathlib.Tactic.Ring
import Conform.Proofs.Number.Exactness

/-! The rational number that a finite pattern stands for, and when it is an integer. -/

namespace Conform.Double

/-- What a finite pattern without sign stands for. Its lower fifty-two bits are a fraction, and the bits
above them less 1023 the power of two by which one and the fraction are multiplied; where those bits are
all zero there is only the fraction, multiplied by the least power. -/
def size (pattern : Nat) : ℚ :=
  let exponent : Nat := pattern / 2 ^ 52
  let fraction : ℚ := (pattern % 2 ^ 52 : Nat) / 2 ^ 52
  if exponent = 0 then fraction * 2 ^ (-1022 : ℤ) else (1 + fraction) * 2 ^ ((exponent : ℤ) - 1023)

/-- The rational number that a finite number is; both zeros are zero. -/
def toRat (x : Double) : ℚ :=
  if x.isNegative then -size x.pattern else size x.pattern

variable {x : Double} {n : Int}

/-- A pattern stands for so many of the finest units. -/
theorem size_pattern (x : Double) : size x.pattern = x.units / 2 ^ BinaryFormat.wide.depth := by
  have finest : (2 : ℚ) ^ BinaryFormat.wide.depth = 2 ^ 52 * 2 ^ 1022 := by
    rw [depth_wide, ← pow_add]
  have digits : BinaryFormat.wide.fractionBits = 52 := rfl
  simp only [size, units, magnitude, BinaryFormat.decode, digits, Nat.pow_eq, finest]
  split
  · -- The least power makes a bit of the fraction one of the finest units.
    rw [zpow_neg, zpow_ofNat, ← div_eq_mul_inv, div_div, pow_zero, Nat.mul_one]
  · rename_i normal
    obtain ⟨shift, exponent⟩ := Nat.exists_eq_succ_of_ne_zero normal
    have power : (2 : ℚ) ^ ((shift.succ : ℤ) - 1023) = 2 ^ shift / 2 ^ 1022 := by
      rw [← zpow_natCast, ← zpow_natCast 2 1022, ← zpow_sub₀ two_ne_zero]
      congr 1
      omega
    rw [exponent, power, Nat.succ_sub_one]
    push_cast
    -- One is as much as there are bits in the fraction.
    field_simp
    ring

/-- What a number stands for has the size of its pattern. -/
theorem abs_toRat (x : Double) : |x.toRat| = size x.pattern := by
  -- A size is not negative, so the sign is all that the absolute value takes away.
  have nonnegative : 0 ≤ size x.pattern := by
    rw [size_pattern]
    positivity
  unfold toRat
  split
  · rw [abs_neg, abs_of_nonneg nonnegative]
  · exact abs_of_nonneg nonnegative

/-- A whole multiple of one is the integer of that many. -/
theorem toRat_of_units {whole : Nat} (units : x.units = whole * 2 ^ BinaryFormat.wide.depth) :
    x.toRat = (if x.isNegative then -(whole : Int) else whole : Int) := by
  -- The size is the number of units over the number of them in one.
  have size : size x.pattern = whole := by
    rw [size_pattern, units, Nat.cast_mul, Nat.cast_pow, Nat.cast_ofNat]
    exact mul_div_cancel_right₀ _ (pow_ne_zero _ two_ne_zero)
  rw [toRat, size]
  split <;> push_cast <;> rfl

/-- A finite number without fraction is read as the very integer that it is. -/
theorem toInt?_eq_some_iff : x.toInt? = some n ↔ x.isFinite = true ∧ x.toRat = n := by
  constructor
  · intro integral
    obtain ⟨finite, whole, units, same⟩ := toInt?_eq_some integral
    exact ⟨finite, same ▸ toRat_of_units units⟩
  · intro denoted
    obtain ⟨finite, integral⟩ := denoted
    -- The size is an integer as well, so it is a whole number of units.
    have size : size x.pattern = n.natAbs := by
      rw [← abs_toRat, integral, Nat.cast_natAbs, Int.cast_abs]
    have units : x.units = n.natAbs * 2 ^ BinaryFormat.wide.depth := by
      rw [size_pattern, div_eq_iff (pow_ne_zero _ two_ne_zero)] at size
      exact_mod_cast size
    rw [toInt?_of_magnitude finite units, Option.some.injEq]
    rw [toRat_of_units units] at integral
    exact_mod_cast integral

end Conform.Double
