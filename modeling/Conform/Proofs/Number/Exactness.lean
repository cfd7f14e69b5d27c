import Mathlib.Algebra.Group.Nat.Defs
import Conform.Number.Double
import Conform.Number.Word

/-! Numbers that a format can hold are rounded to themselves, so integers up to the safe limit are read
back from their patterns. -/

namespace Conform

/-- A whole ratio is rounded to its quotient. -/
theorem roundHalfEven_mul (quotient : Nat) {denominator : Nat} (positive : 0 < denominator) :
    roundHalfEven (quotient * denominator) denominator = quotient := by
  -- Nothing is left over, so there is nothing to round.
  have whole : quotient * denominator / denominator = quotient := Nat.mul_div_cancel _ positive
  have rest : quotient * denominator % denominator = 0 := Nat.mul_mod_left _ _
  unfold roundHalfEven
  simp only [whole, rest]
  rw [if_neg]
  omega

/-- Rounding goes up to the next whole number at most. -/
theorem roundHalfEven_le (numerator denominator : Nat) :
    roundHalfEven numerator denominator ≤ numerator / denominator + 1 := by
  -- The quotient is kept or raised by one.
  unfold roundHalfEven
  simp only
  split <;> omega

/-- A number between two neighbouring powers of two has one digit more than the lower one has zeros. -/
theorem bitLength_eq {n digits : Nat} (low : 2 ^ digits ≤ n) (high : n < 2 ^ (digits + 1)) :
    bitLength n = digits + 1 := by
  -- The number of digits is one more than the logarithm, which the two powers enclose.
  have nonzero : n ≠ 0 := Nat.ne_of_gt (Nat.lt_of_lt_of_le (Nat.two_pow_pos digits) low)
  rw [bitLength, if_neg nonzero, (Nat.log2_eq_iff nonzero).2 ⟨low, high⟩]

/-- A number lies below the power of two that its binary digits reach. -/
theorem lt_two_pow_bitLength (n : Nat) : n < 2 ^ bitLength n := by
  -- Zero has no digits, and any other number has one more than its logarithm.
  by_cases zero : n = 0
  · subst zero
    decide
  · rw [bitLength, if_neg zero]
    exact Nat.lt_log2_self

/-- A number below a power of two has no more binary digits than that reaches. -/
theorem bitLength_le {n digits : Nat} (small : n < 2 ^ digits) : bitLength n ≤ digits := by
  -- Zero has no digits, and the logarithm of any other number is below the power.
  by_cases zero : n = 0
  · simp [bitLength, zero]
  · rw [bitLength, if_neg zero]
    exact (Nat.log2_lt zero).2 small

namespace BinaryFormat

variable (format : BinaryFormat) {numerator denominator mantissa shift : Nat}

/-- A pattern that is put together from an exponent and a mantissa with its leading one stands for
them. -/
theorem decode_of_normal (low : 2 ^ format.fractionBits ≤ mantissa)
    (high : mantissa < 2 ^ (format.fractionBits + 1)) :
    format.decode (shift * 2 ^ format.fractionBits + mantissa) = ⟨mantissa, shift⟩ := by
  -- The leading one of the mantissa has carried into the exponent.
  obtain ⟨fraction, rfl⟩ := Nat.exists_eq_add_of_le low
  have small : fraction < 2 ^ format.fractionBits := by
    rw [Nat.pow_succ] at high
    omega
  have pattern : shift * 2 ^ format.fractionBits + (2 ^ format.fractionBits + fraction) =
      fraction + 2 ^ format.fractionBits * (shift + 1) := by
    rw [Nat.mul_add, Nat.mul_comm shift]
    omega
  have exponent : (fraction + 2 ^ format.fractionBits * (shift + 1)) / 2 ^ format.fractionBits =
      shift + 1 := by
    rw [Nat.add_mul_div_left _ _ (Nat.two_pow_pos _), Nat.div_eq_of_lt small, Nat.zero_add]
  have rest : (fraction + 2 ^ format.fractionBits * (shift + 1)) % 2 ^ format.fractionBits =
      fraction := by
    rw [Nat.add_mul_mod_self_left, Nat.mod_eq_of_lt small]
  simp only [decode, Nat.pow_eq]
  rw [pattern, exponent, rest, if_neg (Nat.succ_ne_zero shift), Nat.add_sub_cancel,
    Nat.add_comm fraction]

/-- A ratio that the format can hold is rounded to the pattern that stands for it. -/
theorem round_of_normal (positive : 0 < denominator)
    (exact : numerator * 2 ^ format.depth = mantissa * (denominator * 2 ^ shift))
    (low : 2 ^ format.fractionBits ≤ mantissa)
    (high : mantissa < 2 ^ (format.fractionBits + 1))
    (finite : shift * 2 ^ format.fractionBits + mantissa ≤ format.infinity) :
    format.round numerator denominator = shift * 2 ^ format.fractionBits + mantissa := by
  -- In units of the finest grain the ratio is a whole number.
  have whole : numerator * 2 ^ format.depth / denominator = mantissa * 2 ^ shift := by
    rw [exact, Nat.mul_left_comm, Nat.mul_div_cancel_left _ positive]
  -- The quotient has the digits of the mantissa and as many zeros as the shift tells.
  have digits : bitLength (mantissa * 2 ^ shift) = format.fractionBits + shift + 1 := by
    apply bitLength_eq
    · rw [Nat.pow_add]
      exact Nat.mul_le_mul_right _ low
    · rw [Nat.add_right_comm, Nat.pow_add]
      exact Nat.mul_lt_mul_of_pos_right high (Nat.two_pow_pos shift)
  have shifted : bitLength (mantissa * 2 ^ shift) - (format.fractionBits + 1) = shift := by
    omega
  have rounded : roundHalfEven (mantissa * (denominator * 2 ^ shift)) (denominator * 2 ^ shift) =
      mantissa := roundHalfEven_mul _ (Nat.mul_pos positive (Nat.two_pow_pos shift))
  simp only [round, Nat.pow_eq]
  rw [whole, shifted, exact, rounded, Nat.min_eq_left finite]

/-- A natural number is rounded to an exponent that its digits reach, with a mantissa that may have been
rounded up to one digit more. -/
theorem round_le {n digits : Nat} (small : n < 2 ^ digits) :
    format.round n 1 ≤
      (digits + format.depth - (format.fractionBits + 1)) * 2 ^ format.fractionBits +
        2 ^ (format.fractionBits + 1) := by
  have smallUnits : n * 2 ^ format.depth < 2 ^ (digits + format.depth) := by
    rw [Nat.pow_add]
    exact Nat.mul_lt_mul_of_pos_right small (Nat.two_pow_pos _)
  have length := bitLength_le smallUnits
  have reached := lt_two_pow_bitLength (n * 2 ^ format.depth)
  simp only [round, Nat.pow_eq, Nat.div_one, Nat.one_mul]
  generalize n * 2 ^ format.depth = units at length reached ⊢
  -- The mantissa is made of the digits that are not shifted out.
  have kept : units < 2 ^ (bitLength units - (format.fractionBits + 1)) *
      2 ^ (format.fractionBits + 1) := by
    rw [← Nat.pow_add]
    exact Nat.lt_of_lt_of_le reached (Nat.pow_le_pow_right Nat.two_pos (by omega))
  have mantissa := Nat.div_lt_of_lt_mul kept
  have rounded := roundHalfEven_le units (2 ^ (bitLength units - (format.fractionBits + 1)))
  have exponent : (bitLength units - (format.fractionBits + 1)) * 2 ^ format.fractionBits ≤
      (digits + format.depth - (format.fractionBits + 1)) * 2 ^ format.fractionBits :=
    Nat.mul_le_mul_right _ (by omega)
  exact Nat.le_trans (Nat.min_le_left _ _) (by omega)

end BinaryFormat

namespace Double

variable {negative : Bool} {pattern : Nat}

/-- The finest unit of sixty-four-bit numbers. -/
theorem depth_wide : BinaryFormat.wide.depth = 1074 := by
  decide

/-- The exponent of infinity is the greatest of eleven bits. -/
theorem infinity_wide : BinaryFormat.wide.infinity = 2047 * 2 ^ 52 := by
  decide

/-- The sign is the last of sixty-four bits. -/
theorem signBit_wide : BinaryFormat.wide.signBit = 2 ^ 63 := by
  decide

/-- Up to the safe limit an integer fits the fifty-three bits of a mantissa. -/
theorem safeLimit_eq : safeLimit = 2 ^ 53 - 1 := by
  decide

/-- Under a sign there is the pattern that the sign has been put on. -/
theorem bits_ofPattern (room : pattern < BinaryFormat.wide.signBit) :
    (ofPattern negative pattern).bits.toNat =
      if negative then pattern + BinaryFormat.wide.signBit else pattern := by
  rw [signBit_wide] at room ⊢
  unfold ofPattern
  rw [UInt64.toNat_ofNat', signBit_wide]
  -- With the sign or without it, the pattern fits into sixty-four bits.
  split <;> omega

/-- The pattern without its sign is the one that the sign has been put on. -/
theorem pattern_ofPattern (room : pattern < BinaryFormat.wide.signBit) :
    (ofPattern negative pattern).pattern = pattern := by
  -- The remainder takes the sign off again, if there is one.
  unfold Double.pattern
  rw [bits_ofPattern room]
  split
  · rw [Nat.add_mod_right, Nat.mod_eq_of_lt room]
  · exact Nat.mod_eq_of_lt room

/-- The sign is the one that has been put on the pattern. -/
theorem isNegative_ofPattern (room : pattern < BinaryFormat.wide.signBit) :
    (ofPattern negative pattern).isNegative = negative := by
  -- The sign is the highest bit, and the pattern stays below that.
  unfold isNegative
  rw [bits_ofPattern room]
  cases negative with
  | false => simpa using room
  | true => simp

/-- A sign put on a pattern below infinity makes a finite number. -/
theorem isFinite_ofPattern
    (small : pattern < BinaryFormat.wide.infinity) : (ofPattern negative pattern).isFinite = true := by
  -- A pattern below infinity leaves room for the sign, and is read off as it was put in.
  have room : pattern < BinaryFormat.wide.signBit := by
    rw [infinity_wide] at small
    rw [signBit_wide]
    omega
  rw [isFinite, pattern_ofPattern room]
  exact decide_eq_true small

/-- Rounding never goes beyond infinity. -/
theorem round_lt_signBit (numerator denominator : Nat) :
    BinaryFormat.wide.round numerator denominator < BinaryFormat.wide.signBit := by
  -- Rounding stops at infinity, which stands below the bit of the sign.
  have limited : BinaryFormat.wide.round numerator denominator ≤ BinaryFormat.wide.infinity :=
    Nat.min_le_right _ _
  rw [infinity_wide] at limited
  rw [signBit_wide]
  omega

/-- A number whose magnitude is a whole multiple of one is that integer. -/
theorem toInt?_of_magnitude {x : Double} {whole : Nat} (finite : x.isFinite = true)
    (units : x.units = whole * 2 ^ BinaryFormat.wide.depth) :
    x.toInt? = some (if x.isNegative then -(whole : Int) else whole) := by
  have positive : 0 < 2 ^ BinaryFormat.wide.depth := Nat.two_pow_pos _
  have divides : whole * 2 ^ BinaryFormat.wide.depth % 2 ^ BinaryFormat.wide.depth = 0 :=
    Nat.mul_mod_left _ _
  have quotient : whole * 2 ^ BinaryFormat.wide.depth / 2 ^ BinaryFormat.wide.depth = whole :=
    Nat.mul_div_cancel _ positive
  -- No units are left over, so the number has no fraction.
  simp only [toInt?, Nat.pow_eq]
  rw [units, divides, quotient, if_pos ⟨finite, rfl⟩]

/-- An integer of up to fifty-three digits fills the mantissa once it is shifted to the left. -/
theorem round_wide_natural {n : Nat} (nonzero : n ≠ 0) (small : n < 2 ^ 53) :
    ∃ mantissa shift, BinaryFormat.wide.round n 1 = shift * 2 ^ 52 + mantissa ∧
      2 ^ 52 ≤ mantissa ∧ mantissa < 2 ^ 53 ∧ shift ≤ BinaryFormat.wide.depth ∧
      mantissa * 2 ^ shift = n * 2 ^ BinaryFormat.wide.depth := by
  have deep := depth_wide
  have last : n.log2 < 53 := (Nat.log2_lt nonzero).2 small
  have ⟨low, high⟩ := (Nat.log2_eq_iff nonzero).1 rfl
  -- The leading digit moves to the front of the mantissa, and the exponent makes up for it.
  have lowShifted : 2 ^ 52 ≤ n * 2 ^ (52 - n.log2) := by
    have leading : 2 ^ 52 = 2 ^ n.log2 * 2 ^ (52 - n.log2) := by
      rw [← Nat.pow_add]
      congr 1
      omega
    rw [leading]
    exact Nat.mul_le_mul_right _ low
  have highShifted : n * 2 ^ (52 - n.log2) < 2 ^ 53 := by
    have leading : 2 ^ 53 = 2 ^ (n.log2 + 1) * 2 ^ (52 - n.log2) := by
      rw [← Nat.pow_add]
      congr 1
      omega
    rw [leading]
    exact Nat.mul_lt_mul_of_pos_right high (Nat.two_pow_pos _)
  have exact : n * 2 ^ (52 - n.log2) * 2 ^ (BinaryFormat.wide.depth - (52 - n.log2)) =
      n * 2 ^ BinaryFormat.wide.depth := by
    rw [Nat.mul_assoc, ← Nat.pow_add]
    congr 2
    omega
  have shallow : BinaryFormat.wide.depth - (52 - n.log2) ≤ BinaryFormat.wide.depth :=
    Nat.sub_le _ _
  refine ⟨_, _, ?_, lowShifted, highShifted, shallow, exact⟩
  apply BinaryFormat.round_of_normal BinaryFormat.wide Nat.one_pos
  · rw [Nat.one_mul, exact]
  · exact lowShifted
  · exact highShifted
  · -- The exponent is far below that of infinity.
    rw [infinity_wide]
    show _ * 2 ^ 52 + _ ≤ _
    omega

/-- An integer has the sign and the pattern that it is rounded to. -/
theorem pattern_ofInt (n : Int) :
    (ofInt n).pattern = BinaryFormat.wide.round n.natAbs 1 ∧ (ofInt n).isNegative = decide (n < 0) :=
  ⟨pattern_ofPattern (round_lt_signBit _ _), isNegative_ofPattern (round_lt_signBit _ _)⟩

/-- Every integer of sixty-four bits is rounded to a finite number. -/
theorem isFinite_ofInt {n : Int} (fits : n.natAbs < wordCount) : (ofInt n).isFinite = true := by
  have word : wordCount = 2 ^ 64 := by decide
  have bound := BinaryFormat.wide.round_le (word ▸ fits)
  -- Sixty-four digits before the point leave the exponent far below that of infinity.
  rw [depth_wide] at bound
  change _ ≤ (64 + 1074 - (52 + 1)) * 2 ^ 52 + 2 ^ (52 + 1) at bound
  apply isFinite_ofPattern
  rw [infinity_wide]
  omega

/-- Every integer up to the safe limit is a finite number, and is read back from it. -/
theorem toInt?_ofInt {n : Int} (safe : n.natAbs ≤ safeLimit) :
    (ofInt n).isFinite = true ∧ (ofInt n).toInt? = some n := by
  by_cases zero : n = 0
  · -- Zero has no leading digit to be shifted, and a pattern of its own.
    subst zero
    decide +kernel
  have ⟨pattern, sign⟩ := pattern_ofInt n
  have small : n.natAbs < 2 ^ 53 := by
    rw [safeLimit_eq] at safe
    omega
  obtain ⟨mantissa, shift, rounded, low, high, shallow, exact⟩ :=
    round_wide_natural (Int.natAbs_ne_zero.2 zero) small
  have finite : (ofInt n).isFinite = true := by
    have deep := depth_wide
    rw [isFinite, pattern, rounded, infinity_wide, decide_eq_true_eq]
    omega
  have magnitude : (ofInt n).magnitude = ⟨mantissa, shift⟩ := by
    rw [Double.magnitude, pattern, rounded]
    exact BinaryFormat.wide.decode_of_normal low high
  -- The mantissa and the exponent make up the integer that was rounded.
  have units : (ofInt n).units = n.natAbs * 2 ^ BinaryFormat.wide.depth := by
    rw [Double.units, magnitude]
    exact exact
  refine ⟨finite, ?_⟩
  rw [toInt?_of_magnitude finite units, sign]
  -- The sign and the magnitude of an integer make it up.
  by_cases below : n < 0
  · rw [decide_eq_true below, if_pos rfl, Option.some.injEq]
    omega
  · rw [decide_eq_false below, if_neg Bool.false_ne_true, Option.some.injEq]
    omega

/-- A number is its pattern under its sign. -/
theorem ofPattern_self (x : Double) : ofPattern x.isNegative x.pattern = x := by
  -- The pattern is what is left when the bit of the sign is taken away.
  obtain ⟨bits⟩ := x
  have room : bits.toNat < 2 ^ 64 := bits.toNat_lt
  have same : (if (Double.mk bits).isNegative then
      (Double.mk bits).pattern + BinaryFormat.wide.signBit else (Double.mk bits).pattern) =
      bits.toNat := by
    simp only [isNegative, Double.pattern, signBit_wide, decide_eq_true_eq]
    split <;> omega
  rw [ofPattern, same, UInt64.ofNat_toNat]

/-- A whole number is rounded to the finite pattern that stands for it. -/
theorem round_of_decode {n : Nat} (finite : pattern < BinaryFormat.wide.infinity)
    (units : (BinaryFormat.wide.decode pattern).mantissa *
      2 ^ (BinaryFormat.wide.decode pattern).shift = n * 2 ^ BinaryFormat.wide.depth) :
    BinaryFormat.wide.round n 1 = pattern := by
  rw [infinity_wide] at finite
  have digits : BinaryFormat.wide.fractionBits = 52 := rfl
  by_cases small : pattern / 2 ^ 52 = 0
  · -- Without a leading one the units do not make up a whole number, unless there are none.
    have decoded : BinaryFormat.wide.decode pattern = ⟨pattern % 2 ^ 52, 0⟩ := by
      simp only [BinaryFormat.decode, digits, Nat.pow_eq, if_pos small]
    rw [decoded] at units
    change pattern % 2 ^ 52 * 1 = n * 2 ^ BinaryFormat.wide.depth at units
    rcases Nat.eq_zero_or_pos n with none | some
    · subst none
      rw [Nat.mul_one, Nat.zero_mul] at units
      have zero : pattern = 0 := by omega
      subst zero
      decide +kernel
    · have fraction : pattern % 2 ^ 52 < 2 ^ 52 := Nat.mod_lt _ (by decide)
      have large : 2 ^ 52 ≤ n * 2 ^ BinaryFormat.wide.depth :=
        Nat.le_trans (Nat.pow_le_pow_right (by decide) (by rw [depth_wide]; decide))
          (Nat.le_mul_of_pos_left _ some)
      rw [Nat.mul_one] at units
      exact absurd (units ▸ fraction) (Nat.not_lt.2 large)
  · have decoded : BinaryFormat.wide.decode pattern =
        ⟨pattern % 2 ^ 52 + 2 ^ 52, pattern / 2 ^ 52 - 1⟩ := by
      simp only [BinaryFormat.decode, digits, Nat.pow_eq, if_neg small]
    -- The pattern is put together again from the exponent and the mantissa.
    have together : (pattern / 2 ^ 52 - 1) * 2 ^ 52 + (pattern % 2 ^ 52 + 2 ^ 52) = pattern := by
      omega
    rw [decoded] at units
    refine (BinaryFormat.round_of_normal BinaryFormat.wide Nat.one_pos ?_ ?_ ?_ ?_).trans together
    · rw [Nat.one_mul, units]
    · rw [digits]
      omega
    · rw [digits]
      omega
    · rw [digits, together, infinity_wide]
      omega

/-- A number is an integer if it is finite and a whole multiple of one, under its sign. -/
theorem toInt?_eq_some {x : Double} {n : Int} (integral : x.toInt? = some n) :
    x.isFinite = true ∧ ∃ whole, x.units = whole * 2 ^ BinaryFormat.wide.depth ∧
      n = if x.isNegative then -(whole : Int) else whole := by
  -- What is given out is the quotient, and the division leaves nothing over.
  simp only [toInt?, Nat.pow_eq] at integral
  split at integral
  · rename_i exact
    have units := Nat.div_mul_cancel (Nat.dvd_of_mod_eq_zero exact.2)
    generalize x.units / 2 ^ BinaryFormat.wide.depth = whole at integral units
    exact ⟨exact.1, whole, by rw [units], (Option.some.inj integral).symm⟩
  · cases integral

/-- A number that is an integer is the number of that integer, unless it is minus zero. -/
theorem ofInt_eq_or {x : Double} {n : Int} (integral : x.toInt? = some n) :
    ofInt n = x ∨ n = 0 ∧ x = ofPattern true 0 := by
  -- The integer is rounded to the same pattern, since that stands for it exactly.
  obtain ⟨finite, whole, units, same⟩ := toInt?_eq_some integral
  have rounded : BinaryFormat.wide.round whole 1 = x.pattern :=
    round_of_decode (by simpa [isFinite] using finite) units
  have size : n.natAbs = whole := by
    rw [same]
    split
    · rw [Int.natAbs_neg, Int.natAbs_natCast]
    · exact Int.natAbs_natCast whole
  have made : ofInt n = ofPattern (n < 0) x.pattern := by
    rw [ofInt, ofRatio, size, rounded]
  have self := ofPattern_self x
  -- Only zero loses its sign, for the integers have but one zero.
  cases sign : x.isNegative with
  | false =>
    have notBelow : ¬ n < 0 := by simp [same, sign]
    rw [decide_eq_false notBelow] at made
    rw [sign] at self
    exact .inl (made.trans self)
  | true =>
    rw [sign] at self same
    rcases Nat.eq_zero_or_pos whole with zero | positive
    · subst zero
      have pattern : x.pattern = 0 := by
        rw [← rounded]
        decide +kernel
      exact .inr ⟨by simp [same], by rw [← self, pattern]⟩
    · have below : n < 0 := by
        rw [same, if_pos rfl]
        omega
      rw [decide_eq_true below] at made
      exact .inl (made.trans self)

end Double

end Conform
