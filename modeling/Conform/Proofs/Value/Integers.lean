import Mathlib
import Conform.Proofs.Json.Scalar
import Conform.Proofs.Number.Rational
import Conform.Proofs.Value.Rendering

/-! Numbers without fraction are written as the numerals of the integers that they are. -/

namespace Conform

/-- The decimal numeral of an integer: digits that make up its size, of which the first is a zero only if
it stands alone, after a minus sign if the integer is below zero. -/
def IsNumeral (n : Int) (text : String) : Prop :=
  ∃ digits : List Char, text.toList = (if n < 0 then ['-'] else []) ++ digits ∧
    digits ≠ [] ∧ (∀ c ∈ digits, c.isDigit = true) ∧
    -- This makes the numeral of each integer the only one.
    (digits.head? = some '0' → digits = ['0']) ∧
    Nat.ofDigitChars 10 digits 0 = n.natAbs

/-- An integer is written with its numeral. -/
theorem isNumeral_signedNumeral (n : Int) : IsNumeral n (.ofList (signedNumeral n)) := by
  refine ⟨numeral n.natAbs, ?_, Nat.toDigits_ne_nil, ?_, ?_, Nat.ofDigitChars_ten_toDigits⟩
  · rw [String.toList_ofList, signedNumeral]
    split <;> rfl
  · exact fun c among => Nat.isDigit_of_mem_toDigits (by omega) (by omega) among
  · intro zero
    -- Only the numeral of zero begins with a zero.
    obtain ⟨others, leading⟩ := List.head?_eq_some_iff.1 zero
    rw [Json.eq_zero_of_numeral leading]
    rfl

/-- The numeral of an integer is read as that integer. -/
theorem toInt?_signedNumeral (n : Int) : (String.ofList (signedNumeral n)).toInt? = some n := by
  have text : String.ofList (signedNumeral n) = n.repr := by
    -- An integer is a natural number or what lies below zero.
    cases n with
    | ofNat size =>
      have notBelow : ¬ Int.ofNat size < 0 := Int.not_lt.2 (Int.natCast_nonneg size)
      rw [signedNumeral, if_neg notBelow]
      exact Nat.repr_eq_ofList_toDigits.symm
    | negSucc size =>
      rw [signedNumeral, if_pos (Int.negSucc_lt_zero size)]
      show String.ofList ('-' :: numeral size.succ) = "-" ++ size.succ.repr
      rw [Nat.repr_eq_ofList_toDigits, ← String.toList_inj]
      simp [numeral]
  rw [text, Int.toInt?_repr]

/-- Nothing but digits and a minus sign is in the numeral of an integer. -/
theorem IsNumeral.digit_or_minus {n : Int} {text : String} (numeral : IsNumeral n text) {c : Char}
    (among : c ∈ text.toList) : c.isDigit = true ∨ c = '-' := by
  -- A numeral is a sign, if there is one, and digits.
  obtain ⟨digits, spelt, -, each, -⟩ := numeral
  rw [spelt, List.mem_append] at among
  rcases among with sign | digit
  · split at sign
    · exact .inr (List.mem_singleton.1 sign)
    · cases sign
  · exact .inl (each c digit)

namespace Double

variable {x : Double} {n : Int} {text : List Char} {c : Char}

/-- An integer that is short enough is written out in running text. -/
theorem toText_of_integral (integral : x.toInt? = some n) (short : n.natAbs < 10 ^ 21) :
    x.toText = .ofList (signedNumeral n) := by
  have finite := (toInt?_eq_some integral).1
  rw [isFinite, decide_eq_true_eq] at finite
  -- What lies below infinity neither is infinite nor stands for no number.
  have number : x.isNaN = false := decide_eq_false (by omega)
  have bounded : x.isInfinite = false := decide_eq_false (by omega)
  unfold toText
  simp only [number, bounded, integral, Bool.false_eq_true, if_false]
  exact if_pos short

/-- An integer up to the safe limit is one in documents. -/
theorem toJson_of_safe (integral : x.toInt? = some n) (safe : n.natAbs ≤ 2 ^ 53 - 1) :
    x.toJson = .integer n := by
  -- The number is finite, integral and within the limit, which is all that is asked for.
  rw [← safeLimit_eq] at safe
  unfold toJson
  simp only [(toInt?_eq_some integral).1, integral, Bool.not_true, Bool.false_eq_true, if_false,
    if_pos safe]

/-- A sign takes nothing away. -/
theorem mem_withSign (among : c ∈ text) : c ∈ (x.withSign text).toList := by
  -- A sign is put in front, or nothing is.
  rw [withSign, String.toList_ofList]
  split
  · exact List.mem_cons_of_mem _ among
  · exact among

/-- A decimal that is marked as having a fraction has a point. -/
theorem point_mem_markFraction (d : Decimal) : '.' ∈ markFraction d := by
  unfold markFraction
  split
  · simp
  · rename_i below
    -- There are places after the point, with or without a digit before it.
    rw [Decimal.positional, if_neg below]
    dsimp only
    split <;> simp

/-- A number that documents do not hold as an integer has a point or an exponent in them. -/
theorem mark_mem_toJsonText (x : Double) : '.' ∈ x.toJsonText.toList ∨ 'e' ∈ x.toJsonText.toList := by
  -- The notations are gone through: that of zero, plain ones with a point, and two with an exponent.
  unfold toJsonText
  split
  · exact .inl (mem_withSign (by decide))
  dsimp only
  split
  · exact .inl (mem_withSign (point_mem_markFraction _))
  split
  · exact .inr (mem_withSign (by simp))
  · exact .inr (mem_withSign (by simp))

end Double

namespace Value

variable {x : Double} {n : Int}

/-- An integer up to the safe limit is written in documents with its numeral. -/
theorem stringify_of_safe (integral : x.toInt? = some n) (safe : n.natAbs ≤ 2 ^ 53 - 1) :
    (number x).stringify = .ofList (signedNumeral n) := by
  -- The document of the number is the integer, and the integer is written as its numeral.
  rw [stringify, toJson?, Double.toJson_of_safe integral safe]
  rfl

/-- An integer beyond the safe limit is marked in documents, as no numeral is. -/
theorem not_isNumeral_stringify (integral : x.toInt? = some n) (large : 2 ^ 53 ≤ n.natAbs) (m : Int) :
    ¬ IsNumeral m (number x).stringify := by
  have document : x.toJson = .float x := by
    refine Double.toJson_of_large (Double.toInt?_eq_some integral).1 fun other same => ?_
    rw [integral, Option.some.injEq] at same
    exact same ▸ large
  have written : (number x).stringify = x.toJsonText := by
    rw [stringify, toJson?, document]
    exact String.ofList_toList
  intro numeral
  rw [written] at numeral
  -- Neither mark is a digit or a sign.
  rcases x.mark_mem_toJsonText with point | exponent
  · rcases numeral.digit_or_minus point with digit | minus
    · cases digit
    · cases minus
  · rcases numeral.digit_or_minus exponent with digit | minus
    · cases digit
    · cases minus

/-- Integers are written exactly. A finite number that stands for an integer below `10 ^ 21` in size has
the decimal numeral of that integer as its text, which is a bare zero for both zeros, and from the text
the integer is read back, so that different integers have different texts. Its text in documents is the
same exactly up to `2 ^ 53 - 1` in size. -/
theorem integers_written_exactly (finite : x.isFinite = true) (integral : x.toRat = n)
    (short : n.natAbs < 10 ^ 21) :
    IsNumeral n x.toText ∧ (n = 0 → x.toText = "0") ∧ x.toText.toInt? = some n ∧
    ((number x).stringify = x.toText ↔ n.natAbs ≤ 2 ^ 53 - 1) ∧
    ∀ (y : Double) (m : Int), y.isFinite = true → y.toRat = m → m.natAbs < 10 ^ 21 →
      (x.toText = y.toText ↔ n = m) := by
  -- What a number stands for is the integer that is read from it.
  have reads : x.toInt? = some n := Double.toInt?_eq_some_iff.2 ⟨finite, integral⟩
  have text : x.toText = .ofList (signedNumeral n) := Double.toText_of_integral reads short
  have numeral : IsNumeral n x.toText := text ▸ isNumeral_signedNumeral n
  refine ⟨numeral, ?_, text ▸ toInt?_signedNumeral n, ?_, ?_⟩
  · intro zero
    -- Both zeros are the one integer, whose numeral has no sign.
    rw [text, zero]
    rfl
  · constructor
    · intro same
      by_contra beyond
      exact not_isNumeral_stringify reads (by omega) n (same ▸ numeral)
    · intro safe
      rw [stringify_of_safe reads safe, text]
  · intro y m finiteToo integralToo shortToo
    have readsToo : y.toInt? = some m := Double.toInt?_eq_some_iff.2 ⟨finiteToo, integralToo⟩
    rw [text, Double.toText_of_integral readsToo shortToo]
    constructor
    · intro same
      -- Both texts are read as one integer.
      have back := congrArg String.toInt? same
      rwa [toInt?_signedNumeral, toInt?_signedNumeral, Option.some.injEq] at back
    · exact fun same => congrArg (fun n => String.ofList (signedNumeral n)) same

/-- The greatest safe integer is the same everywhere, and zero has no sign. Of a large integer all digits
are written, where the shortest ones that would do are followed by zeros, but not in documents. -/
theorem integers_written_exactly_extremes :
    (number (.ofInt (2 ^ 53 - 1))).stringify = (Double.ofInt (2 ^ 53 - 1)).toText ∧
      (Double.ofPattern true 0).toText = "0" ∧
      (Double.ofInt (-123456789012345680000)).toText.toInt? = some (-123456789012345683968) ∧
      (number (.ofInt (-123456789012345680000))).stringify ≠
        (Double.ofInt (-123456789012345680000)).toText ∧
      (Double.ofInt (-123456789012345680000)).toText ≠ (Double.ofInt (2 ^ 53 - 1)).toText := by
  -- The three numbers are finite, and they are the integers that they are said to be.
  have ⟨finite, greatest⟩ := Double.toInt?_eq_some_iff.1
    (show (Double.ofInt (2 ^ 53 - 1)).toInt? = some (2 ^ 53 - 1) by decide +kernel)
  have ⟨finiteZero, minusZero⟩ := Double.toInt?_eq_some_iff.1
    (show (Double.ofPattern true 0).toInt? = some 0 by decide +kernel)
  have ⟨finiteLarge, large⟩ := Double.toInt?_eq_some_iff.1
    (show (Double.ofInt (-123456789012345680000)).toInt? = some (-123456789012345683968) by
      decide +kernel)
  have ⟨_, _, back, alike, apart⟩ := integers_written_exactly finiteLarge large (by decide)
  refine ⟨?_, ?_, back, fun same => absurd (alike.1 same) (by decide), ?_⟩
  · exact (integers_written_exactly finite greatest (by decide)).2.2.2.1.2 (by decide)
  · exact (integers_written_exactly finiteZero minusZero (by decide)).2.1 rfl
  · exact fun same => absurd ((apart _ _ finite greatest (by decide)).1 same) (by decide)

end Value

end Conform
