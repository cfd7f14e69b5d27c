import Conform.Number.Decimal

/-! How decimal digits are read as binary numbers. -/

namespace Conform

namespace Double

/-- The number nearest to `digits * 10 ^ exponent`. -/
def ofDecimal (negative : Bool) (digits : Nat) (exponent : Int) : Double :=
  let order := exponent + (numeral digits).length
  -- Far outside the format's range the answer is known without the power of ten.
  if digits = 0 ∨ order < -400 then ofPattern negative 0
  else if 400 < order then ofPattern negative BinaryFormat.wide.infinity
  else ofRatio negative (digits * Nat.pow 10 exponent.toNat) (Nat.pow 10 (-exponent).toNat)

/-- The largest power of ten that scaling multiplies or divides by at once. -/
def largestScale : Nat := 308

/-- Moves the decimal point of an unsigned number, rounding at each power of ten; none if the number
becomes too large. A point moved far to the left is moved in steps, of which three always reach zero. -/
def scaled? : Nat → Double → Int → Option Double
  | 0, _, _ => some (ofPattern false 0)
  | steps + 1, x, exponent =>
    if exponent.natAbs ≤ largestScale then
      let power := ofInt (Nat.pow 10 exponent.natAbs)
      let moved := if 0 ≤ exponent then x.scaleUp power else x.scaleDown power
      -- A number that has become too large is an error, not infinity.
      if moved.isFinite then some moved else none
    else if x.isZero then some x
    else if 0 ≤ exponent then none
    else scaled? steps (x.scaleDown (ofInt (Nat.pow 10 largestScale))) (exponent + largestScale)

/-- The number that a significand and a decimal exponent stand for in a JSON document: the significand
is rounded first and the power of ten applied after, which may differ from the nearest number in the
last bit. -/
def ofSignificand? (negative : Bool) (significand : Nat) (exponent : Int) : Option Double :=
  -- The sign is put on last, so minus zero keeps it.
  (scaled? 4 (ofInt significand) exponent).map fun x => ofPattern negative x.pattern

end Double

end Conform
