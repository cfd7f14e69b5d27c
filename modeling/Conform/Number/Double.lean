import Conform.Number.Format

/-! Sixty-four-bit binary numbers, with every operation given by exact integer arithmetic. -/

namespace Conform

/-- A number of sixty-four bits, known by its pattern. -/
structure Double where
  bits : UInt64
deriving DecidableEq, Inhabited

namespace Double

/-- The pattern without its sign. -/
def pattern (x : Double) : Nat :=
  x.bits.toNat % BinaryFormat.wide.signBit

/-- Whether the sign is set; zero has both signs. -/
def isNegative (x : Double) : Bool :=
  BinaryFormat.wide.signBit ≤ x.bits.toNat

/-- Whether the pattern stands for no number. -/
def isNaN (x : Double) : Bool :=
  BinaryFormat.wide.infinity < x.pattern

/-- Whether the pattern stands for one of the two infinities. -/
def isInfinite (x : Double) : Bool :=
  x.pattern = BinaryFormat.wide.infinity

/-- Whether the pattern stands for an ordinary number. -/
def isFinite (x : Double) : Bool :=
  x.pattern < BinaryFormat.wide.infinity

/-- Whether the number is zero, of either sign. -/
def isZero (x : Double) : Bool :=
  x.pattern = 0

/-- The number without its sign. -/
def magnitude (x : Double) : Magnitude :=
  BinaryFormat.wide.decode x.pattern

/-- Puts a sign on a pattern. -/
def ofPattern (negative : Bool) (pattern : Nat) : Double :=
  -- The sign is the highest bit, so it is put on by addition.
  ⟨UInt64.ofNat (if negative then pattern + BinaryFormat.wide.signBit else pattern)⟩

/-- The pattern used for no number. -/
def nan : Double := ⟨0x7ff8000000000000⟩

/-- The nearest number to a signed ratio. -/
def ofRatio (negative : Bool) (numerator denominator : Nat) : Double :=
  ofPattern negative (BinaryFormat.wide.round numerator denominator)

/-- The nearest number to an integer. -/
def ofInt (n : Int) : Double :=
  ofRatio (n < 0) n.natAbs 1

/-- The numerator of a finite number over the format's finest unit. -/
def units (x : Double) : Nat :=
  x.magnitude.mantissa * Nat.pow 2 x.magnitude.shift

/-- The integer that a finite number without fraction is; both zeros are zero. -/
def toInt? (x : Double) : Option Int :=
  let unit := Nat.pow 2 BinaryFormat.wide.depth
  -- Counted in finest units, an integer leaves no rest by the unit.
  if x.isFinite ∧ x.units % unit = 0 then
    some (if x.isNegative then -((x.units / unit : Nat) : Int) else (x.units / unit : Nat))
  else none

/-- Where a number stands on the line; both zeros stand in one place. -/
def position (x : Double) : Int :=
  -- Patterns without sign are in the order of the numbers that they stand for.
  if x.isNegative then -(x.pattern : Int) else x.pattern

/-- Equality of numbers: what is no number equals nothing, and the zeros are equal. -/
def sameNumber (x y : Double) : Bool :=
  !x.isNaN && !y.isNaN && x.position == y.position

/-- Order of numbers: what is no number stands in no order. -/
def atMost (x y : Double) : Bool :=
  !x.isNaN && !y.isNaN && x.position ≤ y.position

/-- The nearest number to the product of two unsigned finite numbers. -/
def scaleUp (x factor : Double) : Double :=
  -- The exact product is rounded once.
  let unit := Nat.pow 2 BinaryFormat.wide.depth
  ofRatio false (x.units * factor.units) (unit * unit)

/-- The nearest number to the quotient of two unsigned finite numbers. -/
def scaleDown (x divisor : Double) : Double :=
  ofRatio false x.units divisor.units

/-- The largest magnitude up to which every integer has a pattern of its own. -/
def safeLimit : Nat := 0x1fffffffffffff

end Double

/-- A number of thirty-two bits, known by its pattern. -/
structure Single where
  bits : UInt32
deriving DecidableEq, Inhabited

namespace Single

/-- The pattern without its sign. -/
def pattern (x : Single) : Nat :=
  x.bits.toNat % BinaryFormat.narrow.signBit

/-- Whether the sign is set. -/
def isNegative (x : Single) : Bool :=
  BinaryFormat.narrow.signBit ≤ x.bits.toNat

/-- The same number in sixty-four bits. -/
def widen (x : Single) : Double :=
  if x.pattern < BinaryFormat.narrow.infinity then
    let magnitude := BinaryFormat.narrow.decode x.pattern
    -- The wider format holds every such number, so nothing is rounded.
    Double.ofRatio x.isNegative (magnitude.mantissa * Nat.pow 2 magnitude.shift)
      (Nat.pow 2 BinaryFormat.narrow.depth)
  else if x.pattern = BinaryFormat.narrow.infinity then
    Double.ofPattern x.isNegative BinaryFormat.wide.infinity
  else Double.nan

end Single

/-- The nearest number of thirty-two bits. -/
def Double.narrow (x : Double) : Single :=
  let pattern :=
    if x.isFinite then BinaryFormat.narrow.round x.units (Nat.pow 2 BinaryFormat.wide.depth)
    else if x.isInfinite then BinaryFormat.narrow.infinity
    else 0x7fc00000
  ⟨UInt32.ofNat (if x.isNegative then pattern + BinaryFormat.narrow.signBit else pattern)⟩

end Conform
