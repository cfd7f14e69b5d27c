import Conform.Number.Double

/-! The fewest decimal digits that read back as a given binary number. -/

namespace Conform

/-- The unsigned number `digits * 10 ^ exponent`. -/
structure Decimal where
  digits : Nat
  exponent : Int
deriving DecidableEq

/-- Where a number lies exactly halfway between its two shortest decimals, which of them is taken. -/
inductive Halfway where
  | up
  | even
deriving DecidableEq

/-- A natural number in decimal digits, without leading zeros. -/
def numeral (n : Nat) : List Char :=
  Nat.toDigits 10 n

/-- An integer in decimal digits, with a sign only below zero. -/
def signedNumeral (n : Int) : List Char :=
  if n < 0 then '-' :: numeral n.natAbs else numeral n.natAbs

/-- Whether the upper of two neighbours is taken when a number lies `rest / grid` above the lower. -/
def Halfway.prefersUpper (halfway : Halfway) (rest grid lower : Nat) : Bool :=
  -- The rest is doubled, so that the middle of the grid is met exactly.
  grid < 2 * rest ||
    (2 * rest == grid && match halfway with
      | .up => true
      | .even => lower % 2 == 1)

namespace Decimal

/-- Drops trailing zeros of the digits, `count` of them at most. -/
def trim : Nat → Decimal → Decimal
  | 0, d => d
  | count + 1, d =>
    -- Zero has only trailing zeros and is left alone.
    if d.digits % 10 = 0 ∧ d.digits ≠ 0 then trim count ⟨d.digits / 10, d.exponent + 1⟩ else d

/-- The exponent of the first digit: the number is `d.ddd * 10 ^ order`. -/
def order (d : Decimal) : Int :=
  d.exponent + (numeral d.digits).length - 1

/-- The numbers that round to a magnitude lie between `low` and `high`, in quarters of its own unit;
the two ends round to it exactly when its mantissa is even. -/
structure Basin where
  low : Nat
  middle : Nat
  high : Nat
  closed : Bool

/-- The basin of a magnitude; just above a power of two its lower half is half as wide. -/
def Basin.of (format : BinaryFormat) (m : Magnitude) : Basin where
  low :=
    -- Below a power of two the numbers lie twice as close.
    let isPower := m.mantissa = Nat.pow 2 format.fractionBits ∧ 0 < m.shift
    4 * m.mantissa - (if isPower then 1 else 2)
  middle := 4 * m.mantissa
  high := 4 * m.mantissa + 2
  closed := m.mantissa % 2 = 0

/-- The neighbour of the basin's middle on the grid of multiples of `10 ^ exponent` that lies in the
basin, the nearer one if both do. -/
def Basin.hit? (basin : Basin) (scale unit : Nat) (halfway : Halfway) (exponent : Int) :
    Option Decimal :=
  -- Both sides are multiplied out, so that every comparison is between natural numbers.
  let grid := unit * Nat.pow 10 exponent.toNat
  let stretch := scale * Nat.pow 10 (-exponent).toNat
  let below := basin.middle * stretch / grid
  let above := below + 1
  -- At an open end the bound itself rounds elsewhere.
  let slack := if basin.closed then 0 else 1
  let lowerFits := below != 0 && decide (basin.low * stretch + slack ≤ below * grid)
  let upperFits := decide (above * grid + slack ≤ basin.high * stretch)
  let takesUpper :=
    upperFits && (!lowerFits || halfway.prefersUpper (basin.middle * stretch % grid) grid below)
  if takesUpper then some ⟨above, exponent⟩
  else if lowerFits then some ⟨below, exponent⟩
  else none

/-- The shortest decimal that reads back as a positive magnitude, tried with one digit, then two, and
so on; seventeen always suffice. -/
def shortest (format : BinaryFormat) (halfway : Halfway) (m : Magnitude) : Decimal :=
  let basin := Basin.of format m
  let scale := Nat.pow 2 m.shift
  let unit := 4 * Nat.pow 2 format.depth
  -- Four hundred places bring the finest unit above one.
  let order : Int := (numeral (basin.middle * scale * Nat.pow 10 400 / unit)).length - 401
  -- Each try has one digit more than the one before, so the first hit is the shortest.
  let found := (List.range 17).findSome? fun (more : Nat) =>
    basin.hit? scale unit halfway (order - (more : Nat))
  match found with
  | some d => d.trim 18
  | none => ⟨basin.middle * scale * Nat.pow 10 400 / unit, -400⟩

/-- The digits with zeros filled in up to the decimal point, which is written only if digits follow. -/
def positional (d : Decimal) : List Char :=
  let digits := numeral d.digits
  if 0 ≤ d.exponent then digits ++ List.replicate d.exponent.toNat '0'
  else
    let places := (-d.exponent).toNat
    if digits.length ≤ places then
      "0.".toList ++ List.replicate (places - digits.length) '0' ++ digits
    else
      digits.take (digits.length - places) ++ '.' :: digits.drop (digits.length - places)

/-- The digits with a point after the first one, if there are more. -/
def leading (d : Decimal) : List Char :=
  match numeral d.digits with
  | first :: second :: rest => first :: '.' :: second :: rest
  | digits => digits

end Decimal

/-- The shortest decimal of a finite number other than zero, without its sign. -/
def Double.shortest (halfway : Halfway) (x : Double) : Decimal :=
  Decimal.shortest BinaryFormat.wide halfway x.magnitude

end Conform
