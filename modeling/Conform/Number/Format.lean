/-! Binary floating-point formats: what a bit pattern stands for, and how a ratio is rounded to one. -/

namespace Conform

/-- The nearest natural number to a ratio; a half goes to the even neighbour. -/
def roundHalfEven (numerator denominator : Nat) : Nat :=
  let whole := numerator / denominator
  -- Twice the remainder is compared with the denominator, so no half is cut off.
  let rest := 2 * (numerator % denominator)
  if rest > denominator ∨ (rest = denominator ∧ whole % 2 = 1) then whole + 1 else whole

/-- How many binary digits a natural number has. -/
def bitLength (n : Nat) : Nat :=
  -- The logarithm of zero would count one digit too many.
  if n = 0 then 0 else Nat.log2 n + 1

/-- A format stores a sign, an exponent and the fraction after an implied leading one. -/
structure BinaryFormat where
  fractionBits : Nat
  exponentBits : Nat

/-- An unsigned number, as `mantissa * 2 ^ shift` of the format's finest units. -/
structure Magnitude where
  mantissa : Nat
  shift : Nat
deriving DecidableEq

namespace BinaryFormat

/-- Numbers of sixty-four bits. -/
def wide : BinaryFormat := ⟨52, 11⟩

/-- Numbers of thirty-two bits. -/
def narrow : BinaryFormat := ⟨23, 8⟩

/-- The finest unit of the format is `2 ^ -depth`. -/
def depth (format : BinaryFormat) : Nat :=
  Nat.pow 2 (format.exponentBits - 1) - 2 + format.fractionBits

/-- The pattern of infinity; the patterns below it are finite and those above it are no number. -/
def infinity (format : BinaryFormat) : Nat :=
  (Nat.pow 2 format.exponentBits - 1) * Nat.pow 2 format.fractionBits

/-- The pattern of the sign alone. -/
def signBit (format : BinaryFormat) : Nat :=
  Nat.pow 2 (format.fractionBits + format.exponentBits)

/-- The number that a finite pattern without sign stands for. -/
def decode (format : BinaryFormat) (pattern : Nat) : Magnitude :=
  let exponent := pattern / Nat.pow 2 format.fractionBits
  let fraction := pattern % Nat.pow 2 format.fractionBits
  -- Without an exponent there is no leading one either.
  if exponent = 0 then ⟨fraction, 0⟩ else ⟨fraction + Nat.pow 2 format.fractionBits, exponent - 1⟩

/-- The pattern nearest to a ratio. A mantissa that rounds up to the next power of two carries into
the exponent by plain addition, and what is too large becomes infinity. -/
def round (format : BinaryFormat) (numerator denominator : Nat) : Nat :=
  let units := numerator * Nat.pow 2 format.depth
  -- As many digits are dropped as the mantissa cannot hold.
  let shift := bitLength (units / denominator) - (format.fractionBits + 1)
  let mantissa := roundHalfEven units (denominator * Nat.pow 2 shift)
  min (shift * Nat.pow 2 format.fractionBits + mantissa) format.infinity

end BinaryFormat

end Conform
