/-! Reading parts from the front of a text. -/

namespace Conform

/-- Reads something at the front of a text and returns the rest; none if it is not there. -/
abbrev Reader (α : Type) := List Char → Option (α × List Char)

/-- The rest of a text after an expected beginning. -/
def after? : List Char → List Char → Option (List Char)
  | [], text => some text
  | _ :: _, [] => none
  | c :: expected, d :: text => if c = d then after? expected text else none

/-- The value of a digit below a base of sixteen at most. -/
def digitValue? (base : Nat) (c : Char) : Option Nat :=
  let value? :=
    if '0' ≤ c ∧ c ≤ '9' then some (c.toNat - '0'.toNat)
    else if 'a' ≤ c ∧ c ≤ 'f' then some (c.toNat - 'a'.toNat + 10)
    else if 'A' ≤ c ∧ c ≤ 'F' then some (c.toNat - 'A'.toNat + 10)
    else none
  value?.filter (· < base)

/-- The natural number that digits of a base stand for; none if there is no digit or some character is
none. -/
def digitsValue? (base : Nat) (digits : List Char) : Option Nat :=
  if digits = [] then none
  else
    digits.foldl (fun value? c => do return (← value?) * base + (← digitValue? base c)) (some 0)

/-- The natural number that decimal digits stand for. -/
def digitsValue (digits : List Char) : Nat :=
  digits.foldl (fun value c => value * 10 + (c.toNat - '0'.toNat)) 0

/-- Splits a text after its leading decimal digits. -/
def spanDigits (text : List Char) : List Char × List Char :=
  (text.takeWhile Char.isDigit, text.dropWhile Char.isDigit)

/-- The character of a code point, if the code point is one of a character. -/
def character? (code : Nat) : Option Char :=
  if code.isValidChar then some (Char.ofNat code) else none

end Conform
