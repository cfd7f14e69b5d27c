import Conform.Number.Decimal

/-! How numbers are written: in running text, in JSON documents and in developer text. -/

namespace Conform

namespace Double

/-- Puts a minus sign before the text of a negative number. -/
def withSign (x : Double) (text : List Char) : String :=
  String.ofList (if x.isNegative then '-' :: text else text)

/-- The number in running text: below `10 ^ 21` an integer is written out exactly, and anything else
has its shortest digits in positional notation. -/
def toText (x : Double) : String :=
  if x.isNaN then "NaN"
  else if x.isInfinite then x.withSign "Infinity".toList
  else
    match x.toInt? with
    | some n =>
      -- The digits of an integer are exact here, not the shortest.
      if n.natAbs < 1000000000000000000000 then String.ofList (signedNumeral n)
      else x.withSign (x.shortest .up).positional
    | none => x.withSign (x.shortest .up).positional

/-- Appends a zero fraction to the text of an integer. -/
def markFraction (d : Decimal) : List Char :=
  if 0 ≤ d.exponent then d.positional ++ ".0".toList else d.positional

/-- A finite number as a JSON document writes one that is not an integer: the first digit stands at
most sixteen places before the point or five after it, or else an exponent with its sign follows. -/
def toJsonText (x : Double) : String :=
  -- Zero keeps its sign, and its shortest digits would have no order.
  if x.isZero then x.withSign "0.0".toList
  else
    let d := x.shortest .even
    if -5 ≤ d.order ∧ d.order ≤ 15 then x.withSign (markFraction d)
    else if 0 ≤ d.order then
      x.withSign (d.leading ++ "e+".toList ++ numeral d.order.natAbs)
    else x.withSign (d.leading ++ "e-".toList ++ numeral d.order.natAbs)

end Double

/-- The developer text of a number with the given sign, kind and shortest digits: positional from
`10 ^ -4` up to `10 ^ 16`, with a zero fraction on an integer, and with an exponent elsewhere. -/
def developerNumber (d : Decimal) : List Char :=
  if -4 ≤ d.order ∧ d.order < 16 then Double.markFraction d
  else d.leading ++ 'e' :: signedNumeral d.order

/-- The developer text of a sixty-four-bit number. -/
def Double.toDeveloperText (x : Double) : String :=
  if x.isNaN then "NaN"
  else if x.isInfinite then x.withSign "inf".toList
  else if x.isZero then x.withSign "0.0".toList
  else x.withSign (developerNumber (x.shortest .up))

/-- The developer text of a thirty-two-bit number. -/
def Single.toDeveloperText (x : Single) : String :=
  let wide := x.widen
  if wide.isNaN || wide.isInfinite || wide.isZero then wide.toDeveloperText
  else
    let magnitude := BinaryFormat.narrow.decode x.pattern
    wide.withSign (developerNumber (Decimal.shortest BinaryFormat.narrow .up magnitude))

end Conform
