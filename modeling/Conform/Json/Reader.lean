import Conform.Json.Basic
import Conform.Number.Reading
import Conform.Number.Word
import Conform.Text.Reader

/-! Reading JSON documents strictly. -/

namespace Conform.Json

/-- The four characters that may stand between the parts of a document. -/
def isSpace (c : Char) : Bool :=
  c = ' ' || c = '\n' || c = '\t' || c = '\r'

/-- Drops space at the front. -/
def skipSpace (text : List Char) : List Char :=
  text.dropWhile isSpace

/-- Four digits of the base sixteen. -/
def readUnit : Reader Nat
  | a :: b :: c :: d :: rest => do
    let high := (← digitValue? 16 a) * 16 + (← digitValue? 16 b)
    let low := (← digitValue? 16 c) * 16 + (← digitValue? 16 d)
    return (high * 256 + low, rest)
  | _ => none

/-- The character of an escape that started with a backslash and a small u. Two escapes that form a
surrogate pair are one character, and half a pair is none. -/
def readUnicode : Reader Char := fun text => do
  let (first, rest) ← readUnit text
  -- The second half of a pair cannot come first.
  if 0xdc00 ≤ first ∧ first < 0xe000 then none
  else if 0xd800 ≤ first ∧ first < 0xdc00 then
    let (second, rest) ← readUnit (← after? ['\\', 'u'] rest)
    if 0xdc00 ≤ second ∧ second < 0xe000 then
      return (Char.ofNat (0x10000 + (first - 0xd800) * 0x400 + (second - 0xdc00)), rest)
    else none
  else return (Char.ofNat first, rest)

/-- The character of an escape, after its backslash. -/
def readEscape : Reader Char
  | '"' :: rest => some ('"', rest)
  | '\\' :: rest => some ('\\', rest)
  | '/' :: rest => some ('/', rest)
  | 'b' :: rest => some ('\x08', rest)
  | 'f' :: rest => some ('\x0c', rest)
  | 'n' :: rest => some ('\n', rest)
  | 'r' :: rest => some ('\r', rest)
  | 't' :: rest => some ('\t', rest)
  | 'u' :: rest => readUnicode rest
  | _ => none

/-- The characters up to the closing quote, in at most `steps` steps. -/
def readQuoted : Nat → Reader (List Char)
  | 0, _ => none
  | _ + 1, [] => none
  | steps + 1, c :: rest =>
    if c = '"' then some ([], rest)
    else if c = '\\' then do
      let (character, rest) ← readEscape rest
      let (characters, rest) ← readQuoted steps rest
      return (character :: characters, rest)
    -- Control characters have to be escaped.
    else if c.toNat < 0x20 then none
    else do
      let (characters, rest) ← readQuoted steps rest
      return (c :: characters, rest)

/-- A text between quotes, after the opening quote. -/
def readText : Reader String := fun text => do
  let (characters, rest) ← readQuoted (text.length + 1) text
  return (String.ofList characters, rest)

/-- A number's integer digits gathered while they fit sixty-four bits, and how many more follow. -/
def gatherInteger (digits : List Char) : Nat × Nat :=
  digits.foldl (fun (significand, dropped) c =>
    let next := significand * 10 + (c.toNat - '0'.toNat)
    -- Once a digit has been dropped, all later ones are, or places would be lost.
    if dropped = 0 ∧ next < wordCount then (next, 0) else (significand, dropped + 1)) (0, 0)

/-- Appends fraction digits to a significand while it fits sixty-four bits, and counts them; the
digits after the first that does not fit are ignored. -/
def gatherFraction : Nat → List Char → Nat × Nat
  | significand, [] => (significand, 0)
  | significand, c :: rest =>
    let next := significand * 10 + (c.toNat - '0'.toNat)
    if next < wordCount then
      let (gathered, count) := gatherFraction next rest
      (gathered, count + 1)
    else (significand, 0)

/-- A decimal exponent, after its letter. -/
def readExponent : Reader Int := fun text =>
  let (negative, unsigned) :=
    match text with
    | '+' :: rest => (false, rest)
    | '-' :: rest => (true, rest)
    | rest => (false, rest)
  let (digits, rest) := spanDigits unsigned
  -- A sign or letter alone is no exponent.
  if digits = [] then none
  else
    let size : Int := digitsValue digits
    some (if negative then -size else size, rest)

/-- Reads the exponent of a number if it has one. -/
def readOptionalExponent : Reader Int
  | 'e' :: rest => readExponent rest
  | 'E' :: rest => readExponent rest
  | rest => some (0, rest)

/-- An integer is exact as long as it fits sixty-four bits; minus zero is no integer. -/
def ofDigits? (negative : Bool) (significand dropped : Nat) : Option Json :=
  if 0 < dropped then (Double.ofSignificand? negative significand dropped).map float
  else if !negative then some (integer significand)
  -- A minus sign halves the room: what lies beyond it is rounded.
  else if significand = 0 ∨ wordCount < 2 * significand then
    some (float (Double.ofPattern true (Double.ofInt significand).pattern))
  else some (integer (-significand))

/-- A number after its sign. -/
def readUnsigned (negative : Bool) : Reader Json := fun text => do
  let (digits, rest) := spanDigits text
  -- A zero stands alone before the point.
  let (digits, rest) :=
    match digits with
    | '0' :: more => (['0'], more ++ rest)
    | _ => (digits, rest)
  if digits = [] ∨ (rest.head?.any Char.isDigit) then none
  else
    let (significand, dropped) := gatherInteger digits
    match rest with
    | '.' :: rest =>
      let (fraction, rest) := spanDigits rest
      if fraction = [] then none
      else
        -- A dropped digit raises the exponent and a gathered fraction digit lowers it.
        let (significand, count) := gatherFraction significand fraction
        let (exponent, rest) ← readOptionalExponent rest
        let n ← Double.ofSignificand? negative significand (dropped - count + exponent)
        return (float n, rest)
    | 'e' :: rest => scaled significand dropped rest
    | 'E' :: rest => scaled significand dropped rest
    | rest => return (← ofDigits? negative significand dropped, rest)
where
  /-- A number without fraction, after the letter of its exponent. -/
  scaled (significand dropped : Nat) (rest : List Char) : Option (Json × List Char) := do
    let (exponent, rest) ← readExponent rest
    let n ← Double.ofSignificand? negative significand (dropped + exponent)
    return (float n, rest)

/-- A document that holds no other. -/
def readScalar : Reader Json := fun text =>
  match text with
  | 'n' :: rest => (after? "ull".toList rest).map (null, ·)
  | 't' :: rest => (after? "rue".toList rest).map (bool true, ·)
  | 'f' :: rest => (after? "alse".toList rest).map (bool false, ·)
  | '"' :: rest => (readText rest).map fun (quoted, rest) => (string quoted, rest)
  | '-' :: rest => readUnsigned true rest
  | _ => readUnsigned false text

/-- Parts separated by commas up to a closing character, in at most `steps` steps. -/
def readParts {α : Type} (part : Reader α) (close : Char) : Nat → Reader (List α)
  | 0, _ => none
  | steps + 1, text => do
    let (first, rest) ← part (skipSpace text)
    match skipSpace rest with
    | ',' :: rest => do
      let (others, rest) ← readParts part close steps rest
      return (first :: others, rest)
    | c :: rest => if c = close then return ([first], rest) else none
    | [] => none

/-- Parts between an opening character, which has been read, and a closing one. -/
def readGroup {α : Type} (part : Reader α) (close : Char) : Reader (List α) := fun text =>
  match skipSpace text with
  | c :: rest =>
    -- Only an empty group may close before a part, so no comma stands at the end.
    if c = close then some ([], rest) else readParts part close text.length text
  | [] => none

/-- A member of an object. -/
def readMember (value : Reader Json) : Reader (String × Json) := fun text => do
  let (name, rest) ← readText (← after? ['"'] text)
  let (document, rest) ← value (skipSpace (← after? [':'] (skipSpace rest)))
  return ((name, document), rest)

/-- A document in which at most `depth` arrays and objects lie inside one another. -/
def readNested : Nat → Reader Json
  | 0, '[' :: _ => none
  | 0, '\x7b' :: _ => none
  | depth + 1, '[' :: rest => do
    let (items, rest) ← readGroup (readNested depth) ']' rest
    return (array items, rest)
  | depth + 1, '\x7b' :: rest => do
    let (members, rest) ← readGroup (readMember (readNested depth)) '\x7d' rest
    return (object members, rest)
  -- Only arrays and objects count against the depth.
  | _, text => readScalar text

/-- How many arrays and objects a document may hold inside one another. -/
def depthLimit : Nat := 127

/-- The document that a text writes, with repeated member names as they stand. -/
def readRaw? (text : String) : Option Json := do
  let (document, rest) ← readNested depthLimit (skipSpace text.toList)
  if skipSpace rest = [] then some document else none

/-- The document that a text writes. -/
def read? (text : String) : Option Json :=
  (readRaw? text).map settle

end Conform.Json
