import Conform.Json.Basic
import Conform.Number.Reading
import Conform.Number.Word
import Conform.Yaml.Tree

/-! YAML documents as JSON documents. -/

namespace Conform.Yaml

/-- The tags of plain scalars that are not texts. -/
inductive CoreTag where
  | bool
  | int
  | float
  | null
deriving DecidableEq

/-- The tag's own name. -/
def CoreTag.name : CoreTag → List Char
  | bool => "tag:yaml.org,2002:bool".toList
  | int => "tag:yaml.org,2002:int".toList
  | float => "tag:yaml.org,2002:float".toList
  | null => "tag:yaml.org,2002:null".toList

/-- The core tag of a name. -/
def CoreTag.ofName? (name : List Char) : Option CoreTag :=
  [bool, int, float, null].find? fun tag => tag.name == name

/-- Whether a tag is one of an application, which has no meaning here. -/
def isLocal (tag : Option (List Char)) : Bool :=
  tag.any fun name => name.head? == some '!'

/-- Whether the text stands for null. -/
def isNull (text : List Char) : Bool :=
  ["null", "Null", "NULL", "~"].any fun spelling => spelling.toList == text

/-- The truth that the text stands for. -/
def truth? (text : List Char) : Option Bool :=
  if ["true", "True", "TRUE"].any fun spelling => spelling.toList == text then some true
  else if ["false", "False", "FALSE"].any fun spelling => spelling.toList == text then some false
  else none

/-- The text without a leading plus sign. -/
def dropPlus : List Char → List Char
  | '+' :: rest => rest
  | text => text

/-- Whether a text is decimal digits, after a sign, that start with a zero they do not need; such a
text is no number. -/
def isPadded (text : List Char) : Bool :=
  let unsigned :=
    match text with
    | '-' :: rest => rest
    | '+' :: rest => rest
    | rest => rest
  match unsigned with
  | '0' :: rest => rest != [] && rest.all Char.isDigit
  | _ => false

/-- Digits after the mark of their base. -/
def basedValue? : List Char → Option Nat
  | '0' :: 'x' :: digits => digitsValue? 16 digits
  | '0' :: 'o' :: digits => digitsValue? 8 digits
  | '0' :: 'b' :: digits => digitsValue? 2 digits
  | _ => none

/-- The integer that a text writes, of any size. -/
def integer? (text : List Char) : Option Int :=
  let natural? (digits : List Char) : Option Int :=
    (basedValue? digits <|> if isPadded digits then none else digitsValue? 10 digits).map Int.ofNat
  match text with
  | '-' :: rest => (natural? rest).map fun n => -n
  | _ => natural? (dropPlus text)

/-- An integer as a document. One of more than a hundred twenty-eight bits counts as none, and a
smaller one that does not fit sixty-four bits is refused. -/
def integerJson? (text : List Char) : Option (Option Json) := do
  let n ← integer? text
  if -wordCount ≤ 2 * n ∧ n < wordCount then some (some (.integer n))
  else if -doubleWordCount ≤ 2 * n ∧ n < doubleWordCount then some none
  else none

/-- The exponent at the end of a decimal number. -/
def exponent? : List Char → Option Int
  | [] => some 0
  | letter :: rest =>
    if letter = 'e' ∨ letter = 'E' then
      match rest with
      | '-' :: digits => (digitsValue? 10 digits).map fun n => -n
      | digits => (digitsValue? 10 (dropPlus digits)).map Int.ofNat
    else none

/-- The number that an unsigned decimal with an optional point and exponent writes. -/
def decimal? (negative : Bool) (text : List Char) : Option Double := do
  let (whole, rest) := spanDigits text
  let (fraction, rest) :=
    match rest with
    | '.' :: rest => spanDigits rest
    | rest => ([], rest)
  if whole = [] ∧ fraction = [] then none
  else
    let exponent ← exponent? rest
    return Double.ofDecimal negative (digitsValue (whole ++ fraction)) (exponent - fraction.length)

/-- A number that is no integer, as a document: what is not finite is null, and a decimal that is too
large is no number. -/
def floatJson? (text : List Char) : Option Json :=
  let special := [".inf", ".Inf", ".INF", "+.inf", "+.Inf", "+.INF", "-.inf", "-.Inf", "-.INF",
    ".nan", ".NaN", ".NAN"]
  if special.any fun spelling => spelling.toList == text then some .null
  else do
    let n ←
      match text with
      | '-' :: rest => decimal? true rest
      | _ => decimal? false (dropPlus text)
    if n.isFinite then some (.float n) else none

/-- The document of a scalar without quotes. -/
def plainJson? (text : List Char) : Option Json :=
  if text = [] ∨ isNull text then some .null
  else
    match truth? text, integerJson? text with
    | some truth, _ => some (.bool truth)
    | none, some integer => integer
    | none, none =>
      if isPadded text then some (.string (String.ofList text))
      else some ((floatJson? text).getD (.string (String.ofList text)))

/-- The document of a scalar. A core tag demands its kind, and a local tag has no document. -/
def Scalar.json? (scalar : Scalar) : Option Json :=
  if isLocal scalar.tag then none
  else
    match scalar.tag, scalar.tag.bind CoreTag.ofName? with
    | _, some .bool => (truth? scalar.text).map .bool
    | _, some .int => (integerJson? scalar.text).join
    | _, some .float => floatJson? scalar.text
    | _, some .null => if isNull scalar.text then some .null else none
    | some _, none => some (.string (String.ofList scalar.text))
    | none, none =>
      if scalar.style = .plain then plainJson? scalar.text
      else some (.string (String.ofList scalar.text))

/-- The text of a tree that is a scalar, whatever it means. -/
def Tree.text? : Tree → Option String
  | scalar leaf => some (String.ofList leaf.text)
  | _ => none

namespace Tree

mutual

/-- The document of a tree. A key is the text of a scalar; a repeated key keeps its first place and
its last value. -/
def json? : Tree → Option Json
  | scalar leaf => leaf.json?
  | sequence tag items =>
    if isLocal tag then none else (itemsJson? items).map .array
  | mapping tag members =>
    if isLocal tag then none
    else (membersJson? members).map fun members => .object (Members.ofPairs members)
termination_by structural tree => tree

/-- The documents of elements. -/
def itemsJson? : List Tree → Option (List Json)
  | [] => some []
  | item :: rest => do
    let document ← item.json?
    let documents ← itemsJson? rest
    return document :: documents
termination_by structural items => items

/-- The documents of members under their keys. -/
def membersJson? : List (Tree × Tree) → Option (List (String × Json))
  | [] => some []
  | (key, value) :: rest => do
    let name ← key.text?
    let document ← value.json?
    let documents ← membersJson? rest
    return (name, document) :: documents
termination_by structural members => members

end

end Tree

/-- The JSON document of a YAML text; that of an empty stream is null. -/
def readJson? (text : String) : Option Json := do
  match ← Tree.read? text with
  | none => return .null
  | some tree => tree.json?

end Conform.Yaml
