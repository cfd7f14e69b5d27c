import Conform.Pattern.Basic
import Conform.Text.Reader

/-! Reading patterns from their written form. -/

namespace Conform.Pattern

/-- How letters, dots and the anchors `^` and `$` are meant at some point of a pattern. -/
structure Mode where
  /-- Letters stand for their variants in the other case too. -/
  caseless : Bool
  /-- The anchors hold at every line, and not only at the ends of the text. -/
  lines : Bool
  /-- A dot stands for every character, line feeds included. -/
  dotAll : Bool

/-- The mode in which a pattern starts. -/
def Mode.initial : Mode := ⟨false, false, false⟩

/-- What reading a pattern has to remember: the mode, and the names of groups so far. -/
structure Reading where
  mode : Mode
  names : List String

/-- The meaning of a sequence that starts with a backslash. -/
inductive Escape where
  | literal (c : Char)
  | set (members : CharSet)
  | anchor (anchor : Anchor)

/-- The set of a character as the mode has it. -/
def Mode.adapt (mode : Mode) (set : CharSet) : CharSet :=
  if mode.caseless then .caseless set else set

/-- What a dot stands for. -/
def Mode.dot (mode : Mode) : CharSet :=
  if mode.dotAll then .complement .none else .allBut ['\n']

/-- A code point of exactly so many hexadecimal digits. -/
def readFixedCode (digits : Nat) : Reader Char := fun text => do
  let code ← digitsValue? 16 (text.take digits)
  -- Fewer digits than asked for would otherwise pass for a code.
  if text.length < digits then none
  else return (← character? code, text.drop digits)

/-- A code point in hexadecimal digits, after an opening brace. -/
def readBracedCode : Reader Char := fun text => do
  let code ← digitsValue? 16 (text.takeWhile (· != '\x7d'))
  let rest ← after? ['\x7d'] (text.dropWhile (· != '\x7d'))
  return (← character? code, rest)

/-- A code point, in braces or of exactly so many digits. -/
def readCode (digits : Nat) : Reader Char
  | '\x7b' :: rest => readBracedCode rest
  | rest => readFixedCode digits rest

/-- The anchors that have a name. -/
def anchorNames : List (String × Anchor) :=
  [("start", .wordStart), ("end", .wordEnd), ("start-half", .noWordBefore),
    ("end-half", .noWordAfter)]

/-- The anchor after a backslash and a `b`: a name in braces, or the edge of a word. What follows an
opening brace is no name, but the bounds of a repetition, if it does not start like a name. -/
def readWordAnchor : Reader Escape
  | '\x7b' :: rest =>
    let isNamed (c : Char) := c.isAlpha || c == '-'
    if rest = [] then none
    else if !rest.head?.any isNamed then some (.anchor .wordEdge, '\x7b' :: rest)
    else do
      let anchor ← anchorNames.lookup (String.ofList (rest.takeWhile isNamed))
      return (.anchor anchor, ← after? ['\x7d'] (rest.dropWhile isNamed))
  | rest => some (.anchor .wordEdge, rest)

/-- What follows a backslash. Punctuation, spaces and controls stand for themselves. -/
def readEscape : Reader Escape
  | [] => none
  | 'x' :: rest => (readCode 2 rest).map fun (c, rest) => (.literal c, rest)
  | 'u' :: rest => (readCode 4 rest).map fun (c, rest) => (.literal c, rest)
  | 'U' :: rest => (readCode 8 rest).map fun (c, rest) => (.literal c, rest)
  | 'd' :: rest => some (.set .digit, rest)
  | 'D' :: rest => some (.set (.complement .digit), rest)
  | 'w' :: rest => some (.set .word, rest)
  | 'W' :: rest => some (.set (.complement .word), rest)
  | 's' :: rest => some (.set .blank, rest)
  | 'S' :: rest => some (.set (.complement .blank), rest)
  | 'a' :: rest => some (.literal '\x07', rest)
  | 'f' :: rest => some (.literal '\x0c', rest)
  | 't' :: rest => some (.literal '\t', rest)
  | 'n' :: rest => some (.literal '\n', rest)
  | 'r' :: rest => some (.literal '\r', rest)
  | 'v' :: rest => some (.literal '\x0b', rest)
  | 'A' :: rest => some (.anchor .textStart, rest)
  | 'z' :: rest => some (.anchor .textEnd, rest)
  | 'b' :: rest => readWordAnchor rest
  | 'B' :: rest => some (.anchor .noWordEdge, rest)
  | '<' :: rest => some (.anchor .wordStart, rest)
  | '>' :: rest => some (.anchor .wordEnd, rest)
  | c :: rest => if c.toNat < 128 ∧ !c.isAlphanum then some (.literal c, rest) else none

/-- One character or escape within brackets. -/
def readMember : Reader Escape
  | [] => none
  | '\\' :: rest => readEscape rest
  | c :: rest => some (.literal c, rest)

/-- The character that an escape stands for, if it stands for one. -/
def Escape.character? : Escape → Option Char
  | literal c => some c
  | _ => none

/-- The set that an escape stands for within brackets. -/
def Escape.set? (mode : Mode) : Escape → Option CharSet
  | .literal c => some (mode.adapt (.single c))
  | .set members => some members
  | .anchor _ => none

/-- A member of a set or a range of them. A hyphen before the end of the set or before another hyphen
makes no range. -/
def readRange (mode : Mode) : Reader CharSet := fun text => do
  let (first, rest) ← readMember text
  match rest with
  | '-' :: ']' :: _ => return (← first.set? mode, rest)
  | '-' :: '-' :: _ => return (← first.set? mode, rest)
  | '-' :: rest => do
    let (last, rest) ← readMember rest
    let first ← first.character?
    let last ← last.character?
    if first ≤ last then return (mode.adapt (.range first last), rest) else none
  | _ => return (← first.set? mode, rest)

/-- The sets of ASCII characters that have a name. -/
def setNames : List (String × List (Char × Char)) :=
  [("alnum", [('0', '9'), ('A', 'Z'), ('a', 'z')]),
    ("alpha", [('A', 'Z'), ('a', 'z')]),
    ("ascii", [('\x00', '\x7f')]),
    ("blank", [('\t', '\t'), (' ', ' ')]),
    ("cntrl", [('\x00', '\x1f'), ('\x7f', '\x7f')]),
    ("digit", [('0', '9')]),
    ("graph", [('!', '~')]),
    ("lower", [('a', 'z')]),
    ("print", [(' ', '~')]),
    ("punct", [('!', '/'), (':', '@'), ('[', '\x60'), ('\x7b', '~')]),
    ("space", [('\t', '\r'), (' ', ' ')]),
    ("upper", [('A', 'Z')]),
    ("word", [('0', '9'), ('A', 'Z'), ('_', '_'), ('a', 'z')]),
    ("xdigit", [('0', '9'), ('A', 'F'), ('a', 'f')])]

/-- A named set within brackets, after its own opening bracket. -/
def readNamedSet (mode : Mode) : Reader CharSet := fun text => do
  let rest ← after? [':'] text
  let (negated, rest) :=
    match rest with
    | '^' :: rest => (true, rest)
    | rest => (false, rest)
  let ranges ← setNames.lookup (String.ofList (rest.takeWhile (· != ':')))
  let rest ← after? [':', ']'] (rest.dropWhile (· != ':'))
  let named := CharSet.ofRanges ranges
  return (mode.adapt (if negated then .complement named else named), rest)

/-- The literal hyphens, or the literal closing bracket, that a set may start with. -/
def readLeading (mode : Mode) (text : List Char) : CharSet × List Char :=
  match text with
  | '-' :: _ => (mode.adapt (.single '-'), text.dropWhile (· == '-'))
  | ']' :: rest => (mode.adapt (.single ']'), rest)
  | _ => (.none, text)

mutual

/-- A set in brackets, after the opening bracket. -/
def readSet : Nat → Mode → Reader CharSet
  | 0, _, _ => none
  | steps + 1, mode, text =>
    match text with
    | '^' :: rest => do
      let (leading, rest) := readLeading mode rest
      let (set, rest) ← readMembers steps mode id leading rest
      return (.complement set, rest)
    | _ =>
      let (leading, rest) := readLeading mode text
      readMembers steps mode id leading rest

/-- The rest of a set up to its closing bracket, where `held` was read since the last operator and
`finish` applies that operator. Operators group to the left. -/
def readMembers : Nat → Mode → (CharSet → CharSet) → CharSet → Reader CharSet
  | 0, _, _, _, _ => none
  | steps + 1, mode, finish, held, text =>
    match text with
    | [] => none
    | ']' :: rest => some (finish held, rest)
    | '[' :: rest =>
      -- What is no named set is a set of its own within this one.
      match readNamedSet mode rest with
      | some (named, rest) => readMembers steps mode finish (.union held named) rest
      | none => do
        let (nested, rest) ← readSet steps mode rest
        readMembers steps mode finish (.union held nested) rest
    | '&' :: '&' :: rest => readMembers steps mode (.intersection (finish held)) .none rest
    | '-' :: '-' :: rest => readMembers steps mode (.difference (finish held)) .none rest
    | '~' :: '~' :: rest => readMembers steps mode (.symmetricDifference (finish held)) .none rest
    | _ => do
      let (set, rest) ← readRange mode text
      readMembers steps mode finish (.union held set) rest

end

/-- The number of a repetition, which may have blanks on both sides. -/
def readCount : Reader Nat := fun text =>
  let (digits, rest) := spanDigits (trimLeft text)
  let count := digitsValue digits
  -- A count has to fit thirty-two bits.
  if digits = [] ∨ 0x100000000 ≤ count then none else some (count, trimLeft rest)

/-- The bounds of a repetition, after the opening brace. -/
def readBounds : Reader (Nat × Option Nat) := fun text => do
  let (least, rest) ← readCount text
  match rest with
  | '\x7d' :: rest => return ((least, some least), rest)
  | ',' :: '\x7d' :: rest => return ((least, none), rest)
  | ',' :: rest => do
    let (most, rest) ← readCount rest
    if least ≤ most then return ((least, some most), ← after? ['\x7d'] rest) else none
  | _ => none

/-- What stands after the opening parenthesis of a group. -/
inductive Opening where
  /-- The mode changes for the rest of the surrounding group, and there is no group. -/
  | setting (mode : Mode)
  /-- A group begins in a mode; it may have a name. -/
  | group (mode : Mode) (name : Option String)

/-- The mode after a letter has switched something on or off. Which repetition is tried first has no
influence on whether a text fits, so its letter changes nothing. -/
def Mode.switch? (mode : Mode) (letter : Char) (on : Bool) : Option Mode :=
  match letter with
  | 'i' => some { mode with caseless := on }
  | 'm' => some { mode with lines := on }
  | 's' => some { mode with dotAll := on }
  | 'U' => some mode
  | _ => none

/-- The switches of a mode up to a colon or closing parenthesis. No letter comes twice, and letters
after the one hyphen switch off. -/
def readSwitches : List Char → Mode → Reader Mode
  | _, _, [] => none
  | seen, mode, c :: rest =>
    -- A hyphen has to be followed by a letter.
    if c = ':' ∨ c = ')' then if seen.head? = some '-' then none else some (mode, c :: rest)
    else if c ∈ seen then none
    else if c = '-' then readSwitches (c :: seen) mode rest
    else do
      let mode ← mode.switch? c ('-' ∉ seen)
      readSwitches (c :: seen) mode rest

/-- Whether a character may stand in the name of a group, at its start or further on. -/
def isNamePart (first : Bool) (c : Char) : Bool :=
  if first then c == '_' || (isWord c && !isDigit c)
  else isWord c || c == '.' || c == '[' || c == ']'

/-- A name up to the closing angle. -/
def readName : Reader String := fun text => do
  let name := text.takeWhile (· != '>')
  let rest ← after? ['>'] (text.dropWhile (· != '>'))
  let first ← name.head?
  if isNamePart true first && name.all (isNamePart false) then return (String.ofList name, rest)
  else none

/-- What stands after an opening parenthesis. -/
def readOpening (mode : Mode) : Reader Opening
  | '?' :: 'P' :: '<' :: rest => (readName rest).map fun (name, rest) => (.group mode name, rest)
  | '?' :: '<' :: rest => (readName rest).map fun (name, rest) => (.group mode name, rest)
  | '?' :: ')' :: _ => none
  | '?' :: rest => do
    let (mode, rest) ← readSwitches [] mode rest
    match rest with
    | ')' :: rest => return (.setting mode, rest)
    | _ :: rest => return (.group mode none, rest)
    | [] => none
  | rest => some (.group mode none, rest)

/-- The pattern of items, the last of them first. -/
def ofItems : List Pattern → Pattern
  | [] => empty
  | [item] => item
  | items => sequence items.reverse

/-- The pattern of branches, the last of them first. -/
def ofBranches (last : Pattern) : List Pattern → Pattern
  | [] => last
  | earlier => choice (last :: earlier).reverse

/-- Drops the question mark that makes a repetition prefer fewer rounds. -/
def skipPreference : List Char → List Char
  | '?' :: rest => rest
  | rest => rest

/-- Repeats the last item. There must be one, and a change of the mode is none. -/
def repeatLast? (least : Nat) (most : Option Nat) : List Pattern → Option (List Pattern)
  | [] => none
  | empty :: _ => none
  | item :: earlier => some (repeated item least most :: earlier)

/-- The anchor `^`. -/
def Mode.caret (mode : Mode) : Anchor :=
  if mode.lines then .lineStart else .textStart

/-- The anchor `$`. -/
def Mode.dollar (mode : Mode) : Anchor :=
  if mode.lines then .lineEnd else .textEnd

/-- The pattern of an escape. -/
def Escape.pattern (mode : Mode) : Escape → Pattern
  | .literal c => one (mode.adapt (.single c))
  | .set members => one members
  | .anchor condition => .anchor condition

/-- The pattern up to a closing parenthesis or the end of the text; the branches and the items of the
present branch that were read already stand last first. -/
def readBranches : Nat → Reading → List Pattern → List Pattern → Reader (Pattern × Reading)
  | 0, _, _, _, _ => none
  | steps + 1, reading, branches, items, text =>
    let mode := reading.mode
    let goOn := readBranches steps reading branches
    match text with
    | [] => some ((ofBranches (ofItems items) branches, reading), [])
    | ')' :: _ => some ((ofBranches (ofItems items) branches, reading), text)
    | '|' :: rest => readBranches steps reading (ofItems items :: branches) [] rest
    | '(' :: rest => do
      match ← readOpening mode rest with
      | (.setting mode, rest) =>
        -- The setting stands among the items as what cannot be repeated.
        readBranches steps { reading with mode := mode } branches (empty :: items) rest
      | (.group inner name, rest) => do
        if name.any (· ∈ reading.names) then none
        else
          let ((body, after), rest) ←
            readBranches steps ⟨inner, name.toList ++ reading.names⟩ [] [] rest
          let rest ← after? [')'] rest
          readBranches steps { after with mode := mode } branches (group body :: items) rest
    | '[' :: rest => do
      let (set, rest) ← readSet (rest.length + 1) mode rest
      goOn (one set :: items) rest
    | '?' :: rest => do goOn (← repeatLast? 0 (some 1) items) (skipPreference rest)
    | '*' :: rest => do goOn (← repeatLast? 0 none items) (skipPreference rest)
    | '+' :: rest => do goOn (← repeatLast? 1 none items) (skipPreference rest)
    | '\x7b' :: rest => do
      let ((least, most), rest) ← readBounds rest
      goOn (← repeatLast? least most items) (skipPreference rest)
    | '\\' :: rest => do
      let (escape, rest) ← readEscape rest
      goOn (escape.pattern mode :: items) rest
    | '.' :: rest => goOn (one mode.dot :: items) rest
    | '^' :: rest => goOn (anchor mode.caret :: items) rest
    | '$' :: rest => goOn (anchor mode.dollar :: items) rest
    | c :: rest => goOn (one (mode.adapt (.single c)) :: items) rest

/-- How deep a pattern may be nested. -/
def depthLimit : Nat := 250

/-- How many bytes an automaton for a pattern may need. -/
def roomLimit : Nat := 10 * 0x100000

/-- The pattern that a text writes, unless it is too deep or too large. -/
def read? (text : String) : Option Pattern := do
  let characters := text.toList
  let ((pattern, _), rest) ← readBranches (characters.length + 1) ⟨.initial, []⟩ [] [] characters
  -- What is left over begins with a closing parenthesis that nothing opened.
  if rest = [] ∧ pattern.depth ≤ depthLimit ∧ pattern.room ≤ roomLimit then some pattern else none

end Conform.Pattern
