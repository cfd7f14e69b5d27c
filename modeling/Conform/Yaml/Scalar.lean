import Conform.Yaml.Cursor

/-! The texts of scalars, as they are meant. -/

namespace Conform.Yaml

/-- How a scalar is written. -/
inductive Style where
  | plain
  | quoted
  | block
deriving DecidableEq

/-- What lies between two words of a scalar: spaces, or line breaks with the spaces around them. -/
structure Gap where
  /-- Whether a line ends in the gap. -/
  broken : Bool
  spaces : List Char
  /-- The first line break. It may be missing where a line break was escaped. -/
  first : List Char
  /-- The other line breaks. -/
  others : List Char

namespace Gap

/-- Nothing between two words. -/
def none : Gap := ⟨false, [], [], []⟩

/-- A line break that was escaped. -/
def escaped : Gap := ⟨true, [], [], []⟩

/-- What a gap means: spaces stay, one line feed is a space, and of several the first is dropped. -/
def fold (gap : Gap) : List Char :=
  if !gap.broken then gap.spaces
  else if gap.first = ['\n'] then if gap.others = [] then [' '] else gap.others
  else gap.first ++ gap.others

/-- Reads on over spaces and line breaks, in at most `steps` steps. A tab that stands left of the
column `margin` at the start of a line is refused. -/
def read (margin : Int) : Nat → Gap → Cursor → Option (Gap × Cursor)
  | 0, gap, cursor => some (gap, cursor)
  | steps + 1, gap, cursor =>
    match cursor.rest with
    | [] => some (gap, cursor)
    | c :: _ =>
      if isGap c then
        if gap.broken ∧ c = '\t' ∧ cursor.column < margin then Option.none
        else
          -- Spaces after a line break are indentation and mean nothing.
          let spaces := if gap.broken then gap.spaces else gap.spaces ++ [c]
          read margin steps { gap with spaces := spaces } (cursor.skip 1)
      else if isBreak c then
        let (lineBreak, cursor) := cursor.readBreak
        if gap.broken then
          read margin steps { gap with others := gap.others ++ lineBreak } cursor
        else read margin steps ⟨true, [], lineBreak, []⟩ cursor
      else some (gap, cursor)

end Gap

/-- The characters that end a plain scalar within brackets. -/
def isFlowIndicator (c : Char) : Bool :=
  c == ',' || c == '[' || c == ']' || c == '\x7b' || c == '\x7d'

/-- A word at the front of a text that belongs to a plain scalar. Within brackets a colon may not
stand right before another indicator. -/
def plainWord? (inFlow : Bool) : List Char → Option (List Char)
  | [] => some []
  | c :: rest =>
    if isGap c || isBreak c then some []
    else if inFlow && c == ':' && rest.head?.any (fun d => isFlowIndicator d || d == '?') then none
    else if c == ':' && endsWord rest then some []
    else if inFlow && isFlowIndicator c then some []
    else (plainWord? inFlow rest).map (c :: ·)

/-- The rest of a plain scalar after some text and a gap, in at most `steps` steps. Outside brackets
its lines lie right of the column `indent`. The answer tells whether the scalar was left at the start
of a line. -/
def readPlain (inFlow : Bool) (indent : Int) :
    Nat → List Char → Gap → Cursor → Option (List Char × Bool × Cursor)
  | 0, _, _, _ => none
  | steps + 1, text, gap, cursor =>
    -- A number sign after a gap begins a comment.
    if cursor.atDocumentMarker || cursor.rest.head? == some '#' then
      some (text, gap.broken, cursor)
    else do
      let word ← plainWord? inFlow cursor.rest
      let (text, gap) := if word = [] then (text, gap) else (text ++ gap.fold ++ word, Gap.none)
      let cursor := cursor.skip word.length
      if !cursor.rest.head?.any (fun c => isGap c || isBreak c) then
        return (text, gap.broken, cursor)
      else
        let (gap, cursor) ← gap.read (indent + 1) cursor.rest.length cursor
        if !inFlow ∧ cursor.column < indent + 1 then return (text, gap.broken, cursor)
        else readPlain inFlow indent steps text gap cursor

/-- The end of a word within quotes: a space, line break or the end of the stream, the closing quote,
or a line break that was escaped. -/
inductive WordEnd where
  | gap
  | quote
  | escapedBreak

/-- A word between single quotes; two quotes stand for one. -/
def singleQuotedWord : List Char → List Char × WordEnd × List Char
  | [] => ([], .gap, [])
  | '\'' :: '\'' :: rest =>
    let (word, ending, rest) := singleQuotedWord rest
    ('\'' :: word, ending, rest)
  | '\'' :: rest => ([], .quote, '\'' :: rest)
  | c :: rest =>
    if isGap c || isBreak c then ([], .gap, c :: rest)
    else
      let (word, ending, rest) := singleQuotedWord rest
      (c :: word, ending, rest)

/-- The characters that an escape of one letter stands for. -/
def escapedChars : List (Char × Char) :=
  [('0', '\x00'), ('a', '\x07'), ('b', '\x08'), ('t', '\t'), ('\t', '\t'), ('n', '\n'),
    ('v', '\x0b'), ('f', '\x0c'), ('r', '\r'), ('e', '\x1b'), (' ', ' '), ('"', '"'), ('/', '/'),
    ('\\', '\\'), ('N', '\u0085'), ('_', '\u00a0'), ('L', '\u2028'), ('P', '\u2029')]

/-- The numbers of hexadecimal digits that escapes of code points take. -/
def codeLengths : List (Char × Nat) :=
  [('x', 2), ('u', 4), ('U', 8)]

/-- The character of an escape, after its backslash. -/
def readEscape : Reader Char
  | [] => none
  | letter :: rest =>
    match escapedChars.lookup letter, codeLengths.lookup letter with
    | some c, _ => some (c, rest)
    | none, some count => do
      if rest.length < count then none
      else return (← character? (← digitsValue? 16 (rest.take count)), rest.drop count)
    | none, none => none

/-- A word between double quotes, in at most `steps` steps. -/
def readDoubleQuotedWord : Nat → List Char → Option (List Char × WordEnd × List Char)
  | 0, _ => none
  | steps + 1, text =>
    match text with
    | [] => some ([], .gap, [])
    | '"' :: _ => some ([], .quote, text)
    | '\\' :: rest =>
      if rest.head?.any isBreak then some ([], .escapedBreak, rest)
      else do
        let (c, rest) ← readEscape rest
        let (word, ending, rest) ← readDoubleQuotedWord steps rest
        return (c :: word, ending, rest)
    | c :: rest =>
      if isGap c || isBreak c then some ([], .gap, text)
      else do
        let (word, ending, rest) ← readDoubleQuotedWord steps rest
        return (c :: word, ending, rest)

/-- The rest of a quoted scalar after some text and a gap, in at most `steps` steps. No document may
end or begin within quotes. -/
def readQuoted (single : Bool) :
    Nat → List Char → Gap → Cursor → Option (List Char × Cursor)
  | 0, _, _, _ => none
  | steps + 1, text, gap, cursor =>
    if cursor.atDocumentMarker || cursor.rest.isEmpty then none
    else do
      let (word, ending, rest) ←
        if single then some (singleQuotedWord cursor.rest)
        else readDoubleQuotedWord (cursor.rest.length + 1) cursor.rest
      let text := text ++ gap.fold ++ word
      let cursor := cursor.skipTo rest
      match ending with
      | .quote => return (text, cursor.skip 1)
      | .gap => do
        let (gap, cursor) ← Gap.none.read 0 cursor.rest.length cursor
        readQuoted single steps text gap cursor
      | .escapedBreak => do
        let cursor := cursor.readBreak.2
        if cursor.rest.head? = some '"' then return (text, cursor.skip 1)
        else
          let (gap, cursor) ← Gap.escaped.read 0 cursor.rest.length cursor
          readQuoted single steps text gap cursor

/-- What a block scalar keeps of the line breaks at its end. -/
inductive Chomp where
  /-- None of them. -/
  | strip
  /-- The first. -/
  | clip
  /-- All of them. -/
  | keep
deriving DecidableEq

/-- A sign that tells what is kept at the end. -/
def readChomp (cursor : Cursor) : Option Chomp × Cursor :=
  match cursor.rest with
  | '+' :: _ => (some .keep, cursor.skip 1)
  | '-' :: _ => (some .strip, cursor.skip 1)
  | _ => (none, cursor)

/-- A digit that tells how far a block scalar is indented; it is not zero. -/
def readIndentation (cursor : Cursor) : Option (Option Nat × Cursor) :=
  match cursor.rest with
  | c :: _ =>
    if c = '0' then none
    else if c.isDigit then some (some (c.toNat - '0'.toNat), cursor.skip 1)
    else some (none, cursor)
  | [] => some (none, cursor)

/-- What stands on the first line of a block scalar, both parts in either order. -/
def readHeader (cursor : Cursor) : Option (Chomp × Option Nat × Cursor) := do
  let (chomp, cursor) := readChomp cursor
  let (indentation, cursor) ← readIndentation cursor
  let (chomp, cursor) :=
    match chomp, indentation with
    | none, some _ => readChomp cursor
    | chomp, _ => (chomp, cursor)
  return (chomp.getD .clip, indentation, ← cursor.endLine?)

/-- Reads the empty lines of a block scalar and the indentation of the next line, in at most `steps`
steps; the widest indentation is part of the answer. While the indentation is not known every space
belongs to it. No tab may stand in it. -/
def readEmptyLines (indent : Option Nat) :
    Nat → Nat → List Char → Cursor → Option (Nat × List Char × Cursor)
  | 0, _, _, _ => none
  | steps + 1, widest, breaks, cursor =>
    let spaces := (cursor.rest.takeWhile (· == ' ')).length
    let cursor := cursor.skip ((indent.map fun indent => min spaces (indent - cursor.column)).getD spaces)
    let widest := max widest cursor.column
    match cursor.rest with
    | [] => some (widest, breaks, cursor)
    | c :: _ =>
      if c = '\t' ∧ indent.all (cursor.column < ·) then none
      else if isBreak c then
        let (lineBreak, cursor) := cursor.readBreak
        readEmptyLines indent steps widest (breaks ++ lineBreak) cursor
      else some (widest, breaks, cursor)

/-- A block scalar so far: its text, the line break after it, and those of the empty lines after that. -/
structure Block where
  text : List Char
  lineBreak : List Char
  emptyLines : List Char
  /-- Whether the last line starts with a space or tab. -/
  spaced : Bool

/-- Reads the lines of a block scalar, in at most `steps` steps. In a folded one a single line feed
between two lines that start with no space is a space. -/
def readLines (folded : Bool) (indent : Nat) : Nat → Block → Cursor → Option (Block × Cursor)
  | 0, _, _ => none
  | steps + 1, block, cursor =>
    if cursor.column ≠ indent ∨ cursor.rest.isEmpty then some (block, cursor)
    else do
      let spaced := cursor.rest.head?.any isGap
      -- A line that starts with a space keeps the line breaks on both of its sides.
      let joint :=
        if folded && block.lineBreak == ['\n'] && !block.spaced && !spaced then
          if block.emptyLines.isEmpty then [' '] else []
        else block.lineBreak
      let (line, cursor) := cursor.span fun c => !isBreak c
      let (lineBreak, cursor) := cursor.readBreak
      let (_, emptyLines, cursor) ←
        readEmptyLines (some indent) (cursor.rest.length + 1) 0 [] cursor
      let text := block.text ++ joint ++ block.emptyLines ++ line
      readLines folded indent steps ⟨text, lineBreak, emptyLines, spaced⟩ cursor

/-- The text of a block scalar, after its indicator, in a collection that is indented by `outer`. -/
def readBlock (folded : Bool) (outer : Int) (cursor : Cursor) : Option (List Char × Cursor) := do
  let (chomp, indentation, cursor) ← readHeader cursor
  let steps := cursor.rest.length + 1
  let given := indentation.map fun more => (max outer 0).toNat + more
  let (widest, emptyLines, cursor) ← readEmptyLines given steps 0 [] cursor
  -- Without a given indentation the first line that is not empty decides.
  let indent := given.getD (max widest (max (outer + 1) 1).toNat)
  let (block, cursor) ← readLines folded indent steps ⟨[], [], emptyLines, false⟩ cursor
  let lineBreak := if chomp = .strip then [] else block.lineBreak
  let emptyLines := if chomp = .keep then block.emptyLines else []
  return (block.text ++ lineBreak ++ emptyLines, cursor)

end Conform.Yaml
