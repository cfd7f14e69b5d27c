import Conform.Text.Utf8
import Conform.Yaml.Scalar

/-! The tokens of a YAML stream. Indentation becomes tokens of its own. -/

namespace Conform.Yaml

/-- A part of a stream. -/
inductive Token where
  /-- The version that the stream claims to be written in. -/
  | version (major minor : Nat)
  /-- What a tag handle abbreviates. -/
  | handle (handle start : List Char)
  | documentStart
  | documentEnd
  | blockSequence
  | blockMapping
  | blockEnd
  | openBracket
  | closeBracket
  | openBrace
  | closeBrace
  | hyphen
  | comma
  | key
  | value
  | reference (name : List Char)
  | anchor (name : List Char)
  | tag (handle suffix : List Char)
  | scalar (style : Style) (text : List Char)
deriving DecidableEq

/-- A place where a key may have begun that shows itself only by a later colon. -/
structure PendingKey where
  /-- Whether the colon has to come, since nothing else may stand at this indentation. -/
  required : Bool
  /-- How many tokens came before it. -/
  place : Nat
  index : Nat
  line : Nat
  column : Nat

/-- The tokens up to a place in a stream, and what decides about the next one. -/
structure Scanner where
  cursor : Cursor
  /-- The column of the innermost block collection, or minus one outside of all. -/
  indent : Int
  /-- The columns of the collections around it. -/
  outerIndents : List Int
  /-- Whether a key may begin without an indicator. -/
  keyAllowed : Bool
  pending : Option PendingKey
  /-- The pending keys around the open brackets, the innermost first. -/
  outerPending : List (Option PendingKey)
  /-- The tokens, the last one first. -/
  tokens : List Token

namespace Scanner

/-- The start of a stream. -/
def start (text : List Char) : Scanner :=
  ⟨.ofText text, -1, [], true, none, [], []⟩

/-- Whether brackets are open. -/
def inFlow (scanner : Scanner) : Bool :=
  !scanner.outerPending.isEmpty

/-- Appends a token. -/
def push (scanner : Scanner) (token : Token) : Scanner :=
  { scanner with tokens := token :: scanner.tokens }

/-- Inserts a token after the first so many. -/
def insertAt (scanner : Scanner) (place : Nat) (token : Token) : Scanner :=
  let later := scanner.tokens.length - place
  { scanner with tokens := scanner.tokens.take later ++ token :: scanner.tokens.drop later }

/-- Gives up a pending key; one that is required cannot be given up. -/
def dropPending? (scanner : Scanner) : Option Scanner :=
  if scanner.pending.any (·.required) then none else some { scanner with pending := none }

/-- Remembers that a key may begin here. -/
def savePending? (scanner : Scanner) : Option Scanner :=
  if scanner.keyAllowed then do
    let scanner ← scanner.dropPending?
    let cursor := scanner.cursor
    let required := !scanner.inFlow && scanner.indent == cursor.column
    return { scanner with
      pending := some
        ⟨required, scanner.tokens.length, cursor.index, cursor.line, cursor.column⟩ }
  else some scanner

/-- How many characters a key without an indicator may have. -/
def keyLimit : Nat := 1024

/-- A pending key as it is after some more text: a key lies within one line and is not too long. -/
def stillPending? (cursor : Cursor) : Option PendingKey → Option (Option PendingKey)
  | none => some none
  | some pending =>
    if pending.line < cursor.line ∨ pending.index + keyLimit < cursor.index then
      -- Where only a key can stand, losing it is an error.
      if pending.required then none else some none
    else some (some pending)

/-- Gives up all pending keys that the text has left behind. -/
def dropStale? (scanner : Scanner) : Option Scanner := do
  return { scanner with
    pending := ← stillPending? scanner.cursor scanner.pending
    outerPending := ← scanner.outerPending.mapM (stillPending? scanner.cursor) }

/-- Opens a block collection if the column lies right of the innermost one. -/
def roll (scanner : Scanner) (column place : Nat) (token : Token) : Scanner :=
  if !scanner.inFlow ∧ scanner.indent < column then
    let scanner := scanner.insertAt place token
    { scanner with indent := column, outerIndents := scanner.indent :: scanner.outerIndents }
  else scanner

/-- Opens a block collection at the cursor if it lies right of the innermost one. -/
def rollHere (scanner : Scanner) (token : Token) : Scanner :=
  scanner.roll scanner.cursor.column scanner.tokens.length token

/-- Closes the block collections right of a column, `outer` being the columns around the innermost. -/
def unrollThrough (column : Int) : List Int → Scanner → Scanner
  | [], scanner => scanner
  | outer :: rest, scanner =>
    if column < scanner.indent then
      unrollThrough column rest
        { scanner with indent := outer, outerIndents := rest, tokens := .blockEnd :: scanner.tokens }
    else scanner

/-- Closes the block collections right of a column; brackets leave them alone. -/
def unroll (scanner : Scanner) (column : Int) : Scanner :=
  if scanner.inFlow then scanner else unrollThrough column scanner.outerIndents scanner

/-- Goes on to the next token, in at most `steps` steps. A tab is a space only where no key may begin
in a block collection. -/
def skipToToken : Nat → Scanner → Scanner
  | 0, scanner => scanner
  | steps + 1, scanner =>
    let cursor := scanner.cursor
    -- A byte order mark may stand at the very start.
    let cursor :=
      if cursor.index = 0 ∧ cursor.rest.head? = some '\uFEFF' then cursor.skip 1 else cursor
    let tabs := scanner.inFlow || !scanner.keyAllowed
    let cursor := (cursor.skipWhile fun c => c == ' ' || (tabs && c == '\t')).skipComment
    if cursor.rest.head?.any isBreak then
      skipToToken steps
        { scanner with
          cursor := cursor.readBreak.2
          keyAllowed := scanner.keyAllowed || !scanner.inFlow }
    else { scanner with cursor := cursor }

/-- Appends the token of some leading characters. -/
def take (scanner : Scanner) (count : Nat) (keyAllowed : Bool) (token : Token) : Scanner :=
  { scanner with
    cursor := scanner.cursor.skip count
    keyAllowed := keyAllowed
    tokens := token :: scanner.tokens }

/-- A number of a version; it has at most nine digits. -/
def readVersionPart : Reader Nat := fun text =>
  let (digits, rest) := spanDigits text
  if digits = [] ∨ 9 < digits.length then none else some (digitsValue digits, rest)

/-- One character of a tag, escaped as the bytes of its UTF-8 form. -/
def readTagEscape : Reader (List Char) := fun text => do
  let first ← octet? text
  let width ←
    if first < 0x80 then some 1
    else if 0xc0 ≤ first ∧ first < 0xe0 then some 2
    else if 0xe0 ≤ first ∧ first < 0xf0 then some 3
    else if 0xf0 ≤ first ∧ first < 0xf8 then some 4
    else none
  let others ← (List.range (width - 1)).mapM fun place => octet? (text.drop (3 * (place + 1)))
  if others.all fun octet => 0x80 ≤ octet && octet < 0xc0 then
    let bytes := (first :: others).map UInt8.ofNat
    return ((Utf8.decodeLossy bytes).toList, text.drop (3 * width))
  else none
where
  /-- The byte of a percent sign and two digits. -/
  octet? : List Char → Option Nat
    | '%' :: a :: b :: _ => digitsValue? 16 [a, b]
    | _ => none

/-- The characters that may stand in a tag besides those of names. -/
def tagPunctuation : List Char :=
  [';', '/', '?', ':', '@', '&', '=', '+', '$', '.', '!', '~', '*', '\'', '(', ')']

/-- The characters of a tag, in at most `steps` steps; within angles it may hold commas and brackets. -/
def readTagText (inAngles : Bool) : Nat → Reader (List Char)
  | 0, _ => none
  | steps + 1, text =>
    match text with
    | '%' :: _ => do
      let (characters, rest) ← readTagEscape text
      let (others, rest) ← readTagText inAngles steps rest
      return (characters ++ others, rest)
    | c :: rest =>
      if isNameChar c || tagPunctuation.contains c ||
          (inAngles && (c == ',' || c == '[' || c == ']')) then do
        let (others, rest) ← readTagText inAngles steps rest
        return (c :: others, rest)
      else some ([], text)
    | [] => some ([], [])

/-- The characters of a tag; there is at least one. -/
def readSomeTagText (inAngles : Bool) : Reader (List Char) := fun text => do
  let (characters, rest) ← readTagText inAngles (text.length + 1) text
  if rest.length = text.length then none else return (characters, rest)

/-- An exclamation mark, the name after it, and the second exclamation mark if it follows. -/
def readHandle : Reader (List Char) := fun text => do
  let rest ← after? ['!'] text
  let name := rest.takeWhile isNameChar
  match rest.drop name.length with
  | '!' :: rest => return ('!' :: name ++ ['!'], rest)
  | rest => return ('!' :: name, rest)

/-- A tag: its handle, which may be missing, and what follows. -/
def readTag : Reader (List Char × List Char) := fun text =>
  match text with
  | '!' :: '<' :: rest => do
    let (suffix, rest) ← readSomeTagText true rest
    return (([], suffix), ← after? ['>'] rest)
  | _ => do
    let (handle, rest) ← readHandle text
    if 1 < handle.length ∧ handle.getLast? = some '!' then
      let (suffix, rest) ← readSomeTagText false rest
      return ((handle, suffix), rest)
    else
      -- There is no handle but the mark itself, and what was read belongs to the tag.
      let (more, rest) ← readTagText false (rest.length + 1) rest
      let suffix := handle.drop 1 ++ more
      return (if suffix = [] then ([], ['!']) else (['!'], suffix), rest)

/-- Drops spaces and tabs at the front. -/
def dropGaps (text : List Char) : List Char :=
  text.dropWhile isGap

/-- A directive, after its percent sign, up to where only a comment may follow. -/
def readDirective : Reader Token := fun text => do
  let name := text.takeWhile isNameChar
  let rest := text.drop name.length
  if !endsWord rest then none
  else if name = "YAML".toList then
    let (major, rest) ← readVersionPart (dropGaps rest)
    let (minor, rest) ← readVersionPart (← after? ['.'] rest)
    return (.version major minor, rest)
  else if name = "TAG".toList then
    let (handle, rest) ← readHandle (dropGaps rest)
    if (handle.length = 1 ∨ handle.getLast? = some '!') ∧ rest.head?.any isGap then
      let (start, rest) ← readSomeTagText true (dropGaps rest)
      if endsWord rest then return (.handle handle start, rest) else none
    else none
  else none

/-- Reads a directive. -/
def directive? (scanner : Scanner) : Option Scanner := do
  -- A directive ends every block collection that is open.
  let scanner ← (scanner.unroll (-1)).dropPending?
  let cursor := scanner.cursor.skip 1
  let (token, rest) ← readDirective cursor.rest
  let cursor ← (cursor.skipTo rest).endLine?
  return { scanner with cursor := cursor, keyAllowed := false, tokens := token :: scanner.tokens }

/-- Reads a line that begins or ends a document. -/
def marker? (scanner : Scanner) (token : Token) : Option Scanner := do
  let scanner ← (scanner.unroll (-1)).dropPending?
  return scanner.take 3 false token

/-- Reads an opening bracket or brace. -/
def opening? (scanner : Scanner) (token : Token) : Option Scanner := do
  let scanner ← scanner.savePending?
  let scanner := scanner.take 1 true token
  return { scanner with pending := none, outerPending := scanner.pending :: scanner.outerPending }

/-- Reads a closing bracket or brace. -/
def closing? (scanner : Scanner) (token : Token) : Option Scanner := do
  let scanner ← scanner.dropPending?
  let scanner := scanner.take 1 false token
  match scanner.outerPending with
  | [] => return scanner
  | pending :: outer => return { scanner with pending := pending, outerPending := outer }

/-- Reads a comma. -/
def comma? (scanner : Scanner) : Option Scanner := do
  let scanner ← scanner.dropPending?
  return scanner.take 1 true .comma

/-- Reads the hyphen of an element. -/
def hyphen? (scanner : Scanner) : Option Scanner := do
  if !scanner.inFlow ∧ !scanner.keyAllowed then none
  else
    let scanner ← (scanner.rollHere .blockSequence).dropPending?
    return scanner.take 1 true .hyphen

/-- Reads the question mark of a key. -/
def key? (scanner : Scanner) : Option Scanner := do
  if !scanner.inFlow ∧ !scanner.keyAllowed then none
  else
    let scanner ← (scanner.rollHere .blockMapping).dropPending?
    return scanner.take 1 (!scanner.inFlow) .key

/-- Reads the colon of a value, which turns what is pending into a key. -/
def value? (scanner : Scanner) : Option Scanner :=
  match scanner.pending with
  | some pending =>
    -- The tokens of the key have been read already, so its own token goes before them.
    let scanner := scanner.insertAt pending.place .key
    let scanner := scanner.roll pending.column pending.place .blockMapping
    some { scanner.take 1 false .value with pending := none }
  | none =>
    if !scanner.inFlow ∧ !scanner.keyAllowed then none
    else some ((scanner.rollHere .blockMapping).take 1 (!scanner.inFlow) .value)

/-- Reads the name of an anchor or alias after its indicator. -/
def name? (scanner : Scanner) (token : List Char → Token) : Option Scanner := do
  let scanner ← scanner.savePending?
  let (name, cursor) := (scanner.cursor.skip 1).span isNameChar
  let follows (c : Char) := ['?', ':', ',', ']', '\x7d', '%', '@', '\x60'].contains c
  if name = [] ∨ !(endsWord cursor.rest || cursor.rest.head?.any follows) then none
  else
    return { scanner with
      cursor := cursor, keyAllowed := false, tokens := token name :: scanner.tokens }

/-- Reads a tag. -/
def tag? (scanner : Scanner) : Option Scanner := do
  let scanner ← scanner.savePending?
  let ((handle, suffix), rest) ← readTag scanner.cursor.rest
  if endsWord rest ∨ (scanner.inFlow ∧ rest.head? = some ',') then
    return { scanner with
      cursor := scanner.cursor.skipTo rest
      keyAllowed := false
      tokens := .tag handle suffix :: scanner.tokens }
  else none

/-- Reads a block scalar. -/
def block? (scanner : Scanner) (folded : Bool) : Option Scanner := do
  let scanner ← scanner.dropPending?
  let (text, cursor) ← readBlock folded scanner.indent (scanner.cursor.skip 1)
  return { scanner with
    cursor := cursor, keyAllowed := true, tokens := .scalar .block text :: scanner.tokens }

/-- Reads a quoted scalar. -/
def quoted? (scanner : Scanner) (single : Bool) : Option Scanner := do
  let scanner ← scanner.savePending?
  let cursor := scanner.cursor.skip 1
  let (text, cursor) ← readQuoted single (cursor.rest.length + 1) [] Gap.none cursor
  return { scanner with
    cursor := cursor, keyAllowed := false, tokens := .scalar .quoted text :: scanner.tokens }

/-- Reads a plain scalar. A key may begin after it if it ends at the start of a line. -/
def plain? (scanner : Scanner) : Option Scanner := do
  let scanner ← scanner.savePending?
  let cursor := scanner.cursor
  let (text, atLineStart, cursor) ←
    readPlain scanner.inFlow scanner.indent (cursor.rest.length + 1) [] Gap.none cursor
  return { scanner with
    cursor := cursor, keyAllowed := atLineStart, tokens := .scalar .plain text :: scanner.tokens }

/-- The characters with which no plain scalar begins. -/
def indicators : List Char :=
  ['-', '?', ':', ',', '[', ']', '\x7b', '\x7d', '#', '&', '*', '!', '|', '>', '\'', '"', '%', '@',
    '\x60']

/-- Reads the token that starts with a character, `rest` being what follows it. -/
def token? (scanner : Scanner) (c : Char) (rest : List Char) : Option Scanner :=
  let inFlow := scanner.inFlow
  if scanner.cursor.column = 0 ∧ c = '%' then scanner.directive?
  else if scanner.cursor.atMarker '-' then scanner.marker? .documentStart
  else if scanner.cursor.atMarker '.' then scanner.marker? .documentEnd
  else if c = '[' then scanner.opening? .openBracket
  else if c = '\x7b' then scanner.opening? .openBrace
  else if c = ']' then scanner.closing? .closeBracket
  else if c = '\x7d' then scanner.closing? .closeBrace
  else if c = ',' then scanner.comma?
  else if c = '-' ∧ endsWord rest then scanner.hyphen?
  else if c = '?' ∧ (inFlow ∨ endsWord rest) then scanner.key?
  else if c = ':' ∧ (inFlow ∨ endsWord rest) then scanner.value?
  else if c = '*' then scanner.name? .reference
  else if c = '&' then scanner.name? .anchor
  else if c = '!' then scanner.tag?
  else if c = '|' ∧ !inFlow then scanner.block? false
  else if c = '>' ∧ !inFlow then scanner.block? true
  else if c = '\'' then scanner.quoted? true
  else if c = '"' then scanner.quoted? false
  -- A hyphen, question mark or colon that is no indicator begins a plain scalar.
  else if c = '-' ∨ c = '?' ∨ c = ':' then scanner.plain?
  else if isGap c ∨ indicators.contains c then none
  else scanner.plain?

/-- Reads the rest of the stream, in at most `steps` tokens. -/
def finish? : Nat → Scanner → Option (List Token)
  | 0, _ => none
  | steps + 1, scanner => do
    let scanner ← (scanner.skipToToken (scanner.cursor.rest.length + 1)).dropStale?
    match scanner.cursor.rest with
    | [] =>
      let scanner ← (scanner.unroll (-1)).dropPending?
      return scanner.tokens.reverse
    | c :: rest => finish? steps (← (scanner.unroll scanner.cursor.column).token? c rest)

end Scanner

/-- The tokens of a stream. -/
def Token.scan? (text : List Char) : Option (List Token) :=
  if text.all isAllowed then (Scanner.start text).finish? (text.length + 1) else none

end Conform.Yaml
