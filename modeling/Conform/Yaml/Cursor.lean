import Conform.Text.Reader

/-! A place in the text of a YAML stream. -/

namespace Conform.Yaml

/-- The text that is left, and the number of characters, lines and characters of the line before it. -/
structure Cursor where
  rest : List Char
  index : Nat
  line : Nat
  column : Nat

/-- Whether the character may stand in a stream at all: most controls may not. -/
def isAllowed (c : Char) : Bool :=
  let code := c.toNat
  code == 0x09 || code == 0x0a || code == 0x0d || (0x20 ≤ code && code ≤ 0x7e) || code == 0x85 ||
    (0xa0 ≤ code && code ≤ 0xfffd) || 0x10000 ≤ code

/-- Whether the character is a space or tab. -/
def isGap (c : Char) : Bool :=
  c == ' ' || c == '\t'

/-- Whether the character ends a line. -/
def isBreak (c : Char) : Bool :=
  c == '\n' || c == '\r' || c == '\u0085' || c == '\u2028' || c == '\u2029'

/-- Whether a text is at the end of a word: a space, tab, line break or the end of the stream. -/
def endsWord (text : List Char) : Bool :=
  text.head?.all fun c => isGap c || isBreak c

/-- Whether a text is at the end of a line or of the stream. -/
def endsLine (text : List Char) : Bool :=
  text.head?.all isBreak

/-- Whether the character may stand in the name of an anchor, directive or tag handle. -/
def isNameChar (c : Char) : Bool :=
  c.isAlphanum || c == '_' || c == '-'

namespace Cursor

/-- The start of a text. -/
def ofText (text : List Char) : Cursor :=
  ⟨text, 0, 0, 0⟩

/-- Goes on over some characters, none of which ends a line. -/
def skip (cursor : Cursor) (count : Nat) : Cursor :=
  { cursor with
    rest := cursor.rest.drop count
    index := cursor.index + count
    column := cursor.column + count }

/-- Goes on to where the rest of the line has become this text. -/
def skipTo (cursor : Cursor) (rest : List Char) : Cursor :=
  cursor.skip (cursor.rest.length - rest.length)

/-- Splits off leading characters of a kind that holds no line breaks. -/
def span (cursor : Cursor) (kind : Char → Bool) : List Char × Cursor :=
  let taken := cursor.rest.takeWhile kind
  (taken, cursor.skip taken.length)

/-- Goes over leading characters of a kind that holds no line breaks. -/
def skipWhile (cursor : Cursor) (kind : Char → Bool) : Cursor :=
  (cursor.span kind).2

/-- Reads a line break, if there is one. All but the two Unicode separators read as a line feed. -/
def readBreak (cursor : Cursor) : List Char × Cursor :=
  -- The two characters of a line break of two count as one line.
  let next (count : Nat) (rest : List Char) : Cursor :=
    ⟨rest, cursor.index + count, cursor.line + 1, 0⟩
  match cursor.rest with
  | '\r' :: '\n' :: rest => (['\n'], next 2 rest)
  | c :: rest =>
    if !isBreak c then ([], cursor)
    else if c = '\u2028' ∨ c = '\u2029' then ([c], next 1 rest)
    else (['\n'], next 1 rest)
  | [] => ([], cursor)

/-- Goes over a comment, if one begins here, up to the end of its line. -/
def skipComment (cursor : Cursor) : Cursor :=
  if cursor.rest.head? = some '#' then cursor.skipWhile fun c => !isBreak c else cursor

/-- What follows the first line break, where nothing but spaces and a comment may stand before it. -/
def endLine? (cursor : Cursor) : Option Cursor :=
  let cursor := (cursor.skipWhile isGap).skipComment
  if endsLine cursor.rest then some cursor.readBreak.2 else none

/-- Whether three hyphens or three dots stand at the start of the line as a word of their own. -/
def atMarker (cursor : Cursor) (mark : Char) : Bool :=
  cursor.column == 0 &&
    match cursor.rest with
    | a :: b :: c :: rest => a == mark && b == mark && c == mark && endsWord rest
    | _ => false

/-- Whether a line starts here that ends a document or begins one. -/
def atDocumentMarker (cursor : Cursor) : Bool :=
  cursor.atMarker '-' || cursor.atMarker '.'

end Cursor

end Conform.Yaml
