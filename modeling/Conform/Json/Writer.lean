import Conform.Json.Basic
import Conform.Number.Notation

/-! Writing JSON documents, in one line or spread over indented lines. -/

namespace Conform.Json

/-- A digit of the base sixteen, in lower case. -/
def hexDigit (n : Nat) : Char :=
  Nat.digitChar n

/-- The written form of one character inside quotes: the two delimiters and the control characters
are escaped, all others stand for themselves. -/
def escape (c : Char) : List Char :=
  if c = '"' then ['\\', '"']
  else if c = '\\' then ['\\', '\\']
  else if c = '\x08' then ['\\', 'b']
  else if c = '\x0c' then ['\\', 'f']
  else if c = '\n' then ['\\', 'n']
  else if c = '\r' then ['\\', 'r']
  else if c = '\t' then ['\\', 't']
  else if c.toNat < 0x20 then
    ['\\', 'u', '0', '0', hexDigit (c.toNat / 16), hexDigit (c.toNat % 16)]
  else [c]

/-- A text between quotes. -/
def quote (text : String) : List Char :=
  '"' :: text.toList.flatMap escape ++ ['"']

mutual

/-- The document without any blanks. -/
def compact : Json → List Char
  | null => "null".toList
  | bool truth => (if truth then "true" else "false").toList
  | integer n => signedNumeral n
  | float n => n.toJsonText.toList
  | string text => quote text
  | array [] => ['[', ']']
  -- The first part is written here, so that every other one follows a comma.
  | array (item :: rest) => '[' :: item.compact ++ compactItems rest
  | object [] => ['\x7b', '\x7d']
  | object ((name, value) :: rest) =>
    '\x7b' :: quote name ++ ':' :: value.compact ++ compactMembers rest
termination_by structural document => document

/-- Further elements, and the end of their array. -/
def compactItems : List Json → List Char
  | [] => [']']
  | item :: rest => ',' :: item.compact ++ compactItems rest
termination_by structural items => items

/-- Further members, and the end of their object. -/
def compactMembers : List (String × Json) → List Char
  | [] => ['\x7d']
  | (name, value) :: rest =>
    ',' :: quote name ++ ':' :: value.compact ++ compactMembers rest
termination_by structural members => members

end

/-- A new line indented by two blanks a level. -/
def newLine (level : Nat) : List Char :=
  '\n' :: List.replicate (2 * level) ' '

mutual

/-- The document with each element and member on a line of its own. -/
def pretty (level : Nat) : Json → List Char
  | array (item :: rest) =>
    '[' :: newLine (level + 1) ++ item.pretty (level + 1) ++ prettyItems level rest
  | object ((name, value) :: rest) =>
    '\x7b' :: newLine (level + 1) ++ quote name ++ ": ".toList ++ value.pretty (level + 1) ++
      prettyMembers level rest
  -- An empty array or object stays in one line.
  | document => document.compact
termination_by structural document => document

/-- Further elements, and the end of their array. -/
def prettyItems (level : Nat) : List Json → List Char
  | [] => newLine level ++ [']']
  | item :: rest =>
    ',' :: newLine (level + 1) ++ item.pretty (level + 1) ++ prettyItems level rest
termination_by structural items => items

/-- Further members, and the end of their object. -/
def prettyMembers (level : Nat) : List (String × Json) → List Char
  | [] => newLine level ++ ['\x7d']
  | (name, value) :: rest =>
    ',' :: newLine (level + 1) ++ quote name ++ ": ".toList ++ value.pretty (level + 1) ++
      prettyMembers level rest
termination_by structural members => members

end

/-- The text of a document in one line. -/
def toText (document : Json) : String :=
  String.ofList document.compact

/-- The text of a document over indented lines. -/
def toPrettyText (document : Json) : String :=
  String.ofList (document.pretty 0)

end Conform.Json
