import Conform.Config.Basic
import Conform.Files.Document

/-! Reading configurations from documents.

A document is read in the form that its format has, without first being made a value: so a number can
be the name of a type where the format does not tell numbers from texts. -/

namespace Conform

/-- What stands for a structure with named fields: members under the names of its fields, or the
fields themselves in their order. -/
inductive Record (α : Type) where
  | named (members : List (String × α))
  | listed (fields : List α)

/-- A format as far as configurations need it; each part answers none where the document has not the
form it asks for. -/
structure Format (α : Type) where
  record? : α → Option (Record α)
  /-- Members under free names. -/
  members? : α → Option (List (String × α))
  items? : α → Option (List α)
  text? : α → Option String
  /-- The document itself, or nothing where it says that there is none. -/
  present? : α → Option (Option α)
  json? : α → Option Json

/-- The fields of a record, one for each name; a field may be missing. Named members come once each and
are all known, and listed ones are not too many. -/
def Record.fields? {α : Type} (names : List String) : Record α → Option (List (Option α))
  | named members =>
    let given := members.map Prod.fst
    -- An unknown or repeated name is refused, so a misspelt field does not go unread.
    if given.all (names.contains ·) ∧ given.Nodup then
      some (names.map fun name => members.lookup name)
    else none
  | listed fields =>
    -- Fields at the end may be left out.
    if fields.length ≤ names.length then
      some (fields.map some ++ List.replicate (names.length - fields.length) none)
    else none

namespace Format

variable {α : Type} (format : Format α)

/-- A field that may be missing or say that there is nothing. -/
def optional? {β : Type} (read? : α → Option β) : Option α → Option (Option β)
  | none => some none
  | some document => do
    match ← format.present? document with
    -- A field that says there is nothing counts as missing.
    | none => return none
    | some document => return some (← read? document)

/-- A list of documents. -/
def documents? (document : α) : Option (List Json) := do
  (← format.items? document).mapM format.json?

/-- A declared type. -/
def typeSpec? (document : α) : Option TypeSpec := do
  match ← (← format.record? document).fields? ["type", "pattern", "one_of", "message"] with
  | [base, pattern, oneOf, message] =>
    return {
      base := ← format.optional? format.text? base
      pattern := ← format.optional? format.text? pattern
      oneOf := ← format.optional? format.documents? oneOf
      message := ← format.optional? format.text? message }
  | _ => none

/-- Declared types under their names; of two under one name the first gives the place and the last the
declaration. -/
def types? (document : α) : Option (Members TypeSpec) := do
  -- The order is kept: later types build on earlier ones.
  let specs ← (← format.members? document).mapM fun (name, body) => do
    return (name, ← format.typeSpec? body)
  return Members.ofPairs specs

/-- A configuration. -/
def config? (document : α) : Option Config := do
  match ← (← format.record? document).fields? ["types"] with
  | [some types] => return ⟨← format.types? types⟩
  -- Without the field no type is declared, which is no error.
  | _ => return ⟨[]⟩

end Format

/-- JSON documents, whose repeated member names are still as written. -/
def Json.format : Format Json where
  record?
    | .object members => some (.named members)
    | .array items => some (.listed items)
    | _ => none
  members?
    | .object members => some members
    | _ => none
  items?
    | .array items => some items
    | _ => none
  text?
    | .string text => some text
    | _ => none
  present?
    | .null => some none
    | document => some (some document)
  json? document := some document.settle

namespace Config

/-- The configuration that a document describes. -/
def ofDocument? (document : Json) : Option Config :=
  Json.format.config? document

/-- The configuration that a JSON text describes. -/
def ofJsonText? (text : String) : Option Config := do
  Json.format.config? (← Json.readRaw? text)

/-- What a text is called that is in no file. -/
def inlineOrigin : String := "<inline>"

/-- Reads a configuration from a JSON text. -/
def ofJsonText (text : String) : Except SchemaError Config :=
  (ofJsonText? text).elim (.error (.load inlineOrigin .json)) .ok

/-- Reads a configuration from a file. -/
def load (files : Files) (languages : Languages) (path : String) :
    Except SchemaError Config := do
  match ofDocument? (← files.readDocument languages path) with
  | some config => return config
  | none => throw (.load path .data)

end Config

end Conform
