import Conform.Json.Reader
import Conform.Languages
import Conform.Schema.Error
import Conform.Text.Utf8

/-! Documents in files. -/

namespace Conform

/-- The extension of the last name of a path, after its last dot. A dot at the start of the name
begins no extension. -/
def pathExtension? (path : String) : Option String := do
  let name ← ((path.splitOn "/").filter fun name => name ≠ "" ∧ name ≠ ".").getLast?
  match name.splitOn "." with
  | [] => none
  | [_] => none
  -- A hidden file whose name has no further dot.
  | ["", _] => none
  | parts => parts.getLast?

/-- Whether the path is one of a JSON document: its extension says so, in any case. -/
def isJsonPath (path : String) : Bool :=
  (pathExtension? path).any fun extension => extension.map Char.toLower == "json"

/-- The text that a path leads to. -/
def Files.readText (files : Files) (path : String) : Except Unreadable String := do
  match Utf8.decode? (← files path) with
  | some text => return text
  | none => throw .notText

/-- The document that a path leads to: JSON if the path says so, and YAML if not. -/
def Files.readDocument (files : Files) (languages : Languages) (path : String) :
    Except SchemaError Json :=
  match files.readText path with
  | .error cause => .error (.load path (.unreadable cause))
  | .ok text =>
    -- The path decides on the format, not the text: YAML that is JSON is still read as YAML.
    if isJsonPath path then
      match Json.read? text with
      | some document => .ok document
      | none => .error (.load path .json)
    else
      match languages.yaml? text with
      | some document => .ok document
      | none => .error (.load path .yaml)

end Conform
