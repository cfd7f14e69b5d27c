import Conform.Config.Reader
import Conform.Yaml.Json

/-! Reading configurations from YAML texts. -/

namespace Conform

namespace Yaml.Tree

/-- Whether nothing is written. -/
def isBlank : Tree → Bool
  | scalar leaf => leaf.style == .plain && leaf.text == []
  | _ => false

/-- The members of a mapping under the texts of their keys. -/
def members? : Tree → Option (List (String × Tree))
  | mapping _ members => members.mapM fun (key, value) => do return (← key.text?, value)
  | tree => if tree.isBlank then some [] else none

/-- The elements of a sequence. -/
def items? : Tree → Option (List Tree)
  | sequence _ items => some items
  | tree => if tree.isBlank then some [] else none

/-- The fields of a mapping or sequence. -/
def record? : Tree → Option (Record Tree)
  | sequence _ items => some (.listed items)
  | tree => tree.members?.map .named

/-- A tree, or nothing if it is null or not written. The tag of null demands null, and any other tag
makes a text. -/
def present? : Tree → Option (Option Tree)
  | scalar leaf =>
    if leaf.style ≠ .plain then some (some (scalar leaf))
    else
      match leaf.tag with
      | none => some (if leaf.text = [] ∨ isNull leaf.text then none else some (scalar leaf))
      | some tag =>
        if tag ≠ CoreTag.name .null then some (some (scalar leaf))
        else if isNull leaf.text then some none
        else none
  | tree => some (some tree)

/-- YAML documents, in which every scalar is a text where a text is asked for. -/
def format : Format Tree where
  record? := record?
  members? := members?
  items? := items?
  text? := text?
  present? := present?
  json? := json?

end Yaml.Tree

namespace Config

/-- The configuration that a YAML text describes; that of an empty stream is empty. -/
def ofYamlText? (text : String) : Option Config := do
  match ← Yaml.Tree.read? text with
  | none => return ⟨[]⟩
  | some tree => Yaml.Tree.format.config? tree

/-- Reads a configuration from a YAML text. -/
def ofYamlText (text : String) : Except SchemaError Config :=
  (ofYamlText? text).elim (.error (.load inlineOrigin .yaml)) .ok

end Config

end Conform
