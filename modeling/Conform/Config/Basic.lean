import Conform.Languages
import Conform.Schema.Error
import Conform.Schema.Registry
import Conform.Value.Equality
import Conform.Value.Json

/-! Configurations declare types by a base type, a pattern and a list of values. -/

namespace Conform

/-- A declared type. -/
structure TypeSpec where
  /-- The type that a value has to be of first. -/
  base : Option String
  /-- What texts have to look like. -/
  pattern : Option String
  oneOf : Option (List Json)
  /-- What is said of a value that the pattern or the list refuses. -/
  message : Option String

/-- Declared types in the order in which they build on one another. -/
structure Config where
  types : Members TypeSpec

/-- A declared type whose base is known and whose pattern is one. -/
structure TypeRule where
  name : String
  base : Option Predicate
  /-- A pattern as it is written, and whether it occurs in a text. -/
  pattern : Option (String × (String → Bool))
  oneOf : Option (List Value)
  message : Option String

namespace TypeRule

/-- The judgement of the base type. -/
def judgeBase (rule : TypeRule) (value : Value) (parent : Option Value) : Verdict :=
  match rule.base with
  | none => .pass
  | some base => base value parent

/-- The judgement of the pattern, which describes texts only. -/
def judgePattern (rule : TypeRule) (value : Value) : Verdict :=
  match rule.pattern, value with
  | none, _ => .pass
  | some (written, occurs), .string text =>
    if occurs text then .pass
    else .reason (rule.message.getD (rule.name ++ " should match \x60" ++ written ++ "\x60"))
  -- Before the pattern is matched: the message is not meant for this.
  | some _, _ => .reason (rule.name ++ " should be a string")

/-- The judgement of the list of values. -/
def judgeOneOf (rule : TypeRule) (value : Value) : Verdict :=
  match rule.oneOf with
  | none => .pass
  | some values =>
    -- Arrays and objects equal nothing here, so listing one admits no value.
    if values.any fun listed => listed.includes value then .pass
    else
      let listed := String.intercalate ", " (values.map Value.stringify)
      .reason (rule.message.getD (rule.name ++ " should be one of " ++ listed))

/-- The judgement of all parts of the rule; the first that does not accept decides. -/
def predicate (rule : TypeRule) : Predicate := fun value parent =>
  -- The parts after the first that refuses are not asked.
  (rule.judgeBase value parent).andThen
    ((rule.judgePattern value).andThen (rule.judgeOneOf value))

end TypeRule

namespace TypeSpec

/-- What is said of a declaration that demands nothing. -/
def demandsNothing : String :=
  "declares none of \x60type\x60, \x60pattern\x60, \x60one_of\x60"

/-- Looks up the base in a registry and asks for the meaning of the pattern. -/
def rule (spec : TypeSpec) (patterns : PatternLanguage) (name : String) (scope : Registry) :
    Except SchemaError TypeRule := do
  -- An empty declaration would accept everything, so it is taken for a slip.
  if spec.base.isNone ∧ spec.pattern.isNone ∧ spec.oneOf.isNone then
    throw (.invalidConfig name demandsNothing)
  let base ← spec.base.mapM fun base =>
    match scope.get? base with
    | some predicate => .ok predicate
    | none => .error (.invalidType base)
  -- The base is looked up first, so its error comes before that of the pattern.
  let pattern ← spec.pattern.mapM fun written =>
    if patterns.accepts written then .ok (written, patterns.occurs written)
    else .error (.invalidPattern name)
  return ⟨name, base, pattern, spec.oneOf.map fun documents => documents.map .ofJson, spec.message⟩

end TypeSpec

namespace Config

/-- Registers types one after another. Each may build on those before it and on what the scope holds
from the start. -/
def registerAll (patterns : PatternLanguage) :
    List (String × TypeSpec) → Registry → Registry → Except SchemaError Registry
  | [], _, declared => .ok declared
  | (name, spec) :: rest, scope, declared => do
    let rule ← spec.rule patterns name scope
    -- The scope grows as types are declared, so each of them builds on earlier ones only.
    registerAll patterns rest (scope.register name rule.predicate)
      (declared.register name rule.predicate)

/-- The declared types, built on those of another registry, which are not among them. -/
def registry (config : Config) (patterns : PatternLanguage) (base : Registry) :
    Except SchemaError Registry :=
  registerAll patterns config.types base .empty

end Config

end Conform
