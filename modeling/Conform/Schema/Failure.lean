import Conform.Schema.Verdict
import Conform.Value.Json

/-! What is reported when a value does not fit. -/

namespace Conform

/-- One place that does not fit: the outermost value, the way from there to the place, the value found
there, and what was expected instead. -/
structure Failure where
  data : Value
  path : Path
  value : Value
  reason : Option String
  expected : String

namespace Failure

/-- A failure of a value as a whole. -/
def ofValue (value : Value) (expected : String) : Failure :=
  ⟨value, [], value, none, expected⟩

/-- The line that tells of the failure. -/
def message (failure : Failure) : String :=
  -- A failure of the whole value names no place.
  let place := if failure.path = [] then "" else " for `" ++ failure.path.join ++ "`"
  "Expected a value of type `" ++ failure.expected ++ "`" ++ place ++ " but received `" ++
    failure.value.stringify ++ "`."

/-- The same failure seen from a container one step further out. -/
def nest (segment : Segment) (container : Value) (failure : Failure) : Failure :=
  -- The value found and what was expected stay those of the place itself.
  { failure with path := segment :: failure.path, data := container }

end Failure

/-- The failures of a value, of which there is at least one. A union or an intersection puts its own
type over that of the first. -/
structure ValidationError where
  override : Option String
  first : Failure
  rest : List Failure

namespace ValidationError

/-- A single failure. -/
def single (failure : Failure) : ValidationError :=
  ⟨none, failure, []⟩

/-- The error of a list of failures; an empty list is no error. -/
def ofFailures? : List Failure → Option ValidationError
  | [] => none
  | first :: rest => some ⟨none, first, rest⟩

/-- All failures in the order in which they were found. -/
def failures (error : ValidationError) : List Failure :=
  error.first :: error.rest

/-- The expected type of the error as a whole. -/
def expected (error : ValidationError) : String :=
  error.override.getD error.first.expected

/-- Reports the error under another type. -/
def retype (expected : String) (error : ValidationError) : ValidationError :=
  { error with override := some expected }

/-- Writes the type put over the error into its first failure. -/
def settle (error : ValidationError) : ValidationError :=
  -- Only the first failure is shown under the type of the error.
  ⟨none, { error.first with expected := error.expected }, error.rest⟩

/-- The line that tells of the error. -/
def message (error : ValidationError) : String :=
  { error.first with expected := error.expected : Failure }.message

/-- The failures as a container one step further out reports them. -/
def nestedFailures (segment : Segment) (container : Value) (error : ValidationError) :
    List Failure :=
  error.failures.map (Failure.nest segment container)

/-- One indented line for each failure; the first line carries the message of the error itself. -/
def report (error : ValidationError) : List String :=
  line error.first error.message :: error.rest.map fun failure => line failure failure.message
where
  /-- The place of a failure before a message. -/
  line (failure : Failure) (message : String) : String :=
    let place := if failure.path = [] then "(root)" else failure.path.join
    "  " ++ place ++ ": " ++ message

end ValidationError

/-- The failure that a verdict on a value amounts to. A fixed type is reported even where the verdict
names another. -/
def Verdict.failure? (verdict : Verdict) (value : Value) (expected : String) (fixed : Bool) :
    Option Failure :=
  match verdict with
  | pass => none
  | fail => some (Failure.ofValue value expected)
  | reason text => some { Failure.ofValue value expected with reason := some text }
  | detailed patch => some {
      data := value
      -- A patch may point at a part of the value, which the path then leads to.
      path := patch.path
      value := patch.value.getD value
      reason := patch.reason
      expected := if fixed then expected else patch.expected.getD expected }

end Conform
