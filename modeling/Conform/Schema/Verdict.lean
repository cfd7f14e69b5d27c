import Conform.Path
import Conform.Value.Basic

/-! A predicate judges a value and may say more than yes or no. -/

namespace Conform

/-- What a predicate says about a failure in its own words; what it leaves out is filled in. -/
structure Patch where
  path : Path
  reason : Option String
  expected : Option String
  value : Option Value

/-- The judgement of a predicate. -/
inductive Verdict where
  | pass
  | fail
  | reason (text : String)
  | detailed (patch : Patch)

/-- A predicate sees the value and the container it stands in, if any. -/
abbrev Predicate := Value → Option Value → Verdict

namespace Verdict

/-- Acceptance or plain rejection. -/
def ofBool (accepted : Bool) : Verdict :=
  if accepted then pass else fail

/-- Whether the value is accepted. -/
def isPass : Verdict → Bool
  | pass => true
  | _ => false

/-- The first of two judgements that does not accept, or acceptance. -/
def andThen (first next : Verdict) : Verdict :=
  if first.isPass then next else first

end Verdict

end Conform
