import Conform.Path
import Conform.Value.Basic

/-! A path leads to a place inside a value, which reads as undefined where nothing stands. -/

namespace Conform.Value

/-- What stands one step inside a value. -/
def inside (value : Value) : Segment → Value
  | .key name => (value.get? name).getD .undefined
  | .index place => (value.array?.bind fun items => items[place]?).getD .undefined

/-- What stands at the end of a path. -/
def follow (value : Value) (path : Path) : Value :=
  path.foldl inside value

/-- The empty path leads nowhere else. -/
@[simp] theorem follow_nil (value : Value) : value.follow [] = value :=
  rfl

/-- A path leads on from where its first step leads. -/
@[simp] theorem follow_cons (value : Value) (segment : Segment) (path : Path) :
    value.follow (segment :: path) = (value.inside segment).follow path :=
  rfl

/-- A name leads to the member of an object. -/
@[simp] theorem inside_object (members : Members Value) (name : String) :
    (object members).inside (.key name) = (members.get? name).getD .undefined :=
  rfl

/-- A place leads to the element of an array. -/
@[simp] theorem inside_array (items : List Value) (place : Nat) :
    (array items).inside (.index place) = (items[place]?).getD .undefined :=
  rfl

/-- Whether a value has places inside it that failures can point to. -/
def IsContainer : Value → Prop
  | array _ => True
  | object _ => True
  | _ => False

end Conform.Value
