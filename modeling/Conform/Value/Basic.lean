import Conform.Members
import Conform.Number.Double
import Conform.Time.Instant

/-! The values that schemas are checked against. -/

namespace Conform

/-- A function, known by its identity; it answers a call with the list of its arguments. -/
structure Callable where
  name : String
  generator : Bool
  id : Nat
deriving DecidableEq

/-- An object that the host owns, known by its identity and by the type of what it carries. -/
structure HostObject where
  classTag : String
  generator : Bool
  payload : String
  id : Nat
deriving DecidableEq

namespace HostObject

/-- A host object under a class tag of its own. -/
def tagged (classTag payload : String) (id : Nat) : HostObject :=
  ⟨classTag, false, payload, id⟩

/-- A plain instance of a class. -/
def plain (payload : String) (id : Nat) : HostObject :=
  tagged "Object" payload id

/-- A generator object. -/
def ofGenerator (payload : String) (id : Nat) : HostObject :=
  ⟨"Generator", true, payload, id⟩

end HostObject

/-- An array of numbers of one width. -/
inductive TypedArray where
  | int8 (items : List Int8)
  | uint8 (items : List UInt8)
  | uint8Clamped (items : List UInt8)
  | int16 (items : List Int16)
  | uint16 (items : List UInt16)
  | int32 (items : List Int32)
  | uint32 (items : List UInt32)
  | float32 (items : List Single)
  | float64 (items : List Double)

namespace TypedArray

/-- The elements as sixty-four-bit numbers. -/
def numbers : TypedArray → List Double
  | int8 items => items.map fun n => Double.ofInt n.toInt
  | uint8 items => items.map fun n => Double.ofInt n.toNat
  | uint8Clamped items => items.map fun n => Double.ofInt n.toNat
  | int16 items => items.map fun n => Double.ofInt n.toInt
  | uint16 items => items.map fun n => Double.ofInt n.toNat
  | int32 items => items.map fun n => Double.ofInt n.toInt
  | uint32 items => items.map fun n => Double.ofInt n.toNat
  | float32 items => items.map Single.widen
  | float64 items => items

/-- The number of elements. -/
def size (array : TypedArray) : Nat :=
  array.numbers.length

end TypedArray

/-- A dynamically typed value. A date without an instant is invalid. -/
inductive Value where
  | undefined
  | null
  | bool (truth : Bool)
  | number (n : Double)
  | string (text : String)
  | symbol (description : String)
  | array (items : List Value)
  | object (members : List (String × Value))
  | arguments (items : List Value)
  | date (instant : Option Instant)
  | regexp (source flags : String)
  | error (name message : String)
  | map (entries : List (Value × Value))
  | set (items : List Value)
  | buffer (bytes : List UInt8)
  | typedArray (elements : TypedArray)
  | function (callable : Callable)
  | host (owned : HostObject)

instance : Inhabited Value := ⟨.undefined⟩

/-- The answer of a function to a call. -/
def Callable.call (_ : Callable) (arguments : List Value) : Value :=
  .arguments arguments

namespace Value

/-- Whether the value is the absence of a value. -/
def isUndefined : Value → Bool
  | undefined => true
  | _ => false

/-- Whether the value is null. -/
def isNull : Value → Bool
  | null => true
  | _ => false

/-- The text of a string. -/
def string? : Value → Option String
  | string text => some text
  | _ => none

/-- The number of a number value. -/
def number? : Value → Option Double
  | number n => some n
  | _ => none

/-- The truth of a boolean. -/
def bool? : Value → Option Bool
  | bool truth => some truth
  | _ => none

/-- The elements of an array. -/
def array? : Value → Option (List Value)
  | array items => some items
  | _ => none

/-- The members of an object. -/
def object? : Value → Option (Members Value)
  | object members => some members
  | _ => none

/-- The host object of a host value. -/
def host? : Value → Option HostObject
  | host owned => some owned
  | _ => none

/-- The own property of an object under a name; no other value has any. -/
def get? (value : Value) (name : String) : Option Value :=
  value.object?.bind fun members => Members.get? members name

/-- The object that a sequence of pairs builds up. -/
def ofPairs (pairs : List (String × Value)) : Value :=
  object (Members.ofPairs pairs)

/-- The number nearest to an integer. -/
def ofInt (n : Int) : Value :=
  number (Double.ofInt n)

/-- A value that may be absent. -/
def ofOption (value : Option Value) : Value :=
  value.getD undefined

mutual

/-- Whether the member names of every object inside the value are distinct. -/
def WellFormed : Value → Prop
  | array items => AllWellFormed items
  | object members => (Members.names members).Nodup ∧ MembersWellFormed members
  | arguments items => AllWellFormed items
  | map entries => EntriesWellFormed entries
  | set items => AllWellFormed items
  | _ => True

/-- Well-formedness of every value of a list. -/
def AllWellFormed : List Value → Prop
  | [] => True
  | value :: rest => value.WellFormed ∧ AllWellFormed rest

/-- Well-formedness of every member. -/
def MembersWellFormed : List (String × Value) → Prop
  | [] => True
  | (_, value) :: rest => value.WellFormed ∧ MembersWellFormed rest

/-- Well-formedness of every key and value of a map. -/
def EntriesWellFormed : List (Value × Value) → Prop
  | [] => True
  | (key, value) :: rest => key.WellFormed ∧ value.WellFormed ∧ EntriesWellFormed rest

end

end Value

end Conform
