import Conform.Value.Basic

/-! Three notions of equality: by reference, by inclusion in a list, and by structure. -/

namespace Conform

/-- Equality of two arrays of numbers: of one kind and equal number by number. -/
def TypedArray.same : TypedArray → TypedArray → Bool
  | int8 xs, int8 ys => xs == ys
  | uint8 xs, uint8 ys => xs == ys
  | uint8Clamped xs, uint8Clamped ys => xs == ys
  | int16 xs, int16 ys => xs == ys
  | uint16 xs, uint16 ys => xs == ys
  | int32 xs, int32 ys => xs == ys
  | uint32 xs, uint32 ys => xs == ys
  | float32 xs, float32 ys =>
    xs.length == ys.length && (xs.zip ys).all fun pair => pair.1.widen.sameNumber pair.2.widen
  | float64 xs, float64 ys =>
    xs.length == ys.length && (xs.zip ys).all fun pair => pair.1.sameNumber pair.2
  | _, _ => false

namespace Value

/-- Equality by reference: primitives are equal by value, functions and host objects by identity, and
any other compound value is equal to nothing. -/
def strictlyEquals : Value → Value → Bool
  | undefined, undefined => true
  | null, null => true
  | bool a, bool b => a == b
  | number a, number b => a.sameNumber b
  | string a, string b => a == b
  | symbol a, symbol b => a == b
  | function a, function b => a.id == b.id
  | host a, host b => a.id == b.id
  -- Compound values have no identity here, so not even a copy equals its original.
  | _, _ => false

/-- Equality by reference, except that what is no number equals itself. -/
def includes (a b : Value) : Bool :=
  match a, b with
  | number x, number y => (x.isNaN && y.isNaN) || x.sameNumber y
  | _, _ => a.strictlyEquals b

mutual

/-- Equality by structure. The order of the members of an object does not matter, what is no number
equals nothing, and functions and host objects are equal by identity. -/
def same : Value → Value → Bool
  | undefined, undefined => true
  | null, null => true
  | bool a, bool b => a == b
  | number a, number b => a.sameNumber b
  | string a, string b => a == b
  | symbol a, symbol b => a == b
  | array xs, array ys => sameItems xs ys
  -- With distinct names and as many of them, one direction is enough.
  | object xs, object ys => xs.length == ys.length && sameMembers xs ys
  | arguments xs, arguments ys => sameItems xs ys
  | date a, date b => a == b
  | regexp source flags, regexp source' flags' => source == source' && flags == flags'
  | error name message, error name' message' => name == name' && message == message'
  -- Entries of maps and sets come in an order, which counts.
  | map xs, map ys => sameEntries xs ys
  | set xs, set ys => sameItems xs ys
  | buffer xs, buffer ys => xs == ys
  | typedArray a, typedArray b => a.same b
  | function a, function b => a.id == b.id
  | host a, host b => a.id == b.id
  | _, _ => false
termination_by structural x => x

/-- Equality of lists, element by element. -/
def sameItems : List Value → List Value → Bool
  | [], [] => true
  | x :: xs, y :: ys => x.same y && sameItems xs ys
  | _, _ => false
termination_by structural x => x

/-- Whether every one of the first members has an equal one of its name among the second. -/
def sameMembers : List (String × Value) → List (String × Value) → Bool
  | [], _ => true
  | (name, x) :: rest, ys =>
    (match Members.get? ys name with
      | some y => x.same y
      | none => false) && sameMembers rest ys
termination_by structural x => x

/-- Equality of map entries, key by key and value by value. -/
def sameEntries : List (Value × Value) → List (Value × Value) → Bool
  | [], [] => true
  | (key, x) :: rest, (key', y) :: rest' => key.same key' && x.same y && sameEntries rest rest'
  | _, _ => false
termination_by structural x => x

end

end Value

end Conform
