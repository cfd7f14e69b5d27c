import Conform.Text.Blank
import Conform.Text.Lowercase
import Conform.Value.Basic

/-! Every value falls under exactly one type tag. -/

namespace Conform

/-- The category of a value; a class without a category of its own is known by its reduced name. -/
inductive TypeTag where
  | undefined
  | null
  | boolean
  | number
  | string
  | symbol
  | array
  | object
  | arguments
  | buffer
  | function
  | generatorFunction
  | date
  | error
  | regexp
  | map
  | set
  | weakMap
  | weakSet
  | promise
  | int8Array
  | uint8Array
  | uint8ClampedArray
  | int16Array
  | uint16Array
  | int32Array
  | uint32Array
  | float32Array
  | float64Array
  | generator
  | mapIterator
  | setIterator
  | stringIterator
  | arrayIterator
  | other (name : String)
deriving DecidableEq

namespace TypeTag

/-- The name of a tag as schemas write it. -/
def name : TypeTag → String
  | undefined => "undefined"
  | null => "null"
  | boolean => "boolean"
  | number => "number"
  | string => "string"
  | symbol => "symbol"
  | array => "array"
  | object => "object"
  | arguments => "arguments"
  | buffer => "buffer"
  | function => "function"
  | generatorFunction => "generatorfunction"
  | date => "date"
  | error => "error"
  | regexp => "regexp"
  | map => "map"
  | set => "set"
  | weakMap => "weakmap"
  | weakSet => "weakset"
  | promise => "promise"
  | int8Array => "int8array"
  | uint8Array => "uint8array"
  | uint8ClampedArray => "uint8clampedarray"
  | int16Array => "int16array"
  | uint16Array => "uint16array"
  | int32Array => "int32array"
  | uint32Array => "uint32array"
  | float32Array => "float32array"
  | float64Array => "float64array"
  | generator => "generator"
  | mapIterator => "mapiterator"
  | setIterator => "setiterator"
  | stringIterator => "stringiterator"
  | arrayIterator => "arrayiterator"
  | other name => name

/-- The tags that have a category of their own. -/
def categories : List TypeTag :=
  [undefined, null, boolean, number, string, symbol, array, object, arguments, buffer, function,
    generatorFunction, date, error, regexp, map, set, weakMap, weakSet, promise, int8Array,
    uint8Array, uint8ClampedArray, int16Array, uint16Array, int32Array, uint32Array, float32Array,
    float64Array, generator, mapIterator, setIterator, stringIterator, arrayIterator]

/-- The tag of a name: the category so called, or else the class so called. -/
def ofName (text : String) : TypeTag :=
  -- No class can claim the name of a category: what is so called is the category.
  (categories.find? fun tag => tag.name == text).getD (other text)

/-- Whether the tag is a class without a category. -/
def isOther : TypeTag → Bool
  | other _ => true
  | _ => false

/-- A class tag reduced to lower case without blanks. -/
def reduce (classTag : String) : String :=
  String.ofList ((classTag.toList.filter fun c => !isBlank c).flatMap lowercase)

/-- The tag of a class, read off its reduced name. -/
def ofClassTag (classTag : String) : TypeTag :=
  ofName (reduce classTag)

end TypeTag

/-- The tag of an array of numbers. -/
def TypedArray.tag : TypedArray → TypeTag
  | int8 _ => .int8Array
  | uint8 _ => .uint8Array
  | uint8Clamped _ => .uint8ClampedArray
  | int16 _ => .int16Array
  | uint16 _ => .uint16Array
  | int32 _ => .int32Array
  | uint32 _ => .uint32Array
  | float32 _ => .float32Array
  | float64 _ => .float64Array

/-- The tag of a host object: four class tags have categories as they stand, a generator is one under
any other tag, and the rest is read off the reduced class tag. -/
def HostObject.tag (object : HostObject) : TypeTag :=
  if object.classTag = "Symbol" then .symbol
  else if object.classTag = "Promise" then .promise
  else if object.classTag = "WeakMap" then .weakMap
  else if object.classTag = "WeakSet" then .weakSet
  -- From here on the generator goes before whatever its class is called.
  else if object.generator then .generator
  else .ofClassTag object.classTag

/-- The tag of a value. -/
def Value.tag : Value → TypeTag
  | undefined => .undefined
  | null => .null
  | bool _ => .boolean
  | number _ => .number
  | string _ => .string
  | symbol _ => .symbol
  | array _ => .array
  | object _ => .object
  | arguments _ => .arguments
  | date _ => .date
  | regexp _ _ => .regexp
  | error _ _ => .error
  | map _ => .map
  | set _ => .set
  | buffer _ => .buffer
  | typedArray elements => elements.tag
  | function callable => if callable.generator then .generatorFunction else .function
  -- Only a host object brings along a tag that other values have too.
  | host owned => owned.tag

end Conform
