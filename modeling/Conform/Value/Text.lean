import Conform.Number.Notation
import Conform.Text.Utf8
import Conform.Value.Basic

/-! The text of a value where one is asked for in running text. -/

namespace Conform.Value

mutual

/-- The text of a value; none if it quotes a date whose year has no mail text. An array quotes its
elements, and no other value quotes what it holds. -/
def toText? : Value → Option String
  | undefined => some "undefined"
  | null => some "null"
  | bool truth => some (if truth then "true" else "false")
  | number n => some n.toText
  | string text => some text
  | symbol description => some ("Symbol(" ++ description ++ ")")
  | array items => (itemTexts? items).map (String.intercalate ",")
  -- An object is named without being opened, so no date in it is asked for.
  | object _ => some "[object Object]"
  | arguments _ => some "[object Arguments]"
  -- The one text that a value can be without.
  | date (some instant) => instant.toMailText?
  | date none => some "Invalid Date"
  | regexp source flags => some ("/" ++ source ++ "/" ++ flags)
  | error name message => some (if message = "" then name else name ++ ": " ++ message)
  | map _ => some "[object Map]"
  | set _ => some "[object Set]"
  | buffer bytes => some (Utf8.decodeLossy bytes)
  | typedArray elements => some (String.intercalate "," (elements.numbers.map Double.toText))
  | function callable => some ("function " ++ callable.name ++ "() \x7b [native code] \x7d")
  | host owned => some ("[object " ++ owned.classTag ++ "]")

/-- The texts of the elements of an array; undefined and null are left empty. -/
def itemTexts? : List Value → Option (List String)
  | [] => some []
  | undefined :: rest => (itemTexts? rest).map ("" :: ·)
  | null :: rest => (itemTexts? rest).map ("" :: ·)
  | item :: rest => do
    let text ← item.toText?
    let texts ← itemTexts? rest
    return text :: texts

end

end Conform.Value
