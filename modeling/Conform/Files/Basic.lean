/-! Files as a program sees them: by what their paths lead to. -/

namespace Conform

/-- Why a file cannot be read as a text. -/
inductive Unreadable where
  | missing
  /-- Something that is no directory stands where the path goes on. -/
  | notDirectory
  | directory
  | forbidden
  /-- The bytes are no UTF-8. -/
  | notText
deriving DecidableEq

/-- The wording of the reason. -/
def Unreadable.message : Unreadable → String
  | missing => "No such file or directory (os error 2)"
  | notDirectory => "Not a directory (os error 20)"
  | directory => "Is a directory (os error 21)"
  | forbidden => "Permission denied (os error 13)"
  | notText => "stream did not contain valid UTF-8"

/-- What reading the bytes at each path gives. -/
abbrev Files := String → Except Unreadable (List UInt8)

end Conform
