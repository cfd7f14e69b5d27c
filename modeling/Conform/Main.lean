import Conform.Check.Arguments
import Conform.Standard

/-! The command line: reads the files that a request names, and prints what comes of it. -/

namespace Conform

/-- What the failure of an access means. -/
def unreadable : IO.Error → Unreadable
  | .noFileOrDirectory .. => .missing
  | .permissionDenied .. => .forbidden
  | .inappropriateType .. => .directory
  | .resourceBusy .. => .directory
  | _ => .notDirectory

/-- Reads the bytes at some paths. -/
def readFiles (paths : List String) : IO Files := do
  let found ← paths.mapM fun (path : String) => do
    match ← (IO.FS.readBinFile path).toBaseIO with
    | .ok bytes => return (path, Except.ok bytes.toList)
    | .error error => return (path, Except.error (unreadable error))
  return fun path => (found.lookup path).getD (.error .missing)

end Conform

open Conform in
/-- Runs the program. -/
def main (arguments : List String) : IO UInt32 := do
  let paths := ((Request.ofArguments? arguments).map Request.paths).getD []
  let finish := (← readFiles paths).runArguments .standard arguments
  (← IO.getStdout).putStr finish.output
  if (Request.ofArguments? arguments).isNone then (← IO.getStderr).putStr usage
  for message in finish.error.toList do
    (← IO.getStderr).putStrLn ("ERROR " ++ message)
  return UInt32.ofNat finish.ending.code
