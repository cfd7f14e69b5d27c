import Conform.Files.Basic

/-! A working directory whose whole content is known. -/

namespace Conform

/-- What stands at a place of a directory. -/
inductive FileEntry where
  | file (bytes : List UInt8)
  | directory

/-- The files and directories of a working directory under the names that lead to them. -/
abbrev FileTree := List (List String × FileEntry)

/-- A place that a path leads to: one within the working directory, or a directory around it, of which
nothing else is known. -/
inductive FilePlace where
  | inside (names : List String)
  | outside

namespace FileTree

/-- The names between the slashes of a path. -/
def pathNames (path : String) : List String :=
  (path.splitOn "/").filter fun name => name ≠ "" ∧ name ≠ "."

/-- The entry at a place. Every directory on the way to an entry is there too. -/
def entry? (tree : FileTree) (names : List String) : Option FileEntry :=
  match tree.lookup names with
  | some entry => some entry
  | none =>
    -- A directory without an entry of its own shows in the names below it.
    if names = [] ∨ tree.any (fun known => names.isPrefixOf known.1) then some .directory else none

/-- Goes on from a directory along some names. -/
def walk (tree : FileTree) : FilePlace → List String → Except Unreadable FilePlace
  | place, [] => .ok place
  | .outside, name :: rest => if name = ".." then walk tree .outside rest else .error .missing
  | .inside names, name :: rest =>
    match tree.entry? names with
    | none => .error .missing
    | some (.file _) => .error .notDirectory
    | some .directory =>
      if name = ".." then
        -- Above the working directory only the way further up is known.
        walk tree (if names = [] then .outside else .inside names.dropLast) rest
      else walk tree (.inside (names ++ [name])) rest

/-- The bytes that a path leads to. A path that ends with a slash or dot leads to a directory. -/
def read (tree : FileTree) : Files := fun path => do
  if path = "" then throw .missing
  let start := if path.startsWith "/" then FilePlace.outside else .inside []
  match ← tree.walk start (pathNames path) with
  | .outside => throw .directory
  | .inside names =>
    match tree.entry? names with
    | none => throw .missing
    | some .directory => throw .directory
    | some (.file bytes) =>
      -- A file is no directory, whatever the end of the path asks for.
      if path.endsWith "/" || path.endsWith "/." then throw .notDirectory else return bytes

/-- The tree of entries under their paths. -/
def ofPaths (entries : List (String × FileEntry)) : FileTree :=
  entries.map fun (path, entry) => (pathNames path, entry)

end FileTree

end Conform
