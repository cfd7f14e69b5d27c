import Conform.Schema.Factory

/-! A session keeps factories, structs and nodes under names, and finds out what references stand for
when they are first met. -/

namespace Conform

/-- A schema under a name, with a handle that tells its node from all others. -/
structure Held (α : Type) where
  content : α
  handle : Nat

/-- What has been defined so far. -/
structure Session where
  factories : Members Factory
  structs : Members (Held Struct)
  nodes : Members (Held Schema)
  links : Links
  /-- The name of the struct that each reference looks for. -/
  pending : List (Nat × String)
  /-- The names that were looked for, once for each reference that was met. -/
  sought : List String
  /-- The next unused number for handles and references. -/
  unused : Nat

namespace Session

/-- A session in which nothing is defined. -/
def start : Session :=
  ⟨[], [], [], [], [], [], 0⟩

/-- Keeps a factory under a name. -/
def keepFactory (session : Session) (name : String) (factory : Factory) : Session :=
  { session with factories := Members.insert name factory session.factories }

/-- Keeps a struct under a name. Its node is the one with the given handle, or else a new one. -/
def keepStruct (session : Session) (name : String) (struct : Struct) (handle : Option Nat) :
    Session :=
  { session with
    structs := Members.insert name ⟨struct, handle.getD session.unused⟩ session.structs
    unused := session.unused + 1 }

/-- Keeps a node under a name. It is the one with the given handle, or else a new one. -/
def keepNode (session : Session) (name : String) (schema : Schema) (handle : Option Nat) :
    Session :=
  { session with
    nodes := Members.insert name ⟨schema, handle.getD session.unused⟩ session.nodes
    unused := session.unused + 1 }

/-- A new reference that will look for a struct of the given name. -/
def newReference (session : Session) (name : String) : Nat × Session :=
  (session.unused,
    { session with
      pending := (session.unused, name) :: session.pending
      unused := session.unused + 1 })

/-- The schema of a name, sought among the nodes first and then among the structs. -/
def node? (session : Session) (name : String) : Option (Held Schema) :=
  match session.nodes.get? name with
  | some held => some held
  | none => (session.structs.get? name).map fun held => ⟨held.content.schema, held.handle⟩

/-- The handle of the node that a factory gives a struct compiled from another struct: that of the
other one if a node is its source, because every other source is compiled anew. -/
def inheritedHandle (held : Held Struct) : Option Nat :=
  match held.content.source with
  | .node _ => some held.handle
  | _ => none

/-- Finds out what a reference stands for. -/
def settle? (session : Session) (reference : Nat) : Option Session := do
  let name ← session.pending.lookup reference
  let held ← session.structs.get? name
  return { session with
    links := (reference, held.content.schema) :: session.links
    sought := name :: session.sought }

/-- Runs a task that may meet references. Whenever it stops at one that is not known, the reference
is settled and the task runs again, in at most so many steps. -/
def attempt {α : Type} (task : Links → Run α) : Nat → Session → Session × Run α
  | 0, session => (session, task session.links)
  | steps + 1, session =>
    match task session.links with
    | .error (.unresolved reference) =>
      match session.settle? reference with
      | some settled => attempt task steps settled
      | none => (session, .error (.unresolved reference))
    | result => (session, result)

/-- Runs a task that may meet any of the references of the session. -/
def run {α : Type} (session : Session) (task : Links → Run α) : Session × Run α :=
  attempt task session.pending.length session

/-- How often references have looked for a struct of the given name. -/
def timesSought (session : Session) (name : String) : Nat :=
  session.sought.count name

/-- Whether two names stand for one node. -/
def sameNode? (session : Session) (a b : String) : Option Bool := do
  let first ← session.node? a
  let second ← session.node? b
  return first.handle == second.handle

end Session

end Conform
