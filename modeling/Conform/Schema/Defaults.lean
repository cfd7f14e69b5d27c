import Conform.Value.Basic

/-! Defaults stand in for what is undefined. -/

namespace Conform

/-- A default is a value, a value computed from the container, or a table of defaults by name. -/
inductive Defaults where
  | value (value : Value)
  | compute (rule : Option Value → Value)
  | fields (entries : List (String × Defaults))

namespace Defaults

mutual

/-- The value that a default comes to. A table comes to an object of its entries, without those that
are computed: they are computed name by name. -/
def resolve (parent : Option Value) : Defaults → Value
  | value v => v
  -- Only a computed default sees the container.
  | compute rule => rule parent
  | fields entries => .object (resolveEntries parent entries)
termination_by structural defaults => defaults

/-- The members that the entries of a table come to. -/
def resolveEntries (parent : Option Value) : List (String × Defaults) → List (String × Value)
  | [] => []
  -- Left out here, it has its turn with the container that it is an entry for.
  | (_, compute _) :: rest => resolveEntries parent rest
  | (name, default) :: rest => (name, default.resolve parent) :: resolveEntries parent rest
termination_by structural entries => entries

end

/-- The default of one name: an entry of a table, or a property of a default object. -/
def resolveField (defaults : Defaults) (name : String) (parent : Value) : Value :=
  match defaults with
  -- Here computed entries have their turn, with the container at hand.
  | fields entries =>
    match Members.get? entries name with
    | some default => default.resolve (some parent)
    | none => .undefined
  | value v => (v.get? name).getD .undefined
  -- A default that is computed as a whole has no entries to ask for.
  | compute _ => .undefined

/-- Lays the default under a value: the members of a default object are kept where the value has none
of their names, and any other default replaces only what is undefined. -/
def mergeUnder (defaults : Defaults) (own : Value) : Value :=
  match defaults.resolve none, own with
  -- Names of the default come first, in its order, with the values held where there are any.
  | .object base, .object members => .object (Members.insertAll base members)
  | resolved, .undefined => resolved
  -- Anything else that is defined has no place for a default.
  | _, own => own

end Defaults

end Conform
