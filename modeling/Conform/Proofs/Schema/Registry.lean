import Conform.Proofs.Members
import Conform.Schema.Registry

/-! What a registry accepts, and what it holds once types have been added to it. -/

namespace Conform.Registry

/-- Whether the type of a name accepts a value. -/
def accepts (registry : Registry) (name : String) (value : Value) (parent : Option Value) : Bool :=
  match registry.get? name with
  | some predicate => (predicate value parent).isPass
  | none => false

/-- Adding types one after another puts them in one after another. -/
theorem entries_registerAll (registry : Registry) (types : List (String × Predicate)) :
    (registry.registerAll types).entries = Members.insertAll registry.entries types := by
  unfold registerAll Members.insertAll
  -- The registry grows with each type, so the induction is for all of them.
  induction types generalizing registry with
  | nil => rfl
  | cons type rest ih => exact ih (registry.register type.1 type.2)

/-- Types of distinct names that have been added come before those that were there. -/
theorem get?_registerAll (registry : Registry) {types : Members Predicate}
    (distinct : types.names.Nodup) (name : String) :
    (registry.registerAll types).get? name = (Members.get? types name).or (registry.get? name) := by
  -- Types are added as members are put in.
  rw [get?, entries_registerAll, Members.get?_insertAll distinct]
  rfl

/-- A type of the extension comes before one of the registry. -/
theorem get?_extend (registry other : Registry) (name : String) :
    (registry.extend other).get? name = (other.get? name).or (registry.get? name) :=
  get?_registerAll registry other.distinct name

end Conform.Registry
