/-! Members are name–value pairs kept in the order in which their names first appeared. -/

namespace Conform

/-- A list of named members; operations of this namespace keep the names distinct. -/
abbrev Members (α : Type) := List (String × α)

namespace Members

variable {α : Type}

/-- The names, in order. -/
def names : Members α → List String
  | [] => []
  | (name, _) :: rest => name :: names rest

/-- The value held under a name. -/
def get? : Members α → String → Option α
  | [], _ => none
  | (held, value) :: rest, name => if name = held then some value else get? rest name

/-- Whether a name is held. -/
def contains (members : Members α) (name : String) : Bool :=
  (members.get? name).isSome

/-- Puts a value under a name: a held name keeps its place, a new one comes last. -/
def insert (name : String) (value : α) : Members α → Members α
  | [] => [(name, value)]
  | (held, old) :: rest =>
    if name = held then (held, value) :: rest else (held, old) :: insert name value rest

/-- Puts pairs in one after another, so a repeated name keeps its first place and last value. -/
def insertAll (members : Members α) (pairs : List (String × α)) : Members α :=
  pairs.foldl (fun held pair => insert pair.1 pair.2 held) members

/-- The members that a sequence of pairs builds up. -/
def ofPairs (pairs : List (String × α)) : Members α :=
  insertAll [] pairs

/-- Inserting reads back under the inserted name. -/
theorem get?_insert_self (name : String) (value : α) (members : Members α) :
    (insert name value members).get? name = some value := by
  fun_induction insert name value members <;> simp_all [get?]

/-- Inserting leaves every other name as it was. -/
theorem get?_insert_of_ne {name other : String} (differs : other ≠ name) (value : α)
    (members : Members α) : (insert name value members).get? other = members.get? other := by
  fun_induction insert name value members <;> simp_all [get?]

/-- A name has a value exactly when it is among the names. -/
theorem contains_iff (members : Members α) (name : String) :
    members.contains name = true ↔ name ∈ members.names := by
  -- Looking a name up goes along the members as membership does.
  induction members with
  | nil => simp [contains, get?, names]
  | cons head rest ih =>
    obtain ⟨held, value⟩ := head
    simp only [contains] at ih
    by_cases same : name = held <;> simp [contains, get?, names, same, ih]

/-- Inserting under a held name leaves the names alone. -/
theorem names_insert_of_mem {name : String} (value : α) {members : Members α}
    (held : name ∈ members.names) : (insert name value members).names = members.names := by
  fun_induction insert name value members <;> simp_all [names]

/-- Inserting under a new name puts it last. -/
theorem names_insert_of_not_mem {name : String} (value : α) {members : Members α}
    (absent : name ∉ members.names) :
    (insert name value members).names = members.names ++ [name] := by
  fun_induction insert name value members <;> simp_all [names]

/-- An insertion keeps the names distinct. -/
theorem nodup_insert (name : String) (value : α) {members : Members α}
    (distinct : members.names.Nodup) : (insert name value members).names.Nodup := by
  by_cases held : name ∈ members.names
  · rwa [names_insert_of_mem value held]
  · rw [names_insert_of_not_mem value held]
    -- The new name joins names that it differs from.
    refine List.nodup_append.2 ⟨distinct, by simp, ?_⟩
    intro earlier found later single equal
    rw [List.mem_singleton] at single
    exact held (single ▸ equal ▸ found)

/-- A sequence of insertions keeps the names distinct. -/
theorem nodup_insertAll (pairs : List (String × α)) {members : Members α}
    (distinct : members.names.Nodup) : (insertAll members pairs).names.Nodup := by
  -- Each insertion keeps the names distinct, so all of them do.
  induction pairs generalizing members with
  | nil => exact distinct
  | cons pair rest ih => exact ih (nodup_insert pair.1 pair.2 distinct)

/-- Members built from pairs have distinct names. -/
theorem nodup_ofPairs (pairs : List (String × α)) : (ofPairs pairs).names.Nodup :=
  nodup_insertAll pairs List.nodup_nil

end Members

end Conform
