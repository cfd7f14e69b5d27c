import Mathlib.Data.Set.Card
import Conform.Proofs.Schema.Registry

/-! Whatever has been done to a registry, under each name stands what was last written there. -/

namespace Conform.Registry

/-- What can be done to a registry: a type is added under a name, or all the types of another registry
are. -/
inductive Change where
  | register (name : String) (predicate : Predicate)
  | extend (other : Registry)

namespace Change

/-- The types that a change writes, under distinct names. -/
def types : Change → Members Predicate
  | register name predicate => [(name, predicate)]
  | extend other => other.entries

/-- The registry that a change makes of another. -/
def apply (registry : Registry) : Change → Registry
  | register name predicate => registry.register name predicate
  | extend other => registry.extend other

variable (change : Change) (registry : Registry)

/-- No change writes a name twice. -/
theorem nodup_types : change.types.names.Nodup := by
  -- A registry holds each name once, and a single type has one name.
  cases change with
  | register name predicate => exact List.nodup_singleton name
  | extend other => exact other.distinct

/-- What a change writes comes before what was there. -/
theorem get?_apply (name : String) :
    (change.apply registry).get? name =
      (Members.get? change.types name).or (registry.get? name) := by
  -- Either change adds its types one after the other.
  have added : change.apply registry = registry.registerAll change.types := by
    cases change <;> rfl
  rw [added, get?_registerAll registry change.nodup_types]

end Change

/-- The registry that changes make of another, one after the other. -/
def replay (start : Registry) (history : List Change) : Registry :=
  history.foldl Change.apply start

/-- What the last change that writes a name writes there, if there is one. -/
def lastWritten? (history : List Change) (name : String) : Option Predicate :=
  history.reverse.findSome? fun change => Members.get? change.types name

variable {start registry other : Registry} {history : List Change} {name : String}

/-- A name is held if it has a predicate. -/
theorem contains_eq (registry : Registry) (name : String) :
    registry.contains name = (registry.get? name).isSome :=
  rfl

/-- The last change is made to what the others have made. -/
theorem replay_concat (start : Registry) (history : List Change) (last : Change) :
    start.replay (history ++ [last]) = last.apply (start.replay history) := by
  simp [replay]

/-- Under each name stands what was last written there, and else what was there from the start. -/
theorem get?_replay (start : Registry) (history : List Change) (name : String) :
    (start.replay history).get? name = (lastWritten? history name).or (start.get? name) := by
  -- The last change comes before all others.
  induction history using List.reverseRecOn with
  | nil => rfl
  | append_singleton history last ih =>
    rw [replay_concat, Change.get?_apply, ih, ← Option.or_assoc]
    congr 1
    simp only [lastWritten?, List.reverse_append, List.reverse_singleton, List.singleton_append,
      List.findSome?_cons]
    cases Members.get? last.types name <;> rfl

/-- A name that is held once is held from then on. -/
theorem contains_replay_append (start : Registry) (past later : List Change)
    (held : (start.replay past).contains name = true) :
    (start.replay (past ++ later)).contains name = true := by
  -- No change takes a name out.
  induction later using List.reverseRecOn with
  | nil => rwa [List.append_nil]
  | append_singleton later last ih =>
    rw [contains_eq] at ih ⊢
    rw [← List.append_assoc, replay_concat, Change.get?_apply, Option.isSome_or, ih, Bool.or_true]

/-- The names that have ever been held are those that are held in the end. -/
theorem ever_held_iff :
    (∃ past, past <+: history ∧ (start.replay past).contains name = true) ↔
      (start.replay history).contains name = true := by
  -- What is held at some time is held from then on.
  constructor
  · rintro ⟨past, ⟨later, rfl⟩, held⟩
    exact contains_replay_append start past later held
  · exact fun held => ⟨history, List.prefix_refl history, held⟩

/-- There are as many registered names as the size of the registry tells. -/
theorem encard_held (registry : Registry) :
    {name | registry.contains name = true}.encard = registry.size := by
  classical
  -- The names stand in a list without repetition, which is as long as the entries.
  have held : {name | registry.contains name = true} = (registry.entries.names.toFinset : Set String) := by
    ext name
    simp [contains, Members.contains_iff]
  rw [held, Set.encard_coe_eq_coe_finsetCard, List.toFinset_card_of_nodup registry.distinct,
    Members.length_names]
  rfl

/-- A name is listed if it is held. -/
theorem mem_names_iff : name ∈ registry.names ↔ registry.contains name = true := by
  unfold names contains
  -- Sorting neither adds a name nor drops one.
  rw [(List.mergeSort_perm _ _).mem_iff, Members.contains_iff]

/-- Names are told apart by their bytes. -/
theorem sortKey_injective : Function.Injective sortKey := by
  intro first second same
  -- A text is made up of its bytes, and these of their list.
  have bytes : first.toUTF8 = second.toUTF8 := ByteArray.ext (Array.toList_inj.1 same)
  rwa [String.toUTF8_eq_toByteArray, String.toUTF8_eq_toByteArray, String.toByteArray_inj] at bytes

/-- Names are listed in the strict order of their bytes. -/
theorem names_increase (registry : Registry) :
    registry.names.Pairwise fun first second => sortKey first < sortKey second := by
  have sorted : registry.names.Pairwise fun first second =>
      decide (sortKey first ≤ sortKey second) = true := by
    apply List.pairwise_mergeSort
    · intro first second third below belowToo
      rw [decide_eq_true_eq] at below belowToo ⊢
      exact List.le_trans below belowToo
    · intro first second
      rw [Bool.or_eq_true, decide_eq_true_eq, decide_eq_true_eq]
      exact List.le_total _ _
  have distinct : registry.names.Nodup :=
    (List.mergeSort_perm _ _).nodup_iff.2 registry.distinct
  -- Of two names that differ, one has to come first.
  refine (sorted.and distinct).imp ?_
  intro first second both
  have below := of_decide_eq_true both.1
  by_contra notBelow
  exact both.2 (sortKey_injective (List.le_antisymm below (List.not_lt.1 notBelow)))

/-- A registry is known by the order of its names and what it holds under each. -/
theorem ext_get? {first second : Registry} (names : first.entries.names = second.entries.names)
    (same : ∀ name, first.get? name = second.get? name) : first = second := by
  have entries := Members.ext_get? first.distinct names fun name _ => same name
  -- That names are distinct is no further data.
  cases first
  cases second
  simpa using entries

/-- An extension adds those names at the end that are new. -/
theorem names_extend (registry other : Registry) :
    (registry.extend other).entries.names = registry.entries.names ++
      other.entries.names.filter fun name => !registry.contains name := by
  -- Insertion leaves names where they are and adds the new ones behind them.
  rw [extend, entries_registerAll, Members.names_insertAll other.distinct]
  rfl

/-- An extension has the names of both. -/
theorem contains_extend (registry other : Registry) (name : String) :
    (registry.extend other).contains name = (other.contains name || registry.contains name) := by
  -- A name is held where something is read under it.
  rw [contains_eq, get?_extend, Option.isSome_or]
  rfl

/-- Extensions may be put together before the registry is extended. -/
theorem extend_assoc (registry other third : Registry) :
    (registry.extend other).extend third = registry.extend (other.extend third) := by
  apply ext_get?
  · -- What the third adds is new to both of the others.
    simp only [names_extend, contains_extend, List.append_assoc, List.filter_append,
      List.filter_filter, Bool.not_or, Bool.and_comm]
  · intro name
    simp only [get?_extend, Option.or_assoc]

/-- An extension by what is there already changes nothing. -/
theorem extend_eq_self
    (same : ∀ name, other.contains name = true → registry.get? name = other.get? name) :
    registry.extend other = registry := by
  apply ext_get?
  · -- No name of the other is new.
    rw [names_extend, List.filter_eq_nil_iff.2, List.append_nil]
    intro name named
    have held : other.contains name = true := (Members.contains_iff _ _).2 named
    rw [contains_eq, same name held, ← contains_eq, held]
    exact Bool.false_ne_true
  · intro name
    rw [get?_extend]
    -- What the other has under a name is what stands there already.
    cases held : other.get? name with
    | none => rfl
    | some predicate =>
      have named : other.contains name = true := by rw [contains_eq, held, Option.isSome_some]
      rw [same name named, held, Option.some_or]

/-- An extension leaves alone what the other registry does not name. -/
theorem get?_extend_of_not_contains (absent : other.contains name = false) :
    (registry.extend other).get? name = registry.get? name := by
  -- Where the other registry says nothing, the registry itself is read.
  rw [contains_eq, Option.isSome_eq_false_iff, Option.isNone_iff_eq_none] at absent
  rw [get?_extend, absent, Option.none_or]

/-- The last write wins, whatever has been done to a registry. Under each name stands what the last
change that writes the name has written, or else what stood there from the start, if anything; a name is
held if something stands there. The size tells how many names have ever been held, and the names are
listed each of them once, in the strict order of their bytes. Two extensions one after the other are the
extension by the first extended by the second, an extension made again changes nothing, nor does one by
the registry itself, and under a name that the other registry does not have stands what stood there. -/
theorem replay_keeps_last_writes (start : Registry) (history : List Change) :
    (∀ name, (start.replay history).get? name =
      (lastWritten? history name).or (start.get? name)) ∧
    (∀ name, (start.replay history).contains name = true ↔
      ∃ predicate, (start.replay history).get? name = some predicate) ∧
    {name | ∃ past, past <+: history ∧ (start.replay past).contains name = true}.encard =
      (start.replay history).size ∧
    (start.replay history).names.Pairwise (fun first second => sortKey first < sortKey second) ∧
    (∀ name, name ∈ (start.replay history).names ↔
      (start.replay history).contains name = true) ∧
    (∀ other third, (start.extend other).extend third = start.extend (other.extend third)) ∧
    (∀ other, (start.extend other).extend other = start.extend other) ∧
    start.extend start = start ∧
    ∀ other name, other.contains name = false → (start.extend other).get? name = start.get? name := by
  refine ⟨get?_replay start history, ?_, ?_, names_increase _, fun name => mem_names_iff,
    extend_assoc start, ?_, extend_eq_self fun name _ => rfl,
    fun other name => get?_extend_of_not_contains⟩
  · intro name
    rw [contains_eq, Option.isSome_iff_exists]
  · -- Nothing is ever taken out, so what has been held is held still.
    simp only [ever_held_iff]
    exact encard_held _
  · intro other
    apply extend_eq_self
    intro name held
    -- What the registry has been extended by comes first.
    rw [contains_eq] at held
    rw [get?_extend, Option.or_of_isSome held]

/-- A ticket is named, then its colour along with all texts, and then the colour anew. -/
def retyping : List Change :=
  [.register "ticket" anything,
    .extend (ofTypes [("colour", hasTag .number), ("string", validDate)]),
    .register "colour" (hasTag .string)]

/-- Of what has been written under a name the last counts. A name from before the extension and the names
from the start are left alone, and to the thirty of them two have been added. -/
theorem replay_keeps_last_writes_retyping :
    (builtin.replay retyping).get? "colour" = some (hasTag .string) ∧
      (builtin.replay retyping).get? "string" = some validDate ∧
      (builtin.replay retyping).get? "ticket" = some anything ∧
      (builtin.replay retyping).get? "tint" = none ∧
      {name | ∃ past, past <+: retyping ∧ (builtin.replay past).contains name = true}.encard = 32 ∧
      (builtin.extend (ofTypes [("colour", anything)])).get? "null" = builtin.get? "null" := by
  -- The general account is read at the names that have been written, and at one that has not.
  have ⟨read, _, size, _, _, _, _, _, apart⟩ := replay_keeps_last_writes builtin retyping
  refine ⟨read "colour", read "string", read "ticket", read "tint", ?_, apart _ "null" (by decide)⟩
  rw [size, show (builtin.replay retyping).size = 32 by decide]
  rfl

end Conform.Registry
