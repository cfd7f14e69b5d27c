import Conform.Proofs.Config.Chain
import Conform.Proofs.Value.Printed
import Conform.Schema.Factory

/-! No registered type can tell a value from what is read again of it once it has been printed. -/

namespace Conform

/-- A predicate says the same of a value and of what resembles it, wherever the two stand. -/
def Blind (predicate : Predicate) : Prop :=
  ∀ value copy parent other, Value.Resembles value copy →
    (predicate copy other).isPass = (predicate value parent).isPass

namespace Registry

/-- All types of a registry are blind. -/
def AllBlind (registry : Registry) : Prop :=
  ∀ name predicate, registry.get? name = some predicate → Blind predicate

/-- A built-in type asks for anything, for a tag, or for a date. -/
theorem builtin_cases {name : String} {predicate : Predicate}
    (found : builtin.get? name = some predicate) :
    predicate = anything ∨ (∃ tag, predicate = hasTag tag) ∨ predicate = validDate := by
  have held := Members.mem_of_get? found
  -- What is held in the registry is among the types that it was built from.
  rw [builtin, ofTypes, entries_registerAll] at held
  rcases Members.mem_insertAll held with none | among
  · cases none
  · simp only [List.mem_append, List.mem_singleton, List.mem_map, Prod.mk.injEq] at among
    rcases among with (⟨-, rfl⟩ | ⟨tag, -, -, rfl⟩) | ⟨-, rfl⟩
    · exact .inl rfl
    · exact .inr (.inl ⟨tag, rfl⟩)
    · exact .inr (.inr rfl)

/-- The built-in types are blind. -/
theorem allBlind_builtin : builtin.AllBlind := by
  intro name predicate found value copy parent other resembles
  rcases builtin_cases found with rfl | ⟨tag, rfl⟩ | rfl
  · rw [anything, anything, resembles.isUndefined_eq]
  · rw [hasTag, hasTag, resembles.tag_eq]
  · -- Numbers and containers are no dates.
    cases resembles <;> rfl

/-- What is extended by blind types stays blind. -/
theorem AllBlind.extend {registry other : Registry} (blind : registry.AllBlind)
    (blindToo : other.AllBlind) : (registry.extend other).AllBlind := by
  -- A name means what the extension says, if that says anything.
  intro name predicate found
  rw [get?_extend] at found
  cases held : other.get? name with
  | none =>
    rw [held, Option.none_or] at found
    exact blind name predicate found
  | some replacing =>
    rw [held, Option.some_or] at found
    exact blindToo name predicate (held.trans found)

end Registry

namespace Config

variable {patterns : PatternLanguage} {base : Registry}

/-- A chain ends at a type of the registry, if it ends at one at all. -/
theorem Chain.exists_base {earlier : Members TypeSpec} {type : String × TypeSpec}
    {chain : List (String × TypeSpec)} {foundation : Option Predicate}
    (follows : Chain base earlier type chain foundation) :
    ∀ predicate, foundation = some predicate → ∃ name, base.get? name = some predicate := by
  -- Only the last step of a chain leaves the declared types, and it looks the name up in the
  -- registry.
  induction follows with
  | free => simp
  | registered builds absent known =>
    intro predicate same
    cases same
    exact ⟨_, known⟩
  | declared builds follows ih => exact ih

/-- Checks along a chain that begins with a blind type do not tell values that resemble each other
apart. -/
theorem passes_iff_of_resembles {chain : List (String × TypeSpec)} {foundation : Option Predicate}
    (blind : ∀ predicate, foundation = some predicate → Blind predicate) {value copy : Value}
    (parent other : Option Value) (resembles : value.Resembles copy) :
    ∀ check ∈ chainChecks chain foundation,
      check.Passes patterns copy other ↔ check.Passes patterns value parent := by
  -- The first check is blind, and the others look at a text or compare with a value of a document.
  intro check among
  cases check with
  | registered predicate =>
    have given : foundation = some predicate := by
      simp only [chainChecks, TypeSpec.checks, List.mem_append, Option.mem_toList,
        Option.map_eq_some_iff, List.mem_flatMap] at among
      simp_all
    simp only [TypeCheck.Passes, blind predicate given value copy parent other resembles]
  | pattern name message written => simp only [TypeCheck.Passes, resembles.eq_string_iff]
  | oneOf name message listed => simp only [TypeCheck.Passes, resembles.includes_eq]

/-- A predicate that means checks along a chain is blind if the registry below is. -/
theorem Means.blind {earlier : Members TypeSpec} {type : String × TypeSpec} {predicate : Predicate}
    (means : Means patterns base earlier type predicate) (blind : base.AllBlind) : Blind predicate := by
  obtain ⟨chain, foundation, follows, -, decides⟩ := means
  intro value copy parent other resembles
  have foundationBlind : ∀ predicate, foundation = some predicate → Blind predicate := by
    intro predicate same
    obtain ⟨name, known⟩ := follows.exists_base predicate same
    exact blind name predicate known
  -- Both are accepted exactly if they pass all checks, and they pass the same ones.
  rw [Bool.eq_iff_iff, (decides copy other).isPass_iff, (decides value parent).isPass_iff]
  exact forall₂_congr (passes_iff_of_resembles foundationBlind parent other resembles)

/-- Declared types are blind if those are that they build on. -/
theorem allBlind_registry {config : Config} {registry : Registry} (blind : base.AllBlind)
    (built : config.registry patterns base = .ok registry) : registry.AllBlind := by
  -- What is registered is what the declared types mean, and nothing else.
  have held : Holds patterns base .empty ([] ++ config.types) registry :=
    holds_registerAll built (Holds.start base) (Holds.start .empty)
  intro name predicate found
  by_cases among : name ∈ config.types.names
  · obtain ⟨_, _, _, meant, -, same, means⟩ := held.declared name among
    obtain rfl : meant = predicate := Option.some.inj (same.symm.trans found)
    exact means.blind blind
  · rw [held.others name among] at found
    cases found

/-- Only declared names are registered. -/
theorem get?_registry_of_not_mem {config : Config} {registry : Registry} {name : String}
    (built : config.registry patterns base = .ok registry) (absent : name ∉ config.types.names) :
    registry.get? name = none :=
  get?_of_registerAll built absent

end Config

end Conform
