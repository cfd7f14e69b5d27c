import Conform.Proofs.Schema.Defaults

/-! A default that is laid under a value keeps all that the value brings, and laying it under once more
changes nothing. -/

namespace Conform.Defaults

variable {defaults : Defaults} {value : Value} {base own : Members Value}

/-- Under what is undefined, a default comes to light as it is. -/
theorem mergeUnder_undefined (defaults : Defaults) :
    defaults.mergeUnder .undefined = defaults.resolve none := by
  -- There is nothing to be put over the default.
  unfold mergeUnder
  cases defaults.resolve none <;> rfl

/-- Under an object, the members of a default object come first and are overwritten in place. -/
theorem mergeUnder_object (resolved : defaults.resolve none = .object base) (own : Members Value) :
    defaults.mergeUnder (.object own) = .object (Members.insertAll base own) := by
  simp only [mergeUnder, resolved]

/-- Unless both are objects, a default leaves whatever is defined as it is. -/
theorem mergeUnder_of_defined (defined : value ≠ .undefined)
    (apart : ∀ base own, defaults.resolve none = .object base → value ≠ .object own) :
    defaults.mergeUnder value = value := by
  -- Merging tells two objects apart from undefined, and both from the rest.
  unfold mergeUnder
  split
  · rename_i base own resolved
    exact absurd rfl (apart base own resolved)
  · exact absurd rfl defined
  · rfl

/-- Only what is undefined can still be undefined once a default lies under it. -/
theorem eq_undefined_of_mergeUnder (merged : defaults.mergeUnder value = .undefined) :
    value = .undefined := by
  unfold mergeUnder at merged
  -- Two objects make an object, and elsewhere what is defined stays.
  split at merged
  · cases merged
  · rfl
  · exact merged

/-- What a default has been laid under stays as it is when the default is laid under once more. -/
theorem mergeUnder_mergeUnder (soundDefaults : defaults.WellFormed) (sound : value.WellFormed) :
    defaults.mergeUnder (defaults.mergeUnder value) = defaults.mergeUnder value := by
  have soundMerged : (defaults.mergeUnder value).WellFormed := soundDefaults.mergeUnder sound
  cases merged : defaults.mergeUnder value with
  | object members =>
    -- The names of the default come first already, and each of them has its value.
    rw [merged, Value.wellFormed_object] at soundMerged
    exact mergeUnder_of_names_append sound merged soundMerged.1 (List.append_nil _).symm
  | undefined =>
    -- Nothing has been laid under, and so it is again.
    obtain rfl := eq_undefined_of_mergeUnder merged
    exact merged
  | _ => exact mergeUnder_of_defined nofun nofun

/-- A default lies under a value for good, and nothing that the value brings is lost. Laying it under
once more changes nothing, not even the order of members. Under an object, an object of defaults gives
its own names in their order and then the others of the value in theirs, each of them once; a name
holds what the value has there, be it undefined, and else what the default has. Under what is
undefined the default comes to light, and anything else stays as it is. -/
theorem mergeUnder_settles (soundDefaults : defaults.WellFormed) (sound : value.WellFormed) :
    defaults.mergeUnder (defaults.mergeUnder value) = defaults.mergeUnder value ∧
    (∀ base own : Members Value, defaults.resolve none = .object base → value = .object own →
      ∃ merged : Members Value, defaults.mergeUnder value = .object merged ∧
        merged.names = base.names ++ own.names.filter (fun name => !base.contains name) ∧
        merged.names.Nodup ∧
        ∀ name, merged.get? name = (own.get? name).or (base.get? name)) ∧
    (value = .undefined → defaults.mergeUnder value = defaults.resolve none) ∧
    (value ≠ .undefined →
      (∀ base own, defaults.resolve none = .object base → value ≠ .object own) →
      defaults.mergeUnder value = value) := by
  refine ⟨mergeUnder_mergeUnder soundDefaults sound, ?_, ?_, mergeUnder_of_defined⟩
  · -- The members of the object are put into the default one after another.
    intro base own resolved same
    subst same
    have distinctBase : base.names.Nodup :=
      ((Value.wellFormed_object base).1 (resolved ▸ soundDefaults.resolve none)).1
    have distinctOwn : own.names.Nodup := ((Value.wellFormed_object own).1 sound).1
    refine ⟨Members.insertAll base own, mergeUnder_object resolved own, ?_, ?_, ?_⟩
    · exact Members.names_insertAll distinctOwn base
    · exact Members.nodup_insertAll own distinctBase
    · exact fun name => Members.get?_insertAll distinctOwn base name
  · intro undefined
    subst undefined
    exact mergeUnder_undefined defaults

/-- The defaults of a coat: a size, a lining that is described further, and a price that is computed for
each coat and so is no part of what lies under. -/
def coat : Defaults :=
  .fields [("size", .value (.string "medium")),
    ("price", .compute fun _ => .string "on request"),
    ("lining", .fields [("cloth", .value (.string "silk")), ("seam", .compute fun _ => .null)])]

/-- No name occurs twice in what a coat has by default. -/
theorem wellFormed_coat : coat.WellFormed := by
  -- The lining is a table within the table, and each of them has distinct names.
  have lining : WellFormed (.fields [("cloth", .value (.string "silk")),
      ("seam", .compute fun _ => .null)]) := by
    refine .fields (by simp [Members.names]) fun name default among => ?_
    simp only [List.mem_cons, Prod.mk.injEq, List.not_mem_nil, or_false] at among
    rcases among with ⟨_, rfl⟩ | ⟨_, rfl⟩
    · exact .value trivial
    · exact .compute fun _ => trivial
  refine .fields (by simp [Members.names]) fun name default among => ?_
  simp only [List.mem_cons, Prod.mk.injEq, List.not_mem_nil, or_false] at among
  rcases among with ⟨_, rfl⟩ | ⟨_, rfl⟩ | ⟨_, rfl⟩
  · exact .value trivial
  · exact .compute fun _ => trivial
  · exact lining

/-- A coat whose size is expressly undefined keeps it so, in the place of the size, and its own note
comes after the lining. Where there is no coat the default is one, and what is no object is none. -/
theorem mergeUnder_settles_coat :
    coat.mergeUnder (.object [("note", .null), ("size", .undefined)]) =
        .object [("size", .undefined), ("lining", .object [("cloth", .string "silk")]),
          ("note", .null)] ∧
      coat.mergeUnder (coat.mergeUnder (.object [("note", .null), ("size", .undefined)])) =
        coat.mergeUnder (.object [("note", .null), ("size", .undefined)]) ∧
      (∃ merged : Members Value,
        coat.mergeUnder (.object [("note", .null), ("size", .undefined)]) = .object merged ∧
          merged.names = ["size", "lining"] ++ ["note"] ∧ merged.names.Nodup ∧
          merged.get? "size" = some .undefined) ∧
      coat.mergeUnder .undefined = coat.resolve none ∧
      coat.mergeUnder (.array [.null]) = .array [.null] := by
  -- The general account is read for an object, for undefined and for an array.
  have sound : (Value.object [("note", .null), ("size", .undefined)]).WellFormed :=
    ⟨by simp [Members.names], trivial, trivial, trivial⟩
  have settles := mergeUnder_settles wellFormed_coat sound
  obtain ⟨merged, laid, names, distinct, read⟩ := settles.2.1 _ _ rfl rfl
  refine ⟨rfl, settles.1, ⟨merged, laid, names.trans (by decide), distinct, read "size"⟩, ?_, ?_⟩
  · exact (mergeUnder_settles wellFormed_coat Value.wellFormed_undefined).2.2.1 rfl
  · have soundArray : (Value.array [.null]).WellFormed := ⟨trivial, trivial⟩
    refine (mergeUnder_settles wellFormed_coat soundArray).2.2.2 ?_ ?_
    · intro undefined
      cases undefined
    · intro base own resolved object
      cases object

end Conform.Defaults
