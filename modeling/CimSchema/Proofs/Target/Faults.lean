import CimSchema.Proofs.Error
import CimSchema.Target.ClassView

/-!
# Classes that cannot be shown

A language may lack a type that a class needs. Then the class has no view, and the reason is at least
one single error.

## Main definitions

* `ValueType.primitive?` - the primitive that values of a type are held by.
* `TypeTable.Maps` - the language has a type for a primitive.
* `TypeTable.lacks?` - the primitive of a type, if the language has no type for it.
* `RenderError.leaves` - the single errors of the error of a class.
* `ClassRecord.lackedUses` - the lacked types of the attributes of a class.

## Main results

* `TypeTable.valueType_eq_error_iff` - a type cannot be spelled if its primitive is lacked.
* `RenderError.leaves_toError` - no single error is lost when an error becomes one of the run.
* `ClassView.ofRecord_eq_error_iff` - which types a class without a view lacks.
* `ClassView.leaves_of_ofRecord` - a class that cannot be shown is an error of the run.
-/

namespace CimSchema

/-! ### Lacked types -/

/-- The primitive that values of a type are held by, if there is one. -/
def ValueType.primitive? : ValueType → Option String
  | primitive name => some name
  | datatype measured => some measured.value
  | enumeration _ | compound _ => none

namespace TypeTable

variable {t : TypeTable} {type : ValueType} {name referrer : String} {e : RenderError}

/-- The language has a type for the primitive `name`. -/
def Maps (t : TypeTable) (name : String) : Prop :=
  (t.primitive? name).isSome = true

instance (t : TypeTable) (name : String) : Decidable (t.Maps name) :=
  inferInstanceAs (Decidable ((t.primitive? name).isSome = true))

/-- The primitive of a type, if the language has no type for it. -/
def lacks? (t : TypeTable) (type : ValueType) : Option String :=
  type.primitive?.filter fun name => ¬ t.Maps name

theorem lacks?_eq_some_iff :
    t.lacks? type = some name ↔ type.primitive? = some name ∧ ¬ t.Maps name := by
  rw [lacks?, Option.filter_eq_some_iff, decide_eq_true_iff]

theorem lacks?_eq_none_iff :
    t.lacks? type = none ↔ ∀ name, type.primitive? = some name → t.Maps name := by
  simp only [Option.eq_none_iff_forall_ne_some, ne_eq, lacks?_eq_some_iff, not_and, not_not]

theorem primitiveFor_eq_error_iff :
    t.primitiveFor name referrer = .error e ↔
      ¬ t.Maps name ∧ e = .unmapped name t.language referrer := by
  rw [primitiveFor, Maps]
  cases t.primitive? name with
  | none => simp [eq_comm]
  | some type => simp

/-- A type cannot be spelled if its primitive is lacked. -/
theorem valueType_eq_error_iff :
    t.valueType type referrer = .error e ↔
      ∃ name, t.lacks? type = some name ∧ e = .unmapped name t.language referrer := by
  simp only [lacks?_eq_some_iff]
  cases type with
  | primitive name => simp [valueType, ValueType.primitive?, primitiveFor_eq_error_iff]
  | enumeration name => simp [valueType, ValueType.primitive?]
  | compound name => simp [valueType, ValueType.primitive?]
  | datatype measured =>
    simp [valueType, ValueType.primitive?, map_eq_error_iff, primitiveFor_eq_error_iff]

end TypeTable

theorem AttributeView.ofAttribute_eq_error_iff {t : TypeTable} {className : String} {a : Attribute}
    {e : RenderError} :
    ofAttribute t className a = .error e ↔ ∃ name, t.lacks? a.valueType = some name ∧
      e = .unmapped name t.language (className ++ "." ++ a.name) := by
  rw [ofAttribute, map_eq_error_iff, TypeTable.valueType_eq_error_iff]

/-! ### Single errors -/

namespace RenderError

mutual

/-- The single errors of the error of a class, from left to right. -/
def leaves : RenderError → List RenderError
  | unmapped typeName language referrer => [unmapped typeName language referrer]
  | template text => [template text]
  | io reason => [io reason]
  | multiple errors => leavesList errors

/-- The single errors of a list of errors, from left to right. -/
def leavesList : List RenderError → List RenderError
  | [] => []
  | e :: es => leaves e ++ leavesList es

end

mutual

/-- No single error is lost when an error becomes one of the run. -/
theorem leaves_toError (e : RenderError) : e.toError.leaves = e.leaves.map toError := by
  cases e with
  | multiple errors =>
    rw [toError, Error.leaves, leaves]
    exact leavesList_toErrors errors
  | unmapped | template | io => rfl

theorem leavesList_toErrors (errors : List RenderError) :
    Error.leavesList (toErrors errors) = (leavesList errors).map toError := by
  cases errors with
  | nil => rfl
  | cons e errors =>
    rw [toErrors, Error.leavesList, leavesList, List.map_append, leaves_toError e,
      leavesList_toErrors errors]

end

theorem leavesList_eq_flatMap (errors : List RenderError) :
    leavesList errors = errors.flatMap leaves := by
  induction errors with
  | nil => rw [leavesList, List.flatMap_nil]
  | cons e errors ih => rw [leavesList, ih, List.flatMap_cons]

/-- What stands in the error that was made of a list, if one was made. -/
theorem leaves_ofList (errors : List RenderError) :
    match ofList errors with
    | none => errors = []
    | some e => errors ≠ [] ∧ e.leaves = errors.flatMap leaves := by
  match errors with
  | [] => rfl
  | [e] => simp [ofList]
  | e :: e' :: errors =>
    rw [ofList]
    · exact ⟨List.cons_ne_nil _ _, by rw [leaves, leavesList_eq_flatMap]⟩
    all_goals simp

end RenderError

/-! ### Classes without a view -/

/-- The lacked primitives that attributes use, each with the attribute that uses it, in the order of
the attributes. -/
def ClassRecord.lackedUses (t : TypeTable) (c : ClassRecord) : List (String × String) :=
  c.attributes.filterMap fun a =>
    (t.lacks? a.valueType).map fun name => (name, c.name ++ "." ++ a.name)

/-- The errors that the language lacks some types, each with its use. -/
def TypeTable.lackErrors (t : TypeTable) (uses : List (String × String)) : List RenderError :=
  uses.map fun (name, referrer) => .unmapped name t.language referrer

theorem TypeTable.leaves_of_ofList {t : TypeTable} {uses : List (String × String)} {e : RenderError}
    (h : RenderError.ofList (t.lackErrors uses) = some e) :
    uses ≠ [] ∧ e.leaves = t.lackErrors uses := by
  have hleaves := RenderError.leaves_ofList (t.lackErrors uses)
  rw [h] at hleaves
  obtain ⟨hne, hleaves⟩ := hleaves
  refine ⟨mt List.map_eq_nil_iff.2 hne, hleaves.trans ?_⟩
  -- Each of the errors is a single one.
  rw [lackErrors, List.flatMap_map]
  exact List.flatMap_pure_eq_map _ uses

namespace ClassView

variable {t : TypeTable} {c : ClassRecord} {e : RenderError} {name : String}

theorem ownType_eq_error_iff :
    ownType t c = .error e ↔ ∃ name, ownPrimitive c = some name ∧ ¬ t.Maps name ∧
      e = .unmapped name t.language c.name := by
  rw [ownType]
  cases ownPrimitive c with
  | none => simp
  | some name => simp [map_eq_error_iff, TypeTable.primitiveFor_eq_error_iff]

/-- The errors of the attributes of a class are that their types are lacked. -/
theorem filterMap_errors (t : TypeTable) (c : ClassRecord) :
    ((c.attributes.map (AttributeView.ofAttribute t c.name)).filterMap fun
      | .ok _ => none
      | .error e => some e) = t.lackErrors (c.lackedUses t) := by
  rw [List.filterMap_map, TypeTable.lackErrors, ClassRecord.lackedUses, List.map_filterMap]
  refine List.filterMap_congr fun a _ => ?_
  rw [Function.comp_apply]
  cases hview : AttributeView.ofAttribute t c.name a with
  | error e =>
    obtain ⟨name, hname, rfl⟩ := AttributeView.ofAttribute_eq_error_iff.1 hview
    rw [hname]
    rfl
  | ok view =>
    cases hname : t.lacks? a.valueType with
    | none => rfl
    | some name =>
      have herror : AttributeView.ofAttribute t c.name a = .error _ :=
        AttributeView.ofAttribute_eq_error_iff.2 ⟨name, hname, rfl⟩
      rw [hview] at herror
      cases herror

/-- A class has no view because its own type is lacked, or else types of its attributes. -/
theorem ofRecord_eq_error_iff :
    ofRecord t c = .error e ↔ ownType t c = .error e ∨ (∃ type, ownType t c = .ok type) ∧
      RenderError.ofList (t.lackErrors (c.lackedUses t)) = some e := by
  rw [ofRecord]
  cases hown : ownType t c with
  | error e' => simp [bind, Except.bind]
  | ok type =>
    have herrors := congrArg RenderError.ofList (filterMap_errors t c)
    dsimp only [bind, Except.bind]
    split
    · rename_i e' he'
      simp [herrors.symm.trans he']
    · rename_i hnone
      simp [herrors.symm.trans hnone, pure, Except.pure]

/-- A class that cannot be shown is an error of the run. -/
theorem leaves_of_ofRecord (h : ofRecord t c = .error e) : e.toError.leaves ≠ [] := by
  rw [RenderError.leaves_toError]
  refine mt List.map_eq_nil_iff.1 ?_
  rcases ofRecord_eq_error_iff.1 h with hown | ⟨-, hlist⟩
  · obtain ⟨name, -, -, rfl⟩ := ownType_eq_error_iff.1 hown
    exact List.cons_ne_nil _ _
  · obtain ⟨hne, hleaves⟩ := TypeTable.leaves_of_ofList hlist
    rw [hleaves]
    exact mt List.map_eq_nil_iff.1 hne

end ClassView

end CimSchema
