import CimSchema.Proofs.Target.Faults
import CimSchema.Proofs.Target.Views

/-!
# Every lacked type is reported

A class has a view exactly if the language has a type for the class itself, where it is spelled as a
primitive, and for each of its attributes. A class without a view is reported: with its own type if
that is lacked, and otherwise with the type of each attribute whose type is lacked, in the order of
the attributes. No such type gets into source text.

## Main definitions

* `ClassRecord.OwnMapped`, `ClassRecord.AttributesMapped` - the language has the types that a class
  needs.
* `TypeTable.Reports` - an error that says which types are lacked and who uses them.
* `ClassView.ShowsOrReports` - the view of a class shows all of it, or its lacked types are reported.

## Main results

* `ClassView.exists_ofRecord_iff` - which classes have a view.
* `ClassView.reports_of_ownPrimitive`, `ClassView.reports_of_attributes` - what is reported of the
  others.
* `ClassView.showsOrReports` - the outcome for every class and every table.
-/

namespace CimSchema

variable {t : TypeTable} {c : ClassRecord} {v : ClassView} {e : RenderError} {name : String}

/-! ### What a class needs -/

namespace ClassRecord

/-- The primitive that holds the value of a measured quantity: `Float` if the schema does not say. -/
def heldBy (c : ClassRecord) : String :=
  (c.datatype.map (·.value)).getD "Float"

/-- The language has the type that a primitive or a measured quantity is spelled as. -/
structure OwnMapped (t : TypeTable) (c : ClassRecord) : Prop where
  primitive : c.kind = .primitive → t.Maps c.name
  datatype : c.kind = .datatype → t.Maps c.heldBy

/-- The language has the primitives of all attributes. -/
def AttributesMapped (t : TypeTable) (c : ClassRecord) : Prop :=
  ∀ a ∈ c.attributes, ∀ name, a.valueType.primitive? = some name → t.Maps name

theorem ownMapped_iff :
    c.OwnMapped t ↔ ∀ name, ClassView.ownPrimitive c = some name → t.Maps name := by
  constructor
  · intro h name hname
    rw [ClassView.ownPrimitive] at hname
    split at hname
    · obtain rfl := Option.some.inj hname
      exact h.primitive ‹_›
    · obtain rfl := Option.some.inj hname
      exact h.datatype ‹_›
    · cases hname
  · intro h
    constructor
    · intro hkind
      exact h c.name (by rw [ClassView.ownPrimitive, hkind])
    · intro hkind
      exact h c.heldBy (by rw [ClassView.ownPrimitive, hkind]; rfl)

theorem lackedUses_eq_nil_iff : c.lackedUses t = [] ↔ c.AttributesMapped t := by
  simp only [lackedUses, List.filterMap_eq_nil_iff, Option.map_eq_none_iff,
    TypeTable.lacks?_eq_none_iff, AttributesMapped]

end ClassRecord

/-! ### Reports -/

/-- The error says that the language lacks some types, each with its use, and nothing else; and it
says so also as an error of the run. -/
structure TypeTable.Reports (t : TypeTable) (uses : List (String × String)) (e : RenderError) :
    Prop where
  leaves : e.leaves = uses.map fun (name, referrer) => .unmapped name t.language referrer
  leaves_toError : e.toError.leaves =
    uses.map fun (name, referrer) => .unmappedType name t.language.name referrer

theorem TypeTable.reports_of_leaves {uses : List (String × String)}
    (h : e.leaves = t.lackErrors uses) : t.Reports uses e where
  leaves := h
  leaves_toError := by
    rw [RenderError.leaves_toError, h, lackErrors, List.map_map]
    exact List.map_congr_left fun _ _ => rfl

namespace ClassView

theorem exists_ownType_iff : (∃ type, ownType t c = .ok type) ↔ c.OwnMapped t := by
  rw [ClassRecord.ownMapped_iff]
  constructor
  · rintro ⟨type, htype⟩ name hname
    by_contra hlacked
    have herror : ownType t c = .error _ := ownType_eq_error_iff.2 ⟨name, hname, hlacked, rfl⟩
    rw [htype] at herror
    cases herror
  · intro h
    cases hown : ownType t c with
    | ok type => exact ⟨type, rfl⟩
    | error e =>
      obtain ⟨name, hname, hlacked, -⟩ := ownType_eq_error_iff.1 hown
      exact absurd (h name hname) hlacked

/-- A class that is spelled as a lacked type is reported with it. -/
theorem reports_of_ownPrimitive (hname : ownPrimitive c = some name) (h : ¬ t.Maps name) :
    ∃ e, ofRecord t c = .error e ∧ t.Reports [(name, c.name)] e := by
  have hown : ownType t c = .error (.unmapped name t.language c.name) :=
    ownType_eq_error_iff.2 ⟨name, hname, h, rfl⟩
  exact ⟨_, ofRecord_eq_error_iff.2 (.inl hown), TypeTable.reports_of_leaves rfl⟩

/-- A class of which only attributes lack types is reported with these. -/
theorem reports_of_attributes (hown : c.OwnMapped t) (h : ¬ c.AttributesMapped t) :
    ∃ e, ofRecord t c = .error e ∧ t.Reports (c.lackedUses t) e := by
  have hne : c.lackedUses t ≠ [] := mt ClassRecord.lackedUses_eq_nil_iff.1 h
  have hleaves := RenderError.leaves_ofList (t.lackErrors (c.lackedUses t))
  cases hlist : RenderError.ofList (t.lackErrors (c.lackedUses t)) with
  | none =>
    rw [hlist] at hleaves
    exact absurd (List.map_eq_nil_iff.1 hleaves) hne
  | some e =>
    refine ⟨e, ofRecord_eq_error_iff.2 (.inr ⟨exists_ownType_iff.2 hown, hlist⟩), ?_⟩
    exact TypeTable.reports_of_leaves (TypeTable.leaves_of_ofList hlist).2

/-- A class has a view if the language has the types that it needs. -/
theorem exists_ofRecord_iff :
    (∃ v, ofRecord t c = .ok v) ↔ c.OwnMapped t ∧ c.AttributesMapped t := by
  constructor
  · rintro ⟨v, hv⟩
    have hshown {e : RenderError} : ofRecord t c ≠ .error e := by
      rw [hv]
      exact nofun
    have hown : c.OwnMapped t := by
      refine ClassRecord.ownMapped_iff.2 fun name hname => ?_
      by_contra hlacked
      obtain ⟨e, he, -⟩ := reports_of_ownPrimitive hname hlacked
      exact hshown he
    refine ⟨hown, ?_⟩
    by_contra hlacked
    obtain ⟨e, he, -⟩ := reports_of_attributes hown hlacked
    exact hshown he
  · rintro ⟨hown, hattributes⟩
    cases hview : ofRecord t c with
    | ok v => exact ⟨v, rfl⟩
    | error e =>
      rcases ofRecord_eq_error_iff.1 hview with herror | ⟨-, hlist⟩
      · obtain ⟨type, htype⟩ := exists_ownType_iff.2 hown
        rw [htype] at herror
        cases herror
      · exact absurd (ClassRecord.lackedUses_eq_nil_iff.2 hattributes)
          (TypeTable.leaves_of_ofList hlist).1

/-- An attribute whose type the language has can be shown. -/
theorem exists_ofAttribute {a : Attribute} {className : String}
    (h : ∀ name, a.valueType.primitive? = some name → t.Maps name) :
    ∃ view, AttributeView.ofAttribute t className a = .ok view := by
  cases hview : AttributeView.ofAttribute t className a with
  | ok view => exact ⟨view, rfl⟩
  | error e =>
    obtain ⟨name, hname, -⟩ := AttributeView.ofAttribute_eq_error_iff.1 hview
    rw [TypeTable.lacks?_eq_none_iff.2 h] at hname
    cases hname

/-- A view shows each attribute once, in order. -/
theorem forall₂_attributes (h : ofRecord t c = .ok v) :
    List.Forall₂ (fun a view => AttributeView.ofAttribute t c.name a = .ok view)
      c.attributes v.attributes := by
  obtain ⟨-, hattributes⟩ := exists_ofRecord_iff.1 ⟨v, h⟩
  have hviews : ∀ a ∈ c.attributes, ∃ view, AttributeView.ofAttribute t c.name a = .ok view :=
    fun a ha => exists_ofAttribute (hattributes a ha)
  obtain ⟨primitiveType, rfl⟩ := exists_of_ofRecord h
  exact forall₂_results (fun _ => rfl) hviews

/-- The view of a class shows all its attributes, and all its associations but those to many that
are not used. A class without a view lacks a type, and every type that it lacks is reported. -/
structure ShowsOrReports (t : TypeTable) (c : ClassRecord) : Prop where
  exists_iff : (∃ v, ofRecord t c = .ok v) ↔ c.OwnMapped t ∧ c.AttributesMapped t
  attributes : ∀ v, ofRecord t c = .ok v →
    List.Forall₂ (fun a view => AttributeView.ofAttribute t c.name a = .ok view)
      c.attributes v.attributes
  associations : ∀ v, ofRecord t c = .ok v →
    v.associations = (c.associations.filter fun a => a.used ∨ a.multiplicity ≠ .list).map
      (AssociationView.ofAssociation t)
  /-- The type of a primitive is lacked. -/
  primitive : c.kind = .primitive → ¬ t.Maps c.name →
    ∃ e, ofRecord t c = .error e ∧ t.Reports [(c.name, c.name)] e
  /-- The type of the value of a measured quantity is lacked. -/
  datatype : c.kind = .datatype → ¬ t.Maps c.heldBy →
    ∃ e, ofRecord t c = .error e ∧ t.Reports [(c.heldBy, c.name)] e
  /-- Only types of attributes are lacked. -/
  attributeTypes : c.OwnMapped t → ¬ c.AttributesMapped t →
    ∃ e, ofRecord t c = .error e ∧ t.Reports (c.lackedUses t) e

/-- **Lacked types.** In every table a class has a view with all its members, or all types that it
lacks are reported, each once and with its use. -/
theorem showsOrReports (t : TypeTable) (c : ClassRecord) : ShowsOrReports t c where
  exists_iff := exists_ofRecord_iff
  attributes _ := forall₂_attributes
  associations v h := by
    obtain ⟨primitiveType, rfl⟩ := exists_of_ofRecord h
    refine congrArg (List.map _) (List.filter_congr fun a _ => ?_)
    cases a.multiplicity <;> cases a.used <;> rfl
  primitive hkind := reports_of_ownPrimitive (by rw [ownPrimitive, hkind])
  datatype hkind := reports_of_ownPrimitive (by rw [ownPrimitive, hkind]; rfl)
  attributeTypes := reports_of_attributes

end ClassView

/-- A class with two attributes of types that no language has. -/
def season : ClassRecord where
  name := "Season"
  kind := .regular
  attributes := [
    ⟨"flag", "Season", .primitive "Quaternion", .optional, none, none, []⟩,
    ⟨"name", "Season", .primitive "String", .optional, none, none, []⟩,
    ⟨"start", "Season", .datatype (.plain "Phase"), .optional, none, none, []⟩,
    ⟨"turn", "Season", .datatype ⟨"Turn", "Octonion", none, none⟩, .list, none, none, []⟩]

theorem showsOrReports_season :
    season.OwnMapped Language.java.types ∧ ¬ season.AttributesMapped Language.java.types ∧
      ∃ e, ClassView.ofRecord Language.java.types season = .error e ∧
        Language.java.types.Reports
          [("Quaternion", "Season.flag"), ("Octonion", "Season.turn")] e := by
  have huses : season.lackedUses Language.java.types =
      [("Quaternion", "Season.flag"), ("Octonion", "Season.turn")] := by
    decide +kernel
  have hown : season.OwnMapped Language.java.types := ⟨nofun, nofun⟩
  have hlacked : ¬ season.AttributesMapped Language.java.types := by
    rw [← ClassRecord.lackedUses_eq_nil_iff, huses]
    exact List.cons_ne_nil _ _
  have hreports :=
    (ClassView.showsOrReports Language.java.types season).attributeTypes hown hlacked
  rw [huses] at hreports
  exact ⟨hown, hlacked, hreports⟩

end CimSchema
