import CimSchema.Generation.Run
import CimSchema.Proofs.Model.Lookup

/-!
# Models read back from their JSON form

A run may write its model as JSON. Every record is read back from what is written of it: each field
by its name, and each alternative by the field that tells which one it is. A model is written as the
list of its records, and any list of records is read as a model, which puts them in order.

## Main definitions

* `SortsByName` - a list in the order of the names, in which records of one name keep their order.

## Main results

* `ClassRecord.ofJson?_toJson`, and so for each record type - a record is read back.
* `Model.sortsByName_ofList` - the model of some records has them in order.
* `Model.readsBack` - a model is read back, and a list of records is written again in order.
-/

namespace CimSchema

/-! ### Values -/

namespace Json

variable {α : Type} {f : Json → Option α} {fields : List (String × Json)} {name : String}

@[simp]
theorem field?_object : (object fields).field? name = fields.lookup name := rfl

@[simp]
theorem text?_object : (object fields).text? name = (fields.lookup name).bind string? := rfl

@[simp]
theorem texts?_object :
    (object fields).texts? name = (fields.lookup name).bind (list? string?) := rfl

@[simp]
theorem multiplicity?_object :
    (object fields).multiplicity? name =
      ((fields.lookup name).bind string?).bind Multiplicity.ofLabel? := rfl

@[simp]
theorem optional?_object :
    (object fields).optional? f name =
      ((fields.lookup name).map (nullable? f)).getD (some none) := by
  rw [optional?, field?_object]
  cases fields.lookup name <;> rfl

@[simp]
theorem maybeText?_object :
    (object fields).maybeText? name =
      ((fields.lookup name).map (nullable? string?)).getD (some none) :=
  optional?_object

@[simp]
theorem string?_string (s : String) : (string s).string? = some s := rfl

@[simp]
theorem bool?_bool (b : Bool) : (bool b).bool? = some b := rfl

@[simp]
theorem nullable?_ofOption (text : Option String) :
    (ofOption text).nullable? string? = some text := by
  cases text <;> rfl

/-- An array is read back if each of its items is. -/
theorem list?_map {g : α → Json} (h : ∀ a, f (g a) = some a) (xs : List α) :
    (array (xs.map g)).list? f = some xs := by
  rw [list?]
  induction xs with
  | nil => rfl
  | cons x xs ih =>
    rw [List.map_cons, List.mapM_cons, h, ih]
    rfl

@[simp]
theorem list?_ofStrings (xs : List String) : (ofStrings xs).list? string? = some xs :=
  list?_map string?_string xs

end Json

/-! ### Records -/

@[simp]
theorem ClassKind.ofLabel?_label (kind : ClassKind) : ofLabel? kind.label = some kind := by
  cases kind <;> rfl

@[simp]
theorem Multiplicity.ofLabel?_label (multiplicity : Multiplicity) :
    ofLabel? multiplicity.label = some multiplicity := by
  cases multiplicity <;> rfl

theorem Measured.ofJson?_toJson (m : Measured) : ofJson? m.toJson = some m := by
  simp [toJson, ofJson?, fields, List.lookup_cons]

/-- A field that tells the kind of a type does not get in the way of the fields behind it. -/
theorem Measured.ofJson?_cons_fields (kind : Json) (m : Measured) :
    ofJson? (.object (("kind", kind) :: m.fields)) = some m := by
  simp [ofJson?, fields, List.lookup_cons]

theorem Measured.nullable?_toJson (m : Measured) :
    m.toJson.nullable? ofJson? = some (some m) := by
  change (ofJson? m.toJson).map some = some (some m)
  rw [ofJson?_toJson, Option.map_some]

theorem ValueType.ofJson?_toJson (type : ValueType) : ofJson? type.toJson = some type := by
  cases type with
  | datatype measured => simp [toJson, ofJson?, List.lookup_cons, Measured.ofJson?_cons_fields]
  | primitive | enumeration | compound => simp [toJson, ofJson?, List.lookup_cons]

theorem Attribute.ofJson?_toJson (a : Attribute) : ofJson? a.toJson = some a := by
  simp [toJson, ofJson?, List.lookup_cons, ValueType.ofJson?_toJson]

theorem InverseLink.ofJson?_toJson (link : InverseLink) : ofJson? link.toJson = some link := by
  cases link with
  | none | resolved | inconsistent => simp [toJson, ofJson?, List.lookup_cons]

theorem Association.ofJson?_toJson (a : Association) : ofJson? a.toJson = some a := by
  simp [toJson, ofJson?, List.lookup_cons, InverseLink.ofJson?_toJson]

theorem EnumValue.ofJson?_toJson (value : EnumValue) : ofJson? value.toJson = some value := by
  simp [toJson, ofJson?, List.lookup_cons]

namespace ClassRecord

theorem optional?_datatype (c : ClassRecord) :
    c.toJson.optional? Measured.ofJson? "datatype" = some c.datatype := by
  cases hdatatype : c.datatype with
  | none => simp [toJson, List.lookup_cons, hdatatype, Json.nullable?]
  | some m => simp [toJson, List.lookup_cons, hdatatype, Measured.nullable?_toJson]

theorem ofJson?_toJson (c : ClassRecord) : ofJson? c.toJson = some c := by
  have hattributes := Json.list?_map Attribute.ofJson?_toJson c.attributes
  have hassociations := Json.list?_map Association.ofJson?_toJson c.associations
  have hvalues := Json.list?_map EnumValue.ofJson?_toJson c.enumValues
  rw [ofJson?, optional?_datatype]
  simp [toJson, List.lookup_cons, hattributes, hassociations, hvalues]

end ClassRecord

/-! ### Models -/

/-- `sorted` lists the records `classes` in increasing order of their names, and those of one name
in the order in which they came. -/
structure SortsByName (classes sorted : List ClassRecord) : Prop where
  perm : sorted.Perm classes
  increasing : sorted.Pairwise (·.name ≤ ·.name)
  stable : ∀ name, sorted.filter (·.name = name) = classes.filter (·.name = name)

namespace Model

/-- Records of one name keep their order in a model. -/
theorem filter_classes_ofList (classes : List ClassRecord) (name : String) :
    (ofList classes).classes.filter (·.name = name) = classes.filter (·.name = name) := by
  have hsame : (classes.filter (·.name = name)).Pairwise (nameLe · ·) := by
    refine List.pairwise_iff_forall_sublist.2 fun {c d} h => ?_
    have hc : c.name = name := by simpa using List.of_mem_filter (h.subset (by simp))
    have hd : d.name = name := by simpa using List.of_mem_filter (h.subset (by simp))
    simp [nameLe, hc, hd]
  -- They are in order, and so the sorted list has them as a sublist.
  have hsublist : (classes.filter (·.name = name)).Sublist (ofList classes).classes :=
    List.sublist_mergeSort nameLe_trans nameLe_total hsame List.filter_sublist
  have hperm : (ofList classes).classes.Perm classes := List.mergeSort_perm classes nameLe
  have hfiltered := hsublist.filter (·.name = name)
  simp only [List.filter_filter, Bool.and_self] at hfiltered
  -- There are no more of them in the sorted list, and so it has them and nothing between them.
  exact (hfiltered.eq_of_length (hperm.filter _).length_eq.symm).symm

theorem sortsByName_ofList (classes : List ClassRecord) :
    SortsByName classes (ofList classes).classes where
  perm := List.mergeSort_perm classes nameLe
  increasing := (ofList classes).sorted
  stable := filter_classes_ofList classes

/-- Reading a list of records as a model is reading the records. -/
theorem toJson_ofJson? (j : Json) :
    (ofJson? j).map toJson = (j.list? ClassRecord.ofJson?).map fun classes =>
      .array ((ofList classes).classes.map ClassRecord.toJson) := by
  rw [ofJson?, Option.map_map]
  rfl

theorem ofList_classes (m : Model) : ofList m.classes = m := by
  cases m with
  | mk classes sorted =>
    rw [ofList, mk.injEq]
    exact classes_ofList_of_sorted sorted

theorem ofJson?_toJson (m : Model) : ofJson? m.toJson = some m := by
  rw [toJson, ofJson?, Json.list?_map ClassRecord.ofJson?_toJson, Option.map_some, ofList_classes]

/-- **Reading back.** What a run writes of a model is the printed form of a value that a model with
the same records is read from, in the same order and with the same found under each name. Any list
of records that is written is read back; and whatever a list of records is read from, a model is
read from it, too, which is written as these records in the order of their names, those of one name
in the order of the list. -/
theorem readsBack {M : Type → Type} [Monad M] [Host M] :
    (∀ m : Model,
      (∀ (r : Request) (p : Path),
        ({ r with dump := some p }.writeDump m : Step M Unit) = writeFile p m.toJson.pretty) ∧
      ∃ n, ofJson? m.toJson = some n ∧ n.classes = m.classes ∧
        ∀ name, n.get? name = m.get? name ∧ n.contains name = m.contains name) ∧
    (∀ classes : List ClassRecord,
      (Json.array (classes.map ClassRecord.toJson)).list? ClassRecord.ofJson? = some classes) ∧
    ∃ sort : List ClassRecord → List ClassRecord, (∀ classes, SortsByName classes (sort classes)) ∧
      ∀ j : Json, (ofJson? j).map toJson = (j.list? ClassRecord.ofJson?).map fun classes =>
        .array ((sort classes).map ClassRecord.toJson) := by
  refine ⟨fun m => ⟨fun _ _ => rfl, m, ofJson?_toJson m, rfl, fun _ => ⟨rfl, rfl⟩⟩, ?_, ?_⟩
  · exact Json.list?_map ClassRecord.ofJson?_toJson
  · exact ⟨fun classes => (ofList classes).classes, sortsByName_ofList, toJson_ofJson?⟩

end Model

end CimSchema
