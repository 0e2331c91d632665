import CimSchema.Model.Bases
import CimSchema.Model.Record

/-!
# Resolved models

A model is a list of class records in increasing order of their names. A name may come several
times; what is looked up is its last record.

## Main definitions

* `Model` - sorted lists of class records.
* `Model.ofList` - the model of some records.
* `Model.get?` - the record of a name.
* `Model.ancestors` - the chain of base classes of a name.
-/

namespace CimSchema

/-- Class records in increasing order of their names. -/
structure Model where
  classes : List ClassRecord
  sorted : classes.Pairwise (·.name ≤ ·.name)

namespace Model

/-- Whether the name of `a` comes before that of `b`, or is the same. -/
def nameLe (a b : ClassRecord) : Bool :=
  decide (a.name ≤ b.name)

theorem nameLe_trans (a b c : ClassRecord) (hab : nameLe a b) (hbc : nameLe b c) : nameLe a c := by
  simp only [nameLe, decide_eq_true_eq] at *
  exact Std.le_trans hab hbc

theorem nameLe_total (a b : ClassRecord) : nameLe a b || nameLe b a := by
  simp only [nameLe, Bool.or_eq_true, decide_eq_true_eq]
  exact Std.le_total

/-- The model of some records; records of one name keep their order. -/
def ofList (classes : List ClassRecord) : Model where
  classes := classes.mergeSort nameLe
  sorted := by
    simpa [nameLe] using List.pairwise_mergeSort nameLe_trans nameLe_total classes

instance : Inhabited Model := ⟨ofList []⟩

/-- The last record called `name`. -/
def get? (m : Model) (name : String) : Option ClassRecord :=
  m.classes.reverse.find? (·.name = name)

/-- Whether there is a record called `name`. -/
def contains (m : Model) (name : String) : Bool :=
  (m.get? name).isSome

/-- The names of the records, in order. -/
def names (m : Model) : List String :=
  m.classes.map (·.name)

/-- The number of records. -/
def size (m : Model) : Nat :=
  m.classes.length

/-- Whether there are no records. -/
def isEmpty (m : Model) : Bool :=
  m.classes.isEmpty

theorem name_of_get? {m : Model} {name : String} {c : ClassRecord} (h : m.get? name = some c) :
    c.name = name := by
  simpa using List.find?_some h

theorem mem_classes_of_get? {m : Model} {name : String} {c : ClassRecord}
    (h : m.get? name = some c) : c ∈ m.classes := by
  simpa using List.mem_of_find?_eq_some h

theorem mem_names_of_get? {m : Model} {name : String} {c : ClassRecord}
    (h : m.get? name = some c) : name ∈ m.names := by
  rw [names, List.mem_map]
  exact ⟨c, mem_classes_of_get? h, name_of_get? h⟩

/-- Which base each class has, by its last record. -/
def bases (m : Model) : Bases :=
  NameMap.ofList (m.names.filterMap fun name =>
    ((m.get? name).bind (·.base)).map fun base => (name, base))

/-- The chain of base classes of `name`, nearest first. It ends at a class without base, at a base
that the model lacks, or before a class that came already. -/
def ancestors (m : Model) (name : String) : List String :=
  (m.bases.trail name).tail

/-- Whether `ancestor` is `name` or one of its base classes. -/
def isSameOrAncestor (m : Model) (ancestor name : String) : Bool :=
  m.bases.leadsTo name ancestor

end Model

end CimSchema
