import CimSchema.Resolve.Inverse
import CimSchema.Resolve.Member

/-!
# From declarations to a model

The declarations of all files are merged, the members of each class are found, base classes are
checked and inverse ends are linked. Every fault is reported: one error for each defective member,
class and cycle.

## Main definitions

* `Strictness` - whether built-in primitives must be declared.
* `Model.ofDocuments` - the model of some files, or every error in them.
-/

namespace CimSchema

/-- Whether built-in primitives must be declared. -/
inductive Strictness where
  /-- Built-in primitives need no declaration. -/
  | inferring
  /-- Every type must be declared. -/
  | strict
  deriving DecidableEq, Repr

/-- The values of an enumeration in order of first appearance, each with its first comment. -/
def enumValues (documents : List Document) (enumeration : String) : List EnumValue :=
  let declarations := documents.flatMap fun d => d.values.filter (·.enumeration = enumeration)
  let table : FirstSeen String (Option String) :=
    declarations.foldl (fun t v => t.upsert v.name none (· <|> v.comment)) {}
  table.entries.map fun (name, documentation) => ⟨name, documentation⟩

/-- The record of a merged class, with all its members and no inverse ends. -/
def classRecord (documents : List Document) (members : List Member) (name : String)
    (c : MergedClass) : ClassRecord :=
  let own := members.filter (·.domain = name)
  { name
    base := c.base
    kind := c.kind
    documentation := c.documentation
    package := c.package
    attributes := own.filterMap (·.attribute? members)
    associations := own.filterMap (·.association?)
    enumValues := enumValues documents name
    datatype := if c.kind = .datatype then some (measured members name) else none
    origins := c.origins
    declared := c.declared }

/-- The errors of base classes that are not known, in order of their messages. -/
def danglingBases (classes : ClassTable) : List Error :=
  let errors := classes.entries.filterMap fun (name, c) =>
    match c.base with
    | some base => if classes.contains base then none else some (Error.unresolvedReference base name)
    | none => none
  errors.mergeSort fun a b => decide (a.message ≤ b.message)

/-- Which known base each class has. -/
def knownBases (classes : ClassTable) : Bases :=
  .ofList (classes.entries.filterMap fun (name, c) =>
    match c.base with
    | some base => if classes.contains base then some (name, base) else none
    | none => none)

/-- The members that could be resolved, and the errors of the others, in order. -/
def resolveMembers (classes : ClassTable) (properties : PropertyTable) :
    List Member × List Error :=
  let outcomes := properties.members.values.map (Member.ofProperty classes)
  (outcomes.filterMap fun
    | .ok m => some m
    | .error _ => none,
   outcomes.filterMap fun
    | .ok _ => none
    | .error e => some e)

/-- The model of some files, or every error in them. -/
def Model.ofDocuments (strictness : Strictness) (documents : List Document) :
    Except Error Model := do
  let classes := ClassTable.ofDocuments (strictness = .inferring) documents
  let properties := PropertyTable.ofDocuments documents
  let (members, memberErrors) := resolveMembers classes properties
  let cycleErrors := (knownBases classes).cycles.map Error.cyclicInheritance
  Error.ofList (memberErrors ++ danglingBases classes ++ cycleErrors)
  let records := classes.entries.map fun (name, c) => classRecord documents members name c
  return (Model.ofList records).linkInverses properties

end CimSchema
