import CimSchema.Target.Source
import Mathlib.Data.List.Basic

/-!
# Source text without documentation

Documentation is written in several places of a file, and each of them looks at the same setting. So
where documentation is switched off, the files of a class are those of the class without any
documentation, and nothing of it can be told from them. What a comment says of units and inverse
ends is no documentation of the schema, and is not taken out here.

## Main definitions

* `ClassView.undocumented` - a view with the documentation taken out.
* `ClassView.SameButDocs` - two views that differ in documentation at most.

## Main results

* `Python.moduleLines_undocumented`, `Java.classFiles_undocumented`, `Cpp.classFiles_undocumented` -
  the source text of a class without its documentation.
* `Language.classFiles_eq_of_sameButDocs` - documentation does not leak.
-/

namespace CimSchema

/-! ### Taking the documentation out -/

/-- A value without its documentation. -/
def EnumValue.undocumented (value : EnumValue) : EnumValue :=
  { value with documentation := none }

/-- An attribute without its documentation. -/
def AttributeView.undocumented (a : AttributeView) : AttributeView :=
  { a with documentation := none }

/-- An association without its documentation. -/
def AssociationView.undocumented (a : AssociationView) : AssociationView :=
  { a with documentation := none }

namespace ClassView

/-- A view without the documentation of the class, its members and its values. -/
def undocumented (v : ClassView) : ClassView :=
  { v with
    documentation := none
    attributes := v.attributes.map AttributeView.undocumented
    associations := v.associations.map AssociationView.undocumented
    enumValues := v.enumValues.map EnumValue.undocumented }

/-- Two views that differ at most in the documentation of the class, its members and its values. -/
def SameButDocs (v w : ClassView) : Prop :=
  v.undocumented = w.undocumented

end ClassView

variable {o : Options}

/-! ### Python -/

namespace Python

theorem docstring_of_not_includeDocs (hdocs : o.includeDocs = false) (text : Option String) :
    docstring o text = [] := by
  cases text with
  | none => rfl
  | some text => simp [docstring, hdocs]

theorem fieldLines_undocumented (v : ClassView) : fieldLines v.undocumented = fieldLines v := by
  simp only [fieldLines, ClassView.undocumented, List.map_map]
  rfl

theorem imports_undocumented (v : ClassView) : imports v.undocumented = imports v := by
  have hclass : classImports v.undocumented = classImports v := by
    simp only [classImports, ClassView.undocumented, List.foldl_map]
    rfl
  rw [imports, fieldLines_undocumented, hclass, imports]

section

variable (hdocs : o.includeDocs = false)

include hdocs

theorem classLines_undocumented (v : ClassView) :
    classLines v.undocumented o = classLines v o := by
  simp only [classLines, imports_undocumented, fieldLines_undocumented,
    docstring_of_not_includeDocs hdocs]
  rfl

theorem enumerationLines_undocumented (v : ClassView) :
    enumerationLines v.undocumented o = enumerationLines v o := by
  simp only [enumerationLines, docstring_of_not_includeDocs hdocs, ClassView.undocumented]
  cases v.enumValues with
  | nil => rfl
  | cons value values =>
    -- The line of a value has its name alone.
    simp only [List.map_cons, List.map_map]
    rfl

theorem primitiveLines_undocumented (v : ClassView) :
    primitiveLines v.undocumented o = primitiveLines v o := by
  simp only [primitiveLines, hdocs, ClassView.undocumented]
  cases v.documentation <;> rfl

theorem datatypeLines_undocumented (v : ClassView) :
    datatypeLines v.undocumented o = datatypeLines v o := by
  simp only [datatypeLines, docstring_of_not_includeDocs hdocs]
  rfl

/-- The module of a class does not tell its documentation. -/
theorem moduleLines_undocumented (v : ClassView) :
    moduleLines v.undocumented o = moduleLines v o := by
  have hshape : v.undocumented.shape = v.shape := rfl
  rw [moduleLines, moduleLines, hshape]
  cases v.shape with
  | rootClass | derivedClass => exact classLines_undocumented hdocs v
  | enumeration => exact enumerationLines_undocumented hdocs v
  | primitive => exact primitiveLines_undocumented hdocs v
  | datatype => exact datatypeLines_undocumented hdocs v

end

end Python

/-! ### Java -/

namespace Java

theorem javadoc_of_not_includeDocs (hdocs : o.includeDocs = false) (level : Nat)
    (paragraphs : List String) : javadoc o level paragraphs = [] := by
  simp [javadoc, hdocs]

/-- A field without its comment, be it of its documentation, its unit or its inverse end. -/
def Field.undocumented (f : Field) : Field :=
  { f with documentation := [] }

/-- The fields differ in nothing else than their documentation. -/
theorem map_undocumented_fields (v : ClassView) :
    (fields v.undocumented).map Field.undocumented = (fields v).map Field.undocumented := by
  simp only [fields, ClassView.undocumented, List.map_append, List.map_map]
  rfl

/-- What is written of the fields does not tell their documentation if it does not do so for one. -/
theorem flatMap_fields_undocumented {written : Field → List String}
    (h : ∀ f, written f.undocumented = written f) (v : ClassView) :
    (fields v.undocumented).flatMap written = (fields v).flatMap written := by
  have hmap (fs : List Field) :
      (fs.map Field.undocumented).flatMap written = fs.flatMap written := by
    rw [List.flatMap_map]
    exact List.flatMap_congr fun f _ => h f
  rw [← hmap (fields v.undocumented), map_undocumented_fields, hmap]

theorem imports_undocumented (v : ClassView) : imports v.undocumented = imports v := by
  -- Only the types of the fields are looked at.
  have hany (fs : List Field) :
      (fs.map Field.undocumented).any (fun f => (Text.stripStart? "List<" f.type).isSome) =
        fs.any fun f => (Text.stripStart? "List<" f.type).isSome := by
    rw [List.any_map]
    rfl
  rw [imports, ← hany, map_undocumented_fields, hany, imports]

section

variable (hdocs : o.includeDocs = false)

include hdocs

theorem declarationLines_undocumented (f : Field) :
    declarationLines o f.undocumented = declarationLines o f := by
  simp only [declarationLines, javadoc_of_not_includeDocs hdocs]
  rfl

theorem classLines_undocumented (v : ClassView) :
    classLines v.undocumented o = classLines v o := by
  have hdeclarations := flatMap_fields_undocumented (declarationLines_undocumented hdocs) v
  have haccessors : (fields v.undocumented).flatMap (accessorLines o) =
      (fields v).flatMap (accessorLines o) := flatMap_fields_undocumented (fun _ => rfl) v
  simp only [classLines, imports_undocumented, hdeclarations, haccessors,
    javadoc_of_not_includeDocs hdocs]
  rfl

theorem valueLines_map_undocumented (values : List EnumValue) :
    valueLines o (values.map EnumValue.undocumented) = valueLines o values := by
  induction values with
  | nil => rfl
  | cons value values ih =>
    rw [List.map_cons, valueLines, valueLines, ih, javadoc_of_not_includeDocs hdocs,
      javadoc_of_not_includeDocs hdocs, List.isEmpty_map]
    rfl

theorem enumerationLines_undocumented (v : ClassView) :
    enumerationLines v.undocumented o = enumerationLines v o := by
  simp only [enumerationLines, javadoc_of_not_includeDocs hdocs, ClassView.undocumented,
    valueLines_map_undocumented hdocs]

/-- The file of a class does not tell its documentation. -/
theorem classFiles_undocumented (v : ClassView) :
    classFiles v.undocumented o = classFiles v o := by
  have hshape : v.undocumented.shape = v.shape := rfl
  have hname : v.undocumented.className = v.className := rfl
  rw [classFiles, classFiles, hshape, hname, classLines_undocumented hdocs,
    enumerationLines_undocumented hdocs]

end

end Java

/-! ### C++ -/

namespace Cpp

theorem docBlock_of_not_includeDocs (hdocs : o.includeDocs = false) (level : Nat)
    (text : Option String) : docBlock o level text = [] := by
  cases text with
  | none => rfl
  | some text => simp [docBlock, hdocs]

theorem fields_undocumented (v : ClassView) : fields v.undocumented = fields v := by
  simp only [fields, ClassView.undocumented, List.map_map]
  rfl

theorem targets_undocumented (v : ClassView) : targets v.undocumented = targets v := by
  simp only [targets, ClassView.undocumented, List.map_map]
  rfl

theorem headerIncludes_undocumented (v : ClassView) :
    headerIncludes v.undocumented = headerIncludes v := by
  simp only [headerIncludes, ClassView.undocumented, List.map_map, List.foldl_map]
  rfl

theorem sourceLines_undocumented (v : ClassView) (o : Options) :
    sourceLines v.undocumented o = sourceLines v o := by
  have hinitial : initializers v.undocumented = initializers v := by
    rw [initializers, fields_undocumented, initializers]
    rfl
  simp only [sourceLines, hinitial, targets_undocumented]
  rfl

section

variable (hdocs : o.includeDocs = false)

include hdocs

theorem headerLines_undocumented (v : ClassView) :
    headerLines v.undocumented o = headerLines v o := by
  simp only [headerLines, headerIncludes_undocumented, targets_undocumented, fields_undocumented,
    docBlock_of_not_includeDocs hdocs]
  rfl

theorem enumerationLines_undocumented (v : ClassView) :
    enumerationLines v.undocumented o = enumerationLines v o := by
  have hvalues : (v.enumValues.map EnumValue.undocumented).flatMap (valueLines o) =
      v.enumValues.flatMap (valueLines o) := by
    rw [List.flatMap_map]
    refine List.flatMap_congr fun value _ => ?_
    simp only [valueLines, docBlock_of_not_includeDocs hdocs]
    rfl
  simp only [enumerationLines, docBlock_of_not_includeDocs hdocs, ClassView.undocumented, hvalues]

theorem primitiveLines_undocumented (v : ClassView) :
    primitiveLines v.undocumented o = primitiveLines v o := by
  simp only [primitiveLines, docBlock_of_not_includeDocs hdocs]
  rfl

theorem datatypeLines_undocumented (v : ClassView) :
    datatypeLines v.undocumented o = datatypeLines v o := by
  simp only [datatypeLines, docBlock_of_not_includeDocs hdocs]
  rfl

/-- The files of a class do not tell its documentation. -/
theorem classFiles_undocumented (v : ClassView) :
    classFiles v.undocumented o = classFiles v o := by
  have hshape : v.undocumented.shape = v.shape := rfl
  have hname : v.undocumented.className = v.className := rfl
  simp only [classFiles, hshape, hname, headerLines_undocumented hdocs, sourceLines_undocumented,
    enumerationLines_undocumented hdocs, primitiveLines_undocumented hdocs,
    datatypeLines_undocumented hdocs]

end

end Cpp

namespace Language

/-- The files of a class do not tell its documentation where documentation is switched off. -/
theorem classFiles_undocumented (hdocs : o.includeDocs = false) (language : Language)
    (v : ClassView) : language.classFiles v.undocumented o = language.classFiles v o := by
  cases language with
  | python =>
    have hname : v.undocumented.className = v.className := rfl
    rw [classFiles, classFiles, Python.classFile, Python.classFile, hname,
      Python.moduleLines_undocumented hdocs]
  | java => exact Java.classFiles_undocumented hdocs v
  | cpp => exact Cpp.classFiles_undocumented hdocs v

/-- **Documentation does not leak.** Where documentation is switched off, two classes that differ in
nothing but the documentation of the class, its members and its values have the same files, with the
same names and the same contents. -/
theorem classFiles_eq_of_sameButDocs (language : Language) {v w : ClassView}
    (hdocs : o.includeDocs = false) (h : v.SameButDocs w) :
    language.classFiles v o = language.classFiles w o := by
  calc
    language.classFiles v o = language.classFiles v.undocumented o :=
      (classFiles_undocumented hdocs language v).symm
    _ = language.classFiles w.undocumented o := by rw [h]
    _ = language.classFiles w o := classFiles_undocumented hdocs language w

end Language

/-- A feeder with a length and the station at its end, all described by `text`. -/
def feederView (text : String) : ClassView where
  language := .java
  className := "Feeder"
  base := none
  shape := .rootClass
  documentation := some text
  attributes := [⟨"length", "Length", "Double", "Double", .single, none, some text, some "m", none,
    false⟩]
  associations := [⟨"Station", "Station", "Station", "Station", .single, some "Station.Feeders",
    none, some text⟩]
  enumValues := []
  primitiveType := none
  unit := none
  multiplier := none

/-- The setting makes the difference: with documentation the two files are told apart. -/
theorem classFiles_feederView :
    ({ includeDocs := false } : Options).includeDocs = false ∧
      (feederView "From the station.").SameButDocs (feederView "A line.") ∧
      Language.java.classFiles (feederView "From the station.") { includeDocs := false } =
        Language.java.classFiles (feederView "A line.") { includeDocs := false } ∧
      Language.java.classFiles (feederView "From the station.") {} ≠
        Language.java.classFiles (feederView "A line.") {} :=
  ⟨rfl, rfl, Language.java.classFiles_eq_of_sameButDocs rfl rfl, by decide +kernel⟩

end CimSchema
