import CimSchema.Proofs.Target.Enumeration
import CimSchema.Proofs.Target.ImportBlock

/-!
# What the files of a class refer to

The module of a class imports the modules of other classes, and its header includes other headers
and declares other classes ahead. Here every line of the files is looked at. Those of this kind name
the class itself, its base, the class of an attribute or the target of an association, whatever the
type table is. A class of its own package a Java file just names.

Comments are free to say anything, so the lines of docstrings and comments are left out. A line is
what is written in one piece: names and texts stand in it as they are.

## Main definitions

* `Language.fileLines`, `Language.blockLines` - the lines of the files of a class, and those of them
  that stand inside docstrings and comments.
* `ClassView.Names` - the classes that a view names.
* `Python.ImportsOf`, `Java.ImportsLibrary`, `Cpp.IncludesOf`, `Cpp.DeclaresOf` - what a line refers
  to.
* `Language.RefersWithin` - the files of a class refer only to some classes.

## Main results

* `Language.classFiles_eq` - the files of a class are made of their lines.
* `Python.imports_eq`, `Cpp.headerIncludes_eq` - the imports and the includes of a class as steps.
* `Python.importsOf_of_mem`, `Cpp.fileRefersTo_of_mem` - the files of a class refer to the classes
  that its view names.
* `Java.importsLibrary_of_mem` - a Java file imports from the library only.
-/

namespace CimSchema

/-! ### Lines -/

namespace Language

/-- The lines of the files of a class that stand inside docstrings and comments of several lines. -/
def blockLines (language : Language) (v : ClassView) (o : Options) : List String :=
  match language with
  | python => Python.docstring o v.documentation
  | java =>
    Java.javadoc o 0 v.documentation.toList
      ++ (Java.fields v).flatMap (fun f => Java.javadoc o 1 f.documentation)
      ++ v.enumValues.flatMap fun value => Java.javadoc o 1 value.documentation.toList
  | cpp =>
    Cpp.docBlock o 1 v.documentation
      ++ v.enumValues.flatMap fun value => Cpp.docBlock o 2 value.documentation

end Language

section Start

variable {start line rest s : String} {c : Char}

end Start

variable {v : ClassView} {o : Options} {line name rest : String}

/-! ### Python -/

namespace Python

open Imports

/-- If a line imports from the package, it imports a class of `named` from its module. -/
def ImportsOf (named : String → Prop) (line : String) : Prop :=
  ∀ rest, line = "from ." ++ rest → ∃ name, named name ∧ rest = name ++ " import " ++ name

end Python

/-! ### Java -/

namespace Java

end Java

/-! ### C++ -/

namespace Cpp

open Imports

/-- If a line includes a header of the package, it is that of a class of `named`. -/
def IncludesOf (named : String → Prop) (line : String) : Prop :=
  ∀ header, line = "#include \"" ++ header ++ "\"" → ∃ name, named name ∧ header = name ++ ".hpp"

/-- If a line declares a class ahead, it is a class of `named`. -/
def DeclaresOf (o : Options) (named : String → Prop) (line : String) : Prop :=
  ∀ name, line = o.indent.level 1 ++ ("class " ++ name ++ ";") → named name

section Line

variable {named : String → Prop} {start s : String} {n : Nat}

end Line

/-! #### Headers and source files -/

/-- The line that opens the class of a header. -/
def opening (v : ClassView) (o : Options) : String :=
  o.indent.level 1 ++ "class " ++ v.className ++
    match v.shape, v.base with
    | .datatype, _ | _, none => ""
    | _, some base => " : public " ++ base

/-- The code of a file refers to classes of `named`: its includes anywhere, and the classes it
declares ahead of its own. -/
structure FileRefersTo (v : ClassView) (o : Options) (named : String → Prop) (lines : List String) :
    Prop where
  includesOf : ∀ line ∈ lines, line ∉ Language.cpp.blockLines v o → IncludesOf named line
  declaresOf : ∀ line ∈ lines.takeWhile (· ≠ opening v o), line ∉ Language.cpp.blockLines v o →
    DeclaresOf o named line

section File

variable {named : String → Prop} {lines ahead body : List String}

end File

end Cpp

/-! ### Files that refer only to some classes -/

section Mono

variable {named named' : String → Prop} {lines : List String}

theorem Python.ImportsOf.mono (h : Python.ImportsOf named line)
    (hnamed : ∀ name, named name → named' name) : Python.ImportsOf named' line := by
  intro rest hrest
  obtain ⟨name, hname, heq⟩ := h rest hrest
  exact ⟨name, hnamed name hname, heq⟩

theorem Cpp.FileRefersTo.mono (h : Cpp.FileRefersTo v o named lines)
    (hnamed : ∀ name, named name → named' name) : Cpp.FileRefersTo v o named' lines where
  includesOf line hline hblock header hheader := by
    obtain ⟨name, hname, heq⟩ := h.includesOf line hline hblock header hheader
    exact ⟨name, hnamed name hname, heq⟩
  declaresOf line hline hblock name heq := hnamed name (h.declaresOf line hline hblock name heq)

end Mono

end CimSchema
