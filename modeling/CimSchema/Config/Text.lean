import CimSchema.Config.Basic
import CimSchema.Config.Substitution
import CimSchema.Yaml.Decode

/-!
# Configurations and profiles made of text

## Main definitions

* `ofConfigText` - the value that a text says, where `value?` gives the values of variables.
* `Config.ofNode?`, `Profile.ofNode?` - configurations and profiles as nodes.
* `Config.ofText`, `Profile.ofText` - configurations and profiles made of text.
-/

namespace CimSchema

open Yaml

/-- The members of a class: a list of them, or nothing. -/
def MemberSelection.ofNode? (n : Node) : Option MemberSelection :=
  (n.nullable? (Node.list? Node.text?)).map .ofNames

/-- The names in a sequence. -/
def NameSet.ofNode? (n : Node) : Option NameSet :=
  (n.list? Node.text?).map .ofList

/-- A profile as a mapping. -/
def Profile.ofNode? (n : Node) : Option Profile := do
  let fs ← n.fields? ["name", "version", "include_all", "classes", "origins", "exclude"]
  return {
    name := ← fs.required? "name" Node.text?
    version := ← fs.get? "version" (Node.nullable? Node.text?) none
    includeAll := ← fs.get? "include_all" Node.bool? false
    classes := ← fs.get? "classes" (Node.map? MemberSelection.ofNode?) .empty
    origins := ← fs.get? "origins" NameSet.ofNode? .empty
    exclude := ← fs.get? "exclude" NameSet.ofNode? .empty }

/-- What is put on top of a type table, as a mapping. -/
def Overrides.ofNode? (n : Node) : Option Overrides := do
  let fs ← n.fields? ["primitives", "defaults"]
  return ⟨← fs.get? "primitives" Node.textMap? .empty, ← fs.get? "defaults" Node.textMap? .empty⟩

namespace Config

/-- A configuration with the patterns and the version of schemas. -/
def withSchema? (c : Config) (n : Node) : Option Config := do
  let fs ← n.fields? ["patterns", "version"]
  return { c with
    patterns := ← fs.get? "patterns" (Node.list? Node.text?) c.patterns
    version := ← fs.get? "version" (Node.nullable? Node.text?) c.version }

/-- A configuration with the place of the output. -/
def withOutput? (c : Config) (n : Node) : Option Config := do
  let fs ← n.fields? ["directory", "per_language_dirs"]
  return { c with
    directory := ← fs.get? "directory" (fun n => n.text?.map Path.mk) c.directory
    perLanguageDirectories := ← fs.get? "per_language_dirs" Node.bool? c.perLanguageDirectories }

/-- A configuration with the layout of source text. -/
def withLayout? (c : Config) (n : Node) : Option Config := do
  let fs ← n.fields?
    ["line_width", "indent_width", "use_tabs", "include_docs", "parallel", "java_package"]
  return { c with
    lineWidth := ← fs.get? "line_width" Node.natural? c.lineWidth
    indentWidth := ← fs.get? "indent_width" Node.natural? c.indentWidth
    useTabs := ← fs.get? "use_tabs" Node.bool? c.useTabs
    includeDocs := ← fs.get? "include_docs" Node.bool? c.includeDocs
    parallel := ← fs.get? "parallel" Node.bool? c.parallel
    javaPackage := ← fs.get? "java_package" Node.text? c.javaPackage }

/-- A configuration as a mapping of sections. What is not given has its default. -/
def ofNode? (n : Node) : Option Config := do
  let fs ← n.fields? ["schema", "output", "generator", "profiles", "languages"]
  let c : Config := {}
  let c ← fs.get? "schema" c.withSchema? c
  let c ← fs.get? "output" c.withOutput? c
  let c ← fs.get? "generator" c.withLayout? c
  return { c with
    profiles := ← fs.get? "profiles" (Node.map? Profile.ofNode?) .empty
    overrides := ← fs.get? "languages" (Node.map? Overrides.ofNode?) .empty }

end Config

/-- The value that `f` reads from a text, after the values of variables are put in. -/
def ofConfigText {α : Type} (f : Node → Option α) (value? : String → Option String) (s : String) :
    Except ConfigFault α :=
  match decode? f (substitute value? s) with
  | some a => .ok a
  | none => .error .unreadable

/-- The configuration that a text says. -/
def Config.ofText (value? : String → Option String) (s : String) : Except ConfigFault Config :=
  ofConfigText Config.ofNode? value? s

/-- The profile that a text says. -/
def Profile.ofText (value? : String → Option String) (s : String) : Except ConfigFault Profile :=
  ofConfigText Profile.ofNode? value? s

end CimSchema
