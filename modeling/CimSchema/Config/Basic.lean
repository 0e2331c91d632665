import CimSchema.Files.Path
import CimSchema.Profile.Basic
import CimSchema.Target.Layout
import CimSchema.Target.Source
import CimSchema.Target.TypeTable

/-!
# Configurations

## Main definitions

* `Config` - the settings of a run.
* `Config.check` - refuses settings that are out of range.
* `Config.options`, `Config.types`, `Config.languageDirectory` - what the settings mean for a language.
-/

namespace CimSchema

/-- The settings of a run. -/
structure Config where
  /-- Patterns of the schema files. -/
  patterns : List String := ["schemas/*.rdf"]
  /-- The version of profiles that are derived from a keyword. -/
  version : Option String := none
  /-- Where source text is written. -/
  directory : Path := ⟨"output"⟩
  /-- Whether each language has a directory of its own in there. -/
  perLanguageDirectories : Bool := true
  /-- The width that documentation is wrapped to. -/
  lineWidth : Nat := 80
  /-- The spaces of one level. -/
  indentWidth : Nat := 4
  /-- Whether a level is indented by a tab instead. -/
  useTabs : Bool := false
  includeDocs : Bool := true
  /-- Whether classes may be written at the same time. It makes no difference to the result. -/
  parallel : Bool := true
  javaPackage : String := "cim"
  /-- Profiles that are chosen by their keys. -/
  profiles : NameMap Profile := .empty
  /-- What is put on top of the type tables, by the names of the languages. -/
  overrides : NameMap Overrides := .empty

/-- Why a configuration is refused. -/
inductive ConfigFault where
  /-- The text makes no sense. -/
  | unreadable
  | noPatterns
  | lineTooNarrow (width : Nat)
  | indentOutOfRange (width : Nat)
  /-- The profile with the key has a fault. -/
  | profile (key : String) (fault : ProfileFault)
  /-- No file matches. -/
  | noMatch (patterns : List String)
  | invalidPattern (pattern : String)
  deriving DecidableEq, Repr

namespace ConfigFault

/-- The fault as it is put to the user. Of a text that makes no sense, only that it is such is
given. -/
def message : ConfigFault → String
  | unreadable => "Failed to parse YAML config"
  | noPatterns => "schema.patterns must not be empty"
  | lineTooNarrow width => s!"generator.line_width must be at least 20, got {width}"
  | indentOutOfRange width => s!"generator.indent_width must be between 1 and 8, got {width}"
  | profile key fault => s!"profiles.{key}: {fault.toError.message}"
  | noMatch patterns => "no schema files matched " ++ ", ".intercalate patterns
  | invalidPattern pattern => s!"invalid schema pattern '{pattern}'"

/-- The fault as an error of the run. -/
def toError (fault : ConfigFault) : Error :=
  .config fault.message

/-- The fault of the text of a file as an error of the run. -/
def inFile (fault : ConfigFault) (p : Path) : Error :=
  .config s!"{p.text}: {fault.toError.message}"

end ConfigFault

namespace Config

/-- The least width that a configuration may ask for. -/
def leastLineWidth : Nat := 20

/-- The greatest number of spaces that a level may have. -/
def greatestIndent : Nat := 8

/-- The fault of a profile with a key, if it cannot select anything. -/
def profileFault? (entry : String × Profile) : Option ConfigFault :=
  match entry.2.check with
  | .ok () => none
  | .error fault => some (.profile entry.1 fault)

/-- The first setting that is out of range. The number of spaces is not looked at if there are tabs,
and profiles are looked at in the order of their keys. -/
def fault? (c : Config) : Option ConfigFault :=
  if c.patterns.all Text.isBlankText then some .noPatterns
  else if c.lineWidth < leastLineWidth then some (.lineTooNarrow c.lineWidth)
  else if !c.useTabs && (c.indentWidth < 1 || greatestIndent < c.indentWidth) then
    some (.indentOutOfRange c.indentWidth)
  else c.profiles.toList.findSome? profileFault?

/-- Refuses settings that are out of range. -/
def check (c : Config) : Except ConfigFault Unit :=
  match c.fault? with
  | some fault => .error fault
  | none => .ok ()

/-- How a level is indented. -/
def indent (c : Config) : Indent :=
  if c.useTabs then .tabs else .spaces c.indentWidth

/-- How source text is laid out. -/
def options (c : Config) : Options where
  includeDocs := c.includeDocs
  lineWidth := c.lineWidth
  indent := c.indent
  package := some c.javaPackage

/-- The type table of a language. -/
def types (c : Config) (language : Language) : TypeTable :=
  match c.overrides.get? language.name with
  | some o => language.types.override o
  | none => language.types

/-- Where the source text of a language is written. -/
def languageDirectory (c : Config) (language : Language) : Path :=
  if c.perLanguageDirectories then c.directory.join ⟨language.name⟩ else c.directory

end Config

end CimSchema
