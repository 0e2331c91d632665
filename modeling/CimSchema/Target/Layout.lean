import CimSchema.Text.Wrap

/-!
# Indentation, documentation lines and files

## Main definitions

* `Indent` - spaces or tabs.
* `Options` - how source text is laid out.
* `documentation` - a text as indented and wrapped lines.
* `SourceFile` - a file of a language directory.
-/

namespace CimSchema

/-- How one level is indented. -/
inductive Indent where
  | spaces (count : Nat)
  | tabs
  deriving DecidableEq, Repr

namespace Indent

/-- The indentation of a level. -/
def level : Indent → Nat → String
  | spaces count, n => String.ofList (List.replicate (count * n) ' ')
  | tabs, n => String.ofList (List.replicate n '\t')

/-- The visible width of a level; a tab counts as four columns. -/
def width : Indent → Nat → Nat
  | spaces count, n => count * n
  | tabs, n => 4 * n

end Indent

/-- How source text is laid out. -/
structure Options where
  /-- Whether documentation is written. -/
  includeDocs : Bool := true
  /-- The width that documentation is wrapped to. -/
  lineWidth : Nat := 80
  indent : Indent := .spaces 4
  /-- The package of generated classes, where the language has packages. -/
  package : Option String := none
  deriving DecidableEq, Repr

/-- The least width that documentation is wrapped to, however deep it stands. -/
def leastWidth : Nat := 20

/-- A text as lines that start with the indentation of a level and `lead`, wrapped to
`lineWidth`. -/
def documentation (text lead : String) (indent : Indent) (level lineWidth : Nat) : List String :=
  let used := indent.width level + lead.utf8ByteSize
  (Text.wrap (max (lineWidth - used) leastWidth) text).map fun line =>
    indent.level level ++ lead ++ line

/-- The text of some lines, each with its line end. -/
def linesText (lines : List String) : String :=
  String.join (lines.map (· ++ "\n"))

/-- A file of a language directory. -/
structure SourceFile where
  filename : String
  content : String
  deriving DecidableEq, Repr

end CimSchema
