import CimSchema.Iri
import CimSchema.LanguageTag
import CimSchema.Rdf.Statement
import CimSchema.Xml.Namespace

/-!
# Tags of statements

The tag of an element tells what the element is about. Some of its attributes have a meaning of
their own, all others state values.

## Main definitions

* `Scope` - what is in force within an element.
* `Form` - how the content of an element is to be read.
* `Tag` - the name of an element and the meaning of its attributes.
* `Tag.read?` - reads the tag of an element.
-/

namespace CimSchema.Rdf

/-- What is in force within an element. -/
structure Scope where
  bindings : Xml.Bindings := Xml.Bindings.standard
  /-- What references to resources are resolved against. -/
  base : Iri

/-- How the content of an element is to be read. -/
inductive Form where
  | plain
  | collection
  /-- As markup that is the value. -/
  | literal
  | resource
  /-- As markup that means nothing. -/
  | unknown
  deriving DecidableEq, Repr

/-- The form with a name. -/
def Form.ofName (name : List Char) : Form :=
  if name = "Collection".toList then collection
  else if name = "Literal".toList then literal
  else if name = "Resource".toList then resource
  else unknown

/-- An element's name and the meaning of its attributes. -/
structure Tag where
  /-- The IRI that the name stands for. -/
  name : String := ""
  /-- The IRI that an identifier in the document makes up. -/
  id : Option String := none
  /-- The label of a blank node. -/
  nodeId : Option String := none
  /-- What the element is about. -/
  about : Option String := none
  /-- What the element leads to. -/
  resource : Option String := none
  type : Option String := none
  form : Form := .plain
  /-- The values that are stated, with their predicates. -/
  values : List (String × String) := []

/-- The characters that may start a name, other than a colon. -/
def isNameStart (c : Char) : Bool :=
  let n := c.toNat
  c.isAlpha || c = '_' || (0xC0 ≤ n && n ≤ 0x2FF && n != 0xD7 && n != 0xF7)
    || (0x370 ≤ n && n ≤ 0x1FFF && n != 0x37E) || n = 0x200C || n = 0x200D
    || (0x2070 ≤ n && n ≤ 0x218F) || (0x2C00 ≤ n && n ≤ 0x2FEF) || (0x3001 ≤ n && n ≤ 0xD7FF)
    || (0xF900 ≤ n && n ≤ 0xFDCF) || (0xFDF0 ≤ n && n ≤ 0xFFFD) || (0x10000 ≤ n && n ≤ 0xEFFFF)

/-- The characters that may stand in a name, other than a colon. -/
def isNameChar (c : Char) : Bool :=
  let n := c.toNat
  isNameStart c || c = '-' || c = '.' || c.isDigit || n = 0xB7 || (0x300 ≤ n && n ≤ 0x36F)
    || n = 0x203F || n = 0x2040

/-- Whether a text is a name without a colon. -/
def isName : List Char → Bool
  | [] => false
  | c :: cs => isNameStart c && cs.all isNameChar

/-- Terms that no element may have as its name. -/
def reservedElements : List String :=
  ["about", "aboutEach", "aboutEachPrefix", "bagID", "datatype", "ID", "li", "nodeID",
    "parseType", "RDF", "resource"].map rdf

/-- Terms that no attribute may have as its name. -/
def reservedAttributes : List String :=
  ["aboutEach", "aboutEachPrefix", "li", "Description", "RDF"].map rdf

namespace Scope

/-- The IRI that a name stands for. -/
def expandName? (s : Scope) (entities : Xml.Entities) (name : List Char) (isElement : Bool) :
    Option String := do
  let (uri, rest) ← s.bindings.resolve? name isElement
  return String.ofList (← Xml.expand entities (uri ++ rest))

/-- Takes in the attributes that change the language and the base. -/
def enter? (s : Scope) (entities : Xml.Entities) (attributes : List Xml.Attribute) :
    Option Scope :=
  attributes.foldlM (fun s a => do
    if a.name = "xml:lang".toList then
      let language ← Xml.expand entities a.value
      if isLanguageTag (String.ofList language) then some s else none
    else if a.name = "xml:base".toList then
      let base ← Xml.expand entities a.value
      return { s with base := ← Iri.parse? (String.ofList base) }
    else some s) s

end Scope

namespace Tag

/-- Takes in an attribute whose name stands for the IRI `name`. -/
def take? (s : Scope) (t : Tag) (name : String) (value : List Char) : Option Tag := do
  let text := String.ofList value
  if name = rdf "ID" then
    if isName value then return { t with id := ← s.base.resolveText? ("#" ++ text) } else none
  else if name = rdf "bagID" then if isName value then some t else none
  else if name = rdf "nodeID" then
    if isName value then some { t with nodeId := some text } else none
  else if name = rdf "about" then return { t with about := ← s.base.resolveText? text }
  else if name = rdf "resource" then return { t with resource := ← s.base.resolveText? text }
  else if name = rdf "datatype" then (s.base.resolveText? text).map fun _ => t
  else if name = rdf "type" then return { t with type := ← s.base.resolveText? text }
  else if reservedAttributes.contains name || (Iri.parse? name).isNone then none
  else some { t with values := t.values ++ [(name, text)] }

/-- Takes in an attribute. Those whose names start with `xml` mean nothing here. -/
def takeAttribute? (s : Scope) (entities : Xml.Entities) (t : Tag) (a : Xml.Attribute) :
    Option Tag := do
  if "xml".toList.isPrefixOf a.name then some t
  else
    let name ← s.expandName? entities a.name false
    if name = rdf "parseType" then some { t with form := .ofName a.value }
    else t.take? s name (← Xml.expand entities a.value)

/-- Reads the tag of an element; `s` is what is in force within it. -/
def read? (s : Scope) (entities : Xml.Entities) (name : List Char)
    (attributes : List Xml.Attribute) : Option Tag := do
  let name ← s.expandName? entities name true
  attributes.foldlM (takeAttribute? s entities) { name }

end Tag

end CimSchema.Rdf
