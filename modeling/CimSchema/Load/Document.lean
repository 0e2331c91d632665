import CimSchema.Declaration
import CimSchema.Load.Error
import CimSchema.Rdf.Description
import CimSchema.Text.Blank

/-!
# Documents made of statements

Each subject of a schema file is a class, a property, a value of an enumeration or the head of the
file, or it means nothing.

## Main definitions

* `LoadOptions` - how texts are read.
* `Contribution` - what one subject adds to a document.
* `contribution` - what a description adds.
* `Document.ofStatements` - the document that some statements make up.
-/

namespace CimSchema

/-- How texts are read. -/
structure LoadOptions where
  /-- Whether blanks at the ends of texts are dropped. -/
  trimText : Bool := true
  /-- Whether texts are reduced to words with single spaces between. -/
  normalizeWhitespace : Bool := true
  /-- What references are resolved against. -/
  baseIri : String := "http://iec.ch/TC57/CIM100"
  deriving DecidableEq, Repr

/-- The primitive that stands for a data type of the standard vocabulary. -/
def standardPrimitive (name : String) : String :=
  if ["string", "normalizedString", "anyURI", "token"].contains name then "String"
  else if ["integer", "int", "long", "short", "nonNegativeInteger", "positiveInteger"].contains name
  then "Integer"
  else if name = "boolean" then "Boolean"
  else if name = "float" || name = "double" then "Float"
  else if name = "decimal" then "Decimal"
  else if name = "date" then "Date"
  else if name = "dateTime" then "DateTime"
  else if name = "time" then "Time"
  else if name = "gMonthDay" then "MonthDay"
  else if name = "duration" then "Duration"
  else name

/-- The type that an IRI refers to. -/
def typeReference (iri : String) : String :=
  match Text.stripStart? Rdf.xsdNamespace iri with
  | some name => standardPrimitive name
  | none => Rdf.localName iri

open Rdf

/-- What one subject adds to a document. -/
inductive Contribution where
  | nothing
  | declaration (d : Declaration)
  /-- The head of the file. -/
  | header (keyword version : Option String)
  deriving DecidableEq, Repr

/-- The text of a predicate, if it is not empty. -/
def textOf (o : LoadOptions) (d : Description) (predicate : String) : Option String :=
  let read (s : String) : String :=
    if o.normalizeWhitespace then Text.collapse s else if o.trimText then Text.trim s else s
  ((d.first? predicate).map read).filter (!·.isEmpty)

/-- The stereotypes of a subject. -/
def stereotypesOf (d : Description) : List String :=
  (d.values.filterMap fun (p, object) =>
    if p = cims "stereotype" then
      match object with
      | .node (.iri text) => some (localName text)
      | .literal text => some (Text.trim text)
      | .node _ => none
    else none).filter (!·.isEmpty)

/-- The class that a description declares. -/
def classOf (o : LoadOptions) (id : String) (d : Description) : ClassDeclaration :=
  { id
    label := textOf o d (rdfs "label")
    comment := textOf o d (rdfs "comment")
    superClass := d.firstLocal? (rdfs "subClassOf")
    stereotypes := stereotypesOf d
    package := d.firstLocal? (cims "belongsToCategory") }

/-- The property that a description declares. It needs a domain and a type. -/
def propertyOf (o : LoadOptions) (source id : String) (d : Description) :
    Except LoadError PropertyDeclaration := do
  let some domain := d.firstLocal? (rdfs "domain") | throw (.missing source id .domain)
  let range := (d.first? (rdfs "range")).map typeReference
  let dataType := (d.first? (cims "dataType")).map typeReference
  if range.isNone && dataType.isNone then throw (.missing source id .type)
  return {
    id
    label := textOf o d (rdfs "label")
    comment := textOf o d (rdfs "comment")
    domain
    range
    dataType
    multiplicity := d.firstLocal? (cims "multiplicity")
    inverseRole := d.firstLocal? (cims "inverseRoleName")
    associationUsed := (d.first? (cims "AssociationUsed")).map fun s =>
      Text.sameAscii (localName (Text.trim s)) "yes"
    fixed := (d.first? (cims "isFixed")).map Text.trim
    stereotypes := stereotypesOf d }

/-- The namespaces whose types make no subject a value of an enumeration. -/
def schemaNamespaces : List String :=
  [rdfNamespace, rdfsNamespace, owlNamespace, cimsNamespace]

/-- The value of an enumeration that a description declares: a subject with a type outside of the
namespaces of schemas. -/
def valueOf? (o : LoadOptions) (id : String) (d : Description) : Option ValueDeclaration :=
  (d.types.find? fun type => !schemaNamespaces.any (·.toList.isPrefixOf type.toList)).map fun type =>
    { id
      label := textOf o d (rdfs "label")
      comment := textOf o d (rdfs "comment")
      enumeration := localName type }

/-- What a description adds to a document. Blank nodes add nothing, and all other subjects need a
local name. -/
def contribution (o : LoadOptions) (source : String) (d : Description) :
    Except LoadError Contribution :=
  match d.subject with
  | .iri iri => do
    let id := localName iri
    if id.isEmpty then throw (.missing source s!"<{iri}>" .identifier)
    else if d.types.contains (rdfs "Class") then return .declaration (.cls (classOf o id d))
    else if d.types.contains (rdf "Property") then
      return .declaration (.property (← propertyOf o source id d))
    else if d.types.contains (owl "Ontology") then
      return .header (textOf o d (dcatNamespace ++ "keyword"))
        ((d.first? (owl "versionIRI") <|> d.first? (owl "versionInfo")).map Text.trim)
    else if d.types.contains (cims "ClassCategory") then return .nothing
    else return (valueOf? o id d).elim .nothing fun v => .declaration (.value v)
  | _ => .ok .nothing

namespace Document

/-- Takes in what a subject adds. The keyword of a file is that of its head, and else the fixed
value of a property `shortName`. -/
def add (doc : Document) : Contribution → Document
  | .nothing => doc
  | .declaration (.property p) =>
    { doc with
      keyword := doc.keyword <|> (if p.name = "shortName" then p.fixed else none)
      declarations := doc.declarations ++ [.property p] }
  | .declaration d => { doc with declarations := doc.declarations ++ [d] }
  | .header keyword version => { doc with keyword := keyword <|> doc.keyword, version }

/-- The document that some statements make up. -/
def ofStatements (o : LoadOptions) (source : String) (ss : List Statement) :
    Except LoadError Document := do
  let added ← (descriptions ss).mapM (contribution o source)
  return added.foldl add { source }

end Document

end CimSchema
