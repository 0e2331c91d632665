import CimSchema.Rdf.Tag

/-!
# Elements that are being read

Elements about nodes and elements about properties take turns. While an element is open, a frame
holds what is known of it.

## Main definitions

* `Property` - a property whose object is being read.
* `Content`, `Frame` - what is known of an open element.
* `Property.statements` - the statements that a property makes once its object is known.
-/

namespace CimSchema.Rdf

/-- A property whose object is being read. -/
structure Property where
  subject : Node
  predicate : String
  /-- The IRI by which the statement itself can be spoken about. -/
  id : Option String := none
  deriving DecidableEq, Repr

/-- What is known of an open element. -/
inductive Content where
  /-- The document itself. -/
  | document
  /-- The element that holds all others. -/
  | root
  /-- An element about a node, with the number of its list items so far. -/
  | node (subject : Node) (items : Nat)
  /-- A property, with its object as far as it is known. -/
  | property (p : Property) (object : Option Term)
  /-- A property whose content is about its object. -/
  | resource (object : Node)
  /-- A property with a list of nodes. -/
  | collection (p : Property) (items : List Node)
  /-- A property whose content is the value: the text of the content and the number of open
  elements in it. Without a property, the content means nothing. -/
  | literal (p : Option Property) (text : List Char) (depth : Nat)
  deriving DecidableEq, Repr

/-- An open element, and what is in force within it. -/
structure Frame where
  scope : Scope
  content : Content

/-- Whether the object of a property is settled; blank text does not settle it. -/
def isSettled : Option Term → Bool
  | none => false
  | some (.node _) => true
  | some (.literal text) => !text.toList.all Xml.isBlank

namespace Property

/-- The statement that a property makes with an object, and before it, the statements about this
statement. -/
def statements (p : Property) (object : Term) : List Statement :=
  let about := match p.id with
    | none => []
    | some id =>
      [⟨.iri id, rdf "type", .node (.iri (rdf "Statement"))⟩,
        ⟨.iri id, rdf "subject", .node p.subject⟩,
        ⟨.iri id, rdf "predicate", .node (.iri p.predicate)⟩, ⟨.iri id, rdf "object", object⟩]
  about ++ [⟨p.subject, p.predicate, object⟩]

end Property

/-- The statements that a list of nodes makes, where blank nodes from `number` on stand for its
places, and the node that stands for the list. -/
def listStatements (number : Nat) : List Node → List Statement × Node
  | [] => ([], .iri (rdf "nil"))
  | item :: rest =>
    let (statements, tail) := listStatements (number + 1) rest
    (statements ++ [⟨.anonymous number, rdf "first", .node item⟩,
      ⟨.anonymous number, rdf "rest", .node tail⟩], .anonymous number)

/-- The declaration of a prefix as an attribute. -/
def prefixText (pre uri : List Char) : List Char :=
  " xmlns".toList ++ (if pre.isEmpty then [] else ':' :: pre) ++ "=\"".toList ++ uri ++ ['"']

/-- The start tag of an element within a literal value. An outermost element declares all prefixes
that are in force. -/
def startTagText (bindings : Xml.Bindings) (name : List Char) (attributes : List Xml.Attribute)
    (isOutermost : Bool) : List Char :=
  let own := attributes.flatMap fun a => ' ' :: a.name ++ "=\"".toList ++ a.value ++ ['"']
  let declared := attributes.filterMap Xml.Bindings.declared?
  let inherited := bindings.inForce.filter fun (pre, uri) =>
    !(Xml.Bindings.standard.map Prod.fst).contains pre && !declared.contains pre && !uri.isEmpty
  '<' :: name ++ own
    ++ (if isOutermost then inherited.flatMap fun (pre, uri) => prefixText pre uri else []) ++ ['>']

end CimSchema.Rdf
