/-!
# Statements about resources

A statement links a subject to an object by a predicate. Subjects are resources that are named by an
IRI, or blank nodes that only one document knows. Objects may also be literal values.

## Main definitions

* `Node`, `Term`, `Statement` - the parts of statements.
* the namespaces of the vocabularies that schemas are written in.
-/

namespace CimSchema.Rdf

/-- What a resource is called. -/
inductive Node where
  | iri (text : String)
  /-- A blank node with a label of its own. -/
  | labelled (label : String)
  /-- A blank node without a label, by the number of those before it. -/
  | anonymous (number : Nat)
  deriving DecidableEq, Repr

/-- An object of a statement. Of a literal only its text is kept. -/
inductive Term where
  | node (node : Node)
  | literal (text : String)
  deriving DecidableEq, Repr

/-- Whether a node has no name outside of its document. -/
def Node.isBlank : Node → Bool
  | iri _ => false
  | _ => true

/-- A link from a subject to an object. -/
structure Statement where
  subject : Node
  predicate : String
  object : Term
  deriving DecidableEq, Repr

/-- The namespace of the terms that statements themselves need. -/
def rdfNamespace : String := "http://www.w3.org/1999/02/22-rdf-syntax-ns#"

/-- The namespace of classes and properties. -/
def rdfsNamespace : String := "http://www.w3.org/2000/01/rdf-schema#"

/-- The namespace of what schemas of energy systems add. -/
def cimsNamespace : String := "http://iec.ch/TC57/1999/rdf-schema-extensions-19990926#"

/-- The namespace of ontologies. -/
def owlNamespace : String := "http://www.w3.org/2002/07/owl#"

/-- The namespace of catalogues. -/
def dcatNamespace : String := "http://www.w3.org/ns/dcat#"

/-- The namespace of data types. -/
def xsdNamespace : String := "http://www.w3.org/2001/XMLSchema#"

/-- A term of the namespace of statements. -/
def rdf (name : String) : String := rdfNamespace ++ name

/-- A term of the namespace of classes and properties. -/
def rdfs (name : String) : String := rdfsNamespace ++ name

/-- A term of what schemas of energy systems add. -/
def cims (name : String) : String := cimsNamespace ++ name

/-- A term of the namespace of ontologies. -/
def owl (name : String) : String := owlNamespace ++ name

end CimSchema.Rdf
