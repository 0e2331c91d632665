import CimSchema.FirstSeen
import CimSchema.Rdf.Statement
import CimSchema.Text.Segment

/-!
# Statements by subject

What a document states of one subject is brought together, wherever it stands. A blank node with a
literal value only carries that value.

## Main definitions

* `localName` - the last part of an IRI.
* `Description` - what is stated of one subject.
* `describe` - the descriptions of all subjects, in order of first appearance.
* `descriptions` - the same, with the values in the place of the blank nodes that carry them.
-/

namespace CimSchema.Rdf

/-- The last part of an IRI: what follows its last `#`, or else its last slash. -/
def localName (iri : String) : String :=
  match Text.splitLast? "#" iri with
  | some (_, fragment) => fragment
  | none => Text.afterLast "/" iri

/-- What is stated of one subject. -/
structure Description where
  subject : Node
  /-- The IRIs of the subject's types. -/
  types : List String := []
  /-- Predicates and objects, other than types. -/
  values : List (String × Term) := []
  deriving DecidableEq, Repr

/-- The text of an object that is no blank node. -/
def Term.text? : Term → Option String
  | node (.iri text) | literal text => some text
  | _ => none

namespace Description

/-- Takes in a statement about the subject. -/
def add (d : Description) (s : Statement) : Description :=
  match s.object with
  | .node (.iri type) =>
    if s.predicate = rdf "type" then { d with types := d.types ++ [type] }
    else { d with values := d.values ++ [(s.predicate, s.object)] }
  | _ => { d with values := d.values ++ [(s.predicate, s.object)] }

/-- The text of the first object of a predicate that is no blank node. -/
def first? (d : Description) (predicate : String) : Option String :=
  d.values.findSome? fun (p, object) => if p = predicate then object.text? else none

/-- The local name of the first object of a predicate that is no blank node. -/
def firstLocal? (d : Description) (predicate : String) : Option String :=
  (d.first? predicate).map localName

end Description

/-- The descriptions of all subjects, in order of first appearance. -/
def describe (ss : List Statement) : FirstSeen Node Description :=
  ss.foldl (fun t s => t.upsert s.subject { subject := s.subject } (·.add s)) {}

/-- The value that a blank node carries. -/
def carried? (t : FirstSeen Node Description) (n : Node) : Option String :=
  if n.isBlank then (t.get? n).bind (·.first? (rdfs "Literal")) else none

/-- An object, or the value that it carries. -/
def Term.carry (t : FirstSeen Node Description) : Term → Term
  | node n =>
    match carried? t n with
    | some text => literal text
    | none => node n
  | object => object

/-- The description of each subject, in order of first appearance, with values in the place of the
blank nodes that carry them. -/
def descriptions (ss : List Statement) : List Description :=
  let t := describe ss
  t.values.map fun d => { d with values := d.values.map fun (p, object) => (p, object.carry t) }

end CimSchema.Rdf
