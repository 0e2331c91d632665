import CimSchema.Load.Document
import CimSchema.Rdf.Reader
import CimSchema.Xml.Envelope

/-!
# Documents made of text

## Main definitions

* `Document.ofText` - the document that the text of a schema file makes up.
-/

namespace CimSchema

/-- A text without the mark that tells the order of its bytes. -/
def withoutByteOrderMark (cs : List Char) : List Char :=
  match cs with
  | c :: rest => if c.toNat = 0xFEFF then rest else cs
  | [] => []

/-- The fault of a text of `bytes` bytes whose envelope has a fault. -/
def TextFault.ofEnvelope (bytes : Nat) : Xml.EnvelopeFault → TextFault
  | .illFormed => .illFormed
  | .unexpectedRoot name => .unexpectedRoot name
  | .noRoot => .noRoot
  | .unclosed => .unclosed bytes

/-- The statements of a text. -/
def statementsOf (o : LoadOptions) (content : String) : Except TextFault (List Rdf.Statement) := do
  let cs := withoutByteOrderMark content.toList
  let (ts, ending) := Xml.tokens cs
  (Xml.checkEnvelope Rdf.rdfNamespace "RDF" ts ending).mapError
    (.ofEnvelope (String.ofList cs).utf8ByteSize)
  let some base := Iri.parse? o.baseIri | throw (.invalidBase o.baseIri)
  let some ss := Rdf.statements? base ts ending | throw .noStatements
  return ss

/-- The document that the text of a schema file makes up. -/
def Document.ofText (o : LoadOptions) (source content : String) : Except LoadError Document := do
  let ss ← (statementsOf o content).mapError (.text source)
  Document.ofStatements o source ss

end CimSchema
