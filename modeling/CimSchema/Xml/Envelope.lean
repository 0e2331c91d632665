import CimSchema.Xml.Namespace

/-!
# The envelope of a document

Before a document is read, its markup is checked leniently: tags have to match, and the outermost
element has to be the expected one.

## Main definitions

* `EnvelopeFault` - what is wrong with the markup.
* `checkEnvelope` - finds the first fault.
-/

namespace CimSchema.Xml

/-- What is wrong with the markup of a document. -/
inductive EnvelopeFault where
  | illFormed
  /-- The outermost element is not the expected one; its name as it is written. -/
  | unexpectedRoot (name : String)
  | noRoot
  /-- The document ends within an element. -/
  | unclosed
  deriving DecidableEq, Repr

/-- What is known of a document up to some place. -/
structure Envelope where
  hasRoot : Bool := false
  /-- The names of the elements that are still open, the innermost first. -/
  openNames : List (List Char) := []

namespace Envelope

/-- Takes in the tag of an element; a first one has to be in the namespace `uri` and have the local
name `name`. -/
def element (uri name : List Char) (e : Envelope) (tag attributesText : List Char) :
    Except EnvelopeFault Envelope :=
  match Bindings.standard.declare (attributes attributesText).1 with
  | none => .error .illFormed
  | some bindings =>
    if e.hasRoot || bindings.resolve? tag true = some (uri, name) then
      .ok { e with hasRoot := true }
    else .error (.unexpectedRoot (String.ofList tag))

/-- Takes in a token. -/
def take (uri name : List Char) (e : Envelope) : Token → Except EnvelopeFault Envelope
  | .element tag attributesText isEmpty => do
    let e ← e.element uri name tag attributesText
    return if isEmpty then e else { e with openNames := tag :: e.openNames }
  | .endTag tag =>
    match e.openNames with
    | [] => .error .illFormed
    | innermost :: rest =>
      if tag = innermost then .ok { e with openNames := rest } else .error .illFormed
  | _ => .ok e

end Envelope

/-- Finds the first fault of a document whose outermost element has to be in the namespace `uri`
and have the local name `name`. -/
def checkEnvelope (uri name : String) (ts : List Token) (ending : Ending) :
    Except EnvelopeFault Unit := do
  let e ← ts.foldlM (Envelope.take uri.toList name.toList) {}
  if ending = .faulty then throw .illFormed
  if !e.hasRoot then throw .noRoot
  if !e.openNames.isEmpty then throw .unclosed

end CimSchema.Xml
