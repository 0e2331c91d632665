import CimSchema.Rdf.Frame

/-!
# The statements of a document

## Main definitions

* `Reader` - what is known of a document up to some place.
* `Reader.take?` - takes in one token.
* `statements?` - the statements of a document, in the order in which they are made.
-/

namespace CimSchema.Rdf

/-- What is known of a document up to some place. -/
structure Reader where
  entities : Xml.Entities := []
  /-- The identifiers used so far, each of which may be used once. -/
  ids : List String := []
  /-- The number of blank nodes without a label. -/
  blanks : Nat := 0
  /-- The statements, the latest first. -/
  statements : List Statement := []
  /-- The open elements, the innermost first. -/
  frames : List Frame

namespace Reader

/-- Makes statements; of those that one token makes, the last one comes first. -/
def state (r : Reader) (made : List Statement) : Reader :=
  { r with statements := made ++ r.statements }

/-- A blank node that is used nowhere else. -/
def fresh (r : Reader) : Node × Reader :=
  (.anonymous r.blanks, { r with blanks := r.blanks + 1 })

/-- Opens an element. -/
def push (r : Reader) (scope : Scope) (content : Content) : Reader :=
  { r with frames := ⟨scope, content⟩ :: r.frames }

/-- Notes that an identifier is used. -/
def useId? (r : Reader) : Option String → Option Reader
  | none => some r
  | some id => if r.ids.contains id then none else some { r with ids := id :: r.ids }

/-- The statements that the attributes of a tag make about a node. -/
def stated (t : Tag) (subject : Node) : List Statement :=
  t.values.map (fun (predicate, value) => ⟨subject, predicate, .literal value⟩)
    ++ t.type.toList.map fun type => ⟨subject, rdf "type", .node (.iri type)⟩

/-- Opens an element about a node. -/
def openNode? (r : Reader) (scope : Scope) (t : Tag) : Option Reader := do
  if reservedElements.contains t.name || (Iri.parse? t.name).isNone then none
  else
    let (subject, r) ← match t.id, t.nodeId, t.about with
      | some id, none, none => some (Node.iri id, r)
      | none, some label, none => some (.labelled label, r)
      | none, none, some about => some (.iri about, r)
      | none, none, none => some r.fresh
      | _, _, _ => none
    let typed : List Statement :=
      if t.name = rdf "Description" then [] else [⟨subject, rdf "type", .node (.iri t.name)⟩]
    return (r.state (stated t subject ++ typed)).push scope (.node subject 0)

/-- The object that a tag of a property names or states values about, if any. -/
def objectOf? (r : Reader) (t : Tag) : Option (Option Node × Reader) :=
  match t.resource, t.nodeId with
  | some _, some _ => none
  | some iri, none => some (some (.iri iri), r)
  | none, some label => some (some (.labelled label), r)
  | none, none =>
    if t.values.isEmpty then some (none, r)
    else
      let (node, r) := r.fresh
      some (some node, r)

/-- Opens an element about a property of `subject`. -/
def openProperty? (r : Reader) (scope : Scope) (t : Tag) (subject : Node) (predicate : String) :
    Option Reader := do
  if reservedElements.contains predicate || predicate = rdf "Description"
      || (Iri.parse? predicate).isNone then none
  else
    let p : Property := ⟨subject, predicate, t.id⟩
    match t.form with
    | .plain =>
      let (object, r) ← r.objectOf? t
      let made := match object with
        | some node => stated t node
        | none => []
      return (r.state made).push scope (.property p (object.map .node))
    | .collection => return r.push scope (.collection p [])
    | .literal => return r.push scope (.literal (some p) [] 0)
    | .unknown => return r.push scope (.literal none [] 0)
    | .resource =>
      let (node, r) := r.fresh
      return (r.state (p.statements (.node node))).push scope (.resource node)

/-- Opens an element within `frame`, whose siblings are the outer elements `rest`. -/
def openElement? (r : Reader) (frame : Frame) (rest : List Frame) (name : List Char)
    (attributes : List Xml.Attribute) : Option Reader := do
  let bindings ← frame.scope.bindings.declare attributes
  match frame.content with
  | .literal p text depth =>
    let tag := startTagText bindings name attributes (depth = 0)
    return { r with frames := { frame with content := .literal p (text ++ tag) (depth + 1) } :: rest }
  | content =>
    let scope ← { frame.scope with bindings }.enter? r.entities attributes
    let t ← Tag.read? scope r.entities name attributes
    let r ← r.useId? t.id
    match content with
    | .document => if t.name = rdf "RDF" then return r.push scope .root else r.openNode? scope t
    | .root | .property _ _ | .collection _ _ => r.openNode? scope t
    | .resource subject => r.openProperty? scope t subject t.name
    | .node subject items =>
      if t.name = rdf "li" then
        let r := { r with frames := { frame with content := .node subject (items + 1) } :: rest }
        r.openProperty? scope t subject (rdf s!"_{items + 1}")
      else r.openProperty? scope t subject t.name
    | .literal _ _ _ => none

/-- Notes in the element around a node that the node has been read. -/
def giveNode? (r : Reader) (subject : Node) : Option Reader :=
  match r.frames with
  | [] => some r
  | frame :: rest =>
    match frame.content with
    | .property p object =>
      if isSettled object then none
      else
        some { r with frames := { frame with content := .property p (some (.node subject)) } :: rest }
    | .collection p items =>
      some { r with frames := { frame with content := .collection p (items ++ [subject]) } :: rest }
    | _ => some r

/-- Ends the innermost element. -/
def close? (r : Reader) : Option Reader :=
  match r.frames with
  | [] => none
  | frame :: rest =>
    let r := { r with frames := rest }
    match frame.content with
    | .document => none
    | .root | .resource _ => some r
    | .node subject _ => r.giveNode? subject
    | .property p object => some (r.state (p.statements (object.getD (.literal ""))))
    | .collection p items =>
      let (made, list) := listStatements r.blanks items
      some ({ r with blanks := r.blanks + items.length }.state
        (made ++ p.statements (.node list)))
    | .literal (some p) text _ =>
      if text.isEmpty then none
      else some (r.state (p.statements (.literal (String.ofList text))))
    | .literal none _ _ => some r

/-- Ends an element with the name `name`. -/
def endElement? (r : Reader) (name : List Char) : Option Reader :=
  match r.frames with
  | ⟨scope, .literal p text (depth + 1)⟩ :: rest =>
    let text := text ++ "</".toList ++ name ++ ['>']
    some { r with frames := ⟨scope, .literal p text depth⟩ :: rest }
  | _ => r.close?

/-- Takes in text, which `isBlank` says to be nothing but blanks as it is written. -/
def takeText? (r : Reader) (content : List Char) (isBlank : Bool) : Option Reader :=
  match r.frames with
  | [] => none
  | frame :: rest =>
    match frame.content with
    | .property p object =>
      if isSettled object then if content.all Text.isBlank then some r else none
      else
        let text := Term.literal (String.ofList content)
        some { r with frames := { frame with content := .property p (some text) } :: rest }
    | .literal p text depth =>
      some { r with
        frames := { frame with content := .literal p (text ++ Xml.escape content) depth } :: rest }
    | _ => if isBlank then some r else none

/-- The names of the encoding that documents are read in. -/
def knownEncodings : List String :=
  ["unicode-1-1-utf-8", "unicode11utf8", "unicode20utf8", "utf-8", "utf8", "x-unicode20utf8"]

/-- Whether an instruction does not declare another encoding. -/
def allowsInstruction (content : List Char) : Bool :=
  match "xml".toList.isPrefixOf? content with
  | none => true
  | some rest =>
    if (rest.head?.map Xml.isBlank).getD true then
      let (attributes, isComplete) := Xml.attributes rest
      match attributes.find? (·.name = "encoding".toList) with
      | some a => knownEncodings.contains (Text.asciiLower (String.ofList a.value))
      | none => isComplete
    else true

/-- Takes in one token. -/
def take? (r : Reader) : Xml.Token → Option Reader
  | .element name attributesText isEmpty => do
    let (attributes, isComplete) := Xml.attributes attributesText
    match r.frames with
    | [] => none
    | frame :: rest =>
      if !isComplete || !(attributes.map (·.name)).Nodup then none
      else
        let r ← r.openElement? frame rest name attributes
        if isEmpty then r.endElement? name else some r
  | .endTag name => r.endElement? name
  | .text content => do r.takeText? (← Xml.expand r.entities content) (content.all Xml.isBlank)
  | .characterData content => r.takeText? content (content.all Xml.isBlank)
  | .comment => some r
  | .instruction content => if allowsInstruction content then some r else none
  | .documentType content => do return { r with entities := ← Xml.entitiesOf? r.entities content }

end Reader

/-- The statements of a document with the base `base`, in the order in which they are made. -/
def statements? (base : Iri) (ts : List Xml.Token) (ending : Xml.Ending) :
    Option (List Statement) := do
  if ending ≠ .complete then none
  else
    let r ← ts.foldlM Reader.take? { frames := [⟨{ base }, .document⟩] }
    return r.statements.reverse

end CimSchema.Rdf
