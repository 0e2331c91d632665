import CimSchema.Yaml.Token

/-!
# The nodes of a YAML text

Tokens make up one tree of scalars, sequences and mappings. An alias stands for the node that was
given its name before.

## Main definitions

* `Node` - the tree.
* `Reader` - the tokens that are still to be read, and the names given so far.
* `document?` - the tree of a text; a text without a document has none.
-/

namespace CimSchema.Yaml

/-- A tree of values. -/
inductive Node where
  /-- A scalar, how it is written, and its tag. -/
  | scalar (text : String) (style : ScalarStyle) (tag : Option String)
  | sequence (items : List Node)
  | mapping (entries : List (Node × Node))
  deriving Repr, Inhabited

namespace Node

/-- What stands for a node that is left out. -/
def blank : Node := scalar "" .plain none

end Node

/-- What is left to be read, and what has been named. -/
structure Reader where
  tokens : List Token
  /-- The named nodes, the latest first. -/
  anchors : List (List Char × Node) := []
  /-- The handles of tags and what they stand for, the latest first. -/
  handles : List (List Char × List Char) := []

/-- A step of reading. -/
abbrev Read := StateT Reader Option

/-- The next token. -/
def peek : Read (Option Token) := do
  return (← get).tokens.head?

/-- Goes on to the token after the next. -/
def drop : Read Unit :=
  modify fun r => { r with tokens := r.tokens.tail }

/-- Goes on if `t` is the next token, and tells whether it is. -/
def take (t : Token) : Read Bool := do
  if (← peek) = some t then
    drop
    return true
  else return false

/-- Goes on if the next token is `t`, and fails otherwise. -/
def require (t : Token) : Read Unit := do
  if !(← take t) then failure

/-- Whether the next token is one of `ts`. -/
def nextIsIn (ts : List Token) : Read Bool := do
  return (← peek).any ts.contains

/-- The tag that a handle and a suffix make up. -/
def resolveTag (handle suffix : List Char) : Read (Option String) := do
  if handle.isEmpty then return if suffix = ['!'] then none else some (String.ofList suffix)
  else
    let some start := (← get).handles.lookup handle | failure
    return some (String.ofList (start ++ suffix))

/-- The name and the tag that stand before a node, in any order. -/
structure Properties where
  anchor : Option (List Char) := none
  /-- A tag, which may turn out to mean nothing. -/
  tag : Option (Option String) := none

/-- Reads the name and the tag before a node. -/
def properties : Read Properties := do
  let step (p : Properties) : Read Properties := do
    match ← peek with
    | some (.anchor name) =>
      if p.anchor.isSome then return p
      else
        drop
        return { p with anchor := some name }
    | some (.tag handle suffix) =>
      if p.tag.isSome then return p
      else
        drop
        return { p with tag := some (← resolveTag handle suffix) }
    | _ => return p
  step (← step {})

/-- Gives a node its name, if there is one. -/
def name (p : Properties) (n : Node) : Read Node := do
  if let some anchor := p.anchor then
    modify fun r => { r with anchors := (anchor, n) :: r.anchors }
  return n

mutual

/-- Reads a node. Blocks are read only where `allowsBlock` holds, and a sequence without an
indentation of its own only where `allowsEntries` does. -/
def node (allowsBlock allowsEntries : Bool) : Nat → Read Node
  | 0 => failure
  | fuel + 1 => do
    if let some (.alias name) ← peek then
      drop
      let some n := (← get).anchors.lookup name | failure
      return n
    let p ← properties
    match ← peek with
    | some .blockEntry =>
      if allowsEntries then name p (.sequence (← bareEntries fuel)) else content p failure
    | some (.scalar text style) =>
      drop
      name p (.scalar (String.ofList text) style (p.tag.getD none))
    | some .flowSequenceStart =>
      drop
      name p (.sequence (← flowItems true fuel))
    | some .flowMappingStart =>
      drop
      name p (.mapping (← flowEntries true fuel))
    | some .blockSequenceStart =>
      if allowsBlock then
        drop
        name p (.sequence (← blockItems fuel))
      else content p failure
    | some .blockMappingStart =>
      if allowsBlock then
        drop
        name p (.mapping (← blockEntries fuel))
      else content p failure
    | _ => content p failure
where
  /-- The node of properties without content. -/
  content (p : Properties) (otherwise : Read Node) : Read Node :=
    if p.anchor.isSome || p.tag.isSome then name p (.scalar "" .plain (p.tag.getD none))
    else otherwise

/-- Reads a node unless one of `ends` comes next, where the node is left out. -/
def nodeUnless (ends : List Token) (isBlock allowsEntries : Bool) : Nat → Read Node
  | 0 => failure
  | fuel + 1 => do
    if ← nextIsIn ends then return .blank else node isBlock allowsEntries fuel

/-- Reads the entries of a sequence without an indentation of its own. -/
def bareEntries : Nat → Read (List Node)
  | 0 => failure
  | fuel + 1 => do
    if ← take .blockEntry then
      let item ← nodeUnless [.blockEntry, .key, .value, .blockEnd] true false fuel
      return item :: (← bareEntries fuel)
    else return []

/-- Reads the entries of a sequence up to its end. -/
def blockItems : Nat → Read (List Node)
  | 0 => failure
  | fuel + 1 => do
    if ← take .blockEntry then
      let item ← nodeUnless [.blockEntry, .blockEnd] true false fuel
      return item :: (← blockItems fuel)
    else
      require .blockEnd
      return []

/-- Reads the entries of a mapping up to its end. -/
def blockEntries : Nat → Read (List (Node × Node))
  | 0 => failure
  | fuel + 1 => do
    if ← take .key then
      let key ← nodeUnless [.key, .value, .blockEnd] true true fuel
      let value ← if ← take .value then nodeUnless [.key, .value, .blockEnd] true true fuel
        else pure .blank
      return (key, value) :: (← blockEntries fuel)
    else
      require .blockEnd
      return []

/-- Reads the items of a flow sequence up to its end. An item with a key is a mapping of its own. -/
def flowItems (isFirst : Bool) : Nat → Read (List Node)
  | 0 => failure
  | fuel + 1 => do
    if ← take .flowSequenceEnd then return []
    if !isFirst then require .flowEntry
    if ← take .flowSequenceEnd then return []
    if ← take .key then
      let key ← nodeUnless [.value, .flowEntry, .flowSequenceEnd] false false fuel
      let value ← if ← take .value then nodeUnless [.flowEntry, .flowSequenceEnd] false false fuel
        else pure .blank
      return .mapping [(key, value)] :: (← flowItems false fuel)
    else
      let item ← node false false fuel
      return item :: (← flowItems false fuel)

/-- Reads the entries of a flow mapping up to its end. -/
def flowEntries (isFirst : Bool) : Nat → Read (List (Node × Node))
  | 0 => failure
  | fuel + 1 => do
    if ← take .flowMappingEnd then return []
    if !isFirst then require .flowEntry
    if ← take .flowMappingEnd then return []
    if ← take .key then
      let key ← nodeUnless [.value, .flowEntry, .flowMappingEnd] false false fuel
      let value ← if ← take .value then nodeUnless [.flowEntry, .flowMappingEnd] false false fuel
        else pure .blank
      return (key, value) :: (← flowEntries false fuel)
    else
      let key ← node false false fuel
      return (key, .blank) :: (← flowEntries false fuel)

end

/-- The handles that need no directive. -/
def standardHandles : List (List Char × List Char) :=
  [("!".toList, "!".toList), ("!!".toList, "tag:yaml.org,2002:".toList)]

/-- Reads the directives of a document. A version and a handle may be stated once. -/
def directives : Nat → Bool → List (List Char × List Char) → Read (List (List Char × List Char))
  | 0, _, _ => failure
  | fuel + 1, hasVersion, handles => do
    match ← peek with
    | some (.version major minor) =>
      drop
      if hasVersion || major ≠ ['1'] || !(minor = ['1'] || minor = ['2']) then failure
      else directives fuel true handles
    | some (.tagHandle handle start) =>
      drop
      if (handles.lookup handle).isSome then failure
      else directives fuel hasVersion ((handle, start) :: handles)
    | _ => return handles

/-- Reads the document at the start of a text, if there is one. Directives need a mark of the
document's start. -/
def document : Nat → Read (Option Node)
  | fuel => do
    match ← peek with
    | none => return none
    | some t =>
      let isMarked := match t with
        | .version _ _ | .tagHandle _ _ | .documentStart => true
        | _ => false
      let handles ← directives fuel false []
      modify fun r => { r with handles := handles ++ standardHandles }
      if isMarked then
        require .documentStart
        match ← peek with
        | none | some .documentStart | some .documentEnd | some (.version _ _)
        | some (.tagHandle _ _) => return some .blank
        | _ => return some (← node true false fuel)
      else return some (← node true false fuel)

/-- Whether nothing but marks of a document's end is left. -/
def isOver (ts : List Token) : Bool :=
  ts.all (· = .documentEnd)

/-- The tree of a text with at most one document. -/
def document? (s : String) : Option (Option Node) := do
  let ts ← tokens? s
  let (n, r) ← document (4 * ts.length + 4) { tokens := ts }
  if isOver r.tokens then return n else none

end CimSchema.Yaml
