import CimSchema.Name.Map
import CimSchema.Yaml.Node

/-!
# Values of the nodes of a YAML text

A node is read as what is expected of it: the text `80` is a number where a number is expected and a
text where a text is. A collection that is left out is empty.

## Main definitions

* `Node.text?`, `Node.bool?`, `Node.natural?` - the value of a scalar.
* `Node.nullable?`, `Node.list?`, `Node.map?` - optional values and collections.
* `Fields` - the fields of a record, and `Fields.get?`, the value of one of them.
-/

namespace CimSchema.Yaml

/-- The tag that the standard gives a type of scalars. -/
def standardTag (type : String) : Option String :=
  some ("tag:yaml.org,2002:" ++ type)

/-- Whether a scalar may be other than a text: it is written plainly, or as a literal block with the
tag of its type. -/
def mayHaveType (type : String) (style : ScalarStyle) (tag : Option String) : Bool :=
  style = .plain || (style = .literal && tag = standardTag type)

/-- The greatest number that is read. -/
def greatestNatural : Nat := 0xFFFFFFFFFFFFFFFF

/-- The number that digits of a base make up. -/
def digits? (base : Nat) (cs : List Char) : Option Nat := do
  if cs.isEmpty then failure
  let n ← cs.foldlM (fun n c => do
    let d ← hexValue? [c]
    if d < base then some (n * base + d) else none) 0
  if n ≤ greatestNatural then some n else none

/-- The number after a plus sign, if there is one. Decimal digits do not start with a zero that could
be left out. -/
def naturalText? (cs : List Char) : Option Nat :=
  let cs := match cs with
    | '+' :: rest => rest
    | _ => cs
  match cs with
  | '0' :: 'x' :: rest => digits? 16 rest
  | '0' :: 'o' :: rest => digits? 8 rest
  | '0' :: 'b' :: rest => digits? 2 rest
  | '0' :: _ :: _ => none
  | _ => digits? 10 cs

/-- Whether a text stands for no value. -/
def isNullText (s : String) : Bool :=
  s = "~" || s = "null" || s = "Null" || s = "NULL"

namespace Node

/-- The text of a scalar. -/
def text? : Node → Option String
  | scalar text _ _ => some text
  | _ => none

/-- The value of a scalar that stands for a Boolean. -/
def bool? : Node → Option Bool
  | scalar text style tag =>
    if !mayHaveType "bool" style tag then none
    else if text = "true" || text = "True" || text = "TRUE" then some true
    else if text = "false" || text = "False" || text = "FALSE" then some false
    else none
  | _ => none

/-- The value of a scalar that stands for a number. -/
def natural? : Node → Option Nat
  | scalar text style tag => if mayHaveType "int" style tag then naturalText? text.toList else none
  | _ => none

/-- Whether a node is left out. -/
def isLeftOut : Node → Bool
  | scalar text style _ => style = .plain && text.isEmpty
  | _ => false

/-- A value read by `f`, or nothing if the node stands for no value. -/
def nullable? {α : Type} (f : Node → Option α) (n : Node) : Option (Option α) :=
  match n with
  | scalar text .plain (some tag) =>
    if standardTag "null" = some tag then if isNullText text then some none else none
    else if text.isEmpty then some none
    else (f n).map some
  | scalar text .plain none =>
    if text.isEmpty || isNullText text then some none else (f n).map some
  | _ => (f n).map some

/-- The items of a sequence, each read by `f`. -/
def list? {α : Type} (f : Node → Option α) (n : Node) : Option (List α) :=
  match n with
  | sequence items => items.mapM f
  | _ => if n.isLeftOut then some [] else none

/-- The keys and values of a mapping. -/
def entries? (n : Node) : Option (List (String × Node)) :=
  match n with
  | mapping entries => entries.mapM fun (key, value) => do return (← key.text?, value)
  | _ => if n.isLeftOut then some [] else none

/-- A mapping whose values are read by `f`. Of several values of one key the last counts. -/
def map? {α : Type} (f : Node → Option α) (n : Node) : Option (NameMap α) := do
  return .ofList (← (← n.entries?).mapM fun (key, value) => do return (key, ← f value))

/-- A mapping of texts to texts. -/
def textMap? (n : Node) : Option (NameMap String) :=
  n.map? text?

end Node

/-- The fields of a record. -/
abbrev Fields := List (String × Node)

/-- The fields of a record, of which those in `known` are used; these may be given once. -/
def Node.fields? (known : List String) (n : Node) : Option Fields := do
  let fields := (← n.entries?).filter fun f => known.contains f.1
  if (fields.map Prod.fst).Nodup then some fields else none

namespace Fields

/-- The value of a field, read by `f`, or a default if it is not given. -/
def get? {α : Type} (fields : Fields) (name : String) (f : Node → Option α) (default : α) :
    Option α :=
  match fields.lookup name with
  | none => some default
  | some n => f n

/-- The value of a field that has to be given. -/
def required? {α : Type} (fields : Fields) (name : String) (f : Node → Option α) : Option α :=
  (fields.lookup name).bind f

end Fields

/-- The value that `f` reads from the document in a text. A text without a document is read like an
empty mapping. -/
def decode? {α : Type} (f : Node → Option α) (s : String) : Option α := do
  f ((← document? s).getD (.mapping []))

end CimSchema.Yaml
