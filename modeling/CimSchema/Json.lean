/-!
# JSON values and their printed form

## Main definitions

* `Json` - values; the fields of an object are in order.
* `Json.pretty` - the printed form, with two spaces for each level.
* `Json.field?`, `Json.string?`, `Json.list?`, `Json.optional?` - looking into a value.
-/

namespace CimSchema

/-- A JSON value. -/
inductive Json where
  | null
  | bool (value : Bool)
  | number (value : Int)
  | string (value : String)
  | array (items : List Json)
  | object (fields : List (String × Json))
  deriving Repr, Inhabited

namespace Json

/-- One character as it stands in a string. Control characters without an escape of their own are
given by number. -/
def escapeChar (c : Char) : List Char :=
  if c = '"' then ['\\', '"']
  else if c = '\\' then ['\\', '\\']
  else if c = '\n' then ['\\', 'n']
  else if c = '\r' then ['\\', 'r']
  else if c = '\t' then ['\\', 't']
  else if c.toNat = 8 then ['\\', 'b']
  else if c.toNat = 12 then ['\\', 'f']
  else if c.toNat < 32 then
    ['\\', 'u', '0', '0', Nat.digitChar (c.toNat / 16), Nat.digitChar (c.toNat % 16)]
  else [c]

/-- A string with its quotes. -/
def quote (s : String) : String :=
  String.ofList ('"' :: (s.toList.flatMap escapeChar ++ ['"']))

/-- The start of a line at a level. -/
def newLine (level : Nat) : String :=
  "\n" ++ String.ofList (List.replicate (2 * level) ' ')

mutual

/-- A value as it is printed at a level. -/
def prettyAt (level : Nat) : Json → String
  | null => "null"
  | bool true => "true"
  | bool false => "false"
  | number n => toString n
  | string s => quote s
  | array [] => "[]"
  | array items => "[" ++ prettyItems (level + 1) items ++ newLine level ++ "]"
  | object [] => "\x7b\x7d"
  | object fields => "\x7b" ++ prettyFields (level + 1) fields ++ newLine level ++ "\x7d"

/-- The items of an array, each on a line of its own. -/
def prettyItems (level : Nat) : List Json → String
  | [] => ""
  | [j] => newLine level ++ prettyAt level j
  | j :: js => newLine level ++ prettyAt level j ++ "," ++ prettyItems level js

/-- The fields of an object, each on a line of its own. -/
def prettyFields (level : Nat) : List (String × Json) → String
  | [] => ""
  | [(name, j)] => newLine level ++ quote name ++ ": " ++ prettyAt level j
  | (name, j) :: fields =>
    newLine level ++ quote name ++ ": " ++ prettyAt level j ++ "," ++ prettyFields level fields

end

/-- The printed form of a value. -/
def pretty (j : Json) : String :=
  j.prettyAt 0

/-- The field `name` of an object. -/
def field? : Json → String → Option Json
  | object fields, name => fields.lookup name
  | _, _ => none

/-- The text of a string. -/
def string? : Json → Option String
  | string s => some s
  | _ => none

/-- The value of a Boolean. -/
def bool? : Json → Option Bool
  | bool b => some b
  | _ => none

/-- The items of an array, each read by `f`. -/
def list? {α : Type} (f : Json → Option α) : Json → Option (List α)
  | array items => items.mapM f
  | _ => none

/-- A value read by `f`, or nothing if it is `null`. -/
def nullable? {α : Type} (f : Json → Option α) : Json → Option (Option α)
  | null => some none
  | j => (f j).map some

/-- The field `name`, read by `f`; it may be `null` or missing. -/
def optional? {α : Type} (f : Json → Option α) (j : Json) (name : String) : Option (Option α) :=
  match j.field? name with
  | none => some none
  | some value => value.nullable? f

/-- A text, or `null` for none. -/
def ofOption : Option String → Json
  | none => null
  | some s => string s

/-- An array of strings. -/
def ofStrings (items : List String) : Json :=
  array (items.map string)

end Json

end CimSchema
