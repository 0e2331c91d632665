import CimSchema.Text.Blank
import CimSchema.Xml.Token

/-!
# Attributes and references

## Main definitions

* `Attribute`, `attributes` - the attributes of a tag.
* `expand` - a text with its references replaced.
* `escape` - a text in which markup characters are written as references.
* `entitiesOf?` - the entities that a document type declares.
-/

namespace CimSchema.Xml

/-- An attribute; references in its value are not yet replaced. -/
structure Attribute where
  name : List Char
  value : List Char
  deriving DecidableEq, Repr

/-- The attribute at the start of a text, and the text after it. -/
def attribute? (cs : List Char) : Option (Attribute × List Char) :=
  match (cs.dropWhile fun c => c ≠ '=' && !isBlank c).dropWhile isBlank with
  | '=' :: value =>
    match value.dropWhile isBlank with
    | quote :: value =>
      let name := cs.takeWhile fun c => c ≠ '=' && !isBlank c
      if name.isEmpty || !(quote = '"' || quote = '\'') then none
      else (Text.cutAt? quote value).map fun (value, rest) => (⟨name, value⟩, rest)
    | [] => none
  | _ => none

theorem length_of_attribute? {cs rest : List Char} {a : Attribute}
    (h : attribute? cs = some (a, rest)) : rest.length < cs.length := by
  rw [attribute?] at h
  split at h
  · rename_i value hv
    split at h
    · rename_i quote value' hq
      dsimp only at h
      split at h
      · simp at h
      · obtain ⟨⟨v, r⟩, hcut, hr⟩ := Option.map_eq_some_iff.1 h
        simp only [Prod.mk.injEq] at hr
        have h1 := Text.length_of_cutAt? hcut
        have h2 := length_of_dropWhile_eq_cons hq
        have h3 := length_of_dropWhile_eq_cons hv
        have h4 := (List.dropWhile_suffix (l := cs) fun c => c ≠ '=' && !isBlank c).length_le
        have h5 : r.length = rest.length := by rw [hr.2]
        omega
    · simp at h
  · simp at h

/-- The attributes in the text of a tag after its name, up to the first one that is not well
written, and whether there is no such one. -/
def attributes (cs : List Char) : List Attribute × Bool :=
  let text := cs.dropWhile isBlank
  if text.isEmpty then ([], true)
  else
    match h : attribute? text with
    | none => ([], false)
    | some (a, rest) =>
      have : rest.length < cs.length :=
        Nat.lt_of_lt_of_le (length_of_attribute? h) (List.dropWhile_suffix isBlank).length_le
      let (as, isComplete) := attributes rest
      (a :: as, isComplete)
termination_by cs.length

/-- The value of a list of digits in a base, or nothing if there is none or another character. -/
def digitsValue? (base : Nat) (cs : List Char) : Option Nat :=
  if cs.isEmpty then none
  else
    cs.foldlM (fun n c =>
      let digit :=
        if c.isDigit then c.toNat - '0'.toNat
        else if 'a' ≤ c && c ≤ 'f' then c.toNat - 'a'.toNat + 10
        else if 'A' ≤ c && c ≤ 'F' then c.toNat - 'A'.toNat + 10
        else base
      if digit < base then some (base * n + digit) else none) 0

/-- The character that a reference names by its number. -/
def numberedChar? (cs : List Char) : Option Char :=
  let number := match cs with
    | 'x' :: digits => digitsValue? 16 digits
    | digits => digitsValue? 10 digits
  number.bind fun n => if n ≠ 0 && n.isValidChar then some (Char.ofNat n) else none

/-- The entities of a document, the latest first. -/
abbrev Entities := List (List Char × List Char)

/-- The entities that need no declaration. -/
def standardEntities : Entities :=
  [("lt".toList, ['<']), ("gt".toList, ['>']), ("amp".toList, ['&']), ("apos".toList, ['\'']),
    ("quot".toList, ['"'])]

/-- What a reference stands for. -/
def referent? (entities : Entities) : List Char → Option (List Char)
  | '#' :: number => (numberedChar? number).map ([·])
  | name => standardEntities.lookup name <|> entities.lookup name

/-- A text with its references replaced, where `name` is the name, the last character first, of a
reference that is being read. -/
def expandFrom (entities : Entities) (name : Option (List Char)) : List Char → Option (List Char)
  | [] => if name.isNone then some [] else none
  | c :: cs =>
    match name with
    | none =>
      if c = '&' then expandFrom entities (some []) cs
      else (expandFrom entities none cs).map (c :: ·)
    | some name =>
      if c = ';' then do
        let value ← referent? entities name.reverse
        let rest ← expandFrom entities none cs
        return value ++ rest
      else if c = '&' then none
      else expandFrom entities (some (c :: name)) cs

/-- A text with its references replaced. -/
def expand (entities : Entities) (cs : List Char) : Option (List Char) :=
  expandFrom entities none cs

/-- One character as it is written in text. -/
def escapeChar (c : Char) : List Char :=
  if c = '<' then "&lt;".toList
  else if c = '>' then "&gt;".toList
  else if c = '&' then "&amp;".toList
  else if c = '\'' then "&apos;".toList
  else if c = '"' then "&quot;".toList
  else [c]

/-- A text with its markup characters written as references. -/
def escape (cs : List Char) : List Char :=
  cs.flatMap escapeChar

/-- Reads what stands after an opening angle bracket of a document type. Only declarations of
entities count, whose values stand in double quotes. -/
def entityOf? (entities : Entities) (cs : List Char) : Option Entities :=
  match "!ENTITY".toList.isPrefixOf? cs with
  | none => some entities
  | some cs => do
    let cs := match cs.dropWhile Text.isBlank with
      | '%' :: cs => cs
      | cs => cs
    let cs := cs.dropWhile Text.isBlank
    let name := cs.takeWhile (!isBlank ·)
    match (cs.drop name.length).dropWhile Text.isBlank with
    | '"' :: cs =>
      let (value, rest) ← Text.cutAt? '"' cs
      if (rest.dropWhile Text.isBlank).head? = some '>' then
        return (name, ← expand entities value) :: entities
      else none
    | _ => none

/-- The entities that a document type declares, on top of others. -/
def entitiesOf? (entities : Entities) (documentType : List Char) : Option Entities :=
  ((Text.splitOn '<' documentType).drop 1).foldlM entityOf? entities

end CimSchema.Xml
