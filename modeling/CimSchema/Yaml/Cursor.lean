/-!
# Places in a YAML text

## Main definitions

* `Cursor` - a place in a text: the characters after it, and its line and column.
* `Cursor.advance` - the place some characters further on.
* `isBlank`, `isBreak`, `endsWord` - classes of characters.
* `breaks` - the line breaks of a text, in their normal form.
-/

namespace CimSchema.Yaml

/-- Whether a space or a tab. -/
def isBlank (c : Char) : Bool :=
  c = ' ' || c = '\t'

/-- Whether a line break. -/
def isBreak (c : Char) : Bool :=
  c = '\n' || c = '\r' || c.toNat = 0x85 || c.toNat = 0x2028 || c.toNat = 0x2029

/-- Whether a blank or a line break. -/
def isSpace (c : Char) : Bool :=
  isBlank c || isBreak c

/-- Whether a letter, a digit, a hyphen or an underscore, all of them ASCII. -/
def isNameChar (c : Char) : Bool :=
  c.isAlphanum || c = '-' || c = '_'

/-- Whether the next character, if any, is a blank or a line break. -/
def endsWord : List Char → Bool
  | [] => true
  | c :: _ => isSpace c

/-- The line breaks of a text. Breaks of one line are written as line feeds. -/
def breaks : List Char → List Char
  | [] => []
  | '\r' :: '\n' :: cs => '\n' :: breaks cs
  | c :: cs =>
    if c = '\n' || c = '\r' || c.toNat = 0x85 then '\n' :: breaks cs
    else if isBreak c then c :: breaks cs
    else breaks cs

/-- Whether a line starts with the mark of a document's start or end. -/
def startsDocumentMark : List Char → Bool
  | '-' :: '-' :: '-' :: cs | '.' :: '.' :: '.' :: cs => endsWord cs
  | _ => false

/-- A place in a text. -/
structure Cursor where
  /-- The characters after the place. -/
  rest : List Char
  /-- The number of characters before the place. -/
  index : Nat := 0
  line : Nat := 0
  column : Nat := 0
  deriving DecidableEq, Repr

namespace Cursor

/-- The place after the next character. -/
def next (c : Cursor) : Cursor :=
  match c.rest with
  | [] => c
  | ch :: cs =>
    if isBreak ch then { rest := cs, index := c.index + 1, line := c.line + 1, column := 0 }
    else { rest := cs, index := c.index + 1, line := c.line, column := c.column + 1 }

/-- The place `n` characters further on. -/
def advance (c : Cursor) : Nat → Cursor
  | 0 => c
  | n + 1 => c.next.advance n

/-- The place after the next line break. -/
def skipBreak (c : Cursor) : Cursor :=
  match c.rest with
  | '\r' :: '\n' :: _ => c.advance 2
  | ch :: _ => if isBreak ch then c.next else c
  | [] => c

/-- The characters up to the first one that `p` does not hold of, and the place before it. -/
def span (c : Cursor) (p : Char → Bool) : List Char × Cursor :=
  let taken := c.rest.takeWhile p
  (taken, c.advance taken.length)

/-- The place after all characters that `p` holds of. -/
def skip (c : Cursor) (p : Char → Bool) : Cursor :=
  (c.span p).2

end Cursor

end CimSchema.Yaml
