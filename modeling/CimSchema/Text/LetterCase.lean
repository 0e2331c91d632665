import CimSchema.Text.Grapheme
import CimSchema.Text.LetterCase.Table

/-!
# Upper and lower case, and names in upper snake case

## Main definitions

* `upperChar`, `lowerChar` - the full Unicode case mappings of a character.
* `isLowerLetter` - letters with an upper-case form of their own, title-case letters left out.
* `capitalize` - a text with its first character in upper case.
* `asciiLower`, `sameAscii` - case mapping and comparison on ASCII letters only.
* `nameWords`, `upperSnake` - the words of a name such as `ACLineSegment`, and `AC_LINE_SEGMENT`.
-/

namespace CimSchema.Text

/-- The upper-case form of `c`. -/
def upperChar (c : Char) : List Char :=
  let n := c.toNat
  match upperLong.lookup n with
  | some image => image.map Char.ofNat
  | none =>
    match upperRuns.findSome? (·.image? n) with
    | some image => [Char.ofNat image]
    | none => [c]

/-- The lower-case form of `c`. Only the dotted capital I has a form of two characters. -/
def lowerChar (c : Char) : List Char :=
  let n := c.toNat
  if n = 0x130 then ['i', Char.ofNat 0x307]
  else
    match lowerRuns.findSome? (·.image? n) with
    | some image => [Char.ofNat image]
    | none => [c]

/-- Whether `c` has an upper-case form of its own and is not a title-case letter. -/
def isLowerLetter (c : Char) : Bool :=
  upperChar c != [c] && !inRanges titleRanges c.toNat

/-- `s` with its first character in upper case. -/
def capitalize (s : String) : String :=
  match s.toList with
  | [] => ""
  | c :: cs => String.ofList (upperChar c ++ cs)

/-- `s` in upper case. -/
def upper (s : List Char) : List Char :=
  s.flatMap upperChar

/-- `s` in lower case, on letters of ASCII only. -/
def asciiLower (s : String) : String :=
  String.ofList (s.toList.map Char.toLower)

/-- Whether two texts differ at most in the case of ASCII letters. -/
def sameAscii (s t : String) : Bool :=
  asciiLower s == asciiLower t

/-- What the cutting of a name into words looks at in one cluster. -/
inductive NameSign where
  /-- Underscore, hyphen or space: between words, and in none of them. -/
  | separator
  | upper
  | lower
  | digit
  | other
  deriving DecidableEq, Repr

/-- The sign that a cluster is. A letter counts as upper or lower only if the two cases differ. -/
def nameSign (g : List Char) : NameSign :=
  if g == ['_'] || g == ['-'] || g == [' '] then .separator
  else if g.all Char.isDigit then .digit
  else
    let up := g.flatMap upperChar
    let low := g.flatMap lowerChar
    if up == low then .other
    else if g == up then .upper
    else if g == low then .lower
    else .other

/-- Whether a word ends between two neighbours: before a capital or a digit that follows a small
letter, between digits and letters, and before the last of several capitals when a small letter
`next` follows it. -/
def wordEnds (left right : NameSign) (next : Option NameSign) : Bool :=
  match left, right with
  | .lower, .upper => true
  | .lower, .digit => true
  | .upper, .digit => true
  | .digit, .upper => true
  | .digit, .lower => true
  | .upper, .upper => next == some .lower
  | _, _ => false

/-- Adds a cluster in front of the words that start right after it. -/
def consWord (joined : Bool) (g : List Char) : List (List Char) → List (List Char)
  | [] => [g]
  | w :: ws => if joined then (g ++ w) :: ws else g :: w :: ws

/-- The words of a list of clusters; a word that would be empty is left out. -/
def clusterWords : List (List Char) → List (List Char)
  | [] => []
  | g :: gs =>
    match nameSign g with
    | .separator => clusterWords gs
    | left =>
      match gs with
      | [] => [g]
      | h :: rest =>
        let right := nameSign h
        let joined := right != .separator && !wordEnds left right (rest.head?.map nameSign)
        consWord joined g (clusterWords gs)

/-- The words of a name. -/
def nameWords (s : String) : List String :=
  (clusterWords (graphemes s.toList)).map String.ofList

/-- A name in upper snake case, such as `AC_LINE_SEGMENT` for `ACLineSegment`. -/
def upperSnake (s : String) : String :=
  "_".intercalate ((nameWords s).map fun w => String.ofList (upper w.toList))

end CimSchema.Text
