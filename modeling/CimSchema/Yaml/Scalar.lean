import CimSchema.Yaml.Cursor

/-!
# Scalars of a YAML text

A scalar is written plainly, in quotes, or as a block of lines. Line breaks within plain and quoted
scalars are folded: a single one becomes a space, and of several the first one is dropped.

## Main definitions

* `ScalarStyle` - the ways to write a scalar.
* `gapText` - the text that stands for blanks and line breaks between words.
* `plainScalar?`, `quotedScalar?`, `blockScalar?` - a scalar that is written plainly, in quotes or as
  a block; each gives the text and the place after it.
-/

namespace CimSchema.Yaml

/-- The ways to write a scalar. -/
inductive ScalarStyle where
  | plain
  | quoted
  /-- A block that keeps its line breaks. -/
  | literal
  /-- A block whose lines are joined. -/
  | folded
  deriving DecidableEq, Repr

/-- The text that stands for blanks and line breaks between two words. -/
def gapText (gap : List Char) : List Char :=
  match breaks gap with
  | [] => gap
  | ['\n'] => [' ']
  | '\n' :: more => more
  | more => more

/-! ### Plain scalars -/

/-- Where a run of characters of a plain scalar stops. -/
inductive WordEnd where
  | stop
  | faulty
  deriving DecidableEq, Repr

/-- Whether a character has a meaning in a flow collection. -/
def isFlowIndicator (c : Char) : Bool :=
  c = ',' || c = '[' || c = ']' || c = '\x7b' || c = '\x7d'

/-- The characters up to the end of a word of a plain scalar, and whether the word ends well. -/
def plainWord (inFlow : Bool) : List Char → List Char × WordEnd
  | [] => ([], .stop)
  | c :: cs =>
    if isSpace c || (c = ':' && endsWord cs) || (inFlow && isFlowIndicator c) then ([], .stop)
    else if inFlow && c = ':' && cs.head?.any (fun d => isFlowIndicator d || d = '?') then
      ([], .faulty)
    else
      let (word, ending) := plainWord inFlow cs
      (c :: word, ending)

/-- Whether a tab stands where only spaces may indent a line, in blanks and breaks from a column
on. -/
def hasTabIndent (indent column : Nat) (afterBreak : Bool) : List Char → Bool
  | [] => false
  | c :: cs =>
    if isBreak c then hasTabIndent indent 0 true cs
    else (afterBreak && c = '\t' && column < indent) || hasTabIndent indent (column + 1) afterBreak cs

/-- Reads a plain scalar on from a place, where `gap` stands between it and the text so far. Gives
the text, the place after it, and whether the last line break belongs to no scalar. -/
def plainFrom? (inFlow : Bool) (indent : Nat) (text gap : List Char) (c : Cursor) :
    Option (List Char × Cursor × Bool) :=
  let done := some (text, c, gap.any isBreak)
  if (c.column = 0 && startsDocumentMark c.rest) || c.rest.head? = some '#' then done
  else
    match plainWord inFlow c.rest with
    | (_, .faulty) => none
    | (word, .stop) =>
      let c' := c.advance word.length
      let text' := if word.isEmpty then text else text ++ gapText gap ++ word
      let (gap', c'') := c'.span isSpace
      let left := if word.isEmpty then gap else []
      if gap'.isEmpty then some (text', c', left.any isBreak)
      else if hasTabIndent indent c'.column (left.any isBreak) gap' then none
      else if !inFlow && gap'.any isBreak && c''.column < indent then
        some (text', c'', true)
      else if c''.rest.length < c.rest.length then plainFrom? inFlow indent text' (left ++ gap') c''
      else none
termination_by c.rest.length

/-- A plain scalar whose further lines stand at least at the column `indent`. -/
def plainScalar? (inFlow : Bool) (indent : Nat) (c : Cursor) :
    Option (List Char × Cursor × Bool) :=
  plainFrom? inFlow indent [] [] c

/-! ### Quoted scalars -/

/-- The value of hexadecimal digits. -/
def hexValue? (digits : List Char) : Option Nat :=
  digits.foldlM (fun n d =>
    if d.isDigit then some (16 * n + (d.toNat - '0'.toNat))
    else if 'a' ≤ d && d ≤ 'f' then some (16 * n + (d.toNat - 'a'.toNat + 10))
    else if 'A' ≤ d && d ≤ 'F' then some (16 * n + (d.toNat - 'A'.toNat + 10))
    else none) 0

/-- The character that `count` digits give, and the number of digits. -/
def hexEscape? (count : Nat) (cs : List Char) : Option (Char × Nat) := do
  let digits := cs.take count
  let n ← hexValue? digits
  if digits.length = count && n.isValidChar then some (Char.ofNat n, count + 1) else none

/-- The character that stands for what follows a backslash, and the number of characters used. -/
def escape? : List Char → Option (Char × Nat)
  | [] => none
  | c :: cs =>
    match c with
    | '0' => some ('\x00', 1)
    | 'a' => some ('\x07', 1)
    | 'b' => some ('\x08', 1)
    | 't' | '\t' => some ('\t', 1)
    | 'n' => some ('\n', 1)
    | 'v' => some ('\x0b', 1)
    | 'f' => some ('\x0c', 1)
    | 'r' => some ('\r', 1)
    | 'e' => some ('\x1b', 1)
    | ' ' | '"' | '/' | '\\' => some (c, 1)
    | 'N' => some ('\u0085', 1)
    | '_' => some ('\u00a0', 1)
    | 'L' => some ('\u2028', 1)
    | 'P' => some ('\u2029', 1)
    | 'x' => hexEscape? 2 cs
    | 'u' => hexEscape? 4 cs
    | 'U' => hexEscape? 8 cs
    | _ => none

/-- What the next characters of a quoted scalar are. -/
inductive QuotedPart where
  | quote
  /-- Some text, and the place after it. -/
  | text (text : List Char) (c : Cursor)
  | faulty

/-- What stands next in a scalar with quotes `quote`. -/
def quotedPart (quote : Char) (c : Cursor) : QuotedPart :=
  if c.column = 0 && startsDocumentMark c.rest then .faulty
  else
    match c.rest with
    | [] => .faulty
    | ch :: cs =>
      if ch = quote then
        if quote = '\'' && cs.head? = some quote then .text [quote] (c.advance 2) else .quote
      else if quote = '"' && ch = '\\' then
        if cs.head?.any isBreak then
          let (gap, c) := c.next.skipBreak.span isSpace
          .text (breaks gap) c
        else
          match escape? cs with
          | some (d, n) => .text [d] (c.advance (n + 1))
          | none => .faulty
      else if isSpace ch then
        let (gap, c) := c.span isSpace
        .text (gapText gap) c
      else .text [ch] c.next

/-- Reads a quoted scalar on from a place; the text so far stands in reverse. -/
def quotedFrom? (quote : Char) (text : List Char) (c : Cursor) : Option (List Char × Cursor) :=
  match quotedPart quote c with
  | .quote => some (text.reverse, c.next)
  | .faulty => none
  | .text more c' =>
    if c'.rest.length < c.rest.length then quotedFrom? quote (more.reverse ++ text) c' else none
termination_by c.rest.length

/-- A scalar that starts with a quote. -/
def quotedScalar? (quote : Char) (c : Cursor) : Option (List Char × Cursor) :=
  quotedFrom? quote [] c.next

/-! ### Block scalars -/

/-- What becomes of the line breaks at the end of a block. -/
inductive Chomping where
  | strip
  | clip
  | keep
  deriving DecidableEq, Repr

/-- The chomping that a character stands for. -/
def Chomping.ofChar? (c : Char) : Option Chomping :=
  if c = '-' then some strip else if c = '+' then some keep else none

/-- A digit from one up. -/
def indentDigit? (c : Char) : Option Nat :=
  if c.isDigit then some (c.toNat - '0'.toNat) else none

/-- The chomping and the indentation that the head of a block states, and the number of characters
used. -/
def blockHead (cs : List Char) : Chomping × Option Nat × Nat :=
  match cs with
  | [] => (.clip, none, 0)
  | c :: rest =>
    match Chomping.ofChar? c, indentDigit? c with
    | some chomping, _ =>
      match rest.head?.bind indentDigit? with
      | some n => (chomping, some n, 2)
      | none => (chomping, none, 1)
    | none, some n =>
      match rest.head?.bind Chomping.ofChar? with
      | some chomping => (chomping, some n, 2)
      | none => (.clip, some n, 1)
    | none, none => (.clip, none, 0)

/-- The line breaks before the next line of a block with content. -/
structure EmptyLines where
  breaks : List Char
  /-- The greatest column at which one of the lines ends. -/
  widest : Nat
  place : Cursor

/-- Skips empty lines and the indentation of the first line with content. -/
def emptyLines? (indent : Option Nat) (found : List Char) (widest : Nat) (c : Cursor) :
    Option EmptyLines :=
  let spaces := (c.rest.takeWhile (· = ' ')).length
  let c' := c.advance (match indent with
    | none => spaces
    | some n => min spaces (n - c.column))
  let widest := max widest c'.column
  match c'.rest with
  | [] => some ⟨found, widest, c'⟩
  | ch :: _ =>
    if isBreak ch then
      let after := c'.skipBreak
      let these := breaks (c'.rest.take (c'.rest.length - after.rest.length))
      if after.rest.length < c.rest.length then emptyLines? indent (found ++ these) widest after
      else none
    else if ch = '\t' && (match indent with
        | none => true
        | some n => c'.column < n) then none
    else some ⟨found, widest, c'⟩
termination_by c.rest.length

/-- What is known of a block up to some line. -/
structure Block where
  text : List Char := []
  /-- The break of the last line. -/
  lineBreak : List Char := []
  /-- The breaks of the empty lines after it. -/
  emptyBreaks : List Char := []
  /-- Whether the last line started with a blank. -/
  startsBlank : Bool := false

/-- Reads the lines of a block. -/
def blockLines? (isLiteral : Bool) (indent : Nat) (b : Block) (c : Cursor) :
    Option (Block × Cursor) :=
  if c.column ≠ indent || c.rest.isEmpty then some (b, c)
  else
    let startsBlank := c.rest.head?.any isBlank
    let joint :=
      if !isLiteral && b.lineBreak = ['\n'] && !b.startsBlank && !startsBlank then
        if b.emptyBreaks.isEmpty then [' '] else []
      else b.lineBreak
    let (line, c') := c.span (!isBreak ·)
    let after := c'.skipBreak
    let lineBreak := breaks (c'.rest.take (c'.rest.length - after.rest.length))
    match emptyLines? (some indent) [] 0 after with
    | none => none
    | some e =>
      if e.place.rest.length < c.rest.length then
        blockLines? isLiteral indent
          ⟨b.text ++ joint ++ b.emptyBreaks ++ line, lineBreak, e.breaks, startsBlank⟩ e.place
      else none
termination_by c.rest.length

/-- A block scalar, from its indicator on, within lines indented by `outer`, if there are some. -/
def blockScalar? (isLiteral : Bool) (outer : Option Nat) (c : Cursor) :
    Option (List Char × Cursor) := do
  let (chomping, increment, used) := blockHead c.next.rest
  if increment = some 0 then none
  let c := (c.next.advance used).skip isBlank
  let c := if c.rest.head? = some '#' then c.skip (!isBreak ·) else c
  if !c.rest.isEmpty && !c.rest.head?.any isBreak then none
  let c := c.skipBreak
  let least := match outer with
    | none => 0
    | some n => n + 1
  let indent := increment.map fun n => outer.getD 0 + n
  let e ← emptyLines? indent [] 0 c
  let indent := indent.getD (max 1 (max least e.widest))
  let (b, c) ← blockLines? isLiteral indent { emptyBreaks := e.breaks } e.place
  let tail := match chomping with
    | .strip => []
    | .clip => b.lineBreak
    | .keep => b.lineBreak ++ b.emptyBreaks
  return (b.text ++ tail, c)

end CimSchema.Yaml
