import CimSchema.Yaml.Scalar

/-!
# Tokens of a YAML text

A token is an indicator, a scalar or a name. Indentation is turned into tokens of its own, and a
colon makes a key of what stands before it on its line.

## Main definitions

* `Token` - the tokens.
* `Scanner` - what is known of a text up to some place.
* `tokens?` - the tokens of a text.
-/

namespace CimSchema.Yaml

/-- A token of a text. -/
inductive Token where
  | version (major minor : List Char)
  /-- A handle, and the start of the tags that it stands for. -/
  | tagHandle (handle start : List Char)
  | documentStart
  | documentEnd
  | blockSequenceStart
  | blockMappingStart
  | blockEnd
  | flowSequenceStart
  | flowSequenceEnd
  | flowMappingStart
  | flowMappingEnd
  | blockEntry
  | flowEntry
  | key
  | value
  | alias (name : List Char)
  | anchor (name : List Char)
  | tag (handle suffix : List Char)
  | scalar (text : List Char) (style : ScalarStyle)
  deriving DecidableEq, Repr

/-- A place where a key may have started. -/
structure KeyStart where
  /-- Whether nothing but a key may stand there. -/
  isRequired : Bool
  /-- The number of tokens before it. -/
  count : Nat
  place : Cursor

/-- Whether a key start is too far away from a place: on another line, or too many characters
before. -/
def KeyStart.isStale (k : KeyStart) (c : Cursor) : Bool :=
  k.place.line < c.line || k.place.index + 1024 < c.index

/-- What is known of a text up to some place. -/
structure Scanner where
  place : Cursor
  tokens : List Token := []
  /-- The column of the innermost block, if there is one. -/
  indent : Option Nat := none
  /-- The columns of the blocks around it. -/
  outer : List (Option Nat) := []
  /-- Whether a key may start at the place. -/
  allowsKey : Bool := true
  /-- Where a key may have started in the innermost collection. -/
  keyStart : Option KeyStart := none
  /-- The same for each flow collection's surroundings. -/
  outerStarts : List (Option KeyStart) := []

namespace Scanner

/-- Whether the place is within a flow collection. -/
def inFlow (s : Scanner) : Bool :=
  !s.outerStarts.isEmpty

/-- Adds a token at the end. -/
def emit (s : Scanner) (t : Token) : Scanner :=
  { s with tokens := s.tokens ++ [t] }

/-- Goes on by `n` characters. -/
def advance (s : Scanner) (n : Nat) : Scanner :=
  { s with place := s.place.advance n }

/-- Forgets where a key may have started. -/
def dropKeyStart? (s : Scanner) : Option Scanner :=
  if s.keyStart.any (·.isRequired) then none else some { s with keyStart := none }

/-- Notes that a key may start at the place. -/
def markKeyStart? (s : Scanner) : Option Scanner := do
  if s.allowsKey then
    let s ← s.dropKeyStart?
    let isRequired := !s.inFlow && s.indent = some s.place.column
    return { s with keyStart := some ⟨isRequired, s.tokens.length, s.place⟩ }
  else return s

/-- Forgets a key start that is too far away. -/
def dropStale? (c : Cursor) (k : Option KeyStart) : Option (Option KeyStart) :=
  match k with
  | none => some none
  | some k => if !k.isStale c then some (some k) else if k.isRequired then none else some none

/-- Forgets all key starts that are too far away. -/
def dropStaleKeys? (s : Scanner) : Option Scanner := do
  return { s with
    keyStart := ← dropStale? s.place s.keyStart
    outerStarts := ← s.outerStarts.mapM (dropStale? s.place) }

/-- Opens a block at a column, unless the innermost one stands there or further right; its start
goes before the tokens from `count` on. -/
def openBlock (s : Scanner) (column count : Nat) (start : Token) : Scanner :=
  if s.inFlow || s.indent.any (column ≤ ·) then s
  else
    { s with
      indent := some column
      outer := s.indent :: s.outer
      tokens := s.tokens.take count ++ start :: s.tokens.drop count }

/-- Closes the blocks that stand further right than a column, given with the columns around. -/
def closeBlocksFrom (column : Option Nat) (indent : Option Nat) :
    List (Option Nat) → Option Nat × List (Option Nat) × List Token
  | [] => (indent, [], [])
  | around :: outer =>
    match indent with
    | none => (indent, around :: outer, [])
    | some n =>
      if column.any (n ≤ ·) then (indent, around :: outer, [])
      else
        let (indent, outer, ends) := closeBlocksFrom column around outer
        (indent, outer, .blockEnd :: ends)

/-- Closes the blocks that stand further right than a column, or all of them. -/
def closeBlocks (s : Scanner) (column : Option Nat) : Scanner :=
  if s.inFlow then s
  else
    let (indent, outer, ends) := closeBlocksFrom column s.indent s.outer
    { s with indent, outer, tokens := s.tokens ++ ends }

/-- The place after the mark that tells the order of bytes, if a text starts with it. -/
def skipByteOrderMark (c : Cursor) : Cursor :=
  if c.index = 0 && c.rest.head?.any (·.toNat = 0xFEFF) then c.next else c

/-- Skips blanks, comments and line breaks. -/
def skipToToken (s : Scanner) : Scanner :=
  let c := (skipByteOrderMark s.place).skip fun ch => ch = ' ' || ((s.inFlow || !s.allowsKey) && ch = '\t')
  let c := if c.rest.head? = some '#' then c.skip (!isBreak ·) else c
  if c.rest.head?.any isBreak then
    let c := c.skipBreak
    let s' := { s with place := c, allowsKey := s.allowsKey || !s.inFlow }
    if c.rest.length < s.place.rest.length then s'.skipToToken else s'
  else { s with place := c }
termination_by s.place.rest.length

/-- Starts a flow collection. -/
def openFlow? (s : Scanner) (t : Token) : Option Scanner := do
  let s ← s.markKeyStart?
  let s := { s with outerStarts := s.keyStart :: s.outerStarts, keyStart := none, allowsKey := true }
  return (s.emit t).advance 1

/-- Ends a flow collection. -/
def closeFlow? (s : Scanner) (t : Token) : Option Scanner := do
  let s ← s.dropKeyStart?
  let s := match s.outerStarts with
    | [] => s
    | k :: rest => { s with keyStart := k, outerStarts := rest }
  return ({ s with allowsKey := false }.emit t).advance 1

/-- Reads the comma of a flow collection. -/
def flowEntry? (s : Scanner) : Option Scanner := do
  let s ← s.dropKeyStart?
  return ({ s with allowsKey := true }.emit .flowEntry).advance 1

/-- Opens a block for an entry or a key without a start of its own. -/
def openBlockHere? (s : Scanner) (start : Token) : Option Scanner :=
  if s.inFlow then some s
  else if s.allowsKey then some (s.openBlock s.place.column s.tokens.length start)
  else none

/-- Reads the hyphen of an entry. -/
def blockEntry? (s : Scanner) : Option Scanner := do
  let s ← (← s.openBlockHere? .blockSequenceStart).dropKeyStart?
  return ({ s with allowsKey := true }.emit .blockEntry).advance 1

/-- Reads the question mark of a key. -/
def key? (s : Scanner) : Option Scanner := do
  let s ← (← s.openBlockHere? .blockMappingStart).dropKeyStart?
  return ({ s with allowsKey := !s.inFlow }.emit .key).advance 1

/-- Reads the colon of a value. -/
def value? (s : Scanner) : Option Scanner := do
  match s.keyStart with
  | some k =>
    let s := { s with tokens := s.tokens.take k.count ++ Token.key :: s.tokens.drop k.count }
    let s := s.openBlock k.place.column k.count .blockMappingStart
    return ({ s with keyStart := none, allowsKey := false }.emit .value).advance 1
  | none =>
    let s ← s.openBlockHere? .blockMappingStart
    return ({ s with allowsKey := !s.inFlow }.emit .value).advance 1

/-- Reads the name of an anchor or alias. -/
def name? (s : Scanner) (t : List Char → Token) : Option Scanner := do
  let s ← s.markKeyStart?
  let (name, c) := s.place.next.span isNameChar
  let isEnd := endsWord c.rest || c.rest.head?.any ("?:,]\x7d%@`".toList.contains ·)
  if name.isEmpty || !isEnd then none
  else return { s with place := c, allowsKey := false }.emit (t name)

/-- Whether a character may stand in a tag. -/
def isTagChar (c : Char) : Bool :=
  isNameChar c || ";/?:@&=+$.%!~*'()".toList.contains c

/-- Replaces octets that are written as a percent sign and two digits; together they have to make
up characters. -/
def tagText? (cs : List Char) : Option (List Char) :=
  if cs.contains '%' then
    let rec octets : List Char → Option (List UInt8)
      | [] => some []
      | '%' :: a :: b :: cs => do
        let n ← hexValue? [a, b]
        return n.toUInt8 :: (← octets cs)
      | c :: cs => do
        if c = '%' then none else return (String.singleton c).toUTF8.toList ++ (← octets cs)
    (octets cs).bind fun bytes => (String.fromUTF8? ⟨bytes.toArray⟩).map (·.toList)
  else some cs

/-- Reads a tag. -/
def tag? (s : Scanner) : Option Scanner := do
  let s ← s.markKeyStart?
  let s := { s with allowsKey := false }
  match s.place.rest with
  | '!' :: '<' :: _ =>
    let (uri, c) := (s.place.advance 2).span fun ch => isTagChar ch || ",[]".toList.contains ch
    if uri.isEmpty || c.rest.head? ≠ some '>' then none
    else finish { s with place := c.next } [] (← tagText? uri)
  | _ =>
    let (word, c) := s.place.next.span isNameChar
    if c.rest.head? = some '!' then
      let (suffix, c') := c.next.span isTagChar
      if suffix.isEmpty then none
      else finish { s with place := c' } ('!' :: word ++ ['!']) (← tagText? suffix)
    else
      let (suffix, c') := s.place.next.span isTagChar
      if suffix.isEmpty then finish { s with place := c' } [] ['!']
      else finish { s with place := c' } ['!'] (← tagText? suffix)
where
  /-- Adds the tag if it ends where a word may end. -/
  finish (s : Scanner) (handle suffix : List Char) : Option Scanner :=
    if endsWord s.place.rest || (s.inFlow && s.place.rest.head? = some ',') then
      some (s.emit (.tag handle suffix))
    else none

/-- Reads a scalar that is written as a block. -/
def block? (s : Scanner) (isLiteral : Bool) : Option Scanner := do
  let s ← s.dropKeyStart?
  let (text, c) ← blockScalar? isLiteral s.indent s.place
  return { s with place := c, allowsKey := true }.emit (.scalar text (if isLiteral then .literal else .folded))

/-- Reads a scalar in quotes. -/
def quoted? (s : Scanner) (quote : Char) : Option Scanner := do
  let s ← s.markKeyStart?
  let (text, c) ← quotedScalar? quote s.place
  return { s with place := c, allowsKey := false }.emit (.scalar text .quoted)

/-- Reads a plain scalar. -/
def plain? (s : Scanner) : Option Scanner := do
  let s ← s.markKeyStart?
  let least := match s.indent with
    | none => 0
    | some n => n + 1
  let (text, c, afterBreak) ← plainScalar? s.inFlow least s.place
  return { s with place := c, allowsKey := afterBreak }.emit (.scalar text .plain)

/-- Reads a directive, which ends with its line. -/
def directive? (s : Scanner) : Option Scanner := do
  let s ← (s.closeBlocks none).dropKeyStart?
  let (name, c) := s.place.next.span isNameChar
  if !endsWord c.rest then none
  else
    let (t, c) ← (if name = "YAML".toList then
      let (major, c) := (c.skip isBlank).span Char.isDigit
      let (minor, c') := c.next.span Char.isDigit
      if major.isEmpty || minor.isEmpty || c.rest.head? ≠ some '.' then none
      else some (Token.version major minor, c')
    else if name = "TAG".toList then
      let (handle, c) := (c.skip isBlank).span fun ch => ch = '!' || isNameChar ch
      let (start, c') := (c.skip isBlank).span fun ch => isTagChar ch || ",[]".toList.contains ch
      let isHandle := handle = ['!']
        || (handle.head? = some '!' && handle.getLast? = some '!' && 2 ≤ handle.length)
      if !isHandle || start.isEmpty || !c.rest.head?.any isBlank || !endsWord c'.rest then none
      else (tagText? start).map fun start => (.tagHandle handle start, c')
    else none : Option (Token × Cursor))
    let c := c.skip isBlank
    let c := if c.rest.head? = some '#' then c.skip (!isBreak ·) else c
    if !c.rest.isEmpty && !c.rest.head?.any isBreak then none
    else return { s with place := c.skipBreak, allowsKey := false }.emit t

/-- Reads the mark of a document's start or end. -/
def documentMark? (s : Scanner) (t : Token) : Option Scanner := do
  let s ← (s.closeBlocks none).dropKeyStart?
  return ({ s with allowsKey := false }.emit t).advance 3

/-- Reads the next token, whose first character is `ch` with `cs` after it. -/
def token? (s : Scanner) (ch : Char) (cs : List Char) : Option Scanner :=
  if s.place.column = 0 && ch = '%' then s.directive?
  else if s.place.column = 0 && startsDocumentMark (ch :: cs) then
    s.documentMark? (if ch = '-' then .documentStart else .documentEnd)
  else if ch = '[' then s.openFlow? .flowSequenceStart
  else if ch = '\x7b' then s.openFlow? .flowMappingStart
  else if ch = ']' then s.closeFlow? .flowSequenceEnd
  else if ch = '\x7d' then s.closeFlow? .flowMappingEnd
  else if ch = ',' then s.flowEntry?
  else if ch = '-' && endsWord cs then s.blockEntry?
  else if ch = '?' && (s.inFlow || endsWord cs) then s.key?
  else if ch = ':' && (s.inFlow || endsWord cs) then s.value?
  else if ch = '*' then s.name? .alias
  else if ch = '&' then s.name? .anchor
  else if ch = '!' then s.tag?
  else if ch = '|' && !s.inFlow then s.block? true
  else if ch = '>' && !s.inFlow then s.block? false
  else if ch = '\'' || ch = '"' then s.quoted? ch
  else if isSpace ch || "#|>%@`".toList.contains ch then none
  else s.plain?

/-- Reads all tokens. -/
def run? (s : Scanner) : Option (List Token) :=
  match s.skipToToken.dropStaleKeys? with
  | none => none
  | some here =>
    match here.place.rest with
    | [] => ((here.closeBlocks none).dropKeyStart?).map (·.tokens)
    | ch :: cs =>
      match (here.closeBlocks (some here.place.column)).token? ch cs with
      | none => none
      | some after =>
        if after.place.rest.length < s.place.rest.length then after.run? else none
termination_by s.place.rest.length

end Scanner

/-- Whether a character may stand in a text. -/
def isAllowed (c : Char) : Bool :=
  let n := c.toNat
  n = 9 || n = 10 || n = 13 || (0x20 ≤ n && n ≤ 0x7E) || n = 0x85 || (0xA0 ≤ n && n ≤ 0xD7FF)
    || (0xE000 ≤ n && n ≤ 0xFFFD) || 0x10000 ≤ n

/-- The tokens of a text. -/
def tokens? (s : String) : Option (List Token) :=
  let cs := s.toList
  if cs.all isAllowed then Scanner.run? { place := { rest := cs } } else none

end CimSchema.Yaml
