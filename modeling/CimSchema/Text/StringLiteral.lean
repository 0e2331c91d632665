/-!
# Escapes of string literals

Between the double quotes of a literal, five characters are written with a backslash: the backslash
itself, the double quote, the line feed, the carriage return and the tab.

## Main definitions

* `escapeChar`, `escape` - the written form.
* `unescape` - reading: the text that a written form stands for.
* `quote` - a literal with its quotes.
-/

namespace CimSchema.Text

/-- One character as it stands between the quotes of a literal. -/
def escapeChar (c : Char) : List Char :=
  if c = '\\' then ['\\', '\\']
  else if c = '"' then ['\\', '"']
  else if c = '\n' then ['\\', 'n']
  else if c = '\r' then ['\\', 'r']
  else if c = '\t' then ['\\', 't']
  else [c]

/-- A text as it stands between the quotes of a literal. -/
def escapeList (cs : List Char) : List Char :=
  cs.flatMap escapeChar

/-- A text as it stands between the quotes of a literal. -/
def escape (s : String) : String :=
  String.ofList (escapeList s.toList)

/-- Reads what stands between the quotes of a literal. An escape other than the five, a backslash
at the end and a bare double quote are refused. -/
def unescapeList : List Char → Option (List Char)
  | [] => some []
  | '\\' :: '\\' :: cs => (unescapeList cs).map ('\\' :: ·)
  | '\\' :: '"' :: cs => (unescapeList cs).map ('"' :: ·)
  | '\\' :: 'n' :: cs => (unescapeList cs).map ('\n' :: ·)
  | '\\' :: 'r' :: cs => (unescapeList cs).map ('\r' :: ·)
  | '\\' :: 't' :: cs => (unescapeList cs).map ('\t' :: ·)
  | '\\' :: _ => none
  | '"' :: _ => none
  | c :: cs => (unescapeList cs).map (c :: ·)

/-- One character between the quotes of a literal that escapes the backslash and the double quote
alone. -/
def escapeQuoteChar (c : Char) : List Char :=
  if c = '\\' then ['\\', '\\']
  else if c = '"' then ['\\', '"']
  else [c]

/-- A literal that escapes the backslash and the double quote alone. -/
def quoteLine (s : String) : String :=
  String.ofList ('"' :: (s.toList.flatMap escapeQuoteChar ++ ['"']))

/-- A literal, its quotes included. -/
def quote (s : String) : String :=
  String.ofList ('"' :: (escapeList s.toList ++ ['"']))

end CimSchema.Text
